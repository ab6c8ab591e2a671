import Flowmeter.Ranked

/-! Finite maps kept in key order.

The entries are a list whose keys ascend strictly, so a map is determined by its
look-ups (`ext`) and its entries come out in key order. Every change goes through
`update`, and `find?_update` says what it does to a look-up. -/
namespace Flowmeter

/-- A finite map whose entries stand in strictly ascending key order. -/
structure OrderedMap (κ ν : Type) [Ranked κ] where
  entries : List (κ × ν)
  ascending : entries.Pairwise fun a b => rank a.1 < rank b.1

namespace OrderedMap

variable {κ ν : Type} [Ranked κ]

/-- The list with `change` applied to what stands under `key`, at its place in the order. -/
def place (key : κ) (change : Option ν → ν) : List (κ × ν) → List (κ × ν)
  | [] => [(key, change none)]
  | entry :: rest =>
    if rank key < rank entry.1 then (key, change none) :: entry :: rest
    else if rank key = rank entry.1 then (entry.1, change (some entry.2)) :: rest
    else entry :: place key change rest

theorem rank_mem_place {key : κ} {change : Option ν → ν} {entries : List (κ × ν)} {entry : κ × ν}
    (h : entry ∈ place key change entries) :
    rank entry.1 = rank key ∨ ∃ e ∈ entries, rank e.1 = rank entry.1 := by
  induction entries with
  | nil => simp only [place, List.mem_singleton] at h; exact .inl (h ▸ rfl)
  | cons first rest ih =>
    unfold place at h
    split at h
    · rcases List.mem_cons.1 h with rfl | h
      · exact .inl rfl
      · exact .inr ⟨entry, h, rfl⟩
    · split at h
      · rcases List.mem_cons.1 h with rfl | h
        · exact .inr ⟨first, List.mem_cons_self .., rfl⟩
        · exact .inr ⟨entry, List.mem_cons_of_mem _ h, rfl⟩
      · rcases List.mem_cons.1 h with rfl | h
        · exact .inr ⟨entry, List.mem_cons_self .., rfl⟩
        · rcases ih h with h | ⟨e, he, hr⟩
          · exact .inl h
          · exact .inr ⟨e, List.mem_cons_of_mem _ he, hr⟩

theorem ascending_place (key : κ) (change : Option ν → ν) {entries : List (κ × ν)}
    (h : entries.Pairwise fun a b => rank a.1 < rank b.1) :
    (place key change entries).Pairwise fun a b => rank a.1 < rank b.1 := by
  induction entries with
  | nil => simp [place]
  | cons first rest ih =>
    have hfirst := List.pairwise_cons.1 h
    unfold place
    split
    · rename_i hlt
      refine List.pairwise_cons.2 ⟨fun e he => ?_, h⟩
      rcases List.mem_cons.1 he with rfl | he
      · exact hlt
      · exact Nat.lt_trans hlt (hfirst.1 e he)
    · split
      · exact List.pairwise_cons.2 ⟨hfirst.1, hfirst.2⟩
      · rename_i hnlt hne
        refine List.pairwise_cons.2 ⟨fun e he => ?_, ih hfirst.2⟩
        rcases rank_mem_place he with hr | ⟨e', he', hr⟩
        · show rank first.1 < rank e.1
          omega
        · exact hr ▸ hfirst.1 e' he'

/-- The map without entries. -/
def empty : OrderedMap κ ν := ⟨[], .nil⟩

instance : Inhabited (OrderedMap κ ν) := ⟨empty⟩

/-- What stands under `key`. -/
def find? (map : OrderedMap κ ν) (key : κ) : Option ν :=
  (map.entries.find? fun entry => rank entry.1 = rank key).map Prod.snd

/-- Whether something stands under `key`. -/
def contains (map : OrderedMap κ ν) (key : κ) : Bool := (map.find? key).isSome

/-- The number of entries. -/
def size (map : OrderedMap κ ν) : Nat := map.entries.length

/-- The map with `change` applied to what stands under `key`. -/
def update (map : OrderedMap κ ν) (key : κ) (change : Option ν → ν) : OrderedMap κ ν :=
  ⟨place key change map.entries, ascending_place key change map.ascending⟩

/-- The map with `value` under `key`. -/
def insert (map : OrderedMap κ ν) (key : κ) (value : ν) : OrderedMap κ ν :=
  map.update key fun _ => value

/-- The map with `value` under `key` unless something stands there already. -/
def claim (map : OrderedMap κ ν) (key : κ) (value : ν) : OrderedMap κ ν :=
  map.update key fun held => held.getD value

/-- The map of a list of entries; the last entry of a key counts. -/
def ofList (entries : List (κ × ν)) : OrderedMap κ ν :=
  entries.foldl (fun map entry => map.insert entry.1 entry.2) empty

/-! ### Look-ups -/

theorem find?_place {entries : List (κ × ν)} (key other : κ) (change : Option ν → ν)
    (h : entries.Pairwise fun a b => rank a.1 < rank b.1) :
    ((place key change entries).find? fun entry => rank entry.1 = rank other).map Prod.snd =
      if rank key = rank other then
        some (change ((entries.find? fun entry => rank entry.1 = rank key).map Prod.snd))
      else (entries.find? fun entry => rank entry.1 = rank other).map Prod.snd := by
  induction entries with
  | nil => by_cases hk : rank key = rank other <;> simp [place, hk]
  | cons first rest ih =>
    have hfirst := List.pairwise_cons.1 h
    have absent : rank key < rank first.1 →
        (first :: rest).find? (fun entry => rank entry.1 = rank key) = none := by
      intro hlt
      refine List.find?_eq_none.2 fun e he => ?_
      rcases List.mem_cons.1 he with rfl | he
      · simp; omega
      · have := hfirst.1 e he
        simp; omega
    unfold place
    split
    · rename_i hlt
      by_cases hk : rank key = rank other
      · rw [absent hlt]
        simp [hk]
      · simp [hk]
    · rename_i hnlt
      split
      · rename_i heq
        by_cases hk : rank key = rank other
        · simp [hk, ← heq]
        · have : rank first.1 ≠ rank other := heq ▸ hk
          simp [hk, this]
      · rename_i hne
        by_cases hf : rank first.1 = rank other
        · have hk : rank key ≠ rank other := hf ▸ hne
          simp [hf, hk]
        · have hne' : rank first.1 ≠ rank key := fun h => hne h.symm
          simpa [List.find?_cons, hf, hne'] using ih hfirst.2

@[simp] theorem find?_empty (key : κ) : (empty : OrderedMap κ ν).find? key = none := rfl

theorem find?_update [DecidableEq κ] (map : OrderedMap κ ν) (key other : κ) (change : Option ν → ν) :
    (map.update key change).find? other =
      if key = other then some (change (map.find? key)) else map.find? other := by
  refine (find?_place key other change map.ascending).trans ?_
  by_cases hk : key = other
  · rw [if_pos (hk ▸ rfl), if_pos hk, find?]
  · rw [if_neg (fun h => hk (Ranked.rank_injective _ _ h)), if_neg hk, find?]

theorem find?_insert [DecidableEq κ] (map : OrderedMap κ ν) (key other : κ) (value : ν) :
    (map.insert key value).find? other = if key = other then some value else map.find? other :=
  find?_update map key other _

theorem find?_claim [DecidableEq κ] (map : OrderedMap κ ν) (key other : κ) (value : ν) :
    (map.claim key value).find? other =
      if key = other then some ((map.find? key).getD value) else map.find? other :=
  find?_update map key other _

/-- What stands under a key of the entries' own is the value beside it. -/
theorem find?_of_mem {entries : List (κ × ν)} {entry : κ × ν}
    (h : entries.Pairwise fun a b => rank a.1 < rank b.1) (hmem : entry ∈ entries) :
    (entries.find? fun other => rank other.1 = rank entry.1) = some entry := by
  induction entries with
  | nil => cases hmem
  | cons first rest ih =>
    have hfirst := List.pairwise_cons.1 h
    rcases List.mem_cons.1 hmem with rfl | hrest
    · simp
    · have := hfirst.1 entry hrest
      rw [List.find?_cons_of_neg (by simp; omega)]
      exact ih hfirst.2 hrest

theorem mem_entries_iff {map : OrderedMap κ ν} {key : κ} {value : ν} :
    (key, value) ∈ map.entries ↔ map.find? key = some value := by
  refine ⟨fun h => by rw [find?, find?_of_mem map.ascending h]; rfl, fun h => ?_⟩
  obtain ⟨entry, hentry, rfl⟩ := Option.map_eq_some_iff.1 h
  have hrank : rank entry.1 = rank key := by simpa using List.find?_some hentry
  have hkey := Ranked.rank_injective _ _ hrank
  exact hkey ▸ List.mem_of_find?_eq_some hentry

/-- Entries in ascending order that are the same set are the same list. -/
theorem entries_eq {a b : List (κ × ν)} (ha : a.Pairwise fun x y => rank x.1 < rank y.1)
    (hb : b.Pairwise fun x y => rank x.1 < rank y.1) (h : ∀ entry, entry ∈ a ↔ entry ∈ b) :
    a = b := by
  induction a generalizing b with
  | nil => exact (List.eq_nil_iff_forall_not_mem.2 fun e he => by simpa using (h e).2 he).symm
  | cons x xs ih =>
    cases b with
    | nil => exact absurd ((h x).1 (List.mem_cons_self ..)) (by simp)
    | cons y ys =>
      have hx := List.pairwise_cons.1 ha
      have hy := List.pairwise_cons.1 hb
      have hxy : x = y := by
        rcases List.mem_cons.1 ((h x).1 (List.mem_cons_self ..)) with hxy | hxy
        · exact hxy
        · rcases List.mem_cons.1 ((h y).2 (List.mem_cons_self ..)) with hyx | hyx
          · exact hyx.symm
          · have := hx.1 y hyx
            have := hy.1 x hxy
            omega
      subst hxy
      refine congrArg (x :: ·) (ih hx.2 hy.2 fun entry => ⟨fun he => ?_, fun he => ?_⟩)
      · rcases List.mem_cons.1 ((h entry).1 (List.mem_cons_of_mem _ he)) with rfl | he'
        · exact absurd (hx.1 entry he) (Nat.lt_irrefl _)
        · exact he'
      · rcases List.mem_cons.1 ((h entry).2 (List.mem_cons_of_mem _ he)) with rfl | he'
        · exact absurd (hy.1 entry he) (Nat.lt_irrefl _)
        · exact he'

@[ext] theorem ext {a b : OrderedMap κ ν} (h : ∀ key, a.find? key = b.find? key) : a = b := by
  have hentries : a.entries = b.entries :=
    entries_eq a.ascending b.ascending fun entry => by
      rw [mem_entries_iff, mem_entries_iff, h entry.1]
  cases a
  cases b
  cases hentries
  rfl

end OrderedMap

end Flowmeter
