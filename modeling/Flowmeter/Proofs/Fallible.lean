import Mathlib.Data.List.Forall2

/-! Computations that may fail.

What a computation that succeeds was made of, and which of its steps a traversal fails for. -/
namespace Flowmeter

variable {α β ε : Type}

/-! ### Success -/

theorem map_eq_ok_iff {f : α → β} {x : Except ε α} {b : β} :
    x.map f = .ok b ↔ ∃ a, x = .ok a ∧ f a = b := by
  cases x with
  | error fault =>
    refine ⟨nofun, ?_⟩
    rintro ⟨a, h, -⟩
    cases h
  | ok a =>
    constructor
    · intro h
      exact ⟨a, rfl, Except.ok.inj h⟩
    · rintro ⟨a', ha, rfl⟩
      obtain rfl := Except.ok.inj ha
      rfl

/-- A function of what comes out does not make it fail. -/
theorem exists_map_eq_ok_iff {f : α → β} {x : Except ε α} :
    (∃ b, x.map f = .ok b) ↔ ∃ a, x = .ok a := by
  simp only [map_eq_ok_iff]
  constructor
  · intro ⟨_, a, ha, _⟩
    exact ⟨a, ha⟩
  · intro ⟨a, ha⟩
    exact ⟨f a, a, ha, rfl⟩

theorem bind_eq_ok_iff {f : α → Except ε β} {x : Except ε α} {b : β} :
    x >>= f = .ok b ↔ ∃ a, x = .ok a ∧ f a = .ok b := by
  cases x with
  | error fault =>
    refine ⟨nofun, ?_⟩
    rintro ⟨a, h, -⟩
    cases h
  | ok a =>
    constructor
    · intro h
      exact ⟨a, rfl, h⟩
    · rintro ⟨a', ha, h⟩
      obtain rfl := Except.ok.inj ha
      exact h

/-- A traversal succeeds if every one of its steps does. -/
theorem mapM_eq_ok_iff {f : α → Except ε β} {xs : List α} {ys : List β} :
    xs.mapM f = .ok ys ↔ List.Forall₂ (fun x y => f x = .ok y) xs ys := by
  induction xs generalizing ys with
  | nil =>
    rw [List.mapM_nil, List.forall₂_nil_left_iff]
    exact ⟨fun h => (Except.ok.inj h).symm, fun h => h ▸ rfl⟩
  | cons x xs ih =>
    rw [List.mapM_cons, List.forall₂_cons_left_iff]
    cases hx : f x with
    | error fault =>
      refine ⟨nofun, ?_⟩
      rintro ⟨y, rest, hy, -⟩
      cases hy
    | ok value =>
      cases hxs : xs.mapM f with
      | error fault =>
        refine ⟨nofun, ?_⟩
        rintro ⟨y, rest, -, hrest, -⟩
        rw [← ih, hxs] at hrest
        cases hrest
      | ok values =>
        constructor
        · intro h
          obtain rfl : value :: values = ys := Except.ok.inj h
          exact ⟨value, values, rfl, ih.1 hxs, rfl⟩
        · rintro ⟨y, rest, hy, hrest, rfl⟩
          obtain rfl := Except.ok.inj hy
          obtain rfl : values = rest := Except.ok.inj (hxs.symm.trans (ih.2 hrest))
          rfl

theorem exists_mapM_eq_ok_iff {f : α → Except ε β} {xs : List α} :
    (∃ ys, xs.mapM f = .ok ys) ↔ ∀ x ∈ xs, ∃ y, f x = .ok y := by
  simp only [mapM_eq_ok_iff]
  induction xs with
  | nil => simp
  | cons x xs ih =>
    rw [List.forall_mem_cons, ← ih]
    constructor
    · rintro ⟨ys, h⟩
      obtain ⟨y, rest, hy, hrest, -⟩ := List.forall₂_cons_left_iff.1 h
      exact ⟨⟨y, hy⟩, rest, hrest⟩
    · rintro ⟨⟨y, hy⟩, rest, hrest⟩
      exact ⟨y :: rest, .cons hy hrest⟩

/-! ### Failure -/

theorem map_eq_error_iff {f : α → β} {x : Except ε α} {fault : ε} :
    x.map f = .error fault ↔ x = .error fault := by
  cases x with
  | error refused => exact Iff.intro (fun h => congrArg _ (Except.error.inj h)) fun h => h ▸ rfl
  | ok a => exact ⟨nofun, nofun⟩

theorem exists_ok_iff {x : Except ε α} : (∃ a, x = .ok a) ↔ ∀ fault, x ≠ .error fault := by
  cases x with
  | error refused => exact ⟨nofun, fun h => absurd rfl (h refused)⟩
  | ok a => exact ⟨nofun, fun _ => ⟨a, rfl⟩⟩

variable {f : α → Except ε β} {xs : List α} {fault : ε}

theorem mapM_cons_eq_error_iff {x : α} :
    (x :: xs).mapM f = .error fault ↔
      f x = .error fault ∨ (∃ y, f x = .ok y) ∧ xs.mapM f = .error fault := by
  rw [List.mapM_cons]
  cases f x with
  | error refused =>
    refine ⟨fun h => .inl (congrArg _ (Except.error.inj h)), ?_⟩
    rintro (h | ⟨⟨y, hy⟩, -⟩)
    · rw [Except.error.inj h]
      rfl
    · cases hy
  | ok y =>
    cases xs.mapM f with
    | error refused =>
      refine ⟨fun h => .inr ⟨⟨y, rfl⟩, congrArg _ (Except.error.inj h)⟩, ?_⟩
      rintro (h | ⟨-, h⟩)
      · cases h
      · rw [Except.error.inj h]
        rfl
    | ok ys =>
      refine ⟨nofun, ?_⟩
      rintro (h | ⟨-, h⟩) <;> cases h

/-- A traversal fails with what the first of its steps that fails does. -/
theorem mapM_eq_error_iff :
    xs.mapM f = .error fault ↔ ∃ (i : Nat) (x : α), xs[i]? = some x ∧ f x = .error fault ∧
      ∀ (j : Nat) (y : α), j < i → xs[j]? = some y → ∃ z, f y = .ok z := by
  induction xs with
  | nil =>
    refine ⟨nofun, ?_⟩
    rintro ⟨i, x, hx, -⟩
    cases hx
  | cons first rest ih =>
    rw [mapM_cons_eq_error_iff, ih]
    constructor
    · rintro (hfirst | ⟨hfirst, i, x, hx, hfault, hbefore⟩)
      · exact ⟨0, first, rfl, hfirst, fun j _ hj => absurd hj (Nat.not_lt_zero j)⟩
      · refine ⟨i + 1, x, hx, hfault, fun j y hj hy => ?_⟩
        cases j with
        | zero => exact Option.some.inj hy ▸ hfirst
        | succ j => exact hbefore j y (Nat.lt_of_succ_lt_succ hj) hy
    · rintro ⟨i, x, hx, hfault, hbefore⟩
      cases i with
      | zero => exact .inl (Option.some.inj hx ▸ hfault)
      | succ i =>
        exact .inr ⟨hbefore 0 first i.succ_pos rfl, i, x, hx, hfault, fun j y hj hy =>
          hbefore (j + 1) y (Nat.succ_lt_succ hj) hy⟩

/-- Traversals whose steps fail alike fail alike. -/
theorem mapM_eq_error_congr {γ : Type} {g : α → Except ε γ}
    (h : ∀ x fault, f x = .error fault ↔ g x = .error fault) :
    xs.mapM f = .error fault ↔ xs.mapM g = .error fault := by
  induction xs with
  | nil => exact ⟨nofun, nofun⟩
  | cons first rest ih =>
    simp only [mapM_cons_eq_error_iff, exists_ok_iff, ne_eq, h, ih]

/-- Steps that never fail can be left out. -/
theorem mapM_filter_eq_error_iff {p : α → Bool} (h : ∀ x, p x = false → ∃ y, f x = .ok y) :
    (xs.filter p).mapM f = .error fault ↔ xs.mapM f = .error fault := by
  induction xs with
  | nil => rfl
  | cons first rest ih =>
    rw [mapM_cons_eq_error_iff, ← ih]
    cases hp : p first with
    | false =>
      obtain ⟨value, hvalue⟩ := h first hp
      rw [List.filter_cons_of_neg (by simp [hp]), hvalue]
      simp
    | true => rw [List.filter_cons_of_pos hp, mapM_cons_eq_error_iff]

end Flowmeter
