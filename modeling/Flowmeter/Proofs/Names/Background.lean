import Mathlib.Data.List.Induction
import Flowmeter.Names.Resolver

/-! Addresses that are looked up in the background, whatever is asked meanwhile.

`Naming` is a resolver with what was asked and what was stored, and its steps are those of whoever
asks and of the worker, in any order. A worker that is stopped is one that takes no more steps.
What carries the rest is that the addresses stored, taken and queued are, in this order, those that
were asked for, each where it was asked for first (`Sound.order`); so none is looked up a second
time, and the calls of the lookup fall into the attempts for one address after the other
(`History`). `names_are_looked_up_once` says what follows for those who ask. -/
namespace Flowmeter

/-! ### Attempts -/

namespace Lookup

/-- What comes of looking an address up, given the calls before: it is called a second time after
a failure only. -/
inductive Attempts (lookup : Lookup) (before : List Address) (address : Address) :
    List Address → Option String → Prop
  | first {name : String} (h : lookup before address = some name) :
      Attempts lookup before address [address] (some name)
  | second {answer : Option String} (h : lookup before address = none)
      (hagain : lookup (before ++ [address]) address = answer) :
      Attempts lookup before address [address, address] answer

/-- The name that comes of an answer. -/
inductive Named (address : Address) : Option String → String → Prop
  | answered {name : String} (h : name ≠ "") : Named address (some name) name
  | empty : Named address (some "") address.text
  | failed : Named address none address.text

/-- The name that comes of the attempts to look an address up. -/
def Earns (lookup : Lookup) (before : List Address) (address : Address)
    (attempts : List Address) (name : String) : Prop :=
  ∃ answer, lookup.Attempts before address attempts answer ∧ Named address answer name

variable {lookup : Lookup} {before attempts : List Address} {address : Address} {name : String}

theorem named_nameOf (address : Address) (answer : Option String) :
    Named address answer (nameOf address answer) := by
  cases answer with
  | none => exact .failed
  | some name =>
    rw [nameOf]
    split
    · rename_i hempty
      rw [String.isEmpty_iff.1 hempty]
      exact .empty
    · rename_i hname
      exact .answered fun h => hname (String.isEmpty_iff.2 h)

theorem Named.ne_empty {answer : Option String} (h : Named address answer name) : name ≠ "" := by
  cases h with
  | answered h => exact h
  | empty => exact address.text_ne_empty
  | failed => exact address.text_ne_empty

theorem withRetry_earns (lookup : Lookup) (before : List Address) (address : Address) :
    ∃ attempts, lookup.Earns before address attempts (lookup.withRetry before address).1 ∧
      (lookup.withRetry before address).2 = before ++ attempts := by
  rw [withRetry]
  cases h : lookup before address with
  | some name => exact ⟨[address], ⟨some name, .first h, named_nameOf ..⟩, rfl⟩
  | none =>
    exact ⟨[address, address], ⟨_, .second h rfl, named_nameOf ..⟩, List.append_assoc ..⟩

namespace Earns

variable (h : lookup.Earns before address attempts name)
include h

theorem name_ne_empty : name ≠ "" := by
  obtain ⟨answer, -, hname⟩ := h
  exact hname.ne_empty

theorem eq_of_mem {other : Address} (hother : other ∈ attempts) : other = address := by
  obtain ⟨answer, hattempts, -⟩ := h
  cases hattempts <;> simpa using hother

theorem length_le : attempts.length ≤ 2 := by
  obtain ⟨answer, hattempts, -⟩ := h
  cases hattempts <;> simp

end Earns

/-- Names found one after the other, each from attempts of its own. -/
inductive History (lookup : Lookup) : List Address → List (Address × String) → Prop
  | nil : History lookup [] []
  | snoc {calls attempts : List Address} {found : List (Address × String)} {address : Address}
      {name : String} (h : History lookup calls found)
      (hname : lookup.Earns calls address attempts name) :
      History lookup (calls ++ attempts) (found ++ [(address, name)])

namespace History

variable {calls : List Address} {found : List (Address × String)}

/-- No address is called for more than twice for each name that was found for it. -/
theorem count_calls_le (h : lookup.History calls found) (address : Address) :
    calls.count address ≤ 2 * (found.map Prod.fst).count address := by
  induction h with
  | nil => exact Nat.le_refl 0
  | @snoc calls attempts found other name _ hname ih =>
    rw [List.count_append, List.map_append, List.count_append, Nat.mul_add]
    refine Nat.add_le_add ih ?_
    by_cases hother : address = other
    · subst hother
      rw [List.map_singleton, List.count_singleton_self]
      exact Nat.le_trans List.count_le_length hname.length_le
    · have habsent : address ∉ attempts := fun h => hother (hname.eq_of_mem h)
      rw [List.count_eq_zero_of_not_mem habsent]
      exact Nat.zero_le _

theorem not_mem_calls (h : lookup.History calls found) (habsent : address ∉ found.map Prod.fst) :
    address ∉ calls := by
  have hcount := h.count_calls_le address
  rw [List.count_eq_zero_of_not_mem habsent] at hcount
  exact List.count_eq_zero.1 (Nat.le_zero.1 hcount)

/-- A name comes of attempts that stand together, and the address is called for nowhere else. -/
theorem earns (h : lookup.History calls found) (hnodup : (found.map Prod.fst).Nodup)
    (hmem : (address, name) ∈ found) :
    ∃ before attempts after, calls = before ++ attempts ++ after ∧
      lookup.Earns before address attempts name ∧ address ∉ before ∧ address ∉ after := by
  induction h with
  | nil => cases hmem
  | @snoc calls attempts found other last h hlast ih =>
    rw [List.map_append, List.map_singleton, List.nodup_append] at hnodup
    obtain ⟨hnodup, -, hdisjoint⟩ := hnodup
    rcases List.mem_append.1 hmem with hmem | hmem
    · obtain ⟨before, own, after, rfl, hearns, hbefore, hafter⟩ := ih hnodup hmem
      have hother : address ≠ other :=
        hdisjoint address (List.mem_map_of_mem hmem) other (List.mem_singleton_self _)
      refine ⟨before, own, after ++ attempts, (List.append_assoc ..), hearns, hbefore, ?_⟩
      exact List.not_mem_append hafter fun h => hother (hlast.eq_of_mem h)
    · obtain ⟨rfl, rfl⟩ := Prod.mk.inj (List.mem_singleton.1 hmem)
      have habsent : address ∉ found.map Prod.fst := fun h =>
        hdisjoint address h address (List.mem_singleton_self _) rfl
      exact ⟨calls, attempts, [], (List.append_nil _).symm, hlast, h.not_mem_calls habsent,
        List.not_mem_nil⟩

end History

end Lookup

/-! ### Asking and working -/

/-- A resolver, what it was asked for and what was stored, each oldest first. -/
structure Naming where
  resolver : Resolver := {}
  asked : List Address := []
  done : List (Address × String) := []

namespace Naming

/-- A step of someone who asks, or of the worker. -/
inductive Step
  | ask (address : Address)
  | take
  | lookUp
  | store

section Steps
variable (lookup : Lookup) (state : Naming)

/-- What is answered when an address is asked for. -/
def answer (address : Address) : String := (state.resolver.resolve address).1

/-- The addresses the worker took and has not stored the name of. -/
def undone : List Address := state.resolver.found.toList.map Prod.fst ++ state.resolver.batch

def ask (address : Address) : Naming :=
  { state with
    resolver := (state.resolver.resolve address).2
    asked := state.asked ++ [address] }

def take : Naming := { state with resolver := state.resolver.take }

def lookUp : Naming := { state with resolver := state.resolver.lookUp lookup }

def store : Naming :=
  { state with
    resolver := state.resolver.store
    done := state.done ++ state.resolver.found.toList }

/-- One step, if it is its turn: the worker takes addresses when it has none left, and looks the
next one up when it has stored the name of the last. -/
def next : Step → Naming
  | .ask address => state.ask address
  | .take => if state.undone = [] then state.take else state
  | .lookUp => if state.resolver.found = none then state.lookUp lookup else state
  | .store => state.store

/-- The steps one after the other. -/
def run (state : Naming) : List Step → Naming
  | [] => state
  | step :: rest => run (state.next lookup step) rest

theorem run_append (steps more : List Step) :
    state.run lookup (steps ++ more) = (state.run lookup steps).run lookup more := by
  induction steps generalizing state with
  | nil => rfl
  | cons step rest ih => exact ih _

/-- What is stored stays so. -/
theorem done_next (step : Step) : state.done <+: (state.next lookup step).done := by
  cases step with
  | ask address => exact List.prefix_refl _
  | take => simp only [next]; split <;> exact List.prefix_refl _
  | lookUp => simp only [next]; split <;> exact List.prefix_refl _
  | store => exact List.prefix_append ..

theorem done_run (steps : List Step) : state.done <+: (state.run lookup steps).done := by
  induction steps generalizing state with
  | nil => exact List.prefix_refl _
  | cons step rest ih => exact (state.done_next lookup step).trans (ih _)

end Steps

/-! ### What every step keeps -/

/-- What asking once more adds to the addresses asked for. -/
theorem eraseDups_concat (asked : List Address) (address : Address) :
    (asked ++ [address]).eraseDups =
      if address ∈ asked then asked.eraseDups else asked.eraseDups ++ [address] := by
  rw [List.eraseDups_append]
  by_cases h : address ∈ asked <;> simp [List.removeAll, List.eraseDups_cons, h]

theorem nodup_eraseDups (asked : List Address) : asked.eraseDups.Nodup := by
  induction asked using List.reverseRecOn with
  | nil => exact .nil
  | append_singleton asked address ih =>
    rw [eraseDups_concat]
    split
    · exact ih
    · rename_i hnew
      refine List.nodup_append.2 ⟨ih, List.nodup_cons.2 ⟨List.not_mem_nil, .nil⟩, ?_⟩
      rintro old hold _ hlast rfl
      exact hnew (List.mem_singleton.1 hlast ▸ List.mem_eraseDups.1 hold)

/-- What the names so far say of the addresses asked for. -/
structure Known (names : OrderedMap Address String) (asked : List Address)
    (done : List (Address × String)) : Prop where
  unasked : ∀ address, address ∉ asked → names.find? address = none
  waiting : ∀ address ∈ asked, address ∉ done.map Prod.fst →
    names.find? address = some address.text
  stored : ∀ entry ∈ done, names.find? entry.1 = some entry.2

namespace Known

variable {names : OrderedMap Address String} {asked : List Address}
  {done : List (Address × String)} {address : Address} (h : Known names asked done)
include h

/-- Asking again changes nothing. -/
theorem again (hasked : address ∈ asked) : Known names (asked ++ [address]) done where
  unasked other hother := h.unasked other fun hold => hother (List.mem_append_left _ hold)
  waiting other hother := by
    have hold : other ∈ asked := by
      rcases List.mem_append.1 hother with hold | hlast
      · exact hold
      · exact List.mem_singleton.1 hlast ▸ hasked
    exact h.waiting other hold
  stored := h.stored

/-- An address that is asked for the first time goes by its written form. -/
theorem first (hdone : address ∉ done.map Prod.fst) :
    Known (names.insert address address.text) (asked ++ [address]) done where
  unasked := by
    intro other hother
    rw [List.mem_append, List.mem_singleton, not_or] at hother
    rw [OrderedMap.find?_insert, if_neg (Ne.symm hother.2)]
    exact h.unasked other hother.1
  waiting := by
    intro other hother hwaiting
    rw [OrderedMap.find?_insert]
    split
    · rename_i heq
      rw [heq]
    · rename_i hne
      have hold : other ∈ asked :=
        (List.mem_append.1 hother).resolve_right fun hlast =>
          hne (List.mem_singleton.1 hlast).symm
      exact h.waiting other hold hwaiting
  stored := by
    intro entry hentry
    have hne : address ≠ entry.1 := fun heq => hdone (heq ▸ List.mem_map_of_mem hentry)
    rw [OrderedMap.find?_insert, if_neg hne]
    exact h.stored entry hentry

/-- The name that is stored replaces the written form. -/
theorem store (hasked : address ∈ asked) (hdone : address ∉ done.map Prod.fst) (name : String) :
    Known (names.insert address name) asked (done ++ [(address, name)]) where
  unasked := by
    intro other hother
    have hne : address ≠ other := fun heq => hother (heq ▸ hasked)
    rw [OrderedMap.find?_insert, if_neg hne]
    exact h.unasked other hother
  waiting := by
    intro other hother hwaiting
    rw [List.map_append, List.mem_append, not_or] at hwaiting
    have hne : address ≠ other := fun heq => hwaiting.2 (heq ▸ List.mem_singleton_self _)
    rw [OrderedMap.find?_insert, if_neg hne]
    exact h.waiting other hother hwaiting.1
  stored := by
    intro entry hentry
    rcases List.mem_append.1 hentry with hold | hlast
    · have hne : address ≠ entry.1 := fun heq => hdone (heq ▸ List.mem_map_of_mem hold)
      rw [OrderedMap.find?_insert, if_neg hne]
      exact h.stored entry hold
    · rw [List.mem_singleton.1 hlast, OrderedMap.find?_insert, if_pos rfl]

theorem exists_name (hasked : address ∈ asked) : ∃ name, names.find? address = some name := by
  by_cases hdone : address ∈ done.map Prod.fst
  · obtain ⟨entry, hentry, rfl⟩ := List.mem_map.1 hdone
    exact ⟨entry.2, h.stored entry hentry⟩
  · exact ⟨address.text, h.waiting address hasked hdone⟩

end Known

/-- What is so at every moment. -/
structure Sound (lookup : Lookup) (state : Naming) : Prop where
  /-- Addresses are served in the order in which they were asked for first. -/
  order : state.done.map Prod.fst ++ state.undone ++ state.resolver.pending.items =
    state.asked.eraseDups
  known : Known state.resolver.names state.asked state.done
  history : lookup.History state.resolver.calls (state.done ++ state.resolver.found.toList)

theorem sound_start (lookup : Lookup) : ({} : Naming).Sound lookup where
  order := rfl
  known := ⟨fun _ _ => rfl, fun _ h => absurd h List.not_mem_nil,
    fun _ h => absurd h List.not_mem_nil⟩
  history := .nil

namespace Sound

variable {lookup : Lookup} {state : Naming} {address : Address} (h : state.Sound lookup)
include h

theorem nodup :
    (state.done.map Prod.fst ++ state.undone ++ state.resolver.pending.items).Nodup :=
  h.order ▸ nodup_eraseDups _

theorem nodup_found : ((state.done ++ state.resolver.found.toList).map Prod.fst).Nodup := by
  have hnodup := h.nodup
  rw [undone, ← List.append_assoc, ← List.map_append, List.append_assoc] at hnodup
  exact (List.nodup_append.1 hnodup).1

/-- What was asked for is stored, taken or queued. -/
theorem mem_asked :
    address ∈ state.asked ↔ address ∈ state.done.map Prod.fst ∨ address ∈ state.undone ∨
      address ∈ state.resolver.pending.items := by
  rw [← List.mem_eraseDups, ← h.order, List.mem_append, List.mem_append, or_assoc]

theorem not_stored (hundone : address ∈ state.undone) : address ∉ state.done.map Prod.fst :=
  fun hdone => (List.nodup_append.1 (List.nodup_append.1 h.nodup).1).2.2 address hdone address
    hundone rfl

/-- Asking again is answered from what is known. -/
theorem ask_again (hasked : address ∈ state.asked) : (state.ask address).Sound lookup := by
  obtain ⟨name, hname⟩ := h.known.exists_name hasked
  have hresolver : (state.resolver.resolve address).2 = state.resolver := by
    rw [Resolver.resolve, hname]
  rw [Naming.ask, hresolver]
  exact {
    order := by rw [eraseDups_concat, if_pos hasked]; exact h.order
    known := h.known.again hasked
    history := h.history }

/-- An address that is asked for the first time is queued behind all others. -/
theorem ask_first (hnew : address ∉ state.asked) : (state.ask address).Sound lookup := by
  have hresolver : (state.resolver.resolve address).2 =
      { state.resolver with
        names := state.resolver.names.insert address address.text
        pending := state.resolver.pending.push address } := by
    rw [Resolver.resolve, h.known.unasked address hnew]
  rw [Naming.ask, hresolver]
  exact {
    order := by
      rw [eraseDups_concat, if_neg hnew, ← h.order, List.append_assoc _ _ [address]]
      rfl
    known := h.known.first fun hdone => hnew (h.mem_asked.2 (.inl hdone))
    history := h.history }

theorem take (hturn : state.undone = []) : state.take.Sound lookup where
  order := by
    obtain ⟨hfound, hbatch⟩ := List.append_eq_nil_iff.1 hturn
    have horder := h.order
    rw [hturn, List.append_nil] at horder
    show state.done.map Prod.fst ++ (state.resolver.found.toList.map Prod.fst ++
      (state.resolver.batch ++ state.resolver.pending.items)) ++ [] = state.asked.eraseDups
    rw [hfound, hbatch, List.append_nil]
    exact horder
  known := h.known
  history := h.history

/-- The calls for the next address come behind all others. -/
theorem lookUp (hturn : state.resolver.found = none) : (state.lookUp lookup).Sound lookup := by
  cases hbatch : state.resolver.batch with
  | nil =>
    have hresolver : state.resolver.lookUp lookup = state.resolver := by
      rw [Resolver.lookUp, hbatch]
    rw [Naming.lookUp, hresolver]
    exact h
  | cons next rest =>
    obtain ⟨attempts, hearns, hcalls⟩ := lookup.withRetry_earns state.resolver.calls next
    have hresolver : state.resolver.lookUp lookup =
        { state.resolver with
          batch := rest
          calls := state.resolver.calls ++ attempts
          found := some (next, (lookup.withRetry state.resolver.calls next).1) } := by
      rw [Resolver.lookUp, hbatch, ← hcalls]
    have hundone : state.undone = next :: rest := by
      rw [undone, hturn, hbatch]
      rfl
    have horder := h.order
    have hhistory := h.history
    rw [hundone] at horder
    rw [hturn, Option.toList_none, List.append_nil] at hhistory
    rw [Naming.lookUp, hresolver]
    exact {
      order := horder
      known := h.known
      history := hhistory.snoc hearns }

/-- The name that was looked up replaces the written form. -/
theorem store : state.store.Sound lookup := by
  cases hfound : state.resolver.found with
  | none =>
    have hresolver : state.resolver.store = state.resolver := by
      rw [Resolver.store, hfound]
    rw [Naming.store, hresolver, hfound, Option.toList_none, List.append_nil]
    exact h
  | some entry =>
    obtain ⟨address, name⟩ := entry
    have hresolver : state.resolver.store =
        { state.resolver with
          names := state.resolver.names.insert address name
          found := none } := by
      rw [Resolver.store, hfound]
    have hundone : state.undone = address :: state.resolver.batch := by
      rw [undone, hfound]
      rfl
    have hmem : address ∈ state.undone := hundone ▸ List.mem_cons_self ..
    have horder := h.order
    have hhistory := h.history
    rw [hundone] at horder
    rw [hfound] at hhistory
    rw [Naming.store, hresolver, hfound, Option.toList_some]
    exact {
      order := by
        rw [← horder, List.map_append, undone]
        simp
      known := h.known.store (h.mem_asked.2 (.inr (.inl hmem))) (h.not_stored hmem) name
      history := by
        rw [Option.toList_none, List.append_nil]
        exact hhistory }

/-- **Every step keeps a naming sound.** -/
theorem next (step : Step) : (state.next lookup step).Sound lookup := by
  cases step with
  | ask address =>
    by_cases hasked : address ∈ state.asked
    · exact h.ask_again hasked
    · exact h.ask_first hasked
  | take =>
    simp only [Naming.next]
    split
    · exact h.take ‹_›
    · exact h
  | lookUp =>
    simp only [Naming.next]
    split
    · exact h.lookUp ‹_›
    · exact h
  | store => exact h.store

theorem run (steps : List Step) : (state.run lookup steps).Sound lookup := by
  induction steps generalizing state with
  | nil => exact h
  | cons step rest ih => exact ih (h.next step)

end Sound

/-! ### What is answered -/

/-- Each address is served once, and its name stands once it is stored. -/
structure Served (lookup : Lookup) (state : Naming) : Prop where
  /-- What was asked for is queued, taken or stored, in one of these places and once; anything
  else is in none. -/
  place : ∀ address, state.resolver.pending.items.count address + state.undone.count address +
    (state.done.map Prod.fst).count address = if address ∈ state.asked then 1 else 0
  calls : ∀ address, state.resolver.calls.count address ≤ 2
  /-- Until its name is stored, an address is answered with its written form. -/
  waiting : ∀ address, address ∉ state.done.map Prod.fst → state.answer address = address.text
  stored : ∀ entry ∈ state.done, state.answer entry.1 = entry.2
  /-- A name that is stored is not empty, and comes of the only calls for its address. -/
  named : ∀ entry ∈ state.done, entry.2 ≠ "" ∧ ∃ before attempts after,
    state.resolver.calls = before ++ attempts ++ after ∧
    lookup.Earns before entry.1 attempts entry.2 ∧ entry.1 ∉ before ∧ entry.1 ∉ after

/-- **What is sound is served.** -/
theorem Sound.served {lookup : Lookup} {state : Naming} (h : state.Sound lookup) :
    state.Served lookup where
  place address := by
    have hcount := congrArg (List.count address) h.order
    rw [List.count_append, List.count_append, (nodup_eraseDups _).count] at hcount
    simp only [List.mem_eraseDups] at hcount
    omega
  calls address := by
    have hcalls := h.history.count_calls_le address
    rw [h.nodup_found.count] at hcalls
    split at hcalls <;> omega
  waiting address hdone := by
    rw [answer, Resolver.resolve]
    by_cases hasked : address ∈ state.asked
    · rw [h.known.waiting address hasked hdone]
    · rw [h.known.unasked address hasked]
  stored entry hentry := by
    rw [answer, Resolver.resolve, h.known.stored entry hentry]
  named entry hentry := by
    obtain ⟨before, attempts, after, hcalls, hearns, hbefore, hafter⟩ :=
      h.history.earns h.nodup_found (List.mem_append_left _ hentry)
    exact ⟨hearns.name_ne_empty, before, attempts, after, hcalls, hearns, hbefore, hafter⟩

/-- **Names are looked up once.** Whatever is asked while the worker works, every address is
served once, and from then on answered with the one name that was stored. -/
theorem names_are_looked_up_once (lookup : Lookup) (steps : List Step) :
    (run lookup {} steps).Served lookup ∧
      ∀ entry ∈ (run lookup {} steps).done, ∀ more,
        (run lookup {} (steps ++ more)).answer entry.1 = entry.2 := by
  have hsound := (sound_start lookup).run steps
  refine ⟨hsound.served, fun entry hentry more => ?_⟩
  rw [run_append]
  exact (hsound.run more).served.stored entry
    ((done_run lookup _ more).subset hentry)

/-- A lookup that fails once. -/
example :
    let address := Address.quad 192 0 2 7
    let lookup := Lookup.ofAnswers fun _ => [none, some "host.example"]
    let state := run lookup {} [.ask address, .take, .lookUp, .ask address, .store]
    state.done = [(address, "host.example")] ∧ state.resolver.calls = [address, address] := by
  decide

/-! ### Undisturbed

If nobody asks while the worker works, its steps are those of `Resolver.settle`, and it catches up
with those who asked before. -/

/-- The worker's steps for so many addresses. -/
def rounds : Nat → List Step
  | 0 => []
  | count + 1 => .lookUp :: .store :: rounds count

section Undisturbed
variable {lookup : Lookup} {resolver : Resolver} {state : Naming}

theorem batch_lookUp : (resolver.lookUp lookup).batch = resolver.batch.tail := by
  rw [Resolver.lookUp]
  split
  · rename_i h
    rw [h]
    rfl
  · rename_i h
    rw [h]
    rfl

theorem pending_lookUp : (resolver.lookUp lookup).pending = resolver.pending := by
  rw [Resolver.lookUp]
  split <;> rfl

theorem batch_store : resolver.store.batch = resolver.batch := by
  rw [Resolver.store]
  split <;> rfl

theorem pending_store : resolver.store.pending = resolver.pending := by
  rw [Resolver.store]
  split <;> rfl

theorem found_store : resolver.store.found = none := by
  rw [Resolver.store]
  split
  · assumption
  · rfl

/-- Work serves the addresses that were taken from the front on. -/
theorem work_eq (lookup : Lookup) (hturn : resolver.found = none) (count : Nat) :
    (resolver.work lookup count).batch = resolver.batch.drop count ∧
      (resolver.work lookup count).pending = resolver.pending ∧
      (resolver.work lookup count).found = none := by
  induction count generalizing resolver with
  | zero => exact ⟨rfl, rfl, hturn⟩
  | succ count ih =>
    have hstored : (resolver.lookUp lookup).store.found = none := found_store
    obtain ⟨hbatch, hpending, hfound⟩ := ih hstored
    rw [Resolver.work]
    refine ⟨?_, ?_, hfound⟩
    · rw [hbatch, batch_store, batch_lookUp, List.drop_tail]
    · rw [hpending, pending_store, pending_lookUp]

theorem found_eq_none (hturn : state.undone = []) : state.resolver.found = none := by
  cases hfound : state.resolver.found with
  | none => rfl
  | some entry =>
    rw [undone, hfound] at hturn
    cases hturn

/-- Rounds of the worker are `Resolver.work`. -/
theorem run_rounds (hturn : state.resolver.found = none) (count : Nat) :
    (state.run lookup (rounds count)).resolver = state.resolver.work lookup count ∧
      (state.run lookup (rounds count)).asked = state.asked := by
  induction count generalizing state with
  | zero => exact ⟨rfl, rfl⟩
  | succ count ih =>
    have hlookUp : state.next lookup .lookUp = state.lookUp lookup := if_pos hturn
    rw [rounds, run, run, hlookUp]
    exact ih found_store

theorem run_take_rounds (hturn : state.undone = []) (count : Nat) :
    (state.run lookup (.take :: rounds count)).resolver =
        state.resolver.take.work lookup count ∧
      (state.run lookup (.take :: rounds count)).asked = state.asked := by
  have htake : state.next lookup .take = state.take := if_pos hturn
  have hfound : state.resolver.found = none := found_eq_none hturn
  have htaken : state.take.resolver.found = none := hfound
  rw [run, htake]
  exact run_rounds htaken count

/-- A worker that is stopped on its way leaves as `Resolver.settle` says. -/
theorem settle_eq (hturn : state.undone = []) (last : Option Nat) :
    ∃ count, state.resolver.settle lookup last =
      (state.run lookup (.take :: rounds count)).resolver.leave :=
  ⟨_, by rw [(run_take_rounds hturn _).1, Resolver.settle]⟩

/-- **The worker catches up.** When it has taken what is queued and looked it all up, the name of
every address that was asked for is stored. -/
theorem Sound.catches_up (h : state.Sound lookup) (hturn : state.undone = []) :
    (state.run lookup (.take :: rounds state.resolver.pending.items.length)).done.map Prod.fst =
      state.asked.eraseDups := by
  have hbatch : state.resolver.batch = [] := (List.append_eq_nil_iff.1 hturn).2
  have htaken : state.resolver.take.batch = state.resolver.pending.items := by
    show state.resolver.batch ++ state.resolver.pending.items = _
    rw [hbatch, List.nil_append]
  have hfound : state.resolver.take.found = none := found_eq_none hturn
  generalize hcount : state.resolver.pending.items.length = count
  obtain ⟨hresolver, hasked⟩ := run_take_rounds hturn count
  obtain ⟨hrest, hpending, hlast⟩ := work_eq lookup hfound count
  have horder := (h.run (.take :: rounds count)).order
  rw [undone, hresolver, hasked, hrest, hpending, hlast, htaken, ← hcount,
    List.drop_length] at horder
  have hqueue : state.resolver.take.pending.items = [] := rfl
  rw [hqueue, List.append_nil] at horder
  rw [← hcount, ← horder]
  exact (List.append_nil _).symm

end Undisturbed

end Naming

end Flowmeter
