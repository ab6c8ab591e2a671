import Mathlib.Data.Int.Order.Basic
import Mathlib.Order.Bounds.Basic
import Flowmeter.Proofs.Inventory.Lookup

/-! Who holds an endpoint, and who of them an inventory's index names.

`Source.Holds` is the join that an inventory makes, read off the source: a listed process,
one of its sockets, and the endpoint that the tables bind the socket to. An inventory lists
the processes by ascending pid, so the first one that holds an endpoint is the one with the
lowest pid (`exists_isLeast_of_lookup`). -/
namespace Flowmeter

/-- A listed process has a socket whose inode the tables bind to the endpoint. -/
def Source.Holds (source : Source) (pid : Int) (endpoint : Endpoint) : Prop :=
  ∃ pids known inodes inode, source.pids = .ok pids ∧ pid ∈ pids ∧
    source.endpoints = .ok known ∧ source.inodes pid = some inodes ∧ inode ∈ inodes ∧
    known.find? inode = some endpoint

/-- The processes that hold an endpoint. -/
def Source.holders (source : Source) (endpoint : Endpoint) : Set Int :=
  {pid | source.Holds pid endpoint}

namespace Inventory

/-! ### The pids that are asked -/

section Repetitions
variable {first : Int} {rest done : List Int}

theorem mem_eraseReps_loop {pid : Int} :
    pid ∈ List.eraseRepsBy.loop (· == ·) first rest done ↔ pid ∈ done ∨ pid ∈ first :: rest := by
  induction rest generalizing first done with
  | nil => simp [List.eraseRepsBy.loop, or_comm]
  | cons second rest ih =>
    unfold List.eraseRepsBy.loop
    split
    · rename_i heq
      obtain rfl : first = second := by simpa using heq
      simp [ih]
    · rw [ih]
      simp only [List.mem_cons, or_comm (a := pid = first), or_assoc]

/-- What is done and comes next ascends strictly, and what follows ascends. -/
theorem pairwise_eraseReps_loop (hdone : (done.reverse ++ [first]).Pairwise (· < ·))
    (hrest : (first :: rest).Pairwise (· ≤ ·)) :
    (List.eraseRepsBy.loop (· == ·) first rest done).Pairwise (· < ·) := by
  induction rest generalizing first done with
  | nil => simpa [List.eraseRepsBy.loop] using hdone
  | cons second rest ih =>
    obtain ⟨hfirst, htail⟩ := List.pairwise_cons.1 hrest
    unfold List.eraseRepsBy.loop
    split
    · rename_i heq
      obtain rfl : first = second := by simpa using heq
      exact ih hdone htail
    · rename_i hne
      have hlt : first < second :=
        lt_of_le_of_ne (hfirst second (List.mem_cons_self ..)) (by simpa using hne)
      refine ih ?_ htail
      rw [List.reverse_cons, List.pairwise_append]
      refine ⟨hdone, List.pairwise_singleton .., fun a ha b hb => ?_⟩
      obtain rfl := List.mem_singleton.1 hb
      rcases List.mem_append.1 ha with ha | ha
      · exact ((List.pairwise_append.1 hdone).2.2 a ha first (List.mem_singleton_self _)).trans hlt
      · exact List.mem_singleton.1 ha ▸ hlt

end Repetitions

theorem mem_distinctPids {pid : Int} {pids : List Int} : pid ∈ distinctPids pids ↔ pid ∈ pids := by
  have hsorted : pid ∈ pids.mergeSort (fun a b => decide (a ≤ b)) ↔ pid ∈ pids :=
    List.mem_mergeSort
  refine Iff.trans ?_ hsorted
  unfold distinctPids List.eraseReps List.eraseRepsBy
  cases pids.mergeSort fun a b => decide (a ≤ b) with
  | nil => exact Iff.rfl
  | cons first rest => simp [mem_eraseReps_loop]

theorem pairwise_distinctPids (pids : List Int) : (distinctPids pids).Pairwise (· < ·) := by
  have hsorted : (pids.mergeSort fun a b => decide (a ≤ b)).Pairwise (· ≤ ·) := by
    refine (List.pairwise_mergeSort (fun a b c hab hbc => ?_) (fun a b => ?_) pids).imp ?_
    · simp only [decide_eq_true_eq] at hab hbc ⊢
      exact le_trans hab hbc
    · simpa using le_total a b
    · simp
  unfold distinctPids List.eraseReps List.eraseRepsBy
  cases h : pids.mergeSort fun a b => decide (a ≤ b) with
  | nil => exact List.Pairwise.nil
  | cons first rest =>
    exact pairwise_eraseReps_loop (List.pairwise_singleton ..) (h ▸ hsorted)

/-! ### The processes that are kept -/

theorem process?_eq_some_iff {source : Source} {known : OrderedMap UInt64 Endpoint} {pid : Int}
    {process : SocketHolder} :
    process? source known pid = some process ↔
      ∃ inodes, source.inodes pid = some inodes ∧ inodes.filterMap known.find? ≠ [] ∧
        process = {
          pid
          command :=
            ((source.command pid).map SocketHolder.shownCommand).getD SocketHolder.noCommand
          endpoints := Ranked.sorted (inodes.filterMap known.find?) } := by
  unfold process?
  cases source.inodes pid with
  | none => simp
  | some inodes =>
    simp only [Option.bind_eq_bind, Option.bind_some, List.isEmpty_iff, Option.some.injEq,
      exists_eq_left']
    split
    · rename_i h
      exact ⟨fun hnone => absurd hnone (by simp), fun hsome => absurd h hsome.1⟩
    · rename_i h
      rw [Option.some.injEq, eq_comm, and_iff_right h]

theorem process?_eq_none_iff {source : Source} {known : OrderedMap UInt64 Endpoint} {pid : Int} :
    process? source known pid = none ↔
      ∀ inodes inode, source.inodes pid = some inodes → inode ∈ inodes →
        known.find? inode = none := by
  unfold process?
  cases source.inodes pid with
  | none => simp
  | some inodes =>
    by_cases h : inodes.filterMap known.find? = []
    · simp only [Option.bind_eq_bind, Option.bind_some, h, List.isEmpty_nil, if_true, true_iff]
      rintro _ inode ⟨⟩ hmem
      exact List.filterMap_eq_nil_iff.1 h inode hmem
    · simp only [Option.bind_eq_bind, Option.bind_some, List.isEmpty_iff, h, if_false,
        reduceCtorEq, false_iff]
      intro hnone
      exact h (List.filterMap_eq_nil_iff.2 fun inode hmem => hnone inodes inode rfl hmem)

/-- What a built inventory is. -/
theorem build_eq_ok_iff {source : Source} {inventory : Inventory} :
    build source = .ok inventory ↔
      ∃ known pids, source.endpoints = .ok known ∧ source.pids = .ok pids ∧
        inventory.processes = (distinctPids pids).filterMap (process? source known) := by
  unfold build
  cases source.endpoints with
  | error fault => simp [bind, Except.bind]
  | ok known =>
    cases source.pids with
    | error fault => simp [bind, Except.bind]
    | ok pids =>
      cases inventory
      simp [bind, Except.bind, pure, Except.pure, eq_comm]

variable {source : Source} {inventory : Inventory}

/-- A process of an inventory holds what the source says it holds. -/
theorem mem_endpoints_iff (hbuild : build source = .ok inventory) {process : SocketHolder}
    (hmem : process ∈ inventory.processes) {endpoint : Endpoint} :
    endpoint ∈ process.endpoints ↔ source.Holds process.pid endpoint := by
  obtain ⟨known, pids, hknown, hpids, hprocesses⟩ := build_eq_ok_iff.1 hbuild
  obtain ⟨pid, hpid, hprocess⟩ := List.mem_filterMap.1 (hprocesses ▸ hmem)
  obtain ⟨inodes, hinodes, -, rfl⟩ := process?_eq_some_iff.1 hprocess
  simp only [Ranked.sorted, List.mem_mergeSort, List.mem_filterMap]
  constructor
  · rintro ⟨inode, hinode, hfind⟩
    exact ⟨pids, known, inodes, inode, hpids, mem_distinctPids.1 hpid, hknown, hinodes, hinode,
      hfind⟩
  · rintro ⟨pids', known', inodes', inode, hpids', -, hknown', hinodes', hinode, hfind⟩
    obtain rfl : known = known' := Except.ok.inj (hknown.symm.trans hknown')
    obtain rfl : inodes = inodes' := Option.some.inj (hinodes.symm.trans hinodes')
    exact ⟨inode, hinode, hfind⟩

/-- Whoever holds an endpoint is in the inventory. -/
theorem exists_process_of_holds (hbuild : build source = .ok inventory) {pid : Int}
    {endpoint : Endpoint} (h : source.Holds pid endpoint) :
    ∃ process ∈ inventory.processes, process.pid = pid := by
  obtain ⟨known, pids, hknown, hpids, hprocesses⟩ := build_eq_ok_iff.1 hbuild
  obtain ⟨pids', known', inodes, inode, hpids', hpid, hknown', hinodes, hinode, hfind⟩ := h
  obtain rfl : known = known' := Except.ok.inj (hknown.symm.trans hknown')
  obtain rfl : pids = pids' := Except.ok.inj (hpids.symm.trans hpids')
  cases hprocess : process? source known pid with
  | none =>
    have := process?_eq_none_iff.1 hprocess inodes inode hinodes hinode
    rw [hfind] at this
    exact absurd this (by simp)
  | some process =>
    refine ⟨process, ?_, ?_⟩
    · rw [hprocesses, List.mem_filterMap]
      exact ⟨pid, mem_distinctPids.2 hpid, hprocess⟩
    · obtain ⟨-, -, -, rfl⟩ := process?_eq_some_iff.1 hprocess
      rfl

/-- **An inventory's pids ascend strictly.** -/
theorem pairwise_pids (hbuild : build source = .ok inventory) :
    inventory.processes.Pairwise (·.pid < ·.pid) := by
  obtain ⟨known, pids, -, -, hprocesses⟩ := build_eq_ok_iff.1 hbuild
  rw [hprocesses]
  refine List.Pairwise.filterMap _ (fun a a' hlt process hprocess process' hprocess' => ?_)
    (pairwise_distinctPids pids)
  obtain ⟨-, -, -, rfl⟩ := process?_eq_some_iff.1 hprocess
  obtain ⟨-, -, -, rfl⟩ := process?_eq_some_iff.1 hprocess'
  exact hlt

/-! ### Owners -/

theorem lookup_eq_none_iff_holders (hbuild : build source = .ok inventory) {endpoint : Endpoint} :
    inventory.endpointIndex.lookup endpoint = none ↔ source.holders endpoint = ∅ := by
  rw [lookup_eq_none_iff, Set.eq_empty_iff_forall_notMem]
  constructor
  · intro hnone pid hholds
    obtain ⟨process, hmem, rfl⟩ := exists_process_of_holds hbuild hholds
    exact hnone process hmem ((mem_endpoints_iff hbuild hmem).2 hholds)
  · intro hnone process hmem hheld
    exact hnone process.pid ((mem_endpoints_iff hbuild hmem).1 hheld)

/-- **The holder with the lowest pid owns an endpoint**, in the slot of that process. -/
theorem exists_isLeast_of_lookup (hbuild : build source = .ok inventory) {endpoint : Endpoint}
    {slot : Nat} (h : inventory.endpointIndex.lookup endpoint = some slot) :
    ∃ pid command, IsLeast (source.holders endpoint) pid ∧
      inventory.endpointIndex.owners[slot]? = some (pid, command) := by
  obtain ⟨position, process, rfl, hprocess, hheld, hfirst⟩ := lookup_eq_some_iff.1 h
  have hmem := List.mem_of_getElem? hprocess
  refine ⟨process.pid, process.command, ⟨(mem_endpoints_iff hbuild hmem).1 hheld, ?_⟩, ?_⟩
  · intro pid hholds
    obtain ⟨other, hother, rfl⟩ := exists_process_of_holds hbuild hholds
    obtain ⟨place, hplace⟩ := List.mem_iff_getElem?.1 hother
    rcases lt_trichotomy place position with hlt | rfl | hgt
    · exact absurd ((mem_endpoints_iff hbuild hother).2 hholds) (hfirst place other hlt hplace)
    · rw [Option.some.inj (hplace.symm.trans hprocess)]
    · obtain ⟨hposition, rfl⟩ := List.getElem?_eq_some_iff.1 hprocess
      obtain ⟨hbound, rfl⟩ := List.getElem?_eq_some_iff.1 hplace
      exact le_of_lt (List.pairwise_iff_getElem.1 (pairwise_pids hbuild) _ _ hposition hbound hgt)
  · simp [endpointIndex, hprocess]

end Inventory

end Flowmeter
