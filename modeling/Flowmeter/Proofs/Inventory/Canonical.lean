import Mathlib.Data.List.DropRight
import Mathlib.Data.List.Permutation
import Flowmeter.Proofs.Inventory.Holders

/-! Inventories do not depend on the order in which a source answers.

A source lists pids and inodes in an order of its own, and may list a pid more than once. Two
sources that say the same in different orders (`Source.Agrees`) have the same inventory
(`Agrees.build_alike`). What carries this is that the pids asked and the endpoints of a process
are sorted by total orders that tell their values apart, so a list of them is settled by its
members (`distinctPids_congr`, `Ranked.sorted_perm`). `Describes` says what an inventory has to
say of its source, also without an order: `inventories_tell_what_sources_say` puts both
together. -/
namespace Flowmeter

/-- Two computations have results that are related, or both fail. -/
inductive Alike {ε α : Type} (related : α → α → Prop) : Except ε α → Except ε α → Prop
  | ok {a b : α} : related a b → Alike related (.ok a) (.ok b)
  | error {fault other : ε} : Alike related (.error fault) (.error other)

theorem Alike.map {ε α β : Type} (f : α → β) {outcome other : Except ε α}
    (h : Alike (· = ·) outcome other) : Alike (· = ·) (outcome.map f) (other.map f) := by
  cases h with
  | ok heq => exact .ok (congrArg f heq)
  | error => exact .error

/-! ### Orders -/

theorem Ranked.pairwise_sorted {α : Type} [Ranked α] (values : List α) :
    (sorted values).Pairwise fun a b => rank a ≤ rank b := by
  refine (List.pairwise_mergeSort (fun a b c hab hbc => ?_) (fun a b => ?_) values).imp ?_
  · simp only [decide_eq_true_eq] at hab hbc ⊢
    exact le_trans hab hbc
  · simpa using le_total (rank a) (rank b)
  · simp

/-- Sorted, the same values are the same list. -/
theorem Ranked.sorted_perm {α : Type} [Ranked α] {values others : List α}
    (h : values.Perm others) : sorted values = sorted others := by
  have hperm : (sorted values).Perm (sorted others) :=
    (List.mergeSort_perm ..).trans (h.trans (List.mergeSort_perm ..).symm)
  refine List.Perm.eq_of_pairwise (fun a b _ _ hab hba => ?_) (pairwise_sorted values)
    (pairwise_sorted others) hperm
  exact rank_injective a b (le_antisymm hab hba)

/-- By port, then by protocol, then by address. -/
def Endpoint.NotAfter (a b : Endpoint) : Prop :=
  a.port < b.port ∨ a.port = b.port ∧
    (rank a.protocol < rank b.protocol ∨ a.protocol = b.protocol ∧ rank a.address ≤ rank b.address)

theorem Endpoint.notAfter_of_rank_le {a b : Endpoint} (h : rank a ≤ rank b) : a.NotAfter b := by
  change (a.port.toNat * 2 + rank a.protocol) * Address.count + rank a.address ≤
    (b.port.toNat * 2 + rank b.protocol) * Address.count + rank b.address at h
  simp only [Address.count] at h
  have ha : rank a.address < 0x100000000000000000000000100000000 := a.address.rank_lt
  have hb : rank b.address < 0x100000000000000000000000100000000 := b.address.rank_lt
  have hp := a.protocol.rank_lt
  have hq := b.protocol.rank_lt
  unfold NotAfter
  rw [UInt16.lt_iff_toNat_lt, ← UInt16.toNat_inj, ← Ranked.rank_inj (a := a.protocol)]
  omega

/-- Pids that are the same set are asked in the same order. -/
theorem Inventory.distinctPids_congr {pids others : List Int} (h : ∀ pid, pid ∈ pids ↔ pid ∈ others) :
    distinctPids pids = distinctPids others := by
  have hnodup (pids : List Int) : (distinctPids pids).Nodup :=
    (pairwise_distinctPids pids).imp ne_of_lt
  have hperm : (distinctPids pids).Perm (distinctPids others) := by
    rw [List.perm_ext_iff_of_nodup (hnodup pids) (hnodup others)]
    intro pid
    rw [mem_distinctPids, mem_distinctPids, h]
  exact List.Perm.eq_of_pairwise (fun a b _ _ hab hba => absurd hba (not_lt_of_gt hab))
    (pairwise_distinctPids pids) (pairwise_distinctPids others) hperm

/-! ### Command lines -/

/-- The characters of a command line, with a space for each zero octet. -/
def spaced (raw : String) : List Char := raw.toList.map fun c => if c = '\x00' then ' ' else c

theorem zero_not_mem_spaced (raw : String) : '\x00' ∉ spaced raw := by
  intro hzero
  obtain ⟨c, -, hc⟩ := List.mem_map.1 hzero
  split at hc
  · exact absurd hc (by decide)
  · rename_i hne
    exact hne hc

/-- What is shown of a command line: its characters with spaces for zero octets, up to the
blanks at the end. -/
structure Shown (raw shown : String) : Prop where
  text : ∃ blanks, spaced raw = shown.toList ++ blanks ∧ ∀ c ∈ blanks, Text.isBlank c = true
  last : ∀ c, shown.toList.getLast? = some c → Text.isBlank c = false
  noZero : '\x00' ∉ shown.toList

theorem shown_shownCommand (raw : String) : Shown raw (SocketHolder.shownCommand raw) := by
  have hshown : (SocketHolder.shownCommand raw).toList = (spaced raw).rdropWhile Text.isBlank :=
    String.toList_ofList
  constructor
  · refine ⟨(spaced raw).rtakeWhile Text.isBlank, ?_, fun c hc => List.mem_rtakeWhile_imp hc⟩
    rw [hshown, List.rdropWhile_append_rtakeWhile]
  · intro c hlast
    rw [hshown] at hlast
    have hne : (spaced raw).rdropWhile Text.isBlank ≠ [] := by
      intro hnil
      rw [hnil] at hlast
      cases hlast
    rw [List.getLast?_eq_some_getLast hne] at hlast
    obtain rfl := Option.some.inj hlast
    exact Bool.eq_false_iff.2 (List.rdropWhile_last_not _ _ hne)
  · rw [hshown]
    exact fun hzero => zero_not_mem_spaced raw ((List.rdropWhile_prefix _ _).subset hzero)

/-! ### Two sources -/

/-- A pid is among those that a source lists. -/
def Source.Lists (source : Source) (pid : Int) : Prop :=
  ∃ pids, source.pids = .ok pids ∧ pid ∈ pids

/-- Two sources say the same, but for the order in which they list pids and inodes and for how
often they list a pid. -/
structure Source.Agrees (source other : Source) : Prop where
  table : source.table = other.table
  pids : Alike (fun pids others => ∀ pid, pid ∈ pids ↔ pid ∈ others) source.pids other.pids
  inodes : ∀ pid, source.Lists pid → Option.Rel List.Perm (source.inodes pid) (other.inodes pid)
  command : ∀ pid, source.Lists pid → source.command pid = other.command pid

theorem Source.endpoints_congr {source other : Source} (h : source.table = other.table) :
    source.endpoints = other.endpoints := by
  have hbindings : source.bindings = other.bindings := by
    funext table
    rw [bindings, bindings, h]
  rw [endpoints, endpoints, hbindings]

theorem Inventory.process?_congr {source other : Source} (known : OrderedMap UInt64 Endpoint)
    {pid : Int} (hinodes : Option.Rel List.Perm (source.inodes pid) (other.inodes pid))
    (hcommand : source.command pid = other.command pid) :
    process? source known pid = process? other known pid := by
  rw [process?, process?, hcommand]
  generalize source.inodes pid = inodes, other.inodes pid = others at hinodes
  cases hinodes with
  | none => rfl
  | some hperm =>
    have hendpoints := hperm.filterMap known.find?
    simp only [Option.bind_eq_bind, Option.bind_some, Ranked.sorted_perm hendpoints,
      hendpoints.isEmpty_eq]

/-- **Sources that say the same have the same inventory**, or none. -/
theorem Source.Agrees.build_alike {source other : Source} (h : source.Agrees other) :
    Alike (· = ·) (Inventory.build source) (Inventory.build other) := by
  have hprocess {pid : Int} (known : OrderedMap UInt64 Endpoint) (hlists : source.Lists pid) :
      Inventory.process? source known pid = Inventory.process? other known pid :=
    Inventory.process?_congr known (h.inodes pid hlists) (h.command pid hlists)
  have hpids := h.pids
  rw [Inventory.build, Inventory.build, Source.endpoints_congr h.table]
  cases other.endpoints with
  | error fault => exact .error
  | ok known =>
    cases hlisted : source.pids with
    | error fault =>
      rw [hlisted] at hpids
      generalize other.pids = others at hpids
      cases hpids
      exact .error
    | ok pids =>
      rw [hlisted] at hpids
      generalize other.pids = others at hpids
      cases hpids with
      | ok hsame =>
        refine .ok (congrArg Inventory.mk ?_)
        rw [Inventory.distinctPids_congr hsame]
        refine List.filterMap_congr fun pid hpid => hprocess known ⟨pids, hlisted, ?_⟩
        exact (hsame pid).2 (Inventory.mem_distinctPids.1 hpid)

namespace Inventory

/-! ### What an inventory tells -/

/-- What an inventory is to tell of a source, given the endpoint of each inode. -/
structure Describes (source : Source) (known : OrderedMap UInt64 Endpoint)
    (inventory : Inventory) : Prop where
  ascending : inventory.processes.Pairwise (·.pid < ·.pid)
  /-- A listed process is there if its inodes can be read and one of them is known. -/
  present : ∀ pid, (∃ process ∈ inventory.processes, process.pid = pid) ↔
    source.Lists pid ∧ ∃ inodes, source.inodes pid = some inodes ∧
      ∃ inode ∈ inodes, known.contains inode = true
  /-- A process has an endpoint for each inode that is known, in order. -/
  endpoints : ∀ process ∈ inventory.processes, ∃ inodes, source.inodes process.pid = some inodes ∧
    process.endpoints.Perm (inodes.filterMap known.find?) ∧
    process.endpoints.Pairwise Endpoint.NotAfter
  command : ∀ process ∈ inventory.processes, match source.command process.pid with
    | some raw => Shown raw process.command
    | none => process.command = "(no cmd line)"

theorem exists_process?_iff {source : Source} {known : OrderedMap UInt64 Endpoint} {pid : Int} :
    (∃ process, process? source known pid = some process ∧ process.pid = pid) ↔
      ∃ inodes, source.inodes pid = some inodes ∧
        ∃ inode ∈ inodes, known.contains inode = true := by
  constructor
  · rintro ⟨process, hprocess, -⟩
    obtain ⟨inodes, hinodes, hne, -⟩ := process?_eq_some_iff.1 hprocess
    obtain ⟨endpoint, hendpoint⟩ := List.exists_mem_of_ne_nil _ hne
    obtain ⟨inode, hinode, hfind⟩ := List.mem_filterMap.1 hendpoint
    refine ⟨inodes, hinodes, inode, hinode, ?_⟩
    rw [OrderedMap.contains, hfind]
    rfl
  · rintro ⟨inodes, hinodes, inode, hinode, hcontains⟩
    obtain ⟨endpoint, hfind⟩ := Option.isSome_iff_exists.1 hcontains
    have hne : inodes.filterMap known.find? ≠ [] :=
      List.ne_nil_of_mem (List.mem_filterMap.2 ⟨inode, hinode, hfind⟩)
    exact ⟨_, process?_eq_some_iff.2 ⟨inodes, hinodes, hne, rfl⟩, rfl⟩

/-- A process of an inventory is what is known of its pid. -/
theorem process?_of_mem {source : Source} {known : OrderedMap UInt64 Endpoint} {pids : List Int}
    {process : SocketHolder}
    (hmem : process ∈ (distinctPids pids).filterMap (process? source known)) :
    process.pid ∈ pids ∧ process? source known process.pid = some process := by
  obtain ⟨pid, hpid, hprocess⟩ := List.mem_filterMap.1 hmem
  obtain ⟨inodes, -, -, rfl⟩ := process?_eq_some_iff.1 hprocess
  exact ⟨mem_distinctPids.1 hpid, hprocess⟩

theorem describes_of_build {source : Source} {inventory : Inventory}
    (hbuild : build source = .ok inventory) :
    ∃ known, source.endpoints = .ok known ∧ Describes source known inventory := by
  obtain ⟨known, pids, hknown, hpids, hprocesses⟩ := build_eq_ok_iff.1 hbuild
  have hmem {process : SocketHolder} (h : process ∈ inventory.processes) :
      process.pid ∈ pids ∧ process? source known process.pid = some process :=
    process?_of_mem (hprocesses ▸ h)
  refine ⟨known, hknown, ?_⟩
  constructor
  · exact pairwise_pids hbuild
  · intro pid
    rw [← exists_process?_iff]
    constructor
    · rintro ⟨process, hprocess, rfl⟩
      exact ⟨⟨pids, hpids, (hmem hprocess).1⟩, process, (hmem hprocess).2, rfl⟩
    · rintro ⟨⟨listed, hlisted, hpid⟩, process, hprocess, hown⟩
      obtain rfl : pids = listed := Except.ok.inj (hpids.symm.trans hlisted)
      refine ⟨process, ?_, hown⟩
      rw [hprocesses, List.mem_filterMap]
      exact ⟨pid, mem_distinctPids.2 hpid, hprocess⟩
  · intro process h
    obtain ⟨inodes, hinodes, -, hfields⟩ := process?_eq_some_iff.1 (hmem h).2
    refine ⟨inodes, hinodes, ?_, ?_⟩
    · rw [hfields]
      exact List.mergeSort_perm ..
    · rw [hfields]
      exact (Ranked.pairwise_sorted _).imp Endpoint.notAfter_of_rank_le
  · intro process h
    obtain ⟨inodes, -, -, hfields⟩ := process?_eq_some_iff.1 (hmem h).2
    rw [hfields]
    cases source.command process.pid with
    | none => rfl
    | some raw => exact shown_shownCommand raw

/-- **Inventories tell what sources say**, whatever the order they say it in. -/
theorem inventories_tell_what_sources_say :
    (∀ source other : Source, source.Agrees other →
      Alike (· = ·) (build source) (build other) ∧
      Alike (· = ·) ((build source).map endpointIndex) ((build other).map endpointIndex)) ∧
    ∀ source inventory, build source = .ok inventory →
      ∃ known, source.endpoints = .ok known ∧ Describes source known inventory :=
  ⟨fun _ _ h => ⟨h.build_alike, h.build_alike.map endpointIndex⟩, fun _ _ => describes_of_build⟩

section Relisted

/-- Two sockets, and two processes that hold one or both. -/
def listed : Source where
  table
    | .tcp => some (
        "0: 0800A8C0:1388 00000000:0000 0 0 0 0 0 0 7\n" ++
        "1: 00000000:0050 00000000:0000 0 0 0 0 0 0 8\n")
    | _ => none
  pids := .ok [42, 7]
  inodes pid := if pid = 42 then some [7, 9, 8] else some [7]
  command pid := if pid = 42 then some "curl\x00-s\x00" else none

/-- The same in another order, one process twice. -/
def relisted : Source :=
  { listed with
    pids := .ok [7, 42, 7]
    inodes := fun pid => if pid = 42 then some [9, 8, 7] else some [7] }

def listedInventory : Inventory where
  processes := [
    ⟨7, "(no cmd line)", [⟨.quad 192 168 0 8, 5000, .tcp⟩]⟩,
    ⟨42, "curl -s", [⟨.quad 0 0 0 0, 80, .tcp⟩, ⟨.quad 192 168 0 8, 5000, .tcp⟩]⟩]

theorem listed_agrees : listed.Agrees relisted where
  table := rfl
  pids := by
    refine .ok fun pid => ?_
    simp only [List.mem_cons, List.not_mem_nil, or_false]
    omega
  inodes := by
    intro pid _
    show Option.Rel List.Perm (if pid = 42 then some [7, 9, 8] else some [7])
      (if pid = 42 then some [9, 8, 7] else some [7])
    split
    · exact .some (by decide)
    · exact .some (.refl _)
  command _ _ := rfl

theorem inventory_of_listed :
    listed.Agrees relisted ∧ build listed = .ok listedInventory ∧
      Alike (· = ·) (build listed) (build relisted) ∧
      Alike (· = ·) ((build listed).map endpointIndex) ((build relisted).map endpointIndex) ∧
      ∃ known, listed.endpoints = .ok known ∧ Describes listed known listedInventory := by
  have hbuild : build listed = .ok listedInventory := by cbv
  obtain ⟨halike, hindex⟩ := inventories_tell_what_sources_say.1 listed relisted listed_agrees
  exact ⟨listed_agrees, hbuild, halike, hindex,
    inventories_tell_what_sources_say.2 listed listedInventory hbuild⟩

end Relisted

end Inventory

end Flowmeter
