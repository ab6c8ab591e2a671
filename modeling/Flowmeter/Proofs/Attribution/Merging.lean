import Flowmeter.Proofs.Attribution.Conservation

/-! Attribution in parts.

It does not matter where a stretch of traffic is cut into batches, nor in which order the
packets of a batch come. Traffic and counters are added pointwise: `ProcessTraffic.merge`
brings the traffic of one owner together, host by host, and `Counters` are the counters of a
cycle without its times. `addAll_append` and `addAll_perm` are the two laws for one entry,
`sizes_append` and `sizes_perm` those for the counters, and `batches_merge` puts them
together. -/
namespace Flowmeter

namespace OrderedMap

variable {κ ν : Type} [Ranked κ]

/-- The entries of both maps; what stands under a key of both is combined. -/
def mergeWith (combine : ν → ν → ν) (map other : OrderedMap κ ν) : OrderedMap κ ν :=
  other.entries.foldl
    (fun merged entry => merged.update entry.1 fun held =>
      (held.map (combine · entry.2)).getD entry.2)
    map

theorem find?_foldl_update [DecidableEq κ] (combine : ν → ν → ν) {entries : List (κ × ν)}
    (hascending : entries.Pairwise fun a b => rank a.1 < rank b.1) (map : OrderedMap κ ν)
    (key : κ) :
    (entries.foldl (fun merged entry => merged.update entry.1 fun held =>
      (held.map (combine · entry.2)).getD entry.2) map).find? key =
      Option.merge combine (map.find? key) (find? ⟨entries, hascending⟩ key) := by
  induction entries generalizing map with
  | nil => exact Option.merge_none_right.symm
  | cons first rest ih =>
    obtain ⟨hfirst, hrest⟩ := List.pairwise_cons.1 hascending
    rw [List.foldl_cons, ih hrest, find?_update]
    by_cases hkey : first.1 = key
    · -- The keys behind the first are greater, so the first entry is the only one of its key.
      have habsent : find? ⟨rest, hrest⟩ key = none := by
        simp only [find?, Option.map_eq_none_iff, List.find?_eq_none, decide_eq_true_eq]
        intro entry hentry
        have := hfirst entry hentry
        rw [hkey] at this
        omega
      have hfound : find? ⟨first :: rest, hascending⟩ key = some first.2 := by simp [find?, hkey]
      rw [if_pos hkey, hkey, habsent, hfound]
      cases map.find? key <;> rfl
    · have hrank : rank first.1 ≠ rank key := fun h => hkey (Ranked.rank_injective _ _ h)
      have hbehind : find? ⟨first :: rest, hascending⟩ key = find? ⟨rest, hrest⟩ key := by
        simp [find?, hrank]
      rw [if_neg hkey, hbehind]

theorem find?_mergeWith [DecidableEq κ] (combine : ν → ν → ν) (map other : OrderedMap κ ν)
    (key : κ) :
    (map.mergeWith combine other).find? key =
      Option.merge combine (map.find? key) (other.find? key) :=
  find?_foldl_update combine other.ascending map key

end OrderedMap

/-! ### The traffic of one owner -/

theorem bytesOf_perm {credits more : List Credit} (h : credits.Perm more) :
    bytesOf credits = bytesOf more :=
  (h.map Credit.bytes).sum_nat

attribute [ext] HostTraffic ProcessTraffic

namespace HostTraffic

/-- Counter by counter. -/
instance : Add HostTraffic where
  add host other := {
    recv := host.recv + other.recv
    sent := host.sent + other.sent
    tcp := host.tcp + other.tcp
    udp := host.udp + other.udp }

variable (host : HostTraffic) (credits : List Credit)

/-- Counting is adding what is counted from zero. -/
theorem addAll_eq_add : host.addAll credits = host + addAll {} credits := by
  ext1
  · show _ = host.recv + (addAll {} credits).recv
    rw [addAll_recv, addAll_recv, UInt64.zero_add]
  · show _ = host.sent + (addAll {} credits).sent
    rw [addAll_sent, addAll_sent, UInt64.zero_add]
  · show _ = host.tcp + (addAll {} credits).tcp
    rw [addAll_tcp, addAll_tcp, UInt64.zero_add]
  · show _ = host.udp + (addAll {} credits).udp
    rw [addAll_udp, addAll_udp, UInt64.zero_add]

variable {credits} {more : List Credit} in
theorem addAll_perm (h : credits.Perm more) : host.addAll credits = host.addAll more := by
  ext1
  · rw [addAll_recv, addAll_recv, bytesOf_perm (h.filter _)]
  · rw [addAll_sent, addAll_sent, bytesOf_perm (h.filter _)]
  · rw [addAll_tcp, addAll_tcp, bytesOf_perm (h.filter _)]
  · rw [addAll_udp, addAll_udp, bytesOf_perm (h.filter _)]

end HostTraffic

namespace ProcessTraffic

/-- The traffic of one owner in two batches: totals are added, and hosts are merged by adding
their counters. -/
def merge (traffic other : ProcessTraffic) : ProcessTraffic :=
  { traffic with
    recv := traffic.recv + other.recv
    sent := traffic.sent + other.sent
    hosts := traffic.hosts.mergeWith (· + ·) other.hosts }

variable (traffic : ProcessTraffic) (credits more : List Credit)

/-- Counting is merging with what is counted from idle. -/
theorem addAll_eq_merge (owner : Int × String) :
    traffic.addAll credits = traffic.merge ((idle owner).addAll credits) := by
  ext1
  · exact (traffic.addAll_owner credits).1
  · exact (traffic.addAll_owner credits).2
  · show _ = traffic.recv + ((idle owner).addAll credits).recv
    rw [addAll_recv, addAll_recv, show (idle owner).recv = 0 from rfl, UInt64.zero_add]
  · show _ = traffic.sent + ((idle owner).addAll credits).sent
    rw [addAll_sent, addAll_sent, show (idle owner).sent = 0 from rfl, UInt64.zero_add]
  · refine OrderedMap.ext fun address => ?_
    show _ = (traffic.hosts.mergeWith (· + ·) ((idle owner).addAll credits).hosts).find? address
    rw [OrderedMap.find?_mergeWith, find?_hosts_addAll, find?_hosts_addAll]
    by_cases hnone : credits.filter (·.remote = address) = []
    · rw [if_pos hnone, if_pos hnone]
      exact Option.merge_none_right.symm
    · rw [if_neg hnone, if_neg hnone, HostTraffic.addAll_eq_add]
      cases traffic.hosts.find? address with
      | none => exact congrArg some (HostTraffic.addAll_eq_add {} _).symm
      | some host => rfl

/-- **Credits may be counted in parts**, each from idle. -/
theorem addAll_append (owner : Int × String) :
    (idle owner).addAll (credits ++ more) =
      ((idle owner).addAll credits).merge ((idle owner).addAll more) := by
  rw [← addAll_eq_merge, addAll, List.foldl_append]
  rfl

variable {credits more} in
/-- **Credits may be counted in any order.** -/
theorem addAll_perm (h : credits.Perm more) : traffic.addAll credits = traffic.addAll more := by
  ext1
  · rw [(traffic.addAll_owner credits).1, (traffic.addAll_owner more).1]
  · rw [(traffic.addAll_owner credits).2, (traffic.addAll_owner more).2]
  · rw [addAll_recv, addAll_recv, bytesOf_perm (h.filter _)]
  · rw [addAll_sent, addAll_sent, bytesOf_perm (h.filter _)]
  · refine OrderedMap.ext fun address => ?_
    have hremote := h.filter (·.remote = address)
    rw [find?_hosts_addAll, find?_hosts_addAll, HostTraffic.addAll_perm _ hremote]
    by_cases hnone : credits.filter (·.remote = address) = []
    · rw [if_pos hnone, if_pos (List.nil_perm.1 (hnone ▸ hremote))]
    · have hmore : more.filter (·.remote = address) ≠ [] := fun hmore =>
        hnone (List.perm_nil.1 (hmore ▸ hremote))
      rw [if_neg hnone, if_neg hmore]

end ProcessTraffic

/-! ### Counters -/

/-- The counters of a cycle, without its times. -/
@[ext] structure Counters where
  total : UInt64
  attributed : UInt64
  undetermined : UInt64
  unmappedRecv : UInt64
  unmappedSend : UInt64

namespace Counters

instance : Add Counters where
  add counters other := {
    total := counters.total + other.total
    attributed := counters.attributed + other.attributed
    undetermined := counters.undetermined + other.undetermined
    unmappedRecv := counters.unmappedRecv + other.unmappedRecv
    unmappedSend := counters.unmappedSend + other.unmappedSend }

instance : Sub Counters where
  sub counters other := {
    total := counters.total - other.total
    attributed := counters.attributed - other.attributed
    undetermined := counters.undetermined - other.undetermined
    unmappedRecv := counters.unmappedRecv - other.unmappedRecv
    unmappedSend := counters.unmappedSend - other.unmappedSend }

/-- What is added is the difference. -/
theorem add_sub_self (counters rise : Counters) : counters + rise - counters = rise := by
  have hword (a b : UInt64) : a + b - a = b := by rw [UInt64.add_comm, UInt64.add_sub_cancel]
  ext1 <;> exact hword _ _

end Counters

def CycleStats.counters (cycle : CycleStats) : Counters where
  total := cycle.total
  attributed := cycle.attributed
  undetermined := cycle.undetermined
  unmappedRecv := cycle.unmappedRecv
  unmappedSend := cycle.unmappedSend

namespace PacketClass

variable (classOf : Packet → PacketClass)

/-- By how much a batch raises the counters. -/
def sizes (packets : List Packet) : Counters where
  total := 0
  attributed := .ofNat (packets.countP (isAttributed ∘ classOf))
  undetermined := .ofNat (size classOf packets .undetermined)
  unmappedRecv := .ofNat (size classOf packets (.unmapped .received))
  unmappedSend := .ofNat (size classOf packets (.unmapped .sent))

theorem sizes_append (packets more : List Packet) :
    sizes classOf (packets ++ more) = sizes classOf packets + sizes classOf more := by
  unfold sizes size
  simp only [List.countP_append, UInt64.ofNat_add]
  rfl

theorem sizes_perm {packets more : List Packet} (h : packets.Perm more) :
    sizes classOf packets = sizes classOf more := by
  unfold sizes size
  simp only [h.countP_eq]

end PacketClass

namespace Attribution

section Batches
variable (machine : LocalAddresses) (index : EndpointIndex) (direction : Direction)

theorem counters_ofPackets (packets : List Packet) (cycle : CycleStats) :
    (ofPackets packets machine index direction cycle).cycle.counters =
      cycle.counters + PacketClass.sizes (classOf machine index direction) packets := by
  ext1
  · exact (run_total machine index direction packets (start index cycle)).trans
      (UInt64.add_zero _).symm
  · exact run_counter machine index direction packets _
      (step_attributed machine index direction) (start index cycle)
  · exact run_counter machine index direction packets
      (classOf machine index direction · = .undetermined)
      (by simpa using step_undetermined machine index direction) (start index cycle)
  · exact run_counter machine index direction packets
      (classOf machine index direction · = .unmapped .received)
      (by simpa using step_unmappedRecv machine index direction) (start index cycle)
  · exact run_counter machine index direction packets
      (classOf machine index direction · = .unmapped .sent)
      (by simpa using step_unmappedSend machine index direction) (start index cycle)

/-- What a cycle becomes does not depend on the traffic so far. -/
theorem run_cycle_congr (state other : Attribution) (h : state.cycle = other.cycle)
    (packets : List Packet) :
    (run machine index direction state packets).cycle =
      (run machine index direction other packets).cycle := by
  induction packets generalizing state other with
  | nil => exact h
  | cons packet rest ih => exact ih _ _ (by rw [step_cycle, step_cycle, h])

/-- What two batches attributed one after the other amount to, whatever the counters are before
each of them. -/
structure Merged (packets more : List Packet) (cycle cycle₁ cycle₂ : CycleStats) : Prop where
  /-- Each batch gives an entry for every owner, in order. -/
  owners : ∀ batch ∈ [packets, more],
    (ofPackets batch machine index direction cycle).processes.map
      (fun process => (process.pid, process.command)) = index.owners
  processes : (ofPackets (packets ++ more) machine index direction cycle).processes =
    List.zipWith ProcessTraffic.merge
      (ofPackets packets machine index direction cycle₁).processes
      (ofPackets more machine index direction cycle₂).processes
  counters :
    (ofPackets (packets ++ more) machine index direction cycle).cycle.counters - cycle.counters =
      ((ofPackets packets machine index direction cycle₁).cycle.counters - cycle₁.counters) +
        ((ofPackets more machine index direction cycle₂).cycle.counters - cycle₂.counters)
  events : (ofPackets (packets ++ more) machine index direction cycle).events =
    (ofPackets packets machine index direction cycle₁).events ++
      (ofPackets more machine index direction cycle₂).events
  /-- With the cycle handed on, not even times tell whether there were two batches or one. -/
  cycle : (ofPackets (packets ++ more) machine index direction cycle).cycle =
    (ofPackets more machine index direction
      (ofPackets packets machine index direction cycle).cycle).cycle

/-- What the same packets in another order amount to. -/
structure Reordered (packets more : List Packet) (cycle : CycleStats) : Prop where
  processes : (ofPackets packets machine index direction cycle).processes =
    (ofPackets more machine index direction cycle).processes
  counters : (ofPackets packets machine index direction cycle).cycle.counters =
    (ofPackets more machine index direction cycle).cycle.counters
  /-- The events are the same, in another order. -/
  events : (ofPackets packets machine index direction cycle).events.Perm
    (ofPackets more machine index direction cycle).events

theorem merged (packets more : List Packet) (cycle cycle₁ cycle₂ : CycleStats) :
    Merged machine index direction packets more cycle cycle₁ cycle₂ where
  owners batch _ := owners_ofPackets machine index direction batch cycle
  processes := by
    rw [processes_ofPackets, processes_ofPackets, processes_ofPackets]
    refine List.ext_getElem? fun slot => ?_
    rw [List.getElem?_zipWith, List.getElem?_mapIdx, List.getElem?_mapIdx, List.getElem?_mapIdx]
    cases index.owners[slot]? with
    | none => rfl
    | some owner =>
      exact congrArg some <| (congrArg _ (creditsOf_append machine index direction ..)).trans
        (ProcessTraffic.addAll_append _ _ owner)
  counters := by
    simp only [counters_ofPackets, Counters.add_sub_self, PacketClass.sizes_append]
  events := by
    simp only [events_ofPackets, List.filterMap_append]
  cycle := by
    have hrun : run machine index direction (start index cycle) (packets ++ more) =
        run machine index direction (run machine index direction (start index cycle) packets)
          more := List.foldl_append
    rw [ofPackets_eq_run, hrun]
    exact run_cycle_congr machine index direction
      (run machine index direction (start index cycle) packets)
      (start index (ofPackets packets machine index direction cycle).cycle) rfl more

theorem reordered {packets more : List Packet} (h : packets.Perm more) (cycle : CycleStats) :
    Reordered machine index direction packets more cycle where
  processes := by
    rw [processes_ofPackets, processes_ofPackets]
    refine congrArg (index.owners.mapIdx ·) (funext fun slot => funext fun owner => ?_)
    exact ProcessTraffic.addAll_perm _ ((h.filterMap _).filter _)
  counters := by
    rw [counters_ofPackets, counters_ofPackets, PacketClass.sizes_perm _ h]
  events := by
    rw [events_ofPackets, events_ofPackets]
    exact h.filterMap _

/-- **Batches merge.** Attributed together, two batches give what they give one by one, and the
order of packets shows in the order of events only. -/
theorem batches_merge :
    (∀ packets more cycle cycle₁ cycle₂,
      Merged machine index direction packets more cycle cycle₁ cycle₂) ∧
    ∀ packets more, packets.Perm more → ∀ cycle,
      Reordered machine index direction packets more cycle :=
  ⟨merged machine index direction, fun _ _ h => reordered machine index direction h⟩

end Batches

theorem question_merges_with_reverse :
    question.Perm question.reverse ∧
    Merged (.ofList [.quad 192 168 0 8]) server.endpointIndex .both question question.reverse
      {} {} {} ∧
    Reordered (.ofList [.quad 192 168 0 8]) server.endpointIndex .both question
      question.reverse {} := by
  have hturned : question.Perm question.reverse := question.reverse_perm.symm
  obtain ⟨hmerged, hreordered⟩ :=
    batches_merge (.ofList [.quad 192 168 0 8]) server.endpointIndex .both
  exact ⟨hturned, hmerged _ _ _ _ _, hreordered _ _ hturned _⟩

end Attribution

end Flowmeter
