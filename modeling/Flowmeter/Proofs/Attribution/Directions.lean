import Flowmeter.Proofs.Attribution.Merging

/-! Attribution by direction.

A direction is a mask over the verdicts that are given when both directions are captured: a
verdict on a packet of a side that it does not let through becomes `masked`
(`Verdict.of_eq_under`). So what a batch counts for, and the events it gives rise to, are under
a direction those under both that it lets through (`credits_eq_filter`, `events_eq_filter`), and
entries and counters are functions of these two lists. Hence the two directions divide between
them what both attribute, and neither tells of the traffic of the other
(`directions_divide_traffic`). -/
namespace Flowmeter

/-- The side of the packets that events of a kind are about, if they are about one. -/
def EventKind.side? : EventKind → Option Side
  | undetermined => none
  | unmappedRecv => some .received
  | unmappedSend => some .sent

/-- The class of the packets that give rise to events of a kind. -/
def EventKind.class : EventKind → PacketClass
  | undetermined => .undetermined
  | unmappedRecv => .unmapped .received
  | unmappedSend => .unmapped .sent

theorem PacketClass.eventKind?_eq_some_iff {c : PacketClass} {kind : EventKind} :
    c.eventKind? = some kind ↔ c = kind.class := by
  cases c with
  | unmapped side => cases side <;> cases kind <;> decide
  | mapped side => cases side <;> cases kind <;> decide
  | _ => cases kind <;> decide

/-- Whether what is about a side, or about none, is let through. -/
def Direction.lets (direction : Direction) (side : Option Side) : Bool :=
  side.all direction.captures

/-- The direction that captures one side. -/
def Direction.only : Side → Direction
  | .received => recv
  | .sent => send

/-- Of the kinds of events about a side, the direction of a side lets its own through. -/
theorem EventKind.eq_iff_lets_only {side : Side} {kind other : EventKind}
    (hkind : kind.side? = some side) :
    other = kind ↔ other ≠ undetermined ∧ (Direction.only side).lets other.side? = true := by
  revert hkind
  cases side <;> cases kind <;> cases other <;> decide

theorem Direction.captures_only (side other : Side) :
    (only side).captures other = decide (other = side) := by
  cases side <;> cases other <;> rfl

/-! ### One packet -/

namespace Verdict

/-- The side of a verdict on one. -/
def side? : Verdict → Option Side
  | received _ => some .received
  | sent _ => some .sent
  | self | undetermined | masked => none

/-- What becomes of a verdict that is given under both directions. -/
def under (direction : Direction) (verdict : Verdict) : Verdict :=
  if direction.lets verdict.side? then verdict else masked

theorem side?_toward (side : Side) (owner : Option Nat) : (toward side owner).side? = some side := by
  cases side <;> rfl

/-- **A direction is a mask.** -/
theorem of_eq_under (machine : LocalAddresses) (index : EndpointIndex) (direction : Direction)
    (packet : Packet) :
    Verdict.of machine index direction packet =
      (Verdict.of machine index .both packet).under direction := by
  rcases packet.cases machine with hself | ⟨hne, hends⟩ | ⟨side, hcross⟩
  · rw [of_self index direction hself, of_self index .both hself]
    rfl
  · rw [of_undetermined index direction hne hends, of_undetermined index .both hne hends]
    rfl
  · have hboth : Direction.both.captures side = true := by cases side <;> rfl
    rw [of_crosses index direction hcross, of_crosses index .both hcross, if_pos hboth, under,
      side?_toward]
    rfl

/-- What comes of a verdict, with the verdict's side, comes of it under the directions that let
the side through. -/
theorem under_eq_filter {α : Type} {outcome? : Verdict → Option α} {outcomeSide? : α → Option Side}
    (hmasked : outcome? masked = none) (direction : Direction) {verdict : Verdict}
    (hside : ∀ outcome, outcome? verdict = some outcome → outcomeSide? outcome = verdict.side?) :
    outcome? (verdict.under direction) =
      (outcome? verdict).filter fun outcome => direction.lets (outcomeSide? outcome) := by
  unfold under
  cases houtcome : outcome? verdict with
  | none =>
    split
    · exact houtcome
    · exact hmasked
  | some outcome =>
    rw [Option.filter_some, hside outcome houtcome]
    split
    · exact houtcome
    · exact hmasked

/-- The event of a verdict. -/
def event? (packet : Packet) (verdict : Verdict) : Option Event :=
  verdict.class.eventKind?.map fun kind => ⟨kind, packet⟩

theorem side_of_credit? {packet : Packet} {verdict : Verdict} {credit : Credit}
    (h : verdict.credit? packet = some credit) : some credit.side = verdict.side? := by
  cases verdict with
  | received owner => cases h; rfl
  | sent owner => cases h; rfl
  | _ => cases h

theorem side_of_event? {packet : Packet} {verdict : Verdict} {event : Event}
    (h : verdict.event? packet = some event) : event.kind.side? = verdict.side? := by
  cases verdict with
  | undetermined => cases h; rfl
  | received owner => cases owner <;> cases h; rfl
  | sent owner => cases owner <;> cases h; rfl
  | _ => cases h

/-- What is attributed is credited. -/
theorem isAttributed_class (packet : Packet) (verdict : Verdict) :
    verdict.class.isAttributed = (verdict.credit? packet).isSome := by
  cases verdict with
  | received owner => cases owner <;> rfl
  | sent owner => cases owner <;> rfl
  | _ => rfl

end Verdict

/-- The counter of events of a kind. -/
def Counters.ofKind (counters : Counters) : EventKind → UInt64
  | .undetermined => counters.undetermined
  | .unmappedRecv => counters.unmappedRecv
  | .unmappedSend => counters.unmappedSend

/-! ### The bytes of a side -/

def HostTraffic.bytes (host : HostTraffic) : Side → UInt64
  | .received => host.recv
  | .sent => host.sent

theorem HostTraffic.addAll_bytes (host : HostTraffic) (credits : List Credit) (side : Side) :
    (host.addAll credits).bytes side =
      host.bytes side + .ofNat (bytesOf (credits.filter (·.side = side))) := by
  cases side with
  | received => exact host.addAll_recv credits
  | sent => exact host.addAll_sent credits

namespace ProcessTraffic

def bytes (process : ProcessTraffic) : Side → UInt64
  | .received => process.recv
  | .sent => process.sent

theorem addAll_bytes (process : ProcessTraffic) (credits : List Credit) (side : Side) :
    (process.addAll credits).bytes side =
      process.bytes side + .ofNat (bytesOf (credits.filter (·.side = side))) := by
  cases side with
  | received => exact process.addAll_recv credits
  | sent => exact process.addAll_sent credits

/-- No bytes of a side, in total and with any host. -/
structure Silent (process : ProcessTraffic) (side : Side) : Prop where
  total : process.bytes side = 0
  hosts : ∀ entry ∈ process.hosts.entries, entry.2.bytes side = 0

section Credits
variable (owner : Int × String) {credits : List Credit}

/-- What is credited for the other side only leaves a side silent. -/
theorem silent_addAll {side : Side} (h : ∀ credit ∈ credits, credit.side ≠ side) :
    ((idle owner).addAll credits).Silent side := by
  have hnone (some : Credit → Bool) :
      bytesOf ((credits.filter some).filter (·.side = side)) = 0 := by
    have hnil : (credits.filter some).filter (·.side = side) = [] := by
      rw [List.filter_eq_nil_iff]
      intro credit hcredit
      simpa using h credit (List.mem_of_mem_filter hcredit)
    rw [hnil, bytesOf_nil]
  constructor
  · have htotal := hnone fun _ => true
    rw [List.filter_true] at htotal
    rw [addAll_bytes, htotal]
    cases side <;> rfl
  · intro entry hentry
    rw [find?_idle_addAll owner (OrderedMap.mem_entries_iff.1 hentry), HostTraffic.addAll_bytes,
      hnone]
    cases side <;> rfl

/-- **What is credited is merged from its two sides.** -/
theorem addAll_sides (credits : List Credit) :
    (idle owner).addAll credits =
      ((idle owner).addAll (credits.filter (·.side = .sent))).merge
        ((idle owner).addAll (credits.filter (·.side = .received))) := by
  have hother : credits.filter (fun credit => !decide (credit.side = .sent)) =
      credits.filter (·.side = .received) := by
    refine List.filter_congr fun credit _ => ?_
    cases credit.side <;> rfl
  have hperm : credits.Perm
      (credits.filter (·.side = .sent) ++ credits.filter (·.side = .received)) := by
    rw [← hother]
    exact (List.filter_append_perm (·.side = .sent) credits).symm
  rw [addAll_perm _ hperm, addAll_append]

end Credits

end ProcessTraffic

namespace Attribution

section Batch
variable (machine : LocalAddresses) (index : EndpointIndex) (direction : Direction)
variable (packets : List Packet)

/-! ### A batch -/

/-- Credits are those under both directions that are let through. -/
theorem credits_eq_filter :
    credits machine index direction packets =
      (credits machine index .both packets).filter fun credit =>
        direction.captures credit.side := by
  rw [credits, credits, List.filter_filterMap]
  refine List.filterMap_congr fun packet _ => ?_
  rw [credit?, Verdict.of_eq_under]
  exact Verdict.under_eq_filter rfl direction fun _ => Verdict.side_of_credit?

theorem creditsOf_eq_filter (slot : Nat) :
    creditsOf machine index direction slot packets =
      (creditsOf machine index .both slot packets).filter fun credit =>
        direction.captures credit.side := by
  rw [creditsOf, credits_eq_filter, List.filter_comm, creditsOf]

theorem creditsOf_only (side : Side) (slot : Nat) :
    creditsOf machine index (.only side) slot packets =
      (creditsOf machine index .both slot packets).filter (·.side = side) := by
  rw [creditsOf_eq_filter]
  simp only [Direction.captures_only]

/-- Events are those under both directions that are let through. -/
theorem events_eq_filter (cycle : CycleStats) :
    (ofPackets packets machine index direction cycle).events =
      (ofPackets packets machine index .both cycle).events.filter fun event =>
        direction.lets event.kind.side? := by
  rw [events_ofPackets, events_ofPackets, List.filter_filterMap]
  refine List.filterMap_congr fun packet _ => ?_
  rw [event?, classOf, Verdict.of_eq_under]
  exact Verdict.under_eq_filter rfl direction fun _ => Verdict.side_of_event?

/-- What a direction does not capture, nobody has bytes of. -/
theorem silent_ofPackets {side : Side} (h : direction.captures side = false) (cycle : CycleStats) :
    ∀ process ∈ (ofPackets packets machine index direction cycle).processes,
      process.Silent side := by
  intro process hprocess
  rw [processes_ofPackets, List.mem_mapIdx] at hprocess
  obtain ⟨slot, _, rfl⟩ := hprocess
  refine ProcessTraffic.silent_addAll _ fun credit hcredit hside => ?_
  rw [creditsOf_eq_filter, List.mem_filter, hside, h] at hcredit
  exact Bool.false_ne_true hcredit.2

/-- Events of one kind are let through all or none. -/
theorem events_of_kind (cycle : CycleStats) (kind : EventKind) :
    (ofPackets packets machine index direction cycle).events.filter (·.kind = kind) =
      if direction.lets kind.side? then
        (ofPackets packets machine index .both cycle).events.filter (·.kind = kind)
      else [] := by
  rw [events_eq_filter, List.filter_filter]
  split
  · rename_i hlets
    refine List.filter_congr fun event _ => ?_
    by_cases hkind : event.kind = kind
    · rw [hkind, hlets, Bool.and_true]
    · simp [hkind]
  · rename_i hlets
    rw [List.filter_eq_nil_iff]
    intro event _
    by_cases hkind : event.kind = kind
    · simp [hkind, hlets]
    · simp [hkind]

/-! ### Counters -/

/-- By how much a batch raises the counters. -/
def rise (cycle : CycleStats) : Counters :=
  (ofPackets packets machine index direction cycle).cycle.counters - cycle.counters

section Rise
variable (cycle : CycleStats)

theorem rise_eq :
    rise machine index direction packets cycle =
      PacketClass.sizes (classOf machine index direction) packets := by
  rw [rise, counters_ofPackets, Counters.add_sub_self]

/-- What is attributed is counted credit by credit. -/
theorem rise_attributed :
    (rise machine index direction packets cycle).attributed =
      .ofNat (credits machine index direction packets).length := by
  have hclass : PacketClass.isAttributed ∘ classOf machine index direction =
      fun packet => (credit? machine index direction packet).isSome :=
    funext fun packet => Verdict.isAttributed_class packet _
  rw [rise_eq, credits, List.length_filterMap_eq_countP, ← hclass]
  rfl

/-- What is not mapped is counted event by event. -/
theorem rise_ofKind (kind : EventKind) :
    (rise machine index direction packets cycle).ofKind kind =
      .ofNat ((ofPackets packets machine index direction cycle).events.filter
        (·.kind = kind)).length := by
  have hsize : PacketClass.size (classOf machine index direction) packets kind.class =
      ((ofPackets packets machine index direction cycle).events.filter
        (·.kind = kind)).length := by
    rw [← List.countP_eq_length_filter, events_ofPackets, List.countP_filterMap, PacketClass.size]
    refine List.countP_congr fun packet _ => ?_
    rw [decide_eq_true_iff, ← PacketClass.eventKind?_eq_some_iff, event?]
    cases (classOf machine index direction packet).eventKind? <;> simp
  rw [rise_eq, ← hsize]
  cases kind <;> rfl

/-- A counter of events of one kind rises as under both directions, or not at all. -/
theorem rise_ofKind_eq_ite (kind : EventKind) :
    (rise machine index direction packets cycle).ofKind kind =
      if direction.lets kind.side? then (rise machine index .both packets cycle).ofKind kind
      else 0 := by
  rw [rise_ofKind, rise_ofKind, events_of_kind]
  split <;> rfl

end Rise

end Batch

/-! ### The two directions -/

section Directions
variable (machine : LocalAddresses) (index : EndpointIndex) (packets : List Packet)
variable (cycle : CycleStats)

/-- What both directions attribute, divided between the two. -/
structure Divided : Prop where
  /-- Whatever the direction, there is an entry for every owner, in order. -/
  owners : ∀ direction, (ofPackets packets machine index direction cycle).processes.map
    (fun process => (process.pid, process.command)) = index.owners
  /-- Entry by entry and host by host, both are the sum of the one and the other. -/
  processes : (ofPackets packets machine index .both cycle).processes =
    List.zipWith ProcessTraffic.merge
      (ofPackets packets machine index .send cycle).processes
      (ofPackets packets machine index .recv cycle).processes
  sendBytes : ∀ process ∈ (ofPackets packets machine index .send cycle).processes,
    process.Silent .received
  recvBytes : ∀ process ∈ (ofPackets packets machine index .recv cycle).processes,
    process.Silent .sent
  attributed : (rise machine index .both packets cycle).attributed =
    (rise machine index .send packets cycle).attributed +
      (rise machine index .recv packets cycle).attributed
  unmappedRecv : (rise machine index .both packets cycle).unmappedRecv =
    (rise machine index .send packets cycle).unmappedRecv +
      (rise machine index .recv packets cycle).unmappedRecv
  unmappedSend : (rise machine index .both packets cycle).unmappedSend =
    (rise machine index .send packets cycle).unmappedSend +
      (rise machine index .recv packets cycle).unmappedSend
  sendUnmapped : (rise machine index .send packets cycle).unmappedRecv = 0
  recvUnmapped : (rise machine index .recv packets cycle).unmappedSend = 0
  undetermined : ∀ direction, (rise machine index direction packets cycle).undetermined =
    (rise machine index .both packets cycle).undetermined
  undeterminedEvents : ∀ direction,
    (ofPackets packets machine index direction cycle).events.filter (·.kind = .undetermined) =
      (ofPackets packets machine index .both cycle).events.filter (·.kind = .undetermined)
  /-- Of what is unmapped, each direction has the events about its side, and no others. -/
  recvEvents :
    (ofPackets packets machine index .both cycle).events.filter (·.kind = .unmappedRecv) =
      (ofPackets packets machine index .recv cycle).events.filter (·.kind ≠ .undetermined)
  sendEvents :
    (ofPackets packets machine index .both cycle).events.filter (·.kind = .unmappedSend) =
      (ofPackets packets machine index .send cycle).events.filter (·.kind ≠ .undetermined)

theorem processes_both :
    (ofPackets packets machine index .both cycle).processes =
      List.zipWith ProcessTraffic.merge
        (ofPackets packets machine index .send cycle).processes
        (ofPackets packets machine index .recv cycle).processes := by
  rw [processes_ofPackets, processes_ofPackets, processes_ofPackets]
  refine List.ext_getElem? fun slot => ?_
  rw [List.getElem?_zipWith, List.getElem?_mapIdx, List.getElem?_mapIdx, List.getElem?_mapIdx]
  cases index.owners[slot]? with
  | none => rfl
  | some owner =>
    have hsend := creditsOf_only machine index packets .sent slot
    have hrecv := creditsOf_only machine index packets .received slot
    simp only [Direction.only] at hsend hrecv
    rw [hsend, hrecv]
    exact congrArg some (ProcessTraffic.addAll_sides owner _)

/-- A credit is of one side or the other. -/
theorem length_credits_both :
    (credits machine index .both packets).length =
      (credits machine index .send packets).length +
        (credits machine index .recv packets).length := by
  rw [credits_eq_filter machine index .send, credits_eq_filter machine index .recv,
    List.length_eq_countP_add_countP fun credit => Direction.send.captures credit.side,
    List.countP_eq_length_filter, List.countP_eq_length_filter]
  congr 2
  refine List.filter_congr fun credit _ => ?_
  cases credit.side <;> rfl

/-- Events about a side are counted under its direction and not under the other. -/
theorem rise_ofKind_both {side : Side} (kind : EventKind) (hkind : kind.side? = some side) :
    (rise machine index .both packets cycle).ofKind kind =
      (rise machine index .send packets cycle).ofKind kind +
        (rise machine index .recv packets cycle).ofKind kind := by
  rw [rise_ofKind_eq_ite machine index .send, rise_ofKind_eq_ite machine index .recv, hkind]
  cases side with
  | received => exact (UInt64.zero_add _).symm
  | sent => exact (UInt64.add_zero _).symm

/-- Besides what is undetermined, one direction tells of one kind of event. -/
theorem events_only (side : Side) {kind : EventKind} (hkind : kind.side? = some side) :
    (ofPackets packets machine index .both cycle).events.filter (·.kind = kind) =
      (ofPackets packets machine index (.only side) cycle).events.filter
        (·.kind ≠ .undetermined) := by
  rw [events_eq_filter machine index (.only side), List.filter_filter]
  refine List.filter_congr fun event _ => ?_
  rw [Bool.eq_iff_iff, decide_eq_true_iff, EventKind.eq_iff_lets_only hkind, Bool.and_eq_true,
    decide_eq_true_iff]

/-- **Directions divide traffic.** What is attributed under both directions is, entry by entry,
host by host and counter by counter, the sum of what is attributed under the one and under the
other; each of them is silent on the other; and what has no side is told of by all alike. -/
theorem directions_divide_traffic : Divided machine index packets cycle where
  owners direction := owners_ofPackets machine index direction packets cycle
  processes := processes_both machine index packets cycle
  sendBytes := silent_ofPackets machine index .send packets rfl cycle
  recvBytes := silent_ofPackets machine index .recv packets rfl cycle
  attributed := by
    rw [rise_attributed, rise_attributed, rise_attributed, length_credits_both, UInt64.ofNat_add]
  unmappedRecv := rise_ofKind_both machine index packets cycle .unmappedRecv rfl
  unmappedSend := rise_ofKind_both machine index packets cycle .unmappedSend rfl
  sendUnmapped := rise_ofKind_eq_ite machine index .send packets cycle .unmappedRecv
  recvUnmapped := rise_ofKind_eq_ite machine index .recv packets cycle .unmappedSend
  undetermined direction := rise_ofKind_eq_ite machine index direction packets cycle .undetermined
  undeterminedEvents direction :=
    events_of_kind machine index direction packets cycle .undetermined
  recvEvents := events_only machine index packets cycle .received rfl
  sendEvents := events_only machine index packets cycle .sent rfl

end Directions

end Attribution

end Flowmeter
