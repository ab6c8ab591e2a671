import Flowmeter.Proofs.Attribution.Accounting
import Flowmeter.Proofs.Monitor.Windows

/-! What a pause drops.

Whether packets are attributed is decided when they are collected, not when they are published:
a refresh drops what it collects if the monitor is paused then. So a batch that is published
during a pause is dropped if the pause lasts until the next refresh, and whatever that refresh
does with the batch, later ones tell nothing of it (`batches_end_at_the_next_refresh`). If the
monitor is resumed before that refresh, the batch is attributed with the rest of its window
(`resumed_before_refresh`). -/
namespace Flowmeter

/-- The call is no refresh. -/
def Call.Calm : Call → Prop
  | refresh .. => False
  | publish _ | togglePause => True

/-- The second calls publish one batch more than the first, in a call of its own or amid a
refresh. -/
inductive OneMore (frames : List Frame) : List Call → List Call → Prop
  | call : OneMore frames [] [.publish frames]
  | amid (source : Source) (now : Nat) (earlier later : List (List Frame)) :
    OneMore frames [.refresh source now (earlier ++ later)]
      [.refresh source now (earlier ++ frames :: later)]

/-- The refresh was paused: it tells how many frames there were, and of no traffic. -/
structure Visit.Dropped (visit : Visit) : Prop where
  result : ∃ total elapsed,
    visit.result = .ok { processes := [], cycle := { total }, elapsed, paused := true }
  events : visit.events = []

/-- An entry for each process, unless the refresh was paused or failed. -/
def Visit.processes (visit : Visit) : List ProcessTraffic :=
  match visit.result with
  | .ok report => report.processes
  | .error _ => []

/-- The packets a refresh works on, and what it tells of them. -/
def Visit.traffic (visit : Visit) : List Packet × List ProcessTraffic × List Event :=
  (visit.packets, visit.processes, visit.events)

theorem Window.visit_dropped (machine : LocalAddresses) (direction : Direction) {window : Window}
    (h : window.paused = true) : (window.visit machine direction).Dropped := by
  rw [Window.visit, if_pos h]
  exact ⟨⟨_, _, rfl⟩, rfl⟩

theorem Window.visit_packets (machine : LocalAddresses) (direction : Direction) (window : Window) :
    (window.visit machine direction).packets = window.packets := by
  unfold visit
  split
  · rfl
  · cases Inventory.build window.source <;> rfl

/-- How many frames were counted does not show in the traffic. -/
theorem Window.traffic_visit (machine : LocalAddresses) (direction : Direction) (window : Window)
    (frames : Nat) :
    ({ window with frames }.visit machine direction).traffic =
      (window.visit machine direction).traffic := by
  unfold visit
  split
  · rfl
  · cases Inventory.build window.source with
    | error error => rfl
    | ok inventory =>
      simp only [Visit.traffic, Visit.processes, Attribution.processes_ofPackets,
        Attribution.events_ofPackets]

namespace Ledger

theorem run_append (ledger : Ledger) (calls more : List Call) :
    ledger.run (calls ++ more) = (ledger.run calls).run more := List.foldl_append

/-- Without a refresh, what is published piles up. -/
theorem pending_run_of_calm (ledger : Ledger) {calls : List Call} (h : ∀ call ∈ calls, call.Calm) :
    (ledger.run calls).pending = ledger.pending ++ calls.flatMap Call.packets := by
  induction calls generalizing ledger with
  | nil => exact (List.append_nil _).symm
  | cons first rest ih =>
    have hrest := ih (ledger.call first) fun call hcall => h call (List.mem_cons_of_mem _ hcall)
    have hfirst : (ledger.call first).pending = ledger.pending ++ first.packets := by
      cases first with
      | publish frames => rfl
      | togglePause => exact (List.append_nil _).symm
      | refresh source now meanwhile => exact (h _ (List.mem_cons_self ..)).elim
    rw [List.flatMap_cons, ← List.append_assoc, ← hfirst]
    exact hrest

/-- Whether a monitor is paused depends on its state before and on the calls alone. -/
theorem paused_run {ledger other : Ledger} (h : ledger.paused = other.paused) (calls : List Call) :
    (ledger.run calls).paused = (other.run calls).paused := by
  induction calls generalizing ledger other with
  | nil => exact h
  | cons first rest ih =>
    refine @ih (ledger.call first) (other.call first) ?_
    cases first with
    | publish frames => exact h
    | togglePause => exact congrArg (!·) h
    | refresh source now meanwhile => exact h

/-- A refresh settles everything but whether the monitor is paused. -/
theorem call_refresh_congr {ledger other : Ledger} (h : ledger.paused = other.paused)
    (source : Source) (now : Nat) (meanwhile : List (List Frame)) :
    ledger.call (.refresh source now meanwhile) = other.call (.refresh source now meanwhile) := by
  rw [call, call, h]

end Ledger

/-! ### One batch more -/

namespace OneMore

variable {frames : List Frame} {without published : List Call}
  (h : OneMore frames without published) (ledger : Ledger)
include h

/-- What is published amid a refresh does not show in its traffic. -/
theorem windows_traffic (machine : LocalAddresses) (direction : Direction) :
    ((ledger.windows published).map fun window => (window.visit machine direction).traffic) =
      (ledger.windows without).map fun window => (window.visit machine direction).traffic := by
  cases h with
  | call => rfl
  | amid source now earlier later =>
    exact congrArg ([·]) (Window.traffic_visit machine direction ⟨ledger.pending, _, ledger.paused,
      source, .between ledger.lastRefresh now⟩ _)

theorem pending_run :
    ∃ left right, (ledger.run published).pending = left ++ packetsOf frames ++ right := by
  cases h with
  | call => exact ⟨ledger.pending, [], (List.append_nil _).symm⟩
  | amid source now earlier later =>
    refine ⟨packetsOf earlier.flatten, packetsOf later.flatten, ?_⟩
    show packetsOf (earlier ++ frames :: later).flatten = _
    simp [packetsOf]

variable (before : List Call) {middle : List Call}

/-- The batch is pending until the next refresh. -/
theorem pending_until (hcalm : ∀ call ∈ middle, call.Calm) :
    ∃ left right, (ledger.run (before ++ published ++ middle)).pending =
      left ++ packetsOf frames ++ right := by
  obtain ⟨left, right, hpending⟩ := h.pending_run (ledger.run before)
  refine ⟨left, right ++ middle.flatMap Call.packets, ?_⟩
  rw [Ledger.run_append, Ledger.run_append, Ledger.pending_run_of_calm _ hcalm, hpending,
    List.append_assoc]

/-- After a refresh nothing is left of the batch: the refresh collects and takes all that the
ledgers differ in. -/
theorem call_refresh (source : Source) (now : Nat) (meanwhile : List (List Frame)) :
    (ledger.run (before ++ published ++ middle)).call (.refresh source now meanwhile) =
      (ledger.run (before ++ without ++ middle)).call (.refresh source now meanwhile) := by
  have hpublished (ledger : Ledger) :
      (ledger.run published).paused = (ledger.run without).paused := by
    cases h <;> rfl
  simp only [Ledger.run_append]
  exact Ledger.call_refresh_congr (Ledger.paused_run (hpublished _) middle) source now meanwhile

end OneMore

namespace Monitor

/-- **Batches end at the next refresh.** Whether a batch is published amid a refresh or between
two, the refresh that works on it is the next one to begin, which drops it if the monitor is
paused then. Refreshes after that one tell what they would tell without the batch. With nothing
published between its halves, that next one is `refresh` itself. -/
theorem batches_end_at_the_next_refresh {monitor : Monitor} (hrunning : monitor.thread = .running)
    {frames : List Frame} {without published : List Call} (hone : OneMore frames without published)
    (before : List Call) {middle : List Call} (hcalm : ∀ call ∈ middle, call.Calm)
    (source : Source) (now : Nat) (meanwhile : List (List Frame)) :
    let next := Call.refresh source now meanwhile
    let there := monitor.run (before ++ published ++ middle)
    let missing := monitor.run (before ++ without ++ middle)
    ((monitor.run before).visits published).map Visit.traffic =
      ((monitor.run before).visits without).map Visit.traffic ∧
    (∃ visit, there.visit? next = some visit ∧
      (∃ left right, visit.packets = left ++ packetsOf frames ++ right) ∧
      (there.paused = true → visit.Dropped)) ∧
    (∀ after, (there.call next).visits after = (missing.call next).visits after) ∧
    { there with source }.refreshAmid now [] = { there with source }.refresh now := by
  intro next there missing
  have hbefore := (follows_ledger hrunning).run before
  have hthere : there.Follows monitor.machine monitor.direction
      (monitor.ledger.run (before ++ published ++ middle)) := (follows_ledger hrunning).run _
  have hmissing : missing.Follows monitor.machine monitor.direction
      (monitor.ledger.run (before ++ without ++ middle)) := (follows_ledger hrunning).run _
  refine ⟨?_, ⟨_, hthere.visit?_eq next, ?_, fun hpaused => ?_⟩, fun after => ?_, ?_⟩
  · rw [visits_eq hbefore, visits_eq hbefore, List.map_map, List.map_map]
    exact hone.windows_traffic (monitor.ledger.run before) monitor.machine monitor.direction
  · rw [Window.visit_packets]
    exact hone.pending_until monitor.ledger before hcalm
  · exact Window.visit_dropped _ _ (hthere.paused.symm.trans hpaused)
  · rw [visits_eq (hthere.call next), visits_eq (hmissing.call next),
      hone.call_refresh monitor.ledger before]
  · have hgoing : { there with source }.thread = .running := hthere.running
    exact refreshAmid_nil hgoing now

/-- A batch that is published during a pause, another one behind it, and a refresh. -/
theorem batches_end_in_a_pause :
    fresh.thread = .running ∧ OneMore [sent] [] [.publish [sent]] ∧
    (∀ call ∈ [Call.publish [sent, sent]], call.Calm) ∧
    let next := Call.refresh client 1 []
    let there := fresh.run ([.togglePause] ++ [.publish [sent]] ++ [.publish [sent, sent]])
    let missing := fresh.run ([.togglePause] ++ [] ++ [.publish [sent, sent]])
    there.paused = true ∧
    ((fresh.run [.togglePause]).visits [.publish [sent]]).map Visit.traffic =
      ((fresh.run [.togglePause]).visits []).map Visit.traffic ∧
    (∃ visit, there.visit? next = some visit ∧
      (∃ left right, visit.packets = left ++ packetsOf [sent] ++ right) ∧
      (there.paused = true → visit.Dropped)) ∧
    (∀ after, (there.call next).visits after = (missing.call next).visits after) ∧
    { there with source := client }.refreshAmid 1 [] =
      { there with source := client }.refresh 1 := by
  have hcalm : ∀ call ∈ [Call.publish [sent, sent]], call.Calm := by simp [Call.Calm]
  exact ⟨rfl, .call, hcalm, rfl, batches_end_at_the_next_refresh rfl .call [.togglePause] hcalm
    client 1 []⟩

/-- A batch that is published during a pause is attributed if the pause ends before the next
refresh. -/
theorem resumed_before_refresh :
    (fresh.run [.togglePause]).paused = true ∧
    (fresh.visits [.togglePause, .publish [sent], .togglePause, .refresh client 1 []]).map
        (fun visit => visit.processes.map fun process => (process.pid, process.sent)) =
      [[(-1, 0), (42, 44)]] := by
  decide +kernel

end Monitor

end Flowmeter
