import Flowmeter.Monitor.Basic

/-! The windows of a monitor.

While the capture goes on, batches are published and a monitor is paused, resumed and
refreshed, in any order. A `Ledger` is what these calls alone say of the monitor: what is
published and not collected, what is counted and not taken, whether it is paused and when it
was refreshed last. The calls cut what is published into a `Window` for each refresh, and
`Window.visit` says what the refresh tells of it. A monitor follows its ledger through every
call (`Follows.call`), whatever its buffer holds, so its refreshes tell of these windows and of
nothing else (`visits_eq`), and every packet published is in one window or still queued
(`windows_make_up`). -/
namespace Flowmeter

/-- What happens to a monitor while its capture goes on. -/
inductive Call
  | publish (frames : List Frame)
  | togglePause
  /-- A refresh at a time, with what answers about processes and sockets then. The batches of
  `meanwhile` are published after the packets are collected and before the count is taken. -/
  | refresh (source : Source) (now : Nat) (meanwhile : List (List Frame))

/-- The packets of frames. -/
def packetsOf (frames : List Frame) : List Packet := frames.filterMap Frame.packet?

/-- The packets that are published by a call. -/
def Call.packets : Call → List Packet
  | publish frames => packetsOf frames
  | togglePause => []
  | refresh _ _ meanwhile => packetsOf meanwhile.flatten

/-- What can be seen of a refresh: the packets it works on, and what it tells. -/
structure Visit where
  packets : List Packet
  result : Except MonitorError CycleReport
  events : List Event

/-! ### The monitor -/

namespace Monitor

section Steps
variable (monitor : Monitor)

def publish (frames : List Frame) : Monitor := monitor.dispatch (.frames frames)

/-- A refresh, with batches that are published between its halves. -/
def refreshAmid (now : Nat) (meanwhile : List (List Frame)) : Refresh :=
  (meanwhile.foldl publish (monitor.collect now)).settle (.between monitor.lastRefresh now)

/-- Undisturbed, the two halves are a refresh. -/
theorem refreshAmid_nil {monitor : Monitor} (hrunning : monitor.thread = .running) (now : Nat) :
    monitor.refreshAmid now [] = monitor.refresh now := by
  have hgoing : ¬monitor.thread.isFinished = true := by rw [hrunning]; exact Bool.false_ne_true
  rw [refresh, if_neg hgoing]
  rfl

def call : Call → Monitor
  | .publish frames => monitor.publish frames
  | .togglePause => monitor.togglePause
  | .refresh source now meanwhile => ({ monitor with source }.refreshAmid now meanwhile).monitor

def visit? : Call → Option Visit
  | .refresh source now meanwhile =>
    let refreshed := { monitor with source }.refreshAmid now meanwhile
    some ⟨({ monitor with source }.collect now).buffer, refreshed.result, refreshed.events⟩
  | _ => none

/-- The calls one after the other. -/
def run (calls : List Call) : Monitor := calls.foldl call monitor

end Steps

/-- The refreshes among the calls, in order. -/
def visits (monitor : Monitor) : List Call → List Visit
  | [] => []
  | first :: rest => (monitor.visit? first).toList ++ visits (monitor.call first) rest

end Monitor

/-! ### What the calls say -/

/-- The packets that a refresh is to work on, and how it stands then. -/
structure Window where
  /-- The packets published since the collection before, in order. -/
  packets : List Packet
  /-- The frames counted since the count was taken before. -/
  frames : Nat
  paused : Bool
  source : Source
  elapsed : Elapsed

/-- What a refresh tells of its window. While paused it tells of no traffic. Otherwise it
attributes the window, if an inventory can be built. -/
def Window.visit (machine : LocalAddresses) (direction : Direction) (window : Window) : Visit :=
  let cycle : CycleStats := { total := .ofNat window.frames }
  if window.paused then
    { packets := window.packets
      result := .ok { processes := [], cycle, elapsed := window.elapsed, paused := true }
      events := [] }
  else match Inventory.build window.source with
    | .error error =>
      { packets := window.packets, result := .error (.inventory error), events := [] }
    | .ok inventory =>
      let attribution := Attribution.ofPackets window.packets machine inventory.endpointIndex
        direction cycle
      { packets := window.packets
        result := .ok {
          processes := attribution.processes
          cycle := attribution.cycle
          elapsed := window.elapsed
          paused := false }
        events := attribution.events }

/-- What the calls so far say of a monitor. -/
structure Ledger where
  /-- The packets published and not collected. -/
  pending : List Packet
  /-- The frames counted since the count was taken. -/
  uncounted : Nat
  paused : Bool
  lastRefresh : Nat

namespace Ledger

def call (ledger : Ledger) : Call → Ledger
  | .publish frames => { ledger with
      pending := ledger.pending ++ packetsOf frames
      uncounted := ledger.uncounted + frames.length }
  | .togglePause => { ledger with paused := !ledger.paused }
  | .refresh _ now meanwhile => { ledger with
      pending := packetsOf meanwhile.flatten
      uncounted := 0
      lastRefresh := now }

def window? (ledger : Ledger) : Call → Option Window
  | .refresh source now meanwhile => some {
      packets := ledger.pending
      frames := ledger.uncounted + meanwhile.flatten.length
      paused := ledger.paused
      source
      elapsed := .between ledger.lastRefresh now }
  | _ => none

def run (ledger : Ledger) (calls : List Call) : Ledger := calls.foldl call ledger

/-- The windows that the calls cut. -/
def windows (ledger : Ledger) : List Call → List Window
  | [] => []
  | first :: rest => (ledger.window? first).toList ++ windows (ledger.call first) rest

/-- What one call publishes is pending after it, behind what was pending and was not
collected. -/
theorem pending_call (ledger : Ledger) (call : Call) :
    (ledger.window? call).toList.flatMap Window.packets ++ (ledger.call call).pending =
      ledger.pending ++ call.packets := by
  cases call with
  | publish frames => rfl
  | togglePause => exact (List.append_nil _).symm
  | refresh source now meanwhile => simp [window?, Ledger.call, Call.packets]

/-- **The windows make up what is published**, but for what is pending. -/
theorem windows_make_up (ledger : Ledger) (calls : List Call) :
    (ledger.windows calls).flatMap Window.packets ++ (ledger.run calls).pending =
      ledger.pending ++ calls.flatMap Call.packets := by
  induction calls generalizing ledger with
  | nil => exact (List.append_nil _).symm
  | cons first rest ih =>
    have hrun : ledger.run (first :: rest) = (ledger.call first).run rest := rfl
    rw [windows, hrun, List.flatMap_append, List.append_assoc, ih, List.flatMap_cons,
      ← List.append_assoc, pending_call, List.append_assoc]

end Ledger

/-! ### The monitor follows -/

namespace Monitor

/-- The ledger of a monitor as it stands. -/
def ledger (monitor : Monitor) : Ledger where
  pending := monitor.exchange.packets.items
  uncounted := monitor.exchange.counter.frames.toNat
  paused := monitor.paused
  lastRefresh := monitor.lastRefresh

/-- The capture goes on, and the monitor stands as a ledger says. Of the buffer nothing is
said. -/
structure Follows (machine : LocalAddresses) (direction : Direction) (monitor : Monitor)
    (ledger : Ledger) : Prop where
  running : monitor.thread = .running
  machine : monitor.machine = machine
  direction : monitor.direction = direction
  pending : monitor.exchange.packets.items = ledger.pending
  uncounted : monitor.exchange.counter.frames = .ofNat ledger.uncounted
  paused : monitor.paused = ledger.paused
  lastRefresh : monitor.lastRefresh = ledger.lastRefresh

theorem follows_ledger {monitor : Monitor} (hrunning : monitor.thread = .running) :
    monitor.Follows monitor.machine monitor.direction monitor.ledger :=
  ⟨hrunning, rfl, rfl, rfl, UInt64.ofNat_toNat.symm, rfl, rfl⟩

/-- What a publication does. -/
theorem publish_eq {monitor : Monitor} (hrunning : monitor.thread = .running)
    (frames : List Frame) :
    monitor.publish frames =
      { monitor with exchange := monitor.exchange.publish ⟨packetsOf frames, frames.length⟩ } := by
  rw [publish, dispatch, hrunning, packetsOf, ← Batch.ofFrames_eq]
  cases monitor
  cases hrunning
  rfl

/-- What a monitor becomes after a refresh does not depend on what it tells, but for the
buffer. -/
theorem conclude_monitor (monitor : Monitor) (frames : UInt64) (elapsed : Elapsed) :
    (monitor.conclude frames elapsed).monitor = monitor ∨
      (monitor.conclude frames elapsed).monitor = monitor.clearBuffer := by
  unfold conclude
  split
  · exact .inr rfl
  · split
    · exact .inl rfl
    · exact .inr rfl

namespace Follows

variable {machine : LocalAddresses} {direction : Direction} {monitor : Monitor} {ledger : Ledger}
  (h : monitor.Follows machine direction ledger)
include h

theorem publish (frames : List Frame) :
    (monitor.publish frames).Follows machine direction (ledger.call (.publish frames)) := by
  rw [publish_eq h.running]
  exact {
    running := h.running
    machine := h.machine
    direction := h.direction
    pending := congrArg (· ++ packetsOf frames) h.pending
    uncounted := by
      show monitor.exchange.counter.frames + .ofNat frames.length = _
      rw [h.uncounted, ← UInt64.ofNat_add]
      rfl
    paused := h.paused
    lastRefresh := h.lastRefresh }

theorem togglePause : monitor.togglePause.Follows machine direction (ledger.call .togglePause) where
  running := h.running
  machine := h.machine
  direction := h.direction
  pending := h.pending
  uncounted := h.uncounted
  paused := congrArg (!·) h.paused
  lastRefresh := h.lastRefresh

theorem publishAll (batches : List (List Frame)) :
    (batches.foldl Monitor.publish monitor).Follows machine direction { ledger with
      pending := ledger.pending ++ packetsOf batches.flatten
      uncounted := ledger.uncounted + batches.flatten.length } := by
  induction batches generalizing monitor ledger with
  | nil => simpa [packetsOf] using h
  | cons frames rest ih =>
    have hrest := ih (h.publish frames)
    simpa [Ledger.call, packetsOf, List.append_assoc, Nat.add_assoc] using hrest

theorem collect (now : Nat) : (monitor.collect now).Follows machine direction { ledger with
    pending := []
    lastRefresh := now } where
  running := h.running
  machine := h.machine
  direction := h.direction
  pending := rfl
  uncounted := h.uncounted
  paused := h.paused
  lastRefresh := rfl

/-- What a refresh leaves behind, whether it tells of its window, drops it or fails. -/
theorem settle (elapsed : Elapsed) : (monitor.settle elapsed).monitor.Follows machine direction
    { ledger with uncounted := 0 } := by
  have htaken : monitor.takeFrames.2.Follows machine direction { ledger with uncounted := 0 } :=
    { h with uncounted := rfl }
  rw [Monitor.settle]
  rcases conclude_monitor monitor.takeFrames.2 monitor.takeFrames.1 elapsed with heq | heq
  · rw [heq]
    exact htaken
  · rw [heq]
    exact { htaken with }

end Follows

/-- Publications change what is handed over, and nothing else. -/
theorem publishAll_eq {monitor : Monitor} (hrunning : monitor.thread = .running)
    (batches : List (List Frame)) :
    batches.foldl publish monitor =
      { monitor with exchange := (batches.foldl publish monitor).exchange } := by
  induction batches generalizing monitor with
  | nil => rfl
  | cons frames rest ih =>
    have hrest := ih ((congrArg thread (publish_eq hrunning frames)).trans hrunning)
    rw [List.foldl_cons, hrest, publish_eq hrunning]

/-- What a refresh tells depends on what is in the buffer once the packets are collected. -/
theorem visit_conclude (monitor : Monitor) (frames : Nat) (elapsed : Elapsed) :
    (⟨monitor.buffer, (monitor.conclude (.ofNat frames) elapsed).result,
      (monitor.conclude (.ofNat frames) elapsed).events⟩ : Visit) =
    Window.visit monitor.machine monitor.direction
      ⟨monitor.buffer, frames, monitor.paused, monitor.source, elapsed⟩ := by
  unfold conclude Window.visit
  split
  · rfl
  · cases Inventory.build monitor.source <;> rfl

namespace Follows

variable {machine : LocalAddresses} {direction : Direction} {monitor : Monitor} {ledger : Ledger}
  (h : monitor.Follows machine direction ledger)
include h

/-- One call. -/
theorem call (call : Call) : (monitor.call call).Follows machine direction (ledger.call call) := by
  cases call with
  | publish frames => exact h.publish frames
  | togglePause => exact h.togglePause
  | refresh source now meanwhile =>
    have hsource : { monitor with source }.Follows machine direction ledger := { h with }
    have hsettled := ((hsource.collect now).publishAll meanwhile).settle
      (.between monitor.lastRefresh now)
    rw [List.nil_append] at hsettled
    exact hsettled

/-- What the second half of a refresh tells. -/
theorem visit_settle (elapsed : Elapsed) :
    (⟨monitor.buffer, (monitor.settle elapsed).result, (monitor.settle elapsed).events⟩ : Visit) =
      Window.visit machine direction
        ⟨monitor.buffer, ledger.uncounted, ledger.paused, monitor.source, elapsed⟩ := by
  have hsettle : monitor.settle elapsed =
      monitor.takeFrames.2.conclude (.ofNat ledger.uncounted) elapsed := by
    rw [← h.uncounted]
    rfl
  rw [hsettle, ← h.machine, ← h.direction, ← h.paused]
  exact visit_conclude monitor.takeFrames.2 ledger.uncounted elapsed

/-- A refresh tells of the window that the calls cut. -/
theorem visit?_eq (call : Call) :
    monitor.visit? call = (ledger.window? call).map (·.visit machine direction) := by
  cases call with
  | publish frames => rfl
  | togglePause => rfl
  | refresh source now meanwhile =>
    have hsource : { monitor with source }.Follows machine direction ledger := { h with }
    have hhalf := (hsource.collect now).publishAll meanwhile
    have hsame := publishAll_eq (hsource.collect now).running meanwhile
    -- What is published between the halves reaches neither the buffer nor the source.
    have hbuffer : (meanwhile.foldl Monitor.publish
        ({ monitor with source }.collect now)).buffer = ledger.pending :=
      (congrArg buffer hsame).trans h.pending
    have hnow : (meanwhile.foldl Monitor.publish
        ({ monitor with source }.collect now)).source = source :=
      congrArg Monitor.source hsame
    have hvisit := hhalf.visit_settle (.between monitor.lastRefresh now)
    rw [hbuffer, hnow] at hvisit
    refine congrArg some ?_
    show (⟨monitor.exchange.packets.items, _, _⟩ : Visit) = _
    rw [h.pending, ← h.lastRefresh]
    exact hvisit

end Follows

/-- **Refreshes tell of windows**: what can be seen of them is told of the windows that the
calls cut, whatever the buffer holds before. -/
theorem visits_eq {monitor : Monitor} {ledger : Ledger} {machine : LocalAddresses}
    {direction : Direction} (h : monitor.Follows machine direction ledger) (calls : List Call) :
    monitor.visits calls = (ledger.windows calls).map (·.visit machine direction) := by
  induction calls generalizing monitor ledger with
  | nil => rfl
  | cons first rest ih =>
    rw [visits, Ledger.windows, h.visit?_eq, ih (h.call first), List.map_append]
    cases ledger.window? first <;> rfl

theorem Follows.run {monitor : Monitor} {ledger : Ledger} {machine : LocalAddresses}
    {direction : Direction} (h : monitor.Follows machine direction ledger) (calls : List Call) :
    (monitor.run calls).Follows machine direction (ledger.run calls) := by
  induction calls generalizing monitor ledger with
  | nil => exact h
  | cons first rest ih => exact ih (h.call first)

/-- **Windows are seen once**, while the capture goes on. Every refresh tells of the packets
published since the collection before, in order, and of nothing else: it attributes them under
the inventory built from what answers then, and drops them if it is paused or none can be
built. What was published is in one window or still queued, and so is nowhere twice. A refresh
between whose halves nothing is published is `refresh` itself, wherever it stands. -/
theorem windows_are_seen_once (monitor : Monitor) (hrunning : monitor.thread = .running)
    (calls : List Call) :
    monitor.visits calls =
      (monitor.ledger.windows calls).map (·.visit monitor.machine monitor.direction) ∧
    (monitor.ledger.windows calls).flatMap Window.packets ++
        (monitor.run calls).exchange.packets.items =
      monitor.exchange.packets.items ++ calls.flatMap Call.packets ∧
    ∀ before source now, before <+: calls →
      { monitor.run before with source }.refreshAmid now [] =
        { monitor.run before with source }.refresh now := by
  have hfollows := follows_ledger hrunning
  refine ⟨visits_eq hfollows calls, ?_, fun before source now _ => ?_⟩
  · rw [(hfollows.run calls).pending]
    exact Ledger.windows_make_up monitor.ledger calls
  · have hgoing : { monitor.run before with source }.thread = .running :=
      (hfollows.run before).running
    exact refreshAmid_nil hgoing now

/-- One process holds a socket. -/
def client : Source where
  table
    | .udp => some "0: 0800A8C0:1388 00000000:0000 0 0 0 0 0 0 7\n"
    | _ => none
  pids := .ok [42]
  inodes _ := some [7]
  command _ := some "client"

/-- Nobody tells which processes there are. -/
def silent : Source := { client with pids := .error (.processTable "no access") }

/-- A packet from the socket. -/
def sent : Frame where
  data := List.replicate 14 0 ++ [8, 0] ++
    [0x45, 0, 0, 28, 0, 0, 0, 0, 64, 17, 0, 0, 192, 168, 0, 8, 1, 1, 1, 1] ++
    [0x13, 0x88, 0, 53, 0, 8, 0, 0]
  wireLength := 44
  time := 0

/-- A monitor that was told of nothing yet. -/
def fresh : Monitor where
  direction := .both
  machine := .ofList [.quad 192 168 0 8]
  source := client

/-- A refresh that is paused, one that fails while more is published, and one that succeeds. -/
def threeRefreshes : List Call := [
  .publish [sent], .togglePause, .refresh client 1 [], .togglePause,
  .publish [sent, sent], .refresh silent 2 [[sent]], .refresh client 3 []]

theorem windows_of_three_refreshes :
    fresh.thread = .running ∧
    fresh.visits threeRefreshes =
      (fresh.ledger.windows threeRefreshes).map (·.visit fresh.machine fresh.direction) ∧
    (fresh.ledger.windows threeRefreshes).flatMap Window.packets ++
        (fresh.run threeRefreshes).exchange.packets.items =
      fresh.exchange.packets.items ++ threeRefreshes.flatMap Call.packets ∧
    { fresh.run [.publish [sent], .togglePause] with source := client }.refreshAmid 1 [] =
      { fresh.run [.publish [sent], .togglePause] with source := client }.refresh 1 := by
  obtain ⟨hvisits, hpackets, hrefresh⟩ := windows_are_seen_once fresh rfl threeRefreshes
  exact ⟨rfl, hvisits, hpackets, hrefresh [.publish [sent], .togglePause] client 1
    ⟨threeRefreshes.drop 2, rfl⟩⟩

/-- How many packets each of them works on. -/
example : (fresh.visits threeRefreshes).map (·.packets.length) = [1, 2, 1] := by decide

end Monitor

end Flowmeter
