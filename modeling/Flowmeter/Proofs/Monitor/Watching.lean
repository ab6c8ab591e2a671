import Flowmeter.Proofs.Monitor.Windows

/-! A monitor watched with its capture thread.

The thread looks at the stop flag, lets its backend read, and publishes what was read in two
steps; the owner of the monitor refreshes, pauses and shuts it down. A `Watch` is where both
stand, with a record of what they did; `run` lets them move in the order of a schedule, where a
move that is not possible does nothing. Undisturbed, the moves are the monitor's own operations
(`run_dispatch`, `run_refresh`, `run_shutdown`). `Told` says who has been told how the thread
ended: whoever asks first, and nobody else. -/
namespace Flowmeter

/-- What a backend does, dispatch by dispatch: it reads frames, or it fails. -/
abbrev Script := Nat → Except CaptureFailure (List Frame)

/-- The dispatch that fails so. -/
def CaptureFailure.dispatch : CaptureFailure → Dispatch
  | failed error => .fail error
  | panicked => .panic

/-- Where the loop of a capture thread stands. -/
inductive Station
  /-- The stop flag is looked at next. -/
  | head
  /-- The backend reads. -/
  | reading
  /-- The packets of the frames are queued, and the frames are to be counted. -/
  | counting (frames : List Frame)

/-- The batch that is queued and not counted. -/
def Station.batch : Station → List (List Frame)
  | counting frames => [frames]
  | _ => []

/-- What the owner of a monitor is in the middle of. -/
inductive Errand
  | none
  /-- A refresh that found the thread running, before it collects the packets. -/
  | collecting (now : Nat)
  /-- The same refresh, before it takes the count. -/
  | settling (elapsed : Elapsed)
  /-- A shutdown that waits for the thread. -/
  | waiting

/-- What a call has answered. -/
inductive Answer
  | refreshed (result : Except MonitorError CycleReport)
  | stopped (ending : Ending)

/-- A monitor, where its capture thread and its owner stand, and what they did so far. -/
structure Watch where
  monitor : Monitor
  stopFlag : Bool := false
  station : Station := .head
  errand : Errand := .none
  /-- The batches whose dispatch is done, in order. -/
  made : List (List Frame) := []
  /-- How the thread has ended, once it has. -/
  ending : Option Ending := none
  /-- The packets that refreshes have collected, in order. -/
  collected : List Packet := []
  /-- The counts that refreshes have taken, in order. -/
  taken : List UInt64 := []
  /-- What the calls have answered, in order. -/
  answers : List Answer := []

/-! ### The monitor once its thread has ended -/

namespace Monitor

section Ended
variable {monitor : Monitor}

theorem dispatch_stop (hrunning : monitor.thread = .running) :
    monitor.dispatch .stop = { monitor with thread := .ended (.ok ()) } := by
  cases monitor
  cases hrunning
  rfl

theorem dispatch_failure (hrunning : monitor.thread = .running) (failure : CaptureFailure) :
    monitor.dispatch failure.dispatch = { monitor with thread := .ended (.error failure) } := by
  cases monitor
  cases hrunning
  cases failure <;> rfl

theorem foldl_dispatch_of_finished (hfinished : monitor.thread.isFinished = true)
    (script : List Dispatch) : script.foldl dispatch monitor = monitor := by
  induction script with
  | nil => rfl
  | cons step rest ih =>
    have hstep : monitor.dispatch step = monitor := by
      obtain ⟨_, _, _, _, thread, _, _, _⟩ := monitor
      cases thread with
      | running => cases hfinished
      | ended | joined => rfl
    rw [List.foldl_cons, hstep, ih]

/-- Dispatches one after the other are the loop of the thread. -/
theorem foldl_dispatch (hrunning : monitor.thread = .running) (script : List Dispatch) :
    script.foldl dispatch monitor =
      { monitor with
        exchange := (Capture.run false script monitor.exchange).1
        thread := (Capture.run false script monitor.exchange).2.elim .running .ended } := by
  induction script generalizing monitor with
  | nil =>
    cases monitor
    cases hrunning
    rfl
  | cons step rest ih =>
    rw [List.foldl_cons]
    cases step with
    | frames frames =>
      have hthread : (monitor.publish frames).thread = .running := by
        rw [publish_eq hrunning]
        exact hrunning
      show rest.foldl dispatch (monitor.publish frames) = _
      rw [ih hthread, publish_eq hrunning, packetsOf, ← Batch.ofFrames_eq]
      simp only [Capture.run, Bool.false_eq_true, if_false]
    | fail error =>
      have hfail : monitor.dispatch (.fail error) = _ := dispatch_failure hrunning (.failed error)
      rw [hfail, foldl_dispatch_of_finished rfl]
      rfl
    | panic =>
      have hpanic : monitor.dispatch .panic = _ := dispatch_failure hrunning .panicked
      rw [hpanic, foldl_dispatch_of_finished rfl]
      rfl
    | stop =>
      have hleaves :
          Capture.run true rest monitor.exchange = (monitor.exchange, some (.ok ())) := by
        unfold Capture.run
        rfl
      rw [dispatch_stop hrunning, foldl_dispatch_of_finished rfl]
      simp [Capture.run, hleaves]

variable (hfinished : monitor.thread.isFinished = true)
include hfinished

theorem shutdown_of_finished :
    monitor.shutdown = ({ monitor with thread := .joined }, monitor.thread.stop.2) := by
  rw [shutdown]
  cases hthread : monitor.thread with
  | running => rw [hthread] at hfinished; cases hfinished
  | ended ending => rfl
  | joined => rfl

/-- A refresh fails then, and changes nothing. -/
theorem refresh_of_finished (now : Nat) :
    monitor.refresh now =
      { monitor := { monitor with thread := .joined }
        result := .error (endingError monitor.thread.stop.2) } := by
  rw [refresh, if_pos hfinished, shutdown_of_finished hfinished]

end Ended

variable (monitor : Monitor) (elapsed : Elapsed)

/-- The second half of a refresh takes the count, whatever comes of it. -/
theorem settle_monitor :
    (monitor.settle elapsed).monitor.thread = monitor.thread ∧
      (monitor.settle elapsed).monitor.exchange =
        { monitor.exchange with counter := ⟨0⟩ } := by
  rcases conclude_monitor monitor.takeFrames.2 monitor.takeFrames.1 elapsed with heq | heq <;>
    · rw [settle, heq]
      exact ⟨rfl, rfl⟩

/-- It tells nothing of the capture thread. -/
theorem settle_result :
    (∃ report, (monitor.settle elapsed).result = .ok report) ∨
      ∃ error, (monitor.settle elapsed).result = .error (.inventory error) := by
  simp only [settle, conclude]
  split
  · exact .inl ⟨_, rfl⟩
  · split
    · exact .inr ⟨_, rfl⟩
    · exact .inl ⟨_, rfl⟩

end Monitor

/-! ### What is told of the end -/

namespace Answer

/-- An answer that knows of no end. -/
def Early : Answer → Prop
  | refreshed (.ok _) | refreshed (.error (.inventory _)) => True
  | _ => False

/-- An answer that tells how the thread has ended. With the thread stopped, or its end told
before, a refresh tells only that capture stopped, and a shutdown goes well. -/
def Tells (ending : Ending) : Answer → Prop
  | refreshed result => result = .error (Monitor.endingError ending)
  | stopped fetched => fetched = ending

/-- The failure of the thread that an answer contains. -/
def failure? : Answer → Option CaptureFailure
  | refreshed (.error (.captureFailed failure)) | stopped (.error failure) => some failure
  | _ => none

theorem Early.failure?_eq {answer : Answer} (h : answer.Early) : answer.failure? = none := by
  unfold Early at h
  split at h
  · rfl
  · rfl
  · cases h

theorem Tells.failure?_eq {answer : Answer} {ending : Ending} (h : answer.Tells ending) :
    answer.failure? = match ending with
      | .ok () => none
      | .error failure => some failure := by
  cases answer with
  | refreshed result =>
    obtain rfl : result = .error (Monitor.endingError ending) := h
    cases ending <;> rfl
  | stopped fetched =>
    obtain rfl : fetched = ending := h
    cases fetched <;> rfl

end Answer

/-- Who has been told how the thread ended. As long as it is not joined all answers are early.
The one that joined it has told how it ended, and all behind that only tell of a thread that was
stopped. -/
inductive Told : CaptureThread → Option Ending → List Answer → Prop
  | running {answers : List Answer} (hearly : ∀ answer ∈ answers, answer.Early) :
    Told .running none answers
  | ended {ending : Ending} {answers : List Answer} (hearly : ∀ answer ∈ answers, answer.Early) :
    Told (.ended ending) (some ending) answers
  | joined {ending : Ending} {before later : List Answer} {first : Answer}
    (hbefore : ∀ answer ∈ before, answer.Early) (hfirst : first.Tells ending)
    (hlater : ∀ answer ∈ later, answer.Tells (.ok ())) :
    Told .joined (some ending) (before ++ first :: later)

namespace Told

/-- The failures among what is told: that of a thread that was joined after it had failed. -/
def failures : CaptureThread → Option Ending → List CaptureFailure
  | .joined, some (.error failure) => [failure]
  | _, _ => []

variable {thread : CaptureThread} {ending : Option Ending} {answers : List Answer}
  (h : Told thread ending answers)
include h

/-- The end of the thread is on record once it does not run. -/
theorem isFinished_iff : thread.isFinished = true ↔ ∃ last, ending = some last := by
  cases h with
  | running => exact ⟨fun h => (nomatch h), fun ⟨_, h⟩ => (nomatch h)⟩
  | ended | joined => exact ⟨fun _ => ⟨_, rfl⟩, fun _ => rfl⟩

/-- A thread that ends has told nobody. -/
theorem leave (hrunning : thread = .running) (last : Ending) :
    Told (.ended last) (some last) answers := by
  cases h with
  | running hearly => exact .ended hearly
  | ended => cases hrunning
  | joined => cases hrunning

/-- An answer that knows of no end comes before the thread is joined. -/
theorem early (hthread : thread ≠ .joined) {answer : Answer} (hanswer : answer.Early) :
    Told thread ending (answers ++ [answer]) := by
  have hall {answers : List Answer} (hearly : ∀ answer ∈ answers, answer.Early) :
      ∀ other ∈ answers ++ [answer], other.Early := by
    intro other hother
    rcases List.mem_append.1 hother with hother | hother
    · exact hearly other hother
    · rw [List.mem_singleton.1 hother]
      exact hanswer
  cases h with
  | running hearly => exact .running (hall hearly)
  | ended hearly => exact .ended (hall hearly)
  | joined => exact absurd rfl hthread

/-- Whoever fetches the end tells it, or that it was told. -/
theorem fetch (hfinished : thread.isFinished = true) {answer : Answer}
    (hanswer : answer.Tells thread.stop.2) : Told .joined ending (answers ++ [answer]) := by
  cases h with
  | running => cases hfinished
  | ended hearly => exact .joined hearly hanswer (fun _ => nofun)
  | joined hbefore hfirst hlater =>
    rw [List.append_assoc, List.cons_append]
    refine .joined hbefore hfirst fun other hother => ?_
    rcases List.mem_append.1 hother with hother | hother
    · exact hlater other hother
    · rw [List.mem_singleton.1 hother]
      exact hanswer

/-- **A failure is in exactly one answer**, once the thread is joined. -/
theorem failures_eq :
    answers.filterMap Answer.failure? = failures thread ending := by
  have hnone {answers : List Answer} (hall : ∀ answer ∈ answers, answer.failure? = none) :
      answers.filterMap Answer.failure? = [] := List.filterMap_eq_nil_iff.2 hall
  cases h with
  | running hearly => exact hnone fun answer ha => (hearly answer ha).failure?_eq
  | ended hearly => exact hnone fun answer ha => (hearly answer ha).failure?_eq
  | @joined ending _ _ _ hbefore hfirst hlater =>
    rw [List.filterMap_append, List.filterMap_cons, hfirst.failure?_eq,
      hnone fun answer ha => (hbefore answer ha).failure?_eq,
      hnone fun answer ha => (hlater answer ha).failure?_eq]
    cases ending <;> rfl

end Told

namespace Watch

/-- A move of the thread or of the owner. -/
inductive Move
  /-- The thread looks at the stop flag. -/
  | look
  /-- The backend returns from reading. -/
  | read
  /-- The thread counts the frames that were read. -/
  | count
  | refresh (now : Nat)
  /-- The refresh under way collects the packets. -/
  | collect
  /-- The refresh under way takes the count and attributes, under what answers then. -/
  | settle (source : Source)
  | togglePause
  | shutdown
  /-- The shutdown under way fetches how the thread ended. -/
  | join

/-! ### Moves -/

section Moves
variable (watch : Watch)

/-- The thread leaves if it was told to, else the backend reads. -/
def look : Watch :=
  if watch.stopFlag then
    { watch with monitor := watch.monitor.dispatch .stop, ending := some (.ok ()) }
  else { watch with station := .reading }

/-- The packets of what was read are queued; a failure ends the thread. -/
def read (script : Script) : Watch :=
  match script watch.made.length with
  | .ok frames => { watch with
      monitor := { watch.monitor with
        exchange := watch.monitor.exchange.enqueue (.ofFrames frames) }
      station := .counting frames }
  | .error failure => { watch with
      monitor := watch.monitor.dispatch failure.dispatch
      station := .head
      ending := some (.error failure) }

def count (frames : List Frame) : Watch :=
  { watch with
    monitor := { watch.monitor with exchange := watch.monitor.exchange.count (.ofFrames frames) }
    station := .head
    made := watch.made ++ [frames] }

/-- A refresh finds the thread running, or it fails. -/
def refresh (now : Nat) : Watch :=
  if watch.monitor.thread.isFinished then
    let refreshed := watch.monitor.refresh now
    { watch with
      monitor := refreshed.monitor
      answers := watch.answers ++ [.refreshed refreshed.result] }
  else { watch with errand := .collecting now }

def collect (now : Nat) : Watch :=
  let monitor := watch.monitor.collect now
  { watch with
    monitor
    errand := .settling (.between watch.monitor.lastRefresh now)
    collected := watch.collected ++ monitor.buffer }

def settle (source : Source) (elapsed : Elapsed) : Watch :=
  let monitor := { watch.monitor with source }
  let refreshed := monitor.settle elapsed
  { watch with
    monitor := refreshed.monitor
    errand := .none
    taken := watch.taken ++ [monitor.takeFrames.1]
    answers := watch.answers ++ [.refreshed refreshed.result] }

/-- A shutdown that waits no longer. -/
def join : Watch :=
  let (monitor, ending) := watch.monitor.shutdown
  { watch with monitor, errand := .none, answers := watch.answers ++ [.stopped ending] }

/-- One move, if it is possible. -/
def next (script : Script) : Move → Watch
  | .look => match watch.monitor.thread, watch.station with
    | .running, .head => watch.look
    | _, _ => watch
  | .read => match watch.monitor.thread, watch.station with
    | .running, .reading => watch.read script
    | _, _ => watch
  | .count => match watch.monitor.thread, watch.station with
    | .running, .counting frames => watch.count frames
    | _, _ => watch
  | .refresh now => match watch.errand with
    | .none => watch.refresh now
    | _ => watch
  | .collect => match watch.errand with
    | .collecting now => watch.collect now
    | _ => watch
  | .settle source => match watch.errand with
    | .settling elapsed => watch.settle source elapsed
    | _ => watch
  | .togglePause => match watch.errand with
    | .none => { watch with monitor := watch.monitor.togglePause }
    | _ => watch
  | .shutdown => match watch.errand with
    | .none => { watch with stopFlag := true, errand := .waiting }
    | _ => watch
  | .join => match watch.errand with
    | .waiting => if watch.monitor.thread.isFinished then watch.join else watch
    | _ => watch

/-- The moves one after the other. -/
def run (script : Script) (moves : List Move) : Watch :=
  moves.foldl (fun watch => watch.next script) watch

end Moves

/-! ### Moves and operations -/

section Operations
variable {script : Script} {watch : Watch} (hrunning : watch.monitor.thread = .running)
include hrunning

/-- Undisturbed, the moves of the thread are a dispatch. -/
theorem run_dispatch (hstation : watch.station = .head) (hflag : watch.stopFlag = false) :
    (watch.run script [.look, .read, .count]).monitor =
      watch.monitor.dispatch (match script watch.made.length with
        | .ok frames => .frames frames
        | .error failure => failure.dispatch) := by
  show (((watch.next script .look).next script .read).next script .count).monitor = _
  have hlook : watch.next script .look = { watch with station := .reading } := by
    simp only [next, hrunning, hstation, look, hflag, Bool.false_eq_true, if_false]
  have hread : next { watch with station := .reading } script .read =
      read { watch with station := .reading } script := by
    simp only [next, hrunning]
  rw [hlook, hread]
  cases hscript : script watch.made.length with
  | ok frames =>
    simp only [read, hscript, next, hrunning, count]
    show _ = watch.monitor.publish frames
    rw [Monitor.publish_eq hrunning, packetsOf, ← Batch.ofFrames_eq, hrunning]
    rfl
  | error failure =>
    simp only [read, hscript, Monitor.dispatch_failure hrunning, next]

/-- Undisturbed, the moves of a refresh that finds the thread running are that refresh. -/
theorem run_refresh (hidle : watch.errand = .none) (now : Nat) (source : Source) :
    let refreshed := { watch.monitor with source }.refresh now
    (watch.run script [.refresh now, .collect, .settle source]).monitor = refreshed.monitor ∧
      (watch.run script [.refresh now, .collect, .settle source]).answers =
        watch.answers ++ [.refreshed refreshed.result] := by
  have hgoing : ¬watch.monitor.thread.isFinished = true := by
    rw [hrunning]
    exact Bool.false_ne_true
  have hrefresh : watch.next script (.refresh now) = { watch with errand := .collecting now } := by
    simp only [next, hidle, refresh, if_neg hgoing]
  have hrun : watch.run script [.refresh now, .collect, .settle source] =
      (((watch.next script (.refresh now)).next script .collect).next script
        (.settle source)) := rfl
  have hsource : { watch.monitor with source }.thread = .running := hrunning
  have hwhole : { watch.monitor with source }.refreshAmid now [] =
      { watch.monitor with source }.refresh now := Monitor.refreshAmid_nil hsource now
  rw [hrun, hrefresh, ← hwhole]
  exact ⟨rfl, rfl⟩

/-- A thread that is shut down in front of its look at the flag is stopped. -/
theorem run_shutdown (hstation : watch.station = .head) (hidle : watch.errand = .none) :
    (watch.run script [.shutdown, .look, .join]).monitor = watch.monitor.shutdown.1 ∧
      (watch.run script [.shutdown, .look, .join]).answers =
        watch.answers ++ [.stopped watch.monitor.shutdown.2] := by
  have hrun : watch.run script [.shutdown, .look, .join] =
      ((watch.next script .shutdown).next script .look).next script .join := rfl
  have hshutdown : watch.next script .shutdown =
      { watch with stopFlag := true, errand := .waiting } := by
    simp only [next, hidle]
  have hlook : next { watch with stopFlag := true, errand := .waiting } script .look =
      { watch with
        monitor := { watch.monitor with thread := .ended (.ok ()) }
        stopFlag := true
        errand := .waiting
        ending := some (.ok ()) } := by
    simp only [next, hrunning, hstation, look, if_true, Monitor.dispatch_stop hrunning]
  have hstop : watch.monitor.shutdown = ({ watch.monitor with thread := .joined }, .ok ()) := by
    rw [Monitor.shutdown, hrunning]
    rfl
  rw [hrun, hshutdown, hlook, hstop]
  exact ⟨rfl, rfl⟩

end Operations

end Watch

end Flowmeter
