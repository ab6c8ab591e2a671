import Flowmeter.EventLog.Logger

/-! What a log has of the events it was handed.

Events are queued and the log is stopped while its thread takes its rounds, in any order. What the
thread takes at one time is a `Delivery`; a write that fails ends it early, and the rest of what was
taken is lost. `events_reach_the_log` says what a log has in the end: if no write failed, a line for
each event that was queued before the log was stopped, in their order; else it lacks none of them
but what was taken at the same time as a write failed. What carries this is that a thread that saw
the stop flag set takes the queue once more before it leaves (`Sound.finished`). Once the flag is
set, it does leave after the round it is in and one more (`left_of_stopped`). -/
namespace Flowmeter

namespace LoggerStep

/-- The entry that a step queues. -/
def entry? : LoggerStep → Option LogEntry
  | .push entry => some entry
  | _ => none

def isStop : LoggerStep → Bool
  | .stop => true
  | _ => false

/-- Whether it is a step of the thread. -/
def isThread : LoggerStep → Bool
  | .push _ | .stop => false
  | .check | .write .. | .leave => true

end LoggerStep

namespace LoggerPhase

/-- Whether the thread saw the stop flag set. -/
def sawStop : LoggerPhase → Bool
  | .idle => false
  | .taking stopping => stopping
  | .leaving stopping => stopping
  | .left => true

/-- Whether the thread took its last events. -/
def finished : LoggerPhase → Bool
  | .leaving stopping => stopping
  | .left => true
  | _ => false

theorem sawStop_of_finished {phase : LoggerPhase} (h : phase.finished = true) :
    phase.sawStop = true := by
  cases phase with
  | idle => exact h
  | taking stopping => exact Bool.noConfusion h
  | leaving stopping => exact h
  | left => rfl

end LoggerPhase

namespace Logger

/-- The entries that are queued, oldest first. -/
def pushed (steps : List LoggerStep) : List LogEntry := steps.filterMap LoggerStep.entry?

/-- The entries that are queued before the log is stopped. -/
def pushedBeforeStop (steps : List LoggerStep) : List LogEntry :=
  pushed (steps.takeWhile fun step => !step.isStop)

theorem pushed_cons (step : LoggerStep) (rest : List LoggerStep) :
    pushed (step :: rest) = pushed [step] ++ pushed rest :=
  List.filterMap_append (l := [step])

theorem pushedBeforeStop_cons (step : LoggerStep) (rest : List LoggerStep) :
    pushedBeforeStop (step :: rest) =
      if step.isStop then [] else pushed [step] ++ pushedBeforeStop rest := by
  cases step <;> rfl

/-- What the thread took at one time, and how it was written. -/
structure Delivery where
  names : Names
  limit : Option Nat
  entries : List LogEntry

namespace Delivery

/-- The entries that were written, each with its line. -/
def written (delivery : Delivery) : List (LogEntry × String) :=
  (delivery.entries.take (delivery.limit.getD delivery.entries.length)).map fun entry =>
    (entry, entry.line delivery.names)

/-- Whether a write failed. Without entries nothing is written. -/
def failed (delivery : Delivery) : Bool := delivery.limit.isSome && !delivery.entries.isEmpty

variable (delivery : Delivery)

theorem lines_written :
    delivery.written.map Prod.snd = writtenOf delivery.names delivery.limit delivery.entries := by
  rw [written, List.map_map]
  rfl

theorem entries_written :
    delivery.written.map Prod.fst =
      delivery.entries.take (delivery.limit.getD delivery.entries.length) := by
  rw [written, List.map_map]
  exact List.map_id _

variable {delivery}

/-- If no write fails, all is written that was taken. -/
theorem entries_written_of_not_failed (h : delivery.failed = false) :
    delivery.written.map Prod.fst = delivery.entries := by
  rw [entries_written]
  cases hlimit : delivery.limit with
  | none => exact List.take_length
  | some limit =>
    have hempty : delivery.entries = [] := by
      simpa [failed, hlimit] using h
    rw [hempty, List.take_nil]

end Delivery

/-- The entries that were written, each with its line. -/
def written (deliveries : List Delivery) : List (LogEntry × String) :=
  deliveries.flatMap Delivery.written

/-- The entries that were taken. -/
def taken (deliveries : List Delivery) : List LogEntry := deliveries.flatMap (·.entries)

/-- Of what was taken, in its order, some is written. -/
theorem written_sublist (deliveries : List Delivery) :
    ((written deliveries).map Prod.fst).Sublist (taken deliveries) := by
  induction deliveries with
  | nil => exact .slnil
  | cons delivery rest ih =>
    rw [written, taken, List.flatMap_cons, List.flatMap_cons, List.map_append,
      delivery.entries_written]
    exact (List.take_sublist ..).append ih

theorem written_eq_taken {deliveries : List Delivery}
    (h : ∀ delivery ∈ deliveries, delivery.failed = false) :
    (written deliveries).map Prod.fst = taken deliveries := by
  rw [written, taken, List.map_flatMap, List.flatMap_def, List.flatMap_def]
  exact congrArg List.flatten (List.map_congr_left fun delivery hdelivery =>
    Delivery.entries_written_of_not_failed (h delivery hdelivery))

/-! ### Deliveries -/

/-- What the thread takes in a step. -/
def delivery? (logger : Logger) : LoggerStep → Option Delivery
  | .write names limit =>
    match logger.phase with
    | .taking _ => some ⟨names, limit, logger.queue.items⟩
    | _ => none
  | _ => none

/-- What the thread takes, time after time. -/
def deliveries (logger : Logger) : List LoggerStep → List Delivery
  | [] => []
  | step :: rest => (logger.delivery? step).toList ++ deliveries (logger.step step) rest

theorem run_cons (logger : Logger) (step : LoggerStep) (rest : List LoggerStep) :
    logger.run (step :: rest) = (logger.step step).run rest := rfl

/-- What is taken is taken by a write. -/
theorem write_mem_of_delivery {logger : Logger} {steps : List LoggerStep} {delivery : Delivery}
    (h : delivery ∈ logger.deliveries steps) :
    .write delivery.names delivery.limit ∈ steps := by
  induction steps generalizing logger with
  | nil => cases h
  | cons step rest ih =>
    rcases List.mem_append.1 h with hfirst | hrest
    · cases step with
      | write names limit =>
        rw [Option.mem_toList, delivery?] at hfirst
        split at hfirst
        · cases hfirst
          exact List.mem_cons_self ..
        · cases hfirst
      | _ => cases hfirst
    · exact List.mem_cons_of_mem _ (ih hrest)

theorem step_stopFlag (logger : Logger) (step : LoggerStep) :
    (logger.step step).stopFlag = (logger.stopFlag || step.isStop) := by
  cases step with
  | push entry => exact (Bool.or_false _).symm
  | stop => exact (Bool.or_true _).symm
  | check => simp only [Logger.step, LoggerStep.isStop, Bool.or_false]; split <;> rfl
  | write names limit => simp only [Logger.step, LoggerStep.isStop, Bool.or_false]; split <;> rfl
  | leave => simp only [Logger.step, LoggerStep.isStop, Bool.or_false]; split <;> rfl

/-- What the steps queue before the log is stopped, if it is not stopped yet. -/
def early (logger : Logger) (steps : List LoggerStep) : List LogEntry :=
  if logger.stopFlag then [] else pushedBeforeStop steps

theorem early_nil (logger : Logger) : logger.early [] = [] := ite_self _

theorem early_cons (logger : Logger) (step : LoggerStep) (rest : List LoggerStep) :
    logger.early (step :: rest) = logger.early [step] ++ (logger.step step).early rest := by
  rw [early, early, early, step_stopFlag]
  cases logger.stopFlag with
  | true => rfl
  | false => cases step <;> rfl

theorem early_eq_nil (logger : Logger) {step : LoggerStep} (h : pushed [step] = []) :
    logger.early [step] = [] := by
  rw [early, pushedBeforeStop_cons, h]
  split
  · rfl
  · split <;> rfl

/-! ### What every step keeps -/

/-- What is so at every moment, of what was queued so far, what of it before the log was stopped,
and what was taken. -/
structure Sound (logger : Logger) (queued early : List LogEntry) (deliveries : List Delivery) :
    Prop where
  lines : logger.lines = openingLine :: (written deliveries).map Prod.snd
  queue : taken deliveries ++ logger.queue.items = queued
  failed : logger.failed = deliveries.any Delivery.failed
  within : early <+: queued
  running : logger.stopFlag = false → early = queued
  sawStop : logger.phase.sawStop = true → logger.stopFlag = true
  finished : logger.phase.finished = true → early <+: taken deliveries

theorem sound_start : ({} : Logger).Sound [] [] [] where
  lines := rfl
  queue := rfl
  failed := rfl
  within := List.prefix_refl _
  running _ := rfl
  sawStop h := Bool.noConfusion h
  finished h := Bool.noConfusion h

namespace Sound

variable {logger : Logger} {queued early : List LogEntry} {deliveries : List Delivery}
  (h : logger.Sound queued early deliveries)
include h

/-- What is queued while the log is not stopped counts as early. -/
theorem push (entry : LogEntry) :
    (logger.step (.push entry)).Sound (queued ++ [entry])
      (early ++ logger.early [.push entry]) deliveries where
  lines := h.lines
  queue := by
    rw [← h.queue, List.append_assoc]
    rfl
  failed := h.failed
  within := by
    rw [Logger.early]
    cases hstop : logger.stopFlag with
    | true => exact (List.append_nil early).symm ▸ h.within.trans (List.prefix_append ..)
    | false => exact h.running hstop ▸ List.prefix_refl _
  running hstop := by
    have hrunning : logger.stopFlag = false := hstop
    rw [Logger.early, hrunning, h.running hrunning]
    rfl
  sawStop := h.sawStop
  finished hphase := by
    -- A thread that took its last events saw the flag set, so this entry is not early.
    have hstop : logger.stopFlag = true := h.sawStop (LoggerPhase.sawStop_of_finished hphase)
    rw [Logger.early, hstop, if_pos rfl, List.append_nil]
    exact h.finished hphase

theorem stop : (logger.step .stop).Sound queued early deliveries where
  lines := h.lines
  queue := h.queue
  failed := h.failed
  within := h.within
  running hstop := Bool.noConfusion hstop
  sawStop _ := rfl
  finished := h.finished

theorem check : (logger.step .check).Sound queued early deliveries := by
  simp only [Logger.step]
  split
  · exact {
      lines := h.lines
      queue := h.queue
      failed := h.failed
      within := h.within
      running := h.running
      sawStop := id
      finished := fun hphase => Bool.noConfusion hphase }
  · exact h

/-- A thread that saw the stop flag set takes all that was queued before. -/
theorem write {stopping : Bool} (hphase : logger.phase = .taking stopping) (names : Names)
    (limit : Option Nat) :
    (logger.step (.write names limit)).Sound queued early
      (deliveries ++ [⟨names, limit, logger.queue.items⟩]) := by
  have hwritten : written (deliveries ++ [⟨names, limit, logger.queue.items⟩]) =
      written deliveries ++ Delivery.written ⟨names, limit, logger.queue.items⟩ := by
    rw [written, List.flatMap_append, List.flatMap_singleton]
    rfl
  have htaken : taken (deliveries ++ [⟨names, limit, logger.queue.items⟩]) = queued := by
    rw [taken, List.flatMap_append, List.flatMap_singleton]
    exact h.queue
  simp only [Logger.step, hphase]
  exact {
    lines := by
      rw [hwritten, List.map_append, Delivery.lines_written, ← List.cons_append, ← h.lines]
      rfl
    queue := by
      rw [htaken]
      exact List.append_nil _
    failed := by
      rw [List.any_append, ← h.failed]
      simp [Delivery.failed, Handoff.drain]
    within := h.within
    running := h.running
    sawStop := fun hstopping => h.sawStop (hphase ▸ hstopping)
    finished := fun _ => htaken.symm ▸ h.within }

theorem leave : (logger.step .leave).Sound queued early deliveries := by
  simp only [Logger.step]
  split
  · rename_i stopping hphase
    have hsaw := h.sawStop
    have hfinished := h.finished
    rw [hphase] at hsaw hfinished
    exact {
      lines := h.lines
      queue := h.queue
      failed := h.failed
      within := h.within
      running := h.running
      sawStop := fun hnext => by
        cases stopping with
        | true => exact hsaw rfl
        | false => exact Bool.noConfusion hnext
      finished := fun hnext => by
        cases stopping with
        | true => exact hfinished rfl
        | false => exact Bool.noConfusion hnext }
  · exact h

/-- **Every step keeps a log sound.** -/
theorem step (step : LoggerStep) :
    (logger.step step).Sound (queued ++ pushed [step]) (early ++ logger.early [step])
      (deliveries ++ (logger.delivery? step).toList) := by
  have quiet (hquiet : pushed [step] = [])
      (hnext : (logger.step step).Sound queued early
        (deliveries ++ (logger.delivery? step).toList)) :
      (logger.step step).Sound (queued ++ pushed [step]) (early ++ logger.early [step])
        (deliveries ++ (logger.delivery? step).toList) := by
    rw [hquiet, early_eq_nil logger hquiet, List.append_nil, List.append_nil]
    exact hnext
  cases step with
  | push entry =>
    simp only [delivery?, Option.toList_none, List.append_nil]
    exact h.push entry
  | stop =>
    refine quiet rfl ?_
    simp only [delivery?, Option.toList_none, List.append_nil]
    exact h.stop
  | check =>
    refine quiet rfl ?_
    simp only [delivery?, Option.toList_none, List.append_nil]
    exact h.check
  | write names limit =>
    refine quiet rfl ?_
    cases hphase : logger.phase with
    | taking stopping =>
      simp only [delivery?, hphase, Option.toList_some]
      exact h.write hphase names limit
    | _ =>
      simp only [delivery?, Logger.step, hphase, Option.toList_none, List.append_nil]
      exact h
  | leave =>
    refine quiet rfl ?_
    simp only [delivery?, Option.toList_none, List.append_nil]
    exact h.leave

theorem run (steps : List LoggerStep) :
    (logger.run steps).Sound (queued ++ pushed steps) (early ++ logger.early steps)
      (deliveries ++ logger.deliveries steps) := by
  induction steps generalizing logger queued early deliveries with
  | nil =>
    rw [early_nil, pushed, Logger.deliveries, List.filterMap_nil, List.append_nil,
      List.append_nil, List.append_nil]
    exact h
  | cons step rest ih =>
    have hrest := ih (h.step step)
    rw [List.append_assoc, List.append_assoc, List.append_assoc, ← early_cons,
      ← pushed_cons] at hrest
    exact hrest

end Sound

/-! ### Stopping

A thread that goes on after the stop flag is set leaves after the round it is in and one more. -/

theorem run_stopFlag (logger : Logger) (steps : List LoggerStep) :
    (logger.run steps).stopFlag = (logger.stopFlag || steps.any LoggerStep.isStop) := by
  induction steps generalizing logger with
  | nil => exact (Bool.or_false _).symm
  | cons step rest ih => rw [run_cons, ih, step_stopFlag, List.any_cons, Bool.or_assoc]

/-- Where the thread is next depends on where it is and on the stop flag. -/
theorem step_phase_congr {logger other : Logger} (hphase : logger.phase = other.phase)
    (hstop : logger.stopFlag = other.stopFlag) (step : LoggerStep) :
    (logger.step step).phase = (other.step step).phase := by
  cases step with
  | push | stop => exact hphase
  | check | write | leave =>
    simp only [Logger.step, hphase, hstop]
    split
    · rfl
    · exact hphase

/-- Once the stop flag is set, where the thread is depends on its own steps alone. -/
theorem phase_run_filter {logger other : Logger} (hphase : logger.phase = other.phase)
    (hstop : logger.stopFlag = true) (hother : other.stopFlag = true) (steps : List LoggerStep) :
    (logger.run steps).phase = (other.run (steps.filter (·.isThread))).phase := by
  induction steps generalizing logger other with
  | nil => exact hphase
  | cons step rest ih =>
    have hflag (logger : Logger) (hstop : logger.stopFlag = true) :
        (logger.step step).stopFlag = true := by rw [step_stopFlag, hstop, Bool.true_or]
    cases hthread : step.isThread with
    | false =>
      rw [List.filter_cons_of_neg (by simp [hthread]), run_cons]
      refine ih ?_ (hflag logger hstop) hother
      cases step with
      | push | stop => exact hphase
      | check | write | leave => cases hthread
    | true =>
      rw [List.filter_cons_of_pos hthread, run_cons, run_cons]
      exact ih (step_phase_congr hphase (hstop.trans hother.symm) step) (hflag logger hstop)
        (hflag other hother)

/-- **A log that is stopped is left**, whatever is queued while its thread ends its round and takes
one more. -/
theorem left_of_stopped {logger : Logger} (h : logger.stopFlag = true) {steps : List LoggerStep}
    {names later : Names} {limit last : Option Nat}
    (hsteps : steps.filter (·.isThread) = [.write names limit, .leave] ++ round later last) :
    (logger.run steps).phase = .left := by
  rw [phase_run_filter rfl h h steps, hsteps, round]
  cases hphase : logger.phase with
  | idle => simp [run, Logger.step, hphase, h]
  | taking stopping => cases stopping <;> simp [run, Logger.step, hphase, h]
  | leaving stopping => cases stopping <;> simp [run, Logger.step, hphase, h]
  | left => simp [run, Logger.step, hphase]

/-! ### What is in the log -/

/-- What a log has of what it was handed in these steps. -/
structure Delivered (steps : List LoggerStep) : Prop where
  /-- The lines are the opening line and those of the entries that were written. -/
  lines : (run {} steps).lines = openingLine :: (written (deliveries {} steps)).map Prod.snd
  /-- The line of an entry says who its addresses are by the names of the write. -/
  line : ∀ entry ∈ written (deliveries {} steps), ∃ names limit,
    .write names limit ∈ steps ∧ entry.2 = entry.1.line names
  /-- Entries are written in the order in which they were queued, and none is written twice. -/
  order : ((written (deliveries {} steps)).map Prod.fst).Sublist (pushed steps)
  /-- A log that was stopped is left once its thread has ended its round and taken one more,
  whatever is queued meanwhile. -/
  left : .stop ∈ steps → ∀ more names later limit last,
    more.filter (·.isThread) = [.write names limit, .leave] ++ round later last →
    (run {} (steps ++ more)).phase = .left
  /-- If no write failed, a thread that left has written all that was queued before the stop, and
  behind it only what was queued next. -/
  complete : (run {} steps).phase = .left → (run {} steps).failed = false →
    pushedBeforeStop steps <+: (written (deliveries {} steps)).map Prod.fst ∧
      (written (deliveries {} steps)).map Prod.fst <+: pushed steps
  /-- A thread that left has taken all that was queued before the stop. -/
  taken : (run {} steps).phase = .left → pushedBeforeStop steps <+: taken (deliveries {} steps)
  /-- If no write failed at that time, all is written that was taken at one time. -/
  whole : ∀ delivery ∈ deliveries {} steps, delivery.failed = false →
    delivery.written.map Prod.fst = delivery.entries
  /-- So what is missing of what was queued before the stop was taken when a write failed. -/
  missing : (run {} steps).phase = .left → ∀ entry ∈ pushedBeforeStop steps,
    entry ∉ (written (deliveries {} steps)).map Prod.fst →
    ∃ delivery ∈ deliveries {} steps, delivery.failed = true ∧ entry ∈ delivery.entries

/-- **Events reach the log.** Whenever events are queued, the log is stopped and its thread takes
its steps, the log has what was queued, in order, but for what a failed write lost. Once it is
stopped its thread leaves. -/
theorem events_reach_the_log (steps : List LoggerStep) : Delivered steps := by
  have h : (run {} steps).Sound (pushed steps) (pushedBeforeStop steps) (deliveries {} steps) :=
    sound_start.run steps
  have htaken (hleft : (run {} steps).phase = .left) :
      pushedBeforeStop steps <+: Logger.taken (deliveries {} steps) :=
    h.finished (hleft ▸ rfl)
  have hqueued : Logger.taken (deliveries {} steps) <+: pushed steps := ⟨_, h.queue⟩
  exact {
    lines := h.lines
    line := by
      intro entry hentry
      obtain ⟨delivery, hdelivery, hwritten⟩ := List.mem_flatMap.1 hentry
      obtain ⟨entry, -, rfl⟩ := List.mem_map.1 hwritten
      exact ⟨delivery.names, delivery.limit, write_mem_of_delivery hdelivery, rfl⟩
    order := (written_sublist _).trans hqueued.sublist
    left := by
      intro hstop more names later limit last hmore
      have hflag : (run {} steps).stopFlag = true := by
        rw [run_stopFlag, Bool.false_or, List.any_eq_true]
        exact ⟨.stop, hstop, rfl⟩
      rw [run, List.foldl_append]
      exact left_of_stopped hflag hmore
    complete := by
      intro hleft hfailed
      have hwhole : ∀ delivery ∈ deliveries {} steps, delivery.failed = false := by
        rw [h.failed] at hfailed
        simpa using hfailed
      rw [written_eq_taken hwhole]
      exact ⟨htaken hleft, hqueued⟩
    taken := htaken
    whole := fun delivery _ => Delivery.entries_written_of_not_failed
    missing := by
      intro hleft entry hentry hmissing
      obtain ⟨delivery, hdelivery, hmem⟩ := List.mem_flatMap.1 ((htaken hleft).subset hentry)
      refine ⟨delivery, hdelivery, ?_, hmem⟩
      cases hfailed : delivery.failed with
      | true => rfl
      | false =>
        rw [← Delivery.entries_written_of_not_failed hfailed] at hmem
        obtain ⟨pair, hpair, rfl⟩ := List.mem_map.1 hmem
        exact absurd (List.mem_map_of_mem (List.mem_flatMap.2 ⟨delivery, hdelivery, hpair⟩))
          hmissing }

section Stopped

/-- An event that is told apart by its port. -/
def noted (port : UInt16) : LogEntry :=
  ⟨⟨.undetermined, ⟨.quad 1 1 1 1, .quad 2 2 2 2, 53, port, 60, .udp, 0⟩⟩, ⟨0, 0, 0⟩⟩

/-- Two events are taken, a write fails behind the first of them, and with a third one queued the
log is stopped. -/
def halfway : List LoggerStep :=
  [.push (noted 1), .push (noted 2), .check, .write .numeric (some 1), .push (noted 3), .stop]

/-- The thread ends its round, in which there is no write left, and takes one more. One event is
queued on the way. -/
def toTheEnd : List LoggerStep :=
  [.write .numeric none, .leave, .push (noted 4)] ++ round .numeric none

theorem stopped_log_lacks_one_event :
    .stop ∈ halfway ∧ (run {} (halfway ++ toTheEnd)).phase = .left ∧
    (written (deliveries {} (halfway ++ toTheEnd))).map Prod.fst = [noted 1, noted 3, noted 4] ∧
    ∃ delivery ∈ deliveries {} (halfway ++ toTheEnd),
      delivery.failed = true ∧ noted 2 ∈ delivery.entries := by
  have hstop : .stop ∈ halfway := by simp [halfway]
  have hleft := (events_reach_the_log halfway).left hstop toTheEnd .numeric .numeric none none rfl
  have hwritten :
      (written (deliveries {} (halfway ++ toTheEnd))).map Prod.fst = [noted 1, noted 3, noted 4] :=
    rfl
  refine ⟨hstop, hleft, hwritten, ?_⟩
  refine (events_reach_the_log (halfway ++ toTheEnd)).missing hleft (noted 2) ?_ ?_
  · simp [halfway, toTheEnd, pushedBeforeStop, pushed, LoggerStep.isStop, LoggerStep.entry?]
  · rw [hwritten]
    simp [noted]

end Stopped

/-! ### Whole logs -/

theorem run_push (logger : Logger) (entries : List LogEntry) :
    logger.run (entries.map .push) =
      { logger with queue := logger.queue.pushMany entries } := by
  induction entries generalizing logger with
  | nil =>
    rw [Handoff.pushMany, List.append_nil]
    rfl
  | cons entry rest ih =>
    rw [List.map_cons, run_cons, ih]
    simp [Logger.step, Handoff.push, Handoff.pushMany]

/-- A log that is opened, given entries and stopped has their lines, as far as it was written. -/
theorem lines_session (names : Names) (limit : Option Nat) (entries : List LogEntry) :
    (session names limit entries).lines = openingLine :: writtenOf names limit entries ∧
      (session names limit entries).phase = .left := by
  have hpush := run_push {} entries
  rw [session, run, List.foldl_append, List.foldl_append]
  rw [run] at hpush
  rw [hpush]
  exact ⟨rfl, rfl⟩

/-! ### Writing

A write that does not fail is `writePending` on a medium with room for all, and a write that fails
is `writePending` on one that is full at the end of a line. -/

theorem lineBytes_append (lines more : List String) :
    lineBytes (lines ++ more) = lineBytes lines ++ lineBytes more := List.flatMap_append

theorem writePending_unlimited (names : Names) (queue : Handoff LogEntry) :
    writePending {} names queue = (lineBytes (writtenOf names none queue.items), none, {}) := by
  rw [writePending, Handoff.drain, writtenOf, Option.getD_none, List.take_length]
  cases queue.items with
  | nil => rfl
  | cons entry rest => simp [Medium.writeLines]

theorem lineBytes_length_pos {lines : List String} (h : lines ≠ []) :
    0 < (lineBytes lines).length := by
  cases lines with
  | nil => exact absurd rfl h
  | cons line rest =>
    rw [lineBytes, List.flatMap_cons, List.length_append, List.length_append]
    exact Nat.lt_of_lt_of_le (Nat.succ_pos _) (Nat.le_add_right ..)

/-- On a medium that has room for the first lines and no more, those are written. -/
theorem writeLines_full (lines : List String) {more : List String} (h : more ≠ []) :
    ({ room := some (lineBytes lines).length } : Medium).writeLines (lines ++ more) =
      (lineBytes lines, some .full) := by
  have hroom : (lineBytes lines).length < (lineBytes (lines ++ more)).length := by
    rw [lineBytes_append, List.length_append]
    exact Nat.lt_add_of_pos_right (lineBytes_length_pos h)
  simp only [Medium.writeLines, Option.getD_some]
  rw [if_pos hroom, lineBytes_append, List.take_left]

theorem writePending_full (names : Names) (queue : Handoff LogEntry) {limit : Nat}
    (h : limit < queue.items.length) :
    writePending { room := some (lineBytes (writtenOf names (some limit) queue.items)).length }
      names queue = (lineBytes (writtenOf names (some limit) queue.items), some .full, {}) := by
  have hsplit : queue.items.map (·.line names) = writtenOf names (some limit) queue.items ++
      (queue.items.drop limit).map (·.line names) := by
    rw [writtenOf, Option.getD_some, ← List.map_append, List.take_append_drop]
  have hmore : (queue.items.drop limit).map (·.line names) ≠ [] := by
    simpa using h
  have hsome : queue.items.isEmpty = false := by
    rw [List.isEmpty_eq_false_iff]
    exact List.ne_nil_of_length_pos (Nat.lt_of_le_of_lt (Nat.zero_le _) h)
  simp only [writePending, Handoff.drain, hsome, Bool.false_eq_true, if_false]
  rw [hsplit, writeLines_full _ hmore]

end Logger

end Flowmeter
