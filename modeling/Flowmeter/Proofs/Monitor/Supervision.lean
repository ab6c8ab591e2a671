import Mathlib.Algebra.GroupWithZero.Nat
import Flowmeter.Proofs.Monitor.Watching

/-! The end of a capture.

Every move of a watch keeps it `Sound`: what is published is what the backend has read, in order
(`Published`), and the thread has ended for a reason that has been told at most once (`Stands`).
`Sound.next` is the step and `Sound.run` the run. Nothing is published after the end
(`Sound.run_of_ended`), and a shutdown that waits comes back, because the thread leaves at the
latest behind the dispatch under way (`returns_of_waiting`). -/
namespace Flowmeter.Watch

/-! ### What every move keeps -/

/-- The batches whose packets are published, in order. -/
def begun (watch : Watch) : List (List Frame) := watch.made ++ watch.station.batch

/-- What is published is what the backend has read, in order, and nothing of it is lost. Counts
are made modulo 2⁶⁴. -/
structure Published (script : Script) (first : Exchange) (watch : Watch) : Prop where
  begun : watch.begun.map .ok = (List.range watch.begun.length).map script
  packets : watch.collected ++ watch.monitor.exchange.packets.items =
    first.packets.items ++ packetsOf watch.begun.flatten
  counts : ((watch.taken.map UInt64.toNat).sum + watch.monitor.exchange.counter.frames.toNat) %
      2 ^ 64 = (first.counter.frames.toNat + watch.made.flatten.length) % 2 ^ 64

/-- Why a thread ends. -/
def Cause (script : Script) (watch : Watch) : Ending → Prop
  | .ok () => watch.stopFlag = true
  | .error failure => script watch.made.length = .error failure

/-- Where the thread and the owner can stand. -/
structure Stands (script : Script) (watch : Watch) : Prop where
  told : Told watch.monitor.thread watch.ending watch.answers
  /-- A thread has ended for a reason, and not in the middle of a dispatch. -/
  cause {ending : Ending} : watch.ending = some ending →
    watch.station = .head ∧ watch.Cause script ending
  /-- A refresh under way has found the thread running, and nobody else has joined it since. -/
  refreshing :
    (∃ now, watch.errand = .collecting now) ∨ (∃ elapsed, watch.errand = .settling elapsed) →
      watch.monitor.thread ≠ .joined
  waiting : watch.errand = .waiting → watch.stopFlag = true

structure Sound (script : Script) (first : Exchange) (watch : Watch) : Prop where
  published : watch.Published script first
  stands : watch.Stands script

theorem sound_start (script : Script) {monitor : Monitor} (hrunning : monitor.thread = .running) :
    Sound script monitor.exchange { monitor } where
  published := {
    begun := rfl
    packets := (List.append_nil _).symm
    counts := by
      show (0 + _) % 2 ^ 64 = _
      rw [Nat.zero_add]
      rfl }
  stands := {
    told := by
      show Told monitor.thread none []
      rw [hrunning]
      exact .running fun _ => nofun
    cause := nofun
    refreshing := by rintro (⟨_, ⟨⟩⟩ | ⟨_, ⟨⟩⟩)
    waiting := nofun }

namespace Sound

variable {script : Script} {first : Exchange} {watch : Watch} (h : watch.Sound script first)
include h

/-- A thread that runs has not ended. -/
theorem not_ended (hrunning : watch.monitor.thread = .running) {ending : Ending} :
    watch.ending ≠ some ending := by
  intro hending
  have hfinished := h.stands.told.isFinished_iff.2 ⟨ending, hending⟩
  rw [hrunning] at hfinished
  cases hfinished

theorem look (hrunning : watch.monitor.thread = .running) (hstation : watch.station = .head) :
    watch.look.Sound script first := by
  unfold Watch.look
  split
  · next hflag =>
    rw [Monitor.dispatch_stop hrunning]
    exact {
      published := { h.published with }
      stands := {
        told := h.stands.told.leave hrunning (.ok ())
        cause := by
          rintro _ ⟨⟩
          exact ⟨hstation, hflag⟩
        refreshing := by rintro - ⟨⟩
        waiting := h.stands.waiting } }
  · have hbegun : begun { watch with station := .reading } = watch.begun := by
      simp only [begun, hstation, Station.batch]
    exact {
      published := { h.published with
        begun := hbegun.symm ▸ h.published.begun
        packets := hbegun.symm ▸ h.published.packets }
      stands := { h.stands with
        cause := fun hending => absurd hending (h.not_ended hrunning) } }

theorem read (hrunning : watch.monitor.thread = .running) (hstation : watch.station = .reading) :
    (watch.read script).Sound script first := by
  have hbegun : watch.begun = watch.made := by
    rw [begun, hstation]
    exact List.append_nil _
  unfold Watch.read
  split
  · next frames hscript =>
    have hmade := h.published.begun
    have hpackets := h.published.packets
    rw [hbegun] at hmade hpackets
    exact {
      published := { h.published with
        begun := by
          show (watch.made ++ [frames]).map .ok =
            (List.range (watch.made ++ [frames]).length).map script
          rw [List.map_append, hmade, List.length_append, List.length_singleton,
            List.range_succ, List.map_append, List.map_singleton, List.map_singleton, hscript]
        packets := by
          show watch.collected ++
              (watch.monitor.exchange.packets.items ++ (Batch.ofFrames frames).packets) =
            first.packets.items ++ packetsOf (watch.made ++ [frames]).flatten
          rw [← List.append_assoc, hpackets, Batch.ofFrames_eq, List.append_assoc]
          simp [packetsOf] }
      stands := { h.stands with
        cause := fun hending => absurd hending (h.not_ended hrunning) } }
  · next failure hscript =>
    rw [Monitor.dispatch_failure hrunning]
    have hkept : begun { watch with
        monitor := { watch.monitor with thread := .ended (.error failure) }
        station := .head
        ending := some (.error failure) } = watch.begun := by
      rw [hbegun]
      exact List.append_nil _
    exact {
      published := { h.published with
        begun := hkept.symm ▸ h.published.begun
        packets := hkept.symm ▸ h.published.packets }
      stands := {
        told := h.stands.told.leave hrunning (.error failure)
        cause := by
          rintro _ ⟨⟩
          exact ⟨rfl, hscript⟩
        refreshing := by rintro - ⟨⟩
        waiting := h.stands.waiting } }

theorem count {frames : List Frame} (hrunning : watch.monitor.thread = .running)
    (hstation : watch.station = .counting frames) :
    (watch.count frames).Sound script first := by
  have hbegun : (watch.count frames).begun = watch.begun := by
    rw [begun, begun, hstation]
    exact List.append_nil _
  exact {
    published := {
      begun := hbegun.symm ▸ h.published.begun
      packets := hbegun.symm ▸ h.published.packets
      counts := by
        have hcounts := h.published.counts
        show ((watch.taken.map UInt64.toNat).sum + (watch.monitor.exchange.counter.frames +
            .ofNat (Batch.ofFrames frames).seen).toNat) % 2 ^ 64 =
          (first.counter.frames.toNat + (watch.made ++ [frames]).flatten.length) % 2 ^ 64
        simp only [Batch.ofFrames_eq, UInt64.toNat_add, UInt64.toNat_ofNat', List.flatten_append,
          List.length_append, List.flatten_singleton]
        omega }
    stands := { h.stands with
      cause := fun hending => absurd hending (h.not_ended hrunning) } }

theorem refresh (hidle : watch.errand = .none) (now : Nat) :
    (watch.refresh now).Sound script first := by
  unfold Watch.refresh
  split
  · next hfinished =>
    rw [Monitor.refresh_of_finished hfinished]
    exact {
      published := { h.published with }
      stands := {
        told := h.stands.told.fetch hfinished rfl
        cause := h.stands.cause
        refreshing := by
          rintro (⟨_, hbusy⟩ | ⟨_, hbusy⟩) <;> cases hidle.symm.trans hbusy
        waiting := h.stands.waiting } }
  · next hrunning =>
    exact {
      published := { h.published with }
      stands := { h.stands with
        refreshing := fun _ hjoined => hrunning (by rw [hjoined]; rfl)
        waiting := nofun } }

theorem collect {now : Nat} (hbusy : watch.errand = .collecting now) :
    (watch.collect now).Sound script first where
  published := { h.published with
    packets := by
      show watch.collected ++ watch.monitor.exchange.packets.items ++ [] = _
      rw [List.append_nil]
      exact h.published.packets }
  stands := { h.stands with
    refreshing := fun _ => h.stands.refreshing (.inl ⟨now, hbusy⟩)
    waiting := nofun }

theorem settle {elapsed : Elapsed} (hbusy : watch.errand = .settling elapsed) (source : Source) :
    (watch.settle source elapsed).Sound script first := by
  obtain ⟨hthread, hexchange⟩ := Monitor.settle_monitor { watch.monitor with source } elapsed
  have hnot : watch.monitor.thread ≠ .joined := h.stands.refreshing (.inr ⟨elapsed, hbusy⟩)
  have hearly : (Answer.refreshed
      ({ watch.monitor with source }.settle elapsed).result).Early := by
    rcases Monitor.settle_result { watch.monitor with source } elapsed with
      ⟨_, hresult⟩ | ⟨_, hresult⟩ <;>
      · rw [hresult]
        trivial
  exact {
    published := {
      begun := h.published.begun
      packets := by
        show watch.collected ++
          ({ watch.monitor with source }.settle elapsed).monitor.exchange.packets.items = _
        rw [hexchange]
        exact h.published.packets
      counts := by
        have hcounts := h.published.counts
        show (((watch.taken ++ [watch.monitor.exchange.counter.frames]).map UInt64.toNat).sum +
          ({ watch.monitor with source }.settle elapsed).monitor.exchange.counter.frames.toNat) %
            2 ^ 64 = (first.counter.frames.toNat + watch.made.flatten.length) % 2 ^ 64
        rw [hexchange, List.map_append, List.sum_append]
        simpa using hcounts }
    stands := {
      told := by
        show Told ({ watch.monitor with source }.settle elapsed).monitor.thread watch.ending _
        rw [hthread]
        exact h.stands.told.early hnot hearly
      cause := h.stands.cause
      refreshing := by rintro (⟨_, ⟨⟩⟩ | ⟨_, ⟨⟩⟩)
      waiting := nofun } }

theorem togglePause :
    Sound script first { watch with monitor := watch.monitor.togglePause } where
  published := { h.published with }
  stands := { h.stands with }

theorem shutdown : Sound script first { watch with stopFlag := true, errand := .waiting } where
  published := { h.published with }
  stands := { h.stands with
    cause := by
      intro ending hending
      obtain ⟨hstation, hcause⟩ := h.stands.cause hending
      refine ⟨hstation, ?_⟩
      cases ending with
      | ok => rfl
      | error failure => exact hcause
    refreshing := by rintro (⟨_, ⟨⟩⟩ | ⟨_, ⟨⟩⟩)
    waiting := fun _ => rfl }

theorem join (hfinished : watch.monitor.thread.isFinished = true) :
    watch.join.Sound script first := by
  unfold Watch.join
  rw [Monitor.shutdown_of_finished hfinished]
  exact {
    published := { h.published with }
    stands := {
      told := h.stands.told.fetch hfinished rfl
      cause := h.stands.cause
      refreshing := by rintro (⟨_, ⟨⟩⟩ | ⟨_, ⟨⟩⟩)
      waiting := nofun } }

/-- **One move** keeps what is sound. -/
theorem next (move : Move) : (watch.next script move).Sound script first := by
  cases move with
  | look =>
    simp only [Watch.next]
    split
    · next hrunning hstation => exact h.look hrunning hstation
    · exact h
  | read =>
    simp only [Watch.next]
    split
    · next hrunning hstation => exact h.read hrunning hstation
    · exact h
  | count =>
    simp only [Watch.next]
    split
    · next hrunning hstation => exact h.count hrunning hstation
    · exact h
  | refresh now =>
    simp only [Watch.next]
    split
    · next hidle => exact h.refresh hidle now
    · exact h
  | collect =>
    simp only [Watch.next]
    split
    · next hbusy => exact h.collect hbusy
    · exact h
  | settle source =>
    simp only [Watch.next]
    split
    · next hbusy => exact h.settle hbusy source
    · exact h
  | togglePause =>
    simp only [Watch.next]
    split
    · exact h.togglePause
    · exact h
  | shutdown =>
    simp only [Watch.next]
    split
    · exact h.shutdown
    · exact h
  | join =>
    simp only [Watch.next]
    split
    · split
      · next hfinished => exact h.join hfinished
      · exact h
    · exact h

/-- **All moves** do. -/
theorem run (moves : List Move) : (watch.run script moves).Sound script first := by
  induction moves generalizing watch with
  | nil => exact h
  | cons move rest ih => exact ih (h.next move)

end Sound

/-! ### After the end -/

namespace Sound

variable {script : Script} {first : Exchange} {watch : Watch} (h : watch.Sound script first)
include h

/-- Nothing more is published once the thread has ended. -/
theorem next_of_ended {ending : Ending} (hending : watch.ending = some ending) (move : Move) :
    (watch.next script move).ending = some ending ∧
      (watch.next script move).begun = watch.begun := by
  have hnot : watch.monitor.thread ≠ .running := fun hrunning => h.not_ended hrunning hending
  cases move with
  | look | read | count =>
    simp only [Watch.next]
    split
    · contradiction
    · exact ⟨hending, rfl⟩
  | refresh now =>
    simp only [Watch.next, Watch.refresh]
    split
    · split <;> exact ⟨hending, rfl⟩
    · exact ⟨hending, rfl⟩
  | join =>
    simp only [Watch.next]
    split
    · split <;> exact ⟨hending, rfl⟩
    · exact ⟨hending, rfl⟩
  | collect | settle | togglePause | shutdown =>
    simp only [Watch.next]
    split <;> exact ⟨hending, rfl⟩

theorem run_of_ended {ending : Ending} (hending : watch.ending = some ending)
    (moves : List Move) :
    (watch.run script moves).ending = some ending ∧
      (watch.run script moves).begun = watch.begun := by
  induction moves generalizing watch with
  | nil => exact ⟨hending, rfl⟩
  | cons move rest ih =>
    obtain ⟨hnext, hbegun⟩ := h.next_of_ended hending move
    obtain ⟨hrest, hsame⟩ := ih (h.next move) hnext
    exact ⟨hrest, hsame.trans hbegun⟩

end Sound

/-- Whether a move is one of the thread. -/
def Move.ByThread : Move → Prop
  | look | read | count => True
  | _ => False

section Waiting
variable {script : Script} {watch : Watch}

/-- The moves of the thread leave the owner where it stands. -/
theorem next_byThread {move : Move} (hmove : move.ByThread) :
    (watch.next script move).errand = watch.errand ∧
      (watch.next script move).answers = watch.answers := by
  cases move with
  | look =>
    simp only [next]
    split
    · rw [look]
      split <;> exact ⟨rfl, rfl⟩
    · exact ⟨rfl, rfl⟩
  | read =>
    simp only [next]
    split
    · rw [read]
      split <;> exact ⟨rfl, rfl⟩
    · exact ⟨rfl, rfl⟩
  | count =>
    simp only [next]
    split <;> exact ⟨rfl, rfl⟩
  | refresh | collect | settle | togglePause | shutdown | join => cases hmove

theorem run_byThread (script : Script) (watch : Watch) {moves : List Move}
    (hmoves : ∀ move ∈ moves, move.ByThread) :
    (watch.run script moves).errand = watch.errand ∧
      (watch.run script moves).answers = watch.answers := by
  induction moves generalizing watch with
  | nil => exact ⟨rfl, rfl⟩
  | cons move rest ih =>
    obtain ⟨herrand, hanswers⟩ := next_byThread (hmoves move (List.mem_cons_self ..))
    obtain ⟨hrest, hsame⟩ := ih (watch.next script move) fun other hother =>
      hmoves other (List.mem_cons_of_mem _ hother)
    exact ⟨hrest.trans herrand, hsame.trans hanswers⟩

/-- A thread that has ended does not move. -/
theorem next_of_finished (move : Move) (hmove : move.ByThread)
    (hfinished : watch.monitor.thread.isFinished = true) :
    watch.next script move = watch := by
  cases move with
  | look | read | count =>
    simp only [next]
    split
    · next hrunning _ =>
      rw [hrunning] at hfinished
      cases hfinished
    · rfl
  | refresh | collect | settle | togglePause | shutdown | join => cases hmove

theorem running_of_not_finished {thread : CaptureThread} (h : ¬thread.isFinished = true) :
    thread = .running := by
  cases thread with
  | running => rfl
  | ended | joined => exact absurd rfl h

variable (hflag : watch.stopFlag = true)
include hflag

/-- The thread ends when it looks at a flag that is set. -/
theorem finished_look (hstation : watch.station = .head) :
    (watch.next script .look).monitor.thread.isFinished = true := by
  by_cases hfinished : watch.monitor.thread.isFinished = true
  · rw [next_of_finished .look trivial hfinished]
    exact hfinished
  · have hrunning := running_of_not_finished hfinished
    simp only [next, hrunning, hstation, look, hflag, if_true, Monitor.dispatch_stop hrunning]
    rfl

theorem finished_count {frames : List Frame} (hstation : watch.station = .counting frames) :
    ((watch.next script .count).next script .look).monitor.thread.isFinished = true := by
  by_cases hfinished : watch.monitor.thread.isFinished = true
  · rw [next_of_finished .count trivial hfinished, next_of_finished .look trivial hfinished]
    exact hfinished
  · have hcount : watch.next script .count = watch.count frames := by
      simp only [next, running_of_not_finished hfinished, hstation]
    rw [hcount]
    exact finished_look hflag rfl

/-- A thread that is told to stop ends, at the latest after the dispatch under way. -/
theorem finished_of_stopFlag :
    (watch.run script [.read, .count, .look]).monitor.thread.isFinished = true := by
  show (((watch.next script .read).next script .count).next script .look).monitor.thread.isFinished
    = true
  by_cases hfinished : watch.monitor.thread.isFinished = true
  · rw [next_of_finished .read trivial hfinished, next_of_finished .count trivial hfinished,
      next_of_finished .look trivial hfinished]
    exact hfinished
  have hrunning := running_of_not_finished hfinished
  cases hstation : watch.station with
  | head =>
    have hread : watch.next script .read = watch := by simp only [next, hrunning, hstation]
    have hcount : watch.next script .count = watch := by simp only [next, hrunning, hstation]
    rw [hread, hcount]
    exact finished_look hflag hstation
  | counting frames =>
    have hread : watch.next script .read = watch := by simp only [next, hrunning, hstation]
    rw [hread]
    exact finished_count hflag hstation
  | reading =>
    have hread : watch.next script .read = watch.read script := by
      simp only [next, hrunning, hstation]
    rw [hread, read]
    split
    · exact finished_count hflag rfl
    · next failure _ =>
      have hended : (watch.monitor.dispatch failure.dispatch).thread.isFinished = true := by
        rw [Monitor.dispatch_failure hrunning]
        rfl
      rw [next_of_finished .count trivial hended, next_of_finished .look trivial hended]
      exact hended

/-- A shutdown that waits comes back: the thread needs to finish its dispatch and to look at the
flag. -/
theorem returns_of_waiting (hwaiting : watch.errand = .waiting) :
    ∃ ending, (watch.run script [.read, .count, .look, .join]).answers =
        watch.answers ++ [.stopped ending] ∧
      (watch.run script [.read, .count, .look, .join]).errand = .none := by
  have hfinished : (watch.run script [.read, .count, .look]).monitor.thread.isFinished = true :=
    finished_of_stopFlag hflag
  have hmoves : ∀ move ∈ [Move.read, .count, .look], move.ByThread := by
    simp [Move.ByThread]
  obtain ⟨herrand, hanswers⟩ := run_byThread script watch hmoves
  have hjoin : watch.run script [.read, .count, .look, .join] =
      (watch.run script [.read, .count, .look]).join := by
    show (watch.run script [.read, .count, .look]).next script .join = _
    simp only [next, herrand, hwaiting, hfinished, if_true]
  rw [hjoin]
  exact ⟨_, congrArg (· ++ _) hanswers, rfl⟩

end Waiting

/-! ### The end of a capture -/

/-- **A capture failure is told once and freezes the monitor.** Under any schedule, what is
published is what the backend has read, dispatch by dispatch. Once the thread has ended, because
it saw the stop flag or because the backend failed, nothing more is published, and a refresh fails
and changes nothing else than that the thread is joined. The end is told to the first refresh that
finds it or the first shutdown, whichever comes first; refreshes behind that tell only that capture
stopped, and shutdowns go well, so a failure is in one answer. A shutdown that waits comes
back. -/
theorem capture_failures_surface_once (script : Script) (monitor : Monitor)
    (hrunning : monitor.thread = .running) (moves : List Move) :
    let watch := ({ monitor } : Watch).run script moves
    (watch.begun.map .ok = (List.range watch.begun.length).map script ∧
      watch.collected ++ watch.monitor.exchange.packets.items =
        monitor.exchange.packets.items ++ packetsOf watch.begun.flatten ∧
      ((watch.taken.map UInt64.toNat).sum + watch.monitor.exchange.counter.frames.toNat) % 2 ^ 64 =
        (monitor.exchange.counter.frames.toNat + watch.made.flatten.length) % 2 ^ 64) ∧
    (∀ ending, watch.ending = some ending →
      watch.begun = watch.made ∧ watch.Cause script ending ∧
      (∀ more, (watch.run script more).ending = some ending ∧
        (watch.run script more).begun = watch.made) ∧
      ∀ now, ∃ error, watch.monitor.refresh now =
        { monitor := { watch.monitor with thread := .joined }, result := .error error }) ∧
    Told watch.monitor.thread watch.ending watch.answers ∧
    watch.answers.filterMap Answer.failure? = Told.failures watch.monitor.thread watch.ending ∧
    (watch.errand = .waiting → ∃ ending,
      (watch.run script [.read, .count, .look, .join]).answers =
        watch.answers ++ [.stopped ending] ∧
      (watch.run script [.read, .count, .look, .join]).errand = .none) := by
  intro watch
  have hsound : watch.Sound script monitor.exchange := (sound_start script hrunning).run moves
  have htold := hsound.stands.told
  refine ⟨⟨hsound.published.begun, hsound.published.packets, hsound.published.counts⟩, ?_, htold,
    htold.failures_eq, ?_⟩
  · intro ending hending
    obtain ⟨hstation, hcause⟩ := hsound.stands.cause hending
    have hbegun : watch.begun = watch.made := by
      rw [begun, hstation]
      exact List.append_nil _
    have hfinished := htold.isFinished_iff.2 ⟨ending, hending⟩
    refine ⟨hbegun, hcause, fun more => ?_, fun now => ?_⟩
    · rw [← hbegun]
      exact hsound.run_of_ended hending more
    · exact ⟨_, Monitor.refresh_of_finished hfinished now⟩
  · intro hwaiting
    exact returns_of_waiting (hsound.stands.waiting hwaiting) hwaiting

/-- Frames, then a failure. -/
def brief : Script
  | 0 => .ok [Monitor.sent]
  | _ => .error (.failed (.read "device went down"))

/-- The backend fails while a refresh is under way; the next refresh tells it. -/
def failing : List Move := [
  .look, .read, .refresh 1, .count, .collect, .look, .read, .settle Monitor.client,
  .togglePause, .refresh 2, .shutdown, .join, .refresh 3]

theorem capture_fails_during_refresh :
    let watch := ({ monitor := Monitor.fresh } : Watch).run brief failing
    Monitor.fresh.thread = .running ∧
    watch.ending = some (.error (.failed (.read "device went down"))) ∧
    watch.answers.length = 4 ∧
    watch.answers.filterMap Answer.failure? = [.failed (.read "device went down")] ∧
    watch.collected ++ watch.monitor.exchange.packets.items = packetsOf [Monitor.sent] ∧
    brief watch.made.length = .error (.failed (.read "device went down")) ∧
    ∀ now, ∃ error, watch.monitor.refresh now =
      { monitor := { watch.monitor with thread := .joined }, result := .error error } := by
  intro watch
  obtain ⟨⟨-, hpackets, -⟩, hended, -, hfailures, -⟩ :=
    capture_failures_surface_once brief Monitor.fresh rfl failing
  have hending : watch.ending = some (.error (.failed (.read "device went down"))) := rfl
  obtain ⟨-, hcause, -, hrefresh⟩ := hended _ hending
  exact ⟨rfl, hending, rfl, hfailures.trans rfl, hpackets.trans rfl, hcause, hrefresh⟩

end Flowmeter.Watch
