import Flowmeter.Proofs.Attribution.Credit
import Flowmeter.Proofs.Inventory.Lookup
import Flowmeter.Proofs.Monitor.Windows
import Flowmeter.Session

/-! What the main loop keeps.

Between two iterations anything may change that the capture thread and the system decide
(`Surroundings`). The monitor and the display each have a pause flag, and every iteration keeps
the two alike; the display's report is the last one that a refresh told while not paused, and
the status line counts its processes (`Shows`). `Shows.iterate` is the step, by what the
iteration meets; `Shows.follow` the run. `Ends` lists how the loop can end, and `iterate_ends`
that it ends in these ways only. -/
namespace Flowmeter

/-- What changes around a session: what the capture thread has published, whether it runs, and
what answers about processes and sockets. -/
structure Surroundings where
  exchange : Exchange
  thread : CaptureThread
  source : Source

/-- One turn of the loop: what stands around it by then, and what the iteration meets. -/
structure Turn where
  surroundings : Surroundings
  iteration : Iteration

/-! ### Refreshes -/

/-- What a refresh tells of traffic: its report, unless it failed or was paused. -/
def Refresh.told (refresh : Refresh) : List CycleReport :=
  match refresh.result with
  | .ok report => if report.paused then [] else [report]
  | .error _ => []

namespace Monitor

variable (monitor : Monitor) (now : Nat)

theorem paused_refresh : (monitor.refresh now).monitor.paused = monitor.paused := by
  unfold refresh
  split
  · rfl
  · simp only [settle, conclude]
    split
    · rfl
    · split <;> rfl

variable {monitor now}

/-- A report is paused if the monitor is; one of traffic has an entry for the kernel. -/
theorem report_of_refresh {report : CycleReport} (h : (monitor.refresh now).result = .ok report) :
    report.paused = monitor.paused ∧
      (monitor.paused = false → ∃ others, report.processes.length = others + 1) := by
  unfold refresh at h
  split at h
  · cases h
  simp only [settle, conclude] at h
  split at h
  · next hpaused =>
    have hpaused : monitor.paused = true := hpaused
    obtain rfl := Except.ok.inj h
    exact ⟨hpaused.symm, fun hnot => absurd (hpaused.symm.trans hnot) (by decide)⟩
  · next hpaused =>
    have hpaused : monitor.paused = false := Bool.eq_false_iff.2 hpaused
    split at h
    · cases h
    · next inventory _ =>
      obtain rfl := Except.ok.inj h
      exact ⟨hpaused.symm, fun _ =>
        ⟨_, (Attribution.length_ofPackets ..).trans inventory.length_owners⟩⟩

end Monitor

/-! ### The loop -/

namespace Session

/-- A session before its first iteration. -/
def start (settings : Settings) (names : Names) (machine : LocalAddresses) (source : Source)
    (now : Nat) : Session where
  display := .start settings names
  monitor := { direction := settings.capture, machine, source, lastRefresh := now }

section Steps
variable (session : Session)

/-- The session among other surroundings. -/
def amid (surroundings : Surroundings) : Session :=
  { session with monitor := { session.monitor with
      exchange := surroundings.exchange
      thread := surroundings.thread
      source := surroundings.source } }

def turn (turn : Turn) : Session := (session.amid turn.surroundings).iterate turn.iteration

/-- The turns one after the other. -/
def follow (turns : List Turn) : Session := turns.foldl turn session

/-- The refresh that an iteration runs. There is one if it is due and the loop goes on past the
event, which must not close help. -/
def refresh? (iteration : Iteration) : Option Refresh :=
  match session.progress, iteration.drawFault, iteration.event, iteration.due with
  | .running, none, .ok event, some now =>
    let handled := session.handle event
    if session.closesHelp event then none
    else if handled.progress = .running then some (handled.monitor.refresh now)
    else none
  | _, _, _, _ => none

end Steps

/-- What the refreshes of the turns tell of traffic, in order. -/
def told (session : Session) : List Turn → List CycleReport
  | [] => []
  | first :: rest =>
    (((session.amid first.surroundings).refresh? first.iteration).map Refresh.told).getD [] ++
      (session.turn first).told rest

/-- How an iteration can end the loop. -/
inductive Ends (session : Session) (iteration : Iteration) : Progress → Prop
  | draw {fault : String} (hdraw : iteration.drawFault = some fault) :
    Ends session iteration (.failed (.draw fault))
  | readEvent {fault : String} (hdraw : iteration.drawFault = none)
    (hevent : iteration.event = .error fault) : Ends session iteration (.failed (.readEvent fault))
  /-- A key that asks for it, while no help is shown. -/
  | quit {press : KeyPress} (hdraw : iteration.drawFault = none)
    (hevent : iteration.event = .ok (some (.key press))) (haction : press.action? = some .quit)
    (hhelp : session.display.helpShown = false) : Ends session iteration .quit
  | refresh {refreshed : Refresh} {error : MonitorError}
    (hrefresh : session.refresh? iteration = some refreshed)
    (herror : refreshed.result = .error error) : Ends session iteration (.failed (.refresh error))

/-- How an iteration goes, by what it meets: the session behind it and the refresh it runs. -/
inductive Goes (session : Session) (iteration : Iteration) : Session → Option Refresh → Prop
  | drawFault {fault : String} (hdraw : iteration.drawFault = some fault) :
    Goes session iteration { session with progress := .failed (.draw fault) } none
  | eventFault {fault : String} (hdraw : iteration.drawFault = none)
    (hevent : iteration.event = .error fault) :
    Goes session iteration { session with progress := .failed (.readEvent fault) } none
  | helpClosed {press : KeyPress} (hdraw : iteration.drawFault = none)
    (hevent : iteration.event = .ok (some (.key press)))
    (hhelp : session.display.helpShown = true) :
    Goes session iteration
      { session with display := { session.display with helpShown := false } } none
  /-- Nothing is due, or the event ends the loop. -/
  | handled {event : Option TerminalEvent} (hdraw : iteration.drawFault = none)
    (hevent : iteration.event = .ok event) (hhelp : session.closesHelp event = false)
    (hrests : (session.handle event).progress = .running → iteration.due = none) :
    Goes session iteration (session.handle event) none
  | refreshed {event : Option TerminalEvent} {now : Nat} (hdraw : iteration.drawFault = none)
    (hevent : iteration.event = .ok event) (hhelp : session.closesHelp event = false)
    (hgoes : (session.handle event).progress = .running) (hdue : iteration.due = some now) :
    Goes session iteration ((session.handle event).refresh now)
      (some ((session.handle event).monitor.refresh now))

theorem key_of_closesHelp {session : Session} {event : Option TerminalEvent}
    (h : session.closesHelp event = true) :
    session.display.helpShown = true ∧ ∃ press, event = some (.key press) := by
  unfold closesHelp at h
  split at h
  · next press => exact ⟨h, press, rfl⟩
  · cases h

theorem goes {session : Session} (hrunning : session.progress = .running)
    (iteration : Iteration) :
    session.Goes iteration (session.iterate iteration) (session.refresh? iteration) := by
  obtain ⟨drawFault, event, due⟩ := iteration
  obtain ⟨display, monitor, progress⟩ := session
  obtain rfl : progress = .running := hrunning
  cases drawFault with
  | some fault => exact .drawFault rfl
  | none =>
  cases event with
  | error fault => exact .eventFault rfl rfl
  | ok event =>
  cases hhelp : closesHelp ⟨display, monitor, .running⟩ event with
  | true =>
    obtain ⟨hshown, press, rfl⟩ := key_of_closesHelp hhelp
    cases due <;>
      · simp only [iterate, refresh?, hhelp, if_true]
        exact .helpClosed rfl rfl hshown
  | false =>
  cases due with
  | none =>
    have hrests (handled : Session) : handled.refreshIfDue none = handled := by
      unfold refreshIfDue
      split
      · contradiction
      · rfl
    simp only [iterate, refresh?, hhelp, Bool.false_eq_true, if_false, hrests]
    exact .handled rfl rfl hhelp fun _ => rfl
  | some now =>
    simp only [iterate, refresh?, hhelp, Bool.false_eq_true, if_false]
    by_cases hgoes : (handle ⟨display, monitor, .running⟩ event).progress = .running
    · simp only [refreshIfDue, hgoes, if_true]
      exact .refreshed rfl rfl hhelp hgoes rfl
    · have hrests (handled : Session) (hends : handled.progress ≠ .running) :
          handled.refreshIfDue (some now) = handled := by
        unfold refreshIfDue
        split
        · next h _ => exact absurd h hends
        · rfl
      rw [hrests _ hgoes, if_neg hgoes]
      exact .handled rfl rfl hhelp fun h => absurd h hgoes

section Refreshing
variable {session : Session} {now : Nat}

theorem refresh_ok {report : CycleReport} (h : (session.monitor.refresh now).result = .ok report) :
    session.refresh now =
      { session with
        monitor := (session.monitor.refresh now).monitor
        display := session.display.update report } := by
  simp only [refresh, h]

theorem refresh_error {error : MonitorError}
    (h : (session.monitor.refresh now).result = .error error) :
    session.refresh now =
      { session with
        monitor := (session.monitor.refresh now).monitor
        progress := .failed (.refresh error) } := by
  simp only [refresh, h]

end Refreshing

/-! ### What the screen shows -/

/-- What the status line says of a number of processes. -/
def openSockets (processes : Nat) : String :=
  toString processes ++ " process(es) with open sockets"

/-- The display is that of a session whose refreshes have told this of traffic. -/
structure Shows (session : Session) (told : List CycleReport) : Prop where
  paused : session.display.paused = session.monitor.paused
  report : session.display.report = told.getLast?
  /-- The status line counts the processes, the kernel apart. -/
  status {report : CycleReport} : told.getLast? = some report →
    ∃ others, report.processes.length = others + 1 ∧ session.display.status = openSockets others

theorem shows_start (settings : Settings) (names : Names) (machine : LocalAddresses)
    (source : Source) (now : Nat) : (start settings names machine source now).Shows [] where
  paused := rfl
  report := rfl
  status h := nomatch h

namespace Shows

variable {session : Session} {told : List CycleReport} (h : session.Shows told)
include h

theorem amid (surroundings : Surroundings) : (session.amid surroundings).Shows told where
  paused := h.paused
  report := h.report
  status := h.status

theorem act (action : KeyAction) : (session.act action).Shows told := by
  cases action with
  | quit => exact ⟨h.paused, h.report, h.status⟩
  | togglePause => exact ⟨rfl, h.report, h.status⟩
  | showHelp => exact ⟨h.paused, h.report, h.status⟩

theorem handle (event : Option TerminalEvent) : (session.handle event).Shows told := by
  unfold Session.handle
  split
  · next press =>
    cases press.action? with
    | none => exact h
    | some action => exact h.act action
  · exact h

theorem refresh (now : Nat) :
    (session.refresh now).Shows (told ++ (session.monitor.refresh now).told) := by
  have hkept := session.monitor.paused_refresh now
  cases hresult : (session.monitor.refresh now).result with
  | error error =>
    rw [refresh_error hresult, Refresh.told, hresult, List.append_nil]
    exact ⟨h.paused.trans hkept.symm, h.report, h.status⟩
  | ok report =>
    obtain ⟨hpaused, hentries⟩ := Monitor.report_of_refresh hresult
    rw [refresh_ok hresult, Refresh.told, hresult]
    cases hflag : session.monitor.paused with
    | true =>
      have hupdate : session.display.update report = { session.display with paused := true } :=
        if_pos (hpaused.trans hflag)
      have htold : (if report.paused then [] else [report]) = [] := if_pos (hpaused.trans hflag)
      simp only [htold, List.append_nil, hupdate]
      exact ⟨(hkept.trans hflag).symm, h.report, h.status⟩
    | false =>
      have hnot : ¬report.paused = true := Bool.eq_false_iff.1 (hpaused.trans hflag)
      have htold : (if report.paused then [] else [report]) = [report] := if_neg hnot
      obtain ⟨others, hothers⟩ := hentries hflag
      have hupdate : session.display.update report = { session.display with
          paused := false, status := openSockets others, report := some report } := by
        rw [Display.update, if_neg hnot, hothers]
        rfl
      simp only [htold, hupdate]
      refine ⟨(hkept.trans hflag).symm, List.getLast?_concat.symm, fun hlast => ?_⟩
      rw [List.getLast?_concat] at hlast
      obtain rfl := Option.some.inj hlast
      exact ⟨others, hothers, rfl⟩

end Shows

/-- **One iteration** keeps the display in step with the monitor and with what was told. -/
theorem Goes.shows {session next : Session} {iteration : Iteration} {refreshed : Option Refresh}
    (hgoes : session.Goes iteration next refreshed) {told : List CycleReport}
    (h : session.Shows told) : next.Shows (told ++ (refreshed.map Refresh.told).getD []) := by
  cases hgoes with
  | drawFault | eventFault | helpClosed =>
    rw [Option.map_none, Option.getD_none, List.append_nil]
    exact ⟨h.paused, h.report, h.status⟩
  | handled =>
    rw [Option.map_none, Option.getD_none, List.append_nil]
    exact h.handle _
  | refreshed => exact (h.handle _).refresh _

theorem iterate_of_ended {session : Session} (hended : session.progress ≠ .running)
    (iteration : Iteration) :
    session.iterate iteration = session ∧ session.refresh? iteration = none := by
  unfold iterate refresh?
  constructor
  · split
    · contradiction
    · rfl
  · split
    · contradiction
    · rfl

theorem Shows.iterate {session : Session} {told : List CycleReport} (h : session.Shows told)
    (iteration : Iteration) :
    (session.iterate iteration).Shows
      (told ++ ((session.refresh? iteration).map Refresh.told).getD []) := by
  by_cases hrunning : session.progress = .running
  · exact (goes hrunning iteration).shows h
  · obtain ⟨hstays, hnone⟩ := iterate_of_ended hrunning iteration
    rw [hstays, hnone, Option.map_none, Option.getD_none, List.append_nil]
    exact h

/-- **All iterations** do. -/
theorem Shows.follow {session : Session} {told : List CycleReport} (h : session.Shows told)
    (turns : List Turn) : (session.follow turns).Shows (told ++ session.told turns) := by
  induction turns generalizing session told with
  | nil =>
    rw [Session.told, List.append_nil]
    exact h
  | cons first rest ih =>
    rw [Session.told, ← List.append_assoc]
    exact ih ((h.amid first.surroundings).iterate first.iteration)

/-! ### How the loop ends -/

section Handling
variable {session : Session}

/-- An event that closes no help ends the loop only if it is a key that asks for it. -/
theorem handle_cases (hrunning : session.progress = .running) (event : Option TerminalEvent) :
    (∃ press, event = some (.key press) ∧ press.action? = some .quit ∧
      (session.handle event).progress = .quit) ∨
    (∀ press, event = some (.key press) → press.action? ≠ some .quit) ∧
      (session.handle event).progress = .running := by
  unfold handle
  split
  · next press =>
    cases haction : press.action? with
    | none =>
      refine .inr ⟨?_, hrunning⟩
      rintro _ ⟨⟩
      simp [haction]
    | some action =>
      cases action with
      | quit => exact .inl ⟨press, rfl, haction, rfl⟩
      | togglePause | showHelp =>
        refine .inr ⟨?_, hrunning⟩
        rintro _ ⟨⟩
        simp [haction]
  · next hkey => exact .inr ⟨fun press h => absurd h (hkey press), hrunning⟩

theorem monitor_handle (event : Option TerminalEvent) :
    (session.handle event).monitor =
      { session.monitor with paused := (session.handle event).monitor.paused } := by
  unfold handle
  split
  · next press =>
    cases press.action? with
    | none => rfl
    | some action => cases action <;> rfl
  · rfl

end Handling

section Endings
variable {session next : Session} {iteration : Iteration} {refreshed : Option Refresh}
  (hgoes : session.Goes iteration next refreshed)
include hgoes

/-- What happens to the monitor is the refresh; without one it is paused or resumed at most. -/
theorem Goes.monitor_eq :
    next.monitor =
      refreshed.elim { session.monitor with paused := next.monitor.paused } Refresh.monitor := by
  cases hgoes with
  | drawFault | eventFault | helpClosed => rfl
  | handled => exact monitor_handle _
  | @refreshed event now =>
    cases hresult : ((session.handle event).monitor.refresh now).result with
    | ok report => rw [refresh_ok hresult]; rfl
    | error error => rw [refresh_error hresult]; rfl

/-- An iteration after which the loop does not go on has met one of the endings. -/
theorem Goes.ends (hrunning : session.progress = .running)
    (hrefresh : session.refresh? iteration = refreshed) (hend : next.progress ≠ .running) :
    session.Ends iteration next.progress := by
  cases hgoes with
  | drawFault hdraw => exact .draw hdraw
  | eventFault hdraw hevent => exact .readEvent hdraw hevent
  | helpClosed => exact absurd hrunning hend
  | @handled event hdraw hevent hhelp _ =>
    obtain ⟨press, rfl, haction, hquit⟩ | ⟨-, hrunning'⟩ := handle_cases hrunning event
    · rw [hquit]
      exact .quit hdraw hevent haction hhelp
    · exact absurd hrunning' hend
  | @refreshed event now _ _ _ hrunning' _ =>
    cases hresult : ((session.handle event).monitor.refresh now).result with
    | ok report =>
      rw [refresh_ok hresult] at hend
      exact absurd hrunning' hend
    | error error =>
      rw [refresh_error hresult]
      exact .refresh hrefresh hresult

/-- Each ending ends the loop so. -/
theorem Goes.progress_of_ends (hrunning : session.progress = .running)
    (hrefresh : session.refresh? iteration = refreshed) {progress : Progress}
    (hends : session.Ends iteration progress) : next.progress = progress := by
  cases hgoes with
  | drawFault hdraw =>
    cases hends with
    | draw hother => rw [Option.some.inj (hdraw.symm.trans hother)]
    | readEvent hother | quit hother => cases hdraw.symm.trans hother
    | refresh hother => cases hrefresh.symm.trans hother
  | eventFault hdraw hevent =>
    cases hends with
    | draw hother => cases hdraw.symm.trans hother
    | readEvent _ hother => rw [Except.error.inj (hevent.symm.trans hother)]
    | quit _ hother => cases hevent.symm.trans hother
    | refresh hother => cases hrefresh.symm.trans hother
  | helpClosed hdraw hevent hhelp =>
    cases hends with
    | draw hother => cases hdraw.symm.trans hother
    | readEvent _ hother => cases hevent.symm.trans hother
    | quit _ _ _ hother => cases hhelp.symm.trans hother
    | refresh hother => cases hrefresh.symm.trans hother
  | @handled event hdraw hevent hhelp _ =>
    cases hends with
    | draw hother => cases hdraw.symm.trans hother
    | readEvent _ hother => cases hevent.symm.trans hother
    | @quit press _ hother haction _ =>
      obtain rfl := Except.ok.inj (hevent.symm.trans hother)
      obtain ⟨_, _, _, hquit⟩ | ⟨hnot, -⟩ := handle_cases hrunning (some (.key press))
      · exact hquit
      · exact absurd haction (hnot press rfl)
    | refresh hother => cases hrefresh.symm.trans hother
  | @refreshed event now hdraw hevent _ hrunning' _ =>
    cases hends with
    | draw hother => cases hdraw.symm.trans hother
    | readEvent _ hother => cases hevent.symm.trans hother
    | @quit press _ hother haction _ =>
      obtain rfl := Except.ok.inj (hevent.symm.trans hother)
      obtain ⟨_, _, _, hquit⟩ | ⟨hnot, -⟩ := handle_cases hrunning (some (.key press))
      · cases hquit.symm.trans hrunning'
      · exact absurd haction (hnot press rfl)
    | refresh hother herror =>
      obtain rfl := Option.some.inj (hrefresh.symm.trans hother)
      rw [refresh_error herror]

end Endings

/-- **An iteration ends the loop in these ways only.** -/
theorem iterate_ends {session : Session} (hrunning : session.progress = .running)
    (iteration : Iteration) {progress : Progress} (hend : progress ≠ .running) :
    (session.iterate iteration).progress = progress ↔ session.Ends iteration progress := by
  constructor
  · rintro rfl
    exact (goes hrunning iteration).ends hrunning rfl hend
  · exact (goes hrunning iteration).progress_of_ends hrunning rfl

/-- A key that arrives while help is shown closes it, and that is all. -/
theorem iterate_key {session : Session} (hrunning : session.progress = .running)
    {iteration : Iteration} {press : KeyPress} (hdraw : iteration.drawFault = none)
    (hevent : iteration.event = .ok (some (.key press)))
    (hhelp : session.display.helpShown = true) :
    session.refresh? iteration = none ∧
      session.iterate iteration =
        { session with display := { session.display with helpShown := false } } := by
  generalize hnext : session.iterate iteration = next
  generalize hrefresh : session.refresh? iteration = refreshed
  have h := goes hrunning iteration
  rw [hnext, hrefresh] at h
  cases h with
  | drawFault hother => cases hdraw.symm.trans hother
  | eventFault _ hother => cases hevent.symm.trans hother
  | helpClosed => exact ⟨rfl, rfl⟩
  | handled _ hother hnot | refreshed _ hother hnot =>
    obtain rfl := Except.ok.inj (hevent.symm.trans hother)
    cases hhelp.symm.trans hnot

theorem follow_of_ended {session : Session} (hended : session.progress ≠ .running)
    (turns : List Turn) : (session.follow turns).progress = session.progress := by
  induction turns generalizing session with
  | nil => rfl
  | cons first rest ih =>
    have hamid : (session.amid first.surroundings).progress ≠ .running := hended
    have hturn : session.turn first = session.amid first.surroundings :=
      (iterate_of_ended hamid first.iteration).1
    exact ((congrArg (fun next => (next.follow rest).progress) hturn).trans (ih hamid))

/-- A loop that has ended has ended in one of its turns. -/
theorem follow_ends {session : Session} (hrunning : session.progress = .running)
    {turns : List Turn} (hended : (session.follow turns).progress ≠ .running) :
    ∃ before turn after, turns = before ++ turn :: after ∧
      (session.follow before).progress = .running ∧
      ((session.follow before).amid turn.surroundings).Ends turn.iteration
        (session.follow turns).progress := by
  induction turns generalizing session with
  | nil => exact absurd hrunning hended
  | cons first rest ih =>
    by_cases hgoes : (session.turn first).progress = .running
    · obtain ⟨before, turn, after, rfl, hbefore, hends⟩ := ih hgoes hended
      exact ⟨first :: before, turn, after, rfl, hbefore, hends⟩
    · refine ⟨[], first, rest, rfl, hrunning, ?_⟩
      have hstays : (session.follow (first :: rest)).progress = (session.turn first).progress :=
        follow_of_ended hgoes rest
      have hamid : (session.amid first.surroundings).progress = .running := hrunning
      rw [hstays]
      exact (iterate_ends hamid first.iteration hgoes).1 rfl

/-- **What the main loop keeps.** Before every iteration, and so at every drawing, the display
and the monitor agree on the pause; the display has the last report that a refresh told while
not paused, and none before the first; from then on the status line counts that report's
processes less one. What a refresh does is all that happens to the monitor, but for pauses. A key
that arrives while help is shown closes help and does nothing else, and no refresh runs. The loop
ends well only on a key that asks for it while help is not shown, and badly only if the screen
cannot be drawn, an event cannot be read or a refresh fails. -/
theorem loop_keeps_display (settings : Settings) (names : Names) (machine : LocalAddresses)
    (source : Source) (now : Nat) (turns : List Turn) :
    let first := start settings names machine source now
    let session := first.follow turns
    session.display.paused = session.monitor.paused ∧
    session.display.report = (first.told turns).getLast? ∧
    (∀ report, session.display.report = some report → ∃ others,
      report.processes.length = others + 1 ∧
      session.display.status = toString others ++ " process(es) with open sockets") ∧
    (session.progress = .running → ∀ surroundings iteration,
      let drawn := session.amid surroundings
      (drawn.iterate iteration).monitor = (drawn.refresh? iteration).elim
        { drawn.monitor with paused := (drawn.iterate iteration).monitor.paused }
        Refresh.monitor ∧
      (∀ press, iteration.drawFault = none → iteration.event = .ok (some (.key press)) →
        drawn.display.helpShown = true →
        drawn.refresh? iteration = none ∧
          drawn.iterate iteration =
            { drawn with display := { drawn.display with helpShown := false } }) ∧
      ∀ progress, progress ≠ .running →
        ((drawn.iterate iteration).progress = progress ↔ drawn.Ends iteration progress)) ∧
    (session.progress ≠ .running → ∃ before turn after, turns = before ++ turn :: after ∧
      (first.follow before).progress = .running ∧
      ((first.follow before).amid turn.surroundings).Ends turn.iteration session.progress) := by
  intro first session
  have hshows : session.Shows (first.told turns) :=
    (shows_start settings names machine source now).follow turns
  refine ⟨hshows.paused, hshows.report, ?_, ?_, ?_⟩
  · intro report hreport
    exact hshows.status (hshows.report.symm.trans hreport)
  · intro hrunning surroundings iteration drawn
    have hdrawn : drawn.progress = .running := hrunning
    refine ⟨(goes hdrawn iteration).monitor_eq, ?_, ?_⟩
    · exact fun press => iterate_key hdrawn
    · exact fun progress => iterate_ends hdrawn iteration
  · exact follow_ends rfl

/-- A session of one process, before it starts. -/
def idle : Session := start {} .numeric (.ofList [.quad 192 168 0 8]) Monitor.client 0

/-- Packets wait for the next refresh. -/
def busy : Surroundings where
  exchange := ({} : Exchange).publish (.ofFrames [Monitor.sent])
  thread := .running
  source := Monitor.client

def pressed (c : Char) : Except String (Option TerminalEvent) :=
  .ok (some (.key { code := .char c }))

/-- A refresh, one that is paused, and help that a key for quitting closes. -/
def throughHelp : List Turn := [
  ⟨busy, { due := some 1 }⟩, ⟨busy, { event := pressed 'p', due := some 2 }⟩,
  ⟨busy, { event := pressed 'h' }⟩]

theorem loop_keeps_display_through_help :
    let session := idle.follow throughHelp
    session.progress = .running ∧
    session.display.report = (idle.told throughHelp).getLast? ∧
    (∃ report, session.display.report = some report ∧
      ∃ others, report.processes.length = others + 1 ∧
        session.display.status = toString others ++ " process(es) with open sockets") ∧
    session.display.paused = session.monitor.paused ∧ session.display.helpShown = true ∧
    ((session.amid busy).iterate { event := pressed 'q', due := some 3 }).progress = .running ∧
    (((idle.follow []).amid busy).iterate { event := pressed 'q' }).progress = .quit := by
  intro session
  obtain ⟨hpaused, hreport, hstatus, hnext, -⟩ := loop_keeps_display {} .numeric
    (.ofList [.quad 192 168 0 8]) Monitor.client 0 throughHelp
  obtain ⟨-, -, -, hfirst, -⟩ := loop_keeps_display {} .numeric
    (.ofList [.quad 192 168 0 8]) Monitor.client 0 []
  have hrunning : session.progress = .running := rfl
  have hhelp : session.display.helpShown = true := rfl
  obtain ⟨report, hsome⟩ : ∃ report, session.display.report = some report := ⟨_, rfl⟩
  refine ⟨hrunning, hreport, ⟨report, hsome, hstatus report hsome⟩, hpaused, hhelp, ?_, ?_⟩
  · obtain ⟨-, hcloses⟩ :=
      (hnext hrunning busy { event := pressed 'q', due := some 3 }).2.1 _ rfl rfl hhelp
    exact (congrArg progress hcloses).trans hrunning
  · exact ((hfirst rfl busy { event := pressed 'q' }).2.2 .quit (by decide)).2
      (.quit rfl rfl (by decide) rfl)

end Session

end Flowmeter
