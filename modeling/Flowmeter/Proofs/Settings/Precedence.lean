import Flowmeter.Proofs.CommandLine.Given
import Flowmeter.Proofs.Settings.Overlay
import Flowmeter.Proofs.Settings.Persistence

/-! The command line wins over the settings file, and that wins over the defaults.

A file counts if it is found, is Unicode and is a text of settings (`Launch.Finds`); any other
leaves the defaults (`Launch.storedSettings_of_finds`, `Launch.storedSettings_of_not_finds`).
Either way the stored settings are in range, and so are seconds that a command line gives, so
that what wins is taken as it is (`winsOver_apply`). -/
namespace Flowmeter

namespace Settings

/-- The time between refreshes is in range. -/
def InRange (settings : Settings) : Prop :=
  1 ≤ settings.refreshSecs ∧ settings.refreshSecs ≤ 60

theorem inRange_clamp (settings : Settings) : settings.clamp.InRange := by
  simp only [InRange, clamp_eq, max, min]
  grind

theorem InRange.clamp_eq_self {settings : Settings} (h : settings.InRange) :
    settings.clamp = settings := by
  have hlow : ¬settings.refreshSecs < minRefreshSecs := UInt64.not_lt.2 h.1
  have hhigh : ¬maxRefreshSecs < settings.refreshSecs := UInt64.not_lt.2 h.2
  rw [clamp, if_neg hlow, if_neg hhigh]

end Settings

namespace CommandLine.Arguments

/-- What was given is in effect, and what is stored where nothing was given. What is only ever
turned on is in effect if one of both turns it on. -/
structure WinsOver (arguments : Arguments) (stored effective : Settings) : Prop where
  refreshSecs : effective.refreshSecs = arguments.refreshSecs.getD stored.refreshSecs
  capture : effective.capture = arguments.capture.getD stored.capture
  order : effective.order = arguments.order.getD stored.order
  hideIdle : effective.hideIdle = true ↔ arguments.hideIdle = true ∨ stored.hideIdle = true
  showSplit : effective.showSplit = true ↔ arguments.showSplit = true ∨ stored.showSplit = true
  numericNames :
    effective.numericNames = true ↔ arguments.numericNames = true ∨ stored.numericNames = true
  logFile : effective.logFile = arguments.logFile.or stored.logFile
  hostLimit : effective.hostLimit = arguments.hostLimit.getD stored.hostLimit
  device : effective.device = arguments.device.getD stored.device

variable {arguments : Arguments}

/-- Over settings in range, seconds that were given are taken as they are. -/
theorem refreshSecs_apply (harguments : arguments.InRange) {stored : Settings}
    (hstored : stored.InRange) :
    (arguments.apply stored).refreshSecs = arguments.refreshSecs.getD stored.refreshSecs := by
  -- Whichever of both counts is in range, so bringing it into range does nothing.
  refine congrArg Settings.refreshSecs (Settings.InRange.clamp_eq_self ?_)
  cases hgiven : arguments.refreshSecs with
  | none => exact hstored
  | some seconds => exact harguments seconds hgiven

theorem winsOver_apply (harguments : arguments.InRange) {stored : Settings}
    (hstored : stored.InRange) : arguments.WinsOver stored (arguments.apply stored) where
  refreshSecs := refreshSecs_apply harguments hstored
  capture := rfl
  order := rfl
  hideIdle := Bool.or_eq_true_iff.trans or_comm
  showSplit := Bool.or_eq_true_iff.trans or_comm
  numericNames := Bool.or_eq_true_iff.trans or_comm
  logFile := rfl
  hostLimit := rfl
  device := rfl

/-- What is laid over settings twice is as good as laid over them once. -/
theorem apply_apply (arguments : Arguments) (settings : Settings) :
    arguments.apply (arguments.apply settings) = arguments.apply settings := by
  have hgiven {α : Type} (given : Option α) (value : α) :
      given.getD (given.getD value) = given.getD value := by cases given <;> rfl
  have hlog : arguments.logFile.or (arguments.logFile.or settings.logFile) =
      arguments.logFile.or settings.logFile := by rw [← Option.or_assoc, Option.or_self]
  have hseconds := congrArg Settings.refreshSecs (Settings.clamp_apply arguments settings)
  cases hrefresh : arguments.refreshSecs with
  | none => simpa [apply, Settings.clamp_eq, hrefresh, hgiven, hlog, Bool.or_assoc] using hseconds
  | some seconds => simp [apply, Settings.clamp_eq, hrefresh, hgiven, hlog]

theorem apply_nothing_of_inRange {settings : Settings} (h : settings.InRange) :
    ({} : Arguments).apply settings = settings := by
  rw [Settings.apply_nothing, h.clamp_eq_self]

end CommandLine.Arguments

namespace Launch

/-- The settings file is where it has to be, and its text is one of settings; they need not be in
range. -/
def Finds (places : UserPlaces) (files : FileTree) (text : List Char) (stored : Settings) : Prop :=
  ∃ path, Settings.path places = .ok path ∧ Settings.fileText files path = .ok text ∧
    Settings.read text = .ok stored

variable {places : UserPlaces} {files : FileTree} {text : List Char} {stored : Settings}

theorem storedSettings_of_finds (h : Finds places files text stored) :
    storedSettings places files = stored.clamp := by
  obtain ⟨path, hpath, htext, hread⟩ := h
  simp only [storedSettings, hpath, bind, Except.bind, Settings.load_of_fileText htext hread]

/-- A file that is missing or fails in any way leaves the defaults. -/
theorem storedSettings_of_not_finds (h : ∀ text stored, ¬Finds places files text stored) :
    storedSettings places files = {} := by
  cases hpath : Settings.path places with
  | error fault => simp only [storedSettings, hpath, bind, Except.bind]
  | ok path =>
    simp only [storedSettings, hpath, bind, Except.bind, Settings.load]
    split
    · next settings hload =>
      split at hload
      · exact (Except.ok.inj hload).symm
      · split at hload
        · cases hload
        · next text htext =>
          split at hload
          · cases hload
          · next stored hread => exact absurd ⟨path, hpath, htext, hread⟩ (h text stored)
    · rfl

/-- **Flags win over the settings file, and that wins over the defaults.** A run goes on with what
its flags give; without a flag, with what the file says, its seconds between refreshes brought
between 1 and 60; and with the default of what the text of the file does not set. Hiding idle
processes, showing shares and leaving numeric names are on if the flag or the file turns them on.
A file that is missing, unreadable or malformed leaves all the defaults. In the end seconds are
between 1 and 60 whatever the file says. Flags that are laid over settings once more change
nothing, and no flags leave settings in range as they are. -/
theorem flags_win_over_file_over_defaults {words : List Text.Raw}
    {arguments : CommandLine.Arguments} (h : CommandLine.Arguments.read words = .ok arguments)
    (places : UserPlaces) (files : FileTree) :
    (∃ settings, effective words places files = .ok settings ∧ settings.InRange ∧
      (∀ text stored, Finds places files text stored →
        arguments.WinsOver { stored with refreshSecs := max 1 (min 60 stored.refreshSecs) }
          settings ∧
        ∃ fields, Settings.Sets text fields stored ∧
          ∀ field ∉ fields, field.copy {} stored = stored) ∧
      ((∀ text stored, ¬Finds places files text stored) → arguments.WinsOver {} settings)) ∧
    (∀ settings, arguments.apply (arguments.apply settings) = arguments.apply settings) ∧
    CommandLine.Arguments.read [] = .ok {} ∧
    ∀ settings : Settings, settings.InRange →
      ({} : CommandLine.Arguments).apply settings = settings := by
  have harguments : arguments.InRange := CommandLine.Arguments.inRange_of_read h
  refine ⟨⟨settings arguments places files, ?_, Settings.inRange_clamp _, ?_, ?_⟩,
    arguments.apply_apply, rfl, fun _ => CommandLine.Arguments.apply_nothing_of_inRange⟩
  · rw [effective, h]
    rfl
  · intro text stored hfinds
    refine ⟨?_, ?_⟩
    · rw [← Settings.clamp_eq, settings, storedSettings_of_finds hfinds]
      exact CommandLine.Arguments.winsOver_apply harguments (Settings.inRange_clamp stored)
    · obtain ⟨path, -, -, hread⟩ := hfinds
      obtain ⟨fields, hsets⟩ := Settings.exists_sets hread
      exact ⟨fields, hsets, fun field hfield => hsets.default_of_not_mem hread hfield⟩
  · intro hnot
    rw [settings, storedSettings_of_not_finds hnot]
    exact CommandLine.Arguments.winsOver_apply harguments ⟨by decide, by decide⟩

/-- A text that sets two fields, one of them far out of range. -/
def sluggishText : String :=
  "\x7b\"order\": \"Ascending\", \"refresh_secs\": 18446744073709551615\x7d"

/-- The user's files with such a settings file among them. -/
def sluggishFiles : FileTree where
  nodes :=
    (["home", "nettop", "settings.json"], .file sluggishText.toUTF8.toList) ::
      (["home", "nettop"], .directory) :: Settings.homeFiles.nodes

theorem sluggish_file_waits_a_minute :
    CommandLine.Arguments.read Settings.savingWords =
      .ok { device := some "lo", saveSettings := true } ∧
    Finds Settings.homePlaces sluggishFiles sluggishText.toList
      { refreshSecs := 0xFFFFFFFFFFFFFFFF, order := .ascending } ∧
    ∃ settings, effective Settings.savingWords Settings.homePlaces sluggishFiles = .ok settings ∧
      settings.refreshSecs = 60 ∧ settings.order = .ascending ∧ settings.device = "lo" ∧
      settings.hideIdle = false := by
  have hwords : CommandLine.Arguments.read Settings.savingWords =
      .ok { device := some "lo", saveSettings := true } := rfl
  have hfinds : Finds Settings.homePlaces sluggishFiles sluggishText.toList
      { refreshSecs := 0xFFFFFFFFFFFFFFFF, order := .ascending } :=
    ⟨"/home/nettop/settings.json", rfl, by decide +kernel, by decide +kernel⟩
  obtain ⟨⟨settings, hsettings, -, hfile, -⟩, -⟩ :=
    flags_win_over_file_over_defaults hwords Settings.homePlaces sluggishFiles
  obtain ⟨hwins, -⟩ := hfile _ _ hfinds
  refine ⟨hwords, hfinds, settings, hsettings, hwins.refreshSecs, hwins.order, hwins.device, ?_⟩
  rw [Bool.eq_false_iff, ne_eq, hwins.hideIdle]
  simp

end Launch

end Flowmeter
