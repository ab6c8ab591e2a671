import Flowmeter.Launch.Basic
import Flowmeter.Proofs.Files.Keeping
import Flowmeter.Proofs.Settings.RoundTrip

/-! Saved settings are the settings of later runs.

Where the file system takes a file, saving writes the settings' text there (`save_writable`),
and loading gives the settings back, in range (`load_of_fileText`). Settings that follow from a
command line are in range already, so a run that saves its settings leaves them to a later run
that asks for nothing (`Launch.settings_after_start`). Settings that cannot be written are
refused before the file is touched (`save_unwritable`). -/
namespace Flowmeter

/-- The file system lets a file be written at a path and directories be made for it. -/
def FileTree.Takes (files : FileTree) (path : String) : Prop :=
  ∃ made opened, files.makeDirectories ((Path.parent? path).getD "") = .ok made ∧
    made.open? path = .ok opened

namespace Settings

/-- The path of the log file, if there is one, is made of characters. -/
def Writable (settings : Settings) : Prop :=
  ∀ path, settings.logFile = some path → path.chars?.isSome = true

variable {settings : Settings} {files after : FileTree} {path : String} {text : List Char}

theorem write?_eq_none_iff :
    settings.write? = none ↔ ∃ log, settings.logFile = some log ∧ log.chars? = none := by
  cases hlog : settings.logFile with
  | none => simp [write?, Field.all, memberLine?, Field.write?, hlog]
  | some log =>
    cases hchars : log.chars? <;> simp [write?, Field.all, memberLine?, Field.write?, hlog, hchars]

theorem Writable.exists_write? (h : settings.Writable) : ∃ text, settings.write? = some text := by
  cases hwrite : settings.write? with
  | some text => exact ⟨text, rfl⟩
  | none =>
    obtain ⟨log, hlog, hnone⟩ := write?_eq_none_iff.1 hwrite
    have := h log hlog
    rw [hnone] at this
    cases this

/-! ### The range -/

theorem clamp_eq (settings : Settings) :
    settings.clamp = { settings with refreshSecs := max 1 (min 60 settings.refreshSecs) } := by
  have hseconds (seconds : UInt64) :
      (if seconds < minRefreshSecs then minRefreshSecs
        else if maxRefreshSecs < seconds then maxRefreshSecs else seconds) =
        max 1 (min 60 seconds) := by
    simp only [max, min, minRefreshSecs, maxRefreshSecs]
    grind
  rw [clamp, hseconds]

theorem clamp_clamp (settings : Settings) : settings.clamp.clamp = settings.clamp := by
  have hseconds (seconds : UInt64) : max 1 (min 60 (max 1 (min 60 seconds))) =
      max 1 (min 60 seconds) := by
    simp only [max, min]
    grind
  simp only [clamp_eq, hseconds]

/-- What follows from a command line is in range. -/
theorem clamp_apply (arguments : CommandLine.Arguments) (stored : Settings) :
    (arguments.apply stored).clamp = arguments.apply stored :=
  clamp_clamp _

/-- A command line that asks for nothing brings settings into range and leaves them else. -/
theorem apply_nothing (stored : Settings) :
    ({} : CommandLine.Arguments).apply stored = stored.clamp := by
  simp [CommandLine.Arguments.apply]

/-! ### Saving and loading -/

theorem save_writable (hfiles : files.Takes path) (htext : settings.write? = some text) :
    ∃ after, settings.save files path = (after, .ok ()) ∧
      after.read path = .ok (String.ofList text).toUTF8.toList := by
  obtain ⟨made, ⟨place, before⟩, hmade, hopen⟩ := hfiles
  obtain ⟨after, hafter⟩ :
      ∃ after, made.write path (String.ofList text).toUTF8.toList = .ok after := by
    rw [FileTree.write, hopen]
    exact ⟨_, rfl⟩
  refine ⟨after, ?_, FileTree.read_of_write hafter⟩
  simp only [save, hmade, htext, hafter]

/-- Saving refuses settings that cannot be written, and all files keep their contents. -/
theorem save_unwritable (htext : settings.write? = none) :
    (files.Takes path → (settings.save files path).2 = .error .unwritablePath) ∧
      (∃ error, (settings.save files path).2 = .error error) ∧
      ∀ other content, files.read other = .ok content →
        (settings.save files path).1.read other = .ok content := by
  cases hmade : files.makeDirectories ((Path.parent? path).getD "") with
  | error fault =>
    have hsave : settings.save files path =
        (files, .error (.makeDirectory ((Path.parent? path).getD "") fault)) := by
      simp only [save, hmade]
    rw [hsave]
    refine ⟨?_, ⟨_, rfl⟩, fun other content h => h⟩
    rintro ⟨made, opened, hok, -⟩
    rw [hmade] at hok
    cases hok
  | ok made =>
    have hsave : settings.save files path = (made, .error .unwritablePath) := by
      simp only [save, hmade, htext]
    rw [hsave]
    have hkeeps := FileTree.extends_makeDirectories hmade
    exact ⟨fun _ => rfl, ⟨_, rfl⟩, fun other content h => hkeeps.read h⟩

theorem fileText_of_read
    (h : files.read path = .ok (String.ofList text).toUTF8.toList) :
    fileText files path = .ok text := by
  simp only [fileText, h, Text.Raw.chars?_ofBytes_toUTF8]

theorem contains_of_fileText (h : fileText files path = .ok text) : files.contains path = true := by
  unfold fileText at h
  split at h
  · cases h
  · next content hread => exact FileTree.contains_of_read hread

/-- What the text of a file says is loaded, in range. -/
theorem load_of_fileText (hfile : fileText files path = .ok text)
    (htext : read text = .ok settings) : load files path = .ok settings.clamp := by
  simp only [load, contains_of_fileText hfile, Bool.not_true, Bool.false_eq_true, if_false, hfile,
    htext]

theorem load_of_save (hfiles : files.Takes path) (h : settings.Writable) :
    ∃ after, settings.save files path = (after, .ok ()) ∧
      load after path = .ok settings.clamp := by
  obtain ⟨text, htext⟩ := h.exists_write?
  obtain ⟨after, hsave, hread⟩ := save_writable hfiles htext
  exact ⟨after, hsave, load_of_fileText (fileText_of_read hread) (read_write? htext)⟩

end Settings

/-! ### Runs -/

namespace Launch

variable {arguments : CommandLine.Arguments} {places : UserPlaces} {files : FileTree}
  {path : String}

/-- The settings that a run with these words on its command line goes on with. -/
def effective (words : List Text.Raw) (places : UserPlaces) (files : FileTree) :
    Except CommandLine.Refusal Settings :=
  (CommandLine.Arguments.read words).map fun arguments => settings arguments places files

theorem settings_eq_of_load {stored : Settings} (hpath : Settings.path places = .ok path)
    (hload : Settings.load files path = .ok stored) :
    settings {} places files = stored.clamp := by
  have hstored : storedSettings places files = stored := by
    simp only [storedSettings, hpath, bind, Except.bind, hload]
  rw [settings, hstored, Settings.apply_nothing]

/-- A run that saves its settings leaves them to a later one that asks for nothing. -/
theorem settings_after_start (hsaves : arguments.saveSettings = true)
    (hpath : Settings.path places = .ok path) (hfiles : files.Takes path)
    (hwritable : (settings arguments places files).Writable) :
    settings {} places (start arguments places files).files =
      settings arguments places files := by
  obtain ⟨after, hsave, hload⟩ := Settings.load_of_save hfiles hwritable
  have hstart : (start arguments places files).files = after := by
    simp only [start, hsaves, if_true, hpath, hsave]
  have hrange : (settings arguments places files).clamp = settings arguments places files :=
    Settings.clamp_apply ..
  rw [hstart, settings_eq_of_load hpath hload, Settings.clamp_clamp, hrange]

theorem files_run {words : List Text.Raw} (h : CommandLine.Arguments.read words = .ok arguments) :
    (run words places files).files = (start arguments places files).files := by
  simp only [run, h]
  split <;> rfl

end Launch

namespace Settings

/-- **Saved settings are the settings of later runs.** Where the file system takes the file,
settings whose log file has a path of characters are saved, and they are loaded as they were but
for the seconds between refreshes, which are brought between 1 and 60. Settings that follow from
a command line are loaded as they were, so a run that saves its settings and a later one without
flags go on with the same. Settings whose log file has another path are not saved, and all files,
an older settings file among them, keep their contents. -/
theorem saved_settings_persist (files : FileTree) (path : String) :
    (∀ settings : Settings, files.Takes path → settings.Writable →
      ∃ after, settings.save files path = (after, .ok ()) ∧
        load after path =
          .ok { settings with refreshSecs := max 1 (min 60 settings.refreshSecs) } ∧
        ∀ (arguments : CommandLine.Arguments) (stored : Settings),
          settings = arguments.apply stored → load after path = .ok settings) ∧
    (∀ words arguments places, CommandLine.Arguments.read words = .ok arguments →
      arguments.saveSettings = true → Settings.path places = .ok path → files.Takes path →
      (Launch.settings arguments places files).Writable →
      Launch.effective [] places (Launch.run words places files).files =
        Launch.effective words places files) ∧
    ∀ settings : Settings, ¬settings.Writable →
      (files.Takes path → (settings.save files path).2 = .error .unwritablePath) ∧
      (∃ error, (settings.save files path).2 = .error error) ∧
      ∀ other content, files.read other = .ok content →
        (settings.save files path).1.read other = .ok content := by
  refine ⟨?_, ?_, ?_⟩
  · intro settings hfiles hwritable
    obtain ⟨after, hsave, hload⟩ := load_of_save hfiles hwritable
    refine ⟨after, hsave, clamp_eq settings ▸ hload, ?_⟩
    rintro arguments stored rfl
    rw [hload, clamp_apply]
  · intro words arguments places hwords hsaves hpath hfiles hwritable
    rw [Launch.files_run hwords, Launch.effective, Launch.effective, hwords]
    exact congrArg Except.ok (Launch.settings_after_start hsaves hpath hfiles hwritable)
  · intro settings hunwritable
    refine save_unwritable ?_
    rw [write?_eq_none_iff]
    simp only [Writable, not_forall] at hunwritable
    obtain ⟨log, hlog, hnone⟩ := hunwritable
    exact ⟨log, hlog, by simpa using hnone⟩

/-- Settings with texts that have to be escaped. -/
def wordy : Settings where
  refreshSecs := 5
  capture := .recv
  logFile := some (Text.Raw.ofString "/tmp/\"Ü\"\\\t😀.log")
  hostLimit := 0xFFFFFFFFFFFFFFFF
  device := "eth\n0"

/-- The user's files before anything is saved. -/
def homeFiles : FileTree := .inDirectory ["home"]

def homePlaces : UserPlaces where
  configHome := some "/home"

/-- A command line that asks for a device and to save that. -/
def savingWords : List Text.Raw := [Text.Raw.ofString "-ilo", Text.Raw.ofString "--save-settings"]

theorem wordy_settings_persist :
    homeFiles.Takes "/home/nettop/settings.json" ∧ wordy.Writable ∧
    (∃ after, wordy.save homeFiles "/home/nettop/settings.json" = (after, .ok ()) ∧
      load after "/home/nettop/settings.json" = .ok wordy) ∧
    (Launch.effective [] homePlaces (Launch.run savingWords homePlaces homeFiles).files =
      .ok { device := "lo" }) ∧
    ({ wordy with logFile := some [.stray [0xFF]] }.save homeFiles
      "/home/nettop/settings.json").2 = .error .unwritablePath := by
  obtain ⟨hsaves, hruns, hrefuses⟩ :=
    saved_settings_persist homeFiles "/home/nettop/settings.json"
  have hfiles : homeFiles.Takes "/home/nettop/settings.json" := ⟨_, _, rfl, rfl⟩
  have hwritable : wordy.Writable := by
    rintro log ⟨⟩
    rfl
  refine ⟨hfiles, hwritable, ?_, ?_, ?_⟩
  · obtain ⟨after, hsave, hload, -⟩ := hsaves wordy hfiles hwritable
    exact ⟨after, hsave, hload⟩
  · refine (hruns savingWords { device := some "lo", saveSettings := true } homePlaces rfl rfl rfl
      hfiles ?_).trans rfl
    rintro log ⟨⟩
  · refine (hrefuses _ fun hnot => ?_).1 hfiles
    exact absurd (hnot _ rfl) (by decide)

end Settings

end Flowmeter
