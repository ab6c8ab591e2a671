import Flowmeter.Proofs.Settings.Persistence

/-! Settings files that set some fields only.

An object that has some of the fields is loaded as the defaults with these fields replaced
(`partial_file_overlays_defaults`). Only the fields and their values count, as `assigned` says
without regard to their order. Names and strings have to stand for texts; half a character is
refused (`lone_half_is_refused`), though the grammar has it. -/
namespace Flowmeter.Settings

/-- The defaults with these fields replaced. -/
def assigned (fields : List Field) (source : Settings) : Settings where
  refreshSecs := if .refreshSecs ∈ fields then source.refreshSecs else ({} : Settings).refreshSecs
  capture := if .capture ∈ fields then source.capture else ({} : Settings).capture
  order := if .order ∈ fields then source.order else ({} : Settings).order
  hideIdle := if .hideIdle ∈ fields then source.hideIdle else ({} : Settings).hideIdle
  showSplit := if .showSplit ∈ fields then source.showSplit else ({} : Settings).showSplit
  numericNames :=
    if .numericNames ∈ fields then source.numericNames else ({} : Settings).numericNames
  logFile := if .logFile ∈ fields then source.logFile else ({} : Settings).logFile
  hostLimit := if .hostLimit ∈ fields then source.hostLimit else ({} : Settings).hostLimit
  device := if .device ∈ fields then source.device else ({} : Settings).device

variable {source : Settings} {fields others : List Field}

theorem copy_assigned (field : Field) (into : Settings) :
    field.copy (assigned fields source) into =
      field.copy (if field ∈ fields then source else {}) into := by
  by_cases h : field ∈ fields <;> cases field <;>
    simp only [Field.copy, assigned, h, if_true, if_false]

theorem overlay_eq_assigned : overlay fields source {} = assigned fields source := by
  refine eq_of_copy_eq fun field into => ?_
  rw [copy_assigned]
  split
  · next h => exact Field.copy_overlay_of_mem h ..
  · next h => exact Field.copy_overlay_of_not_mem h ..

theorem assigned_congr (h : ∀ field, field ∈ others ↔ field ∈ fields) :
    assigned others source = assigned fields source := by
  simp only [assigned, h]

/-! ### Files -/

/-- Files with one in the root directory. -/
def oneFile (text : List Char) : FileTree where
  nodes := [(["settings.json"], .file (String.ofList text).toUTF8.toList)]

theorem read_oneFile (text : List Char) :
    (oneFile text).read "/settings.json" = .ok (String.ofList text).toUTF8.toList := rfl

/-- A file with an object is loaded as what the object says, in range. -/
theorem load_object {text : List Char} {files : FileTree} {path : String}
    (hobject : IsObject source fields text) (hfields : fields.Nodup)
    (hfile : files.read path = .ok (String.ofList text).toUTF8.toList) :
    load files path = .ok (assigned fields source).clamp := by
  have htext := read_object hobject hfields
  rw [overlay_eq_assigned] at htext
  exact load_of_fileText (fileText_of_read hfile) htext

/-- **A settings file that sets some fields is laid over the defaults.** A file that holds an
object is loaded as the defaults with the fields of the object replaced, whichever fields these
are, and its seconds between refreshes brought between 1 and 60. Fields may come in any order, each
once; numbers are written without needless zeros, and names and strings may be spelled in any way
as long as they stand for a text; white space may stand between any two parts; members of other
names may have any string, truth value or null. Another file with the same fields is loaded as the
same settings. -/
theorem partial_file_overlays_defaults {text : List Char} {files : FileTree} {path : String}
    (hobject : IsObject source fields text) (hfields : fields.Nodup)
    (hfile : files.read path = .ok (String.ofList text).toUTF8.toList) :
    load files path =
      .ok { assigned fields source with
        refreshSecs := max 1 (min 60 (assigned fields source).refreshSecs) } ∧
    ∀ (others : List Field) (other : List Char) (place : FileTree) (name : String),
      IsObject source others other → others.Nodup →
      place.read name = .ok (String.ofList other).toUTF8.toList →
      (∀ field, field ∈ others ↔ field ∈ fields) → load place name = load files path := by
  have hload := load_object hobject hfields hfile
  refine ⟨clamp_eq _ ▸ hload, ?_⟩
  intro others other place name hother hothers hplace hsame
  rw [load_object hother hothers hplace, hload, assigned_congr hsame]

/-- An object with two fields, with escapes, and with a member of another name between them. -/
def sparseText : String :=
  "\n\x7b \"order\" : \"Asc\\u0065nding\",\"note\":\"\\uD83D\" ,\t\"refresh_\\u0073ecs\":0\x7d "

theorem sparse_file_overlays_defaults :
    IsObject { refreshSecs := 0, order := .ascending } [.order, .refreshSecs] sparseText.toList ∧
    [Field.order, .refreshSecs].Nodup ∧
    (oneFile sparseText.toList).read "/settings.json" =
      .ok (String.ofList sparseText.toList).toUTF8.toList ∧
    load (oneFile sparseText.toList) "/settings.json" =
      .ok { refreshSecs := 1, order := .ascending } := by
  have hvalue : Json.IsString "Ascending".toList ('"' :: "Asc\\u0065nding\"".toList) :=
    Json.isString_of_read (by decide +kernel)
  have hname : Json.IsString "refresh_secs".toList ('"' :: "refresh_\\u0073ecs\"".toList) :=
    Json.isString_of_read (by decide +kernel)
  have hhalf : Json.IsScalar ('"' :: ('\\' :: ('u' :: "D83D".toList ++ []) ++ ['"'])) :=
    .string (.escape (.numbered ⟨rfl, rfl⟩) .nil)
  have hnote (field : Field) : field.name.toList ≠ "note".toList := by cases field <;> decide
  have hspace : Json.IsBlank [' '] ∧ Json.IsBlank ['\t'] ∧ Json.IsBlank [] := by decide
  obtain ⟨hspace, htab, hnone⟩ := hspace
  have horder : IsMember { refreshSecs := 0, order := .ascending } (some .order) _ :=
    .field (Json.isString_write _) hvalue ⟨_, _, _, _, ⟨hspace, hspace, hspace, hnone⟩, rfl⟩
  have hunknown : IsMember { refreshSecs := 0, order := .ascending } none _ :=
    .unknown hnote (Json.isString_write _) hhalf
      ⟨_, _, _, _, ⟨hnone, hnone, hnone, hspace⟩, rfl⟩
  have hrefresh : IsMember { refreshSecs := 0, order := .ascending } (some .refreshSecs) _ :=
    .field hname rfl ⟨_, _, _, _, ⟨htab, hnone, hnone, hnone⟩, rfl⟩
  have hobject : IsObject { refreshSecs := 0, order := .ascending } [.order, .refreshSecs]
      sparseText.toList :=
    .members (by decide : Json.IsBlank ['\n']) (.cons horder (.cons hunknown (.last hrefresh)))
      hspace
  have hfile := read_oneFile sparseText.toList
  exact ⟨hobject, by decide, hfile,
    (partial_file_overlays_defaults hobject (by decide) hfile).1⟩

/-- **Half a character is refused.** By the grammar a string may hold half a character, but an
object with such a name is not loaded, nor one that gives such a string to a field. -/
theorem lone_half_is_refused :
    Json.Text.IsBody "\\ud800".toList ∧
    load (oneFile "\x7b\"\\ud800\": true\x7d".toList) "/settings.json" =
      .error (.parse .missingHalf ⟨1, 9⟩) ∧
    load (oneFile "\x7b\"device\": \"\\ud800\"\x7d".toList) "/settings.json" =
      .error (.parse .missingHalf ⟨1, 19⟩) := by
  have hhalf : Json.Text.IsBody ('\\' :: ('u' :: "d800".toList ++ [])) :=
    .escape (.numbered ⟨rfl, rfl⟩) .nil
  refine ⟨hhalf, ?_, ?_⟩
  · decide +kernel
  · decide +kernel

end Flowmeter.Settings
