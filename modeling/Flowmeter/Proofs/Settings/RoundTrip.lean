import Flowmeter.Proofs.Settings.Grammar
import Flowmeter.Proofs.Text.Unicode

/-! Settings read back from their text.

The text is an object with all fields, each on a line of its own: what is written for a field is
one of the spellings of its value (`Field.isValue_of_write?`), and the lines are members with
commas between them (`isMembers_lines`). So the reader has all fields in the end (`read_write?`). -/
namespace Flowmeter.Settings

variable {source : Settings}

theorem Field.isValue_of_write? {field : Field} {value : List Char}
    (h : field.write? source = some value) : field.IsValue source value := by
  cases field with
  | refreshSecs | hostLimit | hideIdle | showSplit | numericNames => exact (Option.some.inj h).symm
  | capture | order | device =>
    obtain rfl := Option.some.inj h
    exact Json.isString_write _
  | logFile =>
    rw [write?] at h
    cases hlog : source.logFile with
    | none =>
      rw [hlog] at h
      exact .inl ⟨hlog, (Option.some.inj h).symm⟩
    | some path =>
      rw [hlog] at h
      obtain ⟨text, htext, rfl⟩ := Option.map_eq_some_iff.1 h
      obtain rfl := Text.Raw.chars?_eq_some_iff.1 htext
      exact .inr ⟨text, hlog, Json.isString_write text⟩

/-- A line is a member, also with white space around it. -/
theorem isMember_line {field : Field} {line front behind : List Char}
    (h : source.memberLine? field = some line) (hfront : Json.IsBlank front)
    (hbehind : Json.IsBlank behind) : IsMember source (some field) (front ++ (line ++ behind)) := by
  obtain ⟨value, hvalue, rfl⟩ := Option.map_eq_some_iff.1 h
  have hindent : Json.IsBlank [' ', ' '] := by decide
  refine .field (Json.isString_write field.name.toList) (Field.isValue_of_write? hvalue)
    ⟨front ++ [' ', ' '], [], [' '], behind, ⟨?_, by decide, by decide, hbehind⟩, by simp⟩
  exact List.forall_mem_append.2 ⟨hfront, hindent⟩

theorem isMembers_lines {fields : List Field} {lines : List (List Char)}
    (h : fields.mapM source.memberLine? = some lines) (hne : fields ≠ []) :
    IsMembers source fields ('\n' :: ([',', '\n'].intercalate lines ++ ['\n'])) := by
  have hbreak : Json.IsBlank ['\n'] := by decide
  induction fields generalizing lines with
  | nil => exact absurd rfl hne
  | cons field fields ih =>
    rw [List.mapM_cons] at h
    obtain ⟨line, hline, h⟩ := Option.bind_eq_some_iff.1 h
    obtain ⟨later, hlater, h⟩ := Option.bind_eq_some_iff.1 h
    obtain rfl := Option.some.inj h
    cases fields with
    | nil =>
      obtain rfl : [] = later := Option.some.inj hlater
      rw [List.intercalate_singleton]
      exact .last (isMember_line hline hbreak hbreak)
    | cons other fields =>
      have hmore := ih hlater nofun
      rw [List.mapM_cons] at hlater
      obtain ⟨next, -, hlater⟩ := Option.bind_eq_some_iff.1 hlater
      obtain ⟨lines, -, hlater⟩ := Option.bind_eq_some_iff.1 hlater
      obtain rfl := Option.some.inj hlater
      have hnone : Json.IsBlank [] := by decide
      have hmembers := IsMembers.cons (isMember_line hline hbreak hnone) hmore
      rw [List.intercalate_cons_cons]
      simpa using hmembers

/-- **Settings are read back from their text.** -/
theorem read_write? {settings : Settings} {text : List Char} (h : settings.write? = some text) :
    read text = .ok settings := by
  obtain ⟨lines, hlines, rfl⟩ := Option.map_eq_some_iff.1 h
  have hobject : IsObject settings Field.all
      ([] ++ '\x7b' :: ('\n' :: ([',', '\n'].intercalate lines ++ ['\n']) ++ '\x7d' :: [])) :=
    .members (by decide) (isMembers_lines hlines nofun) (by decide)
  have hread := read_object hobject (by decide)
  rw [overlay_all] at hread
  simpa using hread

end Flowmeter.Settings
