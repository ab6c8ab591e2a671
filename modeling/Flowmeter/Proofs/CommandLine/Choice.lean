import Mathlib.Data.List.Duplicate
import Flowmeter.CommandLine.Reader
import Flowmeter.Proofs.Text.Numbers

/-! Choices.

A `Choice` is an option with its value. What choices ask for is said in two ways: `gather` puts
them into arguments one by one, and `Arguments.Has` reads off arguments which choices are in them.
Where no option is chosen twice the two agree (`has_gather`), so the order of the choices does not
matter (`gather_perm`). `Choice.IsValue` says which texts a value has. Every one of them is taken
for what it says (`give_eq`), and only an option that was chosen before is refused
(`accept_eq_choose`). -/
namespace Flowmeter.CommandLine

/-- An option that is chosen, with its value if it takes one. -/
inductive Choice
  | refresh (seconds : UInt64)
  | capture (direction : Direction)
  | order (sorting : SortOrder)
  | hideIdle
  | showSplit
  | numericNames
  | logFile (path : Text.Raw)
  | hostLimit (rows : UInt64)
  | device (name : String)
  | saveSettings
  deriving DecidableEq

namespace Choice

def flag : Choice → Flag
  | refresh _ => .refresh
  | capture _ => .capture
  | order _ => .order
  | hideIdle => .hideIdle
  | showSplit => .showSplit
  | numericNames => .numericNames
  | logFile _ => .logFile
  | hostLimit _ => .hostLimit
  | device _ => .device
  | saveSettings => .saveSettings

/-- The arguments with a choice made in them. -/
def put (arguments : Arguments) : Choice → Arguments
  | refresh seconds => { arguments with refreshSecs := some seconds }
  | capture direction => { arguments with capture := some direction }
  | order sorting => { arguments with order := some sorting }
  | hideIdle => { arguments with hideIdle := true }
  | showSplit => { arguments with showSplit := true }
  | numericNames => { arguments with numericNames := true }
  | logFile path => { arguments with logFile := some path }
  | hostLimit rows => { arguments with hostLimit := some rows }
  | device name => { arguments with device := some name }
  | saveSettings => { arguments with saveSettings := true }

/-- The settings with a choice in place of theirs. -/
def set (settings : Settings) : Choice → Settings
  | refresh seconds => { settings with refreshSecs := seconds }
  | capture direction => { settings with capture := direction }
  | order sorting => { settings with order := sorting }
  | hideIdle => { settings with hideIdle := true }
  | showSplit => { settings with showSplit := true }
  | numericNames => { settings with numericNames := true }
  | logFile path => { settings with logFile := some path }
  | hostLimit rows => { settings with hostLimit := rows }
  | device name => { settings with device := name }
  | saveSettings => settings

end Choice

/-- Whether arguments make a choice. -/
def Arguments.Has (arguments : Arguments) : Choice → Prop
  | .refresh seconds => arguments.refreshSecs = some seconds
  | .capture direction => arguments.capture = some direction
  | .order sorting => arguments.order = some sorting
  | .hideIdle => arguments.hideIdle = true
  | .showSplit => arguments.showSplit = true
  | .numericNames => arguments.numericNames = true
  | .logFile path => arguments.logFile = some path
  | .hostLimit rows => arguments.hostLimit = some rows
  | .device name => arguments.device = some name
  | .saveSettings => arguments.saveSettings = true

/-- The arguments that make the choices, the later ones last. -/
def gather (choices : List Choice) : Arguments := choices.foldl Choice.put {}

variable {choices others : List Choice} {choice other : Choice} {arguments : Arguments}

/-! ### What choices ask for -/

theorem has_put :
    (choice.put arguments).Has other ↔
      choice = other ∨ choice.flag ≠ other.flag ∧ arguments.Has other := by
  cases choice <;> cases other <;> simp [Choice.put, Arguments.Has, Choice.flag]

/-- Arguments that make no choice. -/
theorem not_has_nothing (choice : Choice) : ¬({} : Arguments).Has choice := by
  cases choice <;> simp [Arguments.Has]

theorem gather_concat (choices : List Choice) (choice : Choice) :
    gather (choices ++ [choice]) = choice.put (gather choices) := by
  rw [gather, List.foldl_append]
  rfl

/-- **Arguments have the choices that were put into them**, if no option is chosen twice. -/
theorem has_gather (honce : (choices.map Choice.flag).Nodup) :
    (gather choices).Has choice ↔ choice ∈ choices := by
  induction choices using List.reverseRecOn with
  | nil => simp [gather, not_has_nothing]
  | append_singleton choices last ih =>
    rw [List.map_append, List.map_singleton] at honce
    obtain ⟨honce, -, hlast⟩ := List.nodup_append.1 honce
    rw [gather_concat, has_put, ih honce, List.mem_append, List.mem_singleton, or_comm,
      @eq_comm _ choice]
    refine or_congr_left (and_iff_right_of_imp fun hmem => ?_)
    exact (hlast _ (List.mem_map_of_mem hmem) _ (List.mem_singleton_self _)).symm

/-- Arguments are told by the choices that they make. -/
theorem Arguments.eq_of_has {a b : Arguments} (h : ∀ choice, a.Has choice ↔ b.Has choice) :
    a = b := by
  obtain ⟨refresh, capture, order, idle, split, numeric, file, limit, device, save⟩ := a
  rw [Arguments.mk.injEq]
  exact ⟨Option.ext fun seconds => h (.refresh seconds),
    Option.ext fun direction => h (.capture direction),
    Option.ext fun sorting => h (.order sorting),
    Bool.eq_iff_iff.2 (h .hideIdle), Bool.eq_iff_iff.2 (h .showSplit),
    Bool.eq_iff_iff.2 (h .numericNames),
    Option.ext fun path => h (.logFile path), Option.ext fun rows => h (.hostLimit rows),
    Option.ext fun name => h (.device name), Bool.eq_iff_iff.2 (h .saveSettings)⟩

/-- The order of choices does not matter. -/
theorem gather_perm (hperm : others.Perm choices) (honce : (choices.map Choice.flag).Nodup) :
    gather others = gather choices := by
  refine Arguments.eq_of_has fun choice => ?_
  rw [has_gather honce, has_gather ((hperm.map _).nodup_iff.2 honce), hperm.mem_iff]

/-- The settings that arguments ask for, not yet brought into range. -/
def Arguments.overlay (arguments : Arguments) (settings : Settings) : Settings :=
  { refreshSecs := arguments.refreshSecs.getD settings.refreshSecs
    capture := arguments.capture.getD settings.capture
    order := arguments.order.getD settings.order
    hideIdle := settings.hideIdle || arguments.hideIdle
    showSplit := settings.showSplit || arguments.showSplit
    numericNames := settings.numericNames || arguments.numericNames
    logFile := arguments.logFile.or settings.logFile
    hostLimit := arguments.hostLimit.getD settings.hostLimit
    device := arguments.device.getD settings.device }

theorem apply_eq_clamp (settings : Settings) :
    arguments.apply settings = (arguments.overlay settings).clamp := rfl

theorem overlay_put (settings : Settings) :
    (choice.put arguments).overlay settings = choice.set (arguments.overlay settings) := by
  cases choice <;> simp [Choice.put, Choice.set, Arguments.overlay]

/-- **The settings of choices are the settings before with every choice in place of theirs**, in
range. -/
theorem apply_gather (choices : List Choice) (settings : Settings) :
    (gather choices).apply settings = (choices.foldl Choice.set settings).clamp := by
  rw [apply_eq_clamp]
  refine congrArg Settings.clamp ?_
  induction choices using List.reverseRecOn with
  | nil => simp [gather, Arguments.overlay]
  | append_singleton choices last ih =>
    rw [gather_concat, overlay_put, ih, List.foldl_append]
    rfl

/-! ### Values -/

/-- A numeral of a number. -/
def IsNumeral (number : UInt64) (value : Text.Raw) : Prop :=
  ∃ text digits, value = text.map .char ∧ Text.Numeral.Signed text digits ∧ digits ≠ [] ∧
    (∀ c ∈ digits, Text.Numeral.isDigit c = true) ∧
    Nat.ofDigitChars 10 digits 0 = number.toNat

/-- The letter of a direction. -/
def directionLetter : Direction → Char
  | .both => 'a'
  | .send => 's'
  | .recv => 'r'

/-- The letter of an order. -/
def orderLetter : SortOrder → Char
  | .ascending => 'a'
  | .descending => 'd'

namespace Choice

/-- The texts of the value of a choice. -/
inductive IsValue : Choice → Text.Raw → Prop
  | refresh {seconds : UInt64} {value : Text.Raw} (hrange : 1 ≤ seconds ∧ seconds ≤ 60)
      (hnumeral : IsNumeral seconds value) : IsValue (.refresh seconds) value
  | capture (direction : Direction) :
      IsValue (.capture direction) [.char (directionLetter direction)]
  | order (sorting : SortOrder) : IsValue (.order sorting) [.char (orderLetter sorting)]
  | logFile {path : Text.Raw} (hpath : path ≠ []) : IsValue (.logFile path) path
  | hostLimit {rows : UInt64} {value : Text.Raw} (hnumeral : IsNumeral rows value) :
      IsValue (.hostLimit rows) value
  | device {name : String} (hname : name ≠ "") : IsValue (.device name) (Text.Raw.ofString name)

/-- What a choice is complete with: nothing, or a value. -/
inductive Fits (choice : Choice) : Option Text.Raw → Prop
  | bare (h : choice.flag.takesValue = false) : Fits choice none
  | valued {value : Text.Raw} (h : choice.IsValue value) : Fits choice (some value)

end Choice

theorem IsNumeral.ne_nil {number : UInt64} {value : Text.Raw} (h : IsNumeral number value) :
    value ≠ [] := by
  obtain ⟨text, digits, rfl, rfl | rfl, hdigits, -⟩ := h
  · simpa using hdigits
  · simp

theorem numberOf_eq {number : UInt64} {value : Text.Raw} (flag : Flag)
    (h : IsNumeral number value) : Arguments.numberOf flag value = .ok number := by
  obtain ⟨text, digits, rfl, hnumeral⟩ := h
  have htext : Text.Raw.chars? (text.map .char) = some text := by
    simpa [Text.Raw.ofString] using Text.Raw.chars?_ofString (String.ofList text)
  have hword : Text.Numeral.word text = .ok number :=
    Text.Numeral.word_eq_ok_iff.2 ⟨digits, hnumeral⟩
  simp only [Arguments.numberOf, Arguments.textOf, htext, bind, Except.bind, hword]
  rfl

variable {value : Text.Raw}

theorem Choice.IsValue.takesValue (h : choice.IsValue value) : choice.flag.takesValue = true := by
  cases h <;> rfl

theorem Choice.IsValue.ne_nil (h : choice.IsValue value) : value ≠ [] := by
  cases h with
  | refresh _ hnumeral | hostLimit hnumeral => exact hnumeral.ne_nil
  | capture direction | order sorting => exact List.cons_ne_nil _ _
  | logFile hpath => exact hpath
  | device hname => simpa [Text.Raw.ofString] using hname

/-- **A value is taken for what it says.** -/
theorem give_eq {value : Option Text.Raw} (h : choice.Fits value) (arguments : Arguments) :
    arguments.give choice.flag (value.getD []) = .ok (choice.put arguments) := by
  cases h with
  | bare h => cases choice <;> first | rfl | cases h
  | @valued value h =>
    show arguments.give choice.flag value = _
    cases h with
    | @refresh seconds value hrange hnumeral =>
      have hseconds : Arguments.refreshOf value = .ok seconds := by
        rw [Arguments.refreshOf, numberOf_eq .refresh hnumeral]
        exact if_pos hrange
      simp only [Choice.flag, Arguments.give, hseconds]
      rfl
    | hostLimit hnumeral =>
      simp only [Choice.flag, Arguments.give, numberOf_eq .hostLimit hnumeral]
      rfl
    | capture direction => cases direction <;> rfl
    | order sorting => cases sorting <;> rfl
    | logFile hpath => exact if_neg (by simpa using hpath)
    | @device name hname =>
      simp only [Choice.flag, Arguments.give, Arguments.textOf, Text.Raw.chars?_ofString]
      show Except.ok { arguments with device := some (String.ofList name.toList) } = _
      rw [String.ofList_toList]
      rfl

/-! ### Choices one by one -/

namespace Reader

/-- The reader with a choice made; no option may be chosen twice. -/
def choose (reader : Reader) (choice : Choice) : Except Refusal Reader :=
  if choice.flag ∈ reader.given then .error (.repeated choice.flag)
  else .ok
    { reader with
      arguments := choice.put reader.arguments
      given := reader.given ++ [choice.flag] }

variable {reader : Reader}

/-- **An option with one of its values is chosen.** -/
theorem accept_eq_choose {value : Option Text.Raw} (h : choice.Fits value) :
    reader.accept choice.flag value = reader.choose choice := by
  have hvalue : (choice.flag.takesValue && value.isNone) = false := by
    cases h with
    | bare h => rw [h, Bool.false_and]
    | valued h => exact Bool.and_false _
  rw [accept, hvalue, choose, give_eq h]
  rfl

theorem foldlM_choose (honce : (reader.given ++ choices.map Choice.flag).Nodup) :
    choices.foldlM choose reader = .ok
      { reader with
        arguments := choices.foldl Choice.put reader.arguments
        given := reader.given ++ choices.map Choice.flag } := by
  induction choices generalizing reader with
  | nil =>
    rw [List.map_nil, List.append_nil]
    rfl
  | cons first rest ih =>
    rw [List.map_cons, ← List.singleton_append, ← List.append_assoc] at honce
    have hnew : first.flag ∉ reader.given := fun hmem =>
      (List.nodup_append.1 (List.nodup_append.1 honce).1).2.2 _ hmem _
        (List.mem_singleton_self _) rfl
    rw [List.foldlM_cons, choose, if_neg hnew]
    show rest.foldlM choose _ = _
    rw [ih honce, List.append_assoc]
    rfl

/-- An option that is chosen twice is refused. -/
theorem foldlM_choose_repeated (hreader : reader.given.Nodup)
    (hrepeated : ¬(reader.given ++ choices.map Choice.flag).Nodup) :
    ∃ flag, List.Duplicate flag (reader.given ++ choices.map Choice.flag) ∧
      choices.foldlM choose reader = .error (.repeated flag) := by
  induction choices using List.reverseRecOn with
  | nil => exact absurd (by simpa using hreader) hrepeated
  | append_singleton choices last ih =>
    rw [List.map_append, ← List.append_assoc] at hrepeated ⊢
    rw [List.foldlM_append]
    by_cases honce : (reader.given ++ choices.map Choice.flag).Nodup
    · have hmem : last.flag ∈ reader.given ++ choices.map Choice.flag := by
        by_contra hnew
        exact hrepeated (List.nodup_append.2 ⟨honce, List.nodup_singleton _, fun _ hflag _ hlast =>
          fun h => hnew (List.mem_singleton.1 hlast ▸ h ▸ hflag)⟩)
      refine ⟨last.flag, ?_, ?_⟩
      · exact List.duplicate_iff_sublist.2
          ((List.singleton_sublist.2 hmem).append (List.Sublist.refl [last.flag]))
      · rw [foldlM_choose honce]
        show [last].foldlM choose _ = _
        rw [List.foldlM_cons, choose, if_pos hmem]
        rfl
    · obtain ⟨flag, hflag, h⟩ := ih honce
      refine ⟨flag, hflag.mono_sublist (List.sublist_append_left _ _), ?_⟩
      rw [h]
      rfl

end Reader

end Flowmeter.CommandLine
