import Flowmeter.Proofs.Json.Spelling
import Flowmeter.Proofs.Settings.Overlay

/-! Objects of settings.

An object has members, and a member has a name and a value. A member of a field gives this field
its value in the settings that the object is written for, in any spelling (`Field.IsValue`); other
members say nothing (`Json.IsScalar`). The reader takes member by member, whatever white space
stands around (`readMembers_member`, `readMembers_members`), and so it lays the fields that an
object has over the defaults (`read_object`). -/
namespace Flowmeter.Settings

variable {source : Settings}

theorem field?_name (field : Field) : field? field.name.toList = some field := by
  cases field <;> rfl

theorem lookup_directionName (direction : Direction) :
    directions.lookup (directionName direction) = some direction := by
  cases direction <;> decide

theorem lookup_orderName (order : SortOrder) : orders.lookup (orderName order) = some order := by
  cases order <;> decide

/-- A text that gives a field the value that it has in settings. -/
def Field.IsValue (field : Field) (source : Settings) (value : List Char) : Prop :=
  match field with
  | refreshSecs => value = Nat.toDigits 10 source.refreshSecs.toNat
  | capture => Json.IsString (directionName source.capture).toList value
  | order => Json.IsString (orderName source.order).toList value
  | hideIdle => value = boolText source.hideIdle
  | showSplit => value = boolText source.showSplit
  | numericNames => value = boolText source.numericNames
  | logFile =>
    (source.logFile = none ∧ value = "null".toList) ∨
      ∃ path, source.logFile = some (path.map .char) ∧ Json.IsString path value
  | hostLimit => value = Nat.toDigits 10 source.hostLimit.toNat
  | device => Json.IsString source.device.toList value

namespace Field

theorem readBool_boolText (value : Bool) (rest : List Char) :
    Json.readBool (boolText value ++ rest) = .ok (value, rest) := by
  cases value with
  | false => exact Json.readBool_false rest
  | true => exact Json.readBool_true rest

theorem read_spaces (field : Field) {spaces : List Char} (h : Json.IsBlank spaces)
    (target : Settings) (text : List Char) :
    field.read target (spaces ++ text) = field.read target text := by
  cases field <;>
    simp only [read, Json.readWord, Json.readChoice, Json.readBool, Json.readOptionalText,
      Json.readText, Json.skipSpace_append h]

/-- A field is read from every spelling of its value, and only this field changes. -/
theorem IsValue.read {field : Field} {value rest : List Char} (h : field.IsValue source value)
    (hrest : Json.Number.EndsNumber rest) (target : Settings) :
    field.read target (value ++ rest) = .ok (field.copy source target, rest) := by
  cases field with
  | refreshSecs | hostLimit =>
    obtain rfl := h
    rw [Field.read, Json.readWord_toDigits _ _ hrest]
    rfl
  | capture =>
    rw [Field.read, Json.IsString.readChoice rest h (lookup_directionName source.capture)]
    rfl
  | order =>
    rw [Field.read, Json.IsString.readChoice rest h (lookup_orderName source.order)]
    rfl
  | hideIdle | showSplit | numericNames =>
    obtain rfl := h
    rw [Field.read, readBool_boolText]
    rfl
  | logFile =>
    obtain ⟨hlog, rfl⟩ | ⟨path, hlog, hvalue⟩ := h
    · rw [Field.read, Json.readOptionalText_null, copy, hlog]
      rfl
    · rw [Field.read, hvalue.readOptionalText, copy, hlog]
      rfl
  | device =>
    rw [Field.read, Json.IsString.readText rest h]
    simp only [Except.map, String.ofList_toList, copy]

end Field

/-! ### Members -/

/-- A name, a colon and a value, with white space around them. -/
def IsPair (name value text : List Char) : Prop :=
  ∃ a b c d, (Json.IsBlank a ∧ Json.IsBlank b ∧ Json.IsBlank c ∧ Json.IsBlank d) ∧
    text = a ++ (name ++ (b ++ ':' :: (c ++ (value ++ d))))

/-- A member: its field, if it is one of a field, and its text. -/
inductive IsMember (source : Settings) : Option Field → List Char → Prop
  | field {field : Field} {name value text : List Char}
      (hname : Json.IsString field.name.toList name) (hvalue : field.IsValue source value)
      (h : IsPair name value text) : IsMember source (some field) text
  | unknown {said name value text : List Char} (hsaid : ∀ field : Field, field.name.toList ≠ said)
      (hname : Json.IsString said name) (hvalue : Json.IsScalar value)
      (h : IsPair name value text) : IsMember source none text

/-- Members with commas between them, and the fields that they are of, in order. -/
inductive IsMembers (source : Settings) : List Field → List Char → Prop
  | last {field? : Option Field} {text : List Char} (h : IsMember source field? text) :
      IsMembers source field?.toList text
  | cons {field? : Option Field} {fields : List Field} {text more : List Char}
      (h : IsMember source field? text) (hmore : IsMembers source fields more) :
      IsMembers source (field?.toList ++ fields) (text ++ ',' :: more)

/-- An object, with white space around it. -/
inductive IsObject (source : Settings) : List Field → List Char → Prop
  | empty {a b c : List Char} (ha : Json.IsBlank a) (hb : Json.IsBlank b) (hc : Json.IsBlank c) :
      IsObject source [] (a ++ '\x7b' :: (b ++ '\x7d' :: c))
  | members {fields : List Field} {a text c : List Char} (ha : Json.IsBlank a)
      (h : IsMembers source fields text) (hc : Json.IsBlank c) :
      IsObject source fields (a ++ '\x7b' :: (text ++ '\x7d' :: c))

/-! ### Reading -/

theorem field?_eq_none_iff {said : List Char} :
    field? said = none ↔ ∀ field : Field, field.name.toList ≠ said := by
  have hall (field : Field) : field ∈ Field.all := by cases field <;> decide
  simp only [field?, List.find?_eq_none, decide_eq_true_eq]
  exact ⟨fun h field => h field (hall field), fun h field _ => h field⟩

theorem readMembers_spaces {members : Nat} {opened : Bool} {seen : List Field}
    {spaces : List Char} (h : Json.IsBlank spaces) (target : Settings) (text : List Char) :
    readMembers (members + 1) opened seen target (spaces ++ text) =
      readMembers (members + 1) opened seen target text := by
  simp only [readMembers, Json.skipSpace_append h]

/-- What stands in front of a member: nothing behind the opening bracket, else a comma. -/
def lead (opened : Bool) : List Char := if opened then [] else [',']

/-- The reader finds the name of a member, and what stands behind its colon. -/
theorem leadsMember {said name : List Char} (hname : Json.IsString said name) {a b : List Char}
    (ha : Json.IsBlank a) (hb : Json.IsBlank b) (opened : Bool) (rest : List Char) :
    LeadsMember opened (lead opened ++ (a ++ (name ++ (b ++ ':' :: rest)))) said rest := by
  obtain ⟨body, hbody, rfl⟩ := hname
  have hspace : Json.skipSpace (a ++ ('"' :: (body ++ ['"']) ++ (b ++ ':' :: rest))) =
      '"' :: (body ++ '"' :: (b ++ ':' :: rest)) := by
    rw [Json.skipSpace_append ha, List.cons_append, List.append_assoc]
    exact Json.skipSpace_of_not rfl _
  refine ⟨?_⟩
  cases opened with
  | true =>
    exact ⟨_, _, _, _, hspace, by decide, .inl rfl, rfl, Json.Text.read_spelled hbody _,
      Json.expectColon_spaces rest hb⟩
  | false =>
    refine ⟨',', _, body ++ '"' :: (b ++ ':' :: rest), _, rfl, by decide, .inr rfl, ?_,
      Json.Text.read_spelled hbody _, Json.expectColon_spaces rest hb⟩
    show nameText (a ++ _) = _
    rw [nameText, hspace]
    rfl

/-- The text behind a member: a comma, or the end of the object. -/
def FollowsMember (tail : List Char) : Prop := ∃ c rest, tail = c :: rest ∧ (c = ',' ∨ c = '\x7d')

theorem FollowsMember.endsNumber {spaces tail : List Char} (h : FollowsMember tail)
    (hspaces : Json.IsBlank spaces) : Json.Number.EndsNumber (spaces ++ tail) := by
  obtain ⟨c, rest, rfl, hc⟩ := h
  intro first hfirst
  have hends (c : Char) (hc : c = ',' ∨ c = '\x7d' ∨ Json.isSpace c = true) :
      Flowmeter.Text.Numeral.isDigit c = false ∧ c ≠ '.' ∧ c ≠ 'e' ∧ c ≠ 'E' := by
    simp only [Json.isSpace, Bool.or_eq_true, beq_iff_eq] at hc
    rcases hc with rfl | rfl | ((rfl | rfl) | rfl) | rfl <;> decide
  refine hends first ?_
  cases spaces with
  | nil =>
    obtain rfl := Option.some.inj hfirst
    exact hc.imp_right .inl
  | cons d more =>
    obtain rfl := Option.some.inj hfirst
    exact .inr (.inr (hspaces d (List.mem_cons_self ..)))

/-- The reader takes a member: a field gets its value. -/
theorem readMembers_member {field? : Option Field} {text tail : List Char} {seen : List Field}
    (h : IsMember source field? text) (htail : FollowsMember tail)
    (hseen : ∀ field ∈ field?, field ∉ seen) (members : Nat) (opened : Bool) (target : Settings) :
    readMembers (members + 2) opened seen target (lead opened ++ (text ++ tail)) =
      readMembers (members + 1) false (field?.toList ++ seen)
        (overlay field?.toList source target) tail := by
  cases h with
  | @field field name value _ hname hvalue h =>
    obtain ⟨a, b, c, d, ⟨ha, hb, hc, hd⟩, rfl⟩ := h
    have hleads := leadsMember hname ha hb opened (c ++ (value ++ (d ++ tail)))
    have hread : field.read target (c ++ (value ++ (d ++ tail))) =
        .ok (field.copy source target, d ++ tail) := by
      rw [field.read_spaces hc, hvalue.read (htail.endsNumber hd)]
    simp only [List.append_assoc, List.cons_append]
    rw [readMembers_field hleads (field?_name field) (hseen field rfl), hread]
    exact readMembers_spaces hd _ _
  | @unknown _ _ value _ hsaid hname hvalue h =>
    obtain ⟨a, b, c, d, ⟨ha, hb, hc, hd⟩, rfl⟩ := h
    have hleads := leadsMember hname ha hb opened (c ++ (value ++ (d ++ tail)))
    simp only [List.append_assoc, List.cons_append]
    rw [readMembers_unknown hleads (field?_eq_none_iff.2 hsaid), hvalue.skipValue _ hc]
    exact readMembers_spaces hd _ _

/-- The reader takes all members that follow, and the end of the object. -/
theorem readMembers_members {fields seen : List Field} {text : List Char} {members : Nat}
    (h : IsMembers source fields text) (hfields : fields.Nodup)
    (hseen : ∀ field ∈ fields, field ∉ seen) (hmembers : text.length ≤ members) (opened : Bool)
    (target : Settings) (rest : List Char) :
    readMembers (members + 2) opened seen target (lead opened ++ (text ++ '\x7d' :: rest)) =
      .ok (overlay fields source target, rest) := by
  -- Along the members: `seen` grows by the field of each, so the later ones have to be new to it,
  -- and each takes at least its comma from the length that bounds the steps.
  induction h generalizing seen members opened target with
  | last h =>
    rw [readMembers_member h ⟨_, _, rfl, .inr rfl⟩ (by simpa using hseen)]
    exact readMembers_close rfl _
  | @cons field? fields text more h hmore ih =>
    obtain ⟨-, hnodup, hdisjoint⟩ := List.nodup_append.1 hfields
    have hfirst : ∀ field ∈ field?, field ∉ seen := fun field hfield =>
      hseen field (List.mem_append_left _ (Option.mem_toList.2 hfield))
    have hlater : ∀ field ∈ fields, field ∉ field?.toList ++ seen := by
      intro field hfield hmem
      obtain hsame | hmem := List.mem_append.1 hmem
      · exact hdisjoint field hsame field hfield rfl
      · exact hseen field (List.mem_append_right _ hfield) hmem
    rw [List.length_append, List.length_cons] at hmembers
    obtain ⟨members, rfl⟩ : ∃ later, members = later + 1 := ⟨members - 1, by omega⟩
    rw [List.append_assoc, List.cons_append, readMembers_member h ⟨_, _, rfl, .inl rfl⟩ hfirst,
      overlay_append]
    exact ih hnodup hlater (by omega) false _

theorem read_braces {a c rest : List Char} {settings : Settings} (ha : Json.IsBlank a)
    (hc : Json.IsBlank c)
    (h : readMembers (rest.length + 1) true [] {} rest = .ok (settings, c)) :
    read (a ++ '\x7b' :: rest) = .ok settings := by
  have hopen : Json.skipSpace (a ++ '\x7b' :: rest) = '\x7b' :: rest := by
    rw [Json.skipSpace_append ha]
    exact Json.skipSpace_of_not rfl _
  have hend : Json.skipSpace c = [] := by
    have hspaces := Json.skipSpace_append hc []
    rwa [List.append_nil] at hspaces
  simp only [read, hopen, h, hend, bind, Except.bind]
  rfl

/-- **An object is read as the defaults with its fields laid over them.** -/
theorem read_object {fields : List Field} {text : List Char} (h : IsObject source fields text)
    (hfields : fields.Nodup) : read text = .ok (overlay fields source {}) := by
  cases h with
  | empty ha hb hc =>
    refine read_braces ha hc (readMembers_close ?_ {})
    rw [Json.skipSpace_append hb]
    exact Json.skipSpace_of_not rfl _
  | @members _ a text c ha h hc =>
    refine read_braces ha hc ?_
    have hlength : (text ++ '\x7d' :: c).length = text.length + c.length + 1 := by
      rw [List.length_append, List.length_cons, Nat.add_assoc]
    rw [hlength]
    exact readMembers_members h hfields (fun _ _ => List.not_mem_nil) (Nat.le_add_right ..) true
      {} c

end Flowmeter.Settings
