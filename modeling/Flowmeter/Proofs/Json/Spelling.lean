import Flowmeter.Json.Skip
import Flowmeter.Proofs.Fallible
import Flowmeter.Proofs.Json.Reading

/-! The spellings of strings and of other values.

A character between quotes may stand for itself or be escaped, by a mark or by its number in
hexadecimal digits of either case, beyond 16 bits by two numbers (`Escapes`). The reader takes
every spelling of a text and nothing else (`read_eq_ok_iff`). By the grammar a number may also be
half a character (`IsEscape`, `IsBody`); there is no text with such a half alone, so these strings
are only skipped (`skip_body`). -/
namespace Flowmeter.Json

namespace Text

/-! ### Numbers -/

/-- Four hexadecimal digits and the number they write. -/
structure IsUnit (digits : List Char) (number : Nat) : Prop where
  length : digits.length = 4
  number : Flowmeter.Text.Hex.number? digits = some number

theorem utf8Size_of_digitValue? {c : Char} {value : Nat}
    (h : Flowmeter.Text.Hex.digitValue? c = some value) : c.utf8Size = 1 := by
  have hsmall {high : Char} (hhigh : c ≤ high) (hascii : high.val ≤ 127) : c.utf8Size = 1 :=
    Char.utf8Size_eq_one_iff.2 (UInt32.le_trans hhigh hascii)
  unfold Flowmeter.Text.Hex.digitValue? at h
  split at h
  · next hdigit => exact hsmall hdigit.2 (by decide)
  · split at h
    · next hlower => exact hsmall hlower.2 (by decide)
    · split at h
      · next hupper => exact hsmall hupper.2 (by decide)
      · cases h

/-- Hexadecimal digits are an octet each. -/
theorem utf8ByteSize_of_number? {digits : List Char} {number : Nat}
    (h : Flowmeter.Text.Hex.number? digits = some number) :
    (String.ofList digits).utf8ByteSize = digits.length := by
  have hfold {digits : List Char} {start number : Nat}
      (h : digits.foldlM (fun n c => (Flowmeter.Text.Hex.digitValue? c).map (16 * n + ·)) start =
        some number) : (String.ofList digits).utf8ByteSize = digits.length := by
    induction digits generalizing start with
    | nil => rfl
    | cons c rest ih =>
      rw [List.foldlM_cons] at h
      obtain ⟨next, hnext, hrest⟩ := Option.bind_eq_some_iff.1 h
      obtain ⟨value, hvalue, -⟩ := Option.map_eq_some_iff.1 hnext
      rw [String.ofList_cons, String.utf8ByteSize_append, String.utf8ByteSize_singleton,
        utf8Size_of_digitValue? hvalue, ih hrest, List.length_cons, Nat.add_comm]
  cases digits with
  | nil => cases h
  | cons c rest => exact hfold h

theorem unit_eq_ok_iff {text : List Char} {number : Nat} :
    unit text = .ok number ↔ IsUnit (text.take 4) number := by
  unfold unit
  constructor
  · intro h
    split at h
    · cases h
    · next hsize =>
      split at h
      · next unit hunit =>
        obtain rfl := Except.ok.inj h
        have hlength := List.length_take_le 4 text
        rw [utf8ByteSize_of_number? hunit] at hsize
        exact ⟨by omega, hunit⟩
      · cases h
  · rintro ⟨hlength, hnumber⟩
    rw [utf8ByteSize_of_number? hnumber, hlength, if_neg (Nat.lt_irrefl 4), hnumber]

/-! ### Escapes -/

/-- What may stand behind a backslash, and the character that it stands for. -/
inductive Escapes : List Char → Char → Prop
  | simple {mark c : Char} (h : simpleEscape? mark = some c) : Escapes [mark] c
  | numbered {digits : List Char} {number : Nat} (h : IsUnit digits number)
      (hleading : isLeading number = false) (htrailing : isTrailing number = false) :
      Escapes ('u' :: digits) (Char.ofNat number)
  | pair {digits more : List Char} {first second : Nat} (hfirst : IsUnit digits first)
      (hleading : isLeading first = true) (hsecond : IsUnit more second)
      (htrailing : isTrailing second = true) :
      Escapes ('u' :: (digits ++ '\\' :: 'u' :: more))
        (Char.ofNat (0x10000 + 0x400 * (first - 0xD800) + (second - 0xDC00)))

/-- What may stand behind a backslash by the grammar. -/
inductive IsEscape : List Char → Prop
  | simple {mark c : Char} (h : simpleEscape? mark = some c) : IsEscape [mark]
  | numbered {digits : List Char} {number : Nat} (h : IsUnit digits number) :
      IsEscape ('u' :: digits)

section Escape
variable {piece text rest : List Char} {c : Char} {length number first second : Nat}

theorem IsUnit.unit_append {digits : List Char} (h : IsUnit digits number) (rest : List Char) :
    unit (digits ++ rest) = .ok number := by
  rw [unit_eq_ok_iff, ← h.length, List.take_left]
  exact h

theorem isTrailing_of_isLeading (h : isLeading number = true) : isTrailing number = false := by
  simp only [isLeading, isTrailing, Bool.and_eq_true, decide_eq_true_eq, Bool.and_eq_false_iff,
    decide_eq_false_iff_not] at *
  omega

theorem numbered_single (h : unit text = .ok number) (hleading : isLeading number = false)
    (htrailing : isTrailing number = false) : numbered text = .ok (Char.ofNat number, 4) := by
  simp only [numbered, h, hleading, htrailing, bind, Except.bind]
  rfl

theorem numbered_pair (hfirst : unit text = .ok first) (hleading : isLeading first = true)
    (hdrop : text.drop 4 = '\\' :: 'u' :: rest) (hsecond : unit rest = .ok second)
    (htrailing : isTrailing second = true) :
    numbered text =
      .ok (Char.ofNat (0x10000 + 0x400 * (first - 0xD800) + (second - 0xDC00)), 10) := by
  simp only [numbered, hfirst, hleading, isTrailing_of_isLeading hleading, hdrop, secondUnit,
    hsecond, htrailing, bind, Except.bind]
  rfl

theorem secondUnit_cases (h : secondUnit text = .ok number) :
    ∃ rest, text = '\\' :: 'u' :: rest ∧ unit rest = .ok number := by
  unfold secondUnit at h
  split at h
  · cases h
  · cases h
  · exact ⟨_, rfl, h⟩
  · cases h
  · cases h

/-- A numbered escape is one number or two. -/
theorem numbered_cases (h : numbered text = .ok (c, length)) :
    (∃ number, unit text = .ok number ∧ isLeading number = false ∧ isTrailing number = false ∧
      c = Char.ofNat number ∧ length = 4) ∨
    ∃ first second rest, unit text = .ok first ∧ isLeading first = true ∧
      text.drop 4 = '\\' :: 'u' :: rest ∧ unit rest = .ok second ∧ isTrailing second = true ∧
      c = Char.ofNat (0x10000 + 0x400 * (first - 0xD800) + (second - 0xDC00)) ∧ length = 10 := by
  obtain ⟨first, hfirst, h⟩ := bind_eq_ok_iff.1 h
  simp only at h
  split at h
  · cases h
  · next htrailing =>
    split at h
    · next hleading =>
      obtain ⟨second, hsecond, h⟩ := bind_eq_ok_iff.1 h
      obtain ⟨rest, hdrop, hunit⟩ := secondUnit_cases hsecond
      split at h
      · next hpaired =>
        obtain ⟨rfl, rfl⟩ := Prod.mk.inj (Except.ok.inj h)
        exact .inr ⟨first, second, rest, hfirst, hleading, hdrop, hunit, hpaired, rfl, rfl⟩
      · cases h
    · next hleading =>
      obtain ⟨rfl, rfl⟩ := Prod.mk.inj (Except.ok.inj h)
      exact .inl ⟨first, hfirst, Bool.eq_false_iff.2 hleading, Bool.eq_false_iff.2 htrailing, rfl,
        rfl⟩

/-- A mark of its own is not the one that numbers stand behind. -/
theorem escape_mark {mark : Char} (h : mark ≠ 'u') (rest : List Char) :
    escape (mark :: rest) =
      match simpleEscape? mark with
      | some c => .ok (c, 1)
      | none => .error (.upon .badEscape (mark :: rest)) := by
  unfold escape
  split
  · next heq => cases heq
  · next heq => exact absurd (List.cons.inj heq).1 h
  · next heq => cases heq; rfl

theorem escape_append (h : Escapes piece c) (rest : List Char) :
    escape (piece ++ rest) = .ok (c, piece.length) := by
  cases h with
  | @simple mark c hmark =>
    have hu : mark ≠ 'u' := by
      rintro rfl
      cases hmark
    rw [List.singleton_append, escape_mark hu, hmark]
    rfl
  | numbered hunit hleading htrailing =>
    rw [List.cons_append, escape, numbered_single (hunit.unit_append rest) hleading htrailing,
      List.length_cons, hunit.length]
    rfl
  | @pair digits more first second hfirst hleading hsecond htrailing =>
    have hdrop : (digits ++ ('\\' :: 'u' :: (more ++ rest))).drop 4 =
        '\\' :: 'u' :: (more ++ rest) := by
      rw [← hfirst.length, List.drop_left]
    have hlength : ('u' :: (digits ++ '\\' :: 'u' :: more)).length = 10 + 1 := by
      simp [hfirst.length, hsecond.length]
    rw [hlength, List.cons_append, List.append_assoc, List.cons_append, List.cons_append, escape,
      numbered_pair (hfirst.unit_append _) hleading hdrop (hsecond.unit_append rest) htrailing]
    rfl

theorem escapes_of_escape (h : escape text = .ok (c, length)) :
    Escapes (text.take length) c ∧ length ≤ text.length := by
  cases text with
  | nil => cases h
  | cons mark rest =>
    by_cases hu : mark = 'u'
    · subst hu
      obtain ⟨⟨c, digits⟩, hnumbered, h⟩ := bind_eq_ok_iff.1 h
      obtain ⟨rfl, rfl⟩ := Prod.mk.inj (Except.ok.inj h)
      obtain ⟨number, hunit, hleading, htrailing, hc, hdigits⟩ |
        ⟨first, second, behind, hfirst, hleading, hdrop, hsecond, htrailing, hc, hdigits⟩ :=
        numbered_cases hnumbered
      · rw [unit_eq_ok_iff] at hunit
        have hlength := hunit.length
        rw [hc, hdigits]
        refine ⟨.numbered hunit hleading htrailing, ?_⟩
        rw [List.length_take] at hlength
        rw [List.length_cons]
        omega
      · rw [unit_eq_ok_iff] at hfirst hsecond
        have htake : rest.take 10 = rest.take 4 ++ '\\' :: 'u' :: behind.take 4 := by
          rw [List.take_add (i := 4) (j := 6), hdrop]
          rfl
        have hrest := congrArg List.length hdrop
        have hbehind := hsecond.length
        rw [hc, hdigits, List.take_succ_cons, htake]
        refine ⟨.pair hfirst hleading hsecond htrailing, ?_⟩
        simp only [List.length_take, List.length_drop, List.length_cons] at *
        omega
    · rw [escape_mark hu] at h
      split at h
      · next hmark =>
        obtain ⟨rfl, rfl⟩ := Prod.mk.inj (Except.ok.inj h)
        exact ⟨.simple hmark, Nat.succ_pos _⟩
      · cases h

end Escape

/-! ### Strings -/

/-- A character that stands for itself between quotes. -/
def IsPlain (c : Char) : Prop := c ≠ '"' ∧ c ≠ '\\' ∧ ¬c < ' '

/-- What may stand between quotes for a text. -/
inductive Spells : List Char → List Char → Prop
  | nil : Spells [] []
  | plain {c : Char} {body text : List Char} (hc : IsPlain c) (h : Spells body text) :
      Spells (c :: body) (c :: text)
  | escape {c : Char} {piece body text : List Char} (hc : Escapes piece c)
      (h : Spells body text) : Spells ('\\' :: (piece ++ body)) (c :: text)

/-- What may stand between quotes by the grammar. -/
inductive IsBody : List Char → Prop
  | nil : IsBody []
  | plain {c : Char} {body : List Char} (hc : IsPlain c) (h : IsBody body) : IsBody (c :: body)
  | escape {piece body : List Char} (hpiece : IsEscape piece) (h : IsBody body) :
      IsBody ('\\' :: (piece ++ body))

section Strings
variable {body text said rest : List Char} {c : Char}

theorem read_of_escape {length : Nat} (h : escape text = .ok (c, length)) :
    read ('\\' :: text) = (read (text.drop length)).map fun (more, rest) => (c :: more, rest) := by
  rw [read, if_neg (by decide), if_pos rfl, h]
  simp only [bind, Except.bind]
  cases read (text.drop length) <;> rfl

theorem read_of_plain (h : IsPlain c) (text : List Char) :
    read (c :: text) = (read text).map fun (more, rest) => (c :: more, rest) := by
  rw [read, if_neg h.1, if_neg h.2.1, if_neg h.2.2]
  cases read text <;> rfl

theorem read_spelled (h : Spells body text) (rest : List Char) :
    read (body ++ '"' :: rest) = .ok (text, rest) := by
  induction h with
  | nil => rw [List.nil_append, read, if_pos rfl]
  | plain hc _ ih =>
    rw [List.cons_append, read_of_plain hc, ih]
    rfl
  | escape hc _ ih =>
    rw [List.cons_append, List.append_assoc, read_of_escape (escape_append hc _), List.drop_left,
      ih]
    rfl

theorem spells_of_read (h : read text = .ok (said, rest)) :
    ∃ body, text = body ++ '"' :: rest ∧ Spells body said := by
  fun_induction read text generalizing said rest with
  | case1 => cases h
  | case2 =>
    obtain ⟨rfl, rfl⟩ := Prod.mk.inj (Except.ok.inj h)
    exact ⟨[], rfl, .nil⟩
  | case3 behind hquote ih =>
    -- The reader drops as many characters as the escape has; what it dropped is the escape.
    obtain ⟨⟨c, length⟩, hescape, h⟩ := bind_eq_ok_iff.1 h
    obtain ⟨⟨more, rest⟩, hread, h⟩ := bind_eq_ok_iff.1 h
    obtain ⟨rfl, rfl⟩ := Prod.mk.inj (Except.ok.inj h)
    obtain ⟨hpiece, -⟩ := escapes_of_escape hescape
    obtain ⟨body, hdrop, hbody⟩ := ih length hread
    refine ⟨'\\' :: (behind.take length ++ body), ?_, .escape hpiece hbody⟩
    rw [List.cons_append, List.append_assoc, ← hdrop, List.take_append_drop]
  | case4 => cases h
  | case5 c behind hquote hbackslash hcontrol ih =>
    obtain ⟨⟨more, rest⟩, hread, h⟩ := bind_eq_ok_iff.1 h
    obtain ⟨rfl, rfl⟩ := Prod.mk.inj (Except.ok.inj h)
    obtain ⟨body, rfl, hbody⟩ := ih hread
    exact ⟨c :: body, rfl, .plain ⟨hquote, hbackslash, hcontrol⟩ hbody⟩

/-- **The reader takes every spelling of a text, and nothing else.** -/
theorem read_eq_ok_iff :
    read text = .ok (said, rest) ↔ ∃ body, text = body ++ '"' :: rest ∧ Spells body said := by
  refine ⟨spells_of_read, ?_⟩
  rintro ⟨body, rfl, hbody⟩
  exact read_spelled hbody rest

/-- The number of a control character is written with four digits. -/
theorem isUnit_control : ∀ n < 32,
    IsUnit ['0', '0', Nat.digitChar (n / 16), Nat.digitChar (n % 16)] n := by
  have hnumber : ∀ n < 32, Flowmeter.Text.Hex.number?
      ['0', '0', Nat.digitChar (n / 16), Nat.digitChar (n % 16)] = some n := by decide
  exact fun n h => ⟨rfl, hnumber n h⟩

/-- What is written for a character is one of its spellings. -/
theorem Spells.escaped (h : Spells body text) (c : Char) :
    Spells (escaped c ++ body) (c :: text) := by
  unfold Text.escaped
  iterate 7
    split
    · subst c
      exact .escape (.simple rfl) h
  split
  · next hcontrol =>
    have hsmall : c.toNat < 32 := hcontrol
    have hleading : isLeading c.toNat = false := by
      simp only [isLeading, Bool.and_eq_false_iff, decide_eq_false_iff_not]
      omega
    have htrailing : isTrailing c.toNat = false := by
      simp only [isTrailing, Bool.and_eq_false_iff, decide_eq_false_iff_not]
      omega
    have hspells := Spells.escape (.numbered (isUnit_control _ hsmall) hleading htrailing) h
    rw [Char.ofNat_toNat] at hspells
    exact hspells
  · next hquote hbackslash _ _ _ _ _ hcontrol => exact .plain ⟨hquote, hbackslash, hcontrol⟩ h

theorem spells_escaped (text : List Char) : Spells (text.flatMap Text.escaped) text := by
  induction text with
  | nil => exact .nil
  | cons c more ih =>
    rw [List.flatMap_cons]
    exact ih.escaped c

theorem escapeLength_append {piece : List Char} (h : IsEscape piece) (rest : List Char) :
    escapeLength (piece ++ rest) = .ok piece.length := by
  cases h with
  | @simple mark c hmark =>
    have hu : mark ≠ 'u' := by
      rintro rfl
      cases hmark
    unfold escapeLength
    split
    · next heq => cases heq
    · next heq => exact absurd (List.cons.inj heq).1 hu
    · next heq =>
      obtain ⟨rfl, -⟩ := List.cons.inj heq
      rw [hmark]
      rfl
  | numbered hunit =>
    rw [List.cons_append, escapeLength, hunit.unit_append rest, List.length_cons, hunit.length]
    rfl

/-- Every string of the grammar is skipped. -/
theorem skip_body (h : IsBody body) (rest : List Char) : skip (body ++ '"' :: rest) = .ok rest := by
  induction h with
  | nil => rw [List.nil_append, skip, if_pos rfl]
  | plain hc _ ih =>
    rw [List.cons_append, skip, if_neg hc.1, if_neg hc.2.1, if_neg hc.2.2]
    exact ih
  | escape hpiece _ ih =>
    rw [List.cons_append, List.append_assoc, skip, if_neg (by decide), if_pos rfl,
      escapeLength_append hpiece]
    show skip (List.drop _ _) = _
    rw [List.drop_left]
    exact ih

end Strings

end Text

/-! ### Values -/

/-- White space only. -/
def IsBlank (text : List Char) : Prop := ∀ c ∈ text, isSpace c = true

instance (text : List Char) : Decidable (IsBlank text) :=
  decidable_of_iff (text.all isSpace = true) List.all_eq_true

/-- A string that stands for a text. -/
def IsString (said text : List Char) : Prop :=
  ∃ body, Text.Spells body said ∧ text = '"' :: (body ++ ['"'])

/-- A value that is no number and encloses no other. A string need not stand for a text. -/
inductive IsScalar : List Char → Prop
  | null : IsScalar "null".toList
  | boolean (value : Bool) : IsScalar (if value then "true".toList else "false".toList)
  | string {body : List Char} (h : Text.IsBody body) : IsScalar ('"' :: (body ++ ['"']))

section Values
variable {said value spaces : List Char} (rest : List Char)

/-- What the reader takes to its end is a string. -/
theorem isString_of_read {text : List Char} (h : Text.read text = .ok (said, [])) :
    IsString said ('"' :: text) := by
  obtain ⟨body, rfl, hbody⟩ := Text.read_eq_ok_iff.1 h
  exact ⟨body, hbody, rfl⟩

/-- What is written for a text is a string that stands for it. -/
theorem isString_write (text : List Char) : IsString text (Text.write text) :=
  ⟨_, Text.spells_escaped text, rfl⟩

theorem IsString.readText (h : IsString said value) (wanted : String) :
    readText wanted (value ++ rest) = .ok (said, rest) := by
  obtain ⟨body, hbody, rfl⟩ := h
  rw [List.cons_append, List.append_assoc, Json.readText, skipSpace_of_not rfl]
  exact Text.read_spelled hbody rest

theorem IsString.readOptionalText (h : IsString said value) (wanted : String) :
    readOptionalText wanted (value ++ rest) = .ok (some said, rest) := by
  have hread := h.readText rest wanted
  obtain ⟨body, -, rfl⟩ := h
  rw [List.cons_append] at hread ⊢
  rw [Json.readOptionalText, skipSpace_of_not rfl]
  exact congrArg (Except.map fun x => (some x.1, x.2)) hread

theorem IsString.readChoice {α : Type} {choices : List (String × α)} {name : String} {choice : α}
    (h : IsString name.toList value) (hchoice : choices.lookup name = some choice) :
    readChoice choices (value ++ rest) = .ok (choice, rest) := by
  obtain ⟨body, hbody, rfl⟩ := h
  rw [List.cons_append, List.append_assoc, Json.readChoice, skipSpace_of_not rfl]
  simp only [readNamed, List.singleton_append, Text.read_spelled hbody, String.ofList_toList,
    hchoice, bind, Except.bind]
  rfl

/-- A value that says nothing is skipped. -/
theorem IsScalar.skipValue (h : IsScalar value) (hspaces : IsBlank spaces) :
    skipValue (spaces ++ (value ++ rest)) = .ok rest := by
  rw [Json.skipValue, skipFrom, skipSpace_append hspaces]
  cases h with
  | null => rfl
  | boolean value => cases value <;> rfl
  | string hbody =>
    rw [List.cons_append, List.append_assoc, skipSpace_of_not rfl]
    show (Text.skip _ >>= fun rest => skipFrom _ .behind [] rest) = _
    rw [List.singleton_append, Text.skip_body hbody]
    rfl

theorem expectColon_spaces (hspaces : IsBlank spaces) :
    expectColon (spaces ++ ':' :: rest) = .ok rest := by
  rw [expectColon, expect, skipSpace_append hspaces]
  rfl

end Values

end Flowmeter.Json
