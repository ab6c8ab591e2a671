import Flowmeter.Proofs.Fallible
import Flowmeter.Settings.Document

/-! A settings file is laid over the defaults.

What a text says does not depend on the settings it is read into: it sets some fields and leaves
all others as they are (`Sets`). Reading one field changes this field only (`Field.read_frame`),
and a field that was read is not read again, so its value stays to the end (`readMembers_sets`,
`readElements_sets`). Read into the defaults, a text therefore leaves a field that it does not set
at its default (`Sets.default_of_not_mem`). -/
namespace Flowmeter.Settings

/-- The settings `target` with one field of `source`. -/
def Field.copy (field : Field) (source target : Settings) : Settings :=
  match field with
  | refreshSecs => { target with refreshSecs := source.refreshSecs }
  | capture => { target with capture := source.capture }
  | order => { target with order := source.order }
  | hideIdle => { target with hideIdle := source.hideIdle }
  | showSplit => { target with showSplit := source.showSplit }
  | numericNames => { target with numericNames := source.numericNames }
  | logFile => { target with logFile := source.logFile }
  | hostLimit => { target with hostLimit := source.hostLimit }
  | device => { target with device := source.device }

/-- Settings with some fields of others. -/
def overlay (fields : List Field) (source target : Settings) : Settings :=
  fields.foldl (fun target field => field.copy source target) target

theorem overlay_append (fields more : List Field) (source target : Settings) :
    overlay (fields ++ more) source target = overlay more source (overlay fields source target) :=
  List.foldl_append

/-- All fields are all of the settings. -/
theorem overlay_all (source target : Settings) : overlay Field.all source target = source := by
  simp only [overlay, Field.all, List.foldl_cons, List.foldl_nil, Field.copy]

namespace Field

variable {field other : Field}

theorem copy_copy (source target into : Settings) :
    field.copy (field.copy source target) into = field.copy source into := by
  cases field <;> rfl

theorem copy_copy_of_ne (h : field ≠ other) (source target into : Settings) :
    field.copy (other.copy source target) into = field.copy target into := by
  cases field <;> cases other <;> first | rfl | exact absurd rfl h

theorem copy_self (settings : Settings) : field.copy settings settings = settings := by
  cases field <;> rfl

theorem copy_overlay_of_not_mem {fields : List Field} (h : field ∉ fields)
    (source target into : Settings) :
    field.copy (overlay fields source target) into = field.copy target into := by
  induction fields generalizing target with
  | nil => rfl
  | cons first rest ih =>
    rw [List.mem_cons, not_or] at h
    exact (ih h.2 (first.copy source target)).trans (copy_copy_of_ne h.1 ..)

theorem copy_overlay_of_mem {fields : List Field} (h : field ∈ fields)
    (source target into : Settings) :
    field.copy (overlay fields source target) into = field.copy source into := by
  induction fields generalizing target with
  | nil => cases h
  | cons first rest ih =>
    by_cases hrest : field ∈ rest
    · exact ih hrest (first.copy source target)
    · obtain rfl : field = first := (List.mem_cons.1 h).resolve_right hrest
      exact (copy_overlay_of_not_mem hrest ..).trans (copy_copy ..)

/-- Reading a field changes this field only, and to the same value in any settings. -/
theorem read_frame {source result : Settings} {text rest : List Char}
    (h : field.read source text = .ok (result, rest)) (target : Settings) :
    field.read target text = .ok (field.copy result target, rest) := by
  cases field <;>
    · obtain ⟨⟨value, after⟩, hvalue, heq⟩ := map_eq_ok_iff.1 h
      obtain ⟨rfl, rfl⟩ := Prod.mk.inj heq
      exact map_eq_ok_iff.2 ⟨_, hvalue, rfl⟩

end Field

/-- Settings with the same fields are the same. -/
theorem eq_of_copy_eq {settings others : Settings}
    (h : ∀ (field : Field) (into : Settings), field.copy settings into = field.copy others into) :
    settings = others := by
  rw [← overlay_all settings {}, ← overlay_all others {}]
  simp only [overlay, h]

/-- A field that is not set again keeps the value that was read. -/
theorem overlay_cons {field : Field} {fields : List Field} (hfield : field ∉ fields)
    {stored result : Settings} (hstored : overlay fields stored result = stored)
    (target : Settings) :
    overlay (field :: fields) stored target = overlay fields stored (field.copy result target) := by
  have hvalue : field.copy stored target = field.copy result target := by
    rw [← hstored, Field.copy_overlay_of_not_mem hfield]
  show overlay fields stored (field.copy stored target) = _
  rw [hvalue]

/-! ### Members -/

/-- A member stands in front of the text, behind the opening bracket or another member; the text
of its value begins at `value`. -/
structure LeadsMember (opened : Bool) (text name value : List Char) : Prop where
  split : ∃ c rest named behind, Json.skipSpace text = c :: rest ∧ c ≠ '\x7d' ∧
    (opened = true ∨ c = ',') ∧ nameText (if opened then c :: rest else rest) = .ok named ∧
    Json.Text.read named = .ok (name, behind) ∧ Json.expectColon behind = .ok value

section Members
variable {members : Nat} {opened : Bool} {seen : List Field} {text name value : List Char}

theorem readMembers_close {rest : List Char} (h : Json.skipSpace text = '\x7d' :: rest)
    (settings : Settings) :
    readMembers (members + 1) opened seen settings text = .ok (settings, rest) := by
  rw [readMembers, h]
  rfl

section Member
variable (h : LeadsMember opened text name value)
include h

/-- A member of another name is skipped. -/
theorem readMembers_unknown (hfield : field? name = none) (settings : Settings) :
    readMembers (members + 1) opened seen settings text =
      Json.skipValue value >>= readMembers members false seen settings := by
  obtain ⟨c, rest, named, behind, hspace, hclose, hcomma, hnamed, hname, hcolon⟩ := h.split
  have hlead : ¬(!opened && c != ',') = true := by
    rcases hcomma with rfl | rfl <;> simp
  simp only [readMembers, hspace, if_neg hclose, if_neg hlead, hnamed, hname, hcolon, hfield, bind,
    Except.bind]

/-- A field is read if it was not read before. -/
theorem readMembers_field {field : Field} (hfield : field? name = some field)
    (hseen : field ∉ seen) (settings : Settings) :
    readMembers (members + 1) opened seen settings text =
      field.read settings value >>= fun next =>
        readMembers members false (field :: seen) next.1 next.2 := by
  obtain ⟨c, rest, named, behind, hspace, hclose, hcomma, hnamed, hname, hcolon⟩ := h.split
  have hlead : ¬(!opened && c != ',') = true := by
    rcases hcomma with rfl | rfl <;> simp
  simp only [readMembers, hspace, if_neg hclose, if_neg hlead, hnamed, hname, hcolon, hfield,
    hseen, if_false, bind, Except.bind]

end Member

/-- What the reader of members does when it succeeds. -/
theorem readMembers_cases {settings stored : Settings} {rest : List Char}
    (h : readMembers members opened seen settings text = .ok (stored, rest)) :
    ∃ later, members = later + 1 ∧
      ((Json.skipSpace text = '\x7d' :: rest ∧ stored = settings) ∨
        ∃ name value, LeadsMember opened text name value ∧
          ((field? name = none ∧ ∃ after, Json.skipValue value = .ok after ∧
              readMembers later false seen settings after = .ok (stored, rest)) ∨
            ∃ field, field? name = some field ∧ field ∉ seen ∧
              ∃ result after, field.read settings value = .ok (result, after) ∧
                readMembers later false (field :: seen) result after = .ok (stored, rest))) := by
  cases members with
  | zero => cases h
  | succ later =>
    refine ⟨later, rfl, ?_⟩
    rw [readMembers] at h
    split at h
    · cases h
    · next c more hspace =>
      split at h
      · next hclose =>
        obtain ⟨rfl, rfl⟩ := Prod.mk.inj (Except.ok.inj h)
        exact .inl ⟨hclose ▸ hspace, rfl⟩
      · next hclose =>
        split at h
        · cases h
        · next hlead =>
          have hcomma : opened = true ∨ c = ',' := by
            cases opened <;> simp_all
          obtain ⟨named, hnamed, h⟩ := bind_eq_ok_iff.1 h
          obtain ⟨⟨name, behind⟩, hname, h⟩ := bind_eq_ok_iff.1 h
          dsimp only at h
          split at h
          · next hfield =>
            obtain ⟨value, hcolon, h⟩ := bind_eq_ok_iff.1 h
            refine .inr ⟨name, value, ⟨c, more, named, behind, hspace, hclose, hcomma, hnamed,
              hname, hcolon⟩, .inl ⟨hfield, ?_⟩⟩
            exact bind_eq_ok_iff.1 h
          · next field hfield =>
            split at h
            · cases h
            · next hseen =>
              obtain ⟨value, hcolon, h⟩ := bind_eq_ok_iff.1 h
              obtain ⟨⟨result, after⟩, hread, h⟩ := bind_eq_ok_iff.1 h
              exact .inr ⟨name, value, ⟨c, more, named, behind, hspace, hclose, hcomma, hnamed,
                hname, hcolon⟩, .inr ⟨field, hfield, hseen, result, after, hread, h⟩⟩

/-- Whatever settings the members are read into, the same fields are set to the same values. -/
theorem readMembers_sets {settings stored : Settings} {rest : List Char}
    (h : readMembers members opened seen settings text = .ok (stored, rest)) :
    ∃ fields : List Field, (∀ field ∈ fields, field ∉ seen) ∧
      ∀ target, readMembers members opened seen target text =
        .ok (overlay fields stored target, rest) := by
  induction members generalizing opened seen settings text with
  | zero => cases h
  | succ members ih =>
    obtain ⟨later, hlater, hcases⟩ := readMembers_cases h
    obtain rfl := Nat.succ.inj hlater
    obtain ⟨hclose, rfl⟩ | ⟨name, value, hmember, hcases⟩ := hcases
    · exact ⟨[], by simp, readMembers_close hclose⟩
    · obtain ⟨hfield, after, hskip, h⟩ | ⟨field, hfield, hseen, result, after, hread, h⟩ := hcases
      · obtain ⟨fields, hnew, hsets⟩ := ih h
        refine ⟨fields, hnew, fun target => ?_⟩
        rw [readMembers_unknown hmember hfield, hskip]
        exact hsets target
      · -- The field was read just now, so the rest does not read it again and its value stays.
        obtain ⟨fields, hnew, hsets⟩ := ih h
        have hfields : field ∉ fields := fun hmem => hnew field hmem (List.mem_cons_self ..)
        have hstored : overlay fields stored result = stored := by
          have hresult := hsets result
          rw [h] at hresult
          exact (Prod.mk.inj (Except.ok.inj hresult)).1.symm
        refine ⟨field :: fields, ?_, fun target => ?_⟩
        · rw [List.forall_mem_cons]
          exact ⟨hseen, fun other hother hmem =>
            hnew other hother (List.mem_cons_of_mem _ hmem)⟩
        · rw [readMembers_field hmember hfield hseen, Field.read_frame hread target,
            overlay_cons hfields hstored]
          exact hsets _

end Members

/-! ### Elements -/

section Elements
variable {opened : Bool} {field : Field} {fields : List Field} {text : List Char}

/-- Where the reader of elements goes on is up to the text alone. -/
theorem readElements_cases :
    (∃ fault, ∀ target, readElements opened (field :: fields) target text = .error fault) ∨
    (∃ rest, ∀ target, readElements opened (field :: fields) target text = .ok (target, rest)) ∨
    ∃ value, ∀ target, readElements opened (field :: fields) target text =
      field.read target value >>= fun next => readElements false fields next.1 next.2 := by
  simp only [readElements]
  split
  · exact .inl ⟨_, fun _ => rfl⟩
  · next c rest _ =>
    by_cases hclose : c = ']'
    · exact .inr (.inl ⟨rest, fun _ => if_pos hclose⟩)
    · simp only [if_neg hclose]
      cases opened with
      | true => exact .inr (.inr ⟨c :: rest, fun _ => rfl⟩)
      | false =>
        by_cases hcomma : c = ','
        · simp only [if_pos hcomma, Bool.false_eq_true, if_false]
          split
          · exact .inl ⟨_, fun _ => rfl⟩
          · exact .inl ⟨_, fun _ => rfl⟩
          · exact .inr (.inr ⟨_, fun _ => rfl⟩)
        · exact .inl ⟨_, fun _ => if_neg hcomma⟩

theorem readElements_sets {settings stored : Settings} {rest : List Char} (hfields : fields.Nodup)
    (h : readElements opened fields settings text = .ok (stored, rest)) :
    ∃ said : List Field, said ⊆ fields ∧
      ∀ target, readElements opened fields target text =
        .ok (overlay said stored target, rest) := by
  induction fields generalizing opened settings text with
  | nil =>
    obtain ⟨after, hend, heq⟩ := map_eq_ok_iff.1 h
    obtain ⟨-, rfl⟩ := Prod.mk.inj heq
    exact ⟨[], by simp, fun target => map_eq_ok_iff.2 ⟨after, hend, rfl⟩⟩
  | cons field fields ih =>
    obtain ⟨hfield, hfields⟩ := List.nodup_cons.1 hfields
    obtain ⟨fault, hfault⟩ | ⟨after, hclose⟩ | ⟨value, hread⟩ := readElements_cases
    · rw [hfault] at h
      cases h
    · rw [hclose] at h
      obtain ⟨-, rfl⟩ := Prod.mk.inj (Except.ok.inj h)
      exact ⟨[], by simp, hclose⟩
    · rw [hread] at h
      obtain ⟨⟨result, after⟩, hvalue, h⟩ := bind_eq_ok_iff.1 h
      obtain ⟨said, hsaid, hsets⟩ := ih hfields h
      have hnot : field ∉ said := fun hmem => hfield (hsaid hmem)
      have hstored : overlay said stored result = stored := by
        have hresult := hsets result
        rw [h] at hresult
        exact (Prod.mk.inj (Except.ok.inj hresult)).1.symm
      refine ⟨field :: said, List.cons_subset_cons field hsaid, fun target => ?_⟩
      rw [hread, Field.read_frame hvalue target, overlay_cons hnot hstored]
      exact hsets _

end Elements

/-! ### Texts -/

/-- Settings behind which nothing but white space stands. -/
def readEnd (value : Settings × List Char) : Except Json.Fault Settings :=
  match Json.skipSpace value.2 with
  | [] => return value.1
  | rest => throw (.upon .trailingText rest)

/-- Reads a text into settings. -/
def readInto (target : Settings) (text : List Char) : Except Json.Fault Settings :=
  match Json.skipSpace text with
  | [] => throw (.before (.ended .value) [])
  | '\x7b' :: rest => readMembers (rest.length + 1) true [] target rest >>= readEnd
  | '[' :: rest => readElements true Field.all target rest >>= readEnd
  | text => throw (Json.mismatch "struct Settings" text)

/-- The settings of a text are what it says, read into the defaults. -/
theorem read_eq_readInto (text : List Char) : read text = readInto {} text := rfl

theorem readEnd_eq_ok_iff {value : Settings × List Char} {settings : Settings} :
    readEnd value = .ok settings ↔ Json.skipSpace value.2 = [] ∧ value.1 = settings := by
  unfold readEnd
  constructor
  · intro h
    split at h
    · next hspace => exact ⟨hspace, Except.ok.inj h⟩
    · cases h
  · rintro ⟨hspace, rfl⟩
    rw [hspace]
    rfl

/-- The text sets these fields to the values of `stored`, and no others, whatever settings it is
read into. -/
def Sets (text : List Char) (fields : List Field) (stored : Settings) : Prop :=
  ∀ target, readInto target text = .ok (overlay fields stored target)

/-- What sets fields still does so when the end of the text is looked at. -/
theorem readEnd_sets {reader : Settings → Except Json.Fault (Settings × List Char)}
    {stored : Settings} (h : (reader {} >>= readEnd) = .ok stored)
    (hreader : ∀ settings rest, reader {} = .ok (settings, rest) →
      ∃ fields, ∀ target, reader target = .ok (overlay fields settings target, rest)) :
    ∃ fields, ∀ target, (reader target >>= readEnd) = .ok (overlay fields stored target) := by
  obtain ⟨⟨settings, rest⟩, hvalue, hend⟩ := bind_eq_ok_iff.1 h
  obtain ⟨hspace, rfl⟩ := readEnd_eq_ok_iff.1 hend
  obtain ⟨fields, hsets⟩ := hreader settings rest hvalue
  refine ⟨fields, fun target => bind_eq_ok_iff.2 ⟨_, hsets target, ?_⟩⟩
  exact readEnd_eq_ok_iff.2 ⟨hspace, rfl⟩

/-- **A text that is read sets some fields and leaves the others as they are.** -/
theorem exists_sets {text : List Char} {stored : Settings} (h : read text = .ok stored) :
    ∃ fields, Sets text fields stored := by
  rw [read_eq_readInto, readInto] at h
  split at h
  · cases h
  · next rest hopen =>
    obtain ⟨fields, hsets⟩ := readEnd_sets h fun settings rest hmembers =>
      (readMembers_sets hmembers).imp fun _ hsets => hsets.2
    refine ⟨fields, fun target => ?_⟩
    rw [readInto, hopen]
    exact hsets target
  · next rest hopen =>
    obtain ⟨fields, hsets⟩ := readEnd_sets h fun settings rest helements =>
      (readElements_sets (by decide) helements).imp fun _ hsets => hsets.2
    refine ⟨fields, fun target => ?_⟩
    rw [readInto, hopen]
    exact hsets target
  · cases h

/-- A field that the text does not set has its default. -/
theorem Sets.default_of_not_mem {text : List Char} {fields : List Field} {stored : Settings}
    (h : Sets text fields stored) (hread : read text = .ok stored) {field : Field}
    (hfield : field ∉ fields) : field.copy {} stored = stored := by
  have hdefaults := h {}
  rw [← read_eq_readInto, hread] at hdefaults
  have hvalue := Field.copy_overlay_of_not_mem hfield stored {} stored
  rw [← Except.ok.inj hdefaults, Field.copy_self] at hvalue
  exact hvalue.symm

end Flowmeter.Settings
