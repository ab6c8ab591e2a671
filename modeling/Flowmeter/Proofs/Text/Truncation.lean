import Flowmeter.Text.Column

/-! Text cut to the width of its column.

A text that is too wide keeps its first characters, and behind them stands the mark of the cut if
the column is wider than the mark: `keptLength` and `cutMark` say how many and what
(`truncate_of_lt`), and together they fill the column. What a cut leaves is as it is in any column
that is no narrower (`truncate_truncate_of_le`).

In a narrower column it is cut once more, mark and all. The characters kept there are those of the
text itself if the narrower column keeps no more than the wider one did (`truncate_truncate`): its
own mark then stands for what is left of the first. Columns wider than the mark keep more the wider
they are (`keptLength_mono`), but one of three characters keeps more than one of four or five. -/
namespace Flowmeter.Text

/-- How many characters are kept of a text that is too wide. -/
def keptLength (width : Nat) : Nat := if width ≤ 3 then width else width - 3

/-- What stands behind the characters that are kept. -/
def cutMark (width : Nat) : List Char := if width ≤ 3 then [] else ['.', '.', '.']

variable {width wider : Nat} {text front : List Char}

/-! ### One cut -/

theorem keptLength_add_length_cutMark (width : Nat) :
    keptLength width + (cutMark width).length = width := by
  unfold keptLength cutMark
  split
  · rfl
  · next hwidth => exact Nat.sub_add_cancel (Nat.le_of_not_le hwidth)

theorem truncate_of_length_le (h : text.length ≤ width) : truncate width text = text :=
  if_pos h

/-- What is kept and the mark behind it make up the column. -/
theorem truncate_of_lt (h : width < text.length) :
    truncate width text = text.take (keptLength width) ++ cutMark width := by
  rw [truncate, if_neg (Nat.not_le_of_lt h), keptLength, cutMark]
  split
  · rw [List.append_nil]
  · rfl

/-- A column wider than the mark has room for three characters less. -/
theorem truncate_of_wide (hwidth : 3 < width) (h : width < text.length) :
    truncate width text = text.take (width - 3) ++ "...".toList := by
  have hmark : ¬width ≤ 3 := Nat.not_le_of_lt hwidth
  rw [truncate_of_lt h, keptLength, cutMark, if_neg hmark, if_neg hmark]
  rfl

theorem truncate_of_narrow (hwidth : width ≤ 3) (h : width < text.length) :
    truncate width text = text.take width := by
  rw [truncate_of_lt h, keptLength, cutMark, if_pos hwidth, if_pos hwidth, List.append_nil]

/-- **No front of the text is lost that has room beside the mark.** -/
theorem isPrefix_truncate (hfront : front <+: text)
    (hroom : (front ++ cutMark width).length ≤ width) : front <+: truncate width text := by
  rcases Nat.lt_or_ge width text.length with hlong | hfits
  · have hkept : front.length ≤ keptLength width := by
      rw [List.length_append] at hroom
      have hcolumn := keptLength_add_length_cutMark width
      omega
    rw [truncate_of_lt hlong]
    exact (List.prefix_take_iff.2 ⟨hfront, hkept⟩).trans (List.prefix_append ..)
  · rwa [truncate_of_length_le hfits]

/-! ### Two cuts -/

theorem truncate_truncate_of_le (h : width ≤ wider) :
    truncate wider (truncate width text) = truncate width text := by
  refine truncate_of_length_le ?_
  rw [length_truncate]
  exact Nat.le_trans (Nat.min_le_right ..) h

theorem keptLength_mono (hwidth : 3 < width) (h : width ≤ wider) :
    keptLength width ≤ keptLength wider := by
  rw [keptLength, keptLength, if_neg (Nat.not_le_of_lt hwidth),
    if_neg (Nat.not_le_of_lt (Nat.lt_of_lt_of_le hwidth h))]
  exact Nat.sub_le_sub_right h 3

/-- **A cut in a wider column leaves no trace in a narrower one** that keeps no more of the
text. -/
theorem truncate_truncate (h : width ≤ wider) (hkept : keptLength width ≤ keptLength wider) :
    truncate width (truncate wider text) = truncate width text := by
  rcases Nat.lt_or_ge wider text.length with hlong | hfits
  · rcases Nat.lt_or_eq_of_le h with hnarrower | rfl
    · have hcut : width < (truncate wider text).length := by
        rw [length_truncate, Nat.min_eq_right (Nat.le_of_lt hlong)]
        exact hnarrower
      have hfront : keptLength width ≤ (text.take (keptLength wider)).length := by
        have hcolumn := keptLength_add_length_cutMark wider
        rw [List.length_take]
        omega
      -- The first mark lies behind all that is kept, so the second cut takes it away.
      calc truncate width (truncate wider text)
        _ = (truncate wider text).take (keptLength width) ++ cutMark width := truncate_of_lt hcut
        _ = (text.take (keptLength wider) ++ cutMark wider).take (keptLength width) ++
              cutMark width := by rw [truncate_of_lt hlong]
        _ = text.take (keptLength width) ++ cutMark width := by
          rw [List.take_append_of_le_length hfront, List.take_take, Nat.min_eq_left hkept]
        _ = truncate width text := (truncate_of_lt (Nat.lt_trans hnarrower hlong)).symm
    · exact truncate_truncate_of_le (Nat.le_refl _)
  · rw [truncate_of_length_le hfits]

/-- A column of three characters keeps three and one of four keeps one, so the mark shows. -/
example : truncate 3 (truncate 4 "abcde".toList) = "a..".toList ∧
    truncate 3 "abcde".toList = "abc".toList := by
  decide

/-- **A cut text fits its column, keeps the longest front and is stable.** It has as many
characters as the text or the column, whichever has fewer. A text that fits is left as it is; of
another one all is kept that has room beside the mark, which a column of three characters or fewer
does without. Cut again to the same width or a larger one it stays as it is, and a text that was
cut to a larger width first is cut as if it had not been, if there is room for more than the
mark. -/
theorem cuts_fit_and_are_stable (width : Nat) (text : List Char) :
    (truncate width text).length = min text.length width ∧
    (text.length ≤ width → truncate width text = text) ∧
    (width < text.length → 3 < width →
      truncate width text = text.take (width - 3) ++ "...".toList) ∧
    (width < text.length → width ≤ 3 → truncate width text = text.take width) ∧
    (∀ front, front <+: text → (front ++ cutMark width).length ≤ width →
      front <+: truncate width text) ∧
    (∀ wider, width ≤ wider → truncate wider (truncate width text) = truncate width text) ∧
    (3 < width → ∀ wider, width ≤ wider →
      truncate width (truncate wider text) = truncate width text) := by
  refine ⟨length_truncate width text, truncate_of_length_le, ?_, ?_, ?_, ?_, ?_⟩
  · exact fun hlong hwidth => truncate_of_wide hwidth hlong
  · exact fun hlong hwidth => truncate_of_narrow hwidth hlong
  · exact fun front => isPrefix_truncate
  · exact fun wider => truncate_truncate_of_le
  · exact fun hwidth wider h => truncate_truncate h (keptLength_mono hwidth h)

/-- A command with a character that has two octets. -/
def pingCommand : List Char := "ping köln.example".toList

theorem pingCommand_is_cut :
    truncate 17 pingCommand = pingCommand ∧
    truncate 10 pingCommand = "ping kö...".toList ∧
    truncate 2 pingCommand = "pi".toList ∧
    "ping kö".toList <+: truncate 10 pingCommand ∧
    truncate 80 (truncate 10 pingCommand) = "ping kö...".toList ∧
    truncate 10 (truncate 12 pingCommand) = "ping kö...".toList := by
  obtain ⟨-, hfits, -⟩ := cuts_fit_and_are_stable 17 pingCommand
  obtain ⟨-, -, -, hnarrow, -⟩ := cuts_fit_and_are_stable 2 pingCommand
  obtain ⟨-, -, hwide, -, hfront, hagain, hfirst⟩ := cuts_fit_and_are_stable 10 pingCommand
  have hcut : truncate 10 pingCommand = "ping kö...".toList := hwide (by decide) (by decide)
  refine ⟨hfits (by decide), hcut, hnarrow (by decide) (by decide), ?_, ?_, ?_⟩
  · exact hfront "ping kö".toList (by decide) (by decide)
  · exact (hagain 80 (by decide)).trans hcut
  · exact (hfirst (by decide) 12 (by decide)).trans hcut

end Flowmeter.Text
