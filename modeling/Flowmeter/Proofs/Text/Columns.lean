import Flowmeter.Text.Blank

/-! The columns of a line.

`Spaced` says how words stand in a text: blanks in front of each, blanks or the end behind it,
and no blank within. A text has just one such reading, the one that `words` gives
(`words_eq_iff`). All of it rests on one equation: the words before a blank and those behind it
are the words of the whole (`words_append_blank`). -/
namespace Flowmeter.Text

/-- The text is the words, with blanks in front, between and behind. -/
inductive Spaced : List Char → List (List Char) → Prop
  | blanks {gap : List Char} (hgap : ∀ c ∈ gap, isBlank c = true) : Spaced gap []
  | word {gap word rest : List Char} {words : List (List Char)}
    (hgap : ∀ c ∈ gap, isBlank c = true) (hne : word ≠ []) (hword : ∀ c ∈ word, isBlank c = false)
    (hends : ∀ c ∈ rest.head?, isBlank c = true) (hrest : Spaced rest words) :
    Spaced (gap ++ word ++ rest) (word :: words)

/-- **Words do not reach across a blank.** -/
theorem words_append_blank {blank : Char} (h : isBlank blank = true) (front back : List Char) :
    words (front ++ blank :: back) = words front ++ words back := by
  unfold words
  rw [List.splitOnP_append_cons front back h, List.filter_append]

theorem words_cons_blank {blank : Char} (h : isBlank blank = true) (text : List Char) :
    words (blank :: text) = words text :=
  words_append_blank h [] text

theorem words_blanks_append {gap : List Char} (hgap : ∀ c ∈ gap, isBlank c = true)
    (text : List Char) : words (gap ++ text) = words text := by
  induction gap with
  | nil => rfl
  | cons c gap ih =>
    rw [List.cons_append, words_cons_blank (hgap c (List.mem_cons_self ..)),
      ih fun d hd => hgap d (List.mem_cons_of_mem c hd)]

theorem words_eq_singleton {word : List Char} (hne : word ≠ [])
    (hword : ∀ c ∈ word, isBlank c = false) : words word = [word] := by
  rw [words, List.splitOnP_eq_singleton hword, List.filter_cons_of_pos (by simpa using hne),
    List.filter_nil]

/-- A word ends with the text or where a blank stands. -/
theorem words_word_append {word rest : List Char} (hne : word ≠ [])
    (hword : ∀ c ∈ word, isBlank c = false) (hends : ∀ c ∈ rest.head?, isBlank c = true) :
    words (word ++ rest) = word :: words rest := by
  cases rest with
  | nil =>
    rw [List.append_nil, words_eq_singleton hne hword]
    rfl
  | cons c rest =>
    have hblank : isBlank c = true := hends c rfl
    rw [words_append_blank hblank, words_eq_singleton hne hword, words_cons_blank hblank,
      List.singleton_append]

theorem Spaced.words_eq {text : List Char} {columns : List (List Char)} (h : Spaced text columns) :
    words text = columns := by
  induction h with
  | blanks hgap =>
    rename_i gap
    rw [← List.append_nil gap, words_blanks_append hgap]
    rfl
  | word hgap hne hword hends _ ih =>
    rw [List.append_assoc, words_blanks_append hgap, words_word_append hne hword hends, ih]

/-- A character in front is a blank more, goes on to the first word or is a word of its own. -/
theorem Spaced.cons {text : List Char} {columns : List (List Char)} (h : Spaced text columns)
    (c : Char) : ∃ more, Spaced (c :: text) more := by
  cases hc : isBlank c with
  | true =>
    have hgap' {gap : List Char} (hgap : ∀ d ∈ gap, isBlank d = true) :
        ∀ d ∈ c :: gap, isBlank d = true := by
      intro d hd
      rcases List.mem_cons.1 hd with rfl | hd
      · exact hc
      · exact hgap d hd
    cases h with
    | blanks hgap => exact ⟨[], .blanks (hgap' hgap)⟩
    | word hgap hne hword hends hrest =>
      exact ⟨_, .word (hgap' hgap) hne hword hends hrest⟩
  | false =>
    have alone (hends : ∀ d ∈ text.head?, isBlank d = true) :
        ∃ more, Spaced (c :: text) more := by
      refine ⟨[c] :: columns, @Spaced.word [] [c] _ _ (by simp)
        (List.cons_ne_nil c []) ?_ hends h⟩
      intro d hd
      obtain rfl := List.mem_singleton.1 hd
      exact hc
    cases h with
    | blanks hgap => exact alone fun d hd => hgap d (List.mem_of_mem_head? hd)
    | @word gap word rest words hgap hne hword hends hrest =>
      cases gap with
      | cons blank gap =>
        refine alone fun d hd => ?_
        obtain rfl := Option.some.inj hd
        exact hgap _ (List.mem_cons_self ..)
      | nil =>
        refine ⟨(c :: word) :: words, @Spaced.word [] (c :: word) _ _ (by simp)
          (List.cons_ne_nil c word) ?_ hends hrest⟩
        intro d hd
        rcases List.mem_cons.1 hd with rfl | hd
        · exact hc
        · exact hword d hd

theorem exists_spaced (text : List Char) : ∃ columns, Spaced text columns := by
  induction text with
  | nil => exact ⟨[], .blanks (by simp)⟩
  | cons c text ih =>
    obtain ⟨columns, h⟩ := ih
    exact h.cons c

/-- **The words of a text are the one way to read it as words set apart by blanks.** -/
theorem words_eq_iff {text : List Char} {columns : List (List Char)} :
    words text = columns ↔ Spaced text columns := by
  refine ⟨?_, Spaced.words_eq⟩
  rintro rfl
  obtain ⟨columns, h⟩ := exists_spaced text
  rw [h.words_eq]
  exact h

/-- Where the first mark stands, a text is split. -/
theorem splitFirst?_eq_some_iff {mark : Char} {text front back : List Char} :
    splitFirst? mark text = some (front, back) ↔ mark ∉ front ∧ text = front ++ mark :: back := by
  fun_induction splitFirst? mark text generalizing front with
  | case1 => simp
  | case2 rest =>
    constructor
    · intro h
      obtain ⟨rfl, rfl⟩ := Prod.mk.inj (Option.some.inj h)
      exact ⟨List.not_mem_nil, rfl⟩
    · rintro ⟨hmark, htext⟩
      cases front with
      | nil =>
        obtain ⟨-, rfl⟩ := List.cons.inj htext
        rfl
      | cons c front =>
        obtain ⟨rfl, -⟩ := List.cons.inj htext
        exact absurd (List.mem_cons_self ..) hmark
  | case3 c rest hne ih =>
    rw [Option.map_eq_some_iff]
    constructor
    · rintro ⟨⟨first, last⟩, hsplit, hparts⟩
      obtain ⟨rfl, rfl⟩ := Prod.mk.inj hparts
      obtain ⟨hmark, rfl⟩ := ih.1 hsplit
      exact ⟨List.not_mem_cons_of_ne_of_not_mem (Ne.symm hne) hmark, rfl⟩
    · rintro ⟨hmark, htext⟩
      cases front with
      | nil => exact absurd (List.cons.inj htext).1 hne
      | cons first front =>
        obtain ⟨rfl, rfl⟩ := List.cons.inj htext
        exact ⟨(front, back), ih.2 ⟨fun h => hmark (List.mem_cons_of_mem _ h), rfl⟩, rfl⟩

/-- What stands in front of the first mark, and what stands behind it, are told apart. -/
theorem append_mark_inj {mark : Char} {front front' back back' : List Char} (h : mark ∉ front)
    (h' : mark ∉ front') (heq : front ++ mark :: back = front' ++ mark :: back') :
    front = front' ∧ back = back' := by
  have hsplit : splitFirst? mark (front ++ mark :: back) = some (front, back) :=
    splitFirst?_eq_some_iff.2 ⟨h, rfl⟩
  rw [heq, splitFirst?_eq_some_iff.2 ⟨h', rfl⟩] at hsplit
  obtain ⟨hfront, hback⟩ := Prod.mk.inj (Option.some.inj hsplit)
  exact ⟨hfront.symm, hback.symm⟩

end Flowmeter.Text
