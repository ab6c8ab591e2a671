import Flowmeter.Proofs.CommandLine.Choice
import Flowmeter.Proofs.Fallible

/-! Spellings of choices.

A choice is spelled by its long name or by its letter, and its value stands in a word of its own,
behind an equals sign, or right behind the letter (`Spelled`, `Lettered`); the letter that leaves
addresses as numbers may stand in one word with another. A command line spells choices one after
the other (`Spells`).

However a choice is spelled, reading its words makes the choice, once the flag that waits is
settled (`reads_spelled`). So reading a line is making its choices one by one (`read_spells`), and
what was spelled is forgotten. -/
namespace Flowmeter.CommandLine

/-- The name of an option behind two dashes. -/
def longName (flag : Flag) : Text.Raw := .char '-' :: .char '-' :: Text.Raw.ofString flag.name

/-- A choice spelled by its letter: the rest of the word from the letter on, and the words behind
it. -/
inductive Lettered (choice : Choice) : Text.Raw → List Text.Raw → Prop
  | alone {letter : Char} (hletter : choice.flag.letter? = some letter)
      (hvalue : choice.flag.takesValue = false) : Lettered choice [.char letter] []
  | apart {letter : Char} {value : Text.Raw} (hletter : choice.flag.letter? = some letter)
      (hvalue : choice.IsValue value) (hdash : value.head? ≠ some (.char '-')) :
      Lettered choice [.char letter] [value]
  | joined {letter : Char} {value : Text.Raw} (hletter : choice.flag.letter? = some letter)
      (hvalue : choice.IsValue value) : Lettered choice (.char letter :: .char '=' :: value) []
  | attached {letter : Char} {value : Text.Raw} (hletter : choice.flag.letter? = some letter)
      (hvalue : choice.IsValue value) (hdash : value.head? ≠ some (.char '-'))
      (hequals : value.head? ≠ some (.char '=')) : Lettered choice (.char letter :: value) []

/-- Choices that are spelled together, and their words. -/
inductive Spelled : List Choice → List Text.Raw → Prop
  | long {choice : Choice} (hvalue : choice.flag.takesValue = false) :
      Spelled [choice] [longName choice.flag]
  | longApart {choice : Choice} {value : Text.Raw} (hvalue : choice.IsValue value)
      (hdash : value.head? ≠ some (.char '-')) : Spelled [choice] [longName choice.flag, value]
  | longJoined {choice : Choice} {value : Text.Raw} (hvalue : choice.IsValue value) :
      Spelled [choice] [longName choice.flag ++ .char '=' :: value]
  | short {choice : Choice} {letters : Text.Raw} {words : List Text.Raw}
      (h : Lettered choice letters words) : Spelled [choice] ((.char '-' :: letters) :: words)
  | cluster {choice : Choice} {letters : Text.Raw} {words : List Text.Raw}
      (h : Lettered choice letters words) :
      Spelled [.numericNames, choice] ((.char '-' :: .char 'n' :: letters) :: words)

/-- Choices spelled one after the other. -/
inductive Spells : List Choice → List Text.Raw → Prop
  | nil : Spells [] []
  | cons {group choices : List Choice} {words more : List Text.Raw} (h : Spelled group words)
      (hmore : Spells choices more) : Spells (group ++ choices) (words ++ more)

variable {choice : Choice} {choices others again : List Choice} {flag : Flag} {letter : Char}
  {word text letters value : Text.Raw} {words otherWords more : List Text.Raw}

/-! ### Words -/

namespace Flag

theorem ofName?_name (flag : Flag) : ofName? flag.name.toList = some flag := by
  cases flag <;> rfl

theorem ofLetter?_eq (h : flag.letter? = some letter) : ofLetter? letter = some flag := by
  cases flag <;> cases h <;> rfl

theorem letter_ne_dash (h : flag.letter? = some letter) : letter ≠ '-' := by
  rintro rfl
  cases flag <;> cases h

/-- Names have letters, and no equals sign. -/
theorem name_spec (flag : Flag) : flag.name.toList ≠ [] ∧ '=' ∉ flag.name.toList := by
  cases flag <;> decide

end Flag

theorem splitValue_of_not_mem {name : Text.Raw} (h : .char '=' ∉ name) :
    splitValue name = (name, none) := by
  induction name with
  | nil => rfl
  | cons c rest ih =>
    rw [splitValue, ih (List.not_mem_of_not_mem_cons h)]
    exact fun hc => List.ne_of_not_mem_cons h hc.symm

theorem splitValue_append {name : Text.Raw} (h : .char '=' ∉ name) (value : Text.Raw) :
    splitValue (name ++ .char '=' :: value) = (name, some value) := by
  induction name with
  | nil => rfl
  | cons c rest ih =>
    rw [List.cons_append, splitValue, ih (List.not_mem_of_not_mem_cons h)]
    exact fun hc => List.ne_of_not_mem_cons h hc.symm

theorem Flag.not_mem_name (flag : Flag) : .char '=' ∉ Text.Raw.ofString flag.name := by
  simpa [Text.Raw.ofString] using flag.name_spec.2

theorem Word.of_long {rest : Text.Raw} (h : rest ≠ []) :
    Word.of (.char '-' :: .char '-' :: rest) =
      .long (splitValue rest).1 (splitValue rest).2 := by
  obtain ⟨c, rest, rfl⟩ := List.exists_cons_of_ne_nil h
  rfl

theorem Flag.name_ne_nil (flag : Flag) : Text.Raw.ofString flag.name ≠ [] := by
  simpa [Text.Raw.ofString] using flag.name_spec.1

theorem Word.of_longName (flag : Flag) :
    Word.of (longName flag) = .long (Text.Raw.ofString flag.name) none := by
  rw [longName, Word.of_long flag.name_ne_nil, splitValue_of_not_mem flag.not_mem_name]

theorem Word.of_longName_value (flag : Flag) (value : Text.Raw) :
    Word.of (longName flag ++ .char '=' :: value) =
      .long (Text.Raw.ofString flag.name) (some value) := by
  show Word.of (.char '-' :: .char '-' :: (Text.Raw.ofString flag.name ++ .char '=' :: value)) = _
  rw [Word.of_long (by simp), splitValue_append flag.not_mem_name]

theorem Word.of_cluster (h : letter ≠ '-') (letters : Text.Raw) :
    Word.of (.char '-' :: .char letter :: letters) = .cluster (.char letter :: letters) := by
  rw [Word.of]
  all_goals simp [h]

theorem Word.of_plain (h : value.head? ≠ some (.char '-')) : Word.of value = .plain value := by
  cases value with
  | nil => rfl
  | cons c rest =>
    have hc : c ≠ .char '-' := by simpa using h
    rw [Word.of]
    all_goals simp [hc]

theorem Word.of_lettered (h : Lettered choice letters words) :
    Word.of (.char '-' :: letters) = .cluster letters := by
  cases h with
  | alone hletter | apart hletter | joined hletter | attached hletter =>
    exact Word.of_cluster (Flag.letter_ne_dash hletter) _

/-! ### Reading a choice -/

namespace Reader

variable {reader after : Reader}

theorem pending_of_accept {value : Option Text.Raw} (h : reader.accept flag value = .ok after) :
    after.pending = reader.pending := by
  simp only [accept] at h
  split at h
  · cases h
  · split at h
    · cases h
    · obtain ⟨arguments, -, h⟩ := bind_eq_ok_iff.1 h
      obtain rfl := Except.ok.inj h
      rfl

theorem settle_of_pending (h : reader.pending = none) : reader.settle = .ok reader := by
  rw [settle, h]

/-- Nothing waits in a reader that is settled. -/
theorem pending_of_settle (h : reader.settle = .ok after) : after.pending = none := by
  cases hpending : reader.pending with
  | none =>
    rw [settle_of_pending hpending] at h
    obtain rfl := Except.ok.inj h
    exact hpending
  | some waiting =>
    rw [settle, hpending] at h
    exact pending_of_accept h

theorem pending_of_choose (h : reader.choose choice = .ok after) :
    after.pending = reader.pending := by
  unfold choose at h
  split at h
  · cases h
  · obtain rfl := Except.ok.inj h
    rfl

/-- Whether a reading comes to the same as making choices, once the flag that waits is settled. -/
def Makes (reading : Except Refusal Reader) (reader : Reader) (choices : List Choice) : Prop :=
  reading >>= settle = reader.settle >>= fun settled => choices.foldlM choose settled

theorem makes_take {value : Option Text.Raw} (h : choice.Fits value) (reader : Reader) :
    Makes (reader.take choice.flag value) reader [choice] := by
  unfold Makes take
  cases hsettled : reader.settle with
  | error refusal => rfl
  | ok settled =>
    show settled.accept choice.flag value >>= settle = [choice].foldlM choose settled
    rw [accept_eq_choose h, List.foldlM_cons]
    cases hchosen : settled.choose choice with
    | error refusal => rfl
    | ok chosen =>
      exact settle_of_pending ((pending_of_choose hchosen).trans (pending_of_settle hsettled))

theorem makes_await (h : choice.IsValue value) (reader : Reader) :
    Makes (reader.await choice.flag >>= (·.plain value)) reader [choice] := by
  unfold Makes await
  cases hsettled : reader.settle with
  | error refusal => rfl
  | ok settled =>
    have hnone : { settled with pending := none } = settled := by
      rw [← pending_of_settle hsettled]
    show Reader.accept { settled with pending := none } choice.flag (some value) =
      [choice].foldlM choose settled
    rw [hnone, accept_eq_choose (.valued h), List.foldlM_cons]
    exact (bind_pure _).symm

theorem Makes.bind {reading : Except Refusal Reader} {next : Reader → Except Refusal Reader}
    (h : Makes reading reader choices) (hnext : ∀ after, Makes (next after) after others) :
    Makes (reading >>= next) reader (choices ++ others) := by
  unfold Makes at h ⊢
  simp only [List.foldlM_append]
  rw [← bind_assoc, ← h]
  cases reading with
  | error refusal => rfl
  | ok after => exact hnext after

/-! ### Reading what is spelled -/

theorem read_plain (h : Word.of word = .plain text) (reader : Reader) :
    reader.read (word :: more) = reader.plain text >>= (·.read more) := by
  rw [read.eq_def]
  simp only [h]

theorem read_cluster (h : Word.of word = .cluster letters) (reader : Reader) :
    reader.read (word :: more) = reader.cluster letters >>= (·.read more) := by
  rw [read.eq_def]
  simp only [h]

theorem read_long {value : Option Text.Raw} (h : Word.of word = .long text value)
    (reader : Reader) :
    reader.read (word :: more) = reader.long text value >>= (·.read more) := by
  rw [read.eq_def]
  simp only [h]

/-- The letter of a flag. -/
theorem cluster_eq (h : flag.letter? = some letter) (reader : Reader) (rest : Text.Raw) :
    reader.cluster (.char letter :: rest) =
      if flag.takesValue then
        if rest.isEmpty then reader.await flag else reader.take flag (some (attached rest))
      else reader.take flag none >>= (·.cluster rest) := by
  rw [cluster, Flag.ofLetter?_eq h]

theorem attached_eq (h : value.head? ≠ some (.char '=')) : attached value = value := by
  cases value with
  | nil => rfl
  | cons c rest =>
    have hc : c ≠ .char '=' := by simpa using h
    rw [attached]
    simp [hc]

/-- A name is that of its flag. -/
theorem named (flag : Flag) :
    (Text.Raw.ofString flag.name).chars? >>= Flag.ofName? = some flag := by
  rw [Text.Raw.chars?_ofString]
  exact flag.ofName?_name

theorem long_bare (h : flag.takesValue = false) (reader : Reader) :
    reader.long (Text.Raw.ofString flag.name) none = reader.take flag none := by
  simp only [long, named, h]

theorem long_apart (h : flag.takesValue = true) (reader : Reader) :
    reader.long (Text.Raw.ofString flag.name) none = reader.await flag := by
  simp only [long, named, h]

theorem long_joined (h : flag.takesValue = true) (reader : Reader) (value : Text.Raw) :
    reader.long (Text.Raw.ofString flag.name) (some value) = reader.take flag (some value) := by
  simp only [long, named, h]

/-- **However a letter spells a choice, reading it makes the choice.** -/
theorem reads_lettered (h : Lettered choice letters words) (reader : Reader) :
    ∃ next, (∀ more, reader.cluster letters >>= (·.read (words ++ more)) = next >>= (·.read more)) ∧
      Makes next reader [choice] := by
  cases h with
  | alone hletter hvalue =>
    refine ⟨reader.take choice.flag none, fun more => ?_, makes_take (.bare hvalue) reader⟩
    rw [cluster_eq hletter, hvalue]
    exact congrArg (· >>= _) (bind_pure _)
  | @apart letter value hletter hvalue hdash =>
    refine ⟨reader.await choice.flag >>= (·.plain value), fun more => ?_, makes_await hvalue reader⟩
    rw [cluster_eq hletter, hvalue.takesValue, bind_assoc]
    show reader.await choice.flag >>= (·.read (value :: more)) = _
    simp only [read_plain (Word.of_plain hdash)]
  | joined hletter hvalue =>
    refine ⟨_, fun more => ?_, makes_take (.valued hvalue) reader⟩
    rw [cluster_eq hletter, hvalue.takesValue]
    rfl
  | @attached letter value hletter hvalue _ hequals =>
    refine ⟨_, fun more => ?_, makes_take (.valued hvalue) reader⟩
    have hempty : value.isEmpty = false := by simpa using hvalue.ne_nil
    rw [cluster_eq hletter, hvalue.takesValue, attached_eq hequals, hempty]
    rfl

/-- **However choices are spelled, reading them makes them.** -/
theorem reads_spelled (h : Spelled choices words) (reader : Reader) :
    ∃ next, (∀ more, reader.read (words ++ more) = next >>= (·.read more)) ∧
      Makes next reader choices := by
  cases h with
  | @long choice hvalue =>
    refine ⟨_, fun more => ?_, makes_take (.bare hvalue) reader⟩
    rw [List.singleton_append, read_long (Word.of_longName choice.flag), long_bare hvalue]
  | @longApart choice value hvalue hdash =>
    refine ⟨_, fun more => ?_, makes_await hvalue reader⟩
    rw [List.cons_append, List.singleton_append, read_long (Word.of_longName choice.flag),
      long_apart hvalue.takesValue, bind_assoc]
    simp only [read_plain (Word.of_plain hdash)]
  | @longJoined choice value hvalue =>
    refine ⟨_, fun more => ?_, makes_take (.valued hvalue) reader⟩
    rw [List.singleton_append, read_long (Word.of_longName_value choice.flag value),
      long_joined hvalue.takesValue]
  | @short choice letters words h =>
    obtain ⟨next, hread, hmakes⟩ := reads_lettered h reader
    refine ⟨next, fun more => ?_, hmakes⟩
    rw [List.cons_append, read_cluster (Word.of_lettered h), hread]
  | @cluster choice letters words h =>
    -- The second letter is read by the reader that has taken the first.
    choose next hread hmakes using fun taken => reads_lettered h taken
    have hbare : Choice.numericNames.Fits none := .bare rfl
    refine ⟨reader.take .numericNames none >>= next, fun more => ?_,
      (makes_take hbare reader).bind hmakes⟩
    have hletter : Flag.numericNames.letter? = some 'n' := rfl
    rw [List.cons_append, read_cluster (Word.of_cluster (by decide) letters), cluster_eq hletter]
    show reader.take .numericNames none >>= (·.cluster letters) >>= _ = _
    rw [bind_assoc, bind_assoc]
    simp only [hread]

/-- **Reading a line is making its choices one by one.** -/
theorem read_spells (h : Spells choices words) (reader : Reader) :
    reader.read words =
      (reader.settle >>= fun settled => choices.foldlM choose settled).map (·.arguments) := by
  induction h generalizing reader with
  | nil =>
    rw [read]
    exact congrArg _ (bind_pure _).symm
  | @cons group choices words more h hmore ih =>
    obtain ⟨next, hread, hmakes⟩ := reads_spelled h reader
    simp only [hread, List.foldlM_append]
    rw [← bind_assoc, ← hmakes]
    cases next with
    | error refusal => rfl
    | ok next => exact ih next

end Reader

theorem Arguments.read_eq_foldlM (h : Spells choices words) :
    Arguments.read words = (choices.foldlM Reader.choose {}).map (·.arguments) :=
  Reader.read_spells h {}

/-- A line in which an option is chosen twice is refused. -/
theorem Arguments.read_repeated (h : Spells choices words)
    (hrepeated : ¬(choices.map Choice.flag).Nodup) :
    ∃ flag, List.Duplicate flag (choices.map Choice.flag) ∧
      Arguments.read words = .error (.repeated flag) := by
  have hnone : ({} : Reader).given.Nodup := List.nodup_nil
  obtain ⟨flag, hflag, hrefused⟩ := Reader.foldlM_choose_repeated hnone hrepeated
  refine ⟨flag, hflag, ?_⟩
  rw [read_eq_foldlM h, hrefused]
  rfl

theorem Arguments.read_eq_gather (h : Spells choices words)
    (honce : (choices.map Choice.flag).Nodup) : Arguments.read words = .ok (gather choices) := by
  have hnew : (({} : Reader).given ++ choices.map Choice.flag).Nodup := honce
  rw [read_eq_foldlM h, Reader.foldlM_choose hnew]
  rfl

theorem Spells.append (h : Spells choices words) (hagain : Spells again more) :
    Spells (choices ++ again) (words ++ more) := by
  induction h with
  | nil => exact hagain
  | cons hgroup _ ih =>
    rw [List.append_assoc, List.append_assoc]
    exact .cons hgroup ih

/-- **However choices are spelled, and in whatever order, they mean the same.** Options chosen once
each are read, and what is read makes these choices and no others; an option that is chosen again
is refused. -/
theorem Arguments.spellings_mean_the_same (hspells : Spells choices words)
    (honce : (choices.map Choice.flag).Nodup) :
    (∃ arguments, Arguments.read words = .ok arguments ∧
      (∀ choice, arguments.Has choice ↔ choice ∈ choices) ∧
      ∀ settings, arguments.apply settings = (choices.foldl Choice.set settings).clamp) ∧
    (∀ others otherWords, others.Perm choices → Spells others otherWords →
      Arguments.read otherWords = Arguments.read words) ∧
    ∀ again more, Spells again more →
      (∃ choice ∈ again, choice.flag ∈ choices.map Choice.flag) →
      ∃ flag, List.Duplicate flag ((choices ++ again).map Choice.flag) ∧
        Arguments.read (words ++ more) = .error (.repeated flag) := by
  refine ⟨⟨gather choices, read_eq_gather hspells honce, fun choice => has_gather honce,
    apply_gather choices⟩, fun others otherWords hperm hothers => ?_,
    fun again more hagain hgiven => ?_⟩
  · have hothersOnce : (others.map Choice.flag).Nodup := (hperm.map _).nodup_iff.2 honce
    rw [read_eq_gather hothers hothersOnce, read_eq_gather hspells honce, gather_perm hperm honce]
  · obtain ⟨choice, hchoice, hgiven⟩ := hgiven
    refine read_repeated (hspells.append hagain) fun honce => ?_
    rw [List.map_append] at honce
    exact (List.nodup_append.1 honce).2.2 _ hgiven _ (List.mem_map_of_mem hchoice) rfl

/-- Two lines that mean the same, and one that repeats an option. -/
theorem Arguments.spellings_of_four_choices :
    (∃ arguments,
      Arguments.read ["-r", "010", "-ni=-x=y", "--async-log-file==log"] = .ok arguments ∧
      ∀ choice, arguments.Has choice ↔
        choice ∈ [Choice.refresh 10, .numericNames, .device "-x=y", .logFile "=log"]) ∧
    Arguments.read ["-a==log", "--refresh=+10", "--device=-x=y", "--no-resolve"] =
      Arguments.read ["-r", "010", "-ni=-x=y", "--async-log-file==log"] ∧
    Arguments.read (["-r", "010", "-ni=-x=y", "--async-log-file==log"] ++ ["-r5"]) =
      .error (.repeated .refresh) := by
  have hzero : IsNumeral 10 "010" :=
    ⟨['0', '1', '0'], _, rfl, .inl rfl, by simp, by simp [Text.Numeral.isDigit], rfl⟩
  have hplus : IsNumeral 10 "+10" :=
    ⟨['+', '1', '0'], _, rfl, .inr rfl, by simp, by simp [Text.Numeral.isDigit], rfl⟩
  have hfive : IsNumeral 5 "5" :=
    ⟨['5'], _, rfl, .inl rfl, by simp, by simp [Text.Numeral.isDigit], rfl⟩
  have hrefresh : Spelled [.refresh 10] ["-r", "010"] :=
    .short (.apart rfl (.refresh (by decide) hzero) (by decide))
  have hcluster : Spelled [.numericNames, .device "-x=y"] ["-ni=-x=y"] :=
    .cluster (.joined rfl (.device (by decide)))
  have hfile : Spelled [.logFile "=log"] ["--async-log-file==log"] :=
    .longJoined (.logFile (by decide))
  have hletter : Spelled [.logFile "=log"] ["-a==log"] :=
    .short (.joined rfl (.logFile (by decide)))
  have hplusTen : Spelled [.refresh 10] ["--refresh=+10"] :=
    .longJoined (.refresh (by decide) hplus)
  have hdevice : Spelled [.device "-x=y"] ["--device=-x=y"] := .longJoined (.device (by decide))
  have hnumeric : Spelled [.numericNames] ["--no-resolve"] := .long rfl
  have hagain : Spelled [.refresh 5] ["-r5"] :=
    .short (.attached rfl (.refresh (by decide) hfive) (by decide) (by decide))
  have hline := Spells.cons hrefresh (.cons hcluster (.cons hfile .nil))
  have hother := Spells.cons hletter (.cons hplusTen (.cons hdevice (.cons hnumeric .nil)))
  obtain ⟨⟨arguments, hread, hhas, -⟩, hsame, hrepeated⟩ :=
    Arguments.spellings_mean_the_same hline (by decide)
  obtain ⟨flag, hflag, hrefused⟩ :=
    hrepeated _ _ (.cons hagain .nil) ⟨.refresh 5, by decide, by decide⟩
  refine ⟨⟨arguments, hread, hhas⟩, hsame _ _ (by decide) hother, ?_⟩
  obtain rfl : flag = .refresh := by
    rw [List.duplicate_iff_two_le_count] at hflag
    revert hflag
    cases flag <;> decide
  exact hrefused

end Flowmeter.CommandLine
