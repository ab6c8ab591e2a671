import Flowmeter.Proofs.Address.KernelForm
import Flowmeter.Proofs.Text.Columns

/-! What is read of a line of a socket table.

`Fits` says what the layout of a row asks of a line, in terms of the characters of its columns;
`columns?` finds out (`columns?_eq_some_iff`). A line that does not fit is no row, whatever stands
where an address should be. A line that fits is a row if both its addresses are fields, and is
refused for the first that is not (`lines_are_classified`). The lines that the kernel prints are
rows, and nothing of what they tell is lost (`read_printed`). -/
namespace Flowmeter.SocketRow

open Text (Spaced isBlank words words_append_blank words_eq_singleton)

/-! ### The layout -/

/-- A row number: digits and a colon. -/
def IsSlot (column : List Char) : Prop :=
  ∃ digits, digits ≠ [] ∧ (∀ c ∈ digits, Text.Numeral.isDigit c = true) ∧ column = digits ++ [':']

/-- An endpoint: what stands in front of the first colon, and a port in hexadecimal behind it. -/
def IsEndpoint (column address : List Char) (port : UInt16) : Prop :=
  ':' ∉ address ∧ ∃ digits, column = address ++ ':' :: digits ∧ digits ≠ [] ∧
    (∀ c ∈ digits, Text.Hex.isDigit c = true) ∧ Text.Hex.value digits = port.toNat

/-- A number of 64 bits in decimal, perhaps with a plus sign. -/
def IsInode (column : List Char) (inode : UInt64) : Prop :=
  ∃ digits, Text.Numeral.Signed column digits ∧ digits ≠ [] ∧
    (∀ c ∈ digits, Text.Numeral.isDigit c = true) ∧
    Nat.ofDigitChars 10 digits 0 = inode.toNat

/-- The line has ten columns or more, and these are the first three and the tenth. -/
def Tabular (line slot localEnd remoteEnd inode : List Char) : Prop :=
  ∃ between rest : List (List Char), between.length = 6 ∧
    Spaced line (slot :: localEnd :: remoteEnd :: (between ++ inode :: rest))

/-- The line has the layout of a row, and these are the columns that are read of it. -/
def Fits (line : List Char) (columns : Columns) : Prop :=
  ∃ slot localEnd remoteEnd inode, Tabular line slot localEnd remoteEnd inode ∧ IsSlot slot ∧
    IsEndpoint localEnd columns.localAddress columns.localPort ∧
    IsEndpoint remoteEnd columns.remoteAddress columns.remotePort ∧ IsInode inode columns.inode

theorem isSlot_iff {column : List Char} : isSlot column = true ↔ IsSlot column := by
  simp only [isSlot, Bool.and_eq_true, beq_iff_eq, Bool.not_eq_true', List.isEmpty_eq_false_iff,
    List.all_eq_true]
  constructor
  · rintro ⟨⟨hlast, hne⟩, hdigits⟩
    exact ⟨column.dropLast, hne, hdigits, (List.dropLast_append_getLast? ':' hlast).symm⟩
  · rintro ⟨digits, hne, hdigits, rfl⟩
    rw [List.dropLast_concat]
    exact ⟨⟨List.getLast?_concat, hne⟩, hdigits⟩

theorem endpoint?_eq_some_iff {column address : List Char} {port : UInt16} :
    endpoint? column = some (address, port) ↔ IsEndpoint column address port := by
  unfold endpoint?
  simp only [bind, Option.bind_eq_some_iff, Prod.exists, Text.splitFirst?_eq_some_iff,
    Text.Hex.number?_eq_some_iff]
  constructor
  · rintro ⟨front, digits, ⟨hcolon, rfl⟩, n, ⟨hne, hdigits, rfl⟩, hport⟩
    split at hport
    · next hsmall =>
      obtain ⟨rfl, rfl⟩ := Prod.mk.inj (Option.some.inj hport)
      exact ⟨hcolon, digits, rfl, hne, hdigits, (UInt16.toNat_ofNat_of_lt' hsmall).symm⟩
    · cases hport
  · rintro ⟨hcolon, digits, rfl, hne, hdigits, hvalue⟩
    refine ⟨address, digits, ⟨hcolon, rfl⟩, port.toNat, ⟨hne, hdigits, hvalue⟩, ?_⟩
    rw [if_pos port.toNat_lt, UInt16.ofNat_toNat]

theorem word_eq_some_iff {column : List Char} {inode : UInt64} :
    (Text.Numeral.word column).toOption = some inode ↔ IsInode column inode := by
  rw [IsInode, ← Text.Numeral.word_eq_ok_iff]
  cases Text.Numeral.word column with
  | error fault => exact ⟨nofun, nofun⟩
  | ok number => rw [Except.ok.injEq, Except.toOption, Option.some.injEq]

/-- Of a line with ten columns or more, four are looked at. -/
theorem columns?_of_tabular {line slot localEnd remoteEnd inode : List Char}
    (h : Tabular line slot localEnd remoteEnd inode) :
    columns? line = if isSlot slot then do
      let (localAddress, localPort) ← endpoint? localEnd
      let (remoteAddress, remotePort) ← endpoint? remoteEnd
      let inode ← (Text.Numeral.word inode).toOption
      return { localAddress, localPort, remoteAddress, remotePort, inode }
    else none := by
  obtain ⟨between, rest, hlength, hline⟩ := h
  obtain ⟨a, b, c, d, e, f, rfl⟩ : ∃ a b c d e f, between = [a, b, c, d, e, f] := by
    match between, hlength with
    | [a, b, c, d, e, f], _ => exact ⟨a, b, c, d, e, f, rfl⟩
  rw [columns?, hline.words_eq]
  rfl

theorem exists_tabular {line : List Char} {columns : Columns} (h : columns? line = some columns) :
    ∃ slot localEnd remoteEnd inode, Tabular line slot localEnd remoteEnd inode := by
  unfold columns? at h
  split at h
  · next slot localEnd remoteEnd a b c d e f inode rest hwords =>
    exact ⟨slot, localEnd, remoteEnd, inode, [a, b, c, d, e, f], rest, rfl,
      Text.words_eq_iff.1 hwords⟩
  · cases h

/-- **The columns are found if and only if the line has the layout of a row.** -/
theorem columns?_eq_some_iff {line : List Char} {columns : Columns} :
    columns? line = some columns ↔ Fits line columns := by
  have hread {slot localEnd remoteEnd inode : List Char}
      (h : Tabular line slot localEnd remoteEnd inode) :
      columns? line = some columns ↔ IsSlot slot ∧
        IsEndpoint localEnd columns.localAddress columns.localPort ∧
        IsEndpoint remoteEnd columns.remoteAddress columns.remotePort ∧
        IsInode inode columns.inode := by
    rw [columns?_of_tabular h, ← isSlot_iff, ← endpoint?_eq_some_iff, ← endpoint?_eq_some_iff,
      ← word_eq_some_iff]
    simp only [bind, Option.ite_none_right_eq_some, Option.bind_eq_some_iff, Prod.exists, pure,
      Option.some.injEq]
    refine and_congr_right fun _ => ?_
    constructor
    · rintro ⟨_, _, hlocal, _, _, hremote, _, hinode, rfl⟩
      exact ⟨hlocal, hremote, hinode⟩
    · rintro ⟨hlocal, hremote, hinode⟩
      exact ⟨_, _, hlocal, _, _, hremote, _, hinode, rfl⟩
  constructor
  · intro h
    obtain ⟨slot, localEnd, remoteEnd, inode, hline⟩ := exists_tabular h
    exact ⟨slot, localEnd, remoteEnd, inode, hline, (hread hline).1 h⟩
  · rintro ⟨slot, localEnd, remoteEnd, inode, hline, hcolumns⟩
    exact (hread hline).2 hcolumns

/-! ### Rows and refusals -/

/-- The first of the two addresses that is not eight or thirty-two digits. -/
def FirstMalformed (columns : Columns) (field : List Char) : Prop :=
  (¬Address.IsField columns.localAddress ∧ field = columns.localAddress) ∨
    (Address.IsField columns.localAddress ∧ ¬Address.IsField columns.remoteAddress ∧
      field = columns.remoteAddress)

/-- The columns tell of the row: its addresses are printed in them, in digits of either case. -/
structure Tells (columns : Columns) (row : SocketRow) : Prop where
  localAddress : columns.localAddress.map Char.toUpper = row.localAddress.printed
  localPort : columns.localPort = row.localPort
  remoteAddress : columns.remoteAddress.map Char.toUpper = row.remoteAddress.printed
  remotePort : columns.remotePort = row.remotePort
  inode : columns.inode = row.inode

theorem FirstMalformed.unique {columns : Columns} {a b : List Char} (ha : FirstMalformed columns a)
    (hb : FirstMalformed columns b) : a = b := by
  rcases ha with ⟨hnot, rfl⟩ | ⟨hfield, -, rfl⟩
  · rcases hb with ⟨-, rfl⟩ | ⟨hfield, -⟩
    · rfl
    · exact absurd hfield hnot
  · rcases hb with ⟨hnot, -⟩ | ⟨-, -, rfl⟩
    · exact absurd hfield hnot
    · rfl

namespace Tells

variable {columns : Columns} {row : SocketRow}

theorem unique (h : Tells columns row) {other : SocketRow} (hother : Tells columns other) :
    row = other := by
  have hsame {field : List Char} {a b : Address} (ha : field.map Char.toUpper = a.printed)
      (hb : field.map Char.toUpper = b.printed) : a = b :=
    Except.ok.inj ((Address.address_eq_ok_iff_printed.2 ha).symm.trans
      (Address.address_eq_ok_iff_printed.2 hb))
  cases row
  cases other
  simp only [SocketRow.mk.injEq]
  exact ⟨hsame h.localAddress hother.localAddress, h.localPort.symm.trans hother.localPort,
    hsame h.remoteAddress hother.remoteAddress, h.remotePort.symm.trans hother.remotePort,
    h.inode.symm.trans hother.inode⟩

theorem not_firstMalformed (h : Tells columns row) (field : List Char) :
    ¬FirstMalformed columns field := by
  have hfield {field : List Char} {address : Address}
      (hprinted : field.map Char.toUpper = address.printed) : Address.IsField field :=
    Address.exists_ofKernelForm?_iff.1 ⟨address, Address.ofKernelForm?_eq_some_iff.2 hprinted⟩
  rintro (⟨hnot, -⟩ | ⟨-, hnot, -⟩)
  · exact hnot (hfield h.localAddress)
  · exact hnot (hfield h.remoteAddress)

end Tells

/-- A field is read or refused. -/
theorem address_cases (field : List Char) :
    (∃ found, address field = .ok found ∧ Address.IsField field) ∨
      (address field = .error (.invalidAddress (String.ofList field)) ∧
        ¬Address.IsField field) := by
  cases h : address field with
  | ok found =>
    have hread := Address.address_eq_ok_iff.1 h
    exact .inl ⟨found, rfl, Address.exists_ofKernelForm?_iff.1 ⟨found, hread⟩⟩
  | error fault =>
    obtain ⟨hfield, rfl⟩ := Address.address_eq_error_iff.1 h
    exact .inr ⟨rfl, hfield⟩

theorem read_of_fits {line : List Char} {columns : Columns} (h : Fits line columns) :
    read line = do
      let localAddress ← address columns.localAddress
      let remoteAddress ← address columns.remoteAddress
      return some ⟨localAddress, columns.localPort, remoteAddress, columns.remotePort,
        columns.inode⟩ := by
  rw [read, columns?_eq_some_iff.2 h]

/-- A line with the layout of a row is a row or is refused. -/
theorem read_cases {line : List Char} {columns : Columns} (h : Fits line columns) :
    (∃ row, read line = .ok (some row) ∧ Tells columns row) ∨
      ∃ field, read line = .error (.invalidAddress (String.ofList field)) ∧
        FirstMalformed columns field := by
  rw [read_of_fits h]
  rcases address_cases columns.localAddress with ⟨found, hlocal, hfirst⟩ | ⟨hlocal, hfirst⟩
  · rcases address_cases columns.remoteAddress with ⟨other, hremote, -⟩ | ⟨hremote, hsecond⟩
    · refine .inl ⟨⟨found, columns.localPort, other, columns.remotePort, columns.inode⟩, ?_,
        Address.address_eq_ok_iff_printed.1 hlocal, rfl,
        Address.address_eq_ok_iff_printed.1 hremote, rfl, rfl⟩
      rw [hlocal, hremote]
      rfl
    · refine .inr ⟨columns.remoteAddress, ?_, .inr ⟨hfirst, hsecond, rfl⟩⟩
      rw [hlocal, hremote]
      rfl
  · refine .inr ⟨columns.localAddress, ?_, .inl ⟨hfirst, rfl⟩⟩
    rw [hlocal]
    rfl

/-- **A line that does not fit is no row, and only such a line.** -/
theorem read_eq_none_iff {line : List Char} :
    read line = .ok none ↔ ∀ columns, ¬Fits line columns := by
  constructor
  · intro h columns hfits
    rcases read_cases hfits with ⟨row, hrow, -⟩ | ⟨field, hrefused, -⟩
    · rw [hrow] at h
      cases h
    · rw [hrefused] at h
      cases h
  · intro h
    have hnone : columns? line = none :=
      Option.eq_none_iff_forall_ne_some.2 fun columns hcolumns =>
        h columns (columns?_eq_some_iff.1 hcolumns)
    rw [read, hnone]

theorem exists_fits {line : List Char} (h : read line ≠ .ok none) :
    ∃ columns, Fits line columns := by
  by_contra hnone
  exact h (read_eq_none_iff.2 (not_exists.1 hnone))

/-- **A line that fits is refused for the first of its addresses that is malformed.** -/
theorem read_eq_error_iff {line : List Char} {fault : InventoryError} :
    read line = .error fault ↔
      ∃ columns field, Fits line columns ∧ FirstMalformed columns field ∧
        fault = .invalidAddress (String.ofList field) := by
  constructor
  · intro h
    obtain ⟨columns, hfits⟩ := exists_fits (by rw [h]; nofun)
    rcases read_cases hfits with ⟨row, hrow, -⟩ | ⟨field, hrefused, hfield⟩
    · rw [hrow] at h
      cases h
    · exact ⟨columns, field, hfits, hfield, Except.error.inj (h.symm.trans hrefused)⟩
  · rintro ⟨columns, field, hfits, hfield, rfl⟩
    rcases read_cases hfits with ⟨row, -, htells⟩ | ⟨other, hrefused, hother⟩
    · exact absurd hfield (htells.not_firstMalformed field)
    · rw [hrefused, hfield.unique hother]

/-- **A line that fits is a row if its columns tell of it.** -/
theorem read_eq_row_iff {line : List Char} {row : SocketRow} :
    read line = .ok (some row) ↔ ∃ columns, Fits line columns ∧ Tells columns row := by
  constructor
  · intro h
    obtain ⟨columns, hfits⟩ := exists_fits (by rw [h]; nofun)
    rcases read_cases hfits with ⟨found, hfound, htells⟩ | ⟨field, hrefused, -⟩
    · obtain rfl := Option.some.inj (Except.ok.inj (h.symm.trans hfound))
      exact ⟨columns, hfits, htells⟩
    · rw [hrefused] at h
      cases h
  · rintro ⟨columns, hfits, htells⟩
    rcases read_cases hfits with ⟨found, hfound, hother⟩ | ⟨field, -, hfield⟩
    · rw [hfound, htells.unique hother]
    · exact absurd hfield (htells.not_firstMalformed field)

/-- **Only the first three columns and the tenth matter.** -/
theorem read_eq_of_tabular {line other slot localEnd remoteEnd inode : List Char}
    (hline : Tabular line slot localEnd remoteEnd inode)
    (hother : Tabular other slot localEnd remoteEnd inode) : read line = read other := by
  have hcolumns : columns? line = columns? other :=
    (columns?_of_tabular hline).trans (columns?_of_tabular hother).symm
  rw [read, read, hcolumns]

/-! ### Printed rows -/

theorem isBlank_of_isDigit {c : Char} (h : Text.Hex.isDigit c = true) : isBlank c = false := by
  have hall : ∀ n < 128, Text.Hex.isDigit (Char.ofNat n) = true →
      isBlank (Char.ofNat n) = false := by decide
  have hc := hall c.toNat (Text.Hex.toNat_lt_of_isDigit h)
  rw [Char.ofNat_toNat] at hc
  exact hc h

/-- Digits and colons are the characters of one word. -/
theorem words_eq_column {column : List Char} (hne : column ≠ [])
    (hcolumn : ∀ c ∈ column, Text.Hex.isDigit c = true ∨ c = ':') : words column = [column] := by
  refine words_eq_singleton hne fun c hc => ?_
  rcases hcolumn c hc with hdigit | rfl
  · exact isBlank_of_isDigit hdigit
  · decide

/-- A row number as the kernel prints it. -/
def slotForm (slot : Nat) : List Char := Nat.toDigits 10 slot ++ [':']

theorem isSlot_slotForm (slot : Nat) : IsSlot (slotForm slot) :=
  ⟨Nat.toDigits 10 slot, Nat.toDigits_ne_nil, fun _ => Text.Numeral.isDigit_of_mem_toDigits, rfl⟩

theorem isInode_toDigits (inode : UInt64) : IsInode (Nat.toDigits 10 inode.toNat) inode :=
  ⟨_, .inl rfl, Nat.toDigits_ne_nil, fun _ => Text.Numeral.isDigit_of_mem_toDigits,
    Nat.ofDigitChars_toDigits (by decide) (by decide)⟩

theorem isDigit_of_mem_kernelForm {address : Address} {c : Char} (h : c ∈ address.kernelForm) :
    Text.Hex.isDigit c = true :=
  (Address.exists_ofKernelForm?_iff.1 ⟨address, Address.ofKernelForm?_kernelForm address⟩).2 c h

theorem toList_endpointForm (address : Address) (port : UInt16) :
    (endpointForm address port).toList =
      address.kernelForm ++ ':' :: (Text.Hex.padded 4 port.toNat).toList := by
  rw [endpointForm, String.toList_append, String.toList_append, String.toList_ofList,
    List.append_assoc]
  rfl

theorem isEndpoint_endpointForm (address : Address) (port : UInt16) :
    IsEndpoint (endpointForm address port).toList address.kernelForm port := by
  refine ⟨fun h => ?_, _, toList_endpointForm address port,
    Text.Hex.number?_eq_some_iff.1 (Text.Hex.number?_padded 4 port.toNat)⟩
  exact absurd (isDigit_of_mem_kernelForm h) (by decide)

/-- A line with the columns of a row as the kernel prints them is read as that row. -/
theorem read_printed {line : List Char} {slot : Nat} {row : SocketRow}
    (h : Tabular line (slotForm slot) (endpointForm row.localAddress row.localPort).toList
      (endpointForm row.remoteAddress row.remotePort).toList
      (Nat.toDigits 10 row.inode.toNat)) : read line = .ok (some row) := by
  refine read_eq_row_iff.2 ⟨⟨row.localAddress.kernelForm, row.localPort,
    row.remoteAddress.kernelForm, row.remotePort, row.inode⟩, ?_, ?_⟩
  · exact ⟨_, _, _, _, h, isSlot_slotForm slot, isEndpoint_endpointForm _ _,
      isEndpoint_endpointForm _ _, isInode_toDigits row.inode⟩
  · have hprinted (address : Address) : address.kernelForm.map Char.toUpper = address.printed :=
      Address.ofKernelForm?_eq_some_iff.1 (Address.ofKernelForm?_kernelForm address)
    exact ⟨hprinted _, rfl, hprinted _, rfl, rfl⟩

theorem toList_kernelLine (slot : Nat) (row : SocketRow) :
    (kernelLine slot row).toList =
      List.replicate (4 - (toString slot).length) ' ' ++ (slotForm slot ++ ' ' ::
        ((endpointForm row.localAddress row.localPort).toList ++ ' ' ::
        ((endpointForm row.remoteAddress row.remotePort).toList ++ ' ' ::
        ("0A 00000000:00000000 00:00000000 00000000     0        0".toList ++ ' ' ::
        (Nat.toDigits 10 row.inode.toNat ++ ' ' ::
        "1 0000000000000000 100 0 0 10 0".toList))))) := by
  rw [kernelLine, slotForm, ← Text.Numeral.toList_toString, ← Text.Numeral.toList_toString]
  simp only [String.toList_append, String.toList_ofList, List.append_assoc]
  rfl

theorem words_slotForm (slot : Nat) : words (slotForm slot) = [slotForm slot] := by
  refine words_eq_column (by simp [slotForm]) fun c hc => ?_
  rcases List.mem_append.1 hc with hc | hc
  · exact .inl (Text.Hex.isDigit_of_decimal (Text.Numeral.isDigit_of_mem_toDigits hc))
  · exact .inr (List.mem_singleton.1 hc)

theorem words_endpointForm (address : Address) (port : UInt16) :
    words (endpointForm address port).toList = [(endpointForm address port).toList] := by
  obtain ⟨-, digits, hform, -, hdigits, -⟩ := isEndpoint_endpointForm address port
  rw [hform]
  refine words_eq_column (by simp) fun c hc => ?_
  rcases List.mem_append.1 hc with hc | hc
  · exact .inl (isDigit_of_mem_kernelForm hc)
  · rcases List.mem_cons.1 hc with rfl | hc
    · exact .inr rfl
    · exact .inl (hdigits c hc)

theorem words_toDigits (n : Nat) : words (Nat.toDigits 10 n) = [Nat.toDigits 10 n] :=
  words_eq_column Nat.toDigits_ne_nil fun _ hc =>
    .inl (Text.Hex.isDigit_of_decimal (Text.Numeral.isDigit_of_mem_toDigits hc))

theorem tabular_kernelLine (slot : Nat) (row : SocketRow) :
    Tabular (kernelLine slot row).toList (slotForm slot)
      (endpointForm row.localAddress row.localPort).toList
      (endpointForm row.remoteAddress row.remotePort).toList
      (Nat.toDigits 10 row.inode.toNat) := by
  have hblank : isBlank ' ' = true := by decide
  have hpad (count : Nat) : ∀ c ∈ List.replicate count ' ', isBlank c = true := by
    intro c hc
    rw [List.eq_of_mem_replicate hc, hblank]
  refine ⟨words "0A 00000000:00000000 00:00000000 00000000     0        0".toList,
    words "1 0000000000000000 100 0 0 10 0".toList, by decide, Text.words_eq_iff.1 ?_⟩
  rw [toList_kernelLine, Text.words_blanks_append (hpad _), words_append_blank hblank,
    words_append_blank hblank, words_append_blank hblank, words_append_blank hblank,
    words_append_blank hblank, words_slotForm, words_endpointForm, words_endpointForm,
    words_toDigits]
  simp only [List.singleton_append]

/-- **Lines are classified by their layout.** A line without the layout of a row is no row, even
if its addresses are malformed; a line with the layout is refused for the first address that is
not a field, and otherwise is the row that its columns tell of. The fourth to the ninth column
and those past the tenth do not matter, and a row that the kernel prints is read back. -/
theorem lines_are_classified (line : List Char) :
    (read line = .ok none ↔ ∀ columns, ¬Fits line columns) ∧
    (∀ fault, read line = .error fault ↔ ∃ columns field, Fits line columns ∧
      FirstMalformed columns field ∧ fault = .invalidAddress (String.ofList field)) ∧
    (∀ row, read line = .ok (some row) ↔ ∃ columns, Fits line columns ∧ Tells columns row) ∧
    (∀ other slot localEnd remoteEnd inode, Tabular line slot localEnd remoteEnd inode →
      Tabular other slot localEnd remoteEnd inode → read line = read other) ∧
    ∀ slot row, read (kernelLine slot row).toList = .ok (some row) ∧
      (Tabular line (slotForm slot) (endpointForm row.localAddress row.localPort).toList
        (endpointForm row.remoteAddress row.remotePort).toList
        (Nat.toDigits 10 row.inode.toNat) → read line = .ok (some row)) :=
  ⟨read_eq_none_iff, fun _ => read_eq_error_iff, fun _ => read_eq_row_iff,
    fun _ _ _ _ _ => read_eq_of_tabular,
    fun slot row => ⟨read_printed (tabular_kernelLine slot row), read_printed⟩⟩

section Bare

/-- A socket bound to a port of the loopback address. -/
def bound : SocketRow := ⟨.quad 127 0 0 1, 53, .quad 0 0 0 0, 0, 15850⟩

/-- Its row without what nobody reads. -/
def bareLine : List Char := "0: 0100007F:0035 00000000:0000 - - - - - - 15850".toList

theorem tabular_bareLine :
    Tabular bareLine (slotForm 0) (endpointForm bound.localAddress bound.localPort).toList
      (endpointForm bound.remoteAddress bound.remotePort).toList
      (Nat.toDigits 10 bound.inode.toNat) :=
  ⟨List.replicate 6 ['-'], [], rfl, Text.words_eq_iff.1 (by decide)⟩

theorem bareLine_is_classified :
    read bareLine = .ok (some bound) ∧ read bareLine = read (kernelLine 0 bound).toList := by
  obtain ⟨-, -, -, hfree, hprinted⟩ := lines_are_classified bareLine
  exact ⟨(hprinted 0 bound).2 tabular_bareLine,
    hfree _ _ _ _ _ tabular_bareLine (tabular_kernelLine 0 bound)⟩

end Bare

end Flowmeter.SocketRow
