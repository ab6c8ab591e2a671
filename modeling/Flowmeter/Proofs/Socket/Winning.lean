import Mathlib.Data.List.Permutation
import Flowmeter.Inventory.Basic
import Flowmeter.Proofs.Fallible

/-! Which rows of the socket tables count.

A row of a table wins if it is the first with its local port (`Source.Wins`); of the winning rows
with one inode the last one gives the endpoint, in the order in which the tables are scanned
(`LinePlace.Before`). The winning rows of a source can be listed in this order, and the map of
endpoints is filled from this list (`exists_winners`). Whatever does not win can be taken out
(`endpoints_of_drops`). -/
namespace Flowmeter

/-! ### Fillings -/

/-- What stands at a position of the result comes of what stood there. -/
theorem getElem?_of_forall₂ {α β : Type} {R : α → β → Prop} {xs : List α} {ys : List β}
    (h : List.Forall₂ R xs ys) (i : Nat) :
    (xs[i]? = none ∧ ys[i]? = none) ∨ ∃ x y, xs[i]? = some x ∧ ys[i]? = some y ∧ R x y := by
  induction h generalizing i with
  | nil => exact .inl ⟨rfl, rfl⟩
  | cons hxy _ ih =>
    cases i with
    | zero => exact .inr ⟨_, _, rfl, rfl, hxy⟩
    | succ i => exact ih i

/-- Of entries that are filled in one after another, the last one of a key stands. -/
theorem OrderedMap.find?_ofList_map {α κ ν : Type} [Ranked κ] [DecidableEq κ] {f : α → κ × ν}
    {before : α → α → Prop} (hasymm : ∀ a b, before a b → ¬before b a) {items : List α}
    (h : items.Pairwise before) {key : κ} {value : ν} :
    (ofList (items.map f)).find? key = some value ↔
      ∃ item ∈ items, f item = (key, value) ∧
        ∀ later ∈ items, before item later → (f later).1 ≠ key := by
  induction items using List.reverseRecOn with
  | nil => simp [ofList]
  | append_singleton items last ih =>
    obtain ⟨hitems, -, hlast⟩ := List.pairwise_append.1 h
    have hlast {item : α} (hitem : item ∈ items) : before item last :=
      hlast item hitem last (List.mem_singleton_self _)
    have hfill : ofList ((items ++ [last]).map f) =
        (ofList (items.map f)).insert (f last).1 (f last).2 := by
      simp [ofList, List.foldl_append]
    rw [hfill, find?_insert]
    simp only [List.mem_append, List.mem_singleton]
    split
    · next hkey =>
      constructor
      · intro hvalue
        refine ⟨last, .inr rfl, Prod.ext hkey (Option.some.inj hvalue), ?_⟩
        rintro later (hlater | rfl) hbefore
        · exact absurd hbefore (hasymm _ _ (hlast hlater))
        · exact absurd hbefore (hasymm _ _ hbefore)
      · rintro ⟨item, hitem | rfl, hentry, hlater⟩
        · exact absurd hkey (hlater last (.inr rfl) (hlast hitem))
        · rw [hentry]
    · next hkey =>
      rw [ih hitems]
      constructor
      · rintro ⟨item, hitem, hentry, hlater⟩
        refine ⟨item, .inl hitem, hentry, ?_⟩
        rintro later (hmem | rfl) hbefore
        · exact hlater later hmem hbefore
        · exact hkey
      · rintro ⟨item, hitem | rfl, hentry, hlater⟩
        · exact ⟨item, hitem, hentry, fun later hmem => hlater later (.inl hmem)⟩
        · exact absurd (congrArg Prod.fst hentry) hkey

/-- A key is filled in if some entry has it. -/
theorem OrderedMap.contains_ofList {κ ν : Type} [Ranked κ] [DecidableEq κ]
    {entries : List (κ × ν)} {key : κ} :
    (ofList entries).contains key = true ↔ ∃ entry ∈ entries, entry.1 = key := by
  induction entries using List.reverseRecOn with
  | nil => simp [ofList, contains, find?_empty]
  | append_singleton entries last ih =>
    have hfill : ofList (entries ++ [last]) = (ofList entries).insert last.1 last.2 := by
      simp [ofList, List.foldl_append]
    rw [hfill, contains, find?_insert]
    split
    · next hkey => exact ⟨fun _ => ⟨last, by simp, hkey⟩, fun _ => rfl⟩
    · next hkey =>
      rw [← contains, ih]
      simp [hkey]

namespace SocketRow

/-! ### The first row of each port -/

theorem firstPerPort_congr {taken other : List UInt16} (h : ∀ port, port ∈ taken ↔ port ∈ other)
    (rows : List SocketRow) : firstPerPort taken rows = firstPerPort other rows := by
  induction rows generalizing taken other with
  | nil => rfl
  | cons row rest ih =>
    have hrest : ∀ port, port ∈ row.localPort :: taken ↔ port ∈ row.localPort :: other := by
      intro port
      rw [List.mem_cons, List.mem_cons, h]
    have hcontains : taken.contains row.localPort = other.contains row.localPort := by
      rw [Bool.eq_iff_iff, List.contains_iff_mem, List.contains_iff_mem, h]
    rw [firstPerPort, firstPerPort, hcontains, ih h, ih hrest]

/-- What comes later finds the ports of all that came before taken, whether it won or not. -/
theorem firstPerPort_append (taken : List UInt16) (front back : List SocketRow) :
    firstPerPort taken (front ++ back) =
      firstPerPort taken front ++ firstPerPort (front.map (·.localPort) ++ taken) back := by
  induction front generalizing taken with
  | nil => rfl
  | cons row rest ih =>
    rw [List.cons_append, firstPerPort, firstPerPort]
    split
    · next htaken =>
      rw [ih]
      refine congrArg _ (firstPerPort_congr (fun port => ?_) back)
      have hport : row.localPort ∈ taken := List.contains_iff_mem.1 htaken
      simp only [List.map_cons, List.cons_append, List.mem_cons, List.mem_append]
      constructor
      · exact .inr
      · rintro (rfl | h)
        · exact .inr hport
        · exact h
    · rw [ih, List.cons_append]
      refine congrArg _ (congrArg _ (firstPerPort_congr (fun port => ?_) back))
      simp only [List.map_cons, List.cons_append, List.mem_cons, List.mem_append]
      exact or_left_comm

theorem contains_localPort {rows : List SocketRow} {port : UInt16} :
    (rows.map (·.localPort)).contains port = true ↔ ∃ row ∈ rows, row.localPort = port := by
  rw [List.contains_iff_mem, List.mem_map]

/-- A row at the end comes in if its port is free. -/
theorem firstPerPort_concat (rows : List SocketRow) (row : SocketRow) :
    firstPerPort [] (rows ++ [row]) = firstPerPort [] rows ++
      if (rows.map (·.localPort)).contains row.localPort then [] else [row] := by
  rw [firstPerPort_append, List.append_nil]
  rfl

/-- A row whose port is taken changes nothing for the others. -/
theorem firstPerPort_append_taken {front back : List SocketRow} {row : SocketRow}
    (h : ∃ other ∈ front, other.localPort = row.localPort) :
    firstPerPort [] (front ++ row :: back) = firstPerPort [] (front ++ back) := by
  rw [firstPerPort_append, firstPerPort_append, List.append_nil, firstPerPort,
    if_pos (contains_localPort.2 h)]

/-- Among what is read of a table's lines, the row at this line is the first with its port. -/
def WinsAt (reads : List (Option SocketRow)) (line : Nat) (row : SocketRow) : Prop :=
  reads[line]? = some (some row) ∧ ∀ earlier other, earlier < line →
    reads[earlier]? = some (some other) → other.localPort ≠ row.localPort

theorem winsAt_concat {reads : List (Option SocketRow)} {read : Option SocketRow} {line : Nat}
    {row : SocketRow} :
    WinsAt (reads ++ [read]) line row ↔ WinsAt reads line row ∨
      (line = reads.length ∧ read = some row ∧
        ∀ other ∈ reads.filterMap id, other.localPort ≠ row.localPort) := by
  have hread (i : Nat) {found : Option SocketRow} : (reads ++ [read])[i]? = some found ↔
      reads[i]? = some found ∨ i = reads.length ∧ read = found := by
    rcases Nat.lt_trichotomy i reads.length with hlt | rfl | hgt
    · simp [List.getElem?_append_left hlt, Nat.ne_of_lt hlt]
    · simp
    · have hnone : reads[i]? = none := List.getElem?_eq_none (Nat.le_of_lt hgt)
      have hpast : (reads ++ [read])[i]? = none :=
        List.getElem?_eq_none (by rw [List.length_append]; exact hgt)
      simp [hnone, hpast, Nat.ne_of_gt hgt]
  have hrows {other : SocketRow} : other ∈ reads.filterMap id ↔
      ∃ i : Nat, reads[i]? = some (some other) := by
    rw [← List.mem_iff_getElem?]
    simp
  unfold WinsAt
  constructor
  · rintro ⟨hrow, hfirst⟩
    rcases (hread line).1 hrow with hold | ⟨rfl, rfl⟩
    · exact .inl ⟨hold, fun earlier other hlt hother =>
        hfirst earlier other hlt ((hread earlier).2 (.inl hother))⟩
    · refine .inr ⟨rfl, rfl, fun other hother => ?_⟩
      obtain ⟨earlier, hearlier⟩ := hrows.1 hother
      exact hfirst earlier other (List.getElem?_eq_some_iff.1 hearlier).1
        ((hread earlier).2 (.inl hearlier))
  · rintro (⟨hrow, hfirst⟩ | ⟨rfl, rfl, hfirst⟩)
    · refine ⟨(hread line).2 (.inl hrow), fun earlier other hlt hother => ?_⟩
      have hline := (List.getElem?_eq_some_iff.1 hrow).1
      rcases (hread earlier).1 hother with hold | ⟨rfl, -⟩
      · exact hfirst earlier other hlt hold
      · omega
    · refine ⟨(hread _).2 (.inr ⟨rfl, rfl⟩), fun earlier other hlt hother => ?_⟩
      rcases (hread earlier).1 hother with hold | ⟨rfl, -⟩
      · exact hfirst other (hrows.2 ⟨earlier, hold⟩)
      · omega

/-- The rows that win can be listed with their lines. -/
theorem exists_winners (reads : List (Option SocketRow)) :
    ∃ winners : List (Nat × SocketRow),
      winners.map Prod.snd = firstPerPort [] (reads.filterMap id) ∧
      winners.Pairwise (·.1 < ·.1) ∧ ∀ line row, (line, row) ∈ winners ↔ WinsAt reads line row := by
  induction reads using List.reverseRecOn with
  | nil => exact ⟨[], rfl, .nil, fun line row => by simp [WinsAt]⟩
  | append_singleton reads read ih =>
    obtain ⟨winners, hrows, hsorted, hmem⟩ := ih
    simp only [winsAt_concat, List.filterMap_append]
    cases read with
    | none =>
      refine ⟨winners, ?_, hsorted, fun line row => by simp [hmem]⟩
      rw [hrows]
      exact congrArg _ (List.append_nil _).symm
    | some row =>
      have hconcat : firstPerPort [] (reads.filterMap id ++ [some row].filterMap id) = _ :=
        firstPerPort_concat (reads.filterMap id) row
      by_cases htaken : ∃ other ∈ reads.filterMap id, other.localPort = row.localPort
      · rw [if_pos (contains_localPort.2 htaken), List.append_nil] at hconcat
        obtain ⟨other, hother, hport⟩ := htaken
        refine ⟨winners, hrows.trans hconcat.symm, hsorted, fun line second => ?_⟩
        rw [hmem, iff_self_or]
        rintro ⟨-, hread, hfirst⟩
        obtain rfl := Option.some.inj hread
        exact absurd hport (hfirst other hother)
      · rw [if_neg (mt contains_localPort.1 htaken)] at hconcat
        have hfirst : ∀ other ∈ reads.filterMap id, other.localPort ≠ row.localPort :=
          fun other hother hport => htaken ⟨other, hother, hport⟩
        refine ⟨winners ++ [(reads.length, row)], ?_, ?_, fun line second => ?_⟩
        · rw [hconcat, List.map_append, hrows]
          rfl
        · refine List.pairwise_append.2 ⟨hsorted, List.pairwise_singleton .., ?_⟩
          rintro ⟨line, other⟩ hother last hlast
          obtain rfl := List.mem_singleton.1 hlast
          exact (List.getElem?_eq_some_iff.1 ((hmem line other).1 hother).1).1
        · rw [List.mem_append, hmem, List.mem_singleton, Prod.mk.injEq, Option.some.injEq]
          refine or_congr_right ⟨?_, ?_⟩
          · rintro ⟨rfl, rfl⟩
            exact ⟨rfl, rfl, hfirst⟩
          · rintro ⟨rfl, rfl, -⟩
            exact ⟨rfl, rfl⟩

theorem firstPerPort_eraseIdx {reads : List (Option SocketRow)} {line : Nat}
    (h : ∀ row, ¬WinsAt reads line row) :
    firstPerPort [] ((reads.eraseIdx line).filterMap id) =
      firstPerPort [] (reads.filterMap id) := by
  rcases Nat.lt_or_ge line reads.length with hline | hline
  · have hsplit : reads = reads.take line ++ reads[line] :: reads.drop (line + 1) := by
      rw [← List.drop_eq_getElem_cons hline, List.take_append_drop]
    rw [List.eraseIdx_eq_take_drop_succ, List.filterMap_append]
    conv_rhs => rw [hsplit, List.filterMap_append]
    cases hread : reads[line] with
    | none => rfl
    | some row =>
      refine (firstPerPort_append_taken ?_).symm
      by_contra hfree
      have hrow : reads[line]? = some (some row) := List.getElem?_eq_some_iff.2 ⟨hline, hread⟩
      refine h row ⟨hrow, fun earlier other hlt hother hport => ?_⟩
      have hbefore : (reads.take line)[earlier]? = some (some other) := by
        rw [List.getElem?_take_of_lt hlt, hother]
      have hmem := List.mem_of_getElem? hbefore
      exact hfree ⟨other, List.mem_filterMap.2 ⟨some other, hmem, rfl⟩, hport⟩
  · rw [List.eraseIdx_of_length_le hline]

end SocketRow

/-! ### Tables -/

namespace SocketTable

theorem mem_all (table : SocketTable) : table ∈ all := by
  cases table <;> decide

/-- When a table is scanned: those of IPv4 come first, of each family that of TCP. -/
def turn : SocketTable → Nat
  | tcp => 0
  | udp => 1
  | tcp6 => 2
  | udp6 => 3

theorem turn_eq_idxOf (table : SocketTable) : table.turn = all.idxOf table := by
  cases table <;> rfl

/-- The table is of sockets of the protocol. -/
def Lists (table : SocketTable) : Protocol → Prop
  | .tcp => table = tcp ∨ table = tcp6
  | .udp => table = udp ∨ table = udp6

theorem lists_iff {table : SocketTable} {protocol : Protocol} :
    table.Lists protocol ↔ table.protocol = protocol := by
  cases table <;> cases protocol <;> simp [Lists, SocketTable.protocol]

end SocketTable

/-! ### Winning rows of a source -/

/-- A line of a socket table. -/
structure LinePlace where
  table : SocketTable
  line : Nat

namespace LinePlace

/-- The tables are scanned one after the other, and each line by line. -/
def Before (a b : LinePlace) : Prop :=
  a.table.turn < b.table.turn ∨ a.table = b.table ∧ a.line < b.line

theorem Before.asymm {a b : LinePlace} (h : a.Before b) : ¬b.Before a := by
  rintro (hback | ⟨hsame, hback⟩)
  · rcases h with h | ⟨hsame, -⟩
    · omega
    · rw [hsame] at hback
      omega
  · rcases h with h | ⟨-, h⟩
    · rw [hsame] at h
      omega
    · omega

end LinePlace

namespace Source

variable (source : Source)

/-- The lines of a table; none if it cannot be read. -/
def lines (table : SocketTable) : List (List Char) :=
  match source.table table with
  | none => []
  | some text => Text.lines text.toList

/-- The line at the place is a row. -/
def Accepts (place : LinePlace) (row : SocketRow) : Prop :=
  ∃ line, (source.lines place.table)[place.line]? = some line ∧
    SocketRow.read line = .ok (some row)

/-- The line at the place is the first row of its table with its local port. -/
def Wins (place : LinePlace) (row : SocketRow) : Prop :=
  source.Accepts place row ∧ ∀ earlier other, earlier < place.line →
    source.Accepts ⟨place.table, earlier⟩ other → other.localPort ≠ row.localPort

variable {source} in
/-- A table has one winning row for each port. -/
theorem Wins.unique {place other : LinePlace} {row second : SocketRow} (h : source.Wins place row)
    (hsecond : source.Wins other second) (htable : place.table = other.table)
    (hport : row.localPort = second.localPort) : row = second := by
  obtain ⟨table, line⟩ := place
  obtain ⟨_, otherLine⟩ := other
  obtain rfl : table = _ := htable
  rcases Nat.lt_trichotomy line otherLine with hlt | rfl | hgt
  · exact absurd hport (hsecond.2 line row hlt h.1)
  · obtain ⟨⟨text, hline, hread⟩, -⟩ := h
    obtain ⟨⟨text', hline', hread'⟩, -⟩ := hsecond
    obtain rfl := Option.some.inj (hline.symm.trans hline')
    exact Option.some.inj (Except.ok.inj (hread.symm.trans hread'))
  · exact absurd hport.symm (h.2 otherLine second hgt hsecond.1)

/-- The lines of a table are read as this. -/
def Reads (table : SocketTable) (reads : List (Option SocketRow)) : Prop :=
  List.Forall₂ (fun line read => SocketRow.read line = .ok read) (source.lines table) reads

/-- What a row says of its inode. -/
def binding (table : SocketTable) (row : SocketRow) : UInt64 × Endpoint :=
  (row.inode, ⟨row.localAddress, row.localPort, table.protocol⟩)

/-- The tables are their lines. -/
theorem bindings_eq (table : SocketTable) :
    source.bindings table = ((source.lines table).mapM SocketRow.read).map fun reads =>
      (SocketRow.firstPerPort [] (reads.filterMap id)).map (binding table) := by
  unfold bindings lines
  cases source.table table with
  | none => rfl
  | some text =>
    simp only [SocketRow.readAll]
    cases (Text.lines text.toList).mapM SocketRow.read <;> rfl

variable {source}

theorem bindings_eq_ok_iff {table : SocketTable} {entries : List (UInt64 × Endpoint)} :
    source.bindings table = .ok entries ↔ ∃ reads, source.Reads table reads ∧
      (SocketRow.firstPerPort [] (reads.filterMap id)).map (binding table) = entries := by
  simp only [bindings_eq, Reads, ← mapM_eq_ok_iff, map_eq_ok_iff]

theorem accepts_iff {place : LinePlace} {row : SocketRow} {reads : List (Option SocketRow)}
    (h : source.Reads place.table reads) :
    source.Accepts place row ↔ reads[place.line]? = some (some row) := by
  unfold Accepts
  rcases getElem?_of_forall₂ h place.line with ⟨hline, hread⟩ | ⟨line, read, hline, hread, h⟩
  · simp [hline, hread]
  · simp [hline, hread, h]

theorem wins_iff {place : LinePlace} {row : SocketRow} {reads : List (Option SocketRow)}
    (h : source.Reads place.table reads) :
    source.Wins place row ↔ SocketRow.WinsAt reads place.line row := by
  have hearlier (line : Nat) {other : SocketRow} :
      source.Accepts ⟨place.table, line⟩ other ↔ reads[line]? = some (some other) := accepts_iff h
  simp only [Wins, SocketRow.WinsAt, accepts_iff h, hearlier]

/-- The winning rows of tables in scan order can be listed in this order, and they are what the
tables bind. -/
theorem exists_winners {tables : List SocketTable}
    (htables : tables.Pairwise fun a b => a.turn < b.turn)
    {entries : List (List (UInt64 × Endpoint))} (h : tables.mapM source.bindings = .ok entries) :
    ∃ winners : List (LinePlace × SocketRow),
      entries.flatten = winners.map (fun winner => binding winner.1.table winner.2) ∧
      winners.Pairwise (fun a b => a.1.Before b.1) ∧
      ∀ place row, (place, row) ∈ winners ↔ place.table ∈ tables ∧ source.Wins place row := by
  rw [mapM_eq_ok_iff] at h
  induction h with
  | nil => exact ⟨[], rfl, .nil, by simp⟩
  | @cons table first tables rest hfirst _ ih =>
    obtain ⟨hahead, htables⟩ := List.pairwise_cons.1 htables
    obtain ⟨later, hentries, hsorted, hmem⟩ := ih htables
    obtain ⟨reads, hreads, rfl⟩ := bindings_eq_ok_iff.1 hfirst
    obtain ⟨winners, hrows, hlines, hwinners⟩ := SocketRow.exists_winners reads
    refine ⟨winners.map (Prod.map (LinePlace.mk table) id) ++ later, ?_,
      List.pairwise_append.2 ⟨?_, hsorted, ?_⟩, fun place row => ?_⟩
    · rw [List.flatten_cons, hentries, ← hrows, List.map_append, List.map_map, List.map_map]
      rfl
    · exact List.pairwise_map.2 (hlines.imp fun hlt => .inr ⟨rfl, hlt⟩)
    · intro a ha b hb
      obtain ⟨winner, -, rfl⟩ := List.mem_map.1 ha
      exact .inl (hahead b.1.table ((hmem b.1 b.2).1 hb).1)
    · rw [List.mem_append, hmem, List.mem_cons, or_and_right]
      refine or_congr_left ⟨?_, ?_⟩
      · intro h
        obtain ⟨⟨line, other⟩, hwinner, hlabel⟩ := List.mem_map.1 h
        obtain ⟨rfl, rfl⟩ := Prod.mk.inj hlabel
        exact ⟨rfl, (wins_iff hreads).2 ((hwinners line other).1 hwinner)⟩
      · rintro ⟨rfl, hwins⟩
        exact List.mem_map.2 ⟨(place.line, row),
          (hwinners place.line row).2 ((wins_iff hreads).1 hwins), rfl⟩

theorem endpoints_eq_ok_iff {known : OrderedMap UInt64 Endpoint} :
    source.endpoints = .ok known ↔ ∃ entries, SocketTable.all.mapM source.bindings = .ok entries ∧
      OrderedMap.ofList entries.flatten = known := by
  rw [← map_eq_ok_iff]
  unfold endpoints
  cases SocketTable.all.mapM source.bindings <;> rfl

/-- If the endpoints are found, every line of every table has been read. -/
theorem exists_reads {known : OrderedMap UInt64 Endpoint} (h : source.endpoints = .ok known)
    (table : SocketTable) : ∃ reads, source.Reads table reads := by
  obtain ⟨entries, hentries, -⟩ := endpoints_eq_ok_iff.1 h
  obtain ⟨bound, hbound⟩ := exists_mapM_eq_ok_iff.1 ⟨entries, hentries⟩ table table.mem_all
  obtain ⟨reads, hreads, -⟩ := bindings_eq_ok_iff.1 hbound
  exact ⟨reads, hreads⟩

/-- **The endpoints are found unless a line is refused.** -/
theorem exists_endpoints_iff :
    (∃ known, source.endpoints = .ok known) ↔
      ∀ table, ∀ line ∈ source.lines table, ∃ read, SocketRow.read line = .ok read := by
  constructor
  · rintro ⟨known, h⟩ table
    obtain ⟨reads, hreads⟩ := exists_reads h table
    exact exists_mapM_eq_ok_iff.1 ⟨reads, mapM_eq_ok_iff.2 hreads⟩
  · intro h
    have hbound : ∀ table ∈ SocketTable.all, ∃ entries, source.bindings table = .ok entries := by
      intro table _
      obtain ⟨reads, hreads⟩ := exists_mapM_eq_ok_iff.2 (h table)
      exact ⟨_, bindings_eq_ok_iff.2 ⟨reads, mapM_eq_ok_iff.1 hreads, rfl⟩⟩
    obtain ⟨entries, hentries⟩ := exists_mapM_eq_ok_iff.2 hbound
    exact ⟨_, endpoints_eq_ok_iff.2 ⟨entries, hentries, rfl⟩⟩

theorem exists_all_winners {known : OrderedMap UInt64 Endpoint} (h : source.endpoints = .ok known) :
    ∃ winners : List (LinePlace × SocketRow),
      known = OrderedMap.ofList (winners.map fun winner => binding winner.1.table winner.2) ∧
      winners.Pairwise (fun a b => a.1.Before b.1) ∧
      ∀ place row, (place, row) ∈ winners ↔ source.Wins place row := by
  obtain ⟨entries, hentries, rfl⟩ := endpoints_eq_ok_iff.1 h
  obtain ⟨winners, hflat, hsorted, hmem⟩ := exists_winners (by decide) hentries
  refine ⟨winners, by rw [hflat], hsorted, fun place row => ?_⟩
  rw [hmem, and_iff_right place.table.mem_all]

/-- **The last winning row of an inode gives its endpoint.** -/
theorem find?_eq_some_iff {known : OrderedMap UInt64 Endpoint} (h : source.endpoints = .ok known)
    {inode : UInt64} {endpoint : Endpoint} :
    known.find? inode = some endpoint ↔ ∃ place row, source.Wins place row ∧
      binding place.table row = (inode, endpoint) ∧ ∀ later other, source.Wins later other →
        place.Before later → other.inode ≠ inode := by
  obtain ⟨winners, rfl, hsorted, hmem⟩ := exists_all_winners h
  rw [OrderedMap.find?_ofList_map (fun _ _ hbefore => hbefore.asymm) hsorted]
  simp only [Prod.exists, Prod.forall, hmem]
  rfl

theorem contains_iff {known : OrderedMap UInt64 Endpoint} (h : source.endpoints = .ok known)
    {inode : UInt64} :
    known.contains inode = true ↔ ∃ place row, source.Wins place row ∧ row.inode = inode := by
  obtain ⟨winners, rfl, -, hmem⟩ := exists_all_winners h
  rw [OrderedMap.contains_ofList]
  constructor
  · rintro ⟨entry, hentry, rfl⟩
    obtain ⟨⟨place, row⟩, hwinner, rfl⟩ := List.mem_map.1 hentry
    exact ⟨place, row, (hmem place row).1 hwinner, rfl⟩
  · rintro ⟨place, row, hwins, rfl⟩
    exact ⟨_, List.mem_map.2 ⟨(place, row), (hmem place row).2 hwins, rfl⟩, rfl⟩

/-! ### What has no influence -/

theorem endpoints_eq_of_bindings {other : Source}
    (h : ∀ table, other.bindings table = source.bindings table) :
    other.endpoints = source.endpoints := by
  rw [endpoints, endpoints, funext h]

/-- The other source lacks the line at the place, and has all the other lines. -/
def Drops (source other : Source) (place : LinePlace) : Prop :=
  other.lines place.table = (source.lines place.table).eraseIdx place.line ∧
    ∀ table, table ≠ place.table → other.lines table = source.lines table

/-- **A line that does not win can be dropped.** -/
theorem endpoints_of_drops {other : Source} {known : OrderedMap UInt64 Endpoint} {place : LinePlace}
    (h : source.endpoints = .ok known) (hdrops : source.Drops other place)
    (hidle : ∀ row, ¬source.Wins place row) : other.endpoints = .ok known := by
  obtain ⟨herased, hkept⟩ := hdrops
  rw [← h]
  refine endpoints_eq_of_bindings fun table => ?_
  by_cases htable : table = place.table
  · subst htable
    obtain ⟨reads, hreads⟩ := exists_reads h place.table
    have hothers : other.Reads place.table (reads.eraseIdx place.line) := by
      rw [Reads, herased, List.eraseIdx_eq_take_drop_succ, List.eraseIdx_eq_take_drop_succ]
      exact List.rel_append (List.forall₂_take _ hreads) (List.forall₂_drop _ hreads)
    have hwins : ∀ row, ¬SocketRow.WinsAt reads place.line row := fun row hrow =>
      hidle row ((wins_iff hreads).2 hrow)
    rw [bindings_eq_ok_iff.2 ⟨reads, hreads, rfl⟩, bindings_eq_ok_iff.2 ⟨_, hothers, rfl⟩,
      SocketRow.firstPerPort_eraseIdx hwins]
  · rw [bindings_eq, bindings_eq, hkept table htable]

/-- A table that cannot be read counts as one without rows. -/
theorem endpoints_of_unreadable {other : Source}
    (h : ∀ table, other.table table = source.table table ∨
      source.table table = none ∧ ∀ line ∈ other.lines table, SocketRow.read line = .ok none) :
    other.endpoints = source.endpoints := by
  refine endpoints_eq_of_bindings fun table => ?_
  rcases h table with hsame | ⟨hnone, hrows⟩
  · rw [bindings, bindings, hsame]
  · have hreads : other.Reads table ((other.lines table).map fun _ => none) :=
      List.forall₂_map_right_iff.2 (List.forall₂_same.2 hrows)
    have hnothing :
        ((other.lines table).map fun _ => (none : Option SocketRow)).filterMap id = [] := by simp
    rw [bindings_eq_ok_iff.2 ⟨_, hreads, rfl⟩, hnothing, bindings, hnone]
    rfl

/-- Who wins in a table is up to that table. -/
theorem wins_congr {other : Source} {place : LinePlace}
    (h : other.table place.table = source.table place.table) {row : SocketRow} :
    other.Wins place row ↔ source.Wins place row := by
  have hlines : other.lines place.table = source.lines place.table := by rw [lines, lines, h]
  rw [Wins, Wins, Accepts, Accepts, hlines]
  simp only [Accepts, hlines]

/-- **The endpoints are those of the last winning rows.** They are found if no line of a table is
refused. An inode has an endpoint if some winning row has the inode, and the endpoint is that of
the last such row in scan order, of the protocol of its table. Lines that do not win can be dropped one by one, tables that
cannot be read count as tables without rows, and who wins in a table depends on no other. -/
theorem endpoints_are_last_winners (source : Source) :
    ((∃ known, source.endpoints = .ok known) ↔
      ∀ table, ∀ line ∈ source.lines table, ∃ read, SocketRow.read line = .ok read) ∧
    (∀ known, source.endpoints = .ok known →
      (∀ inode, known.contains inode = true ↔
        ∃ place row, source.Wins place row ∧ row.inode = inode) ∧
      (∀ inode endpoint, known.find? inode = some endpoint ↔
        ∃ place row, source.Wins place row ∧ row.inode = inode ∧
          endpoint.address = row.localAddress ∧ endpoint.port = row.localPort ∧
          place.table.Lists endpoint.protocol ∧
          ∀ later other, source.Wins later other → place.Before later → other.inode ≠ inode) ∧
      ∀ other place, source.Drops other place → (∀ row, ¬source.Wins place row) →
        other.endpoints = .ok known) ∧
    (∀ other : Source, (∀ table, other.table table = source.table table ∨
        source.table table = none ∧ ∀ line ∈ other.lines table, SocketRow.read line = .ok none) →
      other.endpoints = source.endpoints) ∧
    ∀ (other : Source) (place : LinePlace), other.table place.table = source.table place.table →
      ∀ row, other.Wins place row ↔ source.Wins place row := by
  refine ⟨exists_endpoints_iff, fun known h => ⟨fun inode => contains_iff h,
    fun inode endpoint => ?_, fun other place => endpoints_of_drops h⟩,
    fun other => endpoints_of_unreadable, fun other place h row => wins_congr h⟩
  have hendpoint (place : LinePlace) (row : SocketRow) :
      (⟨row.localAddress, row.localPort, place.table.protocol⟩ : Endpoint) = endpoint ↔
        endpoint.address = row.localAddress ∧ endpoint.port = row.localPort ∧
          place.table.Lists endpoint.protocol := by
    rw [SocketTable.lists_iff]
    cases endpoint
    simp only [Endpoint.mk.injEq, @eq_comm _ row.localAddress, @eq_comm _ row.localPort]
  simp only [find?_eq_some_iff h, binding, Prod.mk.injEq, hendpoint, and_assoc]

section Repeated

/-- Two rows with one port, and one inode in two tables. -/
def repeated : Source where
  table
    | .tcp => some (
        "0: 0100007F:0050 00000000:0000 0 0 0 0 0 0 7\n" ++
        "1: 00000000:0050 00000000:0000 0 0 0 0 0 0 8\n")
    | .udp => some "0: 00000000:0035 00000000:0000 0 0 0 0 0 0 7\n"
    | _ => none
  pids := .ok []
  inodes _ := none
  command _ := none

/-- The same without the row that loses. -/
def single : Source :=
  { repeated with
    table
      | .tcp => some "0: 0100007F:0050 00000000:0000 0 0 0 0 0 0 7\n"
      | table => repeated.table table }

/-- The same with a heading where a table was missing. -/
def headed : Source :=
  { repeated with
    table
      | .tcp6 => some SocketRow.heading
      | table => repeated.table table }

def repeatedEndpoints : OrderedMap UInt64 Endpoint := .ofList [(7, ⟨.quad 0 0 0 0, 53, .udp⟩)]

theorem endpoints_repeated : repeated.endpoints = .ok repeatedEndpoints := by cbv

theorem drops_repeated : repeated.Drops single ⟨.tcp, 1⟩ := by
  refine ⟨by cbv, fun table htable => ?_⟩
  cases table with
  | tcp => exact absurd rfl htable
  | udp => rfl
  | tcp6 => rfl
  | udp6 => rfl

theorem not_wins_repeated (row : SocketRow) : ¬repeated.Wins ⟨.tcp, 1⟩ row := by
  have hreads : repeated.Reads .tcp [some ⟨.quad 127 0 0 1, 80, .quad 0 0 0 0, 0, 7⟩,
      some ⟨.quad 0 0 0 0, 80, .quad 0 0 0 0, 0, 8⟩, none] := mapM_eq_ok_iff.1 (by cbv)
  rw [@wins_iff repeated ⟨.tcp, 1⟩ row _ hreads]
  rintro ⟨hrow, hfirst⟩
  obtain rfl := Option.some.inj (Option.some.inj hrow)
  exact hfirst 0 _ (by decide) rfl rfl

theorem headed_alike (table : SocketTable) : headed.table table = repeated.table table ∨
    repeated.table table = none ∧ ∀ line ∈ headed.lines table, SocketRow.read line = .ok none := by
  cases table with
  | tcp => exact .inl rfl
  | udp => exact .inl rfl
  | tcp6 =>
    have hlines : headed.lines .tcp6 = [SocketRow.heading.toList] := by cbv
    have hread : SocketRow.read SocketRow.heading.toList = .ok none := by cbv
    exact .inr ⟨rfl, hlines ▸ List.forall_mem_singleton.2 hread⟩
  | udp6 => exact .inl rfl

theorem endpoints_of_repeated_rows :
    repeated.endpoints = .ok repeatedEndpoints ∧
    single.endpoints = .ok repeatedEndpoints ∧ headed.endpoints = .ok repeatedEndpoints ∧
    (∃ place row, repeated.Wins place row ∧ row.inode = 7) ∧
    ∀ row, single.Wins ⟨.udp, 0⟩ row ↔ repeated.Wins ⟨.udp, 0⟩ row := by
  obtain ⟨-, hknown, hunreadable, htable⟩ := endpoints_are_last_winners repeated
  obtain ⟨hcontains, -, hdrop⟩ := hknown repeatedEndpoints endpoints_repeated
  exact ⟨endpoints_repeated, hdrop single ⟨.tcp, 1⟩ drops_repeated not_wins_repeated,
    (hunreadable headed headed_alike).trans endpoints_repeated, (hcontains 7).1 (by cbv),
    htable single ⟨.udp, 0⟩ rfl⟩

end Repeated

end Source

end Flowmeter
