import Flowmeter.Proofs.Socket.Layout
import Flowmeter.Proofs.Socket.Winning

/-! What makes the building of an inventory fail.

A line of a socket table is refused if it has the layout of a row and an address that is
malformed. The first refused line in scan order decides (`Source.RefusesFirst`), whether or not
the port of its row is taken; only if no line is refused does the list of processes have a say
(`builds_fail_for_first_fault`). Nothing else that cannot be read makes a difference
(`build_eq_error_congr`). -/
namespace Flowmeter

theorem SocketTable.getElem?_all {table : SocketTable} {i : Nat} :
    SocketTable.all[i]? = some table ↔ table.turn = i := by
  rw [SocketTable.turn_eq_idxOf]
  constructor
  · intro h
    obtain ⟨hi, rfl⟩ := List.getElem?_eq_some_iff.1 h
    exact List.Nodup.idxOf_getElem (by decide) i hi
  · rintro rfl
    exact List.getElem?_idxOf table.mem_all

namespace Source

variable (source : Source)

/-! ### Refused lines -/

/-- The line at the place has the layout of a row, and `field` is the first of its addresses
that is malformed. -/
def Refuses (place : LinePlace) (field : List Char) : Prop :=
  ∃ line columns, (source.lines place.table)[place.line]? = some line ∧
    SocketRow.Fits line columns ∧ SocketRow.FirstMalformed columns field

/-- The line at the place is the first in scan order that is refused. -/
def RefusesFirst (place : LinePlace) (field : List Char) : Prop :=
  source.Refuses place field ∧ ∀ earlier other, source.Refuses earlier other → ¬earlier.Before place

variable {source}

theorem refuses_iff {place : LinePlace} {field : List Char} :
    source.Refuses place field ↔ ∃ line, (source.lines place.table)[place.line]? = some line ∧
      SocketRow.read line = .error (.invalidAddress (String.ofList field)) := by
  constructor
  · rintro ⟨line, columns, hline, hfits, hfield⟩
    exact ⟨line, hline, SocketRow.read_eq_error_iff.2 ⟨columns, field, hfits, hfield, rfl⟩⟩
  · rintro ⟨line, hline, hread⟩
    obtain ⟨columns, other, hfits, hfield, hfault⟩ := SocketRow.read_eq_error_iff.1 hread
    obtain rfl : field = other := String.ofList_injective (InventoryError.invalidAddress.inj hfault)
    exact ⟨line, columns, hline, hfits, hfield⟩

/-- A line is read or refused. -/
theorem read_or_refuses {place : LinePlace} {line : List Char}
    (h : (source.lines place.table)[place.line]? = some line) :
    (∃ read, SocketRow.read line = .ok read) ∨ ∃ field, source.Refuses place field := by
  cases hread : SocketRow.read line with
  | ok read => exact .inl ⟨read, rfl⟩
  | error fault =>
    obtain ⟨columns, field, hfits, hfield, -⟩ := SocketRow.read_eq_error_iff.1 hread
    exact .inr ⟨field, line, columns, h, hfits, hfield⟩

theorem not_refuses_of_read {place : LinePlace} {line : List Char} {read : Option SocketRow}
    (hline : (source.lines place.table)[place.line]? = some line)
    (hread : SocketRow.read line = .ok read) (field : List Char) : ¬source.Refuses place field := by
  intro hrefuses
  obtain ⟨other, hother, hfault⟩ := refuses_iff.1 hrefuses
  obtain rfl := Option.some.inj (hline.symm.trans hother)
  cases hread.symm.trans hfault

/-- The rows of a table fail with its first refused line. -/
theorem bindings_eq_error_iff {table : SocketTable} {fault : InventoryError} :
    source.bindings table = .error fault ↔ ∃ line field, source.Refuses ⟨table, line⟩ field ∧
      (∀ earlier other, source.Refuses ⟨table, earlier⟩ other → ¬earlier < line) ∧
      fault = .invalidAddress (String.ofList field) := by
  rw [bindings_eq, map_eq_error_iff, mapM_eq_error_iff]
  constructor
  · rintro ⟨i, line, hline, hfault, hbefore⟩
    obtain ⟨columns, field, hfits, hfield, rfl⟩ := SocketRow.read_eq_error_iff.1 hfault
    refine ⟨i, field, ⟨line, columns, hline, hfits, hfield⟩, fun earlier other hother hlt => ?_,
      rfl⟩
    obtain ⟨text, columns', htext, -⟩ := id hother
    obtain ⟨read, hread⟩ := hbefore earlier text hlt htext
    exact not_refuses_of_read htext hread other hother
  · rintro ⟨i, field, hrefuses, hfirst, rfl⟩
    obtain ⟨line, hline, hread⟩ := refuses_iff.1 hrefuses
    refine ⟨i, line, hline, hread, fun j text hlt htext => ?_⟩
    rcases @read_or_refuses source ⟨table, j⟩ text htext with hok | ⟨other, hother⟩
    · exact hok
    · exact absurd hlt (hfirst j other hother)

theorem exists_bindings_iff {table : SocketTable} :
    (∃ entries, source.bindings table = .ok entries) ↔
      ∀ line field, ¬source.Refuses ⟨table, line⟩ field := by
  constructor
  · rintro ⟨entries, h⟩ line field hrefuses
    obtain ⟨reads, hreads, -⟩ := bindings_eq_ok_iff.1 h
    obtain ⟨text, hline, hfault⟩ := refuses_iff.1 hrefuses
    obtain ⟨read, hread⟩ := exists_mapM_eq_ok_iff.1 ⟨reads, mapM_eq_ok_iff.2 hreads⟩ text
      (List.mem_of_getElem? hline)
    cases hread.symm.trans hfault
  · intro h
    cases hbound : source.bindings table with
    | ok entries => exact ⟨entries, rfl⟩
    | error fault =>
      obtain ⟨line, field, hrefuses, -⟩ := bindings_eq_error_iff.1 hbound
      exact absurd hrefuses (h line field)

theorem endpoints_eq :
    source.endpoints = (SocketTable.all.mapM source.bindings).map fun entries =>
      OrderedMap.ofList entries.flatten := by
  unfold endpoints
  cases SocketTable.all.mapM source.bindings <;> rfl

/-- **The endpoints are not found if a line is refused**, and the first one says why. -/
theorem endpoints_eq_error_iff {fault : InventoryError} :
    source.endpoints = .error fault ↔ ∃ place field, source.RefusesFirst place field ∧
      fault = .invalidAddress (String.ofList field) := by
  rw [endpoints_eq, map_eq_error_iff, mapM_eq_error_iff]
  constructor
  · rintro ⟨i, table, htable, hfault, hbefore⟩
    obtain ⟨line, field, hrefuses, hfirst, rfl⟩ := bindings_eq_error_iff.1 hfault
    refine ⟨⟨table, line⟩, field, ⟨hrefuses, fun earlier other hother hlt => ?_⟩, rfl⟩
    obtain rfl := SocketTable.getElem?_all.1 htable
    rcases hlt with hlt | ⟨hsame, hlt⟩
    · have hbound := hbefore _ earlier.table hlt (SocketTable.getElem?_all.2 rfl)
      exact exists_bindings_iff.1 hbound earlier.line other hother
    · obtain ⟨_, line'⟩ := earlier
      obtain rfl : _ = table := hsame
      exact hfirst line' other hother hlt
  · rintro ⟨⟨table, line⟩, field, ⟨hrefuses, hfirst⟩, rfl⟩
    refine ⟨_, table, SocketTable.getElem?_all.2 rfl, bindings_eq_error_iff.2
      ⟨line, field, hrefuses, fun earlier other hother hlt => ?_, rfl⟩,
      fun j other hj hother => ?_⟩
    · exact hfirst ⟨table, earlier⟩ other hother (.inr ⟨rfl, hlt⟩)
    · obtain rfl := SocketTable.getElem?_all.1 hother
      exact exists_bindings_iff.2 fun earlier field' hrefused =>
        hfirst ⟨other, earlier⟩ field' hrefused (.inl hj)

theorem exists_known_iff :
    (∃ known, source.endpoints = .ok known) ↔ ∀ place field, ¬source.Refuses place field := by
  constructor
  · intro hknown place field hrefuses
    obtain ⟨line, hline, hfault⟩ := refuses_iff.1 hrefuses
    obtain ⟨read, hread⟩ := exists_endpoints_iff.1 hknown place.table line
      (List.mem_of_getElem? hline)
    cases hread.symm.trans hfault
  · intro h
    refine exists_ok_iff.2 fun fault hfault => ?_
    obtain ⟨place, field, ⟨hrefuses, -⟩, -⟩ := endpoints_eq_error_iff.1 hfault
    exact h place field hrefuses

/-- If a line is refused, one is refused first. -/
theorem exists_refusesFirst {place : LinePlace} {field : List Char}
    (h : source.Refuses place field) : ∃ first other, source.RefusesFirst first other := by
  have hnone : ¬∃ known, source.endpoints = .ok known := fun hknown =>
    exists_known_iff.1 hknown place field h
  simp only [exists_ok_iff, ne_eq, not_forall, not_not] at hnone
  obtain ⟨fault, hfault⟩ := hnone
  obtain ⟨first, other, hfirst, -⟩ := endpoints_eq_error_iff.1 hfault
  exact ⟨first, other, hfirst⟩

/-! ### What has a say -/

/-- The lines of a table that have the layout of a row. -/
def rowLines (source : Source) (table : SocketTable) : List (List Char) :=
  (source.lines table).filter fun line => (SocketRow.columns? line).isSome

/-- The two sources agree on what can stop an inventory: on the lines that have the layout of a
row, and on whether the processes can be listed. -/
structure SharesFaults (source other : Source) : Prop where
  rows : ∀ table, other.rowLines table = source.rowLines table
  pids : ∀ fault, other.pids = .error fault ↔ source.pids = .error fault

theorem bindings_eq_error_iff_rowLines {table : SocketTable} {fault : InventoryError} :
    source.bindings table = .error fault ↔
      (source.rowLines table).mapM SocketRow.read = .error fault := by
  have hskipped : ∀ line, (SocketRow.columns? line).isSome = false →
      ∃ read, SocketRow.read line = .ok read := by
    intro line hline
    rw [Option.isSome_eq_false_iff, Option.isNone_iff_eq_none] at hline
    exact ⟨none, by rw [SocketRow.read, hline]⟩
  rw [rowLines, mapM_filter_eq_error_iff hskipped, bindings_eq, map_eq_error_iff]

theorem exists_refuses_iff : (∃ place field, source.Refuses place field) ↔
    ∃ table, ∃ line ∈ source.lines table, ∃ columns, SocketRow.Fits line columns ∧
      (¬Address.IsField columns.localAddress ∨ ¬Address.IsField columns.remoteAddress) := by
  constructor
  · rintro ⟨place, field, line, columns, hline, hfits, hfield⟩
    refine ⟨place.table, line, List.mem_of_getElem? hline, columns, hfits, ?_⟩
    rcases hfield with ⟨hlocal, -⟩ | ⟨-, hremote, -⟩
    · exact .inl hlocal
    · exact .inr hremote
  · rintro ⟨table, line, hmem, columns, hfits, hmalformed⟩
    obtain ⟨i, hline⟩ := List.mem_iff_getElem?.1 hmem
    by_cases hlocal : Address.IsField columns.localAddress
    · exact ⟨⟨table, i⟩, columns.remoteAddress, line, columns, hline, hfits,
        .inr ⟨hlocal, hmalformed.resolve_left (not_not_intro hlocal), rfl⟩⟩
    · exact ⟨⟨table, i⟩, columns.localAddress, line, columns, hline, hfits, .inl ⟨hlocal, rfl⟩⟩

theorem SharesFaults.endpoints {source other : Source} (h : source.SharesFaults other)
    (fault : InventoryError) :
    other.endpoints = .error fault ↔ source.endpoints = .error fault := by
  rw [endpoints_eq, endpoints_eq, map_eq_error_iff, map_eq_error_iff]
  refine mapM_eq_error_congr fun table refused => ?_
  rw [bindings_eq_error_iff_rowLines, bindings_eq_error_iff_rowLines, h.rows]

end Source

namespace Inventory

theorem build_eq_error_iff_endpoints {source : Source} {fault : InventoryError} :
    build source = .error fault ↔ source.endpoints = .error fault ∨
      (∃ known, source.endpoints = .ok known) ∧ source.pids = .error fault := by
  unfold build
  cases source.endpoints with
  | error refused => simp [bind, Except.bind]
  | ok known => cases source.pids <;> simp [bind, Except.bind, pure, Except.pure]

theorem build_eq_error_iff {source : Source} {fault : InventoryError} :
    build source = .error fault ↔
      (∃ place field, source.RefusesFirst place field ∧
        fault = .invalidAddress (String.ofList field)) ∨
      (∀ place field, ¬source.Refuses place field) ∧ source.pids = .error fault := by
  rw [build_eq_error_iff_endpoints, Source.endpoints_eq_error_iff, Source.exists_known_iff]

/-- Sources that share what can stop an inventory are stopped alike. -/
theorem build_eq_error_congr {source other : Source} (h : source.SharesFaults other)
    (fault : InventoryError) : build other = .error fault ↔ build source = .error fault := by
  simp only [build_eq_error_iff_endpoints, exists_ok_iff, ne_eq, h.endpoints, h.pids]

/-- **An inventory fails for the first malformed address, else for the list of processes.** It
cannot be built if and only if a line of a table has the layout of a row and a malformed address,
or the processes cannot be listed. In the first case the error names the first malformed address
in scan order, of a line the local one first; neither the port of its row nor the list of
processes matters. Only in the second case is the error that of the list. Sources with the same
lines of that layout, whose processes can be listed or not alike, fail alike, whatever else of
them cannot be read or is not known. -/
theorem builds_fail_for_first_fault (source : Source) :
    ((∃ fault, build source = .error fault) ↔
      (∃ table, ∃ line ∈ source.lines table, ∃ columns, SocketRow.Fits line columns ∧
        (¬Address.IsField columns.localAddress ∨ ¬Address.IsField columns.remoteAddress)) ∨
      ∃ fault, source.pids = .error fault) ∧
    (∀ fault, build source = .error fault ↔
      (∃ place field, source.RefusesFirst place field ∧
        fault = .invalidAddress (String.ofList field)) ∨
      (∀ place field, ¬source.Refuses place field) ∧ source.pids = .error fault) ∧
    ∀ other, source.SharesFaults other →
      ∀ fault, build other = .error fault ↔ build source = .error fault := by
  refine ⟨?_, fun fault => build_eq_error_iff, fun other h => build_eq_error_congr h⟩
  rw [← Source.exists_refuses_iff]
  constructor
  · rintro ⟨fault, h⟩
    rcases build_eq_error_iff.1 h with ⟨place, field, ⟨hrefuses, -⟩, -⟩ | ⟨-, hpids⟩
    · exact .inl ⟨place, field, hrefuses⟩
    · exact .inr ⟨fault, hpids⟩
  · intro h
    by_cases hrefused : ∃ place field, source.Refuses place field
    · obtain ⟨place, field, hrefuses⟩ := hrefused
      obtain ⟨first, other, hfirst⟩ := Source.exists_refusesFirst hrefuses
      exact ⟨_, build_eq_error_iff.2 (.inl ⟨first, other, hfirst, rfl⟩)⟩
    · obtain ⟨fault, hpids⟩ := h.resolve_left hrefused
      simp only [not_exists] at hrefused
      exact ⟨fault, build_eq_error_iff.2 (.inr ⟨hrefused, hpids⟩)⟩

section Spoiled

/-- A malformed address behind a taken port, another one in a later table, and no list of
processes. -/
def spoiled : Source where
  table
    | .tcp => some ("sl\n" ++
        "0: 0100007F:0050 00000000:0000 0 0 0 0 0 0 7\n" ++
        "1: 00000000:0050 0000000G:0000 0 0 0 0 0 0 8\n")
    | .udp => some "0: 7F:0035 00000000:0000 0 0 0 0 0 0 9\n"
    | _ => none
  pids := .error (.processTable "gone")
  inodes _ := none
  command _ := none

/-- The same without a heading, with a table more, and with processes that answer. -/
def chatty : Source where
  table
    | .tcp => some (
        "0: 0100007F:0050 00000000:0000 0 0 0 0 0 0 7\n" ++
        "1: 00000000:0050 0000000G:0000 0 0 0 0 0 0 8\n")
    | .tcp6 => some "sl"
    | table => spoiled.table table
  pids := spoiled.pids
  inodes _ := some [7, 7000]
  command _ := some "curl"

theorem build_spoiled : build spoiled = .error (.invalidAddress "0000000G") := by cbv

theorem sharesFaults_spoiled : spoiled.SharesFaults chatty where
  rows table := by
    cases table with
    | tcp => cbv
    | udp => rfl
    | tcp6 => cbv
    | udp6 => rfl
  pids fault := Iff.rfl

theorem build_chatty_fails_alike :
    build chatty = .error (.invalidAddress "0000000G") ∧
      ∃ place field, spoiled.RefusesFirst place field := by
  obtain ⟨-, hwhy, halike⟩ := builds_fail_for_first_fault spoiled
  refine ⟨(halike chatty sharesFaults_spoiled _).2 build_spoiled, ?_⟩
  rcases (hwhy _).1 build_spoiled with ⟨place, field, hfirst, -⟩ | ⟨-, hpids⟩
  · exact ⟨place, field, hfirst⟩
  · cases hpids

end Spoiled

end Inventory

end Flowmeter
