import Flowmeter.Proofs.Inventory.Canonical
import Flowmeter.Proofs.Socket.Layout
import Flowmeter.Proofs.Socket.Winning

/-! No two sockets share an endpoint.

The kernel keeps the sockets of each address family in tables of their own. In tables that keep
to this (`Source.KernelFormat`) the address of an endpoint tells the family, so that the endpoint
tells the table; and a table has one winning row for each port. Processes that hold the same
endpoint hold the same inode. -/
namespace Flowmeter

/-- The number of digits that the kernel prints for the addresses of a table. -/
def SocketTable.addressDigits : SocketTable → Nat
  | tcp | udp => 8
  | tcp6 | udp6 => 32

theorem SocketTable.eq_of_protocol {a b : SocketTable} (hprotocol : a.protocol = b.protocol)
    (hdigits : a.addressDigits = b.addressDigits) : a = b := by
  cases a <;> cases b <;>
    first
    | rfl
    | exact absurd hprotocol (by decide)
    | exact absurd hdigits (by decide)

namespace Source

/-- The local addresses in the rows of a table have the digits that the kernel prints. -/
def KernelFormat (source : Source) : Prop :=
  ∀ table, ∀ line ∈ source.lines table, ∀ columns, SocketRow.Fits line columns →
    columns.localAddress.length = table.addressDigits

/-- One of the sockets of a process has the inode. -/
def HasSocket (source : Source) (pid : Int) (inode : UInt64) : Prop :=
  ∃ inodes, source.inodes pid = some inodes ∧ inode ∈ inodes

variable {source : Source} {known : OrderedMap UInt64 Endpoint}

theorem Accepts.length_printed {place : LinePlace} {row : SocketRow} (hformat : source.KernelFormat)
    (h : source.Accepts place row) :
    row.localAddress.printed.length = place.table.addressDigits := by
  obtain ⟨line, hline, hread⟩ := h
  obtain ⟨columns, hfits, htells⟩ := SocketRow.read_eq_row_iff.1 hread
  rw [← htells.localAddress, List.length_map]
  exact hformat place.table line (List.mem_of_getElem? hline) columns hfits

/-- **An endpoint tells its inode.** -/
theorem find?_injective (hformat : source.KernelFormat) (hknown : source.endpoints = .ok known)
    {a b : UInt64} {endpoint : Endpoint} (ha : known.find? a = some endpoint)
    (hb : known.find? b = some endpoint) : a = b := by
  obtain ⟨place, row, hrow, hbinding, -⟩ := (find?_eq_some_iff hknown).1 ha
  obtain ⟨other, second, hsecond, hbound, -⟩ := (find?_eq_some_iff hknown).1 hb
  obtain ⟨rfl, rfl⟩ := Prod.mk.inj hbinding
  obtain ⟨rfl, hsame⟩ := Prod.mk.inj hbound
  obtain ⟨haddress, hport, hprotocol⟩ := Endpoint.mk.inj hsame
  have hdigits : other.table.addressDigits = place.table.addressDigits := by
    rw [← hsecond.1.length_printed hformat, haddress, hrow.1.length_printed hformat]
  have htable : other.table = place.table := SocketTable.eq_of_protocol hprotocol hdigits
  rw [hsecond.unique hrow htable hport]

end Source

namespace Inventory

variable {source : Source} {known : OrderedMap UInt64 Endpoint} {inventory : Inventory}

/-- Those processes hold an endpoint that have the socket it belongs to. -/
theorem mem_endpoints_iff_hasSocket (hformat : source.KernelFormat)
    (hknown : source.endpoints = .ok known) (hbuild : build source = .ok inventory)
    {process : SocketHolder} (hmem : process ∈ inventory.processes) {endpoint : Endpoint}
    {inode : UInt64} (hinode : known.find? inode = some endpoint) :
    endpoint ∈ process.endpoints ↔ source.HasSocket process.pid inode := by
  rw [mem_endpoints_iff hbuild hmem]
  constructor
  · rintro ⟨pids, known', inodes, socket, -, -, hknown', hinodes, hsocket, hfind⟩
    obtain rfl : known = known' := Except.ok.inj (hknown.symm.trans hknown')
    obtain rfl := Source.find?_injective hformat hknown hinode hfind
    exact ⟨inodes, hinodes, hsocket⟩
  · rintro ⟨inodes, hinodes, hsocket⟩
    obtain ⟨known', pids, -, hpids, hprocesses⟩ := build_eq_ok_iff.1 hbuild
    have hpid := (process?_of_mem (hprocesses ▸ hmem)).1
    exact ⟨pids, known, inodes, inode, hpids, hpid, hknown, hinodes, hsocket, hinode⟩

/-- A held endpoint belongs to an inode. -/
theorem exists_inode_of_mem_endpoints (hknown : source.endpoints = .ok known)
    (hbuild : build source = .ok inventory) {process : SocketHolder}
    (hmem : process ∈ inventory.processes) {endpoint : Endpoint}
    (hheld : endpoint ∈ process.endpoints) : ∃ inode, known.find? inode = some endpoint := by
  obtain ⟨pids, known', inodes, inode, -, -, hknown', -, -, hfind⟩ :=
    (mem_endpoints_iff hbuild hmem).1 hheld
  obtain rfl : known = known' := Except.ok.inj (hknown.symm.trans hknown')
  exact ⟨inode, hfind⟩

/-- **No two sockets share an endpoint.** In tables as the kernel prints them, different inodes
have different endpoints. So the processes that hold an endpoint, one of which the index names
as its owner, are those with one and the same inode. -/
theorem sockets_share_no_endpoint (source : Source) (known : OrderedMap UInt64 Endpoint)
    (hknown : source.endpoints = .ok known) (hformat : source.KernelFormat) :
    (∀ a b endpoint, a ≠ b → known.find? a = some endpoint → known.find? b ≠ some endpoint) ∧
    ∀ inventory, build source = .ok inventory →
      (∀ process ∈ inventory.processes, ∀ other ∈ inventory.processes, ∀ endpoint,
        endpoint ∈ process.endpoints → endpoint ∈ other.endpoints →
        ∃ inode, known.find? inode = some endpoint ∧
          source.HasSocket process.pid inode ∧ source.HasSocket other.pid inode) ∧
      ∀ endpoint slot, inventory.endpointIndex.lookup endpoint = some slot →
        ∃ inode, ∃ owner ∈ inventory.processes, known.find? inode = some endpoint ∧
          inventory.endpointIndex.owners[slot]? = some (owner.pid, owner.command) ∧
          source.HasSocket owner.pid inode ∧ ∀ process ∈ inventory.processes,
            endpoint ∈ process.endpoints ↔ source.HasSocket process.pid inode := by
  refine ⟨fun a b endpoint hne ha hb => hne (Source.find?_injective hformat hknown ha hb),
    fun inventory hbuild => ⟨?_, ?_⟩⟩
  · intro process hprocess other hother endpoint hheld hshared
    obtain ⟨inode, hinode⟩ := exists_inode_of_mem_endpoints hknown hbuild hprocess hheld
    exact ⟨inode, hinode,
      (mem_endpoints_iff_hasSocket hformat hknown hbuild hprocess hinode).1 hheld,
      (mem_endpoints_iff_hasSocket hformat hknown hbuild hother hinode).1 hshared⟩
  · intro endpoint slot hslot
    obtain ⟨position, owner, rfl, howner, hheld, -⟩ := lookup_eq_some_iff.1 hslot
    have hmem := List.mem_of_getElem? howner
    obtain ⟨inode, hinode⟩ := exists_inode_of_mem_endpoints hknown hbuild hmem hheld
    refine ⟨inode, owner, hmem, hinode, ?_,
      (mem_endpoints_iff_hasSocket hformat hknown hbuild hmem hinode).1 hheld,
      fun process hprocess => mem_endpoints_iff_hasSocket hformat hknown hbuild hprocess hinode⟩
    rw [owners_endpointIndex, List.getElem?_cons_succ, List.getElem?_map, howner]
    rfl

section Forked

/-- Two sockets with one port in the tables of both families, and two processes of which one
has both and the other has one. -/
def forked : Source where
  table
    | .tcp => some "0: 0100007F:0050 00000000:0000 0 0 0 0 0 0 7"
    | .tcp6 => some (
        "0: 00000000000000000000000000000000:0050 " ++
        "00000000000000000000000000000000:0000 0 0 0 0 0 0 8")
    | _ => none
  pids := .ok [41, 42]
  inodes pid := some (if pid = 41 then [7] else [7, 8])
  command _ := none

/-- The endpoint of the socket that both have. -/
def shared : Endpoint := ⟨.quad 127 0 0 1, 80, .tcp⟩

def forkedEndpoints : OrderedMap UInt64 Endpoint :=
  .ofList [(7, shared), (8, ⟨.wildcard .v6, 80, .tcp⟩)]

theorem kernelFormat_forked : forked.KernelFormat := by
  have hcomputed : ∀ table ∈ SocketTable.all, ∀ line ∈ forked.lines table,
      ∀ columns ∈ SocketRow.columns? line,
        columns.localAddress.length = table.addressDigits := by decide
  intro table line hline columns hfits
  exact hcomputed table table.mem_all line hline columns (SocketRow.columns?_eq_some_iff.2 hfits)

theorem endpoints_forked : forked.endpoints = .ok forkedEndpoints := by cbv

def forkedInventory : Inventory where
  processes := [
    ⟨41, "(no cmd line)", [shared]⟩,
    ⟨42, "(no cmd line)", [shared, ⟨.wildcard .v6, 80, .tcp⟩]⟩]

theorem build_forked : build forked = .ok forkedInventory := by cbv

theorem forked_sockets_share_no_endpoint :
    forked.endpoints = .ok forkedEndpoints ∧ forked.KernelFormat ∧
    build forked = .ok forkedInventory ∧
    (forkedEndpoints.find? 7 = some shared ∧ forkedEndpoints.find? 8 ≠ some shared) ∧
    (∃ inode, forkedEndpoints.find? inode = some shared ∧
      forked.HasSocket 41 inode ∧ forked.HasSocket 42 inode) ∧
    ∃ inode, ∃ owner ∈ forkedInventory.processes, forkedEndpoints.find? inode = some shared ∧
      forkedInventory.endpointIndex.owners[1]? = some (owner.pid, owner.command) ∧
      forked.HasSocket owner.pid inode ∧ ∀ process ∈ forkedInventory.processes,
        shared ∈ process.endpoints ↔ forked.HasSocket process.pid inode := by
  obtain ⟨hdifferent, hinventory⟩ :=
    sockets_share_no_endpoint forked forkedEndpoints endpoints_forked kernelFormat_forked
  obtain ⟨hpairs, hindex⟩ := hinventory forkedInventory build_forked
  have hseven : forkedEndpoints.find? 7 = some shared := by cbv
  have hlookup : forkedInventory.endpointIndex.lookup shared = some 1 := by cbv
  exact ⟨endpoints_forked, kernelFormat_forked, build_forked,
    ⟨hseven, hdifferent 7 8 shared (by decide) hseven⟩,
    hpairs ⟨41, "(no cmd line)", [shared]⟩ (by decide)
      ⟨42, "(no cmd line)", [shared, ⟨.wildcard .v6, 80, .tcp⟩]⟩ (by decide) shared
      (by decide) (by decide),
    hindex shared 1 hlookup⟩

end Forked

end Inventory

end Flowmeter
