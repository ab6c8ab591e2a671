import Flowmeter.Packet.Basic

/-! Local ends of sockets, ordered by port, then protocol, then address. -/
namespace Flowmeter

/-- The local end of a socket. -/
structure Endpoint where
  address : Address
  port : UInt16
  protocol : Protocol
  deriving DecidableEq, Repr

theorem Protocol.rank_lt (protocol : Protocol) : rank protocol < 2 := by
  cases protocol <;> simp [rank]

instance : Ranked Endpoint where
  rank endpoint :=
    (rank endpoint.port * 2 + rank endpoint.protocol) * Address.count + rank endpoint.address
  rank_injective a b h := by
    simp only [Address.count] at h
    have ha : rank a.address < 0x100000000000000000000000100000000 := a.address.rank_lt
    have hb : rank b.address < 0x100000000000000000000000100000000 := b.address.rank_lt
    have hp := a.protocol.rank_lt
    have hq := b.protocol.rank_lt
    have hport : rank a.port = rank b.port := by omega
    have hproto : rank a.protocol = rank b.protocol := by omega
    have haddr : rank a.address = rank b.address := by omega
    cases a; cases b
    simp only [Endpoint.mk.injEq]
    exact ⟨Ranked.rank_inj.1 haddr, Ranked.rank_inj.1 hport, Ranked.rank_inj.1 hproto⟩

end Flowmeter
