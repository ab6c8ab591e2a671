import Flowmeter.EventLog.Event
import Flowmeter.Proofs.Address.Written
import Flowmeter.Proofs.Text.Columns

/-! A description tells the flow of its event.

The tags of all kinds have one length. Behind the tag stands the sender up to the first blank, for
no address has a blank in it, and then the receiver. An address may have colons in it, but a port
has none, so the last colon of each end divides the two (`endText_inj`). In this way kind,
addresses and ports come back from the text (`descriptions_tell_flows`). -/
namespace Flowmeter.Event

/-- An end of a flow: an address and a port. -/
def endText (address : Address) (port : UInt16) : List Char :=
  address.written ++ ':' :: Nat.toDigits 10 port.toNat

/-- A character that is in no number is in no port. -/
theorem not_mem_port {c : Char} (h : Text.Numeral.isDigit c = false) (port : UInt16) :
    c ∉ Nat.toDigits 10 port.toNat := fun hmem =>
  Bool.false_ne_true (h.symm.trans (Text.Numeral.isDigit_of_mem_toDigits hmem))

theorem blank_not_mem_endText (address : Address) (port : UInt16) :
    ' ' ∉ endText address port := by
  intro h
  rcases List.mem_append.1 h with h | h
  · rcases Address.mem_written h with h | h | h <;> exact absurd h (by decide)
  · rcases List.mem_cons.1 h with h | h
    · exact absurd h (by decide)
    · exact not_mem_port (by decide) port h

/-- The last colon of an end stands between its address and its port. -/
theorem endText_inj {address other : Address} {port otherPort : UInt16} :
    endText address port = endText other otherPort ↔ address = other ∧ port = otherPort := by
  constructor
  · intro h
    have hreverse := congrArg List.reverse h
    simp only [endText, List.reverse_append, List.reverse_cons, List.append_assoc,
      List.singleton_append] at hreverse
    have hcolon (port : UInt16) : ':' ∉ (Nat.toDigits 10 port.toNat).reverse := fun hmem =>
      not_mem_port (by decide) port (List.mem_reverse.1 hmem)
    obtain ⟨hport, haddress⟩ := Text.append_mark_inj (hcolon port) (hcolon otherPort) hreverse
    exact ⟨Address.written_inj.1 (List.reverse_inj.1 haddress),
      UInt16.toNat_inj.1 (Text.Numeral.toDigits_inj (List.reverse_inj.1 hport))⟩
  · rintro ⟨rfl, rfl⟩
    rfl

theorem length_tag (kind : EventKind) : kind.tag.toList.length = 7 := by
  cases kind <;> decide

theorem tag_inj {kind other : EventKind} (h : kind.tag = other.tag) : kind = other := by
  cases kind <;> cases other <;> first | rfl | exact absurd h (by decide)

theorem toList_describe (event : Event) :
    (event.describe .numeric).toList = event.kind.tag.toList ++ ':' ::
      (endText event.packet.src event.packet.srcPort ++ ' ' ::
        ("--> ".toList ++ endText event.packet.dst event.packet.dstPort)) := by
  simp only [describe, Names.numeric, Address.text, String.toList_append, String.toList_ofList,
    Text.Numeral.toList_toString, endText, List.append_assoc]
  rfl

/-- **A description tells the flow of its event.** Two events are described alike exactly if they
are of one kind and have the same addresses and ports at both ends. -/
theorem descriptions_tell_flows (event other : Event) :
    event.describe .numeric = other.describe .numeric ↔
      event.kind = other.kind ∧
      event.packet.src = other.packet.src ∧ event.packet.srcPort = other.packet.srcPort ∧
      event.packet.dst = other.packet.dst ∧ event.packet.dstPort = other.packet.dstPort := by
  rw [← String.toList_inj, toList_describe, toList_describe]
  constructor
  · intro h
    obtain ⟨htag, h⟩ := List.append_inj h ((length_tag _).trans (length_tag _).symm)
    obtain ⟨hsrc, h⟩ := Text.append_mark_inj (blank_not_mem_endText _ _)
      (blank_not_mem_endText _ _) (List.cons.inj h).2
    obtain ⟨haddress, hport⟩ := endText_inj.1 hsrc
    obtain ⟨haddress', hport'⟩ := endText_inj.1 (List.append_cancel_left h)
    exact ⟨tag_inj (String.toList_inj.1 htag), haddress, hport, haddress', hport'⟩
  · rintro ⟨hkind, hsrc, hsrcPort, hdst, hdstPort⟩
    rw [hkind, hsrc, hsrcPort, hdst, hdstPort]

/-- Colons of addresses stand beside those that divide the parts. -/
example :
    (⟨.undetermined, ⟨.v6 #v[0, 0, 0, 0, 0, 0, 0, 0, 0, 0, 0, 0, 0, 0, 0, 1],
      .v6 #v[0, 0, 0, 0, 0, 0, 0, 0, 0, 0, 0xFF, 0xFF, 10, 0, 0, 2], 80, 53, 60, .udp, 0⟩⟩ :
        Event).describe .numeric = "UNDET  :::1:80 --> ::ffff:10.0.0.2:53" := by
  decide +kernel

end Flowmeter.Event
