import Mathlib.Data.List.Basic
import Flowmeter.Packet.Frame

/-! The format of frames.

What a link header and a network header say of a frame is its `Layout`: the family of its
addresses, its transport protocol, and where the transport header starts. A frame decodes if
and only if it announces a layout and is as long as that asks (`Layout.Fits`), and then its
packet is what stands at fixed places (`Layout.Reads`), as `packet?_eq_some_iff` says. -/
namespace Flowmeter

/-- The number of a transport protocol in a network header. -/
def Protocol.number : Protocol → UInt8
  | tcp => 6
  | udp => 17

/-- The length of the part of a transport header that is always there. -/
def Protocol.headerLength : Protocol → Nat
  | tcp => 20
  | udp => 8

theorem Protocol.number_inj {a b : Protocol} (h : a.number = b.number) : a = b := by
  cases a <;> cases b <;> first | rfl | exact absurd h (by decide)

theorem Family.size_inj {a b : Family} (h : a.size = b.size) : a = b := by
  cases a <;> cases b <;> first | rfl | exact absurd h (by decide)

namespace Frame

/-! ### Parts of a frame -/

section Parts
variable {data part : List UInt8} {start length : Nat}

theorem slice?_of_le (h : start + length ≤ data.length) :
    slice? data start length = some ((data.drop start).take length) := if_pos h

theorem slice?_of_lt (h : data.length < start + length) : slice? data start length = none :=
  if_neg (Nat.not_le_of_lt h)

theorem slice?_eq_some_iff :
    slice? data start length = some part ↔
      start + length ≤ data.length ∧ (data.drop start).take length = part := by
  rw [slice?]
  split <;> simp [*]

theorem length_of_slice? (h : slice? data start length = some part) : part.length = length := by
  obtain ⟨hle, rfl⟩ := slice?_eq_some_iff.1 h
  rw [List.length_take, List.length_drop]
  omega

/-- What stands in a part stands in the whole, counted from where the part starts. -/
theorem getElem?_of_slice? (h : slice? data start length = some part) {i : Nat} (hi : i < length) :
    part[i]? = data[start + i]? := by
  obtain ⟨-, rfl⟩ := slice?_eq_some_iff.1 h
  rw [List.getElem?_take_of_lt hi, List.getElem?_drop]

/-- The octet of a part is there, so the default it is read with is not needed. -/
theorem getElem?_eq_getD (h : slice? data start length = some part) {i : Nat} (hi : i < length) :
    data[start + i]? = some (part.getD i 0) := by
  have hlength := length_of_slice? h
  rw [← getElem?_of_slice? h hi, List.getD_eq_getElem?_getD,
    List.getElem?_eq_getElem (hlength ▸ hi), Option.getD_some]

end Parts

/-- Two octets write a number, the more significant one first. -/
def WordAt (data : List UInt8) (start : Nat) (word : UInt16) : Prop :=
  ∃ high low, data[start]? = some high ∧ data[start + 1]? = some low ∧
    word.toNat = 256 * high.toNat + low.toNat

/-- The octets of an address of a family stand in a row. -/
structure AddressAt (data : List UInt8) (start : Nat) (family : Family) (address : Address) :
    Prop where
  isOf : address.family = family
  octets : ∀ i < family.size, data[start + i]? = address.octets[i]?

section Places
variable {data other : List UInt8} {start : Nat}

theorem WordAt.unique {a b : UInt16} (ha : WordAt data start a) (hb : WordAt data start b) :
    a = b := by
  obtain ⟨high, low, hhigh, hlow, ha⟩ := ha
  obtain ⟨high', low', hhigh', hlow', hb⟩ := hb
  obtain rfl := Option.some.inj (hhigh.symm.trans hhigh')
  obtain rfl := Option.some.inj (hlow.symm.trans hlow')
  exact UInt16.toNat_inj.1 (ha.trans hb.symm)

theorem WordAt.congr {word : UInt16} (h : WordAt data start word)
    (hsame : ∀ i < 2, data[start + i]? = other[start + i]?) : WordAt other start word := by
  obtain ⟨high, low, hhigh, hlow, hword⟩ := h
  exact ⟨high, low, (hsame 0 (by decide)).symm.trans hhigh, (hsame 1 (by decide)).symm.trans hlow,
    hword⟩

theorem word?_eq_some_iff {word : UInt16} :
    word? data start = some word ↔ WordAt data start word := by
  have hnumber (high low : UInt8) :
      (UInt16.ofNat (octetNumber [high, low])).toNat = 256 * high.toNat + low.toNat := by
    have := high.toNat_lt
    have := low.toNat_lt
    simp only [octetNumber, octetSpan, List.length, UInt16.toNat_ofNat']
    omega
  constructor
  · intro h
    obtain ⟨octets, hslice, h⟩ := Option.bind_eq_some_iff.1 h
    obtain rfl := Option.some.inj h
    obtain ⟨high, low, rfl⟩ := List.length_eq_two.1 (length_of_slice? hslice)
    exact ⟨high, low, (getElem?_of_slice? hslice (i := 0) (by decide)).symm,
      (getElem?_of_slice? hslice (i := 1) (by decide)).symm, hnumber high low⟩
  · rintro ⟨high, low, hhigh, hlow, hword⟩
    obtain ⟨hstart, hhigh⟩ := List.getElem?_eq_some_iff.1 hhigh
    obtain ⟨hnext, hlow⟩ := List.getElem?_eq_some_iff.1 hlow
    have hpart : (data.drop start).take 2 = [high, low] := by
      rw [List.drop_eq_getElem_cons hstart, List.drop_eq_getElem_cons hnext, hhigh, hlow]
      rfl
    rw [word?, slice?_of_le (by omega), hpart]
    exact congrArg some (UInt16.toNat_inj.1 ((hnumber high low).trans hword.symm))

theorem exists_word? (data : List UInt8) (start : Nat) (h : start + 2 ≤ data.length) :
    ∃ word, word? data start = some word := by
  rw [word?, slice?_of_le h]
  exact ⟨_, rfl⟩

variable {family : Family}

theorem AddressAt.unique {a b : Address} (ha : AddressAt data start family a)
    (hb : AddressAt data start family b) : a = b := by
  refine Address.octets_inj (List.ext_getElem? fun i => ?_)
  by_cases hi : i < family.size
  · rw [← ha.octets i hi, hb.octets i hi]
  · rw [List.getElem?_eq_none, List.getElem?_eq_none]
    · rw [b.length_octets, hb.isOf]
      exact Nat.le_of_not_lt hi
    · rw [a.length_octets, ha.isOf]
      exact Nat.le_of_not_lt hi

theorem AddressAt.congr {address : Address} (h : AddressAt data start family address)
    (hsame : ∀ i < family.size, data[start + i]? = other[start + i]?) :
    AddressAt other start family address :=
  ⟨h.isOf, fun i hi => (hsame i hi).symm.trans (h.octets i hi)⟩

theorem addressAt_of_slice? (family : Family) {header : List UInt8} {length offset : Nat}
    {address : Address}
    (hslice : slice? data start length = some header) (hle : offset + family.size ≤ length)
    (h : Address.ofOctets? ((header.drop offset).take family.size) = some address) :
    AddressAt data (start + offset) family address := by
  rw [Address.ofOctets?_eq_some_iff] at h
  have hlength := length_of_slice? hslice
  constructor
  · refine Family.size_inj ?_
    rw [← address.length_octets, h, List.length_take, List.length_drop]
    omega
  · intro i hi
    rw [h, List.getElem?_take_of_lt hi, List.getElem?_drop, getElem?_of_slice? hslice (by omega),
      Nat.add_assoc]

theorem exists_address (family : Family) (offset : Nat) {header : List UInt8} {length : Nat}
    (hslice : slice? data start length = some header) (hle : offset + family.size ≤ length) :
    ∃ address, Address.ofOctets? ((header.drop offset).take family.size) = some address := by
  have hlength := length_of_slice? hslice
  have hoctets : ((header.drop offset).take family.size).length = family.size := by
    rw [List.length_take, List.length_drop]
    omega
  obtain ⟨address, h, -⟩ := Address.exists_ofOctets? hoctets
  exact ⟨address, h⟩

end Places

theorem protocol?_eq_some_iff {octet : UInt8} {protocol : Protocol} :
    protocol? octet = some protocol ↔ octet = protocol.number := by
  constructor
  · intro h
    unfold protocol? at h
    split at h
    · obtain rfl := Option.some.inj h
      rfl
    · obtain rfl := Option.some.inj h
      rfl
    · cases h
  · rintro rfl
    cases protocol <;> rfl

/-! ### Layouts -/

/-- What the headers of a frame announce. -/
structure Layout where
  family : Family
  protocol : Protocol
  /-- Where the transport header starts. -/
  transport : Nat

namespace Layout

section Sizes
variable (layout : Layout)

/-- How long a frame has to be for its headers. -/
def size : Nat := layout.transport + layout.protocol.headerLength

/-- Where the source address stands. -/
def srcAt : Nat :=
  match layout.family with
  | .v4 => 28
  | .v6 => 24

/-- Where the destination address stands. -/
def dstAt : Nat :=
  match layout.family with
  | .v4 => 32
  | .v6 => 40

end Sizes

/-- The link header names the family, and the network header the transport protocol. A header
of the older family tells its length in the low half of its first octet, in units of four
octets, and has five of them at least. -/
inductive Announced (data : List UInt8) : Layout → Prop
  | v4 {first : UInt8} {protocol : Protocol} (link : WordAt data 14 0x0800)
    (header : data[16]? = some first) (long : 5 ≤ first.toNat % 16)
    (carries : data[25]? = some protocol.number) :
    Announced data ⟨.v4, protocol, 16 + 4 * (first.toNat % 16)⟩
  | v6 {protocol : Protocol} (link : WordAt data 14 0x86DD)
    (carries : data[22]? = some protocol.number) :
    Announced data ⟨.v6, protocol, 56⟩

/-- The octets announce the layout and are enough for it. -/
structure Fits (layout : Layout) (data : List UInt8) : Prop where
  announced : Announced data layout
  size_le : layout.size ≤ data.length

/-- The packet is what stands in the frame at the places of the layout. -/
structure Reads (layout : Layout) (frame : Frame) (packet : Packet) : Prop where
  src : AddressAt frame.data layout.srcAt layout.family packet.src
  dst : AddressAt frame.data layout.dstAt layout.family packet.dst
  srcPort : WordAt frame.data layout.transport packet.srcPort
  dstPort : WordAt frame.data (layout.transport + 2) packet.dstPort
  protocol : packet.protocol = layout.protocol
  len : packet.len = frame.wireLength
  time : packet.time = frame.time

/-- The route is what the network header of the layout says. -/
structure Routes (layout : Layout) (data : List UInt8) (route : Route) : Prop where
  src : AddressAt data layout.srcAt layout.family route.src
  dst : AddressAt data layout.dstAt layout.family route.dst
  protocol : route.protocol = layout.protocol
  transport : route.transport = layout.transport

theorem Announced.unique {data : List UInt8} {a b : Layout} (ha : Announced data a)
    (hb : Announced data b) : a = b := by
  have hfamilies {data : List UInt8} (h4 : WordAt data 14 0x0800) (h6 : WordAt data 14 0x86DD) :
      False := absurd (h4.unique h6) (by decide)
  cases ha with
  | v4 link header long carries =>
    cases hb with
    | v4 link' header' long' carries' =>
      obtain rfl := Option.some.inj (header.symm.trans header')
      rw [Protocol.number_inj (Option.some.inj (carries.symm.trans carries'))]
    | v6 link' carries' => exact (hfamilies link link').elim
  | v6 link carries =>
    cases hb with
    | v4 link' header' long' carries' => exact (hfamilies link' link).elim
    | v6 link' carries' =>
      rw [Protocol.number_inj (Option.some.inj (carries.symm.trans carries'))]

theorem Reads.unique {layout : Layout} {frame : Frame} {a b : Packet} (ha : layout.Reads frame a)
    (hb : layout.Reads frame b) : a = b := by
  obtain ⟨src, dst, srcPort, dstPort, len, protocol, time⟩ := a
  obtain rfl : src = b.src := ha.src.unique hb.src
  obtain rfl : dst = b.dst := ha.dst.unique hb.dst
  obtain rfl : srcPort = b.srcPort := ha.srcPort.unique hb.srcPort
  obtain rfl : dstPort = b.dstPort := ha.dstPort.unique hb.dstPort
  obtain rfl : len = b.len := ha.len.trans hb.len.symm
  obtain rfl : protocol = b.protocol := ha.protocol.trans hb.protocol.symm
  obtain rfl : time = b.time := ha.time.trans hb.time.symm
  rfl

end Layout

/-! ### What a decoder finds -/

section Routes
variable {data : List UInt8}

theorem announced_of_route4? {route : Route} (hlink : WordAt data 14 0x0800)
    (h : route4? data = some route) :
    ∃ layout, Layout.Announced data layout ∧ layout.Routes data route := by
  simp only [route4?, Option.bind_eq_bind, Option.bind_eq_some_iff] at h
  obtain ⟨header, hslice, h⟩ := h
  split at h
  · cases h
  · next hlong =>
    simp only [Option.bind_eq_some_iff] at h
    obtain ⟨protocol, hprotocol, src, hsrc, dst, hdst, h⟩ := h
    obtain rfl := Option.some.inj h
    have hheader := getElem?_eq_getD hslice (i := 0) (by decide)
    rw [← List.headD_eq_getD] at hheader
    have hcarries := getElem?_eq_getD hslice (i := 9) (by decide)
    rw [protocol?_eq_some_iff.1 hprotocol] at hcarries
    refine ⟨_, .v4 hlink hheader (by omega) hcarries, ?_⟩
    exact {
      src := addressAt_of_slice? .v4 hslice (by decide) hsrc
      dst := addressAt_of_slice? .v4 hslice (by decide) hdst
      protocol := rfl
      transport := rfl }

theorem announced_of_route6? {route : Route} (hlink : WordAt data 14 0x86DD)
    (h : route6? data = some route) :
    ∃ layout, Layout.Announced data layout ∧ layout.Routes data route := by
  simp only [route6?, Option.bind_eq_bind, Option.bind_eq_some_iff] at h
  obtain ⟨header, hslice, protocol, hprotocol, src, hsrc, dst, hdst, h⟩ := h
  obtain rfl := Option.some.inj h
  have hcarries := getElem?_eq_getD hslice (i := 6) (by decide)
  rw [protocol?_eq_some_iff.1 hprotocol] at hcarries
  refine ⟨_, .v6 hlink hcarries, ?_⟩
  exact {
    src := addressAt_of_slice? .v6 hslice (by decide) hsrc
    dst := addressAt_of_slice? .v6 hslice (by decide) hdst
    protocol := rfl
    transport := rfl }

theorem announced_of_route? {route : Route} (h : route? data = some route) :
    ∃ layout, Layout.Announced data layout ∧ layout.Routes data route := by
  simp only [route?, Option.bind_eq_bind, Option.bind_eq_some_iff] at h
  obtain ⟨link, hlink, h⟩ := h
  rw [word?_eq_some_iff] at hlink
  split at h
  · exact announced_of_route4? hlink h
  · exact announced_of_route6? hlink h
  · cases h

theorem route?_of_link4 (h : WordAt data 14 0x0800) : route? data = route4? data := by
  rw [route?, word?_eq_some_iff.2 h]
  rfl

theorem route?_of_link6 (h : WordAt data 14 0x86DD) : route? data = route6? data := by
  rw [route?, word?_eq_some_iff.2 h]
  rfl

/-- The network header of an announced layout is read if it is there. -/
theorem exists_route? {layout : Layout} (h : Layout.Announced data layout)
    (hlong : layout.transport ≤ data.length) : ∃ route, route? data = some route := by
  cases h with
  | @v4 first protocol link hfirst long carries =>
    obtain ⟨header, hslice⟩ : ∃ header, slice? data linkLength 20 = some header :=
      ⟨_, slice?_of_le (by simp only [linkLength] at *; omega)⟩
    have hheader := getElem?_eq_getD hslice (i := 0) (by decide)
    have hcarries := getElem?_eq_getD hslice (i := 9) (by decide)
    have hread : header.headD 0 = first := by
      rw [List.headD_eq_getD]
      exact Option.some.inj (hheader.symm.trans hfirst)
    have hnumber : header.getD 9 0 = protocol.number :=
      Option.some.inj (hcarries.symm.trans carries)
    obtain ⟨src, hsrc⟩ := exists_address .v4 12 hslice (by decide)
    obtain ⟨dst, hdst⟩ := exists_address .v4 16 hslice (by decide)
    refine ⟨⟨src, dst, protocol, linkLength + 4 * (first.toNat % 16)⟩, ?_⟩
    have hlength : ¬4 * (first.toNat % 16) < 20 := by omega
    simp only [Family.size] at hsrc hdst
    simp only [route?_of_link4 link, route4?, hslice, hread, hnumber, hlength, if_false,
      protocol?_eq_some_iff.2 rfl, hsrc, hdst, Option.bind_eq_bind, Option.bind_some]
    rfl
  | @v6 protocol link carries =>
    obtain ⟨header, hslice⟩ : ∃ header, slice? data linkLength header6Length = some header :=
      ⟨_, slice?_of_le hlong⟩
    have hcarries := getElem?_eq_getD hslice (i := 6) (by decide)
    have hnumber : header.getD 6 0 = protocol.number :=
      Option.some.inj (hcarries.symm.trans carries)
    obtain ⟨src, hsrc⟩ := exists_address .v6 8 hslice (by decide)
    obtain ⟨dst, hdst⟩ := exists_address .v6 24 hslice (by decide)
    refine ⟨⟨src, dst, protocol, linkLength + header6Length⟩, ?_⟩
    simp only [Family.size] at hsrc hdst
    simp only [route?_of_link6 link, route6?, hslice, hnumber, protocol?_eq_some_iff.2 rfl, hsrc,
      hdst, Option.bind_eq_bind, Option.bind_some]
    rfl

end Routes

section Packets
variable {frame : Frame} {packet : Packet}

theorem transportLength_eq (protocol : Protocol) :
    transportLength protocol = protocol.headerLength := by
  cases protocol <;> rfl

/-- A word of the part that is always there stands in the frame. -/
theorem wordAt_of_slice? {data header : List UInt8} {start length offset : Nat} {word : UInt16}
    (hslice : slice? data start length = some header) (hle : offset + 2 ≤ length)
    (h : word? header offset = some word) : WordAt data (start + offset) word := by
  obtain ⟨high, low, hhigh, hlow, hword⟩ := word?_eq_some_iff.1 h
  rw [getElem?_of_slice? hslice (by omega)] at hhigh hlow
  exact ⟨high, low, hhigh, hlow, hword⟩

theorem four_le_headerLength (protocol : Protocol) : 4 ≤ protocol.headerLength := by
  cases protocol <;> decide

/-- What decodes announces a layout, is long enough and is read from its places. -/
theorem fits_of_packet? (h : frame.packet? = some packet) :
    ∃ layout : Layout, layout.Fits frame.data ∧ layout.Reads frame packet := by
  simp only [packet?, Option.bind_eq_bind, Option.bind_eq_some_iff] at h
  obtain ⟨route, hroute, header, hslice, srcPort, hsrc, dstPort, hdst, h⟩ := h
  obtain rfl := Option.some.inj h
  obtain ⟨layout, hannounced, hroutes⟩ := announced_of_route? hroute
  rw [transportLength_eq, hroutes.protocol, hroutes.transport] at hslice
  have hlong := four_le_headerLength layout.protocol
  refine ⟨layout, ⟨hannounced, (slice?_eq_some_iff.1 hslice).1⟩, ?_⟩
  exact {
    src := hroutes.src
    dst := hroutes.dst
    srcPort := wordAt_of_slice? hslice (by omega) hsrc
    dstPort := wordAt_of_slice? hslice (by omega) hdst
    protocol := hroutes.protocol
    len := rfl
    time := rfl }

theorem exists_packet? {layout : Layout} (h : layout.Fits frame.data) :
    ∃ packet, frame.packet? = some packet := by
  have hsize := h.size_le
  rw [Layout.size] at hsize
  obtain ⟨route, hroute⟩ := exists_route? h.announced (Nat.le_of_add_right_le hsize)
  obtain ⟨other, hother, hroutes⟩ := announced_of_route? hroute
  obtain rfl := hother.unique h.announced
  obtain ⟨header, hslice⟩ : ∃ header,
      slice? frame.data other.transport other.protocol.headerLength = some header :=
    ⟨_, slice?_of_le hsize⟩
  have hlength := length_of_slice? hslice
  have hlong := four_le_headerLength other.protocol
  obtain ⟨srcPort, hsrc⟩ := exists_word? header 0 (by omega)
  obtain ⟨dstPort, hdst⟩ := exists_word? header 2 (by omega)
  simp only [packet?, hroute, transportLength_eq, hroutes.protocol, hroutes.transport, hslice, hsrc,
    hdst, Option.bind_eq_bind, Option.bind_some]
  exact ⟨_, rfl⟩

/-- **Frames decode to what stands in them.** -/
theorem packet?_eq_some_iff :
    frame.packet? = some packet ↔
      ∃ layout : Layout, layout.Fits frame.data ∧ layout.Reads frame packet := by
  constructor
  · exact fits_of_packet?
  · rintro ⟨layout, hfits, hreads⟩
    obtain ⟨found, hfound⟩ := exists_packet? hfits
    obtain ⟨other, hother, hread⟩ := fits_of_packet? hfound
    obtain rfl := hother.announced.unique hfits.announced
    rw [hfound, hread.unique hreads]

end Packets

end Frame

end Flowmeter
