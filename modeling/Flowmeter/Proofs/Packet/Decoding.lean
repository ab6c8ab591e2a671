import Flowmeter.Proofs.Packet.Format

/-! What decoding looks at.

A frame is decoded by its layout, so its packet depends on the octets that stand at the places
of the layout and on nothing else (`Alike.packet?_eq`): of the first octet of a header of the
older family only the low half counts. A frame may be cut down to the size of its layout, and
decodes to nothing if more is cut off (`packet?_cut`). `checked` decodes with readings that fail
where an octet is taken to be there and is not; it never fails (`checked_eq`). -/
namespace Flowmeter.Frame

/-! ### Octets that are looked at -/

/-- Two octet strings are the same wherever decoding one of them looks. -/
structure Alike (data other : List UInt8) : Prop where
  link : ∀ i < 2, data[14 + i]? = other[14 + i]?
  header4 : WordAt data 14 0x0800 →
    data[16]?.map (·.toNat % 16) = other[16]?.map (·.toNat % 16) ∧ data[25]? = other[25]? ∧
      ∀ i < 8, data[28 + i]? = other[28 + i]?
  ports4 : WordAt data 14 0x0800 → ∀ first, data[16]? = some first →
    ∀ i < 4, data[16 + 4 * (first.toNat % 16) + i]? = other[16 + 4 * (first.toNat % 16) + i]?
  header6 : WordAt data 14 0x86DD →
    data[22]? = other[22]? ∧ ∀ i < 32, data[24 + i]? = other[24 + i]?
  ports6 : WordAt data 14 0x86DD → ∀ i < 4, data[56 + i]? = other[56 + i]?

/-- The frame with other octets. -/
def withData (frame : Frame) (data : List UInt8) : Frame := { frame with data }

namespace Alike

variable {data other : List UInt8} (h : Alike data other)
include h

theorem linkAt {word : UInt16} (hword : WordAt data 14 word) : WordAt other 14 word :=
  hword.congr h.link

theorem linkAt_iff {word : UInt16} : WordAt data 14 word ↔ WordAt other 14 word :=
  ⟨h.linkAt, fun hword => hword.congr fun i hi => (h.link i hi).symm⟩

theorem symm : Alike other data where
  link i hi := (h.link i hi).symm
  header4 hlink := by
    obtain ⟨hfirst, hcarries, haddresses⟩ := h.header4 (h.linkAt_iff.2 hlink)
    exact ⟨hfirst.symm, hcarries.symm, fun i hi => (haddresses i hi).symm⟩
  ports4 hlink first hfirst i hi := by
    have hlink' := h.linkAt_iff.2 hlink
    have hsame := (h.header4 hlink').1
    rw [hfirst, Option.map_some, Option.map_eq_some_iff] at hsame
    obtain ⟨first', hfirst', heq⟩ := hsame
    rw [← heq]
    exact (h.ports4 hlink' first' hfirst' i hi).symm
  header6 hlink := by
    obtain ⟨hcarries, haddresses⟩ := h.header6 (h.linkAt_iff.2 hlink)
    exact ⟨hcarries.symm, fun i hi => (haddresses i hi).symm⟩
  ports6 hlink i hi := (h.ports6 (h.linkAt_iff.2 hlink) i hi).symm

/-- What the link header of the octets says, that of the others says as well. -/
theorem announced {layout : Layout} (hannounced : Layout.Announced data layout) :
    Layout.Announced other layout := by
  cases hannounced with
  | v4 link hfirst long carries =>
    obtain ⟨hsame, hcarries, -⟩ := h.header4 link
    rw [hfirst, Option.map_some, eq_comm, Option.map_eq_some_iff] at hsame
    obtain ⟨first', hfirst', heq⟩ := hsame
    rw [← heq]
    exact .v4 (h.linkAt link) hfirst' (heq ▸ long) (hcarries ▸ carries)
  | v6 link carries => exact .v6 (h.linkAt link) ((h.header6 link).1 ▸ carries)

end Alike

theorem Alike.reads {frame : Frame} {other : List UInt8} (h : Alike frame.data other)
    {layout : Layout} (hannounced : Layout.Announced frame.data layout) {packet : Packet}
    (hreads : layout.Reads frame packet) : layout.Reads (frame.withData other) packet := by
  cases hannounced with
  | @v4 first protocol link hfirst long carries =>
    have haddresses := (h.header4 link).2.2
    have hports := h.ports4 link first hfirst
    exact { hreads with
      src := hreads.src.congr fun i hi => haddresses i (Nat.lt_add_right 4 hi)
      dst := hreads.dst.congr fun i hi => by
        have hi' := haddresses (4 + i) (Nat.add_lt_add_left hi 4)
        rwa [← Nat.add_assoc] at hi'
      srcPort := hreads.srcPort.congr fun i hi => hports i (Nat.lt_add_right 2 hi)
      dstPort := hreads.dstPort.congr fun i hi => by
        have hi' := hports (2 + i) (Nat.add_lt_add_left hi 2)
        rwa [← Nat.add_assoc] at hi' }
  | v6 link carries =>
    have haddresses := (h.header6 link).2
    have hports := h.ports6 link
    exact { hreads with
      src := hreads.src.congr fun i hi => haddresses i (Nat.lt_add_right 16 hi)
      dst := hreads.dst.congr fun i hi => by
        have hi' := haddresses (16 + i) (Nat.add_lt_add_left hi 16)
        rwa [← Nat.add_assoc] at hi'
      srcPort := hreads.srcPort.congr fun i hi => hports i (Nat.lt_add_right 2 hi)
      dstPort := hreads.dstPort.congr fun i hi => by
        have hi' := hports (2 + i) (Nat.add_lt_add_left hi 2)
        rwa [← Nat.add_assoc] at hi' }

/-- A packet is decoded from other octets that are alike and enough. -/
theorem Alike.packet?_of_fits (frame : Frame) {other : List UInt8} (h : Alike frame.data other)
    {layout : Layout} (hfits : layout.Fits frame.data) (hlong : layout.size ≤ other.length) :
    (frame.withData other).packet? = frame.packet? := by
  obtain ⟨packet, hpacket⟩ := exists_packet? hfits
  obtain ⟨found, hfound, hreads⟩ := fits_of_packet? hpacket
  obtain rfl := hfound.announced.unique hfits.announced
  rw [hpacket, packet?_eq_some_iff]
  exact ⟨found, ⟨h.announced hfits.announced, hlong⟩, h.reads hfits.announced hreads⟩

/-- **Only octets that are looked at show in what a frame decodes to.** -/
theorem Alike.packet?_eq {frame : Frame} {other : List UInt8} (h : Alike frame.data other)
    (hlength : frame.data.length = other.length) :
    (frame.withData other).packet? = frame.packet? := by
  cases hpacket : frame.packet? with
  | some packet =>
    obtain ⟨layout, hfits, -⟩ := fits_of_packet? hpacket
    rw [h.packet?_of_fits frame hfits (hlength ▸ hfits.size_le), hpacket]
  | none =>
    rw [Option.eq_none_iff_forall_ne_some]
    intro packet hother
    obtain ⟨layout, hfits, -⟩ := fits_of_packet? hother
    have hback : frame.packet? = _ :=
      Alike.packet?_of_fits (frame.withData other) h.symm hfits (hlength ▸ hfits.size_le)
    rw [hpacket, hother] at hback
    cases hback

/-! ### Frames cut short -/

/-- The frame of which only the first octets were kept. -/
def cut (frame : Frame) (kept : Nat) : Frame := frame.withData (frame.data.take kept)

theorem Layout.Announced.of_take {data : List UInt8} {kept : Nat} {layout : Layout}
    (h : Announced (data.take kept) layout) : Announced data layout := by
  have hoctet {i : Nat} {octet : UInt8} (h : (data.take kept)[i]? = some octet) :
      data[i]? = some octet := by
    rw [List.getElem?_take] at h
    split at h
    · exact h
    · cases h
  have hword {word : UInt16} : WordAt (data.take kept) 14 word → WordAt data 14 word
    | ⟨high, low, hhigh, hlow, hword⟩ => ⟨high, low, hoctet hhigh, hoctet hlow, hword⟩
  cases h with
  | v4 link hfirst long carries => exact .v4 (hword link) (hoctet hfirst) long (hoctet carries)
  | v6 link carries => exact .v6 (hword link) (hoctet carries)

/-- The octets that are looked at are those a layout asks for. -/
theorem Layout.Fits.alike_take {data : List UInt8} {layout : Layout} (h : layout.Fits data)
    {kept : Nat} (hkept : layout.size ≤ kept) : Alike data (data.take kept) := by
  have hsame (i : Nat) (hi : i < layout.size) : data[i]? = (data.take kept)[i]? :=
    (List.getElem?_take_of_lt (Nat.lt_of_lt_of_le hi hkept)).symm
  have hports := four_le_headerLength layout.protocol
  have hsize : layout.size = layout.transport + layout.protocol.headerLength := rfl
  cases h.announced with
  | @v4 first protocol link hfirst long carries =>
    have hother (h6 : WordAt data 14 0x86DD) : False := absurd (link.unique h6) (by decide)
    simp only at hports hsize
    exact {
      link := fun i hi => hsame _ (by omega)
      header4 := fun _ => ⟨congrArg _ (hsame 16 (by omega)), hsame 25 (by omega),
        fun i hi => hsame _ (by omega)⟩
      ports4 := fun _ other hfirst' i hi => by
        obtain rfl := Option.some.inj (hfirst.symm.trans hfirst')
        exact hsame _ (by omega)
      header6 := fun h6 => (hother h6).elim
      ports6 := fun h6 => (hother h6).elim }
  | v6 link carries =>
    have hother (h4 : WordAt data 14 0x0800) : False := absurd (link.unique h4) (by decide)
    simp only at hports hsize
    exact {
      link := fun i hi => hsame _ (by omega)
      header4 := fun h4 => (hother h4).elim
      ports4 := fun h4 => (hother h4).elim
      header6 := fun _ => ⟨hsame 22 (by omega), fun i hi => hsame _ (by omega)⟩
      ports6 := fun _ i hi => hsame _ (by omega) }

/-- **A frame may be cut down to the size of its layout**, and no further. -/
theorem packet?_cut {frame : Frame} {layout : Layout} (h : layout.Fits frame.data) (kept : Nat) :
    (frame.cut kept).packet? = if layout.size ≤ kept then frame.packet? else none := by
  split
  · next hkept =>
    have hlong : layout.size ≤ (frame.data.take kept).length := by
      rw [List.length_take]
      exact Nat.le_min.2 ⟨hkept, h.size_le⟩
    exact (h.alike_take hkept).packet?_of_fits frame h hlong
  · next hkept =>
    rw [Option.eq_none_iff_forall_ne_some]
    intro packet hpacket
    obtain ⟨other, hother, -⟩ := fits_of_packet? hpacket
    have hsize := hother.size_le
    obtain rfl := hother.announced.of_take.unique h.announced
    exact hkept (Nat.le_trans hsize (List.length_take_le ..))

/-! ### Octets taken to be there -/

/-- An octet is taken to be there and is not. -/
structure Missing where
  place : Nat

/-- The octet at a place. -/
def octet (data : List UInt8) (place : Nat) : Except Missing UInt8 :=
  match data[place]? with
  | some octet => .ok octet
  | none => .error ⟨place⟩

/-- So many octets from a place on. -/
def octets (data : List UInt8) (place : Nat) : Nat → Except Missing (List UInt8)
  | 0 => .ok []
  | count + 1 => do return (← octet data place) :: (← octets data (place + 1) count)

/-- The number that two octets write. -/
def word (data : List UInt8) (place : Nat) : Except Missing UInt16 := do
  return UInt16.ofNat (octetNumber (← octets data place 2))

/-- Goes on behind a place, which is not behind the end. -/
def reach (data : List UInt8) (place : Nat) : Except Missing Unit :=
  if place ≤ data.length then .ok () else .error ⟨place⟩

/-- What a network header says: the octets of the addresses, the number of the transport
protocol and where its header starts. -/
structure Network where
  src : List UInt8
  dst : List UInt8
  carries : UInt8
  transport : Nat

/-- A network header of the older family. -/
def network4 (data : List UInt8) : Except Missing (Option Network) := do
  if data.length < 36 then return none
  let length := 4 * ((← octet data 16).toNat % 16)
  if length < 20 then return none
  let src ← octets data 28 4
  let dst ← octets data 32 4
  let carries ← octet data 25
  if data.length < 16 + length then return none
  return some ⟨src, dst, carries, 16 + length⟩

/-- A network header of the newer family. -/
def network6 (data : List UInt8) : Except Missing (Option Network) := do
  if data.length < 56 then return none
  let src ← octets data 24 16
  let dst ← octets data 40 16
  let carries ← octet data 22
  return some ⟨src, dst, carries, 56⟩

/-- The ports of a transport header. -/
def ports (data : List UInt8) (protocol : Protocol) (start : Nat) :
    Except Missing (Option (UInt16 × UInt16)) := do
  if data.length < start + transportLength protocol then return none
  return some (← word data start, ← word data (start + 2))

/-- The packet that a network header leads to. -/
def packetBehind (frame : Frame) (network : Network) : Except Missing (Option Packet) := do
  match protocol? network.carries with
  | none => return none
  | some protocol =>
    let ports ← ports frame.data protocol network.transport
    return do
      let src ← Address.ofOctets? network.src
      let dst ← Address.ofOctets? network.dst
      let (srcPort, dstPort) ← ports
      return { src, dst, srcPort, dstPort, len := frame.wireLength, protocol, time := frame.time }

/-- Decoding with readings that may fail: every octet that is not asked for by length is taken
to be there. -/
def checked (frame : Frame) : Except Missing (Option Packet) := do
  if frame.data.length < 16 then return none
  let link ← word frame.data 14
  reach frame.data 16
  let network ← match link with
    | 0x0800 => network4 frame.data
    | 0x86DD => network6 frame.data
    | _ => pure none
  match network with
  | none => return none
  | some network => frame.packetBehind network

section Checked
variable {data part : List UInt8} {start length : Nat}

theorem octets_eq {place count : Nat} (h : place + count ≤ data.length) :
    octets data place count = .ok ((data.drop place).take count) := by
  induction count generalizing place with
  | zero => rfl
  | succ count ih =>
    have hplace : place < data.length := by omega
    rw [octets, ih (by omega), octet, List.getElem?_eq_getElem hplace,
      List.drop_eq_getElem_cons hplace]
    rfl

theorem octet_of_slice? (h : slice? data start length = some part) {i : Nat} (hi : i < length) :
    octet data (start + i) = .ok (part.getD i 0) := by
  rw [octet, getElem?_eq_getD h hi]

theorem octets_of_slice? (h : slice? data start length = some part) {i count : Nat}
    (hi : i + count ≤ length) :
    octets data (start + i) count = .ok ((part.drop i).take count) := by
  obtain ⟨hle, rfl⟩ := slice?_eq_some_iff.1 h
  rw [octets_eq (by omega), List.drop_take, List.take_take, List.drop_drop,
    Nat.min_eq_left (by omega)]

theorem word_eq (data : List UInt8) (start : Nat) (h : start + 2 ≤ data.length) :
    ∃ number, word data start = .ok number ∧ word? data start = some number := by
  rw [word, octets_eq h, word?, slice?_of_le h]
  exact ⟨_, rfl, rfl⟩

theorem word_of_slice? (h : slice? data start length = some part) {i : Nat} (hi : i + 2 ≤ length) :
    ∃ number, word data (start + i) = .ok number ∧ word? part i = some number := by
  have hlength := length_of_slice? h
  rw [word, octets_of_slice? h hi, word?, slice?_of_le (by omega)]
  exact ⟨_, rfl, rfl⟩

end Checked

/-- The packet that a network header leads to, read as `Frame.packet?` reads it. -/
def Network.packet? (network : Network) (frame : Frame) : Option Packet := do
  let protocol ← protocol? network.carries
  let src ← Address.ofOctets? network.src
  let dst ← Address.ofOctets? network.dst
  let header ← slice? frame.data network.transport (transportLength protocol)
  let srcPort ← word? header 0
  let dstPort ← word? header 2
  return { src, dst, srcPort, dstPort, len := frame.wireLength, protocol, time := frame.time }

section Checked
variable {frame : Frame}

theorem packetBehind_eq (network : Network) :
    frame.packetBehind network = .ok (network.packet? frame) := by
  unfold packetBehind Network.packet?
  cases protocol? network.carries with
  | none => rfl
  | some protocol =>
    by_cases hlong : network.transport + transportLength protocol ≤ frame.data.length
    · have hslice := slice?_of_le hlong
      have hfour : 4 ≤ transportLength protocol := by
        rw [transportLength_eq]
        exact four_le_headerLength protocol
      obtain ⟨srcPort, hsrc, hsrc'⟩ := word_of_slice? hslice (i := 0) (by omega)
      obtain ⟨dstPort, hdst, hdst'⟩ := word_of_slice? hslice (i := 2) (by omega)
      have hports :
          ports frame.data protocol network.transport = .ok (some (srcPort, dstPort)) := by
        rw [Nat.add_zero] at hsrc
        rw [ports, if_neg (Nat.not_lt_of_le hlong), hsrc, hdst]
        rfl
      simp only [hports, hslice, hsrc', hdst', Option.bind_eq_bind, Option.bind_some]
      rfl
    · have hports : ports frame.data protocol network.transport = .ok none := by
        rw [ports, if_pos (Nat.lt_of_not_le hlong)]
        rfl
      have hslice := slice?_of_lt (Nat.lt_of_not_le hlong)
      simp only [hports, hslice, Option.bind_eq_bind, Option.bind_some, Option.bind_none]
      rfl

theorem Network.packet?_of_lt {network : Network} (h : frame.data.length < network.transport) :
    network.packet? frame = none := by
  have hslice (length : Nat) : slice? frame.data network.transport length = none :=
    slice?_of_lt (Nat.lt_add_right length h)
  simp only [Network.packet?, hslice, Option.bind_eq_bind, Option.bind_none, Option.bind_fun_none]

theorem network4_eq (hlink : WordAt frame.data 14 0x0800) :
    ∃ network, network4 frame.data = .ok network ∧
      frame.packet? = network.bind (·.packet? frame) := by
  rw [packet?, route?_of_link4 hlink, route4?, network4]
  by_cases hshort : frame.data.length < 36
  · rw [if_pos hshort, slice?_of_lt hshort]
    exact ⟨none, rfl, rfl⟩
  obtain ⟨header, hslice⟩ : ∃ header, slice? frame.data linkLength 20 = some header :=
    ⟨_, slice?_of_le (Nat.le_of_not_lt hshort)⟩
  have hfirst : octet frame.data 16 = .ok (header.headD 0) := by
    rw [List.headD_eq_getD]
    exact octet_of_slice? hslice (i := 0) (by decide)
  have hcarries : octet frame.data 25 = .ok (header.getD 9 0) :=
    octet_of_slice? hslice (i := 9) (by decide)
  have hsrc : octets frame.data 28 4 = .ok ((header.drop 12).take 4) :=
    octets_of_slice? hslice (i := 12) (by decide)
  have hdst : octets frame.data 32 4 = .ok ((header.drop 16).take 4) :=
    octets_of_slice? hslice (i := 16) (by decide)
  let network : Network := {
    src := (header.drop 12).take 4
    dst := (header.drop 16).take 4
    carries := header.getD 9 0
    transport := 16 + 4 * ((header.headD 0).toNat % 16) }
  simp only [if_neg hshort, hslice, hfirst, hsrc, hdst, hcarries, bind, Except.bind,
    Option.bind_some]
  split
  · exact ⟨none, rfl, rfl⟩
  · simp only [Option.bind_assoc, pure, Option.bind_some]
    -- A header that is longer than the frame leads to no packet either way.
    split
    · next hcut => exact ⟨none, rfl, network.packet?_of_lt hcut⟩
    · exact ⟨some network, rfl, rfl⟩

theorem network6_eq (hlink : WordAt frame.data 14 0x86DD) :
    ∃ network, network6 frame.data = .ok network ∧
      frame.packet? = network.bind (·.packet? frame) := by
  rw [packet?, route?_of_link6 hlink, route6?, network6]
  by_cases hshort : frame.data.length < 56
  · rw [if_pos hshort, slice?_of_lt hshort]
    exact ⟨none, rfl, rfl⟩
  obtain ⟨header, hslice⟩ : ∃ header, slice? frame.data linkLength header6Length = some header :=
    ⟨_, slice?_of_le (Nat.le_of_not_lt hshort)⟩
  have hcarries : octet frame.data 22 = .ok (header.getD 6 0) :=
    octet_of_slice? hslice (i := 6) (by decide)
  have hsrc : octets frame.data 24 16 = .ok ((header.drop 8).take 16) :=
    octets_of_slice? hslice (i := 8) (by decide)
  have hdst : octets frame.data 40 16 = .ok ((header.drop 24).take 16) :=
    octets_of_slice? hslice (i := 24) (by decide)
  simp only [if_neg hshort, hslice, hsrc, hdst, hcarries, bind, Except.bind, Option.bind_some,
    Option.bind_assoc, pure]
  exact ⟨_, rfl, rfl⟩

end Checked

/-- **No octet is missing**: what decoding takes to be there is there. -/
theorem checked_eq (frame : Frame) : frame.checked = .ok frame.packet? := by
  unfold checked
  split
  · next hshort =>
    have hlink : word? frame.data 14 = none := by
      rw [word?, slice?_of_lt (by omega)]
      rfl
    rw [packet?, route?, hlink]
    rfl
  · next hlong =>
    obtain ⟨link, hlink, hlink'⟩ := word_eq frame.data 14 (by omega)
    have hreach : reach frame.data 16 = .ok () := if_pos (Nat.le_of_not_lt hlong)
    simp only [hlink, hreach, bind, Except.bind]
    split
    · obtain ⟨network, hnetwork, hpacket⟩ := network4_eq (word?_eq_some_iff.1 hlink')
      rw [hnetwork, hpacket]
      cases network with
      | none => rfl
      | some network => exact packetBehind_eq network
    · obtain ⟨network, hnetwork, hpacket⟩ := network6_eq (word?_eq_some_iff.1 hlink')
      rw [hnetwork, hpacket]
      cases network with
      | none => rfl
      | some network => exact packetBehind_eq network
    · next h4 h6 =>
      have hroute : route? frame.data = none := by
        simp only [route?, hlink', Option.bind_eq_bind, Option.bind_some]
      rw [packet?, hroute]
      rfl

/-- **Frames decode by their layout.** No octet is missing where one is read. A frame decodes
if and only if it announces a layout and is as long as that asks; its packet is then what stands
at the places of the layout. Other octets do not show in what a frame decodes to, and if octets
are cut off its end, it decodes to the same packet down to the size of the layout and to none
below. -/
theorem frames_decode_by_layout (frame : Frame) :
    frame.checked = .ok frame.packet? ∧
    ((∃ packet, frame.packet? = some packet) ↔ ∃ layout : Layout, layout.Fits frame.data) ∧
    (∀ layout : Layout, layout.Fits frame.data →
      ∀ packet, frame.packet? = some packet ↔ layout.Reads frame packet) ∧
    (∀ other, Alike frame.data other → frame.data.length = other.length →
      (frame.withData other).packet? = frame.packet?) ∧
    ∀ layout : Layout, layout.Fits frame.data →
      ∀ kept, (frame.cut kept).packet? = if layout.size ≤ kept then frame.packet? else none := by
  refine ⟨checked_eq frame, ⟨?_, ?_⟩, ?_, fun other h => h.packet?_eq, fun layout => packet?_cut⟩
  · rintro ⟨packet, hpacket⟩
    obtain ⟨layout, hfits, -⟩ := fits_of_packet? hpacket
    exact ⟨layout, hfits⟩
  · rintro ⟨layout, hfits⟩
    exact exists_packet? hfits
  · intro layout hfits packet
    constructor
    · intro hpacket
      obtain ⟨found, hfound, hreads⟩ := fits_of_packet? hpacket
      obtain rfl := hfound.announced.unique hfits.announced
      exact hreads
    · intro hreads
      exact packet?_eq_some_iff.2 ⟨layout, hfits, hreads⟩

/-- A datagram whose network header has a word of options, with two octets behind its end. -/
def optioned : Frame where
  data := List.replicate 14 0 ++ [8, 0] ++
    [0x46, 0, 0, 32, 0, 0, 0, 0, 64, 17, 0, 0, 10, 0, 0, 1, 10, 0, 0, 2, 1, 1, 1, 0] ++
    [0, 53, 0x13, 0x88, 0, 8, 0, 0] ++ [7, 7]
  wireLength := 100
  time := 0

/-- The same datagram, with others in place of the octets that are not looked at. -/
def optionedOtherwise : List UInt8 :=
  List.replicate 14 1 ++ [8, 0] ++
    [0xF6, 1, 1, 1, 1, 1, 1, 1, 1, 17, 1, 1, 10, 0, 0, 1, 10, 0, 0, 2, 0, 0, 0, 1] ++
    [0, 53, 0x13, 0x88, 1, 1, 1, 1] ++ [0, 0]

theorem optioned_decodes_by_layout :
    Layout.Fits ⟨.v4, .udp, 40⟩ optioned.data ∧ (∃ packet, optioned.packet? = some packet) ∧
    Alike optioned.data optionedOtherwise ∧
    (optioned.withData optionedOtherwise).packet? = optioned.packet? ∧
    (optioned.cut 48).packet? = optioned.packet? ∧ (optioned.cut 47).packet? = none := by
  obtain ⟨-, hdecodes, -, halike, hcut⟩ := frames_decode_by_layout optioned
  have hlink : WordAt optioned.data 14 0x0800 := ⟨8, 0, rfl, rfl, rfl⟩
  have hother (h6 : WordAt optioned.data 14 0x86DD) : False := absurd (hlink.unique h6) (by decide)
  have hheader : optioned.data[16]? = some 0x46 := rfl
  have hfits : Layout.Fits ⟨.v4, .udp, 40⟩ optioned.data :=
    ⟨.v4 hlink hheader (by decide) rfl, by decide⟩
  have hsame : Alike optioned.data optionedOtherwise := {
    link := by decide
    header4 := fun _ => by decide
    ports4 := fun _ first hfirst => by
      obtain rfl := Option.some.inj hfirst
      decide
    header6 := fun h6 => (hother h6).elim
    ports6 := fun h6 => (hother h6).elim }
  exact ⟨hfits, hdecodes.2 ⟨_, hfits⟩, hsame, halike _ hsame rfl, hcut _ hfits 48, hcut _ hfits 47⟩

end Flowmeter.Frame
