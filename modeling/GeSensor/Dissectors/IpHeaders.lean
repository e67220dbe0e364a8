/-
  Dissectors/IpHeaders.lean --- which frames get IP addresses.

  The dissector checks that the header announced by the ethertype is captured, and
  that an IPv4 header has at least five words.  It reads the version nibble only for
  the header length next to it: bytes of another version are taken for addresses.
-/
import GeSensor.Dissectors.Packet

set_option autoImplicit false

namespace GeSensor.Dissectors

open GeSensor.Foundation
open GeSensor.Net

/-! ## Headers by their length -/

/-- The version that an IP ethertype announces. -/
def announcedVersion (ethertype : UInt16) : Nat := if ethertype = 0x0800 then 4 else 6

/-- The IP header at the network offset of a frame, by its length alone: of whatever
version its first four bits say. -/
def sizedIpHeader? (frame : Bytes) : Option IpHeader :=
  match networkHeader? frame with
  | none => none
  | some (ethertype, l3) =>
      let headerLen := (byteAt frame l3).toNat % 16 * 4
      if ethertype = 0x0800 then
        if l3 + 20 ≤ frame.length ∧ 20 ≤ headerLen ∧ l3 + headerLen ≤ frame.length then
          some
            { protocol := byteAt frame (l3 + 9)
              src := .v4 (bytesAt frame (l3 + 12) 4)
              dst := .v4 (bytesAt frame (l3 + 16) 4)
              l4 := l3 + headerLen }
        else none
      else if ethertype = 0x86DD then
        if l3 + 40 ≤ frame.length then
          some
            { protocol := byteAt frame (l3 + 6)
              src := .v6 (bytesAt frame (l3 + 8) 16)
              dst := .v6 (bytesAt frame (l3 + 24) 16)
              l4 := l3 + 40 }
        else none
      else none

/-- A header that is long enough is of the version its ethertype announces. -/
def VersionAsAnnounced (frame : Bytes) : Prop :=
  ∀ ethertype l3, networkHeader? frame = some (ethertype, l3) →
    (sizedIpHeader? frame).isSome = true →
    (byteAt frame l3).toNat / 16 = announcedVersion ethertype

/-- A complete header is one that is long enough and of the announced version. -/
theorem ipHeader?_eq_sized {frame : Bytes} {ethertype : UInt16} {l3 : Nat}
    (hnetwork : networkHeader? frame = some (ethertype, l3)) :
    ipHeader? frame =
      if (byteAt frame l3).toNat / 16 = announcedVersion ethertype then sizedIpHeader? frame
      else none := by
  rw [ipHeader?, sizedIpHeader?, hnetwork, announcedVersion]
  dsimp only
  split
  · rw [ipv4Header?]
    split
    · rename_i hheader
      rw [if_pos hheader.2.1, if_pos ⟨hheader.1, hheader.2.2⟩]
    · rename_i hheader
      split
      · rename_i hversion
        rw [if_neg fun hsized => hheader ⟨hsized.1, hversion, hsized.2⟩]
      · rfl
  · split
    · rw [ipv6Header?]
      split
      · rename_i hheader
        rw [if_pos hheader.2, if_pos hheader.1]
      · rename_i hheader
        split
        · rename_i hversion
          rw [if_neg fun hsized => hheader ⟨hsized, hversion⟩]
        · rfl
    · rw [ite_self]

/-- The IP layer reads a header by its length alone. -/
theorem ipLayer_sized {data : Bytes} {l3 : Nat} {ethPacket : PacketMetadata}
    (hethernet : ethernetLayer data = some (l3, ethPacket)) :
    match sizedIpHeader? data with
    | none => ipLayer data l3 ethPacket = none
    | some header => ∃ packet, ipLayer data l3 ethPacket = some (header.l4, packet) ∧
        packet.srcIp = some header.src ∧ packet.dstIp = some header.dst ∧
        packet.ipProto = header.protocol := by
  rw [sizedIpHeader?, networkHeader?_eq, hethernet, Option.map_some, ipLayer, ethertypeIpv4,
    ethertypeIpv6]
  dsimp only
  by_cases hv4 : ethPacket.ethertype = 0x0800
  · rw [if_pos hv4, if_pos hv4, ipv4Layer, ← ihlAt_eq]
    by_cases hheader : l3 + 20 ≤ data.length ∧ 20 ≤ ihlAt data l3 ∧
        l3 + ihlAt data l3 ≤ data.length
    · rw [if_pos hheader, if_neg (by omega)]
      exact ⟨_, rfl, rfl, rfl, rfl⟩
    · rw [if_neg hheader]
      exact if_pos (by omega)
  · rw [if_neg hv4, if_neg hv4]
    by_cases hv6 : ethPacket.ethertype = 0x86DD
    · rw [if_pos hv6, if_pos hv6, ipv6Layer]
      by_cases hheader : l3 + 40 ≤ data.length
      · rw [if_pos hheader, if_neg (by omega)]
        exact ⟨_, rfl, rfl, rfl, rfl⟩
      · rw [if_neg hheader]
        exact if_pos (by omega)
    · rw [if_neg hv6, if_neg hv6]

/-! ## Addresses of well-formed headers -/

/-- The metadata with the defaults above its Ethernet header. -/
def PacketMetadata.linkOnly (packet : PacketMetadata) : PacketMetadata where
  srcMac := packet.srcMac
  dstMac := packet.dstMac
  ethertype := packet.ethertype
  vlanId := packet.vlanId
  protocolName := packet.protocolName

/-- The addresses are those of the frame's complete IP header; without one every field
above the Ethernet header keeps its default. -/
structure AddressesOfHeader (frame : Bytes) (packet : PacketMetadata) : Prop where
  src : packet.srcIp.isSome = true ↔ (ipHeader? frame).isSome = true
  dst : packet.dstIp.isSome = true ↔ (ipHeader? frame).isSome = true
  addresses : ∀ header, ipHeader? frame = some header →
    packet.srcIp = some header.src ∧ packet.dstIp = some header.dst
  defaults : ipHeader? frame = none → packet = packet.linkOnly

theorem addressesOfHeader_of_some {frame : Bytes} {header : IpHeader} {packet : PacketMetadata}
    (hip : ipHeader? frame = some header) (hsrc : packet.srcIp = some header.src)
    (hdst : packet.dstIp = some header.dst) : AddressesOfHeader frame packet where
  src := by rw [hsrc, hip, Option.isSome_some, Option.isSome_some]
  dst := by rw [hdst, hip, Option.isSome_some, Option.isSome_some]
  addresses := by
    intro other hother
    cases hip.symm.trans hother
    exact ⟨hsrc, hdst⟩
  defaults := by
    intro hnone
    cases hip.symm.trans hnone

theorem addressesOfHeader_of_none {frame : Bytes} {packet : PacketMetadata}
    (hip : ipHeader? frame = none) (hlink : packet = packet.linkOnly) :
    AddressesOfHeader frame packet where
  src := by
    rw [hip, hlink]
    exact Iff.rfl
  dst := by
    rw [hip, hlink]
    exact Iff.rfl
  addresses := by
    intro header hheader
    cases hip.symm.trans hheader
  defaults := fun _ => hlink

/-- The Ethernet layer fills in nothing above it. -/
theorem ethernetLayer_linkOnly {data : Bytes} {offset : Nat} {packet : PacketMetadata}
    (h : ethernetLayer data = some (offset, packet)) (protocolName : ProtocolName) :
    { packet with protocolName := protocolName } =
      ({ packet with protocolName := protocolName } : PacketMetadata).linkOnly := by
  unfold ethernetLayer at h
  split at h
  · cases h
  · split at h
    · split at h
      · cases h
      · cases h
        rfl
    · cases h
      rfl

/-- What the dissector reports of the network layer: the addresses of a header that is
long enough, else nothing. -/
theorem dissectPacket_sized {frame : Bytes} {packet : PacketMetadata}
    (h : dissectPacket frame = .ok (some packet)) :
    (∃ ethertype l3, networkHeader? frame = some (ethertype, l3)) ∧
    match sizedIpHeader? frame with
    | none => packet = packet.linkOnly
    | some header => packet.srcIp = some header.src ∧ packet.dstIp = some header.dst := by
  cases hethernet : ethernetLayer frame with
  | none =>
      rw [dissectPacket_of_no_ethernet hethernet] at h
      cases h
  | some ethernet =>
      obtain ⟨l3, ethPacket⟩ := ethernet
      have hnetwork : networkHeader? frame = some (ethPacket.ethertype, l3) := by
        rw [networkHeader?_eq, hethernet]
        rfl
      refine ⟨⟨_, _, hnetwork⟩, ?_⟩
      have hlayer := ipLayer_sized hethernet
      cases hsized : sizedIpHeader? frame with
      | none =>
          rw [hsized] at hlayer
          obtain ⟨protocolName, hdissect⟩ := dissectPacket_of_no_ip hethernet hlayer
          cases hdissect.symm.trans h
          exact ethernetLayer_linkOnly hethernet protocolName
      | some header =>
          rw [hsized] at hlayer
          obtain ⟨ipPacket, hip, hsrc, hdst, _⟩ := hlayer
          obtain ⟨protocolName, _, hdissect⟩ := dissectPacket_of_ip hethernet hip
          obtain ⟨hsrc', hdst', _⟩ := transportFields_ips frame header.l4 ipPacket
          cases hdissect.symm.trans h
          exact ⟨hsrc'.trans hsrc, hdst'.trans hdst⟩

/-- The metadata of a frame has the addresses of a complete IP header, and no others,
exactly when a header that is long enough is of the announced version. -/
theorem ip_addresses_of_header_iff (frame : Bytes) :
    (∀ packet, dissectPacket frame = .ok (some packet) → AddressesOfHeader frame packet) ↔
      VersionAsAnnounced frame := by
  constructor
  · intro h ethertype l3 hnetwork hsized
    obtain ⟨header, hheader⟩ := Option.isSome_iff_exists.mp hsized
    obtain ⟨ethPacket, hethernet, _⟩ := ethernetLayer_of_networkHeader hnetwork
    have hlayer := ipLayer_sized hethernet
    rw [hheader] at hlayer
    obtain ⟨ipPacket, hip, _⟩ := hlayer
    obtain ⟨protocolName, _, hdissect⟩ := dissectPacket_of_ip hethernet hip
    have hreported := (dissectPacket_sized hdissect).2
    rw [hheader] at hreported
    -- The addresses are reported, so that a complete header must be there.
    have hcomplete := (h _ hdissect).src.mp (by rw [hreported.1]; rfl)
    rw [ipHeader?_eq_sized hnetwork] at hcomplete
    split at hcomplete
    · assumption
    · cases hcomplete
  · intro h packet hdissect
    obtain ⟨⟨ethertype, l3, hnetwork⟩, hreported⟩ := dissectPacket_sized hdissect
    have hip := ipHeader?_eq_sized hnetwork
    cases hsized : sizedIpHeader? frame with
    | none =>
        rw [hsized] at hip hreported
        exact addressesOfHeader_of_none (hip.trans (ite_self _)) hreported
    | some header =>
        rw [if_pos (h ethertype l3 hnetwork (by rw [hsized]; rfl)), hsized] at hip
        rw [hsized] at hreported
        exact addressesOfHeader_of_some hip hreported.1 hreported.2

/-- An IPv4 ethertype, and twenty bytes behind it that begin with the version of IPv6. -/
def misversionedFrame : Bytes :=
  List.replicate 12 0 ++ [0x08, 0x00, 0x65] ++ List.replicate 19 0

/-- The zero bytes behind it are reported as addresses. -/
theorem addresses_of_misversioned_frame :
    ¬ ∀ packet, dissectPacket misversionedFrame = .ok (some packet) →
      AddressesOfHeader misversionedFrame packet := by
  intro h
  have hcomplete := (h _ rfl).src.mp rfl
  exact absurd hcomplete (by decide)

end GeSensor.Dissectors
