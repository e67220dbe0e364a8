/-
  Dissectors/Vlan.lean --- an 802.1Q tag changes nothing but itself.

  A tag stands between the source address and the ethertype.  Inserted into any
  frame that has none, also a malformed or truncated one, it adds its VLAN id to
  the metadata and moves the payload by its four bytes.
-/
import GeSensor.Dissectors.Network

set_option autoImplicit false

namespace GeSensor.Dissectors

open GeSensor.Foundation

/-- The frame with an 802.1Q tag after its source address. -/
def insertTag (frame : Bytes) (tci : UInt16) : Bytes :=
  frame.take 12 ++ (be16Bytes ethertypeVlan ++ (be16Bytes tci ++ frame.drop 12))

/-- The metadata of a tagged frame, from that of the frame without the tag.  The
payload offset is zero as long as no payload position is set. -/
def PacketMetadata.tagged (packet : PacketMetadata) (tci : UInt16) : PacketMetadata :=
  { packet with
    vlanId := some (tci &&& 0x0FFF)
    payloadOffset := if packet.payloadOffset = 0 then 0 else packet.payloadOffset + 4 }

/-! ## The VLAN id -/

section

variable (data : Bytes) (packet : PacketMetadata) (vlanId : Option UInt16)

/-- No layer above Ethernet looks at the VLAN id. -/
theorem ipLayer_vlanId (offset : Nat) :
    ipLayer data offset { packet with vlanId := vlanId } =
      (ipLayer data offset packet).map fun layer =>
        (layer.1, { layer.2 with vlanId := vlanId }) := by
  unfold ipLayer ipv4Layer ipv6Layer
  dsimp only
  split
  · split <;> rfl
  · split
    · split <;> rfl
    · rfl

theorem transportFields_vlanId (offset : Nat) :
    transportFields data offset { packet with vlanId := vlanId } =
      { transportFields data offset packet with vlanId := vlanId } := by
  unfold transportFields tcpHeaderFields udpHeaderFields icmpHeaderFields
  dsimp only
  split
  · split <;> rfl
  · split
    · split <;> rfl
    · split
      · split <;> rfl
      · rfl

theorem networkFields_vlanId :
    networkFields data { packet with vlanId := vlanId } =
      { networkFields data packet with vlanId := vlanId } := by
  unfold networkFields
  rw [ipLayer_vlanId]
  cases ipLayer data 0 packet with
  | none =>
      dsimp only [Option.map_none]
      split <;> rfl
  | some layer =>
      dsimp only [Option.map_some, transportNamed]
      rw [transportFields_vlanId]
      rfl

end

/-! ## The tagged frame -/

section

variable {frame : Bytes} (tci : UInt16)

/-- Behind the source address stands the tag, and then what stood there. -/
theorem insertTag_drop (hheader : 14 ≤ frame.length) :
    (insertTag frame tci).drop 12 =
      be16Bytes ethertypeVlan ++ (be16Bytes tci ++ frame.drop 12) := by
  refine List.drop_left' ?_
  rw [List.length_take]
  omega

theorem insertTag_length : (insertTag frame tci).length = frame.length + 4 := by
  simp [insertTag, be16Bytes]
  omega

theorem insertTag_drop_tag (hheader : 14 ≤ frame.length) :
    (insertTag frame tci).drop 14 = be16Bytes tci ++ frame.drop 12 :=
  drop_add_of_drop 2 (insertTag_drop tci hheader) rfl

theorem insertTag_drop_tci (hheader : 14 ≤ frame.length) :
    (insertTag frame tci).drop 16 = frame.drop 12 :=
  drop_add_of_drop 2 (insertTag_drop_tag tci hheader) rfl

/-- The addresses stand before the tag. -/
theorem insertTag_addresses (hheader : 14 ≤ frame.length) {i : Nat} (hi : i + 6 ≤ 12) :
    bytesAt (insertTag frame tci) i 6 = bytesAt frame i 6 := by
  have hfront : i + 6 ≤ (frame.take 12).length := by
    rw [List.length_take]
    omega
  have hwhole := bytesAt_append_left hfront (frame.drop 12)
  rw [List.take_append_drop] at hwhole
  rw [insertTag, bytesAt_append_left hfront, hwhole]

/-- The Ethernet layer of a tagged frame is that of the frame, behind the tag. -/
theorem ethernetLayer_insertTag (hheader : 14 ≤ frame.length)
    (huntagged : be16At frame 12 ≠ ethertypeVlan) :
    ∃ packet, ethernetLayer frame = some (14, packet) ∧
      ethernetLayer (insertTag frame tci) =
        some (18, { packet with vlanId := some (tci &&& 0x0FFF) }) := by
  have htag : be16At (insertTag frame tci) 12 = ethertypeVlan :=
    be16At_of_drop (insertTag_drop tci hheader)
  have htci : be16At (insertTag frame tci) 14 = tci :=
    be16At_of_drop (insertTag_drop_tag tci hheader)
  have hethertype : be16At (insertTag frame tci) 16 = be16At frame 12 := by
    rw [← Nat.add_zero 16, ← be16At_drop, insertTag_drop_tci tci hheader, be16At_drop]
  refine ⟨_, (if_neg (by omega)).trans (if_neg huntagged), ?_⟩
  rw [ethernetLayer, insertTag_length, if_neg (by omega), if_pos htag, if_neg (by omega), htci,
    hethertype, insertTag_addresses tci hheader (by omega),
    insertTag_addresses tci hheader (by omega)]

/-- VLAN transparency: for every frame of at least 14 bytes that is not tagged, and
every tag, the dissection of the tagged frame is that of the frame, with the VLAN id
of the tag and the payload four bytes later. -/
theorem vlan_transparent (hheader : 14 ≤ frame.length)
    (huntagged : be16At frame 12 ≠ ethertypeVlan) :
    ∃ packet, dissectPacket frame = .ok (some packet) ∧
      dissectPacket (insertTag frame tci) = .ok (some (packet.tagged tci)) := by
  obtain ⟨packet, hplain, htagged⟩ := ethernetLayer_insertTag tci hheader huntagged
  have hbehind : (insertTag frame tci).drop 18 = frame.drop 14 := by
    rw [show 18 = 16 + 2 from rfl, ← List.drop_drop, insertTag_drop_tci tci hheader,
      List.drop_drop]
  refine ⟨_, (dissectPacket_eq frame).trans (by rw [hplain, Option.map_some]), ?_⟩
  rw [dissectPacket_eq, htagged, Option.map_some, hbehind, networkFields_vlanId]
  congr 2
  unfold PacketMetadata.relocate PacketMetadata.tagged
  dsimp only
  split
  · rfl
  · rename_i hset
    rw [if_neg (by omega)]
    congr 1
    omega

end

/-- An IPv4 TCP SYN frame. -/
def synFrame : Bytes :=
  [0, 0, 0, 0, 0, 0, 0, 0, 0, 0, 0, 0, 0x08, 0x00, 0x45, 0, 0, 40, 0, 0, 0, 0, 64, 6, 0, 0,
    192, 168, 1, 100, 10, 0, 0, 1, 0xC0, 0x00, 0, 80, 0, 0, 0, 1, 0, 0, 0, 0, 0x50, 0x02,
    0xFF, 0xFF, 0, 0, 0, 0]

theorem vlan_transparent_syn :
    ∃ packet, dissectPacket synFrame = .ok (some packet) ∧
      dissectPacket (insertTag synFrame 0x2064) = .ok (some (packet.tagged 0x2064)) :=
  vlan_transparent 0x2064 (by decide) (by decide)

end GeSensor.Dissectors
