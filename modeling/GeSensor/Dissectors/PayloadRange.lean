/-
  Dissectors/PayloadRange.lean --- the payload range that the metadata reports.

  A consumer slices the frame with `payload_offset` and `payload_len`.  The UDP and
  ICMP dissectors keep the range inside the frame.  The TCP dissector trusts the data
  offset of the header: with options that are not captured the payload starts behind
  the end of the frame, where it has length zero.
-/
import GeSensor.Dissectors.IpHeaders
import GeSensor.Dissectors.Network

set_option autoImplicit false

namespace GeSensor.Dissectors

open GeSensor.Foundation
open GeSensor.Net

/-- The payload is a range of the frame, and in a frame of at most 65535 bytes its
length survives `payload_len as u16`. -/
structure PayloadInside (frame : Bytes) (packet : PacketMetadata) : Prop where
  range : packet.payloadOffset + packet.payloadLen ≤ frame.length
  lossless : frame.length ≤ 65535 → (UInt16.ofNat packet.payloadLen).toNat = packet.payloadLen

/-- A TCP header whose fixed part is captured is captured with the options that its
data offset announces. -/
def TcpOptionsCaptured (frame : Bytes) : Prop :=
  ∀ header, sizedIpHeader? frame = some header → header.protocol = 6 →
    header.l4 + 20 ≤ frame.length →
    header.l4 + (byteAt frame (header.l4 + 12)).toNat / 16 * 4 ≤ frame.length

/-! ## One transport header -/

section

variable {data : Bytes} {offset : Nat} {packet : PacketMetadata}

/-- The length of a range of the frame survives the conversion. -/
theorem payloadInside_iff :
    PayloadInside data packet ↔ packet.payloadOffset + packet.payloadLen ≤ data.length := by
  refine ⟨fun h => h.range, fun hrange => ⟨hrange, fun hlength => ?_⟩⟩
  have hsmall : packet.payloadLen ≤ 65535 := by omega
  exact UInt16.toNat_ofNat_of_lt (Nat.lt_of_le_of_lt hsmall (by decide))

/-- An empty payload at the start of the frame. -/
theorem payloadInside_of_noPayload (hpacket : packet.NoPayload) : PayloadInside data packet := by
  rw [payloadInside_iff, hpacket.offset, hpacket.len]
  exact Nat.zero_le _

/-- The range is inside the frame exactly when a TCP header does not announce options
behind the end. -/
theorem transportFields_inside_iff (hpacket : packet.NoPayload) (hoffset : offset ≤ data.length) :
    PayloadInside data (transportFields data offset packet) ↔
      (packet.ipProto = 6 → offset + 20 ≤ data.length →
        offset + (byteAt data (offset + 12)).toNat / 16 * 4 ≤ data.length) := by
  have hnothing : packet.payloadOffset + packet.payloadLen ≤ data.length :=
    (payloadInside_of_noPayload hpacket).range
  rw [payloadInside_iff]
  unfold transportFields
  split
  · rename_i htcp
    split
    · rename_i htruncated
      exact iff_of_true hnothing fun _ hfixed => absurd hfixed (by omega)
    · rename_i hfixed
      rw [tcpHeaderFields, toNat_shiftRight_four]
      dsimp only
      constructor
      · intro hrange _ _
        omega
      · intro hcaptured
        have hend := hcaptured htcp (by omega)
        omega
  · rename_i htcp
    refine iff_of_true ?_ fun hproto => absurd hproto htcp
    split
    · split
      · exact hnothing
      · rw [udpHeaderFields, udpHeaderLen] at *
        dsimp only
        omega
    · split
      · split
        · exact hnothing
        · rw [icmpHeaderFields]
          dsimp only
          omega
      · dsimp only
        omega

end

/-! ## The whole frame -/

/-- The IP header that is read ends inside the frame. -/
theorem sizedIpHeader?_l4_le {frame : Bytes} {header : IpHeader}
    (h : sizedIpHeader? frame = some header) : header.l4 ≤ frame.length := by
  unfold sizedIpHeader? at h
  split at h
  · cases h
  · dsimp only at h
    split at h
    · rw [Option.ite_none_right_eq_some] at h
      obtain ⟨⟨_, _, hend⟩, hheader⟩ := h
      cases hheader
      exact hend
    · split at h
      · rw [Option.ite_none_right_eq_some] at h
        obtain ⟨hend, hheader⟩ := h
        cases hheader
        exact hend
      · cases h

/-- The reported payload is a range of the frame exactly when no TCP header announces
options behind the end of the frame. -/
theorem payload_inside_iff (frame : Bytes) :
    (∀ packet, dissectPacket frame = .ok (some packet) → PayloadInside frame packet) ↔
      TcpOptionsCaptured frame := by
  cases hethernet : ethernetLayer frame with
  | none =>
      have hnetwork : sizedIpHeader? frame = none := by
        rw [sizedIpHeader?, networkHeader?_eq, hethernet]
        rfl
      refine iff_of_true (fun packet h => ?_) fun header hheader => ?_
      · rw [dissectPacket_of_no_ethernet hethernet] at h
        cases h
      · rw [hnetwork] at hheader
        cases hheader
  | some ethernet =>
      obtain ⟨l3, ethPacket⟩ := ethernet
      have hethPacket : ethPacket.NoPayload := (ethernetLayer_noPayload hethernet).1
      have hlayer := ipLayer_sized hethernet
      cases hsized : sizedIpHeader? frame with
      | none =>
          rw [hsized] at hlayer
          obtain ⟨protocolName, hdissect⟩ := dissectPacket_of_no_ip hethernet hlayer
          refine iff_of_true (fun packet h => ?_) fun header hheader => ?_
          · cases hdissect.symm.trans h
            exact payloadInside_of_noPayload ⟨hethPacket.offset, hethPacket.len⟩
          · rw [hsized] at hheader
            cases hheader
      | some header =>
          rw [hsized] at hlayer
          obtain ⟨ipPacket, hip, _, _, hproto⟩ := hlayer
          have hipPacket : ipPacket.NoPayload := (ipLayer_noPayload hethPacket hip).1
          -- The protocol name does not count.
          have hnamed : PayloadInside frame (transportNamed frame header.l4 ipPacket) ↔
              PayloadInside frame (transportFields frame header.l4 ipPacket) := by
            rw [payloadInside_iff, payloadInside_iff]
            exact Iff.rfl
          have hinside := transportFields_inside_iff hipPacket (sizedIpHeader?_l4_le hsized)
          rw [← hnamed, hproto] at hinside
          rw [dissectPacket_of_layers hethernet hip, TcpOptionsCaptured, hsized]
          constructor
          · intro h other hother
            cases hother
            exact hinside.mp (h _ rfl)
          · intro hcaptured packet hpacket
            cases hpacket
            exact hinside.mpr (hcaptured header rfl)

/-- A TCP segment of twenty bytes whose data offset announces sixty. -/
def shortOptionsFrame : Bytes :=
  List.replicate 12 0 ++ [0x08, 0x00, 0x45] ++ List.replicate 8 0 ++ [0x06] ++
    List.replicate 22 0 ++ [0xF0] ++ List.replicate 7 0

/-- Its payload is said to start forty bytes behind its end. -/
theorem payload_outside_of_short_options :
    ¬ ∀ packet, dissectPacket shortOptionsFrame = .ok (some packet) →
      PayloadInside shortOptionsFrame packet := by
  intro h
  have hrange := (h _ rfl).range
  exact absurd hrange (by decide)

end GeSensor.Dissectors
