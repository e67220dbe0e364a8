/-
  Dissectors/Snapping.lean --- what cutting a frame off does to its metadata.

  A capture with a snap length sees a beginning of each frame.  Every layer reads its
  header only when all of it is there, so that a layer is reported as it is or not at
  all; only the payload gets shorter.
-/
import GeSensor.Dissectors.IpHeaders
import GeSensor.Dissectors.Padding

set_option autoImplicit false

namespace GeSensor.Dissectors

open GeSensor.Foundation
open GeSensor.Net

/-! ## The fields by layer -/

namespace PacketMetadata

/-- The fields of the Ethernet header. -/
def link (packet : PacketMetadata) :
    Vector UInt8 6 × Vector UInt8 6 × Option UInt16 × UInt16 :=
  (packet.srcMac, packet.dstMac, packet.vlanId, packet.ethertype)

/-- The fields of the IP header. -/
def network (packet : PacketMetadata) :
    Option IpAddr × Option IpAddr × UInt8 × UInt8 × UInt16 :=
  (packet.srcIp, packet.dstIp, packet.ipProto, packet.ipTtl, packet.ipTotalLen)

/-- The ports and the TCP fields. -/
def transport (packet : PacketMetadata) :
    UInt16 × UInt16 × UInt8 × UInt16 × UInt32 × UInt32 :=
  (packet.srcPort, packet.dstPort, packet.tcpFlags, packet.tcpWindow, packet.tcpSeq,
    packet.tcpAck)

/-- What is reported of a beginning of a frame is what is reported of the frame, as
far as it is reported. -/
structure SnapOf (short whole : PacketMetadata) : Prop where
  link : short.link = whole.link
  network : (short.srcIp = none ∧ short.dstIp = none) ∨ short.network = whole.network
  transport : short.transport = (0, 0, 0, 0, 0, 0) ∨ short.transport = whole.transport
  payloadLen : short.payloadLen ≤ whole.payloadLen

end PacketMetadata

/-! ## One layer -/

section

variable {front : Bytes} {offset : Nat} {packet : PacketMetadata}

/-- The IP layer leaves the Ethernet fields and the transport fields alone. -/
theorem ipLayer_frame {layer : Layer} (h : ipLayer front offset packet = some layer) :
    layer.2.link = packet.link ∧ layer.2.transport = packet.transport := by
  unfold ipLayer at h
  split at h
  · unfold ipv4Layer at h
    split at h
    · cases h
    · cases h
      exact ⟨rfl, rfl⟩
  · split at h
    · unfold ipv6Layer at h
      split at h
      · cases h
      · cases h
        exact ⟨rfl, rfl⟩
    · cases h

/-- The transport layer leaves the layers below alone. -/
theorem transportNamed_frame (data : Bytes) (offset : Nat) (packet : PacketMetadata) :
    (transportNamed data offset packet).link = packet.link ∧
      (transportNamed data offset packet).network = packet.network := by
  unfold transportNamed transportFields
  repeat' split
  all_goals exact ⟨rfl, rfl⟩

theorem tcpHeaderFields_append (h : offset + 20 ≤ front.length) (packet : PacketMetadata)
    (back : Bytes) :
    (tcpHeaderFields front offset packet).transport =
        (tcpHeaderFields (front ++ back) offset packet).transport ∧
      (tcpHeaderFields front offset packet).payloadLen ≤
        (tcpHeaderFields (front ++ back) offset packet).payloadLen := by
  unfold tcpHeaderFields PacketMetadata.transport be32At
  dsimp only
  rw [be16At_append_left (by omega), be16At_append_left (by omega), be16At_append_left (by omega),
    byteAt_append_left (by omega), byteAt_append_left (by omega), byteAt_append_left (by omega),
    byteAt_append_left (by omega), byteAt_append_left (by omega), byteAt_append_left (by omega),
    byteAt_append_left (by omega), byteAt_append_left (by omega), byteAt_append_left (by omega),
    byteAt_append_left (by omega), List.length_append]
  exact ⟨rfl, by omega⟩

theorem udpHeaderFields_append (h : offset + 8 ≤ front.length) (packet : PacketMetadata)
    (back : Bytes) :
    (udpHeaderFields front offset packet).transport =
        (udpHeaderFields (front ++ back) offset packet).transport ∧
      (udpHeaderFields front offset packet).payloadLen ≤
        (udpHeaderFields (front ++ back) offset packet).payloadLen := by
  unfold udpHeaderFields PacketMetadata.transport
  dsimp only
  rw [be16At_append_left (by omega), be16At_append_left (by omega), be16At_append_left (by omega),
    List.length_append]
  exact ⟨rfl, by omega⟩

/-- A transport header is read the same or not at all, and its payload only grows. -/
theorem transportFields_append (hpacket : packet.NoPayload)
    (hunset : packet.transport = (0, 0, 0, 0, 0, 0)) (back : Bytes) :
    ((transportFields front offset packet).transport = (0, 0, 0, 0, 0, 0) ∨
      (transportFields front offset packet).transport =
        (transportFields (front ++ back) offset packet).transport) ∧
    (transportFields front offset packet).payloadLen ≤
      (transportFields (front ++ back) offset packet).payloadLen := by
  have hlength : (front ++ back).length = front.length + back.length := List.length_append
  -- A header that is cut off leaves the fields as they were.
  have hcut : ∀ name, (({ packet with protocolName := name } : PacketMetadata).transport =
      (0, 0, 0, 0, 0, 0)) ∧ ∀ len, ({ packet with protocolName := name } :
        PacketMetadata).payloadLen ≤ len :=
    fun name => ⟨hunset, fun len => hpacket.len ▸ Nat.zero_le len⟩
  unfold transportFields
  split
  · split
    · exact ⟨Or.inl (hcut _).1, (hcut _).2 _⟩
    · rename_i hheader
      rw [if_neg (by omega)]
      obtain ⟨hfields, hlen⟩ := tcpHeaderFields_append (Nat.le_of_not_lt hheader) packet back
      exact ⟨Or.inr hfields, hlen⟩
  · split
    · split
      · exact ⟨Or.inl (hcut _).1, (hcut _).2 _⟩
      · rename_i hheader
        rw [udpHeaderLen] at *
        rw [if_neg (by omega)]
        obtain ⟨hfields, hlen⟩ := udpHeaderFields_append (Nat.le_of_not_lt hheader) packet back
        exact ⟨Or.inr hfields, hlen⟩
    · split
      · split
        · exact ⟨Or.inl (hcut _).1, (hcut _).2 _⟩
        · rename_i hheader
          rw [if_neg (by omega)]
          refine ⟨Or.inl hunset, ?_⟩
          rw [icmpHeaderFields, icmpHeaderFields, icmpHeaderLen]
          dsimp only
          omega
      · refine ⟨Or.inl hunset, ?_⟩
        dsimp only
        omega

end

/-! ## The whole frame -/

/-- The metadata of a longer frame extends that of the beginning. -/
theorem dissectPacket_append {front : Bytes} {short : PacketMetadata}
    (h : dissectPacket front = .ok (some short)) (back : Bytes) :
    ∃ whole, dissectPacket (front ++ back) = .ok (some whole) ∧ short.SnapOf whole := by
  obtain ⟨l3, ethPacket, hethernet, hlayers⟩ := layers_of_dissectPacket h
  have hlonger := ethernetLayer_append hethernet back
  have hlink : ethPacket = ethPacket.linkOnly :=
    ethernetLayer_linkOnly hethernet ethPacket.protocolName
  have hethUnset : ethPacket.transport = (0, 0, 0, 0, 0, 0) := by
    rw [hlink]
    rfl
  rcases hlayers with ⟨_, protocolName, rfl⟩ | ⟨l4, ipPacket, hip, rfl⟩
  · have hnetwork : ethPacket.srcIp = none ∧ ethPacket.dstIp = none := by
      rw [hlink]
      exact ⟨rfl, rfl⟩
    have hlen : ∀ len, ethPacket.payloadLen ≤ len := fun len =>
      (ethernetLayer_noPayload hethernet).1.len ▸ Nat.zero_le len
    cases hlongerIp : ipLayer (front ++ back) l3 ethPacket with
    | none =>
        obtain ⟨otherName, hwhole⟩ := dissectPacket_of_no_ip hlonger hlongerIp
        exact ⟨_, hwhole, rfl, Or.inl hnetwork, Or.inl hethUnset, hlen _⟩
    | some ip =>
        have hwhole := dissectPacket_of_layers hlonger hlongerIp
        have hframe := (transportNamed_frame (front ++ back) ip.1 ip.2).1
        exact ⟨_, hwhole, (hframe.trans (ipLayer_frame hlongerIp).1).symm, Or.inl hnetwork,
          Or.inl hethUnset, hlen _⟩
  · have hwhole := dissectPacket_of_layers hlonger (ipLayer_append hip back)
    have hipPacket : ipPacket.NoPayload :=
      (ipLayer_noPayload (ethernetLayer_noPayload hethernet).1 hip).1
    have hunset : ipPacket.transport = (0, 0, 0, 0, 0, 0) :=
      (ipLayer_frame hip).2.trans hethUnset
    obtain ⟨htransport, hlen⟩ := transportFields_append hipPacket hunset back
    obtain ⟨hlinkShort, hnetworkShort⟩ := transportNamed_frame front l4 ipPacket
    obtain ⟨hlinkWhole, hnetworkWhole⟩ := transportNamed_frame (front ++ back) l4 ipPacket
    exact ⟨_, hwhole, hlinkShort.trans hlinkWhole.symm,
      Or.inr (hnetworkShort.trans hnetworkWhole.symm), htransport, hlen⟩

/-- For every frame and every snap length: what is reported of the beginning is what is
reported of the frame, only less. -/
theorem snapping_reports_less {frame : Bytes} {snapLen : Nat} {short : PacketMetadata}
    (h : dissectPacket (frame.take snapLen) = .ok (some short)) :
    ∃ whole, dissectPacket frame = .ok (some whole) ∧ short.SnapOf whole := by
  have hwhole := dissectPacket_append h (frame.drop snapLen)
  rwa [List.take_append_drop] at hwhole

/-- A TCP packet whose header is cut off after its ports. -/
theorem snapping_ackFrame :
    ∃ whole, dissectPacket ackFrame = .ok (some whole) ∧
      PacketMetadata.SnapOf
        { srcIp := some (.newV4 192 168 1 100), dstIp := some (.newV4 10 0 0 1), ipProto := 6,
          ipTtl := 64, ipTotalLen := 40, ethertype := 0x0800, protocolName := .tcpTruncated }
        whole :=
  have hshort : dissectPacket (ackFrame.take 38) = .ok (some _) := rfl
  snapping_reports_less hshort

end GeSensor.Dissectors
