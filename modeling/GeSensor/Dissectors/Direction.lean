/-
  Dissectors/Direction.lean --- the two directions of a session have one protocol name.

  Every comparison of the identification asks for a port on either side, so that exchanging
  the ports changes none of them.  What is left is the payload: the TCP payload reaches to
  the end of the frame, so that the HTTP heuristic sees the payload bytes and nothing else.
-/
import GeSensor.Dissectors.IpHeaders
import GeSensor.Dissectors.Network

set_option autoImplicit false

namespace GeSensor.Dissectors

open GeSensor.Foundation
open GeSensor.Net

/-- The frame reaches a transport header of this protocol with all its `size` bytes. -/
def ReachesHeader (frame : Bytes) (protocol : UInt8) (size : Nat) : Prop :=
  ∃ header, sizedIpHeader? frame = some header ∧ header.protocol = protocol ∧
    header.l4 + size ≤ frame.length

/-- The bytes of the reported payload. -/
def payloadBytes (frame : Bytes) (packet : PacketMetadata) : Bytes :=
  (frame.drop packet.payloadOffset).take packet.payloadLen

/-- A packet with its ports exchanged uses the same ports. -/
theorem PacketMetadata.usesPort_of_exchanged {packet reply : PacketMetadata}
    (hsrc : reply.srcPort = packet.dstPort) (hdst : reply.dstPort = packet.srcPort)
    (ports : List UInt16) : reply.usesPort ports = packet.usesPort ports := by
  rw [PacketMetadata.usesPort, hsrc, hdst, Bool.or_comm, PacketMetadata.usesPort]

/-- A frame that reaches a transport header is described by it. -/
theorem layers_of_reachesHeader {frame : Bytes} {protocol : UInt8} {size : Nat}
    {packet : PacketMetadata} (h : ReachesHeader frame protocol size)
    (hdissect : dissectPacket frame = .ok (some packet)) :
    ∃ l4 ipPacket, ipPacket.ipProto = protocol ∧ l4 + size ≤ frame.length ∧
      packet = transportNamed frame l4 ipPacket := by
  obtain ⟨header, hheader, hproto, hfits⟩ := h
  obtain ⟨⟨ethertype, l3, hnetwork⟩, _⟩ := dissectPacket_sized hdissect
  obtain ⟨ethPacket, hethernet, _⟩ := ethernetLayer_of_networkHeader hnetwork
  have hlayer := ipLayer_sized hethernet
  rw [hheader] at hlayer
  obtain ⟨ipPacket, hip, _, _, hipProto⟩ := hlayer
  cases (dissectPacket_of_layers hethernet hip).symm.trans hdissect
  exact ⟨header.l4, ipPacket, hipProto.trans hproto, hfits, rfl⟩

/-! ## One transport header -/

section

variable {frame : Bytes} {l4 : Nat} {packet : PacketMetadata}

theorem transportFields_of_tcp (hproto : packet.ipProto = 6) (hfits : l4 + 20 ≤ frame.length) :
    transportFields frame l4 packet = tcpHeaderFields frame l4 packet :=
  (if_pos hproto).trans (if_neg (Nat.not_lt.mpr hfits))

theorem transportFields_of_udp (hproto : packet.ipProto = 17) (hfits : l4 + 8 ≤ frame.length) :
    transportFields frame l4 packet = udpHeaderFields frame l4 packet := by
  have htcp : ¬ packet.ipProto = ipProtoTcp := by
    rw [hproto]
    decide
  exact (if_neg htcp).trans ((if_pos hproto).trans (if_neg (Nat.not_lt.mpr hfits)))

/-- The payload of a TCP packet reaches to the end of the frame. -/
theorem dissectHttp_tcpHeaderFields (hlen : 4 < (tcpHeaderFields frame l4 packet).payloadLen) :
    dissectHttp frame (tcpHeaderFields frame l4 packet).payloadOffset =
      .ok (payloadInfo (payloadBytes frame (tcpHeaderFields frame l4 packet))) := by
  have hend : (tcpHeaderFields frame l4 packet).payloadLen =
      frame.length - (tcpHeaderFields frame l4 packet).payloadOffset := rfl
  refine dissectHttp_answers.of_part ?_
  rw [getFrom?, if_pos (by omega), payloadBytes, List.take_of_length_le]
  rw [List.length_drop]
  exact Nat.le_of_eq hend.symm

end

/-! ## Two directions -/

/-- Packets that are identified alike have one name. -/
theorem identifiedName_eq {forth back : Bytes} {packet reply : PacketMetadata}
    (h : identifyProtocol back reply = identifyProtocol forth packet) :
    identifiedName back reply = identifiedName forth packet := by
  rw [identifyProtocol_eq_ok, identifyProtocol_eq_ok] at h
  exact Except.ok.inj h

/-- `dissect_packet` gives the two directions of a session one name: frames that reach a TCP
header, or a UDP header, with the ports exchanged and the same payload. -/
theorem protocolName_direction_independent {forth back : Bytes} {packet reply : PacketMetadata}
    (hheaders : ReachesHeader forth 6 20 ∧ ReachesHeader back 6 20 ∨
      ReachesHeader forth 17 8 ∧ ReachesHeader back 17 8)
    (hpacket : dissectPacket forth = .ok (some packet))
    (hreply : dissectPacket back = .ok (some reply)) (hsrc : reply.srcPort = packet.dstPort)
    (hdst : reply.dstPort = packet.srcPort) (hlen : reply.payloadLen = packet.payloadLen)
    (hpayload : payloadBytes back reply = payloadBytes forth packet) :
    reply.protocolName = packet.protocolName := by
  rcases hheaders with ⟨hforth, hback⟩ | ⟨hforth, hback⟩
  · obtain ⟨l4, ip, hproto, hfits, rfl⟩ := layers_of_reachesHeader hforth hpacket
    obtain ⟨l4', ip', hproto', hfits', rfl⟩ := layers_of_reachesHeader hback hreply
    have hsame : (tcpHeaderFields back l4' ip').ipProto = (tcpHeaderFields forth l4 ip).ipProto :=
      hproto'.trans hproto.symm
    rw [transportNamed, transportNamed, transportFields_of_tcp hproto hfits,
      transportFields_of_tcp hproto' hfits'] at hsrc hdst hlen hpayload ⊢
    refine identifiedName_eq (identifyProtocol_congr_ports hsame
      (PacketMetadata.usesPort_of_exchanged hsrc hdst) hlen rfl fun _ hlong => ?_)
    rw [dissectHttp_tcpHeaderFields hlong, dissectHttp_tcpHeaderFields (hlen ▸ hlong)]
    exact congrArg (fun part => Except.ok (payloadInfo part)) hpayload
  · -- The payload of a UDP packet is not looked at.
    obtain ⟨l4, ip, hproto, hfits, rfl⟩ := layers_of_reachesHeader hforth hpacket
    obtain ⟨l4', ip', hproto', hfits', rfl⟩ := layers_of_reachesHeader hback hreply
    have hsame : (udpHeaderFields back l4' ip').ipProto = (udpHeaderFields forth l4 ip).ipProto :=
      hproto'.trans hproto.symm
    have hudp : ¬ (udpHeaderFields forth l4 ip).ipProto = ipProtoTcp := by
      have hproto17 : (udpHeaderFields forth l4 ip).ipProto = 17 := hproto
      rw [hproto17]
      decide
    rw [transportNamed, transportNamed, transportFields_of_udp hproto hfits,
      transportFields_of_udp hproto' hfits'] at hsrc hdst hlen ⊢
    exact identifiedName_eq (identifyProtocol_congr_ports hsame
      (PacketMetadata.usesPort_of_exchanged hsrc hdst) hlen rfl fun htcp => absurd htcp hudp)

/-- An IPv4 TCP frame between two ports, without payload. -/
def sessionFrame (srcPort dstPort : UInt16) : Bytes :=
  List.replicate 12 0 ++ [0x08, 0x00, 0x45, 0, 0, 40, 0, 0, 0, 0, 64, 6, 0, 0] ++
    List.replicate 8 0 ++ be16Bytes srcPort ++ be16Bytes dstPort ++ List.replicate 8 0 ++
    [0x50, 0x10, 0, 0, 0, 0, 0, 0]

theorem protocolName_both_ways_tls :
    ∃ packet reply, dissectPacket (sessionFrame 51000 8443) = .ok (some packet) ∧
      dissectPacket (sessionFrame 8443 51000) = .ok (some reply) ∧
      reply.protocolName = packet.protocolName := by
  have hforth : ReachesHeader (sessionFrame 51000 8443) 6 20 := ⟨_, rfl, rfl, by decide⟩
  have hback : ReachesHeader (sessionFrame 8443 51000) 6 20 := ⟨_, rfl, rfl, by decide⟩
  exact ⟨_, _, rfl, rfl, protocolName_direction_independent (Or.inl ⟨hforth, hback⟩) rfl rfl rfl
    rfl rfl rfl⟩

end GeSensor.Dissectors
