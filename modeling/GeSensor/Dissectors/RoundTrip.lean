/-
  Dissectors/RoundTrip.lean --- dissection inverts the encoding of headers.

  Each layer reads from the bytes of its header the values they were made of,
  whatever follows.  The layers are put together with the equation that takes the
  dissection of a frame behind its Ethernet header.
-/
import GeSensor.Dissectors.Network
import GeSensor.Net.Wire

set_option autoImplicit false

namespace GeSensor.Dissectors

open GeSensor.Foundation
open GeSensor.Net

/-- The metadata describes the frame: every header field that the metadata has is the
frame's, and the payload is where the frame has it. -/
structure PacketMetadata.Describes (packet : PacketMetadata) (frame : WireFrame) : Prop where
  dstMac : packet.dstMac = frame.ethernet.dst
  srcMac : packet.srcMac = frame.ethernet.src
  /-- the low twelve bits of the tag -/
  vlanId : packet.vlanId = frame.ethernet.tci.map (· &&& 0x0FFF)
  ethertype : packet.ethertype = frame.network.ethertype
  srcIp : packet.srcIp = some frame.network.src
  dstIp : packet.dstIp = some frame.network.dst
  ipTtl : packet.ipTtl = frame.network.ttl
  ipProto : packet.ipProto = frame.segment.protocol
  ipTotalLen : packet.ipTotalLen = frame.network.totalLen
  srcPort : packet.srcPort = frame.segment.srcPort
  dstPort : packet.dstPort = frame.segment.dstPort
  tcp : ∀ header payload, frame.segment = .tcp header payload →
    packet.tcpSeq = header.seq ∧ packet.tcpAck = header.ack ∧ packet.tcpFlags = header.flags ∧
      packet.tcpWindow = header.window
  payloadOffset : packet.payloadOffset = frame.headerLen
  payloadLen : packet.payloadLen = frame.segment.payload.length
  payload : frame.encode.drop packet.payloadOffset = frame.segment.payload

/-! ## Ethernet -/

/-- The metadata of an Ethernet header. -/
def ethernetMetadata (header : EthernetHeader) (ethertype : UInt16) : PacketMetadata where
  dstMac := header.dst
  srcMac := header.src
  vlanId := header.tci.map (· &&& 0x0FFF)
  ethertype := ethertype

section

variable (header : EthernetHeader) (ethertype : UInt16) (rest : Bytes)

/-- What stands behind each address. -/
theorem ethernet_drop_dst :
    (header.encode ethertype ++ rest).drop 6 =
      header.src.toList ++ (header.encodeTag ++ (be16Bytes ethertype ++ rest)) := by
  rw [EthernetHeader.encode, List.append_assoc, List.drop_left' (Vector.length_toList ..),
    List.append_assoc, List.append_assoc]

theorem ethernet_drop_src :
    (header.encode ethertype ++ rest).drop 12 =
      header.encodeTag ++ (be16Bytes ethertype ++ rest) :=
  drop_add_of_drop 6 (ethernet_drop_dst header ethertype rest) (Vector.length_toList ..)

/-- The Ethernet layer reads the header it was made of, and ends where that ends. -/
theorem ethernetLayer_encode (h : ethertype ≠ ethertypeVlan) :
    ethernetLayer (header.encode ethertype ++ rest) =
        some (header.length, ethernetMetadata header ethertype) ∧
      (header.encode ethertype ++ rest).drop header.length = rest := by
  have hdst : bytesAt (header.encode ethertype ++ rest) 0 6 = header.dst := by
    rw [EthernetHeader.encode, List.append_assoc, bytesAt_toList]
  have hsrc : bytesAt (header.encode ethertype ++ rest) 6 6 = header.src :=
    bytesAt_of_drop (ethernet_drop_dst header ethertype rest)
  have hbehind := ethernet_drop_src header ethertype rest
  have hlength : (header.encode ethertype ++ rest).length = header.length + rest.length := by
    rw [List.length_append, header.length_encode]
  rw [ethernetLayer, hdst, hsrc, ethernetMetadata]
  unfold EthernetHeader.length EthernetHeader.encodeTag at *
  cases htci : header.tci with
  | none =>
      rw [htci] at hbehind hlength
      dsimp only [List.nil_append] at hbehind hlength
      have hend := drop_add_of_drop 2 hbehind rfl
      rw [if_neg (by omega), be16At_of_drop hbehind, if_neg h]
      exact ⟨rfl, hend⟩
  | some tci =>
      rw [htci] at hbehind hlength
      dsimp only at hbehind hlength
      rw [List.append_assoc] at hbehind
      have hvlan : be16At (header.encode ethertype ++ rest) 12 = ethertypeVlan :=
        be16At_of_drop hbehind
      have htag := drop_add_of_drop 2 hbehind rfl
      have hinner := drop_add_of_drop 2 htag rfl
      have hend := drop_add_of_drop 2 hinner rfl
      rw [if_neg (by omega), if_pos hvlan, if_neg (by omega), be16At_of_drop htag,
        be16At_of_drop hinner]
      exact ⟨rfl, hend⟩

end

/-! ## IP -/

section

variable (protocol : UInt8) (rest : Bytes)

/-- The first byte of an IPv4 header counts its words. -/
theorem ihlAt_encode (header : Ipv4Header) :
    ihlAt (header.encode protocol ++ rest) 0 = 4 * header.options.headerWords := by
  have hfits := header.options.fits
  have hfirst : byteAt (header.encode protocol ++ rest) 0 =
      .ofNat (4 * 16 + header.options.headerWords) := rfl
  rw [ihlAt_eq, hfirst, UInt8.toNat_ofNat', Options.headerWords]
  omega

/-- The metadata with the fields of an IP header. -/
def PacketMetadata.withNetwork (packet : PacketMetadata) (header : NetworkHeader)
    (protocol : UInt8) : PacketMetadata :=
  { packet with
    ipTotalLen := header.totalLen
    ipTtl := header.ttl
    ipProto := protocol
    srcIp := some header.src
    dstIp := some header.dst }

theorem ipv4Layer_encode (header : Ipv4Header) (packet : PacketMetadata) :
    ipv4Layer (header.encode protocol ++ rest) 0 packet =
      some (4 * header.options.headerWords, packet.withNetwork (.ipv4 header) protocol) := by
  have hsrc : (header.encode protocol ++ rest).drop 12 =
      header.src.toList ++ (header.dst.toList ++ (header.options.encode ++ rest)) := by
    rw [Ipv4Header.encode, List.append_assoc, List.append_assoc, List.append_assoc]
    rfl
  have hdst := drop_add_of_drop 4 hsrc (Vector.length_toList ..)
  have htotalLen : be16At (header.encode protocol ++ rest) 2 = header.totalLen :=
    be16_be16Bytes header.totalLen
  have hlength : (header.encode protocol ++ rest).length =
      4 * header.options.headerWords + rest.length := by
    rw [List.length_append, header.length_encode]
  have hwords : 5 ≤ header.options.headerWords := Nat.le_add_right 5 _
  rw [ipv4Layer, ihlAt_encode, if_neg (by omega)]
  simp only [Nat.zero_add]
  rw [htotalLen, bytesAt_of_drop hsrc, bytesAt_of_drop hdst]
  rfl

theorem ipv6Layer_encode (header : Ipv6Header) (packet : PacketMetadata) :
    ipv6Layer (header.encode protocol ++ rest) 0 packet =
      some (40, packet.withNetwork (.ipv6 header) protocol) := by
  have hsrc : (header.encode protocol ++ rest).drop 8 =
      header.src.toList ++ (header.dst.toList ++ rest) := by
    rw [Ipv6Header.encode, List.append_assoc, List.append_assoc]
    rfl
  have hdst := drop_add_of_drop 16 hsrc (Vector.length_toList ..)
  have hpayloadLen : be16At (header.encode protocol ++ rest) 4 = header.payloadLen :=
    be16_be16Bytes header.payloadLen
  rw [ipv6Layer, List.length_append, header.length_encode, if_neg (by omega)]
  simp only [Nat.zero_add]
  rw [hpayloadLen, bytesAt_of_drop hsrc, bytesAt_of_drop hdst]
  rfl

/-- The IP layer reads the header it was made of, and ends where that ends. -/
theorem ipLayer_encode (header : NetworkHeader) {packet : PacketMetadata}
    (h : packet.ethertype = header.ethertype) :
    ipLayer (header.encode protocol ++ rest) 0 packet =
      some (header.length, packet.withNetwork header protocol) := by
  cases header with
  | ipv4 header =>
      have hv4 : packet.ethertype = ethertypeIpv4 := h
      rw [ipLayer, if_pos hv4]
      exact ipv4Layer_encode protocol rest header packet
  | ipv6 header =>
      have hv6 : packet.ethertype = ethertypeIpv6 := h
      rw [ipLayer, hv6, if_neg (by decide), if_pos rfl]
      exact ipv6Layer_encode protocol rest header packet

end

/-! ## Transport -/

/-- The metadata with the fields of a transport header. -/
def PacketMetadata.withSegment (packet : PacketMetadata) : Segment → PacketMetadata
  | .tcp header payload =>
      { packet with
        srcPort := header.srcPort
        dstPort := header.dstPort
        tcpSeq := header.seq
        tcpAck := header.ack
        tcpFlags := header.flags
        tcpWindow := header.window
        protocolName := .tcp
        payloadOffset := 4 * header.options.headerWords
        payloadLen := payload.length }
  | .udp header payload _ =>
      { packet with
        srcPort := header.srcPort
        dstPort := header.dstPort
        protocolName := .udp
        payloadOffset := 8
        payloadLen := payload.length }

theorem tcpHeaderFields_encode (header : TcpHeader) (payload : Bytes) (packet : PacketMetadata) :
    tcpHeaderFields (header.encode ++ payload) 0 packet =
      packet.withSegment (.tcp header payload) := by
  have hfits := header.options.fits
  have hreserved := header.reserved.isLt
  have hoffset : byteAt (header.encode ++ payload) 12 =
      .ofNat (header.options.headerWords * 16 + header.reserved) := rfl
  have hwords : (byteAt (header.encode ++ payload) 12 >>> 4).toNat =
      header.options.headerWords := by
    rw [hoffset, toNat_shiftRight_four, UInt8.toNat_ofNat', Options.headerWords]
    omega
  have hstart : max (header.options.headerWords * 4) 20 = 4 * header.options.headerWords := by
    rw [Options.headerWords]
    omega
  have hsrcPort : be16At (header.encode ++ payload) 0 = header.srcPort := be16_be16Bytes _
  have hdstPort : be16At (header.encode ++ payload) 2 = header.dstPort := be16_be16Bytes _
  have hseq : be32At (header.encode ++ payload) 4 = header.seq := be32_be32Bytes _
  have hack : be32At (header.encode ++ payload) 8 = header.ack := be32_be32Bytes _
  have hwindow : be16At (header.encode ++ payload) 14 = header.window := be16_be16Bytes _
  rw [tcpHeaderFields]
  simp only [Nat.zero_add]
  rw [hwords, hstart, hsrcPort, hdstPort, hseq, hack, hwindow, List.length_append,
    header.length_encode, Nat.add_sub_cancel_left]
  rfl

theorem udpHeaderFields_encode (header : UdpHeader) {payload : Bytes}
    (fits : 8 + payload.length < 2 ^ 16) (packet : PacketMetadata) :
    udpHeaderFields (header.encode payload.length ++ payload) 0 packet =
      packet.withSegment (.udp header payload fits) := by
  have hsrcPort : be16At (header.encode payload.length ++ payload) 0 = header.srcPort :=
    be16_be16Bytes _
  have hdstPort : be16At (header.encode payload.length ++ payload) 2 = header.dstPort :=
    be16_be16Bytes _
  have hudpLen : (be16At (header.encode payload.length ++ payload) 4).toNat =
      8 + payload.length := by
    have hword : be16At (header.encode payload.length ++ payload) 4 =
        .ofNat (8 + payload.length) := be16_be16Bytes _
    rw [hword, UInt16.toNat_ofNat', Nat.mod_eq_of_lt fits]
  have hlength : (header.encode payload.length).length = 8 := rfl
  rw [udpHeaderFields, udpHeaderLen]
  simp only [Nat.zero_add]
  rw [hsrcPort, hdstPort, hudpLen, List.length_append, hlength, Nat.add_sub_cancel_left,
    Nat.min_self]
  rfl

/-- The transport layer reads the header it was made of, behind any other. -/
theorem transportFields_encode (front : Bytes) (segment : Segment) {packet : PacketMetadata}
    (hproto : packet.ipProto = segment.protocol) :
    transportFields (front ++ segment.encode) front.length packet =
      (packet.withSegment segment).relocate front.length := by
  have hbehind : (front ++ segment.encode).drop front.length = segment.encode := List.drop_left
  cases segment with
  | tcp header payload =>
      have htcp : packet.ipProto = ipProtoTcp := hproto
      have hwords : 5 ≤ header.options.headerWords := Nat.le_add_right 5 _
      have hfields := tcpHeaderFields_relocate (front ++ Segment.encode (.tcp header payload))
        front.length 0 packet
      rw [hbehind, Segment.encode, tcpHeaderFields_encode] at hfields
      rw [transportFields, if_pos htcp, if_neg, Segment.encode]
      · exact hfields
      · rw [Segment.encode, List.length_append, List.length_append, header.length_encode]
        omega
  | udp header payload fits =>
      have hudp : packet.ipProto = ipProtoUdp := hproto
      have hfields := udpHeaderFields_relocate (front ++ Segment.encode (.udp header payload fits))
        front.length 0 packet
      rw [hbehind, Segment.encode, udpHeaderFields_encode header fits] at hfields
      rw [transportFields, hudp, if_neg (by decide), if_pos rfl, if_neg, Segment.encode]
      · exact hfields
      · have hlength : (header.encode payload.length).length = 8 := rfl
        rw [Segment.encode, List.length_append, List.length_append, hlength, udpHeaderLen]
        omega

/-! ## The frame -/

/-- The metadata with a frame's fields, under a name. -/
def fieldsOf (frame : WireFrame) (protocolName : ProtocolName) : PacketMetadata :=
  let ethernet := ethernetMetadata frame.ethernet frame.network.ethertype
  let network := ethernet.withNetwork frame.network frame.segment.protocol
  { network.withSegment frame.segment with
    payloadOffset := frame.headerLen
    protocolName := protocolName }

theorem fieldsOf_describes (frame : WireFrame) (protocolName : ProtocolName) :
    (fieldsOf frame protocolName).Describes frame := by
  have hpayload := frame.drop_headerLen
  obtain ⟨ethernet, network, segment⟩ := frame
  cases segment with
  | tcp header payload =>
      refine ⟨rfl, rfl, rfl, rfl, rfl, rfl, rfl, rfl, rfl, rfl, rfl, ?_, rfl, rfl, hpayload⟩
      rintro other rest heq
      cases heq
      exact ⟨rfl, rfl, rfl, rfl⟩
  | udp header payload fits =>
      refine ⟨rfl, rfl, rfl, rfl, rfl, rfl, rfl, rfl, rfl, rfl, rfl, ?_, rfl, rfl, hpayload⟩
      rintro other rest ⟨⟩

/-- Behind the Ethernet header stand the other two; where the payload is, is counted
from the start of the frame in the end. -/
theorem networkFields_encode (frame : WireFrame) :
    ∃ protocolName,
      (networkFields (frame.network.encode frame.segment.protocol ++ frame.segment.encode)
        (ethernetMetadata frame.ethernet frame.network.ethertype)).relocate frame.ethernet.length =
        fieldsOf frame protocolName := by
  obtain ⟨ethernet, network, segment⟩ := frame
  dsimp only
  have hproto : ((ethernetMetadata ethernet network.ethertype).withNetwork network
      segment.protocol).ipProto = segment.protocol := rfl
  have htransport := transportFields_encode (network.encode segment.protocol) segment hproto
  have hposition := network.length_pos
  rw [network.length_encode] at htransport
  rw [networkFields, ipLayer_encode segment.protocol segment.encode network rfl]
  dsimp only
  rw [transportNamed, htransport]
  have hpayload : (((ethernetMetadata ethernet network.ethertype).withNetwork network
      segment.protocol).withSegment segment).payloadOffset = segment.headerLen := by
    cases segment <;> rfl
  have hsegment : 0 < segment.headerLen := by
    cases segment with
    | tcp header payload =>
        rw [Segment.headerLen, Options.headerWords]
        omega
    | udp header payload fits => exact Nat.succ_pos _
  generalize identifiedName _ _ = protocolName
  refine ⟨protocolName, ?_⟩
  rw [PacketMetadata.relocate, PacketMetadata.relocate, hpayload, if_neg (by omega)]
  dsimp only
  rw [if_neg (by omega), ← Nat.add_assoc]
  rfl

/-- For every frame: its encoding is dissected, and the metadata describes it. -/
theorem dissectPacket_encode (frame : WireFrame) :
    ∃ packet, dissectPacket frame.encode = .ok (some packet) ∧ packet.Describes frame := by
  have hethertype : frame.network.ethertype ≠ ethertypeVlan := by
    cases frame.network with
    | ipv4 header => exact (by decide : (0x0800 : UInt16) ≠ ethertypeVlan)
    | ipv6 header => exact (by decide : (0x86DD : UInt16) ≠ ethertypeVlan)
  obtain ⟨hethernet, hbehind⟩ := ethernetLayer_encode frame.ethernet frame.network.ethertype
    (frame.network.encode frame.segment.protocol ++ frame.segment.encode) hethertype
  obtain ⟨protocolName, hfields⟩ := networkFields_encode frame
  rw [dissectPacket_eq, WireFrame.encode, hethernet, Option.map_some]
  dsimp only
  rw [hbehind, hfields]
  exact ⟨_, rfl, fieldsOf_describes frame protocolName⟩

end GeSensor.Dissectors
