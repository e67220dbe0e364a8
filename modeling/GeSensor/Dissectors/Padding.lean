/-
  Dissectors/Padding.lean --- what bytes after the end of an IPv4 packet do to the
  metadata.

  Short packets are padded to the minimum length of an Ethernet frame, so that a
  frame can hold bytes behind the end that the IPv4 total length declares.  The UDP
  dissector bounds the payload by the length of the UDP header.  The TCP and ICMP
  dissectors take all that is captured: every pad byte is counted as payload.
-/
import GeSensor.Dissectors.Network

set_option autoImplicit false

namespace GeSensor.Dissectors

open GeSensor.Foundation
open GeSensor.Net

/-- The transport header that the protocol announces is complete, and a UDP header
declares what is there. -/
inductive TransportFits (frame : Bytes) (ip : IpHeader) : Prop where
  | tcp (hproto : ip.protocol = 6) {header : TransportHeader}
      (hheader : tcpHeader? frame ip.l4 = some header)
  | udp (hproto : ip.protocol = 17) {header : TransportHeader}
      (hheader : udpHeader? frame ip.l4 = some header)
      (hlength : ip.l4 + (be16At frame (ip.l4 + 4)).toNat = frame.length)
  | icmp (hproto : ip.protocol = 1) (hheader : ip.l4 + 8 ≤ frame.length)

/-- The frame is an IPv4 packet with nothing behind it: the total length ends where
the frame ends, and the headers fit into it. -/
structure ExactIpv4 (frame : Bytes) (l3 : Nat) (ip : IpHeader) : Prop where
  network : networkHeader? frame = some (0x0800, l3)
  header : ipv4Header? frame l3 = some ip
  totalLength : l3 + (be16At frame (l3 + 2)).toNat = frame.length
  transport : TransportFits frame ip

theorem ExactIpv4.ipHeader {frame : Bytes} {l3 : Nat} {ip : IpHeader}
    (h : ExactIpv4 frame l3 ip) : ipHeader? frame = some ip := by
  rw [ipHeader?, h.network]
  exact h.header

/-! ## The layers of a padded frame -/

/-- Pad bytes leave a whole Ethernet header as it is. -/
theorem ethernetLayer_append {frame : Bytes} {layer : Layer}
    (h : ethernetLayer frame = some layer) (pad : Bytes) :
    ethernetLayer (frame ++ pad) = some layer := by
  unfold ethernetLayer at h ⊢
  dsimp only at h ⊢
  rw [Option.ite_none_left_eq_some] at h
  obtain ⟨hheader, h⟩ := h
  rw [List.length_append, if_neg (by omega), be16At_append_left (by omega),
    bytesAt_append_left (by omega), bytesAt_append_left (by omega)]
  split at h
  · rename_i hvlan
    rw [Option.ite_none_left_eq_some] at h
    obtain ⟨htag, h⟩ := h
    rw [if_pos hvlan, if_neg (by omega), be16At_append_left (by omega),
      be16At_append_left (by omega), h]
  · rename_i hvlan
    rw [if_neg hvlan, h]

/-- So do they a whole IPv4 or IPv6 header. -/
theorem ipv4Layer_append {frame : Bytes} {offset : Nat} {packet : PacketMetadata} {layer : Layer}
    (h : ipv4Layer frame offset packet = some layer) (pad : Bytes) :
    ipv4Layer (frame ++ pad) offset packet = some layer := by
  unfold ipv4Layer ihlAt at h ⊢
  rw [Option.ite_none_left_eq_some] at h
  obtain ⟨hheader, h⟩ := h
  rw [List.length_append, byteAt_append_left (by omega), if_neg (by omega),
    be16At_append_left (by omega), byteAt_append_left (by omega), byteAt_append_left (by omega),
    bytesAt_append_left (by omega), bytesAt_append_left (by omega), h]

theorem ipv6Layer_append {frame : Bytes} {offset : Nat} {packet : PacketMetadata} {layer : Layer}
    (h : ipv6Layer frame offset packet = some layer) (pad : Bytes) :
    ipv6Layer (frame ++ pad) offset packet = some layer := by
  unfold ipv6Layer at h ⊢
  rw [Option.ite_none_left_eq_some] at h
  obtain ⟨hheader, h⟩ := h
  rw [List.length_append, if_neg (by omega), byteAt_append_left (by omega),
    byteAt_append_left (by omega), be16At_append_left (by omega),
    bytesAt_append_left (by omega), bytesAt_append_left (by omega), h]

theorem ipLayer_append {frame : Bytes} {offset : Nat} {packet : PacketMetadata} {layer : Layer}
    (h : ipLayer frame offset packet = some layer) (pad : Bytes) :
    ipLayer (frame ++ pad) offset packet = some layer := by
  unfold ipLayer at h ⊢
  split at h
  · rename_i hv4
    rw [if_pos hv4, ipv4Layer_append h]
  · rename_i hv4
    rw [Option.ite_none_right_eq_some] at h
    rw [if_neg hv4, if_pos h.1, ipv6Layer_append h.2]

/-! ## Payloads that reach the end -/

/-- The payload is whatever is captured behind `start`, padded or not. -/
def PayloadToEnd (frame : Bytes) (offset : Nat) (packet : PacketMetadata) (start : Nat) : Prop :=
  start ≤ frame.length ∧ ∀ pad,
    (transportNamed (frame ++ pad) offset packet).payloadLen = (frame ++ pad).length - start

/-- Such a payload grows with every pad byte. -/
theorem PayloadToEnd.append_eq_iff {frame : Bytes} {offset start : Nat} {packet : PacketMetadata}
    (h : PayloadToEnd frame offset packet start) (pad : Bytes) :
    transportNamed (frame ++ pad) offset packet = transportNamed frame offset packet ↔
      pad = [] := by
  obtain ⟨hstart, hlen⟩ := h
  constructor
  · intro heq
    have hpadded := hlen pad
    have hplain := hlen []
    rw [List.append_nil, ← heq, hpadded, List.length_append] at hplain
    exact List.eq_nil_of_length_eq_zero (by omega)
  · rintro rfl
    rw [List.append_nil]

theorem payloadToEnd_of_tcp {frame : Bytes} {offset : Nat} {packet : PacketMetadata}
    {header : TransportHeader} (hproto : packet.ipProto = ipProtoTcp)
    (hheader : tcpHeader? frame offset = some header) :
    PayloadToEnd frame offset packet
      (offset + max ((byteAt frame (offset + 12) >>> 4).toNat * 4) 20) := by
  rw [tcpHeader?, Option.ite_none_right_eq_some] at hheader
  obtain ⟨⟨hfixed, _, hcomplete⟩, _⟩ := hheader
  have hwords : (byteAt frame (offset + 12) >>> 4).toNat =
      (byteAt frame (offset + 12)).toNat / 16 := toNat_shiftRight_four _
  refine ⟨by omega, fun pad => ?_⟩
  have hlong : offset + 20 ≤ (frame ++ pad).length := by
    rw [List.length_append]
    omega
  have hdataOffset : byteAt (frame ++ pad) (offset + 12) = byteAt frame (offset + 12) :=
    byteAt_append_left (by omega) pad
  rw [transportNamed, transportFields, if_pos hproto, if_neg (by omega), tcpHeaderFields]
  dsimp only
  rw [hdataOffset]

theorem payloadToEnd_of_icmp {frame : Bytes} {offset : Nat} {packet : PacketMetadata}
    (hproto : packet.ipProto = ipProtoIcmp) (hheader : offset + 8 ≤ frame.length) :
    PayloadToEnd frame offset packet (offset + 8) := by
  refine ⟨hheader, fun pad => ?_⟩
  have hlong : offset + 8 ≤ (frame ++ pad).length := by
    rw [List.length_append]
    omega
  have hroom : min icmpHeaderLen ((frame ++ pad).length - offset) = 8 := by
    rw [icmpHeaderLen]
    omega
  rw [transportNamed, transportFields, hproto, if_neg (by decide), if_neg (by decide),
    if_pos (Or.inl rfl), if_neg (by omega), icmpHeaderFields]
  dsimp only
  rw [hroom]

/-! ## Payloads bounded by their header -/

/-- The UDP length ends the payload where the packet ends. -/
theorem transportNamed_append_of_udp {frame : Bytes} {offset : Nat} {packet : PacketMetadata}
    {header : TransportHeader} (hproto : packet.ipProto = ipProtoUdp)
    (hheader : udpHeader? frame offset = some header)
    (hlength : offset + (be16At frame (offset + 4)).toNat = frame.length) (pad : Bytes) :
    transportNamed (frame ++ pad) offset packet = transportNamed frame offset packet := by
  rw [udpHeader?, Option.ite_none_right_eq_some] at hheader
  obtain ⟨hcomplete, _⟩ := hheader
  have hfields : transportFields (frame ++ pad) offset packet =
      transportFields frame offset packet := by
    rw [transportFields, transportFields, hproto, if_neg (by decide), if_pos rfl, udpHeaderLen,
      List.length_append, if_neg (by omega), if_neg (by decide), if_pos rfl, if_neg (by omega)]
    unfold udpHeaderFields udpHeaderLen
    rw [List.length_append, be16At_append_left (by omega), be16At_append_left (by omega),
      be16At_append_left (by omega)]
    congr 1
    omega
  have hudp : (transportFields frame offset packet).ipProto = ipProtoUdp :=
    (transportFields_ips frame offset packet).2.2.trans hproto
  rw [transportNamed, transportNamed, hfields]
  congr 1
  -- The payload of a UDP packet is not looked at.
  unfold identifiedName identifyProtocol
  rw [hudp]
  rfl

/-- For every frame that ends with its IPv4 packet, and every sequence of pad bytes:
the metadata of the padded and the unpadded frame are the same exactly when there is
no padding or the packet is UDP. -/
theorem padding_invisible_iff {frame : Bytes} {l3 : Nat} {ip : IpHeader}
    (hexact : ExactIpv4 frame l3 ip) (pad : Bytes) :
    dissectPacket (frame ++ pad) = dissectPacket frame ↔ pad = [] ∨ ip.protocol = 17 := by
  obtain ⟨offset, ethPacket, ipPacket, hethernet, hip, _, _, hproto⟩ :=
    ipLayer_of_ipHeader hexact.ipHeader
  rw [dissectPacket_of_layers hethernet hip,
    dissectPacket_of_layers (ethernetLayer_append hethernet pad) (ipLayer_append hip pad),
    Except.ok.injEq, Option.some.injEq]
  cases hexact.transport with
  | tcp htcp hheader =>
      rw [htcp] at hproto
      rw [(payloadToEnd_of_tcp hproto hheader).append_eq_iff pad, htcp]
      exact (or_iff_left (by decide)).symm
  | udp hudp hheader hlength =>
      rw [hudp] at hproto
      exact iff_of_true (transportNamed_append_of_udp hproto hheader hlength pad) (Or.inr hudp)
  | icmp hicmp hheader =>
      rw [hicmp] at hproto
      rw [(payloadToEnd_of_icmp hproto hheader).append_eq_iff pad, hicmp]
      exact (or_iff_left (by decide)).symm

/-- A UDP packet with two bytes of payload. -/
def shortUdpFrame : Bytes :=
  [0, 0, 0, 0, 0, 0, 0, 0, 0, 0, 0, 0, 0x08, 0x00, 0x45, 0, 0, 30, 0, 0, 0, 0, 64, 17, 0, 0,
    192, 168, 1, 100, 10, 0, 0, 1, 0xC0, 0x00, 0, 7, 0, 10, 0, 0, 0x68, 0x69]

theorem shortUdpFrame_exact :
    ExactIpv4 shortUdpFrame 14
      { protocol := 17, src := .newV4 192 168 1 100, dst := .newV4 10 0 0 1, l4 := 34 } :=
  ⟨rfl, rfl, rfl, .udp rfl rfl rfl⟩

/-- Sixteen pad bytes make it a frame of minimum length. -/
theorem padding_invisible_shortUdp :
    dissectPacket (shortUdpFrame ++ List.replicate 16 0) = dissectPacket shortUdpFrame :=
  (padding_invisible_iff shortUdpFrame_exact (List.replicate 16 0)).mpr (Or.inr rfl)

/-- A TCP packet without payload. -/
def ackFrame : Bytes :=
  [0, 0, 0, 0, 0, 0, 0, 0, 0, 0, 0, 0, 0x08, 0x00, 0x45, 0, 0, 40, 0, 0, 0, 0, 64, 6, 0, 0,
    192, 168, 1, 100, 10, 0, 0, 1, 0xC0, 0x00, 0, 80, 0, 0, 0, 1, 0, 0, 0, 1, 0x50, 0x10,
    0xFF, 0xFF, 0, 0, 0, 0]

/-- Its six pad bytes are counted as payload. -/
theorem padding_counted_as_payload :
    (∃ ip, ExactIpv4 ackFrame 14 ip) ∧
      (∃ packet, dissectPacket ackFrame = .ok (some packet) ∧ packet.payloadLen = 0) ∧
      (∃ packet, dissectPacket (ackFrame ++ List.replicate 6 0) = .ok (some packet) ∧
        packet.payloadLen = 6) ∧
      dissectPacket (ackFrame ++ List.replicate 6 0) ≠ dissectPacket ackFrame := by
  have hexact : ∃ ip, ExactIpv4 ackFrame 14 ip := ⟨_, rfl, rfl, rfl, .tcp rfl rfl⟩
  refine ⟨hexact, ⟨_, rfl, rfl⟩, ⟨_, rfl, rfl⟩, ?_⟩
  decide

end GeSensor.Dissectors
