/-
  Dissectors/Network.lean --- the dissection above the Ethernet header.

  The network header and all that follows it are read relative to where the
  Ethernet header ends.  `networkFields` is the dissection of these bytes alone,
  as if the frame began with them; `dissectPacket` is the Ethernet layer followed
  by it, with the payload position counted from the start of the frame again.

  What holds of frames that differ in their Ethernet header only, or in what
  follows their last header, is proved with this equation.
-/
import GeSensor.Dissectors.Packet
import GeSensor.Foundation.ByteReads

set_option autoImplicit false

namespace GeSensor.Dissectors

open GeSensor.Foundation

/-- The metadata of bytes that start at `base` of a frame.  No payload starts at
offset zero: that is the default, and stays. -/
def PacketMetadata.relocate (base : Nat) (packet : PacketMetadata) : PacketMetadata :=
  { packet with
    payloadOffset := if packet.payloadOffset = 0 then 0 else base + packet.payloadOffset }

/-- The name that `identifyProtocol` returns. -/
def identifiedName (data : Bytes) (packet : PacketMetadata) : ProtocolName :=
  match identifyProtocol data packet with
  | .ok protocolName => protocolName
  | .error _ => packet.protocolName

theorem identifyProtocol_eq_ok (data : Bytes) (packet : PacketMetadata) :
    identifyProtocol data packet = .ok (identifiedName data packet) := by
  obtain ⟨protocolName, hname⟩ := identifyProtocol_returns data packet
  rw [identifiedName, hname]

/-- The transport header at `offset`, and the name of the protocol. -/
def transportNamed (data : Bytes) (offset : Nat) (packet : PacketMetadata) : PacketMetadata :=
  { transportFields data offset packet with
    protocolName := identifiedName data (transportFields data offset packet) }

/-- The dissection of the bytes behind an Ethernet header. -/
def networkFields (data : Bytes) (packet : PacketMetadata) : PacketMetadata :=
  match ipLayer data 0 packet with
  | some (offset, ipPacket) => transportNamed data offset ipPacket
  | none =>
      if packet.ethertype = ethertypeIpv4 ∨ packet.ethertype = ethertypeIpv6 then packet
      else { packet with protocolName := .other }

/-! ## Relocation -/

/-- The IP layer is where it is in its bytes, plus where these start. -/
theorem ipLayer_relocate (data : Bytes) (base : Nat) (packet : PacketMetadata) :
    ipLayer data base packet =
      (ipLayer (data.drop base) 0 packet).map fun layer => (base + layer.1, layer.2) := by
  unfold ipLayer
  split
  · unfold ipv4Layer ihlAt
    simp only [byteAt_drop, be16At_drop, bytesAt_drop, List.length_drop, Nat.zero_add,
      Nat.add_zero]
    split
    · rw [if_pos (by omega)]
      rfl
    · rw [if_neg (by omega)]
      rfl
  · split
    · unfold ipv6Layer
      simp only [byteAt_drop, be16At_drop, bytesAt_drop, List.length_drop, Nat.zero_add]
      split
      · rw [if_pos (by omega)]
        rfl
      · rw [if_neg (by omega)]
        rfl
    · rfl

/-- So is each transport header; its payload position is relocated. -/
theorem tcpHeaderFields_relocate (data : Bytes) (base offset : Nat) (packet : PacketMetadata) :
    tcpHeaderFields data (base + offset) packet =
      (tcpHeaderFields (data.drop base) offset packet).relocate base := by
  unfold tcpHeaderFields PacketMetadata.relocate
  simp only [byteAt_drop, be16At_drop, be32At_drop, List.length_drop, Nat.add_assoc, Nat.sub_sub]
  rw [if_neg (by omega)]

theorem udpHeaderFields_relocate (data : Bytes) (base offset : Nat) (packet : PacketMetadata) :
    udpHeaderFields data (base + offset) packet =
      (udpHeaderFields (data.drop base) offset packet).relocate base := by
  unfold udpHeaderFields PacketMetadata.relocate udpHeaderLen
  simp only [be16At_drop, List.length_drop, Nat.add_assoc, Nat.sub_sub]
  rw [if_neg (by omega)]

theorem icmpHeaderFields_relocate (data : Bytes) (base : Nat) {offset : Nat}
    (hoffset : 0 < offset) (packet : PacketMetadata) :
    icmpHeaderFields data (base + offset) packet =
      (icmpHeaderFields (data.drop base) offset packet).relocate base := by
  unfold icmpHeaderFields PacketMetadata.relocate
  have hset : ∀ room, offset + room ≠ 0 := by omega
  simp only [byteAt_drop, List.length_drop, Nat.add_assoc, Nat.sub_sub, if_neg (hset _)]

theorem transportFields_relocate (data : Bytes) (base : Nat) {offset : Nat}
    {packet : PacketMetadata} (hoffset : 0 < offset) (hunset : packet.payloadOffset = 0) :
    transportFields data (base + offset) packet =
      (transportFields (data.drop base) offset packet).relocate base := by
  -- The three headers that can be cut off.
  have htruncated : ∀ (need : Nat) {name : ProtocolName} {here there : PacketMetadata},
      0 < need → here = there.relocate base →
      (if data.length < base + offset + need then { packet with protocolName := name } else here) =
      (if (data.drop base).length < offset + need then { packet with protocolName := name }
        else there).relocate base := by
    intro need name here there hneed hcomplete
    rw [List.length_drop]
    by_cases hshort : data.length < base + offset + need
    · rw [if_pos hshort, if_pos (by omega), PacketMetadata.relocate, if_pos hunset, ← hunset]
    · rw [if_neg hshort, if_neg (by omega), hcomplete]
  unfold transportFields
  split
  · exact htruncated 20 (by decide) (tcpHeaderFields_relocate data base offset packet)
  · split
    · exact htruncated 8 (by decide) (udpHeaderFields_relocate data base offset packet)
    · split
      · exact htruncated 4 (by decide) (icmpHeaderFields_relocate data base hoffset packet)
      · rw [PacketMetadata.relocate, if_neg (Nat.ne_of_gt hoffset), List.length_drop, Nat.sub_sub]

/-- The name is made of the protocol, the ports in either order, the payload's length, the name
so far, and, for a TCP payload on other ports, whether it reads as HTTP. -/
theorem identifyProtocol_congr_ports {data other : Bytes} {packet moved : PacketMetadata}
    (hproto : moved.ipProto = packet.ipProto)
    (hports : ∀ ports, moved.usesPort ports = packet.usesPort ports)
    (hlen : moved.payloadLen = packet.payloadLen) (hname : moved.protocolName = packet.protocolName)
    (hhttp : packet.ipProto = ipProtoTcp → 4 < packet.payloadLen →
      dissectHttp other moved.payloadOffset = dissectHttp data packet.payloadOffset) :
    identifyProtocol other moved = identifyProtocol data packet := by
  have htls : (dissectTls other moved.payloadOffset >>= fun _ => .ok ProtocolName.tls) =
      (dissectTls data packet.payloadOffset >>= fun _ => .ok ProtocolName.tls) := by
    obtain ⟨info, hinfo⟩ := dissectTls_returns other moved.payloadOffset
    obtain ⟨info', hinfo'⟩ := dissectTls_returns data packet.payloadOffset
    rw [hinfo, hinfo']
    rfl
  unfold identifyProtocol
  simp only [hproto, hports, hlen, hname, pure_eq_ok, htls]
  by_cases htcp : packet.ipProto = ipProtoTcp
  · by_cases hpayload : 4 < packet.payloadLen
    · rw [hhttp htcp hpayload]
    · rw [if_neg hpayload, if_neg hpayload]
  · rw [if_neg htcp, if_neg htcp]

theorem identifyProtocol_congr {data other : Bytes} {packet moved : PacketMetadata}
    (hproto : moved.ipProto = packet.ipProto) (hsrc : moved.srcPort = packet.srcPort)
    (hdst : moved.dstPort = packet.dstPort) (hlen : moved.payloadLen = packet.payloadLen)
    (hname : moved.protocolName = packet.protocolName)
    (hhttp : 4 < packet.payloadLen →
      dissectHttp other moved.payloadOffset = dissectHttp data packet.payloadOffset) :
    identifyProtocol other moved = identifyProtocol data packet := by
  have hports : ∀ ports, moved.usesPort ports = packet.usesPort ports := by
    intro ports
    rw [PacketMetadata.usesPort, hsrc, hdst, PacketMetadata.usesPort]
  exact identifyProtocol_congr_ports hproto hports hlen hname fun _ => hhttp

/-- The payload is looked at where it is. -/
theorem identifyProtocol_relocate {data : Bytes} {base : Nat} (hbase : base ≤ data.length)
    {packet : PacketMetadata} (hset : packet.payloadOffset = 0 → packet.payloadLen = 0) :
    identifyProtocol data (packet.relocate base) = identifyProtocol (data.drop base) packet := by
  refine identifyProtocol_congr rfl rfl rfl rfl rfl fun hpayload => ?_
  have hoffset : packet.payloadOffset ≠ 0 := fun hzero => by
    have hempty := hset hzero
    omega
  unfold dissectHttp
  rw [PacketMetadata.relocate, if_neg hoffset, getFrom?_drop hbase]

/-! ## The whole frame -/

/-- No payload has been found. -/
structure PacketMetadata.NoPayload (packet : PacketMetadata) : Prop where
  offset : packet.payloadOffset = 0
  len : packet.payloadLen = 0

/-- The Ethernet layer finds no payload, and is inside the frame. -/
theorem ethernetLayer_noPayload {data : Bytes} {layer : Layer}
    (h : ethernetLayer data = some layer) : layer.2.NoPayload ∧ layer.1 ≤ data.length := by
  unfold ethernetLayer at h
  split at h
  · cases h
  · rename_i hheader
    split at h
    · split at h
      · cases h
      · rename_i htag
        cases h
        exact ⟨⟨rfl, rfl⟩, Nat.le_of_not_lt htag⟩
    · cases h
      exact ⟨⟨rfl, rfl⟩, Nat.le_of_not_lt hheader⟩

/-- Neither does the IP layer, which is never empty. -/
theorem ipLayer_noPayload {data : Bytes} {offset : Nat} {packet : PacketMetadata} {layer : Layer}
    (hpacket : packet.NoPayload) (h : ipLayer data offset packet = some layer) :
    layer.2.NoPayload ∧ offset < layer.1 := by
  unfold ipLayer at h
  split at h
  · unfold ipv4Layer at h
    split at h
    · cases h
    · cases h
      exact ⟨⟨hpacket.offset, hpacket.len⟩, by omega⟩
  · split at h
    · unfold ipv6Layer at h
      split at h
      · cases h
      · cases h
        exact ⟨⟨hpacket.offset, hpacket.len⟩, by omega⟩
    · cases h

/-- A transport header that finds no payload position leaves the length alone. -/
theorem transportFields_unset {data : Bytes} {offset : Nat} {packet : PacketMetadata}
    (hoffset : 0 < offset) (hpacket : packet.NoPayload) :
    (transportFields data offset packet).payloadOffset = 0 →
      (transportFields data offset packet).payloadLen = 0 := by
  unfold transportFields
  split
  · split
    · exact fun _ => hpacket.len
    · intro h
      simp only [tcpHeaderFields] at h
      omega
  · split
    · split
      · exact fun _ => hpacket.len
      · intro h
        simp only [udpHeaderFields, udpHeaderLen] at h
        omega
    · split
      · split
        · exact fun _ => hpacket.len
        · intro h
          simp only [icmpHeaderFields] at h
          omega
      · intro h
        exact absurd h (Nat.ne_of_gt hoffset)

/-- The dissection of a frame is that of the bytes behind its Ethernet header, with
positions counted from the start of the frame. -/
theorem dissectPacket_eq (data : Bytes) :
    dissectPacket data = .ok ((ethernetLayer data).map fun layer =>
      (networkFields (data.drop layer.1) layer.2).relocate layer.1) := by
  cases hethernet : ethernetLayer data with
  | none => exact dissectPacket_of_no_ethernet hethernet
  | some ethernet =>
      obtain ⟨base, packet⟩ := ethernet
      obtain ⟨hpacket, hbase⟩ := ethernetLayer_noPayload hethernet
      rw [dissectPacket, dissectEthernet_eq_ok, hethernet, ok_bind]
      dsimp only
      rw [dissectIp_eq_ok, ipLayer_relocate, ok_bind, Option.map_some, networkFields]
      cases hip : ipLayer (data.drop base) 0 packet with
      | none =>
          rw [Option.map_none]
          dsimp only
          rw [PacketMetadata.relocate]
          split
          · rw [if_pos hpacket.offset, ← hpacket.offset]
            rfl
          · rw [if_pos hpacket.offset, ← hpacket.offset]
            rfl
      | some ip =>
          obtain ⟨offset, ipPacket⟩ := ip
          obtain ⟨hipPacket, hoffset⟩ := ipLayer_noPayload hpacket hip
          rw [Option.map_some]
          dsimp only
          rw [dissectTransport_eq_ok, transportFields_relocate data base hoffset hipPacket.offset,
            ok_bind, identifyProtocol_relocate hbase (transportFields_unset hoffset hipPacket),
            identifyProtocol_eq_ok, ok_bind]
          rfl

/-- A frame with a whole IP header is dissected at its transport header. -/
theorem dissectPacket_of_layers {data : Bytes} {ethOffset ipOffset : Nat}
    {ethPacket ipPacket : PacketMetadata}
    (hethernet : ethernetLayer data = some (ethOffset, ethPacket))
    (hip : ipLayer data ethOffset ethPacket = some (ipOffset, ipPacket)) :
    dissectPacket data = .ok (some (transportNamed data ipOffset ipPacket)) := by
  obtain ⟨protocolName, hname, hdissect⟩ := dissectPacket_of_ip hethernet hip
  rw [identifyProtocol_eq_ok] at hname
  rw [hdissect, transportNamed, Except.ok.inj hname]

/-- A dissected frame has an Ethernet layer; it is described by that one, or by all
layers. -/
theorem layers_of_dissectPacket {data : Bytes} {packet : PacketMetadata}
    (h : dissectPacket data = .ok (some packet)) :
    ∃ ethOffset ethPacket, ethernetLayer data = some (ethOffset, ethPacket) ∧
      ((ipLayer data ethOffset ethPacket = none ∧
          ∃ protocolName, packet = { ethPacket with protocolName := protocolName }) ∨
        ∃ ipOffset ipPacket, ipLayer data ethOffset ethPacket = some (ipOffset, ipPacket) ∧
          packet = transportNamed data ipOffset ipPacket) := by
  cases hethernet : ethernetLayer data with
  | none =>
      rw [dissectPacket_of_no_ethernet hethernet] at h
      cases h
  | some ethernet =>
      obtain ⟨ethOffset, ethPacket⟩ := ethernet
      refine ⟨ethOffset, ethPacket, rfl, ?_⟩
      cases hip : ipLayer data ethOffset ethPacket with
      | none =>
          obtain ⟨protocolName, hdissect⟩ := dissectPacket_of_no_ip hethernet hip
          cases hdissect.symm.trans h
          exact Or.inl ⟨rfl, protocolName, rfl⟩
      | some ip =>
          cases (dissectPacket_of_layers hethernet hip).symm.trans h
          exact Or.inr ⟨ip.1, ip.2, rfl, rfl⟩

end GeSensor.Dissectors
