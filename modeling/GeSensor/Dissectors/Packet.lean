/-
  Dissectors/Packet.lean --- `dissect_packet` of `src/dissectors/mod.rs`.

  A frame is read layer by layer: Ethernet with an optional VLAN tag, IPv4 or
  IPv6, the transport header, and last the protocol name by port and payload.
  The layers of the source function are separate definitions here, composed by
  `dissectPacket` in the same order; each has a lemma that gives its result in
  terms of the bytes, so that no frame makes the dissector panic.
-/
import GeSensor.Dissectors.Http
import GeSensor.Dissectors.Ot
import GeSensor.Dissectors.Tls
import GeSensor.Dissectors.Transport
import GeSensor.Net.Frame

set_option autoImplicit false

namespace GeSensor.Dissectors

open GeSensor.Foundation
open GeSensor.Net

/-- What a layer leaves to the next one: the offset behind its header, and the
metadata so far. -/
abbrev Layer : Type := Nat × PacketMetadata

/-! ## Layers 2 and 3 -/

/-- The Ethernet header, and the 802.1Q tag if there is one. -/
def dissectEthernet (data : Bytes) : Checked (Option Layer) :=
  if data.length < ethHeaderLen then .ok none
  else do
    let dstMac ← slice data 0 (0 + 6) >>= copyFromSlice 6
    let srcMac ← slice data 6 (6 + 6) >>= copyFromSlice 6
    let packet : PacketMetadata := { dstMac := dstMac, srcMac := srcMac }
    let ethertype ← index16 data 12
    let offset := ethHeaderLen
    if ethertype = ethertypeVlan then
      if data.length < offset + 4 then return none
      else
        let vlanId := (← index16 data offset) &&& 0x0FFF
        let ethertype ← index16 data (offset + 2)
        return some (offset + 4, { packet with vlanId := some vlanId, ethertype := ethertype })
    else return some (offset, { packet with ethertype := ethertype })

/-- Parse an IPv4 header; `none` when it is not all there. -/
def dissectIpv4 (data : Bytes) (offset : Nat) (packet : PacketMetadata) :
    Checked (Option Layer) :=
  if data.length < offset + 20 then .ok none
  else do
    let versionIhl ← index data offset
    let ihl := (versionIhl &&& 0x0F).toNat * 4
    if ihl < 20 ∨ data.length < offset + ihl then return none
    else
      let ipTotalLen ← index16 data (offset + 2)
      let ipTtl ← index data (offset + 8)
      let ipProto ← index data (offset + 9)
      let src ← slice data (offset + 12) (offset + 12 + 4) >>= copyFromSlice 4
      let dst ← slice data (offset + 16) (offset + 16 + 4) >>= copyFromSlice 4
      return some (offset + ihl,
        { packet with
          ipTotalLen := ipTotalLen
          ipTtl := ipTtl
          ipProto := ipProto
          srcIp := some (.v4 src)
          dstIp := some (.v4 dst) })

/-- Parse an IPv6 header; `none` when it is not all there. -/
def dissectIpv6 (data : Bytes) (offset : Nat) (packet : PacketMetadata) :
    Checked (Option Layer) :=
  if data.length < offset + 40 then .ok none
  else do
    let ipTtl ← index data (offset + 7)
    let ipProto ← index data (offset + 6)
    let ipTotalLen ← index16 data (offset + 4)
    let src ← slice data (offset + 8) (offset + 8 + 16) >>= copyFromSlice 16
    let dst ← slice data (offset + 24) (offset + 24 + 16) >>= copyFromSlice 16
    return some (offset + 40,
      { packet with
        ipTtl := ipTtl
        ipProto := ipProto
        ipTotalLen := ipTotalLen
        srcIp := some (.v6 src)
        dstIp := some (.v6 dst) })

/-! ## Layers 4 and 7 -/

/-- Dispatch on the IP protocol. -/
def dissectTransport (data : Bytes) (offset : Nat) (packet : PacketMetadata) :
    Checked PacketMetadata :=
  if packet.ipProto = ipProtoTcp then dissectTcp data offset packet
  else if packet.ipProto = ipProtoUdp then dissectUdp data offset packet
  else if packet.ipProto = ipProtoIcmp ∨ packet.ipProto = ipProtoIcmpv6 then
    dissectIcmp data offset packet
  else
    .ok { packet with
      protocolName := .ipOther
      payloadOffset := offset
      payloadLen := data.length - offset }

/-- One of the packet's ports is in the list. -/
def PacketMetadata.usesPort (packet : PacketMetadata) (ports : List UInt16) : Bool :=
  ports.contains packet.srcPort || ports.contains packet.dstPort

/-- The protocol name by port, refined by the payload. -/
def identifyProtocol (data : Bytes) (packet : PacketMetadata) : Checked ProtocolName :=
  if packet.ipProto = ipProtoTcp then
    if packet.usesPort [443, 8443] then do
      if 0 < packet.payloadLen then
        let _ ← dissectTls data packet.payloadOffset
        return .tls
      else return .tls
    else if packet.usesPort [80, 8080, 8000, 9090, 3000, 3128, 8888] then .ok .http
    else if packet.usesPort [53] then .ok .dns
    else if 4 < packet.payloadLen then do
      -- Heuristic: try to detect HTTP on non-standard ports.
      match ← dissectHttp data packet.payloadOffset with
      | some _ => return .http
      | none => return packet.protocolName
    else .ok packet.protocolName
  else if packet.ipProto = ipProtoUdp then
    if packet.usesPort [53, 5353] then .ok .dns
    else if packet.usesPort [123] then .ok .ntp
    else if packet.usesPort [67, 68] then .ok .dhcp
    else if packet.usesPort [443] then .ok .quic
    else .ok packet.protocolName
  else .ok packet.protocolName

/-- The layers above the Ethernet header; `none` when the IP header is not all
there or the ethertype is not IP. -/
def dissectIp (data : Bytes) (offset : Nat) (packet : PacketMetadata) : Checked (Option Layer) :=
  if packet.ethertype = ethertypeIpv4 then dissectIpv4 data offset packet
  else if packet.ethertype = ethertypeIpv6 then dissectIpv6 data offset packet
  else .ok none

/-- Dissect a raw Ethernet frame into structured metadata. -/
def dissectPacket (data : Bytes) : Checked (Option PacketMetadata) := do
  match ← dissectEthernet data with
  | none => return none
  | some (offset, packet) =>
      match ← dissectIp data offset packet with
      | none =>
          if packet.ethertype = ethertypeIpv4 ∨ packet.ethertype = ethertypeIpv6 then
            return some packet
          else return some { packet with protocolName := .other }
      | some (offset, packet) =>
          let packet ← dissectTransport data offset packet
          let protocolName ← identifyProtocol data packet
          return some { packet with protocolName := protocolName }

/-! ## The layers in terms of the bytes -/

/-- The Ethernet layer of a frame. -/
def ethernetLayer (data : Bytes) : Option Layer :=
  let packet : PacketMetadata := { dstMac := bytesAt data 0 6, srcMac := bytesAt data 6 6 }
  if data.length < 14 then none
  else if be16At data 12 = ethertypeVlan then
    if data.length < 18 then none
    else some (18,
      { packet with
        vlanId := some (be16At data 14 &&& 0x0FFF)
        ethertype := be16At data 16 })
  else some (14, { packet with ethertype := be16At data 12 })

theorem dissectEthernet_eq_ok (data : Bytes) :
    dissectEthernet data = .ok (ethernetLayer data) := by
  unfold dissectEthernet ethernetLayer
  by_cases hshort : data.length < 14
  · rw [if_pos hshort]
    exact if_pos hshort
  · rw [if_neg hshort]
    refine (if_neg hshort).trans ?_
    rw [slice_copyFromSlice (by omega), ok_bind, slice_copyFromSlice (by omega), ok_bind,
      index16_eq_be16At (by omega), ok_bind]
    by_cases hvlan : be16At data 12 = ethertypeVlan
    · rw [if_pos hvlan, if_pos hvlan]
      by_cases htag : data.length < 18
      · rw [if_pos htag]
        exact if_pos htag
      · rw [if_neg htag]
        refine (if_neg htag).trans ?_
        have hfirst : index16 data ethHeaderLen = .ok (be16At data 14) :=
          index16_eq_be16At (show 14 + 1 < data.length by omega)
        have hsecond : index16 data (ethHeaderLen + 2) = .ok (be16At data 16) :=
          index16_eq_be16At (show 16 + 1 < data.length by omega)
        rw [hfirst, ok_bind, hsecond, ok_bind]
        rfl
    · rw [if_neg hvlan, if_neg hvlan]
      rfl

/-- The header length of an IPv4 header, in bytes. -/
def ihlAt (data : Bytes) (offset : Nat) : Nat := (byteAt data offset &&& 0x0F).toNat * 4

/-- The IPv4 layer at `offset`. -/
def ipv4Layer (data : Bytes) (offset : Nat) (packet : PacketMetadata) : Option Layer :=
  if data.length < offset + 20 ∨ ihlAt data offset < 20 ∨ data.length < offset + ihlAt data offset
  then none
  else some (offset + ihlAt data offset,
    { packet with
      ipTotalLen := be16At data (offset + 2)
      ipTtl := byteAt data (offset + 8)
      ipProto := byteAt data (offset + 9)
      srcIp := some (.v4 (bytesAt data (offset + 12) 4))
      dstIp := some (.v4 (bytesAt data (offset + 16) 4)) })

theorem dissectIpv4_eq_ok (data : Bytes) (offset : Nat) (packet : PacketMetadata) :
    dissectIpv4 data offset packet = .ok (ipv4Layer data offset packet) := by
  unfold dissectIpv4 ipv4Layer
  by_cases hshort : data.length < offset + 20
  · rw [if_pos hshort, if_pos (Or.inl hshort)]
  · rw [if_neg hshort, index_eq_byteAt (by omega), ok_bind]
    by_cases hihl : ihlAt data offset < 20 ∨ data.length < offset + ihlAt data offset
    · rw [if_pos (Or.inr hihl)]
      exact if_pos hihl
    · rw [if_neg (not_or.mpr ⟨hshort, hihl⟩)]
      refine (if_neg hihl).trans ?_
      rw [index16_eq_be16At (by omega), ok_bind, index_eq_byteAt (by omega), ok_bind,
        index_eq_byteAt (by omega), ok_bind, slice_copyFromSlice (by omega), ok_bind,
        slice_copyFromSlice (by omega), ok_bind]
      rfl

/-- The IPv6 layer at `offset`. -/
def ipv6Layer (data : Bytes) (offset : Nat) (packet : PacketMetadata) : Option Layer :=
  if data.length < offset + 40 then none
  else some (offset + 40,
    { packet with
      ipTtl := byteAt data (offset + 7)
      ipProto := byteAt data (offset + 6)
      ipTotalLen := be16At data (offset + 4)
      srcIp := some (.v6 (bytesAt data (offset + 8) 16))
      dstIp := some (.v6 (bytesAt data (offset + 24) 16)) })

theorem dissectIpv6_eq_ok (data : Bytes) (offset : Nat) (packet : PacketMetadata) :
    dissectIpv6 data offset packet = .ok (ipv6Layer data offset packet) := by
  unfold dissectIpv6 ipv6Layer
  split
  · rfl
  · rw [index_eq_byteAt (by omega), ok_bind, index_eq_byteAt (by omega), ok_bind,
      index16_eq_be16At (by omega), ok_bind, slice_copyFromSlice (by omega), ok_bind,
      slice_copyFromSlice (by omega), ok_bind]
    rfl

/-- The IP layer at `offset`. -/
def ipLayer (data : Bytes) (offset : Nat) (packet : PacketMetadata) : Option Layer :=
  if packet.ethertype = ethertypeIpv4 then ipv4Layer data offset packet
  else if packet.ethertype = ethertypeIpv6 then ipv6Layer data offset packet
  else none

theorem dissectIp_eq_ok (data : Bytes) (offset : Nat) (packet : PacketMetadata) :
    dissectIp data offset packet = .ok (ipLayer data offset packet) := by
  unfold dissectIp ipLayer
  split
  · exact dissectIpv4_eq_ok data offset packet
  · split
    · exact dissectIpv6_eq_ok data offset packet
    · rfl

/-- The transport layer at `offset`. -/
def transportFields (data : Bytes) (offset : Nat) (packet : PacketMetadata) : PacketMetadata :=
  if packet.ipProto = ipProtoTcp then
    if data.length < offset + 20 then { packet with protocolName := .tcpTruncated }
    else tcpHeaderFields data offset packet
  else if packet.ipProto = ipProtoUdp then
    if data.length < offset + udpHeaderLen then { packet with protocolName := .udpTruncated }
    else udpHeaderFields data offset packet
  else if packet.ipProto = ipProtoIcmp ∨ packet.ipProto = ipProtoIcmpv6 then
    if data.length < offset + 4 then { packet with protocolName := .icmpTruncated }
    else icmpHeaderFields data offset packet
  else
    { packet with
      protocolName := .ipOther
      payloadOffset := offset
      payloadLen := data.length - offset }

theorem dissectTransport_eq_ok (data : Bytes) (offset : Nat) (packet : PacketMetadata) :
    dissectTransport data offset packet = .ok (transportFields data offset packet) := by
  unfold dissectTransport transportFields
  split
  · exact dissectTcp_eq_ok data offset packet
  · split
    · exact dissectUdp_eq_ok data offset packet
    · split
      · exact dissectIcmp_eq_ok data offset packet
      · rfl

theorem identifyProtocol_returns (data : Bytes) (packet : PacketMetadata) :
    Returns (identifyProtocol data packet) := by
  unfold identifyProtocol
  split
  · split
    · split
      · obtain ⟨info, hinfo⟩ := dissectTls_returns data packet.payloadOffset
        rw [hinfo, ok_bind]
        exact returns_ok _
      · exact returns_ok _
    · split
      · exact returns_ok _
      · split
        · exact returns_ok _
        · split
          · obtain ⟨info, hinfo⟩ := dissectHttp_returns data packet.payloadOffset
            rw [hinfo, ok_bind]
            cases info <;> exact returns_ok _
          · exact returns_ok _
  · repeat' split
    all_goals exact returns_ok _

/-- The IP addresses of a dissected packet are those of its IP layer. -/
theorem transportFields_ips (data : Bytes) (offset : Nat) (packet : PacketMetadata) :
    (transportFields data offset packet).srcIp = packet.srcIp ∧
      (transportFields data offset packet).dstIp = packet.dstIp ∧
      (transportFields data offset packet).ipProto = packet.ipProto := by
  unfold transportFields
  repeat' split
  all_goals exact ⟨rfl, rfl, rfl⟩

/-- A frame without a whole Ethernet header is malformed. -/
theorem dissectPacket_of_no_ethernet {data : Bytes} (h : ethernetLayer data = none) :
    dissectPacket data = .ok none := by
  rw [dissectPacket, dissectEthernet_eq_ok, h, ok_bind]
  rfl

/-- A frame without a whole IP header is described by its Ethernet header. -/
theorem dissectPacket_of_no_ip {data : Bytes} {offset : Nat} {packet : PacketMetadata}
    (hethernet : ethernetLayer data = some (offset, packet))
    (hip : ipLayer data offset packet = none) :
    ∃ protocolName,
      dissectPacket data = .ok (some { packet with protocolName := protocolName }) := by
  rw [dissectPacket, dissectEthernet_eq_ok, hethernet, ok_bind]
  dsimp only
  rw [dissectIp_eq_ok, hip, ok_bind]
  dsimp only
  split
  · exact ⟨packet.protocolName, rfl⟩
  · exact ⟨.other, rfl⟩

/-- A frame with a whole IP header is described by all its layers, and named by
`identifyProtocol`. -/
theorem dissectPacket_of_ip {data : Bytes} {ethOffset ipOffset : Nat}
    {ethPacket ipPacket : PacketMetadata}
    (hethernet : ethernetLayer data = some (ethOffset, ethPacket))
    (hip : ipLayer data ethOffset ethPacket = some (ipOffset, ipPacket)) :
    ∃ protocolName, identifyProtocol data (transportFields data ipOffset ipPacket) =
        .ok protocolName ∧
      dissectPacket data = .ok (some
        { transportFields data ipOffset ipPacket with protocolName := protocolName }) := by
  obtain ⟨protocolName, hname⟩ :=
    identifyProtocol_returns data (transportFields data ipOffset ipPacket)
  refine ⟨protocolName, hname, ?_⟩
  rw [dissectPacket, dissectEthernet_eq_ok, hethernet, ok_bind]
  dsimp only
  rw [dissectIp_eq_ok, hip, ok_bind]
  dsimp only
  rw [dissectTransport_eq_ok, ok_bind, hname, ok_bind]
  rfl

/-! ## The headers of a frame -/

/-- The network header of a frame is where its Ethernet layer ends. -/
theorem networkHeader?_eq (data : Bytes) :
    networkHeader? data = (ethernetLayer data).map fun layer => (layer.2.ethertype, layer.1) := by
  unfold networkHeader? ethernetLayer
  rw [ethertypeVlan]
  split
  · rfl
  · split
    · split <;> rfl
    · rfl

/-- The Ethernet layer finds the network header. -/
theorem ethernetLayer_of_networkHeader {data : Bytes} {ethertype : UInt16} {l3 : Nat}
    (h : networkHeader? data = some (ethertype, l3)) :
    ∃ packet, ethernetLayer data = some (l3, packet) ∧ packet.ethertype = ethertype := by
  rw [networkHeader?_eq, Option.map_eq_some_iff] at h
  obtain ⟨⟨offset, packet⟩, hethernet, hnetwork⟩ := h
  cases hnetwork
  exact ⟨packet, hethernet, rfl⟩

/-- The low half of the first IPv4 byte is the header length in words. -/
theorem ihlAt_eq (data : Bytes) (offset : Nat) :
    ihlAt data offset = (byteAt data offset).toNat % 16 * 4 := by
  rw [ihlAt, UInt8.toNat_and]
  congr 1
  exact Nat.and_two_pow_sub_one_eq_mod _ 4

/-- The IP layer reads a complete IP header. -/
theorem ipLayer_of_ipHeader {data : Bytes} {header : IpHeader}
    (h : ipHeader? data = some header) :
    ∃ l3 ethPacket packet, ethernetLayer data = some (l3, ethPacket) ∧
      ipLayer data l3 ethPacket = some (header.l4, packet) ∧
      packet.srcIp = some header.src ∧ packet.dstIp = some header.dst ∧
      packet.ipProto = header.protocol := by
  unfold ipHeader? at h
  cases hnetwork : networkHeader? data with
  | none =>
      rw [hnetwork] at h
      cases h
  | some network =>
      obtain ⟨ethertype, l3⟩ := network
      obtain ⟨ethPacket, hethernet, hethertype⟩ := ethernetLayer_of_networkHeader hnetwork
      rw [hnetwork] at h
      dsimp only at h
      refine ⟨l3, ethPacket, ?_⟩
      rw [ipLayer, hethertype, ethertypeIpv4, ethertypeIpv6]
      split at h
      · rename_i hv4
        rw [ipv4Header?, Option.ite_none_right_eq_some] at h
        obtain ⟨⟨hfixed, _, hihl, hlong⟩, hheader⟩ := h
        rw [← ihlAt_eq] at hihl hlong hheader
        rw [if_pos hv4, ipv4Layer, if_neg (by omega)]
        cases hheader
        exact ⟨_, hethernet, rfl, rfl, rfl, rfl⟩
      · rename_i hv4
        split at h
        · rename_i hv6
          rw [ipv6Header?, Option.ite_none_right_eq_some] at h
          obtain ⟨⟨hfixed, _⟩, hheader⟩ := h
          rw [if_neg hv4, if_pos hv6, ipv6Layer, if_neg (by omega)]
          cases hheader
          exact ⟨_, hethernet, rfl, rfl, rfl, rfl⟩
        · cases h

/-- A frame with complete IP and UDP headers to port 53 is tagged as DNS, with the
addresses and ports of its headers. -/
theorem dissectPacket_of_udp_dns {data : Bytes} {header : IpHeader} {udp : TransportHeader}
    (hip : ipHeader? data = some header) (hproto : header.protocol = 17)
    (hudp : udpHeader? data header.l4 = some udp) (hport : udp.dstPort = 53) :
    ∃ packet, dissectPacket data = .ok (some packet) ∧ packet.protocolName = .dns ∧
      packet.srcIp = some header.src ∧ packet.dstIp = some header.dst := by
  obtain ⟨l3, ethPacket, ipPacket, hethernet, hlayer, hsrc, hdst, hipProto⟩ :=
    ipLayer_of_ipHeader hip
  obtain ⟨protocolName, hname, hdissect⟩ := dissectPacket_of_ip hethernet hlayer
  obtain ⟨hsrc', hdst', hproto'⟩ := transportFields_ips data header.l4 ipPacket
  rw [udpHeader?, Option.ite_none_right_eq_some] at hudp
  obtain ⟨hcomplete, hfields⟩ := hudp
  have hudpProto : ipPacket.ipProto = ipProtoUdp := by rw [hipProto, hproto, ipProtoUdp]
  have htransport : (transportFields data header.l4 ipPacket).dstPort = 53 := by
    rw [transportFields, if_neg (by rw [hudpProto]; decide), if_pos hudpProto,
      if_neg (by rw [udpHeaderLen]; omega), udpHeaderFields]
    rw [← hport, ← Option.some.inj hfields]
  refine ⟨_, hdissect, ?_, hsrc'.trans hsrc, hdst'.trans hdst⟩
  unfold identifyProtocol at hname
  rw [hproto', hudpProto, if_neg (by decide), if_pos rfl,
    if_pos (by simp [PacketMetadata.usesPort, htransport])] at hname
  exact (Except.ok.inj hname).symm

/-! ## No panic -/

/-- The dissector never panics. -/
theorem dissectPacket_returns (data : Bytes) : Returns (dissectPacket data) := by
  cases hethernet : ethernetLayer data with
  | none => exact ⟨none, dissectPacket_of_no_ethernet hethernet⟩
  | some ethernet =>
      obtain ⟨ethOffset, ethPacket⟩ := ethernet
      cases hip : ipLayer data ethOffset ethPacket with
      | none =>
          obtain ⟨protocolName, h⟩ := dissectPacket_of_no_ip hethernet hip
          exact ⟨_, h⟩
      | some ip =>
          obtain ⟨protocolName, _, h⟩ := dissectPacket_of_ip hethernet hip
          exact ⟨_, h⟩

/-- No frame makes the dissector panic, and no frame with any payload offset one
of the payload dissectors. -/
theorem frame_path_never_panics (data : Bytes) :
    Returns (dissectPacket data) ∧
      ∀ payloadOffset,
        Returns (dissectTls data payloadOffset) ∧
        Returns (dissectHttp data payloadOffset) ∧
        Returns (dissectBacnet data payloadOffset) ∧
        Returns (dissectModbus data payloadOffset) ∧
        Returns (dissectDnp3 data payloadOffset) :=
  ⟨dissectPacket_returns data, fun payloadOffset =>
    ⟨dissectTls_returns data payloadOffset, dissectHttp_returns data payloadOffset,
      dissectBacnet_returns data payloadOffset, dissectModbus_returns data payloadOffset,
      dissectDnp3_returns data payloadOffset⟩⟩

end GeSensor.Dissectors
