/-
  Dissectors/Transport.lean --- the TCP, UDP and ICMP header dissectors of
  `src/dissectors/tcp.rs`, `udp.rs` and `icmp.rs`.

  Each reads a header at an offset into the metadata, and marks the protocol as
  truncated when the header is not all there.  For each one a lemma gives the
  result in terms of the bytes, and with it that no read is out of bounds.
-/
import GeSensor.Dissectors.Metadata

set_option autoImplicit false

namespace GeSensor.Dissectors

open GeSensor.Foundation

/-! ## TCP -/

/-- Parse the TCP header at `offset`. -/
def dissectTcp (data : Bytes) (offset : Nat) (packet : PacketMetadata) :
    Checked PacketMetadata :=
  if data.length < offset + 20 then
    .ok { packet with protocolName := .tcpTruncated }
  else do
    let srcPort ← index16 data offset
    let dstPort ← index16 data (offset + 2)
    let tcpSeq ← index32 data (offset + 4)
    let tcpAck ← index32 data (offset + 8)
    -- The data offset is the upper 4 bits of byte 12, in 32-bit words.
    let dataOffset := ((← index data (offset + 12)) >>> 4).toNat * 4
    let tcpFlags ← index data (offset + 13)
    let tcpWindow ← index16 data (offset + 14)
    let payloadStart := offset + max dataOffset 20
    return { packet with
      srcPort := srcPort
      dstPort := dstPort
      tcpSeq := tcpSeq
      tcpAck := tcpAck
      tcpFlags := tcpFlags
      tcpWindow := tcpWindow
      protocolName := .tcp
      payloadOffset := payloadStart
      payloadLen := data.length - payloadStart }

/-- The metadata of a complete TCP header at `offset`. -/
def tcpHeaderFields (data : Bytes) (offset : Nat) (packet : PacketMetadata) : PacketMetadata :=
  let payloadStart := offset + max ((byteAt data (offset + 12) >>> 4).toNat * 4) 20
  { packet with
    srcPort := be16At data offset
    dstPort := be16At data (offset + 2)
    tcpSeq := be32At data (offset + 4)
    tcpAck := be32At data (offset + 8)
    tcpFlags := byteAt data (offset + 13)
    tcpWindow := be16At data (offset + 14)
    protocolName := .tcp
    payloadOffset := payloadStart
    payloadLen := data.length - payloadStart }

theorem dissectTcp_eq_ok (data : Bytes) (offset : Nat) (packet : PacketMetadata) :
    dissectTcp data offset packet =
      .ok (if data.length < offset + 20 then { packet with protocolName := .tcpTruncated }
        else tcpHeaderFields data offset packet) := by
  unfold dissectTcp
  split
  · rfl
  · simp (disch := omega) only [index16_eq_be16At, index32_eq_be32At, index_eq_byteAt, ok_bind]
    rfl

/-! ## UDP -/

/-- UDP header is always exactly 8 bytes. -/
def udpHeaderLen : Nat := 8

/-- Parse the UDP header at `offset`. -/
def dissectUdp (data : Bytes) (offset : Nat) (packet : PacketMetadata) :
    Checked PacketMetadata :=
  if data.length < offset + udpHeaderLen then
    .ok { packet with protocolName := .udpTruncated }
  else do
    let srcPort ← index16 data offset
    let dstPort ← index16 data (offset + 2)
    let udpLen := (← index16 data (offset + 4)).toNat
    let payloadStart := offset + udpHeaderLen
    let maxPayload := udpLen - udpHeaderLen
    return { packet with
      srcPort := srcPort
      dstPort := dstPort
      protocolName := .udp
      payloadOffset := payloadStart
      payloadLen := min maxPayload (data.length - payloadStart) }

/-- The metadata of a complete UDP header at `offset`. -/
def udpHeaderFields (data : Bytes) (offset : Nat) (packet : PacketMetadata) : PacketMetadata :=
  { packet with
    srcPort := be16At data offset
    dstPort := be16At data (offset + 2)
    protocolName := .udp
    payloadOffset := offset + udpHeaderLen
    payloadLen := min ((be16At data (offset + 4)).toNat - udpHeaderLen)
      (data.length - (offset + udpHeaderLen)) }

theorem dissectUdp_eq_ok (data : Bytes) (offset : Nat) (packet : PacketMetadata) :
    dissectUdp data offset packet =
      .ok (if data.length < offset + udpHeaderLen then { packet with protocolName := .udpTruncated }
        else udpHeaderFields data offset packet) := by
  unfold dissectUdp
  split
  · rfl
  · rename_i hcomplete
    have hlength : offset + 8 ≤ data.length := Nat.le_of_not_lt hcomplete
    simp (disch := omega) only [index16_eq_be16At, ok_bind]
    rfl

/-! ## ICMP -/

/-- ICMP header minimum size. -/
def icmpHeaderLen : Nat := 8

/-- Parse the ICMP header at `offset`. -/
def dissectIcmp (data : Bytes) (offset : Nat) (packet : PacketMetadata) :
    Checked PacketMetadata :=
  if data.length < offset + 4 then
    .ok { packet with protocolName := .icmpTruncated }
  else do
    let icmpType ← index data offset
    let icmpCode ← index data (offset + 1)
    let protocolName := if packet.ipProto = ipProtoIcmpv6 then .icmpv6 else .icmp
    let payloadStart := offset + min icmpHeaderLen (← checkedSub data.length offset)
    return { packet with
      icmpType := icmpType
      icmpCode := icmpCode
      protocolName := protocolName
      payloadOffset := payloadStart
      payloadLen := data.length - payloadStart }

/-- The metadata of an ICMP header of at least four bytes at `offset`. -/
def icmpHeaderFields (data : Bytes) (offset : Nat) (packet : PacketMetadata) : PacketMetadata :=
  let payloadStart := offset + min icmpHeaderLen (data.length - offset)
  { packet with
    icmpType := byteAt data offset
    icmpCode := byteAt data (offset + 1)
    protocolName := if packet.ipProto = ipProtoIcmpv6 then .icmpv6 else .icmp
    payloadOffset := payloadStart
    payloadLen := data.length - payloadStart }

theorem dissectIcmp_eq_ok (data : Bytes) (offset : Nat) (packet : PacketMetadata) :
    dissectIcmp data offset packet =
      .ok (if data.length < offset + 4 then { packet with protocolName := .icmpTruncated }
        else icmpHeaderFields data offset packet) := by
  unfold dissectIcmp
  split
  · rfl
  · simp (disch := omega) only [index_eq_byteAt, checkedSub_eq_ok, ok_bind]
    rfl

end GeSensor.Dissectors
