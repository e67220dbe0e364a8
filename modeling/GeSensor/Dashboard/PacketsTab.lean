/-
  Dashboard/PacketsTab.lean --- what the packets tab and the IPS feed show of a packet.

  `build_packet_record` of `src/utils/dashboard.rs` turns the metadata of a dissected
  packet into the texts and numbers of one row; `PacketRing` and `IpsEventRing` keep the
  latest rows.  Times are kept as the durations that the clock reads, before they are
  written as seconds.

  A row shows everything that it was built from, but for the fields that it has no column
  for: two packets with one row agree in all the others.
-/
import GeSensor.Dissectors.Metadata
import GeSensor.Flow.Tracker
import GeSensor.Foundation.RecentItems
import GeSensor.Ips.Engine
import GeSensor.Net.AddrDisplay

set_option autoImplicit false

namespace GeSensor.Dashboard

open GeSensor.Dissectors
open GeSensor.Flow
open GeSensor.Foundation
open GeSensor.Ips
open GeSensor.Net

/-! ## Texts -/

/-- The text of a `protocol_name`. -/
def protocolText : ProtocolName → List Char
  | .none => "".toList
  | .other => "other".toList
  | .ipOther => "ip_other".toList
  | .tcp => "tcp".toList
  | .tcpTruncated => "tcp_truncated".toList
  | .udp => "udp".toList
  | .udpTruncated => "udp_truncated".toList
  | .icmp => "icmp".toList
  | .icmpv6 => "icmpv6".toList
  | .icmpTruncated => "icmp_truncated".toList
  | .tls => "tls".toList
  | .http => "http".toList
  | .dns => "dns".toList
  | .ntp => "ntp".toList
  | .dhcp => "dhcp".toList
  | .quic => "quic".toList
  | .modbus => "modbus".toList
  | .dnp3 => "dnp3".toList
  | .bacnet => "bacnet".toList
  | .enip => "enip".toList

/-- `text.to_uppercase()`, on ASCII. -/
def toUppercase (text : List Char) : List Char := text.map Char.toUpper

/-- `format!("{:?}", verdict)`. -/
def verdictDebug : Verdict → List Char
  | .pass => "Pass".toList
  | .drop => "Drop".toList
  | .alert => "Alert".toList

/-- Format TCP flags into Wireshark-style string. -/
def formatTcpFlags (flags : UInt8) : List Char :=
  let parts :=
    (if flags &&& 0x02 != 0 then ["SYN".toList] else []) ++
    (if flags &&& 0x10 != 0 then ["ACK".toList] else []) ++
    (if flags &&& 0x01 != 0 then ["FIN".toList] else []) ++
    (if flags &&& 0x04 != 0 then ["RST".toList] else []) ++
    (if flags &&& 0x08 != 0 then ["PSH".toList] else []) ++
    (if flags &&& 0x20 != 0 then ["URG".toList] else []) ++
    (if flags &&& 0x40 != 0 then ["ECE".toList] else []) ++
    (if flags &&& 0x80 != 0 then ["CWR".toList] else [])
  let parts := if parts.isEmpty then parts ++ ["none".toList] else parts
  ", ".toList.intercalate parts

/-- Format MAC address bytes. -/
def formatMac (mac : Vector UInt8 6) : List Char :=
  [':'].intercalate (mac.toList.map fun byte => zeroPadded 2 (Nat.toDigits 16 byte.toNat))

/-- `format!("0x{:04X}", ethertype)`. -/
def formatEthertype (ethertype : UInt16) : List Char :=
  "0x".toList ++ zeroPadded 4 (toUppercase (Nat.toDigits 16 ethertype.toNat))

/-- `"{} → {}"`, the ports of a packet. -/
def formatPorts (packet : PacketMetadata) : List Char :=
  decimal packet.srcPort.toNat ++ " → ".toList ++ decimal packet.dstPort.toNat

/-- Build a human-readable info string like Wireshark does. -/
def buildPacketInfo (packet : PacketMetadata) (pktLen : UInt32) : List Char :=
  let ports := formatPorts packet
  let flags := formatTcpFlags packet.tcpFlags
  let payloadLen := " Len=".toList ++ decimal packet.payloadLen
  match packet.protocolName with
  | .tcp | .tcpTruncated =>
      ports ++ " [".toList ++ flags ++ "] Seq=".toList ++ decimal packet.tcpSeq.toNat ++
        " Ack=".toList ++ decimal packet.tcpAck.toNat ++ " Win=".toList ++
        decimal packet.tcpWindow.toNat ++ payloadLen
  | .udp => ports ++ payloadLen
  | .dns => "DNS ".toList ++ ports ++ payloadLen
  | .http => "HTTP ".toList ++ ports ++ " [".toList ++ flags ++ "]".toList ++ payloadLen
  | .tls => "TLS ".toList ++ ports ++ " [".toList ++ flags ++ "]".toList ++ payloadLen
  | .ntp => "NTP ".toList ++ ports ++ payloadLen
  | .dhcp => "DHCP ".toList ++ ports ++ payloadLen
  | .quic => "QUIC ".toList ++ ports ++ payloadLen
  | .icmp =>
      "ICMP type=".toList ++ decimal packet.icmpType.toNat ++ " code=".toList ++
        decimal packet.icmpCode.toNat
  | _ => "Proto=".toList ++ decimal packet.ipProto.toNat ++ " Len=".toList ++ decimal pktLen.toNat

/-- An address, or a dash. -/
def addressText (addr : Option IpAddr) : List Char := (addr.map IpAddr.display).getD "—".toList

/-! ## Rows -/

/-- A captured and dissected packet ready for display. -/
structure PacketRecord where
  /-- monotonic packet number -/
  no : Nat
  /-- time since sensor start -/
  time : Duration
  srcIp : List Char
  dstIp : List Char
  srcPort : UInt16
  dstPort : UInt16
  protocol : List Char
  length : UInt32
  info : List Char
  tcpFlags : List Char
  ttl : UInt8
  srcMac : List Char
  dstMac : List Char
  vlanId : Option UInt16
  ethertype : List Char
  ipProto : UInt8
  payloadLen : Nat
  tcpSeq : UInt32
  tcpAck : UInt32
  tcpWindow : UInt16
  ipsVerdict : List Char
  ipsRule : String
  deriving DecidableEq, Repr

/-- Build a `PacketRecord` from dissected metadata. -/
def buildPacketRecord (packet : PacketMetadata) (pktLen : UInt32) (elapsed : Duration)
    (verdict : Verdict) (ruleId : String) : PacketRecord where
  no := 0
  time := elapsed
  srcIp := addressText packet.srcIp
  dstIp := addressText packet.dstIp
  srcPort := packet.srcPort
  dstPort := packet.dstPort
  protocol := toUppercase (protocolText packet.protocolName)
  length := pktLen
  info := buildPacketInfo packet pktLen
  tcpFlags := formatTcpFlags packet.tcpFlags
  ttl := packet.ipTtl
  srcMac := formatMac packet.srcMac
  dstMac := formatMac packet.dstMac
  vlanId := packet.vlanId
  ethertype := formatEthertype packet.ethertype
  ipProto := packet.ipProto
  payloadLen := packet.payloadLen
  tcpSeq := packet.tcpSeq
  tcpAck := packet.tcpAck
  tcpWindow := packet.tcpWindow
  ipsVerdict := verdictDebug verdict
  ipsRule := ruleId

/-- A single IPS match event for the live block feed. -/
structure IpsEventRecord where
  time : Duration
  srcIp : List Char
  dstIp : List Char
  srcPort : UInt16
  dstPort : UInt16
  protocol : List Char
  verdict : List Char
  ruleId : String
  severity : String
  description : String
  deriving DecidableEq, Repr

/-- The event that the pipeline pushes for a matched rule. -/
def ipsEventRecord (packet : PacketMetadata) (srcIp dstIp : IpAddr) (elapsed : Duration)
    (verdict : Verdict) (rule : IpsRule) : IpsEventRecord where
  time := elapsed
  srcIp := srcIp.display
  dstIp := dstIp.display
  srcPort := packet.srcPort
  dstPort := packet.dstPort
  protocol := toUppercase (protocolText packet.protocolName)
  verdict := verdictDebug verdict
  ruleId := rule.id
  severity := rule.severity
  description := rule.description

/-! ## Rings -/

/-- Maximum number of recent packets stored for the dashboard. -/
def maxRecentPackets : Nat := 500

/-- Maximum number of recent IPS events stored for the dashboard. -/
def maxIpsEvents : Nat := 300

/-- Ring buffer for recent packets. -/
structure PacketRing where
  packets : List PacketRecord := []
  counter : Nat := 0
  deriving DecidableEq, Repr

/-- Push a new packet into the ring buffer. -/
def PacketRing.push (ring : PacketRing) (record : PacketRecord) : PacketRing where
  counter := ring.counter + 1
  packets := pushRecent maxRecentPackets ring.packets { record with no := ring.counter + 1 }

/-- Ring buffer for recent IPS events. -/
structure IpsEventRing where
  events : List IpsEventRecord := []
  deriving DecidableEq, Repr

def IpsEventRing.push (ring : IpsEventRing) (event : IpsEventRecord) : IpsEventRing where
  events := pushRecent maxIpsEvents ring.events event

/-! ## Reading a row -/

theorem formatEthertype_injective : Function.Injective formatEthertype := by
  intro left right h
  have hdigits := congrArg (readHexDigits 0) (List.append_cancel_left h)
  have hupper : ∀ digit < 16, hexValue (Char.toUpper (Nat.digitChar digit)) = some digit := by
    decide
  simp only [readHexDigits_zeroPadded, toUppercase, readHexDigits_map_toDigits hupper,
    Option.some.injEq] at hdigits
  exact UInt16.toNat_inj.mp hdigits

theorem formatMac_injective : Function.Injective formatMac := by
  intro left right h
  let part (byte : UInt8) : List Char := zeroPadded 2 (Nat.toDigits 16 byte.toNat)
  have hread : ∀ byte, readHexDigits 0 (part byte) = some byte.toNat := fun byte => by
    rw [readHexDigits_zeroPadded, readHexDigits_toDigits]
  have hcolons : ∀ mac : Vector UInt8 6, ∀ text ∈ mac.toList.map part, ':' ∉ text := by
    intro mac text htext hmem
    obtain ⟨byte, -, rfl⟩ := List.mem_map.mp htext
    rcases List.mem_append.mp hmem with hmem | hmem
    · exact absurd (List.eq_of_mem_replicate hmem) (by decide)
    · exact not_mem_hexDigits rfl _ hmem
  have hne : ∀ mac : Vector UInt8 6, mac.toList.map part ≠ [] := by
    intro mac hnil
    have hlength := congrArg List.length hnil
    rw [List.length_map, mac.length_toList] at hlength
    cases hlength
  have hparts : left.toList.map part = right.toList.map part := by
    rw [← List.splitOn_intercalate ':' (hcolons left) (hne left),
      ← List.splitOn_intercalate ':' (hcolons right) (hne right)]
    exact congrArg (List.splitOn ':') h
  have hpart : Function.Injective part := fun byte other heq => by
    have hvalue := (hread byte).symm.trans (heq ▸ hread other)
    exact UInt8.toNat_inj.mp (Option.some.inj hvalue)
  exact Vector.toList_inj.mp (List.map_injective_iff.mpr hpart hparts)

theorem addressText_injective : Function.Injective addressText := by
  have hdash : ∀ addr : IpAddr, addr.display ≠ "—".toList := fun addr h => by
    have hparse := parseIpAddr_display addr
    have hnone : parseIpAddr "—".toList = none := by decide
    rw [h, hnone] at hparse
    cases hparse
  intro left right h
  cases left with
  | none =>
      cases right with
      | none => rfl
      | some addr => exact absurd h.symm (hdash addr)
  | some addr =>
      cases right with
      | none => exact absurd h (hdash addr)
      | some other => exact congrArg some (display_injective h)

theorem verdictDebug_injective : Function.Injective verdictDebug := by
  intro left right h
  cases left <;> cases right <;> first | rfl | exact absurd h (by decide)

theorem protocolText_injective :
    Function.Injective fun name => toUppercase (protocolText name) := by
  let names : List ProtocolName :=
    [.none, .other, .ipOther, .tcp, .tcpTruncated, .udp, .udpTruncated, .icmp, .icmpv6,
      .icmpTruncated, .tls, .http, .dns, .ntp, .dhcp, .quic, .modbus, .dnp3, .bacnet, .enip]
  have hread : ∀ name, (names.find? fun candidate =>
      toUppercase (protocolText candidate) == toUppercase (protocolText name)) = some name := by
    intro name
    cases name <;> decide
  intro left right h
  have hleft := hread left
  simp only at h
  rw [h, hread right] at hleft
  exact (Option.some.inj hleft).symm

/-- The flags that a text names. -/
def readTcpFlags (text : List Char) : UInt8 :=
  [("SYN", 0x02), ("ACK", 0x10), ("FIN", 0x01), ("RST", 0x04), ("PSH", 0x08), ("URG", 0x20),
    ("ECE", 0x40), ("CWR", 0x80)].foldl
    (fun flags (name, bit) => if contains text name.toList then flags ||| bit else flags) 0

theorem readTcpFlags_formatTcpFlags (flags : UInt8) :
    readTcpFlags (formatTcpFlags flags) = flags := by
  have hall : ∀ number < 256, readTcpFlags (formatTcpFlags (.ofNat number)) = .ofNat number := by
    decide +kernel
  have hread := hall flags.toNat flags.toNat_lt
  rwa [UInt8.ofNat_toNat] at hread

theorem formatTcpFlags_injective : Function.Injective formatTcpFlags := fun left right h =>
  (readTcpFlags_formatTcpFlags left).symm.trans (h ▸ readTcpFlags_formatTcpFlags right)

/-- The fields that a row shows: no offset, no total length, and the type and the code of an
ICMP message only. -/
def shownFields (packet : PacketMetadata) : PacketMetadata :=
  { packet with
    ipTotalLen := 0
    payloadOffset := 0
    icmpType := if packet.protocolName = .icmp then packet.icmpType else 0
    icmpCode := if packet.protocolName = .icmp then packet.icmpCode else 0 }

theorem buildPacketInfo_shownFields (packet : PacketMetadata) (pktLen : UInt32) :
    buildPacketInfo (shownFields packet) pktLen = buildPacketInfo packet pktLen := by
  unfold buildPacketInfo shownFields
  cases hname : packet.protocolName <;> simp [formatPorts]

/-- The info line of an ICMP message shows its type and its code. -/
theorem icmp_of_buildPacketInfo {left right : PacketMetadata} {pktLen other : UInt32}
    (hleft : left.protocolName = .icmp) (hright : right.protocolName = .icmp)
    (h : buildPacketInfo left pktLen = buildPacketInfo right other) :
    left.icmpType = right.icmpType ∧ left.icmpCode = right.icmpCode := by
  unfold buildPacketInfo at h
  simp only [hleft, hright, List.append_assoc] at h
  have hblank : ∀ number, ' ' ∉ decimal number := fun number => not_mem_toDigits rfl number
  obtain ⟨htype, hrest⟩ := append_separator_inj (hblank _) (hblank _)
    (List.append_cancel_left h)
  have hcode : decimal left.icmpCode.toNat = decimal right.icmpCode.toNat :=
    @List.append_cancel_left _ "code=".toList _ _ hrest
  exact ⟨UInt8.toNat_inj.mp (decimal_injective htype), UInt8.toNat_inj.mp (decimal_injective hcode)⟩

/-- Two packets have one row exactly if they agree in all that a row shows, with the same
length, time, verdict and rule. -/
theorem buildPacketRecord_eq_iff {left right : PacketMetadata} {length length' : UInt32}
    {elapsed elapsed' : Duration} {verdict verdict' : Verdict} {ruleId ruleId' : String} :
    buildPacketRecord left length elapsed verdict ruleId =
        buildPacketRecord right length' elapsed' verdict' ruleId' ↔
      shownFields left = shownFields right ∧ length = length' ∧ elapsed = elapsed' ∧
        verdict = verdict' ∧ ruleId = ruleId' := by
  constructor
  · intro h
    have hname := protocolText_injective (congrArg PacketRecord.protocol h)
    have hicmp : left.protocolName = .icmp →
        left.icmpType = right.icmpType ∧ left.icmpCode = right.icmpCode := fun hleft =>
      icmp_of_buildPacketInfo hleft (hname ▸ hleft) (congrArg PacketRecord.info h)
    refine ⟨?_, congrArg PacketRecord.length h, congrArg PacketRecord.time h,
      verdictDebug_injective (congrArg PacketRecord.ipsVerdict h), congrArg PacketRecord.ipsRule h⟩
    have hsrcIp := addressText_injective (congrArg PacketRecord.srcIp h)
    have hdstIp := addressText_injective (congrArg PacketRecord.dstIp h)
    have hflags := formatTcpFlags_injective (congrArg PacketRecord.tcpFlags h)
    have hsrcMac := formatMac_injective (congrArg PacketRecord.srcMac h)
    have hdstMac := formatMac_injective (congrArg PacketRecord.dstMac h)
    have hethertype := formatEthertype_injective (congrArg PacketRecord.ethertype h)
    simp only [buildPacketRecord, PacketRecord.mk.injEq] at h
    cases left
    cases right
    simp only at *
    subst hname
    simp only [shownFields, PacketMetadata.mk.injEq]
    grind
  · rintro ⟨hshown, rfl, rfl, rfl, rfl⟩
    have hinfo : buildPacketInfo left length = buildPacketInfo right length := by
      rw [← buildPacketInfo_shownFields left, hshown, buildPacketInfo_shownFields right]
    have hrecord : ∀ packet, buildPacketRecord packet length elapsed verdict ruleId =
        { buildPacketRecord (shownFields packet) length elapsed verdict ruleId with
          info := buildPacketInfo packet length } := fun _ => rfl
    rw [hrecord left, hrecord right, hshown, hinfo]

end GeSensor.Dashboard
