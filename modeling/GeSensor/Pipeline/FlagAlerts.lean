/-
  Pipeline/FlagAlerts.lean --- the TCP-flag alerts along the whole path of a frame.

  Three default rules look at TCP flags.  Ports and flags of the metadata are zero
  until a TCP header is read, and zero flags are what GE-NET-003 looks for: a
  frame whose TCP header is not all there is reported as a NULL scan.  The
  dissector looks at neither the IP version nor the fragment offset, so that a
  later fragment's payload is read as a TCP header too.
-/
import GeSensor.Ips.Reference
import GeSensor.Pipeline.OtPath

set_option autoImplicit false

namespace GeSensor.Pipeline

open GeSensor.Dissectors
open GeSensor.Foundation
open GeSensor.Ips
open GeSensor.Net
open GeSensor.PcapStore

/-! ## Sound alerts -/

/-- The default rules with criteria on TCP flags. -/
def flagRuleIds : List String := ["GE-NET-001", "GE-NET-002", "GE-NET-003"]

/-- The frame holds a TCP header that meets the criteria: behind an IP header with
protocol TCP, in the first fragment, with its twenty fixed bytes captured. -/
structure HoldsTcpHeader (frame : Bytes) (criteria : RuleCriteria) (ip : IpHeader) : Prop where
  ipHeader : ipHeader? frame = some ip
  protocol : ip.protocol = 6
  firstFragment : FirstFragment frame
  complete : ip.l4 + 20 ≤ frame.length
  flags : ∀ mask value, criteria.tcpFlagsMask = some mask → criteria.tcpFlagsValue = some value →
    byteAt frame (ip.l4 + 13) &&& mask = value
  dstPort : ∀ port, criteria.dstPort = some port → be16At frame (ip.l4 + 2) = port

/-- Whatever sensor with the default rules processes the frame: if it records the
frame with a flag rule, then the frame holds a TCP header that meets the rule. -/
def FlagAlertsSound (frame : Bytes) : Prop :=
  ∀ (spare : Nat → Nat) (sensor next : Sensor) (readings : FrameReadings) (result : FrameResult)
    (verdict : Verdict) (rule : IpsRule),
    sensor.ipsEngine.rules = defaultRules →
    sensor.processFrame spare readings frame = .ok (result, next) →
    rule ∈ defaultRules → rule.id ∈ flagRuleIds →
    result.outcome = .recorded verdict rule.id →
    ∃ ip, HoldsTcpHeader frame rule.criteria ip

/-! ## Misread frames -/

/-- Where the ethertype and the protocol byte of a frame announce a TCP header,
whatever version and fragment offset the IP header holds. -/
def announcedTcp? (frame : Bytes) : Option Nat :=
  match networkHeader? frame with
  | none => none
  | some (ethertype, l3) =>
      let headerLen := (byteAt frame l3).toNat % 16 * 4
      if ethertype = 0x0800 then
        if l3 + 20 ≤ frame.length ∧ 20 ≤ headerLen ∧ l3 + headerLen ≤ frame.length ∧
            byteAt frame (l3 + 9) = 6 then
          some (l3 + headerLen)
        else none
      else if ethertype = 0x86DD then
        if l3 + 40 ≤ frame.length ∧ byteAt frame (l3 + 6) = 6 then some (l3 + 40) else none
      else none

/-- The fixed part of a TCP header at `l4`, zero bytes outside the frame. -/
def fixedTcpHeader (frame : Bytes) (l4 : Nat) : TransportHeader where
  srcPort := be16At frame l4
  dstPort := be16At frame (l4 + 2)
  flags := byteAt frame (l4 + 13)
  payload := l4 + 20

/-- A TCP header is announced, and either it is not all there, or the bytes in its
place trigger a flag rule although they are not one: the IP header has the wrong
version, or the frame is a later fragment. -/
def Misread (frame : Bytes) : Prop :=
  ∃ l4, announcedTcp? frame = some l4 ∧
    (frame.length < l4 + 20 ∨
      (TriggersNetRule (fixedTcpHeader frame l4) ∧
        (ipHeader? frame = none ∨ ¬ FirstFragment frame)))

/-- The dissected layers announce TCP as `announcedTcp?` does. -/
theorem announcedTcp?_eq {frame : Bytes} {l3 : Nat} {ethPacket : PacketMetadata}
    (hethernet : ethernetLayer frame = some (l3, ethPacket)) :
    announcedTcp? frame =
      (ipLayer frame l3 ethPacket).bind fun layer =>
        if layer.2.ipProto = ipProtoTcp then some layer.1 else none := by
  rw [announcedTcp?, networkHeader?_eq, hethernet, Option.map_some]
  dsimp only
  rw [ipLayer, ethertypeIpv4, ethertypeIpv6, ipProtoTcp]
  split
  · rw [ipv4Layer, ihlAt_eq]
    split
    · rename_i hheader
      rw [if_neg (by omega), Option.bind_some, if_pos hheader.2.2.2]
    · split
      · rfl
      · rename_i hheader hshort
        rw [Option.bind_some, if_neg fun hproto => hheader ⟨by omega, by omega, by omega, hproto⟩]
  · split
    · rw [ipv6Layer]
      split
      · rename_i hheader
        rw [if_neg (by omega), Option.bind_some, if_pos hheader.2]
      · split
        · rfl
        · rename_i hheader hshort
          rw [Option.bind_some, if_neg fun hproto => hheader ⟨by omega, hproto⟩]
    · rfl

/-- A complete IP header with protocol TCP announces its transport header. -/
theorem announcedTcp?_of_ipHeader {frame : Bytes} {ip : IpHeader} {l4 : Nat}
    (hip : ipHeader? frame = some ip) (htcp : announcedTcp? frame = some l4) :
    ip.protocol = 6 ∧ ip.l4 = l4 := by
  obtain ⟨l3, ethPacket, packet, hethernet, hlayer, _, _, hproto⟩ := ipLayer_of_ipHeader hip
  rw [announcedTcp?_eq hethernet, hlayer, Option.bind_some, Option.ite_none_right_eq_some] at htcp
  exact ⟨hproto.symm.trans htcp.1, Option.some.inj htcp.2⟩

/-! ## What the engine is told -/

/-- The Ethernet layer leaves address, port and flags of the metadata at their
defaults. -/
theorem ethernetLayer_fields {frame : Bytes} {l3 : Nat} {packet : PacketMetadata}
    (hethernet : ethernetLayer frame = some (l3, packet)) :
    packet.srcIp = none ∧ packet.dstPort = 0 ∧ packet.tcpFlags = 0 := by
  unfold ethernetLayer at hethernet
  dsimp only at hethernet
  split at hethernet
  · cases hethernet
  · split at hethernet
    · split at hethernet
      · cases hethernet
      · cases hethernet
        exact ⟨rfl, rfl, rfl⟩
    · cases hethernet
      exact ⟨rfl, rfl, rfl⟩

/-- The IP layer fills in both addresses, and leaves port and flags alone. -/
theorem ipLayer_fields {frame : Bytes} {l3 l4 : Nat} {ethPacket packet : PacketMetadata}
    (hlayer : ipLayer frame l3 ethPacket = some (l4, packet)) :
    ∃ srcIp dstIp, packet.srcIp = some srcIp ∧ packet.dstIp = some dstIp ∧
      packet.dstPort = ethPacket.dstPort ∧ packet.tcpFlags = ethPacket.tcpFlags := by
  unfold ipLayer at hlayer
  split at hlayer
  · unfold ipv4Layer at hlayer
    split at hlayer
    · cases hlayer
    · cases hlayer
      exact ⟨_, _, rfl, rfl, rfl, rfl⟩
  · split at hlayer
    · unfold ipv6Layer at hlayer
      split at hlayer
      · cases hlayer
      · cases hlayer
        exact ⟨_, _, rfl, rfl, rfl, rfl⟩
    · cases hlayer

/-- The destination port and the flags read of an announced TCP header: zero when
the header is not all there. -/
def tcpReading (frame : Bytes) (l4 : Nat) : UInt16 × UInt8 :=
  if frame.length < l4 + 20 then (0, 0)
  else ((fixedTcpHeader frame l4).dstPort, (fixedTcpHeader frame l4).flags)

/-- The transport layer reads a destination port and flags of an announced TCP
header, and leaves the flags alone otherwise. -/
theorem transportFields_flags (frame : Bytes) (l4 : Nat) {packet : PacketMetadata}
    (hport : packet.dstPort = 0) (hflags : packet.tcpFlags = 0) :
    (packet.ipProto = ipProtoTcp →
      ((transportFields frame l4 packet).dstPort, (transportFields frame l4 packet).tcpFlags) =
        tcpReading frame l4) ∧
    (packet.ipProto ≠ ipProtoTcp → (transportFields frame l4 packet).tcpFlags = 0) := by
  constructor
  · intro hproto
    rw [transportFields, if_pos hproto, tcpReading]
    split
    · rw [← hport, ← hflags]
    · rfl
  · intro hproto
    rw [transportFields, if_neg hproto, ← hflags]
    repeat' split
    all_goals rfl

/-- A frame without a whole IP header is not addressed. -/
theorem addressed?_of_no_ip {frame : Bytes} {l3 : Nat} {ethPacket : PacketMetadata}
    (hethernet : ethernetLayer frame = some (l3, ethPacket))
    (hlayer : ipLayer frame l3 ethPacket = none) : addressed? frame = none := by
  obtain ⟨protocolName, hdissect⟩ := dissectPacket_of_no_ip hethernet hlayer
  rw [addressed?, hdissect]
  dsimp only
  rw [(ethernetLayer_fields hethernet).1]

/-- A frame with a whole IP header is addressed, and the engine is told what its
transport layer holds. -/
theorem addressed?_of_ip {frame : Bytes} {l3 l4 : Nat} {ethPacket packet : PacketMetadata}
    (hethernet : ethernetLayer frame = some (l3, ethPacket))
    (hlayer : ipLayer frame l3 ethPacket = some (l4, packet)) :
    ∃ inspected, addressed? frame = some inspected ∧
      inspected.evaluateArgs.protocol = packet.ipProto ∧
      inspected.evaluateArgs.dstPort = (transportFields frame l4 packet).dstPort ∧
      inspected.evaluateArgs.tcpFlags = (transportFields frame l4 packet).tcpFlags := by
  obtain ⟨protocolName, _, hdissect⟩ := dissectPacket_of_ip hethernet hlayer
  obtain ⟨srcIp, dstIp, hsrc, hdst, _, _⟩ := ipLayer_fields hlayer
  obtain ⟨hsrc', hdst', hproto⟩ := transportFields_ips frame l4 packet
  rw [hsrc] at hsrc'
  rw [hdst] at hdst'
  refine ⟨⟨{ transportFields frame l4 packet with protocolName := protocolName }, srcIp, dstIp⟩,
    ?_, hproto, rfl, rfl⟩
  rw [addressed?, hdissect]
  dsimp only
  rw [hsrc', hdst']

/-- What the engine is told about the TCP header of an addressed frame. -/
theorem evaluateArgs_of_addressed {frame : Bytes} {inspected : InspectedPacket}
    (h : addressed? frame = some inspected) :
    (∃ l4, announcedTcp? frame = some l4 ∧ inspected.evaluateArgs.protocol = 6 ∧
      (inspected.evaluateArgs.dstPort, inspected.evaluateArgs.tcpFlags) =
        tcpReading frame l4) ∨
    (announcedTcp? frame = none ∧ inspected.evaluateArgs.protocol ≠ 6 ∧
      inspected.evaluateArgs.tcpFlags = 0) := by
  cases hethernet : ethernetLayer frame with
  | none =>
      rw [addressed?, dissectPacket_of_no_ethernet hethernet] at h
      cases h
  | some ethernet =>
      obtain ⟨l3, ethPacket⟩ := ethernet
      cases hlayer : ipLayer frame l3 ethPacket with
      | none =>
          rw [addressed?_of_no_ip hethernet hlayer] at h
          cases h
      | some layer =>
          obtain ⟨l4, packet⟩ := layer
          obtain ⟨other, hother, hproto, hport, hflags⟩ := addressed?_of_ip hethernet hlayer
          obtain rfl : other = inspected := Option.some.inj (hother.symm.trans h)
          obtain ⟨_, hethPort, hethFlags⟩ := ethernetLayer_fields hethernet
          obtain ⟨_, _, _, _, hipPort, hipFlags⟩ := ipLayer_fields hlayer
          obtain ⟨htcp, hno⟩ := transportFields_flags frame l4
            (hipPort.trans hethPort) (hipFlags.trans hethFlags)
          rw [announcedTcp?_eq hethernet, hlayer, Option.bind_some, hproto, hport, hflags]
          dsimp only
          split
          · rename_i hisTcp
            exact Or.inl ⟨l4, rfl, hisTcp, htcp hisTcp⟩
          · rename_i hisTcp
            exact Or.inr ⟨rfl, hisTcp, hno hisTcp⟩

/-- A frame that announces a TCP header is addressed. -/
theorem addressed?_of_announcedTcp {frame : Bytes} {l4 : Nat}
    (h : announcedTcp? frame = some l4) : ∃ inspected, addressed? frame = some inspected := by
  cases hethernet : ethernetLayer frame with
  | none =>
      rw [announcedTcp?, networkHeader?_eq, hethernet] at h
      cases h
  | some ethernet =>
      obtain ⟨l3, ethPacket⟩ := ethernet
      rw [announcedTcp?_eq hethernet] at h
      obtain ⟨⟨offset, packet⟩, hlayer, _⟩ := Option.bind_eq_some_iff.mp h
      obtain ⟨inspected, haddressed, _⟩ := addressed?_of_ip hethernet hlayer
      exact ⟨inspected, haddressed⟩

/-! ## When the alerts are sound -/

section Rules

variable {args : EvaluateArgs} {tcp : TransportHeader}

/-- A flag rule looks for TCP or for a flag that is set. -/
theorem protocol_of_flag_rule {rule : IpsRule} (hmem : rule ∈ defaultRules)
    (hid : rule.id ∈ flagRuleIds) (hmet : Satisfies args rule.criteria)
    (hflags : args.tcpFlags = 0) : args.protocol = 6 := by
  simp only [defaultRules, List.mem_cons, List.not_mem_nil, or_false] at hmem
  rcases hmem with rfl | rfl | rfl | rfl | rfl
  · have hsyn := hmet.tcpFlags 0x02 0x02 rfl rfl
    rw [hflags] at hsyn
    cases hsyn
  · have hxmas := hmet.tcpFlags 0x29 0x29 rfl rfl
    rw [hflags] at hxmas
    cases hxmas
  · exact hmet.protocol 6 rfl
  · exact absurd hid (by decide)
  · exact absurd hid (by decide)

/-- A header that meets a flag rule triggers it. -/
theorem triggersNetRule_of_flag_rule {rule : IpsRule} (hmem : rule ∈ defaultRules)
    (hid : rule.id ∈ flagRuleIds) (hmet : Satisfies args rule.criteria)
    (hport : args.dstPort = tcp.dstPort) (hflags : args.tcpFlags = tcp.flags) :
    TriggersNetRule tcp := by
  unfold TriggersNetRule
  rw [← hport, ← hflags]
  simp only [defaultRules, List.mem_cons, List.not_mem_nil, or_false] at hmem
  rcases hmem with rfl | rfl | rfl | rfl | rfl
  · exact Or.inl ⟨hmet.dstPort 0 rfl, hmet.tcpFlags 0x02 0x02 rfl rfl⟩
  · exact Or.inr (Or.inl (hmet.tcpFlags 0x29 0x29 rfl rfl))
  · have hnull := hmet.tcpFlags 0xFF 0x00 rfl rfl
    have hall : args.tcpFlags &&& 0xFF = args.tcpFlags := UInt8.and_neg_one
    exact Or.inr (Or.inr (hall.symm.trans hnull))
  · exact absurd hid (by decide)
  · exact absurd hid (by decide)

/-- The first default rule that matches a header that triggers a flag rule is a
flag rule. -/
theorem find?_flag_rule (hprotocol : args.protocol = 6) (hport : args.dstPort = tcp.dstPort)
    (hflags : args.tcpFlags = tcp.flags) (htriggers : TriggersNetRule tcp)
    (hmodbus : args.modbusFunc = none) (hdnp3 : args.dnp3Func = none) :
    ∃ rule ∈ defaultRules, rule.id ∈ flagRuleIds ∧
      (defaultRules.find? fun rule => rule.enabled && matchesRule rule args) = some rule := by
  unfold TriggersNetRule at htriggers
  rw [← hport, ← hflags] at htriggers
  have hmatches : ∃ rule ∈ defaultRules, (rule.enabled && matchesRule rule args) = true := by
    rcases htriggers with ⟨hzero, hsyn⟩ | hxmas | hnull
    · refine ⟨defaultRules[0], by simp [defaultRules], ?_⟩
      simp [defaultRules, matchesRule, criterionMet, tcpFlagsMet, funcCodesMet, hzero, hsyn]
    · refine ⟨defaultRules[1], by simp [defaultRules], ?_⟩
      simp [defaultRules, matchesRule, criterionMet, tcpFlagsMet, funcCodesMet, hxmas]
    · refine ⟨defaultRules[2], by simp [defaultRules], ?_⟩
      simp [defaultRules, matchesRule, criterionMet, tcpFlagsMet, funcCodesMet, hnull, hprotocol]
  obtain ⟨rule, hfind⟩ := Option.isSome_iff_exists.mp (List.find?_isSome.mpr hmatches)
  have hmem := List.mem_of_find?_eq_some hfind
  have hmatch := List.find?_some hfind
  rw [Bool.and_eq_true] at hmatch
  exact ⟨rule, hmem, default_rule_id_of_matches hmem hmatch.2 hmodbus hdnp3, hfind⟩

/-- A default rule is determined by its id. -/
theorem defaultRules_eq_of_id {rule other : IpsRule} (hmem : rule ∈ defaultRules)
    (hother : other ∈ defaultRules) (hid : rule.id = other.id) : rule = other := by
  have hnodup : (defaultRules.map IpsRule.id).Nodup := by decide
  exact List.inj_on_of_nodup_map hnodup hmem hother hid

end Rules

/-- A frame that is not misread causes sound alerts only. -/
theorem flagAlertsSound_of_not_misread {frame : Bytes} (hread : ¬ Misread frame) :
    FlagAlertsSound frame := by
  intro spare sensor next readings result verdict rule hrules hprocess hmem hid houtcome
  rcases rule_of_recorded hprocess houtcome with hnone | ⟨inspected, other, hinspected, hfind, heq⟩
  · rw [hnone] at hid
    exact absurd hid (by decide)
  rw [hrules] at hfind
  obtain rfl : other = rule :=
    defaultRules_eq_of_id (List.mem_of_find?_eq_some hfind) hmem heq
  have hmatch := List.find?_some hfind
  rw [Bool.and_eq_true, matchesRule_eq_true_iff] at hmatch
  have hmet := hmatch.2
  have haddressed := (Option.filter_eq_some_iff.mp hinspected).1
  rcases evaluateArgs_of_addressed haddressed with
    ⟨l4, htcp, hproto, hreading⟩ | ⟨_, hproto, hflags⟩
  · rw [tcpReading] at hreading
    split at hreading
    · rename_i hshort
      exact absurd ⟨l4, htcp, Or.inl hshort⟩ hread
    · rename_i hcomplete
      obtain ⟨hport, hflags⟩ := Prod.mk.inj hreading
      have htriggers := triggersNetRule_of_flag_rule hmem hid hmet hport hflags
      cases hip : ipHeader? frame with
      | none => exact absurd ⟨l4, htcp, Or.inr ⟨htriggers, Or.inl hip⟩⟩ hread
      | some ip =>
          obtain ⟨hprotocol, rfl⟩ := announcedTcp?_of_ipHeader hip htcp
          refine ⟨ip, hip, hprotocol, ?_, Nat.le_of_not_lt hcomplete, ?_, ?_⟩
          · by_contra hlater
            exact hread ⟨ip.l4, htcp, Or.inr ⟨htriggers, Or.inr hlater⟩⟩
          · intro mask value hmask hvalue
            have hmasked := hmet.tcpFlags mask value hmask hvalue
            rw [hflags] at hmasked
            exact hmasked
          · intro port hcriterion
            exact hport.symm.trans (hmet.dstPort port hcriterion)
  · exact absurd (protocol_of_flag_rule hmem hid hmet hflags) hproto

/-- Every dissector switched on. -/
def flagSettings : SensorSettings :=
  { SensorSettings.standard with
    dissectors := { modbus := true, dnp3 := true, bacnet := true, ethernetIp := true } }

/-- A sensor with the default rules and every dissector switched on. -/
def flagSensor : Sensor := .start (fun _ => 0) flagSettings

/-- It records every addressed frame with the first default rule that matches. -/
theorem flagSensor_records {frame : Bytes} {inspected : InspectedPacket} {rule : IpsRule}
    (haddressed : addressed? frame = some inspected)
    (hfind : (defaultRules.find? fun rule =>
      rule.enabled && matchesRule rule inspected.evaluateArgs) = some rule) :
    ∃ result next verdict,
      flagSensor.processFrame (fun _ => 0) .zero frame = .ok (result, next) ∧
        result.outcome = .recorded verdict rule.id := by
  obtain ⟨packets, hrepresents⟩ := Sensor.start_ringValid (fun _ => 0) flagSettings
  obtain ⟨ring, hpush, _⟩ := PacketRingBuffer.push_represents (fun _ => 0) hrepresents ⟨0, 0, frame⟩
  have henabled : flagSensor.dissectors.isEnabled inspected.packet.protocolName = true := by
    cases inspected.packet.protocolName <;> rfl
  have hinspected : inspected? flagSensor.dissectors frame = some inspected :=
    Option.filter_eq_some_iff.mpr ⟨haddressed, henabled⟩
  have hrules : flagSensor.ipsEngine.rules = defaultRules := IpsEngine.loadDefaultRules_rules _
  refine ⟨_, _, IpsEngine.ruleVerdict flagSensor.ipsEngine.mode rule.action,
    processFrame_of_inspected hpush hinspected, ?_⟩
  rw [IpsEngine.evaluate_result, hrules, hfind]
  rfl

/-- A misread frame causes an alert that is not sound. -/
theorem not_flagAlertsSound_of_misread {frame : Bytes} (hmisread : Misread frame) :
    ¬ FlagAlertsSound frame := by
  intro hsound
  obtain ⟨l4, htcp, hcases⟩ := hmisread
  obtain ⟨inspected, haddressed⟩ := addressed?_of_announcedTcp htcp
  -- Whichever way the frame is misread, what is read of it triggers a flag rule.
  have htriggers : ∃ tcp, TriggersNetRule tcp ∧ inspected.evaluateArgs.protocol = 6 ∧
      inspected.evaluateArgs.dstPort = tcp.dstPort ∧
      inspected.evaluateArgs.tcpFlags = tcp.flags := by
    rcases evaluateArgs_of_addressed haddressed with
      ⟨offset, hoffset, hproto, hreading⟩ | ⟨hnone, _, _⟩
    · obtain rfl : l4 = offset := Option.some.inj (htcp.symm.trans hoffset)
      rw [tcpReading] at hreading
      split at hreading
      · obtain ⟨hport, hflags⟩ := Prod.mk.inj hreading
        exact ⟨⟨0, 0, 0, 0⟩, Or.inr (Or.inr rfl), hproto, hport, hflags⟩
      · obtain ⟨hport, hflags⟩ := Prod.mk.inj hreading
        rcases hcases with hshort | ⟨htriggers, _⟩
        · contradiction
        · exact ⟨_, htriggers, hproto, hport, hflags⟩
    · rw [hnone] at htcp
      cases htcp
  obtain ⟨tcp, htriggers, hproto, hport, hflags⟩ := htriggers
  obtain ⟨rule, hmem, hid, hfind⟩ := find?_flag_rule hproto hport hflags htriggers rfl rfl
  obtain ⟨result, next, verdict, hprocess, houtcome⟩ := flagSensor_records haddressed hfind
  obtain ⟨ip, hholds⟩ := hsound _ _ _ _ _ verdict rule (IpsEngine.loadDefaultRules_rules _)
    hprocess hmem hid houtcome
  obtain ⟨_, rfl⟩ := announcedTcp?_of_ipHeader hholds.ipHeader htcp
  rcases hcases with hshort | ⟨_, hnone | hlater⟩
  · exact absurd hholds.complete (Nat.not_le_of_lt hshort)
  · rw [hholds.ipHeader] at hnone
    cases hnone
  · exact hlater hholds.firstFragment

/-- The alerts of the flag rules on a frame are sound exactly when the frame is
not misread. -/
theorem flagAlertsSound_iff (frame : Bytes) : FlagAlertsSound frame ↔ ¬ Misread frame := by
  constructor
  · intro hsound hmisread
    exact not_flagAlertsSound_of_misread hmisread hsound
  · exact flagAlertsSound_of_not_misread

/-- A SYN to port 443 of which only eight bytes were captured. -/
def cutOffSyn : Bytes :=
  [0, 0, 0, 0, 0, 0, 0, 0, 0, 0, 0, 0, 0x08, 0x00, 0x45, 0, 0, 40, 0, 0, 0, 0, 64, 6, 0, 0,
    192, 168, 1, 100, 10, 0, 0, 1, 0xC0, 0x00, 0x01, 0xBB, 0, 0, 0, 1]

/-- It is reported as a NULL scan. -/
theorem cutOffSyn_not_sound : ¬ FlagAlertsSound cutOffSyn :=
  not_flagAlertsSound_of_misread ⟨34, by decide, Or.inl (by decide)⟩

end GeSensor.Pipeline
