/-
  Pipeline/OtRules.lean --- the OT dissectors beside the OT rules.

  What counts as a dangerous command is written twice: in the dissectors, which mark
  a frame as a write or a control command, and in the default rules GE-OT-001 and
  GE-OT-002.  The two lists of Modbus codes are the same.  The DNP3 dissector counts
  WRITE (0x02) as a control command; the rule does not have it.
-/
import GeSensor.Pipeline.FlagAlerts

set_option autoImplicit false

namespace GeSensor.Pipeline

open GeSensor.Dissectors
open GeSensor.Foundation
open GeSensor.Ips

/-- What the engine is told of the packet triggers no GE-NET rule. -/
def NoFlagRule (args : EvaluateArgs) : Prop :=
  ∀ rule ∈ defaultRules, rule.id ∈ flagRuleIds → matchesRule rule args = false

/-- The evaluation returns the rule with this id. -/
def MatchedBy (engine : IpsEngine) (args : EvaluateArgs) (ruleId : String) : Prop :=
  ∃ rule, (engine.evaluate args).1.2 = some rule ∧ rule.id = ruleId

/-- What the dissectors mark at this payload is what the OT rules match. -/
structure ClassifiedAlike (engine : IpsEngine) (data : Bytes) (payloadOffset : Nat) : Prop where
  modbus : ∀ frame args, dissectModbus data payloadOffset = .ok (some frame) →
    NoFlagRule args → args.dstPort = 502 → args.modbusFunc = some frame.functionCode →
    (MatchedBy engine args "GE-OT-001" ↔ frame.isWrite = true)
  dnp3 : ∀ frame args, dissectDnp3 data payloadOffset = .ok (some frame) →
    NoFlagRule args → args.dstPort = 20000 → args.dnp3Func = frame.functionCode →
    (MatchedBy engine args "GE-OT-002" ↔ frame.isControlCommand = true)

/-- The payload is a DNP3 frame with the function code WRITE. -/
def IsDnp3Write (data : Bytes) (payloadOffset : Nat) : Prop :=
  ∃ payload, getFrom? data payloadOffset = some payload ∧ 12 ≤ payload.length ∧
    byteAt payload 0 = 0x05 ∧ byteAt payload 1 = 0x64 ∧ byteAt payload 11 = 0x02

/-! ## The OT rules -/

/-- GE-OT-001. -/
def modbusRule : IpsRule := defaultRules[3]

/-- GE-OT-002. -/
def dnp3Rule : IpsRule := defaultRules[4]

/-- A rule on one port with function codes looks at these alone. -/
theorem portRule_matches_iff {rule : IpsRule} {port : UInt16} {modbusCodes dnp3Codes : List UInt8}
    (hcriteria : rule.criteria =
      { dstPort := some port, modbusFuncCodes := modbusCodes, dnp3FuncCodes := dnp3Codes })
    (args : EvaluateArgs) :
    matchesRule rule args = true ↔
      args.dstPort = port ∧ funcCodesMet modbusCodes args.modbusFunc = true ∧
        funcCodesMet dnp3Codes args.dnp3Func = true := by
  simp [matchesRule, hcriteria, criterionMet, tcpFlagsMet, and_assoc]

theorem modbusRule_matches_iff (args : EvaluateArgs) :
    matchesRule modbusRule args = true ↔
      args.dstPort = 502 ∧ funcCodesMet modbusWriteCodes args.modbusFunc = true ∧
        funcCodesMet [] args.dnp3Func = true :=
  portRule_matches_iff rfl args

theorem dnp3Rule_matches_iff (args : EvaluateArgs) :
    matchesRule dnp3Rule args = true ↔
      args.dstPort = 20000 ∧ funcCodesMet [] args.modbusFunc = true ∧
        funcCodesMet dnp3ControlCodes.tail args.dnp3Func = true :=
  portRule_matches_iff rfl args

/-- The first OT rule that a packet meets decides, if no flag rule does. -/
theorem find?_ot_rule {args : EvaluateArgs} (hclean : NoFlagRule args) :
    (defaultRules.find? fun rule => rule.enabled && matchesRule rule args) =
      [modbusRule, dnp3Rule].find? fun rule => rule.enabled && matchesRule rule args := by
  have hsplit : defaultRules = defaultRules.take 3 ++ [modbusRule, dnp3Rule] := rfl
  rw [hsplit, List.find?_append, Option.or_eq_right_of_none]
  rw [List.find?_eq_none]
  intro rule hmem
  have hflag : rule.id ∈ flagRuleIds := by
    have hall : ((defaultRules.take 3).all fun rule => flagRuleIds.contains rule.id) = true := rfl
    exact List.contains_iff_mem.mp (List.all_eq_true.mp hall rule hmem)
  rw [hclean rule (List.mem_of_mem_take hmem) hflag, Bool.and_false]
  exact Bool.false_ne_true

/-- With the default rules a packet that meets no flag rule is matched by the Modbus
rule if it meets it, and by the DNP3 rule if it meets that one only. -/
theorem matchedBy_ot_rule {engine : IpsEngine} {args : EvaluateArgs}
    (hrules : engine.rules = defaultRules) (hclean : NoFlagRule args) :
    (MatchedBy engine args "GE-OT-001" ↔ matchesRule modbusRule args = true) ∧
      (MatchedBy engine args "GE-OT-002" ↔
        matchesRule modbusRule args = false ∧ matchesRule dnp3Rule args = true) := by
  have hfound : (engine.evaluate args).1.2 =
      [modbusRule, dnp3Rule].find? fun rule => rule.enabled && matchesRule rule args := by
    rw [IpsEngine.evaluate_matched, hrules, find?_ot_rule hclean]
  have henabled : modbusRule.enabled = true ∧ dnp3Rule.enabled = true := ⟨rfl, rfl⟩
  have hid : modbusRule.id = "GE-OT-001" ∧ dnp3Rule.id = "GE-OT-002" := ⟨rfl, rfl⟩
  unfold MatchedBy
  rw [hfound, List.find?_cons, List.find?_cons, henabled.1, henabled.2, Bool.true_and,
    Bool.true_and]
  cases matchesRule modbusRule args <;> cases matchesRule dnp3Rule args <;> simp [hid]

/-! ## The dissectors' marks -/

/-- The Modbus dissector marks a frame by its function code. -/
theorem isWrite_of_dissectModbus {data : Bytes} {payloadOffset : Nat} {frame : ModbusFrame}
    (h : dissectModbus data payloadOffset = .ok (some frame)) :
    frame.isWrite = modbusWriteCodes.contains frame.functionCode := by
  obtain ⟨payload, -, hanswer⟩ := dissectModbus_answers.eq_some_iff.mp h
  unfold modbusAnswer at hanswer
  split at hanswer
  · cases hanswer
    rfl
  · cases hanswer

/-- The DNP3 dissector marks a frame as the rule does, and beyond it WRITE. -/
theorem isControlCommand_of_dissectDnp3 {data : Bytes} {payloadOffset : Nat} {frame : Dnp3Frame}
    (h : dissectDnp3 data payloadOffset = .ok (some frame)) :
    frame.isControlCommand = true ↔
      funcCodesMet dnp3ControlCodes.tail frame.functionCode = true ∨
        frame.functionCode = some 0x02 := by
  obtain ⟨payload, -, hanswer⟩ := dissectDnp3_answers.eq_some_iff.mp h
  unfold dnp3Answer at hanswer
  split at hanswer
  · cases hanswer
    split
    · simp [funcCodesMet, dnp3ControlCodes, or_comm]
    · simp [funcCodesMet, dnp3ControlCodes]
  · cases hanswer

/-- Which payloads are read as DNP3 frames with the function code WRITE. -/
theorem isDnp3Write_iff {data : Bytes} {payloadOffset : Nat} :
    IsDnp3Write data payloadOffset ↔
      ∃ frame, dissectDnp3 data payloadOffset = .ok (some frame) ∧
        frame.functionCode = some 0x02 := by
  constructor
  · rintro ⟨payload, hpayload, hlength, hstart, hstart', hcode⟩
    have hheader : dnp3DlHeaderLen ≤ payload.length ∧ byteAt payload 0 = dnp3StartBytes.1 ∧
        byteAt payload 1 = dnp3StartBytes.2 :=
      ⟨Nat.le_trans (Nat.le_add_right 10 2) hlength, hstart, hstart'⟩
    have hfunction : dnp3DlHeaderLen + 1 < payload.length := hlength
    rw [dissectDnp3_answers.of_part hpayload, dnp3Answer, if_pos hheader]
    refine ⟨_, rfl, ?_⟩
    dsimp only
    rw [if_pos hfunction]
    exact congrArg some hcode
  · rintro ⟨frame, hframe, hcode⟩
    obtain ⟨payload, hpayload, hanswer⟩ := dissectDnp3_answers.eq_some_iff.mp hframe
    unfold dnp3Answer at hanswer
    split at hanswer
    · rename_i hheader
      cases hanswer
      dsimp only at hcode
      split at hcode
      · rename_i hlength
        exact ⟨payload, hpayload, hlength, hheader.2.1, hheader.2.2, Option.some.inj hcode⟩
      · cases hcode
    · cases hanswer

/-! ## Where the lists agree -/

/-- A packet to a port, with PSH and ACK set, triggers no flag rule. -/
def commandArgs (dstPort : UInt16) (modbusFunc dnp3Func : Option UInt8) : EvaluateArgs where
  srcIp := none
  dstIp := none
  srcPort := 49152
  dstPort := dstPort
  protocol := 6
  tcpFlags := 0x18
  modbusFunc := modbusFunc
  dnp3Func := dnp3Func

theorem commandArgs_noFlagRule (dstPort : UInt16) (modbusFunc dnp3Func : Option UInt8) :
    NoFlagRule (commandArgs dstPort modbusFunc dnp3Func) := by
  intro rule hmem hid
  rw [← Bool.not_eq_true, matchesRule_eq_true_iff]
  intro hmet
  have htriggers : TriggersNetRule ⟨49152, dstPort, 0x18, 0⟩ :=
    triggersNetRule_of_flag_rule hmem hid hmet rfl rfl
  have hflags : (0x18 : UInt8) &&& 0x02 ≠ 0x02 ∧ (0x18 : UInt8) &&& 0x29 ≠ 0x29 ∧
      (0x18 : UInt8) ≠ 0 := by decide
  rcases htriggers with ⟨_, hsyn⟩ | hxmas | hnull
  · exact hflags.1 hsyn
  · exact hflags.2.1 hxmas
  · exact hflags.2.2 hnull

/-- Under the default rules a WRITE is marked as a control command and matched by no
OT rule. -/
theorem not_classifiedAlike_of_write {engine : IpsEngine} {data : Bytes} {payloadOffset : Nat}
    (hrules : engine.rules = defaultRules) (hwrite : IsDnp3Write data payloadOffset) :
    ¬ ClassifiedAlike engine data payloadOffset := by
  intro halike
  obtain ⟨frame, hframe, hcode⟩ := isDnp3Write_iff.mp hwrite
  have hclean := commandArgs_noFlagRule 20000 none (some 0x02)
  have hmatched := (halike.dnp3 frame _ hframe hclean rfl hcode.symm).mpr
    ((isControlCommand_of_dissectDnp3 hframe).mpr (Or.inr hcode))
  have hrule := ((matchedBy_ot_rule hrules hclean).2.mp hmatched).2
  exact absurd ((dnp3Rule_matches_iff _).mp hrule).2.2 (by decide)

/-- With the default rules the dissectors and the rules classify a payload alike
exactly when it is not a DNP3 frame with the function code WRITE. -/
theorem classified_alike_iff {engine : IpsEngine} (hrules : engine.rules = defaultRules)
    (data : Bytes) (payloadOffset : Nat) :
    ClassifiedAlike engine data payloadOffset ↔ ¬ IsDnp3Write data payloadOffset := by
  refine ⟨fun halike hwrite => not_classifiedAlike_of_write hrules hwrite halike, fun hwrite => ?_⟩
  constructor
  · intro frame args hframe hclean hport hcode
    rw [(matchedBy_ot_rule hrules hclean).1, modbusRule_matches_iff, hcode,
      isWrite_of_dissectModbus hframe]
    simp [hport, funcCodesMet, modbusWriteCodes]
  · intro frame args hframe hclean hport hcode
    have hmodbus : matchesRule modbusRule args = false := by
      rw [← Bool.not_eq_true, modbusRule_matches_iff, hport]
      exact fun hmet => absurd hmet.1 (by decide)
    have hnotWrite : frame.functionCode ≠ some 0x02 := fun heq =>
      hwrite (isDnp3Write_iff.mpr ⟨frame, hframe, heq⟩)
    rw [(matchedBy_ot_rule hrules hclean).2, dnp3Rule_matches_iff, hcode,
      isControlCommand_of_dissectDnp3 hframe, or_iff_left hnotWrite]
    simp [hmodbus, hport, funcCodesMet]

/-- A DNP3 frame without an application layer. -/
theorem classified_alike_linkFrame :
    ClassifiedAlike otSensor.ipsEngine [0x05, 0x64, 5, 0xC0, 1, 0, 0, 4, 0, 0] 0 ↔
      ¬ IsDnp3Write [0x05, 0x64, 5, 0xC0, 1, 0, 0, 4, 0, 0] 0 :=
  classified_alike_iff otSensor_ready.rules _ 0

/-- A DNP3 frame with the function code WRITE. -/
def dnp3WritePayload : Bytes := [0x05, 0x64, 8, 0xC4, 1, 0, 0, 4, 0, 0, 0xC0, 0x02]

/-- It is marked as a control command and not matched by GE-OT-002. -/
theorem dnp3WritePayload_not_classifiedAlike :
    ¬ ClassifiedAlike otSensor.ipsEngine dnp3WritePayload 0 :=
  not_classifiedAlike_of_write otSensor_ready.rules
    ⟨dnp3WritePayload, rfl, by decide, rfl, rfl, rfl⟩

end GeSensor.Pipeline
