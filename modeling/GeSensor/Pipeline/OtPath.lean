/-
  Pipeline/OtPath.lean --- OT protection along the whole path of a frame.

  The engine has rules for Modbus writes and DNP3 control commands, and there are
  dissectors for both.  The pipeline links neither: it never calls the OT
  dissectors and passes no function code to `evaluate`, so that an OT rule cannot
  match any frame.
-/
import GeSensor.Dissectors.Ot
import GeSensor.Net.Frame
import GeSensor.Pipeline.Inspection

set_option autoImplicit false

namespace GeSensor.Pipeline

open GeSensor.Dissectors
open GeSensor.Flow
open GeSensor.Foundation
open GeSensor.Ips
open GeSensor.Net

/-! ## The frames to be dropped -/

/-- The flags and the destination port of a TCP header meet the criteria of a
GE-NET rule: SYN to port 0, XMAS, or no flags. -/
def TriggersNetRule (tcp : TransportHeader) : Prop :=
  (tcp.dstPort = 0 ∧ tcp.flags &&& 0x02 = 0x02) ∨ tcp.flags &&& 0x29 = 0x29 ∨ tcp.flags = 0

/-- A frame with complete IP and TCP headers that triggers no GE-NET rule. -/
structure CleanTcpFrame (frame : Bytes) (ip : IpHeader) (tcp : TransportHeader) : Prop where
  ipHeader : ipHeader? frame = some ip
  protocol : ip.protocol = 6
  tcpHeader : tcpHeader? frame ip.l4 = some tcp
  clean : ¬ TriggersNetRule tcp

/-- A Modbus write to port 502. -/
def IsModbusWrite (frame : Bytes) (tcp : TransportHeader) : Prop :=
  tcp.dstPort = 502 ∧ ∃ modbus, dissectModbus frame tcp.payload = .ok (some modbus) ∧
    modbus.isWrite = true ∧ modbus.isException = false

/-- A DNP3 control command to port 20000. -/
def IsDnp3Control (frame : Bytes) (tcp : TransportHeader) : Prop :=
  tcp.dstPort = 20000 ∧ ∃ dnp3, dissectDnp3 frame tcp.payload = .ok (some dnp3) ∧
    dnp3.isControlCommand = true

/-- The pipeline's verdict on the frame is Drop, by the given rule. -/
def DropsBy (spare : Nat → Nat) (sensor : Sensor) (readings : FrameReadings) (frame : Bytes)
    (ruleId : String) : Prop :=
  ∃ result next, sensor.processFrame spare readings frame = .ok (result, next) ∧
    result.outcome = .recorded .drop ruleId

/-- If the frame is a clean TCP frame, it is dropped by GE-OT-001 if it is a Modbus
write, and by GE-OT-002 if it is a DNP3 control command. -/
def OtProtected (spare : Nat → Nat) (sensor : Sensor) (readings : FrameReadings)
    (frame : Bytes) : Prop :=
  ∀ ip tcp, CleanTcpFrame frame ip tcp →
    (IsModbusWrite frame tcp → DropsBy spare sensor readings frame "GE-OT-001") ∧
    (IsDnp3Control frame tcp → DropsBy spare sensor readings frame "GE-OT-002")

/-- The frame is one of those to be dropped. -/
def IsOtCommand (frame : Bytes) : Prop :=
  ∃ ip tcp, CleanTcpFrame frame ip tcp ∧ (IsModbusWrite frame tcp ∨ IsDnp3Control frame tcp)

/-- Default rules, inline mode, and both OT dissectors switched on. -/
structure OtReady (sensor : Sensor) : Prop where
  rules : sensor.ipsEngine.rules = defaultRules
  mode : sensor.ipsEngine.mode = .inline
  modbus : sensor.dissectors.modbus = true
  dnp3 : sensor.dissectors.dnp3 = true

/-! ## No frame is dropped by an OT rule -/

/-- Without function codes only the GE-NET rules can match. -/
theorem default_rule_id_of_matches {rule : IpsRule} {args : EvaluateArgs}
    (hmem : rule ∈ defaultRules) (hmatch : matchesRule rule args = true)
    (hmodbus : args.modbusFunc = none) (hdnp3 : args.dnp3Func = none) :
    rule.id ∈ ["GE-NET-001", "GE-NET-002", "GE-NET-003"] := by
  simp only [defaultRules, List.mem_cons, List.not_mem_nil, or_false] at hmem
  rcases hmem with rfl | rfl | rfl | rfl | rfl
  · decide
  · decide
  · decide
  · simp [matchesRule, funcCodesMet, hmodbus] at hmatch
  · simp [matchesRule, funcCodesMet, hdnp3] at hmatch

/-- With the default rules a dropped frame was dropped by a GE-NET rule, or by the
default action. -/
theorem ruleId_of_dropsBy {spare : Nat → Nat} {sensor : Sensor} {readings : FrameReadings}
    {frame : Bytes} {ruleId : String} (hrules : sensor.ipsEngine.rules = defaultRules)
    (hdrops : DropsBy spare sensor readings frame ruleId) :
    ruleId ∈ ["", "GE-NET-001", "GE-NET-002", "GE-NET-003"] := by
  obtain ⟨result, next, hprocess, houtcome⟩ := hdrops
  rcases rule_of_recorded hprocess houtcome with rfl | ⟨inspected, rule, _, hfind, rfl⟩
  · exact List.mem_cons_self
  · rw [hrules] at hfind
    have hmatch := List.find?_some hfind
    simp only [Bool.and_eq_true] at hmatch
    exact List.mem_cons_of_mem _ (default_rule_id_of_matches
      (List.mem_of_find?_eq_some hfind) hmatch.2 rfl rfl)

/-- With the default rules, inline mode and both OT dissectors on, the pipeline
protects from a frame exactly when there is nothing to protect from. -/
theorem otProtected_iff (spare : Nat → Nat) {sensor : Sensor} (hready : OtReady sensor)
    (readings : FrameReadings) (frame : Bytes) :
    OtProtected spare sensor readings frame ↔ ¬ IsOtCommand frame := by
  have hmodbus : ¬ DropsBy spare sensor readings frame "GE-OT-001" := fun hdrops =>
    absurd (ruleId_of_dropsBy hready.rules hdrops) (by decide)
  have hdnp3 : ¬ DropsBy spare sensor readings frame "GE-OT-002" := fun hdrops =>
    absurd (ruleId_of_dropsBy hready.rules hdrops) (by decide)
  constructor
  · rintro hprotected ⟨ip, tcp, hclean, hwrite | hcontrol⟩
    · exact hmodbus ((hprotected ip tcp hclean).1 hwrite)
    · exact hdnp3 ((hprotected ip tcp hclean).2 hcontrol)
  · intro hnone ip tcp hclean
    refine ⟨fun hwrite => ?_, fun hcontrol => ?_⟩
    · exact absurd ⟨ip, tcp, hclean, Or.inl hwrite⟩ hnone
    · exact absurd ⟨ip, tcp, hclean, Or.inr hcontrol⟩ hnone

/-- A sensor started inline with both OT dissectors on. -/
def otSensor : Sensor :=
  .start (fun _ => 0)
    { SensorSettings.standard with
      dissectors := { modbus := true, dnp3 := true }
      ipsMode := .inline }

theorem otSensor_ready : OtReady otSensor where
  rules := IpsEngine.loadDefaultRules_rules _
  mode := IpsEngine.loadDefaultRules_mode _
  modbus := rfl
  dnp3 := rfl

/-- A TCP segment to port 502 whose payload writes multiple Modbus registers. -/
def modbusWriteFrame : Bytes :=
  [0, 0, 0, 0, 0, 0, 0, 0, 0, 0, 0, 0, 0x08, 0x00, 0x45, 0, 0, 52, 0, 0, 0, 0, 64, 6, 0, 0,
    192, 168, 1, 100, 10, 0, 0, 1, 0xC0, 0x00, 0x01, 0xF6, 0, 0, 0, 1, 0, 0, 0, 1, 0x50, 0x18,
    0xFF, 0xFF, 0, 0, 0, 0, 0x00, 0x02, 0x00, 0x00, 0x00, 0x06, 0x01, 0x10, 0x00, 0x00, 0x00,
    0x02]

theorem modbusWriteFrame_clean :
    CleanTcpFrame modbusWriteFrame ⟨6, .newV4 192 168 1 100, .newV4 10 0 0 1, 34⟩
      ⟨49152, 502, 0x18, 54⟩ where
  ipHeader := by decide
  protocol := rfl
  tcpHeader := by decide
  clean := by
    unfold TriggersNetRule
    decide

theorem modbusWriteFrame_isModbusWrite :
    IsModbusWrite modbusWriteFrame ⟨49152, 502, 0x18, 54⟩ :=
  ⟨rfl, ⟨2, 0, 6, 1, 0x10, false, 0, true⟩, by decide, rfl, rfl⟩

/-- `otProtected_iff` at the Modbus write. -/
theorem otProtected_iff_modbusWriteFrame :
    OtProtected (fun _ => 0) otSensor .zero modbusWriteFrame ↔
      ¬ IsOtCommand modbusWriteFrame :=
  otProtected_iff (fun _ => 0) otSensor_ready .zero modbusWriteFrame

/-- The Modbus write is not dropped by GE-OT-001. -/
theorem modbusWriteFrame_not_protected :
    ¬ OtProtected (fun _ => 0) otSensor .zero modbusWriteFrame := by
  intro hprotected
  have hdrops := (hprotected _ _ modbusWriteFrame_clean).1 modbusWriteFrame_isModbusWrite
  exact absurd (ruleId_of_dropsBy otSensor_ready.rules hdrops) (by decide)

end GeSensor.Pipeline
