/-
  Ips/Engine.lean --- the rule engine of `src/ips/mod.rs`.

  An engine holds its mode, its rules in order of addition, a hit counter per
  rule id, the action for packets that match no rule, and its statistics.
  `evaluate` looks for the first enabled rule whose criteria the packet meets.
  Log lines are left out; the counters, which only ever grow by one per call, are
  natural numbers.
-/
import GeSensor.Foundation.HashMap
import GeSensor.Net.IpAddr

set_option autoImplicit false

namespace GeSensor.Ips

open GeSensor.Foundation
open GeSensor.Net

/-- IPS verdicts for each packet. -/
inductive Verdict where
  /-- allow the packet through -/
  | pass
  /-- drop the packet (inline mode only) -/
  | drop
  /-- alert but pass the packet -/
  | alert
  deriving DecidableEq, Repr

/-- IPS operating mode. -/
inductive IpsMode where
  /-- monitor only, no blocking -/
  | tap
  /-- active inline blocking -/
  | inline
  deriving DecidableEq, Repr

/-- Criteria for matching a packet against a rule; an absent criterion and an
empty list of function codes match every packet. -/
structure RuleCriteria where
  srcIp : Option IpAddr := none
  dstIp : Option IpAddr := none
  srcPort : Option UInt16 := none
  dstPort : Option UInt16 := none
  protocol : Option UInt8 := none
  tcpFlagsMask : Option UInt8 := none
  tcpFlagsValue : Option UInt8 := none
  modbusFuncCodes : List UInt8 := []
  dnp3FuncCodes : List UInt8 := []
  deriving DecidableEq, Repr

/-- An IPS rule for matching packets. -/
structure IpsRule where
  id : String
  description : String
  severity : String
  action : Verdict
  criteria : RuleCriteria
  enabled : Bool
  deriving DecidableEq, Repr

/-- The arguments of `evaluate`: what it is told about one packet. -/
structure EvaluateArgs where
  srcIp : Option IpAddr
  dstIp : Option IpAddr
  srcPort : UInt16
  dstPort : UInt16
  protocol : UInt8
  tcpFlags : UInt8
  modbusFunc : Option UInt8
  dnp3Func : Option UInt8
  deriving DecidableEq, Repr

/-- IPS engine statistics. -/
structure IpsStats where
  packetsInspected : Nat := 0
  packetsPassed : Nat := 0
  packetsDropped : Nat := 0
  packetsAlerted : Nat := 0
  rulesMatched : Nat := 0
  deriving DecidableEq, Repr

/-- The main IPS engine. -/
structure IpsEngine where
  mode : IpsMode
  rules : List IpsRule
  ruleHits : HashMap String Nat
  defaultAction : Verdict
  stats : IpsStats

/-- A criterion that compares one attribute, if it is set. -/
def criterionMet {α : Type} [DecidableEq α] (expected : Option α) (actual : α) : Bool :=
  match expected with
  | some value => actual == value
  | none => true

/-- A list of function codes, if it is not empty, must hold the packet's code. -/
def funcCodesMet (codes : List UInt8) (actual : Option UInt8) : Bool :=
  codes.isEmpty || match actual with
    | some code => codes.contains code
    | none => false

/-- The flags are compared only when both the mask and the value are set. -/
def tcpFlagsMet (mask value : Option UInt8) (flags : UInt8) : Bool :=
  match mask, value with
  | some mask, some value => flags &&& mask == value
  | _, _ => true

/-- Check if a packet matches a rule's criteria. -/
def matchesRule (rule : IpsRule) (packet : EvaluateArgs) : Bool :=
  let c := rule.criteria
  criterionMet (c.srcIp.map some) packet.srcIp &&
  criterionMet (c.dstIp.map some) packet.dstIp &&
  criterionMet c.srcPort packet.srcPort &&
  criterionMet c.dstPort packet.dstPort &&
  criterionMet c.protocol packet.protocol &&
  tcpFlagsMet c.tcpFlagsMask c.tcpFlagsValue packet.tcpFlags &&
  funcCodesMet c.modbusFuncCodes packet.modbusFunc &&
  funcCodesMet c.dnp3FuncCodes packet.dnp3Func

/-- The default rules, in the order in which they are loaded. -/
def defaultRules : List IpsRule :=
  [{ id := "GE-NET-001"
     description := "SYN scan on port 0 (reconnaissance)"
     severity := "high"
     action := .drop
     criteria := { dstPort := some 0, tcpFlagsMask := some 0x02, tcpFlagsValue := some 0x02 }
     enabled := true },
   { id := "GE-NET-002"
     description := "XMAS tree scan detected"
     severity := "high"
     action := .drop
     criteria := { tcpFlagsMask := some 0x29, tcpFlagsValue := some 0x29 }
     enabled := true },
   { id := "GE-NET-003"
     description := "NULL scan detected (no TCP flags)"
     severity := "medium"
     action := .alert
     criteria :=
       { protocol := some 6, tcpFlagsMask := some 0xFF, tcpFlagsValue := some 0x00 }
     enabled := true },
   { id := "GE-OT-001"
     description := "Unauthorized Modbus write operation"
     severity := "critical"
     action := .drop
     criteria := { dstPort := some 502, modbusFuncCodes := [0x05, 0x06, 0x0F, 0x10] }
     enabled := true },
   { id := "GE-OT-002"
     description := "Unauthorized DNP3 control command"
     severity := "critical"
     action := .drop
     criteria :=
       { dstPort := some 20000, dnp3FuncCodes := [0x03, 0x04, 0x05, 0x06, 0x0D, 0x0E] }
     enabled := true }]

/-- The counter of the verdict a matched rule led to. -/
def IpsStats.record (stats : IpsStats) : Verdict → IpsStats
  | .pass => { stats with packetsPassed := stats.packetsPassed + 1 }
  | .drop => { stats with packetsDropped := stats.packetsDropped + 1 }
  | .alert => { stats with packetsAlerted := stats.packetsAlerted + 1 }

namespace IpsEngine

/-- Create a new IPS engine. -/
def new (mode : IpsMode) (defaultAction : Verdict) : IpsEngine where
  mode := mode
  rules := []
  ruleHits := ∅
  defaultAction := defaultAction
  stats := {}

/-- Add a rule to the engine. -/
def addRule (engine : IpsEngine) (rule : IpsRule) : IpsEngine :=
  { engine with
    ruleHits := HashMap.orInsert engine.ruleHits rule.id 0
    rules := engine.rules ++ [rule] }

/-- Load default security rules. -/
def loadDefaultRules (engine : IpsEngine) : IpsEngine :=
  defaultRules.foldl addRule engine

/-- The verdict of a matched rule: tap mode downgrades Drop to Alert. -/
def ruleVerdict (mode : IpsMode) (action : Verdict) : Verdict :=
  if mode = .tap then
    if action = .drop then .alert else action
  else action

/-- Evaluate a packet against all rules and return the verdict. -/
def evaluate (engine : IpsEngine) (packet : EvaluateArgs) :
    (Verdict × Option IpsRule) × IpsEngine :=
  let inspected :=
    { engine.stats with packetsInspected := engine.stats.packetsInspected + 1 }
  match engine.rules.find? fun rule => rule.enabled && matchesRule rule packet with
  | some rule =>
      let verdict := ruleVerdict engine.mode rule.action
      let stats := { inspected with rulesMatched := inspected.rulesMatched + 1 }
      ((verdict, some rule),
        { engine with
          stats := stats.record verdict
          ruleHits := HashMap.upsert engine.ruleHits rule.id 0 (· + 1) })
  | none =>
      ((engine.defaultAction, none),
        { engine with stats := { inspected with packetsPassed := inspected.packetsPassed + 1 } })

/-- Update IPS runtime mode. -/
def setMode (engine : IpsEngine) (mode : IpsMode) : IpsEngine :=
  if engine.mode ≠ mode then { engine with mode := mode } else engine

/-- Remove a rule by ID. -/
def removeRule (engine : IpsEngine) (ruleId : String) : Bool × IpsEngine :=
  let rules := engine.rules.filter fun rule => rule.id != ruleId
  let removed := rules.length != engine.rules.length
  (removed,
    { engine with
      rules := rules
      ruleHits := if removed then engine.ruleHits.erase ruleId else engine.ruleHits })

/-- Get the number of loaded rules. -/
def ruleCount (engine : IpsEngine) : Nat := engine.rules.length

/-- Per-rule hit counter since process start. -/
def ruleHitCount (engine : IpsEngine) (ruleId : String) : Nat :=
  (engine.ruleHits.lookup ruleId).getD 0

/-- A call of the engine's interface. -/
inductive Call where
  | addRule (rule : IpsRule)
  | removeRule (ruleId : String)
  | setMode (mode : IpsMode)
  | loadDefaultRules
  | evaluate (packet : EvaluateArgs)
  deriving DecidableEq, Repr

/-- The engine after a call. -/
def call (engine : IpsEngine) : Call → IpsEngine
  | .addRule rule => engine.addRule rule
  | .removeRule ruleId => (engine.removeRule ruleId).2
  | .setMode mode => engine.setMode mode
  | .loadDefaultRules => engine.loadDefaultRules
  | .evaluate packet => (engine.evaluate packet).2

/-- The engine after a sequence of calls. -/
def run (engine : IpsEngine) (calls : List Call) : IpsEngine := calls.foldl call engine

/-! ## What a call can change -/

@[simp] theorem addRule_defaultAction (engine : IpsEngine) (rule : IpsRule) :
    (engine.addRule rule).defaultAction = engine.defaultAction := rfl

@[simp] theorem addRule_mode (engine : IpsEngine) (rule : IpsRule) :
    (engine.addRule rule).mode = engine.mode := rfl

@[simp] theorem addRule_rules (engine : IpsEngine) (rule : IpsRule) :
    (engine.addRule rule).rules = engine.rules ++ [rule] := rfl

@[simp] theorem setMode_mode (engine : IpsEngine) (mode : IpsMode) :
    (engine.setMode mode).mode = mode := by
  unfold setMode
  split
  · rfl
  · rename_i h
    exact not_not.mp h

@[simp] theorem setMode_defaultAction (engine : IpsEngine) (mode : IpsMode) :
    (engine.setMode mode).defaultAction = engine.defaultAction := by
  unfold setMode
  split <;> rfl

/-- Loading the default rules appends them. -/
theorem loadDefaultRules_rules (engine : IpsEngine) :
    engine.loadDefaultRules.rules = engine.rules ++ defaultRules := by
  simp [loadDefaultRules, defaultRules]

@[simp] theorem loadDefaultRules_defaultAction (engine : IpsEngine) :
    engine.loadDefaultRules.defaultAction = engine.defaultAction := by
  simp [loadDefaultRules, defaultRules]

@[simp] theorem loadDefaultRules_mode (engine : IpsEngine) :
    engine.loadDefaultRules.mode = engine.mode := by
  simp [loadDefaultRules, defaultRules]

/-- Only evaluations count: the other calls leave the statistics alone. -/
theorem addRule_stats (engine : IpsEngine) (rule : IpsRule) :
    (engine.addRule rule).stats = engine.stats := rfl

@[simp] theorem loadDefaultRules_stats (engine : IpsEngine) :
    engine.loadDefaultRules.stats = engine.stats := by
  simp [loadDefaultRules, defaultRules, addRule_stats]

@[simp] theorem setMode_stats (engine : IpsEngine) (mode : IpsMode) :
    (engine.setMode mode).stats = engine.stats := by
  unfold setMode
  split <;> rfl

/-- An evaluation changes counters only, and counts itself once. -/
theorem evaluate_frame (engine : IpsEngine) (packet : EvaluateArgs) :
    (engine.evaluate packet).2.mode = engine.mode ∧
    (engine.evaluate packet).2.rules = engine.rules ∧
    (engine.evaluate packet).2.defaultAction = engine.defaultAction ∧
    (engine.evaluate packet).2.stats.packetsInspected = engine.stats.packetsInspected + 1 := by
  unfold evaluate
  split
  · refine ⟨rfl, rfl, rfl, ?_⟩
    simp only [IpsStats.record]
    split <;> rfl
  · exact ⟨rfl, rfl, rfl, rfl⟩

/-- What an evaluation returns: the first enabled rule the packet meets, or the
default action. -/
theorem evaluate_result (engine : IpsEngine) (packet : EvaluateArgs) :
    (engine.evaluate packet).1 =
      match engine.rules.find? fun rule => rule.enabled && matchesRule rule packet with
      | some rule => (ruleVerdict engine.mode rule.action, some rule)
      | none => (engine.defaultAction, none) := by
  unfold evaluate
  split <;> simp_all

/-- The rule an evaluation returns. -/
theorem evaluate_matched (engine : IpsEngine) (packet : EvaluateArgs) :
    (engine.evaluate packet).1.2 =
      engine.rules.find? fun rule => rule.enabled && matchesRule rule packet := by
  rw [evaluate_result]
  cases engine.rules.find? fun rule => rule.enabled && matchesRule rule packet <;> rfl

/-- No call changes the default action. -/
theorem call_defaultAction (engine : IpsEngine) (step : Call) :
    (engine.call step).defaultAction = engine.defaultAction := by
  cases step with
  | addRule rule => rfl
  | removeRule ruleId => rfl
  | setMode mode => exact setMode_defaultAction engine mode
  | loadDefaultRules => exact loadDefaultRules_defaultAction engine
  | evaluate packet => exact (evaluate_frame engine packet).2.2.1

/-- Over a whole run the default action is the one the engine was built with. -/
theorem run_defaultAction (engine : IpsEngine) (calls : List Call) :
    (engine.run calls).defaultAction = engine.defaultAction := by
  induction calls generalizing engine with
  | nil => rfl
  | cons step rest ih => exact (ih (engine.call step)).trans (call_defaultAction engine step)

end IpsEngine

end GeSensor.Ips
