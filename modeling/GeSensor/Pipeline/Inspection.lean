/-
  Pipeline/Inspection.lean --- which frames the pipeline inspects.

  A frame is inspected when it dissects to a packet with both IP addresses whose
  protocol's dissector is switched on at that moment.  The lemmas give one frame,
  then one event, then a whole run in these terms: the engine is called once for
  every inspected frame and for nothing else, and the flow table is that of the
  tracker run on the inspected frames and the sweeps.
-/
import GeSensor.Flow.Accounting
import GeSensor.Pipeline.Capture

set_option autoImplicit false

namespace GeSensor.Pipeline

open GeSensor.Dissectors
open GeSensor.Flow
open GeSensor.Foundation
open GeSensor.Ips
open GeSensor.Net
open GeSensor.PcapStore

/-! ## One frame -/

/-- A packet that the pipeline hands to the tracker and the engine. -/
structure InspectedPacket where
  packet : PacketMetadata
  srcIp : IpAddr
  dstIp : IpAddr
  deriving DecidableEq, Repr

/-- What the engine is told about an inspected packet. -/
def InspectedPacket.evaluateArgs (inspected : InspectedPacket) : EvaluateArgs :=
  Pipeline.evaluateArgs inspected.packet inspected.srcIp inspected.dstIp

/-- What the tracker is told about an inspected packet. -/
def InspectedPacket.updateArgs (inspected : InspectedPacket) : FlowPacket :=
  Pipeline.updateArgs inspected.packet inspected.srcIp inspected.dstIp

/-- The packet of a frame that dissects to both addresses. -/
def addressed? (data : Bytes) : Option InspectedPacket :=
  match dissectPacket data with
  | .ok (some packet) =>
      match packet.srcIp, packet.dstIp with
      | some srcIp, some dstIp => some { packet := packet, srcIp := srcIp, dstIp := dstIp }
      | _, _ => none
  | _ => none

/-- The packet of a frame that is inspected under the given toggles. -/
def inspected? (config : DissectorConfig) (data : Bytes) : Option InspectedPacket :=
  (addressed? data).filter fun inspected => config.isEnabled inspected.packet.protocolName

section Frame

variable {spare : Nat → Nat} {sensor : Sensor} {ring : PacketRingBuffer}
  {readings : FrameReadings} {data : Bytes}

/-- An inspected frame is accounted and evaluated, once each. -/
theorem processFrame_of_inspected {inspected : InspectedPacket}
    (hring : sensor.pcapRing.push spare ⟨readings.tsSec, readings.tsUsec, data⟩ = .ok ring)
    (h : inspected? sensor.dissectors data = some inspected) :
    sensor.processFrame spare readings data = .ok
      ({ outcome := .recorded (sensor.ipsEngine.evaluate inspected.evaluateArgs).1.1
          (((sensor.ipsEngine.evaluate inspected.evaluateArgs).1.2.map IpsRule.id).getD "")
         evaluateCalls := [inspected.evaluateArgs] },
        { pcapRing := ring
          dissectors := sensor.dissectors
          flowTracker := (sensor.flowTracker.update readings.order readings.now
            readings.created inspected.updateArgs).2
          ipsEngine := (sensor.ipsEngine.evaluate inspected.evaluateArgs).2 }) := by
  obtain ⟨haddressed, henabled⟩ := Option.filter_eq_some_iff.mp h
  obtain ⟨answer, hanswer⟩ := dissectPacket_returns data
  rw [addressed?, hanswer] at haddressed
  rw [Sensor.processFrame, hring, ok_bind, hanswer, ok_bind]
  cases answer with
  | none => cases haddressed
  | some packet =>
      cases hsrc : packet.srcIp with
      | none => simp [hsrc] at haddressed
      | some srcIp =>
          cases hdst : packet.dstIp with
          | none => simp [hsrc, hdst] at haddressed
          | some dstIp =>
              simp only [hsrc, hdst, Option.some.injEq] at haddressed
              subst haddressed
              simp only [henabled, hsrc, hdst]
              rfl

/-- Any other frame is recorded, at most, without a look at it. -/
theorem processFrame_of_not_inspected
    (hring : sensor.pcapRing.push spare ⟨readings.tsSec, readings.tsUsec, data⟩ = .ok ring)
    (h : inspected? sensor.dissectors data = none) :
    ∃ outcome, sensor.processFrame spare readings data =
        .ok ({ outcome := outcome }, { sensor with pcapRing := ring }) ∧
      (outcome = .malformed ∨ outcome = .disabled ∨ outcome = .recorded .pass "") := by
  obtain ⟨answer, hanswer⟩ := dissectPacket_returns data
  rw [inspected?, addressed?, hanswer] at h
  rw [Sensor.processFrame, hring, ok_bind, hanswer, ok_bind]
  cases answer with
  | none => exact ⟨.malformed, rfl, Or.inl rfl⟩
  | some packet =>
      dsimp only
      by_cases henabled : sensor.dissectors.isEnabled packet.protocolName = true
      · cases hsrc : packet.srcIp with
        | none => exact ⟨.recorded .pass "", by simp [henabled], Or.inr (Or.inr rfl)⟩
        | some srcIp =>
            cases hdst : packet.dstIp with
            | none => exact ⟨.recorded .pass "", by simp [henabled], Or.inr (Or.inr rfl)⟩
            | some dstIp => simp [hsrc, hdst, henabled] at h
      · exact ⟨.disabled, by simp [henabled], Or.inr (Or.inl rfl)⟩

/-- A frame recorded with a rule was inspected, and the rule is the first that
matches. -/
theorem rule_of_recorded {result : FrameResult} {next : Sensor} {verdict : Verdict}
    {ruleId : String} (hprocess : sensor.processFrame spare readings data = .ok (result, next))
    (houtcome : result.outcome = .recorded verdict ruleId) :
    ruleId = "" ∨ ∃ inspected rule, inspected? sensor.dissectors data = some inspected ∧
      (sensor.ipsEngine.rules.find? fun rule =>
        rule.enabled && matchesRule rule inspected.evaluateArgs) = some rule ∧
      rule.id = ruleId := by
  cases hpush : sensor.pcapRing.push spare ⟨readings.tsSec, readings.tsUsec, data⟩ with
  | error panic =>
      rw [Sensor.processFrame, hpush] at hprocess
      cases hprocess
  | ok ring =>
      cases hinspected : inspected? sensor.dissectors data with
      | none =>
          obtain ⟨outcome, hskipped, hcases⟩ := processFrame_of_not_inspected hpush hinspected
          rw [hskipped] at hprocess
          cases hprocess
          subst houtcome
          rcases hcases with h | h | h <;> cases h
          exact Or.inl rfl
      | some inspected =>
          rw [processFrame_of_inspected hpush hinspected] at hprocess
          cases hprocess
          obtain ⟨_, hid⟩ := FrameOutcome.recorded.inj houtcome
          rw [IpsEngine.evaluate_result] at hid
          cases hfind : sensor.ipsEngine.rules.find? fun rule =>
              rule.enabled && matchesRule rule inspected.evaluateArgs with
          | none =>
              rw [hfind] at hid
              exact Or.inl hid.symm
          | some rule =>
              rw [hfind] at hid
              exact Or.inr ⟨inspected, rule, rfl, hfind, hid⟩

end Frame

/-! ## One event -/

/-- The toggles after an event. -/
def SensorEvent.togglesAfter (config : DissectorConfig) : SensorEvent → DissectorConfig
  | .toggleDissector name state => (config.toggle name state).getD config
  | _ => config

/-- The calls of `evaluate` that an event calls for: one for an inspected frame. -/
def SensorEvent.inspections (config : DissectorConfig) : SensorEvent → List EvaluateArgs
  | .frame _ data => ((inspected? config data).map InspectedPacket.evaluateArgs).toList
  | _ => []

/-- The calls of the flow tracker that an event calls for. -/
def SensorEvent.trackerCalls (config : DissectorConfig) : SensorEvent → List FlowTracker.Call
  | .frame readings data =>
      ((inspected? config data).map fun inspected =>
        .update readings.order readings.now readings.created inspected.updateArgs).toList
  | .evictIdle order now => [.evictIdle order now]
  | _ => []

/-- The calls of `evaluate` that were made for an event. -/
def evaluateCallsOf (result : Option FrameResult) : List EvaluateArgs :=
  (result.map FrameResult.evaluateCalls).getD []

/-- The ring of a sensor is one that pushes can lead to. -/
def Sensor.RingValid (sensor : Sensor) : Prop :=
  ∃ packets, sensor.pcapRing.Represents packets

/-- What an event does to the sensor. -/
structure StepEffect (sensor : Sensor) (event : SensorEvent) (result : Option FrameResult)
    (next : Sensor) : Prop where
  ring : next.RingValid
  dissectors : next.dissectors = event.togglesAfter sensor.dissectors
  calls : evaluateCallsOf result = event.inspections sensor.dissectors
  inspected : next.ipsEngine.stats.packetsInspected =
    sensor.ipsEngine.stats.packetsInspected + (event.inspections sensor.dissectors).length
  flows : next.flowTracker =
    sensor.flowTracker.runCalls (event.trackerCalls sensor.dissectors)

theorem processFrame_effect (spare : Nat → Nat) {sensor : Sensor} (hring : sensor.RingValid)
    (readings : FrameReadings) (data : Bytes) :
    ∃ result next, sensor.processFrame spare readings data = .ok (result, next) ∧
      StepEffect sensor (.frame readings data) (some result) next := by
  obtain ⟨packets, hrepresents⟩ := hring
  obtain ⟨ring, hpush, hpushed, _⟩ := PacketRingBuffer.push_represents spare hrepresents
    ⟨readings.tsSec, readings.tsUsec, data⟩
  cases h : inspected? sensor.dissectors data with
  | some inspected =>
      refine ⟨_, _, processFrame_of_inspected hpush h, ⟨_, hpushed⟩, rfl, ?_, ?_, ?_⟩
      · simp [evaluateCallsOf, SensorEvent.inspections, h]
      · rw [SensorEvent.inspections, h]
        exact (IpsEngine.evaluate_frame _ _).2.2.2
      · rw [SensorEvent.trackerCalls, h]
        rfl
  | none =>
      obtain ⟨outcome, hprocess, _⟩ := processFrame_of_not_inspected hpush h
      refine ⟨_, _, hprocess, ⟨_, hpushed⟩, rfl, ?_, ?_, ?_⟩
      · simp [evaluateCallsOf, SensorEvent.inspections, h]
      · simp [SensorEvent.inspections, h]
      · simp [SensorEvent.trackerCalls, h, FlowTracker.runCalls]

/-- The step lemma. -/
theorem step_effect (spare : Nat → Nat) {sensor : Sensor} (hring : sensor.RingValid)
    (event : SensorEvent) :
    ∃ result next, sensor.step spare event = .ok (result, next) ∧
      StepEffect sensor event result next := by
  cases event with
  | frame readings data =>
      obtain ⟨result, next, hprocess, heffect⟩ := processFrame_effect spare hring readings data
      refine ⟨some result, next, ?_, heffect⟩
      rw [Sensor.step, hprocess, ok_bind]
      rfl
  | toggleDissector name state => exact ⟨_, _, rfl, hring, rfl, rfl, rfl, rfl⟩
  | evictIdle order now => exact ⟨_, _, rfl, hring, rfl, rfl, rfl, rfl⟩
  | setIpsMode mode =>
      refine ⟨_, _, rfl, hring, rfl, rfl, ?_, rfl⟩
      simp [SensorEvent.inspections]
  | addIpsRule rule =>
      rw [Sensor.step]
      split
      · exact ⟨_, _, rfl, hring, rfl, rfl, rfl, rfl⟩
      · exact ⟨_, _, rfl, hring, rfl, rfl, rfl, rfl⟩
  | deleteIpsRule ruleId => exact ⟨_, _, rfl, hring, rfl, rfl, rfl, rfl⟩

/-! ## Runs -/

/-- The calls of `evaluate` that a sequence of events calls for, event by event,
with the toggles as they stand at each event. -/
def inspections (config : DissectorConfig) : List SensorEvent → List (List EvaluateArgs)
  | [] => []
  | event :: rest => event.inspections config :: inspections (event.togglesAfter config) rest

/-- The calls of the flow tracker that a sequence of events calls for. -/
def trackerCalls (config : DissectorConfig) : List SensorEvent → List FlowTracker.Call
  | [] => []
  | event :: rest => event.trackerCalls config ++ trackerCalls (event.togglesAfter config) rest

/-- What a run does to the sensor. -/
structure RunEffect (sensor : Sensor) (events : List SensorEvent)
    (results : List (Option FrameResult)) (final : Sensor) : Prop where
  ring : final.RingValid
  calls : results.map evaluateCallsOf = inspections sensor.dissectors events
  inspected : final.ipsEngine.stats.packetsInspected =
    sensor.ipsEngine.stats.packetsInspected +
      (inspections sensor.dissectors events).flatten.length
  flows : final.flowTracker =
    sensor.flowTracker.runCalls (trackerCalls sensor.dissectors events)

/-- The run lemma: no run panics, and its effect is the sum of its events'. -/
theorem run_effect (spare : Nat → Nat) (events : List SensorEvent) :
    ∀ {sensor : Sensor}, sensor.RingValid →
      ∃ results final, sensor.run spare events = .ok (results, final) ∧
        RunEffect sensor events results final := by
  induction events with
  | nil =>
      intro sensor hring
      exact ⟨[], sensor, rfl, hring, rfl, rfl, rfl⟩
  | cons event rest ih =>
      intro sensor hring
      obtain ⟨result, next, hstep, heffect⟩ := step_effect spare hring event
      obtain ⟨results, final, hrun, hrest⟩ := ih heffect.ring
      have hcalls := hrest.calls
      have hinspected := hrest.inspected
      have hflows := hrest.flows
      rw [heffect.dissectors] at hcalls hinspected hflows
      refine ⟨result :: results, final, ?_, hrest.ring, ?_, ?_, ?_⟩
      · rw [Sensor.run, hstep, ok_bind]
        dsimp only
        rw [hrun]
        rfl
      · rw [List.map_cons, heffect.calls, hcalls, inspections]
      · rw [hinspected, heffect.inspected, inspections, List.flatten_cons, List.length_append,
          Nat.add_assoc]
      · rw [hflows, heffect.flows, trackerCalls, FlowTracker.runCalls, FlowTracker.runCalls,
          FlowTracker.runCalls, List.foldl_append]

theorem Sensor.start_ringValid (spare : Nat → Nat) (settings : SensorSettings) :
    (start spare settings).RingValid :=
  ⟨[], PacketRingBuffer.new_represents spare settings.ringBytes⟩

end GeSensor.Pipeline
