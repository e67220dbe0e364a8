/-
  Startup/DefaultAction.lean --- the action for packets that no rule matches, from
  the configuration to the engine.

  `IpsConfig::default_action` is documented as the default action when no rule
  matches.  The status builder reports it; `main` builds the engine with
  `Verdict::Pass` whatever it says.  No call changes either copy, so that what is
  enforced is what was configured exactly when that is "pass".

  The calls of the API that touch the engine or the configuration are those of
  the mode switch and of the rules, in critical sections, and the toggles.
-/
import GeSensor.Dashboard.IpsModeSwitch
import GeSensor.Dashboard.RuleApi
import GeSensor.Ips.Counters
import GeSensor.Startup.Config

set_option autoImplicit false

namespace GeSensor.Startup

open GeSensor.Dashboard
open GeSensor.Foundation
open GeSensor.Ips
open GeSensor.Pipeline

/-- The engine, the configuration, and every call made so far that has more than
one critical section. -/
structure ApiState where
  engine : IpsEngine
  config : Config
  modeCalls : List SetModePc
  ruleThreads : List RuleThread

/-- A move of one party. -/
inductive ApiLabel where
  /-- a move of the mode switch -/
  | mode (label : ModeLabel)
  /-- a move of the rule API -/
  | rule (label : RuleLabel)
  /-- `toggle_dissector` -/
  | toggleDissector (name : String) (on : Bool)
  /-- the capture thread evaluates a packet -/
  | evaluate (packet : EvaluateArgs)

/-! ## Start-up -/

/-- The IPS mode that `main` starts the engine in. -/
def startMode (config : IpsConfig) : IpsMode :=
  if config.enabled then
    if config.mode = "inline" then .inline else .tap
  else .tap

/-- What `main` sets up from a configuration before it serves calls. -/
def startUp (config : Config) : ApiState where
  engine := (IpsEngine.new (startMode config.ips) .pass).loadDefaultRules
  config := config
  modeCalls := []
  ruleThreads := []

/-- `main` up to the point where it serves calls. -/
def mainStartUp (path : String) (file : Except String String)
    (parse : String → Except String Config) : Except LoadError ApiState := do
  let config ← Config.load path file parse
  return startUp config

/-! ## Moves -/

/-- What the mode switch sees of the state. -/
def ApiState.modeState (state : ApiState) : ModeState where
  engine := state.engine
  config := state.config.ips
  calls := state.modeCalls

/-- What the rule API sees of the state. -/
def ApiState.ruleState (state : ApiState) : RuleState where
  engine := state.engine
  threads := state.ruleThreads

section

variable (summarize : IpsRule → String)

/-- One move of the system; an unknown dissector name changes nothing. -/
def apiStep (state : ApiState) : ApiLabel → Option ApiState
  | .mode label =>
      (modeStep state.modeState label).map fun moved =>
        { state with
          engine := moved.engine
          config := { state.config with ips := moved.config }
          modeCalls := moved.calls }
  | .rule label =>
      (ruleStep summarize state.ruleState label).map fun moved =>
        { state with engine := moved.engine, ruleThreads := moved.threads }
  | .toggleDissector name on =>
      let toggled := (state.config.dissectors.toggle name on).getD state.config.dissectors
      some { state with config := { state.config with dissectors := toggled } }
  | .evaluate packet => some { state with engine := (state.engine.evaluate packet).2 }

end

/-! ## The default action -/

/-- The configured default action is reported, and is the one enforced: it is the
engine's, and in inline mode it is what a packet gets that no rule applies to. -/
structure ApiState.Enforces (state : ApiState) (configured : String) : Prop where
  reported : (buildIpsInfo state.engine state.config.ips).defaultAction = configured
  engine : verdictToStr state.engine.defaultAction = configured
  unmatched : state.engine.mode = .inline → ∀ packet,
    (∀ rule ∈ state.engine.rules, ¬ Applies rule packet) →
      verdictToStr (state.engine.evaluate packet).1.1 = configured

/-- The two copies of the default action are as `main` has set them. -/
structure ApiState.AsStarted (configured : String) (state : ApiState) : Prop where
  config : state.config.ips.defaultAction = configured
  engine : state.engine.defaultAction = .pass

theorem startUp_asStarted (config : Config) :
    (startUp config).AsStarted config.ips.defaultAction where
  config := rfl
  engine := IpsEngine.loadDefaultRules_defaultAction _

/-- A call of the mode switch keeps the default action, in both copies. -/
theorem modeStep_defaultAction {state next : ModeState} {label : ModeLabel}
    (hstep : modeStep state label = some next) :
    next.engine.defaultAction = state.engine.defaultAction ∧
      next.config.defaultAction = state.config.defaultAction := by
  cases label with
  | setIpsMode mode =>
      rw [modeStep] at hstep
      split at hstep
      · cases hstep
        exact ⟨rfl, rfl⟩
      · cases hstep
        exact ⟨rfl, rfl⟩
  | call number =>
      rw [modeStep, setModeStep] at hstep
      split at hstep
      · cases hstep
        exact ⟨IpsEngine.setMode_defaultAction _ _, rfl⟩
      · cases hstep
        exact ⟨rfl, rfl⟩
      · cases hstep
        exact ⟨rfl, rfl⟩
      · cases hstep
      · cases hstep

/-- So does a critical section of the rule API. -/
theorem threadStep_defaultAction {summarize : IpsRule → String} {engine moved : IpsEngine}
    {call : RuleCall} {pc next : RulePc}
    (hstep : threadStep summarize engine call pc = some (next, moved)) :
    moved.defaultAction = engine.defaultAction := by
  unfold threadStep at hstep
  split at hstep
  · cases hstep
    rfl
  · split at hstep
    · cases hstep
      rfl
    · cases hstep
      rfl
  · cases hstep
    rfl
  · cases hstep
    rfl
  · cases hstep

theorem ruleStep_defaultAction {summarize : IpsRule → String} {state next : RuleState}
    {label : RuleLabel} (hstep : ruleStep summarize state label = some next) :
    next.engine.defaultAction = state.engine.defaultAction := by
  cases label with
  | invoke call =>
      cases hstep
      rfl
  | call number =>
      obtain ⟨thread, _, hthread⟩ := Option.bind_eq_some_iff.mp hstep
      obtain ⟨⟨pc, engine⟩, hmoved, rfl⟩ := Option.map_eq_some_iff.mp hthread
      exact threadStep_defaultAction hmoved

/-- The step lemma: no move writes either copy. -/
theorem apiStep_asStarted {summarize : IpsRule → String} {configured : String}
    {state next : ApiState} {label : ApiLabel} (h : state.AsStarted configured)
    (hstep : apiStep summarize state label = some next) : next.AsStarted configured := by
  cases label with
  | mode label =>
      obtain ⟨moved, hmove, rfl⟩ := Option.map_eq_some_iff.mp hstep
      obtain ⟨hengine, hconfig⟩ := modeStep_defaultAction hmove
      exact ⟨hconfig.trans h.config, hengine.trans h.engine⟩
  | rule label =>
      obtain ⟨moved, hmove, rfl⟩ := Option.map_eq_some_iff.mp hstep
      exact ⟨h.config, (ruleStep_defaultAction hmove).trans h.engine⟩
  | toggleDissector name on =>
      cases hstep
      exact ⟨h.config, h.engine⟩
  | evaluate packet =>
      cases hstep
      exact ⟨h.config, (IpsEngine.evaluate_frame state.engine packet).2.2.1.trans h.engine⟩

/-- The run lemma. -/
theorem asStarted_of_reachable {summarize : IpsRule → String} {config : Config}
    {state : ApiState} (h : Reachable (apiStep summarize) (startUp config) state) :
    state.AsStarted config.ips.defaultAction :=
  ReachableBy.invariant (ApiState.AsStarted config.ips.defaultAction) (startUp_asStarted config)
    (fun h _ hstep => apiStep_asStarted h hstep) h

/-- A packet that no rule applies to gets the engine's default action. -/
theorem evaluate_unmatched {engine : IpsEngine} {packet : EvaluateArgs}
    (h : ∀ rule ∈ engine.rules, ¬ Applies rule packet) :
    (engine.evaluate packet).1.1 = engine.defaultAction := by
  rw [IpsEngine.evaluate_result]
  have hnone : (engine.rules.find? fun rule => rule.enabled && matchesRule rule packet) = none := by
    rw [List.find?_eq_none]
    exact fun rule hmem hmatch => h rule hmem ((applies_iff rule packet).mpr hmatch)
  rw [hnone]

/-- For every configuration that loads, and in every state reached from its start-up:
the configured default action is reported and enforced exactly when it is "pass". -/
theorem enforces_iff_pass (summarize : IpsRule → String) {path : String}
    {file : Except String String} {parse : String → Except String Config}
    {initial state : ApiState} (hstart : mainStartUp path file parse = .ok initial)
    (hreach : Reachable (apiStep summarize) initial state) :
    state.Enforces initial.config.ips.defaultAction ↔
      initial.config.ips.defaultAction = "pass" := by
  obtain ⟨config, _, hconfig⟩ := bind_eq_ok_iff.mp hstart
  cases hconfig
  have hstarted := asStarted_of_reachable hreach
  have hpass : verdictToStr state.engine.defaultAction = "pass" := by
    rw [hstarted.engine]
    rfl
  constructor
  · intro h
    exact h.engine.symm.trans hpass
  · intro h
    refine ⟨hstarted.config, hpass.trans h.symm, fun _ packet hnone => ?_⟩
    rw [evaluate_unmatched hnone, hpass]
    exact h.symm

/-- The configuration of an inline sensor with the given default action. -/
def inlineConfig (defaultAction : String) : Config where
  sensor := { name := "ge-sensor-01" }
  capture := { interface := "eth0" }
  ips := { enabled := true, mode := "inline", defaultAction := defaultAction }
  output := { kafka := { brokers := ["kafka-1:9092"] } }

/-- A configuration that is written down as it is parsed. -/
theorem mainStartUp_inlineConfig (defaultAction : String) :
    mainStartUp "configs/ge-sensor.yml" (.ok defaultAction) (fun text => .ok (inlineConfig text)) =
      .ok (startUp (inlineConfig defaultAction)) :=
  bind_eq_ok_iff.mpr ⟨_, Config.load_eq_ok_iff.mpr
    ⟨⟨_, rfl, rfl⟩, rfl, rfl, rfl⟩, rfl⟩

/-- A sensor that is configured to pass, after a call has begun to switch its mode. -/
theorem enforces_pass_after_switch :
    ({ startUp (inlineConfig "pass") with modeCalls := [.setEngine ⟨.tap, "tap", rfl⟩] } :
      ApiState).Enforces "pass" :=
  (enforces_iff_pass (fun _ => "any") (mainStartUp_inlineConfig "pass")
    (reachableBy_of_runLabels [.mode (.setIpsMode "tap")] .start rfl)).mpr rfl

/-- A UDP packet that no default rule applies to. -/
def ordinaryPacket : EvaluateArgs where
  srcIp := none
  dstIp := none
  srcPort := 40000
  dstPort := 53
  protocol := 17
  tcpFlags := 0
  modbusFunc := none
  dnp3Func := none

/-- A sensor that is configured to drop what no rule matches, passes it. -/
theorem configured_drop_not_enforced :
    ∃ initial, mainStartUp "configs/ge-sensor.yml" (.ok "drop")
        (fun text => .ok (inlineConfig text)) = .ok initial ∧
      initial.config.ips.defaultAction = "drop" ∧
      (buildIpsInfo initial.engine initial.config.ips).defaultAction = "drop" ∧
      initial.engine.mode = .inline ∧
      (initial.engine.evaluate ordinaryPacket).1 = (.pass, none) ∧
      ¬ initial.Enforces "drop" := by
  refine ⟨_, mainStartUp_inlineConfig "drop", rfl, rfl, rfl, by decide, fun h => ?_⟩
  exact absurd h.engine (by decide)

end GeSensor.Startup
