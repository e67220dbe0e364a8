/-
  Dashboard/IpsView.lean --- what `src/utils/dashboard.rs` shows of the IPS
  engine and its configuration.

  `ips_rules` renders the engine's rules and `build_ips_info` its counters.  The
  summary of a rule's criteria is left as a parameter: it is a text made of the
  rule alone.
-/
import GeSensor.Ips.Engine
import Mathlib.Algebra.GroupWithZero.Nat

set_option autoImplicit false

namespace GeSensor.Dashboard

open GeSensor.Foundation
open GeSensor.Ips

/-- The IPS section of the configuration. -/
structure IpsConfig where
  enabled : Bool
  mode : String
  defaultAction : String
  deriving DecidableEq, Repr

/-- The text of a mode. -/
def modeText : IpsMode → String
  | .tap => "tap"
  | .inline => "inline"

theorem modeText_inj {mode other : IpsMode} (h : modeText mode = modeText other) :
    mode = other := by
  cases mode <;> cases other
  · rfl
  · exact absurd h (by decide)
  · exact absurd h (by decide)
  · rfl

/-- What the dashboard shows of the engine and its configuration. -/
structure IpsInfo where
  mode : String
  enabled : Bool
  defaultAction : String
  rulesCount : Nat
  packetsInspected : Nat
  packetsPassed : Nat
  packetsDropped : Nat
  packetsAlerted : Nat
  deriving DecidableEq, Repr

/-- The answer of `build_ips_info`. -/
def buildIpsInfo (engine : IpsEngine) (config : IpsConfig) : IpsInfo where
  mode := modeText engine.mode
  enabled := config.enabled
  defaultAction := config.defaultAction
  rulesCount := engine.ruleCount
  packetsInspected := engine.stats.packetsInspected
  packetsPassed := engine.stats.packetsPassed
  packetsDropped := engine.stats.packetsDropped
  packetsAlerted := engine.stats.packetsAlerted

def verdictToStr : Verdict → String
  | .pass => "pass"
  | .drop => "drop"
  | .alert => "alert"

/-- A rule as the dashboard shows it. -/
structure IpsRuleApi where
  id : String
  description : String
  severity : String
  action : String
  enabled : Bool
  hits : Nat
  matchSummary : String
  status : String
  deriving DecidableEq, Repr

structure IpsRulesResponse where
  mode : String
  rulesCount : Nat
  totalRuleHits : Nat
  rules : List IpsRuleApi
  deriving DecidableEq, Repr

/-- What a rule does in the given mode. -/
def ruleStatus (mode : IpsMode) (rule : IpsRule) : String :=
  match mode, rule.action, rule.enabled with
  | _, _, false => "disabled"
  | .tap, .drop, true => "tap_only"
  | .inline, .drop, true => "blocking"
  | _, .alert, true => "alert_only"
  | _, .pass, true => "pass"

section

variable (summarize : IpsRule → String)

/-- A rule of the engine as the dashboard shows it. -/
def ruleApi (engine : IpsEngine) (rule : IpsRule) : IpsRuleApi where
  id := rule.id
  description := rule.description
  severity := rule.severity
  action := verdictToStr rule.action
  enabled := rule.enabled
  hits := engine.ruleHitCount rule.id
  matchSummary := summarize rule
  status := ruleStatus engine.mode rule

/-- `AppState::ips_rules`, with the engine locked. -/
def ipsRules (engine : IpsEngine) : IpsRulesResponse :=
  let rules := engine.rules.map (ruleApi summarize engine)
  { mode := modeText engine.mode
    rulesCount := rules.length
    totalRuleHits := (rules.map IpsRuleApi.hits).sum
    rules := rules }

/-- Look a rule up by its id. -/
theorem ipsRules_find? (engine : IpsEngine) (ruleId : String) :
    ((ipsRules summarize engine).rules.find? fun rule => rule.id == ruleId) =
      (engine.rules.find? fun rule => rule.id == ruleId).map (ruleApi summarize engine) := by
  rw [ipsRules, List.find?_map]
  rfl

end

end GeSensor.Dashboard
