/-
  Ips/Reference.lean --- the reference semantics of rule evaluation.

  What an evaluation returns is stated without the engine: from the calls made
  so far, the rules in force are those added and not since removed by id, in
  order of addition, and the mode in force is the one set last.  The engine's
  `evaluate` gives this answer after every run.
-/
import GeSensor.Ips.Engine

set_option autoImplicit false

namespace GeSensor.Ips

/-! ## The reference -/

/-- The packet meets every criterion that is set.  The flags are a criterion
when both the mask and the value are set. -/
structure Satisfies (packet : EvaluateArgs) (criteria : RuleCriteria) : Prop where
  srcIp : ∀ ip, criteria.srcIp = some ip → packet.srcIp = some ip
  dstIp : ∀ ip, criteria.dstIp = some ip → packet.dstIp = some ip
  srcPort : ∀ port, criteria.srcPort = some port → packet.srcPort = port
  dstPort : ∀ port, criteria.dstPort = some port → packet.dstPort = port
  protocol : ∀ number, criteria.protocol = some number → packet.protocol = number
  tcpFlags : ∀ mask value, criteria.tcpFlagsMask = some mask →
    criteria.tcpFlagsValue = some value → packet.tcpFlags &&& mask = value
  modbusFunc : criteria.modbusFuncCodes ≠ [] →
    ∃ code ∈ criteria.modbusFuncCodes, packet.modbusFunc = some code
  dnp3Func : criteria.dnp3FuncCodes ≠ [] →
    ∃ code ∈ criteria.dnp3FuncCodes, packet.dnp3Func = some code

/-- A rule applies to a packet when it is enabled and its criteria are met. -/
def Applies (rule : IpsRule) (packet : EvaluateArgs) : Prop :=
  rule.enabled = true ∧ Satisfies packet rule.criteria

/-- The action taken for a rule: Drop is replaced by Alert in tap mode. -/
def actionIn : IpsMode → Verdict → Verdict
  | .tap, .drop => .alert
  | _, action => action

/-- The answers to a packet under a mode, a default action and a list of rules:
the first rule that applies with its action, else the default action. -/
inductive Answers (mode : IpsMode) (defaultAction : Verdict) (rules : List IpsRule)
    (packet : EvaluateArgs) : Verdict × Option IpsRule → Prop where
  | matched (earlier later : List IpsRule) (rule : IpsRule)
      (hrules : rules = earlier ++ rule :: later) (happlies : Applies rule packet)
      (hfirst : ∀ other ∈ earlier, ¬ Applies other packet) :
      Answers mode defaultAction rules packet (actionIn mode rule.action, some rule)
  | unmatched (hnone : ∀ rule ∈ rules, ¬ Applies rule packet) :
      Answers mode defaultAction rules packet (defaultAction, none)

namespace IpsEngine

/-- The rules a call adds. -/
def Call.added : Call → List IpsRule
  | .addRule rule => [rule]
  | .loadDefaultRules => defaultRules
  | _ => []

/-- The mode a call sets. -/
def Call.modeSet? : Call → Option IpsMode
  | .setMode mode => some mode
  | _ => none

/-- Whether a call is an evaluation. -/
def Call.isEvaluate : Call → Bool
  | .evaluate _ => true
  | _ => false

/-- The rules added and not since removed by id, in order of addition. -/
def rulesInForce : List Call → List IpsRule
  | [] => []
  | step :: rest =>
      (step.added.filter fun rule => Call.removeRule rule.id ∉ rest) ++ rulesInForce rest

/-- The mode set last, or the one the engine was built with. -/
def modeInForce (initial : IpsMode) (calls : List Call) : IpsMode :=
  (calls.reverse.findSome? Call.modeSet?).getD initial

end IpsEngine

/-! ## One packet against one list of rules -/

/-- A criterion that compares one attribute says that the attribute has the
value set. -/
theorem criterionMet_eq_true_iff {α : Type} [DecidableEq α] (expected : Option α)
    (actual : α) :
    criterionMet expected actual = true ↔ ∀ value, expected = some value → actual = value := by
  cases expected with
  | none => simp [criterionMet]
  | some value => simp [criterionMet]

/-- A list of function codes that is set holds the packet's code. -/
theorem funcCodesMet_eq_true_iff (codes : List UInt8) (actual : Option UInt8) :
    funcCodesMet codes actual = true ↔ (codes ≠ [] → ∃ code ∈ codes, actual = some code) := by
  cases codes with
  | nil => simp [funcCodesMet]
  | cons first rest =>
      cases actual with
      | none => simp [funcCodesMet]
      | some code => simp [funcCodesMet]

/-- The flags are compared under the mask when the mask and the value are set. -/
theorem tcpFlagsMet_eq_true_iff (mask value : Option UInt8) (flags : UInt8) :
    tcpFlagsMet mask value flags = true ↔
      ∀ m v, mask = some m → value = some v → flags &&& m = v := by
  cases mask with
  | none => simp [tcpFlagsMet]
  | some m =>
      cases value with
      | none => simp [tcpFlagsMet]
      | some v => simp [tcpFlagsMet]

/-- `matches_rule` decides whether the packet meets every criterion that is set. -/
theorem matchesRule_eq_true_iff (rule : IpsRule) (packet : EvaluateArgs) :
    matchesRule rule packet = true ↔ Satisfies packet rule.criteria := by
  simp only [matchesRule, Bool.and_eq_true, criterionMet_eq_true_iff,
    funcCodesMet_eq_true_iff, tcpFlagsMet_eq_true_iff]
  constructor
  · rintro ⟨⟨⟨⟨⟨⟨⟨hsrcIp, hdstIp⟩, hsrcPort⟩, hdstPort⟩, hproto⟩, hflags⟩, hmodbus⟩, hdnp3⟩
    exact ⟨fun ip hip => hsrcIp _ (by rw [hip]; rfl), fun ip hip => hdstIp _ (by rw [hip]; rfl),
      hsrcPort, hdstPort, hproto, hflags, hmodbus, hdnp3⟩
  · intro h
    refine ⟨⟨⟨⟨⟨⟨⟨?_, ?_⟩, h.srcPort⟩, h.dstPort⟩, h.protocol⟩, h.tcpFlags⟩, h.modbusFunc⟩,
      h.dnp3Func⟩
    · intro value hvalue
      obtain ⟨ip, hip, rfl⟩ := Option.map_eq_some_iff.mp hvalue
      exact h.srcIp ip hip
    · intro value hvalue
      obtain ⟨ip, hip, rfl⟩ := Option.map_eq_some_iff.mp hvalue
      exact h.dstIp ip hip

/-- The test of the evaluation loop decides whether the rule applies. -/
theorem applies_iff (rule : IpsRule) (packet : EvaluateArgs) :
    Applies rule packet ↔ (rule.enabled && matchesRule rule packet) = true := by
  rw [Bool.and_eq_true, matchesRule_eq_true_iff]
  exact Iff.rfl

/-- The engine's downgrade is the reference's. -/
theorem ruleVerdict_eq_actionIn (mode : IpsMode) (action : Verdict) :
    IpsEngine.ruleVerdict mode action = actionIn mode action := by
  cases mode <;> cases action <;> rfl

/-- An answer names the first rule that passes the engine's test, and acts as the
rule it names. -/
theorem Answers.eq_find {mode : IpsMode} {defaultAction : Verdict} {rules : List IpsRule}
    {packet : EvaluateArgs} {answer : Verdict × Option IpsRule}
    (h : Answers mode defaultAction rules packet answer) :
    answer.2 = rules.find? (fun rule => rule.enabled && matchesRule rule packet) ∧
      answer.1 = (answer.2.map fun rule => actionIn mode rule.action).getD defaultAction := by
  cases h with
  | matched earlier later rule hrules happlies hfirst =>
      refine ⟨Eq.symm (List.find?_eq_some_iff_append.mpr ?_), rfl⟩
      refine ⟨(applies_iff _ _).mp happlies, earlier, later, hrules, fun other hother => ?_⟩
      have hnot := hfirst other hother
      rw [applies_iff, Bool.not_eq_true] at hnot
      rw [hnot]
      rfl
  | unmatched hnone =>
      refine ⟨(List.find?_eq_none.mpr fun rule hmem => ?_).symm, rfl⟩
      exact fun hmet => hnone rule hmem ((applies_iff _ _).mpr hmet)

/-- There is at most one answer. -/
theorem Answers.unique {mode : IpsMode} {defaultAction : Verdict} {rules : List IpsRule}
    {packet : EvaluateArgs} {answer answer' : Verdict × Option IpsRule}
    (h : Answers mode defaultAction rules packet answer)
    (h' : Answers mode defaultAction rules packet answer') : answer = answer' := by
  obtain ⟨hrule, haction⟩ := h.eq_find
  obtain ⟨hrule', haction'⟩ := h'.eq_find
  have heq : answer.2 = answer'.2 := hrule.trans hrule'.symm
  exact Prod.ext (by rw [haction, haction', heq]) heq

namespace IpsEngine

/-- `evaluate` gives the answer of the engine's own mode and rules. -/
theorem evaluate_answers (engine : IpsEngine) (packet : EvaluateArgs) :
    Answers engine.mode engine.defaultAction engine.rules packet (engine.evaluate packet).1 := by
  rw [evaluate_result]
  cases hfind : engine.rules.find? fun rule => rule.enabled && matchesRule rule packet with
  | some rule =>
      obtain ⟨hmet, earlier, later, hrules, hfirst⟩ := List.find?_eq_some_iff_append.mp hfind
      simp only [ruleVerdict_eq_actionIn]
      refine .matched earlier later rule hrules ((applies_iff _ _).mpr hmet) ?_
      intro other hother happlies
      have hnot := hfirst other hother
      rw [(applies_iff _ _).mp happlies] at hnot
      cases hnot
  | none =>
      refine .unmatched fun rule hmem happlies => ?_
      exact List.find?_eq_none.mp hfind rule hmem ((applies_iff _ _).mp happlies)

/-! ## Rules and mode over a run -/

/-- What one call does to the rules: it drops those it removes and appends those
it adds. -/
theorem call_rules (engine : IpsEngine) (step : Call) :
    (engine.call step).rules =
      (engine.rules.filter fun rule => step ≠ .removeRule rule.id) ++ step.added := by
  cases step with
  | addRule rule => simp [call, Call.added]
  | removeRule ruleId =>
      have hkept : (fun rule : IpsRule => rule.id != ruleId) =
          fun rule => decide (Call.removeRule ruleId ≠ .removeRule rule.id) := by
        funext rule
        rw [Bool.eq_iff_iff, bne_iff_ne, decide_eq_true_iff, ne_eq, ne_eq,
          Call.removeRule.injEq, eq_comm]
      simp only [call, removeRule, Call.added, List.append_nil, hkept]
  | setMode mode =>
      have hrules : (engine.setMode mode).rules = engine.rules := by
        unfold setMode
        split <;> rfl
      simp [call, Call.added, hrules]
  | loadDefaultRules => simp [call, Call.added, loadDefaultRules_rules]
  | evaluate packet =>
      simp [call, Call.added, (evaluate_frame engine packet).2.1]

/-- After a run the engine holds the rules it began with that the run did not
remove, and the run's rules in force. -/
theorem run_rules (engine : IpsEngine) (calls : List Call) :
    (engine.run calls).rules =
      (engine.rules.filter fun rule => Call.removeRule rule.id ∉ calls) ++
        rulesInForce calls := by
  induction calls generalizing engine with
  | nil => simp [run, rulesInForce]
  | cons step rest ih =>
      have hkept : (fun rule : IpsRule => decide (Call.removeRule rule.id ∉ step :: rest)) =
          fun rule => decide (step ≠ .removeRule rule.id) &&
            decide (Call.removeRule rule.id ∉ rest) := by
        funext rule
        rw [← Bool.decide_and, decide_eq_decide, List.mem_cons, not_or, ne_comm]
      calc (engine.run (step :: rest)).rules
          = ((engine.call step).run rest).rules := rfl
        _ = ((engine.call step).rules.filter fun rule => Call.removeRule rule.id ∉ rest) ++
              rulesInForce rest := ih _
        _ = (engine.rules.filter fun rule => Call.removeRule rule.id ∉ step :: rest) ++
              rulesInForce (step :: rest) := by
            rw [call_rules, List.filter_append, List.filter_filter, hkept, rulesInForce,
              List.append_assoc]
            simp only [Bool.and_comm]

/-- What one call does to the mode. -/
theorem call_mode (engine : IpsEngine) (step : Call) :
    (engine.call step).mode = step.modeSet?.getD engine.mode := by
  cases step with
  | addRule rule => rfl
  | removeRule ruleId => rfl
  | setMode mode => exact setMode_mode engine mode
  | loadDefaultRules => exact loadDefaultRules_mode engine
  | evaluate packet => exact (evaluate_frame engine packet).1

/-- After a run the engine is in the mode in force. -/
theorem run_mode (engine : IpsEngine) (calls : List Call) :
    (engine.run calls).mode = modeInForce engine.mode calls := by
  induction calls generalizing engine with
  | nil => rfl
  | cons step rest ih =>
      have hrun : (engine.run (step :: rest)).mode = modeInForce (engine.call step).mode rest :=
        ih (engine.call step)
      rw [hrun, call_mode]
      unfold modeInForce
      rw [List.reverse_cons, List.findSome?_append]
      cases rest.reverse.findSome? Call.modeSet? with
      | some mode => rfl
      | none => cases hset : step.modeSet? <;> simp [hset]

/-! ## Evaluations leave no trace -/

/-- An evaluation adds no rule and sets no mode. -/
theorem Call.of_isEvaluate {step : Call} (heval : step.isEvaluate = true) :
    step.added = [] ∧ step.modeSet? = none := by
  cases step with
  | evaluate packet => exact ⟨rfl, rfl⟩
  | addRule rule => cases heval
  | removeRule ruleId => cases heval
  | setMode mode => cases heval
  | loadDefaultRules => cases heval

/-- The rules in force are those of the other calls. -/
theorem rulesInForce_filter_isEvaluate (calls : List Call) :
    rulesInForce (calls.filter fun step => !step.isEvaluate) = rulesInForce calls := by
  induction calls with
  | nil => rfl
  | cons step rest ih =>
      have hremoved : ∀ rule : IpsRule,
          Call.removeRule rule.id ∈ rest.filter (fun step => !step.isEvaluate) ↔
            Call.removeRule rule.id ∈ rest := by
        intro rule
        rw [List.mem_filter]
        exact and_iff_left rfl
      rw [List.filter_cons]
      split
      · rw [rulesInForce, rulesInForce, ih]
        simp only [hremoved]
      · rename_i heval
        rw [Bool.not_eq_true, Bool.not_eq_false'] at heval
        rw [ih, rulesInForce, (Call.of_isEvaluate heval).1]
        rfl

/-- The mode in force is that of the other calls. -/
theorem modeInForce_filter_isEvaluate (initial : IpsMode) (calls : List Call) :
    modeInForce initial (calls.filter fun step => !step.isEvaluate) =
      modeInForce initial calls := by
  unfold modeInForce
  rw [← List.filter_reverse]
  congr 1
  induction calls.reverse with
  | nil => rfl
  | cons step rest ih =>
      rw [List.filter_cons]
      split
      · rw [List.findSome?_cons, List.findSome?_cons, ih]
      · rename_i heval
        rw [Bool.not_eq_true, Bool.not_eq_false'] at heval
        rw [ih, List.findSome?_cons, (Call.of_isEvaluate heval).2]

/-- After any run of an engine built with any mode and default action, an
evaluation of any packet gives the reference answer for the rules and the mode
in force, the same as if the run had evaluated nothing. -/
theorem evaluate_follows_reference (mode : IpsMode) (defaultAction : Verdict)
    (calls : List Call) (packet : EvaluateArgs) :
    Answers (modeInForce mode calls) defaultAction (rulesInForce calls) packet
      (((new mode defaultAction).run calls).evaluate packet).1 ∧
    (((new mode defaultAction).run calls).evaluate packet).1 =
      (((new mode defaultAction).run (calls.filter fun step => !step.isEvaluate)).evaluate
        packet).1 := by
  have hanswers : ∀ calls : List Call,
      Answers (modeInForce mode calls) defaultAction (rulesInForce calls) packet
        (((new mode defaultAction).run calls).evaluate packet).1 := by
    intro calls
    have h := evaluate_answers ((new mode defaultAction).run calls) packet
    rwa [run_mode, run_defaultAction, run_rules] at h
  refine ⟨hanswers calls, (hanswers calls).unique ?_⟩
  have h := hanswers (calls.filter fun step => !step.isEvaluate)
  rwa [rulesInForce_filter_isEvaluate, modeInForce_filter_isEvaluate] at h

end IpsEngine

end GeSensor.Ips
