/-
  Dashboard/RulesPage.lean --- what the rules page tells of the engine.

  The page shows the mode, and for each rule its texts, its action, whether it is enabled,
  its hits and the summary of its criteria.  Engines that show the same page answer every
  packet alike from then on, and go on showing the same page, whatever is done to them:
  the page leaves out nothing that decides a verdict or a count of hits.
-/
import GeSensor.Dashboard.RuleHits
import GeSensor.Dashboard.RuleSummary

set_option autoImplicit false

namespace GeSensor.Dashboard

open GeSensor.Foundation
open GeSensor.Ips
open GeSensor.Ips.IpsEngine

/-! ## Rules -/

theorem tcpFlagsMet_eq (c : RuleCriteria) (flags : UInt8) :
    tcpFlagsMet c.tcpFlagsMask c.tcpFlagsValue flags =
      (flagTest c).all fun test => flags &&& test.1 == test.2 := by
  cases hmask : c.tcpFlagsMask <;> cases hvalue : c.tcpFlagsValue <;>
    simp [tcpFlagsMet, flagTest, hmask, hvalue]

/-- Rules between which neither the page nor a packet tells. -/
structure SameRule (rule other : IpsRule) : Prop where
  id : rule.id = other.id
  description : rule.description = other.description
  severity : rule.severity = other.severity
  action : rule.action = other.action
  enabled : rule.enabled = other.enabled
  criteria : SameCriteria rule.criteria other.criteria

/-- A summary has all that the criteria of a rule compare with a packet. -/
theorem summarizeRule_eq_iff (rule other : IpsRule) :
    summarizeRule rule = summarizeRule other ↔ SameCriteria rule.criteria other.criteria := by
  rw [← summaryText_eq_iff]
  exact String.ofList_inj

theorem SameRule.refl (rule : IpsRule) : SameRule rule rule :=
  ⟨rfl, rfl, rfl, rfl, rfl, ⟨rfl, rfl, rfl, rfl, rfl, rfl, rfl, rfl⟩⟩

theorem SameRule.matchesRule_eq {rule other : IpsRule} (h : SameRule rule other)
    (packet : EvaluateArgs) : matchesRule rule packet = matchesRule other packet := by
  have hcriteria := h.criteria
  simp only [matchesRule, tcpFlagsMet_eq]
  rw [hcriteria.srcIp, hcriteria.dstIp, hcriteria.srcPort, hcriteria.dstPort, hcriteria.protocol,
    hcriteria.flags, hcriteria.modbusFuncCodes, hcriteria.dnp3FuncCodes]

theorem verdictToStr_injective : Function.Injective verdictToStr := by
  intro left right h
  cases left <;> cases right <;> first | rfl | exact absurd h (by decide)

/-- The page tells rules apart. -/
theorem SameRule.of_ruleApi {engine engine' : IpsEngine} {rule other : IpsRule}
    (h : ruleApi summarizeRule engine rule = ruleApi summarizeRule engine' other) :
    SameRule rule other ∧ engine.ruleHitCount rule.id = engine'.ruleHitCount other.id := by
  have hsummary : summarizeRule rule = summarizeRule other := congrArg IpsRuleApi.matchSummary h
  refine ⟨⟨congrArg IpsRuleApi.id h, congrArg IpsRuleApi.description h,
    congrArg IpsRuleApi.severity h, verdictToStr_injective (congrArg IpsRuleApi.action h),
    congrArg IpsRuleApi.enabled h, (summarizeRule_eq_iff _ _).mp hsummary⟩,
    congrArg IpsRuleApi.hits h⟩

theorem SameRule.ruleApi_eq {engine engine' : IpsEngine} {rule other : IpsRule}
    (h : SameRule rule other) (hmode : engine.mode = engine'.mode)
    (hhits : engine.ruleHitCount rule.id = engine'.ruleHitCount other.id) :
    ruleApi summarizeRule engine rule = ruleApi summarizeRule engine' other := by
  have hsummary : summarizeRule rule = summarizeRule other :=
    (summarizeRule_eq_iff _ _).mpr h.criteria
  have hstatus : ruleStatus engine.mode rule = ruleStatus engine'.mode other := by
    unfold ruleStatus
    rw [hmode, h.action, h.enabled]
  rw [ruleApi, ruleApi, hhits, hsummary, hstatus, h.id, h.description, h.severity, h.action,
    h.enabled]

theorem ids_eq {rules others : List IpsRule} (h : List.Forall₂ SameRule rules others) :
    rules.map IpsRule.id = others.map IpsRule.id := by
  rw [← List.forall₂_eq_eq_eq, List.forall₂_map_left_iff, List.forall₂_map_right_iff]
  exact h.imp fun _ _ hrule => hrule.id

theorem rel_cases {rule? other? : Option IpsRule} (h : Option.Rel SameRule rule? other?) :
    (rule? = none ∧ other? = none) ∨
      ∃ rule other, rule? = some rule ∧ other? = some other ∧ SameRule rule other := by
  cases h with
  | none => exact Or.inl ⟨rfl, rfl⟩
  | some hrule => exact Or.inr ⟨_, _, rfl, rfl, hrule⟩

/-- The first rule that a packet meets. -/
theorem find?_rel {rules others : List IpsRule} (h : List.Forall₂ SameRule rules others)
    (packet : EvaluateArgs) :
    Option.Rel SameRule (rules.find? fun rule => rule.enabled && matchesRule rule packet)
      (others.find? fun rule => rule.enabled && matchesRule rule packet) := by
  induction h with
  | nil => exact .none
  | @cons rule other rules others hrule _ ih =>
      rw [List.find?_cons, List.find?_cons, hrule.enabled, hrule.matchesRule_eq packet]
      split
      · exact .some hrule
      · exact ih

/-! ## Hits -/

theorem removeRule_ruleHitCount_self {engine : IpsEngine} {ruleId : String}
    (h : hasRule engine ruleId = true) :
    (engine.removeRule ruleId).2.ruleHitCount ruleId = 0 := by
  rw [ruleHitCount, removeRule_ruleHits h, AList.lookup_erase]
  rfl

theorem evaluate_ruleHitCount_none {engine : IpsEngine} {packet : EvaluateArgs}
    (h : (engine.evaluate packet).1.2 = none) (ruleId : String) :
    (engine.evaluate packet).2.ruleHitCount ruleId = engine.ruleHitCount ruleId := by
  have hhits := evaluate_ruleHits engine packet
  rw [h] at hhits
  rw [ruleHitCount, hhits, ruleHitCount]

/-- Hits are kept for the rules of the engine only. -/
def HitsListed (engine : IpsEngine) : Prop :=
  ∀ ruleId, ruleId ∉ engine.rules.map IpsRule.id → engine.ruleHitCount ruleId = 0

theorem HitsListed.addRule {engine : IpsEngine} (h : HitsListed engine) (rule : IpsRule) :
    HitsListed (engine.addRule rule) := by
  intro ruleId hnot
  rw [addRule_rules, List.map_append, List.mem_append, not_or] at hnot
  rw [addRule_ruleHitCount, h ruleId hnot.1]

theorem HitsListed.call {engine : IpsEngine} (h : HitsListed engine) (step : Call) :
    HitsListed (engine.call step) := by
  cases step with
  | addRule rule => exact h.addRule rule
  | removeRule removed =>
      intro ruleId hnot
      change ruleId ∉ (engine.removeRule removed).2.rules.map IpsRule.id at hnot
      change (engine.removeRule removed).2.ruleHitCount ruleId = 0
      cases hthere : hasRule engine removed with
      | false =>
          rw [removeRule_of_not_hasRule hthere] at hnot ⊢
          exact h ruleId hnot
      | true =>
          by_cases hsame : ruleId = removed
          · rw [hsame, removeRule_ruleHitCount_self hthere]
          · rw [removeRule_ruleHitCount hthere hsame]
            refine h ruleId fun hmem => hnot ?_
            obtain ⟨rule, hrule, rfl⟩ := List.mem_map.mp hmem
            exact List.mem_map_of_mem (mem_removeRule_rules.mpr ⟨hrule, hsame⟩)
  | setMode mode =>
      change HitsListed (engine.setMode mode)
      unfold IpsEngine.setMode
      split <;> exact h
  | loadDefaultRules =>
      have hfold : ∀ (rules : List IpsRule) {engine : IpsEngine}, HitsListed engine →
          HitsListed (rules.foldl IpsEngine.addRule engine) := by
        intro rules
        induction rules with
        | nil => exact fun h => h
        | cons rule rules ih => exact fun h => ih (h.addRule rule)
      exact hfold defaultRules h
  | evaluate packet =>
      intro ruleId hnot
      change ruleId ∉ (engine.evaluate packet).2.rules.map IpsRule.id at hnot
      change (engine.evaluate packet).2.ruleHitCount ruleId = 0
      rw [(evaluate_frame engine packet).2.1] at hnot
      cases hrule : (engine.evaluate packet).1.2 with
      | none => rw [evaluate_ruleHitCount_none hrule, h ruleId hnot]
      | some rule =>
          have hmem := mem_rules_of_matched hrule
          have hne : rule.id ≠ ruleId := fun heq => hnot (heq ▸ List.mem_map_of_mem hmem)
          rw [evaluate_ruleHitCount hrule, h ruleId hnot, if_neg hne]

theorem hitsListed_run (mode : IpsMode) (defaultAction : Verdict) (calls : List Call) :
    HitsListed ((IpsEngine.new mode defaultAction).run calls) := by
  have hrun : ∀ (calls : List Call) {engine : IpsEngine}, HitsListed engine →
      HitsListed (engine.run calls) := by
    intro calls
    induction calls with
    | nil => exact fun h => h
    | cons step calls ih => exact fun h => ih (h.call step)
  exact hrun calls fun _ _ => rfl

/-! ## Engines -/

/-- Engines between which no call tells. -/
structure SameEngine (engine other : IpsEngine) : Prop where
  mode : engine.mode = other.mode
  defaultAction : engine.defaultAction = other.defaultAction
  rules : List.Forall₂ SameRule engine.rules other.rules
  hits : ∀ ruleId, engine.ruleHitCount ruleId = other.ruleHitCount ruleId

/-- Answers with the same verdict and the same rule. -/
def SameAnswer (answer other : Answer) : Prop :=
  answer.1 = other.1 ∧ Option.Rel SameRule answer.2 other.2

namespace SameEngine

variable {engine other : IpsEngine}

theorem hasRule_eq (h : SameEngine engine other) (ruleId : String) :
    hasRule engine ruleId = hasRule other ruleId := by
  rw [Bool.eq_iff_iff, hasRule_iff_mem_ids, hasRule_iff_mem_ids, ids_eq h.rules]

theorem answer (h : SameEngine engine other) (packet : EvaluateArgs) :
    SameAnswer (engine.evaluate packet).1 (other.evaluate packet).1 := by
  rw [evaluate_result, evaluate_result]
  rcases rel_cases (find?_rel h.rules packet) with
    ⟨hnone, hnone'⟩ | ⟨rule, rule', hrule, hrule', hsame⟩
  · rw [hnone, hnone']
    exact ⟨h.defaultAction, .none⟩
  · have hverdict : ruleVerdict engine.mode rule.action = ruleVerdict other.mode rule'.action := by
      rw [h.mode, hsame.action]
    rw [hrule, hrule']
    exact ⟨hverdict, .some hsame⟩

/-! ### One call -/

theorem addRule (h : SameEngine engine other) (rule : IpsRule) :
    SameEngine (engine.addRule rule) (other.addRule rule) where
  mode := h.mode
  defaultAction := h.defaultAction
  rules := List.rel_append h.rules (.cons (.refl rule) .nil)
  hits := fun ruleId => by rw [addRule_ruleHitCount, addRule_ruleHitCount, h.hits]

theorem loadDefaultRules (h : SameEngine engine other) :
    SameEngine engine.loadDefaultRules other.loadDefaultRules := by
  have hfold : ∀ (rules : List IpsRule) {engine other : IpsEngine}, SameEngine engine other →
      SameEngine (rules.foldl IpsEngine.addRule engine) (rules.foldl IpsEngine.addRule other) := by
    intro rules
    induction rules with
    | nil => exact fun h => h
    | cons rule rules ih => exact fun h => ih (h.addRule rule)
  exact hfold defaultRules h

theorem setMode (h : SameEngine engine other) (mode : IpsMode) :
    SameEngine (engine.setMode mode) (other.setMode mode) := by
  unfold IpsEngine.setMode
  rw [h.mode]
  split
  · exact { h with mode := rfl }
  · exact h

theorem removeRule (h : SameEngine engine other) (ruleId : String) :
    SameEngine (engine.removeRule ruleId).2 (other.removeRule ruleId).2 := by
  have hhas := h.hasRule_eq ruleId
  cases hthere : hasRule other ruleId with
  | false =>
      rw [hthere] at hhas
      rw [removeRule_of_not_hasRule hthere, removeRule_of_not_hasRule hhas]
      exact h
  | true =>
      rw [hthere] at hhas
      refine ⟨h.mode, h.defaultAction, ?_, fun shown => ?_⟩
      · exact List.rel_filter (fun _ _ hrule => by dsimp only; rw [hrule.id]) h.rules
      · by_cases hshown : shown = ruleId
        · rw [hshown, removeRule_ruleHitCount_self hthere, removeRule_ruleHitCount_self hhas]
        · rw [removeRule_ruleHitCount hthere hshown, removeRule_ruleHitCount hhas hshown, h.hits]

theorem evaluate (h : SameEngine engine other) (packet : EvaluateArgs) :
    SameEngine (engine.evaluate packet).2 (other.evaluate packet).2 := by
  obtain ⟨hmode, hrules, hdefault, -⟩ := evaluate_frame engine packet
  obtain ⟨hmode', hrules', hdefault', -⟩ := evaluate_frame other packet
  refine ⟨by rw [hmode, hmode', h.mode], by rw [hdefault, hdefault', h.defaultAction],
    by rw [hrules, hrules']; exact h.rules, fun ruleId => ?_⟩
  rcases rel_cases (h.answer packet).2 with
    ⟨hnone, hnone'⟩ | ⟨rule, rule', hrule, hrule', hsame⟩
  · rw [evaluate_ruleHitCount_none hnone, evaluate_ruleHitCount_none hnone', h.hits]
  · rw [evaluate_ruleHitCount hrule, evaluate_ruleHitCount hrule', h.hits, hsame.id]

/-- The step lemma. -/
theorem call (h : SameEngine engine other) (step : Call) :
    SameEngine (engine.call step) (other.call step) := by
  cases step with
  | addRule rule => exact h.addRule rule
  | removeRule ruleId => exact h.removeRule ruleId
  | setMode mode => exact h.setMode mode
  | loadDefaultRules => exact h.loadDefaultRules
  | evaluate packet => exact h.evaluate packet

/-- The run lemma: the answers of all evaluations, and the engines afterwards. -/
theorem run (h : SameEngine engine other) (calls : List Call) :
    SameEngine (engine.run calls) (other.run calls) ∧
      List.Forall₂ SameAnswer (engine.answers calls) (other.answers calls) := by
  induction calls generalizing engine other with
  | nil => exact ⟨h, .nil⟩
  | cons step calls ih =>
      obtain ⟨hrun, hanswers⟩ := ih (h.call step)
      refine ⟨hrun, List.rel_append ?_ hanswers⟩
      cases step with
      | evaluate packet => exact .cons (h.answer packet) .nil
      | addRule rule => exact .nil
      | removeRule ruleId => exact .nil
      | setMode mode => exact .nil
      | loadDefaultRules => exact .nil

/-! ### Pages -/

/-- Engines that differ in nothing a call could tell show the same page. -/
theorem ipsRules_eq (h : SameEngine engine other) :
    ipsRules summarizeRule engine = ipsRules summarizeRule other := by
  have hrules : engine.rules.map (ruleApi summarizeRule engine) =
      other.rules.map (ruleApi summarizeRule other) := by
    rw [← List.forall₂_eq_eq_eq, List.forall₂_map_left_iff, List.forall₂_map_right_iff]
    refine h.rules.imp fun rule shown hrule => hrule.ruleApi_eq h.mode ?_
    rw [h.hits, hrule.id]
  rw [ipsRules, ipsRules, hrules, h.mode]

/-- Engines that show the same page differ in nothing a call could tell. -/
theorem of_ipsRules (hpage : ipsRules summarizeRule engine = ipsRules summarizeRule other)
    (hdefault : engine.defaultAction = other.defaultAction) (hlisted : HitsListed engine)
    (hlisted' : HitsListed other) : SameEngine engine other := by
  have hrules : engine.rules.map (ruleApi summarizeRule engine) =
      other.rules.map (ruleApi summarizeRule other) := congrArg IpsRulesResponse.rules hpage
  have hsame : List.Forall₂ SameRule engine.rules other.rules := by
    rw [← List.forall₂_eq_eq_eq, List.forall₂_map_left_iff, List.forall₂_map_right_iff] at hrules
    exact hrules.imp fun _ _ hrule => (SameRule.of_ruleApi hrule).1
  refine ⟨modeText_inj (congrArg IpsRulesResponse.mode hpage), hdefault, hsame, fun ruleId => ?_⟩
  by_cases hmem : ruleId ∈ engine.rules.map IpsRule.id
  · obtain ⟨rule, hrule, rfl⟩ := List.mem_map.mp hmem
    have hshown : ruleApi summarizeRule engine rule ∈
        other.rules.map (ruleApi summarizeRule other) := hrules ▸ List.mem_map_of_mem hrule
    obtain ⟨rule', -, hrule'⟩ := List.mem_map.mp hshown
    obtain ⟨hsameRule, hhits⟩ := SameRule.of_ruleApi hrule'
    rw [← hhits, hsameRule.id]
  · have hnot : ruleId ∉ other.rules.map IpsRule.id := ids_eq hsame ▸ hmem
    rw [hlisted ruleId hmem, hlisted' ruleId hnot]

end SameEngine

/-- Two engines with histories of their own that show the same page answer whatever is done to
both alike, evaluation by evaluation, and show the same page afterwards: no two criteria that
differ in what they compare share a summary. -/
theorem rules_page_determines {mode mode' : IpsMode} {defaultAction : Verdict}
    {calls calls' : List Call}
    (h : ipsRules summarizeRule ((IpsEngine.new mode defaultAction).run calls) =
      ipsRules summarizeRule ((IpsEngine.new mode' defaultAction).run calls'))
    (further : List Call) :
    List.Forall₂ SameAnswer (((IpsEngine.new mode defaultAction).run calls).answers further)
        (((IpsEngine.new mode' defaultAction).run calls').answers further) ∧
      ipsRules summarizeRule (((IpsEngine.new mode defaultAction).run calls).run further) =
        ipsRules summarizeRule (((IpsEngine.new mode' defaultAction).run calls').run further) ∧
      ∀ rule other : IpsRule, summarizeRule rule = summarizeRule other ↔
        SameCriteria rule.criteria other.criteria := by
  have hsame : SameEngine ((IpsEngine.new mode defaultAction).run calls)
      ((IpsEngine.new mode' defaultAction).run calls') :=
    .of_ipsRules h (by rw [run_defaultAction, run_defaultAction]; rfl) (hitsListed_run _ _ _)
      (hitsListed_run _ _ _)
  obtain ⟨hrun, hanswers⟩ := hsame.run further
  exact ⟨hanswers, hrun.ipsRules_eq, summarizeRule_eq_iff⟩

/-- A rule with a flag mask that is not used. -/
def maskRule (tcpFlagsMask : Option UInt8) : IpsRule where
  id := "OT-7"
  description := "Writes to a controller"
  severity := "high"
  action := .drop
  criteria := { dstPort := some 502, tcpFlagsMask := tcpFlagsMask, modbusFuncCodes := [5, 6, 16] }
  enabled := true

/-- A mask that is not used is not shown, nor is a rule that is gone; a write to the controller
is a hit of either rule. -/
theorem rules_page_determines_mask :
    ipsRules summarizeRule (((IpsEngine.new .tap .pass).run [.addRule (maskRule none)]).run
        [.evaluate ⟨none, none, 40000, 502, 6, 0x18, some 5, none⟩, .setMode .inline]) =
      ipsRules summarizeRule (((IpsEngine.new .inline .pass).run
        [.addRule (maskRule (some 4)), .removeRule "OT-7", .setMode .tap,
          .addRule (maskRule (some 2))]).run
        [.evaluate ⟨none, none, 40000, 502, 6, 0x18, some 5, none⟩, .setMode .inline]) :=
  (rules_page_determines (by decide) _).2.1

example : summarizeRule (maskRule none) = "dst_port=502, modbus_fc=[5, 6, 16]" := by decide

end GeSensor.Dashboard
