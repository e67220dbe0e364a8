/-
  Dashboard/RuleHits.lean --- rule ids and hit counts over whole runs.

  The engine keeps its rules in a vector and their hits in a map by id.  Adding,
  removing and evaluating update the two separately; `add_ips_rule` looks for a
  duplicate of the trimmed id before it adds.

  A run is a sequence of critical sections of the engine's lock, in whatever order the
  threads get it.  What happened to each rule is kept in a log beside the engine.
-/
import GeSensor.Dashboard.IpsModeSwitch
import GeSensor.Dashboard.NewRule
import GeSensor.Dashboard.RuleApi
import GeSensor.Foundation.Totals
import GeSensor.Ips.Counters

set_option autoImplicit false

namespace GeSensor.Dashboard

open GeSensor.Foundation
open GeSensor.Ips

/-! ## Runs -/

/-- A critical section of the engine's lock. -/
inductive RuleOp where
  /-- the first one of `add_ips_rule`; the second only reads -/
  | addIpsRule (request : NewIpsRuleRequest)
  | deleteIpsRule (ruleId : String)
  | evaluate (packet : EvaluateArgs)
  /-- the one of `set_ips_mode` that sets the mode -/
  | setIpsMode (mode : String)

/-- What happened to the rule with an id. -/
inductive RuleEvent where
  | added (ruleId : String)
  | removed (ruleId : String)
  /-- an evaluation returned it -/
  | matched (ruleId : String)
  deriving DecidableEq, Repr

/-- The engine, and what happened to its rules, the latest first. -/
structure HitState where
  engine : IpsEngine
  log : List RuleEvent

/-- State when the default rules are loaded. -/
def HitState.start (mode : IpsMode) (defaultAction : Verdict) : HitState where
  engine := (IpsEngine.new mode defaultAction).loadDefaultRules
  log := []

namespace HitState

def addIpsRule (state : HitState) (rule : IpsRule) : HitState :=
  if hasRule state.engine rule.id then state
  else { engine := state.engine.addRule rule, log := .added rule.id :: state.log }

def deleteIpsRule (state : HitState) (ruleId : String) : HitState :=
  let (removed, engine) := state.engine.removeRule ruleId
  { engine := engine, log := if removed then .removed ruleId :: state.log else state.log }

def evaluate (state : HitState) (packet : EvaluateArgs) : HitState :=
  let (answer, engine) := state.engine.evaluate packet
  { engine := engine
    log := match answer.2 with
      | some rule => .matched rule.id :: state.log
      | none => state.log }

def setMode (state : HitState) (mode : IpsMode) : HitState :=
  { state with engine := state.engine.setMode mode }

/-- The state after one critical section; a request that cannot be read changes
nothing. -/
def step (state : HitState) : RuleOp → HitState
  | .addIpsRule request =>
      match request.intoRule with
      | .ok rule => state.addIpsRule rule
      | .error _ => state
  | .deleteIpsRule ruleId => state.deleteIpsRule ruleId
  | .evaluate packet => state.evaluate packet
  | .setIpsMode mode =>
      match parseMode mode with
      | .ok request => state.setMode request.mode
      | .error _ => state

/-- The state after a run. -/
def run (state : HitState) (ops : List RuleOp) : HitState := ops.foldl step state

end HitState

/-- The evaluations that returned the rule since it was last added. -/
def hitsSinceAdded (ruleId : String) (log : List RuleEvent) : Nat :=
  (log.takeWhile (· ≠ .added ruleId)).count (.matched ruleId)

/-- The rules and their hits agree: the invariant of the run. -/
structure HitState.Consistent (state : HitState) : Prop where
  distinct : (state.engine.rules.map IpsRule.id).Nodup
  keys : ∀ ruleId, ruleId ∈ state.engine.ruleHits ↔ ruleId ∈ state.engine.rules.map IpsRule.id
  hits : ∀ rule ∈ state.engine.rules,
    state.engine.ruleHitCount rule.id = hitsSinceAdded rule.id state.log
  total_le : ∀ summarize,
    (ipsRules summarize state.engine).totalRuleHits ≤ state.engine.stats.rulesMatched
  total_eq : (∀ ruleId, .removed ruleId ∉ state.log) → ∀ summarize,
    (ipsRules summarize state.engine).totalRuleHits = state.engine.stats.rulesMatched

/-! ## The log -/

section

variable {ruleId other : String} {log : List RuleEvent}

@[simp] theorem hitsSinceAdded_added_self :
    hitsSinceAdded ruleId (.added ruleId :: log) = 0 := by
  simp [hitsSinceAdded]

@[simp] theorem hitsSinceAdded_added (h : other ≠ ruleId) :
    hitsSinceAdded ruleId (.added other :: log) = hitsSinceAdded ruleId log := by
  simp [hitsSinceAdded, h]

@[simp] theorem hitsSinceAdded_removed :
    hitsSinceAdded ruleId (.removed other :: log) = hitsSinceAdded ruleId log := by
  simp [hitsSinceAdded]

theorem hitsSinceAdded_matched :
    hitsSinceAdded ruleId (.matched other :: log) =
      hitsSinceAdded ruleId log + if other = ruleId then 1 else 0 := by
  simp [hitsSinceAdded, List.count_cons]

end

/-- The total that the dashboard shows. -/
theorem totalRuleHits_eq (summarize : IpsRule → String) (engine : IpsEngine) :
    (ipsRules summarize engine).totalRuleHits =
      total (fun rule => engine.ruleHitCount rule.id) engine.rules := by
  rw [ipsRules, total, List.map_map]
  rfl

/-! ## What an operation does to the hits -/

section

variable {engine : IpsEngine} {rule : IpsRule} {ruleId : String} {packet : EvaluateArgs}

/-- A new rule starts without hits, and the others keep theirs. -/
theorem addRule_ruleHitCount (engine : IpsEngine) (rule : IpsRule) (ruleId : String) :
    (engine.addRule rule).ruleHitCount ruleId = engine.ruleHitCount ruleId :=
  HashMap.lookup_orInsert_getD engine.ruleHits rule.id ruleId 0

theorem removeRule_ruleHits (h : hasRule engine ruleId = true) :
    (engine.removeRule ruleId).2.ruleHits = engine.ruleHits.erase ruleId :=
  if_pos (removeRule_of_hasRule h)

theorem removeRule_ruleHitCount (h : hasRule engine ruleId = true) {other : String}
    (hne : other ≠ ruleId) :
    (engine.removeRule ruleId).2.ruleHitCount other = engine.ruleHitCount other := by
  rw [IpsEngine.ruleHitCount, removeRule_ruleHits h, AList.lookup_erase_ne hne,
    IpsEngine.ruleHitCount]

theorem mem_removeRule_rules :
    rule ∈ (engine.removeRule ruleId).2.rules ↔ rule ∈ engine.rules ∧ rule.id ≠ ruleId := by
  rw [IpsEngine.removeRule, List.mem_filter, bne_iff_ne]

/-- The rule an evaluation returns is one of the engine's. -/
theorem mem_rules_of_matched (h : (engine.evaluate packet).1.2 = some rule) :
    rule ∈ engine.rules := by
  rw [IpsEngine.evaluate_matched] at h
  exact List.mem_of_find?_eq_some h

/-- An evaluation counts a hit of the rule it returns. -/
theorem evaluate_ruleHits (engine : IpsEngine) (packet : EvaluateArgs) :
    (engine.evaluate packet).2.ruleHits =
      match (engine.evaluate packet).1.2 with
      | some rule => HashMap.upsert engine.ruleHits rule.id 0 (· + 1)
      | none => engine.ruleHits := by
  unfold IpsEngine.evaluate
  split <;> rfl

theorem evaluate_ruleHitCount (h : (engine.evaluate packet).1.2 = some rule) (ruleId : String) :
    (engine.evaluate packet).2.ruleHitCount ruleId =
      engine.ruleHitCount ruleId + if rule.id = ruleId then 1 else 0 := by
  have hhits := evaluate_ruleHits engine packet
  rw [h] at hhits
  dsimp only at hhits
  rw [IpsEngine.ruleHitCount, hhits, IpsEngine.ruleHitCount]
  split
  · rename_i heq
    rw [← heq, HashMap.lookup_upsert]
    rfl
  · rename_i hne
    rw [HashMap.lookup_upsert_ne _ (Ne.symm hne), Nat.add_zero]

end

/-! ## One critical section -/

section

variable {state : HitState}

theorem hasRule_iff_mem_ids {engine : IpsEngine} {ruleId : String} :
    hasRule engine ruleId = true ↔ ruleId ∈ engine.rules.map IpsRule.id := by
  simp [hasRule, List.any_eq_true, List.mem_map]

theorem consistent_start (mode : IpsMode) (defaultAction : Verdict) :
    (HitState.start mode defaultAction).Consistent := by
  have hrules : (HitState.start mode defaultAction).engine.rules = defaultRules :=
    IpsEngine.loadDefaultRules_rules _
  have hhits : ∀ ruleId, (HitState.start mode defaultAction).engine.ruleHitCount ruleId = 0 := by
    intro ruleId
    simp [HitState.start, IpsEngine.loadDefaultRules, defaultRules, IpsEngine.addRule,
      IpsEngine.ruleHitCount, HashMap.lookup_orInsert_getD, IpsEngine.new]
  have htotal : ∀ summarize,
      (ipsRules summarize (HitState.start mode defaultAction).engine).totalRuleHits = 0 := by
    intro summarize
    rw [totalRuleHits_eq]
    exact total_eq_zero _ fun rule _ => hhits rule.id
  have hmatched : (HitState.start mode defaultAction).engine.stats.rulesMatched = 0 :=
    congrArg IpsStats.rulesMatched (IpsEngine.loadDefaultRules_stats _)
  constructor
  · rw [hrules]
    decide
  · intro ruleId
    rw [hrules]
    simp [HitState.start, IpsEngine.loadDefaultRules, defaultRules, IpsEngine.addRule,
      IpsEngine.new, HashMap.mem_orInsert, or_comm, or_left_comm]
  · intro rule _
    exact hhits rule.id
  · intro summarize
    rw [htotal, hmatched]
  · intro _ summarize
    rw [htotal, hmatched]

/-- A rule is added under a fresh id only, with no hits. -/
theorem HitState.Consistent.addIpsRule (h : state.Consistent) (rule : IpsRule) :
    (state.addIpsRule rule).Consistent := by
  unfold HitState.addIpsRule
  split
  · exact h
  rename_i hfresh
  rw [hasRule_iff_mem_ids] at hfresh
  have hids : (state.engine.addRule rule).rules.map IpsRule.id =
      state.engine.rules.map IpsRule.id ++ [rule.id] := by
    rw [IpsEngine.addRule_rules, List.map_append]
    rfl
  have hnew : state.engine.ruleHitCount rule.id = 0 := by
    have habsent := (h.keys rule.id).not.mpr hfresh
    rw [IpsEngine.ruleHitCount, AList.lookup_eq_none.mpr habsent]
    rfl
  have htotal : ∀ summarize, (ipsRules summarize (state.engine.addRule rule)).totalRuleHits =
      (ipsRules summarize state.engine).totalRuleHits := by
    intro summarize
    rw [totalRuleHits_eq, totalRuleHits_eq, IpsEngine.addRule_rules, total_append]
    simp only [addRule_ruleHitCount]
    rw [total_cons, hnew, total_nil, Nat.add_zero]
  constructor
  · rw [hids, List.nodup_append_comm, List.singleton_append, List.nodup_cons]
    exact ⟨hfresh, h.distinct⟩
  · intro ruleId
    rw [hids, List.mem_append, List.mem_singleton, ← h.keys ruleId, or_comm]
    exact HashMap.mem_orInsert state.engine.ruleHits 0
  · intro other hmem
    dsimp only
    rw [addRule_ruleHitCount]
    rcases List.mem_append.mp hmem with hmem | hmem
    · have hne : rule.id ≠ other.id := fun heq =>
        hfresh (heq ▸ List.mem_map_of_mem hmem)
      rw [hitsSinceAdded_added hne, h.hits other hmem]
    · rw [List.mem_singleton.mp hmem, hitsSinceAdded_added_self, hnew]
  · intro summarize
    rw [htotal]
    exact h.total_le summarize
  · intro hkept summarize
    rw [htotal]
    exact h.total_eq (fun ruleId hmem => hkept ruleId (List.mem_cons_of_mem _ hmem)) summarize

/-- A rule is removed with its hits. -/
theorem HitState.Consistent.deleteIpsRule (h : state.Consistent) (ruleId : String) :
    (state.deleteIpsRule ruleId).Consistent := by
  cases hthere : hasRule state.engine ruleId with
  | false =>
      rw [HitState.deleteIpsRule, removeRule_of_not_hasRule hthere]
      exact h
  | true =>
      have hstate : state.deleteIpsRule ruleId =
          { engine := (state.engine.removeRule ruleId).2
            log := .removed ruleId :: state.log } := by
        rw [HitState.deleteIpsRule]
        dsimp only
        rw [if_pos (removeRule_of_hasRule hthere)]
      have hrules : (state.engine.removeRule ruleId).2.rules =
          state.engine.rules.filter fun rule => rule.id != ruleId := rfl
      rw [hstate]
      constructor
      · dsimp only
        rw [hrules]
        exact h.distinct.sublist (List.filter_sublist.map IpsRule.id)
      · intro other
        dsimp only
        rw [removeRule_ruleHits hthere, AList.mem_erase, h.keys other, List.mem_map, List.mem_map]
        constructor
        · rintro ⟨hne, rule, hmem, rfl⟩
          exact ⟨rule, mem_removeRule_rules.mpr ⟨hmem, hne⟩, rfl⟩
        · rintro ⟨rule, hmem, rfl⟩
          obtain ⟨hmem, hne⟩ := mem_removeRule_rules.mp hmem
          exact ⟨hne, rule, hmem, rfl⟩
      · intro rule hmem
        obtain ⟨hmem, hne⟩ := mem_removeRule_rules.mp hmem
        dsimp only
        rw [removeRule_ruleHitCount hthere hne, hitsSinceAdded_removed, h.hits rule hmem]
      · intro summarize
        have htotal : total (fun rule => (state.engine.removeRule ruleId).2.ruleHitCount rule.id)
            (state.engine.removeRule ruleId).2.rules =
              total (fun rule => state.engine.ruleHitCount rule.id)
                (state.engine.removeRule ruleId).2.rules :=
          total_congr _ fun rule hmem =>
            removeRule_ruleHitCount hthere (mem_removeRule_rules.mp hmem).2
        have hless := h.total_le summarize
        dsimp only
        rw [totalRuleHits_eq] at hless ⊢
        rw [htotal, hrules, IpsEngine.removeRule_stats]
        exact Nat.le_trans (total_filter_le _ _ _) hless
      · intro hnone
        exact absurd List.mem_cons_self (hnone ruleId)

/-- What the invariant reads of the engine. -/
theorem HitState.Consistent.congr (h : state.Consistent) {engine : IpsEngine}
    (hrules : engine.rules = state.engine.rules) (hhits : engine.ruleHits = state.engine.ruleHits)
    (hmatched : engine.stats.rulesMatched = state.engine.stats.rulesMatched) :
    HitState.Consistent { state with engine := engine } := by
  have htotal : ∀ summarize, (ipsRules summarize engine).totalRuleHits =
      (ipsRules summarize state.engine).totalRuleHits := by
    intro summarize
    rw [totalRuleHits_eq, totalRuleHits_eq, hrules]
    unfold IpsEngine.ruleHitCount
    rw [hhits]
  constructor
  · exact hrules ▸ h.distinct
  · exact hrules ▸ hhits ▸ h.keys
  · unfold IpsEngine.ruleHitCount
    dsimp only
    rw [hrules, hhits]
    exact h.hits
  · intro summarize
    rw [htotal, hmatched]
    exact h.total_le summarize
  · intro hkept summarize
    rw [htotal, hmatched]
    exact h.total_eq hkept summarize

theorem HitState.Consistent.setMode (h : state.Consistent) (mode : IpsMode) :
    (state.setMode mode).Consistent := by
  have hsame : (state.engine.setMode mode).rules = state.engine.rules ∧
      (state.engine.setMode mode).ruleHits = state.engine.ruleHits := by
    unfold IpsEngine.setMode
    split <;> exact ⟨rfl, rfl⟩
  exact h.congr hsame.1 hsame.2 (congrArg _ (IpsEngine.setMode_stats state.engine mode))

/-- A rule that is returned gains a hit, and so do the two totals. -/
theorem HitState.Consistent.evaluate (h : state.Consistent) (packet : EvaluateArgs) :
    (state.evaluate packet).Consistent := by
  obtain ⟨_, hrules, _, _⟩ := IpsEngine.evaluate_frame state.engine packet
  have hstats := congrArg IpsStats.rulesMatched (IpsEngine.evaluate_stats state.engine packet)
  have hhits := evaluate_ruleHits state.engine packet
  rw [IpsStats.count] at hstats
  rw [HitState.evaluate]
  dsimp only
  cases hfound : (state.engine.evaluate packet).1.2 with
  | none =>
      rw [hfound] at hstats hhits
      exact h.congr hrules hhits hstats
  | some rule =>
      rw [hfound] at hstats hhits
      dsimp only at hstats hhits ⊢
      have hmem : rule ∈ state.engine.rules := mem_rules_of_matched hfound
      have hcount := evaluate_ruleHitCount hfound
      have htotal : ∀ summarize,
          (ipsRules summarize (state.engine.evaluate packet).2).totalRuleHits =
            (ipsRules summarize state.engine).totalRuleHits + 1 := by
        intro summarize
        rw [totalRuleHits_eq, totalRuleHits_eq, hrules]
        refine total_succ_at _ h.distinct hmem ?_ fun other _ hne => ?_
        · rw [hcount, if_pos rfl]
        · rw [hcount, if_neg (Ne.symm hne), Nat.add_zero]
      constructor
      · dsimp only
        rw [hrules]
        exact h.distinct
      · intro ruleId
        dsimp only
        rw [hrules, hhits, HashMap.mem_upsert, h.keys ruleId]
        refine or_iff_right_of_imp ?_
        rintro rfl
        exact List.mem_map_of_mem hmem
      · intro other hin
        dsimp only at hin ⊢
        rw [hrules] at hin
        rw [hitsSinceAdded_matched, hcount, h.hits other hin]
      · intro summarize
        dsimp only
        rw [htotal, hstats]
        exact Nat.succ_le_succ (h.total_le summarize)
      · intro hkept summarize
        dsimp only
        rw [htotal, hstats, h.total_eq (fun ruleId hin =>
          hkept ruleId (List.mem_cons_of_mem _ hin)) summarize]
        rfl

/-- The step lemma. -/
theorem HitState.Consistent.step (h : state.Consistent) (op : RuleOp) :
    (state.step op).Consistent := by
  cases op with
  | addIpsRule request =>
      rw [HitState.step]
      cases request.intoRule with
      | ok rule => exact h.addIpsRule rule
      | error message => exact h
  | deleteIpsRule ruleId => exact h.deleteIpsRule ruleId
  | evaluate packet => exact h.evaluate packet
  | setIpsMode mode =>
      rw [HitState.step]
      cases parseMode mode with
      | ok request => exact h.setMode request.mode
      | error message => exact h

end

/-! ## Whole runs -/

/-- In every run from the default rules the ids are distinct, the hits are kept for
exactly these ids and count the evaluations since the rule was last added, and their
total is what the engine has counted, less what was removed. -/
theorem rule_hits_consistent (mode : IpsMode) (defaultAction : Verdict) (ops : List RuleOp) :
    ((HitState.start mode defaultAction).run ops).Consistent := by
  have hrun : ∀ (ops : List RuleOp) (state : HitState), state.Consistent →
      (state.run ops).Consistent := by
    intro ops
    induction ops with
    | nil => exact fun _ h => h
    | cons op rest ih => exact fun state h => ih (state.step op) (h.step op)
  exact hrun ops _ (consistent_start mode defaultAction)

end GeSensor.Dashboard
