/-
  Ips/Counters.lean --- what the statistics of `src/ips/mod.rs` count.

  `evaluate` updates its counters on two exits.  A packet that a rule matches is
  counted under its verdict.  A packet that no rule matches gets the default action,
  and is counted as passed whatever that is.
-/
import GeSensor.Ips.Reference
import GeSensor.Ips.TapMode
import Mathlib.Data.List.Induction

set_option autoImplicit false

namespace GeSensor.Ips

/-- What one evaluation returns. -/
abbrev Answer : Type := Verdict × Option IpsRule

namespace IpsStats

/-- Each counter is the number of evaluations that returned what it is named for. -/
structure CountsTrue (stats : IpsStats) (answers : List Answer) : Prop where
  packetsInspected : stats.packetsInspected = answers.length
  packetsPassed : stats.packetsPassed = answers.countP (·.1 == .pass)
  packetsDropped : stats.packetsDropped = answers.countP (·.1 == .drop)
  packetsAlerted : stats.packetsAlerted = answers.countP (·.1 == .alert)
  rulesMatched : stats.rulesMatched = answers.countP (·.2.isSome)

/-- The counters after one more evaluation. -/
def count (stats : IpsStats) (answer : Answer) : IpsStats where
  packetsInspected := stats.packetsInspected + 1
  packetsPassed :=
    stats.packetsPassed + if answer.2.isNone || answer.1 == .pass then 1 else 0
  packetsDropped :=
    stats.packetsDropped + if answer.2.isSome && answer.1 == .drop then 1 else 0
  packetsAlerted :=
    stats.packetsAlerted + if answer.2.isSome && answer.1 == .alert then 1 else 0
  rulesMatched := stats.rulesMatched + if answer.2.isSome then 1 else 0

/-- What the counters come to: an evaluation without a rule is a packet passed. -/
theorem foldl_count (answers : List Answer) :
    answers.foldl count {} =
      { packetsInspected := answers.length
        packetsPassed := answers.countP fun answer => answer.2.isNone || answer.1 == .pass
        packetsDropped := answers.countP fun answer => answer.2.isSome && answer.1 == .drop
        packetsAlerted := answers.countP fun answer => answer.2.isSome && answer.1 == .alert
        rulesMatched := answers.countP (·.2.isSome) } := by
  induction answers using List.reverseRecOn with
  | nil => rfl
  | append_singleton answers answer ih =>
      rw [List.foldl_append, ih]
      simp [count, List.countP_append, List.countP_singleton]

/-- An answer without a rule is counted as passed, which is true of Pass only. -/
theorem countP_passed (answers : List Answer) :
    answers.countP (fun answer => answer.2.isNone || answer.1 == .pass) =
      answers.countP (·.1 == .pass) +
        answers.countP fun answer => answer.2.isNone && answer.1 != .pass := by
  induction answers with
  | nil => rfl
  | cons answer answers ih =>
      obtain ⟨verdict, matched⟩ := answer
      cases verdict <;> cases matched <;> simp_all <;> omega

/-- The counters are true exactly when no answer without a rule is anything but Pass. -/
theorem countsTrue_iff (answers : List Answer) :
    (answers.foldl count {}).CountsTrue answers ↔
      ∀ answer ∈ answers, answer.2 = none → answer.1 = .pass := by
  rw [foldl_count]
  constructor
  · intro h answer hanswer hnone
    have hpassed := h.packetsPassed
    rw [countP_passed, Nat.add_eq_left, List.countP_eq_zero] at hpassed
    simpa [hnone] using hpassed answer hanswer
  · intro h
    have hkept : ∀ verdict : Verdict, verdict ≠ .pass →
        answers.countP (fun answer => answer.2.isSome && answer.1 == verdict) =
          answers.countP (·.1 == verdict) := by
      intro verdict hverdict
      refine List.countP_congr fun answer hanswer => ?_
      rw [Bool.and_eq_true, beq_iff_eq, and_iff_right_iff_imp]
      rintro rfl
      rw [Option.isSome_iff_ne_none]
      exact fun hnone => hverdict (h answer hanswer hnone)
    refine ⟨rfl, ?_, hkept .drop nofun, hkept .alert nofun, rfl⟩
    rw [countP_passed, Nat.add_eq_left, List.countP_eq_zero]
    intro answer hanswer
    simpa using h answer hanswer

/-- The three verdicts add up. -/
theorem CountsTrue.sum {stats : IpsStats} {answers : List Answer} (h : stats.CountsTrue answers) :
    stats.packetsPassed + stats.packetsDropped + stats.packetsAlerted =
      stats.packetsInspected := by
  rw [h.packetsInspected, h.packetsPassed, h.packetsDropped, h.packetsAlerted]
  clear h
  induction answers with
  | nil => rfl
  | cons answer answers ih =>
      obtain ⟨verdict, matched⟩ := answer
      cases verdict <;> simp <;> omega

end IpsStats

namespace IpsEngine

/-- What a call returns, when it is an evaluation. -/
def answer? (engine : IpsEngine) : Call → Option Answer
  | .evaluate packet => some (engine.evaluate packet).1
  | _ => none

/-- What the evaluations of a run return. -/
def answers (engine : IpsEngine) : List Call → List Answer
  | [] => []
  | step :: rest => (engine.answer? step).toList ++ answers (engine.call step) rest

/-- Every packet that the run evaluates meets a rule that is in force then. -/
def EveryPacketMatched (calls : List Call) : Prop :=
  ∀ before packet after, calls = before ++ .evaluate packet :: after →
    ∃ rule ∈ rulesInForce before, Applies rule packet

/-! ## One call -/

theorem removeRule_stats (engine : IpsEngine) (ruleId : String) :
    (engine.removeRule ruleId).2.stats = engine.stats := rfl

/-- An evaluation counts what it returns. -/
theorem evaluate_stats (engine : IpsEngine) (packet : EvaluateArgs) :
    (engine.evaluate packet).2.stats = engine.stats.count (engine.evaluate packet).1 := by
  unfold evaluate
  split
  · rename_i rule _
    cases ruleVerdict engine.mode rule.action <;> simp [IpsStats.record, IpsStats.count]
  · simp [IpsStats.count]

/-- No other call counts. -/
theorem call_stats (engine : IpsEngine) (step : Call) :
    (engine.call step).stats = (engine.answer? step).toList.foldl IpsStats.count engine.stats := by
  cases step with
  | addRule rule => exact addRule_stats engine rule
  | removeRule ruleId => exact removeRule_stats engine ruleId
  | setMode mode => exact setMode_stats engine mode
  | loadDefaultRules => exact loadDefaultRules_stats engine
  | evaluate packet => exact evaluate_stats engine packet

/-! ## Runs -/

theorem run_stats (engine : IpsEngine) (calls : List Call) :
    (engine.run calls).stats = (engine.answers calls).foldl IpsStats.count engine.stats := by
  induction calls generalizing engine with
  | nil => rfl
  | cons step rest ih =>
      have hrun : (engine.run (step :: rest)).stats = ((engine.call step).run rest).stats := rfl
      rw [hrun, ih, call_stats, answers, List.foldl_append]

/-- The answers are those of the evaluations, each by the engine that the calls before
have left. -/
theorem mem_answers_iff {engine : IpsEngine} {calls : List Call} {answer : Answer} :
    answer ∈ engine.answers calls ↔
      ∃ before packet after, calls = before ++ .evaluate packet :: after ∧
        ((engine.run before).evaluate packet).1 = answer := by
  induction calls generalizing engine with
  | nil => simp [answers]
  | cons step rest ih =>
      rw [answers, List.mem_append, ih]
      constructor
      · rintro (hfirst | ⟨before, packet, after, rfl, hanswer⟩)
        · cases step with
          | evaluate packet => exact ⟨[], packet, rest, rfl, (List.mem_singleton.mp hfirst).symm⟩
          | _ => cases hfirst
        · exact ⟨step :: before, packet, after, rfl, hanswer⟩
      · rintro ⟨before, packet, after, hcalls, hanswer⟩
        cases before with
        | nil =>
            obtain ⟨rfl, rfl⟩ := List.cons.inj hcalls
            exact Or.inl (List.mem_singleton.mpr hanswer.symm)
        | cons first before =>
            obtain ⟨rfl, rfl⟩ := List.cons.inj hcalls
            exact Or.inr ⟨before, packet, after, rfl, hanswer⟩

/-- An evaluation returns no rule exactly when none applies. -/
theorem evaluate_rule_eq_none_iff (engine : IpsEngine) (packet : EvaluateArgs) :
    (engine.evaluate packet).1.2 = none ↔ ∀ rule ∈ engine.rules, ¬ Applies rule packet := by
  simp only [applies_iff]
  rw [← List.find?_eq_none, evaluate_result]
  split <;> simp_all

/-- A run of a new engine answers every evaluation with a rule exactly when every packet
meets one that is in force. -/
theorem everyPacketMatched_iff (mode : IpsMode) (defaultAction : Verdict) (calls : List Call) :
    EveryPacketMatched calls ↔
      ∀ answer ∈ (new mode defaultAction).answers calls, answer.2.isSome = true := by
  have hrules : ∀ before, ((new mode defaultAction).run before).rules = rulesInForce before :=
    fun before => run_rules _ before
  constructor
  · intro hmatched answer hanswer
    obtain ⟨before, packet, after, hcalls, rfl⟩ := mem_answers_iff.mp hanswer
    obtain ⟨rule, hrule, happlies⟩ := hmatched before packet after hcalls
    rw [Option.isSome_iff_ne_none, ne_eq, evaluate_rule_eq_none_iff, hrules]
    exact fun hnone => hnone rule hrule happlies
  · intro hmatched before packet after hcalls
    have hanswer := hmatched _ (mem_answers_iff.mpr ⟨before, packet, after, hcalls, rfl⟩)
    rw [Option.isSome_iff_ne_none, ne_eq, evaluate_rule_eq_none_iff, hrules] at hanswer
    by_contra hnone
    exact hanswer fun rule hrule happlies => hnone ⟨rule, hrule, happlies⟩

/-- An evaluation without a rule returns the default action that the engine was built
with. -/
theorem verdict_of_unmatched {mode : IpsMode} {defaultAction : Verdict} {calls : List Call}
    {answer : Answer} (hanswer : answer ∈ (new mode defaultAction).answers calls)
    (hnone : answer.2 = none) : answer.1 = defaultAction := by
  obtain ⟨before, packet, after, _, rfl⟩ := mem_answers_iff.mp hanswer
  have hdefault : ((new mode defaultAction).run before).defaultAction = defaultAction :=
    run_defaultAction _ before
  rw [evaluate_result] at hnone ⊢
  split at hnone
  · cases hnone
  · exact hdefault

/-- In every run of an engine built with any mode and default action, the counters are
true exactly when the default action is Pass or every packet met a rule in force. -/
theorem run_countsTrue_iff (mode : IpsMode) (defaultAction : Verdict) (calls : List Call) :
    ((new mode defaultAction).run calls).stats.CountsTrue
        ((new mode defaultAction).answers calls) ↔
      defaultAction = .pass ∨ EveryPacketMatched calls := by
  have hstats : ((new mode defaultAction).run calls).stats =
      ((new mode defaultAction).answers calls).foldl IpsStats.count {} := run_stats _ calls
  rw [hstats, IpsStats.countsTrue_iff, everyPacketMatched_iff mode defaultAction]
  constructor
  · intro h
    rw [or_iff_not_imp_left]
    intro hdefault answer hanswer
    rw [Option.isSome_iff_ne_none]
    exact fun hnone => hdefault
      ((verdict_of_unmatched hanswer hnone).symm.trans (h answer hanswer hnone))
  · rintro (rfl | hmatched) answer hanswer hnone
    · exact verdict_of_unmatched hanswer hnone
    · exact absurd hnone (Option.isSome_iff_ne_none.mp (hmatched answer hanswer))

/-- An engine without rules whose default action is Drop: an ordinary packet is dropped
and counted as passed. -/
theorem dropped_packet_counted_as_passed :
    ¬ ((new .inline .drop).run [.evaluate ordinaryPacket]).stats.CountsTrue
      ((new .inline .drop).answers [.evaluate ordinaryPacket]) :=
  fun h => Nat.one_ne_zero h.packetsPassed

end IpsEngine

end GeSensor.Ips
