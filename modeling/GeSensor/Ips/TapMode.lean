/-
  Ips/TapMode.lean --- what tap mode does and does not block.

  Tap mode is documented to generate alerts without blocking.  A matched rule is
  downgraded as documented; the default action, the other exit of `evaluate`, is
  not.
-/
import GeSensor.Ips.Engine

set_option autoImplicit false

namespace GeSensor.Ips.IpsEngine

/-- A matched rule never drops in tap mode. -/
theorem ruleVerdict_tap_ne_drop (action : Verdict) : ruleVerdict .tap action ≠ .drop := by
  cases action <;> decide

/-- In tap mode the verdict is Drop exactly when the default action is taken and
is Drop. -/
theorem evaluate_tap_eq_drop_iff {engine : IpsEngine} (htap : engine.mode = .tap)
    (packet : EvaluateArgs) :
    (engine.evaluate packet).1.1 = .drop ↔
      engine.defaultAction = .drop ∧
        ∀ rule ∈ engine.rules, ¬ (rule.enabled = true ∧ matchesRule rule packet = true) := by
  rw [evaluate_result, htap]
  cases hfind : engine.rules.find? fun rule => rule.enabled && matchesRule rule packet with
  | some rule =>
      have hmet := List.find?_some hfind
      have hmem := List.mem_of_find?_eq_some hfind
      simp only [Bool.and_eq_true] at hmet
      constructor
      · intro hdrop
        exact absurd hdrop (ruleVerdict_tap_ne_drop rule.action)
      · rintro ⟨_, hnone⟩
        exact absurd hmet (hnone rule hmem)
  | none =>
      have hnone : ∀ rule ∈ engine.rules,
          ¬ (rule.enabled = true ∧ matchesRule rule packet = true) := by
        simpa using hfind
      exact ⟨fun hdrop => ⟨hdrop, hnone⟩, fun h => h.1⟩

/-- After any run of an engine built with any mode and default action, an
evaluation in tap mode does not drop exactly when the default action is not Drop
or some enabled rule matches the packet. -/
theorem tap_evaluate_ne_drop_iff (mode : IpsMode) (defaultAction : Verdict)
    (calls : List Call) (packet : EvaluateArgs)
    (htap : ((new mode defaultAction).run calls).mode = .tap) :
    (((new mode defaultAction).run calls).evaluate packet).1.1 ≠ .drop ↔
      defaultAction ≠ .drop ∨
        ∃ rule ∈ ((new mode defaultAction).run calls).rules,
          rule.enabled = true ∧ matchesRule rule packet = true := by
  have hdefault : ((new mode defaultAction).run calls).defaultAction = defaultAction :=
    run_defaultAction _ calls
  rw [ne_eq, evaluate_tap_eq_drop_iff htap, hdefault]
  constructor
  · intro h
    by_cases hdrop : defaultAction = .drop
    · right
      by_contra hnone
      exact h ⟨hdrop, fun rule hmem hmet => hnone ⟨rule, hmem, hmet⟩⟩
    · exact Or.inl hdrop
  · rintro (hdefault | ⟨rule, hmem, hmet⟩) ⟨hdrop, hnone⟩
    · exact hdefault hdrop
    · exact hnone rule hmem hmet

/-- An ordinary HTTPS packet, which no default rule matches. -/
def ordinaryPacket : EvaluateArgs where
  srcIp := some (.newV4 192 168 1 10)
  dstIp := some (.newV4 10 0 0 1)
  srcPort := 49152
  dstPort := 443
  protocol := 6
  tcpFlags := 0x12
  modbusFunc := none
  dnp3Func := none

/-- The XMAS scan of the tests is alerted, not dropped, whatever the default. -/
theorem tap_evaluate_xmas_ne_drop :
    (((new .tap .drop).run [.loadDefaultRules]).evaluate
      { ordinaryPacket with tcpFlags := 0x29 }).1.1 ≠ .drop :=
  (tap_evaluate_ne_drop_iff .tap .drop [.loadDefaultRules]
    { ordinaryPacket with tcpFlags := 0x29 } (by decide)).mpr (Or.inr (by decide))

/-- An engine in tap mode with default action Drop and the default rules drops an
ordinary packet. -/
theorem tap_evaluate_drops_ordinary_packet :
    ((new .tap .drop).run [.loadDefaultRules]).mode = .tap ∧
    (((new .tap .drop).run [.loadDefaultRules]).evaluate ordinaryPacket).1 =
      (.drop, none) := by
  decide

end GeSensor.Ips.IpsEngine
