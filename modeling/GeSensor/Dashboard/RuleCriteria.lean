/-
  Dashboard/RuleCriteria.lean --- what each criterion of a submitted rule is for.

  A criterion counts if a packet that the rule matches can be made to miss the rule by
  changing the one attribute that the criterion is about.  The TCP flags are compared
  under a mask: mask and value are one criterion, which is set when both are.  A mask
  without a value, or a value without a mask, restricts nothing.
-/
import GeSensor.Dashboard.NewRule
import GeSensor.Foundation.Checked
import GeSensor.Ips.Reference

set_option autoImplicit false

namespace GeSensor.Dashboard

open GeSensor.Foundation
open GeSensor.Ips
open GeSensor.Net

/-! ## Criteria and attributes -/

/-- The fields of a request that restrict a rule. -/
inductive Criterion where
  | srcIp
  | dstIp
  | srcPort
  | dstPort
  | protocol
  | tcpFlagsMask
  | tcpFlagsValue
  | modbusFuncCodes
  | dnp3FuncCodes
  deriving DecidableEq, Repr

/-- The request gives the criterion: an address that is not blank, a port, a protocol,
function codes, a mask that is not zero, a value that is not compared under a zero
mask. -/
def RuleCriteriaRequest.Gives (request : RuleCriteriaRequest) : Criterion → Prop
  | .srcIp => ∃ text, request.srcIp = some text ∧ trim text.toList ≠ []
  | .dstIp => ∃ text, request.dstIp = some text ∧ trim text.toList ≠ []
  | .srcPort => request.srcPort ≠ none
  | .dstPort => request.dstPort ≠ none
  | .protocol => request.protocol ≠ none
  | .tcpFlagsMask => ∃ mask, request.tcpFlagsMask = some mask ∧ mask ≠ 0
  | .tcpFlagsValue => request.tcpFlagsValue ≠ none ∧ request.tcpFlagsMask ≠ some 0
  | .modbusFuncCodes => request.modbusFuncCodes ≠ []
  | .dnp3FuncCodes => request.dnp3FuncCodes ≠ []

/-- The criterion is about the TCP flags. -/
def Criterion.IsFlags (criterion : Criterion) : Prop :=
  criterion = .tcpFlagsMask ∨ criterion = .tcpFlagsValue

/-- The packets differ in the attribute that the criterion is about, if at all. -/
def ChangesOnly (criterion : Criterion) (packet other : EvaluateArgs) : Prop :=
  match criterion with
  | .srcIp => other = { packet with srcIp := other.srcIp }
  | .dstIp => other = { packet with dstIp := other.dstIp }
  | .srcPort => other = { packet with srcPort := other.srcPort }
  | .dstPort => other = { packet with dstPort := other.dstPort }
  | .protocol => other = { packet with protocol := other.protocol }
  | .tcpFlagsMask | .tcpFlagsValue => other = { packet with tcpFlags := other.tcpFlags }
  | .modbusFuncCodes => other = { packet with modbusFunc := other.modbusFunc }
  | .dnp3FuncCodes => other = { packet with dnp3Func := other.dnp3Func }

/-- Every packet that the rule matches misses it when this one attribute is changed. -/
def CriterionCounts (rule : IpsRule) (criterion : Criterion) : Prop :=
  ∀ packet, matchesRule rule packet = true →
    ∃ other, ChangesOnly criterion packet other ∧ matchesRule rule other = false

/-! ## Criteria that are set -/

/-- The criterion is set in the rule; the flags are when mask and value are. -/
def Sets (criteria : RuleCriteria) : Criterion → Prop
  | .srcIp => criteria.srcIp ≠ none
  | .dstIp => criteria.dstIp ≠ none
  | .srcPort => criteria.srcPort ≠ none
  | .dstPort => criteria.dstPort ≠ none
  | .protocol => criteria.protocol ≠ none
  | .tcpFlagsMask | .tcpFlagsValue => ∃ mask value, criteria.tcpFlagsMask = some mask ∧
      criteria.tcpFlagsValue = some value ∧ mask ≠ 0
  | .modbusFuncCodes => criteria.modbusFuncCodes ≠ []
  | .dnp3FuncCodes => criteria.dnp3FuncCodes ≠ []

/-- The packet with another value of the attribute: an absent address or function code,
the next number, all flags inverted. -/
def spoil (packet : EvaluateArgs) : Criterion → EvaluateArgs
  | .srcIp => { packet with srcIp := none }
  | .dstIp => { packet with dstIp := none }
  | .srcPort => { packet with srcPort := packet.srcPort + 1 }
  | .dstPort => { packet with dstPort := packet.dstPort + 1 }
  | .protocol => { packet with protocol := packet.protocol + 1 }
  | .tcpFlagsMask | .tcpFlagsValue => { packet with tcpFlags := ~~~packet.tcpFlags }
  | .modbusFuncCodes => { packet with modbusFunc := none }
  | .dnp3FuncCodes => { packet with dnp3Func := none }

theorem spoil_changesOnly (packet : EvaluateArgs) (criterion : Criterion) :
    ChangesOnly criterion packet (spoil packet criterion) := by
  cases criterion <;> rfl

/-- Inverted flags agree with the flags under the zero mask only. -/
theorem mask_eq_zero_of_inverted {flags mask : UInt8} (h : ~~~flags &&& mask = flags &&& mask) :
    mask = 0 := by
  apply UInt8.toBitVec_inj.mp
  apply BitVec.eq_of_getElem_eq
  intro i hi
  have hbit : (!flags.toBitVec[i] && mask.toBitVec[i]) =
      (flags.toBitVec[i] && mask.toBitVec[i]) := by
    simpa using congrArg (fun byte : UInt8 => byte.toBitVec[i]) h
  cases hmask : mask.toBitVec[i] with
  | false => simp
  | true => simp [hmask] at hbit

theorem port_add_one_ne (port : UInt16) : port + 1 ≠ port := by grind

theorem protocol_add_one_ne (number : UInt8) : number + 1 ≠ number := by grind

/-- A set criterion is missed by the spoiled packet. -/
theorem criterionCounts_of_sets {rule : IpsRule} {criterion : Criterion}
    (hset : Sets rule.criteria criterion) : CriterionCounts rule criterion := by
  intro packet hmatch
  refine ⟨spoil packet criterion, spoil_changesOnly packet criterion, ?_⟩
  rw [← Bool.not_eq_true, matchesRule_eq_true_iff]
  rw [matchesRule_eq_true_iff] at hmatch
  intro hspoiled
  cases criterion with
  | srcIp =>
      obtain ⟨ip, hip⟩ := Option.ne_none_iff_exists'.mp hset
      cases hspoiled.srcIp ip hip
  | dstIp =>
      obtain ⟨ip, hip⟩ := Option.ne_none_iff_exists'.mp hset
      cases hspoiled.dstIp ip hip
  | srcPort =>
      obtain ⟨port, hport⟩ := Option.ne_none_iff_exists'.mp hset
      exact port_add_one_ne _
        ((hspoiled.srcPort port hport).trans (hmatch.srcPort port hport).symm)
  | dstPort =>
      obtain ⟨port, hport⟩ := Option.ne_none_iff_exists'.mp hset
      exact port_add_one_ne _
        ((hspoiled.dstPort port hport).trans (hmatch.dstPort port hport).symm)
  | protocol =>
      obtain ⟨number, hnumber⟩ := Option.ne_none_iff_exists'.mp hset
      exact protocol_add_one_ne _
        ((hspoiled.protocol number hnumber).trans (hmatch.protocol number hnumber).symm)
  | tcpFlagsMask =>
      obtain ⟨mask, value, hmask, hvalue, hne⟩ := hset
      exact hne (mask_eq_zero_of_inverted ((hspoiled.tcpFlags mask value hmask hvalue).trans
        (hmatch.tcpFlags mask value hmask hvalue).symm))
  | tcpFlagsValue =>
      obtain ⟨mask, value, hmask, hvalue, hne⟩ := hset
      exact hne (mask_eq_zero_of_inverted ((hspoiled.tcpFlags mask value hmask hvalue).trans
        (hmatch.tcpFlags mask value hmask hvalue).symm))
  | modbusFuncCodes =>
      obtain ⟨code, _, hcode⟩ := hspoiled.modbusFunc hset
      cases hcode
  | dnp3FuncCodes =>
      obtain ⟨code, _, hcode⟩ := hspoiled.dnp3Func hset
      cases hcode

/-! ## From the request to the rule -/

/-- An address that is not blank is read. -/
theorem parseOptionalIp_ne_none {text field : String} {addr : Option IpAddr}
    (htext : trim text.toList ≠ []) (h : parseOptionalIp (some text) field = .ok addr) :
    addr ≠ none := by
  unfold parseOptionalIp at h
  dsimp only at h
  rw [if_neg htext] at h
  split at h
  · cases h
    exact Option.some_ne_none _
  · cases h

/-- The criteria of an accepted rule are those of its request, the addresses read. -/
theorem criteria_of_intoRule {request : NewIpsRuleRequest} {rule : IpsRule}
    (h : request.intoRule = .ok rule) :
    ∃ srcIp dstIp, parseOptionalIp request.criteria.srcIp "src_ip" = .ok srcIp ∧
      parseOptionalIp request.criteria.dstIp "dst_ip" = .ok dstIp ∧
      rule.criteria =
        { srcIp := srcIp
          dstIp := dstIp
          srcPort := request.criteria.srcPort
          dstPort := request.criteria.dstPort
          protocol := request.criteria.protocol
          tcpFlagsMask := request.criteria.tcpFlagsMask
          tcpFlagsValue := request.criteria.tcpFlagsValue
          modbusFuncCodes := request.criteria.modbusFuncCodes
          dnp3FuncCodes := request.criteria.dnp3FuncCodes } := by
  unfold NewIpsRuleRequest.intoRule at h
  dsimp only at h
  split at h
  · cases h
  split at h
  · cases h
  obtain ⟨action, _, h⟩ := bind_eq_ok_iff.mp h
  obtain ⟨criteria, hcriteria, h⟩ := bind_eq_ok_iff.mp h
  unfold RuleCriteriaRequest.intoCriteria at hcriteria
  obtain ⟨srcIp, hsrc, hcriteria⟩ := bind_eq_ok_iff.mp hcriteria
  obtain ⟨dstIp, hdst, hcriteria⟩ := bind_eq_ok_iff.mp hcriteria
  cases hcriteria
  cases h
  exact ⟨srcIp, dstIp, hsrc, hdst, rfl⟩

/-- What the request gives is set in the rule; the flags when both their fields are
given. -/
theorem sets_of_gives {request : NewIpsRuleRequest} {rule : IpsRule} {criterion : Criterion}
    (hrule : request.intoRule = .ok rule) (hgiven : request.criteria.Gives criterion)
    (hflags : criterion.IsFlags →
      request.criteria.tcpFlagsMask ≠ none ∧ request.criteria.tcpFlagsValue ≠ none) :
    Sets rule.criteria criterion := by
  obtain ⟨srcIp, dstIp, hsrc, hdst, hcriteria⟩ := criteria_of_intoRule hrule
  rw [hcriteria]
  cases criterion with
  | srcIp =>
      obtain ⟨text, htext, hblank⟩ := hgiven
      rw [htext] at hsrc
      exact parseOptionalIp_ne_none hblank hsrc
  | dstIp =>
      obtain ⟨text, htext, hblank⟩ := hgiven
      rw [htext] at hdst
      exact parseOptionalIp_ne_none hblank hdst
  | srcPort => exact hgiven
  | dstPort => exact hgiven
  | protocol => exact hgiven
  | tcpFlagsMask =>
      obtain ⟨mask, hmask, hne⟩ := hgiven
      obtain ⟨value, hvalue⟩ := Option.ne_none_iff_exists'.mp (hflags (Or.inl rfl)).2
      exact ⟨mask, value, hmask, hvalue, hne⟩
  | tcpFlagsValue =>
      obtain ⟨mask, hmask⟩ := Option.ne_none_iff_exists'.mp (hflags (Or.inr rfl)).1
      obtain ⟨value, hvalue⟩ := Option.ne_none_iff_exists'.mp (hflags (Or.inr rfl)).2
      refine ⟨mask, value, hmask, hvalue, ?_⟩
      rintro rfl
      exact hgiven.2 hmask
  | modbusFuncCodes => exact hgiven
  | dnp3FuncCodes => exact hgiven

/-- Every criterion that an accepted request gives counts, if it gives mask and value of
the TCP flags together. -/
theorem given_criterion_counts {request : NewIpsRuleRequest} {rule : IpsRule}
    (hrule : request.intoRule = .ok rule) {criterion : Criterion}
    (hgiven : request.criteria.Gives criterion)
    (hflags : criterion.IsFlags →
      request.criteria.tcpFlagsMask ≠ none ∧ request.criteria.tcpFlagsValue ≠ none) :
    CriterionCounts rule criterion :=
  criterionCounts_of_sets (sets_of_gives hrule hgiven hflags)

/-- A request with these criteria. -/
def dropRequest (criteria : RuleCriteriaRequest) : NewIpsRuleRequest where
  id := " LAB-1 "
  description := "drop"
  severity := "high"
  action := "drop"
  criteria := criteria

/-- The rule made of it, if it gives TCP flags only. -/
def dropRule (criteria : RuleCriteriaRequest) : IpsRule where
  id := "LAB-1"
  description := "drop"
  severity := "high"
  action := .drop
  criteria := {
    tcpFlagsMask := criteria.tcpFlagsMask
    tcpFlagsValue := criteria.tcpFlagsValue }
  enabled := true

/-- The SYN flag, compared under its mask. -/
theorem given_criterion_counts_syn :
    CriterionCounts (dropRule { tcpFlagsMask := some 0x02, tcpFlagsValue := some 0x02 })
      .tcpFlagsMask :=
  have hrule : (dropRequest { tcpFlagsMask := some 0x02, tcpFlagsValue := some 0x02 }).intoRule =
      .ok (dropRule { tcpFlagsMask := some 0x02, tcpFlagsValue := some 0x02 }) := rfl
  have hgiven : RuleCriteriaRequest.Gives
      { tcpFlagsMask := some 0x02, tcpFlagsValue := some 0x02 } .tcpFlagsMask :=
    ⟨0x02, rfl, by decide⟩
  given_criterion_counts hrule hgiven fun _ => ⟨nofun, nofun⟩

/-- A rule that matches every packet has no criterion that counts. -/
theorem not_criterionCounts {rule : IpsRule} {criterion : Criterion}
    (hall : ∀ packet, matchesRule rule packet = true) : ¬ CriterionCounts rule criterion := by
  intro hcounts
  obtain ⟨other, _, hmissed⟩ :=
    hcounts ⟨none, none, 0, 0, 0, 0, none, none⟩ (hall _)
  rw [hall other] at hmissed
  cases hmissed

/-- The SYN flag as a value without a mask, and as a mask without a value: both requests
are accepted, and the rules drop every packet. -/
theorem half_given_flags_do_not_count :
    (∃ rule, (dropRequest { tcpFlagsValue := some 0x02 }).intoRule = .ok rule ∧
      RuleCriteriaRequest.Gives { tcpFlagsValue := some 0x02 } .tcpFlagsValue ∧
      ¬ CriterionCounts rule .tcpFlagsValue) ∧
    ∃ rule, (dropRequest { tcpFlagsMask := some 0x02 }).intoRule = .ok rule ∧
      RuleCriteriaRequest.Gives { tcpFlagsMask := some 0x02 } .tcpFlagsMask ∧
      ¬ CriterionCounts rule .tcpFlagsMask := by
  refine ⟨⟨dropRule { tcpFlagsValue := some 0x02 }, rfl, ⟨nofun, nofun⟩, ?_⟩,
    ⟨dropRule { tcpFlagsMask := some 0x02 }, rfl, ⟨0x02, rfl, by decide⟩, ?_⟩⟩
  · exact not_criterionCounts fun _ => rfl
  · exact not_criterionCounts fun _ => rfl

end GeSensor.Dashboard
