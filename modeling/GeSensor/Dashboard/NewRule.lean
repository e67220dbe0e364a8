/-
  Dashboard/NewRule.lean --- the request for a new rule and `into_rule` of
  `src/utils/dashboard.rs`.

  The first field that cannot be read decides the message: the id, the description, the
  action, the source address, the destination address.
-/
import GeSensor.Ips.Engine
import GeSensor.Net.AddrText

set_option autoImplicit false

namespace GeSensor.Dashboard

open GeSensor.Foundation
open GeSensor.Ips
open GeSensor.Net

/-- The criteria of a request; the addresses are texts. -/
structure RuleCriteriaRequest where
  srcIp : Option String := none
  dstIp : Option String := none
  srcPort : Option UInt16 := none
  dstPort : Option UInt16 := none
  protocol : Option UInt8 := none
  tcpFlagsMask : Option UInt8 := none
  tcpFlagsValue : Option UInt8 := none
  modbusFuncCodes : List UInt8 := []
  dnp3FuncCodes : List UInt8 := []
  deriving DecidableEq, Repr

structure NewIpsRuleRequest where
  id : String
  description : String
  severity : String
  action : String
  enabled : Bool := true
  criteria : RuleCriteriaRequest := {}
  deriving DecidableEq, Repr

/-- `text.trim().to_string()`. -/
def trimmed (text : String) : String := String.ofList (trim text.toList)

/-- `text.trim().to_ascii_lowercase()`. -/
def normalized (text : String) : String := String.ofList (toAsciiLowercase (trim text.toList))

/-- A blank address is an absent one. -/
def parseOptionalIp (value : Option String) (field : String) : Except String (Option IpAddr) :=
  match value with
  | none => .ok none
  | some raw =>
      let text := trim raw.toList
      if text = [] then .ok none
      else
        match parseIpAddr text with
        | some addr => .ok (some addr)
        | none => .error ("invalid " ++ field ++ " address")

def RuleCriteriaRequest.intoCriteria (request : RuleCriteriaRequest) :
    Except String RuleCriteria := do
  let srcIp ← parseOptionalIp request.srcIp "src_ip"
  let dstIp ← parseOptionalIp request.dstIp "dst_ip"
  return {
    srcIp := srcIp
    dstIp := dstIp
    srcPort := request.srcPort
    dstPort := request.dstPort
    protocol := request.protocol
    tcpFlagsMask := request.tcpFlagsMask
    tcpFlagsValue := request.tcpFlagsValue
    modbusFuncCodes := request.modbusFuncCodes
    dnp3FuncCodes := request.dnp3FuncCodes }

/-- The action of a rule, by name. -/
def parseAction (action : String) : Except String Verdict :=
  match normalized action with
  | "drop" => .ok .drop
  | "alert" => .ok .alert
  | "pass" => .ok .pass
  | _ => .error "action must be one of: drop, alert, pass"

def NewIpsRuleRequest.intoRule (request : NewIpsRuleRequest) : Except String IpsRule := do
  let id := trimmed request.id
  if id = "" then
    .error "rule id must not be empty"
  else
    let description := trimmed request.description
    if description = "" then
      .error "rule description must not be empty"
    else
      let action ← parseAction request.action
      let criteria ← request.criteria.intoCriteria
      return {
        id := id
        description := description
        severity := normalized request.severity
        action := action
        criteria := criteria
        enabled := request.enabled }

/-- The messages of `into_rule`. -/
def ruleMessages : List String :=
  ["rule id must not be empty", "rule description must not be empty",
    "action must be one of: drop, alert, pass", "invalid src_ip address", "invalid dst_ip address"]

/-- A bind fails with the message of its first or of its second part. -/
theorem error_of_bind {α β : Type} {action : Except String α} {next : α → Except String β}
    {message : String} (h : action >>= next = .error message) :
    action = .error message ∨ ∃ value, next value = .error message := by
  cases action with
  | error other =>
      cases h
      exact Or.inl rfl
  | ok value => exact Or.inr ⟨value, h⟩

theorem error_of_parseOptionalIp {value : Option String} {field message : String}
    (h : parseOptionalIp value field = .error message) :
    message = "invalid " ++ field ++ " address" := by
  unfold parseOptionalIp at h
  split at h
  · cases h
  · dsimp only at h
    split at h
    · cases h
    · split at h
      · cases h
      · exact (Except.error.inj h).symm

theorem error_of_intoCriteria {request : RuleCriteriaRequest} {message : String}
    (h : request.intoCriteria = .error message) : message ∈ ruleMessages := by
  unfold RuleCriteriaRequest.intoCriteria at h
  rcases error_of_bind h with hsrc | ⟨_, h⟩
  · rw [error_of_parseOptionalIp hsrc]
    decide
  · rcases error_of_bind h with hdst | ⟨_, h⟩
    · rw [error_of_parseOptionalIp hdst]
      decide
    · cases h

/-- No part of a request appears in a message. -/
theorem error_of_intoRule {request : NewIpsRuleRequest} {message : String}
    (h : request.intoRule = .error message) : message ∈ ruleMessages := by
  unfold NewIpsRuleRequest.intoRule at h
  dsimp only at h
  split at h
  · cases h
    decide
  · split at h
    · cases h
      decide
    · rcases error_of_bind h with haction | ⟨_, h⟩
      · unfold parseAction at haction
        split at haction
        all_goals cases haction
        decide
      · rcases error_of_bind h with hcriteria | ⟨_, h⟩
        · exact error_of_intoCriteria hcriteria
        · cases h

end GeSensor.Dashboard
