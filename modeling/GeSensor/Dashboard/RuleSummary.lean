/-
  Dashboard/RuleSummary.lean --- the summary of a rule's criteria.

  `summarize_rule` of `src/utils/dashboard.rs` pushes a text for each criterion that is set
  and joins them.  An operator sees nothing else of the criteria.  The summary shows all of
  them but a flag mask without a value, or a value without a mask, which no packet is
  compared with.
-/
import GeSensor.Dashboard.IpsView
import GeSensor.Foundation.TaggedFields
import GeSensor.Net.AddrDisplay

set_option autoImplicit false

namespace GeSensor.Dashboard

open GeSensor.Foundation
open GeSensor.Ips
open GeSensor.Net

/-! ## The summary -/

/-- `format!("{byte:#04x}")` -/
def hexByte (byte : UInt8) : List Char := "0x".toList ++ zeroPadded 2 (Nat.toDigits 16 byte.toNat)

/-- `", "` -/
def partSeparator : List Char := [',', ' ']

def codesText (codes : List UInt8) : List Char :=
  partSeparator.intercalate (codes.map fun code => decimal code.toNat)

/-- `format!("{codes:?}")` -/
def debugCodes (codes : List UInt8) : List Char := '[' :: (codesText codes ++ [']'])

/-- The mask and the value with which flags are compared. -/
def flagTest (c : RuleCriteria) : Option (UInt8 × UInt8) :=
  match c.tcpFlagsMask, c.tcpFlagsValue with
  | some mask, some value => some (mask, value)
  | _, _ => none

/-- `({mask:#04x})={value:#04x}`, behind the opening parenthesis -/
def flagText (test : UInt8 × UInt8) : List Char := hexByte test.1 ++ (")=".toList ++ hexByte test.2)

/-- The codes, if there are any. -/
def nonEmptyCodes (codes : List UInt8) : Option (List UInt8) :=
  if codes.isEmpty then none else some codes

/-- The texts that are pushed, in this order. -/
def summaryParts (c : RuleCriteria) : List (List Char) :=
  (c.srcIp.map fun ip => "src_ip=".toList ++ ip.display).toList ++
    (c.dstIp.map fun ip => "dst_ip=".toList ++ ip.display).toList ++
    (c.srcPort.map fun port => "src_port=".toList ++ decimal port.toNat).toList ++
    (c.dstPort.map fun port => "dst_port=".toList ++ decimal port.toNat).toList ++
    (c.protocol.map fun proto => "proto=".toList ++ decimal proto.toNat).toList ++
    ((flagTest c).map fun test => "tcp_flags(".toList ++ flagText test).toList ++
    ((nonEmptyCodes c.modbusFuncCodes).map fun codes =>
      "modbus_fc=".toList ++ debugCodes codes).toList ++
    ((nonEmptyCodes c.dnp3FuncCodes).map fun codes =>
      "dnp3_fc=".toList ++ debugCodes codes).toList

def summaryText (c : RuleCriteria) : List Char :=
  if summaryParts c = [] then "any".toList else partSeparator.intercalate (summaryParts c)

/-- `summarize_rule`. -/
def summarizeRule (rule : IpsRule) : String := String.ofList (summaryText rule.criteria)

/-! ## Values -/

theorem comma_not_mem_decimal (number : Nat) : ',' ∉ decimal number := not_mem_toDigits rfl number

theorem delimits_port : Delimits partSeparator fun port : UInt16 => decimal port.toNat :=
  delimits_of_not_mem (fun _ _ h => UInt16.toNat_inj.mp (decimal_injective h))
    fun port => comma_not_mem_decimal port.toNat

theorem delimits_byte : Delimits partSeparator fun byte : UInt8 => decimal byte.toNat :=
  delimits_of_not_mem (fun _ _ h => UInt8.toNat_inj.mp (decimal_injective h))
    fun byte => comma_not_mem_decimal byte.toNat

theorem delimits_display : Delimits partSeparator IpAddr.display :=
  delimits_of_not_mem display_injective comma_not_mem_display

theorem hexByte_injective : Function.Injective hexByte := by
  intro left right h
  have hread := congrArg (readHexDigits 0) (List.append_cancel_left h)
  rw [readHexDigits_zeroPadded, readHexDigits_zeroPadded, readHexDigits_toDigits,
    readHexDigits_toDigits, Option.some.injEq] at hread
  exact UInt8.toNat_inj.mp hread

theorem not_mem_hexByte {char : Char} (hstart : char ∉ "0x".toList) (hhex : hexValue char = none)
    (byte : UInt8) : char ∉ hexByte byte := by
  intro hmem
  rw [hexByte, zeroPadded, List.mem_append, List.mem_append] at hmem
  rcases hmem with hmem | hmem | hmem
  · exact hstart hmem
  · rw [List.eq_of_mem_replicate hmem] at hhex
    cases hhex
  · exact not_mem_hexDigits hhex _ hmem

theorem delimits_flags : Delimits partSeparator flagText := by
  have hmask : Delimits ")=".toList hexByte :=
    delimits_of_not_mem hexByte_injective (not_mem_hexByte (by decide : ')' ∉ "0x".toList) rfl)
  have hvalue : Delimits partSeparator hexByte :=
    delimits_of_not_mem hexByte_injective (not_mem_hexByte (by decide) rfl)
  exact hmask.pair hvalue

theorem delimits_codes : Delimits partSeparator debugCodes := by
  refine delimits_of_closed (intercalate_map_injective (List.cons_ne_nil _ _) delimits_byte
    fun _ => Nat.toDigits_ne_nil) fun codes hmem => ?_
  rcases mem_intercalate hmem with hmem | ⟨part, hpart, hmem⟩
  · exact absurd hmem (by decide)
  · obtain ⟨code, -, rfl⟩ := List.mem_map.mp hpart
    exact not_mem_toDigits rfl _ hmem

/-! ## Criteria -/

/-- The criteria as fields, in the order of the summary. -/
def summaryFields : List (TaggedField RuleCriteria Char) :=
  [⟨"src_ip=".toList, fun c => c.srcIp.map IpAddr.display⟩,
    ⟨"dst_ip=".toList, fun c => c.dstIp.map IpAddr.display⟩,
    ⟨"src_port=".toList, fun c => c.srcPort.map fun port => decimal port.toNat⟩,
    ⟨"dst_port=".toList, fun c => c.dstPort.map fun port => decimal port.toNat⟩,
    ⟨"proto=".toList, fun c => c.protocol.map fun proto => decimal proto.toNat⟩,
    ⟨"tcp_flags(".toList, fun c => (flagTest c).map flagText⟩,
    ⟨"modbus_fc=".toList, fun c => (nonEmptyCodes c.modbusFuncCodes).map debugCodes⟩,
    ⟨"dnp3_fc=".toList, fun c => (nonEmptyCodes c.dnp3FuncCodes).map debugCodes⟩]

theorem summaryText_eq (c : RuleCriteria) :
    summaryText c = describe partSeparator "any".toList summaryFields c := by
  have hparts : summaryParts c = fieldTexts summaryFields c := by
    simp only [summaryParts, summaryFields, fieldTexts_cons, fieldTexts_nil, Option.map_map,
      List.append_assoc, List.append_nil]
    rfl
  rw [summaryText, describe, hparts]

theorem summaryFields_told : Told partSeparator summaryFields where
  tags := by decide
  values := by
    simp only [summaryFields, List.forall_mem_cons, List.not_mem_nil, false_imp_iff,
      implies_true, and_true]
    exact ⟨delimits_display.delimited _ _, delimits_display.delimited _ _,
      delimits_port.delimited _ _, delimits_port.delimited _ _, delimits_byte.delimited _ _,
      delimits_flags.delimited _ _, delimits_codes.delimited _ _, delimits_codes.delimited _ _⟩

/-- Criteria with which packets are compared in the same way, criterion by criterion. -/
structure SameCriteria (left right : RuleCriteria) : Prop where
  srcIp : left.srcIp = right.srcIp
  dstIp : left.dstIp = right.dstIp
  srcPort : left.srcPort = right.srcPort
  dstPort : left.dstPort = right.dstPort
  protocol : left.protocol = right.protocol
  flags : flagTest left = flagTest right
  modbusFuncCodes : left.modbusFuncCodes = right.modbusFuncCodes
  dnp3FuncCodes : left.dnp3FuncCodes = right.dnp3FuncCodes

theorem nonEmptyCodes_injective : Function.Injective nonEmptyCodes := by
  intro left right h
  cases left <;> cases right
  · rfl
  · cases h
  · cases h
  · exact Option.some.inj h

/-- The summary shows the criteria, and only them. -/
theorem summaryText_eq_iff (left right : RuleCriteria) :
    summaryText left = summaryText right ↔ SameCriteria left right := by
  have hseparator : partSeparator ≠ [] := List.cons_ne_nil _ _
  have hfallback : ∀ field ∈ summaryFields, ¬ field.tag <+: "any".toList := by decide
  rw [summaryText_eq, summaryText_eq,
    describe_eq_iff hseparator summaryFields_told hfallback]
  simp only [summaryFields, List.forall_mem_cons, List.not_mem_nil, false_imp_iff, implies_true,
    and_true]
  have hdisplay := Option.map_injective delimits_display.injective
  have hport := Option.map_injective delimits_port.injective
  have hbyte := Option.map_injective delimits_byte.injective
  have hflags := Option.map_injective delimits_flags.injective
  have hcodes := (Option.map_injective delimits_codes.injective).comp nonEmptyCodes_injective
  constructor
  · rintro ⟨hsrcIp, hdstIp, hsrcPort, hdstPort, hproto, htest, hmodbus, hdnp3⟩
    exact ⟨hdisplay hsrcIp, hdisplay hdstIp, hport hsrcPort, hport hdstPort, hbyte hproto,
      hflags htest, hcodes hmodbus, hcodes hdnp3⟩
  · intro h
    rw [h.srcIp, h.dstIp, h.srcPort, h.dstPort, h.protocol, h.flags, h.modbusFuncCodes,
      h.dnp3FuncCodes]
    exact ⟨rfl, rfl, rfl, rfl, rfl, rfl, rfl, rfl⟩

end GeSensor.Dashboard
