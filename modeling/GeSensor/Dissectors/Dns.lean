/-
  Dissectors/Dns.lean --- the DNS dissector of `src/dissectors/dns.rs`, and when
  it returns.

  `parse_dns_name` reads labels in a loop and follows a compression pointer by
  calling itself.  Its jump budget is a local variable that counts labels and
  restarts in every call, so nothing bounds the chain of calls.  The embedding
  grants a call depth, and a call beyond it is a stack overflow; "returns" means
  that some depth is enough.

  `nextPointer` reads the pointer that ends the labels at an offset off the bytes
  alone.  The parser returns exactly when the chain of these pointers never comes
  back to an offset (`parseDnsName_returns_iff`).
-/
import GeSensor.Foundation.Checked
import GeSensor.Foundation.Orbit

set_option autoImplicit false

namespace GeSensor.Dissectors

open GeSensor.Foundation

/-- DNS header is 12 bytes. -/
def dnsHeaderLen : Nat := 12

/-- 1 = response, 0 = query. -/
def dnsFlagQr : UInt16 := 0x8000

/-- Parsed DNS information. -/
structure DnsInfo where
  transactionId : UInt16
  isResponse : Bool
  questionCount : UInt16
  answerCount : UInt16
  queryName : String := ""
  queryType : UInt16 := 0
  deriving DecidableEq, Repr

/-- The loop of `parse_dns_name` gives up on more labels than this. -/
def maxJumps : Nat := 10

/-- A compression pointer: the low six bits of its first byte, and its second. -/
def pointerValue (len low : UInt8) : Nat := ((len &&& 0x3F).toNat <<< 8) ||| low.toNat

/-- `std::str::from_utf8(bytes).unwrap_or("<invalid>")`. -/
def labelText (bytes : Bytes) : String :=
  (String.fromUTF8? ⟨⟨bytes⟩⟩).getD "<invalid>"

/-- The loop of `parse_dns_name`.  `follow` is the recursive call; `left` counts
`jumps` down, from `max_jumps + 1` to the zero at which `jumps > max_jumps`. -/
def nameLoop (follow : Nat → Checked (Option (String × Nat))) (data : Bytes) :
    (left offset : Nat) → (nameParts : List String) → Checked (Option (String × Nat))
  | 0, _, _ => .ok none
  | left + 1, offset, nameParts =>
      if data.length ≤ offset then .ok none
      else do
        let len ← index data offset
        if len = 0 then
          .ok (some (".".intercalate nameParts, offset + 1))
        else if len &&& 0xC0 = 0xC0 then
          if data.length ≤ offset + 1 then .ok none
          else
            let low ← index data (offset + 1)
            -- Only before the first label does the pointer advance the offset.
            let after := if left = maxJumps then offset + 2 else offset
            match ← follow (pointerValue len low) with
            | some (rest, _) =>
                if nameParts.isEmpty then .ok (some (rest, after))
                else .ok (some (".".intercalate (nameParts ++ [rest]), after))
            | none => .ok (some (".".intercalate nameParts, after))
        else
          let start := offset + 1
          if data.length < start + len.toNat then .ok none
          else
            let label ← slice data start (start + len.toNat)
            nameLoop follow data left (start + len.toNat) (nameParts ++ [labelText label])

/-- Parse a DNS label-encoded name starting at `offset`, with `depth` nested
calls granted.  Returns the name and the offset after it. -/
def parseDnsName : (depth : Nat) → (data : Bytes) → (offset : Nat) →
    Checked (Option (String × Nat))
  | 0, _, _ => .error .stackOverflow
  | depth + 1, data, offset => nameLoop (parseDnsName depth data) data (maxJumps + 1) offset []

/-- Attempt to extract the DNS query name from the payload. -/
def dissectDns (depth : Nat) (data : Bytes) (payloadOffset : Nat) : Checked (Option DnsInfo) :=
  match getFrom? data payloadOffset with
  | none => .ok none
  | some payload =>
      if payload.length < dnsHeaderLen then .ok none
      else do
        let info : DnsInfo :=
          { transactionId := be16 (← index payload 0) (← index payload 1)
            isResponse := be16 (← index payload 2) (← index payload 3) &&& dnsFlagQr ≠ 0
            questionCount := be16 (← index payload 4) (← index payload 5)
            answerCount := be16 (← index payload 6) (← index payload 7) }
        if 0 < info.questionCount then
          match ← parseDnsName depth payload dnsHeaderLen with
          | some (name, endOffset) =>
              let info := { info with queryName := name }
              if endOffset + 2 ≤ payload.length then
                let queryType := be16 (← index payload endOffset) (← index payload (endOffset + 1))
                return some { info with queryType := queryType }
              else return some info
          | none => return some info
        else return some info

/-! ## The chain of pointers -/

/-- The pointer after at most `left` labels at `offset`, if the labels are well
formed and end in a pointer. -/
def pointerAfter (data : Bytes) : (left offset : Nat) → Option Nat
  | 0, _ => none
  | left + 1, offset =>
      let len := byteAt data offset
      if data.length ≤ offset ∨ len = 0 then none
      else if len &&& 0xC0 = 0xC0 then
        if data.length ≤ offset + 1 then none
        else some (pointerValue len (byteAt data (offset + 1)))
      else if data.length < offset + 1 + len.toNat then none
      else pointerAfter data left (offset + 1 + len.toNat)

/-- The pointer that ends the labels at `offset`. -/
def nextPointer (data : Bytes) (offset : Nat) : Option Nat :=
  pointerAfter data (maxJumps + 1) offset

/-- Following the compression pointers from `offset` comes back to an offset. -/
abbrev PointerCycle (data : Bytes) (offset : Nat) : Prop := Revisits (nextPointer data) offset

theorem lt_length_of_pointerAfter {data : Bytes} {left offset : Nat}
    (h : pointerAfter data left offset ≠ none) : offset < data.length := by
  cases left with
  | zero => exact absurd rfl h
  | succ left =>
      by_contra hout
      apply h
      rw [pointerAfter]
      exact if_pos (Or.inl (Nat.le_of_not_lt hout))

/-- The loop makes the recursive call exactly at the pointer, and otherwise
returns without one. -/
theorem nameLoop_spec (follow : Nat → Checked (Option (String × Nat))) (data : Bytes)
    (left offset : Nat) (nameParts : List String) :
    Returns (nameLoop follow data left offset nameParts) ↔
      ∀ pointer, pointerAfter data left offset = some pointer → Returns (follow pointer) := by
  induction left generalizing offset nameParts with
  | zero => simp [nameLoop, pointerAfter]
  | succ left ih =>
      rw [nameLoop, pointerAfter]
      by_cases hin : data.length ≤ offset
      · simp [hin]
      · rw [if_neg hin, index_eq_byteAt (Nat.lt_of_not_le hin), ok_bind]
        by_cases hzero : byteAt data offset = 0
        · simp [hzero]
        · rw [if_neg hzero, if_neg (not_or.mpr ⟨hin, hzero⟩)]
          by_cases hpointer : byteAt data offset &&& 0xC0 = 0xC0
          · rw [if_pos hpointer, if_pos hpointer]
            by_cases hlow : data.length ≤ offset + 1
            · simp [hlow]
            · rw [if_neg hlow, if_neg hlow, index_eq_byteAt (Nat.lt_of_not_le hlow), ok_bind]
              simp only [Option.some.injEq, forall_eq']
              cases hfollow : follow (pointerValue (byteAt data offset)
                  (byteAt data (offset + 1))) with
              | error panic => simp
              | ok answer =>
                  cases answer with
                  | none => simp
                  | some found =>
                      rw [ok_bind]
                      cases nameParts.isEmpty <;> simp
          · rw [if_neg hpointer, if_neg hpointer]
            by_cases hlong : data.length < offset + 1 + (byteAt data offset).toNat
            · simp [hlong]
            · rw [if_neg hlong, if_neg hlong,
                slice_eq_ok (Nat.le_add_right _ _) (Nat.le_of_not_lt hlong), ok_bind]
              exact ih _ _

/-- With `depth` nested calls the parser returns exactly when the chain of
pointers has ended by then. -/
theorem parseDnsName_returns_iff_orbit (depth : Nat) (data : Bytes) (offset : Nat) :
    Returns (parseDnsName depth data offset) ↔
      orbit (nextPointer data) depth offset = none := by
  induction depth generalizing offset with
  | zero => simp [parseDnsName, orbit]
  | succ depth ih =>
      rw [parseDnsName, nameLoop_spec, orbit]
      change (∀ pointer, nextPointer data offset = some pointer → _) ↔ _
      cases nextPointer data offset with
      | none => simp
      | some pointer =>
          simp only [Option.some.injEq, forall_eq', Option.bind_some]
          exact ih pointer

/-- Only the offsets of the message have a way on. -/
theorem nextPointer_mem_range (data : Bytes) (offset : Nat) (h : nextPointer data offset ≠ none) :
    offset ∈ Finset.range data.length :=
  Finset.mem_range.mpr (lt_length_of_pointerAfter h)

/-- The parser returns exactly when the pointers never come back to an offset,
and then as many nested calls as the message has bytes, and one, are enough. -/
theorem parseDnsName_returns_iff (data : Bytes) (offset : Nat) :
    ((∃ depth, Returns (parseDnsName depth data offset)) ↔ ¬ PointerCycle data offset) ∧
      (Returns (parseDnsName (data.length + 1) data offset) ↔ ¬ PointerCycle data offset) := by
  simp only [parseDnsName_returns_iff_orbit]
  refine ⟨ends_iff_not_revisits _ (nextPointer_mem_range data) offset, ?_⟩
  constructor
  · intro hend hcycle
    exact not_ends_of_revisits hcycle ⟨_, hend⟩
  · intro hcycle
    have hend := orbit_eq_none_of_not_revisits _ (nextPointer_mem_range data) hcycle
    rwa [Finset.card_range] at hend

/-! ## The dissector -/

/-- The payload makes `dissect_dns` parse a name: a whole header, with a question. -/
def AsksForName (payload : Bytes) : Prop :=
  dnsHeaderLen ≤ payload.length ∧ 0 < be16 (byteAt payload 4) (byteAt payload 5)

/-- With `depth` nested calls the dissector returns exactly when the name it asks
for is parsed within them. -/
theorem dissectDns_returns_iff_parse (depth : Nat) (data : Bytes) (payloadOffset : Nat) :
    Returns (dissectDns depth data payloadOffset) ↔
      (AsksForName (data.drop payloadOffset) →
        Returns (parseDnsName depth (data.drop payloadOffset) dnsHeaderLen)) := by
  unfold dissectDns getFrom?
  by_cases hoffset : payloadOffset ≤ data.length
  · rw [if_pos hoffset]
    generalize data.drop payloadOffset = payload
    by_cases hheader : payload.length < dnsHeaderLen
    · simp [AsksForName, hheader]
    · have hlen : 12 ≤ payload.length := Nat.le_of_not_lt hheader
      simp (disch := omega) only [if_neg hheader, index_eq_byteAt, ok_bind]
      by_cases hquestion : 0 < be16 (byteAt payload 4) (byteAt payload 5)
      · have hasks : AsksForName payload := ⟨hlen, hquestion⟩
        simp only [if_pos hquestion, hasks, forall_const]
        cases parseDnsName depth payload dnsHeaderLen with
        | error panic => simp
        | ok answer =>
            cases answer with
            | none => simp
            | some found =>
                rw [ok_bind]
                by_cases htype : found.2 + 2 ≤ payload.length
                · simp (disch := omega) only [if_pos htype, index_eq_byteAt, ok_bind]
                  simp
                · simp [htype]
      · simp [AsksForName, hquestion]
  · have hempty : data.drop payloadOffset = [] :=
      List.drop_eq_nil_of_le (Nat.le_of_not_le hoffset)
    simp [if_neg hoffset, hempty, AsksForName, dnsHeaderLen]

/-- `parse_dns_name` returns at an offset exactly when the pointers from there
never come back to an offset, within a depth bounded by the length; `dissect_dns`
returns on a payload exactly when it asks for no name, or the pointers from the
name never come back. -/
theorem dns_returns_iff (data : Bytes) (offset : Nat) :
    ((∃ depth, Returns (parseDnsName depth data offset)) ↔ ¬ PointerCycle data offset) ∧
    (Returns (parseDnsName (data.length + 1) data offset) ↔ ¬ PointerCycle data offset) ∧
    ((∃ depth, Returns (dissectDns depth data offset)) ↔
      (AsksForName (data.drop offset) → ¬ PointerCycle (data.drop offset) dnsHeaderLen)) := by
  refine ⟨(parseDnsName_returns_iff data offset).1, (parseDnsName_returns_iff data offset).2, ?_⟩
  simp only [dissectDns_returns_iff_parse]
  by_cases hasks : AsksForName (data.drop offset)
  · simp only [hasks, forall_const]
    exact (parseDnsName_returns_iff _ dnsHeaderLen).1
  · simp [hasks]

example : dissectDns 1 [0xAB, 0xCD, 1, 0, 0, 1, 0, 0, 0, 0, 0, 0, 7, 101, 120, 97, 109, 112, 108,
    101, 3, 99, 111, 109, 0, 0, 1, 0, 1] 0 =
      .ok (some ⟨0xABCD, false, 1, 0, "example.com", 1⟩) := by
  decide

/-- A query whose name is a pointer to itself: no depth is enough. -/
theorem selfPointer_never_returns :
    ¬ ∃ depth, Returns
      (dissectDns depth [0, 0, 1, 0, 0, 1, 0, 0, 0, 0, 0, 0, 0xC0, 12, 0, 1, 0, 1] 0) := by
  rintro ⟨depth, hreturns⟩
  rw [dissectDns_returns_iff_parse] at hreturns
  have hparse := hreturns (by unfold AsksForName; decide)
  rw [parseDnsName_returns_iff_orbit] at hparse
  exact not_ends_of_revisits ⟨0, 1, 12, by decide, by decide, by decide⟩ ⟨depth, hparse⟩

end GeSensor.Dissectors
