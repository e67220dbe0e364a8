/-
  Dissectors/DnsPointers.lean --- names that end in a compression pointer.

  A compressed name ends behind the two bytes of its pointer, wherever the pointer leads.
  The loop moves the offset over the pointer only if no jump has been counted yet, and it
  counts labels as jumps: with a label in front of the pointer the name is right and its end
  is two bytes short, so that the query type is read from the pointer itself.
-/
import GeSensor.Dissectors.DnsNames

set_option autoImplicit false

namespace GeSensor.Dissectors

open GeSensor.Foundation
open GeSensor.Net

/-! ## The pointer -/

/-- The first octet of a pointer: its top bits, and the high bits of the offset. -/
theorem pointer_octet (high : Fin 64) :
    UInt8.ofNat (0xC0 + high) ≠ 0 ∧ UInt8.ofNat (0xC0 + high) &&& 0xC0 = 0xC0 ∧
      (UInt8.ofNat (0xC0 + high) &&& 0x3F).toNat = high := by
  revert high
  decide

/-- A pointer is read as the offset it was made of. -/
theorem pointerValue_encode (target : Fin (2 ^ 14)) :
    pointerValue (.ofNat (0xC0 + target / 2 ^ 8)) (.ofNat (target % 2 ^ 8)) = target := by
  have hlt := target.isLt
  have hhigh := (pointer_octet ⟨target / 2 ^ 8, by omega⟩).2.2
  have hlow : (UInt8.ofNat (target % 2 ^ 8)).toNat = target % 2 ^ 8 :=
    UInt8.toNat_ofNat_of_lt' (Nat.mod_lt _ (by decide))
  dsimp only at hhigh
  rw [pointerValue, hhigh, hlow,
    ← Nat.shiftLeft_add_eq_or_of_lt (Nat.mod_lt _ (by decide : 0 < 2 ^ 8)), Nat.shiftLeft_eq]
  exact Nat.div_add_mod' _ _

section

variable {follow : Nat → Checked (Option (String × Nat))} {data rest : Bytes}
  {left offset : Nat} {target : Fin (2 ^ 14)}

/-- The turn of the loop that meets a pointer to a name. -/
theorem nameLoop_pointer (h : data.drop offset = encodePointer target ++ rest) {text : String}
    {targetEnd : Nat} (hfollow : follow target = .ok (some (text, targetEnd)))
    (nameParts : List String) :
    nameLoop follow data (left + 1) offset nameParts =
      .ok (some (".".intercalate (nameParts ++ [text]),
        if left = maxJumps then offset + 2 else offset)) := by
  have hlt := target.isLt
  obtain ⟨hzero, hpointer, _⟩ := pointer_octet ⟨target / 2 ^ 8, by omega⟩
  have hoctet : data.drop offset =
      UInt8.ofNat (0xC0 + target / 2 ^ 8) :: (UInt8.ofNat (target % 2 ^ 8) :: rest) := h
  have hlow : data.drop (offset + 1) = UInt8.ofNat (target % 2 ^ 8) :: rest := by
    rw [← List.drop_drop, hoctet]
    rfl
  have hlength := length_of_drop hlow
  rw [nameLoop, if_neg (by omega), index_eq_byteAt (by omega), ok_bind, byteAt_of_drop hoctet,
    if_neg hzero, if_pos hpointer, if_neg (by omega), index_eq_byteAt (by omega), ok_bind,
    byteAt_of_drop hlow, pointerValue_encode, hfollow, ok_bind]
  cases nameParts with
  | nil => rw [List.nil_append, String.intercalate_singleton]; rfl
  | cons part parts => rfl

end

/-! ## Compressed questions -/

/-- The question name of a message is `labels` and a pointer to the uncompressed name
`targetLabels`. -/
structure CompressedQuestion (payload : Bytes) (labels : List DnsLabel) (target : Fin (2 ^ 14))
    (targetLabels : List DnsLabel) : Prop where
  few : labels.length ≤ 9
  question : ∃ rest,
    payload.drop dnsHeaderLen = encodeLabels labels ++ (encodePointer target ++ rest)
  notRoot : targetLabels ≠ []
  targetFew : targetLabels.length ≤ 10
  atTarget : ∃ rest, payload.drop target = encodeName targetLabels ++ rest

/-- The offset behind the two bytes of the pointer. -/
def behindPointer (labels : List DnsLabel) : Nat :=
  dnsHeaderLen + (encodeLabels labels).length + 2

/-- The name is read whole and ends behind its pointer, where the query type is read. -/
structure EndsBehindPointer (payload : Bytes) (labels targetLabels : List DnsLabel) : Prop where
  parsed : Settles (fun depth => parseDnsName depth payload dnsHeaderLen)
    (some (joinLabels (labels ++ targetLabels), behindPointer labels))
  dissected : AsksForName payload → behindPointer labels + 2 ≤ payload.length →
    Settles (fun depth => dissectDns depth payload 0)
      (some { headerInfo payload with
        queryName := joinLabels (labels ++ targetLabels)
        queryType := be16At payload (behindPointer labels) })

/-- Joining a joined name is joining its labels. -/
theorem intercalate_joinLabels (labels : List DnsLabel) {targetLabels : List DnsLabel}
    (h : targetLabels ≠ []) :
    ".".intercalate (labels.map DnsLabel.text ++ [joinLabels targetLabels]) =
      joinLabels (labels ++ targetLabels) := by
  have hparts : targetLabels.map DnsLabel.text ≠ [] := fun hnil => h (List.map_eq_nil_iff.mp hnil)
  cases labels with
  | nil => exact String.intercalate_singleton
  | cons label rest =>
      have hfront : (label :: rest).map DnsLabel.text ≠ [] := List.cons_ne_nil _ _
      rw [joinLabels, joinLabels, List.map_append,
        String.intercalate_append_of_ne_nil hfront (List.cons_ne_nil _ _),
        String.intercalate_singleton, String.intercalate_append_of_ne_nil hfront hparts]

/-- What the parser returns: the end is moved over the pointer only without labels. -/
theorem parseDnsName_compressed {payload : Bytes} {labels targetLabels : List DnsLabel}
    {target : Fin (2 ^ 14)} (h : CompressedQuestion payload labels target targetLabels) :
    Settles (fun depth => parseDnsName depth payload dnsHeaderLen)
      (some (joinLabels (labels ++ targetLabels),
        if labels = [] then behindPointer labels
        else dnsHeaderLen + (encodeLabels labels).length)) := by
  obtain ⟨rest, hquestion⟩ := h.question
  obtain ⟨more, htarget⟩ := h.atTarget
  have hfew := h.few
  apply Settles.of_add 2
  intro depth
  have hpointer := drop_add_of_drop _ hquestion rfl
  have hturns : maxJumps + 1 - labels.length = maxJumps - labels.length + 1 :=
    Nat.succ_sub (hfew.trans (by decide))
  have hfirst : maxJumps - labels.length = maxJumps ↔ labels = [] := by
    rw [← List.length_eq_zero_iff]
    unfold maxJumps
    omega
  show nameLoop (parseDnsName (depth + 1) payload) payload (maxJumps + 1) dnsHeaderLen [] = _
  rw [nameLoop_labels labels (hfew.trans (by decide)) hquestion, hturns,
    nameLoop_pointer hpointer (parseDnsName_name h.targetFew htarget depth), List.nil_append,
    intercalate_joinLabels labels h.notRoot]
  simp only [hfirst, behindPointer]

/-- A compressed name ends behind its pointer exactly when no label stands before it. -/
theorem endsBehindPointer_iff {payload : Bytes} {labels targetLabels : List DnsLabel}
    {target : Fin (2 ^ 14)} (h : CompressedQuestion payload labels target targetLabels) :
    EndsBehindPointer payload labels targetLabels ↔ labels = [] := by
  have hparse := parseDnsName_compressed h
  constructor
  · intro hends
    by_contra hlabels
    rw [if_neg hlabels] at hparse
    have hend := congrArg Prod.snd (Option.some.inj (hparse.unique hends.parsed))
    simp only [behindPointer] at hend
    omega
  · intro hlabels
    rw [if_pos hlabels] at hparse
    refine ⟨hparse, fun hasks hroom => ?_⟩
    have hdissect := hparse.dissect (getFrom?_append [] payload) hasks
    rwa [namedInfo, if_pos hroom] at hdissect

/-- `a` and a pointer to `com`, which stands behind the question. -/
def compressedQuery : Bytes :=
  queryHeader.encode ++ [1, 97, 0xC0, 20, 0, 1, 0, 1, 3, 99, 111, 109, 0]

def labelA : DnsLabel := ⟨"a", by decide, by decide⟩

theorem compressedQuery_compressed :
    CompressedQuestion compressedQuery [labelA] 20 [labelCom] where
  few := by decide
  question := ⟨[0, 1, 0, 1, 3, 99, 111, 109, 0], by decide⟩
  notRoot := List.cons_ne_nil _ _
  targetFew := by decide
  atTarget := ⟨[], by decide⟩

theorem endsBehindPointer_iff_compressedQuery :
    EndsBehindPointer compressedQuery [labelA] [labelCom] ↔ [labelA] = [] :=
  endsBehindPointer_iff compressedQuery_compressed

/-- The query type of `a.com` is read from the pointer. -/
theorem compressedQuery_ends_early :
    ¬ EndsBehindPointer compressedQuery [labelA] [labelCom] := by
  intro hends
  have hparse := parseDnsName_compressed compressedQuery_compressed
  have hend := congrArg Prod.snd (Option.some.inj (hparse.unique hends.parsed))
  exact absurd hend (by decide)

end GeSensor.Dissectors
