/-
  Dissectors/DnsGrammar.lean --- the grammar of DNS names, and what `parse_dns_name` accepts
  beyond it.

  `WellFormedName` is the grammar as a relation on the bytes, with no parser in sight: labels
  of 1 to 63 bytes, ended by a zero octet or by a pointer to a well-formed name.

  The loop takes every octet that is not zero and has not the top bits 11 for a length, also
  those with the top bits 01 and 10 (`Taken`), and it ignores it when the name behind a
  pointer is malformed.  It rejects what it should exactly where neither happens
  (`rejectsMalformed_iff`).
-/
import GeSensor.Dissectors.DnsNames

set_option autoImplicit false

namespace GeSensor.Dissectors

open GeSensor.Foundation

/-! ## The grammar -/

section

variable (data : Bytes) (offset : Nat)

/-- A zero octet. -/
def EndsAt : Prop := offset < data.length ∧ byteAt data offset = 0

/-- Two octets, the first with the top bits 11. -/
def PointsAt : Prop := offset + 1 < data.length ∧ byteAt data offset &&& 0xC0 = 0xC0

/-- The offset that a pointer leads to. -/
def targetAt : Nat := pointerValue (byteAt data offset) (byteAt data (offset + 1))

/-- An octet with the top bits 01 or 10. -/
def ReservedAt : Prop :=
  offset < data.length ∧
    (byteAt data offset &&& 0xC0 = 0x40 ∨ byteAt data offset &&& 0xC0 = 0x80)

/-- The offset behind the label at `offset`. -/
def behindLabel : Nat := offset + 1 + (byteAt data offset).toNat

end

/-- The bytes at an offset are a well-formed name. -/
inductive WellFormedName (data : Bytes) : Nat → Prop where
  | root {offset : Nat} : EndsAt data offset → WellFormedName data offset
  | pointer {offset : Nat} : PointsAt data offset → WellFormedName data (targetAt data offset) →
      WellFormedName data offset
  | label {offset : Nat} : 1 ≤ (byteAt data offset).toNat → (byteAt data offset).toNat ≤ 63 →
      behindLabel data offset ≤ data.length → WellFormedName data (behindLabel data offset) →
      WellFormedName data offset

/-! ## The walk of the loop -/

/-- What the loop takes for a label: neither zero nor a pointer, and inside the slice. -/
structure LabelAt (data : Bytes) (offset : Nat) : Prop where
  inside : behindLabel data offset ≤ data.length
  notZero : byteAt data offset ≠ 0
  notPointer : ¬ byteAt data offset &&& 0xC0 = 0xC0

/-- From an offset, `octets` are taken for lengths one after the other, up to `last`. -/
inductive Taken (data : Bytes) : List UInt8 → Nat → Nat → Prop where
  | nil {offset : Nat} : Taken data [] offset offset
  | cons {octets : List UInt8} {offset last : Nat} : LabelAt data offset →
      Taken data octets (behindLabel data offset) last →
      Taken data (byteAt data offset :: octets) offset last

/-- The loop stops here with a name. -/
def Terminal (data : Bytes) (offset : Nat) : Prop := EndsAt data offset ∨ PointsAt data offset

/-- The two top bits of an octet. -/
theorem top_bits (octet : UInt8) :
    (octet < 64 ∧ octet &&& 0xC0 = 0) ∨
      (¬ octet < 64 ∧ (octet &&& 0xC0 = 0x40 ∨ octet &&& 0xC0 = 0x80 ∨ octet &&& 0xC0 = 0xC0)) := by
  have hall : ∀ value : Fin 256,
      (UInt8.ofNat value < 64 ∧ UInt8.ofNat value &&& 0xC0 = 0) ∨
        (¬ UInt8.ofNat value < 64 ∧ (UInt8.ofNat value &&& 0xC0 = 0x40 ∨
          UInt8.ofNat value &&& 0xC0 = 0x80 ∨ UInt8.ofNat value &&& 0xC0 = 0xC0)) := by
    decide +kernel
  have hoctet := hall ⟨octet.toNat, octet.toNat_lt⟩
  rwa [UInt8.ofNat_toNat] at hoctet

section

variable {data : Bytes} {offset last other : Nat} {octets others : List UInt8}

/-- A label octet of 64 or more is a reserved one. -/
theorem LabelAt.reserved (h : LabelAt data offset) (hlarge : ¬ byteAt data offset < 64) :
    ReservedAt data offset := by
  have hinside := h.inside
  unfold behindLabel at hinside
  refine ⟨by omega, ?_⟩
  rcases top_bits (byteAt data offset) with ⟨hsmall, _⟩ | ⟨_, h01 | h10 | h11⟩
  · exact absurd hsmall hlarge
  · exact Or.inl h01
  · exact Or.inr h10
  · exact absurd h11 h.notPointer

theorem ReservedAt.not_small (h : ReservedAt data offset) : ¬ byteAt data offset < 64 := by
  intro hsmall
  rcases top_bits (byteAt data offset) with ⟨_, h00⟩ | ⟨hlarge, _⟩
  · rcases h.2 with h01 | h10
    · exact absurd (h00.symm.trans h01) (by decide)
    · exact absurd (h00.symm.trans h10) (by decide)
  · exact hlarge hsmall

theorem ReservedAt.not_terminal (h : ReservedAt data offset) : ¬ Terminal data offset := by
  rintro (⟨_, hzero⟩ | ⟨_, hpointer⟩)
  · exact h.not_small (hzero ▸ (by decide))
  · rcases h.2 with h01 | h10
    · exact absurd (hpointer.symm.trans h01) (by decide)
    · exact absurd (hpointer.symm.trans h10) (by decide)

theorem LabelAt.not_terminal (h : LabelAt data offset) : ¬ Terminal data offset := by
  rintro (hend | hpointer)
  · exact h.notZero hend.2
  · exact h.notPointer hpointer.2

/-- No walk leads on from where the loop stops. -/
theorem Taken.eq_of_terminal (h : Taken data octets offset last) (hstop : Terminal data offset) :
    last = offset := by
  cases h with
  | nil => rfl
  | cons hlabel _ => exact absurd hstop hlabel.not_terminal

/-- Of two walks from one offset, one continues the other. -/
theorem Taken.continues (hleft : Taken data octets offset last)
    (hright : Taken data others offset other) :
    (∃ more, others = octets ++ more ∧ Taken data more last other) ∨
      ∃ more, octets = others ++ more ∧ Taken data more other last := by
  induction hleft generalizing others with
  | nil => exact Or.inl ⟨others, rfl, hright⟩
  | cons hlabel hrest ih =>
      cases hright with
      | nil => exact Or.inr ⟨_, rfl, .cons hlabel hrest⟩
      | cons _ hotherRest =>
          rcases ih hotherRest with ⟨more, heq, hmore⟩ | ⟨more, heq, hmore⟩
          · exact Or.inl ⟨more, by rw [heq, List.cons_append], hmore⟩
          · exact Or.inr ⟨more, by rw [heq, List.cons_append], hmore⟩

/-- Labels of the grammar in front of a well-formed name. -/
theorem Taken.wellFormed (h : Taken data octets offset last)
    (hsmall : ∀ octet ∈ octets, octet < 64) (hname : WellFormedName data last) :
    WellFormedName data offset := by
  induction h with
  | nil => exact hname
  | cons hlabel _ ih =>
      have hlt := UInt8.lt_iff_toNat_lt.mp (hsmall _ List.mem_cons_self)
      have hpos := mt UInt8.toNat_inj.mp hlabel.notZero
      refine .label (Nat.pos_of_ne_zero hpos) (Nat.le_of_lt_succ hlt) hlabel.inside (ih ?_ hname)
      exact fun octet hmem => hsmall octet (List.mem_cons_of_mem _ hmem)

/-- A walk that is not made of labels of the grammar meets a reserved octet. -/
theorem Taken.exists_reserved (h : Taken data octets offset last)
    (hlarge : ¬ ∀ octet ∈ octets, octet < 64) :
    ∃ front middle, Taken data front offset middle ∧ (∀ octet ∈ front, octet < 64) ∧
      ReservedAt data middle := by
  induction h with
  | nil => exact absurd (by simp) hlarge
  | @cons rest offset last hlabel _ ih =>
      by_cases hsmall : byteAt data offset < 64
      · have hrest : ¬ ∀ octet ∈ rest, octet < 64 := by
          intro hrest
          exact hlarge (List.forall_mem_cons.mpr ⟨hsmall, hrest⟩)
        obtain ⟨front, middle, hfront, hfrontSmall, hreserved⟩ := ih hrest
        exact ⟨_, middle, .cons hlabel hfront, List.forall_mem_cons.mpr ⟨hsmall, hfrontSmall⟩,
          hreserved⟩
      · exact ⟨[], offset, .nil, by simp, hlabel.reserved hsmall⟩

/-! ## What the loop does on a walk -/

variable {follow : Nat → Checked (Option (String × Nat))} {left : Nat}

/-- Along a walk the loop only collects texts. -/
theorem Taken.nameLoop_eq (h : Taken data octets offset last) (hleft : octets.length ≤ left)
    (nameParts : List String) :
    ∃ parts, nameLoop follow data left offset nameParts =
      nameLoop follow data (left - octets.length) last parts := by
  induction h generalizing left nameParts with
  | nil => exact ⟨nameParts, rfl⟩
  | @cons octets offset last hlabel _ ih =>
      rw [List.length_cons] at hleft
      obtain ⟨fewer, rfl⟩ := Nat.exists_eq_add_of_le' hleft
      have hinside := hlabel.inside
      unfold behindLabel at hinside
      have hmore : octets.length ≤ fewer + octets.length := Nat.le_add_left _ _
      obtain ⟨parts, hrest⟩ := ih hmore (nameParts ++ [labelText (((data.drop (offset + 1)).take
        (offset + 1 + (byteAt data offset).toNat - (offset + 1))))])
      refine ⟨parts, ?_⟩
      rw [← Nat.add_assoc, nameLoop, if_neg (by omega), index_eq_byteAt (by omega), ok_bind,
        if_neg hlabel.notZero, if_neg hlabel.notPointer, if_neg (by omega),
        slice_eq_ok (Nat.le_add_right _ _) hinside, ok_bind]
      rw [List.length_cons, Nat.add_sub_add_right]
      exact hrest

/-- Where the loop stops it does not give up. -/
theorem Terminal.nameLoop_ne_none (h : Terminal data offset) (nameParts : List String) :
    nameLoop follow data (left + 1) offset nameParts ≠ .ok none := by
  rcases h with ⟨hinside, hzero⟩ | ⟨hinside, hpointer⟩
  · rw [nameLoop, if_neg (by omega), index_eq_byteAt hinside, ok_bind, if_pos hzero]
    simp
  · have hzero : byteAt data offset ≠ 0 := by
      intro hzero
      rw [hzero] at hpointer
      exact absurd hpointer (by decide)
    rw [nameLoop, if_neg (by omega), index_eq_byteAt (by omega), ok_bind, if_neg hzero,
      if_pos hpointer, if_neg (by omega), index_eq_byteAt hinside, ok_bind]
    cases follow (pointerValue (byteAt data offset) (byteAt data (offset + 1))) with
    | error panic => simp
    | ok answer =>
        cases answer with
        | none => simp
        | some found =>
            rw [ok_bind]
            dsimp only
            split <;> simp

/-- If no walk within the budget leads to where the loop stops, it gives up. -/
theorem nameLoop_eq_none (h : ∀ octets last, Taken data octets offset last →
    octets.length < left → ¬ Terminal data last) (nameParts : List String) :
    nameLoop follow data left offset nameParts = .ok none := by
  induction left generalizing offset nameParts with
  | zero => rw [nameLoop]
  | succ left ih =>
      have hhere : ¬ Terminal data offset := h [] offset .nil (Nat.succ_pos left)
      rw [nameLoop]
      by_cases hout : data.length ≤ offset
      · rw [if_pos hout]
      · rw [if_neg hout, index_eq_byteAt (Nat.lt_of_not_le hout), ok_bind]
        have hzero : byteAt data offset ≠ 0 := fun hzero =>
          hhere (Or.inl ⟨Nat.lt_of_not_le hout, hzero⟩)
        rw [if_neg hzero]
        by_cases hpointer : byteAt data offset &&& 0xC0 = 0xC0
        · have hcut : data.length ≤ offset + 1 := by
            by_contra hlow
            exact hhere (Or.inr ⟨Nat.lt_of_not_le hlow, hpointer⟩)
          rw [if_pos hpointer, if_pos hcut]
        · rw [if_neg hpointer]
          dsimp only
          by_cases hlong : data.length < offset + 1 + (byteAt data offset).toNat
          · rw [if_pos hlong]
          · have hlabel : LabelAt data offset := ⟨Nat.le_of_not_lt hlong, hzero, hpointer⟩
            rw [if_neg hlong, slice_eq_ok (Nat.le_add_right _ _) (Nat.le_of_not_lt hlong), ok_bind]
            apply ih
            intro octets last hrest hcount
            exact h _ last (.cons hlabel hrest) (Nat.succ_lt_succ hcount)

end

/-! ## Rejecting malformed names -/

/-- The parser gives up on the name at the offset. -/
def YieldsNone (data : Bytes) (offset : Nat) : Prop :=
  Settles (fun depth => parseDnsName depth data offset) none

/-- Only well-formed names are accepted; a reserved length octet behind labels, and a pointer
to anything but a well-formed name, make the parser give up. -/
structure RejectsMalformed (data : Bytes) (offset : Nat) : Prop where
  sound : ∀ depth answer, parseDnsName depth data offset = .ok (some answer) →
    WellFormedName data offset
  reserved : ∀ octets last, Taken data octets offset last → (∀ octet ∈ octets, octet < 64) →
    ReservedAt data last → YieldsNone data offset
  pointer : ∀ octets last, Taken data octets offset last → (∀ octet ∈ octets, octet < 64) →
    PointsAt data last → ¬ WellFormedName data (targetAt data last) → YieldsNone data offset

/-- Wherever the loop stops with a name within its budget, it has passed labels of the grammar
only, and a pointer leads to a well-formed name. -/
def StopsInGrammar (data : Bytes) (offset : Nat) : Prop :=
  ∀ octets last, Taken data octets offset last → octets.length ≤ maxJumps → Terminal data last →
    (∀ octet ∈ octets, octet < 64) ∧
      (PointsAt data last → WellFormedName data (targetAt data last))

section

variable {data : Bytes} {offset last : Nat} {octets : List UInt8}

/-- A name that the loop stops with is not given up. -/
theorem Taken.not_yieldsNone (h : Taken data octets offset last)
    (hbudget : octets.length ≤ maxJumps) (hstop : Terminal data last) :
    ¬ YieldsNone data offset := by
  rintro ⟨depth, hnone⟩
  have hparse : parseDnsName (depth + 1) data offset = .ok none := hnone _ (Nat.le_succ depth)
  obtain ⟨parts, hwalk⟩ : ∃ parts,
      nameLoop (parseDnsName depth data) data (maxJumps + 1) offset [] =
        nameLoop (parseDnsName depth data) data (maxJumps + 1 - octets.length) last parts :=
    h.nameLoop_eq (Nat.le_succ_of_le hbudget) []
  have hturns : maxJumps + 1 - octets.length = maxJumps - octets.length + 1 :=
    Nat.succ_sub hbudget
  rw [parseDnsName, hwalk, hturns] at hparse
  exact hstop.nameLoop_ne_none parts hparse

theorem yieldsNone_of_no_stop (h : ∀ octets last, Taken data octets offset last →
    octets.length ≤ maxJumps → ¬ Terminal data last) : YieldsNone data offset := by
  apply Settles.of_add 1
  intro depth
  exact nameLoop_eq_none (fun octets last htaken hcount =>
    h octets last htaken (Nat.le_of_lt_succ hcount)) []

/-- Every accepted name has been stopped at. -/
theorem exists_stop_of_some {depth : Nat} {answer : String × Nat}
    (h : parseDnsName depth data offset = .ok (some answer)) :
    ∃ octets last, Taken data octets offset last ∧ octets.length ≤ maxJumps ∧
      Terminal data last := by
  by_contra hnone
  push Not at hnone
  cases depth with
  | zero => cases h
  | succ depth =>
      have hloop : nameLoop (parseDnsName depth data) data (maxJumps + 1) offset [] = .ok none :=
        nameLoop_eq_none (fun octets last htaken hcount =>
          hnone octets last htaken (Nat.le_of_lt_succ hcount)) []
      rw [parseDnsName, hloop] at h
      cases h

/-- Behind labels of the grammar a walk to a stop meets no reserved octet. -/
theorem StopsInGrammar.yieldsNone_of_reserved (h : StopsInGrammar data offset)
    (htaken : Taken data octets offset last) (hreserved : ReservedAt data last) :
    YieldsNone data offset := by
  apply yieldsNone_of_no_stop
  intro others other hother hbudget hstop
  obtain ⟨hsmall, _⟩ := h others other hother hbudget hstop
  rcases htaken.continues hother with ⟨more, hothers, hmore⟩ | ⟨more, _, hmore⟩
  · cases hmore with
    | nil => exact hreserved.not_terminal hstop
    | cons _ _ =>
        apply hreserved.not_small
        apply hsmall
        rw [hothers]
        exact List.mem_append_right octets List.mem_cons_self
  · rw [hmore.eq_of_terminal hstop] at hreserved
    exact hreserved.not_terminal hstop

theorem StopsInGrammar.yieldsNone_of_pointer (h : StopsInGrammar data offset)
    (htaken : Taken data octets offset last) (hpoints : PointsAt data last)
    (htarget : ¬ WellFormedName data (targetAt data last)) : YieldsNone data offset := by
  apply yieldsNone_of_no_stop
  intro others other hother hbudget hstop
  obtain ⟨_, hname⟩ := h others other hother hbudget hstop
  have hsame : other = last := by
    rcases htaken.continues hother with ⟨more, _, hmore⟩ | ⟨more, _, hmore⟩
    · exact hmore.eq_of_terminal (Or.inr hpoints)
    · exact (hmore.eq_of_terminal hstop).symm
  rw [hsame] at hname
  exact htarget (hname hpoints)

end

/-- Malformed names are rejected exactly when the loop stops in the grammar: whenever at most
ten octets that are neither zero nor pointers, taken for lengths inside the slice, lead to a
zero octet or to a pointer, they are all at most 63 and the pointer leads to a well-formed
name. -/
theorem rejectsMalformed_iff (data : Bytes) (offset : Nat) :
    RejectsMalformed data offset ↔ StopsInGrammar data offset := by
  constructor
  · intro h octets last htaken hbudget hstop
    have haccepted := htaken.not_yieldsNone hbudget hstop
    have hsmall : ∀ octet ∈ octets, octet < 64 := by
      by_contra hlarge
      obtain ⟨front, middle, hfront, hfrontSmall, hreserved⟩ := htaken.exists_reserved hlarge
      exact haccepted (h.reserved front middle hfront hfrontSmall hreserved)
    refine ⟨hsmall, fun hpoints => ?_⟩
    by_contra htarget
    exact haccepted (h.pointer octets last htaken hsmall hpoints htarget)
  · intro h
    refine ⟨?_, ?_, ?_⟩
    · intro depth answer hparse
      obtain ⟨octets, last, htaken, hbudget, hstop⟩ := exists_stop_of_some hparse
      obtain ⟨hsmall, htarget⟩ := h octets last htaken hbudget hstop
      apply htaken.wellFormed hsmall
      rcases hstop with hend | hpoints
      · exact .root hend
      · exact .pointer hpoints (htarget hpoints)
    · intro octets last htaken _ hreserved
      exact h.yieldsNone_of_reserved htaken hreserved
    · intro octets last htaken _ hpoints htarget
      exact h.yieldsNone_of_pointer htaken hpoints htarget

/-- A pointer out of the slice is accepted as the empty name. -/
theorem pointer_out_of_range_accepted : ¬ RejectsMalformed [0xC0, 5] 0 := by
  intro h
  have hname := h.sound 2 ("", 2) (by decide)
  cases hname with
  | root hend => exact absurd hend.2 (by decide)
  | label _ hshort _ _ => exact absurd hshort (by decide)
  | pointer _ htarget =>
      have hinside : targetAt [0xC0, 5] 0 < ([0xC0, 5] : Bytes).length := by
        cases htarget with
        | root hend => exact hend.1
        | pointer hpoints _ => exact Nat.lt_of_succ_lt hpoints.1
        | label _ _ hinside _ =>
            unfold behindLabel at hinside
            omega
      exact absurd hinside (by decide)

end GeSensor.Dissectors
