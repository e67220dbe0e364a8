/-
  Foundation/Utf8Lossy.lean --- `String::from_utf8_lossy`.

  The decoder takes one byte at a time: it keeps what a sequence that has begun still
  needs, and puts U+FFFD for each longest beginning of a sequence that is not continued.
  A decoder that stops early has read a beginning of the text, except for one U+FFFD at
  the end.
-/
import GeSensor.Foundation.Checked
import GeSensor.Foundation.TextSearch

set_option autoImplicit false

namespace GeSensor.Foundation

/-- A sequence that has begun: its bits so far, the number of bytes to come, and the range
of the next one. -/
structure Utf8Pending where
  value : Nat
  owed : Nat
  low : UInt8
  high : UInt8
  deriving DecidableEq, Repr

def replacementChar : Char := '\uFFFD'

/-- The first byte of a sequence of two bytes or more. -/
def utf8Lead (byte : UInt8) : Option Utf8Pending :=
  if 0xC2 ≤ byte ∧ byte ≤ 0xDF then some ⟨byte.toNat - 0xC0, 1, 0x80, 0xBF⟩
  else if byte = 0xE0 then some ⟨0x0, 2, 0xA0, 0xBF⟩
  else if byte = 0xED then some ⟨0xD, 2, 0x80, 0x9F⟩
  else if 0xE1 ≤ byte ∧ byte ≤ 0xEF then some ⟨byte.toNat - 0xE0, 2, 0x80, 0xBF⟩
  else if byte = 0xF0 then some ⟨0, 3, 0x90, 0xBF⟩
  else if byte = 0xF4 then some ⟨4, 3, 0x80, 0x8F⟩
  else if 0xF1 ≤ byte ∧ byte ≤ 0xF3 then some ⟨byte.toNat - 0xF0, 3, 0x80, 0xBF⟩
  else none

/-- A byte between sequences: the characters that are complete, and what has begun. -/
def utf8First (byte : UInt8) : List Char × Option Utf8Pending :=
  if byte < 0x80 then ([Char.ofNat byte.toNat], none)
  else
    match utf8Lead byte with
    | some pending => ([], some pending)
    | none => ([replacementChar], none)

/-- The next byte. -/
def utf8Step (pending : Option Utf8Pending) (byte : UInt8) : List Char × Option Utf8Pending :=
  match pending with
  | none => utf8First byte
  | some ⟨value, owed, low, high⟩ =>
      if low ≤ byte ∧ byte ≤ high then
        let value := value * 0x40 + (byte.toNat - 0x80)
        if owed = 1 then ([Char.ofNat value], none)
        else ([], some ⟨value, owed - 1, 0x80, 0xBF⟩)
      else
        let (text, pending) := utf8First byte
        (replacementChar :: text, pending)

def utf8Run : Option Utf8Pending → Bytes → List Char × Option Utf8Pending
  | pending, [] => ([], pending)
  | pending, byte :: rest =>
      let (text, pending) := utf8Step pending byte
      let (more, pending) := utf8Run pending rest
      (text ++ more, pending)

/-- `String::from_utf8_lossy`. -/
def fromUtf8Lossy (bytes : Bytes) : List Char :=
  let (text, pending) := utf8Run none bytes
  if pending.isSome then text ++ [replacementChar] else text

/-- A run goes on where an earlier one has ended. -/
theorem utf8Run_append (pending : Option Utf8Pending) (left right : Bytes) :
    utf8Run pending (left ++ right) =
      ((utf8Run pending left).1 ++ (utf8Run (utf8Run pending left).2 right).1,
        (utf8Run (utf8Run pending left).2 right).2) := by
  induction left generalizing pending with
  | nil => rfl
  | cons byte left ih =>
      rw [List.cons_append]
      simp only [utf8Run, ih, List.append_assoc]

/-- The text before the last U+FFFD stays when more bytes come. -/
theorem utf8Run_prefix_fromUtf8Lossy (left right : Bytes) :
    (utf8Run none left).1 <+: fromUtf8Lossy (left ++ right) := by
  have hrun : (utf8Run none left).1 <+: (utf8Run none (left ++ right)).1 := by
    rw [utf8Run_append]
    exact List.prefix_append _ _
  unfold fromUtf8Lossy
  dsimp only
  split
  · exact hrun.trans (List.prefix_append _ _)
  · exact hrun

section

variable {pattern : List Char}

/-- A pattern found in what a read holds is found when more bytes come. -/
theorem infix_fromUtf8Lossy_append (hne : pattern ≠ []) (hpattern : replacementChar ∉ pattern)
    {left : Bytes} (right : Bytes) (h : pattern <:+: fromUtf8Lossy left) :
    pattern <:+: fromUtf8Lossy (left ++ right) := by
  refine List.IsInfix.trans ?_ (utf8Run_prefix_fromUtf8Lossy left right).isInfix
  unfold fromUtf8Lossy at h
  dsimp only at h
  split at h
  · rw [infix_append_separator_iff hne hpattern, List.infix_nil] at h
    exact h.resolve_right hne
  · exact h

theorem prefix_fromUtf8Lossy_append (hpattern : replacementChar ∉ pattern) {left : Bytes}
    (right : Bytes) (h : pattern <+: fromUtf8Lossy left) :
    pattern <+: fromUtf8Lossy (left ++ right) := by
  refine List.IsPrefix.trans ?_ (utf8Run_prefix_fromUtf8Lossy left right)
  unfold fromUtf8Lossy at h
  dsimp only at h
  split at h
  · exact (prefix_append_separator_iff hpattern).mp h
  · exact h

end

theorem length_fromUtf8Lossy_singleton (byte : UInt8) : (fromUtf8Lossy [byte]).length = 1 := by
  unfold fromUtf8Lossy
  simp only [utf8Run, utf8Step, utf8First]
  split
  · rfl
  · split <;> rfl

/-! ## Texts that are encoded and cut -/

/-- The bytes that complete a sequence, and the value that it has then. -/
inductive Completes : Utf8Pending → Bytes → Nat → Prop where
  | last {value : Nat} {low high byte : UInt8} (hrange : low ≤ byte ∧ byte ≤ high) :
      Completes ⟨value, 1, low, high⟩ [byte] (value * 0x40 + (byte.toNat - 0x80))
  | more {value owed total : Nat} {low high byte : UInt8} {rest : Bytes}
      (hrange : low ≤ byte ∧ byte ≤ high) (howed : 1 < owed)
      (hrest : Completes ⟨value * 0x40 + (byte.toNat - 0x80), owed - 1, 0x80, 0xBF⟩ rest total) :
      Completes ⟨value, owed, low, high⟩ (byte :: rest) total

/-- With its last byte the character is complete. -/
theorem Completes.run {pending : Utf8Pending} {bytes : Bytes} {total : Nat}
    (h : Completes pending bytes total) :
    utf8Run (some pending) bytes = ([Char.ofNat total], none) := by
  induction h with
  | last hrange => simp [utf8Run, utf8Step, hrange]
  | more hrange howed _ ih =>
      simp only [utf8Run, utf8Step, if_pos hrange, if_neg (Nat.ne_of_gt howed), ih]
      rfl

/-- Fewer bytes leave the sequence open. -/
theorem Completes.run_take {pending : Utf8Pending} {bytes : Bytes} {total : Nat}
    (h : Completes pending bytes total) {size : Nat} (hsize : size < bytes.length) :
    ∃ begun, utf8Run (some pending) (bytes.take size) = ([], some begun) := by
  induction h generalizing size with
  | last hrange =>
      obtain rfl : size = 0 := by
        rw [List.length_singleton] at hsize
        omega
      exact ⟨_, rfl⟩
  | more hrange howed _ ih =>
      cases size with
      | zero => exact ⟨_, rfl⟩
      | succ size =>
          obtain ⟨begun, hbegun⟩ := ih (Nat.lt_of_succ_lt_succ hsize)
          refine ⟨begun, ?_⟩
          simp only [List.take_succ_cons, utf8Run, utf8Step, if_pos hrange,
            if_neg (Nat.ne_of_gt howed), hbegun]
          rfl

/-- The first bytes of sequences of two, three and four bytes. -/
theorem utf8First_two : ∀ bits < 32, 2 ≤ bits →
    utf8First (.ofNat (bits % 0x20 + 0xC0)) = ([], some ⟨bits, 1, 0x80, 0xBF⟩) := by
  decide

theorem utf8First_three : ∀ bits < 16, utf8First (.ofNat (bits % 0x10 + 0xE0)) =
    ([], some ⟨bits, 2, if bits = 0 then 0xA0 else 0x80, if bits = 13 then 0x9F else 0xBF⟩) := by
  decide

theorem utf8First_four : ∀ bits < 5, utf8First (.ofNat (bits % 0x08 + 0xF0)) =
    ([], some ⟨bits, 3, if bits = 0 then 0x90 else 0x80, if bits = 4 then 0x8F else 0xBF⟩) := by
  decide

/-- The bytes behind the first one carry six bits each. -/
theorem toNat_continuation (bits : Nat) :
    (UInt8.ofNat (bits % 0x40 + 0x80)).toNat = bits % 0x40 + 0x80 :=
  UInt8.toNat_ofNat_of_lt' (by change _ < 256; omega)

theorem continuation_range {bits : Nat} {low high : UInt8} (hlow : low.toNat ≤ bits % 0x40 + 0x80)
    (hhigh : bits % 0x40 + 0x80 ≤ high.toNat) :
    low ≤ UInt8.ofNat (bits % 0x40 + 0x80) ∧ UInt8.ofNat (bits % 0x40 + 0x80) ≤ high := by
  rw [UInt8.le_iff_toNat_le, UInt8.le_iff_toNat_le, toNat_continuation]
  exact ⟨hlow, hhigh⟩

/-- The last two bytes of a sequence. -/
theorem Completes.lastByte {bits value : Nat} (h : value / 0x40 = bits) :
    Completes ⟨bits, 1, 0x80, 0xBF⟩ [.ofNat (value % 0x40 + 0x80)] value := by
  have hrange : 0x80 ≤ UInt8.ofNat (value % 0x40 + 0x80) ∧
      UInt8.ofNat (value % 0x40 + 0x80) ≤ 0xBF :=
    continuation_range (by change 0x80 ≤ _; omega) (by change _ ≤ 0xBF; omega)
  have hlast : Completes ⟨bits, 1, 0x80, 0xBF⟩ _ _ := .last hrange
  have htotal : bits * 0x40 + ((UInt8.ofNat (value % 0x40 + 0x80)).toNat - 0x80) = value := by
    rw [toNat_continuation]
    omega
  rwa [htotal] at hlast

theorem Completes.moreByte {bits value owed total : Nat} {low high : UInt8} {rest : Bytes}
    (hlow : low.toNat ≤ bits % 0x40 + 0x80) (hhigh : bits % 0x40 + 0x80 ≤ high.toNat)
    (howed : 1 < owed)
    (h : Completes ⟨value * 0x40 + bits % 0x40, owed - 1, 0x80, 0xBF⟩ rest total) :
    Completes ⟨value, owed, low, high⟩ (.ofNat (bits % 0x40 + 0x80) :: rest) total := by
  refine .more (continuation_range hlow hhigh) howed ?_
  rwa [toNat_continuation, Nat.add_sub_cancel]

/-- A character beyond ASCII is a first byte and the bytes that this one asks for. -/
theorem utf8EncodeChar_completes {char : Char} (h : 0x80 ≤ char.toNat) :
    ∃ lead pending tail, String.utf8EncodeChar char = lead :: tail ∧
      utf8First lead = ([], some pending) ∧ Completes pending tail char.toNat := by
  have hvalid : char.toNat < 0xD800 ∨ 0xDFFF < char.toNat ∧ char.toNat < 0x110000 := char.valid
  change 0x80 ≤ char.val.toNat at h
  change char.val.toNat < 0xD800 ∨ 0xDFFF < char.val.toNat ∧ char.val.toNat < 0x110000 at hvalid
  change ∃ lead pending tail, _ = lead :: tail ∧ _ ∧ Completes pending tail char.val.toNat
  unfold String.utf8EncodeChar
  generalize char.val.toNat = value at h hvalid
  dsimp only
  rw [if_neg (by omega)]
  split
  · exact ⟨_, _, _, rfl, utf8First_two (value / 64) (by omega) (by omega), .lastByte rfl⟩
  · split
    · refine ⟨_, _, _, rfl, utf8First_three (value / 4096) (by omega), ?_⟩
      refine .moreByte ?_ ?_ (by decide) (.lastByte (by omega))
      all_goals
        -- the bounds of the second byte keep out what is encoded shorter, and surrogates
        split
        all_goals
          simp only [UInt8.reduceToNat]
          omega
    · refine ⟨_, _, _, rfl, utf8First_four (value / 262144) (by omega), ?_⟩
      refine .moreByte ?_ ?_ (by decide) (.moreByte (by change 0x80 ≤ _; omega)
        (by change _ ≤ 0xBF; omega) (by decide) (.lastByte (by omega)))
      all_goals
        split
        all_goals
          simp only [UInt8.reduceToNat]
          omega

theorem utf8Run_encodeChar (char : Char) :
    utf8Run none (String.utf8EncodeChar char) = ([char], none) := by
  by_cases hascii : char.toNat < 0x80
  · have hencode : String.utf8EncodeChar char = [.ofNat char.toNat] :=
      if_pos (Nat.le_of_lt_succ hascii)
    have hvalue : (UInt8.ofNat char.toNat).toNat = char.toNat :=
      UInt8.toNat_ofNat_of_lt' (by change _ < 256; omega)
    have hbyte : UInt8.ofNat char.toNat < 0x80 := by
      rw [UInt8.lt_iff_toNat_lt, hvalue]
      exact hascii
    simp only [hencode, utf8Run, utf8Step, utf8First, if_pos hbyte, hvalue, Char.ofNat_toNat]
    rfl
  · obtain ⟨lead, pending, tail, hencode, hlead, hcomplete⟩ :=
      utf8EncodeChar_completes (Nat.le_of_not_lt hascii)
    simp only [hencode, utf8Run, utf8Step, hlead, hcomplete.run, Char.ofNat_toNat]
    rfl

theorem fromUtf8Lossy_encodeChar_append (char : Char) (bytes : Bytes) :
    fromUtf8Lossy (String.utf8EncodeChar char ++ bytes) = char :: fromUtf8Lossy bytes := by
  unfold fromUtf8Lossy
  rw [utf8Run_append, utf8Run_encodeChar]
  dsimp only
  split <;> rfl

theorem asBytes_ofList_cons (char : Char) (text : List Char) :
    asBytes (String.ofList (char :: text)) =
      String.utf8EncodeChar char ++ asBytes (String.ofList text) := by
  rw [← List.singleton_append, asBytes_ofList_append, asBytes, String.toByteArray_ofList,
    List.utf8Encode_singleton]
  simp

/-- The encoding of a text decodes to the text. -/
theorem fromUtf8Lossy_asBytes (text : List Char) :
    fromUtf8Lossy (asBytes (String.ofList text)) = text := by
  induction text with
  | nil => rfl
  | cons char text ih => rw [asBytes_ofList_cons, fromUtf8Lossy_encodeChar_append, ih]

/-- What a decoder that stops early has read of a text: its beginning, and U+FFFD for a
character that has been cut. -/
inductive LossyPrefix : List Char → List Char → Prop where
  | stop (text : List Char) : LossyPrefix [] text
  | cut {char : Char} (text : List Char) (hchar : 0x80 ≤ char.toNat) :
      LossyPrefix [replacementChar] (char :: text)
  | keep (char : Char) {read text : List Char} (h : LossyPrefix read text) :
      LossyPrefix (char :: read) (char :: text)

/-- A part of a character that is not all of it. -/
theorem fromUtf8Lossy_take_encodeChar {char : Char} {size : Nat} (hpos : 0 < size)
    (hsize : size < (String.utf8EncodeChar char).length) :
    0x80 ≤ char.toNat ∧
      fromUtf8Lossy ((String.utf8EncodeChar char).take size) = [replacementChar] := by
  by_cases hascii : char.toNat < 0x80
  · have hencode : String.utf8EncodeChar char = [.ofNat char.toNat] :=
      if_pos (Nat.le_of_lt_succ hascii)
    rw [hencode, List.length_singleton] at hsize
    omega
  · refine ⟨Nat.le_of_not_lt hascii, ?_⟩
    obtain ⟨lead, pending, tail, hencode, hlead, hcomplete⟩ :=
      utf8EncodeChar_completes (Nat.le_of_not_lt hascii)
    rw [hencode] at hsize ⊢
    obtain ⟨size, rfl⟩ := Nat.exists_eq_succ_of_ne_zero (Nat.ne_of_gt hpos)
    obtain ⟨begun, hbegun⟩ := hcomplete.run_take (Nat.lt_of_succ_lt_succ hsize)
    simp only [fromUtf8Lossy, List.take_succ_cons, utf8Run, utf8Step, hlead, hbegun]
    rfl

/-- A read of any size. -/
theorem lossyPrefix_take (text : List Char) (size : Nat) :
    LossyPrefix (fromUtf8Lossy ((asBytes (String.ofList text)).take size)) text := by
  induction text generalizing size with
  | nil =>
      have hnone : (asBytes (String.ofList [])).take size = [] := List.take_nil
      rw [hnone]
      exact .stop []
  | cons char text ih =>
      rw [asBytes_ofList_cons]
      by_cases hwhole : (String.utf8EncodeChar char).length ≤ size
      · rw [List.take_append, List.take_of_length_le hwhole, fromUtf8Lossy_encodeChar_append]
        exact .keep char (ih _)
      · rw [List.take_append_of_le_length (Nat.le_of_not_le hwhole)]
        cases size with
        | zero => exact .stop _
        | succ size =>
            obtain ⟨hchar, hcut⟩ :=
              fromUtf8Lossy_take_encodeChar (Nat.succ_pos size) (Nat.lt_of_not_le hwhole)
            rw [hcut]
            exact .cut text hchar

namespace LossyPrefix

variable {read text : List Char}

theorem refl : ∀ text : List Char, LossyPrefix text text
  | [] => .stop []
  | char :: text => .keep char (refl text)

/-- In a text in two parts, the decoder stops in the first one or gets to the second. -/
theorem of_append {left right : List Char} (h : LossyPrefix read (left ++ right)) :
    LossyPrefix read left ∨ ∃ more, read = left ++ more ∧ LossyPrefix more right := by
  induction left generalizing read with
  | nil => exact Or.inr ⟨read, rfl, h⟩
  | cons char left ih =>
      cases h with
      | stop => exact Or.inl (.stop _)
      | cut _ hchar => exact Or.inl (.cut _ hchar)
      | keep _ h =>
          rcases ih h with h | ⟨more, rfl, hmore⟩
          · exact Or.inl (.keep char h)
          · exact Or.inr ⟨more, rfl, hmore⟩

theorem length_le (h : LossyPrefix read text) : read.length ≤ text.length := by
  induction h with
  | stop => exact Nat.zero_le _
  | cut => exact Nat.succ_le_succ (Nat.zero_le _)
  | keep _ _ ih => exact Nat.succ_le_succ ih

theorem mem {char : Char} (h : LossyPrefix read text) (hmem : char ∈ read) :
    char ∈ text ∨ char = replacementChar := by
  induction h with
  | stop => exact absurd hmem List.not_mem_nil
  | cut => exact Or.inr (List.mem_singleton.mp hmem)
  | keep other _ ih =>
      rcases List.mem_cons.mp hmem with rfl | hmem
      · exact Or.inl List.mem_cons_self
      · exact (ih hmem).imp_left (List.mem_cons_of_mem _)

/-- The text is read to its end, or up to somewhere, or up to a character that is cut. -/
theorem prefix_or_cut (h : LossyPrefix read text) : read <+: text ∨
    ∃ front char rest, read = front ++ [replacementChar] ∧ text = front ++ char :: rest := by
  induction h with
  | stop => exact Or.inl List.nil_prefix
  | @cut char text => exact Or.inr ⟨[], char, text, rfl, rfl⟩
  | keep char _ ih =>
      rcases ih with hprefix | ⟨front, other, rest, rfl, rfl⟩
      · exact Or.inl (List.cons_prefix_cons.mpr ⟨rfl, hprefix⟩)
      · exact Or.inr ⟨char :: front, other, rest, rfl, rfl⟩

/-- No character of ASCII is cut. -/
theorem prefix_of_ascii (h : LossyPrefix read text) (htext : ∀ char ∈ text, char.toNat < 0x80) :
    read <+: text := by
  induction h with
  | stop => exact List.nil_prefix
  | cut text hchar => exact absurd (htext _ List.mem_cons_self) (Nat.not_lt.mpr hchar)
  | keep char _ ih =>
      exact List.cons_prefix_cons.mpr
        ⟨rfl, ih fun other hother => htext other (List.mem_cons_of_mem _ hother)⟩

/-- What the text has behind its first occurrence of a pattern is found if all of the text
has been read, and not else. -/
theorem findAfter_eq_iff {pattern after : List Char} (hne : pattern ≠ [])
    (hpattern : replacementChar ∉ pattern) (h : LossyPrefix read text)
    (hafter : findAfter text pattern = some after) :
    findAfter read pattern = some after ↔ read = text := by
  refine ⟨fun hread => ?_, fun heq => heq ▸ hafter⟩
  rcases h.prefix_or_cut with ⟨more, rfl⟩ | ⟨front, char, rest, rfl, rfl⟩
  · rw [findAfter_append_of_eq_some hne hread, Option.some.injEq,
      List.append_right_eq_self] at hafter
    rw [hafter, List.append_nil]
  · by_cases hfront : pattern <:+: front
    · obtain ⟨found, hfound⟩ := Option.isSome_iff_exists.mp (Option.isSome_iff_ne_none.mpr
        fun hnone => (findAfter_eq_none hne).mp hnone hfront)
      rw [findAfter_append_of_eq_some hne hfound, Option.some.injEq] at hread hafter
      have hsame := List.append_cancel_left (hread.trans hafter.symm)
      rw [hsame]
    · rw [findAfter_append_separator hne hpattern hfront, findAfter_eq_none hne |>.mpr
        fun hnil => hne (List.infix_nil.mp hnil)] at hread
      cases hread

end LossyPrefix

example : fromUtf8Lossy [0x47, 0xC3, 0xA9, 0xE2, 0x82, 0x20] = ['G', 'é', '\uFFFD', ' '] := by
  decide

end GeSensor.Foundation
