/-
  Foundation/PercentEncoding.lean --- the percent encoding of URI components.

  `encodeURIComponent` leaves letters, digits and nine marks alone, and writes every
  other character as the bytes of its UTF-8 encoding, each as a percent sign and two
  hexadecimal digits.  A text is its own encoding exactly when all its characters
  are left alone, and an encoding that is cut can be the text in one more case.
-/
set_option autoImplicit false

namespace GeSensor.Foundation

/-- The characters that are left alone. -/
def isUnreserved (char : Char) : Bool :=
  char.isAlphanum || "-_.!~*'()".toList.contains char

/-- An upper-case hexadecimal digit. -/
def hexDigit (value : Nat) : Char := "0123456789ABCDEF".toList.getD value '0'

def percentEncodeByte (byte : UInt8) : List Char :=
  ['%', hexDigit (byte.toNat / 16), hexDigit (byte.toNat % 16)]

def percentEncodeChar (char : Char) : List Char :=
  if isUnreserved char then [char]
  else (String.utf8EncodeChar char).flatMap percentEncodeByte

/-- `encodeURIComponent(text)`. -/
def encodeURIComponent (text : List Char) : List Char := text.flatMap percentEncodeChar

/-! ## The characters of an encoding -/

/-- Letters and digits are printable ASCII. -/
theorem range_of_isAlphanum {char : Char} (h : char.isAlphanum = true) :
    0x30 ≤ char.toNat ∧ char.toNat ≤ 0x7A := by
  have hrange : ∀ {low high : Char}, low.val ≤ char.val → char.val ≤ high.val →
      low.toNat ≤ char.toNat ∧ char.toNat ≤ high.toNat := fun hlow hhigh =>
    ⟨UInt32.le_iff_toNat_le.mp hlow, UInt32.le_iff_toNat_le.mp hhigh⟩
  rcases Bool.or_eq_true_iff.mp h with halpha | hdigit
  · rcases Bool.or_eq_true_iff.mp halpha with hupper | hlower
    · obtain ⟨hlow, hhigh⟩ := of_decide_eq_true hupper
      have hletter : 0x41 ≤ char.toNat ∧ char.toNat ≤ 0x5A := hrange hlow hhigh
      omega
    · obtain ⟨hlow, hhigh⟩ := Bool.and_eq_true_iff.mp hlower
      have hletter : 0x61 ≤ char.toNat ∧ char.toNat ≤ 0x7A :=
        hrange (of_decide_eq_true hlow) (of_decide_eq_true hhigh)
      omega
  · obtain ⟨hlow, hhigh⟩ := Bool.and_eq_true_iff.mp hdigit
    have hfigure : 0x30 ≤ char.toNat ∧ char.toNat ≤ 0x39 :=
      hrange (of_decide_eq_true hlow) (of_decide_eq_true hhigh)
    omega

/-- So is everything that is left alone. -/
theorem range_of_isUnreserved {char : Char} (h : isUnreserved char = true) :
    0x21 ≤ char.toNat ∧ char.toNat ≤ 0x7E := by
  have hmarks : "-_.!~*'()".toList.all
      (fun mark => decide (0x21 ≤ mark.toNat ∧ mark.toNat ≤ 0x7E)) = true := by decide
  rcases Bool.or_eq_true_iff.mp h with halphanum | hmark
  · obtain ⟨hlow, hhigh⟩ := range_of_isAlphanum halphanum
    omega
  · exact of_decide_eq_true
      (List.all_eq_true.mp hmarks char (List.contains_iff_mem.mp hmark))

theorem isUnreserved_hexDigit (value : Nat) : isUnreserved (hexDigit value) = true := by
  have hdigits : "0123456789ABCDEF".toList.all isUnreserved = true := by decide
  unfold hexDigit
  rw [List.getD_eq_getElem?_getD]
  cases h : "0123456789ABCDEF".toList[value]? with
  | none => decide
  | some digit => exact List.all_eq_true.mp hdigits digit (List.mem_of_getElem? h)

/-- An encoding is made of percent signs and characters that are left alone. -/
theorem mem_encodeURIComponent {text : List Char} {char : Char}
    (h : char ∈ encodeURIComponent text) : char = '%' ∨ isUnreserved char = true := by
  obtain ⟨source, _, hchar⟩ := List.mem_flatMap.mp h
  unfold percentEncodeChar at hchar
  split at hchar
  · rename_i hleft
    exact Or.inr (List.mem_singleton.mp hchar ▸ hleft)
  · obtain ⟨byte, _, hbyte⟩ := List.mem_flatMap.mp hchar
    simp only [percentEncodeByte, List.mem_cons, List.not_mem_nil, or_false] at hbyte
    rcases hbyte with rfl | rfl | rfl
    · exact Or.inl rfl
    · exact Or.inr (isUnreserved_hexDigit _)
    · exact Or.inr (isUnreserved_hexDigit _)

/-! ## Texts that are their own encoding -/

/-- A character that is not left alone gets longer. -/
theorem length_percentEncodeChar (char : Char) :
    (percentEncodeChar char).length = if isUnreserved char then 1
      else 3 * (String.utf8EncodeChar char).length := by
  unfold percentEncodeChar
  split
  · rfl
  · simp [percentEncodeByte, List.length_flatMap, List.map_const', Nat.mul_comm]

theorem encodeURIComponent_cons (char : Char) (text : List Char) :
    encodeURIComponent (char :: text) = percentEncodeChar char ++ encodeURIComponent text :=
  List.flatMap_cons

theorem length_pos_utf8EncodeChar (char : Char) : 0 < (String.utf8EncodeChar char).length :=
  List.length_pos_iff.mpr String.utf8EncodeChar_ne_nil

theorem length_le_encodeURIComponent (text : List Char) :
    text.length ≤ (encodeURIComponent text).length := by
  induction text with
  | nil => exact Nat.le_refl 0
  | cons char text ih =>
      have hchar := length_pos_utf8EncodeChar char
      rw [encodeURIComponent_cons, List.length_append, length_percentEncodeChar, List.length_cons]
      split <;> omega

theorem encodeURIComponent_eq_self_iff (text : List Char) :
    encodeURIComponent text = text ↔ ∀ char ∈ text, isUnreserved char = true := by
  induction text with
  | nil => simp [encodeURIComponent]
  | cons char text ih =>
      rw [List.forall_mem_cons, ← ih, encodeURIComponent_cons]
      by_cases hleft : isUnreserved char = true
      · rw [percentEncodeChar, if_pos hleft, List.singleton_append, List.cons.injEq]
        exact and_congr_left fun _ => iff_of_true rfl hleft
      · refine iff_of_false (fun heq => ?_) fun h => hleft h.1
        have hlength := congrArg List.length heq
        have hrest := length_le_encodeURIComponent text
        have hchar := length_pos_utf8EncodeChar char
        rw [List.length_append, length_percentEncodeChar, if_neg hleft, List.length_cons] at hlength
        omega

/-- An encoding of something is not empty. -/
theorem encodeURIComponent_ne_nil {text : List Char} (h : text ≠ []) :
    encodeURIComponent text ≠ [] := by
  have hlength := length_le_encodeURIComponent text
  have htext := List.length_pos_iff.mpr h
  exact List.length_pos_iff.mp (by omega)

/-! ## Texts that begin their own encoding -/

/-- `252525..`, which is how the encodings of percent signs go on. -/
def encodedPercents (count : Nat) : List Char := (List.replicate count ['2', '5']).flatten

theorem encodedPercents_succ (count : Nat) :
    encodedPercents (count + 1) = '2' :: '5' :: encodedPercents count := rfl

/-- The encoding of a character that is not left alone begins with a percent sign. -/
theorem percentEncodeChar_of_reserved {char : Char} (h : ¬ isUnreserved char = true) :
    ∃ digits, percentEncodeChar char = '%' :: digits := by
  obtain ⟨byte, bytes, hbytes⟩ := List.exists_cons_of_ne_nil
    (String.utf8EncodeChar_ne_nil : String.utf8EncodeChar char ≠ [])
  refine ⟨hexDigit (byte.toNat / 16) :: hexDigit (byte.toNat % 16) ::
    bytes.flatMap percentEncodeByte, ?_⟩
  rw [percentEncodeChar, if_neg h, hbytes]
  rfl

theorem encodeURIComponent_percent (text : List Char) :
    encodeURIComponent ('%' :: text) = '%' :: '2' :: '5' :: encodeURIComponent text := by
  have hpercent : percentEncodeChar '%' = ['%', '2', '5'] := by decide
  rw [encodeURIComponent_cons, hpercent]
  rfl

theorem encodeURIComponent_digits (text : List Char) :
    encodeURIComponent ('2' :: '5' :: text) = '2' :: '5' :: encodeURIComponent text := rfl

/-- A percent sign begins its encoding, and all that follows it in the text has to be
what an encoded percent sign goes on with. -/
theorem prefix_digits : ∀ {tail : List Char}, tail <+: '2' :: '5' :: encodeURIComponent tail →
    ∃ count, tail <+: encodedPercents count
  | [], _ => ⟨0, List.nil_prefix⟩
  | [first], h => by
      obtain ⟨rfl, -⟩ := List.cons_prefix_cons.mp h
      exact ⟨1, ['5'], rfl⟩
  | first :: second :: rest, h => by
      obtain ⟨rfl, h⟩ := List.cons_prefix_cons.mp h
      obtain ⟨rfl, h⟩ := List.cons_prefix_cons.mp h
      rw [encodeURIComponent_digits] at h
      obtain ⟨count, hcount⟩ := prefix_digits h
      refine ⟨count + 1, ?_⟩
      rw [encodedPercents_succ]
      exact List.cons_prefix_cons.mpr ⟨rfl, List.cons_prefix_cons.mpr ⟨rfl, hcount⟩⟩

theorem prefix_digits_of_prefix {count : Nat} {tail : List Char}
    (h : tail <+: encodedPercents count) : tail <+: '2' :: '5' :: encodeURIComponent tail := by
  induction count generalizing tail with
  | zero =>
      obtain rfl := List.prefix_nil.mp h
      exact List.nil_prefix
  | succ count ih =>
      rw [encodedPercents_succ] at h
      rcases List.prefix_cons_iff.mp h with rfl | ⟨behind, rfl, hbehind⟩
      · exact List.nil_prefix
      · rcases List.prefix_cons_iff.mp hbehind with rfl | ⟨rest, rfl, hrest⟩
        · exact ⟨'5' :: encodeURIComponent ['2'], rfl⟩
        · rw [encodeURIComponent_digits]
          exact List.cons_prefix_cons.mpr ⟨rfl, List.cons_prefix_cons.mpr ⟨rfl, ih hrest⟩⟩

/-- What a text that begins its own encoding, and is not it, looks like. -/
def BeginsAtPercent (text : List Char) : Prop :=
  ∃ front tail count, text = front ++ '%' :: tail ∧ (∀ char ∈ front, isUnreserved char = true) ∧
    tail <+: encodedPercents count

theorem prefix_encodeURIComponent_iff (text : List Char) :
    text <+: encodeURIComponent text ↔
      (∀ char ∈ text, isUnreserved char = true) ∨ BeginsAtPercent text := by
  induction text with
  | nil => exact iff_of_true List.nil_prefix (Or.inl (List.forall_mem_nil _))
  | cons char text ih =>
      by_cases hleft : isUnreserved char = true
      · have hencode : encodeURIComponent (char :: text) = char :: encodeURIComponent text := by
          rw [encodeURIComponent_cons, percentEncodeChar, if_pos hleft, List.singleton_append]
        rw [hencode, List.prefix_cons_inj, ih, List.forall_mem_cons, and_iff_right hleft]
        refine or_congr_right ⟨?_, ?_⟩
        · rintro ⟨front, tail, count, rfl, hfront, htail⟩
          exact ⟨char :: front, tail, count, rfl, List.forall_mem_cons.mpr ⟨hleft, hfront⟩, htail⟩
        · rintro ⟨front, tail, count, htext, hfront, htail⟩
          cases front with
          | nil =>
              obtain ⟨rfl, -⟩ := List.cons.inj htext
              exact absurd hleft (by decide)
          | cons other front =>
              obtain ⟨rfl, rfl⟩ := List.cons.inj htext
              exact ⟨front, tail, count, rfl, (List.forall_mem_cons.mp hfront).2, htail⟩
      · rw [or_iff_right fun h => hleft (h char List.mem_cons_self)]
        constructor
        · intro hprefix
          obtain ⟨digits, hdigits⟩ := percentEncodeChar_of_reserved hleft
          have hpercent := hprefix
          rw [encodeURIComponent_cons, hdigits] at hpercent
          obtain ⟨rfl, -⟩ := List.cons_prefix_cons.mp hpercent
          rw [encodeURIComponent_percent, List.prefix_cons_inj] at hprefix
          obtain ⟨count, hcount⟩ := prefix_digits hprefix
          exact ⟨[], text, count, rfl, List.forall_mem_nil _, hcount⟩
        · rintro ⟨front, tail, count, htext, hfront, htail⟩
          cases front with
          | nil =>
              obtain ⟨rfl, rfl⟩ := List.cons.inj htext
              rw [encodeURIComponent_percent, List.prefix_cons_inj]
              exact prefix_digits_of_prefix htail
          | cons other front =>
              obtain ⟨rfl, rfl⟩ := List.cons.inj htext
              exact absurd (List.forall_mem_cons.mp hfront).1 hleft

end GeSensor.Foundation
