/-
  Foundation/Ber.lean --- definite lengths, elements and integers of BER.

  A length is one octet below 128, or the number of length octets and these, most
  significant first and not necessarily as few as possible.  An element is a tag, a length
  and as many content octets.  The first octet of a length says where the length ends, so
  what stands at the front of a sequence can be read in one way only.
-/
import GeSensor.Foundation.ByteReads

set_option autoImplicit false

namespace GeSensor.Foundation

/-! ## Numbers -/

/-- One more octet of a number, the more significant ones read before it. -/
def appendOctet (value : Nat) (octet : UInt8) : Nat := value * 2 ^ 8 + octet.toNat

/-- The number that octets stand for, most significant first. -/
def unsignedValue (octets : Bytes) : Nat := octets.foldl appendOctet 0

/-- The number that octets stand for in two's complement. -/
def signedValue (octets : Bytes) : Int :=
  if (octets.headD 0).toNat < 2 ^ 7 then unsignedValue octets
  else (unsignedValue octets : Int) - (2 ^ (8 * octets.length) : Nat)

theorem le_foldl_appendOctet (octets : Bytes) (value : Nat) :
    value ≤ octets.foldl appendOctet value := by
  induction octets generalizing value with
  | nil => exact Nat.le_refl value
  | cons octet rest ih =>
      have hnext : value ≤ appendOctet value octet := by
        rw [appendOctet]
        omega
      exact Nat.le_trans hnext (ih _)

theorem foldl_appendOctet_lt {octets : Bytes} {value size : Nat} (h : value < 2 ^ (8 * size)) :
    octets.foldl appendOctet value < 2 ^ (8 * (size + octets.length)) := by
  induction octets generalizing value size with
  | nil => exact h
  | cons octet rest ih =>
      have hoctet := octet.toNat_lt
      have hnext : appendOctet value octet < 2 ^ (8 * (size + 1)) := by
        rw [appendOctet, Nat.mul_succ, Nat.pow_add]
        omega
      rw [List.length_cons, Nat.add_comm rest.length, ← Nat.add_assoc]
      exact ih hnext

theorem unsignedValue_lt (octets : Bytes) : unsignedValue octets < 2 ^ (8 * octets.length) := by
  have hlt := @foldl_appendOctet_lt octets 0 0 (by decide)
  rwa [Nat.zero_add] at hlt

theorem foldl_appendOctet_eq_zero_iff {octets : Bytes} {value : Nat} :
    octets.foldl appendOctet value = 0 ↔ value = 0 ∧ ∀ octet ∈ octets, octet = 0 := by
  induction octets generalizing value with
  | nil => simp
  | cons octet rest ih =>
      have hzero : appendOctet value octet = 0 ↔ value = 0 ∧ octet = 0 := by
        rw [appendOctet, Nat.add_eq_zero_iff, ← UInt8.toNat_inj, UInt8.toNat_zero]
        omega
      rw [List.foldl_cons, ih, hzero, List.forall_mem_cons, and_assoc]

/-- An integer is its first octet when it has no other and is not negative, or is zero. -/
theorem signedValue_cons_eq_iff {first : UInt8} {rest : Bytes} :
    signedValue (first :: rest) = first.toNat ↔
      rest = [] ∧ first.toNat < 2 ^ 7 ∨ ∀ octet ∈ first :: rest, octet = 0 := by
  rw [signedValue, List.headD_cons]
  by_cases hsign : first.toNat < 2 ^ 7
  · have hfold : unsignedValue (first :: rest) = rest.foldl appendOctet first.toNat := by
      rw [unsignedValue, List.foldl_cons, appendOctet, Nat.zero_mul, Nat.zero_add]
    rw [if_pos hsign, hfold, Int.ofNat_inj, List.forall_mem_cons]
    cases rest with
    | nil => exact iff_of_true rfl (Or.inl ⟨rfl, hsign⟩)
    | cons octet rest =>
        -- A further octet shifts the first one, which changes it unless it is zero.
        constructor
        · intro heq
          have hle := le_foldl_appendOctet rest (appendOctet first.toNat octet)
          rw [List.foldl_cons] at heq
          rw [heq, appendOctet] at hle
          have hfirst : first.toNat = 0 := by omega
          rw [hfirst, foldl_appendOctet_eq_zero_iff, appendOctet, Nat.zero_mul, Nat.zero_add] at heq
          refine Or.inr ⟨UInt8.toNat_inj.mp hfirst, List.forall_mem_cons.mpr ⟨?_, heq.2⟩⟩
          exact UInt8.toNat_inj.mp heq.1
        · rintro (⟨hnil, _⟩ | ⟨rfl, hzero⟩)
          · exact absurd hnil (List.cons_ne_nil octet rest)
          · exact foldl_appendOctet_eq_zero_iff.mpr ⟨rfl, hzero⟩
  · have hlt := unsignedValue_lt (first :: rest)
    rw [if_neg hsign]
    constructor
    · intro heq
      omega
    · rintro (⟨_, hpos⟩ | hzero)
      · exact absurd hpos hsign
      · rw [hzero first List.mem_cons_self] at hsign
        exact absurd (by decide) hsign

/-! ## Lengths -/

/-- A definite length. -/
inductive BerLength where
  /-- one octet below 128 -/
  | short (octet : UInt8) (small : octet.toNat < 2 ^ 7)
  /-- 1 to 126 length octets -/
  | long (octets : Bytes) (pos : 1 ≤ octets.length) (few : octets.length ≤ 126)

namespace BerLength

/-- The number of content octets. -/
def value : BerLength → Nat
  | short octet _ => octet.toNat
  | long octets _ _ => unsignedValue octets

/-- The number of length octets behind the first one. -/
def count : BerLength → Nat
  | short _ _ => 0
  | long octets _ _ => octets.length

def encode : BerLength → Bytes
  | short octet _ => [octet]
  | long octets _ _ => .ofNat (2 ^ 7 + octets.length) :: octets

theorem length_encode (length : BerLength) : length.encode.length = 1 + length.count := by
  cases length with
  | short octet small => rfl
  | long octets pos few => exact Nat.add_comm _ _

theorem encode_pos (length : BerLength) : 0 < length.encode.length := by
  rw [length_encode]
  omega

/-- The first octet of a long length. -/
theorem toNat_first {count : Nat} (few : count ≤ 126) :
    (UInt8.ofNat (2 ^ 7 + count)).toNat = 2 ^ 7 + count :=
  UInt8.toNat_ofNat_of_lt' (Nat.lt_of_le_of_lt (Nat.add_le_add_left few _) (by decide))

/-- One length stands at the front of a sequence. -/
theorem encode_append_inj {left right : BerLength} {after behind : Bytes}
    (h : left.encode ++ after = right.encode ++ behind) : left = right ∧ after = behind := by
  cases left with
  | short octet small =>
      cases right with
      | short other _ =>
          obtain ⟨rfl, hrest⟩ := List.cons.inj h
          exact ⟨rfl, hrest⟩
      | long octets _ few =>
          obtain ⟨hfirst, _⟩ := List.cons.inj h
          rw [hfirst, toNat_first few] at small
          omega
  | long octets pos few =>
      cases right with
      | short other small =>
          obtain ⟨hfirst, _⟩ := List.cons.inj h
          rw [← hfirst, toNat_first few] at small
          omega
      | long others _ fewOthers =>
          obtain ⟨hfirst, hrest⟩ := List.cons.inj h
          have hcount := congrArg UInt8.toNat hfirst
          rw [toNat_first few, toNat_first fewOthers] at hcount
          obtain ⟨rfl, hafter⟩ := List.append_inj hrest (by omega)
          exact ⟨rfl, hafter⟩

end BerLength

/-! ## Elements -/

/-- The length and the content of an element. -/
structure BerElement where
  length : BerLength
  content : Bytes
  fits : content.length = length.value

namespace BerElement

/-- The element under a tag of one octet. -/
def encode (tag : UInt8) (element : BerElement) : Bytes :=
  tag :: (element.length.encode ++ element.content)

/-- One element stands at the front of a sequence. -/
theorem encode_append_inj {tag : UInt8} {left right : BerElement} {after behind : Bytes}
    (h : left.encode tag ++ after = right.encode tag ++ behind) :
    left = right ∧ after = behind := by
  obtain ⟨length, content, fits⟩ := left
  obtain ⟨other, others, fitsOther⟩ := right
  rw [encode, encode, List.cons_append, List.cons_append, List.append_assoc,
    List.append_assoc] at h
  obtain ⟨_, htail⟩ := List.cons.inj h
  obtain ⟨rfl, hcontent⟩ := BerLength.encode_append_inj htail
  obtain ⟨rfl, hafter⟩ := List.append_inj hcontent (fits.trans fitsOther.symm)
  exact ⟨rfl, hafter⟩

end BerElement

end GeSensor.Foundation
