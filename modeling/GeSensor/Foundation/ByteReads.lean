/-
  Foundation/ByteReads.lean --- reads of a part of a byte sequence.

  Reading a tail at `i` is reading the whole at the tail's base plus `i`; reading a
  head is reading the whole.  A format that is made of headers one after the other
  is read header by header with these rules, wherever a header starts.
-/
import GeSensor.Foundation.Checked

set_option autoImplicit false

namespace GeSensor.Foundation

/-! ## Reads of a tail -/

@[simp] theorem byteAt_drop (data : Bytes) (base i : Nat) :
    byteAt (data.drop base) i = byteAt data (base + i) := by
  simp [byteAt, List.getD_eq_getElem?_getD]

@[simp] theorem be16At_drop (data : Bytes) (base i : Nat) :
    be16At (data.drop base) i = be16At data (base + i) := by
  simp [be16At, Nat.add_assoc]

@[simp] theorem be32At_drop (data : Bytes) (base i : Nat) :
    be32At (data.drop base) i = be32At data (base + i) := by
  simp [be32At, Nat.add_assoc]

@[simp] theorem bytesAt_drop (data : Bytes) (base i size : Nat) :
    bytesAt (data.drop base) i size = bytesAt data (base + i) size := by
  simp [bytesAt, Nat.add_assoc]

theorem drop_eq_byteAt_cons {data : Bytes} {i : Nat} (h : i < data.length) :
    data.drop i = byteAt data i :: data.drop (i + 1) := by
  rw [List.drop_eq_getElem_cons h, byteAt, List.getD_eq_getElem?_getD, List.getElem?_eq_getElem h,
    Option.getD_some]

/-- A part of a tail is the part of the whole, when the tail is there. -/
theorem getFrom?_drop {data : Bytes} {base : Nat} (h : base ≤ data.length) (lo : Nat) :
    getFrom? (data.drop base) lo = getFrom? data (base + lo) := by
  unfold getFrom?
  rw [List.length_drop, List.drop_drop]
  exact if_congr (by omega) rfl rfl

/-- A part that begins where a front ends. -/
theorem getFrom?_append (front payload : Bytes) :
    getFrom? (front ++ payload) front.length = some payload := by
  rw [getFrom?, if_pos, List.drop_left]
  rw [List.length_append]
  exact Nat.le_add_right _ _

/-- Another part behind the same front. -/
theorem getFrom?_take_append {data part : Bytes} {lo : Nat} (h : getFrom? data lo = some part)
    (other : Bytes) : getFrom? (data.take lo ++ other) lo = some other := by
  by_cases hlo : lo ≤ data.length
  · have hother := getFrom?_append (data.take lo) other
    rwa [List.length_take_of_le hlo] at hother
  · rw [getFrom?, if_neg hlo] at h
    cases h

/-! ## Answers from a part -/

/-- The reader answers from the part behind its offset, and with nothing where there is
no such part. -/
def AnswersFrom {β : Type} (read : Bytes → Nat → Checked (Option β)) (answer : Bytes → Option β) :
    Prop :=
  ∀ data lo, read data lo = .ok ((getFrom? data lo).bind answer)

namespace AnswersFrom

variable {β : Type} {read : Bytes → Nat → Checked (Option β)} {answer : Bytes → Option β}
  {data part : Bytes} {lo : Nat}

theorem of_part (h : AnswersFrom read answer) (hpart : getFrom? data lo = some part) :
    read data lo = .ok (answer part) := by
  rw [h, hpart, Option.bind_some]

/-- Behind a front of any length. -/
theorem append (h : AnswersFrom read answer) (front part : Bytes) :
    read (front ++ part) front.length = .ok (answer part) :=
  h.of_part (getFrom?_append front part)

theorem returns (h : AnswersFrom read answer) (data : Bytes) (lo : Nat) : Returns (read data lo) :=
  ⟨_, h data lo⟩

theorem eq_some_iff (h : AnswersFrom read answer) {value : β} :
    read data lo = .ok (some value) ↔
      ∃ part, getFrom? data lo = some part ∧ answer part = some value := by
  rw [h, Except.ok.injEq, Option.bind_eq_some_iff]

end AnswersFrom

/-! ## Reads of a head -/

theorem byteAt_append_left {front : Bytes} {i : Nat} (h : i < front.length) (back : Bytes) :
    byteAt (front ++ back) i = byteAt front i := by
  simp [byteAt, List.getD_eq_getElem?_getD, List.getElem?_append_left h]

theorem be16At_append_left {front : Bytes} {i : Nat} (h : i + 1 < front.length) (back : Bytes) :
    be16At (front ++ back) i = be16At front i := by
  rw [be16At, byteAt_append_left (by omega), byteAt_append_left h, be16At]

theorem bytesAt_append_left {front : Bytes} {i size : Nat} (h : i + size ≤ front.length)
    (back : Bytes) : bytesAt (front ++ back) i size = bytesAt front i size := by
  unfold bytesAt
  congr 1
  funext k
  exact byteAt_append_left (by omega) back

/-- An array is what its bytes are read as. -/
theorem bytesAt_toList {size : Nat} (array : Vector UInt8 size) (back : Bytes) :
    bytesAt (array.toList ++ back) 0 size = array := by
  apply Vector.ext
  intro k hk
  have hin : k < array.toList.length := by
    rw [Vector.length_toList]
    exact hk
  rw [bytesAt, Vector.getElem_ofFn, Nat.zero_add, byteAt_append_left hin, byteAt,
    List.getD_eq_getElem?_getD, List.getElem?_eq_getElem hin, Option.getD_some,
    Vector.getElem_toList]

/-! ## Words as bytes -/

/-- `u16::to_be_bytes`. -/
def be16Bytes (word : UInt16) : Bytes := [.ofNat (word.toNat / 2 ^ 8), .ofNat word.toNat]

/-- `u16::to_le_bytes`. -/
def le16Bytes (word : UInt16) : Bytes := [.ofNat word.toNat, .ofNat (word.toNat / 2 ^ 8)]

/-- `u32::to_be_bytes`. -/
def be32Bytes (word : UInt32) : Bytes :=
  [.ofNat (word.toNat / 2 ^ 24), .ofNat (word.toNat / 2 ^ 16), .ofNat (word.toNat / 2 ^ 8),
    .ofNat word.toNat]

/-- A word is what its bytes are read as. -/
@[simp] theorem be16_be16Bytes (word : UInt16) :
    be16 (.ofNat (word.toNat / 2 ^ 8)) (.ofNat word.toNat) = word := by
  have hword := word.toNat_lt
  apply UInt16.toNat_inj.mp
  simp only [be16, UInt16.toNat_ofNat', UInt8.toNat_ofNat']
  omega

/-- Bytes are what their word is written as. -/
@[simp] theorem be16Bytes_be16 (b0 b1 : UInt8) : be16Bytes (be16 b0 b1) = [b0, b1] := by
  have hb0 := b0.toNat_lt
  have hb1 := b1.toNat_lt
  have hword : (be16 b0 b1).toNat = b0.toNat * 2 ^ 8 + b1.toNat :=
    UInt16.toNat_ofNat_of_lt' (by simp only [UInt16.size]; omega)
  have hhigh : UInt8.ofNat ((be16 b0 b1).toNat / 2 ^ 8) = b0 := by
    apply UInt8.toNat_inj.mp
    rw [UInt8.toNat_ofNat', hword]
    omega
  have hlow : UInt8.ofNat (be16 b0 b1).toNat = b1 := by
    apply UInt8.toNat_inj.mp
    rw [UInt8.toNat_ofNat', hword]
    omega
  rw [be16Bytes, hhigh, hlow]

@[simp] theorem le16_le16Bytes (word : UInt16) :
    le16 (.ofNat word.toNat) (.ofNat (word.toNat / 2 ^ 8)) = word :=
  be16_be16Bytes word

@[simp] theorem be32_be32Bytes (word : UInt32) :
    be32 (.ofNat (word.toNat / 2 ^ 24)) (.ofNat (word.toNat / 2 ^ 16))
      (.ofNat (word.toNat / 2 ^ 8)) (.ofNat word.toNat) = word := by
  have hword := word.toNat_lt
  apply UInt32.toNat_inj.mp
  simp only [be32, UInt32.toNat_ofNat', UInt8.toNat_ofNat']
  omega

/-! ## Reads where a value stands -/

section

variable {data rest : Bytes} {base : Nat}

/-- The byte that is read stands there. -/
theorem drop_of_getElem? {byte : UInt8} (h : data[base]? = some byte) :
    data.drop base = byte :: data.drop (base + 1) := by
  obtain ⟨hin, rfl⟩ := List.getElem?_eq_some_iff.mp h
  exact List.drop_eq_getElem_cons hin

/-- As many bytes as there is room for stand at `base`. -/
theorem exists_part {size : Nat} (h : base + size ≤ data.length) :
    ∃ part : Bytes, part.length = size ∧ data.drop base = part ++ data.drop (base + size) := by
  refine ⟨(data.drop base).take size, ?_, ?_⟩
  · rw [List.length_take, List.length_drop]
    omega
  · rw [← List.drop_drop, List.take_append_drop]

/-- Behind what stands at `base`. -/
theorem drop_add_of_drop {front : Bytes} (size : Nat) (h : data.drop base = front ++ rest)
    (hsize : front.length = size) : data.drop (base + size) = rest := by
  rw [← List.drop_drop, h, List.drop_left' hsize]

/-- What stands at `base` and is not empty ends inside the sequence. -/
theorem add_length_le_of_drop {front : Bytes} (hfront : 0 < front.length)
    (h : data.drop base = front ++ rest) : base + front.length ≤ data.length := by
  have hlength := congrArg List.length h
  rw [List.length_drop, List.length_append] at hlength
  omega

theorem getElem?_of_drop {byte : UInt8} (h : data.drop base = byte :: rest) :
    data[base]? = some byte := by
  rw [← List.head?_drop, h, List.head?_cons]

theorem getRange?_of_drop {part : Bytes} (hbase : base ≤ data.length)
    (h : data.drop base = part ++ rest) :
    getRange? data base (base + part.length) = some part := by
  have hlength := congrArg List.length h
  rw [List.length_drop, List.length_append] at hlength
  rw [getRange?, if_pos ⟨Nat.le_add_right base part.length, by omega⟩, Nat.add_sub_cancel_left, h,
    List.take_left]

theorem byteAt_of_drop {byte : UInt8} (h : data.drop base = byte :: rest) :
    byteAt data base = byte := by
  have hread := byteAt_drop data base 0
  rw [h, Nat.add_zero] at hread
  exact hread.symm

theorem drop_succ_of_drop {byte : UInt8} (h : data.drop base = byte :: rest) :
    data.drop (base + 1) = rest := by
  rw [← List.drop_drop, h]
  rfl

theorem be16At_of_drop {word : UInt16} (h : data.drop base = be16Bytes word ++ rest) :
    be16At data base = word := by
  have hword : be16At (be16Bytes word ++ rest) 0 = word := be16_be16Bytes word
  rwa [← h, be16At_drop] at hword

theorem be32At_of_drop {word : UInt32} (h : data.drop base = be32Bytes word ++ rest) :
    be32At data base = word := by
  have hword : be32At (be32Bytes word ++ rest) 0 = word := be32_be32Bytes word
  rwa [← h, be32At_drop] at hword

theorem bytesAt_of_drop {size : Nat} {array : Vector UInt8 size}
    (h : data.drop base = array.toList ++ rest) : bytesAt data base size = array := by
  have harray := bytesAt_toList array rest
  rwa [← h, bytesAt_drop] at harray

end

/-! ## Items of one width -/

section

variable {α : Type} {emit : α → Bytes} {width : Nat}

theorem length_flatMap_of_width (hwidth : ∀ item, (emit item).length = width) (items : List α) :
    (items.flatMap emit).length = items.length * width := by
  induction items with
  | nil => rw [List.flatMap_nil, List.length_nil, List.length_nil, Nat.zero_mul]
  | cons item rest ih =>
      rw [List.flatMap_cons, List.length_append, hwidth, ih, List.length_cons, Nat.succ_mul,
        Nat.add_comm]

/-- The `i`-th item stands at `i` widths. -/
theorem drop_flatMap_of_width (hwidth : ∀ item, (emit item).length = width) (items : List α)
    (i : Nat) : (items.flatMap emit).drop (i * width) = (items.drop i).flatMap emit := by
  induction i generalizing items with
  | zero => rw [Nat.zero_mul, List.drop_zero, List.drop_zero]
  | succ i ih =>
      cases items with
      | nil => rw [List.drop_nil, List.flatMap_nil, List.drop_nil]
      | cons item rest =>
          rw [List.flatMap_cons, Nat.succ_mul, Nat.add_comm, ← List.drop_drop,
            List.drop_left' (hwidth item), ih, List.drop_succ_cons]

end

/-! ## Sequences that agree below a limit -/

/-- The first `limit` bytes are the same. -/
def AgreeBelow (limit : Nat) (left right : Bytes) : Prop := left.take limit = right.take limit

section

variable {limit : Nat} {left right : Bytes}

theorem AgreeBelow.symm (h : AgreeBelow limit left right) : AgreeBelow limit right left :=
  Eq.symm h

theorem AgreeBelow.mono {lower : Nat} (h : AgreeBelow limit left right) (hle : lower ≤ limit) :
    AgreeBelow lower left right := by
  have htake := congrArg (List.take lower) h
  rwa [List.take_take, List.take_take, Nat.min_eq_left hle] at htake

theorem AgreeBelow.byteAt (h : AgreeBelow limit left right) {i : Nat} (hi : i < limit) :
    byteAt left i = byteAt right i := by
  have hget := congrArg (·[i]?) h
  simp only [List.getElem?_take, if_pos hi] at hget
  rw [Foundation.byteAt, Foundation.byteAt, List.getD_eq_getElem?_getD,
    List.getD_eq_getElem?_getD, hget]

theorem AgreeBelow.be16At (h : AgreeBelow limit left right) {i : Nat} (hi : i + 1 < limit) :
    be16At left i = be16At right i := by
  rw [Foundation.be16At, h.byteAt (Nat.lt_of_succ_lt hi), h.byteAt hi, Foundation.be16At]

theorem AgreeBelow.part (h : AgreeBelow limit left right) {lo size : Nat}
    (hhi : lo + size ≤ limit) : (left.drop lo).take size = (right.drop lo).take size := by
  have htake := h.mono hhi
  rw [AgreeBelow] at htake
  rw [List.take_drop, List.take_drop, htake]

/-- A front agrees with the whole. -/
theorem agreeBelow_of_append {front back whole : Bytes} (h : front ++ back = whole) :
    AgreeBelow front.length front whole := by
  rw [AgreeBelow, ← h, List.take_left, List.take_length]

end

end GeSensor.Foundation
