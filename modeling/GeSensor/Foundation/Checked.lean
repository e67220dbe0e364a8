/-
  Foundation/Checked.lean --- computations that can panic, and byte access.

  A program that indexes a slice, subtracts unsigned numbers or recurses without
  a bound can be stopped by one of these operations.  `Checked α` keeps that
  outcome visible: a checked computation either returns a value or names the
  operation that stopped it.  "Never panics" is then a theorem about the result,
  not an assumption of the embedding.

  The second half fixes the reading of bytes: total reads (`byteAt`) that agree
  with the checked ones inside the sequence, and the big- and little-endian
  conversions of fixed-width words.
-/
import Mathlib.Algebra.GroupWithZero.Nat

set_option autoImplicit false

namespace GeSensor.Foundation

/-- A byte sequence. -/
abbrev Bytes : Type := List UInt8

/-- Why a computation stopped. -/
inductive Panic where
  /-- an index or a slice bound outside the sequence -/
  | outOfBounds
  /-- an unsigned subtraction below zero -/
  | underflow
  /-- the call depth granted to a recursive function ran out -/
  | stackOverflow
  deriving DecidableEq, Repr

/-- A computation that returns or panics. -/
abbrev Checked (α : Type) : Type := Except Panic α

/-- The computation returns. -/
def Returns {α : Type} (c : Checked α) : Prop := ∃ value, c = .ok value

instance {α : Type} (c : Checked α) : Decidable (Returns c) :=
  match c with
  | .ok value => .isTrue ⟨value, rfl⟩
  | .error _ => .isFalse (by rintro ⟨_, h⟩; cases h)

instance {α : Type} [DecidableEq α] : DecidableEq (Checked α)
  | .ok left, .ok right =>
      decidable_of_iff (left = right) ⟨fun h => h ▸ rfl, fun h => Except.ok.inj h⟩
  | .error left, .error right =>
      decidable_of_iff (left = right) ⟨fun h => h ▸ rfl, fun h => Except.error.inj h⟩
  | .ok _, .error _ => .isFalse (by rintro ⟨⟩)
  | .error _, .ok _ => .isFalse (by rintro ⟨⟩)

@[simp] theorem returns_ok {α : Type} (value : α) : Returns (.ok value : Checked α) :=
  ⟨value, rfl⟩

@[simp] theorem not_returns_error {α : Type} (panic : Panic) :
    ¬ Returns (.error panic : Checked α) := by
  rintro ⟨_, h⟩
  cases h

@[simp] theorem pure_eq_ok {α : Type} (value : α) :
    (pure value : Checked α) = .ok value := rfl

@[simp] theorem ok_bind {α β : Type} (value : α) (next : α → Checked β) :
    (Except.ok value >>= next) = next value := rfl

@[simp] theorem error_bind {α β : Type} (panic : Panic) (next : α → Checked β) :
    ((Except.error panic : Checked α) >>= next) = .error panic := rfl

/-- A sequence of two steps succeeds when both do. -/
theorem bind_eq_ok_iff {ε α β : Type} {first : Except ε α} {next : α → Except ε β} {result : β} :
    (first >>= next) = .ok result ↔ ∃ value, first = .ok value ∧ next value = .ok result := by
  cases first <;> simp [bind, Except.bind]

/-- `let value = first?; next(value)` in a function that returns an option. -/
def tryThen {α β : Type} (first : Checked (Option α)) (next : α → Checked (Option β)) :
    Checked (Option β) := do
  match ← first with
  | none => return none
  | some value => next value

@[simp] theorem tryThen_some {α β : Type} (value : α) (next : α → Checked (Option β)) :
    tryThen (.ok (some value)) next = next value := rfl

theorem tryThen_eq_some_iff {α β : Type} {first : Checked (Option α)}
    {next : α → Checked (Option β)} {result : β} :
    tryThen first next = .ok (some result) ↔
      ∃ value, first = .ok (some value) ∧ next value = .ok (some result) := by
  unfold tryThen
  rw [bind_eq_ok_iff]
  constructor
  · rintro ⟨_ | value, hfirst, hnext⟩
    · cases hnext
    · exact ⟨value, hfirst, hnext⟩
  · rintro ⟨value, hfirst, hnext⟩
    exact ⟨some value, hfirst, hnext⟩

theorem tryThen_returns {α β : Type} {first : Checked (Option α)}
    {next : α → Checked (Option β)} (hfirst : Returns first) (hnext : ∀ value, Returns (next value)) :
    Returns (tryThen first next) := by
  obtain ⟨value, rfl⟩ := hfirst
  cases value with
  | none => exact returns_ok none
  | some value => exact hnext value

/-- `if condition { return None; }` in front of the rest. -/
theorem ite_none_eq_some_iff {α : Type} {condition : Prop} [Decidable condition]
    {rest : Checked (Option α)} {result : α} :
    (if condition then .ok none else rest) = .ok (some result) ↔
      ¬ condition ∧ rest = .ok (some result) := by
  by_cases h : condition
  · simp [h]
  · simp [h]

theorem ite_none_returns {α : Type} {condition : Prop} [Decidable condition]
    {rest : Checked (Option α)} (h : ¬ condition → Returns rest) :
    Returns (if condition then .ok none else rest) := by
  split
  next => exact returns_ok none
  next hnot => exact h hnot

/-- A loop whose every iteration returns collects the returned values. -/
theorem mapM_eq_ok {α β : Type} {body : α → Checked β} {value : α → β} :
    ∀ {items : List α}, (∀ item ∈ items, body item = .ok (value item)) →
      items.mapM body = .ok (items.map value)
  | [], _ => rfl
  | item :: rest, hbody => by
      have hrest : rest.mapM body = .ok (rest.map value) :=
        mapM_eq_ok fun other hother => hbody other (List.mem_cons_of_mem item hother)
      rw [List.mapM_cons, hbody item List.mem_cons_self, ok_bind, hrest, ok_bind, pure_eq_ok,
        List.map_cons]

/-- `for i in 0..count { if stop(i) { break } items.push(read(i)?) }`, with `turns` turns left
at `i`. -/
def collectUntil {α : Type} (stop : Nat → Bool) (read : Nat → Checked α) :
    (turns i : Nat) → Checked (List α)
  | 0, _ => .ok []
  | turns + 1, i =>
      if stop i then .ok []
      else do
        let item ← read i
        let rest ← collectUntil stop read turns (i + 1)
        return item :: rest

/-- The loop collects from its index up to the nearer of its two ends. -/
theorem collectUntil_eq_ok {α : Type} {stop : Nat → Bool} {read : Nat → Checked α}
    {value : Nat → α} {limit : Nat} (hstop : ∀ i, stop i = false ↔ i < limit)
    (hread : ∀ i, i < limit → read i = .ok (value i)) (turns i : Nat) :
    collectUntil stop read turns i =
      .ok ((List.range' i (min turns (limit - i))).map value) := by
  induction turns generalizing i with
  | zero =>
      rw [collectUntil, Nat.zero_min]
      rfl
  | succ turns ih =>
      rw [collectUntil]
      by_cases hi : i < limit
      · have hsize : min (turns + 1) (limit - i) = min turns (limit - (i + 1)) + 1 := by omega
        rw [(hstop i).mpr hi, if_neg Bool.false_ne_true, hread i hi, ok_bind, ih, ok_bind, hsize,
          List.range'_succ]
        rfl
      · have hend : stop i = true := by
          rw [← Bool.not_eq_false, hstop]
          exact hi
        have hsize : min (turns + 1) (limit - i) = 0 := by omega
        rw [hend, if_pos rfl, hsize]
        rfl

/-! ## Access -/

/-- `data[i]`. -/
def index {α : Type} (data : List α) (i : Nat) : Checked α :=
  match data[i]? with
  | some item => .ok item
  | none => .error .outOfBounds

theorem index_eq_ok {α : Type} {data : List α} {i : Nat} (h : i < data.length) :
    index data i = .ok data[i] := by
  simp [index, List.getElem?_eq_getElem h]

theorem index_eq_ok_iff {α : Type} {data : List α} {i : Nat} {item : α} :
    index data i = .ok item ↔ data[i]? = some item := by
  unfold index
  cases data[i]? with
  | none => simp
  | some other => simp

/-- `data[lo..hi]`. -/
def slice {α : Type} (data : List α) (lo hi : Nat) : Checked (List α) :=
  if lo ≤ hi ∧ hi ≤ data.length then .ok ((data.drop lo).take (hi - lo))
  else .error .outOfBounds

theorem slice_eq_ok {α : Type} {data : List α} {lo hi : Nat} (hlo : lo ≤ hi)
    (hhi : hi ≤ data.length) : slice data lo hi = .ok ((data.drop lo).take (hi - lo)) :=
  if_pos ⟨hlo, hhi⟩

/-- `data.get(lo..)`. -/
def getFrom? {α : Type} (data : List α) (lo : Nat) : Option (List α) :=
  if lo ≤ data.length then some (data.drop lo) else none

/-- `data.get(lo..hi)`. -/
def getRange? {α : Type} (data : List α) (lo hi : Nat) : Option (List α) :=
  if lo ≤ hi ∧ hi ≤ data.length then some ((data.drop lo).take (hi - lo)) else none

theorem le_length_of_getRange? {α : Type} {data part : List α} {lo hi : Nat}
    (h : getRange? data lo hi = some part) : hi ≤ data.length := by
  rw [getRange?, Option.ite_none_right_eq_some] at h
  exact h.1.2

/-- `a - b` on unsigned numbers. -/
def checkedSub (a b : Nat) : Checked Nat :=
  if b ≤ a then .ok (a - b) else .error .underflow

theorem checkedSub_eq_ok {a b : Nat} (h : b ≤ a) : checkedSub a b = .ok (a - b) :=
  if_pos h

/-- The byte at `i`, zero outside the sequence. -/
def byteAt (data : Bytes) (i : Nat) : UInt8 := data.getD i 0

theorem index_eq_byteAt {data : Bytes} {i : Nat} (h : i < data.length) :
    index data i = .ok (byteAt data i) := by
  simp [index_eq_ok h, byteAt, List.getD_eq_getElem?_getD, List.getElem?_eq_getElem h]

/-- The high half of a byte. -/
theorem toNat_shiftRight_four (byte : UInt8) : (byte >>> 4).toNat = byte.toNat / 16 := by
  rw [UInt8.toNat_shiftRight, Nat.shiftRight_eq_div_pow]
  rfl

/-! ## Words -/

/-- `u16::from_be_bytes([b0, b1])`. -/
def be16 (b0 b1 : UInt8) : UInt16 := .ofNat (b0.toNat * 2 ^ 8 + b1.toNat)

/-- `u32::from_be_bytes([b0, b1, b2, b3])`. -/
def be32 (b0 b1 b2 b3 : UInt8) : UInt32 :=
  .ofNat (b0.toNat * 2 ^ 24 + b1.toNat * 2 ^ 16 + b2.toNat * 2 ^ 8 + b3.toNat)

/-- `u16::from_le_bytes([b0, b1])`. -/
def le16 (b0 b1 : UInt8) : UInt16 := be16 b1 b0

/-- `u16::from_be_bytes([data[i], data[i + 1]])`. -/
def index16 (data : Bytes) (i : Nat) : Checked UInt16 := do
  return be16 (← index data i) (← index data (i + 1))

/-- `u32::from_be_bytes` of the four bytes from `data[i]` on. -/
def index32 (data : Bytes) (i : Nat) : Checked UInt32 := do
  return be32 (← index data i) (← index data (i + 1)) (← index data (i + 2))
    (← index data (i + 3))

/-- The 16-bit word at `i`, zero bytes outside the sequence. -/
def be16At (data : Bytes) (i : Nat) : UInt16 := be16 (byteAt data i) (byteAt data (i + 1))

/-- The 32-bit word at `i`, zero bytes outside the sequence. -/
def be32At (data : Bytes) (i : Nat) : UInt32 :=
  be32 (byteAt data i) (byteAt data (i + 1)) (byteAt data (i + 2)) (byteAt data (i + 3))

theorem index16_eq_be16At {data : Bytes} {i : Nat} (h : i + 1 < data.length) :
    index16 data i = .ok (be16At data i) := by
  rw [index16, index_eq_byteAt (Nat.lt_of_succ_lt h), ok_bind, index_eq_byteAt h, ok_bind]
  rfl

theorem index32_eq_be32At {data : Bytes} {i : Nat} (h : i + 3 < data.length) :
    index32 data i = .ok (be32At data i) := by
  rw [index32, index_eq_byteAt (by omega), ok_bind, index_eq_byteAt (by omega), ok_bind,
    index_eq_byteAt (by omega), ok_bind, index_eq_byteAt h, ok_bind]
  rfl

/-- `array.copy_from_slice(source)`: the lengths must agree. -/
def copyFromSlice (size : Nat) (source : Bytes) : Checked (Vector UInt8 size) :=
  if h : source.toArray.size = size then .ok ⟨source.toArray, h⟩ else .error .outOfBounds

/-- The `size` bytes from `i` on, zero outside the sequence. -/
def bytesAt (data : Bytes) (i size : Nat) : Vector UInt8 size :=
  Vector.ofFn fun k => byteAt data (i + k)

/-- A slice inside the sequence fills an array of its length. -/
theorem slice_copyFromSlice {data : Bytes} {lo size : Nat} (h : lo + size ≤ data.length) :
    (slice data lo (lo + size) >>= copyFromSlice size) = .ok (bytesAt data lo size) := by
  rw [slice_eq_ok (Nat.le_add_right lo size) h, ok_bind, Nat.add_sub_cancel_left, copyFromSlice]
  have hlength : ((data.drop lo).take size).toArray.size = size := by
    rw [List.size_toArray, List.length_take, List.length_drop]
    omega
  rw [dif_pos hlength]
  congr 1
  apply Vector.ext
  intro k hk
  have hin : lo + k < data.length := by omega
  simp [bytesAt, byteAt, List.getD_eq_getElem?_getD, List.getElem?_eq_getElem hin]

/-- `u32::to_le_bytes`. -/
def le32Bytes (word : UInt32) : Bytes :=
  [.ofNat word.toNat, .ofNat (word.toNat / 2 ^ 8), .ofNat (word.toNat / 2 ^ 16),
    .ofNat (word.toNat / 2 ^ 24)]

theorem le32Bytes_injective : Function.Injective le32Bytes := by
  intro left right hbytes
  have hleft := left.toNat_lt
  have hright := right.toNat_lt
  simp only [le32Bytes, List.cons.injEq, and_true, ← UInt8.toNat_inj, UInt8.toNat_ofNat'] at hbytes
  obtain ⟨h0, h1, h2, h3⟩ := hbytes
  apply UInt32.toNat_inj.mp
  omega

end GeSensor.Foundation
