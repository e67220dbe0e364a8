/-
  Foundation/Vec.lean --- growable arrays whose capacity can be observed.

  A vector is its elements together with the number of elements its allocation
  holds.  `push` reallocates only when the allocation is full; how much room the
  new allocation has beyond the one element that is needed is up to the
  allocator, so it is a parameter: `spare n` is the room left over when a full
  vector of `n` elements is grown.  A vector never shrinks here, so it is grown
  at most once at each length and `spare` describes every allocator.
-/
set_option autoImplicit false

namespace GeSensor.Foundation

/-- Elements, and the size of the allocation that holds them. -/
structure Vec (α : Type) where
  data : List α
  capacity : Nat
  fits : data.length ≤ capacity

namespace Vec

variable {α : Type}

/-- `Vec::with_capacity(n)`: room for at least `n` elements. -/
def withCapacity (spare : Nat → Nat) (n : Nat) : Vec α where
  data := []
  capacity := n + spare 0
  fits := Nat.zero_le _

/-- `vec.len()`. -/
def length (v : Vec α) : Nat := v.data.length

/-- `vec.push(item)`. -/
def push (spare : Nat → Nat) (v : Vec α) (item : α) : Vec α where
  data := v.data ++ [item]
  capacity := if v.length < v.capacity then v.capacity else v.length + 1 + spare v.length
  fits := by
    rw [List.length_append, List.length_singleton]
    split
    · assumption
    · exact Nat.le_add_right _ _

/-- `vec[i] = item` for an index inside the vector. -/
def set (v : Vec α) (i : Nat) (item : α) : Vec α where
  data := v.data.set i item
  capacity := v.capacity
  fits := by
    rw [List.length_set]
    exact v.fits

@[simp] theorem data_push (spare : Nat → Nat) (v : Vec α) (item : α) :
    (v.push spare item).data = v.data ++ [item] := rfl

@[simp] theorem length_push (spare : Nat → Nat) (v : Vec α) (item : α) :
    (v.push spare item).length = v.length + 1 := by
  simp [length]

end Vec

end GeSensor.Foundation
