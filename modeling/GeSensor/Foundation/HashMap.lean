/-
  Foundation/HashMap.lean --- hash maps with an unspecified iteration order.

  A hash map is an association list without repeated keys (Mathlib's `AList`),
  so "one value per key" is carried by the type.  Iterating over a hash map
  visits the entries in an order the program does not choose; an operation that
  iterates therefore takes that order as an argument, as an `IterOrder`.  A
  statement for every `IterOrder` is a statement for every hash function.
-/
import Mathlib.Data.List.AList

set_option autoImplicit false

namespace GeSensor.Foundation

/-- A map from keys to values. -/
abbrev HashMap (K V : Type) : Type := AList fun _ : K => V

/-- An order of iteration: the entries of a map, rearranged. -/
structure IterOrder (α : Type) where
  visit : List α → List α
  perm : ∀ entries, (visit entries).Perm entries

/-- Iteration in the order of the entries. -/
def IterOrder.id (α : Type) : IterOrder α where
  visit := fun entries => entries
  perm := fun entries => List.Perm.refl entries

@[simp] theorem IterOrder.mem_visit {α : Type} (order : IterOrder α) {entries : List α}
    {entry : α} : entry ∈ order.visit entries ↔ entry ∈ entries :=
  (order.perm entries).mem_iff

namespace HashMap

variable {K V : Type} [DecidableEq K]

/-- `map.len()`. -/
def len (map : HashMap K V) : Nat := map.entries.length

/-- `map.entry(key).or_insert_with(fresh)`, followed by a change of the entry. -/
def upsert (map : HashMap K V) (key : K) (fresh : V) (change : V → V) : HashMap K V :=
  map.insert key (change ((map.lookup key).getD fresh))

/-- `map.entry(key).or_insert(fresh)`. -/
def orInsert (map : HashMap K V) (key : K) (fresh : V) : HashMap K V :=
  if key ∈ map then map else map.insert key fresh

omit [DecidableEq K] in
/-- `map.retain(keep)`. -/
def retain (map : HashMap K V) (keep : K → V → Bool) : HashMap K V where
  entries := map.entries.filter fun entry => keep entry.1 entry.2
  nodupKeys := map.nodupKeys.sublist List.filter_sublist

@[simp] theorem lookup_upsert (map : HashMap K V) (key : K) (fresh : V) (change : V → V) :
    (map.upsert key fresh change).lookup key =
      some (change ((map.lookup key).getD fresh)) :=
  AList.lookup_insert map

theorem lookup_upsert_ne (map : HashMap K V) {key other : K} (h : other ≠ key) (fresh : V)
    (change : V → V) : (map.upsert key fresh change).lookup other = map.lookup other :=
  AList.lookup_insert_ne h

theorem mem_upsert (map : HashMap K V) {key other : K} (fresh : V) (change : V → V) :
    other ∈ map.upsert key fresh change ↔ other = key ∨ other ∈ map :=
  AList.mem_insert map

theorem mem_orInsert (map : HashMap K V) {key other : K} (fresh : V) :
    other ∈ map.orInsert key fresh ↔ other = key ∨ other ∈ map := by
  unfold orInsert
  split
  · rename_i hmem
    refine (or_iff_right_of_imp ?_).symm
    rintro rfl
    exact hmem
  · exact AList.mem_insert map

/-- Inserting a default value does not show through that default. -/
theorem lookup_orInsert_getD (map : HashMap K V) (key other : K) (fresh : V) :
    ((map.orInsert key fresh).lookup other).getD fresh = (map.lookup other).getD fresh := by
  unfold orInsert
  split
  · rfl
  · rename_i habsent
    rcases Decidable.em (other = key) with rfl | hne
    · rw [AList.lookup_insert, AList.lookup_eq_none.mpr habsent]
      rfl
    · rw [AList.lookup_insert_ne hne]

/-- An entry is found by its key, and only entries are found. -/
theorem lookup_eq_some_iff (map : HashMap K V) {key : K} {value : V} :
    map.lookup key = some value ↔ (⟨key, value⟩ : Sigma fun _ : K => V) ∈ map.entries :=
  AList.mem_lookup_iff

omit [DecidableEq K] in
/-- The number of entries is the number of keys. -/
theorem len_eq_length_keys (map : HashMap K V) : map.len = map.keys.length :=
  (List.length_map _).symm

theorem len_erase_add_one {map : HashMap K V} {key : K} (h : key ∈ map) :
    len (map.erase key) + 1 = map.len := by
  rw [len_eq_length_keys, len_eq_length_keys, AList.keys_erase]
  exact List.length_erase_add_one (AList.mem_keys.mp h)

theorem len_upsert (map : HashMap K V) (key : K) (fresh : V) (change : V → V) :
    (map.upsert key fresh change).len = if key ∈ map then map.len else map.len + 1 := by
  rw [len_eq_length_keys, upsert, AList.keys_insert, List.length_cons, len_eq_length_keys]
  split
  · rename_i hmem
    exact List.length_erase_add_one (AList.mem_keys.mp hmem)
  · rename_i habsent
    rw [List.erase_of_not_mem fun hmem => habsent (AList.mem_keys.mpr hmem)]

omit [DecidableEq K] in
theorem len_retain_le (map : HashMap K V) (keep : K → V → Bool) :
    (map.retain keep).len ≤ map.len :=
  List.length_filter_le _ _

theorem lookup_retain (map : HashMap K V) (keep : K → V → Bool) (key : K) :
    (map.retain keep).lookup key = (map.lookup key).filter (keep key) := by
  apply Option.ext
  intro value
  rw [lookup_eq_some_iff, Option.filter_eq_some_iff, lookup_eq_some_iff, retain,
    List.mem_filter]

end HashMap

end GeSensor.Foundation
