/-
  Foundation/Totals.lean --- totals over parties and over the entries of a map.

  A move of one party changes a total by that party's share; an insertion under a key
  replaces the share of what stood there.  Both are stated as equations between sums,
  so that no subtraction is needed.
-/
import GeSensor.Foundation.HashMap
import Mathlib.Algebra.GroupWithZero.Nat

set_option autoImplicit false

namespace GeSensor.Foundation

/-- The total of a measure. -/
def total {α : Type} (measure : α → Nat) (items : List α) : Nat := (items.map measure).sum

section

variable {α : Type} (measure : α → Nat)

@[simp] theorem total_nil : total measure [] = 0 := rfl

@[simp] theorem total_cons (item : α) (items : List α) :
    total measure (item :: items) = measure item + total measure items := rfl

@[simp] theorem total_append (left right : List α) :
    total measure (left ++ right) = total measure left + total measure right := by
  simp [total]

theorem total_eq_zero {items : List α} (h : ∀ item ∈ items, measure item = 0) :
    total measure items = 0 := by
  induction items with
  | nil => rfl
  | cons item rest ih =>
      rw [total_cons, h item List.mem_cons_self,
        ih fun item hitem => h item (List.mem_cons_of_mem _ hitem)]

/-- Every member has its share in a total. -/
theorem le_total {item : α} {items : List α} (h : item ∈ items) :
    measure item ≤ total measure items := by
  induction items with
  | nil => exact absurd h List.not_mem_nil
  | cons first rest ih =>
      rw [total_cons]
      rcases List.mem_cons.mp h with rfl | h
      · exact Nat.le_add_right _ _
      · exact Nat.le_trans (ih h) (Nat.le_add_left _ _)

/-- A total is split by a selection. -/
theorem total_select (select : α → Bool) (items : List α) :
    total measure items = total (fun item => if !select item then measure item else 0) items +
      total (fun item => if select item then measure item else 0) items := by
  induction items with
  | nil => rfl
  | cons item rest ih =>
      rw [total_cons, total_cons, total_cons, ih]
      cases select item
      · simp only [Bool.not_false, if_true, Bool.false_eq_true, if_false]
        omega
      · simp only [Bool.not_true, if_true, Bool.false_eq_true, if_false]
        omega

/-- What is left out of a total does not add to it. -/
theorem total_filter_le (keep : α → Bool) (items : List α) :
    total measure (items.filter keep) ≤ total measure items := by
  induction items with
  | nil => exact Nat.le_refl _
  | cons item rest ih =>
      rw [List.filter_cons, total_cons]
      split
      · rw [total_cons]
        omega
      · omega

/-- What is kept and what is left out make up a total. -/
theorem total_filter_add (keep : α → Bool) (items : List α) :
    total measure (items.filter keep) + total measure (items.filter fun item => !keep item) =
      total measure items := by
  induction items with
  | nil => rfl
  | cons item rest ih =>
      rw [List.filter_cons, List.filter_cons, total_cons, ← ih]
      cases keep item
      · simp only [Bool.false_eq_true, if_false, Bool.not_false, if_true, total_cons]
        omega
      · simp only [if_true, Bool.not_true, Bool.false_eq_true, if_false, total_cons]
        omega

theorem total_perm {left right : List α} (h : left.Perm right) :
    total measure left = total measure right := (h.map measure).sum_nat

/-- Leaving out what has no share keeps the total. -/
theorem total_filter_eq {keep : α → Bool} {items : List α}
    (h : ∀ item ∈ items, keep item = true ∨ measure item = 0) :
    total measure (items.filter keep) = total measure items := by
  induction items with
  | nil => rfl
  | cons item rest ih =>
      have hrest := ih fun item hitem => h item (List.mem_cons_of_mem _ hitem)
      rw [List.filter_cons, total_cons]
      split
      · rw [total_cons, hrest]
      · rename_i hdropped
        rcases h item List.mem_cons_self with hkept | hzero
        · exact absurd hkept hdropped
        · rw [hzero, Nat.zero_add, hrest]

theorem total_congr {moved : α → Nat} {items : List α}
    (h : ∀ item ∈ items, moved item = measure item) : total moved items = total measure items := by
  rw [total, List.map_congr_left h, total]

/-- One item gains one, among items told apart by a key. -/
theorem total_succ_at {K : Type} {key : α → K} {moved : α → Nat} {items : List α} {item : α}
    (hnodup : (items.map key).Nodup) (hmem : item ∈ items)
    (hself : moved item = measure item + 1)
    (hother : ∀ other ∈ items, key other ≠ key item → moved other = measure other) :
    total moved items = total measure items + 1 := by
  induction items with
  | nil => cases hmem
  | cons first rest ih =>
      rw [List.map_cons, List.nodup_cons] at hnodup
      obtain ⟨hfresh, hrest⟩ := hnodup
      rw [total_cons, total_cons]
      rcases List.mem_cons.mp hmem with rfl | hmem
      · have hkept : total moved rest = total measure rest := by
          refine total_congr measure fun other hin => ?_
          refine hother other (List.mem_cons_of_mem _ hin) fun heq => hfresh ?_
          exact heq ▸ List.mem_map_of_mem hin
        rw [hself, hkept]
        omega
      · have hne : key first ≠ key item := fun heq => hfresh (heq ▸ List.mem_map_of_mem hmem)
        rw [hother first List.mem_cons_self hne,
          ih hrest hmem fun other hin => hother other (List.mem_cons_of_mem _ hin)]
        omega

variable {items : List α} {item : α} {number : Nat}

/-- One item changes. -/
theorem total_set (h : items[number]? = some item) (moved : α) :
    total measure (items.set number moved) + measure item =
      total measure items + measure moved := by
  induction items generalizing number with
  | nil => cases h
  | cons first rest ih =>
      cases number with
      | zero =>
          obtain rfl := Option.some.inj h
          rw [List.set_cons_zero, total_cons, total_cons]
          omega
      | succ number =>
          have hrest := ih h
          rw [List.set_cons_succ, total_cons, total_cons]
          omega

end

namespace HashMap

variable {K V : Type}

/-- The total of a measure of the values. -/
def totalSize (size : V → Nat) (map : HashMap K V) : Nat :=
  total (fun entry => size entry.2) map.entries

variable [DecidableEq K] (size : V → Nat)

/-- An erased entry takes its share with it. -/
theorem total_kerase (key : K) (entries : List (Sigma fun _ : K => V)) :
    total (fun entry => size entry.2) (List.kerase key entries) +
      ((List.dlookup key entries).map size).getD 0 =
        total (fun entry => size entry.2) entries := by
  induction entries with
  | nil => rfl
  | cons entry rest ih =>
      by_cases hkey : key = entry.1
      · subst hkey
        rw [List.kerase_cons_eq rfl, List.dlookup_cons_eq, total_cons, Nat.add_comm]
        rfl
      · rw [List.kerase_cons_ne hkey, List.dlookup_cons_ne _ _ hkey, total_cons, total_cons]
        omega

/-- An insertion replaces the share of what stood under the key. -/
theorem totalSize_insert (map : HashMap K V) (key : K) (value : V) :
    totalSize size (map.insert key value) + ((map.lookup key).map size).getD 0 =
      totalSize size map + size value := by
  have herased := total_kerase size key map.entries
  have hentries : (map.insert key value).entries = ⟨key, value⟩ :: List.kerase key map.entries :=
    AList.entries_insert
  rw [totalSize, totalSize, hentries, total_cons]
  change size value + _ + ((List.dlookup key map.entries).map size).getD 0 = _
  omega

/-- An erased value takes its share with it. -/
theorem totalSize_erase {map : HashMap K V} {key : K} {value : V}
    (h : map.lookup key = some value) :
    totalSize size (map.erase key) + size value = totalSize size map := by
  have herased := total_kerase size key map.entries
  have hvalue : List.dlookup key map.entries = some value := h
  rw [hvalue, Option.map_some, Option.getD_some] at herased
  exact herased

theorem size_le_totalSize {map : HashMap K V} {key : K} {value : V}
    (h : map.lookup key = some value) : size value ≤ totalSize size map :=
  totalSize_erase size h ▸ Nat.le_add_left _ _

omit [DecidableEq K] in
/-- What `retain` keeps, and what it does not. -/
theorem totalSize_retain (map : HashMap K V) (keep : K → V → Bool) :
    totalSize size (map.retain keep) + total (fun entry => size entry.2)
        (map.entries.filter fun entry => !keep entry.1 entry.2) = totalSize size map :=
  total_filter_add (fun entry : Sigma fun _ : K => V => size entry.2)
    (fun entry => keep entry.1 entry.2) map.entries

end HashMap

/-! ## Counters by label -/

/-- A counter for each label that was counted. -/
abbrev Counters (K : Type) : Type := HashMap K Nat

namespace Counters

variable {K : Type}

/-- The sum over the labels that are selected. -/
def sumWhere (select : K → Bool) (counters : Counters K) : Nat :=
  total (fun entry => if select entry.1 then entry.2 else 0) counters.entries

theorem le_sumWhere {counters : Counters K} {entry : Sigma fun _ : K => Nat}
    (h : entry ∈ counters.entries) : entry.2 ≤ counters.sumWhere fun _ => true :=
  le_total (fun entry : Sigma fun _ : K => Nat => if true then entry.2 else 0) h

theorem sumWhere_true (select : K → Bool) (counters : Counters K) :
    (counters.sumWhere fun _ => true) =
      (counters.sumWhere fun label => !select label) + counters.sumWhere select :=
  total_select (fun entry : Sigma fun _ : K => Nat => entry.2) (fun entry => select entry.1)
    counters.entries

variable [DecidableEq K]

/-- `counters.with_label_values(label).inc()`. -/
def inc (counters : Counters K) (label : K) : Counters K :=
  HashMap.upsert counters label 0 (· + 1)

def value (counters : Counters K) (label : K) : Nat := (counters.lookup label).getD 0

/-- An erased counter takes its share with it. -/
theorem sumWhere_kerase (select : K → Bool) (label : K) (entries : List (Sigma fun _ : K => Nat)) :
    total (fun entry => if select entry.1 then entry.2 else 0) (List.kerase label entries) +
      (if select label then (List.dlookup label entries).getD 0 else 0) =
        total (fun entry => if select entry.1 then entry.2 else 0) entries := by
  induction entries with
  | nil => simp
  | cons entry rest ih =>
      by_cases hlabel : label = entry.1
      · subst hlabel
        rw [List.kerase_cons_eq rfl, List.dlookup_cons_eq, total_cons, Nat.add_comm]
        rfl
      · rw [List.kerase_cons_ne hlabel, List.dlookup_cons_ne _ _ hlabel, total_cons, total_cons]
        omega

theorem sumWhere_inc (select : K → Bool) (counters : Counters K) (label : K) :
    (counters.inc label).sumWhere select =
      counters.sumWhere select + if select label then 1 else 0 := by
  have herased := sumWhere_kerase select label counters.entries
  have hentries : (counters.inc label).entries =
      ⟨label, counters.value label + 1⟩ :: List.kerase label counters.entries :=
    AList.entries_insert
  have hvalue : (List.dlookup label counters.entries).getD 0 = counters.value label := rfl
  rw [sumWhere, hentries, total_cons, sumWhere]
  rw [hvalue] at herased
  dsimp only
  by_cases hselect : select label = true
  · rw [if_pos hselect] at herased
    rw [if_pos hselect, if_pos hselect]
    omega
  · rw [if_neg hselect] at herased
    rw [if_neg hselect, if_neg hselect]
    omega

/-- A counter is the sum over its own label. -/
theorem sumWhere_eq_value (counters : Counters K) (label : K) :
    counters.sumWhere (· == label) = counters.value label := by
  have herased := sumWhere_kerase (· == label) label counters.entries
  have hrest : total (fun entry => if (entry.1 == label) = true then entry.2 else 0)
      (List.kerase label counters.entries) = 0 := by
    refine total_eq_zero _ fun entry hentry => if_neg fun hlabel => ?_
    have hkey := List.mem_keys_of_mem hentry
    rw [eq_of_beq hlabel] at hkey
    exact List.notMem_keys_kerase label counters.nodupKeys hkey
  rw [hrest, Nat.zero_add, if_pos (beq_self_eq_true label)] at herased
  exact herased.symm

end Counters

end GeSensor.Foundation
