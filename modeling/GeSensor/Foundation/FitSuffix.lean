/-
  Foundation/FitSuffix.lean --- the longest suffix of a history that fits a bound.

  A bounded history keeps its newest items.  Given a weight per item and a bound,
  `fitSuffix` is the longest suffix whose weight is within the bound, except that
  the newest item is kept whatever it weighs.  `dropToFit` is the incremental
  step: the oldest items go until the next one fits.  `fitSuffix_concat` says
  that the step computes the suffix.
-/
import Mathlib.Algebra.BigOperators.Group.List.Basic
import Mathlib.Algebra.GroupWithZero.Nat
import Mathlib.Algebra.Order.BigOperators.Group.List
import Mathlib.Algebra.Order.Group.Nat
import Mathlib.Tactic.Common

set_option autoImplicit false

namespace GeSensor.Foundation

variable {α : Type} (weight : α → Nat)

/-- Weight of a list of items. -/
def totalWeight (items : List α) : Nat := (items.map weight).sum

@[simp] theorem totalWeight_nil : totalWeight weight [] = 0 := rfl

@[simp] theorem totalWeight_cons (item : α) (rest : List α) :
    totalWeight weight (item :: rest) = weight item + totalWeight weight rest := by
  simp [totalWeight]

@[simp] theorem totalWeight_append (left right : List α) :
    totalWeight weight (left ++ right) = totalWeight weight left + totalWeight weight right := by
  simp [totalWeight]

theorem totalWeight_le_of_sublist {part whole : List α} (h : part.Sublist whole) :
    totalWeight weight part ≤ totalWeight weight whole :=
  (h.map weight).sum_le_sum fun _ _ => Nat.zero_le _

/-- The longest suffix of weight at most `bound`; the newest item always stays. -/
def fitSuffix (bound : Nat) : List α → List α
  | [] => []
  | item :: rest =>
      if rest = [] ∨ totalWeight weight (item :: rest) ≤ bound then item :: rest
      else fitSuffix bound rest
  termination_by structural items => items

/-- Drop oldest items until `extra` more weight fits. -/
def dropToFit (bound extra : Nat) : List α → List α
  | [] => []
  | item :: rest =>
      if totalWeight weight (item :: rest) + extra > bound then dropToFit bound extra rest
      else item :: rest

theorem fitSuffix_suffix (bound : Nat) (items : List α) :
    fitSuffix weight bound items <:+ items := by
  induction items with
  | nil => exact List.suffix_refl []
  | cons item rest ih =>
      rw [fitSuffix]
      split
      · exact List.suffix_refl _
      · exact ih.trans (List.suffix_cons item rest)

theorem fitSuffix_ne_nil (bound : Nat) {items : List α} (h : items ≠ []) :
    fitSuffix weight bound items ≠ [] := by
  induction items with
  | nil => exact absurd rfl h
  | cons item rest ih =>
      rw [fitSuffix]
      split
      · exact List.cons_ne_nil item rest
      · rename_i hover
        exact ih fun hrest => hover (Or.inl hrest)

/-! ## The longest suffix -/

/-- `kept` is the longest suffix within the bound, or the newest item alone when that is
heavier than the bound. -/
inductive LongestFit (bound : Nat) (items : List α) : List α → Prop where
  | newest {newest : α} : items.getLast? = some newest → bound < weight newest →
      LongestFit bound items [newest]
  | fits {kept : List α} : (∀ newest, items.getLast? = some newest → weight newest ≤ bound) →
      kept <:+ items → totalWeight weight kept ≤ bound →
      (∀ other, other <:+ items → totalWeight weight other ≤ bound →
        other.length ≤ kept.length) →
      LongestFit bound items kept

/-- No longer suffix is within the bound. -/
theorem fitSuffix_maximal {bound : Nat} {items other : List α} (hother : other <:+ items)
    (hfits : totalWeight weight other ≤ bound) :
    other.length ≤ (fitSuffix weight bound items).length := by
  induction items with
  | nil => exact hother.length_le
  | cons item rest ih =>
      rw [fitSuffix]
      split
      · exact hother.length_le
      · rename_i hover
        rcases List.suffix_cons_iff.mp hother with rfl | hrest
        · exact absurd (Or.inr hfits) hover
        · exact ih hrest

theorem totalWeight_fitSuffix_le {bound : Nat} {items : List α}
    (hnewest : ∀ newest, items.getLast? = some newest → weight newest ≤ bound) :
    totalWeight weight (fitSuffix weight bound items) ≤ bound := by
  induction items with
  | nil => exact Nat.zero_le bound
  | cons item rest ih =>
      rw [fitSuffix]
      split
      · rename_i hkept
        rcases hkept with rfl | hfits
        · simpa using hnewest item rfl
        · exact hfits
      · rename_i hover
        have hne : rest ≠ [] := fun hnil => hover (Or.inl hnil)
        apply ih
        intro newest hlast
        apply hnewest newest
        rw [List.getLast?_cons_of_ne_nil hne, hlast]

theorem fitSuffix_eq_newest {bound : Nat} {items : List α} {newest : α}
    (hlast : items.getLast? = some newest) (hheavy : bound < weight newest) :
    fitSuffix weight bound items = [newest] := by
  induction items with
  | nil => cases hlast
  | cons item rest ih =>
      have hmem : newest ∈ item :: rest := List.mem_of_getLast? hlast
      have hover : bound < totalWeight weight (item :: rest) := by
        have hpart := totalWeight_le_of_sublist weight (List.singleton_sublist.mpr hmem)
        rw [totalWeight_cons, totalWeight_nil, Nat.add_zero] at hpart
        exact lt_of_lt_of_le hheavy hpart
      rw [fitSuffix]
      split
      · rename_i hkept
        have hnil : rest = [] := hkept.resolve_right (Nat.not_le_of_lt hover)
        subst hnil
        simpa using hlast
      · rename_i hcut
        have hne : rest ≠ [] := fun hnil => hcut (Or.inl hnil)
        rw [List.getLast?_cons_of_ne_nil hne] at hlast
        exact ih hlast

/-- The recursion computes the longest suffix that fits. -/
theorem fitSuffix_longestFit (bound : Nat) (items : List α) :
    LongestFit weight bound items (fitSuffix weight bound items) := by
  by_cases hnewest : ∀ newest, items.getLast? = some newest → weight newest ≤ bound
  · exact .fits hnewest (fitSuffix_suffix weight bound items)
      (totalWeight_fitSuffix_le weight hnewest)
      fun other hother hfits => fitSuffix_maximal weight hother hfits
  · push Not at hnewest
    obtain ⟨newest, hlast, hheavy⟩ := hnewest
    rw [fitSuffix_eq_newest weight hlast hheavy]
    exact .newest hlast hheavy

/-! ## Appending an item -/

/-- What already went to fit the bound would go again. -/
theorem dropToFit_fitSuffix (bound extra : Nat) (items : List α) :
    dropToFit weight bound extra (fitSuffix weight bound items) =
      dropToFit weight bound extra items := by
  induction items with
  | nil => rfl
  | cons item rest ih =>
      rw [fitSuffix]
      split
      · rfl
      · rename_i hover
        have hheavy : totalWeight weight (item :: rest) + extra > bound := by
          have := not_or.mp hover
          omega
        rw [ih, dropToFit, if_pos hheavy]

/-- Appending an item keeps what fits beside it. -/
theorem fitSuffix_concat (bound : Nat) (items : List α) (newest : α) :
    fitSuffix weight bound (items ++ [newest]) =
      dropToFit weight bound (weight newest) (fitSuffix weight bound items) ++ [newest] := by
  rw [dropToFit_fitSuffix]
  induction items with
  | nil => simp [fitSuffix, dropToFit]
  | cons item rest ih =>
      rw [List.cons_append, fitSuffix, dropToFit]
      have hsum : totalWeight weight (item :: (rest ++ [newest])) =
          totalWeight weight (item :: rest) + weight newest := by
        simp [Nat.add_assoc]
      by_cases hfits : totalWeight weight (item :: rest) + weight newest ≤ bound
      · rw [if_pos (Or.inr (by omega)), if_neg (by omega), List.cons_append]
      · have hover : ¬ (rest ++ [newest] = [] ∨
            totalWeight weight (item :: (rest ++ [newest])) ≤ bound) := by
          rintro (hnil | hle)
          · simp at hnil
          · exact hfits (hsum ▸ hle)
        rw [if_neg hover, if_pos (by omega), ih]

end GeSensor.Foundation
