/-
  Foundation/Orbit.lean --- repeated steps of a partial function.

  A computation that jumps from place to place, with at most one way on from each
  place, ends or goes on for ever.  Over a finite set of places the dichotomy is
  exact (`ends_iff_not_revisits`): it ends if and only if it never comes back to
  a place it has been to, and then it ends within as many jumps as there are
  places to jump from.
-/
import Mathlib.Data.Finset.Card
import Mathlib.Tactic.Common

set_option autoImplicit false

namespace GeSensor.Foundation

variable {α : Type} (next : α → Option α)

/-- The place after `count` jumps; `none` when there is no way on before. -/
def orbit : Nat → α → Option α
  | 0, start => some start
  | count + 1, start => (next start).bind (orbit count)

/-- The jumps come to an end. -/
def Ends (start : α) : Prop := ∃ count, orbit next count start = none

/-- The jumps come back to a place. -/
def Revisits (start : α) : Prop :=
  ∃ first later place, first < later ∧
    orbit next first start = some place ∧ orbit next later start = some place

variable {next}

theorem orbit_add (first more : Nat) (start : α) :
    orbit next (first + more) start = (orbit next first start).bind (orbit next more) := by
  induction first generalizing start with
  | zero => rw [Nat.zero_add, orbit, Option.bind_some]
  | succ first ih =>
      rw [Nat.succ_add, orbit, orbit]
      cases next start with
      | none => rfl
      | some place => exact ih place

/-- An orbit that has ended does not resume. -/
theorem orbit_eq_none_of_le {count later : Nat} {start : α} (hle : count ≤ later)
    (hend : orbit next count start = none) : orbit next later start = none := by
  obtain ⟨more, rfl⟩ := Nat.exists_eq_add_of_le hle
  rw [orbit_add, hend, Option.bind_none]

/-- The next step of an orbit leaves from its current place. -/
theorem orbit_succ_eq_none_iff {count : Nat} {start place : α}
    (hplace : orbit next count start = some place) :
    orbit next (count + 1) start = none ↔ next place = none := by
  rw [orbit_add, hplace, Option.bind_some]
  cases hnext : next place with
  | none => simp [orbit, hnext]
  | some other => simp [orbit, hnext]

/-- A place that comes back once comes back again and again. -/
theorem orbit_mul_of_return {period : Nat} {place : α}
    (hreturn : orbit next period place = some place) (rounds : Nat) :
    orbit next (rounds * period) place = some place := by
  induction rounds with
  | zero => rw [Nat.zero_mul, orbit]
  | succ rounds ih => rw [Nat.succ_mul, orbit_add, ih, Option.bind_some, hreturn]

theorem not_ends_of_revisits {start : α} (h : Revisits next start) : ¬ Ends next start := by
  obtain ⟨first, later, place, hlt, hfirst, hlater⟩ := h
  rintro ⟨count, hend⟩
  obtain ⟨period, rfl⟩ := Nat.exists_eq_add_of_lt hlt
  have hreturn : orbit next (period + 1) place = some place := by
    rw [Nat.add_assoc, orbit_add, hfirst, Option.bind_some] at hlater
    exact hlater
  have hround : orbit next (first + count * (period + 1)) start = some place := by
    rw [orbit_add, hfirst, Option.bind_some, orbit_mul_of_return hreturn]
  have hlate : count ≤ first + count * (period + 1) := by
    have hrounds : count ≤ count * (period + 1) :=
      Nat.le_mul_of_pos_right count (Nat.succ_pos period)
    omega
  rw [orbit_eq_none_of_le hlate hend] at hround
  cases hround

/-- Without a revisit the orbit uses every place to jump from at most once. -/
theorem orbit_eq_none_of_not_revisits (places : Finset α)
    (hplaces : ∀ place, next place ≠ none → place ∈ places) {start : α}
    (h : ¬ Revisits next start) : orbit next (places.card + 1) start = none := by
  by_contra hlong
  -- Each of the first `card + 1` places has a way on, so two of them agree.
  have hvisit : ∀ count ∈ Finset.range (places.card + 1),
      ∃ place ∈ places, orbit next count start = some place := by
    intro count hcount
    have hsucc : orbit next (count + 1) start ≠ none := fun hend =>
      hlong (orbit_eq_none_of_le (Nat.succ_le_of_lt (Finset.mem_range.mp hcount)) hend)
    cases hplace : orbit next count start with
    | none => exact absurd (orbit_eq_none_of_le (Nat.le_succ count) hplace) hsucc
    | some place =>
        refine ⟨place, hplaces place ?_, rfl⟩
        exact fun hnext => hsucc ((orbit_succ_eq_none_iff hplace).mpr hnext)
  have hmaps : ∀ count ∈ Finset.range (places.card + 1),
      (orbit next count start).getD start ∈ places := by
    intro count hcount
    obtain ⟨place, hmem, hplace⟩ := hvisit count hcount
    rwa [hplace]
  obtain ⟨first, hfirst, later, hlater, hne, heq⟩ :=
    Finset.exists_ne_map_eq_of_card_lt_of_maps_to (by simp) hmaps
  obtain ⟨place, _, hplace⟩ := hvisit first hfirst
  obtain ⟨other, _, hother⟩ := hvisit later hlater
  have hsame : place = other := by simpa [hplace, hother] using heq
  subst hsame
  rcases Nat.lt_or_gt_of_ne hne with hlt | hgt
  · exact h ⟨first, later, place, hlt, hplace, hother⟩
  · exact h ⟨later, first, place, hgt, hother, hplace⟩

/-- Over finitely many places, ending is the same as never coming back. -/
theorem ends_iff_not_revisits (places : Finset α)
    (hplaces : ∀ place, next place ≠ none → place ∈ places) (start : α) :
    Ends next start ↔ ¬ Revisits next start := by
  constructor
  · intro hends hrevisits
    exact not_ends_of_revisits hrevisits hends
  · intro h
    exact ⟨_, orbit_eq_none_of_not_revisits places hplaces h⟩

end GeSensor.Foundation
