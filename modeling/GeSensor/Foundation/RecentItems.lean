/-
  Foundation/RecentItems.lean --- a bounded list of the most recent items.

  A new item is appended; when the list is full, its oldest item makes room.  Such a list
  holds the last items of all that were ever appended.
-/
import Mathlib.Data.List.DropRight

set_option autoImplicit false

namespace GeSensor.Foundation

variable {α β : Type} {bound : Nat}

/-- `if items.len() >= bound { items.pop_front(); } items.push_back(item);` -/
def pushRecent (bound : Nat) (items : List α) (item : α) : List α :=
  (if bound ≤ items.length then items.tail else items) ++ [item]

@[simp] theorem length_rtake (bound : Nat) (history : List α) :
    (history.rtake bound).length = min bound history.length := by
  rw [List.rtake, List.length_drop]
  omega

theorem rtake_of_length_le {history : List α} (h : history.length ≤ bound) :
    history.rtake bound = history := by
  rw [List.rtake, Nat.sub_eq_zero_of_le h, List.drop_zero]

theorem map_rtake (f : α → β) (history : List α) :
    (history.rtake bound).map f = (history.map f).rtake bound := by
  rw [List.rtake, List.rtake, List.map_drop, List.length_map]

/-- The step lemma: the last items of a history, and one more. -/
theorem pushRecent_rtake (hbound : 0 < bound) (history : List α) (item : α) :
    pushRecent bound (history.rtake bound) item = (history ++ [item]).rtake bound := by
  obtain ⟨bound, rfl⟩ := Nat.exists_eq_succ_of_ne_zero (Nat.ne_of_gt hbound)
  rw [Nat.succ_eq_add_one, List.rtake_concat_succ, pushRecent, length_rtake]
  refine congrArg (· ++ [item]) ?_
  split
  · rename_i hfull
    have hnext : history.length - (bound + 1) + 1 = history.length - bound := by omega
    rw [List.rtake, List.tail_drop, hnext, List.rtake]
  · rename_i hroom
    rw [rtake_of_length_le (by omega), rtake_of_length_le (by omega)]

end GeSensor.Foundation
