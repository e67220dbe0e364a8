/-
  Foundation/LeastRecent.lean --- caches that give up the least recently used key.

  A cache holds up to `capacity` keys.  A key that is used stays or comes in, and where the
  cache is full the key used longest ago leaves for it; a sweep gives up the keys not used
  for longer than `timeout`.  Keys used at the same reading of the clock may leave in any
  order, so a cache is a relation between the history and the keys that are live.

  Which keys are live is told from the history alone: a key has left exactly if a sweep has
  found it idle since its last use, or as many other keys as the cache holds were used since.

  A history lists the newest event first.
-/
import Mathlib.Data.Finset.Card
import Mathlib.Data.Finset.Filter

set_option autoImplicit false

namespace GeSensor.Foundation

/-- What happens to a cache, at a reading of the clock. -/
inductive CacheEvent (K : Type) where
  | use (key : K) (now : Nat)
  | sweep (now : Nat)

namespace CacheEvent

variable {K : Type} [DecidableEq K]

def now : CacheEvent K → Nat
  | .use _ now | .sweep now => now

/-- The last reading at which a key was used. -/
def lastUse : List (CacheEvent K) → K → Option Nat
  | [], _ => none
  | .use other now :: rest, key => if other = key then some now else lastUse rest key
  | .sweep _ :: rest, key => lastUse rest key

/-- The keys used so far. -/
def used : List (CacheEvent K) → Finset K
  | [] => ∅
  | .use key _ :: rest => insert key (used rest)
  | .sweep _ :: rest => used rest

/-- Since its last use a sweep has found the key idle for longer than the timeout. -/
def Expired (timeout : Nat) : List (CacheEvent K) → K → Prop
  | [], _ => False
  | .use other _ :: rest, key => other ≠ key ∧ Expired timeout rest key
  | .sweep now :: rest, key =>
      Expired timeout rest key ∨ ∃ last, lastUse rest key = some last ∧ timeout < now - last

/-- The other keys whose last use is as late as `recent` asks. -/
def othersUsed (history : List (CacheEvent K)) (recent : Nat → Prop) [DecidablePred recent]
    (key : K) : Finset K :=
  (used history).filter fun other =>
    other ≠ key ∧ ∃ now ∈ lastUse history other, recent now

theorem lastUse_use_self (key : K) (now : Nat) (history : List (CacheEvent K)) :
    lastUse (.use key now :: history) key = some now := if_pos rfl

theorem lastUse_use_of_ne {key other : K} (h : key ≠ other) (now : Nat)
    (history : List (CacheEvent K)) :
    lastUse (.use other now :: history) key = lastUse history key := if_neg h.symm

theorem mem_used_iff {history : List (CacheEvent K)} {key : K} :
    key ∈ used history ↔ (lastUse history key).isSome = true := by
  induction history with
  | nil => simp [used, lastUse]
  | cons event rest ih =>
      cases event with
      | sweep now => exact ih
      | use other now =>
          rw [used, Finset.mem_insert, lastUse, ih]
          split
          · simp [*]
          · rename_i hne
            simp [Ne.symm hne]

theorem mem_othersUsed {history : List (CacheEvent K)} {recent : Nat → Prop}
    [DecidablePred recent] {key other : K} :
    other ∈ othersUsed history recent key ↔
      other ≠ key ∧ ∃ now, lastUse history other = some now ∧ recent now := by
  rw [othersUsed, Finset.mem_filter, mem_used_iff]
  constructor
  · rintro ⟨-, hne, now, hlast, hrecent⟩
    exact ⟨hne, now, hlast, hrecent⟩
  · rintro ⟨hne, now, hlast, hrecent⟩
    exact ⟨Option.isSome_of_mem hlast, hne, now, hlast, hrecent⟩

/-- The last use of a key is one of the readings. -/
theorem lastUse_le {history : List (CacheEvent K)} {key : K} {last bound : Nat}
    (hlast : lastUse history key = some last) (hbound : ∀ event ∈ history, event.now ≤ bound) :
    last ≤ bound := by
  induction history with
  | nil => cases hlast
  | cons event rest ih =>
      have hrest : ∀ event ∈ rest, event.now ≤ bound := fun event hevent =>
        hbound event (List.mem_cons_of_mem _ hevent)
      cases event with
      | sweep now => exact ih hlast hrest
      | use other now =>
          rw [lastUse] at hlast
          split at hlast
          · cases hlast
            exact hbound _ List.mem_cons_self
          · exact ih hlast hrest

/-- A use of another key, not before the last use of this one, takes no other key away. -/
theorem othersUsed_subset_use {history : List (CacheEvent K)} {key other : K} {last now : Nat}
    (hnow : last ≤ now) :
    othersUsed history (last ≤ ·) key ⊆ othersUsed (.use other now :: history) (last ≤ ·) key := by
  intro third hthird
  obtain ⟨hne, reading, hreading, hlater⟩ := mem_othersUsed.mp hthird
  refine mem_othersUsed.mpr ⟨hne, ?_⟩
  by_cases hother : third = other
  · subst hother
    exact ⟨now, lastUse_use_self third now history, hnow⟩
  · exact ⟨reading, (lastUse_use_of_ne hother now history).trans hreading, hlater⟩

end CacheEvent

open CacheEvent

variable {K : Type} [DecidableEq K]

/-- What an event does to the live keys, after a history. -/
inductive LruStep (capacity timeout : Nat) (history : List (CacheEvent K)) (live : Finset K) :
    CacheEvent K → Finset K → Prop
  | hit {key : K} {now : Nat} (hlive : key ∈ live) :
      LruStep capacity timeout history live (.use key now) live
  | room {key : K} {now : Nat} (hnew : key ∉ live) (hroom : live.card < capacity) :
      LruStep capacity timeout history live (.use key now) (insert key live)
  | evict {key oldest : K} {now last : Nat} (hnew : key ∉ live) (hfull : capacity ≤ live.card)
      (hlive : oldest ∈ live) (hlast : lastUse history oldest = some last)
      (holdest : ∀ other ∈ live, ∀ reading, lastUse history other = some reading →
        last ≤ reading) :
      LruStep capacity timeout history live (.use key now) (insert key (live.erase oldest))
  | sweep {now : Nat} {next : Finset K}
      (hnext : ∀ key, key ∈ next ↔ key ∈ live ∧
        ∀ last, lastUse history key = some last → ¬timeout < now - last) :
      LruStep capacity timeout history live (.sweep now) next

/-- The live keys after a history that starts with an empty cache. -/
inductive LruRun (capacity timeout : Nat) : List (CacheEvent K) → Finset K → Prop
  | nil : LruRun capacity timeout [] ∅
  | cons {history : List (CacheEvent K)} {live next : Finset K} {event : CacheEvent K} :
      LruRun capacity timeout history live → LruStep capacity timeout history live event next →
      LruRun capacity timeout (event :: history) next

/-- The readings of the clock never go back. -/
def MonotoneHistory (history : List (CacheEvent K)) : Prop :=
  history.Pairwise fun newer older => older.now ≤ newer.now

/-- What the history tells about the live keys. -/
structure LeastRecent (capacity timeout : Nat) (history : List (CacheEvent K))
    (live : Finset K) : Prop where
  isUsed : ∀ key ∈ live, ∃ last, lastUse history key = some last
  within : live.card ≤ capacity
  fresh : ∀ key ∈ live, ¬Expired timeout history key
  recent : ∀ {key other : K} {last reading : Nat}, key ∉ live → lastUse history key = some last →
    other ∈ live → lastUse history other = some reading → last ≤ reading
  left : ∀ {key : K} {last : Nat}, key ∉ live → lastUse history key = some last →
    Expired timeout history key ∨ capacity ≤ (othersUsed history (last ≤ ·) key).card

namespace LeastRecent

variable {capacity timeout now : Nat} {history : List (CacheEvent K)} {live : Finset K} {key : K}

/-- A key is used, and of the live keys at most one used longest ago leaves. -/
theorem use (h : LeastRecent capacity timeout history live)
    (hclock : ∀ event ∈ history, event.now ≤ now) {kept : Finset K} (hkept : kept ⊆ live)
    (hwithin : (insert key kept).card ≤ capacity)
    (hleft : ∀ {oldest : K} {last : Nat}, oldest ∈ live → oldest ∉ insert key kept →
      lastUse history oldest = some last →
        (∀ other ∈ kept, ∀ reading, lastUse history other = some reading → last ≤ reading) ∧
          (insert key kept).card = capacity) :
    LeastRecent capacity timeout (.use key now :: history) (insert key kept) := by
  have hbefore : ∀ {other : K} {last : Nat}, other ∉ insert key kept →
      lastUse (.use key now :: history) other = some last →
        key ≠ other ∧ lastUse history other = some last := by
    intro other last hother hlast
    have hne : other ≠ key := fun heq => hother (heq ▸ Finset.mem_insert_self _ _)
    exact ⟨hne.symm, (lastUse_use_of_ne hne now history).symm.trans hlast⟩
  -- a key that stays was used at this reading, or is live and was used before
  have hstays : ∀ {other : K} {reading : Nat}, other ∈ insert key kept →
      lastUse (.use key now :: history) other = some reading →
        reading = now ∨ other ∈ kept ∧ lastUse history other = some reading := by
    intro other reading hother hlast
    by_cases heq : other = key
    · rw [heq, lastUse_use_self, Option.some.injEq] at hlast
      exact Or.inl hlast.symm
    · rw [lastUse_use_of_ne heq] at hlast
      exact Or.inr ⟨Finset.mem_of_mem_insert_of_ne hother heq, hlast⟩
  constructor
  case isUsed =>
    intro other hother
    by_cases heq : other = key
    · exact ⟨now, heq ▸ lastUse_use_self key now history⟩
    · rw [lastUse_use_of_ne heq]
      exact h.isUsed other (hkept (Finset.mem_of_mem_insert_of_ne hother heq))
  case within => exact hwithin
  case fresh =>
    rintro other hother ⟨hne, hexpired⟩
    have hlive := hkept (Finset.mem_of_mem_insert_of_ne hother hne.symm)
    exact h.fresh other hlive hexpired
  case recent =>
    intro gone other last reading hgone hnow hother hreading
    have hlast := (hbefore hgone hnow).2
    rcases hstays hother hreading with rfl | ⟨hother, hreading⟩
    · exact lastUse_le hlast hclock
    · by_cases hlive : gone ∈ live
      · exact (hleft hlive hgone hlast).1 other hother reading hreading
      · exact h.recent hlive hlast (hkept hother) hreading
  case left =>
    intro gone last hgone hafter
    obtain ⟨hne, hlast⟩ := hbefore hgone hafter
    have hnow := lastUse_le hlast hclock
    by_cases hlive : gone ∈ live
    · obtain ⟨holdest, hcard⟩ := hleft hlive hgone hlast
      refine Or.inr (Nat.le_trans (Nat.le_of_eq hcard.symm) (Finset.card_le_card ?_))
      intro other hother
      refine mem_othersUsed.mpr ⟨fun heq => hgone (heq ▸ hother), ?_⟩
      by_cases heq : other = key
      · exact ⟨now, heq ▸ lastUse_use_self key now history, hnow⟩
      · have hmem := Finset.mem_of_mem_insert_of_ne hother heq
        obtain ⟨reading, hreading⟩ := h.isUsed other (hkept hmem)
        refine ⟨reading, (lastUse_use_of_ne heq now history).trans hreading, ?_⟩
        exact holdest other hmem reading hreading
    · rcases h.left hlive hlast with hexpired | hcard
      · exact Or.inl ⟨hne, hexpired⟩
      · exact Or.inr (Nat.le_trans hcard (Finset.card_le_card (othersUsed_subset_use hnow)))

/-- A sweep. -/
theorem sweep (h : LeastRecent capacity timeout history live) {next : Finset K}
    (hnext : ∀ key, key ∈ next ↔ key ∈ live ∧
      ∀ last, lastUse history key = some last → ¬timeout < now - last) :
    LeastRecent capacity timeout (.sweep now :: history) next := by
  have hsubset : next ⊆ live := fun key hkey => ((hnext key).mp hkey).1
  constructor
  case isUsed => exact fun key hkey => h.isUsed key (hsubset hkey)
  case within => exact Nat.le_trans (Finset.card_le_card hsubset) h.within
  case fresh =>
    rintro key hkey (hexpired | ⟨last, hlast, hidle⟩)
    · exact h.fresh key (hsubset hkey) hexpired
    · exact ((hnext key).mp hkey).2 last hlast hidle
  case recent =>
    intro gone other last reading hgone hlast hother hreading
    change lastUse history gone = some last at hlast
    by_cases hlive : gone ∈ live
    · -- the key that leaves has been idle for longer than the one that stays
      have hbusy := ((hnext other).mp hother).2 reading hreading
      by_contra hlater
      refine hgone ((hnext gone).mpr ⟨hlive, fun last' hlast' => ?_⟩)
      rw [hlast, Option.some.injEq] at hlast'
      omega
    · exact h.recent hlive hlast (hsubset hother) hreading
  case left =>
    intro gone last hgone hlast
    change lastUse history gone = some last at hlast
    by_cases hlive : gone ∈ live
    · refine Or.inl (Or.inr ⟨last, hlast, ?_⟩)
      by_contra hbusy
      refine hgone ((hnext gone).mpr ⟨hlive, fun last' hlast' => ?_⟩)
      rw [hlast, Option.some.injEq] at hlast'
      exact hlast' ▸ hbusy
    · exact (h.left hlive hlast).imp_left Or.inl

theorem step (h : LeastRecent capacity timeout history live) {event : CacheEvent K}
    {next : Finset K} (hclock : ∀ older ∈ history, older.now ≤ event.now)
    (hstep : LruStep capacity timeout history live event next) :
    LeastRecent capacity timeout (event :: history) next := by
  cases hstep with
  | @hit key now hlive =>
      rw [← Finset.insert_eq_of_mem hlive]
      refine h.use hclock (Finset.Subset.refl live) ?_ fun hmem hgone => ?_
      · rw [Finset.insert_eq_of_mem hlive]
        exact h.within
      · exact absurd (Finset.mem_insert_of_mem hmem) hgone
  | @room key now hnew hroom =>
      refine h.use hclock (Finset.Subset.refl live) ?_ fun hmem hgone => ?_
      · rw [Finset.card_insert_of_notMem hnew]
        exact hroom
      · exact absurd (Finset.mem_insert_of_mem hmem) hgone
  | @evict key oldest now last hnew hfull hlive hlast holdest =>
      have hcard : (insert key (live.erase oldest)).card = capacity := by
        rw [Finset.card_insert_of_notMem fun hmem => hnew (Finset.mem_of_mem_erase hmem),
          Finset.card_erase_add_one hlive]
        exact Nat.le_antisymm h.within hfull
      refine h.use hclock (Finset.erase_subset oldest live) (Nat.le_of_eq hcard) ?_
      intro gone last' hmem hgone hlast'
      have heq : gone = oldest := by
        by_contra hne
        exact hgone (Finset.mem_insert_of_mem (Finset.mem_erase.mpr ⟨hne, hmem⟩))
      rw [heq, hlast, Option.some.injEq] at hlast'
      subst hlast'
      exact ⟨fun other hother => holdest other (Finset.mem_of_mem_erase hother), hcard⟩
  | sweep hnext => exact h.sweep hnext

/-- While a key is live, fewer others than the cache holds were used after its last use. -/
theorem othersUsed_card_lt (h : LeastRecent capacity timeout history live) (hlive : key ∈ live)
    {last : Nat} (hlast : lastUse history key = some last) :
    (othersUsed history (last < ·) key).card < capacity := by
  have hsubset : othersUsed history (last < ·) key ⊆ live.erase key := by
    intro other hother
    obtain ⟨hne, reading, hreading, hlater⟩ := mem_othersUsed.mp hother
    refine Finset.mem_erase.mpr ⟨hne, ?_⟩
    by_contra hgone
    exact Nat.not_lt.mpr (h.recent hgone hreading hlive hlast) hlater
  have hcard := Finset.card_le_card hsubset
  have herased := Finset.card_erase_add_one hlive
  have hwithin := h.within
  omega

end LeastRecent

/-- The run lemma. -/
theorem LruRun.leastRecent {capacity timeout : Nat} {history : List (CacheEvent K)}
    {live : Finset K} (hrun : LruRun capacity timeout history live)
    (hclock : MonotoneHistory history) : LeastRecent capacity timeout history live := by
  induction hrun with
  | nil =>
      constructor
      case isUsed => exact fun key hkey => absurd hkey (Finset.notMem_empty key)
      case within => exact Nat.zero_le capacity
      case fresh => exact fun key hkey => absurd hkey (Finset.notMem_empty key)
      case recent => exact fun _ hlast => absurd hlast.symm (Option.some_ne_none _)
      case left => exact fun _ hlast => absurd hlast.symm (Option.some_ne_none _)
  | cons _ hstep ih =>
      obtain ⟨hlater, hrest⟩ := List.pairwise_cons.mp hclock
      exact (ih hrest).step hlater hstep

/-- Which keys are live, where no two keys were last used at one reading: those that no sweep
has found idle since their last use, and after whose last use fewer other keys were used than
the cache holds. -/
theorem LruRun.mem_iff {capacity timeout : Nat} {history : List (CacheEvent K)}
    {live : Finset K} (hrun : LruRun capacity timeout history live)
    (hclock : MonotoneHistory history) {key : K} {last : Nat}
    (hlast : lastUse history key = some last)
    (hapart : ∀ other, lastUse history other = some last → other = key) :
    key ∈ live ↔ ¬Expired timeout history key ∧
      (othersUsed history (last < ·) key).card < capacity := by
  have h := hrun.leastRecent hclock
  refine ⟨fun hlive => ⟨h.fresh key hlive, h.othersUsed_card_lt hlive hlast⟩, ?_⟩
  rintro ⟨hfresh, hcard⟩
  by_contra hgone
  have hfull := (h.left hgone hlast).resolve_left hfresh
  have hsubset : othersUsed history (last ≤ ·) key ⊆ othersUsed history (last < ·) key := by
    intro other hother
    obtain ⟨hne, reading, hreading, hlater⟩ := mem_othersUsed.mp hother
    refine mem_othersUsed.mpr ⟨hne, reading, hreading, Nat.lt_of_le_of_ne hlater ?_⟩
    exact fun heq => hne (hapart other (heq ▸ hreading))
  exact absurd (Finset.card_le_card hsubset) (by omega)

end GeSensor.Foundation
