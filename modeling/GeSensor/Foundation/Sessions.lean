/-
  Foundation/Sessions.lean --- a ledger of keyed sessions.

  Items arrive under keys.  The items of a key since the key was last closed form
  its open session; closing a key files that session away.  A table that keeps one
  record per key, creates it on the first item and gives it up on eviction is a
  summary of such a ledger.

  `Ledger.run_conserves` is the accounting law: whatever the order of items and
  closings, every item is in exactly one session, closed or open.
-/
import Mathlib.Data.List.Induction
import Mathlib.Data.List.Perm.Basic
import Mathlib.Data.List.Nodup
import Mathlib.Logic.Function.Basic
import Mathlib.Tactic.Common

set_option autoImplicit false

namespace GeSensor.Foundation

open scoped List

/-- What happens to a table of sessions. -/
inductive SessionEvent (K P : Type) where
  /-- an item arrives under a key -/
  | add (key : K) (item : P)
  /-- the open session of a key is closed -/
  | close (key : K)

/-- The item an event adds, if any. -/
def SessionEvent.item? {K P : Type} : SessionEvent K P → Option P
  | .add _ item => some item
  | .close _ => none

/-- The items of the open sessions, and the closed sessions in order of closing. -/
structure Ledger (K P : Type) where
  openItems : K → List P
  closed : List (K × List P)

namespace Ledger

variable {K P : Type} [DecidableEq K]

omit [DecidableEq K] in
/-- No session yet. -/
def empty : Ledger K P where
  openItems := fun _ => []
  closed := []

/-- Enter one event. -/
def enter (ledger : Ledger K P) : SessionEvent K P → Ledger K P
  | .add key item =>
      { ledger with
        openItems := Function.update ledger.openItems key (ledger.openItems key ++ [item]) }
  | .close key =>
      { openItems := Function.update ledger.openItems key []
        closed := ledger.closed ++ [(key, ledger.openItems key)] }

/-- Enter a sequence of events. -/
def enterAll (ledger : Ledger K P) (events : List (SessionEvent K P)) : Ledger K P :=
  events.foldl enter ledger

/-- The ledger of a sequence of events. -/
def run (events : List (SessionEvent K P)) : Ledger K P := empty.enterAll events

theorem run_append (events more : List (SessionEvent K P)) :
    run (events ++ more) = (run events).enterAll more :=
  List.foldl_append

theorem enterAll_append (ledger : Ledger K P) (events more : List (SessionEvent K P)) :
    ledger.enterAll (events ++ more) = (ledger.enterAll events).enterAll more :=
  List.foldl_append

/-- Closing different keys files each session as it stood, in the given order. -/
theorem enterAll_close {keys : List K} (hdistinct : keys.Nodup) (ledger : Ledger K P) :
    ledger.enterAll (keys.map .close) =
      { openItems := fun key => if key ∈ keys then [] else ledger.openItems key
        closed := ledger.closed ++ keys.map fun key => (key, ledger.openItems key) } := by
  induction keys generalizing ledger with
  | nil => simp [enterAll]
  | cons key rest ih =>
      obtain ⟨hfresh, hrest⟩ := List.nodup_cons.mp hdistinct
      have hother : ∀ other ∈ rest,
          Function.update ledger.openItems key [] other = ledger.openItems other := by
        intro other hmem
        have hne : other ≠ key := by
          rintro rfl
          exact hfresh hmem
        exact Function.update_of_ne hne _ _
      rw [List.map_cons, enterAll, List.foldl_cons]
      change (ledger.enter (.close key)).enterAll (rest.map .close) = _
      rw [ih hrest]
      simp only [enter, List.map_cons, mk.injEq, List.append_assoc, List.singleton_append]
      constructor
      · funext other
        by_cases hmem : other ∈ rest
        · simp [hmem]
        · by_cases heq : other = key
          · simp [heq]
          · simp [hmem, heq]
      · rw [List.map_congr_left fun other hmem => by rw [hother other hmem]]

/-! ## Accounting -/

/-- Changing the list of one key among distinct keys: its new list, and the lists
of the others. -/
theorem flatMap_update_perm {keys : List K} (hdistinct : keys.Nodup) (items : K → List P)
    (key : K) (value : List P) (hvalue : key ∉ keys → value = []) :
    (keys.flatMap (Function.update items key value)).Perm
      (value ++ (keys.erase key).flatMap items) := by
  have hothers : ∀ {others : List K}, key ∉ others →
      others.flatMap (Function.update items key value) = others.flatMap items := by
    intro others hnot
    apply List.flatMap_congr
    intro other hmem
    have hne : other ≠ key := by
      rintro rfl
      exact hnot hmem
    exact Function.update_of_ne hne _ _
  by_cases hmem : key ∈ keys
  · have hrest : key ∉ keys.erase key := hdistinct.not_mem_erase
    refine (List.Perm.flatMap_right _ (List.perm_cons_erase hmem)).trans ?_
    rw [List.flatMap_cons, Function.update_self, hothers hrest]
  · rw [hothers hmem, hvalue hmem, List.erase_of_not_mem hmem, List.nil_append]

omit [DecidableEq K] in
/-- The list of one member is a part of all lists together. -/
theorem sublist_flatMap_of_mem {members : List K} (items : K → List P) {key : K}
    (hmem : key ∈ members) : (items key).Sublist (members.flatMap items) := by
  rw [List.flatMap_def]
  exact List.sublist_flatten_of_mem (List.mem_map_of_mem hmem)

/-- The keys of all open sessions, listed without repetition. -/
structure ListsOpen (ledger : Ledger K P) (live : List K) : Prop where
  nodup : live.Nodup
  covers : ∀ key, key ∉ live → ledger.openItems key = []

/-- Every item is in exactly one session: the closed sessions and the open ones
hold `items`, each as often as it occurs there. -/
def Conserves (ledger : Ledger K P) (items : List P) : Prop :=
  ∀ live, ledger.ListsOpen live →
    (ledger.closed.flatMap Prod.snd ++ live.flatMap ledger.openItems).Perm items

/-- With one key apart, a list of the open keys after an event on that key gives
one before it. -/
theorem listsOpen_cons_erase {ledger : Ledger K P} {key : K} {value : List P} {live : List K}
    {closed : List (K × List P)}
    (hlive : ListsOpen ⟨Function.update ledger.openItems key value, closed⟩ live) :
    ledger.ListsOpen (key :: live.erase key) where
  nodup := List.nodup_cons.mpr ⟨hlive.nodup.not_mem_erase, hlive.nodup.erase key⟩
  covers := by
    intro other hnot
    rw [List.mem_cons, not_or] at hnot
    have hout : other ∉ live := fun hmem => hnot.2 ((List.mem_erase_of_ne hnot.1).mpr hmem)
    have hcovered : Function.update ledger.openItems key value other = [] :=
      hlive.covers other hout
    rwa [Function.update_of_ne hnot.1] at hcovered

omit [DecidableEq K] in
theorem conserves_empty : Conserves (empty : Ledger K P) [] := by
  intro live _
  simp [empty]

/-- The step lemma: an added item is accounted for, a closing loses nothing. -/
theorem Conserves.enter {ledger : Ledger K P} {items : List P} (h : ledger.Conserves items)
    (event : SessionEvent K P) :
    (ledger.enter event).Conserves (items ++ event.item?.toList) := by
  intro live hlive
  cases event with
  | add key item =>
      have hbefore := h _ (listsOpen_cons_erase hlive)
      have hvalue : key ∉ live → ledger.openItems key ++ [item] = [] := by
        intro hnot
        simpa [Ledger.enter] using hlive.covers key hnot
      have hchange := flatMap_update_perm hlive.nodup ledger.openItems key _ hvalue
      -- Move the new item behind everything else.
      calc (ledger.closed.flatMap Prod.snd ++
              live.flatMap (Function.update ledger.openItems key (ledger.openItems key ++ [item])))
        _ ~ ledger.closed.flatMap Prod.snd ++ ((ledger.openItems key ++ [item]) ++
              (live.erase key).flatMap ledger.openItems) := hchange.append_left _
        _ ~ (ledger.closed.flatMap Prod.snd ++
              (key :: live.erase key).flatMap ledger.openItems) ++ [item] := by
            rw [List.flatMap_cons, List.append_assoc, List.append_assoc]
            apply List.Perm.append_left
            rw [List.append_assoc]
            exact List.perm_append_comm.append_left _
        _ ~ items ++ [item] := hbefore.append_right _
  | close key =>
      have hbefore := h _ (listsOpen_cons_erase hlive)
      have hchange := flatMap_update_perm hlive.nodup ledger.openItems
        key [] fun _ => rfl
      calc ((ledger.closed ++ [(key, ledger.openItems key)]).flatMap Prod.snd ++
              live.flatMap (Function.update ledger.openItems key []))
        _ ~ (ledger.closed ++ [(key, ledger.openItems key)]).flatMap Prod.snd ++
              (live.erase key).flatMap ledger.openItems := hchange.append_left _
        _ = ledger.closed.flatMap Prod.snd ++
              (key :: live.erase key).flatMap ledger.openItems := by simp
        _ ~ items ++ Option.toList none := by simpa using hbefore

omit [DecidableEq K] in
/-- The items added by a sequence of events. -/
def addedItems (events : List (SessionEvent K P)) : List P := events.filterMap SessionEvent.item?

omit [DecidableEq K] in
theorem addedItems_append (events more : List (SessionEvent K P)) :
    addedItems (events ++ more) = addedItems events ++ addedItems more :=
  List.filterMap_append

/-- An open session holds only items that were added. -/
theorem mem_addedItems_of_mem_openItems {events : List (SessionEvent K P)} {key : K} {item : P}
    (hmem : item ∈ (run events).openItems key) : item ∈ addedItems events := by
  induction events using List.reverseRecOn with
  | nil => cases hmem
  | append_singleton events event ih =>
      rw [run_append] at hmem
      rw [addedItems_append]
      cases event with
      | add other added =>
          rcases eq_or_ne key other with rfl | hne
          · simp only [enterAll, List.foldl_cons, List.foldl_nil, enter,
              Function.update_self, List.mem_append] at hmem
            exact List.mem_append.mpr (hmem.imp_left ih)
          · simp only [enterAll, List.foldl_cons, List.foldl_nil, enter,
              Function.update_of_ne hne] at hmem
            exact List.mem_append_left _ (ih hmem)
      | close other =>
          rcases eq_or_ne key other with rfl | hne
          · simp [enterAll, enter] at hmem
          · simp only [enterAll, List.foldl_cons, List.foldl_nil, enter,
              Function.update_of_ne hne] at hmem
            exact List.mem_append_left _ (ih hmem)

/-- The accounting law: a ledger conserves the items that were added. -/
theorem run_conserves (events : List (SessionEvent K P)) :
    (run events).Conserves (addedItems events) := by
  induction events using List.reverseRecOn with
  | nil => exact conserves_empty
  | append_singleton events event ih =>
      have hadded : addedItems (events ++ [event]) =
          addedItems events ++ event.item?.toList := by
        rw [addedItems_append]
        cases event <;> rfl
      rw [run_append, hadded]
      exact ih.enter event

end Ledger

end GeSensor.Foundation
