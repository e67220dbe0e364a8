/-
  Foundation/Linearizable.lean --- histories of a shared object.

  A sequential object says what a call answers and what it does to the state when
  calls are made one after the other.  A history of overlapping calls is
  linearizable when its answers are those of some sequential order of the calls
  that keeps every call behind the calls that had returned before it began.

  The order is kept as a log that grows by one entry when a call takes effect.
  Three rules carry a linearization along a run: a call begins, a call takes
  effect, a call returns the answer it has in the log.
-/
import GeSensor.Foundation.Reachable

set_option autoImplicit false

namespace GeSensor.Foundation

variable {State Call Answer : Type}

/-- One call of a history. -/
structure Operation (Call Answer : Type) where
  call : Call
  /-- what it has returned, if it has -/
  answer : Option Answer
  /-- the numbers of the calls that had returned when it began -/
  returnedBefore : List Nat

/-- The calls of a history that have returned. -/
def returned (history : List (Operation Call Answer)) : List Nat :=
  (List.range history.length).filter fun number =>
    (history[number]?.bind Operation.answer).isSome

section

variable (object : State → Call → Answer × State)

/-- The log lists calls of the history by number, with the answers the sequential
object gives when it performs them in this order. -/
inductive Legal (history : List (Operation Call Answer)) (start : State) :
    List (Nat × Answer) → State → Prop
  | nil : Legal history start [] start
  | snoc {log : List (Nat × Answer)} {state : State} {number : Nat}
      {operation : Operation Call Answer} : Legal history start log state →
      history[number]? = some operation →
      Legal history start (log ++ [(number, (object state operation.call).1)])
        (object state operation.call).2

/-- The history is explained by the log: a sequential order that ends in the given
state, performs no call twice, contains every answer returned, and performs no
call before one that had returned when it began. -/
structure Linearization (start : State) (history : List (Operation Call Answer))
    (log : List (Nat × Answer)) (final : State) : Prop where
  legal : Legal object history start log final
  nodup : (log.map Prod.fst).Nodup
  answered : ∀ {number : Nat} {operation : Operation Call Answer} {answer : Answer},
    history[number]? = some operation → operation.answer = some answer → (number, answer) ∈ log
  ordered : log.Pairwise fun earlier later => ∀ operation,
    history[earlier.1]? = some operation → later.1 ∉ operation.returnedBefore
  /-- the calls recorded as returned have returned -/
  past : ∀ {number : Nat} {operation : Operation Call Answer},
    history[number]? = some operation →
      ∀ other ∈ operation.returnedBefore, other ∈ returned history

/-- The answers of the history are those of some sequential order of its calls,
which ends in the given state. -/
def LinearizesTo (start : State) (history : List (Operation Call Answer)) (final : State) :
    Prop :=
  ∃ log, Linearization object start history log final

end

theorem mem_returned {history : List (Operation Call Answer)} {number : Nat} :
    number ∈ returned history ↔
      ∃ operation answer, history[number]? = some operation ∧ operation.answer = some answer := by
  unfold returned
  rw [List.mem_filter, List.mem_range]
  constructor
  · rintro ⟨_, hanswer⟩
    obtain ⟨answer, h⟩ := Option.isSome_iff_exists.mp hanswer
    obtain ⟨operation, hoperation, hanswer⟩ := Option.bind_eq_some_iff.mp h
    exact ⟨operation, answer, hoperation, hanswer⟩
  · rintro ⟨operation, answer, hoperation, hanswer⟩
    refine ⟨(List.getElem?_eq_some_iff.mp hoperation).1, ?_⟩
    rw [hoperation, Option.bind_some, hanswer]
    rfl

variable {object : State → Call → Answer × State} {start state : State}
  {history : List (Operation Call Answer)} {log : List (Nat × Answer)}

/-- A log depends on the history's calls only. -/
theorem Legal.mono (h : Legal object history start log state)
    {history' : List (Operation Call Answer)}
    (hcalls : ∀ {number : Nat} {operation : Operation Call Answer},
      history[number]? = some operation →
        ∃ operation', history'[number]? = some operation' ∧ operation'.call = operation.call) :
    Legal object history' start log state := by
  induction h with
  | nil => exact .nil
  | snoc _ hoperation ih =>
      obtain ⟨operation', hoperation', hcall⟩ := hcalls hoperation
      rw [← hcall]
      exact .snoc ih hoperation'

/-- An entry of a log is a call of the history, with an answer that the sequential
object gives to it. -/
theorem Legal.of_mem (h : Legal object history start log state) {number : Nat} {answer : Answer}
    (hmem : (number, answer) ∈ log) :
    ∃ operation before, history[number]? = some operation ∧
      (object before operation.call).1 = answer := by
  induction h with
  | nil => cases hmem
  | snoc _ hoperation ih =>
      rcases List.mem_append.mp hmem with hmem | hmem
      · exact ih hmem
      · obtain ⟨rfl, rfl⟩ := Prod.mk.inj (List.mem_singleton.mp hmem)
        exact ⟨_, _, hoperation, rfl⟩

/-- When one call returns, every call is still there. -/
theorem getElem?_respond {number other : Nat} {operation op : Operation Call Answer}
    {answer : Answer} (hoperation : history[number]? = some operation)
    (hop : history[other]? = some op) :
    ∃ op', (history.set number { operation with answer := some answer })[other]? = some op' ∧
      op'.call = op.call ∧ (op.answer.isSome = true → op'.answer.isSome = true) := by
  rcases Decidable.em (number = other) with rfl | hne
  · rw [hoperation, Option.some.injEq] at hop
    have hnumber := (List.getElem?_eq_some_iff.mp hoperation).1
    exact ⟨_, List.getElem?_set_self hnumber, by rw [hop], fun _ => rfl⟩
  · exact ⟨op, (List.getElem?_set_ne hne).trans hop, rfl, id⟩

/-- When one call returns, those that had returned have returned. -/
theorem mem_returned_respond {number other : Nat} {operation : Operation Call Answer}
    {answer : Answer} (hoperation : history[number]? = some operation)
    (hother : other ∈ returned history) :
    other ∈ returned (history.set number { operation with answer := some answer }) := by
  obtain ⟨op, value, hop, hvalue⟩ := mem_returned.mp hother
  obtain ⟨op', hop', _, hsome⟩ := getElem?_respond hoperation hop
  obtain ⟨value', hvalue'⟩ := Option.isSome_iff_exists.mp (hsome (by rw [hvalue]; rfl))
  exact mem_returned.mpr ⟨op', value', hop', hvalue'⟩

namespace Linearization

/-- The empty history. -/
theorem empty : Linearization object start [] [] start where
  legal := .nil
  nodup := .nil
  answered := by
    intro _ _ _ h
    cases h
  ordered := .nil
  past := by
    intro _ _ h
    cases h

/-- A call of the log is a call of the history. -/
theorem lt_length (h : Linearization object start history log state) {number : Nat}
    (hmem : number ∈ log.map Prod.fst) : number < history.length := by
  obtain ⟨⟨_, answer⟩, hentry, rfl⟩ := List.mem_map.mp hmem
  obtain ⟨operation, _, hoperation, _⟩ := h.legal.of_mem hentry
  exact (List.getElem?_eq_some_iff.mp hoperation).1

/-- A call begins. -/
theorem invoke (h : Linearization object start history log state) (call : Call) :
    Linearization object start (history ++ [⟨call, none, returned history⟩]) log state := by
  refine ⟨h.legal.mono fun hoperation => ⟨_, getElem?_join hoperation, rfl⟩, h.nodup, ?_, ?_, ?_⟩
  · intro number operation answer hoperation hanswer
    rcases party_of_join hoperation with rfl | hoperation
    · cases hanswer
    · exact h.answered hoperation hanswer
  · refine h.ordered.imp_of_mem fun {earlier later} hearlier _ hpair operation hoperation => ?_
    have hin := h.lt_length (List.mem_map_of_mem hearlier)
    rw [List.getElem?_append_left hin] at hoperation
    exact hpair operation hoperation
  · intro number operation hoperation other hother
    have hreturned : other ∈ returned history := by
      rcases party_of_join hoperation with rfl | hoperation
      · exact hother
      · exact h.past hoperation other hother
    obtain ⟨earlier, answer, hearlier, hanswer⟩ := mem_returned.mp hreturned
    exact mem_returned.mpr ⟨earlier, answer, getElem?_join hearlier, hanswer⟩

/-- A call takes effect. -/
theorem takeEffect (h : Linearization object start history log state) {number : Nat}
    {operation : Operation Call Answer} (hoperation : history[number]? = some operation)
    (hnew : number ∉ log.map Prod.fst) :
    Linearization object start history (log ++ [(number, (object state operation.call).1)])
      (object state operation.call).2 := by
  refine ⟨.snoc h.legal hoperation, ?_, ?_, ?_, h.past⟩
  · rw [List.map_append, List.nodup_append]
    refine ⟨h.nodup, List.pairwise_singleton _ _, ?_⟩
    rintro earlier hearlier later hlater rfl
    have hself : earlier = number := List.mem_singleton.mp hlater
    exact hnew (hself ▸ hearlier)
  · intro other op answer hop hanswer
    exact List.mem_append_left _ (h.answered hop hanswer)
  · rw [List.pairwise_append]
    refine ⟨h.ordered, List.pairwise_singleton _ _, ?_⟩
    intro earlier _ later hlater op hop hbefore
    rw [List.mem_singleton.mp hlater] at hbefore
    obtain ⟨done, answer, hdone, hanswer⟩ := mem_returned.mp (h.past hop number hbefore)
    exact hnew (List.mem_map_of_mem (h.answered hdone hanswer))

/-- A call returns the answer it has in the log. -/
theorem respond (h : Linearization object start history log state) {number : Nat}
    {operation : Operation Call Answer} {answer : Answer}
    (hoperation : history[number]? = some operation) (hmem : (number, answer) ∈ log) :
    Linearization object start
      (history.set number { operation with answer := some answer }) log state := by
  refine ⟨h.legal.mono fun hop => ?_, h.nodup, ?_, ?_, ?_⟩
  · obtain ⟨op', hop', hcall, _⟩ := getElem?_respond hoperation hop
    exact ⟨op', hop', hcall⟩
  · intro other op value hop hvalue
    rcases party_of_set hop with ⟨rfl, rfl⟩ | ⟨_, hop⟩
    · exact Option.some.inj hvalue ▸ hmem
    · exact h.answered hop hvalue
  · refine h.ordered.imp fun {earlier later} hpair op hop => ?_
    rcases party_of_set hop with ⟨hself, rfl⟩ | ⟨_, hop⟩
    · exact hpair operation (hself ▸ hoperation)
    · exact hpair op hop
  · intro other op hop earlier hearlier
    rcases party_of_set hop with ⟨rfl, rfl⟩ | ⟨_, hop⟩
    · exact mem_returned_respond hoperation (h.past hoperation earlier hearlier)
    · exact mem_returned_respond hoperation (h.past hop earlier hearlier)

end Linearization

end GeSensor.Foundation
