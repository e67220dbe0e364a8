/-
  Foundation/Reachable.lean --- runs of a labelled step function.

  Concurrent parties are modelled by one state and one partial step function:
  a label names the party that moves and what the outside world answers, and
  `step state label = none` says that the move is not possible.  A run is any
  sequence of possible moves, so quantifying over reachable states quantifies
  over every interleaving.

  `ReachableBy` records only runs whose every step meets a given condition; with
  the trivial condition it is plain reachability.  `Run` keeps the labels as well.
  Where the parties are kept in a list, a move of one of them is a `set` and a new
  one joins at the end.
-/
set_option autoImplicit false

namespace GeSensor.Foundation

variable {State Label : Type} {step : State → Label → Option State}

/-- States reached from `start` by steps that meet `allowed`. -/
inductive ReachableBy (step : State → Label → Option State) (allowed : State → Label → Prop)
    (start : State) : State → Prop
  | start : ReachableBy step allowed start start
  | step {state next : State} {label : Label} : ReachableBy step allowed start state →
      allowed state label → step state label = some next →
      ReachableBy step allowed start next

/-- States reached by any run. -/
abbrev Reachable (step : State → Label → Option State) (start : State) : State → Prop :=
  ReachableBy step (fun _ _ => True) start

/-- What is reached from a state that was reached is reached. -/
theorem Reachable.later {allowed : State → Label → Prop} {start state later : State}
    (h : Reachable step start state) (hlater : ReachableBy step allowed state later) :
    Reachable step start later := by
  induction hlater with
  | start => exact h
  | step _ _ hmove ih => exact .step ih trivial hmove

/-- The invariant rule: what holds at the start and is kept by every allowed step
holds in every state reached. -/
theorem ReachableBy.invariant {allowed : State → Label → Prop} {start : State}
    (inv : State → Prop) (hstart : inv start)
    (hstep : ∀ {state next label}, inv state → allowed state label →
      step state label = some next → inv next)
    {state : State} (h : ReachableBy step allowed start state) : inv state := by
  induction h with
  | start => exact hstart
  | step _ hallowed hmove ih => exact hstep ih hallowed hmove

/-- Follow a sequence of labels; `none` when some move is impossible or not
allowed. -/
def runLabels (step : State → Label → Option State) (allowed : State → Label → Bool)
    (state : State) : List Label → Option State
  | [] => some state
  | label :: rest =>
      if allowed state label then
        (step state label).bind fun next => runLabels step allowed next rest
      else none

/-- A sequence of labels that can be followed reaches its last state. -/
theorem reachableBy_of_runLabels {allowed : State → Label → Prop}
    [∀ state label, Decidable (allowed state label)] {start : State} :
    ∀ (labels : List Label) {state final : State},
      ReachableBy step allowed start state →
      runLabels step (fun state label => decide (allowed state label)) state labels =
        some final →
      ReachableBy step allowed start final := by
  intro labels
  induction labels with
  | nil =>
      intro state final h hrun
      rw [runLabels, Option.some.injEq] at hrun
      exact hrun ▸ h
  | cons label rest ih =>
      intro state final h hrun
      rw [runLabels] at hrun
      split at hrun
      · rename_i hallowed
        obtain ⟨next, hmove, hrest⟩ := Option.bind_eq_some_iff.mp hrun
        exact ih (.step h (of_decide_eq_true hallowed) hmove) hrest
      · cases hrun

/-- The run with these labels leads from `start` to the state. -/
inductive Run (step : State → Label → Option State) (start : State) : List Label → State → Prop
  | nil : Run step start [] start
  | snoc {labels : List Label} {state next : State} {label : Label} :
      Run step start labels state → step state label = some next →
      Run step start (labels ++ [label]) next

theorem Run.reachable {start state : State} {labels : List Label}
    (h : Run step start labels state) : Reachable step start state := by
  induction h with
  | nil => exact .start
  | snoc _ hmove ih => exact .step ih trivial hmove

/-- A sequence of labels that can be followed is a run. -/
theorem Run.append {start : State} (labels : List Label) :
    ∀ {before : List Label} {state final : State}, Run step start before state →
      runLabels step (fun _ _ => true) state labels = some final →
      Run step start (before ++ labels) final := by
  induction labels with
  | nil =>
      intro before state final h hrun
      rw [runLabels, Option.some.injEq] at hrun
      rw [List.append_nil]
      exact hrun ▸ h
  | cons label rest ih =>
      intro before state final h hrun
      rw [runLabels, if_pos rfl] at hrun
      obtain ⟨next, hmove, hrest⟩ := Option.bind_eq_some_iff.mp hrun
      have hrun' := ih (h.snoc hmove) hrest
      rwa [List.append_assoc] at hrun'

/-- What a run has seen: when a step marks the state exactly if its label does, a run
marks it exactly if one of its labels does. -/
theorem runLabels_marked_iff {allowed : State → Label → Bool} (inv marked : State → Prop)
    (marks : Label → Prop)
    (hstep : ∀ {state next label}, inv state → allowed state label = true →
      step state label = some next → inv next ∧ (marked next ↔ marked state ∨ marks label)) :
    ∀ {labels : List Label} {state final : State}, inv state →
      runLabels step allowed state labels = some final →
      inv final ∧ (marked final ↔ marked state ∨ ∃ label ∈ labels, marks label) := by
  intro labels
  induction labels with
  | nil =>
      intro state final h hrun
      rw [runLabels, Option.some.injEq] at hrun
      subst hrun
      exact ⟨h, by simp⟩
  | cons label rest ih =>
      intro state final h hrun
      rw [runLabels] at hrun
      split at hrun
      · rename_i hallowed
        obtain ⟨next, hmove, hrest⟩ := Option.bind_eq_some_iff.mp hrun
        obtain ⟨hnext, hmarked⟩ := hstep h hallowed hmove
        obtain ⟨hfinal, hseen⟩ := ih hnext hrest
        refine ⟨hfinal, ?_⟩
        simp only [hseen, hmarked, List.mem_cons, exists_eq_or_imp, or_assoc]
      · cases hrun

/-! ## What a run shows -/

/-- The system with all that its moves have shown so far. -/
def traced {Shown : Type} (step : State → Label → Option State)
    (shows : State → Label → List Shown) (now : State × List Shown) (label : Label) :
    Option (State × List Shown) :=
  (step now.1 label).map fun next => (next, now.2 ++ shows now.1 label)

/-- A run by steps that meet `allowed`, with what it has shown. -/
abbrev TracedBy {Shown : Type} (step : State → Label → Option State)
    (shows : State → Label → List Shown) (allowed : State → Label → Prop) (start state : State)
    (seen : List Shown) : Prop :=
  ReachableBy (traced step shows) (fun now label => allowed now.1 label) (start, []) (state, seen)

/-- The invariant rule for what a run shows. -/
theorem TracedBy.invariant {Shown : Type} {shows : State → Label → List Shown}
    (allowed : State → Label → Prop) {start state : State} {seen : List Shown}
    (h : TracedBy step shows allowed start state seen) (inv : State → List Shown → Prop)
    (hstart : inv start [])
    (hstep : ∀ (state next : State) (seen : List Shown) (label : Label), inv state seen →
      allowed state label → step state label = some next →
        inv next (seen ++ shows state label)) : inv state seen := by
  have hkept := ReachableBy.invariant (fun now => inv now.1 now.2) hstart
    (fun {now after label} hinv hallowed hmove => ?_) h
  · exact hkept
  · obtain ⟨next, hnext, rfl⟩ := Option.map_eq_some_iff.mp hmove
    exact hstep _ _ _ _ hinv hallowed hnext

/-! ## Parties in a list -/

section

variable {Party : Type} {parties : List Party} {number other : Nat} {party moved : Party}

/-- A move of one party leaves the others where they are. -/
theorem party_of_set (hparty : (parties.set number moved)[other]? = some party) :
    (other = number ∧ party = moved) ∨ (other ≠ number ∧ parties[other]? = some party) := by
  rw [List.getElem?_set] at hparty
  split at hparty
  · rename_i hself
    split at hparty
    · exact Or.inl ⟨hself.symm, (Option.some.inj hparty).symm⟩
    · cases hparty
  · rename_i hother
    exact Or.inr ⟨Ne.symm hother, hparty⟩

/-- Two parties that differ are at two places. -/
theorem number_ne_of_party_ne {another : Party} (hparty : parties[number]? = some party)
    (hanother : parties[other]? = some another) (hne : another ≠ party) : other ≠ number := by
  rintro rfl
  exact hne (Option.some.inj (hanother.symm.trans hparty))

/-- What holds of every party holds after a move of one that keeps it. -/
theorem forall_mem_set {holds : Party → Prop} (h : ∀ party ∈ parties, holds party)
    (hmoved : holds moved) : ∀ party ∈ parties.set number moved, holds party := by
  intro party hmem
  rcases List.mem_or_eq_of_mem_set hmem with hmem | rfl
  · exact h party hmem
  · exact hmoved

theorem forall_mem_join {holds : Party → Prop} (h : ∀ party ∈ parties, holds party)
    (hmoved : holds moved) : ∀ party ∈ parties ++ [moved], holds party := by
  intro party hmem
  rcases List.mem_append.mp hmem with hmem | hmem
  · exact h party hmem
  · exact List.mem_singleton.mp hmem ▸ hmoved

/-- A party that joins is the last. -/
theorem number_of_join (hparty : (parties ++ [moved])[other]? = some party) :
    parties[other]? = some party ∨ other = parties.length ∧ party = moved := by
  rcases Nat.lt_or_ge other parties.length with hlt | hge
  · exact Or.inl (List.getElem?_append_left hlt ▸ hparty)
  · rw [List.getElem?_append_right hge, List.getElem?_singleton] at hparty
    split at hparty
    · exact Or.inr ⟨by omega, (Option.some.inj hparty).symm⟩
    · cases hparty

/-- A party that joins leaves the others where they are. -/
theorem party_of_join (hparty : (parties ++ [moved])[other]? = some party) :
    party = moved ∨ parties[other]? = some party := by
  rcases number_of_join hparty with hparty | ⟨-, hmoved⟩
  · exact Or.inr hparty
  · exact Or.inl hmoved

/-- One party has a property, or one of the others has. -/
theorem exists_mem_iff_of_getElem? {holds : Party → Prop} (hparty : parties[number]? = some party) :
    (∃ party ∈ parties, holds party) ↔ holds party ∨
      ∃ (other : Nat) (another : Party), other ≠ number ∧ parties[other]? = some another ∧
        holds another := by
  constructor
  · rintro ⟨another, hmem, hholds⟩
    obtain ⟨other, hother⟩ := List.mem_iff_getElem?.mp hmem
    by_cases hne : other = number
    · rw [hne, hparty, Option.some.injEq] at hother
      exact Or.inl (hother ▸ hholds)
    · exact Or.inr ⟨other, another, hne, hother, hholds⟩
  · rintro (hholds | ⟨other, another, _, hother, hholds⟩)
    · exact ⟨party, List.mem_of_getElem? hparty, hholds⟩
    · exact ⟨another, List.mem_of_getElem? hother, hholds⟩

/-- One of the others has a property that can be tested. -/
theorem any_eraseIdx_iff {test : Party → Bool} :
    (parties.eraseIdx number).any test = true ↔
      ∃ (other : Nat) (another : Party), other ≠ number ∧ parties[other]? = some another ∧
        test another = true := by
  rw [List.any_eq_true]
  constructor
  · rintro ⟨another, hmem, htest⟩
    obtain ⟨other, hne, hother⟩ := List.mem_eraseIdx_iff_getElem?.mp hmem
    exact ⟨other, another, hne, hother, htest⟩
  · rintro ⟨other, another, hne, hother, htest⟩
    exact ⟨another, List.mem_eraseIdx_iff_getElem?.mpr ⟨other, hne, hother⟩, htest⟩

/-- After a move of one party: it has the property now, or one of the others has it. -/
theorem exists_mem_set_iff {holds : Party → Prop} (hparty : parties[number]? = some party) :
    (∃ party ∈ parties.set number moved, holds party) ↔ holds moved ∨
      ∃ (other : Nat) (another : Party), other ≠ number ∧ parties[other]? = some another ∧
        holds another := by
  have hmoved : (parties.set number moved)[number]? = some moved :=
    List.getElem?_set_self (List.getElem?_eq_some_iff.mp hparty).1
  rw [exists_mem_iff_of_getElem? hmoved]
  refine or_congr_right (exists_congr fun other => exists_congr fun another => ?_)
  exact and_congr_right fun hne => by rw [List.getElem?_set_ne hne.symm]

theorem exists_mem_set_congr {holds : Party → Prop} (hparty : parties[number]? = some party)
    (hmoved : holds moved ↔ holds party) :
    (∃ party ∈ parties.set number moved, holds party) ↔ ∃ party ∈ parties, holds party := by
  rw [exists_mem_set_iff hparty, exists_mem_iff_of_getElem? hparty, hmoved]

theorem getElem?_join (hparty : parties[other]? = some party) :
    (parties ++ [moved])[other]? = some party := by
  rw [List.getElem?_append_left (List.getElem?_eq_some_iff.mp hparty).1, hparty]

end

end GeSensor.Foundation
