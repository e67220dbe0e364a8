/-
  Dashboard/RuleApi.lean --- concurrent calls of `AppState::add_ips_rule` and
  `AppState::delete_ips_rule`.

  Deleting a rule is one critical section.  Adding one is two: the first checks
  the id and inserts the rule, the second reads the rule back for the answer.  A
  delete of the same id can fall between the two; the add then reports a failure
  although it has inserted the rule.

  `into_rule` takes no lock, so that a request stands for what it reads as.
-/
import GeSensor.Dashboard.IpsView
import GeSensor.Foundation.Linearizable
import GeSensor.Foundation.Reachable

set_option autoImplicit false

namespace GeSensor.Dashboard

open GeSensor.Foundation
open GeSensor.Ips

/-- A call of the rule API. -/
inductive RuleCall where
  /-- `add_ips_rule`, with what `into_rule` makes of the request -/
  | add (request : Except String IpsRule)
  /-- `delete_ips_rule` -/
  | delete (ruleId : String)

/-- What a call returns. -/
inductive RuleAnswer where
  | added (result : Except String IpsRuleApi)
  | deleted (result : Except String Unit)

/-- Where a call stands. -/
inductive RulePc where
  /-- nothing is done yet -/
  | begin
  /-- `add_ips_rule` has inserted the rule with this id and will read it back -/
  | readBack (ruleId : String)
  | returned (answer : RuleAnswer)

/-- What a call that has returned answers. -/
def RulePc.answer? : RulePc → Option RuleAnswer
  | .returned answer => some answer
  | _ => none

/-- A call made so far; the calls that had returned when it began are kept for the
order of calls only. -/
structure RuleThread where
  call : RuleCall
  pc : RulePc
  returnedBefore : List Nat

def RuleThread.operation (thread : RuleThread) : Operation RuleCall RuleAnswer where
  call := thread.call
  answer := thread.pc.answer?
  returnedBefore := thread.returnedBefore

/-- The engine, and every call made so far. -/
structure RuleState where
  engine : IpsEngine
  threads : List RuleThread

/-- The history of the calls. -/
def RuleState.history (state : RuleState) : List (Operation RuleCall RuleAnswer) :=
  state.threads.map RuleThread.operation

/-- State when the server starts. -/
def RuleState.initial (engine : IpsEngine) : RuleState where
  engine := engine
  threads := []

/-- A move of one party. -/
inductive RuleLabel where
  /-- a handler makes a call -/
  | invoke (call : RuleCall)
  /-- the call with this number performs its next critical section -/
  | call (number : Nat)

/-- The message for an id that is taken. -/
def alreadyExists (ruleId : String) : String := "rule '" ++ ruleId ++ "' already exists"

/-- The message for an id that is not there. -/
def notFound (ruleId : String) : String := "rule '" ++ ruleId ++ "' not found"

/-- A rule with this id is loaded. -/
def hasRule (engine : IpsEngine) (ruleId : String) : Bool :=
  engine.rules.any fun rule => rule.id == ruleId

section

variable (summarize : IpsRule → String)

/-- One critical section of a call: what becomes of the call, and of the engine. -/
def threadStep (engine : IpsEngine) : RuleCall → RulePc → Option (RulePc × IpsEngine)
  | .add (.error message), .begin => some (.returned (.added (.error message)), engine)
  | .add (.ok rule), .begin =>
      if hasRule engine rule.id then
        some (.returned (.added (.error (alreadyExists rule.id))), engine)
      else some (.readBack rule.id, engine.addRule rule)
  | .delete ruleId, .begin =>
      let (removed, engine) := engine.removeRule ruleId
      let result := if removed then .ok () else .error (notFound ruleId)
      some (.returned (.deleted result), engine)
  | _, .readBack ruleId =>
      let result :=
        match (ipsRules summarize engine).rules.find? fun rule => rule.id == ruleId with
        | some rule => .ok rule
        | none => .error "failed to read added rule"
      some (.returned (.added result), engine)
  | _, .returned _ => none

/-- One move of the system. -/
def ruleStep (state : RuleState) : RuleLabel → Option RuleState
  | .invoke call =>
      some { state with threads := state.threads ++ [⟨call, .begin, returned state.history⟩] }
  | .call number =>
      state.threads[number]?.bind fun thread =>
        (threadStep summarize state.engine thread.call thread.pc).map fun (pc, engine) =>
          { engine := engine, threads := state.threads.set number { thread with pc := pc } }

/-- The rule API when calls are made one after the other: an add returns the rule
exactly when it inserts it, a delete returns Ok exactly when it removes a rule. -/
def ruleObject (engine : IpsEngine) : RuleCall → RuleAnswer × IpsEngine
  | .add (.error message) => (.added (.error message), engine)
  | .add (.ok rule) =>
      if hasRule engine rule.id then (.added (.error (alreadyExists rule.id)), engine)
      else
        (.added (.ok (ruleApi summarize (engine.addRule rule) rule)), engine.addRule rule)
  | .delete ruleId =>
      if hasRule engine ruleId then (.deleted (.ok ()), (engine.removeRule ruleId).2)
      else (.deleted (.error (notFound ruleId)), engine)

/-- The answers so far are those of some sequential order of the calls. -/
def RuleState.Linearizable (start : IpsEngine) (state : RuleState) : Prop :=
  LinearizesTo (ruleObject summarize) start state.history state.engine

end

/-- The call has inserted the rule with this id and has yet to read it back. -/
def RulePc.readsBack (ruleId : String) : RulePc → Bool
  | .readBack other => other == ruleId
  | _ => false

/-- No rule is deleted under an add: a delete takes effect only while no add of
the same id is between its two critical sections. -/
def Undisturbed (state : RuleState) : RuleLabel → Prop
  | .invoke _ => True
  | .call number =>
      match state.threads[number]? with
      | some ⟨.delete ruleId, .begin, _⟩ =>
          (state.threads.any fun other => other.pc.readsBack ruleId) = false
      | _ => True

instance (state : RuleState) (label : RuleLabel) : Decidable (Undisturbed state label) := by
  unfold Undisturbed
  split
  · infer_instance
  · split <;> infer_instance

/-! ## The engine under the rule API -/

/-- Deleting an id that is not there changes nothing. -/
theorem removeRule_of_not_hasRule {engine : IpsEngine} {ruleId : String}
    (h : hasRule engine ruleId = false) : engine.removeRule ruleId = (false, engine) := by
  have hkept : engine.rules.filter (fun rule => rule.id != ruleId) = engine.rules := by
    rw [List.filter_eq_self]
    intro rule hmem
    have hother := List.any_eq_false.mp h rule hmem
    simpa using hother
  unfold IpsEngine.removeRule
  rw [hkept]
  simp

/-- Deleting an id that is there reports it. -/
theorem removeRule_of_hasRule {engine : IpsEngine} {ruleId : String}
    (h : hasRule engine ruleId = true) : (engine.removeRule ruleId).1 = true := by
  obtain ⟨rule, hmem, hid⟩ := List.any_eq_true.mp h
  have hne : engine.rules.filter (fun rule => rule.id != ruleId) ≠ engine.rules := by
    intro heq
    rw [List.filter_eq_self] at heq
    have hother := heq rule hmem
    rw [beq_iff_eq] at hid
    simp [hid] at hother
  have hlength := List.filter_sublist.length_eq.not.mpr hne
  simpa [IpsEngine.removeRule] using hlength

/-- Removing a rule keeps those with another id. -/
theorem removeRule_find? {engine : IpsEngine} {ruleId other : String} (hne : ruleId ≠ other) :
    ((engine.removeRule other).2.rules.find? fun rule => rule.id == ruleId) =
      engine.rules.find? fun rule => rule.id == ruleId := by
  have hrules : (engine.removeRule other).2.rules =
      engine.rules.filter fun rule => rule.id != other := rfl
  have htest : (fun rule : IpsRule => decide ((rule.id != other) = true ∧
      (rule.id == ruleId) = true)) = fun rule => rule.id == ruleId := by
    funext rule
    rw [Bool.eq_iff_iff, decide_eq_true_iff]
    refine ⟨And.right, fun htest => ⟨?_, htest⟩⟩
    rw [beq_iff_eq.mp htest]
    exact bne_iff_ne.mpr hne
  rw [hrules, List.find?_filter, htest]

section

variable {summarize : IpsRule → String} {engine : IpsEngine}

/-- Adding a rule does not change how the others are shown. -/
theorem ruleApi_addRule (rule other : IpsRule) :
    ruleApi summarize (engine.addRule rule) other = ruleApi summarize engine other := by
  unfold ruleApi IpsEngine.ruleHitCount
  rw [IpsEngine.addRule_mode]
  congr 1
  exact HashMap.lookup_orInsert_getD engine.ruleHits rule.id other.id 0

/-- Removing a rule does not change how a rule with another id is shown. -/
theorem ruleApi_removeRule {ruleId : String} {other : IpsRule} (hne : other.id ≠ ruleId) :
    ruleApi summarize (engine.removeRule ruleId).2 other = ruleApi summarize engine other := by
  unfold ruleApi IpsEngine.ruleHitCount IpsEngine.removeRule
  dsimp only
  congr 2
  split
  · exact AList.lookup_erase_ne hne
  · rfl

/-- The rule that an add reads back, unless something happens in between. -/
theorem readBack_addRule {rule : IpsRule} (hnew : hasRule engine rule.id = false) :
    ((ipsRules summarize (engine.addRule rule)).rules.find? fun other => other.id == rule.id) =
      some (ruleApi summarize (engine.addRule rule) rule) := by
  rw [ipsRules_find?, IpsEngine.addRule_rules, List.find?_append]
  have hnone : (engine.rules.find? fun other => other.id == rule.id) = none := by
    rw [List.find?_eq_none]
    exact fun other hmem => List.any_eq_false.mp hnew other hmem
  rw [hnone]
  simp

/-- A rule that can be read back survives every call but a delete of its id. -/
theorem readBack_kept {call : RuleCall} {ruleId : String} {api : IpsRuleApi}
    (hcall : call ≠ .delete ruleId)
    (h : ((ipsRules summarize engine).rules.find? fun rule => rule.id == ruleId) = some api) :
    ((ipsRules summarize (ruleObject summarize engine call).2).rules.find? fun rule =>
      rule.id == ruleId) = some api := by
  rw [ipsRules_find?, Option.map_eq_some_iff] at h
  obtain ⟨rule, hfind, rfl⟩ := h
  rw [ipsRules_find?]
  cases call with
  | add request =>
      cases request with
      | error message =>
          rw [ruleObject, hfind]
          rfl
      | ok new =>
          rw [ruleObject]
          split
          · rw [hfind]
            rfl
          · rw [IpsEngine.addRule_rules, List.find?_append, hfind, Option.some_or,
              Option.map_some, ruleApi_addRule]
  | delete other =>
      rw [ruleObject]
      split
      · have hne : ruleId ≠ other := fun heq => hcall (by rw [heq])
        have hid : rule.id = ruleId := by simpa using List.find?_some hfind
        rw [removeRule_find? hne, hfind, Option.map_some, ruleApi_removeRule (hid ▸ hne)]
      · rw [hfind]
        rfl

/-- A call that has returned does nothing more. -/
theorem threadStep_returned (call : RuleCall) (answer : RuleAnswer) :
    threadStep summarize engine call (.returned answer) = none := by
  cases call with
  | add request => cases request <;> rfl
  | delete ruleId => rfl

/-- What the first critical section of a call does: the engine is changed as by
the whole call, and the answer is the whole call's, or an add will read it back. -/
theorem threadStep_begin {call : RuleCall} {pc : RulePc} {engine' : IpsEngine}
    (hstep : threadStep summarize engine call .begin = some (pc, engine')) :
    engine' = (ruleObject summarize engine call).2 ∧
      (pc = .returned (ruleObject summarize engine call).1 ∨
        ∃ ruleId api, pc = .readBack ruleId ∧
          (ruleObject summarize engine call).1 = .added (.ok api) ∧
          ((ipsRules summarize engine').rules.find? fun rule => rule.id == ruleId) =
            some api) := by
  cases call with
  | add request =>
      cases request with
      | error message =>
          cases hstep
          exact ⟨rfl, Or.inl rfl⟩
      | ok rule =>
          rw [threadStep] at hstep
          rw [ruleObject]
          split at hstep
          · rename_i htaken
            rw [if_pos htaken]
            cases hstep
            exact ⟨rfl, Or.inl rfl⟩
          · rename_i hnew
            rw [if_neg hnew]
            cases hstep
            rw [Bool.not_eq_true] at hnew
            exact ⟨rfl, Or.inr ⟨rule.id, _, rfl, rfl, readBack_addRule hnew⟩⟩
  | delete ruleId =>
      rw [threadStep] at hstep
      rw [ruleObject]
      cases hthere : hasRule engine ruleId with
      | true =>
          have hremoved : engine.removeRule ruleId = (true, (engine.removeRule ruleId).2) :=
            Prod.ext (removeRule_of_hasRule hthere) rfl
          rw [hremoved] at hstep
          cases hstep
          exact ⟨rfl, Or.inl rfl⟩
      | false =>
          rw [removeRule_of_not_hasRule hthere] at hstep
          cases hstep
          exact ⟨rfl, Or.inl rfl⟩

end

/-! ## Runs -/

section

variable {summarize : IpsRule → String} {start : IpsEngine}

/-- The run so far is explained by the log: no call that has not begun is in it,
and an add that will read its rule back will find what the log says. -/
structure RuleState.Explained (summarize : IpsRule → String) (start : IpsEngine)
    (state : RuleState) (log : List (Nat × RuleAnswer)) : Prop where
  linearization : Linearization (ruleObject summarize) start state.history log state.engine
  notBegun : ∀ {number : Nat} {thread : RuleThread}, state.threads[number]? = some thread →
    thread.pc = .begin → number ∉ log.map Prod.fst
  readsBack : ∀ {number : Nat} {thread : RuleThread} {ruleId : String},
    state.threads[number]? = some thread → thread.pc = .readBack ruleId →
      ∃ api, (number, .added (.ok api)) ∈ log ∧
        ((ipsRules summarize state.engine).rules.find? fun rule => rule.id == ruleId) = some api

theorem RuleState.history_getElem? {state : RuleState} {number : Nat} {thread : RuleThread}
    (hthread : state.threads[number]? = some thread) :
    state.history[number]? = some thread.operation := by
  rw [history, List.getElem?_map, hthread]
  rfl

/-- A call begins. -/
theorem RuleState.Explained.invoke {state : RuleState} {log : List (Nat × RuleAnswer)}
    (h : state.Explained summarize start log) (call : RuleCall) :
    RuleState.Explained summarize start
      { state with threads := state.threads ++ [⟨call, .begin, returned state.history⟩] } log := by
  refine ⟨?_, ?_, ?_⟩
  · have hhistory : RuleState.history
        { state with threads := state.threads ++ [⟨call, .begin, returned state.history⟩] } =
          state.history ++ [⟨call, none, returned state.history⟩] := by
      simp [history, RuleThread.operation, RulePc.answer?]
    rw [hhistory]
    exact h.linearization.invoke call
  · intro number thread hthread hpc hmem
    -- A number in the log is that of an earlier call.
    have hlt := h.linearization.lt_length hmem
    rw [history, List.length_map] at hlt
    rw [List.getElem?_append_left hlt] at hthread
    exact h.notBegun hthread hpc hmem
  · intro number thread ruleId hthread hpc
    rcases party_of_join hthread with rfl | hthread
    · cases hpc
    · exact h.readsBack hthread hpc

/-- The history after a call has moved on. -/
theorem RuleState.history_set {state : RuleState} {engine : IpsEngine} {number : Nat}
    {thread : RuleThread} {pc : RulePc} :
    RuleState.history ⟨engine, state.threads.set number { thread with pc := pc }⟩ =
      state.history.set number { thread.operation with answer := pc.answer? } := by
  rw [history, history, List.map_set]
  rfl

/-- A call performs its first critical section: it takes effect there. -/
theorem RuleState.Explained.begin {state : RuleState} {log : List (Nat × RuleAnswer)}
    (h : state.Explained summarize start log) {number : Nat} {thread : RuleThread}
    {pc : RulePc} {engine : IpsEngine} (hthread : state.threads[number]? = some thread)
    (hbegin : thread.pc = .begin)
    (hundisturbed : ∀ ruleId, thread.call = .delete ruleId →
      ∀ other ∈ state.threads, other.pc ≠ .readBack ruleId)
    (hstep : threadStep summarize state.engine thread.call .begin = some (pc, engine)) :
    RuleState.Explained summarize start
      ⟨engine, state.threads.set number { thread with pc := pc }⟩
      (log ++ [(number, (ruleObject summarize state.engine thread.call).1)]) := by
  obtain ⟨rfl, hpc⟩ := threadStep_begin hstep
  have hoperation := state.history_getElem? hthread
  have heffect := h.linearization.takeEffect hoperation (h.notBegun hthread hbegin)
  have hself : (number, (ruleObject summarize state.engine thread.call).1) ∈
      log ++ [(number, (ruleObject summarize state.engine thread.call).1)] :=
    List.mem_append_right _ List.mem_cons_self
  refine ⟨?_, ?_, ?_⟩
  · rw [history_set]
    rcases hpc with rfl | ⟨ruleId, api, rfl, _⟩
    · exact heffect.respond hoperation hself
    · have hsame : { thread.operation with answer := (RulePc.readBack ruleId).answer? } =
          thread.operation := by
        rw [RuleThread.operation, hbegin]
        rfl
      obtain ⟨hlt, hget⟩ := List.getElem?_eq_some_iff.mp hoperation
      rw [hsame, ← hget, List.set_getElem_self]
      exact heffect
  · intro other moved hmoved hnotBegun hmem
    rcases party_of_set hmoved with ⟨rfl, rfl⟩ | ⟨hne, hmoved⟩
    · rcases hpc with rfl | ⟨ruleId, api, rfl, _⟩ <;> cases hnotBegun
    · rw [List.map_append] at hmem
      rcases List.mem_append.mp hmem with hmem | hmem
      · exact h.notBegun hmoved hnotBegun hmem
      · exact hne (List.mem_singleton.mp hmem)
  · intro other moved ruleId hmoved hreads
    rcases party_of_set hmoved with ⟨rfl, rfl⟩ | ⟨hne, hmoved⟩
    · rcases hpc with rfl | ⟨ruleId', api, rfl, hanswer, hfind⟩
      · cases hreads
      · cases hreads
        exact ⟨api, hanswer ▸ hself, hfind⟩
    · obtain ⟨api, hlogged, hfind⟩ := h.readsBack hmoved hreads
      refine ⟨api, List.mem_append_left _ hlogged, readBack_kept (fun hdelete => ?_) hfind⟩
      exact hundisturbed ruleId hdelete moved (List.mem_of_getElem? hmoved) hreads

/-- An add performs its second critical section: it answers what the log says. -/
theorem RuleState.Explained.readBack {state : RuleState} {log : List (Nat × RuleAnswer)}
    (h : state.Explained summarize start log) {number : Nat} {thread : RuleThread}
    {ruleId : String} {pc : RulePc} {engine : IpsEngine}
    (hthread : state.threads[number]? = some thread) (hreads : thread.pc = .readBack ruleId)
    (hstep : threadStep summarize state.engine thread.call (.readBack ruleId) =
      some (pc, engine)) :
    RuleState.Explained summarize start
      ⟨engine, state.threads.set number { thread with pc := pc }⟩ log := by
  obtain ⟨api, hlogged, hfind⟩ := h.readsBack hthread hreads
  have hmoved : pc = .returned (.added (.ok api)) ∧ engine = state.engine := by
    have hanswer : threadStep summarize state.engine thread.call (.readBack ruleId) =
        some (.returned (.added (.ok api)), state.engine) := by
      unfold threadStep
      cases thread.call with
      | add request => cases request <;> simp only [hfind]
      | delete other => simp only [hfind]
    rw [hanswer] at hstep
    cases hstep
    exact ⟨rfl, rfl⟩
  obtain ⟨rfl, rfl⟩ := hmoved
  refine ⟨?_, ?_, ?_⟩
  · rw [history_set]
    exact h.linearization.respond (state.history_getElem? hthread) hlogged
  · intro other moved hmoved hbegin
    rcases party_of_set hmoved with ⟨_, rfl⟩ | ⟨_, hmoved⟩
    · cases hbegin
    · exact h.notBegun hmoved hbegin
  · intro other moved id hmoved hreads'
    rcases party_of_set hmoved with ⟨_, rfl⟩ | ⟨_, hmoved⟩
    · cases hreads'
    · exact h.readsBack hmoved hreads'

/-- The step lemma. -/
theorem ruleStep_explained {state next : RuleState} {label : RuleLabel}
    (hinv : ∃ log, state.Explained summarize start log) (hundisturbed : Undisturbed state label)
    (hstep : ruleStep summarize state label = some next) :
    ∃ log, next.Explained summarize start log := by
  obtain ⟨log, h⟩ := hinv
  cases label with
  | invoke call =>
      cases hstep
      exact ⟨log, h.invoke call⟩
  | call number =>
      obtain ⟨thread, hthread, hmap⟩ := Option.bind_eq_some_iff.mp hstep
      obtain ⟨⟨pc, engine⟩, hmove, rfl⟩ := Option.map_eq_some_iff.mp hmap
      cases hpc : thread.pc with
      | begin =>
          rw [hpc] at hmove
          refine ⟨_, h.begin hthread hpc (fun ruleId hdelete other hmem hreads => ?_) hmove⟩
          obtain ⟨call, _, before⟩ := thread
          subst hdelete hpc
          simp only [Undisturbed, hthread] at hundisturbed
          refine List.any_eq_false.mp hundisturbed other hmem ?_
          rw [hreads]
          exact beq_self_eq_true ruleId
      | readBack ruleId =>
          rw [hpc] at hmove
          exact ⟨log, h.readBack hthread hpc hmove⟩
      | returned answer =>
          rw [hpc] at hmove
          rw [threadStep_returned] at hmove
          cases hmove

/-- In every run in which no rule is deleted under an add, the answers are those of
a sequential order of the calls, which leads to the same engine. -/
theorem ruleApi_linearizable_of_undisturbed {state : RuleState}
    (h : ReachableBy (ruleStep summarize) Undisturbed (.initial start) state) :
    state.Linearizable summarize start := by
  have hexplained : ∃ log, state.Explained summarize start log := by
    refine ReachableBy.invariant (fun state => ∃ log, state.Explained summarize start log)
      ⟨[], .empty, ?_, ?_⟩ ruleStep_explained h
    · intro _ _ hthread
      cases hthread
    · intro _ _ _ hthread
      cases hthread
  obtain ⟨log, hlog⟩ := hexplained
  exact ⟨log, hlog.linearization⟩

/-- The condition leaves out nothing else: when a rule is deleted under an add, the
add reports a failure if it reads next. -/
theorem add_fails_of_disturbed {engine : IpsEngine} {call : RuleCall} {ruleId : String} :
    threadStep summarize (engine.removeRule ruleId).2 call (.readBack ruleId) =
      some (.returned (.added (.error "failed to read added rule")),
        (engine.removeRule ruleId).2) := by
  have hgone : ((ipsRules summarize (engine.removeRule ruleId).2).rules.find? fun rule =>
      rule.id == ruleId) = none := by
    rw [ipsRules_find?, Option.map_eq_none_iff, List.find?_eq_none]
    intro rule hmem
    have hkept := (List.mem_filter.mp hmem).2
    simpa using hkept
  unfold threadStep
  cases call with
  | add request => cases request <;> simp only [hgone]
  | delete other => simp only [hgone]

end

/-! ## A rule deleted under an add -/

/-- A rule that alerts on every packet. -/
def anyRule : IpsRule where
  id := "GE-LAB-001"
  description := "any packet"
  severity := "low"
  action := .alert
  criteria := {}
  enabled := true

/-- A sequential add never fails to read the rule back. -/
theorem ruleObject_add_ne_failed {summarize : IpsRule → String} (engine : IpsEngine) :
    (ruleObject summarize engine (.add (.ok anyRule))).1 ≠
      .added (.error "failed to read added rule") := by
  rw [ruleObject]
  split
  · intro h
    exact absurd (Except.error.inj (RuleAnswer.added.inj h)) (by decide)
  · intro h
    cases h

/-- An add and a delete one after the other. -/
theorem ruleApi_linearizable_add_then_delete :
    RuleState.Linearizable (fun _ => "") (.new .tap .pass)
      ⟨(((IpsEngine.new .tap .pass).addRule anyRule).removeRule "GE-LAB-001").2,
        [⟨.add (.ok anyRule), .returned (.added (.ok ⟨"GE-LAB-001", "any packet", "low", "alert",
          true, 0, "", "alert_only"⟩)), []⟩,
          ⟨.delete "GE-LAB-001", .returned (.deleted (.ok ())), [0]⟩]⟩ :=
  have hreached : ReachableBy (ruleStep fun _ => "") Undisturbed
      (.initial (.new .tap .pass)) _ :=
    reachableBy_of_runLabels [.invoke (.add (.ok anyRule)), .call 0, .call 0,
      .invoke (.delete "GE-LAB-001"), .call 1] .start rfl
  ruleApi_linearizable_of_undisturbed hreached

/-- The delete falls between the two critical sections of the add: the add reports
a failure, and the delete has removed the rule it inserted. -/
theorem ruleApi_not_linearizable :
    ∃ state, Reachable (ruleStep fun _ => "") (.initial (.new .tap .pass)) state ∧
      ¬ state.Linearizable (fun _ => "") (.new .tap .pass) := by
  refine ⟨⟨(((IpsEngine.new .tap .pass).addRule anyRule).removeRule "GE-LAB-001").2,
    [⟨.add (.ok anyRule), .returned (.added (.error "failed to read added rule")), []⟩,
      ⟨.delete "GE-LAB-001", .returned (.deleted (.ok ())), []⟩]⟩, ?_, ?_⟩
  · exact reachableBy_of_runLabels [.invoke (.add (.ok anyRule)), .call 0,
      .invoke (.delete "GE-LAB-001"), .call 1, .call 0] .start rfl
  · rintro ⟨log, h⟩
    have hlogged : (0, RuleAnswer.added (.error "failed to read added rule")) ∈ log :=
      h.answered rfl rfl
    obtain ⟨operation, before, hoperation, hanswer⟩ := h.legal.of_mem hlogged
    cases hoperation
    exact ruleObject_add_ne_failed before hanswer

end GeSensor.Dashboard
