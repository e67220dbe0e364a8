/-
  Output/CircuitBreaker.lean --- what the circuit breaker of the dead-letter queue does
  over the life of a process.

  Nothing takes bytes out of the size while a process runs: once the threshold is reached,
  `spool` answers `Ok` to every later call and keeps none of them, and the branch that
  closes the breaker below half of the threshold is left to calls that read the size before.
  A call is followed here by where it stands alone (`SpoolPc.Follows`); what the file
  operations answer does not matter.
-/
import GeSensor.Output.DeadLetterLimit

set_option autoImplicit false

namespace GeSensor.Output

open GeSensor.Foundation

/-- The process goes on. -/
def DlqLabel.goesOn : DlqLabel → Bool
  | .restart _ => false
  | _ => true

/-! ## A call and the breaker -/

namespace SpoolPc

/-- The call is behind the breaker and has not returned. -/
def underWay : SpoolPc → Bool
  | .admitted | .numbered _ | .writing _ _ | .written | .counted => true
  | _ => false

/-- The call has not looked at the size, or has found the threshold reached. -/
def turnedAway (config : DlqConfig) : SpoolPc → Bool
  | .entered | .tripping | .returned (.ok ()) => true
  | .loaded current => decide (config.threshold ≤ current)
  | _ => false

/-- The call is about to close the breaker, or will if it finds it open. -/
def closes (config : DlqConfig) : SpoolPc → Bool
  | .closing => true
  | .loaded current => decide (current < config.threshold / 2)
  | _ => false

/-- What the call knows of the size is not above it. -/
def Within (config : DlqConfig) (size : Nat) : SpoolPc → Prop
  | .loaded current => current ≤ size
  | .tripping => config.threshold ≤ size
  | _ => True

/-- Where a call stands after its next step, at this size. -/
inductive Follows (config : DlqConfig) (size : Nat) : SpoolPc → SpoolPc → Prop
  | load : Follows config size .entered (.loaded size)
  | drop {current : Nat} (htripped : config.threshold ≤ current) :
      Follows config size (.loaded current) (.returned (.ok ()))
  | trip {current : Nat} (htripped : config.threshold ≤ current) :
      Follows config size (.loaded current) .tripping
  | tripped : Follows config size .tripping (.returned (.ok ()))
  | close {current : Nat} (hlow : current < config.threshold / 2) :
      Follows config size (.loaded current) .closing
  | closed : Follows config size .closing .admitted
  | pass {current : Nat} (hpassed : current < config.threshold) :
      Follows config size (.loaded current) .admitted
  | goOn {before after : SpoolPc} (hbefore : before.underWay = true)
      (hafter : after.underWay = true) : Follows config size before after
  | answer {before : SpoolPc} (hbefore : before.underWay = true)
      (answer : Except SpoolError Unit) : Follows config size before (.returned answer)

/-- The breaker after a step of a call that stands here. -/
def breakerAfter (circuitOpen : Bool) : SpoolPc → Bool
  | .tripping => true
  | .closing => false
  | _ => circuitOpen

theorem Within.mono {config : DlqConfig} {size larger : Nat} {pc : SpoolPc}
    (h : pc.Within config size) (hle : size ≤ larger) : pc.Within config larger := by
  cases pc with
  | loaded current => exact Nat.le_trans h hle
  | tripping => exact Nat.le_trans h hle
  | _ => trivial

theorem breakerAfter_of_underWay {pc : SpoolPc} (circuitOpen : Bool) (h : pc.underWay = true) :
    pc.breakerAfter circuitOpen = circuitOpen := by
  cases pc with
  | tripping | closing => cases h
  | _ => rfl

namespace Follows

variable {config : DlqConfig} {size : Nat} {before after : SpoolPc}

theorem within (h : Follows config size before after) (hbefore : before.Within config size) :
    after.Within config size := by
  cases h with
  | load => exact Nat.le_refl size
  | trip htripped => exact Nat.le_trans htripped hbefore
  | goOn _ hafter =>
      cases after with
      | loaded | tripping => cases hafter
      | _ => trivial
  | drop | tripped | close | closed | pass | answer => trivial

/-- At the threshold a call that has not passed the breaker never will. -/
theorem turnedAway (h : Follows config size before after) (hfull : config.threshold ≤ size)
    (hbefore : before.turnedAway config = true) : after.turnedAway config = true := by
  cases h with
  | load => exact decide_eq_true hfull
  | drop | trip | tripped => rfl
  | @close current hlow =>
      have htripped := of_decide_eq_true hbefore
      omega
  | @pass current hpassed =>
      have htripped := of_decide_eq_true hbefore
      omega
  | closed => cases hbefore
  | goOn hunderWay | answer hunderWay =>
      cases before with
      | admitted | numbered | writing | written | counted => cases hbefore
      | entered | loaded | tripping | closing | returned => cases hunderWay

/-- At the threshold no call gets ready to close the breaker. -/
theorem closes_eq_false (h : Follows config size before after) (hfull : config.threshold ≤ size)
    (hbefore : before.closes config = false) : after.closes config = false := by
  cases h with
  | load => exact decide_eq_false (by omega)
  | close hlow => exact absurd hlow (of_decide_eq_false hbefore)
  | goOn _ hafter =>
      cases after with
      | loaded | closing => cases hafter
      | _ => rfl
  | drop | trip | tripped | closed | pass | answer => rfl

end Follows

end SpoolPc

/-! ## What a step does to the breaker -/

/-- What a step of a process that goes on does to the calls, the size and the breaker. -/
inductive BreakerMove (config : DlqConfig) (state next : DlqState) : Prop
  | join {payload : Bytes} (hcalls : next.calls = state.calls ++ [⟨payload, .entered⟩])
      (hsize : next.currentBytes = state.currentBytes)
      (hopen : next.circuitOpen = state.circuitOpen)
  | go {number : Nat} {call : SpoolCall} {pc : SpoolPc} (hcall : state.calls[number]? = some call)
      (hcalls : next.calls = state.calls.set number { call with pc := pc })
      (hfollows : SpoolPc.Follows config state.currentBytes call.pc pc)
      (hsize : state.currentBytes ≤ next.currentBytes)
      (hopen : next.circuitOpen = call.pc.breakerAfter state.circuitOpen)

section

variable {config : DlqConfig} {utcFormat : Nat → String}

theorem QuietMove.follows {state after : DlqState} {before pc : SpoolPc}
    (hmove : QuietMove config state before pc after) :
    SpoolPc.Follows config state.currentBytes before pc ∧
      after.circuitOpen = before.breakerAfter state.circuitOpen := by
  cases hmove with
  | drop htripped => exact ⟨.drop htripped, rfl⟩
  | trip htripped => exact ⟨.trip htripped, rfl⟩
  | tripped => exact ⟨.tripped, rfl⟩
  | close _ _ hlow => exact ⟨.close hlow, rfl⟩
  | closed => exact ⟨.closed, rfl⟩
  | pass hpassed => exact ⟨.pass hpassed, rfl⟩
  | draw => exact ⟨.goOn rfl rfl, rfl⟩
  | count => exact ⟨.answer rfl _, rfl⟩

theorem dlqStep_breaker {state next : DlqState} {label : DlqLabel}
    (hgoesOn : label.goesOn = true) (hstep : dlqStep config utcFormat state label = some next) :
    BreakerMove config state next := by
  -- behind the breaker only the place of the call matters
  have hbehind : ∀ {number : Nat} {call : SpoolCall} {pc : SpoolPc} {after : DlqState},
      state.calls[number]? = some call → call.pc.underWay = true →
      after.calls = state.calls.set number { call with pc := pc } →
      state.currentBytes ≤ after.currentBytes → after.circuitOpen = state.circuitOpen →
      SpoolPc.Follows config state.currentBytes call.pc pc → BreakerMove config state after := by
    intro number call pc after hcall hunderWay hcalls hsize hopen hfollows
    refine .go hcall hcalls hfollows hsize ?_
    rw [hopen, SpoolPc.breakerAfter_of_underWay _ hunderWay]
  cases dlqStep_cases hstep with
  | spool => exact .join rfl rfl rfl
  | load hcall hpc => exact .go hcall rfl (hpc ▸ .load) (Nat.le_refl _) (hpc ▸ rfl)
  | @quiet number call pc after hcall hmove =>
      obtain ⟨_, hsize, hcalls, _⟩ := hmove.frame
      obtain ⟨hfollows, hopen⟩ := hmove.follows
      refine .go hcall ?_ hfollows (Nat.le_of_eq hsize.symm) hopen
      rw [DlqState.setPc, hcalls]
  | create hcall hpc | write hcall hpc | finish hcall hpc =>
      have hunderWay := congrArg SpoolPc.underWay hpc
      exact hbehind hcall hunderWay rfl (Nat.le_refl _) rfl (.goOn hunderWay rfl)
  | createFailed hcall hpc | writeFailed hcall hpc =>
      have hunderWay := congrArg SpoolPc.underWay hpc
      exact hbehind hcall hunderWay rfl (Nat.le_refl _) rfl (.answer hunderWay _)
  | add hcall hpc =>
      have hunderWay := congrArg SpoolPc.underWay hpc
      exact hbehind hcall hunderWay rfl (Nat.le_add_right _ _) rfl (.goOn hunderWay rfl)
  | restart => cases hgoesOn

/-! ## An open breaker -/

/-- The breaker is open only where the threshold is reached. -/
structure DlqState.Measured (config : DlqConfig) (state : DlqState) : Prop where
  full : state.circuitOpen = true → config.threshold ≤ state.currentBytes
  within : ∀ call ∈ state.calls, call.pc.Within config state.currentBytes

theorem BreakerMove.measured {state next : DlqState} (hmove : BreakerMove config state next)
    (h : state.Measured config) : next.Measured config := by
  cases hmove with
  | join hcalls hsize hopen =>
      constructor
      case full => rw [hopen, hsize]; exact h.full
      case within => rw [hcalls, hsize]; exact forall_mem_join h.within trivial
  | @go number call pc hcall hcalls hfollows hsize hopen =>
      have hcallWithin := h.within call (List.mem_of_getElem? hcall)
      constructor
      case full =>
        rw [hopen]
        intro hnow
        refine Nat.le_trans ?_ hsize
        cases hpc : call.pc with
        | tripping => exact (hpc ▸ hcallWithin : SpoolPc.tripping.Within config _)
        | closing => rw [hpc] at hnow; cases hnow
        | _ => rw [hpc] at hnow; exact h.full hnow
      case within =>
        rw [hcalls]
        intro moved hmoved
        refine SpoolPc.Within.mono ?_ hsize
        exact forall_mem_set h.within (hfollows.within hcallWithin) moved hmoved

/-- A queue is created with its breaker closed. -/
theorem DlqState.Measured.new (config : DlqConfig) {state : DlqState}
    (hclosed : state.circuitOpen = false) (hcalls : state.calls = []) : state.Measured config where
  full := fun hopen => absurd (hclosed.symm.trans hopen) Bool.false_ne_true
  within := fun _ hcall => absurd (hcalls ▸ hcall) List.not_mem_nil

theorem measured_of_reachable {files : Directory} {readable : String → Bool} {state : DlqState}
    (hrun : Reachable (dlqStep config utcFormat) (.new files readable) state) :
    state.Measured config := by
  refine hrun.invariant (DlqState.Measured config) (.new config rfl rfl) ?_
  intro state next label h _ hstep
  cases label with
  | restart readable =>
      cases hstep
      exact .new config rfl rfl
  | spool | call | create | write => exact (dlqStep_breaker rfl hstep).measured h

/-- The threshold is reached, and the calls that joined since then are turned away. -/
structure DlqState.Refuses (config : DlqConfig) (since : Nat) (state : DlqState) : Prop where
  full : config.threshold ≤ state.currentBytes
  joined : since ≤ state.calls.length
  turnedAway : ∀ {number : Nat} {call : SpoolCall}, since ≤ number →
    state.calls[number]? = some call → call.pc.turnedAway config = true

theorem BreakerMove.refuses {since : Nat} {state next : DlqState}
    (hmove : BreakerMove config state next) (h : state.Refuses config since) :
    next.Refuses config since := by
  cases hmove with
  | join hcalls hsize _ =>
      constructor
      case full => rw [hsize]; exact h.full
      case joined =>
        rw [hcalls, List.length_append]
        exact Nat.le_add_right_of_le h.joined
      case turnedAway =>
        intro number call hnumber hcall
        rw [hcalls] at hcall
        rcases party_of_join hcall with rfl | hcall
        · rfl
        · exact h.turnedAway hnumber hcall
  | go hcall hcalls hfollows hsize _ =>
      constructor
      case full => exact Nat.le_trans h.full hsize
      case joined => rw [hcalls, List.length_set]; exact h.joined
      case turnedAway =>
        intro other another hother hanother
        rw [hcalls] at hanother
        rcases party_of_set hanother with ⟨rfl, rfl⟩ | ⟨_, hanother⟩
        · exact hfollows.turnedAway h.full (h.turnedAway hother hcall)
        · exact h.turnedAway hother hanother

/-- The breaker is open, the threshold is reached, and no call is about to close it. -/
structure DlqState.StaysOpen (config : DlqConfig) (state : DlqState) : Prop where
  full : config.threshold ≤ state.currentBytes
  isOpen : state.circuitOpen = true
  keeps : ∀ call ∈ state.calls, call.pc.closes config = false

theorem BreakerMove.staysOpen {state next : DlqState} (hmove : BreakerMove config state next)
    (h : state.StaysOpen config) : next.StaysOpen config := by
  cases hmove with
  | join hcalls hsize hopen =>
      constructor
      case full => rw [hsize]; exact h.full
      case isOpen => rw [hopen]; exact h.isOpen
      case keeps => rw [hcalls]; exact forall_mem_join h.keeps rfl
  | @go number call pc hcall hcalls hfollows hsize hopen =>
      have hkeeps := h.keeps call (List.mem_of_getElem? hcall)
      constructor
      case full => exact Nat.le_trans h.full hsize
      case isOpen =>
        rw [hopen]
        cases hpc : call.pc with
        | closing => rw [hpc] at hkeeps; cases hkeeps
        | tripping => rfl
        | _ => exact h.isOpen
      case keeps =>
        rw [hcalls]
        exact forall_mem_set h.keeps (hfollows.closes_eq_false h.full hkeeps)

/-- What has passed the breaker does not grow at the threshold. -/
theorem committed_le_of_full {state next : DlqState} {label : DlqLabel}
    (hfull : config.threshold ≤ state.currentBytes) (hgoesOn : label.goesOn = true)
    (hstep : dlqStep config utcFormat state label = some next) :
    next.committed config ≤ state.committed config := by
  cases dlqStep_committed hstep with
  | same hsame => exact Nat.le_of_eq hsame
  | load _ hload =>
      rw [hload, if_neg (Nat.not_lt.mpr hfull)]
      exact Nat.le_refl _
  | failed _ hfailed => exact hfailed
  | restart => cases hgoesOn

/-- From any state in which the breaker is found open, for as long as the process lives: no
call made later passes it, so each of them is answered `Ok` at most and writes nothing; the
size grows by what had passed the breaker before; and only a call that had read a size below
half of the threshold, before the breaker opened, can close it. -/
theorem circuitOpen_refuses (config : DlqConfig) (utcFormat : Nat → String) (files : Directory)
    (readable : String → Bool) {opened state : DlqState}
    (hopened : Reachable (dlqStep config utcFormat) (.new files readable) opened)
    (hopen : opened.circuitOpen = true)
    (hrun : ReachableBy (dlqStep config utcFormat) (fun _ label => label.goesOn = true) opened
      state) :
    (∀ number call, opened.calls.length ≤ number → state.calls[number]? = some call →
      call.pc.turnedAway config = true) ∧
    config.threshold ≤ state.sizeBytes ∧ state.sizeBytes ≤ opened.committed config ∧
    ((∀ call ∈ opened.calls, call.pc.closes config = false) → state.circuitOpen = true) := by
  have hfull := (measured_of_reachable hopened).full hopen
  have hrefuses : state.Refuses config opened.calls.length ∧
      state.committed config ≤ opened.committed config := by
    refine hrun.invariant (fun state => state.Refuses config opened.calls.length ∧
      state.committed config ≤ opened.committed config) ⟨?_, Nat.le_refl _⟩ ?_
    · refine ⟨hfull, Nat.le_refl _, fun hnumber hcall => ?_⟩
      exact absurd (List.getElem?_eq_some_iff.mp hcall).1 (Nat.not_lt.mpr hnumber)
    · intro state next label h hgoesOn hstep
      refine ⟨(dlqStep_breaker hgoesOn hstep).refuses h.1, Nat.le_trans ?_ h.2⟩
      exact committed_le_of_full h.1.full hgoesOn hstep
  refine ⟨fun _ _ => hrefuses.1.turnedAway, hrefuses.1.full,
    Nat.le_trans (Nat.le_add_right _ _) hrefuses.2, fun hkeeps => ?_⟩
  have hstays := hrun.invariant (DlqState.StaysOpen config) ⟨hfull, hopen, hkeeps⟩
    fun h hgoesOn hstep => (dlqStep_breaker hgoesOn hstep).staysOpen h
  exact hstays.isOpen

end

/-! ## Runs -/

/-- The repository's test of the breaker: the second payload finds the threshold reached. -/
def trippedRun : List DlqLabel :=
  writtenRun 0 1774310400 (List.replicate 60 0x58) ++
    [.spool (List.replicate 60 0x58), .call 1, .call 1, .call 1]

/-- A call made later. -/
def droppedRun : List DlqLabel := [.spool [0x7B, 0x7D], .call 2, .call 2]

theorem circuitOpen_refuses_sample : ∃ opened state : DlqState,
    opened.committed .small = 60 ∧ (state.calls[2]?.map SpoolCall.hasReturned) = some true ∧
      state.totalSpooled = 1 ∧ 50 ≤ state.sizeBytes ∧
        state.sizeBytes ≤ opened.committed .small ∧ state.circuitOpen = true :=
  have hopened : Reachable (dlqStep .small midnight) (.new ∅ fun _ => true) _ :=
    reachableBy_of_runLabels trippedRun .start rfl
  have hreached := reachableBy_of_runLabels droppedRun .start rfl
  have hrefuses := circuitOpen_refuses .small midnight ∅ (fun _ => true) hopened rfl hreached
  ⟨_, _, rfl, rfl, rfl, hrefuses.2.1, hrefuses.2.2.1, hrefuses.2.2.2 (by decide)⟩

/-- A call that read the size before the first payload was counted closes the breaker. -/
def closedRun : List DlqLabel :=
  [.spool [0x7B, 0x7D], .call 0] ++
    writtenRun 1 1774310400 (List.replicate 60 0x58) ++
    [.spool (List.replicate 60 0x58), .call 2, .call 2, .call 2, .call 0, .call 0]

example : (runLabels (dlqStep .small midnight) (fun _ _ => true) (.new ∅ fun _ => true)
    closedRun).map (fun state => (state.sizeBytes, state.circuitOpen)) = some (60, false) := rfl

end GeSensor.Output
