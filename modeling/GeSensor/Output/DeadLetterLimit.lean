/-
  Output/DeadLetterLimit.lean --- the size of the dead-letter queue and its limit.

  The breaker looks at the size before the write only: neither the length of the payload
  nor the calls that have passed and not yet added to the size are counted.  The size stays
  within the limit in runs in which each call that passes would fit behind all of them.
-/
import GeSensor.Output.DeadLetterFiles

set_option autoImplicit false

namespace GeSensor.Output

open GeSensor.Foundation

/-- The call has passed the breaker and not yet added to the size. -/
def SpoolPc.passed (config : DlqConfig) : SpoolPc → Bool
  | .loaded current => decide (current < config.threshold)
  | .closing | .admitted | .numbered _ | .writing _ _ | .written => true
  | .entered | .tripping | .counted | .returned _ => false

/-- What the call adds to the size if its file operations succeed. -/
def SpoolCall.pending (config : DlqConfig) (call : SpoolCall) : Nat :=
  if call.pc.passed config then call.payload.length else 0

/-- The size with all that has passed the breaker. -/
def DlqState.committed (config : DlqConfig) (state : DlqState) : Nat :=
  state.currentBytes + total (SpoolCall.pending config) state.calls

/-- The steps that keep to the limit: a call that passes the breaker fits, and a queue is
created over a directory that does. -/
def keepsLimit (config : DlqConfig) (state : DlqState) : DlqLabel → Bool
  | .call number =>
      match state.calls[number]? with
      | some ⟨payload, .entered⟩ =>
          decide (state.currentBytes < config.threshold →
            state.committed config + payload.length ≤ config.maxBytes)
      | _ => true
  | .restart _ => decide (totalBytes state.files ≤ config.maxBytes)
  | _ => true

/-- No file operation fails, and the process goes on. -/
def DlqLabel.succeeds : DlqLabel → Bool
  | .create _ (_) (.error _) | .write _ (.error _) | .restart _ => false
  | _ => true

section

variable {config : DlqConfig} {utcFormat : Nat → String}

theorem QuietMove.passed_eq {state after : DlqState} {before pc : SpoolPc}
    (hmove : QuietMove config state before pc after) :
    pc.passed config = before.passed config := by
  cases hmove with
  | drop htripped | trip htripped => exact (decide_eq_false (Nat.not_lt.mpr htripped)).symm
  | close hpassed | pass hpassed => exact (decide_eq_true hpassed).symm
  | tripped | closed | draw | count => rfl

/-- One call goes on: the size and its own share change. -/
theorem DlqState.committed_advance (config : DlqConfig) {state : DlqState} (next : DlqState)
    {number : Nat} {call moved : SpoolCall} (hcall : state.calls[number]? = some call)
    (hcalls : next.calls = state.calls.set number moved) :
    next.committed config + (state.currentBytes + call.pending config) =
      state.committed config + (next.currentBytes + moved.pending config) := by
  have htotal := total_set (SpoolCall.pending config) hcall moved
  rw [DlqState.committed, DlqState.committed, hcalls]
  omega

/-- A call goes on and neither passes the breaker nor adds to the size. -/
theorem DlqState.committed_eq {state next : DlqState} {number : Nat} {call : SpoolCall}
    {pc : SpoolPc} (hcall : state.calls[number]? = some call)
    (hcalls : next.calls = state.calls.set number { call with pc := pc })
    (hbytes : next.currentBytes = state.currentBytes)
    (hpassed : pc.passed config = call.pc.passed config) :
    next.committed config = state.committed config := by
  have hadvance := DlqState.committed_advance config next hcall hcalls
  have hpending : SpoolCall.pending config { call with pc := pc } = call.pending config := by
    rw [SpoolCall.pending, SpoolCall.pending, hpassed]
  omega

/-- A call gives up. -/
theorem DlqState.committed_le {state : DlqState} {number : Nat} {call : SpoolCall}
    (hcall : state.calls[number]? = some call) (answer : Except SpoolError Unit) :
    (state.setPc number call (.returned answer)).committed config ≤ state.committed config := by
  have hadvance := DlqState.committed_advance config
    (state.setPc number call (.returned answer)) hcall rfl
  have hpending : SpoolCall.pending config { call with pc := .returned answer } = 0 := rfl
  have hbytes : (state.setPc number call (.returned answer)).currentBytes = state.currentBytes :=
    rfl
  omega

/-- What a step does to the size with all that has passed the breaker. -/
inductive CommittedMove (config : DlqConfig) (state next : DlqState) : DlqLabel → Prop
  | same {label : DlqLabel} (h : next.committed config = state.committed config) :
      CommittedMove config state next label
  | load {number : Nat} {payload : Bytes}
      (hcall : state.calls[number]? = some ⟨payload, .entered⟩)
      (h : next.committed config = state.committed config +
        if state.currentBytes < config.threshold then payload.length else 0) :
      CommittedMove config state next (.call number)
  | failed {label : DlqLabel} (hfails : label.succeeds = false)
      (h : next.committed config ≤ state.committed config) : CommittedMove config state next label
  | restart {readable : String → Bool}
      (h : next.committed config ≤ totalBytes state.files) :
      CommittedMove config state next (.restart readable)

theorem dlqStep_committed {state next : DlqState} {label : DlqLabel}
    (hstep : dlqStep config utcFormat state label = some next) :
    CommittedMove config state next label := by
  cases dlqStep_cases hstep with
  | spool =>
      refine .same ?_
      rw [DlqState.committed, total_append]
      rfl
  | @load number call hcall hpc =>
      obtain ⟨payload, pc⟩ := call
      cases hpc
      refine .load hcall ?_
      have hadvance := DlqState.committed_advance config
        (state.setPc number ⟨payload, .entered⟩ (.loaded state.currentBytes)) hcall rfl
      have hpending : SpoolCall.pending config ⟨payload, .loaded state.currentBytes⟩ =
          if state.currentBytes < config.threshold then payload.length else 0 := by
        simp only [SpoolCall.pending, SpoolPc.passed, decide_eq_true_eq]
      have hentered : SpoolCall.pending config ⟨payload, .entered⟩ = 0 := rfl
      simp only [DlqState.setPc] at hadvance ⊢
      omega
  | quiet hcall hmove =>
      obtain ⟨_, hbytes, hcalls, _⟩ := hmove.frame
      refine .same (DlqState.committed_eq hcall ?_ hbytes hmove.passed_eq)
      rw [DlqState.setPc, hcalls]
  | create hcall hpc | write hcall hpc | finish hcall hpc =>
      exact .same (DlqState.committed_eq hcall rfl rfl (hpc ▸ rfl))
  | createFailed hcall | writeFailed hcall => exact .failed rfl (DlqState.committed_le hcall _)
  | @add number call hcall hpc =>
      have hadvance := DlqState.committed_advance config
        { state.setPc number call .counted with
          currentBytes := state.currentBytes + call.payload.length } hcall rfl
      have hpending : call.pending config = call.payload.length := by
        rw [SpoolCall.pending, hpc]
        rfl
      have hcounted : SpoolCall.pending config { call with pc := .counted } = 0 := rfl
      refine .same ?_
      simp only [DlqState.setPc] at hadvance ⊢
      omega
  | restart => exact .restart (calculateDirSize_le _ _)

theorem committed_le_maxBytes {state next : DlqState} {label : DlqLabel}
    (h : state.committed config ≤ config.maxBytes) (hkeeps : keepsLimit config state label = true)
    (hstep : dlqStep config utcFormat state label = some next) :
    next.committed config ≤ config.maxBytes := by
  cases dlqStep_committed hstep with
  | same hsame => exact hsame ▸ h
  | load hcall hload =>
      rw [keepsLimit, hcall] at hkeeps
      have hfits := of_decide_eq_true hkeeps
      rw [hload]
      split
      · exact hfits ‹_›
      · exact h
  | failed _ hfailed => exact Nat.le_trans hfailed h
  | restart hrestart => exact Nat.le_trans hrestart (of_decide_eq_true hkeeps)

/-- Where every call that passes the breaker fits behind the size and behind the calls that
have passed before it, the size stays within the limit. -/
theorem sizeBytes_le_of_keepsLimit (config : DlqConfig) (utcFormat : Nat → String)
    (files : Directory) (readable : String → Bool)
    (hstart : totalBytes files ≤ config.maxBytes) {state : DlqState}
    (hrun : ReachableBy (dlqStep config utcFormat)
      (fun state label => keepsLimit config state label = true) (.new files readable) state) :
    state.sizeBytes ≤ config.maxBytes := by
  have hcommitted := hrun.invariant (fun state => state.committed config ≤ config.maxBytes)
    (Nat.le_trans (calculateDirSize_le files readable) hstart) committed_le_maxBytes
  exact Nat.le_trans (Nat.le_add_right _ _) hcommitted

/-- The condition is needed: once the calls that have passed do not fit, and no file operation
fails, the limit is exceeded as soon as they have all added to the size. -/
theorem maxBytes_lt_of_committed {start state : DlqState}
    (hstart : config.maxBytes < start.committed config)
    (hrun : ReachableBy (dlqStep config utcFormat) (fun _ label => label.succeeds = true) start
      state) (hidle : state.idle = true) : config.maxBytes < state.sizeBytes := by
  have hcommitted : config.maxBytes < state.committed config := by
    refine hrun.invariant (fun state => config.maxBytes < state.committed config) hstart ?_
    intro state next label h hsucceeds hstep
    cases dlqStep_committed hstep with
    | same hsame => exact hsame ▸ h
    | load _ hload => exact Nat.lt_of_lt_of_le h (hload ▸ Nat.le_add_right _ _)
    | failed hfails => exact absurd hsucceeds (Bool.eq_false_iff.mp hfails)
    | restart => cases hsucceeds
  have hpending : total (SpoolCall.pending config) state.calls = 0 := by
    refine total_eq_zero _ fun call hcall => ?_
    have hreturned := List.all_eq_true.mp hidle call hcall
    unfold SpoolCall.hasReturned at hreturned
    split at hreturned
    · rename_i hpc
      rw [SpoolCall.pending, hpc]
      rfl
    · cases hreturned
  rw [DlqState.committed, hpending] at hcommitted
  exact hcommitted

end

/-! ## Runs -/

/-- The queue of the repository's test of the breaker. -/
def DlqConfig.small : DlqConfig where
  path := "/tmp/dlq"
  maxBytes := 100
  threshold := 50

/-- Two calls pass the breaker before either writes. -/
def twoCallsRun (size : Nat) : List DlqLabel :=
  let payload := List.replicate size 0x58
  [.spool payload, .spool payload, .call 0, .call 1, .call 0, .call 1, .call 0, .call 1,
    .create 0 1774310400 (.ok ()), .create 1 1774310400 (.ok ()), .write 0 (.ok size),
    .write 1 (.ok size), .call 0, .call 1, .call 0, .call 1, .call 0, .call 1]

theorem twoCallsRun_keepsLimit : ∃ state : DlqState,
    ReachableBy (dlqStep .small midnight) (fun state label => keepsLimit .small state label = true)
      (.new ∅ fun _ => true) state ∧ state.totalSpooled = 2 ∧ state.sizeBytes ≤ 100 :=
  have hreached := reachableBy_of_runLabels (twoCallsRun 45) .start rfl
  ⟨_, hreached, rfl,
    sizeBytes_le_of_keepsLimit .small midnight ∅ (fun _ => true) (Nat.zero_le _) hreached⟩

/-- Two payloads of 60 bytes, as in the test of the breaker, side by side; and one payload
that is longer than the limit. -/
theorem sizeBytes_exceeds :
    (∃ state : DlqState, runLabels (dlqStep .small midnight) (fun _ _ => true)
        (.new ∅ fun _ => true) (twoCallsRun 60) = some state ∧ state.sizeBytes = 120) ∧
    (∃ state : DlqState, runLabels (dlqStep .small midnight) (fun _ _ => true)
        (.new ∅ fun _ => true) (writtenRun 0 1774310400 (List.replicate 101 0x58)) =
          some state ∧ state.sizeBytes = 101) ∧
    DlqConfig.small.threshold ≤ DlqConfig.small.maxBytes :=
  ⟨⟨_, rfl, rfl⟩, ⟨_, rfl, rfl⟩, by decide⟩

end GeSensor.Output
