/-
  Pipeline/InterfaceSwitch.lean --- the hand-over of the capture interface
  between `AppState::set_interface` and the capture thread.

  `set_interface` writes the name under the `capture_interface` lock and then
  stores `restart_capture = true`.  The capture thread reads the name, stores
  `restart_capture = false`, opens the provider and then tests the flag before
  every packet.  All four accesses are separate atomic steps (one lock, one
  sequentially consistent flag), so a run is any interleaving of them.

  The capture thread clears the flag AFTER it has read the name.  A call that
  performs both its writes in between is forgotten: the thread goes on capturing
  on the old interface with the flag down.
-/
import GeSensor.Foundation.Reachable

set_option autoImplicit false

namespace GeSensor.Pipeline

open GeSensor.Foundation

/-- Where the capture thread stands; the argument is its local `iface`. -/
inductive CapturePc where
  /-- top of the outer loop: load `capture_enabled` -/
  | top
  /-- read `capture_interface` -/
  | readInterface
  /-- store `restart_capture = false` -/
  | clearRestart (iface : String)
  /-- create the capture provider -/
  | openProvider (iface : String)
  /-- inner loop: load `capture_enabled` -/
  | checkEnabled (iface : String)
  /-- inner loop: load `restart_capture` -/
  | checkRestart (iface : String)
  /-- inner loop: read the new name for the log, then break -/
  | switching (iface : String)
  /-- inner loop: handle the next packet, timeout or error -/
  | packet (iface : String)
  deriving DecidableEq, Repr

/-- Where a `set_interface` call stands, once its device check has passed. -/
inductive SetInterfacePc where
  | writeInterface (iface : String)
  | storeRestart
  | returned
  deriving DecidableEq, Repr

/-- The shared variables, the capture thread, and every call made so far. -/
structure SwitchState where
  captureInterface : String
  restartCapture : Bool
  captureEnabled : Bool
  capture : CapturePc
  calls : List SetInterfacePc
  deriving DecidableEq, Repr

/-- A move of one party. -/
inductive SwitchLabel where
  /-- the capture thread; `opened` is what the provider answers when it is opened -/
  | capture (opened : Bool)
  /-- a handler enters `set_interface` with the name of an existing device -/
  | setInterface (iface : String)
  /-- the call with this number performs its next access -/
  | call (number : Nat)
  /-- a handler stores `capture_enabled` -/
  | setCaptureEnabled (enabled : Bool)
  deriving DecidableEq, Repr

/-- State when the capture thread is spawned. -/
def SwitchState.initial (iface : String) : SwitchState where
  captureInterface := iface
  restartCapture := false
  captureEnabled := true
  capture := .top
  calls := []

/-- One step of the capture thread. -/
def captureStep (state : SwitchState) (opened : Bool) : SwitchState :=
  match state.capture with
  | .top => { state with capture := if state.captureEnabled then .readInterface else .top }
  | .readInterface => { state with capture := .clearRestart state.captureInterface }
  | .clearRestart iface => { state with restartCapture := false, capture := .openProvider iface }
  | .openProvider iface => { state with capture := if opened then .checkEnabled iface else .top }
  | .checkEnabled iface =>
      { state with capture := if state.captureEnabled then .checkRestart iface else .top }
  | .checkRestart iface =>
      { state with capture := if state.restartCapture then .switching iface else .packet iface }
  | .switching _ => { state with capture := .top }
  | .packet iface => { state with capture := .checkEnabled iface }

/-- One access of a `set_interface` call. -/
def callStep (state : SwitchState) (number : Nat) : Option SwitchState :=
  match state.calls[number]? with
  | some (.writeInterface iface) =>
      some { state with
        captureInterface := iface, calls := state.calls.set number .storeRestart }
  | some .storeRestart =>
      some { state with restartCapture := true, calls := state.calls.set number .returned }
  | some .returned => none
  | none => none

/-- One move of the system. -/
def switchStep (state : SwitchState) : SwitchLabel → Option SwitchState
  | .capture opened => some (captureStep state opened)
  | .setInterface iface => some { state with calls := state.calls ++ [.writeInterface iface] }
  | .call number => callStep state number
  | .setCaptureEnabled enabled => some { state with captureEnabled := enabled }

/-- The interface an inner loop captures on. -/
def CapturePc.capturing : CapturePc → Option String
  | .checkEnabled iface | .checkRestart iface | .switching iface | .packet iface => some iface
  | _ => none

/-- Some call is between its two writes. -/
def SwitchState.CallPending (state : SwitchState) : Prop := .storeRestart ∈ state.calls

instance (state : SwitchState) : Decidable state.CallPending :=
  inferInstanceAs (Decidable (_ ∈ _))

/-- No switch is lost: an inner loop that no call is about to notify captures on
the current interface or will find the flag up. -/
def SwitchState.NoSwitchLost (state : SwitchState) : Prop :=
  ∀ iface, state.capture.capturing = some iface → ¬ state.CallPending →
    iface = state.captureInterface ∨ state.restartCapture = true

/-- The flag is not cleared on a stale name: when the capture thread stores
`restart_capture = false`, the name it has read is still the current one, or a
call that will raise the flag again is between its two writes. -/
def ClearsCurrent (state : SwitchState) (label : SwitchLabel) : Prop :=
  match state.capture, label with
  | .clearRestart iface, .capture _ => iface = state.captureInterface ∨ state.CallPending
  | _, _ => True

instance (state : SwitchState) (label : SwitchLabel) : Decidable (ClearsCurrent state label) := by
  unfold ClearsCurrent
  split <;> infer_instance

/-! ## Invariant -/

/-- The name that the capture thread holds after it has cleared the flag. -/
def CapturePc.cleared : CapturePc → Option String
  | .openProvider iface | .checkEnabled iface | .checkRestart iface | .switching iface
  | .packet iface => some iface
  | _ => none

theorem CapturePc.cleared_of_capturing {pc : CapturePc} {iface : String}
    (h : pc.capturing = some iface) : pc.cleared = some iface := by
  cases pc <;> simp_all [capturing, cleared]

/-- A thread past its clear holds the current name, or will be told: the flag is
up, or a call is about to raise it. -/
def SwitchState.Informed (state : SwitchState) : Prop :=
  ∀ iface, state.capture.cleared = some iface →
    iface = state.captureInterface ∨ state.restartCapture = true ∨ state.CallPending

theorem SwitchState.Informed.noSwitchLost {state : SwitchState} (h : state.Informed) :
    state.NoSwitchLost := by
  intro iface hcapturing hidle
  rcases h iface (CapturePc.cleared_of_capturing hcapturing) with hname | hflag | hpending
  · exact Or.inl hname
  · exact Or.inr hflag
  · exact absurd hpending hidle

/-- Moving the thread without learning a name keeps the invariant. -/
theorem SwitchState.Informed.withCapture {state : SwitchState} (hinv : state.Informed)
    {pc : CapturePc} (hheld : ∀ iface, pc.cleared = some iface →
      state.capture.cleared = some iface) : { state with capture := pc }.Informed :=
  fun iface hname => hinv iface (hheld iface hname)

theorem captureStep_informed {state : SwitchState} {opened : Bool} (hinv : state.Informed)
    (hclear : ClearsCurrent state (.capture opened)) :
    (captureStep state opened).Informed := by
  unfold captureStep
  cases hpc : state.capture with
  | top =>
      apply hinv.withCapture
      intro iface hname
      split at hname <;> cases hname
  | readInterface =>
      apply hinv.withCapture
      intro iface hname
      cases hname
  | clearRestart held =>
      -- The flag goes down here; the condition says why that is harmless.
      intro iface hname
      cases hname
      simp only [ClearsCurrent, hpc] at hclear
      rcases hclear with hcurrent | hpending
      · exact Or.inl hcurrent
      · exact Or.inr (Or.inr hpending)
  | openProvider held =>
      apply hinv.withCapture
      intro iface hname
      split at hname
      · rw [hpc]
        exact hname
      · cases hname
  | checkEnabled held =>
      apply hinv.withCapture
      intro iface hname
      split at hname
      · rw [hpc]
        exact hname
      · cases hname
  | checkRestart held =>
      apply hinv.withCapture
      intro iface hname
      rw [hpc]
      split at hname <;> exact hname
  | switching held =>
      apply hinv.withCapture
      intro iface hname
      cases hname
  | packet held =>
      apply hinv.withCapture
      intro iface hname
      rw [hpc]
      exact hname

theorem callStep_informed {state next : SwitchState} {number : Nat}
    (hstep : callStep state number = some next) : next.Informed := by
  unfold callStep at hstep
  split at hstep
  · -- The first write: the call itself is now pending.
    rename_i iface hcall
    obtain ⟨hnumber, _⟩ := List.getElem?_eq_some_iff.mp hcall
    cases hstep
    intro _ _
    exact Or.inr (Or.inr (List.mem_set hnumber _))
  · -- The second write raises the flag.
    cases hstep
    intro _ _
    exact Or.inr (Or.inl rfl)
  · cases hstep
  · cases hstep

/-- The step lemma. -/
theorem switchStep_informed {state next : SwitchState} {label : SwitchLabel}
    (hinv : state.Informed) (hclear : ClearsCurrent state label)
    (hstep : switchStep state label = some next) : next.Informed := by
  cases label with
  | capture opened =>
      cases hstep
      exact captureStep_informed hinv hclear
  | setInterface iface =>
      cases hstep
      intro name hname
      rcases hinv name hname with hcurrent | hflag | hpending
      · exact Or.inl hcurrent
      · exact Or.inr (Or.inl hflag)
      · exact Or.inr (Or.inr (List.mem_append_left _ hpending))
  | call number => exact callStep_informed hstep
  | setCaptureEnabled enabled =>
      cases hstep
      exact hinv

/-- In every run whose clears all happen on a current name, no interface switch
is lost. -/
theorem noSwitchLost_of_clearsCurrent {iface : String} {state : SwitchState}
    (h : ReachableBy switchStep ClearsCurrent (.initial iface) state) : state.NoSwitchLost := by
  apply SwitchState.Informed.noSwitchLost
  apply ReachableBy.invariant SwitchState.Informed _ _ h
  · intro name hname
    cases hname
  · exact switchStep_informed

/-- A switch that is taken over: the call comes before the read. -/
theorem noSwitchLost_after_switch :
    (SwitchState.mk "eth1" false true (.checkEnabled "eth1") [.returned]).NoSwitchLost :=
  have hreached : ReachableBy switchStep ClearsCurrent (.initial "eth0")
      ⟨"eth1", false, true, .checkEnabled "eth1", [.returned]⟩ :=
    reachableBy_of_runLabels [.setInterface "eth1", .call 0, .call 0,
      .capture true, .capture true, .capture true, .capture true] .start (by decide)
  noSwitchLost_of_clearsCurrent hreached

/-- The condition leaves out nothing else: a clear on a stale name with no call
pending is followed, once the provider opens, by a lost switch. -/
theorem switch_lost_of_stale_clear {state : SwitchState} {iface : String}
    (hpc : state.capture = .clearRestart iface) (hstale : iface ≠ state.captureInterface)
    (hidle : ¬ state.CallPending) :
    ¬ (captureStep (captureStep state true) true).NoSwitchLost := by
  have hafter : captureStep (captureStep state true) true =
      { state with restartCapture := false, capture := .checkEnabled iface } := by
    simp [captureStep, hpc]
  rw [hafter]
  intro h
  rcases h iface rfl hidle with hname | hflag
  · exact hstale hname
  · cases hflag

/-- Both writes of one call fall between the read and the clear: the thread
captures on `eth0`, the interface is `eth1`, the flag is down. -/
theorem interface_switch_lost :
    ∃ state, Reachable switchStep (.initial "eth0") state ∧ ¬ state.NoSwitchLost := by
  refine ⟨⟨"eth1", false, true, .checkEnabled "eth0", [.returned]⟩, ?_, ?_⟩
  · exact reachableBy_of_runLabels [.capture true, .capture true,
      .setInterface "eth1", .call 0, .call 0, .capture true, .capture true] .start (by decide)
  · intro h
    rcases h "eth0" rfl (by decide) with hname | hflag
    · exact absurd hname (by decide)
    · cases hflag

end GeSensor.Pipeline
