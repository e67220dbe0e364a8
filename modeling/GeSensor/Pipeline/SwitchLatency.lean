/-
  Pipeline/SwitchLatency.lean --- how soon the capture thread obeys.

  The thread looks at the two flags before each packet, so a packet may be on its way when a
  handler stores one of them.  One more packet is handled after the capture is disabled, and
  one at most on the old interface after a switch; and where no flag changes any more, the
  thread is at a packet of the new interface within eleven of its own moves.  The handlers'
  accesses may come between any two moves of the thread.
-/
import GeSensor.Pipeline.InterfaceSwitch

set_option autoImplicit false

namespace GeSensor.Pipeline

open GeSensor.Foundation

/-- For each move of the capture thread, the interface it asks for a packet in it. -/
def captureAsks (state : SwitchState) : SwitchLabel → List (Option String)
  | .capture _ =>
      match state.capture with
      | .packet iface => [some iface]
      | _ => [none]
  | .setInterface _ | .call _ | .setCaptureEnabled _ => []

theorem length_captureAsks (state : SwitchState) (opened : Bool) :
    (captureAsks state (.capture opened)).length = 1 := by
  unfold captureAsks
  cases state.capture <;> rfl

/-- The interfaces asked, without the moves between. -/
def askedOf (moves : List (Option String)) : List String := moves.filterMap id

@[simp] theorem askedOf_nil : askedOf [] = [] := rfl

@[simp] theorem askedOf_none : askedOf [none] = [] := rfl

@[simp] theorem askedOf_some (iface : String) : askedOf [some iface] = [iface] := rfl

@[simp] theorem askedOf_append (before after : List (Option String)) :
    askedOf (before ++ after) = askedOf before ++ askedOf after :=
  List.filterMap_append

/-- A run of the system, with the moves of the capture thread. -/
abbrev CaptureRun (allowed : SwitchState → SwitchLabel → Prop) (start state : SwitchState)
    (moves : List (Option String)) : Prop :=
  TracedBy switchStep captureAsks allowed start state moves

/-! ## A pause -/

/-- The thread has found the capture enabled and will ask once more. -/
def CapturePc.willAsk : CapturePc → Bool
  | .checkRestart _ | .packet _ => true
  | _ => false

/-- While the capture is disabled, the thread asks for a packet only if it was about to. -/
theorem captureStep_willAsk {state : SwitchState} (hpaused : state.captureEnabled = false)
    (opened : Bool) :
    (askedOf (captureAsks state (.capture opened))).length +
      (captureStep state opened).capture.willAsk.toNat ≤ state.capture.willAsk.toNat := by
  unfold captureStep captureAsks
  cases hpc : state.capture with
  | top | checkEnabled => simp [hpaused, CapturePc.willAsk]
  | readInterface | clearRestart | switching | packet => simp [CapturePc.willAsk]
  | openProvider iface => cases opened <;> simp [CapturePc.willAsk]
  | checkRestart iface => cases hflag : state.restartCapture <;> simp [CapturePc.willAsk]

theorem captureStep_frame (state : SwitchState) (opened : Bool) :
    (captureStep state opened).captureEnabled = state.captureEnabled ∧
      (captureStep state opened).captureInterface = state.captureInterface ∧
        (captureStep state opened).calls = state.calls := by
  unfold captureStep
  cases state.capture <;> exact ⟨rfl, rfl, rfl⟩

/-- A call of `set_interface` moves neither the thread nor the toggle. -/
theorem callStep_frame {state next : SwitchState} {number : Nat}
    (hstep : callStep state number = some next) :
    next.captureEnabled = state.captureEnabled ∧ next.capture = state.capture := by
  unfold callStep at hstep
  split at hstep
  · cases hstep
    exact ⟨rfl, rfl⟩
  · cases hstep
    exact ⟨rfl, rfl⟩
  · cases hstep
  · cases hstep

/-- Once the capture is disabled, and until it is enabled again, the thread asks for one more
packet at most, and for none unless it has already passed the test. -/
theorem asked_le_of_paused {paused state : SwitchState} {moves : List (Option String)}
    (hpaused : paused.captureEnabled = false)
    (hrun : CaptureRun (fun _ label => label ≠ .setCaptureEnabled true) paused state moves) :
    (askedOf moves).length ≤ paused.capture.willAsk.toNat := by
  have hinv := TracedBy.invariant _ hrun (fun state moves => state.captureEnabled = false ∧
    (askedOf moves).length + state.capture.willAsk.toNat ≤ paused.capture.willAsk.toNat)
    ⟨hpaused, by simp⟩ ?_
  · omega
  · intro state next moves label h hallowed hstep
    obtain ⟨hdisabled, hcount⟩ := h
    rw [askedOf_append, List.length_append]
    cases label with
    | capture opened =>
        cases hstep
        have hask := captureStep_willAsk hdisabled opened
        refine ⟨(captureStep_frame state opened).1.trans hdisabled, ?_⟩
        omega
    | setInterface iface =>
        cases hstep
        exact ⟨hdisabled, hcount⟩
    | call number =>
        obtain ⟨henabled, hcapture⟩ := callStep_frame hstep
        refine ⟨henabled.trans hdisabled, ?_⟩
        rw [hcapture]
        exact hcount
    | setCaptureEnabled enabled =>
        cases hstep
        cases enabled with
        | true => exact absurd rfl hallowed
        | false => exact ⟨rfl, hcount⟩

/-- The capture is disabled when the thread has just found it enabled. -/
theorem asked_le_of_paused_once :
    (askedOf [none, some "eth0", none, none, none]).length ≤
      (CapturePc.checkRestart "eth0").willAsk.toNat :=
  have hrun : CaptureRun (fun _ label => label ≠ .setCaptureEnabled true)
      ⟨"eth0", false, false, .checkRestart "eth0", []⟩ ⟨"eth0", false, false, .top, []⟩
      [none, some "eth0", none, none, none] :=
    reachableBy_of_runLabels (List.replicate 5 (.capture true)) .start (by decide)
  asked_le_of_paused rfl hrun

/-! ## A switch -/

/-- No call of `set_interface` is under way. -/
def SwitchState.Settled (state : SwitchState) : Prop := ∀ call ∈ state.calls, call = .returned

instance (state : SwitchState) : Decidable state.Settled :=
  inferInstanceAs (Decidable (∀ call ∈ state.calls, call = .returned))

theorem SwitchState.Settled.not_pending {state : SwitchState} (h : state.Settled) :
    ¬state.CallPending := fun hpending => SetInterfacePc.noConfusion (h _ hpending)

theorem SwitchState.Settled.callStep_eq_none {state : SwitchState} (h : state.Settled)
    (number : Nat) : callStep state number = none := by
  unfold callStep
  cases hcall : state.calls[number]? with
  | none => rfl
  | some call => rw [h call (List.mem_of_getElem? hcall)]

/-- The interface is settled, and the thread holds its name or finds the flag up. -/
structure SwitchState.Switched (iface : String) (state : SwitchState) : Prop where
  settled : state.Settled
  current : state.captureInterface = iface
  informed : state.Informed

theorem SwitchState.Switched.held {iface held : String} {state : SwitchState}
    (h : state.Switched iface) (hheld : state.capture.cleared = some held) :
    held = iface ∨ state.restartCapture = true := by
  rcases h.informed held hheld with hname | hflag | hpending
  · exact Or.inl (hname.trans h.current)
  · exact Or.inr hflag
  · exact absurd hpending h.settled.not_pending

/-- A handler enters `set_interface`. -/
def SwitchLabel.isNewSwitch : SwitchLabel → Bool
  | .setInterface _ => true
  | _ => false

/-- No handler enters `set_interface`, and the flag is not cleared on a stale name. -/
def noNewSwitch (state : SwitchState) (label : SwitchLabel) : Prop :=
  label.isNewSwitch = false ∧ ClearsCurrent state label

instance (state : SwitchState) (label : SwitchLabel) : Decidable (noNewSwitch state label) :=
  inferInstanceAs (Decidable (_ ∧ _))

theorem SwitchState.Switched.step {iface : String} {state next : SwitchState}
    {label : SwitchLabel} (h : state.Switched iface) (hallowed : noNewSwitch state label)
    (hstep : switchStep state label = some next) : next.Switched iface := by
  have hinformed := switchStep_informed h.informed hallowed.2 hstep
  cases label with
  | capture opened =>
      cases hstep
      obtain ⟨-, hname, hcalls⟩ := captureStep_frame state opened
      refine ⟨fun call hcall => ?_, hname.trans h.current, hinformed⟩
      rw [hcalls] at hcall
      exact h.settled call hcall
  | setInterface name => exact absurd hallowed.1.symm Bool.false_ne_true
  | call number =>
      have hnone := hstep.symm.trans (h.settled.callStep_eq_none number)
      exact absurd hnone (Option.some_ne_none next)
  | setCaptureEnabled enabled =>
      cases hstep
      exact ⟨h.settled, h.current, hinformed⟩

/-- The packets asked of other interfaces. -/
def othersAsked (iface : String) (moves : List (Option String)) : Nat :=
  (askedOf moves).countP fun asked => decide (asked ≠ iface)

/-- The thread is at a packet of another interface. -/
def CapturePc.atOther (iface : String) : CapturePc → Bool
  | .packet held => decide (held ≠ iface)
  | _ => false

theorem captureStep_atOther {iface : String} {state : SwitchState} (h : state.Switched iface)
    (opened : Bool) :
    othersAsked iface (captureAsks state (.capture opened)) +
      ((captureStep state opened).capture.atOther iface).toNat ≤
        (state.capture.atOther iface).toNat := by
  unfold captureStep captureAsks othersAsked
  cases hpc : state.capture with
  | top | checkEnabled =>
      cases henabled : state.captureEnabled <;> simp [CapturePc.atOther]
  | readInterface | clearRestart | switching => simp [CapturePc.atOther]
  | openProvider held => cases opened <;> simp [CapturePc.atOther]
  | packet held => by_cases hname : held = iface <;> simp [CapturePc.atOther, hname]
  | checkRestart held =>
      have hheld : state.capture.cleared = some held := by rw [hpc]; rfl
      cases hflag : state.restartCapture with
      | true => simp [CapturePc.atOther]
      | false =>
          have hname := (h.held hheld).resolve_right (Bool.eq_false_iff.mp hflag)
          simp [CapturePc.atOther, hname]

/-- The moves of the thread that are left before it asks the current interface. -/
def SwitchState.movesLeft (state : SwitchState) : Nat :=
  match state.capture with
  | .packet _ => if state.restartCapture then 11 else 1
  | .checkRestart _ => if state.restartCapture then 9 else 2
  | .checkEnabled _ => if state.restartCapture then 10 else 3
  | .openProvider _ => if state.restartCapture then 11 else 4
  | .clearRestart _ => 5
  | .readInterface => 6
  | .top => 7
  | .switching _ => 8

theorem SwitchState.movesLeft_pos (state : SwitchState) : 0 < state.movesLeft := by
  unfold movesLeft
  split <;> try split
  all_goals decide

theorem SwitchState.movesLeft_le (state : SwitchState) : state.movesLeft ≤ 11 := by
  unfold movesLeft
  split <;> try split
  all_goals decide

/-- Where the capture is enabled and the provider opens, the thread asks the interface or has
one move less to make. -/
theorem captureStep_movesLeft {iface : String} {state : SwitchState} (h : state.Switched iface)
    (henabled : state.captureEnabled = true) :
    captureAsks state (.capture true) = [some iface] ∨
      (captureStep state true).movesLeft + 1 ≤ state.movesLeft := by
  unfold captureStep captureAsks SwitchState.movesLeft
  cases hpc : state.capture with
  | top | readInterface | clearRestart | switching => exact Or.inr (by simp [henabled])
  | openProvider held | checkEnabled held | checkRestart held =>
      refine Or.inr ?_
      cases hflag : state.restartCapture <;> simp [henabled]
  | packet held =>
      have hheld : state.capture.cleared = some held := by rw [hpc]; rfl
      rcases h.held hheld with hname | hflag
      · exact Or.inl (congrArg (fun name => [some name]) hname)
      · exact Or.inr (by simp [hflag])

section

variable {first : String} {start state : SwitchState} {moves : List (Option String)}

theorem switched_of_settled (hstart : ReachableBy switchStep ClearsCurrent (.initial first) start)
    (hsettled : start.Settled) : start.Switched start.captureInterface := by
  refine ⟨hsettled, rfl, hstart.invariant SwitchState.Informed ?_ switchStep_informed⟩
  intro name hname
  cases hname

/-- From any state that is reached without clearing the flag on a stale name, in which every
call of `set_interface` has returned, and until a handler makes another: the thread asks for
one packet at most of an interface other than the one set last. -/
theorem othersAsked_le_one
    (hstart : ReachableBy switchStep ClearsCurrent (.initial first) start)
    (hsettled : start.Settled) (hrun : CaptureRun noNewSwitch start state moves) :
    othersAsked start.captureInterface moves ≤ 1 := by
  have hinv := TracedBy.invariant _ hrun (fun state moves =>
    state.Switched start.captureInterface ∧ othersAsked start.captureInterface moves +
      (state.capture.atOther start.captureInterface).toNat ≤
        (start.capture.atOther start.captureInterface).toNat)
    ⟨switched_of_settled hstart hsettled, by simp [othersAsked]⟩ ?_
  · have hstarted := Bool.toNat_le (start.capture.atOther start.captureInterface)
    omega
  · intro state next moves label h hallowed hstep
    refine ⟨h.1.step hallowed hstep, ?_⟩
    have hcount : othersAsked start.captureInterface (moves ++ captureAsks state label) =
        othersAsked start.captureInterface moves +
          othersAsked start.captureInterface (captureAsks state label) := by
      simp only [othersAsked, askedOf_append, List.countP_append]
    rw [hcount]
    cases label with
    | capture opened =>
        cases hstep
        have hask := captureStep_atOther h.1 opened
        omega
    | setInterface name => exact absurd hallowed.1.symm Bool.false_ne_true
    | call number =>
        have hnone := hstep.symm.trans (h.1.settled.callStep_eq_none number)
        exact absurd hnone (Option.some_ne_none next)
    | setCaptureEnabled enabled =>
        cases hstep
        exact h.2

/-- The thread is at a packet of the old interface when the call returns. -/
def switchRun : List SwitchLabel :=
  [.capture true, .capture true, .capture true, .capture true, .capture true,
    .capture true, .setInterface "eth1", .call 0, .call 0]

theorem switchRun_reached : ReachableBy switchStep ClearsCurrent (.initial "eth0")
    ⟨"eth1", true, true, .packet "eth0", [.returned]⟩ :=
  reachableBy_of_runLabels switchRun .start (by decide)

theorem othersAsked_le_one_switchRun :
    othersAsked "eth1"
      ([some "eth0"] ++ List.replicate 9 none ++ [some "eth1"]) ≤ 1 :=
  have hrun : CaptureRun noNewSwitch ⟨"eth1", true, true, .packet "eth0", [.returned]⟩
      ⟨"eth1", false, true, .checkEnabled "eth1", [.returned]⟩
      ([some "eth0"] ++ List.replicate 9 none ++ [some "eth1"]) :=
    reachableBy_of_runLabels (List.replicate 11 (.capture true)) .start (by decide)
  othersAsked_le_one switchRun_reached (by decide) hrun

/-- No handler enters `set_interface` or disables the capture, the flag is not cleared on a
stale name, and the provider opens. -/
def captureGoesOn (state : SwitchState) (label : SwitchLabel) : Prop :=
  noNewSwitch state label ∧ label ≠ .setCaptureEnabled false ∧ label ≠ .capture false

instance (state : SwitchState) (label : SwitchLabel) : Decidable (captureGoesOn state label) :=
  inferInstanceAs (Decidable (_ ∧ _))

/-- From such a state with the capture enabled, and as long as it stays so and the provider
opens: after eleven of its own moves the thread has asked the interface set last. -/
theorem asked_after_switch
    (hstart : ReachableBy switchStep ClearsCurrent (.initial first) start)
    (hsettled : start.Settled) (henabled : start.captureEnabled = true)
    (hrun : CaptureRun captureGoesOn start state moves) (hmoves : 11 ≤ moves.length) :
    some start.captureInterface ∈ moves := by
  have hinv := TracedBy.invariant _ hrun (fun state moves =>
    (state.Switched start.captureInterface ∧ state.captureEnabled = true) ∧
      (some start.captureInterface ∈ moves ∨ moves.length + state.movesLeft ≤ 11))
    ⟨⟨switched_of_settled hstart hsettled, henabled⟩, Or.inr ?_⟩ ?_
  · refine hinv.2.resolve_right fun hleft => ?_
    have hpositive := state.movesLeft_pos
    omega
  · rw [List.length_nil, Nat.zero_add]
    exact start.movesLeft_le
  · intro state next moves label ⟨⟨hswitched, hruns⟩, hmoves⟩ hallowed hstep
    have hnext := hswitched.step hallowed.1 hstep
    cases label with
    | capture opened =>
        cases opened with
        | false => exact absurd rfl hallowed.2.2
        | true =>
            cases hstep
            refine ⟨⟨hnext, (captureStep_frame state true).1.trans hruns⟩, ?_⟩
            rcases hmoves with hasked | hleft
            · exact Or.inl (List.mem_append_left _ hasked)
            · rcases captureStep_movesLeft hswitched hruns with hasks | hless
              · exact Or.inl (List.mem_append_right _ (hasks ▸ List.mem_singleton_self _))
              · refine Or.inr ?_
                rw [List.length_append, length_captureAsks]
                omega
    | setInterface name => exact absurd hallowed.1.1.symm Bool.false_ne_true
    | call number =>
        have hnone := hstep.symm.trans (hswitched.settled.callStep_eq_none number)
        exact absurd hnone (Option.some_ne_none next)
    | setCaptureEnabled enabled =>
        cases hstep
        cases enabled with
        | false => exact absurd rfl hallowed.2.1
        | true =>
            refine ⟨⟨hnext, rfl⟩, ?_⟩
            rw [captureAsks, List.append_nil]
            exact hmoves

end

/-- Eleven moves are needed here. -/
theorem asked_after_switch_switchRun :
    some "eth1" ∈ [some "eth0"] ++ List.replicate 9 none ++ [some "eth1"] :=
  have hrun : CaptureRun captureGoesOn ⟨"eth1", true, true, .packet "eth0", [.returned]⟩
      ⟨"eth1", false, true, .checkEnabled "eth1", [.returned]⟩
      ([some "eth0"] ++ List.replicate 9 none ++ [some "eth1"]) :=
    reachableBy_of_runLabels (List.replicate 11 (.capture true)) .start (by decide)
  asked_after_switch switchRun_reached (by decide) rfl hrun (by decide)

end GeSensor.Pipeline
