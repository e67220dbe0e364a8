/-
  Pipeline/AlertEvidence.lean --- what the capture of an alert holds.

  The capture thread pushes a frame to the forensic ring before it looks at it.  If a rule
  matches, the thread itself calls `create_pcap_capture`, and takes the next frame only when
  the call has returned.  So however the handlers' captures and changes of the rules come in
  between, the file of an alert is what the ring flushed right behind the frame that raised
  it.  Whether this frame is in the file is another matter: see `PcapStore.RingRuns`.
-/
import GeSensor.Dashboard.CapturedPackets
import GeSensor.Dashboard.PacketsTab
import GeSensor.Pipeline.Interleaved

set_option autoImplicit false

namespace GeSensor.Pipeline

open GeSensor.Dashboard
open GeSensor.Foundation
open GeSensor.Ips
open GeSensor.PcapStore

/-! ## The capture thread beside the captures -/

/-- `five_tuple` of an alert. -/
def fiveTupleOf (inspected : InspectedPacket) : List Char :=
  inspected.srcIp.display ++ ':' :: (decimal inspected.packet.srcPort.toNat ++ " -> ".toList ++
    (inspected.dstIp.display ++ ':' :: (decimal inspected.packet.dstPort.toNat ++
      '/' :: toUppercase (protocolText inspected.packet.protocolName))))

/-- The call of the capture thread for a rule that has matched. -/
def alertRequest (inspected : InspectedPacket) (rule : IpsRule) : CaptureRequest where
  triggerType := "alert"
  fiveTuple := String.ofList (fiveTupleOf inspected)
  ruleId := some rule.id

/-- `pcap.trigger` asks for captures on alerts. -/
def savesAlerts (trigger : String) : Bool :=
  eqIgnoreAsciiCase trigger.toList "alert".toList ||
    eqIgnoreAsciiCase trigger.toList "always".toList

/-- Where the capture thread stands in a frame. -/
inductive FramePhase where
  /-- wait for the next frame -/
  | waiting
  /-- dissect the frame and look at the toggles -/
  | pushed (packet : Packet)
  /-- ask the engine -/
  | gated (packet : Packet) (inspected : InspectedPacket)
  /-- wait for the call of this number -/
  | saving (number : Nat)

/-- The captures, what the capture thread reads of the sensor, and where it stands. -/
structure Forensics where
  capture : CaptureState
  dissectors : DissectorConfig
  ipsEngine : IpsEngine
  phase : FramePhase

/-- A move of one party. -/
inductive ForensicsLabel where
  /-- a frame is received and pushed to the ring -/
  | frame (packet : Packet)
  | gate
  | evaluate
  /-- the thread's call has returned -/
  | resume
  /-- one step of a call of `create_pcap_capture`, the thread's own or a handler's -/
  | call (move : CaptureLabel)
  /-- a handler calls `create_pcap_capture` -/
  | manual
  /-- other threads change the toggles and the rules, in any way -/
  | others (dissectors : DissectorConfig) (ipsEngine : IpsEngine)

/-- A step of a call, not a push, a new call or a restart. -/
def isCallStep : CaptureLabel → Bool
  | .push _ | .enter _ | .restart _ => false
  | _ => true

namespace Forensics

/-- A process started on the given files. -/
def start (files : Files) (ring : PacketRingBuffer) (dissectors : DissectorConfig)
    (ipsEngine : IpsEngine) : Forensics where
  capture := .start files ring
  dissectors := dissectors
  ipsEngine := ipsEngine
  phase := .waiting

/-- One move; `none` when it is not possible. -/
def step (spare : Nat → Nat) (trigger : String) (state : Forensics) :
    ForensicsLabel → Option Forensics
  | .frame packet =>
      match state.phase with
      | .waiting => (Dashboard.captureStep spare state.capture (.push packet)).map fun capture =>
          { state with capture := capture, phase := .pushed packet }
      | _ => none
  | .gate =>
      match state.phase with
      | .pushed packet =>
          match inspected? state.dissectors packet.data with
          | some inspected => some { state with phase := .gated packet inspected }
          | none => some { state with phase := .waiting }
      | _ => none
  | .evaluate =>
      match state.phase with
      | .gated _ inspected =>
          let (answer, engine) := state.ipsEngine.evaluate inspected.evaluateArgs
          match answer.2 with
          | some rule =>
              if savesAlerts trigger then
                (Dashboard.captureStep spare state.capture
                    (.enter (alertRequest inspected rule))).map fun capture =>
                  { state with
                    capture := capture
                    ipsEngine := engine
                    phase := .saving state.capture.calls.length }
              else some { state with ipsEngine := engine, phase := .waiting }
          | none => some { state with ipsEngine := engine, phase := .waiting }
      | _ => none
  | .resume =>
      match state.phase with
      | .saving number =>
          match state.capture.calls[number]?.map CaptureCall.pc with
          | some (.returned _) => some { state with phase := .waiting }
          | _ => none
      | _ => none
  | .call move =>
      if isCallStep move then
        (Dashboard.captureStep spare state.capture move).map fun capture =>
          { state with capture := capture }
      else none
  | .manual =>
      (Dashboard.captureStep spare state.capture (.enter .manual)).map fun capture =>
        { state with capture := capture }
  | .others dissectors ipsEngine =>
      some { state with dissectors := dissectors, ipsEngine := ipsEngine }

/-- The moves of the system, each with what it requires. -/
inductive Move (spare : Nat → Nat) (trigger : String) (state : Forensics) :
    ForensicsLabel → Forensics → Prop
  | frame {packet : Packet} {capture : CaptureState} (hphase : state.phase = .waiting)
      (hpush : Dashboard.captureStep spare state.capture (.push packet) = some capture) :
      Move spare trigger state (.frame packet)
        { state with capture := capture, phase := .pushed packet }
  | gate {packet : Packet} {inspected : InspectedPacket} (hphase : state.phase = .pushed packet)
      (hinspected : inspected? state.dissectors packet.data = some inspected) :
      Move spare trigger state .gate { state with phase := .gated packet inspected }
  | ignore {packet : Packet} (hphase : state.phase = .pushed packet) :
      Move spare trigger state .gate { state with phase := .waiting }
  | alert {packet : Packet} {inspected : InspectedPacket} {rule : IpsRule}
      {capture : CaptureState} {ipsEngine : IpsEngine}
      (hphase : state.phase = .gated packet inspected)
      (hrule : (state.ipsEngine.evaluate inspected.evaluateArgs).1.2 = some rule)
      (henter : Dashboard.captureStep spare state.capture (.enter (alertRequest inspected rule)) =
        some capture) :
      Move spare trigger state .evaluate
        { state with
          capture := capture
          ipsEngine := ipsEngine
          phase := .saving state.capture.calls.length }
  | pass {packet : Packet} {inspected : InspectedPacket} {ipsEngine : IpsEngine}
      (hphase : state.phase = .gated packet inspected) :
      Move spare trigger state .evaluate
        { state with ipsEngine := ipsEngine, phase := .waiting }
  | resume {number : Nat} {call : CaptureCall} {answer : Except String PcapCaptureRecord}
      (hphase : state.phase = .saving number) (hcall : state.capture.calls[number]? = some call)
      (hpc : call.pc = .returned answer) :
      Move spare trigger state .resume { state with phase := .waiting }
  | call {move : CaptureLabel} {capture : CaptureState} (hmove : isCallStep move = true)
      (hstep : Dashboard.captureStep spare state.capture move = some capture) :
      Move spare trigger state (.call move) { state with capture := capture }
  | manual {capture : CaptureState}
      (henter : Dashboard.captureStep spare state.capture (.enter .manual) = some capture) :
      Move spare trigger state .manual { state with capture := capture }
  | others {dissectors : DissectorConfig} {ipsEngine : IpsEngine} :
      Move spare trigger state (.others dissectors ipsEngine)
        { state with dissectors := dissectors, ipsEngine := ipsEngine }

theorem step_cases {spare : Nat → Nat} {trigger : String} {state next : Forensics}
    {label : ForensicsLabel} (hstep : state.step spare trigger label = some next) :
    Move spare trigger state label next := by
  unfold step at hstep
  split at hstep
  case h_1 =>
    split at hstep
    · obtain ⟨capture, hpush, rfl⟩ := Option.map_eq_some_iff.mp hstep
      exact .frame ‹_› hpush
    · cases hstep
  case h_2 =>
    split at hstep
    · split at hstep
      · cases hstep
        exact .gate ‹_› ‹_›
      · cases hstep
        exact .ignore ‹_›
    · cases hstep
  case h_3 =>
    split at hstep
    · dsimp only at hstep
      split at hstep
      · split at hstep
        · obtain ⟨capture, henter, rfl⟩ := Option.map_eq_some_iff.mp hstep
          exact .alert ‹_› ‹_› henter
        · cases hstep
          exact .pass ‹_›
      · cases hstep
        exact .pass ‹_›
    · cases hstep
  case h_4 =>
    split at hstep
    · split at hstep
      · rename_i hreturned
        cases hstep
        obtain ⟨call, hcall, hpc⟩ := Option.map_eq_some_iff.mp hreturned
        exact .resume ‹_› hcall hpc
      · cases hstep
    · cases hstep
  case h_5 =>
    rw [Option.ite_none_right_eq_some] at hstep
    obtain ⟨hmove, hstep⟩ := hstep
    obtain ⟨capture, hcapture, rfl⟩ := Option.map_eq_some_iff.mp hstep
    exact .call hmove hcapture
  case h_6 =>
    obtain ⟨capture, henter, rfl⟩ := Option.map_eq_some_iff.mp hstep
    exact .manual henter
  case h_7 =>
    cases hstep
    exact .others

end Forensics

/-! ## Calls -/

/-- The capture thread goes on behind such a call. -/
def hasReturned (call : CaptureCall) : Bool :=
  match call.pc with
  | .returned _ => true
  | _ => false

/-- What one step of a call does to it: it had not returned, and what it fixes to write is
what the ring flushes now. -/
structure CallStepped (maxBytes : Nat) (pushed : List Packet) (call moved : CaptureCall) :
    Prop where
  running : hasReturned call = false
  request : moved.request = call.request
  flush : moved.pc.hasFixed = true →
    moved.flush = fileOf (flushedPackets maxBytes pushed) ∨
      call.pc.hasFixed = true ∧ moved.flush = call.flush

theorem captureStep_call {spare : Nat → Nat} {state next : CaptureState} {move : CaptureLabel}
    {pushed : List Packet} (h : state.HoldsPackets pushed) (hmove : isCallStep move = true)
    (hstep : Dashboard.captureStep spare state move = some next) :
    next.pcapRing = state.pcapRing ∧ ∃ (number : Nat) (call moved : CaptureCall),
      state.calls[number]? = some call ∧ next.calls = state.calls.set number moved ∧
        CallStepped state.pcapRing.maxBytes pushed call moved := by
  cases captureStep_cases hstep with
  | push | enter | restart => cases hmove
  | draw hcall hpc =>
      exact ⟨rfl, _, _, _, hcall, rfl, by rw [hasReturned, hpc], rfl,
        fun hfixed => by cases hfixed⟩
  | create hcall hpc hfree hflush =>
      refine ⟨rfl, _, _, _, hcall, rfl, by rw [hasReturned, hpc], rfl, fun _ => ?_⟩
      rw [PacketRingBuffer.flushToPcap_eq h.ring, h.ring.len_eq] at hflush
      cases hflush
      exact Or.inl rfl
  | createFailed hcall hpc =>
      exact ⟨rfl, _, _, _, hcall, rfl, by rw [hasReturned, hpc], rfl,
        fun hfixed => by cases hfixed⟩
  | write hcall hpc | finish hcall hpc | measure hcall hpc =>
      exact ⟨rfl, _, _, _, hcall, rfl, by rw [hasReturned, hpc], rfl,
        fun _ => Or.inr ⟨hpc ▸ rfl, rfl⟩⟩
  | writeFailed hcall hpc =>
      exact ⟨rfl, _, _, _, hcall, rfl, by rw [hasReturned, hpc], rfl,
        fun hfixed => by cases hfixed⟩
  | record hcall hpc =>
      exact ⟨CaptureState.pushRecord_pcapRing _ _ _, _, _, _, hcall,
        CaptureState.pushRecord_calls _ _ _, by rw [hasReturned, hpc], rfl,
        fun _ => Or.inr ⟨hpc ▸ rfl, rfl⟩⟩

/-! ## Alerts -/

def ForensicsLabel.packet? : ForensicsLabel → Option Packet
  | .frame packet => some packet
  | _ => none

/-- The packets pushed in a run. -/
def pushedIn (labels : List ForensicsLabel) : List Packet :=
  labels.filterMap ForensicsLabel.packet?

/-- A packet that a rule has matched. -/
structure Alert where
  /-- the packets pushed before it -/
  earlier : List Packet
  packet : Packet
  inspected : InspectedPacket
  rule : IpsRule

/-- The packets pushed when the alert is raised. -/
def Alert.pushed (alert : Alert) : List Packet := alert.earlier ++ [alert.packet]

section

variable {spare : Nat → Nat} {trigger : String} {start state next : Forensics}
  {labels : List ForensicsLabel} {label : ForensicsLabel} {maxBytes : Nat}

/-- At some point of a run the engine answers with the rule for the packet pushed last. -/
def Alert.RaisedIn (spare : Nat → Nat) (trigger : String) (start : Forensics) (alert : Alert)
    (labels : List ForensicsLabel) : Prop :=
  ∃ (before after : List ForensicsLabel) (moment : Forensics),
    labels = before ++ .evaluate :: after ∧
    Run (Forensics.step spare trigger) start before moment ∧
    pushedIn before = alert.pushed ∧
    moment.phase = .gated alert.packet alert.inspected ∧
    addressed? alert.packet.data = some alert.inspected ∧
    (moment.ipsEngine.evaluate alert.inspected.evaluateArgs).1.2 = some alert.rule

theorem Alert.RaisedIn.snoc {alert : Alert} (h : alert.RaisedIn spare trigger start labels)
    (label : ForensicsLabel) : alert.RaisedIn spare trigger start (labels ++ [label]) := by
  obtain ⟨before, after, moment, rfl, hraised⟩ := h
  exact ⟨before, after ++ [label], moment, by simp, hraised⟩

/-- A call that is a handler's, or that of an alert: what it writes is what the ring flushed
when the alert was raised, and until it returns the capture thread waits for it. -/
def FollowsAlert (spare : Nat → Nat) (trigger : String) (start : Forensics) (maxBytes : Nat)
    (labels : List ForensicsLabel) (phase : FramePhase) (number : Nat) (call : CaptureCall) :
    Prop :=
  call.request = .manual ∨ ∃ alert : Alert, alert.RaisedIn spare trigger start labels ∧
    call.request = alertRequest alert.inspected alert.rule ∧
    (call.pc.hasFixed = true → call.flush = fileOf (flushedPackets maxBytes alert.pushed)) ∧
    (hasReturned call = false → phase = .saving number ∧ pushedIn labels = alert.pushed)

/-- What the capture thread has in its hands is the packet pushed last. -/
def FramePhase.Holds (pushed : List Packet) : FramePhase → Prop
  | .pushed packet => ∃ earlier, pushed = earlier ++ [packet]
  | .gated packet inspected =>
      (∃ earlier, pushed = earlier ++ [packet]) ∧ addressed? packet.data = some inspected
  | .waiting | .saving _ => True

/-- What holds in every run. -/
structure Kept (spare : Nat → Nat) (trigger : String) (start : Forensics) (maxBytes : Nat)
    (labels : List ForensicsLabel) (state : Forensics) : Prop where
  reached : Reachable (Dashboard.captureStep spare) start.capture state.capture
  holds : state.capture.HoldsPackets (pushedIn labels)
  ring : state.capture.pcapRing.maxBytes = maxBytes
  phase : state.phase.Holds (pushedIn labels)
  calls : ∀ (number : Nat) (call : CaptureCall), state.capture.calls[number]? = some call →
    FollowsAlert spare trigger start maxBytes labels state.phase number call

theorem pushedIn_snoc (labels : List ForensicsLabel) (label : ForensicsLabel) :
    pushedIn (labels ++ [label]) = pushedIn labels ++ label.packet?.toList := by
  rw [pushedIn, List.filterMap_append, List.filterMap_cons]
  cases label.packet? <;> rfl

theorem pushedIn_silent (labels : List ForensicsLabel) (hlabel : label.packet? = none) :
    pushedIn (labels ++ [label]) = pushedIn labels := by
  rw [pushedIn_snoc, hlabel]
  exact List.append_nil _

/-- While the capture thread waits for no call, all alerts' calls have returned. -/
theorem FollowsAlert.idle {phase later : FramePhase} {number : Nat} {call : CaptureCall}
    (h : FollowsAlert spare trigger start maxBytes labels phase number call)
    (hidle : phase = .saving number → hasReturned call = true)
    (label : ForensicsLabel) :
    FollowsAlert spare trigger start maxBytes (labels ++ [label]) later number call := by
  refine h.imp_right ?_
  rintro ⟨alert, hraised, hrequest, hflush, hopen⟩
  refine ⟨alert, hraised.snoc label, hrequest, hflush, fun hrunning => ?_⟩
  have hreturned := hidle (hopen hrunning).1
  rw [hrunning] at hreturned
  cases hreturned

/-- A move of another party, that pushes nothing. -/
theorem FollowsAlert.other {phase : FramePhase} {number : Nat} {call : CaptureCall}
    (h : FollowsAlert spare trigger start maxBytes labels phase number call)
    (hlabel : label.packet? = none) :
    FollowsAlert spare trigger start maxBytes (labels ++ [label]) phase number call := by
  refine h.imp_right ?_
  rintro ⟨alert, hraised, hrequest, hflush, hopen⟩
  refine ⟨alert, hraised.snoc label, hrequest, hflush, fun hrunning => ?_⟩
  rw [pushedIn_silent labels hlabel]
  exact hopen hrunning

/-- A step of the call. -/
theorem FollowsAlert.stepped {phase : FramePhase} {number : Nat} {call moved : CaptureCall}
    (h : FollowsAlert spare trigger start maxBytes labels phase number call)
    (hlabel : label.packet? = none)
    (hstepped : CallStepped maxBytes (pushedIn labels) call moved) :
    FollowsAlert spare trigger start maxBytes (labels ++ [label]) phase number moved := by
  unfold FollowsAlert
  rw [hstepped.request]
  refine h.imp_right ?_
  rintro ⟨alert, hraised, hrequest, hflush, hopen⟩
  obtain ⟨hphase, hpushed⟩ := hopen hstepped.running
  refine ⟨alert, hraised.snoc label, hrequest, fun hfixed => ?_, fun _ => ⟨hphase, ?_⟩⟩
  · rcases hstepped.flush hfixed with hnow | ⟨hbefore, hsame⟩
    · rw [hnow, hpushed]
    · rw [hsame, hflush hbefore]
  · rw [pushedIn_silent labels hlabel, hpushed]

theorem captureStep_enter {capture entered : CaptureState} {request : CaptureRequest}
    (henter : Dashboard.captureStep spare capture (.enter request) = some entered) :
    entered = { capture with
      calls := capture.calls ++ [⟨request, 0, 0, [], false, .entered⟩] } := by
  rw [Dashboard.captureStep, Option.some.injEq] at henter
  exact henter.symm

namespace Kept

/-- Behind a phase in which the capture thread waits for no call. -/
theorem idle (h : Kept spare trigger start maxBytes labels state)
    (hbusy : ∀ number, state.phase ≠ .saving number) {later : FramePhase} {number : Nat}
    {call : CaptureCall} (hcall : state.capture.calls[number]? = some call)
    (label : ForensicsLabel) :
    FollowsAlert spare trigger start maxBytes (labels ++ [label]) later number call :=
  (h.calls number call hcall).idle (fun hwaits => absurd hwaits (hbusy number)) label

/-- A move of the capture thread that neither pushes nor calls. -/
theorem quiet (h : Kept spare trigger start maxBytes labels state)
    (hbusy : ∀ number, state.phase ≠ .saving number) (hlabel : label.packet? = none)
    (hcapture : next.capture = state.capture) (hphase : next.phase.Holds (pushedIn labels)) :
    Kept spare trigger start maxBytes (labels ++ [label]) next := by
  rw [← pushedIn_silent labels hlabel] at hphase
  refine ⟨hcapture ▸ h.reached, ?_, hcapture ▸ h.ring, hphase, fun number call hcall => ?_⟩
  · rw [pushedIn_silent labels hlabel, hcapture]
    exact h.holds
  · rw [hcapture] at hcall
    exact h.idle hbusy hcall label

theorem frame (h : Kept spare trigger start maxBytes labels state) {packet : Packet}
    {capture : CaptureState} (hphase : state.phase = .waiting)
    (hpush : Dashboard.captureStep spare state.capture (.push packet) = some capture) :
    Kept spare trigger start maxBytes (labels ++ [.frame packet])
      { state with capture := capture, phase := .pushed packet } := by
  have hpushed : pushedIn (labels ++ [.frame packet]) = pushedIn labels ++ [packet] :=
    pushedIn_snoc labels _
  have hholds := captureStep_holdsPackets h.holds hpush
  refine ⟨h.reached.step trivial hpush, hpushed ▸ hholds, ?_, ⟨_, hpushed⟩,
    fun number call hcall => ?_⟩
  · cases captureStep_cases hpush with
    | push hfree hring =>
        obtain ⟨ring, hring', _, hmax⟩ :=
          PacketRingBuffer.push_represents spare h.holds.ring packet
        rw [hring] at hring'
        cases hring'
        exact hmax.trans h.ring
  · cases captureStep_cases hpush with
    | push => exact h.idle (by simp [hphase]) hcall _

/-- The alert that the thread's call answers is the one raised in this move. -/
theorem alert (h : Kept spare trigger start maxBytes labels state)
    (hrun : Run (Forensics.step spare trigger) start labels state) {packet : Packet}
    {inspected : InspectedPacket} {rule : IpsRule} {capture : CaptureState} {ipsEngine : IpsEngine}
    (hphase : state.phase = .gated packet inspected)
    (hrule : (state.ipsEngine.evaluate inspected.evaluateArgs).1.2 = some rule)
    (henter : Dashboard.captureStep spare state.capture (.enter (alertRequest inspected rule)) =
      some capture) :
    Kept spare trigger start maxBytes (labels ++ [.evaluate])
      { state with
        capture := capture
        ipsEngine := ipsEngine
        phase := .saving state.capture.calls.length } := by
  have hsilent : pushedIn (labels ++ [.evaluate]) = pushedIn labels := pushedIn_silent labels rfl
  have hholds := h.phase
  rw [hphase] at hholds
  obtain ⟨⟨earlier, hpushed⟩, haddressed⟩ := hholds
  have hraised : Alert.RaisedIn spare trigger start ⟨earlier, packet, inspected, rule⟩
      (labels ++ [.evaluate]) :=
    ⟨labels, [], state, rfl, hrun, hpushed, hphase, haddressed, hrule⟩
  refine ⟨h.reached.step trivial henter, hsilent ▸ captureStep_holdsPackets h.holds henter, ?_,
    trivial, fun number call hcall => ?_⟩
  · rw [captureStep_enter henter]
    exact h.ring
  · rw [captureStep_enter henter] at hcall
    rcases number_of_join hcall with hcall | ⟨rfl, rfl⟩
    · exact h.idle (by simp [hphase]) hcall _
    · exact Or.inr ⟨_, hraised, rfl, (fun hfixed => by cases hfixed), fun _ =>
        ⟨rfl, hsilent.trans hpushed⟩⟩

theorem call (h : Kept spare trigger start maxBytes labels state) {move : CaptureLabel}
    {capture : CaptureState} (hmove : isCallStep move = true)
    (hcapture : Dashboard.captureStep spare state.capture move = some capture) :
    Kept spare trigger start maxBytes (labels ++ [.call move])
      { state with capture := capture } := by
  have hsilent : pushedIn (labels ++ [.call move]) = pushedIn labels := pushedIn_silent labels rfl
  have hpushed : pushedAfter (pushedIn labels) move = pushedIn labels := by
    cases move <;> first | rfl | cases hmove
  have hholds := captureStep_holdsPackets h.holds hcapture
  rw [hpushed, ← hsilent] at hholds
  obtain ⟨hring, stepped, before, moved, hbefore, hcalls, hstepped⟩ :=
    captureStep_call h.holds hmove hcapture
  refine ⟨h.reached.step trivial hcapture, hholds, hring ▸ h.ring, hsilent ▸ h.phase,
    fun number another hanother => ?_⟩
  rw [hcalls] at hanother
  rcases party_of_set hanother with ⟨rfl, rfl⟩ | ⟨-, hanother⟩
  · exact (h.calls number before hbefore).stepped rfl (h.ring ▸ hstepped)
  · exact (h.calls number another hanother).other rfl

theorem manual (h : Kept spare trigger start maxBytes labels state) {capture : CaptureState}
    (henter : Dashboard.captureStep spare state.capture (.enter .manual) = some capture) :
    Kept spare trigger start maxBytes (labels ++ [.manual]) { state with capture := capture } := by
  have hsilent : pushedIn (labels ++ [.manual]) = pushedIn labels := pushedIn_silent labels rfl
  refine ⟨h.reached.step trivial henter, hsilent ▸ captureStep_holdsPackets h.holds henter, ?_,
    hsilent ▸ h.phase, fun number call hcall => ?_⟩
  · rw [captureStep_enter henter]
    exact h.ring
  · rw [captureStep_enter henter] at hcall
    rcases number_of_join hcall with hcall | ⟨-, rfl⟩
    · exact (h.calls number call hcall).other rfl
    · exact Or.inl rfl

/-- The step lemma. -/
theorem step (h : Kept spare trigger start maxBytes labels state)
    (hrun : Run (Forensics.step spare trigger) start labels state)
    (hstep : state.step spare trigger label = some next) :
    Kept spare trigger start maxBytes (labels ++ [label]) next := by
  cases Forensics.step_cases hstep with
  | frame hphase hpush => exact h.frame hphase hpush
  | gate hphase hinspected =>
      have hholds := h.phase
      rw [hphase] at hholds
      exact h.quiet (by simp [hphase]) rfl rfl
        ⟨hholds, (Option.filter_eq_some_iff.mp hinspected).1⟩
  | ignore hphase => exact h.quiet (by simp [hphase]) rfl rfl trivial
  | alert hphase hrule henter => exact h.alert hrun hphase hrule henter
  | pass hphase => exact h.quiet (by simp [hphase]) rfl rfl trivial
  | resume hphase hcall hpc =>
      -- the call that the thread has waited for has returned
      have hsilent : pushedIn (labels ++ [.resume]) = pushedIn labels := pushedIn_silent labels rfl
      refine ⟨h.reached, hsilent ▸ h.holds, h.ring, trivial, fun number another hanother =>
        (h.calls number another hanother).idle (fun hawaited => ?_) _⟩
      rw [hphase, FramePhase.saving.injEq] at hawaited
      rw [hawaited, hanother, Option.some.injEq] at hcall
      rw [hcall, hasReturned, hpc]
  | call hmove hcapture => exact h.call hmove hcapture
  | manual henter => exact h.manual henter
  | others =>
      rename_i dissectors ipsEngine
      have hsilent : pushedIn (labels ++ [.others dissectors ipsEngine]) = pushedIn labels :=
        pushedIn_silent labels rfl
      exact ⟨h.reached, hsilent ▸ h.holds, h.ring, hsilent ▸ h.phase,
        fun number call hcall => (h.calls number call hcall).other rfl⟩

end Kept

theorem kept_run {files : Files} {dissectors : DissectorConfig} {ipsEngine : IpsEngine}
    (hrun : Run (Forensics.step spare trigger)
      (.start files (.new spare maxBytes) dissectors ipsEngine) labels state) :
    Kept spare trigger (.start files (.new spare maxBytes) dissectors ipsEngine) maxBytes labels
      state := by
  induction hrun with
  | nil =>
      exact ⟨.start, ⟨PacketRingBuffer.new_represents spare maxBytes, fun _ hcall =>
        absurd hcall List.not_mem_nil⟩, rfl, trivial, fun _ _ hcall => by cases hcall⟩
  | snoc hbefore hmove ih => exact ih.step hbefore hmove

end

/-! ## Files -/

/-- The ring has not evicted anything when the alert is raised. -/
def Alert.Fits (alert : Alert) (maxBytes : Nat) : Prop :=
  alert.earlier = [] ∨ totalWeight Packet.size alert.pushed ≤ maxBytes

theorem Alert.window_eq_iff (alert : Alert) (maxBytes : Nat) :
    window maxBytes alert.pushed = alert.pushed ↔ alert.Fits maxBytes := by
  have hlength : alert.pushed.length ≤ 1 ↔ alert.earlier = [] := by
    rw [Alert.pushed, List.length_append, List.length_singleton, ← List.length_eq_zero_iff]
    omega
  rw [PacketRingBuffer.window_eq_self_iff, hlength]
  rfl

/-- The ring flushes the packet of the alert behind all earlier ones, or only some of these. -/
theorem Alert.flushed (alert : Alert) (maxBytes : Nat) :
    (alert.Fits maxBytes → flushedPackets maxBytes alert.pushed = alert.pushed) ∧
      (¬ alert.Fits maxBytes → flushedPackets maxBytes alert.pushed <+: alert.earlier) := by
  rw [← alert.window_eq_iff]
  refine ⟨fun hall => ?_, fun hevicted => ?_⟩
  · rw [flushedPackets, hall, List.take_length]
  · have hshort : (window maxBytes alert.pushed).length ≤ alert.earlier.length := by
      have hle := window_length_le maxBytes alert.pushed
      have hne : (window maxBytes alert.pushed).length ≠ alert.pushed.length := fun heq =>
        hevicted ((fitSuffix_suffix Packet.size maxBytes alert.pushed).eq_of_length heq)
      have hlength : alert.pushed.length = alert.earlier.length + 1 := List.length_append
      omega
    have htake : flushedPackets maxBytes alert.pushed =
        alert.earlier.take (window maxBytes alert.pushed).length :=
      List.take_append_of_le_length hshort
    rw [htake]
    exact List.take_prefix _ _

/-- The record and the file of an alert. -/
structure Evidence (maxBytes : Nat) (alert : Alert) (record : PcapCaptureRecord)
    (content : Option Bytes) : Prop where
  triggerType : record.triggerType = "alert"
  fiveTuple : record.fiveTuple.toList = fiveTupleOf alert.inspected
  ruleId : record.ruleId = alert.rule.id
  /-- the file is a capture file of what the ring flushed when the alert was raised -/
  content : ∃ (bytes : Bytes) (hflushed : ∀ packet ∈ flushedPackets maxBytes alert.pushed,
    packet.data.length < 2 ^ 32), content = some bytes ∧ readPcap bytes =
      some (⟨2, 4, 0, 0, 65535, 1⟩,
        (flushedPackets maxBytes alert.pushed).pmap Packet.toRecord hflushed)
  /-- while the ring has not evicted anything, these are all packets up to that of the alert -/
  complete : alert.Fits maxBytes → flushedPackets maxBytes alert.pushed = alert.pushed
  /-- and from then on only packets that came earlier -/
  missing : ¬ alert.Fits maxBytes → flushedPackets maxBytes alert.pushed <+: alert.earlier

theorem Alert.RaisedIn.pushed_prefix {spare : Nat → Nat} {trigger : String} {start : Forensics}
    {labels : List ForensicsLabel} {alert : Alert}
    (h : alert.RaisedIn spare trigger start labels) : alert.pushed <+: pushedIn labels := by
  obtain ⟨before, after, moment, rfl, -, hpushed, -⟩ := h
  rw [← hpushed, pushedIn, pushedIn, List.filterMap_append]
  exact List.prefix_append _ _

/-- In every interleaving, each record of the index is that of a capture that a handler asked
for, or that of an alert: of a rule that the engine matched, at some point of the run, for the
frame pushed last.  The record names this frame and the rule, and the file holds what the ring
flushed right behind the frame, whatever other threads have done since: the frame itself,
after all that were captured before it, exactly as long as the ring has evicted nothing. -/
theorem alert_evidence {spare : Nat → Nat} {trigger : String} {files : Files} {maxBytes : Nat}
    {dissectors : DissectorConfig} {ipsEngine : IpsEngine} {labels : List ForensicsLabel}
    {state : Forensics}
    (hrun : Run (Forensics.step spare trigger)
      (.start files (.new spare maxBytes) dissectors ipsEngine) labels state)
    (hsmall : ∀ packet ∈ pushedIn labels, packet.data.length < 2 ^ 32)
    {record : PcapCaptureRecord} (hrecord : record ∈ state.capture.pcapCaptures) :
    record.triggerType = "manual" ∨ ∃ alert : Alert,
      alert.RaisedIn spare trigger (.start files (.new spare maxBytes) dissectors ipsEngine)
        labels ∧
      Evidence maxBytes alert record (state.capture.files record.filePath) := by
  have hkept := kept_run hrun
  obtain ⟨number, call, sizeBytes, hcall, hpc, hmade, hfile⟩ :=
    (reachable_sound hkept.reached).indexed record hrecord
  rcases hkept.calls number call hcall with hmanual | ⟨alert, hraised, hrequest, hflush, -⟩
  · left
    rw [hmade, CaptureCall.record, hmanual]
    rfl
  · right
    have hfixed : call.flush = fileOf (flushedPackets maxBytes alert.pushed) := by
      refine hflush ?_
      rw [hpc]
      rfl
    have hflushed : ∀ packet ∈ flushedPackets maxBytes alert.pushed,
        packet.data.length < 2 ^ 32 := fun packet hpacket =>
      hsmall packet (hraised.pushed_prefix.subset (List.mem_of_mem_take hpacket))
    refine ⟨alert, hraised, ?_, ?_, ?_, ⟨call.flush.flatten, hflushed, ?_, ?_⟩,
      (alert.flushed maxBytes).1, (alert.flushed maxBytes).2⟩
    · rw [hmade, CaptureCall.record, hrequest]
      rfl
    · rw [hmade, CaptureCall.record, hrequest]
      exact String.toList_ofList
    · rw [hmade, CaptureCall.record, hrequest]
      rfl
    · have hpath : record.filePath = call.path := by rw [hmade]; rfl
      rw [hpath, hfile]
    · rw [hfixed]
      exact readPcap_fileOf hflushed

/-- A frame without TCP flags is received, and its alert's capture is written while a handler
asks for another one. -/
def evidenceLabels : List ForensicsLabel :=
  [.frame ⟨0, 0, nullScanFrame.data⟩, .gate, .evaluate, .call (.draw 0 0),
    .call (.create 0 (.ok ())), .manual] ++ List.replicate 6 (.call (.write 0 (.ok ()))) ++
    [.call (.finish 0), .call (.measure 0 true), .call (.record 0 true), .resume]

theorem alert_evidence_sample : ∃ state : Forensics,
    Run (Forensics.step sampleSpare "alert") (.start (fun _ => none) (.new sampleSpare 1024) {}
      (IpsEngine.new .tap .pass).loadDefaultRules) evidenceLabels state ∧
    ∃ record ∈ state.capture.pcapCaptures, record.triggerType = "manual" ∨ ∃ alert : Alert,
      alert.RaisedIn sampleSpare "alert" (.start (fun _ => none) (.new sampleSpare 1024) {}
        (IpsEngine.new .tap .pass).loadDefaultRules) evidenceLabels ∧
      Evidence 1024 alert record (state.capture.files record.filePath) := by
  have hlast : (runLabels (Forensics.step sampleSpare "alert") (fun _ _ => true)
      (.start (fun _ => none) (.new sampleSpare 1024) {}
        (IpsEngine.new .tap .pass).loadDefaultRules) evidenceLabels).any (fun state =>
          state.capture.pcapCaptures.length == 1) = true := by decide +kernel
  obtain ⟨state, hstate, hlength⟩ := (Option.any_eq_true _ _).mp hlast
  have hrun := Run.append evidenceLabels .nil hstate
  obtain ⟨record, hrecord⟩ := List.length_eq_one_iff.mp (beq_iff_eq.mp hlength)
  have hmem : record ∈ state.capture.pcapCaptures := hrecord ▸ List.mem_singleton_self record
  have hsmall : ∀ packet ∈ pushedIn evidenceLabels, packet.data.length < 2 ^ 32 := by decide
  exact ⟨state, hrun, record, hmem, alert_evidence hrun hsmall hmem⟩

end GeSensor.Pipeline
