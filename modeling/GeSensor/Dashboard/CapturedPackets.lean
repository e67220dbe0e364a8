/-
  Dashboard/CapturedPackets.lean --- which packets the file of a capture holds.

  A call fixes what it will write when it takes the ring's lock; packets pushed later do not
  change it, nor do the other calls.  So the file of every record in the index is a PCAP
  file of packets that this process had pushed by then, in the order of the pushes: as many
  as the ring answered for, counted from the first one (see `PcapStore.RingRuns` for why it
  is not counted from the last).
-/
import GeSensor.Dashboard.CaptureIndex
import GeSensor.PcapStore.PcapFile

set_option autoImplicit false

namespace GeSensor.Dashboard

open GeSensor.Foundation
open GeSensor.PcapStore
open GeSensor.PcapStore.PacketRingBuffer

/-! ## Pushes -/

/-- The packets pushed by the running process, after one more move. -/
def pushedAfter (pushed : List Packet) : CaptureLabel → List Packet
  | .push packet => pushed ++ [packet]
  | .restart _ => []
  | _ => pushed

/-- The packets that the running process has pushed in a run. -/
def pushedBy (labels : List CaptureLabel) : List Packet := labels.foldl pushedAfter []

/-- The packets that a ring of `maxBytes` flushes after the given pushes. -/
def flushedPackets (maxBytes : Nat) (packets : List Packet) : List Packet :=
  packets.take (window maxBytes packets).length

/-- A file of these packets, and nothing else. -/
def fileOf (packets : List Packet) : List Bytes := pcapHeader :: recordWrites packets

theorem pushedBy_snoc (labels : List CaptureLabel) (label : CaptureLabel) :
    pushedBy (labels ++ [label]) = pushedAfter (pushedBy labels) label := by
  rw [pushedBy, List.foldl_append]
  rfl

theorem readPcap_fileOf {packets : List Packet}
    (hsmall : ∀ packet ∈ packets, packet.data.length < 2 ^ 32) :
    readPcap (fileOf packets).flatten =
      some (⟨2, 4, 0, 0, 65535, 1⟩, packets.pmap Packet.toRecord hsmall) := by
  rw [fileOf, List.flatten_cons, recordWrites_flatten hsmall]
  exact readPcap_encode readHeader_pcapHeader _

/-! ## What a call writes -/

/-- The call has taken the ring's lock and not failed since. -/
def CapturePc.hasFixed : CapturePc → Bool
  | .writing _ | .flushed | .measured _ | .returned (.ok _) => true
  | .entered | .drawn | .returned (.error _) => false

/-- What the call writes are packets that the ring flushed at some time. -/
def CaptureCall.WritesPackets (call : CaptureCall) (maxBytes : Nat) (pushed : List Packet) :
    Prop :=
  call.pc.hasFixed = true → ∃ earlier, earlier <+: pushed ∧
    call.flush = fileOf (flushedPackets maxBytes earlier)

/-- The ring holds the packets pushed, and the calls write what it held. -/
structure CaptureState.HoldsPackets (state : CaptureState) (pushed : List Packet) : Prop where
  ring : state.pcapRing.Represents pushed
  calls : ∀ call ∈ state.calls, call.WritesPackets state.pcapRing.maxBytes pushed

theorem CaptureState.pushRecord_pcapRing (state : CaptureState) (record : PcapCaptureRecord)
    (removed : Bool) : (state.pushRecord record removed).pcapRing = state.pcapRing := by
  rcases state.pushRecord_cases record removed with ⟨_, hnext⟩ | ⟨old, kept, _, hnext⟩
  · rw [hnext]
  · rw [hnext]
    cases removed <;> rfl

namespace CaptureState.HoldsPackets

/-- A call that had fixed what it writes goes on with it, or fails. -/
theorem advance {state next : CaptureState} {pushed : List Packet}
    (h : state.HoldsPackets pushed) {number : Nat} {call moved : CaptureCall}
    (hcall : state.calls[number]? = some call) (hring : next.pcapRing = state.pcapRing)
    (hcalls : next.calls = state.calls.set number moved) (hflush : moved.flush = call.flush)
    (hfixed : moved.pc.hasFixed = true → call.pc.hasFixed = true) :
    next.HoldsPackets pushed := by
  refine ⟨hring ▸ h.ring, ?_⟩
  rw [hring, hcalls]
  refine forall_mem_set h.calls fun hmoved => ?_
  rw [hflush]
  exact h.calls call (List.mem_of_getElem? hcall) (hfixed hmoved)

theorem push {state : CaptureState} {pushed : List Packet} (h : state.HoldsPackets pushed)
    {spare : Nat → Nat} {packet : Packet} {ring : PacketRingBuffer}
    (hpush : state.pcapRing.push spare packet = .ok ring) :
    CaptureState.HoldsPackets { state with pcapRing := ring } (pushed ++ [packet]) := by
  obtain ⟨next, hnext, hrepresents, hmax⟩ := push_represents spare h.ring packet
  rw [hpush] at hnext
  cases hnext
  refine ⟨hrepresents, fun call hcall hfixed => ?_⟩
  obtain ⟨earlier, hprefix, hflush⟩ := h.calls call hcall hfixed
  exact ⟨earlier, hprefix.trans (List.prefix_append _ _), hmax ▸ hflush⟩

/-- What a call fixes is what the ring flushes. -/
theorem create {state next : CaptureState} {pushed : List Packet} (h : state.HoldsPackets pushed)
    {number packets : Nat} {call : CaptureCall} {writes : List Bytes}
    (hflush : state.pcapRing.flushToPcap = .ok (writes, packets))
    (hring : next.pcapRing = state.pcapRing)
    (hcalls : next.calls = state.calls.set number { call with flush := writes, pc := .writing 0 }) :
    next.HoldsPackets pushed := by
  refine ⟨hring ▸ h.ring, ?_⟩
  rw [hring, hcalls]
  refine forall_mem_set h.calls fun _ => ⟨pushed, List.prefix_rfl, ?_⟩
  rw [flushToPcap_eq h.ring, h.ring.len_eq] at hflush
  cases hflush
  rfl

end CaptureState.HoldsPackets

theorem captureStep_holdsPackets {spare : Nat → Nat} {state next : CaptureState}
    {label : CaptureLabel} {pushed : List Packet} (h : state.HoldsPackets pushed)
    (hstep : captureStep spare state label = some next) :
    next.HoldsPackets (pushedAfter pushed label) := by
  cases captureStep_cases hstep with
  | push hfree hpush => exact h.push hpush
  | enter => exact ⟨h.ring, forall_mem_join h.calls fun hfixed => by cases hfixed⟩
  | draw hcall => exact h.advance hcall rfl rfl rfl fun hfixed => by cases hfixed
  | create hcall hpc hfree hflush => exact h.create hflush rfl rfl
  | createFailed hcall => exact h.advance hcall rfl rfl rfl fun hfixed => by cases hfixed
  | write hcall hpc => exact h.advance hcall rfl rfl rfl fun _ => hpc ▸ rfl
  | writeFailed hcall => exact h.advance hcall rfl rfl rfl fun hfixed => by cases hfixed
  | finish hcall hpc => exact h.advance hcall rfl rfl rfl fun _ => hpc ▸ rfl
  | measure hcall hpc => exact h.advance hcall rfl rfl rfl fun _ => hpc ▸ rfl
  | record hcall hpc =>
      refine h.advance hcall (CaptureState.pushRecord_pcapRing _ _ _)
        (CaptureState.pushRecord_calls _ _ _) rfl fun _ => hpc ▸ rfl
  | restart => exact ⟨new_represents spare _, fun _ hcall => absurd hcall List.not_mem_nil⟩

theorem run_holdsPackets {spare : Nat → Nat} {files : Files} {maxBytes : Nat}
    {labels : List CaptureLabel} {state : CaptureState}
    (hrun : Run (captureStep spare) (.start files (.new spare maxBytes)) labels state) :
    state.HoldsPackets (pushedBy labels) := by
  induction hrun with
  | nil => exact ⟨new_represents spare maxBytes, fun _ hcall => absurd hcall List.not_mem_nil⟩
  | snoc _ hmove ih =>
      rw [pushedBy_snoc]
      exact captureStep_holdsPackets ih hmove

/-- In every run the file of each record in the index is that of packets which this process
had pushed before. -/
theorem indexed_packets {spare : Nat → Nat} {files : Files} {maxBytes : Nat}
    {labels : List CaptureLabel} {state : CaptureState}
    (hrun : Run (captureStep spare) (.start files (.new spare maxBytes)) labels state)
    {record : PcapCaptureRecord} (hrecord : record ∈ state.pcapCaptures) :
    ∃ earlier, earlier <+: pushedBy labels ∧ state.files record.filePath =
      some (fileOf (flushedPackets state.pcapRing.maxBytes earlier)).flatten := by
  have hholds := run_holdsPackets hrun
  obtain ⟨number, call, sizeBytes, hcall, hpc, hrecord', hfile⟩ :=
    (reachable_sound hrun.reachable).indexed record hrecord
  obtain ⟨earlier, hprefix, hflush⟩ :=
    hholds.calls call (List.mem_of_getElem? hcall) (hpc ▸ rfl)
  refine ⟨earlier, hprefix, ?_⟩
  rw [hrecord', ← hflush]
  exact hfile

/-! ## Captures that stay -/

def CaptureLabel.isRestart : CaptureLabel → Bool
  | .restart _ => true
  | _ => false

/-- A call that has returned is not touched again. -/
theorem captureStep_returned {spare : Nat → Nat} {state next : CaptureState}
    {label : CaptureLabel} (hrunning : label.isRestart = false)
    (hstep : captureStep spare state label = some next) {number : Nat} {call : CaptureCall}
    {answer : Except String PcapCaptureRecord} (hcall : state.calls[number]? = some call)
    (hpc : call.pc = .returned answer) : next.calls[number]? = some call := by
  have hset : ∀ {other : Nat} {another moved : CaptureCall},
      state.calls[other]? = some another → another.pc ≠ .returned answer →
        (state.calls.set other moved)[number]? = some call := by
    intro other another moved hanother hopen
    have hne : number ≠ other :=
      number_ne_of_party_ne hanother hcall fun hsame => hopen (hsame ▸ hpc)
    rw [List.getElem?_set_ne hne.symm, hcall]
  cases captureStep_cases hstep with
  | push => exact hcall
  | enter => exact getElem?_join hcall
  | draw hanother hopen | create hanother hopen | createFailed hanother hopen
  | write hanother hopen | writeFailed hanother hopen | finish hanother hopen
  | measure hanother hopen =>
      exact hset hanother fun hreturned => CapturePc.noConfusion (hopen.symm.trans hreturned)
  | record hanother hopen =>
      rw [CaptureState.pushRecord_calls]
      exact hset hanother fun hreturned => CapturePc.noConfusion (hopen.symm.trans hreturned)
  | restart => cases hrunning

theorem returned_later {spare : Nat → Nat} {state later : CaptureState}
    (hlater : ReachableBy (captureStep spare) (fun _ label => label.isRestart = false) state later)
    {number : Nat} {call : CaptureCall} {answer : Except String PcapCaptureRecord}
    (hcall : state.calls[number]? = some call) (hpc : call.pc = .returned answer) :
    later.calls[number]? = some call :=
  hlater.invariant (fun later => later.calls[number]? = some call) hcall
    fun hcall hrunning hmove => captureStep_returned hrunning hmove hcall hpc

/-- The file of a call that has returned stays as it is, or is removed. -/
theorem captureStep_file {spare : Nat → Nat} {state next : CaptureState}
    {label : CaptureLabel} (hsound : state.Sound) (hrunning : label.isRestart = false)
    (hstep : captureStep spare state label = some next) {number : Nat} {call : CaptureCall}
    {answer : Except String PcapCaptureRecord} (hcall : state.calls[number]? = some call)
    (hpc : call.pc = .returned answer) :
    next.files call.path = state.files call.path ∨ next.files call.path = none := by
  have hset : ∀ {other : Nat} {another : CaptureCall} (content : Option Bytes),
      state.calls[other]? = some another → another.pc.underWay = true →
        state.files.set another.path content call.path = state.files call.path := by
    intro other another content hanother hunder
    refine state.files.set_ne (hsound.path_ne hanother hcall
      (CaptureCall.hasDrawn_of_underWay hunder) (CaptureCall.hasDrawn_of_returned hpc)
      (number_ne_of_party_ne hanother hcall fun hsame => ?_)) content
    exact CaptureCall.pc_ne_of_underWay hunder answer (hsame ▸ hpc)
  cases captureStep_cases hstep with
  | push | enter | draw | createFailed | finish | measure => exact Or.inl rfl
  | create hanother hopen | write hanother hopen | writeFailed hanother hopen =>
      exact Or.inl (hset _ hanother (hopen ▸ rfl))
  | @record _ sizeBytes another removed hanother hopen =>
      rcases (state.setCall _ { another with pc := .returned (.ok _) }).pushRecord_cases
        (another.record sizeBytes) removed with ⟨-, hnext⟩ | ⟨old, kept, -, hnext⟩
      · rw [hnext]
        exact Or.inl rfl
      · rw [hnext]
        cases removed with
        | false => exact Or.inl rfl
        | true =>
            by_cases hpath : call.path = old.filePath
            · refine Or.inr ?_
              rw [hpath]
              exact Files.set_self _ _ _
            · exact Or.inl (Files.set_ne _ hpath none)
  | restart => cases hrunning

/-- While the process runs, a capture that is in the index, and that of its number later, are
one and the same: the record and the file have not changed. -/
theorem indexed_later {spare : Nat → Nat} {files : Files} {ring : PacketRingBuffer}
    {state later : CaptureState} (hrun : Reachable (captureStep spare) (.start files ring) state)
    (hlater : ReachableBy (captureStep spare) (fun _ label => label.isRestart = false) state later)
    {record other : PcapCaptureRecord} (hrecord : record ∈ state.pcapCaptures)
    (hother : other ∈ later.pcapCaptures) (hid : other.captureId = record.captureId) :
    other = record ∧ later.files record.filePath = state.files record.filePath := by
  have hreached := hrun.later hlater
  obtain ⟨number, call, sizeBytes, hcall, hpc, hmade, hfile⟩ :=
    (reachable_sound hrun).indexed record hrecord
  obtain ⟨otherNumber, otherCall, otherBytes, hotherCall, hotherPc, hotherMade, hotherFile⟩ :=
    (reachable_sound hreached).indexed other hother
  have hstays := returned_later hlater hcall hpc
  have hnumbers : otherCall.captureNo = call.captureNo := by
    rw [hmade, hotherMade] at hid
    exact captureIdOf_injective hid
  have hsame : otherNumber = number := (reachable_sound hreached).drawn_injective hotherCall hstays
    (CaptureCall.hasDrawn_of_returned hotherPc) (CaptureCall.hasDrawn_of_returned hpc) hnumbers
  rw [hsame, hstays] at hotherCall
  cases hotherCall
  rw [hpc] at hotherPc
  cases hotherPc
  have hpath : record.filePath = call.path := by rw [hmade]; rfl
  exact ⟨rfl, by rw [hpath, hfile, hotherFile]⟩

/-- While the process runs, the file of a capture that is in the index stays as it is, or the
capture is evicted and its file removed. -/
theorem file_later {spare : Nat → Nat} {files : Files} {ring : PacketRingBuffer}
    {state later : CaptureState} (hrun : Reachable (captureStep spare) (.start files ring) state)
    (hlater : ReachableBy (captureStep spare) (fun _ label => label.isRestart = false) state later)
    {record : PcapCaptureRecord} (hrecord : record ∈ state.pcapCaptures) :
    later.files record.filePath = state.files record.filePath ∨
      later.files record.filePath = none ∧ record ∉ later.pcapCaptures := by
  obtain ⟨number, call, sizeBytes, hcall, hpc, hmade, hfile⟩ :=
    (reachable_sound hrun).indexed record hrecord
  have hpath : record.filePath = call.path := by rw [hmade]; rfl
  have hkept : later.files call.path = state.files call.path ∨ later.files call.path = none := by
    induction hlater with
    | start => exact Or.inl rfl
    | step hreached hrunning hmove ih =>
        have hstays := returned_later hreached hcall hpc
        have hsound := reachable_sound (hrun.later hreached)
        rcases captureStep_file hsound hrunning hmove hstays hpc with hsame | hgone
        · rw [hsame]
          exact ih
        · exact Or.inr hgone
  rw [hpath]
  refine hkept.imp_right fun hgone => ⟨hgone, fun hmem => ?_⟩
  obtain ⟨-, hsame⟩ := indexed_later hrun hlater hrecord hmem rfl
  rw [hpath, hgone, hfile] at hsame
  cases hsame

end GeSensor.Dashboard
