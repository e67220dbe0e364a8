/-
  Dashboard/CaptureIndex.lean --- the capture index and the files behind it.

  Within one process run the capture numbers make the file names distinct, so that
  a call owns the file it writes from its creation to its eviction.  `Sound` states
  what follows for the files of the calls under way and of the records in the index.
  It is kept by every step, failures and restarts included: a restart empties the
  index and forgets the calls.
-/
import GeSensor.Dashboard.Captures
import Mathlib.Data.List.Nodup

set_option autoImplicit false

namespace GeSensor.Dashboard

open GeSensor.Foundation
open GeSensor.PcapStore

/-! ## Calls and their numbers -/

/-- The call has drawn its number and not returned. -/
def CapturePc.underWay : CapturePc → Bool
  | .drawn | .writing _ | .flushed | .measured _ => true
  | .entered | .returned _ => false

theorem CaptureCall.hasDrawn_of_underWay {call : CaptureCall} (h : call.pc.underWay = true) :
    call.hasDrawn = true := by
  unfold CaptureCall.hasDrawn
  split
  · rw [‹call.pc = _›] at h
    cases h
  · rfl

theorem CaptureCall.pc_ne_of_underWay {call : CaptureCall} (h : call.pc.underWay = true)
    (answer : Except String PcapCaptureRecord) : call.pc ≠ .returned answer := by
  intro hpc
  rw [hpc] at h
  cases h

theorem CaptureCall.underWay_of_written {call : CaptureCall} {written : Bytes}
    (hwritten : call.written? = some written) : call.pc.underWay = true := by
  unfold CaptureCall.written? at hwritten
  cases hpc : call.pc with
  | entered | drawn | returned =>
      rw [hpc] at hwritten
      cases hwritten
  | writing | flushed | measured => rfl

theorem CaptureCall.hasDrawn_of_returned {call : CaptureCall}
    {answer : Except String PcapCaptureRecord} (hpc : call.pc = .returned answer) :
    call.hasDrawn = true := by
  unfold CaptureCall.hasDrawn
  rw [hpc]

/-- The name of a capture file is built from the capture's id. -/
theorem CaptureCall.record_filePath (call : CaptureCall) (sizeBytes : Nat) :
    (call.record sizeBytes).filePath =
      pcapOutputDir ++ "/" ++ ((call.record sizeBytes).captureId ++ ".pcap") := rfl

/-! ## The invariant -/

/-- A call has returned the record, and its file holds what the call wrote. -/
def CaptureState.Indexed (state : CaptureState) (record : PcapCaptureRecord) : Prop :=
  ∃ (number : Nat) (call : CaptureCall) (sizeBytes : Nat),
    state.calls[number]? = some call ∧ call.pc = .returned (.ok record) ∧
      record = call.record sizeBytes ∧ state.files call.path = some call.flush.flatten

/-- Calls of this process own the files they write, and the index names finished files
of different calls. -/
structure CaptureState.Sound (state : CaptureState) : Prop where
  drawn_lt : ∀ {number : Nat} {call : CaptureCall}, state.calls[number]? = some call →
    call.hasDrawn = true → call.captureNo < state.pcapSeq
  drawn_injective : ∀ {number other : Nat} {call another : CaptureCall},
    state.calls[number]? = some call → state.calls[other]? = some another →
    call.hasDrawn = true → another.hasDrawn = true → call.captureNo = another.captureNo →
    number = other
  content : ∀ {number : Nat} {call : CaptureCall} {written : Bytes},
    state.calls[number]? = some call → call.written? = some written →
    state.files call.path = some written
  indexed : ∀ record ∈ state.pcapCaptures, state.Indexed record
  nodup : (state.pcapCaptures.map (·.filePath)).Nodup
  bounded : state.pcapCaptures.length ≤ maxPcapRecords

namespace CaptureState.Sound

theorem start (files : Files) (ring : PacketRingBuffer) :
    (CaptureState.start files ring).Sound where
  drawn_lt hcall := by cases hcall
  drawn_injective hcall := by cases hcall
  content hcall := by cases hcall
  indexed _ hrecord := by cases hrecord
  nodup := .nil
  bounded := Nat.zero_le _

/-- Two calls write two files. -/
theorem path_ne {state : CaptureState} (h : state.Sound) {number other : Nat}
    {call another : CaptureCall} (hcall : state.calls[number]? = some call)
    (hanother : state.calls[other]? = some another) (hdrawn : call.hasDrawn = true)
    (hdrawn' : another.hasDrawn = true) (hne : other ≠ number) : another.path ≠ call.path :=
  fun hpath => hne
    (h.drawn_injective hanother hcall hdrawn' hdrawn (filePathOf_injective hpath))

/-- A call that has not returned a record is not the call of a record. -/
theorem number_ne {state : CaptureState} {number other : Nat} {call another : CaptureCall}
    {record : PcapCaptureRecord} (hcall : state.calls[number]? = some call)
    (hopen : call.pc ≠ .returned (.ok record)) (hanother : state.calls[other]? = some another)
    (hpc : another.pc = .returned (.ok record)) : other ≠ number :=
  number_ne_of_party_ne hcall hanother fun hsame => hopen (hsame ▸ hpc)

theorem record_path_ne {state : CaptureState} (h : state.Sound) {number : Nat}
    {call : CaptureCall} {record : PcapCaptureRecord} (hcall : state.calls[number]? = some call)
    (hdrawn : call.hasDrawn = true) (hopen : call.pc ≠ .returned (.ok record))
    (hrecord : record ∈ state.pcapCaptures) : record.filePath ≠ call.path := by
  obtain ⟨other, another, sizeBytes, hanother, hpc, rfl, _⟩ := h.indexed record hrecord
  exact h.path_ne hcall hanother hdrawn (CaptureCall.hasDrawn_of_returned hpc)
    (number_ne hcall hopen hanother hpc)

theorem record_path_ne_of_underWay {state : CaptureState} (h : state.Sound) {number : Nat}
    {call : CaptureCall} (hcall : state.calls[number]? = some call)
    (hunder : call.pc.underWay = true) {record : PcapCaptureRecord}
    (hrecord : record ∈ state.pcapCaptures) : record.filePath ≠ call.path :=
  h.record_path_ne hcall (CaptureCall.hasDrawn_of_underWay hunder)
    (CaptureCall.pc_ne_of_underWay hunder _) hrecord

/-- A call under way moves on, and writes to its own file only. -/
theorem advance {state next : CaptureState} (h : state.Sound) {number : Nat}
    {call moved : CaptureCall} (hcall : state.calls[number]? = some call)
    (hunder : call.pc.underWay = true)
    (hcalls : next.calls = state.calls.set number moved) (hmoved : moved.hasDrawn = true)
    (hno : moved.captureNo = call.captureNo) (hseq : next.pcapSeq = state.pcapSeq)
    (hindex : next.pcapCaptures = state.pcapCaptures)
    (hfiles : ∀ path, path ≠ call.path → next.files path = state.files path)
    (hwritten : ∀ written, moved.written? = some written →
      next.files call.path = some written) : next.Sound := by
  have hpath : moved.path = call.path := congrArg filePathOf hno
  have hdrawn : call.hasDrawn = true := CaptureCall.hasDrawn_of_underWay hunder
  refine ⟨?_, ?_, ?_, ?_, hindex ▸ h.nodup, hindex ▸ h.bounded⟩
  · intro other another hanother hdrawn'
    rw [hcalls] at hanother
    rw [hseq]
    rcases party_of_set hanother with ⟨rfl, rfl⟩ | ⟨_, hanother⟩
    · exact hno ▸ h.drawn_lt hcall hdrawn
    · exact h.drawn_lt hanother hdrawn'
  · intro left right one another hone hanother hdrawn₁ hdrawn₂ heq
    rw [hcalls] at hone hanother
    rcases party_of_set hone with ⟨rfl, rfl⟩ | ⟨_, hleft⟩ <;>
      rcases party_of_set hanother with ⟨rfl, rfl⟩ | ⟨_, hright⟩
    · rfl
    · exact h.drawn_injective hcall hright hdrawn hdrawn₂ (hno ▸ heq)
    · exact h.drawn_injective hleft hcall hdrawn₁ hdrawn (hno ▸ heq)
    · exact h.drawn_injective hleft hright hdrawn₁ hdrawn₂ heq
  · intro other another written hanother hother
    rw [hcalls] at hanother
    rcases party_of_set hanother with ⟨rfl, rfl⟩ | ⟨hne, hanother⟩
    · exact hpath ▸ hwritten written hother
    · rw [hfiles _ (h.path_ne hcall hanother hdrawn
        (CaptureCall.hasDrawn_of_underWay (CaptureCall.underWay_of_written hother)) hne)]
      exact h.content hanother hother
  · intro record hrecord
    rw [hindex] at hrecord
    have hpath := h.record_path_ne_of_underWay hcall hunder hrecord
    obtain ⟨other, another, sizeBytes, hanother, hpc, rfl, hfile⟩ := h.indexed record hrecord
    refine ⟨other, another, sizeBytes, ?_, hpc, rfl, (hfiles _ hpath).trans hfile⟩
    have hne := number_ne hcall (CaptureCall.pc_ne_of_underWay hunder _) hanother hpc
    rw [hcalls, List.getElem?_set_ne hne.symm, hanother]

/-- A call draws the next number. -/
theorem draw {state : CaptureState} (h : state.Sound) {number : Nat} {call : CaptureCall}
    (hcall : state.calls[number]? = some call) (hpc : call.pc = .entered) (timestamp : Nat) :
    CaptureState.Sound { state.setCall number
      { call with captureNo := state.pcapSeq, timestamp := timestamp, pc := .drawn } with
        pcapSeq := state.pcapSeq + 1 } := by
  refine ⟨?_, ?_, ?_, ?_, h.nodup, h.bounded⟩
  · intro other another hanother hdrawn
    rcases party_of_set hanother with ⟨rfl, rfl⟩ | ⟨_, hanother⟩
    · exact Nat.lt_succ_self _
    · exact Nat.lt_succ_of_lt (h.drawn_lt hanother hdrawn)
  · intro left right one another hone hanother hdrawn₁ hdrawn₂ heq
    rcases party_of_set hone with ⟨rfl, rfl⟩ | ⟨_, hleft⟩ <;>
      rcases party_of_set hanother with ⟨rfl, rfl⟩ | ⟨_, hright⟩
    · rfl
    · exact absurd heq.symm (h.drawn_lt hright hdrawn₂).ne
    · exact absurd heq (h.drawn_lt hleft hdrawn₁).ne
    · exact h.drawn_injective hleft hright hdrawn₁ hdrawn₂ heq
  · intro other another written hanother hwritten
    rcases party_of_set hanother with ⟨rfl, rfl⟩ | ⟨_, hanother⟩
    · cases hwritten
    · exact h.content hanother hwritten
  · intro record hrecord
    obtain ⟨other, another, sizeBytes, hanother, hreturned, hrest⟩ := h.indexed record hrecord
    have hopen : call.pc ≠ .returned (.ok record) := hpc ▸ nofun
    have hne := number_ne hcall hopen hanother hreturned
    exact ⟨other, another, sizeBytes, (List.getElem?_set_ne hne.symm).trans hanother, hreturned,
      hrest⟩

/-- A thread calls. -/
theorem enter {state : CaptureState} (h : state.Sound) (request : CaptureRequest) :
    CaptureState.Sound
      { state with calls := state.calls ++ [⟨request, 0, 0, [], false, .entered⟩] } := by
  refine ⟨?_, ?_, ?_, ?_, h.nodup, h.bounded⟩
  · intro number call hcall hdrawn
    rcases party_of_join hcall with rfl | hcall
    · cases hdrawn
    · exact h.drawn_lt hcall hdrawn
  · intro left right one another hone hanother hdrawn₁ hdrawn₂ heq
    rcases party_of_join hone with rfl | hleft
    · cases hdrawn₁
    · rcases party_of_join hanother with rfl | hright
      · cases hdrawn₂
      · exact h.drawn_injective hleft hright hdrawn₁ hdrawn₂ heq
  · intro number call written hcall hwritten
    rcases party_of_join hcall with rfl | hcall
    · cases hwritten
    · exact h.content hcall hwritten
  · intro record hrecord
    obtain ⟨number, call, sizeBytes, hcall, hrest⟩ := h.indexed record hrecord
    exact ⟨number, call, sizeBytes, getElem?_join hcall, hrest⟩

/-- The oldest record leaves the index, and with it perhaps its file. -/
theorem evict {state next : CaptureState} (h : state.Sound) {old : PcapCaptureRecord}
    {kept : List PcapCaptureRecord} (hcaptures : state.pcapCaptures = old :: kept)
    (hcalls : next.calls = state.calls) (hseq : next.pcapSeq = state.pcapSeq)
    (hindex : next.pcapCaptures = kept)
    (hfiles : ∀ path, path ≠ old.filePath → next.files path = state.files path) :
    next.Sound := by
  have hnodup := h.nodup
  have hbounded := h.bounded
  rw [hcaptures] at hnodup hbounded
  rw [List.map_cons, List.nodup_cons] at hnodup
  refine ⟨?_, ?_, ?_, ?_, hindex ▸ hnodup.2, hindex ▸ Nat.le_of_succ_le hbounded⟩
  · rw [hcalls, hseq]
    exact h.drawn_lt
  · rw [hcalls]
    exact h.drawn_injective
  · intro number call written hcall hwritten
    rw [hcalls] at hcall
    have hpath : old.filePath ≠ call.path :=
      h.record_path_ne_of_underWay hcall (CaptureCall.underWay_of_written hwritten)
        (hcaptures ▸ List.mem_cons_self)
    rw [hfiles _ hpath.symm]
    exact h.content hcall hwritten
  · intro record hrecord
    rw [hindex] at hrecord
    have hpath : record.filePath ≠ old.filePath := fun heq =>
      hnodup.1 (heq ▸ List.mem_map_of_mem hrecord)
    obtain ⟨number, call, sizeBytes, hcall, hpc, rfl, hfile⟩ :=
      h.indexed record (hcaptures ▸ List.mem_cons_of_mem _ hrecord)
    exact ⟨number, call, sizeBytes, hcalls ▸ hcall, hpc, rfl, (hfiles _ hpath).trans hfile⟩

/-- The record of a call enters the index. -/
theorem append {state : CaptureState} (h : state.Sound) {record : PcapCaptureRecord}
    (hrecord : state.Indexed record)
    (hfresh : ∀ old ∈ state.pcapCaptures, old.filePath ≠ record.filePath)
    (hspace : state.pcapCaptures.length < maxPcapRecords) :
    CaptureState.Sound { state with pcapCaptures := state.pcapCaptures ++ [record] } := by
  refine ⟨h.drawn_lt, h.drawn_injective, h.content, ?_, ?_, ?_⟩
  · intro other hother
    rcases List.mem_append.mp hother with hother | hother
    · exact h.indexed other hother
    · rw [List.mem_singleton.mp hother]
      exact hrecord
  · rw [List.map_append, List.map_singleton, List.nodup_append]
    refine ⟨h.nodup, List.pairwise_singleton _ _, fun path hpath other hother => ?_⟩
    obtain ⟨old, hold, rfl⟩ := List.mem_map.mp hpath
    exact List.mem_singleton.mp hother ▸ hfresh old hold
  · rw [List.length_append]
    exact hspace

theorem pushRecord {state : CaptureState} (h : state.Sound) {record : PcapCaptureRecord}
    (hrecord : state.Indexed record)
    (hfresh : ∀ old ∈ state.pcapCaptures, old.filePath ≠ record.filePath) (removed : Bool) :
    (state.pushRecord record removed).Sound := by
  rcases state.pushRecord_cases record removed with ⟨hspace, hnext⟩ | ⟨old, kept, hcaptures, hnext⟩
  · rw [hnext]
    exact h.append hrecord hfresh hspace
  · have hbounded := h.bounded
    rw [hcaptures] at hbounded hfresh
    obtain ⟨number, call, sizeBytes, hcall, hpc, rfl, hfile⟩ := hrecord
    have hpath : call.path ≠ old.filePath := (hfresh old List.mem_cons_self).symm
    rw [hnext]
    cases removed with
    | false =>
        have hevicted : CaptureState.Sound { state with pcapCaptures := kept } :=
          h.evict hcaptures rfl rfl rfl fun _ _ => rfl
        exact hevicted.append ⟨number, call, sizeBytes, hcall, hpc, rfl, hfile⟩
          (fun other hother => hfresh other (List.mem_cons_of_mem _ hother)) hbounded
    | true =>
        have hevicted : CaptureState.Sound
            { state.removeFile old.filePath with pcapCaptures := kept } :=
          h.evict hcaptures rfl rfl rfl fun _ hne => state.files.set_ne hne none
        exact hevicted.append
          ⟨number, call, sizeBytes, hcall, hpc, rfl, (state.files.set_ne hpath none).trans hfile⟩
          (fun other hother => hfresh other (List.mem_cons_of_mem _ hother)) hbounded

end CaptureState.Sound

/-- The buffers written and one more. -/
theorem flatten_take_succ {buffers : List Bytes} {done : Nat} {buffer : Bytes}
    (hbuffer : buffers[done]? = some buffer) :
    (buffers.take (done + 1)).flatten = (buffers.take done).flatten ++ buffer := by
  rw [List.take_add_one, hbuffer, Option.toList_some, List.flatten_append, List.flatten_singleton]

/-- The step lemma. -/
theorem captureStep_sound {spare : Nat → Nat} {state next : CaptureState} {label : CaptureLabel}
    (h : state.Sound) (hstep : captureStep spare state label = some next) : next.Sound := by
  cases captureStep_cases hstep with
  | push => exact ⟨h.drawn_lt, h.drawn_injective, h.content, h.indexed, h.nodup, h.bounded⟩
  | enter => exact h.enter _
  | draw hcall hpc => exact h.draw hcall hpc _
  | create hcall hpc =>
      refine h.advance hcall (hpc ▸ rfl) rfl rfl rfl rfl rfl (fun _ hne => Files.set_ne _ hne _) ?_
      rintro _ ⟨⟩
      exact Files.set_self _ _ _
  | createFailed hcall hpc =>
      exact h.advance hcall (hpc ▸ rfl) rfl rfl rfl rfl rfl (fun _ _ => rfl) nofun
  | write hcall hpc hbuffer =>
      refine h.advance hcall (hpc ▸ rfl) rfl rfl rfl rfl rfl (fun _ hne => Files.set_ne _ hne _) ?_
      rintro _ ⟨⟩
      refine (Files.set_self _ _ _).trans ?_
      rw [h.content hcall (by rw [CaptureCall.written?, hpc]), Option.map_some,
        flatten_take_succ hbuffer]
  | writeFailed hcall hpc =>
      exact h.advance hcall (hpc ▸ rfl) rfl rfl rfl rfl rfl
        (fun _ hne => Files.set_ne _ hne _) nofun
  | finish hcall hpc hdone =>
      refine h.advance hcall (hpc ▸ rfl) rfl rfl rfl rfl rfl (fun _ _ => rfl) ?_
      rintro _ ⟨⟩
      refine (h.content hcall (by rw [CaptureCall.written?, hpc])).trans ?_
      rw [hdone, List.take_length]
  | measure hcall hpc =>
      refine h.advance hcall (hpc ▸ rfl) rfl rfl rfl rfl rfl (fun _ _ => rfl) ?_
      rintro _ ⟨⟩
      exact h.content hcall (by rw [CaptureCall.written?, hpc])
  | @record number sizeBytes call _ hcall hpc =>
      have hreturned : CaptureState.Sound
          (state.setCall number { call with pc := .returned (.ok (call.record sizeBytes)) }) :=
        h.advance hcall (hpc ▸ rfl) rfl rfl rfl rfl rfl (fun _ _ => rfl) nofun
      have hnumber : number < state.calls.length := (List.getElem?_eq_some_iff.mp hcall).1
      have hfile : state.files call.path = some call.flush.flatten :=
        h.content hcall (by rw [CaptureCall.written?, hpc])
      exact hreturned.pushRecord
        ⟨number, _, sizeBytes, List.getElem?_set_self hnumber, rfl, rfl, hfile⟩
        (fun old hold => h.record_path_ne_of_underWay hcall (hpc ▸ rfl) hold) _
  | restart => exact ⟨nofun, nofun, nofun, nofun, .nil, Nat.zero_le _⟩

theorem reachable_sound {spare : Nat → Nat} {allowed : CaptureState → CaptureLabel → Prop}
    {files : Files} {ring : PacketRingBuffer} {state : CaptureState}
    (hrun : ReachableBy (captureStep spare) allowed (.start files ring) state) : state.Sound :=
  hrun.invariant CaptureState.Sound (.start files ring)
    fun h _ hstep => captureStep_sound h hstep

/-! ## Runs in which every file operation succeeds -/

/-- A step of the running process, whose file operation succeeds. -/
def CaptureLabel.succeeds : CaptureLabel → Bool
  | .create _ (.error _) | .write _ (.error _) | .restart _ => false
  | .measure _ found => found
  | .record _ removed => removed
  | _ => true

/-- The size that the call has read is that of its file. -/
def CaptureCall.Sized (call : CaptureCall) : Prop :=
  match call.pc with
  | .measured sizeBytes => sizeBytes = call.flush.flatten.length
  | .returned (.ok record) => record.sizeBytes = call.flush.flatten.length
  | _ => True

theorem captureStep_sized {spare : Nat → Nat} {state next : CaptureState} {label : CaptureLabel}
    (hsound : state.Sound) (h : ∀ call ∈ state.calls, call.Sized)
    (hsucceeds : label.succeeds = true) (hstep : captureStep spare state label = some next) :
    ∀ call ∈ next.calls, call.Sized := by
  cases captureStep_cases hstep with
  | push => exact h
  | enter => exact forall_mem_join h trivial
  | draw | create | createFailed | write | writeFailed | finish => exact forall_mem_set h trivial
  | @measure number call found hcall hpc =>
      refine forall_mem_set h ?_
      cases (hsucceeds : found = true)
      have hfile := hsound.content hcall (by rw [CaptureCall.written?, hpc])
      change ((state.files call.path).map List.length).getD 0 = _
      rw [hfile, Option.map_some, Option.getD_some]
  | @record number sizeBytes call removed hcall hpc =>
      have hsized := h call (List.mem_of_getElem? hcall)
      rw [CaptureCall.Sized, hpc] at hsized
      rw [CaptureState.pushRecord_calls]
      exact forall_mem_set h hsized
  | restart => exact nofun

/-- Every record has an id and a file of its own, and the file is the one the call
of the record has written. -/
structure CaptureState.IndexSound (state : CaptureState) : Prop where
  captureIds_nodup : (state.pcapCaptures.map (·.captureId)).Nodup
  filePaths_nodup : (state.pcapCaptures.map (·.filePath)).Nodup
  bounded : state.pcapCaptures.length ≤ maxPcapRecords
  file : ∀ record ∈ state.pcapCaptures, ∃ call ∈ state.calls,
    call.pc = .returned (.ok record) ∧ record.filePath = call.path ∧
      state.files record.filePath = some call.flush.flatten ∧
      record.sizeBytes = call.flush.flatten.length

/-- A record that leaves the index takes its file along, and no other file goes. -/
def CaptureState.EvictsOwnFile (state next : CaptureState) : Prop :=
  (∀ old ∈ state.pcapCaptures, old ∉ next.pcapCaptures → next.files old.filePath = none) ∧
  ∀ path, state.files path ≠ none → next.files path = none →
    ∃ old ∈ state.pcapCaptures, old ∉ next.pcapCaptures ∧ old.filePath = path

theorem CaptureState.Sound.indexSound {state : CaptureState} (h : state.Sound)
    (hsized : ∀ call ∈ state.calls, call.Sized) : state.IndexSound := by
  refine ⟨?_, h.nodup, h.bounded, fun record hrecord => ?_⟩
  · have hpaths := h.nodup
    have hnames : state.pcapCaptures.map (·.filePath) = (state.pcapCaptures.map (·.captureId)).map
        fun captureId => pcapOutputDir ++ "/" ++ (captureId ++ ".pcap") := by
      rw [List.map_map]
      refine List.map_congr_left fun record hrecord => ?_
      obtain ⟨_, call, sizeBytes, _, _, rfl, _⟩ := h.indexed record hrecord
      exact call.record_filePath sizeBytes
    rw [hnames] at hpaths
    exact hpaths.of_map _
  · obtain ⟨number, call, sizeBytes, hcall, hpc, rfl, hfile⟩ := h.indexed record hrecord
    have hmem := List.mem_of_getElem? hcall
    have hsize := hsized call hmem
    rw [CaptureCall.Sized, hpc] at hsize
    exact ⟨call, hmem, hpc, rfl, hfile, hsize⟩

theorem CaptureState.evictsOwnFile_of_kept {state next : CaptureState}
    (hindex : next.pcapCaptures = state.pcapCaptures)
    (hfiles : ∀ path, state.files path ≠ none → next.files path ≠ none) :
    state.EvictsOwnFile next :=
  ⟨fun _ hold hgone => absurd (hindex ▸ hold) hgone,
    fun path hexists hgone => absurd hgone (hfiles path hexists)⟩

/-- The record pushed and the record it displaces. -/
theorem CaptureState.Sound.evictsOwnFile {state : CaptureState} (h : state.Sound)
    {record : PcapCaptureRecord}
    (hfresh : ∀ old ∈ state.pcapCaptures, old.filePath ≠ record.filePath) :
    state.EvictsOwnFile (state.pushRecord record true) := by
  rcases state.pushRecord_cases record true with ⟨_, hnext⟩ | ⟨old, kept, hcaptures, hnext⟩
  · rw [hnext]
    exact ⟨fun _ hold hgone => absurd (List.mem_append_left _ hold) hgone,
      fun _ hexists hgone => absurd hgone hexists⟩
  · have hnodup := h.nodup
    rw [hcaptures, List.map_cons, List.nodup_cons] at hnodup
    rw [hcaptures] at hfresh
    unfold CaptureState.EvictsOwnFile
    rw [hnext, hcaptures]
    refine ⟨fun other hother hgone => ?_, fun path hexists hgone => ?_⟩
    · rcases List.mem_cons.mp hother with rfl | hkept
      · exact state.files.set_self _ _
      · exact absurd (List.mem_append_left _ hkept) hgone
    · refine ⟨old, List.mem_cons_self, fun hmem => ?_, ?_⟩
      · rcases List.mem_append.mp hmem with hkept | hself
        · exact hnodup.1 (List.mem_map_of_mem hkept)
        · exact hfresh old List.mem_cons_self (List.mem_singleton.mp hself ▸ rfl)
      · by_contra hne
        exact hexists ((state.files.set_ne (Ne.symm hne) none).symm.trans hgone)

theorem captureStep_evictsOwnFile {spare : Nat → Nat} {state next : CaptureState}
    {label : CaptureLabel} (h : state.Sound) (hsucceeds : label.succeeds = true)
    (hstep : captureStep spare state label = some next) : state.EvictsOwnFile next := by
  cases captureStep_cases hstep with
  | push | enter | draw | createFailed | finish | measure =>
      exact CaptureState.evictsOwnFile_of_kept rfl fun _ => id
  | create =>
      exact CaptureState.evictsOwnFile_of_kept rfl fun _ =>
        Files.set_ne_none _ fun _ => Option.some_ne_none _
  | write | writeFailed =>
      exact CaptureState.evictsOwnFile_of_kept rfl fun _ =>
        Files.set_ne_none _ fun hexists hgone => hexists (Option.map_eq_none_iff.mp hgone)
  | @record number sizeBytes call removed hcall hpc =>
      cases (hsucceeds : removed = true)
      have hreturned : CaptureState.Sound
          (state.setCall number { call with pc := .returned (.ok (call.record sizeBytes)) }) :=
        h.advance hcall (hpc ▸ rfl) rfl rfl rfl rfl rfl (fun _ _ => rfl) nofun
      exact hreturned.evictsOwnFile fun old hold =>
        h.record_path_ne_of_underWay hcall (hpc ▸ rfl) hold
  | restart => cases hsucceeds

/-- In a run in which every file operation succeeds, the index is sound in every
state, and every further step evicts no file but that of a record it drops. -/
theorem captureIndex_sound (spare : Nat → Nat) (files : Files) (ring : PacketRingBuffer)
    {state : CaptureState}
    (hrun : ReachableBy (captureStep spare) (fun _ label => label.succeeds = true)
      (.start files ring) state) :
    state.IndexSound ∧ ∀ (label : CaptureLabel) (next : CaptureState), label.succeeds = true →
      captureStep spare state label = some next → state.EvictsOwnFile next := by
  have hinv : state.Sound ∧ ∀ call ∈ state.calls, call.Sized :=
    hrun.invariant (fun state => state.Sound ∧ ∀ call ∈ state.calls, call.Sized)
      ⟨.start files ring, nofun⟩ fun h hsucceeds hstep =>
        ⟨captureStep_sound h.1 hstep, captureStep_sized h.1 h.2 hsucceeds hstep⟩
  exact ⟨hinv.1.indexSound hinv.2, fun label next hsucceeds hstep =>
    captureStep_evictsOwnFile hinv.1 hsucceeds hstep⟩

/-- The capture of an empty ring, while another call has drawn a number. -/
theorem captureIndex_sound_manual : ∃ state : CaptureState,
    ReachableBy (captureStep fun _ => 0) (fun _ label => label.succeeds = true)
      (.start (fun _ => none) (.new (fun _ => 0) 1024)) state ∧
    state.pcapCaptures.length = 1 ∧ state.IndexSound :=
  have hreached := reachableBy_of_runLabels
    [.enter .manual, .enter .manual, .draw 0 0, .draw 1 0, .create 1 (.ok ()), .write 1 (.ok ()),
      .finish 1, .measure 1 true, .record 1 true] .start rfl
  ⟨_, hreached, rfl, (captureIndex_sound _ _ _ hreached).1⟩

end GeSensor.Dashboard
