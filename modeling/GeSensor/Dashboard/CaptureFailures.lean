/-
  Dashboard/CaptureFailures.lean --- what a failed capture leaves on disk.

  `flush_to_pcap` returns at its first failed write, and `create_pcap_capture`
  returns with it.  The file has been created by then, and no record will name it:
  no later eviction removes it.  A capture that cannot create its file leaves
  nothing.
-/
import GeSensor.Dashboard.CaptureIndex

set_option autoImplicit false

namespace GeSensor.Dashboard

open GeSensor.Foundation
open GeSensor.PcapStore

/-- A step of the running process; what removes an evicted file succeeds. -/
def CaptureLabel.removes : CaptureLabel → Bool
  | .restart _ => false
  | .record _ removed => removed
  | _ => true

/-- A `write_all` of `flush_to_pcap` fails. -/
def CaptureLabel.writeFails : CaptureLabel → Bool
  | .write _ (.error _) => true
  | _ => false

/-- The call has created a file that is not in the index. -/
def CaptureCall.holdsFile (call : CaptureCall) : Bool :=
  call.written?.isSome || call.writeFailed

def CapturePc.hasReturned : CapturePc → Bool
  | .returned _ => true
  | _ => false

namespace CaptureState

/-- Every call has returned. -/
def Quiescent (state : CaptureState) : Prop :=
  ∀ call ∈ state.calls, call.pc.hasReturned = true

/-- The files created and not removed are those of the records. -/
def NothingLeft (state : CaptureState) : Prop :=
  ∀ path, path ∈ state.created ↔ ∃ record ∈ state.pcapCaptures, record.filePath = path

/-- Every file created and not removed is that of a record, or held by a call. -/
structure Accounted (state : CaptureState) : Prop where
  created : ∀ path, path ∈ state.created ↔
    (∃ record ∈ state.pcapCaptures, record.filePath = path) ∨
      ∃ call ∈ state.calls, call.path = path ∧ call.holdsFile = true
  failed : ∀ call ∈ state.calls, call.writeFailed = true →
    ∃ message, call.pc = .returned (.error message)

end CaptureState

namespace CaptureState.Accounted

theorem not_failed {state : CaptureState} (h : state.Accounted) {number : Nat} {call : CaptureCall}
    (hcall : state.calls[number]? = some call) (hopen : ∀ answer, call.pc ≠ .returned answer) :
    call.writeFailed = false := by
  rw [← Bool.not_eq_true]
  intro hfailed
  obtain ⟨message, hpc⟩ := h.failed call (List.mem_of_getElem? hcall) hfailed
  exact hopen _ hpc

/-- A call moves on, and goes on to hold a file or to hold none. -/
theorem advance {state next : CaptureState} (h : state.Accounted) {number : Nat}
    {call moved : CaptureCall} (hcall : state.calls[number]? = some call)
    (hcalls : next.calls = state.calls.set number moved)
    (hcreated : next.created = state.created) (hindex : next.pcapCaptures = state.pcapCaptures)
    (hholds : ∀ path, (moved.path = path ∧ moved.holdsFile = true) ↔
      (call.path = path ∧ call.holdsFile = true))
    (hfailed : moved.writeFailed = true → ∃ message, moved.pc = .returned (.error message)) :
    next.Accounted := by
  refine ⟨fun path => ?_, ?_⟩
  · rw [hcreated, h.created path, hindex, hcalls, exists_mem_set_congr hcall (hholds path)]
  · rw [hcalls]
    exact forall_mem_set h.failed hfailed

/-- A call creates its file. -/
theorem create {state next : CaptureState} (h : state.Accounted) {number : Nat}
    {call moved : CaptureCall} (hcall : state.calls[number]? = some call)
    (hcalls : next.calls = state.calls.set number moved)
    (hcreated : next.created = call.path :: state.created)
    (hindex : next.pcapCaptures = state.pcapCaptures) (hpath : moved.path = call.path)
    (hcallHolds : call.holdsFile = false) (hmovedHolds : moved.holdsFile = true)
    (hmovedOk : moved.writeFailed = false) : next.Accounted := by
  refine ⟨fun path => ?_, ?_⟩
  · rw [hcreated, List.mem_cons, h.created path, hindex, hcalls, exists_mem_set_iff hcall,
      exists_mem_iff_of_getElem? hcall, hpath, hcallHolds, hmovedHolds, eq_comm]
    simp [or_left_comm]
  · rw [hcalls]
    exact forall_mem_set h.failed fun hfailed => by simp [hmovedOk] at hfailed

/-- The file of a record is held by no call. -/
theorem record_path_ne {state : CaptureState} (hsound : state.Sound) (h : state.Accounted)
    {record : PcapCaptureRecord} (hrecord : record ∈ state.pcapCaptures) {call : CaptureCall}
    (hcall : call ∈ state.calls) (hholds : call.holdsFile = true) :
    record.filePath ≠ call.path := by
  obtain ⟨number, hnumber⟩ := List.mem_iff_getElem?.mp hcall
  rcases Bool.or_eq_true_iff.mp hholds with hwritten | hfailed
  · obtain ⟨written, hwritten⟩ := Option.isSome_iff_exists.mp hwritten
    exact hsound.record_path_ne_of_underWay hnumber (CaptureCall.underWay_of_written hwritten)
      hrecord
  · obtain ⟨message, hpc⟩ := h.failed call hcall hfailed
    refine hsound.record_path_ne hnumber (CaptureCall.hasDrawn_of_returned hpc) ?_ hrecord
    rw [hpc]
    exact nofun

/-- The oldest record and its file go together: no other record has this file, and no
call holds it. -/
theorem evict {state : CaptureState} (hsound : state.Sound) (h : state.Accounted)
    {old : PcapCaptureRecord} {kept : List PcapCaptureRecord}
    (hcaptures : state.pcapCaptures = old :: kept) :
    CaptureState.Accounted { state.removeFile old.filePath with pcapCaptures := kept } := by
  have hnodup := hsound.nodup
  rw [hcaptures, List.map_cons, List.nodup_cons] at hnodup
  refine ⟨fun path => ?_, h.failed⟩
  change path ∈ state.created.filter (· ≠ old.filePath) ↔ _
  rw [List.mem_filter, h.created path, hcaptures, decide_eq_true_iff]
  constructor
  · rintro ⟨⟨record, hrecord, rfl⟩ | hheld, hne⟩
    · rcases List.mem_cons.mp hrecord with rfl | hkept
      · exact absurd rfl hne
      · exact Or.inl ⟨record, hkept, rfl⟩
    · exact Or.inr hheld
  · rintro (⟨record, hkept, rfl⟩ | ⟨call, hcall, rfl, hholds⟩)
    · exact ⟨Or.inl ⟨record, List.mem_cons_of_mem _ hkept, rfl⟩,
        fun heq => hnodup.1 (heq ▸ List.mem_map_of_mem hkept)⟩
    · have hold : old ∈ state.pcapCaptures := hcaptures ▸ List.mem_cons_self
      exact ⟨Or.inr ⟨call, hcall, rfl, hholds⟩, (h.record_path_ne hsound hold hcall hholds).symm⟩

/-- The record of a call takes the file over from it. -/
theorem append {state next : CaptureState} (h : state.Accounted) {number : Nat}
    {call moved : CaptureCall} {record : PcapCaptureRecord}
    (hcall : state.calls[number]? = some call)
    (hcalls : next.calls = state.calls.set number moved)
    (hcreated : next.created = state.created)
    (hindex : next.pcapCaptures = state.pcapCaptures ++ [record])
    (hpath : record.filePath = call.path) (hcallHolds : call.holdsFile = true)
    (hmovedHolds : moved.holdsFile = false) (hmovedOk : moved.writeFailed = false) :
    next.Accounted := by
  refine ⟨fun path => ?_, ?_⟩
  · rw [hcreated, h.created path, hindex, hcalls, exists_mem_set_iff hcall,
      exists_mem_iff_of_getElem? hcall, hcallHolds, hmovedHolds, ← hpath]
    simp [or_and_right, exists_or, or_assoc]
  · rw [hcalls]
    exact forall_mem_set h.failed fun hfailed => by simp [hmovedOk] at hfailed

end CaptureState.Accounted

theorem captureStep_accounted {spare : Nat → Nat} {state next : CaptureState}
    {label : CaptureLabel} (hsound : state.Sound) (h : state.Accounted)
    (hremoves : label.removes = true) (hstep : captureStep spare state label = some next) :
    next.Accounted := by
  cases captureStep_cases hstep with
  | push => exact ⟨h.created, h.failed⟩
  | enter =>
      refine ⟨fun path => ?_, forall_mem_join h.failed nofun⟩
      rw [h.created path]
      simp [or_and_right, exists_or, CaptureCall.holdsFile, CaptureCall.written?]
  | draw hcall hpc | createFailed hcall hpc | write hcall hpc | finish hcall hpc
  | measure hcall hpc =>
      have hok := h.not_failed hcall (by simp [hpc])
      refine h.advance hcall rfl rfl rfl (fun path => ?_) (by simp [hok])
      simp [CaptureCall.holdsFile, CaptureCall.written?, hpc, hok, CaptureCall.path]
  | create hcall hpc =>
      have hok := h.not_failed hcall (by simp [hpc])
      refine h.create hcall rfl rfl rfl rfl ?_ rfl hok
      simp [CaptureCall.holdsFile, CaptureCall.written?, hpc, hok]
  | writeFailed hcall hpc =>
      refine h.advance hcall rfl rfl rfl (fun path => ?_) fun _ => ⟨_, rfl⟩
      simp [CaptureCall.holdsFile, CaptureCall.written?, hpc, CaptureCall.path]
  | @record number sizeBytes call removed hcall hpc =>
      cases (hremoves : removed = true)
      have hok := h.not_failed hcall (by simp [hpc])
      have hholds : call.holdsFile = true := by
        simp [CaptureCall.holdsFile, CaptureCall.written?, hpc]
      rcases CaptureState.pushRecord_cases (state.setCall number
        { call with pc := .returned (.ok (call.record sizeBytes)) }) (call.record sizeBytes) true
        with ⟨_, hnext⟩ | ⟨old, kept, hcaptures, hnext⟩
      · rw [hnext]
        exact h.append hcall rfl rfl rfl rfl hholds hok hok
      · rw [hnext]
        exact (h.evict hsound hcaptures).append hcall rfl rfl rfl rfl hholds hok hok
  | restart => cases hremoves

/-! ## What a failed write leaves -/

/-- A failed write marks its call for good. -/
theorem captureStep_writeFailed_iff {spare : Nat → Nat} {state next : CaptureState}
    {label : CaptureLabel} (hremoves : label.removes = true)
    (hstep : captureStep spare state label = some next) :
    (∃ call ∈ next.calls, call.writeFailed = true) ↔
      (∃ call ∈ state.calls, call.writeFailed = true) ∨ label.writeFails = true := by
  cases captureStep_cases hstep with
  | push => simp [CaptureLabel.writeFails]
  | enter => simp [CaptureLabel.writeFails, or_and_right, exists_or]
  | draw hcall | create hcall | createFailed hcall | write hcall | finish hcall | measure hcall =>
      simp only [CaptureLabel.writeFails, Bool.false_eq_true, or_false]
      exact exists_mem_set_congr hcall Iff.rfl
  | writeFailed hcall =>
      refine iff_of_true ?_ (Or.inr rfl)
      exact (exists_mem_set_iff hcall).mpr (Or.inl rfl)
  | record hcall =>
      simp only [CaptureLabel.writeFails, Bool.false_eq_true, or_false,
        CaptureState.pushRecord_calls]
      exact exists_mem_set_congr hcall Iff.rfl
  | restart => cases hremoves

/-- When every call has returned, the file of a failed call is the only kind of file
that can be left. -/
theorem CaptureState.Accounted.nothingLeft_iff {state : CaptureState} (hsound : state.Sound)
    (h : state.Accounted) (hquiescent : state.Quiescent) :
    state.NothingLeft ↔ ¬ ∃ call ∈ state.calls, call.writeFailed = true := by
  constructor
  · rintro hnothing ⟨call, hcall, hfailed⟩
    have hholds : call.holdsFile = true := Bool.or_eq_true_iff.mpr (Or.inr hfailed)
    obtain ⟨record, hrecord, hpath⟩ := (hnothing call.path).mp
      ((h.created call.path).mpr (Or.inr ⟨call, hcall, rfl, hholds⟩))
    exact h.record_path_ne hsound hrecord hcall hholds hpath
  · intro hok path
    rw [h.created path, or_iff_left_iff_imp]
    rintro ⟨call, hcall, _, hholds⟩
    have hreturned := hquiescent call hcall
    refine absurd ⟨call, hcall, ?_⟩ hok
    cases hpc : call.pc with
    | returned answer =>
        rw [CaptureCall.holdsFile, CaptureCall.written?, hpc] at hholds
        exact hholds
    | _ =>
        rw [hpc] at hreturned
        cases hreturned

/-- After a run in which the creation of a file and any write may fail, the files
created and not removed are those of the records exactly if no write has failed. -/
theorem nothingLeft_iff_no_write_failed (spare : Nat → Nat) (files : Files)
    (ring : PacketRingBuffer) {labels : List CaptureLabel} {state : CaptureState}
    (hrun : runLabels (captureStep spare) (fun _ label => label.removes) (.start files ring)
      labels = some state)
    (hquiescent : state.Quiescent) :
    state.NothingLeft ↔ ∀ label ∈ labels, label.writeFails = false := by
  have hstart : (CaptureState.start files ring).Sound ∧ (CaptureState.start files ring).Accounted :=
    ⟨.start files ring, fun path => by simp [CaptureState.start], nofun⟩
  obtain ⟨⟨hsound, haccounted⟩, hfailed⟩ := runLabels_marked_iff
    (fun state => state.Sound ∧ state.Accounted)
    (fun state => ∃ call ∈ state.calls, call.writeFailed = true) (·.writeFails = true)
    (fun h hremoves hstep => ⟨⟨captureStep_sound h.1 hstep,
      captureStep_accounted h.1 h.2 hremoves hstep⟩, captureStep_writeFailed_iff hremoves hstep⟩)
    hstart hrun
  rw [haccounted.nothingLeft_iff hsound hquiescent, hfailed]
  simp [CaptureState.start]

/-- The disk is full when the header is written. -/
def failedWriteRun : List CaptureLabel :=
  [.enter .manual, .draw 0 0, .create 0 (.ok ()), .write 0 (.error (0, "disk full"))]

/-- One capture cannot create its file, the next one is indexed. -/
def failedCreateRun : List CaptureLabel :=
  [.enter .manual, .draw 0 0, .create 0 (.error "disk full"), .enter .manual, .draw 1 0,
    .create 1 (.ok ()), .write 1 (.ok ()), .finish 1, .measure 1 true, .record 1 true]

theorem failedCreateRun_nothingLeft : ∃ state : CaptureState,
    runLabels (captureStep fun _ => 0) (fun _ label => label.removes)
      (.start (fun _ => none) (.new (fun _ => 0) 1024)) failedCreateRun = some state ∧
    state.NothingLeft :=
  ⟨_, rfl, (nothingLeft_iff_no_write_failed (fun _ => 0) (fun _ => none) (.new (fun _ => 0) 1024)
    (show runLabels _ _ _ failedCreateRun = _ from rfl) (List.all_eq_true.mp rfl)).mpr
    (by simp [failedCreateRun, CaptureLabel.writeFails])⟩

/-- The call returns an error, and its file stays without a record. -/
theorem failedWriteRun_leaves_file : ∃ state : CaptureState,
    runLabels (captureStep fun _ => 0) (fun _ label => label.removes)
      (.start (fun _ => none) (.new (fun _ => 0) 1024)) failedWriteRun = some state ∧
    state.Quiescent ∧ state.files (filePathOf 1) = some [] ∧ ¬ state.NothingLeft := by
  refine ⟨_, rfl, List.all_eq_true.mp rfl, ?_, fun hnothing => ?_⟩
  · let created := Files.set (fun _ => none) (filePathOf 1) (some [])
    change created.set (filePathOf 1) ((created (filePathOf 1)).map (· ++ [])) (filePathOf 1) = _
    have hcreated : created (filePathOf 1) = some [] := Files.set_self _ _ _
    rw [Files.set_self, hcreated, Option.map_some, List.append_nil]
  obtain ⟨record, hrecord, _⟩ := (hnothing (filePathOf 1)).mp List.mem_cons_self
  cases hrecord

end GeSensor.Dashboard
