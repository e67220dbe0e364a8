/-
  Dashboard/CaptureRestarts.lean --- captures over several process runs.

  The directory outlives the process, the capture number does not: `pcap_seq` starts
  at 1 in every run.  Within a run no two captures share a file.  A run overwrites a
  capture of an earlier one exactly when it creates a file of the same number.
-/
import GeSensor.Dashboard.CaptureIndex

set_option autoImplicit false

namespace GeSensor.Dashboard

open GeSensor.Foundation
open GeSensor.PcapStore

/-- The call has written its file to the end. -/
def CapturePc.hasFlushed : CapturePc → Bool
  | .flushed | .measured _ | .returned (.ok _) => true
  | _ => false

/-- Every capture saved by any run and not removed is on disk as it was written. -/
def CaptureState.SavedIntact (state : CaptureState) : Prop :=
  ∀ entry ∈ state.saved, state.files entry.path = some entry.content

/-- A file is not created over a capture saved by an earlier run. -/
def createsFresh (state : CaptureState) : CaptureLabel → Bool
  | .create number (.ok _) =>
      match state.calls[number]? with
      | some call =>
          state.saved.all fun entry => decide (entry.run < state.run → entry.path ≠ call.path)
      | none => true
  | _ => true

/-- The captures saved have their content, and no call under way writes to one. -/
structure CaptureState.Preserves (state : CaptureState) : Prop where
  intact : state.SavedIntact
  run_le : ∀ entry ∈ state.saved, entry.run ≤ state.run
  -- a capture of this run is that of a call, and no other call draws its number
  current : ∀ entry ∈ state.saved, entry.run = state.run →
    ∃ (number : Nat) (call : CaptureCall), state.calls[number]? = some call ∧
      call.pc.hasFlushed = true ∧ call.path = entry.path
  writing : ∀ {number done : Nat} {call : CaptureCall}, state.calls[number]? = some call →
    call.pc = .writing done → ∀ entry ∈ state.saved, entry.path ≠ call.path

namespace CaptureState.Preserves

/-- A call moves on, and the captures that stay saved keep their files. -/
theorem advance {state next : CaptureState} (h : state.Preserves) {number : Nat}
    {call moved : CaptureCall} (hcall : state.calls[number]? = some call)
    (hcalls : next.calls = state.calls.set number moved) (hrun : next.run = state.run)
    (hsaved : ∀ entry ∈ next.saved, entry ∈ state.saved)
    (hfiles : ∀ entry ∈ next.saved, next.files entry.path = state.files entry.path)
    (hflushed : call.pc.hasFlushed = true → moved.pc.hasFlushed = true ∧ moved.path = call.path)
    (hwriting : ∀ done, moved.pc = .writing done → ∀ entry ∈ state.saved,
      entry.path ≠ moved.path) : next.Preserves := by
  refine ⟨fun entry hentry => ?_, fun entry hentry => ?_, fun entry hentry hcurrent => ?_, ?_⟩
  · exact (hfiles entry hentry).trans (h.intact entry (hsaved entry hentry))
  · exact hrun ▸ h.run_le entry (hsaved entry hentry)
  · obtain ⟨other, another, hanother, hpast, hpath⟩ :=
      h.current entry (hsaved entry hentry) (hcurrent.trans hrun)
    rw [hcalls]
    by_cases hne : number = other
    · subst hne
      rw [hcall, Option.some.injEq] at hanother
      subst hanother
      exact ⟨number, moved, List.getElem?_set_self (List.getElem?_eq_some_iff.mp hcall).1,
        (hflushed hpast).1, (hflushed hpast).2.trans hpath⟩
    · exact ⟨other, another, (List.getElem?_set_ne hne).trans hanother, hpast, hpath⟩
  · intro other done another hanother hpc entry hentry
    rw [hcalls] at hanother
    rcases party_of_set hanother with ⟨rfl, rfl⟩ | ⟨_, hanother⟩
    · exact hwriting done hpc entry (hsaved entry hentry)
    · exact h.writing hanother hpc entry (hsaved entry hentry)

/-- A capture of this run is never that of a call that has not flushed. -/
theorem current_path_ne {state : CaptureState} (hsound : state.Sound) (h : state.Preserves)
    {number : Nat} {call : CaptureCall} (hcall : state.calls[number]? = some call)
    (hdrawn : call.hasDrawn = true) (hopen : call.pc.hasFlushed = false) {entry : SavedCapture}
    (hentry : entry ∈ state.saved) (hcurrent : entry.run = state.run) :
    entry.path ≠ call.path := by
  obtain ⟨other, another, hanother, hflushed, hpath⟩ := h.current entry hentry hcurrent
  have hdrawn' : another.hasDrawn = true := by
    rw [CaptureCall.hasDrawn]
    cases hpc : another.pc with
    | entered =>
        rw [hpc] at hflushed
        cases hflushed
    | _ => rfl
  rw [← hpath]
  refine hsound.path_ne hcall hanother hdrawn hdrawn' (number_ne_of_party_ne hcall hanother ?_)
  rintro rfl
  rw [hflushed] at hopen
  cases hopen

/-- A file that is created fresh is the file of no capture. -/
theorem create_path_ne {state : CaptureState} (hsound : state.Sound) (h : state.Preserves)
    {number : Nat} {call : CaptureCall} (hcall : state.calls[number]? = some call)
    (hpc : call.pc = .drawn) (hfresh : createsFresh state (.create number (.ok ())) = true)
    {entry : SavedCapture} (hentry : entry ∈ state.saved) : entry.path ≠ call.path := by
  rcases Nat.lt_or_eq_of_le (h.run_le entry hentry) with hearlier | hcurrent
  · rw [createsFresh, hcall] at hfresh
    exact of_decide_eq_true (List.all_eq_true.mp hfresh entry hentry) hearlier
  · exact h.current_path_ne hsound hcall (CaptureCall.hasDrawn_of_underWay (hpc ▸ rfl)) (hpc ▸ rfl)
      hentry hcurrent

/-- A call has written its file to the end: the capture is saved. -/
theorem finish {state : CaptureState} (hsound : state.Sound) (h : state.Preserves)
    {number : Nat} {call : CaptureCall} (hcall : state.calls[number]? = some call)
    (hpc : call.pc = .writing call.flush.length) :
    CaptureState.Preserves { state.setCall number { call with pc := .flushed } with
      ringHolder := none
      saved := ⟨state.run, call.path, call.flush.flatten⟩ :: state.saved } := by
  have hold : CaptureState.Preserves (state.setCall number { call with pc := .flushed }) := by
    refine h.advance hcall rfl rfl (fun _ => id) (fun _ _ => rfl) ?_ nofun
    rw [hpc]
    exact nofun
  refine ⟨?_, ?_, ?_, ?_⟩
  · intro entry hentry
    rcases List.mem_cons.mp hentry with rfl | hentry
    · have hfile := hsound.content hcall (by rw [CaptureCall.written?, hpc])
      rwa [List.take_length] at hfile
    · exact hold.intact entry hentry
  · intro entry hentry
    rcases List.mem_cons.mp hentry with rfl | hentry
    · exact Nat.le_refl _
    · exact hold.run_le entry hentry
  · intro entry hentry hcurrent
    rcases List.mem_cons.mp hentry with rfl | hentry
    · exact ⟨number, _, List.getElem?_set_self (List.getElem?_eq_some_iff.mp hcall).1, rfl, rfl⟩
    · exact hold.current entry hentry hcurrent
  · intro other done another hanother hwriting entry hentry
    rcases List.mem_cons.mp hentry with rfl | hentry
    · rcases party_of_set hanother with ⟨rfl, rfl⟩ | ⟨hne, hanother⟩
      · cases hwriting
      · exact (hsound.path_ne hcall hanother (CaptureCall.hasDrawn_of_underWay (hpc ▸ rfl))
          (CaptureCall.hasDrawn_of_underWay (hwriting ▸ rfl)) hne).symm
    · exact hold.writing hanother hwriting entry hentry

/-- A record is pushed: the files of the captures that stay saved are not removed. -/
theorem pushRecord {state : CaptureState} (h : state.Preserves) (record : PcapCaptureRecord)
    (removed : Bool) : (state.pushRecord record removed).Preserves := by
  refine ⟨fun entry hentry => ?_, ?_, ?_, ?_⟩
  · obtain ⟨hmem, hfile⟩ := CaptureState.mem_saved_of_pushRecord hentry
    exact hfile.trans (h.intact entry hmem)
  · rw [CaptureState.pushRecord_run]
    exact fun entry hentry => h.run_le entry (CaptureState.mem_saved_of_pushRecord hentry).1
  · rw [CaptureState.pushRecord_run, CaptureState.pushRecord_calls]
    exact fun entry hentry => h.current entry (CaptureState.mem_saved_of_pushRecord hentry).1
  · rw [CaptureState.pushRecord_calls]
    exact fun hcall hpc entry hentry =>
      h.writing hcall hpc entry (CaptureState.mem_saved_of_pushRecord hentry).1

end CaptureState.Preserves

theorem captureStep_preserves {spare : Nat → Nat} {state next : CaptureState}
    {label : CaptureLabel} (hsound : state.Sound) (h : state.Preserves)
    (hfresh : createsFresh state label = true)
    (hstep : captureStep spare state label = some next) : next.Preserves := by
  cases captureStep_cases hstep with
  | push => exact ⟨h.intact, h.run_le, h.current, h.writing⟩
  | enter =>
      refine ⟨h.intact, h.run_le, fun entry hentry hcurrent => ?_, ?_⟩
      · obtain ⟨number, call, hcall, hrest⟩ := h.current entry hentry hcurrent
        exact ⟨number, call, getElem?_join hcall, hrest⟩
      · intro number done call hcall hpc
        rcases party_of_join hcall with rfl | hcall
        · cases hpc
        · exact h.writing hcall hpc
  | draw hcall hpc =>
      refine h.advance hcall rfl rfl (fun _ => id) (fun _ _ => rfl) ?_ nofun
      rw [hpc]
      exact nofun
  | create hcall hpc =>
      have hpath : ∀ entry ∈ state.saved, entry.path ≠ _ := fun entry hentry =>
        h.create_path_ne hsound hcall hpc hfresh hentry
      refine h.advance hcall rfl rfl (fun _ => id)
        (fun entry hentry => Files.set_ne _ (hpath entry hentry) _) ?_ (fun _ _ => hpath)
      rw [hpc]
      exact nofun
  | createFailed hcall hpc =>
      refine h.advance hcall rfl rfl (fun _ => id) (fun _ _ => rfl) ?_ nofun
      rw [hpc]
      exact nofun
  | write hcall hpc =>
      have hpath := h.writing hcall hpc
      refine h.advance hcall rfl rfl (fun _ => id)
        (fun entry hentry => Files.set_ne _ (hpath entry hentry) _) ?_ (fun _ _ => hpath)
      rw [hpc]
      exact nofun
  | writeFailed hcall hpc =>
      refine h.advance hcall rfl rfl (fun _ => id)
        (fun entry hentry => Files.set_ne _ (h.writing hcall hpc entry hentry) _) ?_ nofun
      rw [hpc]
      exact nofun
  | finish hcall hpc hdone =>
      subst hdone
      exact h.finish hsound hcall hpc
  | measure hcall hpc =>
      exact h.advance hcall rfl rfl (fun _ => id) (fun _ _ => rfl) (fun _ => ⟨rfl, rfl⟩) nofun
  | @record number sizeBytes call removed hcall hpc =>
      have hreturned : CaptureState.Preserves
          (state.setCall number { call with pc := .returned (.ok (call.record sizeBytes)) }) :=
        h.advance hcall rfl rfl (fun _ => id) (fun _ _ => rfl) (fun _ => ⟨rfl, rfl⟩) nofun
      exact hreturned.pushRecord _ _
  | restart =>
      refine ⟨h.intact, fun entry hentry => Nat.le_succ_of_le (h.run_le entry hentry),
        fun entry hentry hcurrent => ?_, nofun⟩
      exact absurd (h.run_le entry hentry) (hcurrent ▸ Nat.not_succ_le_self _)

/-- In a run over any number of processes in which no file is created over a capture
of an earlier process, every capture that is not removed stays as it was saved. -/
theorem savedIntact_of_createsFresh (spare : Nat → Nat) (files : Files) (ring : PacketRingBuffer)
    {state : CaptureState}
    (hrun : ReachableBy (captureStep spare) (fun state label => createsFresh state label = true)
      (.start files ring) state) : state.SavedIntact := by
  have hinv : state.Sound ∧ state.Preserves :=
    hrun.invariant (fun state => state.Sound ∧ state.Preserves)
      ⟨.start files ring, nofun, nofun, nofun, nofun⟩ fun h hfresh hstep =>
        ⟨captureStep_sound h.1 hstep, captureStep_preserves h.1 h.2 hfresh hstep⟩
  exact hinv.2.intact

/-- The second process cannot create its first file and creates its second one. -/
def freshRun : List CaptureLabel :=
  [.enter .manual, .draw 0 0, .create 0 (.ok ()), .write 0 (.ok ()), .finish 0, .restart 1024,
    .enter .manual, .draw 0 0, .create 0 (.error "disk full"), .enter .manual, .draw 1 0,
    .create 1 (.ok ()), .write 1 (.ok ()), .finish 1]

theorem freshRun_savedIntact : ∃ state : CaptureState,
    ReachableBy (captureStep fun _ => 0) (fun state label => createsFresh state label = true)
      (.start (fun _ => none) (.new (fun _ => 0) 1024)) state ∧
    state.saved.length = 2 ∧ state.SavedIntact :=
  have hreached := reachableBy_of_runLabels freshRun .start rfl
  ⟨_, hreached, rfl, savedIntact_of_createsFresh _ _ _ hreached⟩

/-! ## Captures overwritten -/

/-- What a call writes is not empty, nor is what has been saved. -/
structure CaptureState.WritesHeader (state : CaptureState) : Prop where
  calls : ∀ call ∈ state.calls, ∀ done, call.pc = .writing done → call.flush.flatten ≠ []
  saved : ∀ entry ∈ state.saved, entry.content ≠ []

theorem captureStep_writesHeader {spare : Nat → Nat} {state next : CaptureState}
    {label : CaptureLabel} (h : state.WritesHeader)
    (hstep : captureStep spare state label = some next) : next.WritesHeader := by
  cases captureStep_cases hstep with
  | push => exact ⟨h.calls, h.saved⟩
  | enter => exact ⟨forall_mem_join h.calls nofun, h.saved⟩
  | draw | createFailed | writeFailed | measure => exact ⟨forall_mem_set h.calls nofun, h.saved⟩
  | create hcall hpc hfree hflush =>
      obtain ⟨writes, written, hheader⟩ := state.pcapRing.flushToPcap_returns
      rw [hheader] at hflush
      cases hflush
      exact ⟨forall_mem_set h.calls fun _ _ => nofun, h.saved⟩
  | write hcall hpc =>
      have hcontent := h.calls _ (List.mem_of_getElem? hcall) _ hpc
      exact ⟨forall_mem_set h.calls fun _ _ => hcontent, h.saved⟩
  | finish hcall hpc =>
      have hcontent := h.calls _ (List.mem_of_getElem? hcall) _ hpc
      exact ⟨forall_mem_set h.calls nofun, List.forall_mem_cons.mpr ⟨hcontent, h.saved⟩⟩
  | record =>
      refine ⟨?_, fun entry hentry => h.saved entry (CaptureState.mem_saved_of_pushRecord hentry).1⟩
      rw [CaptureState.pushRecord_calls]
      exact forall_mem_set h.calls nofun
  | restart => exact ⟨nofun, h.saved⟩

/-- The condition leaves out nothing else: a file created over a capture of an earlier
process is empty, and the capture was not. -/
theorem overwritten_of_create (spare : Nat → Nat) (files : Files) (ring : PacketRingBuffer)
    {state next : CaptureState} {label : CaptureLabel}
    (hrun : Reachable (captureStep spare) (.start files ring) state)
    (hstale : createsFresh state label = false)
    (hstep : captureStep spare state label = some next) : ¬ next.SavedIntact := by
  have hstart : (CaptureState.start files ring).WritesHeader := ⟨nofun, nofun⟩
  have hheader : state.WritesHeader :=
    hrun.invariant CaptureState.WritesHeader hstart fun h _ hstep =>
      captureStep_writesHeader h hstep
  cases captureStep_cases hstep with
  | create hcall =>
      rw [createsFresh, hcall, List.all_eq_false] at hstale
      obtain ⟨entry, hentry, hpath⟩ := hstale
      have hpath : entry.path = _ := not_not.mp fun hne =>
        hpath (decide_eq_true fun _ => hne)
      intro hintact
      have hcontent := hintact entry hentry
      rw [hpath] at hcontent
      exact hheader.saved entry hentry
        (Option.some.inj (hcontent.symm.trans (Files.set_self _ _ _)))
  | _ => cases hstale

/-- Two processes each save a packet of their own under the number 1. -/
def overwritingRun : List CaptureLabel :=
  let capture : List CaptureLabel := [.enter .manual, .draw 0 0, .create 0 (.ok ())] ++
    List.replicate 6 (.write 0 (.ok ())) ++ [.finish 0]
  [.push ⟨0, 0, [1]⟩] ++ capture ++ [.restart 1024, .push ⟨0, 0, [2]⟩] ++ capture

/-- The packets of the first capture are gone. -/
theorem overwritingRun_not_savedIntact : ∃ state : CaptureState,
    runLabels (captureStep fun _ => 0) (fun _ _ => true)
      (.start (fun _ => none) (.new (fun _ => 0) 1024)) overwritingRun = some state ∧
    ¬ state.SavedIntact := by
  refine ⟨_, rfl, fun hintact => ?_⟩
  have hsecond := hintact _ List.mem_cons_self
  have hfirst := hintact _ (List.mem_cons_of_mem _ List.mem_cons_self)
  have hsame := Option.some.inj (hfirst.symm.trans hsecond)
  revert hsame
  decide

end GeSensor.Dashboard
