/-
  Dashboard/Captures.lean --- `AppState::create_pcap_capture` of
  `src/utils/dashboard.rs`.

  A call draws the next capture number, writes the forensic ring to a file named
  after it, and pushes a record to the capture index; a full index loses its
  oldest record first, and that record's file is removed.  The number is drawn
  without a lock, the file is written buffer by buffer under the ring's lock, and
  the index has a lock of its own, so that the calls of the capture thread and of
  the handlers interleave at these steps.

  What the file operations answer, and what the clock reads, is part of a step.
  A process may be stopped and started again at any time: the files stay, all else
  begins anew.  The counter of the numbers does not wrap: it would take 2^64 calls.
-/
import GeSensor.Foundation.Reachable
import GeSensor.PcapStore.RingRuns

set_option autoImplicit false

namespace GeSensor.Dashboard

open GeSensor.Foundation
open GeSensor.PcapStore

/-! ## Files and their names -/

/-- The files on disk, by path. -/
abbrev Files : Type := String → Option Bytes

/-- The files after one of them is written or removed. -/
def Files.set (files : Files) (path : String) (content : Option Bytes) : Files :=
  fun other => if other = path then content else files other

@[simp] theorem Files.set_self (files : Files) (path : String) (content : Option Bytes) :
    files.set path content path = content := if_pos rfl

theorem Files.set_ne (files : Files) {path other : String} (h : other ≠ path)
    (content : Option Bytes) : files.set path content other = files other := if_neg h

/-- Setting a file that exists to one that exists removes none. -/
theorem Files.set_ne_none (files : Files) {path other : String} {content : Option Bytes}
    (hcontent : files path ≠ none → content ≠ none) (hother : files other ≠ none) :
    files.set path content other ≠ none := by
  rcases eq_or_ne other path with rfl | hne
  · rw [Files.set_self]
    exact hcontent hother
  · rw [Files.set_ne files hne]
    exact hother

/-- `format!("ALT-{capture_no:04}")`. -/
def captureIdOf (captureNo : Nat) : String :=
  let digits := Nat.toDigits 10 captureNo
  "ALT-" ++ String.ofList (List.replicate (4 - digits.length) '0' ++ digits)

def fileNameOf (captureNo : Nat) : String := captureIdOf captureNo ++ ".pcap"

/-- The capture output directory. -/
def pcapOutputDir : String := "pcap_data"

def filePathOf (captureNo : Nat) : String := pcapOutputDir ++ "/" ++ fileNameOf captureNo

/-- The padding does not make two numbers alike. -/
theorem captureIdOf_injective : Function.Injective captureIdOf := by
  intro left right h
  have hdigits := congrArg String.toList h
  simp only [captureIdOf, String.toList_append, String.toList_ofList,
    List.append_cancel_left_eq] at hdigits
  have hvalue : ∀ captureNo : Nat, Nat.ofDigitChars 10
      (List.replicate (4 - (Nat.toDigits 10 captureNo).length) '0' ++ Nat.toDigits 10 captureNo)
      0 = captureNo := by
    intro captureNo
    rw [Nat.ofDigitChars_append, Nat.ofDigitChars_replicate_zero, Nat.mul_zero,
      Nat.ofDigitChars_toDigits (by decide) (by decide)]
  rw [← hvalue left, ← hvalue right, hdigits]

theorem filePathOf_injective : Function.Injective filePathOf := by
  intro left right h
  apply captureIdOf_injective
  have hchars := congrArg String.toList h
  simp only [filePathOf, fileNameOf, String.toList_append, List.append_cancel_left_eq,
    List.append_cancel_right_eq] at hchars
  exact String.toList_inj.mp hchars

/-! ## Calls -/

/-- Metadata for one persisted PCAP capture. -/
structure PcapCaptureRecord where
  captureId : String
  triggerType : String
  fiveTuple : String
  sizeBytes : Nat
  timestamp : Nat
  status : String
  fileName : String
  filePath : String
  ruleId : String
  deriving DecidableEq, Repr

/-- The arguments of `create_pcap_capture`. -/
structure CaptureRequest where
  triggerType : String
  fiveTuple : String
  ruleId : Option String
  deriving DecidableEq, Repr

/-- The call of `POST /api/pcap/capture/manual`. -/
def CaptureRequest.manual : CaptureRequest where
  triggerType := "manual"
  fiveTuple := "manual snapshot"
  ruleId := none

/-- Where a call stands. -/
inductive CapturePc where
  /-- draw the capture number -/
  | entered
  /-- lock the ring and create the file -/
  | drawn
  /-- with the ring locked: so many buffers of the flush are written -/
  | writing (done : Nat)
  /-- read the size of the file -/
  | flushed
  /-- lock the index and push the record -/
  | measured (sizeBytes : Nat)
  | returned (answer : Except String PcapCaptureRecord)

/-- A call made so far. -/
structure CaptureCall where
  request : CaptureRequest
  captureNo : Nat
  timestamp : Nat
  /-- the buffers that `flush_to_pcap` writes, fixed when the ring is locked -/
  flush : List Bytes
  /-- one of these writes has failed; kept for the statements only -/
  writeFailed : Bool
  pc : CapturePc

namespace CaptureCall

def path (call : CaptureCall) : String := filePathOf call.captureNo

/-- The call has drawn its capture number. -/
def hasDrawn (call : CaptureCall) : Bool :=
  match call.pc with
  | .entered => false
  | _ => true

/-- What the call has written to its file, while the file is not in the index. -/
def written? (call : CaptureCall) : Option Bytes :=
  match call.pc with
  | .writing done => some (call.flush.take done).flatten
  | .flushed | .measured _ => some call.flush.flatten
  | _ => none

/-- The record of the call. -/
def record (call : CaptureCall) (sizeBytes : Nat) : PcapCaptureRecord where
  captureId := captureIdOf call.captureNo
  triggerType := call.request.triggerType
  fiveTuple := call.request.fiveTuple
  sizeBytes := sizeBytes
  timestamp := call.timestamp
  status := "indexed"
  fileName := fileNameOf call.captureNo
  filePath := call.path
  ruleId := call.request.ruleId.getD ""

end CaptureCall

/-- A capture that was written to the end. -/
structure SavedCapture where
  /-- the process run that wrote it -/
  run : Nat
  path : String
  content : Bytes

/-- The disk and a running process.  The number of the run, the files it has
created and the captures saved are kept for the statements only. -/
structure CaptureState where
  files : Files
  pcapSeq : Nat
  pcapRing : PacketRingBuffer
  /-- the call that holds the ring's lock -/
  ringHolder : Option Nat
  pcapCaptures : List PcapCaptureRecord
  calls : List CaptureCall
  run : Nat
  /-- created by this run and not removed -/
  created : List String
  /-- saved by any run and not removed -/
  saved : List SavedCapture

/-- A move of one party. -/
inductive CaptureLabel where
  /-- the capture thread pushes a packet to the ring -/
  | push (packet : Packet)
  /-- a thread calls `create_pcap_capture` -/
  | enter (request : CaptureRequest)
  | draw (number timestamp : Nat)
  /-- create the file, or fail with the system's message -/
  | create (number : Nat) (result : Except String Unit)
  /-- write the next buffer, or fail behind so many of its bytes -/
  | write (number : Nat) (result : Except (Nat × String) Unit)
  /-- all buffers are written: release the ring -/
  | finish (number : Nat)
  /-- read the size of the file, which may fail -/
  | measure (number : Nat) (found : Bool)
  /-- push the record; a removal of an old file may fail -/
  | record (number : Nat) (removed : Bool)
  /-- the process is stopped and started again, with a ring of so many bytes -/
  | restart (maxBytes : Nat)

def maxPcapRecords : Nat := 500

/-- The record that leaves a full index, and those that stay. -/
def evictOldest (captures : List PcapCaptureRecord) :
    Option PcapCaptureRecord × List PcapCaptureRecord :=
  if maxPcapRecords ≤ captures.length then (captures.head?, captures.tail) else (none, captures)

/-- The message of a failed flush. -/
def flushFailed (message : String) : Except String PcapCaptureRecord :=
  .error ("failed to write pcap: " ++ message)

namespace CaptureState

/-- A process started on the given files. -/
def start (files : Files) (ring : PacketRingBuffer) : CaptureState where
  files := files
  pcapSeq := 1
  pcapRing := ring
  ringHolder := none
  pcapCaptures := []
  calls := []
  run := 0
  created := []
  saved := []

def setCall (state : CaptureState) (number : Nat) (call : CaptureCall) : CaptureState :=
  { state with calls := state.calls.set number call }

/-- The state after the file at a path is removed. -/
def removeFile (state : CaptureState) (path : String) : CaptureState :=
  { state with
    files := state.files.set path none
    created := state.created.filter (· ≠ path)
    saved := state.saved.filter (·.path ≠ path) }

/-- Push a record to the index. -/
def pushRecord (state : CaptureState) (record : PcapCaptureRecord) (removed : Bool) :
    CaptureState :=
  let (old, kept) := evictOldest state.pcapCaptures
  let state :=
    match old with
    | some old => if removed then state.removeFile old.filePath else state
    | none => state
  { state with pcapCaptures := kept ++ [record] }

end CaptureState

section

variable (spare : Nat → Nat)

/-- One step of a call. -/
def callStep (state : CaptureState) (number : Nat) (call : CaptureCall) :
    CaptureLabel → Option CaptureState
  | .draw _ timestamp =>
      match call.pc with
      | .entered =>
          some { state.setCall number
              { call with captureNo := state.pcapSeq, timestamp := timestamp, pc := .drawn } with
            pcapSeq := state.pcapSeq + 1 }
      | _ => none
  | .create _ result =>
      match call.pc, state.ringHolder, state.pcapRing.flushToPcap, result with
      | .drawn, none, .ok (writes, _), .ok () =>
          some { state.setCall number { call with flush := writes, pc := .writing 0 } with
            files := state.files.set call.path (some [])
            ringHolder := some number
            created := call.path :: state.created }
      | .drawn, none, .ok _, .error message =>
          some (state.setCall number { call with pc := .returned (flushFailed message) })
      | _, _, _, _ => none
  | .write _ result =>
      match call.pc with
      | .writing done =>
          match call.flush[done]?, result with
          | some buffer, .ok () =>
              some { state.setCall number { call with pc := .writing (done + 1) } with
                files := state.files.set call.path
                  ((state.files call.path).map (· ++ buffer)) }
          | some buffer, .error (written, message) =>
              some { state.setCall number { call with
                    writeFailed := true, pc := .returned (flushFailed message) } with
                files := state.files.set call.path
                  ((state.files call.path).map (· ++ buffer.take written))
                ringHolder := none }
          | none, _ => none
      | _ => none
  | .finish _ =>
      match call.pc with
      | .writing done =>
          if done = call.flush.length then
            some { state.setCall number { call with pc := .flushed } with
              ringHolder := none
              saved := ⟨state.run, call.path, call.flush.flatten⟩ :: state.saved }
          else none
      | _ => none
  | .measure _ found =>
      match call.pc with
      | .flushed =>
          let sizeBytes := if found then ((state.files call.path).map List.length).getD 0 else 0
          some (state.setCall number { call with pc := .measured sizeBytes })
      | _ => none
  | .record _ removed =>
      match call.pc with
      | .measured sizeBytes =>
          let record := call.record sizeBytes
          some ((state.setCall number { call with pc := .returned (.ok record) }).pushRecord record
            removed)
      | _ => none
  | _ => none

/-- One move of the system. -/
def captureStep (state : CaptureState) (label : CaptureLabel) : Option CaptureState :=
  match label with
  | .push packet =>
      match state.ringHolder, state.pcapRing.push spare packet with
      | none, .ok ring => some { state with pcapRing := ring }
      | _, _ => none
  | .enter request =>
      some { state with calls := state.calls ++ [⟨request, 0, 0, [], false, .entered⟩] }
  | .restart maxBytes =>
      some { state with
        pcapSeq := 1
        pcapRing := .new spare maxBytes
        ringHolder := none
        pcapCaptures := []
        calls := []
        run := state.run + 1
        created := [] }
  | .draw number _ | .create number _ | .write number _ | .finish number | .measure number _
  | .record number _ => state.calls[number]?.bind fun call => callStep state number call label

end

/-! ## What a step can do -/

section

variable {spare : Nat → Nat}

/-- The moves of the system, each with what it requires. -/
inductive CaptureMove (spare : Nat → Nat) (state : CaptureState) :
    CaptureLabel → CaptureState → Prop
  | push {packet : Packet} {ring : PacketRingBuffer} (hfree : state.ringHolder = none)
      (hpush : state.pcapRing.push spare packet = .ok ring) :
      CaptureMove spare state (.push packet) { state with pcapRing := ring }
  | enter {request : CaptureRequest} :
      CaptureMove spare state (.enter request)
        { state with calls := state.calls ++ [⟨request, 0, 0, [], false, .entered⟩] }
  | draw {number timestamp : Nat} {call : CaptureCall} (hcall : state.calls[number]? = some call)
      (hpc : call.pc = .entered) :
      CaptureMove spare state (.draw number timestamp)
        { state.setCall number
            { call with captureNo := state.pcapSeq, timestamp := timestamp, pc := .drawn } with
          pcapSeq := state.pcapSeq + 1 }
  | create {number : Nat} {call : CaptureCall} {writes : List Bytes} {packets : Nat}
      (hcall : state.calls[number]? = some call) (hpc : call.pc = .drawn)
      (hfree : state.ringHolder = none)
      (hflush : state.pcapRing.flushToPcap = .ok (writes, packets)) :
      CaptureMove spare state (.create number (.ok ()))
        { state.setCall number { call with flush := writes, pc := .writing 0 } with
          files := state.files.set call.path (some [])
          ringHolder := some number
          created := call.path :: state.created }
  | createFailed {number : Nat} {call : CaptureCall} {message : String}
      (hcall : state.calls[number]? = some call) (hpc : call.pc = .drawn)
      (hfree : state.ringHolder = none) :
      CaptureMove spare state (.create number (.error message))
        (state.setCall number { call with pc := .returned (flushFailed message) })
  | write {number done : Nat} {call : CaptureCall} {buffer : Bytes}
      (hcall : state.calls[number]? = some call) (hpc : call.pc = .writing done)
      (hbuffer : call.flush[done]? = some buffer) :
      CaptureMove spare state (.write number (.ok ()))
        { state.setCall number { call with pc := .writing (done + 1) } with
          files := state.files.set call.path ((state.files call.path).map (· ++ buffer)) }
  | writeFailed {number done written : Nat} {call : CaptureCall} {buffer : Bytes}
      {message : String} (hcall : state.calls[number]? = some call)
      (hpc : call.pc = .writing done) (hbuffer : call.flush[done]? = some buffer) :
      CaptureMove spare state (.write number (.error (written, message)))
        { state.setCall number { call with
              writeFailed := true, pc := .returned (flushFailed message) } with
          files := state.files.set call.path
            ((state.files call.path).map (· ++ buffer.take written))
          ringHolder := none }
  | finish {number done : Nat} {call : CaptureCall} (hcall : state.calls[number]? = some call)
      (hpc : call.pc = .writing done) (hdone : done = call.flush.length) :
      CaptureMove spare state (.finish number)
        { state.setCall number { call with pc := .flushed } with
          ringHolder := none
          saved := ⟨state.run, call.path, call.flush.flatten⟩ :: state.saved }
  | measure {number : Nat} {call : CaptureCall} {found : Bool}
      (hcall : state.calls[number]? = some call) (hpc : call.pc = .flushed) :
      CaptureMove spare state (.measure number found)
        (state.setCall number { call with
          pc := .measured (if found then ((state.files call.path).map List.length).getD 0 else 0) })
  | record {number sizeBytes : Nat} {call : CaptureCall} {removed : Bool}
      (hcall : state.calls[number]? = some call) (hpc : call.pc = .measured sizeBytes) :
      CaptureMove spare state (.record number removed)
        ((state.setCall number { call with
          pc := .returned (.ok (call.record sizeBytes)) }).pushRecord
            (call.record sizeBytes) removed)
  | restart {maxBytes : Nat} :
      CaptureMove spare state (.restart maxBytes)
        { state with
          pcapSeq := 1
          pcapRing := .new spare maxBytes
          ringHolder := none
          pcapCaptures := []
          calls := []
          run := state.run + 1
          created := [] }

theorem captureStep_cases {state next : CaptureState} {label : CaptureLabel}
    (hstep : captureStep spare state label = some next) : CaptureMove spare state label next := by
  unfold captureStep at hstep
  split at hstep
  case h_1 =>
    split at hstep
    · rename_i hfree hpush
      cases hstep
      exact .push hfree hpush
    · cases hstep
  case h_2 =>
    cases hstep
    exact .enter
  case h_3 =>
    cases hstep
    exact .restart
  all_goals
    obtain ⟨call, hcall, hmove⟩ := Option.bind_eq_some_iff.mp hstep
    unfold callStep at hmove
    dsimp only at hmove
    split at hmove
  -- draw
  · cases hmove
    exact .draw hcall ‹_›
  · cases hmove
  -- create
  · cases hmove
    exact .create hcall ‹_› ‹_› ‹_›
  · cases hmove
    exact .createFailed hcall ‹_› ‹_›
  · cases hmove
  -- write
  · split at hmove
    · cases hmove
      exact .write hcall ‹_› ‹_›
    · cases hmove
      exact .writeFailed hcall ‹_› ‹_›
    · cases hmove
  · cases hmove
  -- finish
  · split at hmove
    · cases hmove
      exact .finish hcall ‹_› ‹_›
    · cases hmove
  · cases hmove
  -- measure
  · cases hmove
    exact .measure hcall ‹_›
  · cases hmove
  -- record
  · cases hmove
    exact .record hcall ‹_›
  · cases hmove

/-- A full index loses its oldest record. -/
theorem evictOldest_cases (captures : List PcapCaptureRecord) :
    (captures.length < maxPcapRecords ∧ evictOldest captures = (none, captures)) ∨
    ∃ (old : PcapCaptureRecord) (kept : List PcapCaptureRecord),
      captures = old :: kept ∧ evictOldest captures = (some old, kept) := by
  rcases Nat.lt_or_ge captures.length maxPcapRecords with hspace | hfull
  · exact Or.inl ⟨hspace, if_neg (Nat.not_le_of_lt hspace)⟩
  · cases captures with
    | nil => cases hfull
    | cons old kept => exact Or.inr ⟨old, kept, rfl, if_pos hfull⟩

/-- A record is pushed behind those in the index, or behind all of them but the
oldest, whose file is removed. -/
theorem CaptureState.pushRecord_cases (state : CaptureState) (record : PcapCaptureRecord)
    (removed : Bool) :
    (state.pcapCaptures.length < maxPcapRecords ∧ state.pushRecord record removed =
      { state with pcapCaptures := state.pcapCaptures ++ [record] }) ∨
    ∃ (old : PcapCaptureRecord) (kept : List PcapCaptureRecord),
      state.pcapCaptures = old :: kept ∧ state.pushRecord record removed =
        { (if removed then state.removeFile old.filePath else state) with
          pcapCaptures := kept ++ [record] } := by
  unfold CaptureState.pushRecord
  rcases evictOldest_cases state.pcapCaptures with ⟨hspace, hevict⟩ | ⟨old, kept, hcaptures, hevict⟩
  · rw [hevict]
    exact Or.inl ⟨hspace, rfl⟩
  · rw [hevict]
    exact Or.inr ⟨old, kept, hcaptures, rfl⟩

@[simp] theorem CaptureState.pushRecord_calls (state : CaptureState) (record : PcapCaptureRecord)
    (removed : Bool) : (state.pushRecord record removed).calls = state.calls := by
  rcases state.pushRecord_cases record removed with ⟨_, hnext⟩ | ⟨old, kept, _, hnext⟩
  · rw [hnext]
  · rw [hnext]
    cases removed <;> rfl

@[simp] theorem CaptureState.pushRecord_run (state : CaptureState) (record : PcapCaptureRecord)
    (removed : Bool) : (state.pushRecord record removed).run = state.run := by
  rcases state.pushRecord_cases record removed with ⟨_, hnext⟩ | ⟨old, kept, _, hnext⟩
  · rw [hnext]
  · rw [hnext]
    cases removed <;> rfl

/-- A capture that stays saved keeps its file. -/
theorem CaptureState.mem_saved_of_pushRecord {state : CaptureState} {record : PcapCaptureRecord}
    {removed : Bool} {entry : SavedCapture}
    (hentry : entry ∈ (state.pushRecord record removed).saved) :
    entry ∈ state.saved ∧
      (state.pushRecord record removed).files entry.path = state.files entry.path := by
  rcases state.pushRecord_cases record removed with ⟨_, hnext⟩ | ⟨old, kept, _, hnext⟩
  · rw [hnext] at hentry ⊢
    exact ⟨hentry, rfl⟩
  · rw [hnext] at hentry ⊢
    cases removed with
    | false => exact ⟨hentry, rfl⟩
    | true =>
        obtain ⟨hmem, hpath⟩ := List.mem_filter.mp hentry
        exact ⟨hmem, state.files.set_ne (of_decide_eq_true hpath) none⟩

end

end GeSensor.Dashboard
