/-
  Output/DeadLetterFiles.lean --- the files of the dead-letter queue over several
  processes.

  The name of a file is the second at which it was created and a number that starts at
  zero in every process, so a process started again within the second, or after the clock
  was set back, creates its files over those of the one before.  A write that fails
  behind its first bytes leaves them in the directory and out of the size.  In runs in
  which neither happens, and in which `new` reads every file that has bytes, each event
  spooled keeps its own file, and the size is that of the directory between calls.
-/
import GeSensor.Output.DeadLetter

set_option autoImplicit false

namespace GeSensor.Output

open GeSensor.Foundation

/-! ## Sizes -/

/-- A file written anew: its bytes take the place of those it had. -/
theorem totalBytes_insert (files : Directory) (name : String) (content : Bytes) :
    totalBytes (files.insert name content) + (contentOf files name).length =
      totalBytes files + content.length := by
  have hinsert := HashMap.totalSize_insert List.length files name content
  have hcontent : ((files.lookup name).map List.length).getD 0 = (contentOf files name).length := by
    rw [contentOf]
    cases files.lookup name <;> rfl
  rw [hcontent] at hinsert
  exact hinsert

theorem calculateDirSize_le (files : Directory) (readable : String → Bool) :
    calculateDirSize files readable ≤ totalBytes files :=
  total_filter_le _ _ _

/-- Every file that has bytes can be read. -/
def readsAll (files : Directory) (readable : String → Bool) : Bool :=
  files.entries.all fun entry => readable entry.1 || entry.2.isEmpty

theorem calculateDirSize_eq {files : Directory} {readable : String → Bool}
    (h : readsAll files readable = true) : calculateDirSize files readable = totalBytes files := by
  refine total_filter_eq _ fun entry hentry => ?_
  have hreads := List.all_eq_true.mp h entry hentry
  rw [Bool.or_eq_true, List.isEmpty_iff] at hreads
  exact hreads.imp_right fun hempty => by rw [hempty, List.length_nil]

/-! ## Statements about a state -/

namespace SpoolCall

/-- The file the call writes to. -/
def file? (call : SpoolCall) : Option String :=
  match call.pc with
  | .writing name _ => some name
  | _ => none

/-- The bytes the call has put into the directory and not yet added to the size. -/
def uncounted (call : SpoolCall) : Nat :=
  match call.pc with
  | .writing _ done => done
  | .written => call.payload.length
  | _ => 0

def hasReturned (call : SpoolCall) : Bool :=
  match call.pc with
  | .returned _ => true
  | _ => false

theorem uncounted_of_hasReturned {call : SpoolCall} (h : call.hasReturned = true) :
    call.uncounted = 0 := by
  unfold hasReturned at h
  unfold uncounted
  split at h
  · rename_i hpc
    rw [hpc]
  · cases h

end SpoolCall

/-- No call is under way. -/
def DlqState.idle (state : DlqState) : Bool := state.calls.all SpoolCall.hasReturned

/-- Every event spooled by any process has a file of its own, with its bytes. -/
structure DlqState.SpooledIntact (state : DlqState) : Prop where
  intact : ∀ event ∈ state.spooled, state.files.lookup event.name = some event.payload
  distinct : (state.spooled.map SpooledEvent.name).Nodup

/-- The name is not that of an event or of a file being written, and a file under it has no
bytes. -/
def DlqState.nameFree (state : DlqState) (name : String) : Bool :=
  (contentOf state.files name).isEmpty &&
    state.spooled.all (fun event => decide (event.name ≠ name)) &&
    state.calls.all fun call => decide (call.file? ≠ some name)

/-- The steps that keep what is on disk and in the size: a file is created under a free name,
no write fails behind its first bytes, and a queue is created from all files. -/
def keepsFiles (utcFormat : Nat → String) (state : DlqState) : DlqLabel → Bool
  | .create number now (.ok ()) =>
      match state.calls[number]? with
      | some ⟨_, .numbered seq⟩ => state.nameFree (filenameOf (utcFormat now) seq)
      | _ => true
  | .write number (.error _) =>
      match state.calls[number]? with
      | some ⟨_, .writing _ done⟩ => done == 0
      | _ => true
  | .restart readable => readsAll state.files readable
  | _ => true

/-! ## The invariant -/

/-- The events have their files, each call writes to a file of its own, and the size and the
bytes not yet added make up the directory. -/
structure DlqState.Durable (state : DlqState) : Prop extends state.SpooledIntact where
  writing : ∀ {number done : Nat} {call : SpoolCall} {name : String},
    state.calls[number]? = some call → call.pc = .writing name done →
      state.files.lookup name = some (call.payload.take done) ∧ done ≤ call.payload.length
  unshared : ∀ {number other : Nat} {call another : SpoolCall} {name : String},
    state.calls[number]? = some call → state.calls[other]? = some another →
      call.file? = some name → another.file? = some name → number = other
  unspooled : ∀ {number : Nat} {call : SpoolCall} {name : String},
    state.calls[number]? = some call → call.file? = some name →
      ∀ event ∈ state.spooled, event.name ≠ name
  size : state.currentBytes + total SpoolCall.uncounted state.calls = totalBytes state.files

theorem SpoolCall.file?_of_writing {call : SpoolCall} {name : String} {done : Nat}
    (hpc : call.pc = .writing name done) : call.file? = some name := by
  rw [SpoolCall.file?, hpc]

theorem QuietMove.file?_eq_none {config : DlqConfig} {state after : DlqState} {before pc : SpoolPc}
    (hmove : QuietMove config state before pc after) (payload : Bytes) :
    SpoolCall.file? ⟨payload, pc⟩ = none ∧
      SpoolCall.uncounted ⟨payload, pc⟩ = SpoolCall.uncounted ⟨payload, before⟩ := by
  cases hmove <;> exact ⟨rfl, rfl⟩

namespace DlqState.Durable

/-- The directory stays as it is, and a call that has a file had it before. -/
theorem of_writers {state next : DlqState} (h : state.Durable)
    (hfiles : next.files = state.files) (hspooled : next.spooled = state.spooled)
    (hwriters : ∀ {number : Nat} {call : SpoolCall} {name : String},
      next.calls[number]? = some call → call.file? = some name →
        state.calls[number]? = some call)
    (hsize : next.currentBytes + total SpoolCall.uncounted next.calls =
      state.currentBytes + total SpoolCall.uncounted state.calls) :
    next.Durable := by
  constructor
  case toSpooledIntact =>
    constructor
    · rw [hfiles, hspooled]
      exact h.intact
    · rw [hspooled]
      exact h.distinct
  case writing =>
    intro number done call name hcall hpc
    rw [hfiles]
    exact h.writing (hwriters hcall (SpoolCall.file?_of_writing hpc)) hpc
  case unshared =>
    intro left right first second name hfirst hsecond hname hother
    exact h.unshared (hwriters hfirst hname) (hwriters hsecond hother) hname hother
  case unspooled =>
    intro number call name hcall hname
    rw [hspooled]
    exact h.unspooled (hwriters hcall hname) hname
  case size =>
    rw [hfiles, hsize]
    exact h.size

/-- A call that writes to no file goes on, and what it has put into the directory is still
accounted for. -/
theorem advance {state next : DlqState} (h : state.Durable) {number : Nat} {call moved : SpoolCall}
    (hcall : state.calls[number]? = some call) (hcalls : next.calls = state.calls.set number moved)
    (hfiles : next.files = state.files) (hspooled : next.spooled = state.spooled)
    (hfile : moved.file? = none)
    (hsize : next.currentBytes + moved.uncounted = state.currentBytes + call.uncounted) :
    next.Durable := by
  refine h.of_writers hfiles hspooled ?_ ?_
  · intro other another name hanother hname
    rw [hcalls] at hanother
    rcases party_of_set hanother with ⟨_, rfl⟩ | ⟨_, hanother⟩
    · rw [hfile] at hname
      cases hname
    · exact hanother
  · have htotal := total_set SpoolCall.uncounted hcall moved
    rw [hcalls]
    omega

/-- A call joins. -/
theorem join {state : DlqState} (h : state.Durable) (payload : Bytes) :
    DlqState.Durable { state with calls := state.calls ++ [⟨payload, .entered⟩] } := by
  refine h.of_writers rfl rfl ?_ ?_
  · intro number call name hcall hname
    rcases party_of_join hcall with rfl | hcall
    · cases hname
    · exact hcall
  · rw [total_append]
    rfl

/-- The file that a call is writing holds what it has written. -/
theorem contentOf_of_writing {state : DlqState} (h : state.Durable) {number done : Nat}
    {call : SpoolCall} {name : String} (hcall : state.calls[number]? = some call)
    (hpc : call.pc = .writing name done) :
    contentOf state.files name = call.payload.take done ∧ done ≤ call.payload.length := by
  obtain ⟨hcontent, hdone⟩ := h.writing hcall hpc
  rw [contentOf, hcontent]
  exact ⟨rfl, hdone⟩

/-- A call writes to a file that no event and no other call has: what stood there is what
the call had put there. -/
theorem writeFile {state : DlqState} (h : state.Durable) {number done : Nat} {call : SpoolCall}
    {name : String} (hcall : state.calls[number]? = some call) (hdone : done ≤ call.payload.length)
    (hevents : ∀ event ∈ state.spooled, event.name ≠ name)
    (hothers : ∀ {other : Nat} {another : SpoolCall}, other ≠ number →
      state.calls[other]? = some another → another.file? ≠ some name)
    (hold : (contentOf state.files name).length = call.uncounted) :
    DlqState.Durable { state.setPc number call (.writing name done) with
      files := state.files.insert name (call.payload.take done) } := by
  constructor
  case toSpooledIntact =>
    refine ⟨fun event hevent => ?_, h.distinct⟩
    exact (AList.lookup_insert_ne (hevents event hevent)).trans (h.intact event hevent)
  case writing =>
    intro other written another file hanother hpc
    rcases party_of_set hanother with ⟨rfl, rfl⟩ | ⟨hne, hanother⟩
    · cases hpc
      exact ⟨AList.lookup_insert _, hdone⟩
    · have hfile := SpoolCall.file?_of_writing hpc
      have hname : file ≠ name := fun hname => hothers hne hanother (hname ▸ hfile)
      exact ⟨(AList.lookup_insert_ne hname).trans (h.writing hanother hpc).1,
        (h.writing hanother hpc).2⟩
  case unshared =>
    intro left right first second file hfirst hsecond hfile hother
    rcases party_of_set hfirst with ⟨rfl, rfl⟩ | ⟨hleft, hfirst'⟩
    · cases hfile
      rcases party_of_set hsecond with ⟨rfl, _⟩ | ⟨hright, hsecond'⟩
      · rfl
      · exact absurd hother (hothers hright hsecond')
    · rcases party_of_set hsecond with ⟨rfl, rfl⟩ | ⟨_, hsecond'⟩
      · cases hother
        exact absurd hfile (hothers hleft hfirst')
      · exact h.unshared hfirst' hsecond' hfile hother
  case unspooled =>
    intro other another file hanother hfile
    rcases party_of_set hanother with ⟨rfl, rfl⟩ | ⟨_, hanother⟩
    · cases hfile
      exact hevents
    · exact h.unspooled hanother hfile
  case size =>
    have htotal := total_set SpoolCall.uncounted hcall ⟨call.payload, .writing name done⟩
    have hbytes := totalBytes_insert state.files name (call.payload.take done)
    have hsize := h.size
    have hmoved : SpoolCall.uncounted ⟨call.payload, .writing name done⟩ = done := rfl
    rw [List.length_take, Nat.min_eq_left hdone] at hbytes
    simp only [DlqState.setPc]
    omega

/-- A call has written its file to the end: the event is spooled. -/
theorem finish {state : DlqState} (h : state.Durable) {number : Nat} {call : SpoolCall}
    {name : String} (hcall : state.calls[number]? = some call)
    (hpc : call.pc = .writing name call.payload.length) :
    DlqState.Durable { state.setPc number call .written with
      spooled := ⟨name, call.payload⟩ :: state.spooled } := by
  have hfile := SpoolCall.file?_of_writing hpc
  have hcontent := (h.writing hcall hpc).1
  rw [List.take_length] at hcontent
  have hevents := h.unspooled hcall hfile
  have hmoved : (state.setPc number call .written).Durable := by
    refine h.advance hcall rfl rfl rfl rfl ?_
    rw [SpoolCall.uncounted, SpoolCall.uncounted, hpc]
    rfl
  constructor
  case toSpooledIntact =>
    constructor
    · intro event hevent
      rcases List.mem_cons.mp hevent with rfl | hevent
      · exact hcontent
      · exact h.intact event hevent
    · refine List.nodup_cons.mpr ⟨fun hmem => ?_, h.distinct⟩
      obtain ⟨event, hevent, hname⟩ := List.mem_map.mp hmem
      exact hevents event hevent hname
  case writing => exact hmoved.writing
  case unshared => exact hmoved.unshared
  case unspooled =>
    intro other another file hanother hother event hevent
    rcases List.mem_cons.mp hevent with rfl | hevent
    · rintro rfl
      rcases party_of_set hanother with ⟨_, rfl⟩ | ⟨hne, hanother⟩
      · cases hother
      · exact hne (h.unshared hanother hcall hother hfile)
    · exact hmoved.unspooled hanother hother event hevent
  case size => exact hmoved.size

/-- A queue created from all files knows their size. -/
theorem new {state : DlqState} (h : state.SpooledIntact) {readable : String → Bool}
    (hreads : readsAll state.files readable = true) :
    DlqState.Durable { DlqState.new state.files readable with spooled := state.spooled } where
  intact := h.intact
  distinct := h.distinct
  writing := nofun
  unshared := nofun
  unspooled := nofun
  size := calculateDirSize_eq hreads

end DlqState.Durable

theorem DlqState.nameFree_iff {state : DlqState} {name : String} :
    state.nameFree name = true ↔ contentOf state.files name = [] ∧
      (∀ event ∈ state.spooled, event.name ≠ name) ∧
        ∀ call ∈ state.calls, call.file? ≠ some name := by
  simp only [DlqState.nameFree, Bool.and_eq_true, List.isEmpty_iff, List.all_eq_true,
    decide_eq_true_eq, and_assoc]

section

variable {config : DlqConfig} {utcFormat : Nat → String}

theorem DlqState.nameFree_of_keepsFiles {state : DlqState} {number now seq : Nat}
    {call : SpoolCall} (hcall : state.calls[number]? = some call) (hpc : call.pc = .numbered seq)
    (hkeeps : keepsFiles utcFormat state (.create number now (.ok ())) = true) :
    contentOf state.files (filenameOf (utcFormat now) seq) = [] ∧
      (∀ event ∈ state.spooled, event.name ≠ filenameOf (utcFormat now) seq) ∧
        ∀ call ∈ state.calls, call.file? ≠ some (filenameOf (utcFormat now) seq) := by
  obtain ⟨payload, pc⟩ := call
  cases hpc
  simp only [keepsFiles, hcall] at hkeeps
  exact DlqState.nameFree_iff.mp hkeeps

theorem done_eq_zero_of_keepsFiles {state : DlqState} {number done : Nat} {name message : String}
    {call : SpoolCall} (hcall : state.calls[number]? = some call)
    (hpc : call.pc = .writing name done)
    (hkeeps : keepsFiles utcFormat state (.write number (.error message)) = true) : done = 0 := by
  obtain ⟨payload, pc⟩ := call
  cases hpc
  simp only [keepsFiles, hcall] at hkeeps
  exact of_decide_eq_true hkeeps

theorem dlqStep_durable {state next : DlqState} {label : DlqLabel} (h : state.Durable)
    (hkeeps : keepsFiles utcFormat state label = true)
    (hstep : dlqStep config utcFormat state label = some next) : next.Durable := by
  cases dlqStep_cases hstep with
  | spool => exact h.join _
  | load hcall hpc =>
      refine h.advance hcall rfl rfl rfl rfl ?_
      rw [SpoolCall.uncounted, SpoolCall.uncounted, hpc]
      rfl
  | createFailed hcall hpc =>
      refine h.advance hcall rfl rfl rfl rfl ?_
      rw [SpoolCall.uncounted, SpoolCall.uncounted, hpc]
      rfl
  | @quiet number call pc after hcall hmove =>
      obtain ⟨hfiles, hbytes, hcalls, hspooled⟩ := hmove.frame
      obtain ⟨hfile, huncounted⟩ := hmove.file?_eq_none call.payload
      refine h.advance hcall ?_ hfiles hspooled hfile ?_
      · rw [DlqState.setPc, hcalls]
      · exact congrArg₂ Nat.add hbytes huncounted
  | create hcall hpc =>
      obtain ⟨hempty, hevents, hcalls⟩ := DlqState.nameFree_of_keepsFiles hcall hpc hkeeps
      refine h.writeFile hcall (Nat.zero_le _) hevents (fun _ hanother => ?_) ?_
      · exact hcalls _ (List.mem_of_getElem? hanother)
      · rw [hempty, SpoolCall.uncounted, hpc]
        rfl
  | @write number done count name call hcall hpc hpos hcount =>
      obtain ⟨hcontent, hdone⟩ := h.contentOf_of_writing hcall hpc
      have hfile := SpoolCall.file?_of_writing hpc
      rw [List.length_drop] at hcount
      rw [hcontent, writeAt_take call.payload hdone]
      refine h.writeFile hcall (by omega) (h.unspooled hcall hfile) ?_ ?_
      · exact fun hne hanother hother => hne (h.unshared hanother hcall hother hfile)
      · rw [hcontent, List.length_take, Nat.min_eq_left hdone, SpoolCall.uncounted, hpc]
  | writeFailed hcall hpc hrest =>
      have hdone := done_eq_zero_of_keepsFiles hcall hpc hkeeps
      refine h.advance hcall rfl rfl rfl rfl ?_
      rw [SpoolCall.uncounted, SpoolCall.uncounted, hpc, hdone]
      rfl
  | finish hcall hpc hdone => exact h.finish hcall (hdone ▸ hpc)
  | add hcall hpc =>
      refine h.advance hcall rfl rfl rfl rfl ?_
      rw [SpoolCall.uncounted, SpoolCall.uncounted, hpc]
      rfl
  | restart => exact .new h.toSpooledIntact hkeeps

/-- Over any number of processes: if no file is created under a name in use, no write fails
behind its first bytes and each queue is created from all files, then every event spooled has
a file of its own with its bytes, and between calls the size is that of the directory. -/
theorem spooled_durable_of_keepsFiles (config : DlqConfig) (utcFormat : Nat → String)
    (files : Directory) (readable : String → Bool) (hreads : readsAll files readable = true)
    {state : DlqState}
    (hrun : ReachableBy (dlqStep config utcFormat)
      (fun state label => keepsFiles utcFormat state label = true) (.new files readable) state) :
    state.SpooledIntact ∧ (state.idle = true → state.sizeBytes = totalBytes state.files) := by
  have hstart : (DlqState.new files readable).SpooledIntact := ⟨nofun, List.nodup_nil⟩
  have hdurable := hrun.invariant DlqState.Durable (.new hstart hreads) dlqStep_durable
  refine ⟨hdurable.toSpooledIntact, fun hidle => ?_⟩
  have hcounted : total SpoolCall.uncounted state.calls = 0 :=
    total_eq_zero _ fun call hcall =>
      SpoolCall.uncounted_of_hasReturned (List.all_eq_true.mp hidle call hcall)
  have hsize := hdurable.size
  rw [hcounted, Nat.add_zero] at hsize
  exact hsize

end

/-! ## Runs -/

/-- The queue as configured by default. -/
def DlqConfig.default : DlqConfig where
  path := "/var/lib/ge-sensor/dlq"
  maxBytes := 10 * 1024 * 1024 * 1024
  threshold := 8589934592

/-- A call that is not disturbed, up to the write. -/
def spoolRun (number now : Nat) (payload : Bytes) : List DlqLabel :=
  [.spool payload, .call number, .call number, .call number, .create number now (.ok ())]

/-- The whole payload is written at once. -/
def writtenRun (number now : Nat) (payload : Bytes) : List DlqLabel :=
  spoolRun number now payload ++
    [.write number (.ok payload.length), .call number, .call number, .call number]

/-- 2026-03-24 00:00:00 and the second after it. -/
def midnight (now : Nat) : String := if now = 1774310400 then "20260324000000" else "20260324000001"

/-- A process started again in the next second, and a file that cannot be created. -/
def nextSecondRun : List DlqLabel :=
  writtenRun 0 1774310400 [0x7B, 0x7D] ++ [.restart fun _ => true] ++
    writtenRun 0 1774310401 [0x31] ++
    [.spool [0x32], .call 1, .call 1, .call 1, .create 1 1774310401 (.error "disk full")]

theorem nextSecondRun_durable : ∃ state : DlqState,
    ReachableBy (dlqStep .default midnight)
      (fun state label => keepsFiles midnight state label = true) (.new ∅ fun _ => true) state ∧
      state.spooled.length = 2 ∧ state.SpooledIntact ∧
      (state.idle = true → state.sizeBytes = totalBytes state.files) :=
  have hreached := reachableBy_of_runLabels nextSecondRun .start rfl
  ⟨_, hreached, rfl, spooled_durable_of_keepsFiles .default midnight ∅ (fun _ => true) rfl hreached⟩

/-- A process started again within the second. -/
def sameSecondRun : List DlqLabel :=
  writtenRun 0 1774310400 [0x7B, 0x7D] ++ [.restart fun _ => true] ++
    writtenRun 0 1774310400 [0x31]

/-- A write that fails behind two of its three bytes. -/
def failedWriteRun : List DlqLabel :=
  spoolRun 0 1774310400 [0x7B, 0x20, 0x7D] ++ [.write 0 (.ok 2), .write 0 (.error "disk full")]

/-- An event is lost as soon as a file is created under its name. -/
theorem not_intact_of_create {config : DlqConfig} {utcFormat : Nat → String}
    {state next : DlqState} {number now seq : Nat} {call : SpoolCall}
    (hcall : state.calls[number]? = some call) (hpc : call.pc = .numbered seq)
    (hstep : dlqStep config utcFormat state (.create number now (.ok ())) = some next)
    {event : SpooledEvent} (hevent : event ∈ state.spooled)
    (hname : event.name = filenameOf (utcFormat now) seq) (hpayload : event.payload ≠ []) :
    ¬next.SpooledIntact := by
  intro hintact
  cases dlqStep_cases hstep with
  | create hcall' hpc' =>
      cases hcall.symm.trans hcall'
      cases hpc.symm.trans hpc'
      have hfile := hintact.intact event hevent
      rw [hname] at hfile
      exact hpayload (Option.some.inj (hfile.symm.trans (AList.lookup_insert _)))

/-- Within one second a second process takes the file of the first, and a failed write leaves
bytes that the size does not count. -/
theorem spooled_overwritten :
    (∃ state : DlqState, runLabels (dlqStep .default midnight) (fun _ _ => true)
        (.new ∅ fun _ => true) sameSecondRun = some state ∧
      state.idle = true ∧ ¬state.SpooledIntact ∧ state.sizeBytes = 3 ∧
        totalBytes state.files = 1) ∧
    ∃ state : DlqState, runLabels (dlqStep .default midnight) (fun _ _ => true)
        (.new ∅ fun _ => true) failedWriteRun = some state ∧
      state.idle = true ∧ state.sizeBytes = 0 ∧ totalBytes state.files = 2 := by
  refine ⟨⟨_, rfl, rfl, fun hintact => ?_, rfl, rfl⟩, ⟨_, rfl, rfl, rfl, rfl⟩⟩
  have hsecond := hintact.intact _ List.mem_cons_self
  have hfirst := hintact.intact _ (List.mem_cons_of_mem _ List.mem_cons_self)
  have hsame := Option.some.inj (hfirst.symm.trans hsecond)
  revert hsame
  decide

end GeSensor.Output
