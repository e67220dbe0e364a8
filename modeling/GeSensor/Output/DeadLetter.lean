/-
  Output/DeadLetter.lean --- `DeadLetterQueue` of `src/output/dlq.rs`.

  A call of `spool` loads the size counter, passes the circuit breaker or is dropped,
  draws a sequence number, writes its payload to a file named after the second and the
  number, and adds the length of the payload to the counter.  Each access to an atomic
  and each operation on the file is a step of its own, so that calls interleave there.

  What the file operations answer, and the clock, are part of a step.  A process may be
  stopped at any time and a queue created anew over the same directory.  The format of
  the second is that of the `chrono` crate, a parameter; the threshold of the breaker
  is computed in floating point, a field of the configuration here.  The sum of the
  sizes does not wrap: no disk holds 2^64 bytes.
-/
import GeSensor.Foundation.Checked
import GeSensor.Foundation.Reachable
import GeSensor.Foundation.Totals

set_option autoImplicit false

namespace GeSensor.Output

open GeSensor.Foundation

/-! ## Files and their names -/

/-- The regular files of a directory. -/
abbrev Directory : Type := HashMap String Bytes

/-- Write bytes at an offset; a gap before it reads as zeros. -/
def writeAt (content : Bytes) (offset : Nat) (bytes : Bytes) : Bytes :=
  content.take offset ++ List.replicate (offset - content.length) 0 ++ bytes ++
    content.drop (offset + bytes.length)

theorem writeAt_end (content bytes : Bytes) :
    writeAt content content.length bytes = content ++ bytes := by
  rw [writeAt, List.take_length, Nat.sub_self, List.replicate_zero, List.append_nil,
    List.drop_eq_nil_of_le (Nat.le_add_right _ _), List.append_nil]

/-- The next part of a payload behind the part that is written. -/
theorem writeAt_take (payload : Bytes) {done : Nat} (hdone : done ≤ payload.length)
    (count : Nat) :
    writeAt (payload.take done) done ((payload.drop done).take count) =
      payload.take (done + count) := by
  have hend := writeAt_end (payload.take done) ((payload.drop done).take count)
  rw [List.length_take, Nat.min_eq_left hdone] at hend
  rw [hend, List.take_add]

/-- The content of a file; a file that is not there has none. -/
def contentOf (files : Directory) (name : String) : Bytes := (files.lookup name).getD []

/-- `format!("{:016x}", seq)`. -/
def hex16 (seq : Nat) : String :=
  let digits := Nat.toDigits 16 seq
  String.ofList (List.replicate (16 - digits.length) '0' ++ digits)

/-- `format!("{}_{:016x}.ges", second, seq)`. -/
def filenameOf (second : String) (seq : Nat) : String := second ++ "_" ++ hex16 seq ++ ".ges"

/-- `path.join(name)`. -/
def joinPath (path name : String) : String :=
  if path = "" ∨ path.endsWith "/" then path ++ name else path ++ "/" ++ name

/-- The size of the file contents. -/
def totalBytes (files : Directory) : Nat := HashMap.totalSize List.length files

/-- `calculate_dir_size`: an entry that cannot be read is skipped. -/
def calculateDirSize (files : Directory) (readable : String → Bool) : Nat :=
  total (fun entry => entry.2.length) (files.entries.filter fun entry => readable entry.1)

/-! ## Calls -/

structure DlqConfig where
  path : String
  maxBytes : Nat
  /-- `(max_bytes as f64 * circuit_breaker_threshold) as u64` -/
  threshold : Nat

/-- An error with the context it was given. -/
structure SpoolError where
  context : String
  cause : String
  deriving DecidableEq, Repr

/-- Where a call stands. -/
inductive SpoolPc where
  /-- load the size -/
  | entered
  /-- compare the size with the threshold and load the breaker -/
  | loaded (current : Nat)
  /-- store that the breaker is open -/
  | tripping
  /-- store that the breaker is closed -/
  | closing
  /-- draw the sequence number -/
  | admitted
  /-- read the clock and create the file -/
  | numbered (seq : Nat)
  /-- so many bytes are written to the file -/
  | writing (name : String) (done : Nat)
  /-- add to the size -/
  | written
  /-- add to the number of events -/
  | counted
  | returned (answer : Except SpoolError Unit)

/-- A call made so far. -/
structure SpoolCall where
  payload : Bytes
  pc : SpoolPc

/-- An event whose file was written to the end. -/
structure SpooledEvent where
  name : String
  payload : Bytes

/-- The directory and a queue over it.  The events spooled by any process are kept for
the statements only. -/
structure DlqState where
  files : Directory
  currentBytes : Nat
  totalSpooled : Nat
  circuitOpen : Bool
  sequence : Nat
  calls : List SpoolCall
  spooled : List SpooledEvent

/-- A move of one party. -/
inductive DlqLabel where
  /-- a thread calls `spool` -/
  | spool (payload : Bytes)
  /-- a call goes on, without asking the system -/
  | call (number : Nat)
  /-- read the clock and create the file, or fail with the system's message -/
  | create (number now : Nat) (result : Except String Unit)
  /-- write so many more bytes, or fail -/
  | write (number : Nat) (result : Except String Nat)
  /-- the process is stopped and a queue created, which can read some of the files -/
  | restart (readable : String → Bool)

namespace DlqState

/-- `DeadLetterQueue::new`. -/
def new (files : Directory) (readable : String → Bool) : DlqState where
  files := files
  currentBytes := calculateDirSize files readable
  totalSpooled := 0
  circuitOpen := false
  sequence := 0
  calls := []
  spooled := []

def setPc (state : DlqState) (number : Nat) (call : SpoolCall) (pc : SpoolPc) : DlqState :=
  { state with calls := state.calls.set number { call with pc := pc } }

/-- `size_bytes()`. -/
def sizeBytes (state : DlqState) : Nat := state.currentBytes

end DlqState

section

variable (config : DlqConfig) (utcFormat : Nat → String)

/-- The error of a failed `fs::write`. -/
def writeError (name message : String) : SpoolError where
  context := "failed to write DLQ event: " ++ joinPath config.path name
  cause := message

/-- A step of a call that does not ask the system. -/
def callStep (state : DlqState) (number : Nat) (call : SpoolCall) : Option DlqState :=
  match call.pc with
  | .entered => some (state.setPc number call (.loaded state.currentBytes))
  | .loaded current =>
      if config.threshold ≤ current then
        if state.circuitOpen then some (state.setPc number call (.returned (.ok ())))
        else some (state.setPc number call .tripping)
      else if state.circuitOpen ∧ current < config.threshold / 2 then
        some (state.setPc number call .closing)
      else some (state.setPc number call .admitted)
  | .tripping => some { state.setPc number call (.returned (.ok ())) with circuitOpen := true }
  | .closing => some { state.setPc number call .admitted with circuitOpen := false }
  | .admitted =>
      some { state.setPc number call (.numbered state.sequence) with
        sequence := (state.sequence + 1) % 2 ^ 64 }
  | .writing name done =>
      if done = call.payload.length then
        some { state.setPc number call .written with
          spooled := ⟨name, call.payload⟩ :: state.spooled }
      else none
  | .written =>
      some { state.setPc number call .counted with
        currentBytes := state.currentBytes + call.payload.length }
  | .counted =>
      some { state.setPc number call (.returned (.ok ())) with
        totalSpooled := state.totalSpooled + 1 }
  | .numbered _ | .returned _ => none

/-- The file is opened, which empties it. -/
def createStep (state : DlqState) (number : Nat) (call : SpoolCall) (now : Nat)
    (result : Except String Unit) : Option DlqState :=
  match call.pc with
  | .numbered seq =>
      let name := filenameOf (utcFormat now) seq
      match result with
      | .ok () =>
          some { state.setPc number call (.writing name 0) with
            files := state.files.insert name [] }
      | .error message =>
          some (state.setPc number call (.returned (.error (writeError config name message))))
  | _ => none

/-- One `write` of `write_all`. -/
def writeStep (state : DlqState) (number : Nat) (call : SpoolCall)
    (result : Except String Nat) : Option DlqState :=
  match call.pc with
  | .writing name done =>
      let rest := call.payload.drop done
      if rest = [] then none
      else
        match result with
        | .ok count =>
            if 0 < count ∧ count ≤ rest.length then
              some { state.setPc number call (.writing name (done + count)) with
                files := state.files.insert name
                  (writeAt (contentOf state.files name) done (rest.take count)) }
            else none
        | .error message =>
            some (state.setPc number call (.returned (.error (writeError config name message))))
  | _ => none

/-- One move of the system. -/
def dlqStep (state : DlqState) : DlqLabel → Option DlqState
  | .spool payload => some { state with calls := state.calls ++ [⟨payload, .entered⟩] }
  | .call number => state.calls[number]?.bind fun call => callStep config state number call
  | .create number now result =>
      state.calls[number]?.bind fun call => createStep config utcFormat state number call now result
  | .write number result =>
      state.calls[number]?.bind fun call => writeStep config state number call result
  | .restart readable => some { DlqState.new state.files readable with spooled := state.spooled }

end

/-! ## What a step can do -/

section

variable {config : DlqConfig} {utcFormat : Nat → String}

/-- Moves of a call that change neither a file nor the size: where the call stands before
and after, and the rest of the state. -/
inductive QuietMove (config : DlqConfig) (state : DlqState) :
    SpoolPc → SpoolPc → DlqState → Prop
  | drop {current : Nat} (htripped : config.threshold ≤ current)
      (hopen : state.circuitOpen = true) :
      QuietMove config state (.loaded current) (.returned (.ok ())) state
  | trip {current : Nat} (htripped : config.threshold ≤ current)
      (hclosed : state.circuitOpen = false) :
      QuietMove config state (.loaded current) .tripping state
  | tripped :
      QuietMove config state .tripping (.returned (.ok ())) { state with circuitOpen := true }
  | close {current : Nat} (hpassed : current < config.threshold) (hopen : state.circuitOpen = true)
      (hlow : current < config.threshold / 2) :
      QuietMove config state (.loaded current) .closing state
  | closed : QuietMove config state .closing .admitted { state with circuitOpen := false }
  | pass {current : Nat} (hpassed : current < config.threshold)
      (hkept : ¬(state.circuitOpen = true ∧ current < config.threshold / 2)) :
      QuietMove config state (.loaded current) .admitted state
  | draw :
      QuietMove config state .admitted (.numbered state.sequence)
        { state with sequence := (state.sequence + 1) % 2 ^ 64 }
  | count :
      QuietMove config state .counted (.returned (.ok ()))
        { state with totalSpooled := state.totalSpooled + 1 }

/-- The moves of the system, each with what it requires. -/
inductive DlqMove (config : DlqConfig) (utcFormat : Nat → String) (state : DlqState) :
    DlqLabel → DlqState → Prop
  | spool {payload : Bytes} :
      DlqMove config utcFormat state (.spool payload)
        { state with calls := state.calls ++ [⟨payload, .entered⟩] }
  | load {number : Nat} {call : SpoolCall} (hcall : state.calls[number]? = some call)
      (hpc : call.pc = .entered) :
      DlqMove config utcFormat state (.call number)
        (state.setPc number call (.loaded state.currentBytes))
  | quiet {number : Nat} {call : SpoolCall} {pc : SpoolPc} {after : DlqState}
      (hcall : state.calls[number]? = some call) (hmove : QuietMove config state call.pc pc after) :
      DlqMove config utcFormat state (.call number) (after.setPc number call pc)
  | create {number now seq : Nat} {call : SpoolCall} (hcall : state.calls[number]? = some call)
      (hpc : call.pc = .numbered seq) :
      DlqMove config utcFormat state (.create number now (.ok ()))
        { state.setPc number call (.writing (filenameOf (utcFormat now) seq) 0) with
          files := state.files.insert (filenameOf (utcFormat now) seq) [] }
  | createFailed {number now seq : Nat} {message : String} {call : SpoolCall}
      (hcall : state.calls[number]? = some call) (hpc : call.pc = .numbered seq) :
      DlqMove config utcFormat state (.create number now (.error message))
        (state.setPc number call
          (.returned (.error (writeError config (filenameOf (utcFormat now) seq) message))))
  | write {number done count : Nat} {name : String} {call : SpoolCall}
      (hcall : state.calls[number]? = some call) (hpc : call.pc = .writing name done)
      (hpos : 0 < count) (hcount : count ≤ (call.payload.drop done).length) :
      DlqMove config utcFormat state (.write number (.ok count))
        { state.setPc number call (.writing name (done + count)) with
          files := state.files.insert name
            (writeAt (contentOf state.files name) done ((call.payload.drop done).take count)) }
  | writeFailed {number done : Nat} {name message : String} {call : SpoolCall}
      (hcall : state.calls[number]? = some call) (hpc : call.pc = .writing name done)
      (hrest : call.payload.drop done ≠ []) :
      DlqMove config utcFormat state (.write number (.error message))
        (state.setPc number call (.returned (.error (writeError config name message))))
  | finish {number done : Nat} {name : String} {call : SpoolCall}
      (hcall : state.calls[number]? = some call) (hpc : call.pc = .writing name done)
      (hdone : done = call.payload.length) :
      DlqMove config utcFormat state (.call number)
        { state.setPc number call .written with
          spooled := ⟨name, call.payload⟩ :: state.spooled }
  | add {number : Nat} {call : SpoolCall} (hcall : state.calls[number]? = some call)
      (hpc : call.pc = .written) :
      DlqMove config utcFormat state (.call number)
        { state.setPc number call .counted with
          currentBytes := state.currentBytes + call.payload.length }
  | restart {readable : String → Bool} :
      DlqMove config utcFormat state (.restart readable)
        { DlqState.new state.files readable with spooled := state.spooled }

theorem callStep_cases {state next : DlqState} {number : Nat} {call : SpoolCall}
    (hcall : state.calls[number]? = some call)
    (hstep : callStep config state number call = some next) :
    DlqMove config utcFormat state (.call number) next := by
  have hquiet : ∀ {pc pc' : SpoolPc} {after : DlqState}, call.pc = pc →
      QuietMove config state pc pc' after →
      DlqMove config utcFormat state (.call number) (after.setPc number call pc') :=
    fun hpc hmove => .quiet hcall (hpc ▸ hmove)
  unfold callStep at hstep
  split at hstep
  case h_1 hpc =>
    cases hstep
    exact .load hcall hpc
  case h_2 hpc =>
    split at hstep
    · rename_i htripped
      split at hstep
      · cases hstep
        exact hquiet hpc (.drop htripped ‹_›)
      · cases hstep
        exact hquiet hpc (.trip htripped (Bool.eq_false_iff.mpr ‹_›))
    · rename_i hpassed
      split at hstep
      · rename_i hclose
        cases hstep
        exact hquiet hpc (.close (Nat.lt_of_not_le hpassed) hclose.1 hclose.2)
      · cases hstep
        exact hquiet hpc (.pass (Nat.lt_of_not_le hpassed) ‹_›)
  case h_3 hpc =>
    cases hstep
    exact hquiet hpc .tripped
  case h_4 hpc =>
    cases hstep
    exact hquiet hpc .closed
  case h_5 hpc =>
    cases hstep
    exact hquiet hpc .draw
  case h_6 hpc =>
    split at hstep
    · cases hstep
      exact .finish hcall hpc ‹_›
    · cases hstep
  case h_7 hpc =>
    cases hstep
    exact .add hcall hpc
  case h_8 hpc =>
    cases hstep
    exact hquiet hpc .count
  all_goals cases hstep

theorem dlqStep_cases {state next : DlqState} {label : DlqLabel}
    (hstep : dlqStep config utcFormat state label = some next) :
    DlqMove config utcFormat state label next := by
  unfold dlqStep at hstep
  split at hstep
  case h_1 =>
    cases hstep
    exact .spool
  case h_2 =>
    obtain ⟨call, hcall, hmove⟩ := Option.bind_eq_some_iff.mp hstep
    exact callStep_cases hcall hmove
  case h_3 =>
    obtain ⟨call, hcall, hmove⟩ := Option.bind_eq_some_iff.mp hstep
    unfold createStep at hmove
    split at hmove
    · rename_i hpc
      dsimp only at hmove
      split at hmove
      · cases hmove
        exact .create hcall hpc
      · cases hmove
        exact .createFailed hcall hpc
    · cases hmove
  case h_4 =>
    obtain ⟨call, hcall, hmove⟩ := Option.bind_eq_some_iff.mp hstep
    unfold writeStep at hmove
    split at hmove
    · rename_i hpc
      dsimp only at hmove
      split at hmove
      · cases hmove
      · rename_i hrest
        split at hmove
        · split at hmove
          · rename_i hcount
            cases hmove
            exact .write hcall hpc hcount.1 hcount.2
          · cases hmove
        · cases hmove
          exact .writeFailed hcall hpc hrest
    · cases hmove
  case h_5 =>
    cases hstep
    exact .restart

/-- A quiet move changes no file, no size and no other call. -/
theorem QuietMove.frame {state after : DlqState} {before pc : SpoolPc}
    (hmove : QuietMove config state before pc after) :
    after.files = state.files ∧ after.currentBytes = state.currentBytes ∧
      after.calls = state.calls ∧ after.spooled = state.spooled := by
  cases hmove <;> exact ⟨rfl, rfl, rfl, rfl⟩

end

end GeSensor.Output
