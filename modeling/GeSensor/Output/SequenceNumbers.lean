/-
  Output/SequenceNumbers.lean --- the files of one process.

  Every call draws a number of its own, and the number stands in the name of the file
  at a fixed width, so the files of one process are told apart by it alone: whatever the
  clock answers, also when it is set back, and however the calls interleave.
-/
import GeSensor.Foundation.Text
import GeSensor.Output.CircuitBreaker

set_option autoImplicit false

namespace GeSensor.Output

open GeSensor.Foundation

/-! ## Names -/

theorem hex16_eq (seq : Nat) : (hex16 seq).toList = zeroPadded 16 (Nat.toDigits 16 seq) :=
  String.toList_ofList

theorem length_hex16 {seq : Nat} (h : seq < 2 ^ 64) : (hex16 seq).toList.length = 16 := by
  rw [hex16_eq]
  exact length_zeroPadded ((Nat.length_toDigits_le_iff (by decide) (by decide)).mpr h)

theorem hex16_injective : Function.Injective hex16 := by
  intro left right h
  have hread := congrArg (readHexDigits 0 ·.toList) h
  simpa only [hex16_eq, readHexDigits_zeroPadded, readHexDigits_toDigits,
    Option.some.injEq] using hread

/-- The number is told by the end of the name, whatever the second is written as. -/
theorem seq_of_filenameOf_eq {second other : String} {seq number : Nat} (hseq : seq < 2 ^ 64)
    (hnumber : number < 2 ^ 64) (h : filenameOf second seq = filenameOf other number) :
    seq = number := by
  have hchars := congrArg String.toList h
  simp only [filenameOf, String.toList_append] at hchars
  have hdigits := List.append_cancel_right hchars
  have hlength : (hex16 seq).toList.length = (hex16 number).toList.length := by
    rw [length_hex16 hseq, length_hex16 hnumber]
  exact hex16_injective (String.toList_inj.mp (List.append_inj_right' hdigits hlength))

/-! ## Numbers in use -/

/-- A number is drawn by one call only, and no file is named after it before that call creates
one. -/
structure DlqState.Numbered (state : DlqState) : Prop where
  bound : state.sequence < 2 ^ 64
  drawn : ∀ {number seq : Nat} {call : SpoolCall}, state.calls[number]? = some call →
    call.pc = .numbered seq → seq < state.sequence
  unshared : ∀ {number other seq : Nat} {call another : SpoolCall},
    state.calls[number]? = some call → state.calls[other]? = some another →
      call.pc = .numbered seq → another.pc = .numbered seq → number = other
  fresh : ∀ {second : String} {seq : Nat}, seq < 2 ^ 64 → filenameOf second seq ∈ state.files →
    seq < state.sequence ∧ ∀ call ∈ state.calls, call.pc ≠ .numbered seq

/-- The steps of one process in which the numbers do not wrap and no write fails behind its
first bytes. -/
def oneProcess (state : DlqState) : DlqLabel → Bool
  | .write number (.error _) =>
      match state.calls[number]? with
      | some ⟨_, .writing _ done⟩ => done == 0
      | _ => true
  | label => label.goesOn && decide (state.sequence + 1 < 2 ^ 64)

namespace DlqState.Numbered

/-- A call goes on that does not draw a number, and no file gets a new name. -/
theorem advance {state next : DlqState} (h : state.Numbered) {number : Nat} {call : SpoolCall}
    {pc : SpoolPc} (hcalls : next.calls = state.calls.set number { call with pc := pc })
    (hsequence : next.sequence = state.sequence)
    (hfiles : ∀ name ∈ next.files, name ∈ state.files) (hpc : ∀ seq, pc ≠ .numbered seq) :
    next.Numbered := by
  have hbefore : ∀ {other seq : Nat} {another : SpoolCall}, next.calls[other]? = some another →
      another.pc = .numbered seq → state.calls[other]? = some another := by
    intro other seq another hanother hnumbered
    rw [hcalls] at hanother
    rcases party_of_set hanother with ⟨_, rfl⟩ | ⟨_, hanother⟩
    · exact absurd hnumbered (hpc seq)
    · exact hanother
  constructor
  case bound => rw [hsequence]; exact h.bound
  case drawn =>
    intro other seq another hanother hnumbered
    rw [hsequence]
    exact h.drawn (hbefore hanother hnumbered) hnumbered
  case unshared =>
    intro left right seq first second hfirst hsecond hleft hright
    exact h.unshared (hbefore hfirst hleft) (hbefore hsecond hright) hleft hright
  case fresh =>
    intro second seq hseq hfile
    obtain ⟨hlt, hunused⟩ := h.fresh hseq (hfiles _ hfile)
    rw [hsequence, hcalls]
    exact ⟨hlt, forall_mem_set hunused (hpc seq)⟩

theorem join {state : DlqState} (h : state.Numbered) (payload : Bytes) :
    DlqState.Numbered { state with calls := state.calls ++ [⟨payload, .entered⟩] } := by
  have hbefore : ∀ {other seq : Nat} {another : SpoolCall},
      (state.calls ++ [⟨payload, .entered⟩])[other]? = some another →
      another.pc = .numbered seq → state.calls[other]? = some another := by
    intro other seq another hanother hnumbered
    rcases party_of_join hanother with rfl | hanother
    · cases hnumbered
    · exact hanother
  constructor
  case bound => exact h.bound
  case drawn => exact fun hcall hpc => h.drawn (hbefore hcall hpc) hpc
  case unshared =>
    exact fun hfirst hsecond hleft hright =>
      h.unshared (hbefore hfirst hleft) (hbefore hsecond hright) hleft hright
  case fresh =>
    intro second seq hseq hfile
    obtain ⟨hlt, hunused⟩ := h.fresh hseq hfile
    exact ⟨hlt, forall_mem_join hunused SpoolPc.noConfusion⟩

/-- `fetch_add` of the sequence. -/
theorem draw {state : DlqState} (h : state.Numbered) (hbound : state.sequence + 1 < 2 ^ 64)
    (number : Nat) (call : SpoolCall) :
    DlqState.Numbered { state.setPc number call (.numbered state.sequence) with
      sequence := (state.sequence + 1) % 2 ^ 64 } := by
  rw [Nat.mod_eq_of_lt hbound]
  constructor
  case bound => exact hbound
  case drawn =>
    intro other seq another hanother hnumbered
    rcases party_of_set hanother with ⟨_, rfl⟩ | ⟨_, hanother⟩
    · cases hnumbered
      exact Nat.lt_succ_self _
    · exact Nat.lt_succ_of_lt (h.drawn hanother hnumbered)
  case unshared =>
    intro left right seq first second hfirst hsecond hleft hright
    rcases party_of_set hfirst with ⟨rfl, rfl⟩ | ⟨_, hfirst'⟩
    · cases hleft
      rcases party_of_set hsecond with ⟨rfl, _⟩ | ⟨_, hsecond'⟩
      · rfl
      · exact absurd (h.drawn hsecond' hright) (Nat.lt_irrefl _)
    · rcases party_of_set hsecond with ⟨rfl, rfl⟩ | ⟨_, hsecond'⟩
      · cases hright
        exact absurd (h.drawn hfirst' hleft) (Nat.lt_irrefl _)
      · exact h.unshared hfirst' hsecond' hleft hright
  case fresh =>
    intro second seq hseq hfile
    obtain ⟨hlt, hunused⟩ := h.fresh hseq hfile
    refine ⟨Nat.lt_succ_of_lt hlt, forall_mem_set hunused fun hnumbered => ?_⟩
    exact Nat.ne_of_lt hlt (SpoolPc.numbered.inj hnumbered).symm

/-- The file is created; its number stands in no other call. -/
theorem create {state : DlqState} (h : state.Numbered) {number seq : Nat} {call : SpoolCall}
    (hcall : state.calls[number]? = some call) (hpc : call.pc = .numbered seq) (second : String) :
    DlqState.Numbered { state.setPc number call (.writing (filenameOf second seq) 0) with
      files := state.files.insert (filenameOf second seq) [] } := by
  have hmoved : (state.setPc number call (.writing (filenameOf second seq) 0)).Numbered :=
    h.advance rfl rfl (fun _ hname => hname) fun _ => SpoolPc.noConfusion
  have hseq := h.drawn hcall hpc
  refine ⟨hmoved.bound, hmoved.drawn, hmoved.unshared, fun {other another} hanother hfile => ?_⟩
  rcases (AList.mem_insert _).mp hfile with hname | hfile
  · obtain rfl := seq_of_filenameOf_eq hanother (Nat.lt_trans hseq h.bound) hname
    refine ⟨hseq, fun party hparty hnumbered => ?_⟩
    obtain ⟨place, hplace⟩ := List.mem_iff_getElem?.mp hparty
    rcases party_of_set hplace with ⟨_, rfl⟩ | ⟨hne, hplace⟩
    · cases hnumbered
    · exact hne (h.unshared hplace hcall hnumbered hpc)
  · exact hmoved.fresh hanother hfile

end DlqState.Numbered

section

variable {config : DlqConfig} {utcFormat : Nat → String}

theorem dlqStep_numbered {state next : DlqState} {label : DlqLabel} (h : state.Numbered)
    (hdurable : state.Durable) (hprocess : oneProcess state label = true)
    (hstep : dlqStep config utcFormat state label = some next) : next.Numbered := by
  cases dlqStep_cases hstep with
  | spool => exact h.join _
  | load => exact h.advance rfl rfl (fun _ hname => hname) fun _ => SpoolPc.noConfusion
  | @quiet number call pc after hcall hmove =>
      generalize call.pc = before at hmove
      cases hmove with
      | draw =>
          have hbound : decide (state.sequence + 1 < 2 ^ 64) = true := hprocess
          exact h.draw (of_decide_eq_true hbound) number call
      | drop | trip | tripped | close | closed | pass | count =>
          exact h.advance rfl rfl (fun _ hname => hname) fun _ => SpoolPc.noConfusion
  | create hcall hpc => exact h.create hcall hpc _
  | @write number done count name call hcall hpc =>
      refine h.advance rfl rfl (fun other hother => ?_) fun _ => SpoolPc.noConfusion
      rcases (AList.mem_insert _).mp hother with rfl | hother
      · exact AList.lookup_isSome.mp (Option.isSome_of_mem (hdurable.writing hcall hpc).1)
      · exact hother
  | createFailed | writeFailed | finish | add =>
      exact h.advance rfl rfl (fun _ hname => hname) fun _ => SpoolPc.noConfusion
  | restart => cases hprocess

/-- The file a call is to create is not there, so its name is free. -/
theorem DlqState.Numbered.nameFree {state : DlqState} (h : state.Numbered)
    (hdurable : state.Durable) {number seq : Nat} {call : SpoolCall}
    (hcall : state.calls[number]? = some call) (hpc : call.pc = .numbered seq) (second : String) :
    state.nameFree (filenameOf second seq) = true := by
  have hseq := Nat.lt_trans (h.drawn hcall hpc) h.bound
  have hmissing : filenameOf second seq ∉ state.files := fun hfile =>
    (h.fresh hseq hfile).2 call (List.mem_of_getElem? hcall) hpc
  have hpresent : ∀ {content : Bytes},
      state.files.lookup (filenameOf second seq) ≠ some content := fun hlookup =>
    hmissing (AList.lookup_isSome.mp (Option.isSome_of_mem hlookup))
  refine DlqState.nameFree_iff.mpr ⟨?_, fun event hevent hname => ?_, fun other hother hfile => ?_⟩
  · rw [contentOf, AList.lookup_eq_none.mpr hmissing, Option.getD_none]
  · exact hpresent (hname ▸ hdurable.intact event hevent)
  · obtain ⟨place, hplace⟩ := List.mem_iff_getElem?.mp hother
    unfold SpoolCall.file? at hfile
    split at hfile
    · rename_i name done hwriting
      cases hfile
      exact hpresent (hdurable.writing hplace hwriting).1
    · cases hfile

theorem keepsFiles_of_oneProcess {state : DlqState} (h : state.Numbered) (hdurable : state.Durable)
    {label : DlqLabel} (hprocess : oneProcess state label = true) :
    keepsFiles utcFormat state label = true := by
  cases label with
  | spool | call => rfl
  | create number now result =>
      cases result with
      | error => rfl
      | ok =>
          simp only [keepsFiles]
          split
          · rename_i hcall
            exact h.nameFree hdurable hcall rfl _
          · rfl
  | write number result =>
      cases result with
      | ok => rfl
      | error => exact hprocess
  | restart => cases hprocess

/-- In one process over a directory that has no file of the queue's names, the events never
get in each other's way, however the calls interleave and whatever the clock answers: each
has a file of its own with its bytes, and between calls the size is that of the directory. -/
theorem oneProcess_durable (config : DlqConfig) (utcFormat : Nat → String) (files : Directory)
    (readable : String → Bool) (hreads : readsAll files readable = true)
    (hforeign : ∀ second seq, filenameOf second seq ∉ files) {state : DlqState}
    (hrun : ReachableBy (dlqStep config utcFormat)
      (fun state label => oneProcess state label = true) (.new files readable) state) :
    state.SpooledIntact ∧ (state.idle = true → state.sizeBytes = totalBytes state.files) := by
  have hempty : (DlqState.new files readable).SpooledIntact :=
    ⟨fun _ hevent => absurd hevent List.not_mem_nil, List.nodup_nil⟩
  have hstart : (DlqState.new files readable).Numbered := by
    constructor
    case bound => exact Nat.two_pow_pos 64
    case drawn => exact fun hcall => absurd hcall (Option.some_ne_none _).symm
    case unshared => exact fun hcall => absurd hcall (Option.some_ne_none _).symm
    case fresh => exact fun _ hfile => absurd hfile (hforeign _ _)
  have hdurable : state.Durable ∧ state.Numbered := by
    refine hrun.invariant (fun state => state.Durable ∧ state.Numbered) ⟨.new hempty hreads, hstart⟩
      fun h hprocess hstep => ⟨?_, dlqStep_numbered h.2 h.1 hprocess hstep⟩
    exact dlqStep_durable h.1 (keepsFiles_of_oneProcess h.2 h.1 hprocess) hstep
  refine ⟨hdurable.1.toSpooledIntact, fun hidle => ?_⟩
  have hcounted : total SpoolCall.uncounted state.calls = 0 :=
    total_eq_zero _ fun call hcall =>
      SpoolCall.uncounted_of_hasReturned (List.all_eq_true.mp hidle call hcall)
  have hsize := hdurable.1.size
  rwa [hcounted, Nat.add_zero] at hsize

end

/-! ## Runs -/

/-- The clock is set back between two calls that overlap. -/
def setBackRun : List DlqLabel :=
  [.spool [0x7B, 0x7D], .spool [0x31], .call 0, .call 1, .call 0, .call 1, .call 1, .call 0,
    .create 0 1774310401 (.ok ()), .create 1 1774310400 (.ok ()), .write 1 (.ok 1),
    .write 0 (.ok 2), .call 0, .call 1, .call 0, .call 1, .call 0, .call 1]

theorem oneProcess_durable_setBack : ∃ state : DlqState,
    state.spooled.map SpooledEvent.name =
        ["20260324000000_0000000000000000.ges", "20260324000001_0000000000000001.ges"] ∧
      state.SpooledIntact ∧ state.sizeBytes = totalBytes state.files :=
  have hreached := reachableBy_of_runLabels setBackRun .start rfl
  have hdurable := oneProcess_durable .default midnight ∅ (fun _ => true) rfl
    (fun _ _ => AList.notMem_empty _) hreached
  ⟨_, rfl, hdurable.1, hdurable.2 rfl⟩

end GeSensor.Output
