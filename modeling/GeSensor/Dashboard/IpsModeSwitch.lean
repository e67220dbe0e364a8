/-
  Dashboard/IpsModeSwitch.lean --- `AppState::set_ips_mode` of
  `src/utils/dashboard.rs`.

  The IPS mode is kept twice: in the engine, which acts on it, and in the
  configuration, as text.  `set_ips_mode` writes the first under the engine's
  lock, releases it, writes the second under the configuration's lock, and
  answers with what it then reads.  Each critical section is one atomic step, and
  a run is any interleaving of any number of calls.

  Two calls can write the engine in one order and the configuration in the other.
  The two copies then differ until the next call.
-/
import GeSensor.Dashboard.IpsView
import GeSensor.Foundation.Reachable
import GeSensor.Foundation.Text

set_option autoImplicit false

namespace GeSensor.Dashboard

open GeSensor.Foundation
open GeSensor.Ips

/-- A mode that was asked for, with its normalized text. -/
structure ModeRequest where
  mode : IpsMode
  normalized : String
  isText : normalized = modeText mode
  deriving DecidableEq

/-- Read the mode a client asks for. -/
def parseMode (mode : String) : Except String ModeRequest :=
  let normalized := String.ofList (toAsciiLowercase (trim mode.toList))
  if htap : normalized = modeText .tap then .ok ⟨.tap, normalized, htap⟩
  else if hinline : normalized = modeText .inline then .ok ⟨.inline, normalized, hinline⟩
  else .error "mode must be 'tap' or 'inline'"

/-- Where a `set_ips_mode` call stands. -/
inductive SetModePc where
  /-- lock the engine and set its mode -/
  | setEngine (request : ModeRequest)
  /-- lock the configuration and write mode and enabled -/
  | writeConfig (request : ModeRequest)
  /-- lock the engine and read the configuration for the answer -/
  | buildInfo
  | returned (answer : Except String IpsInfo)

/-- The engine, the configuration, and every call made so far. -/
structure ModeState where
  engine : IpsEngine
  config : IpsConfig
  calls : List SetModePc

/-- A move of one party. -/
inductive ModeLabel where
  /-- a handler enters `set_ips_mode` with this text -/
  | setIpsMode (mode : String)
  /-- the call with this number performs its next critical section -/
  | call (number : Nat)
  deriving DecidableEq, Repr

/-- State when the server starts. -/
def ModeState.initial (engine : IpsEngine) (config : IpsConfig) : ModeState where
  engine := engine
  config := config
  calls := []

/-- One critical section of a `set_ips_mode` call. -/
def setModeStep (state : ModeState) (number : Nat) : Option ModeState :=
  match state.calls[number]? with
  | some (.setEngine request) =>
      some { state with
        engine := state.engine.setMode request.mode
        calls := state.calls.set number (.writeConfig request) }
  | some (.writeConfig request) =>
      some { state with
        config := { state.config with mode := request.normalized, enabled := true }
        calls := state.calls.set number .buildInfo }
  | some .buildInfo =>
      let info := buildIpsInfo state.engine state.config
      some { state with calls := state.calls.set number (.returned (.ok info)) }
  | some (.returned _) => none
  | none => none

/-- One move of the system; a text that is no mode is answered at once. -/
def modeStep (state : ModeState) : ModeLabel → Option ModeState
  | .setIpsMode mode =>
      match parseMode mode with
      | .ok request => some { state with calls := state.calls ++ [.setEngine request] }
      | .error message => some { state with calls := state.calls ++ [.returned (.error message)] }
  | .call number => setModeStep state number

/-- No call is in progress. -/
def ModeState.Quiescent (state : ModeState) : Prop :=
  ∀ pc ∈ state.calls, ∃ answer, pc = .returned answer

/-- Some call has completed. -/
def ModeState.Completed (state : ModeState) : Prop :=
  ∃ info, .returned (.ok info) ∈ state.calls

/-- The engine and the configuration hold the same mode. -/
def ModeState.Agree (state : ModeState) : Prop :=
  state.engine.mode = .inline ↔ state.config.mode = modeText .inline

/-- The call has yet to write the configuration. -/
def SetModePc.awaitsConfig : SetModePc → Bool
  | .setEngine _ | .writeConfig _ => true
  | _ => false

/-- The configuration is not written over a later mode: when a call writes it, the
engine is still in the mode that this call has set, or another call will write
the configuration again. -/
def WritesCurrent (state : ModeState) : ModeLabel → Prop
  | .setIpsMode _ => True
  | .call number =>
      match state.calls[number]? with
      | some (.writeConfig request) =>
          state.engine.mode = request.mode ∨
            (state.calls.eraseIdx number).any SetModePc.awaitsConfig = true
      | _ => True

instance (state : ModeState) (label : ModeLabel) : Decidable (WritesCurrent state label) := by
  unfold WritesCurrent
  split
  · infer_instance
  · split <;> infer_instance

/-! ## Invariant -/

/-- Some call has yet to write the configuration. -/
def ModeState.Awaited (state : ModeState) : Prop :=
  ∃ pc ∈ state.calls, pc.awaitsConfig = true

/-- Engine and configuration agree, or a call that will write the configuration
is under way, or no call has got beyond its text. -/
def ModeState.Settled (state : ModeState) : Prop :=
  state.Awaited ∨ state.Agree ∨ ∀ pc ∈ state.calls, ∃ message, pc = .returned (.error message)

theorem setModeStep_settled {state next : ModeState} {number : Nat} (hinv : state.Settled)
    (hcurrent : WritesCurrent state (.call number))
    (hstep : setModeStep state number = some next) : next.Settled := by
  unfold setModeStep at hstep
  dsimp only [WritesCurrent] at hcurrent
  cases hcall : state.calls[number]? with
  | none =>
      rw [hcall] at hstep
      cases hstep
  | some pc =>
      rw [hcall] at hstep
      rw [hcall] at hcurrent
      obtain ⟨hnumber, _⟩ := List.getElem?_eq_some_iff.mp hcall
      cases pc with
      | setEngine request =>
          cases hstep
          exact Or.inl ⟨_, List.mem_set hnumber _, rfl⟩
      | writeConfig request =>
          cases hstep
          rcases hcurrent with hmode | hother
          · -- The last writer of both copies.
            refine Or.inr (Or.inl ?_)
            change state.engine.mode = .inline ↔ request.normalized = modeText .inline
            rw [hmode, request.isText]
            exact ⟨fun h => congrArg modeText h, modeText_inj⟩
          · exact Or.inl ((exists_mem_set_iff hcall).mpr (Or.inr (any_eraseIdx_iff.mp hother)))
      | buildInfo =>
          cases hstep
          rcases hinv with hawaited | hagree | hnone
          · refine Or.inl ((exists_mem_set_congr hcall ?_).mpr hawaited)
            exact Iff.rfl
          · exact Or.inr (Or.inl hagree)
          · obtain ⟨message, h⟩ := hnone _ (List.mem_of_getElem? hcall)
            cases h
      | returned answer => cases hstep

/-- The step lemma. -/
theorem modeStep_settled {state next : ModeState} {label : ModeLabel} (hinv : state.Settled)
    (hcurrent : WritesCurrent state label) (hstep : modeStep state label = some next) :
    next.Settled := by
  cases label with
  | call number => exact setModeStep_settled hinv hcurrent hstep
  | setIpsMode mode =>
      unfold modeStep at hstep
      dsimp only at hstep
      split at hstep
      · cases hstep
        exact Or.inl ⟨_, List.mem_append_right _ List.mem_cons_self, rfl⟩
      · cases hstep
        rcases hinv with ⟨pc, hmem, hawaits⟩ | hagree | hnone
        · exact Or.inl ⟨pc, List.mem_append_left _ hmem, hawaits⟩
        · exact Or.inr (Or.inl hagree)
        · refine Or.inr (Or.inr fun pc hmem => ?_)
          rcases List.mem_append.mp hmem with hmem | hmem
          · exact hnone pc hmem
          · exact ⟨_, List.mem_singleton.mp hmem⟩

/-- In every run in which no call writes the configuration over a later mode, the
two copies agree whenever no call is in progress and one has completed. -/
theorem modes_agree_of_writesCurrent {engine : IpsEngine} {config : IpsConfig}
    {state : ModeState}
    (h : ReachableBy modeStep WritesCurrent (.initial engine config) state)
    (hquiet : state.Quiescent) (hdone : state.Completed) : state.Agree := by
  have hsettled : state.Settled := by
    refine ReachableBy.invariant ModeState.Settled ?_ modeStep_settled h
    exact Or.inr (Or.inr fun pc hmem => by cases hmem)
  rcases hsettled with ⟨pc, hmem, hawaits⟩ | hagree | hnone
  · obtain ⟨answer, rfl⟩ := hquiet pc hmem
    cases hawaits
  · exact hagree
  · obtain ⟨info, hmem⟩ := hdone
    obtain ⟨message, hmessage⟩ := hnone _ hmem
    cases hmessage

/-- The engine of a sensor in tap mode. -/
def tapEngine : IpsEngine := .new .tap .pass

/-- The configuration of a sensor in tap mode. -/
def tapConfig : IpsConfig where
  enabled := false
  mode := "tap"
  defaultAction := "pass"

/-- A call that runs alone. -/
theorem modes_agree_after_switch :
    (ModeState.mk (tapEngine.setMode .inline) ⟨true, "inline", "pass"⟩
      [.returned (.ok ⟨"inline", true, "pass", 0, 0, 0, 0, 0⟩)]).Agree :=
  have hreached : ReachableBy modeStep WritesCurrent (.initial tapEngine tapConfig)
      ⟨tapEngine.setMode .inline, ⟨true, "inline", "pass"⟩,
        [.returned (.ok ⟨"inline", true, "pass", 0, 0, 0, 0, 0⟩)]⟩ :=
    reachableBy_of_runLabels [.setIpsMode " Inline ", .call 0, .call 0, .call 0] .start rfl
  modes_agree_of_writesCurrent hreached
    (fun _ hmem => ⟨_, List.mem_singleton.mp hmem⟩) ⟨_, List.mem_cons_self⟩

/-- The condition leaves out nothing else: after a write over a later mode the
copies differ, and no call that is under way will write the configuration. -/
theorem modes_differ_of_stale_write {state next : ModeState} {number : Nat}
    (hstale : ¬ WritesCurrent state (.call number))
    (hstep : setModeStep state number = some next) : ¬ next.Agree ∧ ¬ next.Awaited := by
  unfold setModeStep at hstep
  dsimp only [WritesCurrent] at hstale
  cases hcall : state.calls[number]? with
  | none =>
      rw [hcall] at hstep
      cases hstep
  | some pc =>
      rw [hcall] at hstep
      rw [hcall] at hstale
      cases pc with
      | setEngine request => exact absurd trivial hstale
      | buildInfo => exact absurd trivial hstale
      | returned answer => exact absurd trivial hstale
      | writeConfig request =>
          cases hstep
          obtain ⟨hmode, hothers⟩ := not_or.mp hstale
          refine ⟨fun hagree => hmode ?_, ?_⟩
          · change state.engine.mode = .inline ↔ request.normalized = modeText .inline at hagree
            rw [request.isText] at hagree
            cases hengine : state.engine.mode with
            | inline => exact (modeText_inj (hagree.mp hengine)).symm
            | tap =>
                cases hrequest : request.mode with
                | tap => rfl
                | inline =>
                    rw [hrequest] at hagree
                    rw [hagree.mpr rfl] at hengine
                    cases hengine
          · intro hawaited
            rcases (exists_mem_set_iff hcall).mp hawaited with hself | hother
            · cases hself
            · exact hothers (any_eraseIdx_iff.mpr hother)

/-- Two calls write the engine in one order and the configuration in the other: the
engine blocks, and the configuration says that it only monitors. -/
theorem modes_differ :
    ∃ state, Reachable modeStep (.initial tapEngine tapConfig) state ∧
      state.Quiescent ∧ state.Completed ∧ ¬ state.Agree := by
  refine ⟨⟨tapEngine.setMode .inline, ⟨true, "tap", "pass"⟩,
    [.returned (.ok ⟨"inline", true, "pass", 0, 0, 0, 0, 0⟩),
      .returned (.ok ⟨"inline", true, "pass", 0, 0, 0, 0, 0⟩)]⟩, ?_, ?_, ?_, ?_⟩
  · exact reachableBy_of_runLabels [.setIpsMode "tap", .setIpsMode "inline",
      .call 0, .call 1, .call 1, .call 0, .call 0, .call 1] .start rfl
  · simp [ModeState.Quiescent]
  · exact ⟨_, List.mem_cons_self⟩
  · intro hagree
    have htap : modeText .tap = modeText .inline := hagree.mp rfl
    cases modeText_inj htap

end GeSensor.Dashboard
