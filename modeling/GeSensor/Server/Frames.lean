/-
  Server/Frames.lean --- what a request leaves as it is.

  Each endpoint writes its own part of the sensor.  Whatever is read of the sensor without
  looking at this part is the same before and after a request.
-/
import GeSensor.Server.Responses

set_option autoImplicit false

namespace GeSensor.Server

open GeSensor.Dashboard
open GeSensor.Foundation
open GeSensor.Ips
open GeSensor.Pipeline

/-- A reading of the sensor that does not look at what an endpoint writes. -/
def Endpoint.Spares {α : Type} (endpoint : Endpoint) (reading : AppState → α) : Prop :=
  match endpoint with
  | .setInterface => ∀ (state : AppState) (iface : String),
      reading { state with captureInterface := iface, restartCapture := true } = reading state
  | .toggleDissector => ∀ (state : AppState) (dissectors : DissectorConfig),
      reading { state with dissectors := dissectors } = reading state
  | .getCaptureToggle | .postCaptureToggle => ∀ (state : AppState) (enabled : Bool),
      reading { state with captureEnabled := enabled } = reading state
  | .captureManual => ∀ (state : AppState) (pcapSeq : Nat) (captures : List PcapCaptureRecord),
      reading { state with pcapSeq := pcapSeq, pcapCaptures := captures } = reading state
  | .addIpsRule | .deleteIpsRule => ∀ (state : AppState) (engine : IpsEngine),
      reading { state with ipsEngine := engine } = reading state
  | .ipsMode => ∀ (state : AppState) (engine : IpsEngine) (config : IpsConfig),
      reading { state with ipsEngine := engine, ipsConfig := config } = reading state
  | .postConfig => ∀ (state : AppState) (file : Option Text),
      reading { state with configFile := file } = reading state
  | _ => True

section

variable {α : Type} {reading : AppState → α} (outside : Outside) (state : AppState)

theorem setInterfaceAnswer_frame (h : Endpoint.setInterface.Spares reading)
    (iface : Option Text) : reading (setInterfaceAnswer outside state iface).2 = reading state := by
  cases iface with
  | none => rfl
  | some iface =>
      unfold setInterfaceAnswer AppState.setInterface
      dsimp only
      split
      · exact h state _
      · rfl

theorem toggleDissectorAnswer_frame (h : Endpoint.toggleDissector.Spares reading)
    (name : Option (Text × Bool)) :
    reading (toggleDissectorAnswer state name).2 = reading state := by
  cases name with
  | none => rfl
  | some name =>
      unfold toggleDissectorAnswer AppState.toggleDissector
      dsimp only
      split
      · exact h state _
      · rfl

theorem postCaptureToggleAnswer_frame (h : Endpoint.postCaptureToggle.Spares reading)
    (body : Option Text) :
    reading (postCaptureToggleAnswer outside state body).2 = reading state := by
  unfold postCaptureToggleAnswer
  split
  · rfl
  · split
    · rfl
    · split
      · rfl
      · exact h state _

theorem captureManualAnswer_frame (h : Endpoint.captureManual.Spares reading) :
    reading (captureManualAnswer outside state).2 = reading state := by
  unfold captureManualAnswer AppState.createPcapCapture
  dsimp only
  split
  · exact h state _ state.pcapCaptures
  · exact h state _ _

theorem addIpsRuleAnswer_frame (h : Endpoint.addIpsRule.Spares reading) (body : Option Text) :
    reading (addIpsRuleAnswer outside state body).2 = reading state := by
  unfold addIpsRuleAnswer
  split
  · rfl
  · split
    · rfl
    · unfold AppState.addIpsRule
      dsimp only
      split
      · rfl
      · split
        · rfl
        · split
          · exact h state _
          · exact h state _

theorem deleteIpsRuleAnswer_frame (h : Endpoint.deleteIpsRule.Spares reading)
    (path : Option (Option Text)) :
    reading (deleteIpsRuleAnswer state path).2 = reading state := by
  unfold deleteIpsRuleAnswer
  split
  · rfl
  · rfl
  · split
    · rfl
    · exact h state _

theorem ipsModeAnswer_frame (h : Endpoint.ipsMode.Spares reading) (body : Option Text) :
    reading (ipsModeAnswer outside state body).2 = reading state := by
  unfold ipsModeAnswer
  split
  · rfl
  · split
    · rfl
    · split
      · rfl
      · unfold AppState.setIpsMode
        dsimp only
        split
        · rfl
        · exact h state _ _

theorem postConfigAnswer_frame (h : Endpoint.postConfig.Spares reading) (body : Option Text) :
    reading (postConfigAnswer outside state body).2 = reading state := by
  unfold postConfigAnswer
  split
  · rfl
  · split
    · rfl
    · split
      · rfl
      · exact h state _

/-- An endpoint writes nothing but its own part. -/
theorem endpointAnswer_frame {endpoint : Endpoint} (h : endpoint.Spares reading)
    (arguments : Arguments) :
    reading (endpointAnswer outside state endpoint arguments).2 = reading state := by
  cases endpoint with
  | setInterface =>
      cases arguments with
      | iface iface => exact setInterfaceAnswer_frame outside state h iface
      | _ => rfl
  | toggleDissector =>
      cases arguments with
      | dissector name => exact toggleDissectorAnswer_frame state h name
      | _ => rfl
  | getCaptureToggle =>
      cases arguments with
      | enabled enabled => exact h state enabled
      | _ => rfl
  | postCaptureToggle =>
      cases arguments with
      | body body => exact postCaptureToggleAnswer_frame outside state h body
      | _ => rfl
  | captureManual => cases arguments <;> exact captureManualAnswer_frame outside state h
  | addIpsRule =>
      cases arguments with
      | body body => exact addIpsRuleAnswer_frame outside state h body
      | _ => rfl
  | deleteIpsRule =>
      cases arguments with
      | ruleId path => exact deleteIpsRuleAnswer_frame state h path
      | _ => rfl
  | ipsMode =>
      cases arguments with
      | body body => exact ipsModeAnswer_frame outside state h body
      | _ => rfl
  | postConfig =>
      cases arguments with
      | body body => exact postConfigAnswer_frame outside state h body
      | _ => rfl
  | packets | interfaces | flows | ipsRules | ipsEvents | ips | state | getConfig | metrics
  | health => rfl
  | pcapFile | pcapStorage | pcapCaptures | pcapDownload | pcapReconstruct | bulkDownload =>
      cases arguments <;> rfl

end

/-- Only a manual capture changes the index. -/
theorem spares_pcapCaptures {endpoint : Endpoint} (h : endpoint ≠ .captureManual) :
    endpoint.Spares AppState.pcapCaptures := by
  cases endpoint with
  | captureManual => exact absurd rfl h
  | _ => simp [Endpoint.Spares]

/-- Only a toggle changes the dissectors. -/
theorem spares_dissectors {endpoint : Endpoint} (h : endpoint ≠ .toggleDissector) :
    endpoint.Spares AppState.dissectors := by
  cases endpoint with
  | toggleDissector => exact absurd rfl h
  | _ => simp [Endpoint.Spares]

end GeSensor.Server
