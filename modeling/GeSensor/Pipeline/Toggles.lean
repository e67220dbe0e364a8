/-
  Pipeline/Toggles.lean --- dissector toggles and IPS inspection.

  The toggle of a frame's protocol gates the whole of its processing: a frame
  whose dissector is off is neither tracked nor evaluated.  What the pipeline
  guarantees is therefore one evaluation for every frame that is on at the moment
  it is processed, with a verdict that no other toggle influences.
-/
import GeSensor.Pipeline.Inspection

set_option autoImplicit false

namespace GeSensor.Pipeline

open GeSensor.Dissectors
open GeSensor.Flow
open GeSensor.Foundation
open GeSensor.Ips

/-- The evaluations if every frame with both IP addresses had one. -/
def ungatedInspections (events : List SensorEvent) : List (List EvaluateArgs) :=
  events.map fun event =>
    match event with
    | .frame _ data => ((addressed? data).map InspectedPacket.evaluateArgs).toList
    | _ => []

/-- IPS inspection cannot be bypassed: one evaluation for every frame with both
IP addresses, whatever the toggles. -/
def InspectsEveryFrame (spare : Nat → Nat) (settings : SensorSettings)
    (events : List SensorEvent) : Prop :=
  ∃ results final, (Sensor.start spare settings).run spare events = .ok (results, final) ∧
    results.map evaluateCallsOf = ungatedInspections events

/-- A TCP SYN to port 22. -/
def plainTcpFrame : Bytes :=
  [0, 0, 0, 0, 0, 0, 0, 0, 0, 0, 0, 0, 0x08, 0x00, 0x45, 0, 0, 40, 0, 0, 0, 0, 64, 6, 0, 0,
    192, 168, 1, 100, 10, 0, 0, 1, 0xC0, 0x00, 0, 22, 0, 0, 0, 1, 0, 0, 0, 0, 0x50, 0x02,
    0xFF, 0xFF, 0, 0, 0, 0]

/-- With the TCP dissector off a TCP frame is not evaluated. -/
theorem disabled_frame_not_inspected :
    ¬ InspectsEveryFrame (fun _ => 0) .standard
      [.toggleDissector "tcp" false, .frame .zero plainTcpFrame] := by
  rintro ⟨results, final, hrun, hcalls⟩
  obtain ⟨results', final', hrun', heffect⟩ := run_effect (fun _ => 0)
    [.toggleDissector "tcp" false, .frame .zero plainTcpFrame]
    (Sensor.start_ringValid (fun _ => 0) .standard)
  rw [hrun] at hrun'
  cases hrun'
  rw [heffect.calls] at hcalls
  exact absurd hcalls (by decide)

/-- A frame inspected under two settings of the toggles is the same packet. -/
theorem inspected?_eq_of_ne_none {config other : DissectorConfig} {data : Bytes}
    {packet : InspectedPacket} (h : inspected? config data = some packet)
    (hother : inspected? other data ≠ none) : inspected? other data = some packet := by
  obtain ⟨haddressed, _⟩ := Option.filter_eq_some_iff.mp h
  cases hsome : inspected? other data with
  | none => exact absurd hsome hother
  | some packet' =>
      obtain ⟨haddressed', _⟩ := Option.filter_eq_some_iff.mp hsome
      rw [← haddressed, haddressed']

/-- Over every sequence of frames, toggles and other events: `evaluate` is called
once for each frame whose packet has both IP addresses and whose dissector is on
when it is processed, and for nothing else; these calls are what
`packets_inspected` counts; and in every state reached the result of such a frame
and the engine after it are the same under any other toggles that let it pass. -/
theorem evaluates_enabled_frames_once (spare : Nat → Nat) (settings : SensorSettings)
    (events : List SensorEvent) :
    ∃ results final, (Sensor.start spare settings).run spare events = .ok (results, final) ∧
      results.map evaluateCallsOf = inspections settings.dissectors events ∧
      final.ipsEngine.stats.packetsInspected =
        (inspections settings.dissectors events).flatten.length ∧
      ∀ readings data other, inspected? final.dissectors data ≠ none →
        inspected? other data ≠ none →
        ∃ result next next', final.processFrame spare readings data = .ok (result, next) ∧
          { final with dissectors := other }.processFrame spare readings data =
            .ok (result, next') ∧
          next'.ipsEngine = next.ipsEngine := by
  obtain ⟨results, final, hrun, heffect⟩ :=
    run_effect spare events (Sensor.start_ringValid spare settings)
  refine ⟨results, final, hrun, heffect.calls, ?_, ?_⟩
  · rw [heffect.inspected]
    simp [Sensor.start, IpsEngine.new]
  · intro readings data other hhere hthere
    obtain ⟨packets, hrepresents⟩ := heffect.ring
    obtain ⟨ring, hpush, _, _⟩ := PcapStore.PacketRingBuffer.push_represents spare hrepresents
      ⟨readings.tsSec, readings.tsUsec, data⟩
    obtain ⟨packet, hpacket⟩ := Option.ne_none_iff_exists'.mp hhere
    have hother : inspected? ({ final with dissectors := other } : Sensor).dissectors data =
        some packet := inspected?_eq_of_ne_none hpacket hthere
    exact ⟨_, _, _, processFrame_of_inspected hpush hpacket,
      processFrame_of_inspected hpush hother, rfl⟩

end GeSensor.Pipeline
