/-
  Pipeline/FlowsPage.lean --- the flows page beside the engine's statistics.

  For every packet that the capture thread looks at, it updates the flow tracker and then
  calls the engine, under two locks, and the eviction task comes in between.  Whatever the
  order, the tracker has a history of calls: its updates are the packets that the engine was
  asked about, in that order, its sweeps those of the eviction task.  So the packets that the
  page shows and those of the flows closed so far are the packets inspected.
-/
import GeSensor.Dashboard.FlowDetails
import GeSensor.Pipeline.Pages

set_option autoImplicit false

namespace GeSensor.Pipeline

open GeSensor.Dashboard
open GeSensor.Flow
open GeSensor.Foundation
open GeSensor.Ips

/-! ## Histories of the tracker -/

/-- The engine's view of a packet that the tracker is told about. -/
def evaluateArgsOf (packet : FlowPacket) : EvaluateArgs where
  srcIp := some packet.srcIp
  dstIp := some packet.dstIp
  srcPort := packet.srcPort
  dstPort := packet.dstPort
  protocol := packet.protocol
  tcpFlags := packet.tcpFlags
  modbusFunc := none
  dnp3Func := none

/-- A sweep for idle flows. -/
def sweepOf : FlowTracker.Call → Option (FlowOrder × Instant)
  | .update _ _ _ _ => none
  | .evictIdle order now => some (order, now)

def SensorOp.sweep? : SensorOp → Option (FlowOrder × Instant)
  | .evictIdle order now => some (order, now)
  | _ => none

def SensorEvent.sweep? : SensorEvent → Option (FlowOrder × Instant)
  | .evictIdle order now => some (order, now)
  | _ => none

/-- The calls that the tracker has had in a run. -/
structure TrackerHistory (settings : SensorSettings) (labels : List MonitorLabel)
    (monitor : Monitor) (calls : List FlowTracker.Call) : Prop where
  tracker : monitor.cells .flowTracker = (FlowTracker.new settings.flows).runCalls calls
  /-- the tracker is told about the packets that the engine is asked about -/
  updates : (calls.filterMap FlowTracker.Call.packet?).map evaluateArgsOf =
    callsOf monitor.results
  sweeps : calls.filterMap sweepOf =
    (labels.filterMap ThreadLabel.operation?).filterMap SensorOp.sweep?

theorem trackerCalls_updates (config : DissectorConfig) (events : List SensorEvent) :
    ((trackerCalls config events).filterMap FlowTracker.Call.packet?).map evaluateArgsOf =
      (inspections config events).flatten := by
  induction events generalizing config with
  | nil => rfl
  | cons event rest ih =>
      have hevent : ((event.trackerCalls config).filterMap FlowTracker.Call.packet?).map
          evaluateArgsOf = event.inspections config := by
        cases event with
        | frame readings data =>
            rw [SensorEvent.trackerCalls, SensorEvent.inspections]
            cases inspected? config data <;> rfl
        | _ => rfl
      rw [trackerCalls, inspections, List.filterMap_append, List.map_append, List.flatten_cons,
        ih, hevent]

theorem trackerCalls_sweeps (config : DissectorConfig) (events : List SensorEvent) :
    (trackerCalls config events).filterMap sweepOf = events.filterMap SensorEvent.sweep? := by
  induction events generalizing config with
  | nil => rfl
  | cons event rest ih =>
      have hevent : (event.trackerCalls config).filterMap sweepOf = event.sweep?.toList := by
        cases event with
        | frame readings data =>
            rw [SensorEvent.trackerCalls]
            cases inspected? config data <;> rfl
        | _ => rfl
      rw [trackerCalls, List.filterMap_append, ih, hevent, List.filterMap_cons]
      cases event.sweep? <;> rfl

/-- The sweeps are the operations on the tracker. -/
theorem sweeps_onCell (ops : List SensorOp) :
    ops.filterMap SensorOp.sweep? =
      (onCell SensorOp.meaning .flowTracker ops).filterMap SensorOp.sweep? := by
  rw [onCell, List.filterMap_filter]
  refine List.filterMap_congr fun op _ => ?_
  cases op <;> rfl

theorem sensorEvents_sweeps (events : List (SerialEvent CapturedFrame SensorOp)) :
    (events.map sensorEvent).filterMap SensorEvent.sweep? =
      (events.filterMap SerialEvent.operation?).filterMap SensorOp.sweep? := by
  rw [List.filterMap_map, List.filterMap_filterMap]
  refine List.filterMap_congr fun event _ => ?_
  cases event with
  | transaction frame => rfl
  | operation op => cases op <;> rfl

theorem flatten_evaluateCalls (results : List (Option FrameResult)) :
    (results.map evaluateCallsOf).flatten =
      (results.filterMap id).flatMap FrameResult.evaluateCalls := by
  induction results with
  | nil => rfl
  | cons result rest ih =>
      rw [List.map_cons, List.flatten_cons, ih]
      cases result <;> rfl

/-- The tracker has a history in every interleaving. -/
theorem exists_history (spare : Nat → Nat) (settings : SensorSettings)
    {labels : List MonitorLabel} {monitor : Monitor}
    (hrun : Run (Monitor.step spare) (.start spare settings) labels monitor)
    (hidle : monitor.running = none) : ∃ calls, TrackerHistory settings labels monitor calls := by
  obtain ⟨events, results, hevents, hsensor, hresults⟩ :=
    monitor_refines_sensor spare settings hrun hidle
  obtain ⟨results', final, hrun', heffect⟩ := run_effect spare (events.map sensorEvent)
    (Sensor.start_ringValid spare settings)
  rw [hsensor] at hrun'
  cases hrun'
  refine ⟨trackerCalls settings.dissectors (events.map sensorEvent), heffect.flows, ?_, ?_⟩
  · rw [trackerCalls_updates]
    have hcalls := heffect.calls
    change results.map evaluateCallsOf =
      inspections settings.dissectors (events.map sensorEvent) at hcalls
    rw [← hcalls, flatten_evaluateCalls, hresults, List.flatMap_map]
    rfl
  · rw [trackerCalls_sweeps, sensorEvents_sweeps, sweeps_onCell, hevents.onCell, ← sweeps_onCell]

/-! ## The page -/

/-- What the flows page has in common with the status page and with the engine's statistics;
`closed` are the events of the flows given up so far. -/
structure FlowsAgree {F : Type} (page : FlowsResponse F) (cells : Cells SensorValue)
    (closed : List FlowClosedEvent) : Prop where
  /-- as many rows as live flows -/
  totalFlows : page.totalFlows = FlowTracker.activeCount (cells .flowTracker)
  rows : page.flows.length = page.totalFlows
  tcpFlows : page.tcpFlows = page.flows.countP fun row => row.protocol == "TCP"
  udpFlows : page.udpFlows = page.flows.countP fun row => row.protocol == "UDP"
  /-- no two rows name one flow, but for protocols without a name of their own -/
  distinct : page.flows.Pairwise fun left right =>
    left.named = right.named → left.protocol = "OTHER"
  /-- every packet inspected is shown once, or was counted in a flow that is closed -/
  packets : shownPackets page.flows + closedPackets closed =
    (IpsEngine.stats (cells .ipsEngine)).packetsInspected

/-- In every interleaving, at every moment between two frames: the tracker has had a history
of calls, of which the updates are the packets that the engine was asked about, in order, and
the sweeps those of the eviction task, in order; and the flows page shows every packet that
was inspected once, but for those of the flows that this history has closed. -/
theorem flows_page_agrees (spare : Nat → Nat) (settings : SensorSettings)
    {labels : List MonitorLabel} {monitor : Monitor}
    (hrun : Run (Monitor.step spare) (.start spare settings) labels monitor)
    (hidle : monitor.running = none)
    (hfew : (IpsEngine.stats (monitor.cells .ipsEngine)).packetsInspected < 2 ^ 64) :
    ∃ calls, TrackerHistory settings labels monitor calls ∧
      ∀ {F : Type} (scoring : Scoring F) (now : Instant) (order : FlowOrder),
        FlowsAgree (flowDetails scoring now (monitor.cells .flowTracker) order) monitor.cells
          ((FlowTracker.new settings.flows).closedBy calls) := by
  obtain ⟨calls, hhistory⟩ := exists_history spare settings hrun hidle
  have hbooked := monitor_booked spare settings hrun hidle
  have hinspected : (calls.filterMap FlowTracker.Call.packet?).length =
      (IpsEngine.stats (monitor.cells .ipsEngine)).packetsInspected := by
    rw [hbooked.inspected, ← hhistory.updates, List.length_map]
  have hstart : (FlowTracker.new settings.flows).livePackets = 0 := rfl
  have hpackets := FlowTracker.runCalls_packets (.new settings.flows) calls (by omega)
  rw [← hhistory.tracker, hstart, Nat.zero_add, hinspected] at hpackets
  have hkeyed : FlowTracker.KeyedByRecord (FlowTracker.flows (monitor.cells .flowTracker)) := by
    have haccounts := (TrackerRun.accounts settings.flows
      (calls.map fun call => (call, ()))).1.keyedByRecord
    have htracker : (calls.map fun call => (call, ())).map Prod.fst = calls := by
      rw [List.map_map]
      exact List.map_id calls
    rw [TrackerRun.ofCalls_tracker, htracker, ← hhistory.tracker] at haccounts
    exact haccounts
  exact ⟨calls, hhistory, fun scoring now order => {
    totalFlows := totalFlows_eq
    rows := rfl
    tcpFlows := counts_eq.1
    udpFlows := counts_eq.2
    distinct := rows_pairwise hkeyed
    packets := by rw [shownPackets_eq]; exact hpackets }⟩

/-- A scoring by which all flows are alike. -/
def evenScoring : Scoring Unit where
  scores _ := ⟨(), (), (), (), (), ()⟩
  partialCmp _ _ := some .eq
  isAnomalous _ := false

/-- The flows page behind the sample run. -/
theorem flows_page_agrees_sample :
    ∃ monitor : Monitor,
      Run (Monitor.step sampleSpare) (.start sampleSpare .standard) sampleLabels monitor ∧
      ∃ calls, TrackerHistory .standard sampleLabels monitor calls ∧
        ∀ (now : Instant) (order : FlowOrder),
          FlowsAgree (flowDetails evenScoring now (monitor.cells .flowTracker) order) monitor.cells
            ((FlowTracker.new SensorSettings.standard.flows).closedBy calls) := by
  obtain ⟨monitor, hrun, hidle, hresults⟩ := sampleLabels_run
  have hlength : monitor.results.length = 1 := by simpa using congrArg List.length hresults
  have hcounter := (monitor_booked sampleSpare .standard hrun hidle).counter
  have hinspected := (pages_agree sampleSpare .standard hrun hidle).inspected
  have hrows : (rowsOf monitor.results).length ≤ monitor.results.length :=
    List.length_filterMap_le _ _
  obtain ⟨calls, hhistory, hagree⟩ :=
    flows_page_agrees sampleSpare .standard hrun hidle (by omega)
  exact ⟨monitor, hrun, calls, hhistory, hagree evenScoring⟩

end GeSensor.Pipeline
