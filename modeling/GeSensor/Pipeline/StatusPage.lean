/-
  Pipeline/StatusPage.lean --- the status page beside the other pages.

  The page shows a total that has gone through a text, statistics of the engine, the
  number of live flows and the toggles.  Between two frames it agrees with the packets tab
  and with what the capture thread does, whatever the other threads did before.
-/
import GeSensor.Dashboard.SensorState
import GeSensor.Pipeline.Pages

set_option autoImplicit false

namespace GeSensor.Pipeline

open GeSensor.Dashboard
open GeSensor.Dissectors
open GeSensor.Flow
open GeSensor.Foundation
open GeSensor.Ips

/-- The name under which the page lists the dissector of a protocol. -/
def listedAs : ProtocolName → Option String
  | .tcp | .tcpTruncated => some "TCP"
  | .udp | .quic => some "UDP"
  | .icmp => some "ICMP"
  | .dns => some "DNS"
  | .http => some "HTTP"
  | .tls => some "TLS"
  | .ntp => some "NTP"
  | .dhcp => some "DHCP"
  | .modbus => some "Modbus TCP"
  | .dnp3 => some "DNP3"
  | .bacnet => some "BACnet/IP"
  | .none | .other | .ipOther | .udpTruncated | .icmpv6 | .icmpTruncated | .enip => none

/-- A dissector is shown as on exactly if packets of its protocols are looked at. -/
theorem mem_buildDissectorList_iff (config : DissectorConfig) {protocol : ProtocolName}
    {name : String} (h : listedAs protocol = some name) (shown : Bool) :
    (∃ info ∈ buildDissectorList config, info.name = name ∧ info.enabled = shown) ↔
      shown = config.isEnabled protocol := by
  cases protocol <;> cases h <;>
    simp [buildDissectorList, DissectorConfig.isEnabled, eq_comm]

/-- What the status page has in common with the packets tab and with the capture thread. -/
structure StatusAgrees (answer : SensorStateResponse) (cells : Cells SensorValue) : Prop where
  /-- the total is that of the rows and the malformed frames, as an `i64` -/
  packetsTotal : answer.capture.packetsTotal =
    Int.bmod (PacketRing.counter (cells .packetRing) +
      Counters.sumWhere (fun label => label.2 == malformedLabel) (cells .packetsTotal) : Nat)
      (2 ^ 64)
  verdicts : answer.ips.packetsPassed + answer.ips.packetsDropped + answer.ips.packetsAlerted =
    answer.ips.packetsInspected
  inspected : answer.ips.packetsInspected ≤ PacketRing.counter (cells .packetRing)
  activeFlows : answer.activeFlows = FlowTracker.activeCount (cells .flowTracker)
  dissectors : ∀ (protocol : ProtocolName) (name : String), listedAs protocol = some name →
    ∀ shown : Bool, (∃ info ∈ answer.dissectors, info.name = name ∧ info.enabled = shown) ↔
      shown = DissectorConfig.isEnabled (cells .dissectors) protocol

/-- An encoder that writes the samples in the order of registration, without comments. -/
def plainEncoder : EncodeMetrics := fun metrics =>
  .ok (exposition (metrics.samples.map .sample))

theorem plainEncoder_encodes : Encodes plainEncoder := by
  refine ⟨fun metrics _ => ⟨_, rfl, ?_, fun words hwords => ?_⟩⟩
  · rw [List.filterMap_map]
    exact (List.filterMap_some).symm ▸ List.Perm.refl _
  · obtain ⟨_, _, hsample⟩ := List.mem_map.mp hwords
    cases hsample

/-- The metrics of a monitor whose other counters are at zero. -/
def packetMetrics (packetsTotal : Counters (String × List Char)) : Metrics where
  packetsTotal := packetsTotal
  activeFlows := 0
  kafkaLag := 0
  ramUsageBytes := 0
  dlqSizeBytes := 0
  alertsTotal := (∅ : Counters String)
  pcapCapturesTotal := 0
  kafkaDeliveryErrorsTotal := 0

theorem packetMetrics_exact {packetsTotal : Counters (String × List Char)}
    (h : (packetsTotal.sumWhere fun _ => true) ≤ 2 ^ 53) : (packetMetrics packetsTotal).Exact := by
  intro sample hsample
  rcases List.mem_append.mp hsample with hsample | hsample
  · obtain ⟨entry, hentry, rfl⟩ := List.mem_map.mp hsample
    have hentry : entry.2 ≤ packetsTotal.sumWhere fun _ => true := Counters.le_sumWhere hentry
    have hvalue : (packetsSample entry).value = (entry.2 : Int) := rfl
    omega
  · have hvalue : sample.value = 0 := by
      rcases List.mem_append.mp hsample with hsample | hsample
      · simp only [packetMetrics, Metrics.plainSamples, List.mem_cons, List.not_mem_nil,
          or_false] at hsample
        rcases hsample with rfl | rfl | rfl | rfl | rfl | rfl <;> rfl
      · exact absurd hsample List.not_mem_nil
    omega

/-- In every interleaving, at every moment between two frames: the status page agrees with
the packets tab and with the toggles that the capture thread reads, however the metrics'
text is ordered and whatever the interfaces are called. -/
theorem snapshot_agrees (spare : Nat → Nat) (sensorSettings : SensorSettings)
    {labels : List MonitorLabel} {monitor : Monitor}
    (hrun : Run (Monitor.step spare) (.start spare sensorSettings) labels monitor)
    (hidle : monitor.running = none) {encode : EncodeMetrics} (hencode : Encodes encode)
    {metrics : Metrics} (hmetrics : metrics.packetsTotal = monitor.cells .packetsTotal)
    (hexact : metrics.Exact) (settings : StateSettings) (uptimeSecs : Nat) :
    StatusAgrees (snapshot encode settings uptimeSecs metrics (monitor.cells .flowTracker)
      (monitor.cells .ipsEngine) (monitor.cells .dissectors)).1 monitor.cells := by
  have hpages := pages_agree spare sensorSettings hrun hidle
  refine ⟨?_, hpages.verdicts, hpages.inspected, rfl, ?_⟩
  · have hrows := hpages.rows
    have hsplit : Counters.sumWhere (fun _ => true) (monitor.cells .packetsTotal) =
        Counters.sumWhere (fun label => label.2 != malformedLabel)
            (monitor.cells .packetsTotal) +
          Counters.sumWhere (fun label => label.2 == malformedLabel)
            (monitor.cells .packetsTotal) :=
      Counters.sumWhere_true (fun label : String × List Char => label.2 == malformedLabel) _
    rw [← hrows, ← hsplit, ← hmetrics]
    exact parsePromTotal_encode hencode hexact
  · exact fun protocol name hname shown =>
      mem_buildDissectorList_iff (monitor.cells .dissectors) hname shown

/-- The status page behind the sample run. -/
theorem snapshot_agrees_sample :
    ∃ monitor : Monitor,
      Run (Monitor.step sampleSpare) (.start sampleSpare .standard) sampleLabels monitor ∧
      ∀ (settings : StateSettings) (uptimeSecs : Nat),
        StatusAgrees (snapshot plainEncoder settings uptimeSecs
          (packetMetrics (monitor.cells .packetsTotal)) (monitor.cells .flowTracker)
          (monitor.cells .ipsEngine) (monitor.cells .dissectors)).1 monitor.cells := by
  obtain ⟨monitor, hrun, hidle, hresults⟩ := sampleLabels_run
  have hlength : monitor.results.length = 1 := by simpa using congrArg List.length hresults
  have hcounted := (monitor_booked sampleSpare .standard hrun hidle).packetsTotal fun _ => true
  have hfew := List.length_filterMap_le FrameReport.counted monitor.results
  rw [List.countP_true] at hcounted
  exact ⟨monitor, hrun, fun settings uptimeSecs =>
    snapshot_agrees sampleSpare .standard hrun hidle plainEncoder_encodes rfl
      (packetMetrics_exact (by omega)) settings uptimeSecs⟩

end GeSensor.Pipeline
