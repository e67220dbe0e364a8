/-
  Dashboard/SensorState.lean --- the answer of `GET /api/state`.

  `AppState::snapshot` of `src/utils/dashboard.rs` does not read the packet counters: it
  lets the metrics be encoded as text and adds up the last words of the lines that begin
  with `ge_packets_total`.  The encoder belongs to a library; what it is documented to
  write is a set of lines with a sample for each counter and gauge (`Encodes`).  As the
  values are written as floating point numbers, this holds up to 2^53.
-/
import GeSensor.Dashboard.IpsView
import GeSensor.Flow.Tracker
import GeSensor.Foundation.Exposition
import GeSensor.Foundation.Totals
import GeSensor.Pipeline.Capture

set_option autoImplicit false

namespace GeSensor.Dashboard

open GeSensor.Flow
open GeSensor.Foundation
open GeSensor.Ips
open GeSensor.Pipeline

/-! ## Metrics -/

/-- The counters and gauges of `Metrics` in `src/utils/logging.rs`. -/
structure Metrics where
  /-- by interface and protocol -/
  packetsTotal : Counters (String × List Char)
  activeFlows : Int
  kafkaLag : Int
  ramUsageBytes : Int
  dlqSizeBytes : Int
  /-- by severity -/
  alertsTotal : Counters String
  pcapCapturesTotal : Nat
  kafkaDeliveryErrorsTotal : Nat

/-- The name of the packet counters. -/
def packetsTotalName : List Char := "ge_packets_total".toList

def packetsSample (entry : Sigma fun _ : String × List Char => Nat) : Sample where
  name := packetsTotalName
  labels := [("interface".toList, entry.1.1.toList), ("protocol".toList, entry.1.2)]
  value := entry.2

def alertsSample (entry : Sigma fun _ : String => Nat) : Sample where
  name := "ge_alerts_total".toList
  labels := [("severity".toList, entry.1.toList)]
  value := entry.2

/-- The samples of the metrics without labels. -/
def Metrics.plainSamples (metrics : Metrics) : List Sample :=
  [⟨"ge_active_flows".toList, [], metrics.activeFlows⟩,
    ⟨"ge_kafka_lag".toList, [], metrics.kafkaLag⟩,
    ⟨"ge_ram_usage_bytes".toList, [], metrics.ramUsageBytes⟩,
    ⟨"ge_dlq_size_bytes".toList, [], metrics.dlqSizeBytes⟩,
    ⟨"ge_pcap_captures_total".toList, [], metrics.pcapCapturesTotal⟩,
    ⟨"ge_kafka_delivery_errors_total".toList, [], metrics.kafkaDeliveryErrorsTotal⟩]

/-- The samples of all metrics registered in `Metrics::new`. -/
def Metrics.samples (metrics : Metrics) : List Sample :=
  metrics.packetsTotal.entries.map packetsSample ++
    (metrics.plainSamples ++ metrics.alertsTotal.entries.map alertsSample)

/-- `TextEncoder` and `Registry::gather`. -/
abbrev EncodeMetrics : Type := Metrics → Except String (List Char)

/-- Metrics of which each has an exact value as a floating point number. -/
def Metrics.Exact (metrics : Metrics) : Prop :=
  ∀ sample ∈ metrics.samples, -2 ^ 53 ≤ sample.value ∧ sample.value ≤ 2 ^ 53

/-- The encoder writes a line for each sample, and comments, in some order. -/
structure Encodes (encode : EncodeMetrics) : Prop where
  text : ∀ metrics : Metrics, metrics.Exact → ∃ shown : List ExpositionLine,
    encode metrics = .ok (exposition shown) ∧
    (shown.filterMap ExpositionLine.sample?).Perm metrics.samples ∧
    ∀ words, ExpositionLine.comment words ∈ shown → '\n' ∉ words ∧ '\r' ∉ words

/-! ## The packet total -/

/-- `total += n` on `i64`, in a build without overflow checks. -/
def wrappingAdd (total n : Int) : Int := Int.bmod (total + n) (2 ^ 64)

/-- What one line adds. -/
def promLine (metricName : List Char) (total : Int) (line : List Char) : Int :=
  if line.head? = some '#' ∨ line = [] then total
  else if metricName.isPrefixOf line then
    match (splitWhitespace line).getLast?.bind parseI64 with
    | some n => wrappingAdd total n
    | none => total
  else total

/-- `parse_prom_total`. -/
def parsePromTotal (text metricName : List Char) : Int :=
  (lines text).foldl (promLine metricName) 0

/-- The sum over the samples whose name begins so. -/
def sampleTotal (metricName : List Char) (samples : List Sample) : Int :=
  ((samples.filter fun sample => metricName.isPrefixOf sample.name).map Sample.value).sum

theorem sampleTotal_perm (metricName : List Char) {left right : List Sample}
    (h : left.Perm right) : sampleTotal metricName left = sampleTotal metricName right :=
  ((h.filter _).map _).sum_eq

section

variable {metricName : List Char} (hname : MetricName metricName)

include hname in
theorem promLine_sample {sample : Sample} (hsample : sample.Named)
    (hvalue : -2 ^ 63 ≤ sample.value ∧ sample.value < 2 ^ 63) (total : Int) :
    promLine metricName total sample.line =
      if metricName.isPrefixOf sample.name then wrappingAdd total sample.value else total := by
  have hhead : ¬(sample.line.head? = some '#' ∨ sample.line = []) := by
    obtain ⟨char, rest, hchars⟩ := List.exists_cons_of_ne_nil hsample.name_ne_nil
    have hchar := hsample.name char (hchars ▸ List.mem_cons_self)
    rw [Sample.line, hchars, List.cons_append, List.head?_cons, Option.some.injEq]
    exact not_or.mpr ⟨isMetricChar_ne hchar '#' (by decide), List.cons_ne_nil _ _⟩
  have hprefix : metricName.isPrefixOf sample.line = metricName.isPrefixOf sample.name := by
    rw [Bool.eq_iff_iff, List.isPrefixOf_iff_prefix, List.isPrefixOf_iff_prefix,
      sample.prefix_line_iff hname]
  rw [promLine, if_neg hhead, hprefix, sample.getLast?_splitWhitespace_line, Option.bind_some,
    parseI64_intText hvalue]

theorem promLine_comment (metricName words : List Char) (total : Int) :
    promLine metricName total (ExpositionLine.comment words).text = total :=
  if_pos (Or.inl rfl)

include hname in
/-- Over the lines that were written, the loop adds up the samples of the name. -/
theorem foldl_promLine {shown : List ExpositionLine}
    (hshown : ∀ sample, .sample sample ∈ shown →
      sample.Named ∧ -2 ^ 63 ≤ sample.value ∧ sample.value < 2 ^ 63) (total : Int) :
    Int.bmod ((shown.map ExpositionLine.text).foldl (promLine metricName) total) (2 ^ 64) =
      Int.bmod (total + sampleTotal metricName (shown.filterMap ExpositionLine.sample?))
        (2 ^ 64) := by
  induction shown generalizing total with
  | nil => exact congrArg (Int.bmod · (2 ^ 64)) (Int.add_zero total).symm
  | cons line shown ih =>
      have hrest := ih fun sample hsample => hshown sample (List.mem_cons_of_mem _ hsample)
      rw [List.map_cons, List.foldl_cons, hrest]
      cases line with
      | comment words =>
          rw [promLine_comment]
          rfl
      | sample sample =>
          obtain ⟨hnamed, hvalue⟩ := hshown sample List.mem_cons_self
          have hsum : sampleTotal metricName ((.sample sample :: shown).filterMap
              ExpositionLine.sample?) = (if metricName.isPrefixOf sample.name then sample.value
                else 0) + sampleTotal metricName (shown.filterMap ExpositionLine.sample?) := by
            have hcons : (ExpositionLine.sample sample :: shown).filterMap
                ExpositionLine.sample? = sample :: shown.filterMap ExpositionLine.sample? := rfl
            rw [hcons, sampleTotal, List.filter_cons]
            split
            · rw [List.map_cons, List.sum_cons, sampleTotal]
            · rw [Int.zero_add, sampleTotal]
          rw [ExpositionLine.text, promLine_sample hname hnamed hvalue, hsum]
          split
          · rw [wrappingAdd, Int.bmod_add_bmod, Int.add_assoc]
          · rw [Int.zero_add]

end

/-- The total never leaves the range of `i64`. -/
theorem bmod_promLine {metricName line : List Char} {total : Int}
    (h : Int.bmod total (2 ^ 64) = total) :
    Int.bmod (promLine metricName total line) (2 ^ 64) = promLine metricName total line := by
  unfold promLine wrappingAdd
  split
  · exact h
  · split
    · split
      · exact Int.bmod_bmod
      · exact h
    · exact h

theorem bmod_parsePromTotal (text metricName : List Char) :
    Int.bmod (parsePromTotal text metricName) (2 ^ 64) = parsePromTotal text metricName := by
  have hfold : ∀ (shown : List (List Char)) (total : Int), Int.bmod total (2 ^ 64) = total →
      Int.bmod (shown.foldl (promLine metricName) total) (2 ^ 64) =
        shown.foldl (promLine metricName) total := by
    intro shown
    induction shown with
    | nil => exact fun _ h => h
    | cons line shown ih => exact fun total h => ih _ (bmod_promLine h)
  exact hfold _ 0 rfl

/-! ## The samples of the registry -/

/-- The metrics other than the packet counters. -/
def otherNames : List (List Char) :=
  ["ge_active_flows".toList, "ge_kafka_lag".toList, "ge_ram_usage_bytes".toList,
    "ge_dlq_size_bytes".toList, "ge_pcap_captures_total".toList,
    "ge_kafka_delivery_errors_total".toList, "ge_alerts_total".toList]

/-- The names are names, and none but one begins like that of the packet counters. -/
theorem otherNames_plain : ∀ name ∈ otherNames, name ≠ [] ∧
    MetricName name ∧ packetsTotalName.isPrefixOf name = false := by
  decide

theorem packetsTotalName_plain : packetsTotalName ≠ [] ∧ MetricName packetsTotalName := by
  decide

/-- The other samples have other names, and `severity` for a label or none. -/
theorem name_of_mem_others {metrics : Metrics} {sample : Sample}
    (h : sample ∈ metrics.plainSamples ++ metrics.alertsTotal.entries.map alertsSample) :
    sample.name ∈ otherNames ∧ ∀ label ∈ sample.labels, label.1 = "severity".toList := by
  rcases List.mem_append.mp h with h | h
  · simp only [Metrics.plainSamples, List.mem_cons, List.not_mem_nil, or_false] at h
    have hnone : ∀ label ∈ ([] : List (List Char × List Char)), label.1 = "severity".toList :=
      fun _ hlabel => absurd hlabel List.not_mem_nil
    rcases h with rfl | rfl | rfl | rfl | rfl | rfl
    · exact ⟨.head _, hnone⟩
    · exact ⟨.tail _ (.head _), hnone⟩
    · exact ⟨.tail _ (.tail _ (.head _)), hnone⟩
    · exact ⟨.tail _ (.tail _ (.tail _ (.head _))), hnone⟩
    · exact ⟨.tail _ (.tail _ (.tail _ (.tail _ (.head _)))), hnone⟩
    · exact ⟨.tail _ (.tail _ (.tail _ (.tail _ (.tail _ (.head _))))), hnone⟩
  · obtain ⟨entry, -, rfl⟩ := List.mem_map.mp h
    have halerts : "ge_alerts_total".toList ∈ otherNames := by decide
    refine ⟨halerts, fun label hlabel => ?_⟩
    have hlabel : label = ("severity".toList, entry.1.toList) := List.mem_singleton.mp hlabel
    rw [hlabel]

theorem named_of_mem_samples {metrics : Metrics} {sample : Sample}
    (h : sample ∈ metrics.samples) : sample.Named := by
  rw [Metrics.samples, List.mem_append] at h
  rcases h with h | h
  · obtain ⟨entry, -, rfl⟩ := List.mem_map.mp h
    refine ⟨packetsTotalName_plain.1, packetsTotalName_plain.2, fun label hlabel => ?_⟩
    have hkeys : ∀ key ∈ ["interface".toList, "protocol".toList], MetricName key := by decide
    refine hkeys label.1 ?_
    rw [packetsSample, List.mem_cons, List.mem_singleton] at hlabel
    rcases hlabel with rfl | rfl
    · exact List.mem_cons_self
    · exact List.mem_cons_of_mem _ List.mem_cons_self
  · obtain ⟨hname, hlabels⟩ := name_of_mem_others h
    have hseverity : MetricName "severity".toList := by decide
    refine ⟨(otherNames_plain _ hname).1, (otherNames_plain _ hname).2.1, fun label hlabel => ?_⟩
    rw [hlabels label hlabel]
    exact hseverity

/-- Only the packet counters are added up. -/
theorem sampleTotal_samples (metrics : Metrics) :
    sampleTotal packetsTotalName metrics.samples =
      (metrics.packetsTotal.sumWhere fun _ => true : Nat) := by
  have hothers : (metrics.plainSamples ++ metrics.alertsTotal.entries.map alertsSample).filter
      (fun sample => packetsTotalName.isPrefixOf sample.name) = [] :=
    List.filter_eq_nil_iff.mpr fun sample hsample => Bool.eq_false_iff.mp
      (otherNames_plain _ (name_of_mem_others hsample).1).2.2
  have hpackets : (metrics.packetsTotal.entries.map packetsSample).filter
      (fun sample => packetsTotalName.isPrefixOf sample.name) =
        metrics.packetsTotal.entries.map packetsSample := by
    refine List.filter_eq_self.mpr fun sample hsample => ?_
    obtain ⟨entry, -, rfl⟩ := List.mem_map.mp hsample
    exact List.isPrefixOf_iff_prefix.mpr List.prefix_rfl
  have hsum : ∀ entries : List (Sigma fun _ : String × List Char => Nat),
      ((entries.map packetsSample).map Sample.value).sum =
        (total (fun entry => if true then entry.2 else 0) entries : Nat) := by
    intro entries
    induction entries with
    | nil => rfl
    | cons entry entries ih =>
        rw [List.map_cons, List.map_cons, List.sum_cons, ih, total_cons]
        exact (Int.natCast_add _ _).symm
  rw [sampleTotal, Metrics.samples, List.filter_append, hothers, hpackets, List.append_nil, hsum]
  rfl

/-- The total that the status page shows is that of the counters, whatever the interface is
called. -/
theorem parsePromTotal_encode {encode : EncodeMetrics} (hencode : Encodes encode)
    {metrics : Metrics} (hexact : metrics.Exact) :
    parsePromTotal ((encode metrics).toOption.getD []) packetsTotalName =
      Int.bmod (metrics.packetsTotal.sumWhere fun _ => true : Nat) (2 ^ 64) := by
  obtain ⟨shown, htext, hsamples, hcomments⟩ := hencode.text metrics hexact
  have hmem : ∀ sample, ExpositionLine.sample sample ∈ shown → sample ∈ metrics.samples :=
    fun sample hsample => hsamples.subset (List.mem_filterMap.mpr ⟨_, hsample, rfl⟩)
  have hvalid : ∀ line ∈ shown, line.Valid := by
    intro line hline
    cases line with
    | comment words => exact hcomments words hline
    | sample sample => exact named_of_mem_samples (hmem sample hline)
  have hshown : ∀ sample, ExpositionLine.sample sample ∈ shown →
      sample.Named ∧ -2 ^ 63 ≤ sample.value ∧ sample.value < 2 ^ 63 := by
    intro sample hsample
    have hvalue := hexact sample (hmem sample hsample)
    refine ⟨named_of_mem_samples (hmem sample hsample), ?_, ?_⟩
    · omega
    · omega
  have hfold := foldl_promLine packetsTotalName_plain.2 hshown 0
  rw [htext, Except.toOption, Option.getD_some, ← bmod_parsePromTotal, parsePromTotal,
    lines_exposition hvalid, hfold, Int.zero_add, sampleTotal_perm _ hsamples,
    sampleTotal_samples]

/-! ## The answer -/

/-- A listener of the configuration. -/
structure ListenerConfig where
  protocol : String
  port : UInt16
  enabled : Bool
  deriving DecidableEq, Repr

structure InputsConfig where
  syslog : Option ListenerConfig := none
  netflow : Option ListenerConfig := none
  snmp : Option ListenerConfig := none
  ipfix : Option ListenerConfig := none
  wef : Option ListenerConfig := none
  httpWebhook : Option ListenerConfig := none
  deriving DecidableEq, Repr

structure DissectorInfo where
  name : String
  category : String
  enabled : Bool
  port : String
  deriving DecidableEq, Repr

structure InputInfo where
  name : String
  protocol : String
  port : UInt16
  enabled : Bool
  status : String
  deriving DecidableEq, Repr

structure SensorInfo where
  name : String
  version : String
  uptimeSecs : Nat
  status : String
  ramBytes : Int
  deriving DecidableEq, Repr

structure CaptureInfo where
  interface : String
  mode : String
  promiscuous : Bool
  snapLen : Nat
  packetsTotal : Int
  capturing : Bool
  deriving DecidableEq, Repr

structure KafkaInfo where
  topic : String
  brokers : List String
  lag : Int
  deliveryErrors : Int
  deriving DecidableEq, Repr

structure DlqInfo where
  sizeBytes : Int
  totalSpooled : Nat
  deriving DecidableEq, Repr

/-- The answer of `GET /api/state`. -/
structure SensorStateResponse where
  sensor : SensorInfo
  capture : CaptureInfo
  /-- the live flows -/
  activeFlows : Int
  ips : IpsInfo
  kafka : KafkaInfo
  dlq : DlqInfo
  dissectors : List DissectorInfo
  inputs : List InputInfo
  deriving DecidableEq, Repr

/-- The row of a dissector without a port of its own. -/
def portless : String := "—"

def buildDissectorList (d : DissectorConfig) : List DissectorInfo :=
  [⟨"TCP", "Transport", d.tcp, portless⟩, ⟨"UDP", "Transport", d.udp, portless⟩,
    ⟨"ICMP", "Network", d.icmp, portless⟩, ⟨"DNS", "Application", d.dns, "53"⟩,
    ⟨"HTTP", "Application", d.http, "80"⟩, ⟨"TLS", "Application", d.tls, "443"⟩,
    ⟨"NTP", "Network", d.ntp, "123"⟩, ⟨"DHCP", "Network", d.dhcp, "67/68"⟩,
    ⟨"Modbus TCP", "OT/SCADA", d.modbus, "502"⟩, ⟨"DNP3", "OT/SCADA", d.dnp3, "20000"⟩,
    ⟨"BACnet/IP", "Building Mgmt", d.bacnet, "47808"⟩]

/-- A configured input. -/
def inputInfo (name : String) (listener : ListenerConfig) : InputInfo where
  name := name
  protocol := listener.protocol
  port := listener.port
  enabled := listener.enabled
  status := if listener.enabled then "listening" else "disabled"

def buildInputList (inputs : InputsConfig) : List InputInfo :=
  (inputs.syslog.map (inputInfo "Syslog")).toList ++
    (inputs.netflow.map (inputInfo "NetFlow v5")).toList ++
    (inputs.snmp.map (inputInfo "SNMP Traps")).toList ++
    (inputs.ipfix.map (inputInfo "IPFIX/NetFlow v9")).toList ++
    (inputs.wef.map (inputInfo "Windows Event Fwd")).toList ++
    (inputs.httpWebhook.map (inputInfo "HTTP Webhook")).toList

/-- What `snapshot` reads that no frame changes. -/
structure StateSettings where
  sensorName : String
  captureInterface : String
  captureMode : String
  captureEnabled : Bool
  promisc : Bool
  snapLen : Nat
  kafkaTopic : String
  kafkaBrokers : List String
  inputs : InputsConfig
  ips : IpsConfig
  deriving DecidableEq, Repr

/-- `snapshot`, and the metrics afterwards. -/
def snapshot (encode : EncodeMetrics) (settings : StateSettings) (uptimeSecs : Nat)
    (metrics : Metrics) (tracker : FlowTracker) (engine : IpsEngine)
    (dissectors : DissectorConfig) : SensorStateResponse × Metrics :=
  let packetsTotal := parsePromTotal ((encode metrics).toOption.getD []) packetsTotalName
  let activeFlows : Int := tracker.activeCount
  let metrics := { metrics with activeFlows := activeFlows }
  ({ sensor := ⟨settings.sensorName, "0.1.0", uptimeSecs, "running", metrics.ramUsageBytes⟩
     capture := ⟨settings.captureInterface, settings.captureMode, settings.promisc,
      settings.snapLen, packetsTotal, settings.captureEnabled⟩
     activeFlows := activeFlows
     ips := buildIpsInfo engine settings.ips
     kafka := ⟨settings.kafkaTopic, settings.kafkaBrokers, metrics.kafkaLag,
      metrics.kafkaDeliveryErrorsTotal⟩
     dlq := ⟨metrics.dlqSizeBytes, 0⟩
     dissectors := buildDissectorList dissectors
     inputs := buildInputList settings.inputs }, metrics)

end GeSensor.Dashboard
