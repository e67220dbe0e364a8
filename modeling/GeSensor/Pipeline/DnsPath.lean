/-
  Pipeline/DnsPath.lean --- query names on the path from frame to flow record.

  The flow record has room for the DNS names of its flow, the tracker takes a
  name with every packet, and there is a dissector that finds it.  The pipeline
  never calls that dissector and passes no name to `update`, so that the list of
  every flow stays empty, whatever queries the flow carries.
-/
import GeSensor.Dissectors.Dns
import GeSensor.Pipeline.Inspection

set_option autoImplicit false

namespace GeSensor.Pipeline

open GeSensor.Dissectors
open GeSensor.Flow
open GeSensor.Foundation
open GeSensor.Ips
open GeSensor.Net

/-! ## Sequences of queries -/

/-- A frame with complete IP and UDP headers to port 53 whose payload parses to a
query name that is not empty. -/
structure DnsQueryFrame where
  data : Bytes
  ip : IpHeader
  udp : TransportHeader
  queryName : String
  ipHeader : ipHeader? data = some ip
  protocol : ip.protocol = 17
  udpHeader : udpHeader? data ip.l4 = some udp
  dstPort : udp.dstPort = 53
  parses : ∃ depth info, dissectDns depth data udp.payload = .ok (some info) ∧
    info.queryName = queryName
  nonempty : queryName ≠ ""

/-- A query is captured, or the eviction task sweeps the flow table. -/
inductive DnsEvent where
  | query (readings : FrameReadings) (frame : DnsQueryFrame)
  | evictIdle (order : FlowOrder) (now : Instant)

def DnsEvent.toSensorEvent : DnsEvent → SensorEvent
  | .query readings frame => .frame readings frame.data
  | .evictIdle order now => .evictIdle order now

/-- The name an event brings; a sweep brings none. -/
def DnsEvent.queryName : DnsEvent → String
  | .query _ frame => frame.queryName
  | .evictIdle _ _ => ""

/-- The tracker calls of a sequence, each tagged with the name of its query. -/
def namedCalls (config : DissectorConfig) (events : List DnsEvent) :
    List (FlowTracker.Call × String) :=
  events.flatMap fun event =>
    (event.toSensorEvent.trackerCalls config).map fun call => (call, event.queryName)

/-- The query names of a flow's frames since its creation, cut to the first 16. -/
def expectedQueries (settings : SensorSettings) (events : List DnsEvent) (key : FlowKey) :
    List String :=
  (((TrackerRun.ofCalls settings.flows (namedCalls settings.dissectors events)).ledger.openItems
    key).map Prod.fst).take 16

/-- Every live flow holds the query names of its frames. -/
def NamesReachFlows (settings : SensorSettings) (events : List DnsEvent) (final : Sensor) : Prop :=
  ∀ key record, final.flowTracker.get key = some record →
    record.dnsQueries = expectedQueries settings events key

/-! ## What the tracker is told -/

/-- With the DNS dissector on a query is inspected. -/
theorem inspected_of_query {config : DissectorConfig} (hdns : config.dns = true)
    (frame : DnsQueryFrame) : ∃ inspected, inspected? config frame.data = some inspected := by
  obtain ⟨packet, hdissect, hname, hsrc, hdst⟩ :=
    dissectPacket_of_udp_dns frame.ipHeader frame.protocol frame.udpHeader frame.dstPort
  refine ⟨⟨packet, frame.ip.src, frame.ip.dst⟩, ?_⟩
  rw [inspected?, addressed?, hdissect]
  simp only [hsrc, hdst]
  rw [Option.filter_eq_some_iff]
  refine ⟨rfl, ?_⟩
  rw [hname]
  exact hdns

/-- The pipeline's tracker calls are the tagged ones, without their tags. -/
theorem trackerCalls_eq_namedCalls (config : DissectorConfig) (events : List DnsEvent) :
    trackerCalls config (events.map DnsEvent.toSensorEvent) =
      (namedCalls config events).map Prod.fst := by
  induction events with
  | nil => rfl
  | cons event rest ih =>
      have hsame : event.toSensorEvent.togglesAfter config = config := by
        cases event <;> rfl
      have htags : ((event.toSensorEvent.trackerCalls config).map fun call =>
          (call, event.queryName)).map Prod.fst = event.toSensorEvent.trackerCalls config := by
        rw [List.map_map]
        exact List.map_id _
      rw [List.map_cons, trackerCalls, hsame, ih]
      simp only [namedCalls, List.flatMap_cons, List.map_append, htags]

/-- No packet that the pipeline reports carries a name. -/
theorem dnsQuery_of_mem_namedCalls {config : DissectorConfig} {events : List DnsEvent}
    {item : String × FlowPacket} (hmem : item ∈ taggedPackets (namedCalls config events)) :
    item.2.dnsQuery = none := by
  obtain ⟨⟨call, name⟩, hcall, hitem⟩ := List.mem_filterMap.mp hmem
  obtain ⟨event, _, hevent⟩ := List.mem_flatMap.mp hcall
  obtain ⟨call', hcall', heq⟩ := List.mem_map.mp hevent
  cases heq
  cases event with
  | query readings frame =>
      simp only [DnsEvent.toSensorEvent, SensorEvent.trackerCalls, Option.mem_toList,
        Option.map_eq_some_iff] at hcall'
      obtain ⟨inspected, _, hupdate⟩ := hcall'
      subst hupdate
      cases hitem
      rfl
  | evictIdle order now =>
      simp only [DnsEvent.toSensorEvent, SensorEvent.trackerCalls, List.mem_singleton] at hcall'
      subst hcall'
      cases hitem

/-! ## What the flows hold -/

/-- After any run of queries and sweeps a live flow holds no name, though it has
carried a query. -/
theorem live_flow_without_names (settings : SensorSettings) (events : List DnsEvent)
    {key : FlowKey} {record : FlowRecord}
    (hlive : ((FlowTracker.new settings.flows).runCalls
      ((namedCalls settings.dissectors events).map Prod.fst)).get key = some record) :
    record.dnsQueries = [] ∧ expectedQueries settings events key ≠ [] := by
  rw [← TrackerRun.ofCalls_tracker] at hlive
  obtain ⟨haccounts, _⟩ :=
    TrackerRun.accounts settings.flows (namedCalls settings.dissectors events)
  obtain ⟨hopen, hsummary⟩ := haccounts.live key record hlive
  refine ⟨?_, ?_⟩
  · have hnone : ∀ packet ∈ packetsOf ((TrackerRun.ofCalls settings.flows
        (namedCalls settings.dissectors events)).ledger.openItems key),
        packet.dnsQuery = none := by
      intro packet hpacket
      obtain ⟨item, hitem, rfl⟩ := List.mem_map.mp hpacket
      have hadded := Ledger.mem_addedItems_of_mem_openItems hitem
      rw [TrackerRun.addedItems_history] at hadded
      exact dnsQuery_of_mem_namedCalls hadded
    rw [hsummary.dnsQueries, List.filterMap_eq_nil_iff.mpr hnone, List.take_nil]
  · rw [expectedQueries]
    simpa using hopen

/-- A query leaves its flow live. -/
theorem live_flow_after_query (settings : SensorSettings) (hdns : settings.dissectors.dns = true)
    (events : List DnsEvent) (readings : FrameReadings) (frame : DnsQueryFrame) :
    ∃ key record, ((FlowTracker.new settings.flows).runCalls
      ((namedCalls settings.dissectors (events ++ [.query readings frame])).map Prod.fst)).get
        key = some record := by
  obtain ⟨inspected, hinspected⟩ := inspected_of_query hdns frame
  have hcalls : (namedCalls settings.dissectors (events ++ [.query readings frame])).map Prod.fst =
      (namedCalls settings.dissectors events).map Prod.fst ++
        [.update readings.order readings.now readings.created inspected.updateArgs] := by
    simp [namedCalls, DnsEvent.toSensorEvent, SensorEvent.trackerCalls, hinspected]
  rw [hcalls, FlowTracker.runCalls, List.foldl_append]
  exact ⟨_, _, HashMap.lookup_upsert _ _ _ _⟩

/-- A run of queries and sweeps leaves the flow table that the tagged calls lead to. -/
theorem run_queries (spare : Nat → Nat) (settings : SensorSettings) (events : List DnsEvent) :
    ∃ results final, (Sensor.start spare settings).run spare
        (events.map DnsEvent.toSensorEvent) = .ok (results, final) ∧
      final.flowTracker = (FlowTracker.new settings.flows).runCalls
        ((namedCalls settings.dissectors events).map Prod.fst) := by
  obtain ⟨results, final, hrun, heffect⟩ := run_effect spare
    (events.map DnsEvent.toSensorEvent) (Sensor.start_ringValid spare settings)
  refine ⟨results, final, hrun, ?_⟩
  rw [heffect.flows, ← trackerCalls_eq_namedCalls]
  rfl

/-- No live flow of that table holds the names of its queries. -/
theorem dnsQueries_ne_expectedQueries {settings : SensorSettings} {events : List DnsEvent}
    {final : Sensor} (hflows : final.flowTracker = (FlowTracker.new settings.flows).runCalls
      ((namedCalls settings.dissectors events).map Prod.fst))
    {key : FlowKey} {record : FlowRecord} (hlive : final.flowTracker.get key = some record) :
    record.dnsQueries ≠ expectedQueries settings events key := by
  intro heq
  rw [hflows] at hlive
  obtain ⟨hempty, hexpected⟩ := live_flow_without_names settings events hlive
  exact hexpected (heq ▸ hempty)

/-- Right after a query some flow is live, so not all flows hold their names. -/
theorem not_namesReachFlows_after_query {settings : SensorSettings}
    (hdns : settings.dissectors.dns = true) {events : List DnsEvent} {readings : FrameReadings}
    {frame : DnsQueryFrame} {final : Sensor}
    (hflows : final.flowTracker = (FlowTracker.new settings.flows).runCalls
      ((namedCalls settings.dissectors (events ++ [.query readings frame])).map Prod.fst)) :
    ¬ NamesReachFlows settings (events ++ [.query readings frame]) final := by
  intro hreach
  obtain ⟨key, record, hlive⟩ := live_flow_after_query settings hdns events readings frame
  rw [← hflows] at hlive
  exact dnsQueries_ne_expectedQueries hflows hlive (hreach key record hlive)

/-- With the DNS dissector on, after every run of queries and sweeps: no live flow
holds the names of its queries, so that after a query not all flows do. -/
theorem names_never_reach_flows (spare : Nat → Nat) {settings : SensorSettings}
    (hdns : settings.dissectors.dns = true) (events : List DnsEvent) :
    ∃ results final, (Sensor.start spare settings).run spare
        (events.map DnsEvent.toSensorEvent) = .ok (results, final) ∧
      (∀ key record, final.flowTracker.get key = some record →
        record.dnsQueries ≠ expectedQueries settings events key) ∧
      ∀ earlier readings frame, events = earlier ++ [.query readings frame] →
        ¬ NamesReachFlows settings events final := by
  obtain ⟨results, final, hrun, hflows⟩ := run_queries spare settings events
  refine ⟨results, final, hrun, ?_, ?_⟩
  · intro key record hlive
    exact dnsQueries_ne_expectedQueries hflows hlive
  · intro earlier readings frame hevents
    subst hevents
    exact not_namesReachFlows_after_query hdns hflows

/-- A query for "a.b". -/
def sampleQuery : DnsQueryFrame where
  data :=
    [0, 0, 0, 0, 0, 0, 0, 0, 0, 0, 0, 0, 0x08, 0x00, 0x45, 0, 0, 49, 0, 0, 0, 0, 64, 17, 0, 0,
      192, 168, 1, 10, 8, 8, 8, 8, 0xD4, 0x31, 0, 53, 0, 29, 0, 0, 0xAB, 0xCD, 1, 0, 0, 1, 0, 0,
      0, 0, 0, 0, 1, 97, 1, 98, 0, 0, 1, 0, 1]
  ip := ⟨17, .newV4 192 168 1 10, .newV4 8 8 8 8, 34⟩
  udp := ⟨54321, 53, 0, 42⟩
  queryName := "a.b"
  ipHeader := by decide
  protocol := rfl
  udpHeader := by decide
  dstPort := rfl
  parses := ⟨1, ⟨0xABCD, false, 1, 0, "a.b", 1⟩, by decide, rfl⟩
  nonempty := by decide

/-- `names_never_reach_flows` at one query. -/
theorem names_never_reach_flows_sampleQuery :
    ∃ results final, (Sensor.start (fun _ => 0) .standard).run (fun _ => 0)
        ([DnsEvent.query .zero sampleQuery].map DnsEvent.toSensorEvent) =
          .ok (results, final) ∧
      (∀ key record, final.flowTracker.get key = some record →
        record.dnsQueries ≠
          expectedQueries .standard [.query .zero sampleQuery] key) ∧
      ∀ earlier readings frame,
        [DnsEvent.query .zero sampleQuery] = earlier ++ [.query readings frame] →
        ¬ NamesReachFlows .standard [.query .zero sampleQuery] final :=
  names_never_reach_flows (fun _ => 0) rfl [.query .zero sampleQuery]

/-- After one query for "a.b" its flow holds no name. -/
theorem sampleQuery_name_lost :
    ∃ results final, (Sensor.start (fun _ => 0) .standard).run (fun _ => 0)
        ([DnsEvent.query .zero sampleQuery].map DnsEvent.toSensorEvent) =
          .ok (results, final) ∧
      ¬ NamesReachFlows .standard [.query .zero sampleQuery] final := by
  obtain ⟨results, final, hrun, hflows⟩ :=
    run_queries (fun _ => 0) .standard [.query .zero sampleQuery]
  have hdns : SensorSettings.standard.dissectors.dns = true := rfl
  have hquery : [DnsEvent.query .zero sampleQuery] = [] ++ [.query .zero sampleQuery] := rfl
  refine ⟨results, final, hrun, ?_⟩
  rw [hquery] at hflows ⊢
  exact not_namesReachFlows_after_query hdns hflows

end GeSensor.Pipeline
