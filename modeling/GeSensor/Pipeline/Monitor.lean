/-
  Pipeline/Monitor.lean --- one frame of the pipeline as the visits that it makes.

  The capture thread of `src/main.rs` does not process a frame under one lock.  It pushes
  the frame to the forensic ring, reads the toggles, counts the packet, updates the flow
  tracker, calls the engine, counts the alert, pushes the event and pushes the row of the
  packets tab, and each of these has a lock of its own.  The dashboard and the eviction
  task come in between.  (The engine's lock is held on while the event is pushed, the
  settings are read and the capture of an alert is written.  Here it is not, which allows
  more interleavings, not fewer.)

  The capture file that an alert may write is left out: it reads the forensic ring and
  writes nothing that a frame reads.  So is the gauge `ge_active_flows`: nothing reads it
  but `/metrics`, and `snapshot` sets it after it has given back the tracker's lock, to a
  count that may be out of date by then.
-/
import GeSensor.Dashboard.PacketsTab
import GeSensor.Foundation.Totals
import GeSensor.Foundation.Transactions
import GeSensor.Pipeline.Inspection

set_option autoImplicit false

namespace GeSensor.Pipeline

open GeSensor.Dashboard
open GeSensor.Dissectors
open GeSensor.Flow
open GeSensor.Foundation
open GeSensor.Ips
open GeSensor.Net
open GeSensor.PcapStore

/-! ## Cells -/

/-- What has a lock of its own, or is counted atomically. -/
inductive SensorCell where
  | pcapRing
  | dissectors
  /-- `ge_packets_total`, by interface and protocol -/
  | packetsTotal
  | flowTracker
  | ipsEngine
  /-- `ge_alerts_total`, by severity -/
  | alertsTotal
  | ipsEvents
  | packetRing
  deriving DecidableEq, Repr

abbrev SensorValue : SensorCell → Type
  | .pcapRing => PacketRingBuffer
  | .dissectors => DissectorConfig
  | .packetsTotal => Counters (String × List Char)
  | .flowTracker => FlowTracker
  | .ipsEngine => IpsEngine
  | .alertsTotal => Counters String
  | .ipsEvents => IpsEventRing
  | .packetRing => PacketRing

/-- The cells that `Sensor` holds. -/
def Sensor.ofCells (cells : Cells SensorValue) : Sensor where
  pcapRing := cells .pcapRing
  dissectors := cells .dissectors
  flowTracker := cells .flowTracker
  ipsEngine := cells .ipsEngine

/-- The cells when the capture thread starts. -/
def startCells (spare : Nat → Nat) (settings : SensorSettings) : Cells SensorValue
  | .pcapRing => (Sensor.start spare settings).pcapRing
  | .dissectors => (Sensor.start spare settings).dissectors
  | .packetsTotal => (∅ : Counters (String × List Char))
  | .flowTracker => (Sensor.start spare settings).flowTracker
  | .ipsEngine => (Sensor.start spare settings).ipsEngine
  | .alertsTotal => (∅ : Counters String)
  | .ipsEvents => IpsEventRing.mk []
  | .packetRing => PacketRing.mk [] 0

/-! ## A frame -/

/-- A frame that `next_packet` returned, and what the clocks read while it is processed. -/
structure CapturedFrame where
  /-- the interface that the frame was captured on -/
  iface : String
  data : Bytes
  origLen : UInt32
  readings : FrameReadings
  /-- time since sensor start when an event is pushed -/
  eventTime : Duration
  /-- time since sensor start when the row is pushed -/
  rowTime : Duration

/-- The label of frames that do not dissect. -/
def malformedLabel : List Char := "malformed".toList

/-- What became of a frame: its outcome, and what was counted and pushed for it. -/
structure FrameReport where
  result : FrameResult
  counted : Option (String × List Char) := none
  event : Option IpsEventRecord := none
  row : Option PacketRecord := none
  deriving DecidableEq, Repr

/-- Push the row of the packets tab, the last visit for a frame. -/
def pushRow (frame : CapturedFrame) (packet : PacketMetadata) (calls : List EvaluateArgs)
    (event : Option IpsEventRecord) (verdict : Verdict) (ruleId : String) :
    Transaction SensorValue FrameReport :=
  let row := buildPacketRecord packet frame.origLen frame.rowTime verdict ruleId
  .visit .packetRing (fun ring => some (PacketRing.push ring row)) fun _ =>
    .done
      { result := { outcome := .recorded verdict ruleId, evaluateCalls := calls }
        counted := some (frame.iface, protocolText packet.protocolName)
        event := event
        row := some row }

/-- Count and list an alert, if a rule matched, and push the row. -/
def reportVerdict (frame : CapturedFrame) (packet : PacketMetadata) (srcIp dstIp : IpAddr) :
    Verdict × Option IpsRule → Transaction SensorValue FrameReport
  | (verdict, none) => pushRow frame packet [evaluateArgs packet srcIp dstIp] none verdict ""
  | (verdict, some rule) =>
      let event := ipsEventRecord packet srcIp dstIp frame.eventTime verdict rule
      .visit .alertsTotal (fun counters => some (Counters.inc counters rule.severity)) fun _ =>
      .visit .ipsEvents (fun ring => some (IpsEventRing.push ring event)) fun _ =>
      pushRow frame packet [evaluateArgs packet srcIp dstIp] (some event) verdict rule.id

/-- Track and evaluate a packet with both addresses. -/
def inspectPacket (frame : CapturedFrame) (packet : PacketMetadata) (srcIp dstIp : IpAddr) :
    Transaction SensorValue FrameReport :=
  .visit .flowTracker
    (fun tracker => some (FlowTracker.update tracker frame.readings.order frame.readings.now
      frame.readings.created (updateArgs packet srcIp dstIp)).2) fun _ =>
  .visit .ipsEngine
    (fun engine => some (IpsEngine.evaluate engine (evaluateArgs packet srcIp dstIp)).2)
    fun engine => reportVerdict frame packet srcIp dstIp
      (IpsEngine.evaluate engine (evaluateArgs packet srcIp dstIp)).1

/-- Count a packet whose dissector is on, and look at it. -/
def countPacket (frame : CapturedFrame) (packet : PacketMetadata) :
    Transaction SensorValue FrameReport :=
  let label := (frame.iface, protocolText packet.protocolName)
  .visit .packetsTotal (fun counters => some (Counters.inc counters label)) fun _ =>
  match packet.srcIp, packet.dstIp with
  | some srcIp, some dstIp => inspectPacket frame packet srcIp dstIp
  | _, _ => pushRow frame packet [] none .pass ""

/-- What follows on the dissection of a frame. -/
def dissectedVisits (frame : CapturedFrame) :
    Option PacketMetadata → Transaction SensorValue FrameReport
  | none =>
      let label := (frame.iface, malformedLabel)
      .visit .packetsTotal (fun counters => some (Counters.inc counters label)) fun _ =>
        .done { result := { outcome := .malformed }, counted := some label }
  | some packet =>
      .visit .dissectors some fun config =>
        if !DissectorConfig.isEnabled config packet.protocolName then
          .done { result := { outcome := .disabled } }
        else countPacket frame packet

/-- Process one captured frame. -/
def frameVisits (spare : Nat → Nat) (frame : CapturedFrame) :
    Transaction SensorValue FrameReport :=
  let packet : Packet :=
    { tsSec := frame.readings.tsSec, tsUsec := frame.readings.tsUsec, data := frame.data }
  .visit .pcapRing (fun ring => (PacketRingBuffer.push spare ring packet).toOption) fun _ =>
    match dissectPacket frame.data with
    | .error _ => .panic
    | .ok answer => dissectedVisits frame answer

/-! ## The other threads -/

/-- What the dashboard and the eviction task do between two visits. -/
inductive SensorOp where
  | toggleDissector (name : String) (state : Bool)
  | evictIdle (order : FlowOrder) (now : Instant)
  | setIpsMode (mode : IpsMode)
  | addIpsRule (rule : IpsRule)
  | deleteIpsRule (ruleId : String)

def SensorOp.meaning : SensorOp → CellOp SensorValue
  | .toggleDissector name state =>
      { cell := .dissectors
        act := fun config => (DissectorConfig.toggle config name state).getD config }
  | .evictIdle order now =>
      { cell := .flowTracker
        act := fun tracker => (FlowTracker.evictIdle tracker order now).2 }
  | .setIpsMode mode =>
      { cell := .ipsEngine, act := fun engine => IpsEngine.setMode engine mode }
  | .addIpsRule rule =>
      { cell := .ipsEngine
        act := fun engine =>
          if engine.rules.any fun other => other.id == rule.id then engine
          else IpsEngine.addRule engine rule }
  | .deleteIpsRule ruleId =>
      { cell := .ipsEngine, act := fun engine => (IpsEngine.removeRule engine ruleId).2 }

/-- The operation as an event of the sensor. -/
def SensorOp.event : SensorOp → SensorEvent
  | .toggleDissector name state => .toggleDissector name state
  | .evictIdle order now => .evictIdle order now
  | .setIpsMode mode => .setIpsMode mode
  | .addIpsRule rule => .addIpsRule rule
  | .deleteIpsRule ruleId => .deleteIpsRule ruleId

/-- The frame as an event of the sensor. -/
def CapturedFrame.event (frame : CapturedFrame) : SensorEvent :=
  .frame frame.readings frame.data

/-- A move of the capture thread or of another one. -/
abbrev MonitorLabel : Type := ThreadLabel CapturedFrame SensorOp

/-- The cells, the frame under way and the reports so far. -/
abbrev Monitor : Type := Interleaving SensorValue FrameReport

namespace Monitor

def start (spare : Nat → Nat) (settings : SensorSettings) : Monitor where
  cells := startCells spare settings
  running := none
  results := []

/-- One move; `none` when it is not possible. -/
def step (spare : Nat → Nat) : Monitor → MonitorLabel → Option Monitor :=
  interleave SensorOp.meaning (frameVisits spare)

end Monitor

end GeSensor.Pipeline
