/-
  Pipeline/Capture.lean --- the capture pipeline of `src/main.rs`.

  A captured frame is pushed to the forensic ring, dissected, skipped when its
  protocol's dissector is switched off, and otherwise accounted in the flow
  tracker and evaluated by the IPS engine.  Between frames the dashboard may
  change the toggles, the IPS mode and the rules, and the eviction task may sweep
  the flow table.

  Readings of the clocks and the iteration order of the flow table are part of
  the event.  Metrics, log lines, the packets tab, the IPS event list and the
  capture files written on an alert are left out: nothing reads them back into
  the state kept here.
-/
import GeSensor.Dissectors.Packet
import GeSensor.Flow.Tracker
import GeSensor.Ips.Engine
import GeSensor.PcapStore.RingRuns

set_option autoImplicit false

namespace GeSensor.Pipeline

open GeSensor.Dissectors
open GeSensor.Flow
open GeSensor.Foundation
open GeSensor.Ips
open GeSensor.Net
open GeSensor.PcapStore

/-! ## Dissector toggles -/

/-- Protocol dissector toggle flags. -/
structure DissectorConfig where
  tcp : Bool := true
  udp : Bool := true
  icmp : Bool := true
  dns : Bool := true
  http : Bool := true
  tls : Bool := true
  ntp : Bool := true
  dhcp : Bool := true
  modbus : Bool := false
  dnp3 : Bool := false
  bacnet : Bool := false
  ethernetIp : Bool := false
  deriving DecidableEq, Repr

/-- The toggle that the pipeline looks up for a protocol name. -/
def DissectorConfig.isEnabled (config : DissectorConfig) : ProtocolName → Bool
  | .tcp | .tcpTruncated => config.tcp
  | .udp => config.udp
  | .icmp => config.icmp
  | .dns => config.dns
  | .http => config.http
  | .tls => config.tls
  | .ntp => config.ntp
  | .dhcp => config.dhcp
  | .modbus => config.modbus
  | .dnp3 => config.dnp3
  | .bacnet => config.bacnet
  | .enip => config.ethernetIp
  | .quic => config.udp
  | _ => true

/-- Toggle a dissector on or off; `none` for an unknown name.  Only ASCII letters
have lower-case forms that occur in the names. -/
def DissectorConfig.toggle (config : DissectorConfig) (name : String) (state : Bool) :
    Option DissectorConfig :=
  match String.ofList (name.toList.map Char.toLower) with
  | "tcp" => some { config with tcp := state }
  | "udp" => some { config with udp := state }
  | "icmp" => some { config with icmp := state }
  | "dns" => some { config with dns := state }
  | "http" => some { config with http := state }
  | "tls" => some { config with tls := state }
  | "ntp" => some { config with ntp := state }
  | "dhcp" => some { config with dhcp := state }
  | "modbus" => some { config with modbus := state }
  | "dnp3" => some { config with dnp3 := state }
  | "bacnet" | "bacnet/ip" => some { config with bacnet := state }
  | "ethernet/ip" | "enip" => some { config with ethernetIp := state }
  | _ => none

/-! ## The sensor -/

/-- The state that the pipeline shares with the dashboard and the eviction task. -/
structure Sensor where
  pcapRing : PacketRingBuffer
  dissectors : DissectorConfig
  flowTracker : FlowTracker
  ipsEngine : IpsEngine

/-- The settings a sensor is started with. -/
structure SensorSettings where
  /-- bytes of the forensic ring -/
  ringBytes : Nat
  dissectors : DissectorConfig
  flows : FlowTrackerConfig
  ipsMode : IpsMode

/-- The settings of a default configuration. -/
def SensorSettings.standard : SensorSettings where
  ringBytes := 512 * 1024 * 1024
  dissectors := {}
  flows := {}
  ipsMode := .tap

/-- The sensor when the capture thread starts. -/
def Sensor.start (spare : Nat → Nat) (settings : SensorSettings) : Sensor where
  pcapRing := .new spare settings.ringBytes
  dissectors := settings.dissectors
  flowTracker := .new settings.flows
  ipsEngine := (IpsEngine.new settings.ipsMode .pass).loadDefaultRules

/-- What the clocks read while a frame is processed, and how the flow table is
iterated over. -/
structure FrameReadings where
  tsSec : UInt32
  tsUsec : UInt32
  now : Instant
  created : Instant
  order : FlowOrder

/-- The clocks at zero, and the flow table visited as it is stored. -/
def FrameReadings.zero : FrameReadings where
  tsSec := 0
  tsUsec := 0
  now := 0
  created := 0
  order := .id _

/-- What becomes of a frame. -/
inductive FrameOutcome where
  /-- counted as malformed -/
  | malformed
  /-- skipped: the protocol's dissector is switched off -/
  | disabled
  /-- recorded with a verdict and the id of the matched rule -/
  | recorded (verdict : Verdict) (ruleId : String)
  deriving DecidableEq, Repr

/-- What a frame leads to: its outcome and the calls of `evaluate` made for it. -/
structure FrameResult where
  outcome : FrameOutcome
  evaluateCalls : List EvaluateArgs := []
  deriving DecidableEq, Repr

/-- The arguments that the pipeline passes to `FlowTracker::update`. -/
def updateArgs (packet : PacketMetadata) (srcIp dstIp : IpAddr) : FlowPacket where
  srcIp := srcIp
  dstIp := dstIp
  srcPort := packet.srcPort
  dstPort := packet.dstPort
  protocol := packet.ipProto
  packetLen := .ofNat packet.payloadLen
  tcpFlags := packet.tcpFlags
  dnsQuery := none

/-- The arguments that the pipeline passes to `IpsEngine::evaluate`. -/
def evaluateArgs (packet : PacketMetadata) (srcIp dstIp : IpAddr) : EvaluateArgs where
  srcIp := some srcIp
  dstIp := some dstIp
  srcPort := packet.srcPort
  dstPort := packet.dstPort
  protocol := packet.ipProto
  tcpFlags := packet.tcpFlags
  modbusFunc := none
  dnp3Func := none

/-- Process one captured frame. -/
def Sensor.processFrame (spare : Nat → Nat) (sensor : Sensor) (readings : FrameReadings)
    (data : Bytes) : Checked (FrameResult × Sensor) := do
  let pcapRing ← sensor.pcapRing.push spare
    { tsSec := readings.tsSec, tsUsec := readings.tsUsec, data := data }
  let sensor := { sensor with pcapRing := pcapRing }
  match ← dissectPacket data with
  | none => return ({ outcome := .malformed }, sensor)
  | some packet =>
      if !sensor.dissectors.isEnabled packet.protocolName then
        return ({ outcome := .disabled }, sensor)
      else
        match packet.srcIp, packet.dstIp with
        | some srcIp, some dstIp =>
            let (_, flowTracker) := sensor.flowTracker.update readings.order readings.now
              readings.created (updateArgs packet srcIp dstIp)
            let args := evaluateArgs packet srcIp dstIp
            let ((verdict, matched), ipsEngine) := sensor.ipsEngine.evaluate args
            let ruleId := (matched.map IpsRule.id).getD ""
            return ({ outcome := .recorded verdict ruleId, evaluateCalls := [args] },
              { sensor with flowTracker := flowTracker, ipsEngine := ipsEngine })
        | _, _ => return ({ outcome := .recorded .pass "" }, sensor)

/-- What can happen to a running sensor. -/
inductive SensorEvent where
  /-- the capture thread receives a frame -/
  | frame (readings : FrameReadings) (data : Bytes)
  /-- `toggle_dissector` -/
  | toggleDissector (name : String) (state : Bool)
  /-- the eviction task runs -/
  | evictIdle (order : FlowOrder) (now : Instant)
  /-- `set_ips_mode` -/
  | setIpsMode (mode : IpsMode)
  /-- `add_ips_rule`, with a rule already parsed -/
  | addIpsRule (rule : IpsRule)
  /-- `delete_ips_rule` -/
  | deleteIpsRule (ruleId : String)

/-- One event: what became of the frame, if it was one, and the sensor after it. -/
def Sensor.step (spare : Nat → Nat) (sensor : Sensor) :
    SensorEvent → Checked (Option FrameResult × Sensor)
  | .frame readings data => do
      let (result, sensor) ← sensor.processFrame spare readings data
      return (some result, sensor)
  | .toggleDissector name state =>
      .ok (none,
        { sensor with dissectors := (sensor.dissectors.toggle name state).getD sensor.dissectors })
  | .evictIdle order now =>
      .ok (none, { sensor with flowTracker := (sensor.flowTracker.evictIdle order now).2 })
  | .setIpsMode mode => .ok (none, { sensor with ipsEngine := sensor.ipsEngine.setMode mode })
  | .addIpsRule rule =>
      if sensor.ipsEngine.rules.any fun other => other.id == rule.id then .ok (none, sensor)
      else .ok (none, { sensor with ipsEngine := sensor.ipsEngine.addRule rule })
  | .deleteIpsRule ruleId =>
      .ok (none, { sensor with ipsEngine := (sensor.ipsEngine.removeRule ruleId).2 })

/-- A sequence of events: one result for each. -/
def Sensor.run (spare : Nat → Nat) (sensor : Sensor) :
    List SensorEvent → Checked (List (Option FrameResult) × Sensor)
  | [] => .ok ([], sensor)
  | event :: rest => do
      let (result, sensor) ← sensor.step spare event
      let (results, final) ← sensor.run spare rest
      return (result :: results, final)

end GeSensor.Pipeline
