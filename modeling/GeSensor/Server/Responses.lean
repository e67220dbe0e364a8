/-
  Server/Responses.lean --- what `start_metrics_server` answers.

  Each endpoint calls an operation of the sensor and puts the result into a body: a
  result that `serde_json` writes, or a text spliced into a format string.  An answer is
  its status, its content type, its further header lines and its body; the message of a
  JSON error is kept beside them, for the statements only.

  What the libraries and the system answer is an `Outside`: the devices, the files, the
  clocks, and what `serde_json` reads and writes.  The parts of the sensor that no
  handler changes (packets, flows, events, metrics) are behind `toJson`.
-/
import GeSensor.Dashboard.Captures
import GeSensor.Dashboard.IpsModeSwitch
import GeSensor.Dashboard.NewRule
import GeSensor.Dashboard.RuleApi
import GeSensor.Foundation.Json
import GeSensor.Pipeline.Capture
import GeSensor.Server.Routes

set_option autoImplicit false

namespace GeSensor.Server

open GeSensor.Dashboard
open GeSensor.Foundation
open GeSensor.Ips
open GeSensor.Pipeline

/-! ## The sensor and what it answers -/

/-- The state that the handlers read and write, and the configuration file. -/
structure AppState where
  sensorName : String
  captureInterface : String
  restartCapture : Bool
  captureEnabled : Bool
  dissectors : DissectorConfig
  ipsConfig : IpsConfig
  ipsEngine : IpsEngine
  pcapSeq : Nat
  pcapCaptures : List PcapCaptureRecord
  /-- `configs/ge-sensor.yml` -/
  configFile : Option Text

structure PcapDownloadResponse where
  ok : Bool
  captureId : String
  filePath : String
  sizeBytes : Nat

structure PcapBulkDownloadResponse where
  ok : Bool
  selected : Nat
  totalSizeBytes : Nat
  files : List String

/-- The duration of a capture is not kept here. -/
structure PcapReconstructResponse where
  ok : Bool
  captureId : String
  summary : String
  fiveTuple : String
  estimatedPackets : Nat

/-- A result that `serde_json` writes. -/
inductive ApiResult where
  | packets
  | interfaces
  | flows
  | storage (filter : Option Text)
  | captures (filter : Option Text)
  | capture (record : PcapCaptureRecord)
  | download (response : PcapDownloadResponse)
  | reconstruct (response : PcapReconstructResponse)
  | bulkDownload (response : PcapBulkDownloadResponse)
  | ipsRules (response : IpsRulesResponse)
  | ipsEvents
  | rule (rule : IpsRuleApi)
  | ips (info : IpsInfo)
  | state

/-- What the libraries, the system and the other threads do while a request is served. -/
structure Outside where
  /-- the names of `pcap::Device::list()` -/
  devices : List String
  /-- `serde_json::from_str::<Value>` -/
  valueFromStr : Text → Except String Json
  /-- `serde_json::from_str::<PcapBulkDownloadRequest>` -/
  bulkDownloadFromStr : Text → Except String (List String)
  /-- `serde_json::from_str::<NewIpsRuleRequest>` -/
  newRuleFromStr : Text → Except String NewIpsRuleRequest
  /-- `serde_json::to_string` -/
  toJson : AppState → ApiResult → Except String Text
  /-- `json!({"yaml": yaml}).to_string()` -/
  yamlJson : Text → Text
  /-- `std::fs::read`, when the index of the captures has been given back -/
  readFile : String → Except String Bytes
  /-- `std::fs::read_to_string` of the configuration file -/
  readConfig : Option Text → Except String Text
  /-- `std::fs::write` to the configuration file, and the file afterwards -/
  writeConfig : Option Text → Text → Except String Unit × Option Text
  /-- `flush_to_pcap`, and the size of the file -/
  flushToPcap : String → Except String Nat
  /-- the rules as other threads leave them while `add_ips_rule` holds no lock -/
  meanwhile : IpsEngine → IpsEngine
  summarizeRule : IpsRule → String
  encodeMetrics : Except String Text
  timestamp : Nat
  uptimeSecs : Nat

inductive Body where
  | text (text : Text)
  | file (bytes : Bytes)
  /-- the embedded dashboard page -/
  | page

structure Answer where
  status : String
  contentType : String
  headers : String
  body : Body
  error? : Option String

/-! ## Bodies -/

/-- The text that `format!` makes of a piece of text. -/
def literal (text : String) : Text := text.toList

def errorBody (message : String) : Text :=
  literal "\x7b\"error\":\"" ++ literal message ++ literal "\"\x7d"

def boolText (value : Bool) : Text := literal (if value then "true" else "false")

def interfaceBody (iface : String) : Text :=
  literal "\x7b\"ok\":true,\"interface\":\"" ++ literal iface ++ literal "\"\x7d"

def dissectorBody (name : String) (state : Bool) : Text :=
  literal "\x7b\"ok\":true,\"name\":\"" ++ literal name ++ literal "\",\"state\":" ++
    boolText state ++ literal "\x7d"

def capturingBody (current : Bool) : Text :=
  literal "\x7b\"ok\":true,\"capturing\":" ++ boolText current ++ literal "\x7d"

def ruleIdBody (ruleId : String) : Text :=
  literal "\x7b\"ok\":true,\"id\":\"" ++ literal ruleId ++ literal "\"\x7d"

def savedBody : Text := literal "\x7b\"ok\":true\x7d"

/-- `CARGO_PKG_VERSION`. -/
def version : String := "0.1.0"

def healthBody (sensorName iface : String) (uptimeSecs : Nat) : Text :=
  literal "\x7b\"status\":\"ok\",\"sensor\":\"" ++ literal sensorName ++
    literal "\",\"version\":\"" ++ literal version ++ literal "\",\"uptime_secs\":" ++
    Nat.toDigits 10 uptimeSecs ++ literal ",\"interface\":\"" ++ literal iface ++
    literal "\"\x7d"

namespace Answer

def json (text : Text) : Answer where
  status := "200 OK"
  contentType := "application/json"
  headers := ""
  body := .text text
  error? := none

def error (status message : String) : Answer where
  status := status
  contentType := "application/json"
  headers := ""
  body := .text (errorBody message)
  error? := some message

def badRequest : String → Answer := error "400 Bad Request"

def notFound : String → Answer := error "404 Not Found"

def serverError : String → Answer := error "500 Internal Server Error"

/-- `match serde_json::to_string(..)`. -/
def serialized : Except String Text → Answer
  | .ok text => json text
  | .error message => serverError message

def dashboard : Answer where
  status := "200 OK"
  contentType := "text/html; charset=utf-8"
  headers := ""
  body := .page
  error? := none

end Answer

/-! ## Operations -/

namespace AppState

/-- The capture with this id, or the message that there is none. -/
def findCapture (state : AppState) (captureId : String) : Except String PcapCaptureRecord :=
  match state.pcapCaptures.find? fun capture => capture.captureId == captureId with
  | some capture => .ok capture
  | none => .error ("capture '" ++ captureId ++ "' not found")

def pcapDownload (state : AppState) (captureId : String) : Except String PcapDownloadResponse :=
  (state.findCapture captureId).map fun capture =>
    { ok := true
      captureId := capture.captureId
      filePath := capture.filePath
      sizeBytes := capture.sizeBytes }

def pcapReconstruct (state : AppState) (captureId : String) :
    Except String PcapReconstructResponse :=
  (state.findCapture captureId).map fun capture =>
    { ok := true
      captureId := capture.captureId
      summary :=
        "Reconstructed session for " ++ capture.fiveTuple ++ " (" ++ capture.triggerType ++ ")"
      fiveTuple := capture.fiveTuple
      estimatedPackets := capture.sizeBytes / 128 }

def pcapBulkDownload (state : AppState) (ids : List String) : PcapBulkDownloadResponse :=
  let found := ids.filterMap fun id =>
    state.pcapCaptures.find? fun capture => capture.captureId == id
  { ok := true
    selected := found.length
    totalSizeBytes := (found.map PcapCaptureRecord.sizeBytes).sum
    files := found.map PcapCaptureRecord.filePath }

def setInterface (outside : Outside) (state : AppState) (iface : String) : Bool × AppState :=
  if outside.devices.contains iface then
    (true, { state with captureInterface := iface, restartCapture := true })
  else (false, state)

def toggleDissector (state : AppState) (name : String) (enabled : Bool) : Bool × AppState :=
  match state.dissectors.toggle name enabled with
  | some dissectors => (true, { state with dissectors := dissectors })
  | none => (false, state)

def setCaptureEnabled (state : AppState) (enabled : Bool) : Bool × AppState :=
  (enabled, { state with captureEnabled := enabled })

/-- `create_pcap_capture("manual", "manual snapshot", None)`. -/
def createPcapCapture (outside : Outside) (state : AppState) :
    Except String PcapCaptureRecord × AppState :=
  let call : CaptureCall := ⟨.manual, state.pcapSeq, outside.timestamp, [], false, .entered⟩
  let state := { state with pcapSeq := state.pcapSeq + 1 }
  match outside.flushToPcap call.path with
  | .error message => (.error ("failed to write pcap: " ++ message), state)
  | .ok sizeBytes =>
      let record := call.record sizeBytes
      let (_, kept) := evictOldest state.pcapCaptures
      (.ok record, { state with pcapCaptures := kept ++ [record] })

def addIpsRule (outside : Outside) (state : AppState) (request : NewIpsRuleRequest) :
    Except String IpsRuleApi × AppState :=
  match request.intoRule with
  | .error message => (.error message, state)
  | .ok rule =>
      if hasRule state.ipsEngine rule.id then (.error (alreadyExists rule.id), state)
      else
        let engine := outside.meanwhile (state.ipsEngine.addRule rule)
        let state := { state with ipsEngine := engine }
        match (ipsRules outside.summarizeRule engine).rules.find? fun added =>
            added.id == rule.id with
        | some added => (.ok added, state)
        | none => (.error "failed to read added rule", state)

def deleteIpsRule (state : AppState) (ruleId : String) : Except String Unit × AppState :=
  let (removed, engine) := state.ipsEngine.removeRule ruleId
  (if removed then .ok () else .error (Dashboard.notFound ruleId),
    { state with ipsEngine := engine })

def ipsInfo (state : AppState) : IpsInfo := buildIpsInfo state.ipsEngine state.ipsConfig

def setIpsMode (state : AppState) (mode : String) : Except String IpsInfo × AppState :=
  match parseMode mode with
  | .error message => (.error message, state)
  | .ok request =>
      let state := { state with
        ipsEngine := state.ipsEngine.setMode request.mode
        ipsConfig := { state.ipsConfig with mode := request.normalized, enabled := true } }
      (.ok state.ipsInfo, state)

end AppState

/-! ## Handlers -/

section

variable (outside : Outside) (state : AppState)

/-- An endpoint that only writes a result. -/
def resultAnswer (result : ApiResult) : Answer := .serialized (outside.toJson state result)

def pcapFileAnswer : Option Text → Answer
  | none => .badRequest "missing id"
  | some captureId =>
      match state.pcapDownload (String.ofList captureId) with
      | .error message => .notFound message
      | .ok found =>
          match outside.readFile found.filePath with
          | .error message => .notFound ("capture file unavailable: " ++ message)
          | .ok bytes =>
              { status := "200 OK"
                contentType := "application/vnd.tcpdump.pcap"
                headers := "Content-Disposition: attachment; filename=\"" ++ found.captureId ++
                  ".pcap\"\r\n"
                body := .file bytes
                error? := none }

def setInterfaceAnswer : Option Text → Answer × AppState
  | none => (.badRequest "missing iface parameter", state)
  | some iface =>
      let iface := String.ofList iface
      let (found, state) := state.setInterface outside iface
      (if found then .json (interfaceBody iface)
        else .notFound ("interface '" ++ iface ++ "' not found"), state)

def toggleDissectorAnswer : Option (Text × Bool) → Answer × AppState
  | none => (.badRequest "missing name parameter", state)
  | some (name, enabled) =>
      let name := String.ofList name
      let (found, state) := state.toggleDissector name enabled
      (if found then .json (dissectorBody name enabled)
        else .notFound ("dissector '" ++ name ++ "' not found"), state)

def captureToggleAnswer (enabled : Bool) : Answer × AppState :=
  let (current, state) := state.setCaptureEnabled enabled
  (.json (capturingBody current), state)

def postCaptureToggleAnswer : Option Text → Answer × AppState
  | none => (.badRequest "missing body", state)
  | some body =>
      match outside.valueFromStr body with
      | .error _ => (.badRequest "invalid json body", state)
      | .ok value =>
          match (value.get (literal "enabled")).bind Json.asBool with
          | none => (.badRequest "missing enabled field", state)
          | some enabled => captureToggleAnswer state enabled

def captureManualAnswer : Answer × AppState :=
  let (result, state) := state.createPcapCapture outside
  (match result with
    | .error message => .serverError message
    | .ok record => resultAnswer outside state (.capture record), state)

def pcapDownloadAnswer : Option Text → Answer
  | none => .badRequest "missing id"
  | some captureId =>
      match state.pcapDownload (String.ofList captureId) with
      | .error message => .notFound message
      | .ok response => resultAnswer outside state (.download response)

def pcapReconstructAnswer : Option Text → Answer
  | none => .badRequest "missing id"
  | some captureId =>
      match state.pcapReconstruct (String.ofList captureId) with
      | .error message => .notFound message
      | .ok response => resultAnswer outside state (.reconstruct response)

/-- The answer to a body that cannot be read as its type. -/
def invalidBody (message : String) : Answer := .badRequest ("invalid json body: " ++ message)

def bulkDownloadAnswer : Option Text → Answer
  | none => .badRequest "missing body"
  | some body =>
      match outside.bulkDownloadFromStr body with
      | .error message => invalidBody message
      | .ok ids => resultAnswer outside state (.bulkDownload (state.pcapBulkDownload ids))

def addIpsRuleAnswer : Option Text → Answer × AppState
  | none => (.badRequest "missing body", state)
  | some body =>
      match outside.newRuleFromStr body with
      | .error message => (invalidBody message, state)
      | .ok request =>
          let (result, state) := state.addIpsRule outside request
          (match result with
            | .error message => .badRequest message
            | .ok rule => resultAnswer outside state (.rule rule), state)

def deleteIpsRuleAnswer : Option (Option Text) → Answer × AppState
  | none => (.badRequest "invalid request line", state)
  | some none => (.badRequest "invalid delete path", state)
  | some (some ruleId) =>
      if ruleId = [] then (.badRequest "missing rule id", state)
      else
        let ruleId := String.ofList ruleId
        let (result, state) := state.deleteIpsRule ruleId
        (match result with
          | .error message => .notFound message
          | .ok () => .json (ruleIdBody ruleId), state)

def ipsModeAnswer : Option Text → Answer × AppState
  | none => (.badRequest "missing body", state)
  | some body =>
      match outside.valueFromStr body with
      | .error _ => (.badRequest "invalid json body", state)
      | .ok value =>
          match (value.get (literal "mode")).bind Json.asStr with
          | none => (.badRequest "missing mode field", state)
          | some mode =>
              let (result, state) := state.setIpsMode (String.ofList mode)
              (match result with
                | .error message => .badRequest message
                | .ok info => resultAnswer outside state (.ips info), state)

def getConfigAnswer : Answer :=
  match outside.readConfig state.configFile with
  | .ok yaml => .json (outside.yamlJson yaml)
  | .error message => .serverError message

def postConfigAnswer : Option Text → Answer × AppState
  | none => (.badRequest "missing body", state)
  | some body =>
      match outside.valueFromStr body with
      | .error _ => (.badRequest "invalid json body", state)
      | .ok value =>
          match (value.get (literal "yaml")).bind Json.asStr with
          | none => (.badRequest "missing yaml field", state)
          | some yaml =>
              let (result, file) := outside.writeConfig state.configFile yaml
              (match result with
                | .error message => .serverError message
                | .ok () => .json savedBody, { state with configFile := file })

def metricsAnswer : Answer :=
  match outside.encodeMetrics with
  | .ok text =>
      { status := "200 OK"
        contentType := "text/plain; version=0.0.4; charset=utf-8"
        headers := ""
        body := .text text
        error? := none }
  | .error message =>
      { status := "500 Internal Server Error"
        contentType := "text/plain"
        headers := ""
        body := .text (literal ("metrics error: " ++ message))
        error? := none }

def healthAnswer : Answer :=
  .json (healthBody state.sensorName state.captureInterface outside.uptimeSecs)

/-- The answer of an endpoint, and the sensor afterwards. -/
def endpointAnswer : Endpoint → Arguments → Answer × AppState
  | .pcapFile, .captureId captureId => (pcapFileAnswer outside state captureId, state)
  | .setInterface, .iface iface => setInterfaceAnswer outside state iface
  | .toggleDissector, .dissector name => toggleDissectorAnswer state name
  | .packets, _ => (resultAnswer outside state .packets, state)
  | .interfaces, _ => (resultAnswer outside state .interfaces, state)
  | .flows, _ => (resultAnswer outside state .flows, state)
  | .getCaptureToggle, .enabled enabled => captureToggleAnswer state enabled
  | .postCaptureToggle, .body body => postCaptureToggleAnswer outside state body
  | .pcapStorage, .filter filter => (resultAnswer outside state (.storage filter), state)
  | .pcapCaptures, .filter filter => (resultAnswer outside state (.captures filter), state)
  | .captureManual, _ => captureManualAnswer outside state
  | .pcapDownload, .captureId captureId => (pcapDownloadAnswer outside state captureId, state)
  | .pcapReconstruct, .captureId captureId =>
      (pcapReconstructAnswer outside state captureId, state)
  | .bulkDownload, .body body => (bulkDownloadAnswer outside state body, state)
  | .ipsRules, _ =>
      (resultAnswer outside state
        (.ipsRules (ipsRules outside.summarizeRule state.ipsEngine)), state)
  | .ipsEvents, _ => (resultAnswer outside state .ipsEvents, state)
  | .addIpsRule, .body body => addIpsRuleAnswer outside state body
  | .deleteIpsRule, .ruleId path => deleteIpsRuleAnswer state path
  | .ips, _ => (resultAnswer outside state (.ips state.ipsInfo), state)
  | .ipsMode, .body body => ipsModeAnswer outside state body
  | .getConfig, _ => (getConfigAnswer outside state, state)
  | .postConfig, .body body => postConfigAnswer outside state body
  | .state, _ => (resultAnswer outside state .state, state)
  | .metrics, _ => (metricsAnswer outside, state)
  | .health, _ => (healthAnswer outside state, state)
  -- an endpoint takes no other arguments out of a request
  | _, _ => (.dashboard, state)

/-- The answer to a request, and the sensor afterwards. -/
def respond (request : Text) : Answer × AppState :=
  match dispatch request with
  | .dashboard => (.dashboard, state)
  | .endpoint endpoint arguments => endpointAnswer outside state endpoint arguments

end

end GeSensor.Server
