/-
  Server/Routes.lean --- the HTTP routing of `start_metrics_server` in
  `src/utils/logging.rs`.

  The server reads from a connection once, at most 4096 bytes, and the text of this
  read is the request.  It tries the endpoints in a fixed order: those of `GET` by a
  search in the whole text, those of `POST` and `DELETE` by the beginning of the text.
  The first one that matches takes its arguments out of the text again.  All that an
  endpoint does afterwards is a function of these arguments and of the sensor: a JSON
  body is parsed from the text given here.
-/
import GeSensor.Foundation.TextSearch

set_option autoImplicit false

namespace GeSensor.Server

open GeSensor.Foundation

abbrev Text : Type := List Char

/-! ## The request line -/

/-- `parse_request_path`. -/
def parseRequestPath (request : Text) : Option Text :=
  (lines request).head?.bind fun line => (splitWhitespace line)[1]?

/-- The loop of `query_param` over the pairs of a path's query. -/
def queryOf (path key : Text) : Option Text :=
  (path.splitOn '?')[1]?.bind fun query =>
    (query.splitOn '&').findSome? fun pair =>
      match splitn 2 '=' pair with
      | [k, v] => if k = key then some v else none
      | _ => none

/-- `query_param`. -/
def queryParam (request key : Text) : Option Text :=
  (parseRequestPath request).bind fun path => queryOf path key

/-! ## Arguments -/

/-- What an endpoint takes out of a request.  An argument that is absent or empty is
`none`: the server answers with a message of the endpoint. -/
inductive Arguments where
  | nothing
  | captureId (captureId : Option Text)
  | iface (iface : Option Text)
  | dissector (name : Option (Text × Bool))
  | enabled (enabled : Bool)
  | filter (filter : Option Text)
  | body (body : Option Text)
  /-- the path behind `/api/ips/rules/`, when there is a path that begins so -/
  | ruleId (path : Option (Option Text))
  deriving DecidableEq, Repr

/-- An argument for which the endpoint tests `is_empty`. -/
def nonEmpty (argument : Text) : Option Text :=
  if argument = [] then none else some argument

def captureIdArgument (value : Option Text) : Arguments :=
  .captureId (nonEmpty (value.getD []))

/-- `enabled`, read with `eq_ignore_ascii_case("true")` or as `1`. -/
def enabledArgument (value : Option Text) : Arguments :=
  let raw := value.getD "true".toList
  .enabled (toAsciiLowercase raw == "true".toList || raw == "1".toList)

/-- The word behind the first `iface=`. -/
def ifaceWord (request : Text) : Option Text :=
  (splitSecond "iface=".toList request).bind fun rest => (splitWhitespace rest).head?

def ifaceText (request : Text) : Text :=
  (((ifaceWord request).bind fun word => (word.splitOn '&').head?).bind
    fun word => (word.splitOn ' ').head?).getD []

def ifaceArgument (request : Text) : Arguments := .iface (nonEmpty (ifaceText request))

/-- The text behind the first question mark. -/
def dissectorQuery (request : Text) : Text :=
  ((request.splitOn '?')[1]?.bind fun rest => (splitWhitespace rest).head?).getD []

/-- The loop over the pairs: the last `name`, and whether the last `state` is `true`. -/
def dissectorPairs (query : Text) : Text × Bool :=
  (query.splitOn '&').foldl
    (fun (name, state) pair =>
      match pair.splitOn '=' with
      | k :: v :: _ =>
          (if k = "name".toList then v else name,
            if k = "state".toList then v == "true".toList else state)
      | _ => (name, state))
    ([], false)

def dissectorName (query : Text) : Option (Text × Bool) :=
  let (name, state) := dissectorPairs query
  if name = [] then none else some (name, state)

def dissectorArgument (request : Text) : Arguments :=
  .dissector (dissectorName (dissectorQuery request))

def ruleIdArgument (path : Option Text) : Arguments :=
  .ruleId (path.map (stripPrefix "/api/ips/rules/".toList))

/-! ## Endpoints -/

/-- The endpoints, in the order in which the server tries them. -/
inductive Endpoint where
  | pcapFile
  | setInterface
  | toggleDissector
  | packets
  | interfaces
  | flows
  | getCaptureToggle
  | postCaptureToggle
  | pcapStorage
  | pcapCaptures
  | captureManual
  | pcapDownload
  | pcapReconstruct
  | bulkDownload
  | ipsRules
  | ipsEvents
  | addIpsRule
  | deleteIpsRule
  | ips
  | ipsMode
  | getConfig
  | postConfig
  | state
  | metrics
  | health
  deriving DecidableEq, Repr

inductive Method where
  | get
  | post
  | delete
  deriving DecidableEq, Repr

def Method.text : Method → Text
  | .get => "GET".toList
  | .post => "POST".toList
  | .delete => "DELETE".toList

namespace Endpoint

def method : Endpoint → Method
  | .postCaptureToggle | .captureManual | .bulkDownload | .addIpsRule | .ipsMode | .postConfig =>
      .post
  | .deleteIpsRule => .delete
  | _ => .get

def path : Endpoint → Text
  | .pcapFile => "/api/pcap/file".toList
  | .setInterface => "/api/set-interface".toList
  | .toggleDissector => "/api/toggle-dissector".toList
  | .packets => "/api/packets".toList
  | .interfaces => "/api/interfaces".toList
  | .flows => "/api/flows".toList
  | .getCaptureToggle | .postCaptureToggle => "/api/capture/toggle".toList
  | .pcapStorage => "/api/pcap/storage".toList
  | .pcapCaptures => "/api/pcap/captures".toList
  | .captureManual => "/api/pcap/capture/manual".toList
  | .pcapDownload => "/api/pcap/download".toList
  | .pcapReconstruct => "/api/pcap/reconstruct".toList
  | .bulkDownload => "/api/pcap/bulk-download".toList
  | .ipsRules | .addIpsRule => "/api/ips/rules".toList
  | .ipsEvents => "/api/ips/events".toList
  | .deleteIpsRule => "/api/ips/rules/".toList
  | .ips => "/api/ips".toList
  | .ipsMode => "/api/ips/mode".toList
  | .getConfig | .postConfig => "/api/config".toList
  | .state => "/api/state".toList
  | .metrics => "/metrics".toList
  | .health => "/health".toList

/-- The text that the server looks for. -/
def pattern (endpoint : Endpoint) : Text := endpoint.method.text ++ ' ' :: endpoint.path

/-- `request.contains(..)` for `GET`, `request.starts_with(..)` for the others. -/
def guard (endpoint : Endpoint) (request : Text) : Bool :=
  match endpoint.method with
  | .get => contains request endpoint.pattern
  | .post | .delete => endpoint.pattern.isPrefixOf request

/-- What the endpoint takes out of the request; a body is the text behind the first
empty line. -/
def arguments (endpoint : Endpoint) (request : Text) : Arguments :=
  match endpoint with
  | .pcapFile | .pcapDownload | .pcapReconstruct =>
      captureIdArgument (queryParam request "id".toList)
  | .setInterface => ifaceArgument request
  | .toggleDissector => dissectorArgument request
  | .getCaptureToggle => enabledArgument (queryParam request "enabled".toList)
  | .pcapStorage | .pcapCaptures => .filter (queryParam request "filter".toList)
  | .postCaptureToggle | .bulkDownload | .addIpsRule | .ipsMode | .postConfig =>
      .body (findAfter request "\r\n\r\n".toList)
  | .deleteIpsRule => ruleIdArgument (parseRequestPath request)
  | .captureManual | .packets | .interfaces | .flows | .ipsRules | .ipsEvents | .ips | .getConfig
  | .state | .metrics | .health => .nothing

end Endpoint

/-- The order of the server's tests. -/
def routes : List Endpoint :=
  [.pcapFile, .setInterface, .toggleDissector, .packets, .interfaces, .flows, .getCaptureToggle,
    .postCaptureToggle, .pcapStorage, .pcapCaptures, .captureManual, .pcapDownload,
    .pcapReconstruct, .bulkDownload, .ipsRules, .ipsEvents, .addIpsRule, .deleteIpsRule, .ips,
    .ipsMode, .getConfig, .postConfig, .state, .metrics, .health]

/-- What the server does for a request. -/
inductive ApiCall where
  /-- the embedded dashboard page, for all other requests -/
  | dashboard
  | endpoint (endpoint : Endpoint) (arguments : Arguments)
  deriving DecidableEq, Repr

/-- The routing of `start_metrics_server`. -/
def dispatch (request : Text) : ApiCall :=
  match routes.find? (·.guard request) with
  | some endpoint => .endpoint endpoint (endpoint.arguments request)
  | none => .dashboard

example : dispatch "GET /api/pcap/storage?filter=a HTTP/1.1\r\n\r\n".toList =
    .endpoint .pcapStorage (.filter (some "a".toList)) := by
  decide

end GeSensor.Server
