/-
  Server/JsonAnswers.lean --- which JSON answers are JSON.

  The bodies that `serde_json` writes are; the others are made by splicing texts into
  format strings, without escapes.  An error body is JSON that says its message exactly
  if the message is made of characters that stand for themselves, by the length of the
  body: it has no room for an escape.  `splicedTexts` lists what is spliced for a request.
-/
import GeSensor.Server.Responses

set_option autoImplicit false

namespace GeSensor.Server

open GeSensor.Dashboard
open GeSensor.Foundation
open GeSensor.Ips

/-! ## Bodies -/

/-- Every character of the text stands for itself between quotes. -/
def plain (text : String) : Bool := isPlainText (literal text)

@[simp] theorem literal_append (left right : String) :
    literal (left ++ right) = literal left ++ literal right :=
  String.toList_append

@[simp] theorem plain_append (left right : String) :
    plain (left ++ right) = (plain left && plain right) := by
  rw [plain, literal_append, isPlainText, List.all_append]
  rfl

/-- The body of an error is a document whose `error` is the message. -/
def SaysError (body : Text) (message : String) : Prop :=
  ∃ json, DenotesDocument body json ∧
    json.get (literal "error") = some (.string (literal message))

/-- A member with a plain text as its value. -/
theorem denotesMember_plain (key text : String) (hkey : plain key = true)
    (h : plain text = true) :
    DenotesMember (quoted (literal key) ++ ':' :: quoted (literal text))
      (literal key, .string (literal text)) :=
  denotesMember_quoted (literal key) hkey (denotes_quoted h)

theorem denotes_boolText (value : Bool) : Denotes (boolText value) (.bool value) := by
  cases value with
  | false => exact .false
  | true => exact .true

theorem denotesMember_ok : DenotesMember (quoted (literal "ok") ++ ':' :: boolText true)
    (literal "ok", .bool true) :=
  denotesMember_quoted _ rfl (denotes_boolText true)

theorem errorBody_eq (message : String) : errorBody message =
    '\x7b' :: ((quoted (literal "error") ++ ':' :: quoted (literal message)) ++ ['\x7d']) := by
  simp [errorBody, literal, quoted]

theorem saysError_iff (message : String) :
    SaysError (errorBody message) message ↔ plain message = true := by
  constructor
  · rintro ⟨json, hdocument, hget⟩
    have hroom := document_length_le hdocument hget
    have hkey : (literal "error").length = 5 := rfl
    rw [errorBody_eq] at hroom
    simp only [quoted, List.length_cons, List.length_append, List.length_nil] at hroom
    exact isPlainText_iff_escapeCount.mpr (by omega)
  · intro hplain
    refine ⟨.object [(literal "error", .string (literal message))], ?_, ?_⟩
    · rw [errorBody_eq]
      exact denotesDocument_self (.object (.last (denotesMember_plain _ _ rfl hplain)))
    · rfl

/-- A body that is an object. -/
theorem isJson_of_members {body text : Text} {members : List (Text × Json)}
    (h : DenotesMembers text members) (hbody : body = '\x7b' :: (text ++ ['\x7d'])) :
    IsJson body := by
  subst hbody
  exact ⟨.object members, denotesDocument_self (.object h)⟩

theorem isJson_interfaceBody {iface : String} (h : plain iface = true) :
    IsJson (interfaceBody iface) := by
  have hiface := denotesMember_plain "interface" _ rfl h
  refine isJson_of_members (.cons denotesMember_ok (.last hiface)) ?_
  simp [interfaceBody, literal, quoted, boolText]

theorem isJson_dissectorBody {name : String} (h : plain name = true) (state : Bool) :
    IsJson (dissectorBody name state) := by
  have hname := denotesMember_plain "name" _ rfl h
  have hstate := denotesMember_quoted (literal "state") rfl (denotes_boolText state)
  refine isJson_of_members (.cons denotesMember_ok (.cons hname (.last hstate))) ?_
  simp [dissectorBody, literal, quoted, boolText]

theorem isJson_capturingBody (current : Bool) : IsJson (capturingBody current) := by
  have hcurrent := denotesMember_quoted (literal "capturing") rfl (denotes_boolText current)
  refine isJson_of_members (.cons denotesMember_ok (.last hcurrent)) ?_
  simp [capturingBody, literal, quoted, boolText]

theorem isJson_ruleIdBody {ruleId : String} (h : plain ruleId = true) :
    IsJson (ruleIdBody ruleId) := by
  have hid := denotesMember_plain "id" _ rfl h
  refine isJson_of_members (.cons denotesMember_ok (.last hid)) ?_
  simp [ruleIdBody, literal, quoted, boolText]

theorem isJson_savedBody : IsJson savedBody :=
  isJson_of_members (.last denotesMember_ok) rfl

theorem isJson_healthBody {sensorName iface : String} (hname : plain sensorName = true)
    (hiface : plain iface = true) (uptimeSecs : Nat) :
    IsJson (healthBody sensorName iface uptimeSecs) := by
  have hstatus := denotesMember_plain "status" "ok" rfl rfl
  have hsensor := denotesMember_plain "sensor" _ rfl hname
  have hversion := denotesMember_plain "version" version rfl rfl
  have huptime := denotesMember_quoted (literal "uptime_secs") rfl
    (denotes_toDigits uptimeSecs)
  have hinterface := denotesMember_plain "interface" _ rfl hiface
  refine isJson_of_members
    (.cons hstatus (.cons hsensor (.cons hversion (.cons huptime (.last hinterface))))) ?_
  simp [healthBody, literal, quoted, version]

/-! ## Answers -/

/-- The body is JSON if the content type says so, and an error body says the message. -/
structure Answer.JsonSound (answer : Answer) : Prop where
  wellFormed : answer.contentType = "application/json" →
    ∃ text, answer.body = .text text ∧ IsJson text
  error : ∀ message, answer.error? = some message →
    ∃ text, answer.body = .text text ∧ SaysError text message

/-- If the texts are plain the answer is sound; if it is a sound error answer they are. -/
structure Answer.SoundBy (answer : Answer) (texts : List String) : Prop where
  sound : texts.all plain = true → answer.JsonSound
  exact : answer.error?.isSome = true → answer.JsonSound → texts.all plain = true

namespace Answer

theorem soundBy_error {status message : String} {texts : List String}
    (h : plain message = texts.all plain) : (error status message).SoundBy texts := by
  refine ⟨fun htexts => ?_, fun _ hsound => ?_⟩
  · have hsays := (saysError_iff message).mpr (h.trans htexts)
    obtain ⟨json, hdocument, hget⟩ := hsays
    refine ⟨fun _ => ⟨_, rfl, json, hdocument⟩, fun other hother => ?_⟩
    cases hother
    exact ⟨_, rfl, json, hdocument, hget⟩
  · obtain ⟨text, hbody, hsays⟩ := hsound.error message rfl
    cases hbody
    exact h ▸ (saysError_iff message).mp hsays

theorem soundBy_json {text : Text} {texts : List String}
    (h : texts.all plain = true → IsJson text) : (json text).SoundBy texts :=
  ⟨fun htexts => ⟨fun _ => ⟨text, rfl, h htexts⟩, nofun⟩, nofun⟩

/-- Another content type promises nothing. -/
theorem soundBy_other {answer : Answer} (htype : answer.contentType ≠ "application/json")
    (herror : answer.error? = none) : answer.SoundBy [] := by
  refine ⟨fun _ => ⟨fun h => absurd h htype, fun message hmessage => ?_⟩, fun _ _ => rfl⟩
  rw [herror] at hmessage
  cases hmessage

end Answer

theorem Answer.soundBy_dashboard : Answer.dashboard.SoundBy [] := by
  have htype : "text/html; charset=utf-8" ≠ "application/json" := by decide
  exact Answer.soundBy_other htype rfl

/-- `serde_json` writes JSON. -/
structure Outside.WritesJson (outside : Outside) : Prop where
  toJson : ∀ {state result text}, outside.toJson state result = .ok text → IsJson text
  yamlJson : ∀ yaml, IsJson (outside.yamlJson yaml)

/-! ## What is spliced -/

/-- The message of a failure. -/
def failureTexts {α : Type} : Except String α → List String
  | .error message => [message]
  | .ok _ => []

section

variable (outside : Outside) (state : AppState)

def resultTexts (result : ApiResult) : List String := failureTexts (outside.toJson state result)

def pcapFileTexts : Option Text → List String
  | none => []
  | some captureId =>
      match state.pcapDownload (String.ofList captureId) with
      | .error _ => [String.ofList captureId]
      | .ok found => failureTexts (outside.readFile found.filePath)

def pcapDownloadTexts : Option Text → List String
  | none => []
  | some captureId =>
      match state.pcapDownload (String.ofList captureId) with
      | .error _ => [String.ofList captureId]
      | .ok response => resultTexts outside state (.download response)

def pcapReconstructTexts : Option Text → List String
  | none => []
  | some captureId =>
      match state.pcapReconstruct (String.ofList captureId) with
      | .error _ => [String.ofList captureId]
      | .ok response => resultTexts outside state (.reconstruct response)

def captureManualTexts : List String :=
  match state.createPcapCapture outside with
  | (.error message, _) => [message]
  | (.ok record, after) => resultTexts outside after (.capture record)

def bulkDownloadTexts : Option Text → List String
  | none => []
  | some body =>
      match outside.bulkDownloadFromStr body with
      | .error message => [message]
      | .ok ids => resultTexts outside state (.bulkDownload (state.pcapBulkDownload ids))

/-- The id of a rule that is there already is spliced; the other messages are fixed. -/
def addIpsRuleTexts : Option Text → List String
  | none => []
  | some body =>
      match outside.newRuleFromStr body with
      | .error message => [message]
      | .ok request =>
          match request.intoRule with
          | .error _ => []
          | .ok rule =>
              if hasRule state.ipsEngine rule.id then [rule.id]
              else
                match state.addIpsRule outside request with
                | (.error _, _) => []
                | (.ok added, after) => resultTexts outside after (.rule added)

def deleteIpsRuleTexts : Option (Option Text) → List String
  | some (some ruleId) => if ruleId = [] then [] else [String.ofList ruleId]
  | _ => []

def ipsModeTexts : Option Text → List String
  | none => []
  | some body =>
      match outside.valueFromStr body with
      | .error _ => []
      | .ok value =>
          match (value.get (literal "mode")).bind Json.asStr with
          | none => []
          | some mode =>
              match state.setIpsMode (String.ofList mode) with
              | (.error _, _) => []
              | (.ok info, after) => resultTexts outside after (.ips info)

def postConfigTexts : Option Text → List String
  | none => []
  | some body =>
      match outside.valueFromStr body with
      | .error _ => []
      | .ok value =>
          match (value.get (literal "yaml")).bind Json.asStr with
          | none => []
          | some yaml => failureTexts (outside.writeConfig state.configFile yaml).1

def endpointTexts : Endpoint → Arguments → List String
  | .pcapFile, .captureId captureId => pcapFileTexts outside state captureId
  | .setInterface, .iface iface => (iface.map String.ofList).toList
  | .toggleDissector, .dissector name => (name.map fun name => String.ofList name.1).toList
  | .packets, _ => resultTexts outside state .packets
  | .interfaces, _ => resultTexts outside state .interfaces
  | .flows, _ => resultTexts outside state .flows
  | .pcapStorage, .filter filter => resultTexts outside state (.storage filter)
  | .pcapCaptures, .filter filter => resultTexts outside state (.captures filter)
  | .captureManual, _ => captureManualTexts outside state
  | .pcapDownload, .captureId captureId => pcapDownloadTexts outside state captureId
  | .pcapReconstruct, .captureId captureId => pcapReconstructTexts outside state captureId
  | .bulkDownload, .body body => bulkDownloadTexts outside state body
  | .ipsRules, _ =>
      resultTexts outside state (.ipsRules (ipsRules outside.summarizeRule state.ipsEngine))
  | .ipsEvents, _ => resultTexts outside state .ipsEvents
  | .addIpsRule, .body body => addIpsRuleTexts outside state body
  | .deleteIpsRule, .ruleId path => deleteIpsRuleTexts path
  | .ips, _ => resultTexts outside state (.ips state.ipsInfo)
  | .ipsMode, .body body => ipsModeTexts outside state body
  | .getConfig, _ => failureTexts (outside.readConfig state.configFile)
  | .postConfig, .body body => postConfigTexts outside state body
  | .state, _ => resultTexts outside state .state
  | .health, _ => [state.sensorName, state.captureInterface]
  | _, _ => []

/-- The texts that the server splices into the body of its answer. -/
def splicedTexts (request : Text) : List String :=
  match dispatch request with
  | .dashboard => []
  | .endpoint endpoint arguments => endpointTexts outside state endpoint arguments

end

/-! ## Every handler -/

theorem plain_singleton (text : String) : [text].all plain = plain text := by
  rw [List.all_cons, List.all_nil, Bool.and_true]

/-- A text in a message that is fixed around it. -/
theorem plain_between {before after : String} (text : String) (hbefore : plain before = true)
    (hafter : plain after = true) : plain (before ++ text ++ after) = [text].all plain := by
  rw [plain_singleton, plain_append, plain_append, hbefore, hafter, Bool.true_and, Bool.and_true]

theorem Answer.soundBy_fixed {status message : String} (h : plain message = true) :
    (Answer.error status message).SoundBy [] :=
  Answer.soundBy_error h

theorem Answer.soundBy_message (status message : String) :
    (Answer.error status message).SoundBy [message] :=
  Answer.soundBy_error (plain_singleton message).symm

section

variable {outside : Outside} {state : AppState}

theorem soundBy_result (hjson : outside.WritesJson) (state : AppState) (result : ApiResult) :
    (resultAnswer outside state result).SoundBy (resultTexts outside state result) := by
  unfold resultAnswer resultTexts
  cases hresult : outside.toJson state result with
  | error message => exact Answer.soundBy_message _ message
  | ok text => exact Answer.soundBy_json fun _ => hjson.toJson hresult

theorem plain_of_findCapture {captureId message : String}
    (h : state.findCapture captureId = .error message) :
    plain message = [captureId].all plain := by
  unfold AppState.findCapture at h
  split at h
  · cases h
  · cases h
    exact plain_between captureId rfl rfl

theorem error_of_map {α β : Type} {action : Except String α} {change : α → β} {message : String}
    (h : action.map change = .error message) : action = .error message := by
  cases action with
  | error other =>
      cases h
      rfl
  | ok value => cases h

theorem soundBy_pcapFile (captureId : Option Text) :
    (pcapFileAnswer outside state captureId).SoundBy (pcapFileTexts outside state captureId) := by
  unfold pcapFileAnswer pcapFileTexts
  cases captureId with
  | none => exact Answer.soundBy_fixed rfl
  | some captureId =>
      dsimp only
      cases hfound : state.pcapDownload (String.ofList captureId) with
      | error message =>
          exact Answer.soundBy_error (plain_of_findCapture (error_of_map hfound))
      | ok found =>
          dsimp only
          cases outside.readFile found.filePath with
          | error message =>
              refine Answer.soundBy_error ?_
              rw [plain_append, failureTexts, plain_singleton]
              rfl
          | ok bytes =>
              have htype : "application/vnd.tcpdump.pcap" ≠ "application/json" := by decide
              exact Answer.soundBy_other htype rfl

theorem soundBy_pcapDownload (hjson : outside.WritesJson) (captureId : Option Text) :
    (pcapDownloadAnswer outside state captureId).SoundBy
      (pcapDownloadTexts outside state captureId) := by
  unfold pcapDownloadAnswer pcapDownloadTexts
  cases captureId with
  | none => exact Answer.soundBy_fixed rfl
  | some captureId =>
      dsimp only
      cases hfound : state.pcapDownload (String.ofList captureId) with
      | error message =>
          exact Answer.soundBy_error (plain_of_findCapture (error_of_map hfound))
      | ok response => exact soundBy_result hjson state _

theorem soundBy_pcapReconstruct (hjson : outside.WritesJson) (captureId : Option Text) :
    (pcapReconstructAnswer outside state captureId).SoundBy
      (pcapReconstructTexts outside state captureId) := by
  unfold pcapReconstructAnswer pcapReconstructTexts
  cases captureId with
  | none => exact Answer.soundBy_fixed rfl
  | some captureId =>
      dsimp only
      cases hfound : state.pcapReconstruct (String.ofList captureId) with
      | error message =>
          exact Answer.soundBy_error (plain_of_findCapture (error_of_map hfound))
      | ok response => exact soundBy_result hjson state _

theorem soundBy_setInterface (iface : Option Text) :
    (setInterfaceAnswer outside state iface).1.SoundBy (iface.map String.ofList).toList := by
  unfold setInterfaceAnswer AppState.setInterface
  cases iface with
  | none => exact Answer.soundBy_fixed rfl
  | some iface =>
      dsimp only
      split
      · refine Answer.soundBy_json fun h => isJson_interfaceBody ?_
        exact (plain_singleton _).symm.trans h
      · exact Answer.soundBy_error (plain_between _ rfl rfl)

theorem soundBy_toggleDissector (name : Option (Text × Bool)) :
    (toggleDissectorAnswer state name).1.SoundBy
      (name.map fun name => String.ofList name.1).toList := by
  unfold toggleDissectorAnswer AppState.toggleDissector
  cases name with
  | none => exact Answer.soundBy_fixed rfl
  | some name =>
      dsimp only
      split
      · refine Answer.soundBy_json fun h => isJson_dissectorBody ?_ _
        exact (plain_singleton _).symm.trans h
      · exact Answer.soundBy_error (plain_between _ rfl rfl)

theorem soundBy_captureToggle (enabled : Bool) :
    (captureToggleAnswer state enabled).1.SoundBy [] :=
  Answer.soundBy_json fun _ => isJson_capturingBody enabled

theorem soundBy_postCaptureToggle (body : Option Text) :
    (postCaptureToggleAnswer outside state body).1.SoundBy [] := by
  unfold postCaptureToggleAnswer
  split
  · exact Answer.soundBy_fixed rfl
  · split
    · exact Answer.soundBy_fixed rfl
    · split
      · exact Answer.soundBy_fixed rfl
      · exact soundBy_captureToggle _

theorem soundBy_captureManual (hjson : outside.WritesJson) :
    (captureManualAnswer outside state).1.SoundBy (captureManualTexts outside state) := by
  unfold captureManualAnswer captureManualTexts
  rcases state.createPcapCapture outside with ⟨message | record, after⟩
  · exact Answer.soundBy_message _ message
  · exact soundBy_result hjson after _

theorem soundBy_invalidBody (message : String) : (invalidBody message).SoundBy [message] := by
  refine Answer.soundBy_error ?_
  rw [plain_append, plain_singleton]
  rfl

theorem soundBy_bulkDownload (hjson : outside.WritesJson) (body : Option Text) :
    (bulkDownloadAnswer outside state body).SoundBy (bulkDownloadTexts outside state body) := by
  unfold bulkDownloadAnswer bulkDownloadTexts
  cases body with
  | none => exact Answer.soundBy_fixed rfl
  | some body =>
      dsimp only
      cases outside.bulkDownloadFromStr body with
      | error message => exact soundBy_invalidBody message
      | ok ids => exact soundBy_result hjson state _

theorem plain_of_intoRule {request : NewIpsRuleRequest} {message : String}
    (h : request.intoRule = .error message) : plain message = true := by
  have hmessages : ∀ message ∈ ruleMessages, plain message = true := by
    decide
  exact hmessages message (error_of_intoRule h)

theorem soundBy_addIpsRule (hjson : outside.WritesJson) (body : Option Text) :
    (addIpsRuleAnswer outside state body).1.SoundBy (addIpsRuleTexts outside state body) := by
  unfold addIpsRuleAnswer addIpsRuleTexts
  cases body with
  | none => exact Answer.soundBy_fixed rfl
  | some body =>
      dsimp only
      cases outside.newRuleFromStr body with
      | error message => exact soundBy_invalidBody message
      | ok request =>
          dsimp only
          unfold AppState.addIpsRule
          cases hrule : request.intoRule with
          | error message => exact Answer.soundBy_fixed (plain_of_intoRule hrule)
          | ok rule =>
              dsimp only
              by_cases hthere : hasRule state.ipsEngine rule.id = true
              · rw [if_pos hthere, if_pos hthere]
                exact Answer.soundBy_error (plain_between _ rfl rfl)
              · rw [if_neg hthere, if_neg hthere]
                cases (ipsRules outside.summarizeRule
                    (outside.meanwhile (state.ipsEngine.addRule rule))).rules.find?
                      fun added => added.id == rule.id with
                | some added => exact soundBy_result hjson _ _
                | none => exact Answer.soundBy_fixed rfl

theorem soundBy_deleteIpsRule (path : Option (Option Text)) :
    (deleteIpsRuleAnswer state path).1.SoundBy (deleteIpsRuleTexts path) := by
  unfold deleteIpsRuleAnswer deleteIpsRuleTexts AppState.deleteIpsRule
  match path with
  | none | some none => exact Answer.soundBy_fixed rfl
  | some (some ruleId) =>
      dsimp only
      by_cases hempty : ruleId = []
      · rw [if_pos hempty, if_pos hempty]
        exact Answer.soundBy_fixed rfl
      · rw [if_neg hempty, if_neg hempty]
        dsimp only
        cases (state.ipsEngine.removeRule (String.ofList ruleId)).1 with
        | false => exact Answer.soundBy_error (plain_between _ rfl rfl)
        | true =>
            refine Answer.soundBy_json fun h => isJson_ruleIdBody ?_
            exact (plain_singleton _).symm.trans h

theorem plain_of_parseMode {mode message : String} (h : parseMode mode = .error message) :
    plain message = true := by
  unfold parseMode at h
  dsimp only at h
  split at h
  · cases h
  · split at h
    · cases h
    · cases h
      rfl

theorem soundBy_ipsMode (hjson : outside.WritesJson) (body : Option Text) :
    (ipsModeAnswer outside state body).1.SoundBy (ipsModeTexts outside state body) := by
  unfold ipsModeAnswer ipsModeTexts
  cases body with
  | none => exact Answer.soundBy_fixed rfl
  | some body =>
      dsimp only
      cases outside.valueFromStr body with
      | error _ => exact Answer.soundBy_fixed rfl
      | ok value =>
          dsimp only
          cases (value.get (literal "mode")).bind Json.asStr with
          | none => exact Answer.soundBy_fixed rfl
          | some mode =>
              dsimp only
              unfold AppState.setIpsMode
              cases hmode : parseMode (String.ofList mode) with
              | error message => exact Answer.soundBy_fixed (plain_of_parseMode hmode)
              | ok request => exact soundBy_result hjson _ _

theorem soundBy_getConfig (hjson : outside.WritesJson) :
    (getConfigAnswer outside state).SoundBy
      (failureTexts (outside.readConfig state.configFile)) := by
  unfold getConfigAnswer
  cases outside.readConfig state.configFile with
  | error message => exact Answer.soundBy_message _ message
  | ok yaml => exact Answer.soundBy_json fun _ => hjson.yamlJson yaml

theorem soundBy_postConfig (body : Option Text) :
    (postConfigAnswer outside state body).1.SoundBy (postConfigTexts outside state body) := by
  unfold postConfigAnswer postConfigTexts
  cases body with
  | none => exact Answer.soundBy_fixed rfl
  | some body =>
      dsimp only
      cases outside.valueFromStr body with
      | error _ => exact Answer.soundBy_fixed rfl
      | ok value =>
          dsimp only
          cases (value.get (literal "yaml")).bind Json.asStr with
          | none => exact Answer.soundBy_fixed rfl
          | some yaml =>
              dsimp only
              cases (outside.writeConfig state.configFile yaml).1 with
              | error message => exact Answer.soundBy_message _ message
              | ok _ => exact Answer.soundBy_json fun _ => isJson_savedBody

theorem soundBy_health :
    (healthAnswer outside state).SoundBy [state.sensorName, state.captureInterface] := by
  refine Answer.soundBy_json fun h => ?_
  simp only [List.all_cons, List.all_nil, Bool.and_true, Bool.and_eq_true] at h
  exact isJson_healthBody h.1 h.2 _

theorem soundBy_metrics : (metricsAnswer outside).SoundBy [] := by
  unfold metricsAnswer
  cases outside.encodeMetrics with
  | ok text =>
      have htype : "text/plain; version=0.0.4; charset=utf-8" ≠ "application/json" := by decide
      exact Answer.soundBy_other htype rfl
  | error message =>
      have htype : "text/plain" ≠ "application/json" := by decide
      exact Answer.soundBy_other htype rfl

theorem soundBy_endpoint (hjson : outside.WritesJson) (endpoint : Endpoint)
    (arguments : Arguments) : (endpointAnswer outside state endpoint arguments).1.SoundBy
      (endpointTexts outside state endpoint arguments) := by
  have hpage := Answer.soundBy_dashboard
  cases endpoint with
  | packets | interfaces | flows | ipsRules | ipsEvents | ips | state =>
      exact soundBy_result hjson state _
  | pcapFile =>
      cases arguments with
      | captureId captureId => exact soundBy_pcapFile captureId
      | _ => exact hpage
  | setInterface =>
      cases arguments with
      | iface iface => exact soundBy_setInterface iface
      | _ => exact hpage
  | toggleDissector =>
      cases arguments with
      | dissector name => exact soundBy_toggleDissector name
      | _ => exact hpage
  | getCaptureToggle =>
      cases arguments with
      | enabled enabled => exact soundBy_captureToggle enabled
      | _ => exact hpage
  | postCaptureToggle =>
      cases arguments with
      | body body => exact soundBy_postCaptureToggle body
      | _ => exact hpage
  | pcapStorage | pcapCaptures =>
      cases arguments with
      | filter filter => exact soundBy_result hjson state _
      | _ => exact hpage
  | captureManual => exact soundBy_captureManual hjson
  | pcapDownload =>
      cases arguments with
      | captureId captureId => exact soundBy_pcapDownload hjson captureId
      | _ => exact hpage
  | pcapReconstruct =>
      cases arguments with
      | captureId captureId => exact soundBy_pcapReconstruct hjson captureId
      | _ => exact hpage
  | bulkDownload =>
      cases arguments with
      | body body => exact soundBy_bulkDownload hjson body
      | _ => exact hpage
  | addIpsRule =>
      cases arguments with
      | body body => exact soundBy_addIpsRule hjson body
      | _ => exact hpage
  | deleteIpsRule =>
      cases arguments with
      | ruleId path => exact soundBy_deleteIpsRule path
      | _ => exact hpage
  | ipsMode =>
      cases arguments with
      | body body => exact soundBy_ipsMode hjson body
      | _ => exact hpage
  | getConfig => exact soundBy_getConfig hjson
  | postConfig =>
      cases arguments with
      | body body => exact soundBy_postConfig body
      | _ => exact hpage
  | metrics => exact soundBy_metrics
  | health => exact soundBy_health

/-- For every request and every state: if all texts that the server splices into the body
are plain, the answer is JSON where it says so and an error body says its message; and an
error answer does so only then. -/
theorem jsonSound_of_plain (outside : Outside) (hjson : outside.WritesJson) (state : AppState)
    (request : Text) :
    ((splicedTexts outside state request).all plain = true →
        (respond outside state request).1.JsonSound) ∧
      ((respond outside state request).1.error?.isSome = true →
        ((respond outside state request).1.JsonSound ↔
          (splicedTexts outside state request).all plain = true)) := by
  have hsound : (respond outside state request).1.SoundBy (splicedTexts outside state request) := by
    unfold respond splicedTexts
    cases dispatch request with
    | dashboard => exact Answer.soundBy_dashboard
    | endpoint endpoint arguments => exact soundBy_endpoint hjson endpoint arguments
  exact ⟨hsound.sound, fun herror => ⟨hsound.exact herror, hsound.sound⟩⟩

end

/-! ## Two deletions -/

/-- A sensor with the default rules. -/
def AppState.initial : AppState where
  sensorName := "ge-sensor-01"
  captureInterface := "eth0"
  restartCapture := false
  captureEnabled := true
  dissectors := {}
  ipsConfig := ⟨true, "tap", "pass"⟩
  ipsEngine := (IpsEngine.new .tap .pass).loadDefaultRules
  pcapSeq := 1
  pcapCaptures := []
  configFile := none

/-- A system on which nothing is found, and a `serde_json` that writes `null`. -/
def Outside.bare : Outside where
  devices := []
  valueFromStr := fun _ => .error "expected value at line 1 column 1"
  bulkDownloadFromStr := fun _ => .error "expected value at line 1 column 1"
  newRuleFromStr := fun _ => .error "expected value at line 1 column 1"
  toJson := fun _ _ => .ok (literal "null")
  yamlJson := fun _ => literal "null"
  readFile := fun _ => .error "No such file or directory (os error 2)"
  readConfig := fun _ => .error "No such file or directory (os error 2)"
  writeConfig := fun file _ => (.error "No such file or directory (os error 2)", file)
  flushToPcap := fun _ => .error "No such file or directory (os error 2)"
  meanwhile := id
  summarizeRule := fun _ => "any"
  encodeMetrics := .ok []
  timestamp := 0
  uptimeSecs := 0

theorem Outside.bare_writesJson : Outside.bare.WritesJson := by
  have hnull : IsJson (literal "null") := ⟨.null, denotesDocument_self .null⟩
  refine ⟨fun htext => ?_, fun _ => hnull⟩
  cases htext
  exact hnull

/-- The deletion of a rule that is not there. -/
def deleteMissing : Text := "DELETE /api/ips/rules/GE-404 HTTP/1.1\r\n\r\n".toList

theorem deleteMissing_sound : (respond .bare .initial deleteMissing).1.JsonSound ∧
    ((respond .bare .initial deleteMissing).1.JsonSound ↔
      (splicedTexts .bare .initial deleteMissing).all plain = true) :=
  have hsound := jsonSound_of_plain .bare Outside.bare_writesJson .initial deleteMissing
  ⟨hsound.1 rfl, hsound.2 rfl⟩

/-- The same with a quote in the id. -/
def deleteQuoted : Text := "DELETE /api/ips/rules/a\"b HTTP/1.1\r\n\r\n".toList

theorem deleteQuoted_not_sound :
    (respond .bare .initial deleteQuoted).1 =
      .error "404 Not Found" "rule 'a\"b' not found" ∧
    ¬(respond .bare .initial deleteQuoted).1.JsonSound := by
  have hanswer : (respond .bare .initial deleteQuoted).1 =
      .error "404 Not Found" "rule 'a\"b' not found" := rfl
  refine ⟨hanswer, fun hsound => ?_⟩
  rw [hanswer] at hsound
  obtain ⟨text, hbody, hsays⟩ := hsound.error _ rfl
  cases hbody
  have hplain := (saysError_iff _).mp hsays
  revert hplain
  decide

end GeSensor.Server
