/-
  Server/Framing.lean --- the bytes that `start_metrics_server` writes for an answer.

  An answer is a status line, a few header fields and a body, spliced into one format
  string; the connection is closed behind it.  The body may hold any text of the
  sensor, of the files and of the request.  A client that reads the answer as HTTP finds
  the fields and the body that the server meant: of what it splices into the head, only
  the id of a capture is not a constant, and it comes from the sensor's counter.

  Other threads add captures between the requests.
-/
import GeSensor.Foundation.HttpMessage
import GeSensor.Server.Frames
import GeSensor.Server.JsonAnswers
import GeSensor.Server.Received

set_option autoImplicit false

namespace GeSensor.Server

open GeSensor.Dashboard
open GeSensor.Foundation

/-! ## What is written -/

/-- The body as it is written; `page` is the embedded dashboard. -/
def Body.bytes (page : Text) : Body → Bytes
  | .text content => bytesOf content
  | .file bytes => bytes
  | .page => bytesOf page

namespace Answer

/-- The head of the answer to a body of this length. -/
def head (answer : Answer) (length : Nat) : Text :=
  literal "HTTP/1.1 " ++ literal answer.status ++ literal "\r\nContent-Type: " ++
    literal answer.contentType ++ literal "\r\n" ++ literal answer.headers ++
    literal "Content-Length: " ++ Nat.toDigits 10 length ++
    literal "\r\nAccess-Control-Allow-Origin: *\r\nConnection: close\r\n\r\n"

def bytes (page : Text) (answer : Answer) : Bytes :=
  bytesOf (answer.head (answer.body.bytes page).length) ++ answer.body.bytes page

end Answer

/-! ## What is meant -/

def field (name : String) (value : Text) : HttpField := ⟨asBytes name, bytesOf value⟩

/-- The file name under which a capture is offered. -/
def dispositionValue (captureId : String) : Text :=
  literal "attachment; filename=\"" ++ literal captureId ++ literal ".pcap\""

/-- The message of an answer that offers a capture, or none. -/
def Answer.message (page : Text) (answer : Answer) (offered : Option String) : HttpMessage where
  startLine := bytesOf (literal "HTTP/1.1 " ++ literal answer.status)
  fields :=
    field "Content-Type" (literal answer.contentType) ::
      (offered.toList.map fun captureId =>
        field "Content-Disposition" (dispositionValue captureId)) ++
      [field "Content-Length" (Nat.toDigits 10 (answer.body.bytes page).length),
        field "Access-Control-Allow-Origin" (literal "*"), field "Connection" (literal "close")]
  body := answer.body.bytes page

/-- The header line of a capture that is offered. -/
def dispositionLine (captureId : String) : String :=
  "Content-Disposition: attachment; filename=\"" ++ captureId ++ ".pcap\"\r\n"

def statuses : List String :=
  ["200 OK", "400 Bad Request", "404 Not Found", "500 Internal Server Error"]

def contentTypes : List String :=
  ["application/json", "application/vnd.tcpdump.pcap", "text/html; charset=utf-8",
    "text/plain; version=0.0.4; charset=utf-8", "text/plain"]

/-- The head of an answer that offers a capture, or none. -/
structure Answer.Headed (answer : Answer) (offered : Option String) : Prop where
  status : answer.status ∈ statuses
  contentType : answer.contentType ∈ contentTypes
  headers : answer.headers = (offered.map dispositionLine).getD ""

/-- A text that stays on its line: of the visible characters of ASCII and the space. -/
def Visible (text : Text) : Prop := ∀ char ∈ text, 32 ≤ char.toNat ∧ char.toNat < 127

instance (text : Text) : Decidable (Visible text) :=
  List.decidableBAll (fun char : Char => 32 ≤ char.toNat ∧ char.toNat < 127) text

theorem bytesOf_append (left right : Text) :
    bytesOf (left ++ right) = bytesOf left ++ bytesOf right := asBytes_ofList_append left right

theorem bytesOf_literal (text : String) : bytesOf (literal text) = asBytes text := by
  rw [bytesOf, literal, String.ofList_toList]

theorem Visible.append {left right : Text} (hleft : Visible left) (hright : Visible right) :
    Visible (left ++ right) := fun char hchar =>
  (List.mem_append.mp hchar).elim (hleft char) (hright char)

theorem Visible.bytesOf_eq {text : Text} (h : Visible text) :
    bytesOf text = text.map fun char => UInt8.ofNat char.toNat :=
  asBytes_of_ascii fun char hchar => Nat.lt_trans (h char hchar).2 (by decide)

/-- No line ends inside a visible text. -/
theorem Visible.not_mem {text : Text} (h : Visible text) : 13 ∉ bytesOf text := by
  rw [h.bytesOf_eq, List.mem_map]
  rintro ⟨char, hchar, hbyte⟩
  obtain ⟨hlow, hhigh⟩ := h char hchar
  have hnat : (UInt8.ofNat char.toNat).toNat = char.toNat :=
    UInt8.toNat_ofNat_of_lt' (Nat.lt_trans hhigh (by decide))
  rw [hbyte] at hnat
  have hthirteen : (13 : UInt8).toNat = 13 := rfl
  omega

theorem visible_toDigits (number : Nat) : Visible (Nat.toDigits 10 number) := by
  intro char hchar
  have hdigit := Char.isDigit_iff_toNat.mp
    (Nat.isDigit_of_mem_toDigits (by decide) (by decide) hchar)
  have hzero : '0'.toNat = 48 := rfl
  have hnine : '9'.toNat = 57 := rfl
  omega

theorem visible_captureIdOf (captureNo : Nat) : Visible (literal (captureIdOf captureNo)) := by
  have hstart : Visible "ALT-".toList := by decide
  have hzeros : ∀ count : Nat, Visible (List.replicate count '0') := fun count char hchar => by
    rw [List.eq_of_mem_replicate hchar]
    decide
  simp only [literal, captureIdOf, String.toList_append, String.toList_ofList]
  exact hstart.append ((hzeros _).append (visible_toDigits captureNo))

/-- A name of a header field. -/
def IsFieldName (name : String) : Prop :=
  asBytes name ≠ [] ∧ 58 ∉ asBytes name ∧ 13 ∉ asBytes name

instance (name : String) : Decidable (IsFieldName name) :=
  inferInstanceAs (Decidable (_ ∧ _))

theorem field_onLine {name : String} {value : Text} (hname : IsFieldName name)
    (hvalue : Visible value) (hspace : value.head? ≠ some ' ') : (field name value).OnLine where
  name_ne_nil := hname.1
  name_colon := hname.2.1
  name_return := hname.2.2
  value_return := hvalue.not_mem
  value_space := by
    intro hhead
    rw [field, hvalue.bytesOf_eq, List.head?_map, Option.map_eq_some_iff] at hhead
    obtain ⟨char, hchar, hbyte⟩ := hhead
    obtain ⟨hlow, hhigh⟩ := hvalue char (List.mem_of_head? hchar)
    have hnat : (UInt8.ofNat char.toNat).toNat = char.toNat :=
      UInt8.toNat_ofNat_of_lt' (Nat.lt_trans hhigh (by decide))
    have hspace' : char = ' ' := by
      apply Char.toNat_inj.mp
      rw [← hnat, hbyte]
      rfl
    exact hspace (hspace' ▸ hchar)

/-! ## The bytes are those of the message -/

/-- A header line. -/
def fieldLine (name : String) (value : Text) : Text :=
  literal name ++ (literal ": " ++ (value ++ literal "\r\n"))

theorem bytesOf_fieldLine (name : String) (value : Text) :
    bytesOf (fieldLine name value) = (field name value).line ++ lineEnd := by
  have hcolon : bytesOf (literal ": ") = [58, 32] := by decide
  have hend : bytesOf (literal "\r\n") = lineEnd := by decide
  rw [fieldLine, bytesOf_append, bytesOf_append, bytesOf_append, hcolon, hend, bytesOf_literal,
    HttpField.line, field]
  simp only [List.append_assoc, List.cons_append, List.nil_append]

theorem Answer.head_eq (answer : Answer) (length : Nat) :
    answer.head length =
      literal "HTTP/1.1 " ++ literal answer.status ++ (literal "\r\n" ++
        (fieldLine "Content-Type" (literal answer.contentType) ++ (literal answer.headers ++
          (fieldLine "Content-Length" (Nat.toDigits 10 length) ++
            (fieldLine "Access-Control-Allow-Origin" (literal "*") ++
              (fieldLine "Connection" (literal "close") ++ literal "\r\n")))))) := by
  have htype : literal "\r\nContent-Type: " =
      literal "\r\n" ++ (literal "Content-Type" ++ literal ": ") := rfl
  have hlength : literal "Content-Length: " = literal "Content-Length" ++ literal ": " := rfl
  have hend : literal "\r\nAccess-Control-Allow-Origin: *\r\nConnection: close\r\n\r\n" =
      literal "\r\n" ++ (literal "Access-Control-Allow-Origin" ++ (literal ": " ++ (literal "*" ++
        (literal "\r\n" ++ (literal "Connection" ++ (literal ": " ++ (literal "close" ++
          (literal "\r\n" ++ literal "\r\n")))))))) := by
    decide
  rw [Answer.head, htype, hlength, hend]
  simp only [fieldLine, List.append_assoc]

theorem literal_dispositionLine (captureId : String) :
    literal (dispositionLine captureId) =
      fieldLine "Content-Disposition" (dispositionValue captureId) := by
  have hstart : literal "Content-Disposition: attachment; filename=\"" =
      literal "Content-Disposition" ++ (literal ": " ++ literal "attachment; filename=\"") := by
    decide
  have hend : literal ".pcap\"\r\n" = literal ".pcap\"" ++ literal "\r\n" := by decide
  have hwhole : literal (dispositionLine captureId) =
      literal "Content-Disposition: attachment; filename=\"" ++ literal captureId ++
        literal ".pcap\"\r\n" :=
    String.toList_append.trans (congrArg (· ++ literal ".pcap\"\r\n") String.toList_append)
  rw [hwhole, hstart, hend, fieldLine, dispositionValue]
  simp only [List.append_assoc]

/-- What the server writes is the message that it means. -/
theorem Answer.Headed.bytes_eq {answer : Answer} {offered : Option String}
    (h : answer.Headed offered) (page : Text) :
    answer.bytes page = (answer.message page offered).encode := by
  have hend : bytesOf (literal "\r\n") = lineEnd := by decide
  have hheaders : bytesOf (literal answer.headers) =
      (offered.toList.map fun captureId =>
        field "Content-Disposition" (dispositionValue captureId)).flatMap
          fun field => field.line ++ lineEnd := by
    rw [h.headers]
    cases offered with
    | none => rfl
    | some captureId =>
        rw [Option.map_some, Option.getD_some, literal_dispositionLine, bytesOf_fieldLine]
        simp only [Option.toList_some, List.map_cons, List.map_nil, List.flatMap_cons,
          List.flatMap_nil, List.append_nil]
  rw [Answer.bytes, answer.head_eq]
  simp only [bytesOf_append, bytesOf_fieldLine, hend, hheaders, HttpMessage.encode, message,
    List.cons_append, List.flatMap_cons, List.flatMap_append, List.flatMap_nil,
    List.append_nil, List.append_assoc]

theorem Answer.Headed.framed {answer : Answer} {offered : Option String}
    (h : answer.Headed offered) (hoffered : ∀ captureId ∈ offered, Visible (literal captureId))
    (page : Text) : (answer.message page offered).Framed := by
  have hstatuses : ∀ status ∈ statuses, Visible (literal "HTTP/1.1 " ++ literal status) := by
    decide
  have htypes : ∀ contentType ∈ contentTypes, Visible (literal contentType) ∧
      (literal contentType).head? ≠ some ' ' := by
    decide
  refine ⟨(hstatuses _ h.status).not_mem, ?_, ?_⟩
  · obtain ⟨htype, hspace⟩ := htypes _ h.contentType
    have hlength := visible_toDigits (answer.body.bytes page).length
    have hdigit : (Nat.toDigits 10 (answer.body.bytes page).length).head? ≠ some ' ' := by
      intro hhead
      have hisDigit := Nat.isDigit_of_mem_toDigits (by decide) (by decide)
        (List.mem_of_head? hhead)
      exact absurd hisDigit (by decide)
    have hdisposition : ∀ other ∈ offered.toList.map fun captureId =>
        field "Content-Disposition" (dispositionValue captureId), other.OnLine := by
      intro other hother
      obtain ⟨captureId, hmem, rfl⟩ := List.mem_map.mp hother
      have hvisible := hoffered captureId (Option.mem_toList.mp hmem)
      have hstart : Visible (literal "attachment; filename=\"") := by decide
      have hend : Visible (literal ".pcap\"") := by decide
      have hhead : (dispositionValue captureId).head? = some 'a' := rfl
      refine field_onLine (by decide) ((hstart.append hvisible).append hend) ?_
      rw [hhead]
      decide
    intro other hother
    simp only [message, List.cons_append, List.mem_cons, List.mem_append, List.not_mem_nil,
      or_false] at hother
    rcases hother with rfl | hother | rfl | rfl | rfl
    · exact field_onLine (by decide) htype hspace
    · exact hdisposition other hother
    · exact field_onLine (by decide) hlength hdigit
    · exact field_onLine (by decide) (by decide) (by decide)
    · exact field_onLine (by decide) (by decide) (by decide)
  · have hnames : ∀ name ∈ ["Content-Type", "Content-Disposition", "Access-Control-Allow-Origin",
        "Connection"], (asBytes name).map lowerByte ≠ contentLengthName := by
      decide
    have hlength : (asBytes "Content-Length").map lowerByte = contentLengthName := by decide
    refine (readContentLength_append ?_ hlength ?_).trans (readDecimal_toDigits _)
    · intro other hother
      rcases List.mem_cons.mp hother with rfl | hother
      · exact hnames "Content-Type" (by decide)
      · obtain ⟨captureId, -, rfl⟩ := List.mem_map.mp hother
        exact hnames "Content-Disposition" (by decide)
    · simp only [List.forall_mem_cons, List.not_mem_nil, false_imp_iff, implies_true, and_true]
      exact ⟨hnames "Access-Control-Allow-Origin" (by decide), hnames "Connection" (by decide)⟩

/-! ## Every handler's answer -/

theorem Answer.headed_json (text : Text) : (Answer.json text).Headed none where
  status := (by decide : "200 OK" ∈ statuses)
  contentType := (by decide : "application/json" ∈ contentTypes)
  headers := rfl

theorem Answer.headed_error {status : String} (hstatus : status ∈ statuses) (message : String) :
    (Answer.error status message).Headed none where
  status := hstatus
  contentType := (by decide : "application/json" ∈ contentTypes)
  headers := rfl

theorem Answer.headed_badRequest (message : String) : (Answer.badRequest message).Headed none :=
  headed_error (by decide) message

theorem Answer.headed_notFound (message : String) : (Answer.notFound message).Headed none :=
  headed_error (by decide) message

theorem Answer.headed_serverError (message : String) : (Answer.serverError message).Headed none :=
  headed_error (by decide) message

theorem Answer.headed_dashboard : Answer.dashboard.Headed none where
  status := by decide
  contentType := by decide
  headers := rfl

section

variable (outside : Outside) (state : AppState)

theorem headed_result (result : ApiResult) : (resultAnswer outside state result).Headed none := by
  unfold resultAnswer
  cases outside.toJson state result with
  | error message => exact Answer.headed_serverError message
  | ok text => exact Answer.headed_json text

/-- A capture is offered only for its own id. -/
theorem headed_pcapFile (captureId : Option Text) :
    ∃ offered : Option String, (pcapFileAnswer outside state captureId).Headed offered ∧
      ∀ id ∈ offered, captureId = some id.toList ∧
        ∃ capture ∈ state.pcapCaptures, capture.captureId = id := by
  have hnone : ∀ id ∈ (none : Option String), captureId = some id.toList ∧
      ∃ capture ∈ state.pcapCaptures, capture.captureId = id := fun _ hid => by cases hid
  unfold pcapFileAnswer
  cases captureId with
  | none => exact ⟨none, Answer.headed_badRequest _, hnone⟩
  | some captureId =>
      dsimp only
      unfold AppState.pcapDownload AppState.findCapture
      cases hfound : state.pcapCaptures.find? fun capture =>
          capture.captureId == String.ofList captureId with
      | none => exact ⟨none, Answer.headed_notFound _, hnone⟩
      | some capture =>
          have hid : capture.captureId = String.ofList captureId :=
            eq_of_beq (List.find?_some (p := fun capture : PcapCaptureRecord =>
              capture.captureId == String.ofList captureId) hfound)
          simp only [Except.map]
          cases outside.readFile capture.filePath with
          | error message => exact ⟨none, Answer.headed_notFound _, hnone⟩
          | ok bytes =>
              have hok : "200 OK" ∈ statuses := by decide
              have htype : "application/vnd.tcpdump.pcap" ∈ contentTypes := by decide
              refine ⟨some capture.captureId, ⟨hok, htype, rfl⟩, ?_⟩
              rintro id ⟨⟩
              exact ⟨by rw [hid, String.toList_ofList],
                capture, List.mem_of_find?_eq_some hfound, rfl⟩

theorem headed_setInterface (iface : Option Text) :
    (setInterfaceAnswer outside state iface).1.Headed none := by
  unfold setInterfaceAnswer
  cases iface with
  | none => exact Answer.headed_badRequest _
  | some iface =>
      dsimp only
      split
      · exact Answer.headed_json _
      · exact Answer.headed_notFound _

theorem headed_toggleDissector (name : Option (Text × Bool)) :
    (toggleDissectorAnswer state name).1.Headed none := by
  unfold toggleDissectorAnswer
  cases name with
  | none => exact Answer.headed_badRequest _
  | some name =>
      dsimp only
      split
      · exact Answer.headed_json _
      · exact Answer.headed_notFound _

theorem headed_postCaptureToggle (body : Option Text) :
    (postCaptureToggleAnswer outside state body).1.Headed none := by
  unfold postCaptureToggleAnswer
  split
  · exact Answer.headed_badRequest _
  · split
    · exact Answer.headed_badRequest _
    · split
      · exact Answer.headed_badRequest _
      · exact Answer.headed_json _

theorem headed_captureManual : (captureManualAnswer outside state).1.Headed none := by
  unfold captureManualAnswer
  rcases state.createPcapCapture outside with ⟨message | record, after⟩
  · exact Answer.headed_serverError message
  · exact headed_result outside after _

theorem headed_pcapDownload (captureId : Option Text) :
    (pcapDownloadAnswer outside state captureId).Headed none := by
  unfold pcapDownloadAnswer
  split
  · exact Answer.headed_badRequest _
  · split
    · exact Answer.headed_notFound _
    · exact headed_result outside state _

theorem headed_pcapReconstruct (captureId : Option Text) :
    (pcapReconstructAnswer outside state captureId).Headed none := by
  unfold pcapReconstructAnswer
  split
  · exact Answer.headed_badRequest _
  · split
    · exact Answer.headed_notFound _
    · exact headed_result outside state _

theorem headed_bulkDownload (body : Option Text) :
    (bulkDownloadAnswer outside state body).Headed none := by
  unfold bulkDownloadAnswer
  split
  · exact Answer.headed_badRequest _
  · split
    · exact Answer.headed_badRequest _
    · exact headed_result outside state _

theorem headed_addIpsRule (body : Option Text) :
    (addIpsRuleAnswer outside state body).1.Headed none := by
  unfold addIpsRuleAnswer
  split
  · exact Answer.headed_badRequest _
  · split
    · exact Answer.headed_badRequest _
    · rename_i request _
      rcases state.addIpsRule outside request with ⟨message | rule, after⟩
      · exact Answer.headed_badRequest message
      · exact headed_result outside after _

theorem headed_deleteIpsRule (path : Option (Option Text)) :
    (deleteIpsRuleAnswer state path).1.Headed none := by
  unfold deleteIpsRuleAnswer
  split
  · exact Answer.headed_badRequest _
  · exact Answer.headed_badRequest _
  · split
    · exact Answer.headed_badRequest _
    · dsimp only
      split
      · exact Answer.headed_notFound _
      · exact Answer.headed_json _

theorem headed_ipsMode (body : Option Text) :
    (ipsModeAnswer outside state body).1.Headed none := by
  unfold ipsModeAnswer
  split
  · exact Answer.headed_badRequest _
  · split
    · exact Answer.headed_badRequest _
    · split
      · exact Answer.headed_badRequest _
      · rename_i mode _
        rcases state.setIpsMode (String.ofList mode) with ⟨message | info, after⟩
        · exact Answer.headed_badRequest message
        · exact headed_result outside after _

theorem headed_getConfig : (getConfigAnswer outside state).Headed none := by
  unfold getConfigAnswer
  split
  · exact Answer.headed_json _
  · exact Answer.headed_serverError _

theorem headed_postConfig (body : Option Text) :
    (postConfigAnswer outside state body).1.Headed none := by
  unfold postConfigAnswer
  split
  · exact Answer.headed_badRequest _
  · split
    · exact Answer.headed_badRequest _
    · split
      · exact Answer.headed_badRequest _
      · dsimp only
        split
        · exact Answer.headed_serverError _
        · exact Answer.headed_json _

theorem headed_metrics : (metricsAnswer outside).Headed none := by
  have htext : "text/plain; version=0.0.4; charset=utf-8" ∈ contentTypes := by decide
  have hplain : "text/plain" ∈ contentTypes := by decide
  have hok : "200 OK" ∈ statuses := by decide
  have hfailed : "500 Internal Server Error" ∈ statuses := by decide
  unfold metricsAnswer
  split
  · exact ⟨hok, htext, rfl⟩
  · exact ⟨hfailed, hplain, rfl⟩

/-- Only the file of a capture is answered with a further header line. -/
theorem headed_endpoint {endpoint : Endpoint} (hendpoint : endpoint ≠ .pcapFile)
    (arguments : Arguments) :
    (endpointAnswer outside state endpoint arguments).1.Headed none := by
  have hpage := Answer.headed_dashboard
  cases endpoint with
  | packets | interfaces | flows | ipsRules | ipsEvents | ips | state =>
      exact headed_result outside state _
  | pcapFile => exact absurd rfl hendpoint
  | setInterface =>
      cases arguments with
      | iface iface => exact headed_setInterface outside state iface
      | _ => exact hpage
  | toggleDissector =>
      cases arguments with
      | dissector name => exact headed_toggleDissector state name
      | _ => exact hpage
  | getCaptureToggle =>
      cases arguments with
      | enabled enabled => exact Answer.headed_json _
      | _ => exact hpage
  | postCaptureToggle =>
      cases arguments with
      | body body => exact headed_postCaptureToggle outside state body
      | _ => exact hpage
  | pcapStorage | pcapCaptures =>
      cases arguments with
      | filter filter => exact headed_result outside state _
      | _ => exact hpage
  | captureManual => exact headed_captureManual outside state
  | pcapDownload =>
      cases arguments with
      | captureId captureId => exact headed_pcapDownload outside state captureId
      | _ => exact hpage
  | pcapReconstruct =>
      cases arguments with
      | captureId captureId => exact headed_pcapReconstruct outside state captureId
      | _ => exact hpage
  | bulkDownload =>
      cases arguments with
      | body body => exact headed_bulkDownload outside state body
      | _ => exact hpage
  | addIpsRule =>
      cases arguments with
      | body body => exact headed_addIpsRule outside state body
      | _ => exact hpage
  | deleteIpsRule =>
      cases arguments with
      | ruleId path => exact headed_deleteIpsRule state path
      | _ => exact hpage
  | ipsMode =>
      cases arguments with
      | body body => exact headed_ipsMode outside state body
      | _ => exact hpage
  | getConfig => exact headed_getConfig outside state
  | postConfig =>
      cases arguments with
      | body body => exact headed_postConfig outside state body
      | _ => exact hpage
  | metrics => exact headed_metrics outside
  | health => exact Answer.headed_json _

/-- Every answer has a status and a content type of the server's, and offers a capture of the
index that was asked for, or none. -/
theorem headed_respond (request : Text) :
    ∃ offered : Option String, (respond outside state request).1.Headed offered ∧
      ∀ id ∈ offered, dispatch request = .endpoint .pcapFile (.captureId (some id.toList)) ∧
        ∃ capture ∈ state.pcapCaptures, capture.captureId = id := by
  have hnone : ∀ id ∈ (none : Option String),
      dispatch request = .endpoint .pcapFile (.captureId (some id.toList)) ∧
        ∃ capture ∈ state.pcapCaptures, capture.captureId = id := fun _ hid => by cases hid
  unfold respond
  cases hdispatch : dispatch request with
  | dashboard => exact ⟨none, Answer.headed_dashboard, fun _ hid => by cases hid⟩
  | endpoint endpoint arguments =>
      rw [hdispatch] at hnone
      dsimp only
      by_cases hendpoint : endpoint = .pcapFile
      · subst hendpoint
        cases arguments with
        | captureId captureId =>
            obtain ⟨offered, hheaded, hoffered⟩ := headed_pcapFile outside state captureId
            refine ⟨offered, hheaded, fun id hid => ?_⟩
            obtain ⟨rfl, hcapture⟩ := hoffered id hid
            exact ⟨rfl, hcapture⟩
        | _ => exact ⟨none, Answer.headed_dashboard, hnone⟩
      · exact ⟨none, headed_endpoint outside state hendpoint arguments, hnone⟩

end

/-! ## Sessions -/

/-- What happens to the sensor: a request is served, or another thread indexes a capture or
changes what is not in the index. -/
inductive ServerEvent where
  | request (outside : Outside) (request : Text)
  | captured (call : CaptureCall) (sizeBytes : Nat)
  | changed (rest : AppState)

/-- The sensor after an event. -/
def AppState.after (state : AppState) : ServerEvent → AppState
  | .request outside request => (respond outside state request).2
  | .captured call sizeBytes =>
      { state with
        pcapCaptures := (evictOldest state.pcapCaptures).2 ++ [call.record sizeBytes] }
  | .changed rest => { rest with pcapCaptures := state.pcapCaptures }

/-- The ids of the index are the sensor's own. -/
def AppState.Numbered (state : AppState) : Prop :=
  ∀ capture ∈ state.pcapCaptures, ∃ captureNo : Nat, capture.captureId = captureIdOf captureNo

/-- A new record drives at most the oldest out. -/
theorem AppState.Numbered.push {state : AppState} (h : state.Numbered) {next : AppState}
    {call : CaptureCall} {sizeBytes : Nat} (hnext : next.pcapCaptures =
      (evictOldest state.pcapCaptures).2 ++ [call.record sizeBytes]) : next.Numbered := by
  have hkept : ∀ capture ∈ (evictOldest state.pcapCaptures).2, capture ∈ state.pcapCaptures := by
    unfold evictOldest
    split
    · exact fun capture hcapture => List.mem_of_mem_tail hcapture
    · exact fun capture hcapture => hcapture
  intro capture hcapture
  rw [hnext, List.mem_append, List.mem_singleton] at hcapture
  rcases hcapture with hcapture | rfl
  · exact h capture (hkept capture hcapture)
  · exact ⟨call.captureNo, rfl⟩

section

variable (outside : Outside) {state : AppState}

theorem AppState.Numbered.captureManual (h : state.Numbered) :
    (captureManualAnswer outside state).2.Numbered := by
  unfold captureManualAnswer AppState.createPcapCapture
  dsimp only
  split
  · exact h
  · exact h.push rfl

theorem AppState.Numbered.respond (h : state.Numbered) (request : Text) :
    (respond outside state request).2.Numbered := by
  rw [Server.respond]
  cases dispatch request with
  | dashboard => exact h
  | endpoint endpoint arguments =>
      by_cases hendpoint : endpoint = .captureManual
      · subst hendpoint
        cases arguments <;> exact h.captureManual outside
      · have hcaptures :=
          endpointAnswer_frame outside state (spares_pcapCaptures hendpoint) arguments
        exact fun capture hcapture => h capture (hcaptures ▸ hcapture)

end

theorem AppState.Numbered.after {state : AppState} (h : state.Numbered) (event : ServerEvent) :
    (state.after event).Numbered := by
  cases event with
  | request outside request => exact h.respond outside request
  | captured call sizeBytes => exact h.push rfl
  | changed rest => exact h

theorem AppState.Numbered.session {state : AppState} (h : state.Numbered)
    (events : List ServerEvent) : (events.foldl AppState.after state).Numbered := by
  induction events generalizing state with
  | nil => exact h
  | cons event events ih => exact ih (h.after event)

/-- Whatever was served before and whatever the request is, the answer is read back as the
message that the server means, with nothing left over; it has a further field only for the
capture that was asked for. -/
theorem respond_framed (start : AppState) (hstart : start.pcapCaptures = [])
    (events : List ServerEvent) (outside : Outside) (request page : Text) (rest : Bytes) :
    ∃ offered : Option String,
      readMessage ((respond outside (events.foldl AppState.after start) request).1.bytes page ++
          rest) =
        some ((respond outside (events.foldl AppState.after start) request).1.message page offered,
          rest) ∧
      ∀ id ∈ offered, dispatch request = .endpoint .pcapFile (.captureId (some id.toList)) := by
  have hnumbered : (events.foldl AppState.after start).Numbered := by
    refine AppState.Numbered.session (fun capture hcapture => ?_) events
    rw [hstart] at hcapture
    exact absurd hcapture List.not_mem_nil
  obtain ⟨offered, hheaded, hoffered⟩ := headed_respond outside (events.foldl AppState.after start)
    request
  refine ⟨offered, ?_, fun id hid => (hoffered id hid).1⟩
  rw [hheaded.bytes_eq]
  refine readMessage_encode (hheaded.framed (fun id hid => ?_) page) rest
  obtain ⟨-, capture, hcapture, rfl⟩ := hoffered id hid
  obtain ⟨captureNo, hid⟩ := hnumbered capture hcapture
  rw [hid]
  exact visible_captureIdOf captureNo

/-- A system on which files can be written and read. -/
def Outside.withFiles : Outside :=
  { Outside.bare with
    flushToPcap := fun _ => .ok 24
    readFile := fun _ => .ok [0xD4, 0xC3, 0xB2, 0xA1] }

def askForCapture : Text := "POST /api/pcap/capture/manual HTTP/1.1\r\n\r\n".toList

def askForFile : Text := "GET /api/pcap/file?id=ALT-0001 HTTP/1.1\r\n\r\n".toList

theorem respond_framed_file : ∃ offered : Option String,
    readMessage ((respond .withFiles (AppState.initial.after
        (.request .withFiles askForCapture)) askForFile).1.bytes [] ++ [13, 10]) =
      some ((respond .withFiles (AppState.initial.after
        (.request .withFiles askForCapture)) askForFile).1.message [] offered, [13, 10]) ∧
    ∀ id ∈ offered, dispatch askForFile = .endpoint .pcapFile (.captureId (some id.toList)) :=
  respond_framed .initial rfl [.request .withFiles askForCapture] .withFiles askForFile [] [13, 10]

example : (respond .withFiles (AppState.initial.after
    (.request .withFiles askForCapture)) askForFile).1.headers = dispositionLine "ALT-0001" := by
  decide +kernel

end GeSensor.Server
