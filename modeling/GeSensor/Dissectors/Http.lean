/-
  Dissectors/Http.lean --- the HTTP dissector of `src/dissectors/http.rs`.

  A payload that is valid UTF-8 is split into lines; the first one must read as a
  response or as a request of three parts, and the `Host` header is searched in
  the lines after it.
-/
import GeSensor.Foundation.ByteReads
import GeSensor.Foundation.Text

set_option autoImplicit false

namespace GeSensor.Dissectors

open GeSensor.Foundation

/-- Parsed HTTP request information. -/
structure HttpInfo where
  /-- HTTP method, empty for responses -/
  method : List Char := []
  uri : List Char := []
  version : List Char := []
  /-- response status code, 0 for requests -/
  statusCode : UInt16 := 0
  /-- `Host` header value, if present -/
  host : List Char := []
  deriving DecidableEq, Repr

/-- The value of the first `Host` header before the empty line. -/
def findHost : List (List Char) → Option (List Char)
  | [] => none
  | line :: rest =>
      if line = [] then none
      else
        match (stripPrefix "Host: ".toList line).or (stripPrefix "host: ".toList line) with
        | some host => some (trim host)
        | none => findHost rest

/-- The fields of the first line; `none` when it is neither a response nor a
request of three parts. -/
def parseFirstLine (firstLine : List Char) : Checked (Option HttpInfo) := do
  let parts := splitn 3 ' ' firstLine
  if "HTTP/".toList.isPrefixOf firstLine then
    if 2 ≤ parts.length then
      return some { version := ← index parts 0, statusCode := (parseU16 (← index parts 1)).getD 0 }
    else return some {}
  else if 3 ≤ parts.length then
    return some { method := ← index parts 0, uri := ← index parts 1, version := ← index parts 2 }
  else return none

/-- Attempt to parse an HTTP request or response from the payload. -/
def dissectHttp (data : Bytes) (payloadOffset : Nat) : Checked (Option HttpInfo) :=
  match getFrom? data payloadOffset with
  | none => .ok none
  | some payload =>
      if payload.length < 10 then .ok none
      else
        match fromUtf8 payload with
        | none => .ok none
        | some text =>
            match lines text with
            | [] => .ok none
            | firstLine :: headers => do
                match ← parseFirstLine firstLine with
                | none => return none
                | some info => return some { info with host := (findHost headers).getD info.host }

/-! ## The dissector in terms of the payload -/

/-- What the first line is read as. -/
def firstLineInfo (firstLine : List Char) : Option HttpInfo :=
  match "HTTP/".toList.isPrefixOf firstLine, splitn 3 ' ' firstLine with
  | true, version :: code :: _ =>
      some { version := version, statusCode := (parseU16 code).getD 0 }
  | true, _ => some {}
  | false, method :: uri :: version :: _ =>
      some { method := method, uri := uri, version := version }
  | false, _ => none

theorem parseFirstLine_eq_ok (firstLine : List Char) :
    parseFirstLine firstLine = .ok (firstLineInfo firstLine) := by
  unfold parseFirstLine firstLineInfo
  rcases splitn 3 ' ' firstLine with _ | ⟨first, _ | ⟨second, _ | ⟨third, more⟩⟩⟩ <;>
    cases "HTTP/".toList.isPrefixOf firstLine <;> rfl

/-- What the lines of a payload are read as. -/
def linesInfo : List (List Char) → Option HttpInfo
  | [] => none
  | firstLine :: headers =>
      (firstLineInfo firstLine).map fun info =>
        { info with host := (findHost headers).getD info.host }

/-- What a payload is read as. -/
def payloadInfo (payload : Bytes) : Option HttpInfo :=
  if payload.length < 10 then none else (fromUtf8 payload).bind fun text => linesInfo (lines text)

theorem dissectHttp_answers : AnswersFrom dissectHttp payloadInfo := by
  intro data payloadOffset
  unfold dissectHttp payloadInfo
  cases getFrom? data payloadOffset with
  | none => rfl
  | some payload =>
      rw [Option.bind_some]
      dsimp only
      split
      · rfl
      · cases fromUtf8 payload with
        | none => rfl
        | some text =>
            dsimp only [Option.bind_some]
            cases lines text with
            | nil => rfl
            | cons firstLine headers =>
                dsimp only
                rw [parseFirstLine_eq_ok, ok_bind, linesInfo]
                cases firstLineInfo firstLine <;> rfl

/-- The dissector never panics. -/
theorem dissectHttp_returns (data : Bytes) (payloadOffset : Nat) :
    Returns (dissectHttp data payloadOffset) :=
  dissectHttp_answers.returns data payloadOffset

example :
    dissectHttp
        "GET /api HTTP/1.1\r\nAccept: */*\r\nHost: gods-eye.io \r\n\r\n".toUTF8.data.toList 0 =
      .ok (some
        { method := "GET".toList, uri := "/api".toList, version := "HTTP/1.1".toList,
          host := "gods-eye.io".toList }) := by
  decide

end GeSensor.Dissectors
