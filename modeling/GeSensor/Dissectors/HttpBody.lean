/-
  Dissectors/HttpBody.lean --- what the body of an HTTP message does to its recognition.

  The lines up to the empty one are the same whatever follows them, and the dissector
  looks at no other.  It decodes all of the payload first: with a body that is not
  UTF-8, such as an image or a text cut inside a character, nothing is recognised.
-/
import GeSensor.Dissectors.HttpLines

set_option autoImplicit false

namespace GeSensor.Dissectors

open GeSensor.Foundation

/-- A header block: at least ten bytes of UTF-8 that end in an empty line. -/
structure HeaderBlock where
  bytes : Bytes
  head : List Char
  decodes : fromUtf8 bytes = some (head ++ "\r\n\r\n".toList)
  long : 10 ≤ bytes.length

/-- The text of a header block. -/
def HeaderBlock.text (header : HeaderBlock) : List Char := header.head ++ "\r\n\r\n".toList

/-- The body behind the header block changes neither what the dissector returns, wherever
the payload starts, nor how a TCP packet on other ports is tagged. -/
structure BodyIndependent (header : HeaderBlock) (body : Bytes) : Prop where
  dissected : ∀ front : Bytes,
    dissectHttp (front ++ header.bytes ++ body) front.length =
      dissectHttp (front ++ header.bytes) front.length
  tagged : ∀ (front : Bytes) (packet : PacketMetadata),
    dissectPacket (front ++ header.bytes) = .ok (some packet) → packet.ipProto = ipProtoTcp →
    packet.usesPort tcpPortTable = false → packet.payloadOffset = front.length →
    packet.payloadLen = header.bytes.length →
    ∃ whole, dissectPacket (front ++ header.bytes ++ body) = .ok (some whole) ∧
      whole.protocolName = packet.protocolName

/-! ## The lines of a header block -/

/-- The empty line ends the search for the `Host` header. -/
theorem findHost_append_empty (headers more : List (List Char)) :
    findHost (headers ++ [] :: more) = findHost (headers ++ [[]]) := by
  induction headers with
  | nil => rfl
  | cons line rest ih =>
      rw [List.cons_append, List.cons_append, findHost, findHost, ih]

section

variable (header : HeaderBlock)

/-- What follows the empty line is read into lines behind it. -/
theorem HeaderBlock.lines_append (rest : List Char) :
    ∃ firstLine headers, lines (header.text ++ rest) = firstLine :: (headers ++ [] :: lines rest) ∧
      lines header.text = firstLine :: (headers ++ [[]]) := by
  have hsplit : ∀ rest, lines (header.text ++ rest) =
      lines (header.head ++ ['\r', '\n']) ++ [] :: lines rest := by
    intro rest
    have hfeed := lines_append_feed (header.head ++ ['\r']) ('\r' :: '\n' :: rest)
    simpa [HeaderBlock.text, lines] using hfeed
  obtain ⟨firstLine, headers, hlines⟩ := List.exists_cons_of_ne_nil
    (lines_ne_nil (List.append_ne_nil_of_right_ne_nil header.head
      (List.cons_ne_nil '\r' ['\n'])))
  refine ⟨firstLine, headers, ?_, ?_⟩
  · rw [hsplit, hlines, List.cons_append]
  · rw [← List.append_nil header.text, hsplit, hlines, List.cons_append]
    rfl

/-- The lines behind the empty one do not count. -/
theorem HeaderBlock.linesInfo_append (rest : List Char) :
    linesInfo (lines (header.text ++ rest)) = linesInfo (lines header.text) := by
  obtain ⟨firstLine, headers, hlonger, hlines⟩ := header.lines_append rest
  rw [hlonger, hlines, linesInfo, linesInfo, findHost_append_empty]

theorem HeaderBlock.payloadInfo_eq :
    payloadInfo header.bytes = linesInfo (lines header.text) := by
  rw [payloadInfo, if_neg (Nat.not_lt.mpr header.long), header.decodes]
  rfl

/-- A body that decodes is not looked at; any other hides the header block. -/
theorem HeaderBlock.payloadInfo_append (body : Bytes) :
    payloadInfo (header.bytes ++ body) =
      if (fromUtf8 body).isSome = true then payloadInfo header.bytes else none := by
  have hlong : ¬ (header.bytes ++ body).length < 10 := by
    have hheader := header.long
    rw [List.length_append]
    omega
  rw [payloadInfo, if_neg hlong, fromUtf8_append header.decodes]
  cases hbody : fromUtf8 body with
  | none => rfl
  | some text =>
      rw [Option.map_some, Option.bind_some, header.payloadInfo_eq]
      exact header.linesInfo_append text

/-- The first line of a header block. -/
def HeaderBlock.firstLine : List Char := (lines header.text).headD []

/-- A header block is recognised by its first line. -/
theorem HeaderBlock.isSome_payloadInfo_iff :
    (payloadInfo header.bytes).isSome = true ↔ ReadsAsHttp header.firstLine := by
  obtain ⟨firstLine, headers, -, hlines⟩ := header.lines_append []
  rw [header.payloadInfo_eq, HeaderBlock.firstLine, hlines, linesInfo, Option.isSome_map,
    firstLineInfo_isSome_iff]
  rfl

/-- The body shows exactly in a recognised header block, and by not being UTF-8. -/
theorem HeaderBlock.payloadInfo_append_iff (body : Bytes) :
    payloadInfo (header.bytes ++ body) = payloadInfo header.bytes ↔
      (fromUtf8 body).isSome = true ∨ ¬ ReadsAsHttp header.firstLine := by
  rw [header.payloadInfo_append, ← header.isSome_payloadInfo_iff]
  cases payloadInfo header.bytes <;> cases fromUtf8 body <;> simp

end

/-! ## The body and the tag -/

/-- Two payloads that are read alike are tagged alike. -/
theorem protocolName_of_payloadInfo_eq {front payload body : Bytes} {packet : PacketMetadata}
    (hlong : 4 < payload.length)
    (hinfo : payloadInfo (payload ++ body) = payloadInfo payload)
    (h : dissectPacket (front ++ payload) = .ok (some packet))
    (hproto : packet.ipProto = ipProtoTcp) (hports : packet.usesPort tcpPortTable = false)
    (hoffset : packet.payloadOffset = front.length) (hlen : packet.payloadLen = payload.length) :
    ∃ whole, dissectPacket (front ++ payload ++ body) = .ok (some whole) ∧
      whole.protocolName = packet.protocolName := by
  obtain ⟨whole, hwhole, hwholeProto, htransport, hwholeOffset, hgrows⟩ :=
    dissectPacket_tcp_append h hproto (by omega) body
  have hwholePorts : whole.usesPort tcpPortTable = false := by
    rwa [PacketMetadata.usesPort_of_transport htransport]
  have hread : dissectHttp (front ++ payload) packet.payloadOffset =
      .ok (payloadInfo payload) := by
    rw [hoffset]
    exact dissectHttp_answers.append front payload
  have hwholeRead : dissectHttp (front ++ payload ++ body) whole.payloadOffset =
      .ok (payloadInfo payload) := by
    rw [hwholeOffset, hoffset, List.append_assoc, ← hinfo]
    exact dissectHttp_answers.append front _
  refine ⟨whole, hwhole, ?_⟩
  rw [protocolName_of_long_payload h hproto hports hread (by omega),
    protocolName_of_long_payload hwhole hwholeProto hwholePorts hwholeRead (by omega)]

/-- The exact condition: the recognition of a header block depends on the body behind it
exactly where the first line reads as HTTP and the body is not UTF-8. -/
theorem body_independent_iff (header : HeaderBlock) (body : Bytes) :
    BodyIndependent header body ↔
      (fromUtf8 body).isSome = true ∨ ¬ ReadsAsHttp header.firstLine := by
  rw [← header.payloadInfo_append_iff]
  constructor
  · intro hindependent
    have hwhole := dissectHttp_answers.append [] (header.bytes ++ body)
    have hheader := dissectHttp_answers.append [] header.bytes
    exact Except.ok.inj (hwhole.symm.trans ((hindependent.dissected []).trans hheader))
  · intro hinfo
    refine ⟨fun front => ?_, fun front packet h hproto hports hoffset hlen => ?_⟩
    · rw [List.append_assoc, dissectHttp_answers.append, dissectHttp_answers.append, hinfo]
    · have hlong : 4 < header.bytes.length := by have := header.long; omega
      exact protocolName_of_payloadInfo_eq hlong hinfo h hproto hports hoffset hlen

/-- A request header block whose first line is all it has. -/
def getHeader : HeaderBlock where
  bytes := asBytes "GET / HTTP/1.1\r\n\r\n"
  head := "GET / HTTP/1.1".toList
  decodes := fromUtf8_asBytes _
  long := by decide

/-- One byte that is not UTF-8 behind it, and the request is not recognised. -/
theorem getHeader_not_bodyIndependent : ¬ BodyIndependent getHeader [0xFF] := by
  intro h
  exact absurd (h.dissected []) (by decide)

end GeSensor.Dissectors
