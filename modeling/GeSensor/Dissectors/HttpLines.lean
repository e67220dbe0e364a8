/-
  Dissectors/HttpLines.lean --- which payloads the HTTP dissector recognises.

  The dissector decodes the whole payload as UTF-8, looks at the first line, and then
  searches the lines up to the empty one for the `Host` header.  The body is not looked
  at, but it must decode: one byte of it that is not UTF-8 hides the request.  The first
  line is recognised by two spaces or by the letters it begins with, whatever its words
  are.
-/
import GeSensor.Dissectors.Snapping
import GeSensor.Foundation.TextSearch

set_option autoImplicit false

namespace GeSensor.Dissectors

open GeSensor.Foundation

/-! ## Recognised payloads -/

/-- The first line is taken for HTTP: it begins like a version, or has two spaces. -/
def ReadsAsHttp (firstLine : List Char) : Prop :=
  "HTTP/".toList <+: firstLine ∨ 2 ≤ firstLine.count ' '

/-- Two spaces separate three words. -/
theorem two_le_count_iff {line : List Char} :
    2 ≤ line.count ' ' ↔ ∃ first second rest,
      ' ' ∉ first ∧ ' ' ∉ second ∧ line = first ++ ' ' :: (second ++ ' ' :: rest) := by
  constructor
  · intro hcount
    have hmem : ' ' ∈ line := List.count_pos_iff.mp (by omega)
    obtain ⟨first, behind, rfl, hfirst⟩ := List.eq_append_cons_of_mem hmem
    have hbehind : ' ' ∈ behind := by
      rw [List.count_append, List.count_eq_zero.mpr hfirst, List.count_cons_self] at hcount
      exact List.count_pos_iff.mp (by omega)
    obtain ⟨second, rest, rfl, hsecond⟩ := List.eq_append_cons_of_mem hbehind
    exact ⟨first, second, rest, hfirst, hsecond, rfl⟩
  · rintro ⟨first, second, rest, _, _, rfl⟩
    simp only [List.count_append, List.count_cons_self]
    omega

/-- The three words of a line. -/
theorem splitn_words {first second : List Char} (hfirst : ' ' ∉ first) (hsecond : ' ' ∉ second)
    (rest : List Char) :
    splitn 3 ' ' (first ++ ' ' :: (second ++ ' ' :: rest)) = [first, second, rest] := by
  rw [splitn_append hfirst, splitn_append hsecond]
  rfl

theorem firstLineInfo_isSome_iff (firstLine : List Char) :
    (firstLineInfo firstLine).isSome = true ↔ ReadsAsHttp firstLine := by
  unfold ReadsAsHttp firstLineInfo
  rw [← List.isPrefixOf_iff_prefix]
  cases "HTTP/".toList.isPrefixOf firstLine with
  | true =>
      rcases splitn 3 ' ' firstLine with _ | ⟨first, _ | ⟨second, more⟩⟩ <;> simp
  | false =>
      rw [or_iff_right Bool.false_ne_true]
      by_cases hcount : 2 ≤ firstLine.count ' '
      · obtain ⟨first, second, rest, hfirst, hsecond, rfl⟩ := two_le_count_iff.mp hcount
        rw [splitn_words hfirst hsecond]
        exact iff_of_true rfl hcount
      · refine iff_of_false ?_ hcount
        by_cases hmem : ' ' ∈ firstLine
        · obtain ⟨first, rest, rfl, hfirst⟩ := List.eq_append_cons_of_mem hmem
          have hrest : ' ' ∉ rest := by
            rw [List.count_append, List.count_cons_self] at hcount
            exact List.count_eq_zero.mp (by omega)
          rw [splitn_append hfirst, splitn_of_not_mem hrest]
          exact Bool.false_ne_true
        · rw [splitn_of_not_mem hmem]
          exact Bool.false_ne_true

/-- A payload is recognised by the length it has, and by its first line. -/
theorem payloadInfo_isSome_iff (payload : Bytes) :
    (payloadInfo payload).isSome = true ↔ 10 ≤ payload.length ∧
      ∃ text line more, fromUtf8 payload = some text ∧ lines text = line :: more ∧
        ReadsAsHttp line := by
  unfold payloadInfo
  split
  · rename_i hshort
    exact iff_of_false Bool.false_ne_true fun h => absurd h.1 (Nat.not_le.mpr hshort)
  · rename_i hlong
    rw [and_iff_right (Nat.le_of_not_lt hlong)]
    cases fromUtf8 payload with
    | none => simp
    | some text =>
        rw [Option.bind_some]
        cases hlines : lines text with
        | nil =>
            refine iff_of_false Bool.false_ne_true ?_
            rintro ⟨_, _, _, htext, hline, -⟩
            cases htext
            rw [hlines] at hline
            cases hline
        | cons line more =>
            rw [linesInfo, Option.isSome_map, firstLineInfo_isSome_iff]
            constructor
            · exact fun hreads => ⟨text, line, more, rfl, hlines, hreads⟩
            · rintro ⟨_, _, _, htext, hline, hreads⟩
              cases htext
              cases hlines.symm.trans hline
              exact hreads

/-! ## Packets on other ports -/

/-- The TCP ports that `identify_protocol` knows. -/
def tcpPortTable : List UInt16 := [443, 8443, 80, 8080, 8000, 9090, 3000, 3128, 8888, 53]

theorem identifyProtocol_other_port {data : Bytes} {packet : PacketMetadata}
    (hproto : packet.ipProto = ipProtoTcp) (hports : packet.usesPort tcpPortTable = false) :
    identifyProtocol data packet =
      if 4 < packet.payloadLen then do
        match ← dissectHttp data packet.payloadOffset with
        | some _ => return .http
        | none => return packet.protocolName
      else .ok packet.protocolName := by
  have hpart : ∀ ports ⊆ tcpPortTable, ¬ packet.usesPort ports = true := by
    intro ports hsub huses
    rw [← Bool.not_eq_true, PacketMetadata.usesPort, Bool.or_eq_true, List.contains_iff_mem,
      List.contains_iff_mem] at hports
    rw [PacketMetadata.usesPort, Bool.or_eq_true, List.contains_iff_mem,
      List.contains_iff_mem] at huses
    exact hports (huses.imp (fun hmem => hsub hmem) fun hmem => hsub hmem)
  unfold identifyProtocol
  refine (if_pos hproto).trans ?_
  refine (if_neg (hpart _ (by decide))).trans ?_
  refine (if_neg (hpart _ (by decide))).trans ?_
  exact if_neg (hpart _ (by decide))

/-- The ports are part of the transport fields. -/
theorem PacketMetadata.usesPort_of_transport {left right : PacketMetadata}
    (h : left.transport = right.transport) (ports : List UInt16) :
    left.usesPort ports = right.usesPort ports := by
  obtain ⟨hsrc, hrest⟩ := Prod.mk.inj h
  rw [PacketMetadata.usesPort, PacketMetadata.usesPort, hsrc, (Prod.mk.inj hrest).1]

/-- A TCP packet has an IP layer, and a transport header that names it. -/
theorem layers_of_tcp {frame : Bytes} {packet : PacketMetadata}
    (h : dissectPacket frame = .ok (some packet)) (hproto : packet.ipProto = ipProtoTcp) :
    ∃ l3 ethPacket l4 ipPacket, ethernetLayer frame = some (l3, ethPacket) ∧
      ipLayer frame l3 ethPacket = some (l4, ipPacket) ∧ ipPacket.ipProto = ipProtoTcp ∧
      packet = transportNamed frame l4 ipPacket := by
  obtain ⟨l3, ethPacket, hethernet, ⟨_, protocolName, rfl⟩ | ⟨l4, ipPacket, hip, rfl⟩⟩ :=
    layers_of_dissectPacket h
  · rw [ethernetLayer_linkOnly hethernet protocolName] at hproto
    cases hproto
  · exact ⟨l3, ethPacket, l4, ipPacket, hethernet, hip,
      (transportFields_ips frame l4 ipPacket).2.2.symm.trans hproto, rfl⟩

/-- The name of a TCP packet before its payload is looked at. -/
theorem transportFields_tcp_name {frame : Bytes} {l4 : Nat} {ipPacket : PacketMetadata}
    (hipPacket : ipPacket.NoPayload) (hproto : ipPacket.ipProto = ipProtoTcp) :
    (transportFields frame l4 ipPacket).protocolName = .tcp ∨
      (transportFields frame l4 ipPacket).protocolName = .tcpTruncated ∧
        (transportFields frame l4 ipPacket).payloadLen = 0 := by
  rw [transportFields, if_pos hproto]
  split
  · exact Or.inr ⟨rfl, hipPacket.len⟩
  · exact Or.inl rfl

/-- A TCP packet on other ports is tagged by its payload. -/
theorem protocolName_other_port {frame : Bytes} {packet : PacketMetadata}
    (h : dissectPacket frame = .ok (some packet)) (hproto : packet.ipProto = ipProtoTcp)
    (hports : packet.usesPort tcpPortTable = false) {answer : Option HttpInfo}
    (hanswer : dissectHttp frame packet.payloadOffset = .ok answer) :
    (packet.protocolName = .http ↔ 4 < packet.payloadLen ∧ answer.isSome = true) ∧
      (packet.protocolName = .http ∨ packet.protocolName = .tcp ∨
        packet.protocolName = .tcpTruncated ∧ packet.payloadLen = 0) := by
  obtain ⟨l3, ethPacket, l4, ipPacket, hethernet, hip, hipProto, rfl⟩ := layers_of_tcp h hproto
  have hipPacket : ipPacket.NoPayload :=
    (ipLayer_noPayload (ethernetLayer_noPayload hethernet).1 hip).1
  have hbase := @transportFields_tcp_name frame l4 _ hipPacket hipProto
  have hname : identifyProtocol frame (transportFields frame l4 ipPacket) =
      .ok (transportNamed frame l4 ipPacket).protocolName := identifyProtocol_eq_ok _ _
  have hports' : (transportFields frame l4 ipPacket).usesPort tcpPortTable = false := hports
  have hanswer' : dissectHttp frame (transportFields frame l4 ipPacket).payloadOffset =
    .ok answer := hanswer
  rw [identifyProtocol_other_port ((transportFields_ips _ _ _).2.2.trans hipProto) hports',
    hanswer', ok_bind] at hname
  have hlen : (transportNamed frame l4 ipPacket).payloadLen =
      (transportFields frame l4 ipPacket).payloadLen := rfl
  rw [hlen]
  split at hname
  · rename_i hlong
    cases answer with
    | none =>
        rw [← Except.ok.inj hname]
        rcases hbase with hbase | hbase
        · simp [hbase]
        · omega
    | some info =>
        rw [← Except.ok.inj hname]
        simp [hlong]
  · rename_i hshort
    rw [← Except.ok.inj hname]
    rcases hbase with hbase | hbase
    · simp [hbase, hshort]
    · simp [hbase]

/-- A packet whose payload is long enough to be looked at. -/
theorem protocolName_of_long_payload {frame : Bytes} {packet : PacketMetadata}
    (h : dissectPacket frame = .ok (some packet)) (hproto : packet.ipProto = ipProtoTcp)
    (hports : packet.usesPort tcpPortTable = false) {answer : Option HttpInfo}
    (hanswer : dissectHttp frame packet.payloadOffset = .ok answer) (hlen : 4 < packet.payloadLen) :
    packet.protocolName = if answer.isSome then .http else .tcp := by
  obtain ⟨hname, hother⟩ := protocolName_other_port h hproto hports hanswer
  cases hsome : answer.isSome with
  | true => exact hname.mpr ⟨hlen, hsome⟩
  | false =>
      rcases hother with hhttp | htcp | ⟨-, hempty⟩
      · have := (hname.mp hhttp).2.symm.trans hsome
        contradiction
      · exact htcp
      · omega

/-- More bytes behind the payload of a TCP packet leave its header as it is. -/
theorem dissectPacket_tcp_append {front : Bytes} {packet : PacketMetadata}
    (h : dissectPacket front = .ok (some packet)) (hproto : packet.ipProto = ipProtoTcp)
    (hlen : 0 < packet.payloadLen) (back : Bytes) :
    ∃ whole, dissectPacket (front ++ back) = .ok (some whole) ∧ whole.ipProto = ipProtoTcp ∧
      whole.transport = packet.transport ∧ whole.payloadOffset = packet.payloadOffset ∧
      packet.payloadLen ≤ whole.payloadLen := by
  obtain ⟨l3, ethPacket, l4, ipPacket, hethernet, hip, hipProto, rfl⟩ := layers_of_tcp h hproto
  have hipPacket : ipPacket.NoPayload :=
    (ipLayer_noPayload (ethernetLayer_noPayload hethernet).1 hip).1
  have hlen' : 0 < (transportFields front l4 ipPacket).payloadLen := hlen
  rw [transportFields, if_pos hipProto] at hlen'
  split at hlen'
  · exact absurd hipPacket.len (Nat.ne_of_gt hlen')
  rename_i hheader
  have hlength : (front ++ back).length = front.length + back.length := List.length_append
  have hshort : transportFields front l4 ipPacket = tcpHeaderFields front l4 ipPacket := by
    rw [transportFields, if_pos hipProto, if_neg hheader]
  have hlong : transportFields (front ++ back) l4 ipPacket =
      tcpHeaderFields (front ++ back) l4 ipPacket := by
    rw [transportFields, if_pos hipProto, if_neg (by omega)]
  obtain ⟨hfields, hgrows⟩ := tcpHeaderFields_append (Nat.le_of_not_lt hheader) ipPacket back
  rw [← hshort, ← hlong] at hfields hgrows
  refine ⟨_, dissectPacket_of_layers (ethernetLayer_append hethernet back)
    (ipLayer_append hip back), (transportFields_ips _ l4 ipPacket).2.2.trans hipProto,
    hfields.symm, ?_, hgrows⟩
  change (transportFields (front ++ back) l4 ipPacket).payloadOffset =
    (transportFields front l4 ipPacket).payloadOffset
  rw [hshort, hlong, tcpHeaderFields, tcpHeaderFields]
  dsimp only
  rw [byteAt_append_left (by omega)]

end GeSensor.Dissectors
