/-
  Dissectors/DnsNames.lean --- what `parse_dns_name` makes of names that are well formed.

  Over the labels of a name the loop adds one text a label and counts it as a jump.  With
  that rule an uncompressed name is read back if it has at most ten labels; a longer one runs
  out of the budget that is meant for pointers (`questionRoundTrip_iff`).
-/
import GeSensor.Dissectors.Dns
import GeSensor.Net.DnsWire

set_option autoImplicit false

namespace GeSensor.Dissectors

open GeSensor.Foundation
open GeSensor.Net

/-! ## Enough depth -/

/-- With enough nested calls granted, the run returns `answer`. -/
def Settles {α : Type} (run : Nat → Checked α) (answer : α) : Prop :=
  ∃ depth, ∀ granted, depth ≤ granted → run granted = .ok answer

theorem Settles.of_add {α : Type} {run : Nat → Checked α} {answer : α} (calls : Nat)
    (h : ∀ depth, run (depth + calls) = .ok answer) : Settles run answer := by
  refine ⟨calls, fun granted hgranted => ?_⟩
  obtain ⟨depth, rfl⟩ := Nat.exists_eq_add_of_le' hgranted
  exact h depth

theorem Settles.unique {α : Type} {run : Nat → Checked α} {answer other : α}
    (h : Settles run answer) (hother : Settles run other) : answer = other := by
  obtain ⟨depth, hanswer⟩ := h
  obtain ⟨more, hmore⟩ := hother
  have hleft := hanswer (max depth more) (Nat.le_max_left _ _)
  rw [hmore _ (Nat.le_max_right _ _)] at hleft
  exact (Except.ok.inj hleft).symm

/-! ## The loop over labels -/

section

variable {follow : Nat → Checked (Option (String × Nat))} {data rest : Bytes}
  {left offset : Nat}

theorem length_of_drop {octet : UInt8} (h : data.drop offset = octet :: rest) :
    data.length = offset + 1 + rest.length := by
  have hlength := congrArg List.length h
  rw [List.length_drop, List.length_cons] at hlength
  omega

theorem labelText_bytes (label : DnsLabel) : labelText label.bytes = label.text := by
  rw [labelText, DnsLabel.bytes, fromUTF8?_asBytes, Option.getD_some]

/-- One turn of the loop: a label. -/
theorem nameLoop_label (label : DnsLabel) (h : data.drop offset = label.encode ++ rest)
    (nameParts : List String) :
    nameLoop follow data (left + 1) offset nameParts =
      nameLoop follow data left (offset + label.encode.length) (nameParts ++ [label.text]) := by
  have hoctet : data.drop offset =
      UInt8.ofNat label.bytes.length :: (label.bytes ++ rest) := h
  have hlength := length_of_drop hoctet
  rw [List.length_append] at hlength
  have hbody : data.drop (offset + 1) = label.bytes ++ rest := by
    rw [← List.drop_drop, hoctet]
    rfl
  have hlabel : slice data (offset + 1) (offset + 1 + label.bytes.length) = .ok label.bytes := by
    rw [slice_eq_ok (Nat.le_add_right _ _) (by omega), hbody, Nat.add_sub_cancel_left,
      List.take_left]
  rw [nameLoop, if_neg (by omega), index_eq_byteAt (by omega), ok_bind, byteAt_of_drop hoctet,
    if_neg label.octet_ne_zero, if_neg label.octet_not_pointer, label.toNat_octet,
    if_neg (by omega), hlabel, ok_bind, labelText_bytes, label.length_encode, Nat.add_assoc]

/-- As many turns as there are labels. -/
theorem nameLoop_labels (labels : List DnsLabel) (hleft : labels.length ≤ left)
    (h : data.drop offset = encodeLabels labels ++ rest) (nameParts : List String) :
    nameLoop follow data left offset nameParts =
      nameLoop follow data (left - labels.length) (offset + (encodeLabels labels).length)
        (nameParts ++ labels.map DnsLabel.text) := by
  induction labels generalizing left offset nameParts with
  | nil => simp
  | cons label more ih =>
      rw [List.length_cons] at hleft
      obtain ⟨fewer, rfl⟩ := Nat.exists_eq_add_of_le hleft
      have hturn : more.length + 1 + fewer = more.length + fewer + 1 := by omega
      rw [encodeLabels_cons, List.append_assoc] at h
      have hmore : data.drop (offset + label.encode.length) = encodeLabels more ++ rest :=
        drop_add_of_drop label.encode.length h rfl
      rw [hturn, nameLoop_label label h, ih (Nat.le_add_right _ _) hmore, List.length_cons,
        encodeLabels_cons, List.length_append, List.map_cons, List.append_assoc,
        List.singleton_append, Nat.add_assoc offset]
      congr 1
      omega

/-- The loop gives up on as many labels as its budget. -/
theorem nameLoop_labels_none (labels : List DnsLabel) (hleft : left ≤ labels.length)
    (h : data.drop offset = encodeLabels labels ++ rest) (nameParts : List String) :
    nameLoop follow data left offset nameParts = .ok none := by
  have hsplit : data.drop offset =
      encodeLabels (labels.take left) ++ (encodeLabels (labels.drop left) ++ rest) := by
    rw [h, ← List.append_assoc, ← encodeLabels_append, List.take_append_drop]
  have hcount : (labels.take left).length = left := List.length_take_of_le hleft
  rw [nameLoop_labels (labels.take left) hcount.le hsplit, hcount, Nat.sub_self]
  rfl

/-- The zero octet ends the name. -/
theorem nameLoop_end (h : data.drop offset = 0 :: rest) (nameParts : List String) :
    nameLoop follow data (left + 1) offset nameParts =
      .ok (some (".".intercalate nameParts, offset + 1)) := by
  have hlength := length_of_drop h
  rw [nameLoop, if_neg (by omega), index_eq_byteAt (by omega), ok_bind, byteAt_of_drop h,
    if_pos rfl]

end

/-! ## The dissector around the name -/

/-- What the header says. -/
def headerInfo (payload : Bytes) : DnsInfo where
  transactionId := be16At payload 0
  isResponse := be16At payload 2 &&& dnsFlagQr ≠ 0
  questionCount := be16At payload 4
  answerCount := be16At payload 6

/-- What the dissector makes of the answer of `parse_dns_name`. -/
def namedInfo (payload : Bytes) : Option (String × Nat) → DnsInfo
  | some (name, endOffset) =>
      if endOffset + 2 ≤ payload.length then
        { headerInfo payload with queryName := name, queryType := be16At payload endOffset }
      else { headerInfo payload with queryName := name }
  | none => headerInfo payload

/-- A payload that asks for a name: everything but the header depends on the parser. -/
theorem dissectDns_eq {data payload : Bytes} {payloadOffset : Nat}
    (hpayload : getFrom? data payloadOffset = some payload) (hasks : AsksForName payload)
    (depth : Nat) :
    dissectDns depth data payloadOffset =
      parseDnsName depth payload dnsHeaderLen >>= fun answer =>
        .ok (some (namedInfo payload answer)) := by
  obtain ⟨hlen, hquestion⟩ := hasks
  have hheader : 12 ≤ payload.length := hlen
  unfold dissectDns
  rw [hpayload]
  dsimp only
  rw [if_neg (Nat.not_lt_of_le hlen)]
  simp (disch := omega) only [index_eq_byteAt, ok_bind]
  rw [if_pos hquestion]
  cases parseDnsName depth payload dnsHeaderLen with
  | error panic => rfl
  | ok answer =>
      cases answer with
      | none => rfl
      | some found =>
          obtain ⟨name, endOffset⟩ := found
          rw [ok_bind, ok_bind, namedInfo]
          by_cases htype : endOffset + 2 ≤ payload.length
          · simp (disch := omega) only [if_pos htype, index_eq_byteAt, ok_bind]
            rfl
          · simp only [if_neg htype]
            rfl

theorem Settles.dissect {data payload : Bytes} {payloadOffset : Nat}
    (hpayload : getFrom? data payloadOffset = some payload) (hasks : AsksForName payload)
    {answer : Option (String × Nat)}
    (h : Settles (fun depth => parseDnsName depth payload dnsHeaderLen) answer) :
    Settles (fun depth => dissectDns depth data payloadOffset)
      (some (namedInfo payload answer)) := by
  obtain ⟨depth, hparse⟩ := h
  refine ⟨depth, fun granted hgranted => ?_⟩
  have hanswer : parseDnsName granted payload dnsHeaderLen = .ok answer := hparse granted hgranted
  show dissectDns granted data payloadOffset = _
  rw [dissectDns_eq hpayload hasks, hanswer, ok_bind]

/-! ## The round trip of a question -/

section

variable (header : DnsHeader) (body : Bytes)

theorem headerInfo_encode :
    headerInfo (header.encode ++ body) =
      { transactionId := header.transactionId
        isResponse := header.flags &&& dnsFlagQr ≠ 0
        questionCount := header.questionCount
        answerCount := header.answerCount } := by
  have htransaction : be16At (header.encode ++ body) 0 = header.transactionId :=
    be16_be16Bytes header.transactionId
  have hflags : be16At (header.encode ++ body) 2 = header.flags := be16_be16Bytes header.flags
  have hquestion : be16At (header.encode ++ body) 4 = header.questionCount :=
    be16_be16Bytes header.questionCount
  have hanswer : be16At (header.encode ++ body) 6 = header.answerCount :=
    be16_be16Bytes header.answerCount
  rw [headerInfo, htransaction, hflags, hquestion, hanswer]

theorem asksForName_encode (hquestion : 0 < header.questionCount) :
    AsksForName (header.encode ++ body) := by
  refine ⟨?_, ?_⟩
  · rw [List.length_append, header.length_encode]
    exact Nat.le_add_right _ _
  · have hcount : be16 (byteAt (header.encode ++ body) 4) (byteAt (header.encode ++ body) 5) =
        header.questionCount := be16_be16Bytes header.questionCount
    rw [hcount]
    exact hquestion

theorem drop_header : (header.encode ++ body).drop dnsHeaderLen = body :=
  List.drop_left' header.length_encode

end

/-- What the dissector ought to report on an encoded question. -/
def questionInfo (header : DnsHeader) (name : DnsName) (queryType : UInt16) : DnsInfo where
  transactionId := header.transactionId
  isResponse := header.flags &&& dnsFlagQr ≠ 0
  questionCount := header.questionCount
  answerCount := header.answerCount
  queryName := joinLabels name.labels
  queryType := queryType

/-- An encoded question, wherever it starts, is dissected into what was encoded. -/
def QuestionRoundTrip (front : Bytes) (header : DnsHeader) (name : DnsName) (queryType : UInt16)
    (trailing : Bytes) : Prop :=
  Settles (fun depth =>
      dissectDns depth (front ++ encodeQuestion header name queryType trailing) front.length)
    (some (questionInfo header name queryType))

/-- Two labels are never joined to nothing. -/
theorem joinLabels_ne_empty {labels : List DnsLabel} (h : 2 ≤ labels.length) :
    joinLabels labels ≠ "" := by
  match labels, h with
  | first :: second :: rest, _ =>
      rw [joinLabels, List.map_cons, List.map_cons, String.intercalate_cons_cons]
      simp

/-- The budget of eleven turns is enough for ten labels and the end. -/
theorem parseDnsName_name {data rest : Bytes} {offset : Nat} {labels : List DnsLabel}
    (hfew : labels.length ≤ maxJumps) (h : data.drop offset = encodeName labels ++ rest)
    (depth : Nat) :
    parseDnsName (depth + 1) data offset =
      .ok (some (joinLabels labels, offset + (encodeName labels).length)) := by
  rw [encodeName, List.append_assoc] at h
  have hend : data.drop (offset + (encodeLabels labels).length) = 0 :: rest :=
    drop_add_of_drop _ h rfl
  have hturns : maxJumps + 1 - labels.length = maxJumps - labels.length + 1 :=
    Nat.succ_sub hfew
  rw [parseDnsName, nameLoop_labels labels (Nat.le_succ_of_le hfew) h, hturns,
    nameLoop_end hend, List.nil_append, encodeName, List.length_append, List.length_singleton,
    Nat.add_assoc, joinLabels]

section

variable (front : Bytes) {header : DnsHeader} (name : DnsName) (queryType : UInt16)
  (trailing : Bytes)

theorem questionRoundTrip_of_few (hquestion : 0 < header.questionCount)
    (hfew : name.labels.length ≤ 10) :
    QuestionRoundTrip front header name queryType trailing := by
  have hname : (encodeQuestion header name queryType trailing).drop dnsHeaderLen =
      encodeName name.labels ++ (be16Bytes queryType ++ trailing) := drop_header header _
  have hparse : Settles (fun depth =>
      parseDnsName depth (encodeQuestion header name queryType trailing) dnsHeaderLen)
      (some (joinLabels name.labels, dnsHeaderLen + (encodeName name.labels).length)) := by
    apply Settles.of_add 1
    exact parseDnsName_name hfew hname
  have htype := drop_add_of_drop _ hname rfl
  have hroom : dnsHeaderLen + (encodeName name.labels).length + 2 ≤
      (encodeQuestion header name queryType trailing).length := by
    have hlength := congrArg List.length htype
    rw [List.length_drop, List.length_append, be16Bytes, List.length_cons,
      List.length_singleton] at hlength
    omega
  have hinfo : namedInfo (encodeQuestion header name queryType trailing)
      (some (joinLabels name.labels, dnsHeaderLen + (encodeName name.labels).length)) =
        questionInfo header name queryType := by
    rw [namedInfo, if_pos hroom, be16At_of_drop htype, encodeQuestion, headerInfo_encode]
    rfl
  rw [QuestionRoundTrip, ← hinfo]
  exact hparse.dissect (getFrom?_append front _) (asksForName_encode header _ hquestion)

theorem not_questionRoundTrip_of_many (hquestion : 0 < header.questionCount)
    (hmany : 10 < name.labels.length) :
    ¬ QuestionRoundTrip front header name queryType trailing := by
  intro h
  have hname : (encodeQuestion header name queryType trailing).drop dnsHeaderLen =
      encodeLabels name.labels ++ ([0] ++ (be16Bytes queryType ++ trailing)) := by
    rw [← List.append_assoc]
    exact drop_header header _
  have hparse : Settles (fun depth =>
      parseDnsName depth (encodeQuestion header name queryType trailing) dnsHeaderLen) none := by
    apply Settles.of_add 1
    intro depth
    exact nameLoop_labels_none name.labels hmany hname []
  have hinfo := (hparse.dissect (getFrom?_append front _)
    (asksForName_encode header _ hquestion)).unique h
  have hempty : "" = joinLabels name.labels :=
    congrArg DnsInfo.queryName (Option.some.inj hinfo)
  exact joinLabels_ne_empty (by omega) hempty.symm

end

/-- A question round-trips exactly when its name has at most ten labels. -/
theorem questionRoundTrip_iff (front : Bytes) (header : DnsHeader)
    (hquestion : 0 < header.questionCount) (name : DnsName) (queryType : UInt16)
    (trailing : Bytes) :
    QuestionRoundTrip front header name queryType trailing ↔ name.labels.length ≤ 10 := by
  constructor
  · intro h
    by_contra hmany
    exact not_questionRoundTrip_of_many front name queryType trailing hquestion
      (Nat.lt_of_not_le hmany) h
  · exact questionRoundTrip_of_few front name queryType trailing hquestion

def queryHeader : DnsHeader where
  transactionId := 0xABCD
  flags := 0x0100
  questionCount := 1
  answerCount := 0
  authorityCount := 0
  additionalCount := 0

def labelCom : DnsLabel := ⟨"com", by decide, by decide⟩

/-- `example.com` -/
def exampleName : DnsName where
  labels := [⟨"example", by decide, by decide⟩, labelCom]
  pos := by decide
  few := by decide
  short := by decide

/-- The labels of a reverse lookup: 32 digits, `ip6` and `arpa`. -/
def reverseLabels : List DnsLabel :=
  List.replicate 32 ⟨"0", by decide, by decide⟩ ++
    [⟨"ip6", by decide, by decide⟩, ⟨"arpa", by decide, by decide⟩]

def reverseName : DnsName where
  labels := reverseLabels
  pos := by decide
  few := by decide
  short := by decide

theorem questionRoundTrip_iff_exampleName :
    QuestionRoundTrip [] queryHeader exampleName 1 [0, 1] ↔ exampleName.labels.length ≤ 10 :=
  questionRoundTrip_iff [] queryHeader (by decide) exampleName 1 [0, 1]

/-- The name of the reverse lookup is not read. -/
theorem reverseName_not_roundTrip :
    ¬ QuestionRoundTrip [] queryHeader reverseName 12 [0, 1] :=
  not_questionRoundTrip_of_many [] reverseName 12 [0, 1] (by decide) (by decide)

end GeSensor.Dissectors
