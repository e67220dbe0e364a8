/-
  Dissectors/HttpRequests.lean --- what the HTTP dissector reads from a request.

  The first line gives the method, the target and the version.  The host is taken from
  the first line that begins with `Host: ` or `host: `; a field name in other letters,
  and a value right behind the colon, are passed over.
-/
import GeSensor.Dissectors.HttpLines

set_option autoImplicit false

namespace GeSensor.Dissectors

open GeSensor.Foundation

/-! ## Requests as they are sent -/

/-- A text without line breaks. -/
def OneLine (text : List Char) : Prop := '\r' ∉ text ∧ '\n' ∉ text

/-- A header field. -/
structure HeaderField where
  name : List Char
  /-- spaces between the colon and the value -/
  spaces : Nat
  value : List Char
  nameLine : OneLine name
  valueLine : OneLine value

namespace HeaderField

/-- What stands behind the colon. -/
def behindColon (field : HeaderField) : List Char :=
  List.replicate field.spaces ' ' ++ field.value

def line (field : HeaderField) : List Char := field.name ++ ':' :: field.behindColon

/-- The name is `Host`, in letters of either case. -/
def IsHost (field : HeaderField) : Prop := toAsciiLowercase field.name = "host".toList

end HeaderField

/-- A request without a body, with one `Host` field. -/
structure RequestHead where
  method : List Char
  target : List Char
  version : List Char
  before : List HeaderField
  hostField : HeaderField
  after : List HeaderField
  methodWord : ' ' ∉ method ∧ OneLine method
  targetWord : ' ' ∉ target ∧ OneLine target
  versionWord : ' ' ∉ version ∧ OneLine version
  isHost : hostField.IsHost
  onlyHost : ∀ field ∈ before ++ after, ¬ field.IsHost

namespace RequestHead

variable (request : RequestHead)

def fields : List HeaderField := request.before ++ request.hostField :: request.after

def requestLine : List Char :=
  request.method ++ ' ' :: (request.target ++ ' ' :: request.version)

/-- The lines of the request, each ended by a carriage return and a line feed. -/
def text : List Char :=
  request.requestLine ++ "\r\n".toList ++
    request.fields.flatMap (fun field => field.line ++ "\r\n".toList) ++ "\r\n".toList

def bytes : Bytes := asBytes (String.ofList request.text)

/-- What the request says. -/
def info : HttpInfo :=
  { method := request.method
    uri := request.target
    version := request.version
    host := trim request.hostField.value }

/-- The dissector returns what the request says, wherever the payload starts. -/
def ReadsBack : Prop :=
  ∀ front : Bytes, dissectHttp (front ++ request.bytes) front.length = .ok (some request.info)

end RequestHead

/-! ## The fields that the dissector takes for `Host` -/

/-- The line of the field begins with `Host: ` or `host: `: by its name, with a space
behind the colon, or by a name that itself begins so. -/
def HeaderField.Announced (field : HeaderField) : Prop :=
  ∃ spelling ∈ ["Host".toList, "host".toList],
    (field.name = spelling ∧ (0 < field.spaces ∨ field.value.head? = some ' ')) ∨
      spelling ++ ": ".toList <+: field.name

/-- The host that the dissector finds is that of the request. -/
inductive RequestHead.HostReadable (request : RequestHead) : Prop where
  /-- the `Host` field is the first announced one -/
  | announced : (∀ field ∈ request.before, ¬ field.Announced) → request.hostField.Announced →
      HostReadable request
  /-- no field is announced, and the host is blank -/
  | blank : (∀ field ∈ request.fields, ¬ field.Announced) →
      trim request.hostField.value = [] → HostReadable request
  /-- the first announced field has the same text by chance -/
  | alike {before after : List HeaderField} {field : HeaderField} :
      request.fields = before ++ field :: after → (∀ other ∈ before, ¬ other.Announced) →
      field.Announced → trim (field.line.drop 6) = trim request.hostField.value →
      HostReadable request

theorem head_behindColon_iff (field : HeaderField) :
    [' '] <+: field.behindColon ↔ 0 < field.spaces ∨ field.value.head? = some ' ' := by
  unfold HeaderField.behindColon
  cases field.spaces with
  | zero =>
      rw [List.replicate_zero, List.nil_append, or_iff_right (Nat.lt_irrefl 0)]
      cases field.value <;> simp [List.cons_prefix_cons, eq_comm]
  | succ spaces => simp [List.replicate_succ, List.cons_prefix_cons]

/-- How a line comes to begin with a name, a colon and a space. -/
theorem spelling_prefix_iff {spelling : List Char} (hspelling : ':' ∉ spelling)
    (field : HeaderField) :
    spelling ++ ": ".toList <+: field.line ↔
      (field.name = spelling ∧ (0 < field.spaces ∨ field.value.head? = some ' ')) ∨
        spelling ++ ": ".toList <+: field.name := by
  change spelling ++ ':' :: [' '] <+: field.name ++ ':' :: field.behindColon ↔
    _ ∨ spelling ++ ':' :: [' '] <+: field.name
  rw [← head_behindColon_iff]
  by_cases hcolon : ':' ∈ field.name
  · obtain ⟨word, more, hname, hword⟩ := List.eq_append_cons_of_mem hcolon
    have hne : field.name ≠ spelling := fun h => hspelling (h ▸ hcolon)
    rw [or_iff_right fun h => hne h.1, hname, List.append_assoc, List.cons_append,
      append_separator_prefix_iff hspelling hword, append_separator_prefix_iff hspelling hword,
      prefix_append_separator_iff (by decide)]
  · have hnot : ¬ spelling ++ ':' :: [' '] <+: field.name := fun h => hcolon (h.subset (by simp))
    rw [or_iff_left hnot, append_separator_prefix_iff hspelling hcolon, eq_comm]

namespace HeaderField

variable {field : HeaderField}

theorem announced_iff :
    field.Announced ↔ "Host: ".toList <+: field.line ∨ "host: ".toList <+: field.line := by
  have hupper := @spelling_prefix_iff "Host".toList (by decide) field
  have hlower := @spelling_prefix_iff "host".toList (by decide) field
  unfold Announced
  rw [List.exists_mem_cons_iff, List.exists_mem_cons_iff, ← hupper, ← hlower]
  simp

theorem line_ne_nil : field.line ≠ [] :=
  List.append_ne_nil_of_right_ne_nil _ (List.cons_ne_nil _ _)

/-- The search ends at an announced field. -/
theorem findHost_of_announced (h : field.Announced) (rest : List (List Char)) :
    findHost (field.line :: rest) = some (trim (field.line.drop 6)) := by
  rw [findHost, if_neg line_ne_nil]
  have hstrip : (stripPrefix "Host: ".toList field.line).or
      (stripPrefix "host: ".toList field.line) = some (field.line.drop 6) := by
    unfold stripPrefix
    rcases announced_iff.mp h with hupper | hlower
    · rw [if_pos (List.isPrefixOf_iff_prefix.mpr hupper)]
      rfl
    · rw [if_pos (List.isPrefixOf_iff_prefix.mpr hlower)]
      split <;> rfl
  rw [hstrip]

/-- The search passes over any other field. -/
theorem findHost_of_not_announced (h : ¬ field.Announced) (rest : List (List Char)) :
    findHost (field.line :: rest) = findHost rest := by
  rw [announced_iff, not_or, ← List.isPrefixOf_iff_prefix, ← List.isPrefixOf_iff_prefix] at h
  rw [findHost, if_neg line_ne_nil, stripPrefix, stripPrefix, if_neg h.1, if_neg h.2]
  rfl

/-- Spaces in front do not change the trimmed value. -/
theorem trim_behindColon (field : HeaderField) : trim field.behindColon = trim field.value := by
  unfold behindColon
  induction field.spaces with
  | zero => rfl
  | succ spaces ih => exact ih

theorem length_name (field : HeaderField) (hhost : field.IsHost) : field.name.length = 4 := by
  have hlower := congrArg List.length hhost
  rwa [toAsciiLowercase, List.length_map] at hlower

/-- Behind the announcement stands the value. -/
theorem trim_announced_host (hhost : field.IsHost) (h : field.Announced) :
    trim (field.line.drop 6) = trim field.value := by
  have hlength := field.length_name hhost
  -- Four letters are too few to begin with the announcement.
  have hspace : [' '] <+: field.behindColon := by
    obtain ⟨spelling, hspelling, ⟨-, hspace⟩ | hprefix⟩ := h
    · exact (head_behindColon_iff field).mpr hspace
    · have hlong := hprefix.length_le
      simp only [List.mem_cons, List.not_mem_nil, or_false] at hspelling
      rcases hspelling with rfl | rfl <;> exact absurd hlong (by simp [hlength])
  obtain ⟨more, hmore⟩ := hspace
  have hdrop : field.line.drop 6 = more := by
    rw [line, ← hmore, List.drop_append, hlength, List.drop_of_length_le (by omega)]
    rfl
  rw [hdrop, ← trim_behindColon, ← hmore]
  rfl

end HeaderField

/-- Fields that are not announced are passed over. -/
theorem findHost_fields {before : List HeaderField} (hbefore : ∀ field ∈ before, ¬ field.Announced)
    (rest : List (List Char)) :
    findHost (before.map HeaderField.line ++ rest) = findHost rest := by
  induction before with
  | nil => rfl
  | cons field before ih =>
      rw [List.forall_mem_cons] at hbefore
      rw [List.map_cons, List.cons_append, HeaderField.findHost_of_not_announced hbefore.1,
        ih hbefore.2]

/-! ## The lines of a request -/

theorem HeaderField.oneLine_line (field : HeaderField) : OneLine field.line := by
  constructor
  · simp [line, behindColon, field.nameLine.1, field.valueLine.1]
  · simp [line, behindColon, field.nameLine.2, field.valueLine.2]

/-- Fields are read back line by line. -/
theorem lines_fields (fields : List HeaderField) (rest : List Char) :
    lines (fields.flatMap (fun field => field.line ++ "\r\n".toList) ++ rest) =
      fields.map HeaderField.line ++ lines rest := by
  induction fields with
  | nil => rfl
  | cons field fields ih =>
      rw [List.flatMap_cons, List.append_assoc, List.append_assoc, List.map_cons, List.cons_append,
        ← ih]
      exact lines_append field.oneLine_line.1 field.oneLine_line.2 _

namespace RequestHead

variable (request : RequestHead)

theorem oneLine_requestLine : OneLine request.requestLine := by
  constructor
  · simp [requestLine, request.methodWord.2.1, request.targetWord.2.1, request.versionWord.2.1]
  · simp [requestLine, request.methodWord.2.2, request.targetWord.2.2, request.versionWord.2.2]

theorem lines_text :
    lines request.text = request.requestLine :: (request.fields.map HeaderField.line ++ [[]]) := by
  have hfields := lines_fields request.fields "\r\n".toList
  obtain ⟨hreturn, hfeed⟩ := request.oneLine_requestLine
  rw [text, List.append_assoc, List.append_assoc]
  exact (lines_append hreturn hfeed _).trans (congrArg _ hfields)

/-- The words of the first line, unless it is taken for a response. -/
theorem firstLineInfo_requestLine (h : ¬ "HTTP/".toList <+: request.method) :
    firstLineInfo request.requestLine =
      some { method := request.method, uri := request.target, version := request.version } := by
  have hnot : ¬ "HTTP/".toList <+: request.requestLine :=
    fun hprefix => h ((prefix_append_separator_iff (by decide)).mp hprefix)
  rw [← List.isPrefixOf_iff_prefix, Bool.not_eq_true] at hnot
  rw [firstLineInfo, hnot, requestLine, splitn_words request.methodWord.1 request.targetWord.1]

/-- A method that begins like a version makes the request a response. -/
theorem firstLineInfo_response (h : "HTTP/".toList <+: request.method) :
    ∃ info : HttpInfo, firstLineInfo request.requestLine = some info ∧ info.method = [] := by
  have hprefix : "HTTP/".toList <+: request.requestLine := h.trans (List.prefix_append _ _)
  rw [← List.isPrefixOf_iff_prefix] at hprefix
  rw [firstLineInfo, hprefix, requestLine, splitn_words request.methodWord.1 request.targetWord.1]
  exact ⟨_, rfl, rfl⟩

theorem length_bytes : 10 ≤ request.bytes.length := by
  have hname : request.hostField.name.length = 4 := request.hostField.length_name request.isHost
  have hbreak : "\r\n".toList.length = 2 := rfl
  have htext : 10 ≤ request.text.length := by
    simp only [text, fields, requestLine, HeaderField.line, List.flatMap_append, List.flatMap_cons,
      List.length_append, List.length_cons, hname, hbreak]
    omega
  exact htext.trans (length_le_asBytes request.text)

/-- The dissector reads the first line and the fields. -/
theorem payloadInfo_bytes :
    payloadInfo request.bytes = (firstLineInfo request.requestLine).map fun info =>
      { info with
        host := (findHost (request.fields.map HeaderField.line ++ [[]])).getD info.host } := by
  rw [payloadInfo, if_neg (Nat.not_lt.mpr request.length_bytes), bytes, fromUtf8_asBytes,
    String.toList_ofList, Option.bind_some, lines_text, linesInfo]

/-- The host is found exactly in the readable requests. -/
theorem findHost_iff :
    (findHost (request.fields.map HeaderField.line ++ [[]])).getD [] =
        trim request.hostField.value ↔ request.HostReadable := by
  have hfirst : ∀ {before after : List HeaderField} {field : HeaderField},
      request.fields = before ++ field :: after → (∀ other ∈ before, ¬ other.Announced) →
      field.Announced → (findHost (request.fields.map HeaderField.line ++ [[]])).getD [] =
        trim (field.line.drop 6) := by
    intro before after field hfields hbefore hfield
    rw [hfields, List.map_append, List.append_assoc, findHost_fields hbefore, List.map_cons,
      List.cons_append, HeaderField.findHost_of_announced hfield, Option.getD_some]
  constructor
  · intro hhost
    classical
    cases hfind : request.fields.find? (fun field => decide field.Announced) with
    | none =>
        have hnone : ∀ field ∈ request.fields, ¬ field.Announced := by
          simpa using List.find?_eq_none.mp hfind
        rw [findHost_fields hnone] at hhost
        exact .blank hnone hhost.symm
    | some field =>
        obtain ⟨hfield, before, after, hfields, hbefore⟩ := List.find?_eq_some_iff_append.mp hfind
        have hothers : ∀ other ∈ before, ¬ other.Announced := by simpa using hbefore
        have hannounced : field.Announced := of_decide_eq_true hfield
        exact .alike hfields hothers hannounced
          ((hfirst hfields hothers hannounced).symm.trans hhost)
  · rintro (⟨hbefore, hhost⟩ | ⟨hnone, hblank⟩ | ⟨hfields, hbefore, hfield, halike⟩)
    · exact (hfirst rfl hbefore hhost).trans
        (HeaderField.trim_announced_host request.isHost hhost)
    · rw [findHost_fields hnone, hblank]
      rfl
    · exact (hfirst hfields hbefore hfield).trans halike

end RequestHead

/-- The exact condition: a request is read back exactly when its method does not begin
like a version and the first announced field gives its host. -/
theorem request_reads_back_iff (request : RequestHead) :
    request.ReadsBack ↔ ¬ "HTTP/".toList <+: request.method ∧ request.HostReadable := by
  have hread : ∀ front : Bytes, dissectHttp (front ++ request.bytes) front.length =
      .ok (payloadInfo request.bytes) := fun front => dissectHttp_answers.append front _
  have hback : request.ReadsBack ↔ payloadInfo request.bytes = some request.info :=
    ⟨fun h => Except.ok.inj ((hread []).symm.trans (h [])),
      fun h front => (hread front).trans (congrArg _ h)⟩
  rw [hback, request.payloadInfo_bytes, ← request.findHost_iff]
  by_cases hmethod : "HTTP/".toList <+: request.method
  · -- A request that is read as a response has no method.
    obtain ⟨info, hinfo, hempty⟩ := request.firstLineInfo_response hmethod
    refine iff_of_false (fun h => ?_) fun h => h.1 hmethod
    rw [hinfo, Option.map_some, Option.some.injEq] at h
    have hnil : request.method = [] := (congrArg HttpInfo.method h).symm.trans hempty
    rw [hnil] at hmethod
    exact absurd hmethod (by decide)
  · rw [request.firstLineInfo_requestLine hmethod, Option.map_some, Option.some.injEq,
      and_iff_right hmethod]
    exact ⟨fun h => congrArg HttpInfo.host h, fun h => by rw [h]; rfl⟩

/-- A request with its `Host` field in capitals. -/
def capitalHost : RequestHead where
  method := "GET".toList
  target := "/".toList
  version := "HTTP/1.1".toList
  before := []
  hostField :=
    { name := "HOST".toList, spaces := 1, value := "gods-eye.io".toList
      nameLine := ⟨by decide, by decide⟩, valueLine := ⟨by decide, by decide⟩ }
  after := []
  methodWord := ⟨by decide, by decide, by decide⟩
  targetWord := ⟨by decide, by decide, by decide⟩
  versionWord := ⟨by decide, by decide, by decide⟩
  isHost := rfl
  onlyHost := by simp

/-- Its host is not read. -/
theorem capitalHost_not_readsBack : ¬ capitalHost.ReadsBack := by
  intro h
  exact absurd (h []) (by decide)

end GeSensor.Dissectors
