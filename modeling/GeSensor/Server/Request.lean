/-
  Server/Request.lean --- HTTP requests and their text.

  A request is a request line, header field lines and a body.  The lemmas say where
  in the text of a request the body begins, and where a pattern can occur.
-/
import GeSensor.Server.Routes

set_option autoImplicit false

namespace GeSensor.Server

open GeSensor.Foundation

/-- `HTTP-version`: two digits. -/
structure HttpVersion where
  major : Fin 10
  minor : Fin 10

def HttpVersion.text (version : HttpVersion) : Text :=
  "HTTP/".toList ++ [Nat.digitChar version.major, '.', Nat.digitChar version.minor]

/-- A request as it is sent: the parts of the request line are words, the field lines
are not empty and end nowhere before their line end. -/
structure HttpRequest where
  method : Text
  target : Text
  version : HttpVersion
  fields : List Text
  body : Text
  method_ne_nil : method ≠ []
  method_word : ∀ char ∈ method, isWhitespace char = false
  target_ne_nil : target ≠ []
  target_word : ∀ char ∈ target, isWhitespace char = false
  fields_ok : ∀ field ∈ fields, field ≠ [] ∧ '\r' ∉ field ∧ '\n' ∉ field

namespace HttpRequest

def requestLine (request : HttpRequest) : Text :=
  request.method ++ ' ' :: (request.target ++ ' ' :: request.version.text)

/-- The field lines, the empty line and the body. -/
def fieldsAndBody (fields : List Text) (body : Text) : Text :=
  fields.flatMap (· ++ "\r\n".toList) ++ '\r' :: '\n' :: body

@[simp] theorem fieldsAndBody_nil (body : Text) :
    fieldsAndBody [] body = '\r' :: '\n' :: body := rfl

theorem fieldsAndBody_cons (field : Text) (fields : List Text) (body : Text) :
    fieldsAndBody (field :: fields) body =
      field ++ '\r' :: '\n' :: fieldsAndBody fields body := by
  simp [fieldsAndBody]

/-- The text behind the target. -/
def behindTarget (request : HttpRequest) : Text :=
  ' ' :: (request.version.text ++ '\r' :: '\n' :: fieldsAndBody request.fields request.body)

def text (request : HttpRequest) : Text :=
  request.method ++ ' ' :: (request.target ++ request.behindTarget)

/-- The pattern occurs in the request line, in a field line or in the body. -/
def Mentions (request : HttpRequest) (pattern : Text) : Prop :=
  pattern <:+: request.requestLine ∨ (∃ field ∈ request.fields, pattern <:+: field) ∨
    pattern <:+: request.body

theorem text_eq_requestLine (request : HttpRequest) :
    request.text =
      request.requestLine ++ '\r' :: '\n' :: fieldsAndBody request.fields request.body := by
  simp [text, requestLine, behindTarget]

end HttpRequest

/-! ## Characters -/

theorem word_of_all {word : Text} (h : word.all (fun char => !isWhitespace char) = true) :
    ∀ char ∈ word, isWhitespace char = false :=
  fun char hmem => Bool.not_eq_eq_eq_not.mp (List.all_eq_true.mp h char hmem)

/-- The version is made of letters, digits, a slash and a dot. -/
theorem HttpVersion.mem_text {version : HttpVersion} {char : Char} (h : char ∈ version.text) :
    char ∈ "HTP/.0123456789".toList := by
  have hname : ∀ char ∈ "HTTP/".toList, char ∈ "HTP/.0123456789".toList := by simp
  have hdigit : ∀ digit : Fin 10, Nat.digitChar digit ∈ "HTP/.0123456789".toList := by decide
  rcases List.mem_append.mp h with h | h
  · exact hname char h
  · rcases List.mem_cons.mp h with rfl | h
    · exact hdigit _
    · rcases List.mem_cons.mp h with rfl | h
      · decide
      · exact List.mem_singleton.mp h ▸ hdigit _

theorem HttpVersion.text_ne_nil (version : HttpVersion) : version.text ≠ [] :=
  List.append_ne_nil_of_left_ne_nil (by decide) _

theorem HttpVersion.text_word {version : HttpVersion} :
    ∀ char ∈ version.text, isWhitespace char = false :=
  fun char hmem => word_of_all rfl char (HttpVersion.mem_text hmem)

theorem not_mem_of_word {word : Text} (hword : ∀ char ∈ word, isWhitespace char = false)
    {char : Char} (hchar : isWhitespace char = true) : char ∉ word :=
  fun hmem => Bool.false_ne_true ((hword char hmem).symm.trans hchar)

namespace HttpRequest

theorem not_mem_requestLine (request : HttpRequest) {char : Char}
    (hchar : isWhitespace char = true) (hspace : char ≠ ' ') : char ∉ request.requestLine := by
  simp only [requestLine, List.mem_append, List.mem_cons, not_or]
  exact ⟨not_mem_of_word request.method_word hchar, hspace,
    not_mem_of_word request.target_word hchar, hspace,
    not_mem_of_word HttpVersion.text_word hchar⟩

/-! ## The body -/

/-- The first empty line is the one behind the field lines. -/
theorem findAfter_fieldsAndBody {fields : List Text}
    (hfields : ∀ field ∈ fields, field ≠ [] ∧ '\r' ∉ field ∧ '\n' ∉ field) (body : Text) :
    ∀ {line : Text}, '\r' ∉ line →
      findAfter (line ++ '\r' :: '\n' :: fieldsAndBody fields body) ['\r', '\n', '\r', '\n'] =
        some body := by
  induction fields with
  | nil =>
      intro line hline
      exact (findAfter_append_of_not_mem hline).trans findAfter_append_self
  | cons field fields ih =>
      intro line hline
      obtain ⟨⟨hne, hreturn, _⟩, hrest⟩ := List.forall_mem_cons.mp hfields
      obtain ⟨char, tail, rfl⟩ := List.exists_cons_of_ne_nil hne
      have hchar : '\r' ≠ char := fun h => hreturn (h ▸ List.mem_cons_self)
      rw [findAfter_append_of_not_mem hline, fieldsAndBody_cons, findAfter_cons, findAfter_cons]
      · exact ih hrest hreturn
      · simp [List.cons_prefix_cons]
      · simp [List.cons_prefix_cons, hchar]

theorem findAfter_text (request : HttpRequest) :
    findAfter request.text "\r\n\r\n".toList = some request.body := by
  rw [text_eq_requestLine]
  change findAfter _ ['\r', '\n', '\r', '\n'] = _
  exact findAfter_fieldsAndBody request.fields_ok request.body
    (request.not_mem_requestLine rfl (by decide))

/-! ## Patterns -/

/-- A pattern without line ends occurs in one of the lines or in the body. -/
theorem infix_append_lineEnd_iff {pattern line rest : Text} (hne : pattern ≠ [])
    (hreturn : '\r' ∉ pattern) (hfeed : '\n' ∉ pattern) :
    pattern <:+: line ++ '\r' :: '\n' :: rest ↔ pattern <:+: line ∨ pattern <:+: rest := by
  rw [infix_append_separator_iff hne hreturn, ← List.nil_append ('\n' :: rest),
    infix_append_separator_iff hne hfeed, List.infix_nil, or_iff_right hne]

theorem infix_fieldsAndBody_iff {pattern : Text} (hne : pattern ≠ []) (hreturn : '\r' ∉ pattern)
    (hfeed : '\n' ∉ pattern) (fields : List Text) (body : Text) :
    pattern <:+: fieldsAndBody fields body ↔
      (∃ field ∈ fields, pattern <:+: field) ∨ pattern <:+: body := by
  induction fields with
  | nil =>
      rw [fieldsAndBody_nil, ← List.nil_append ('\r' :: _),
        infix_append_lineEnd_iff hne hreturn hfeed, List.infix_nil]
      simp [hne]
  | cons field fields ih =>
      rw [fieldsAndBody_cons, infix_append_lineEnd_iff hne hreturn hfeed, ih]
      simp [or_assoc]

theorem contains_text_iff (request : HttpRequest) {pattern : Text} (hne : pattern ≠ [])
    (hreturn : '\r' ∉ pattern) (hfeed : '\n' ∉ pattern) :
    contains request.text pattern = true ↔ request.Mentions pattern := by
  rw [contains_iff hne, text_eq_requestLine, infix_append_lineEnd_iff hne hreturn hfeed,
    infix_fieldsAndBody_iff hne hreturn hfeed]
  rfl

/-- A method and the beginning of a path are those of the request line. -/
theorem prefix_text_iff (request : HttpRequest) {method path : Text} (hmethod : ' ' ∉ method)
    (hpath : ' ' ∉ path) :
    method ++ ' ' :: path <+: request.text ↔
      method = request.method ∧ path <+: request.target := by
  rw [text, append_separator_prefix_iff hmethod (not_mem_of_word request.method_word rfl),
    behindTarget, prefix_append_separator_iff hpath]

end HttpRequest

end GeSensor.Server
