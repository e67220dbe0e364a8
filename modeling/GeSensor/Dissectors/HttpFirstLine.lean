/-
  Dissectors/HttpFirstLine.lean --- what is taken for the first line of HTTP.

  A request line has three words, of which the last is a version; a status line has a
  version and three digits.  The dissector asks for no version in a request line and for
  no digits in a status line, so that lines of other text protocols are recognised.
-/
import GeSensor.Dissectors.HttpLines

set_option autoImplicit false

namespace GeSensor.Dissectors

open GeSensor.Foundation

/-! ## Lines of HTTP and lines mistaken for it -/

/-- A version: a word that starts with `HTTP/`. -/
def IsVersion (word : List Char) : Prop := "HTTP/".toList <+: word ∧ ' ' ∉ word

def ThreeDigits (word : List Char) : Prop := word.length = 3 ∧ ∀ char ∈ word, char.isDigit = true

/-- `method target version` -/
def RequestLine (line : List Char) : Prop :=
  ∃ method target version, (method ≠ [] ∧ ' ' ∉ method) ∧ (target ≠ [] ∧ ' ' ∉ target) ∧
    IsVersion version ∧ line = method ++ ' ' :: (target ++ ' ' :: version)

/-- `version code`, and a reason behind another space -/
def StatusLine (line : List Char) : Prop :=
  ∃ version code reason, IsVersion version ∧ ThreeDigits code ∧
    (reason = [] ∨ reason.head? = some ' ') ∧ line = version ++ ' ' :: (code ++ reason)

/-- Lines that the dissector mistakes for HTTP. -/
inductive Mistaken : List Char → Prop where
  /-- a version alone -/
  | versionAlone {version : List Char} : IsVersion version → Mistaken version
  /-- a version and one word that is not a code -/
  | versionWord {version word : List Char} : IsVersion version → ' ' ∉ word →
      ¬ ThreeDigits word → Mistaken (version ++ ' ' :: word)
  /-- three words of which one is empty or the last is not a version, unless they begin
  with a version and a code -/
  | threeWords {first second third : List Char} : ' ' ∉ first → ' ' ∉ second →
      (IsVersion first → ¬ ThreeDigits second) →
      (first = [] ∨ second = [] ∨ ¬ IsVersion third) →
      Mistaken (first ++ ' ' :: (second ++ ' ' :: third))

theorem ThreeDigits.no_space {word : List Char} (h : ThreeDigits word) : ' ' ∉ word :=
  fun hmem => absurd (h.2 ' ' hmem) (by decide)

/-- A line that starts with `HTTP/` starts with a version. -/
theorem isVersion_of_prefix {first rest : List Char} (hfirst : ' ' ∉ first)
    (h : "HTTP/".toList <+: first ++ ' ' :: rest) : IsVersion first :=
  ⟨(prefix_append_separator_iff (by decide)).mp h, hfirst⟩

theorem Mistaken.readsAsHttp {line : List Char} (h : Mistaken line) : ReadsAsHttp line := by
  cases h with
  | versionAlone hversion => exact Or.inl hversion.1
  | versionWord hversion _ _ => exact Or.inl (hversion.1.trans (List.prefix_append _ _))
  | threeWords hfirst hsecond _ _ =>
      exact Or.inr (two_le_count_iff.mpr ⟨_, _, _, hfirst, hsecond, rfl⟩)

theorem Mistaken.not_requestLine {line : List Char} (h : Mistaken line) : ¬ RequestLine line := by
  rintro ⟨method, target, version, ⟨hmethod, hmethodWord⟩, ⟨htarget, htargetWord⟩, hversion, hline⟩
  cases h with
  | versionAlone hword => exact hword.2 (by simp [hline])
  | versionWord hword hrest _ =>
      obtain ⟨rfl, rfl⟩ := append_separator_inj hword.2 hmethodWord hline
      exact hrest (by simp)
  | threeWords hfirst hsecond _ hempty =>
      obtain ⟨rfl, hrest⟩ := append_separator_inj hfirst hmethodWord hline
      obtain ⟨rfl, rfl⟩ := append_separator_inj hsecond htargetWord hrest
      rcases hempty with hempty | hempty | hempty
      · exact hmethod hempty
      · exact htarget hempty
      · exact hempty hversion

theorem Mistaken.not_statusLine {line : List Char} (h : Mistaken line) : ¬ StatusLine line := by
  rintro ⟨version, code, reason, hversion, hcode, hreason, hline⟩
  have hends : reason = [] ∨ ∃ behind, reason = ' ' :: behind := by
    rcases hreason with hreason | hreason
    · exact Or.inl hreason
    · exact Or.inr ⟨_, List.eq_cons_of_mem_head? hreason⟩
  cases h with
  | versionAlone hword => exact hword.2 (by simp [hline])
  | versionWord hword hrest hnot =>
      obtain ⟨rfl, rfl⟩ := append_separator_inj hword.2 hversion.2 hline
      rcases hends with rfl | ⟨behind, rfl⟩
      · exact hnot (by rwa [List.append_nil])
      · exact hrest (by simp)
  | threeWords hfirst hsecond hnot _ =>
      obtain ⟨rfl, hrest⟩ := append_separator_inj hfirst hversion.2 hline
      rcases hends with rfl | ⟨behind, rfl⟩
      · rw [List.append_nil] at hrest
        exact hcode.no_space (by simp [← hrest])
      · obtain ⟨rfl, -⟩ := append_separator_inj hsecond hcode.no_space hrest
        exact hnot hversion hcode

/-- Of the lines that read as HTTP, those that are not HTTP are the mistaken ones. -/
theorem mistaken_or_http {line : List Char} (h : ReadsAsHttp line) :
    Mistaken line ∨ RequestLine line ∨ StatusLine line := by
  by_cases hspace : ' ' ∈ line
  · obtain ⟨first, behind, rfl, hfirst⟩ := List.eq_append_cons_of_mem hspace
    by_cases hmore : ' ' ∈ behind
    · -- Three words: a status line, a request line, or neither.
      obtain ⟨second, third, rfl, hsecond⟩ := List.eq_append_cons_of_mem hmore
      by_cases hstatus : IsVersion first ∧ ThreeDigits second
      · exact Or.inr (Or.inr ⟨first, second, ' ' :: third, hstatus.1, hstatus.2, Or.inr rfl, rfl⟩)
      · by_cases hempty : first = [] ∨ second = [] ∨ ¬ IsVersion third
        · exact Or.inl (.threeWords hfirst hsecond (fun hversion hcode => hstatus ⟨hversion, hcode⟩)
            hempty)
        · simp only [not_or, not_not] at hempty
          exact Or.inr (Or.inl ⟨first, second, third, ⟨hempty.1, hfirst⟩, ⟨hempty.2.1, hsecond⟩,
            hempty.2.2, rfl⟩)
    · -- Two words, so that the line was recognised by its beginning.
      have hversion : IsVersion first := by
        refine isVersion_of_prefix hfirst (h.resolve_right fun hcount => ?_)
        rw [List.count_append, List.count_cons_self, List.count_eq_zero.mpr hfirst,
          List.count_eq_zero.mpr hmore] at hcount
        omega
      by_cases hcode : ThreeDigits behind
      · exact Or.inr (Or.inr ⟨first, behind, [], hversion, hcode, Or.inl rfl, by simp⟩)
      · exact Or.inl (.versionWord hversion hmore hcode)
  · refine Or.inl (.versionAlone ⟨h.resolve_right fun hcount => ?_, hspace⟩)
    rw [List.count_eq_zero.mpr hspace] at hcount
    omega

/-! ## Payloads -/

/-- The first line of the payload is a request line or a status line. -/
def HttpFirstLine (payload : Bytes) : Prop :=
  ∃ text line more, fromUtf8 payload = some text ∧ lines text = line :: more ∧
    (RequestLine line ∨ StatusLine line)

/-- The payload is recognised only if its first line is HTTP, by the dissector itself and
by the tag of a TCP packet on other ports. -/
structure OnlyHttp (payload : Bytes) : Prop where
  dissected : ∀ (data : Bytes) (payloadOffset : Nat) (info : HttpInfo),
    getFrom? data payloadOffset = some payload →
    dissectHttp data payloadOffset = .ok (some info) → HttpFirstLine payload
  tagged : ∀ (frame : Bytes) (packet : PacketMetadata),
    dissectPacket frame = .ok (some packet) → packet.ipProto = ipProtoTcp →
    packet.usesPort tcpPortTable = false → getFrom? frame packet.payloadOffset = some payload →
    packet.protocolName = .http → HttpFirstLine payload

/-- The payload has ten bytes of UTF-8, and its first line is mistaken for HTTP. -/
def MistakenPayload (payload : Bytes) : Prop :=
  10 ≤ payload.length ∧ ∃ text line more, fromUtf8 payload = some text ∧
    lines text = line :: more ∧ Mistaken line

/-- A recognised payload is HTTP or mistaken for it. -/
theorem httpFirstLine_of_isSome {payload : Bytes} (hnot : ¬ MistakenPayload payload)
    (h : (payloadInfo payload).isSome = true) : HttpFirstLine payload := by
  obtain ⟨hlong, text, line, more, htext, hlines, hreads⟩ := (payloadInfo_isSome_iff payload).mp h
  refine ⟨text, line, more, htext, hlines, ?_⟩
  exact (mistaken_or_http hreads).resolve_left fun hmistaken =>
    hnot ⟨hlong, text, line, more, htext, hlines, hmistaken⟩

/-- A mistaken payload is recognised and is not HTTP. -/
theorem MistakenPayload.not_onlyHttp {payload : Bytes} (h : MistakenPayload payload) :
    ¬ OnlyHttp payload := by
  obtain ⟨hlong, text, line, more, htext, hlines, hmistaken⟩ := h
  intro honly
  obtain ⟨info, hinfo⟩ := Option.isSome_iff_exists.mp ((payloadInfo_isSome_iff payload).mpr
    ⟨hlong, text, line, more, htext, hlines, hmistaken.readsAsHttp⟩)
  have hwhole : getFrom? payload 0 = some payload := getFrom?_append [] payload
  obtain ⟨text', line', more', htext', hlines', hhttp⟩ :=
    honly.dissected payload 0 info hwhole ((dissectHttp_answers.of_part hwhole).trans (congrArg _ hinfo))
  cases htext.symm.trans htext'
  cases hlines.symm.trans hlines'
  exact hhttp.elim hmistaken.not_requestLine hmistaken.not_statusLine

/-- The exact condition: only HTTP is recognised as HTTP, but for the payloads whose first
line is one of the mistaken kinds. -/
theorem only_http_iff (payload : Bytes) : OnlyHttp payload ↔ ¬ MistakenPayload payload := by
  constructor
  · exact fun honly hmistaken => hmistaken.not_onlyHttp honly
  · intro hnot
    refine ⟨fun data payloadOffset info hpayload hinfo => ?_,
      fun frame packet h hproto hports hpayload hname => ?_⟩
    · refine httpFirstLine_of_isSome hnot ?_
      rw [Except.ok.inj ((dissectHttp_answers.of_part hpayload).symm.trans hinfo)]
      rfl
    · have htag := (protocolName_other_port h hproto hports
        (dissectHttp_answers.of_part hpayload)).1
      exact httpFirstLine_of_isSome hnot (htag.mp hname).2

/-- The greeting of a mail server, in three words. -/
def mailGreeting : Bytes := asBytes "220 mail.example ESMTP\r\n"

theorem mailGreeting_not_onlyHttp : ¬ OnlyHttp mailGreeting := by
  have hline : Mistaken
      ("220".toList ++ ' ' :: ("mail.example".toList ++ ' ' :: "ESMTP".toList)) :=
    .threeWords (by decide) (by decide) (fun hversion => absurd hversion.1 (by decide))
      (Or.inr (Or.inr fun hversion => absurd hversion.1 (by decide)))
  exact MistakenPayload.not_onlyHttp ⟨by decide, "220 mail.example ESMTP\r\n".toList,
    "220 mail.example ESMTP".toList, [], fromUtf8_asBytes _, rfl, hline⟩

end GeSensor.Dissectors
