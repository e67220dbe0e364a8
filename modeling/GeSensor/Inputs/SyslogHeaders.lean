/-
  Inputs/SyslogHeaders.lean --- the headers of RFC 5424 and RFC 3164 messages, as the formats
  define them, and what `parse_syslog` makes of them.

  The parser takes the second and the third token behind the priority for the host name and
  the application.  In both formats other tokens stand there: TIMESTAMP and HOSTNAME in the
  one, the day and the time in the other.
-/
import GeSensor.Inputs.Syslog

set_option autoImplicit false

namespace GeSensor.Inputs

open GeSensor.Foundation

/-! ## Messages -/

/-- A token of a header: no space, and something besides white space. -/
structure Token where
  text : List Char
  noSpace : text.contains ' ' = false
  visible : text.all isWhitespace = false

namespace Token

theorem space_not_mem (token : Token) : ' ' ∉ token.text := by
  rw [← List.contains_iff_mem, token.noSpace]
  exact Bool.false_ne_true

/-- The token around a character that is not white space. -/
theorem exists_visible (token : Token) :
    ∃ before last after, token.text = before ++ last :: after ∧ isWhitespace last = false := by
  obtain ⟨last, hmem, hlast⟩ := List.all_eq_false.mp token.visible
  obtain ⟨before, after, htext⟩ := List.append_of_mem hmem
  exact ⟨before, last, after, htext, Bool.eq_false_iff.mpr hlast⟩

end Token

/-- What stands behind the priority. -/
inductive SyslogBody where
  /-- `VERSION TIMESTAMP HOSTNAME APP-NAME PROCID MSGID SD MSG` -/
  | rfc5424 (version timestamp hostname appName procId msgId : Token) (sd msg : List Char)
  /-- `Mmm dd hh:mm:ss HOSTNAME TAG: CONTENT`, with or without a pid in brackets behind the tag -/
  | rfc3164 (month day time hostname tag : Token) (pid : Option Token) (content : List Char)

namespace SyslogBody

/-- The pid of a tag. -/
def pidText : Option Token → List Char
  | none => []
  | some pid => '[' :: (pid.text ++ [']'])

def text : SyslogBody → List Char
  | rfc5424 version timestamp hostname appName procId msgId sd msg =>
      version.text ++ ' ' :: (timestamp.text ++ ' ' :: (hostname.text ++ ' ' ::
        (appName.text ++ ' ' :: (procId.text ++ ' ' :: (msgId.text ++ ' ' :: (sd ++ ' ' :: msg))))))
  | rfc3164 month day time hostname tag pid content =>
      month.text ++ ' ' :: (day.text ++ ' ' :: (time.text ++ ' ' ::
        (hostname.text ++ ' ' :: (tag.text ++ (pidText pid ++ ':' :: ' ' :: content)))))

def hostname : SyslogBody → Token
  | rfc5424 _ _ hostname _ _ _ _ _ => hostname
  | rfc3164 _ _ _ hostname _ _ _ => hostname

/-- The APP-NAME, respectively the TAG without its pid. -/
def appName : SyslogBody → Token
  | rfc5424 _ _ _ appName _ _ _ _ => appName
  | rfc3164 _ _ _ _ tag _ _ => tag

end SyslogBody

structure SyslogMessage where
  pri : Nat
  body : SyslogBody
  pri_le : pri ≤ 191

/-- `<PRI>` and what stands behind it. -/
def SyslogMessage.text (message : SyslogMessage) : List Char :=
  '<' :: (Nat.toDigits 10 message.pri ++ '>' :: message.body.text)

/-! ## What the parser makes of four tokens -/

section

variable (now : String) {pri : Nat} (first second third fourth : Token)

theorem bracket_not_mem_toDigits (number : Nat) : '>' ∉ Nat.toDigits 10 number := fun hmem =>
  absurd (Nat.isDigit_of_mem_toDigits (by decide) (by decide) hmem) (by decide)

/-- The second token becomes the host name, the third one the application. -/
theorem parseSyslog_tokens (hpri : pri ≤ 191) (more : List Char) :
    ∃ event, parseSyslog now ('<' :: (Nat.toDigits 10 pri ++ '>' :: (first.text ++ ' ' ::
        (second.text ++ ' ' :: (third.text ++ ' ' :: (fourth.text ++ more)))))) = some event ∧
      event.priority.toNat = pri ∧ event.hostname = second.text ∧ event.appName = third.text := by
  obtain ⟨before, last, after, hfourth, hlast⟩ := fourth.exists_visible
  have htrim := trim_append_cons (by decide : isWhitespace '<' = false) hlast
    (Nat.toDigits 10 pri ++ '>' :: (first.text ++ ' ' :: (second.text ++ ' ' ::
      (third.text ++ ' ' :: before)))) (after ++ more)
  simp only [List.append_assoc, List.cons_append] at htrim
  have hsplit := fun rest => splitn_append first.space_not_mem 2 (second.text ++ ' ' ::
    (third.text ++ ' ' :: rest))
  simp only [splitn_append second.space_not_mem, splitn_append third.space_not_mem] at hsplit
  rw [hfourth, List.append_assoc, List.cons_append,
    parseSyslog_of_bracket htrim (bracket_not_mem_toDigits pri),
    parseU16_toDigits (Nat.lt_of_le_of_lt hpri (by decide)), Option.map_some]
  refine ⟨_, rfl, ?_, ?_, ?_⟩
  · exact UInt16.toNat_ofNat_of_lt' (Nat.lt_of_le_of_lt hpri (by decide))
  · simp only [priorityEvent, hsplit]
    rfl
  · simp only [priorityEvent, hsplit]
    rfl

end

/-! ## The headers of the formats -/

/-- The message is split as its format defines: an event with the priority, the host name and
the application of the message. -/
def SplitAsDefined (now : String) (message : SyslogMessage) : Prop :=
  ∃ event, parseSyslog now message.text = some event ∧ event.priority.toNat = message.pri ∧
    event.hostname = message.body.hostname.text ∧ event.appName = message.body.appName.text

/-- The tokens that the parser takes are by chance those of the format: TIMESTAMP, HOSTNAME and
APP-NAME alike, or HOSTNAME like the day and TAG like the time. -/
def SyslogBody.Coincide : SyslogBody → Prop
  | rfc5424 _ timestamp hostname appName _ _ _ _ =>
      timestamp.text = hostname.text ∧ hostname.text = appName.text
  | rfc3164 _ day time hostname tag _ _ => day.text = hostname.text ∧ time.text = tag.text

/-- The event has one host name and one application. -/
theorem splitAsDefined_iff_of_fields {now : String} {message : SyslogMessage}
    {host app : List Char}
    (h : ∃ event, parseSyslog now message.text = some event ∧
      event.priority.toNat = message.pri ∧ event.hostname = host ∧ event.appName = app) :
    SplitAsDefined now message ↔
      host = message.body.hostname.text ∧ app = message.body.appName.text := by
  obtain ⟨event, hevent, hpriority, rfl, rfl⟩ := h
  constructor
  · rintro ⟨other, hother, _, hhost, happ⟩
    rw [hevent, Option.some.injEq] at hother
    rw [hother]
    exact ⟨hhost, happ⟩
  · rintro ⟨hhost, happ⟩
    exact ⟨event, hevent, hpriority, hhost, happ⟩

/-- `parse_syslog` splits the messages of both formats as they define exactly where the tokens
it takes coincide with those it should take. -/
theorem splitAsDefined_iff (now : String) (message : SyslogMessage) :
    SplitAsDefined now message ↔ message.body.Coincide := by
  obtain ⟨pri, body, hpri⟩ := message
  cases body with
  | rfc5424 version timestamp hostname appName procId msgId sd msg =>
      exact splitAsDefined_iff_of_fields (parseSyslog_tokens now version timestamp hostname
        appName hpri (' ' :: (procId.text ++ ' ' :: (msgId.text ++ ' ' :: (sd ++ ' ' :: msg)))))
  | rfc3164 month day time hostname tag pid content =>
      exact splitAsDefined_iff_of_fields (parseSyslog_tokens now month day time hostname hpri
        (' ' :: (tag.text ++ (SyslogBody.pidText pid ++ ':' :: ' ' :: content))))

/-- A message of RFC 5424 from the host `myhost`. -/
def testMessage : SyslogMessage where
  pri := 165
  body := .rfc5424 ⟨['1'], rfl, rfl⟩
    ⟨"2026-03-24T00:00:00Z".toList, rfl, rfl⟩
    ⟨"myhost".toList, rfl, rfl⟩ ⟨"myapp".toList, rfl, rfl⟩
    ⟨['-'], rfl, rfl⟩ ⟨['-'], rfl, rfl⟩ ['-']
    "Test message".toList
  pri_le := by decide

/-- The time stamp becomes the host name. -/
theorem testMessage_not_splitAsDefined :
    testMessage.text = "<165>1 2026-03-24T00:00:00Z myhost myapp - - - Test message".toList ∧
      ¬ SplitAsDefined "" testMessage := by
  refine ⟨by decide, ?_⟩
  rintro ⟨event, hevent, _, hhost, _⟩
  have hparse : (parseSyslog "" testMessage.text).map SyslogEvent.hostname =
      some "2026-03-24T00:00:00Z".toList := by
    decide
  rw [hevent, Option.map_some, hhost, Option.some.injEq] at hparse
  exact absurd hparse (by decide)

end GeSensor.Inputs
