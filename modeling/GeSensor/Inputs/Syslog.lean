/-
  Inputs/Syslog.lean --- `parse_syslog`, and the parts of a priority.

  The number in front of a message is any 16-bit number.  Its facility is kept in 8 bits, so
  that facility and severity make up the priority again below 2048 only.
-/
import GeSensor.Foundation.TextSearch

set_option autoImplicit false

namespace GeSensor.Inputs

open GeSensor.Foundation

/-- `SyslogEvent`. -/
structure SyslogEvent where
  priority : UInt16
  facility : UInt8
  severity : UInt8
  hostname : List Char
  appName : List Char
  message : List Char
  timestamp : String
  deriving DecidableEq, Repr

/-- The event of a message that begins with a priority: `rest` is split at its first three
spaces. -/
def priorityEvent (now : String) (priority : UInt16) (rest : List Char) : SyslogEvent :=
  let parts := splitn 4 ' ' rest
  { priority := priority
    facility := (priority >>> 3).toUInt8
    severity := (priority &&& 0x07).toUInt8
    hostname := (parts[1]?).getD []
    appName := (parts[2]?).getD []
    message := (parts[3]?).getD rest
    timestamp := now }

/-- The event of a message without a priority: user.notice. -/
def rawEvent (now : String) (raw : List Char) : SyslogEvent where
  priority := 13
  facility := 1
  severity := 5
  hostname := []
  appName := []
  message := raw
  timestamp := now

/-- `parse_syslog`, where the clock says `now`. -/
def parseSyslog (now : String) (raw : List Char) : Option SyslogEvent :=
  let raw := trim raw
  if raw = [] then none
  else if raw.head? ≠ some '<' then some (rawEvent now raw)
  else do
    -- `find` answers in bytes; both brackets are one byte, so the cuts fall on characters.
    let priEnd ← raw.findIdx? (· == '>')
    let priority ← parseU16 ((raw.take priEnd).drop 1)
    return priorityEvent now priority (raw.drop (priEnd + 1))

/-! ## Where the priority stands -/

section

variable {now : String} {raw : List Char}

/-- A bracket that is closed has the priority in it. -/
theorem parseSyslog_of_bracket {digits rest : List Char}
    (h : trim raw = '<' :: (digits ++ '>' :: rest)) (hclosed : '>' ∉ digits) :
    parseSyslog now raw =
      (parseU16 digits).map fun priority => priorityEvent now priority rest := by
  have hend : ('<' :: (digits ++ '>' :: rest)).findIdx? (· == '>') = some (digits.length + 1) := by
    have hnone : digits.findIdx? (· == '>') = none :=
      List.findIdx?_eq_none_iff.mpr fun char hmem => beq_false_of_ne fun heq => hclosed (heq ▸ hmem)
    rw [List.findIdx?_cons, List.findIdx?_append, hnone, List.findIdx?_cons]
    simp
  have hdigits : (('<' :: (digits ++ '>' :: rest)).take (digits.length + 1)).drop 1 = digits := by
    rw [List.take_succ_cons, List.take_left, List.drop_one, List.tail_cons]
  have hdrop : ('<' :: (digits ++ '>' :: rest)).drop (digits.length + 1 + 1) = rest := by
    rw [List.drop_succ_cons, ← List.drop_drop, List.drop_left]
    rfl
  unfold parseSyslog
  dsimp only
  rw [h, if_neg (List.cons_ne_nil _ _), List.head?_cons, if_neg (not_not_intro rfl), hend, Option.bind_eq_bind,
    Option.bind_some, hdigits, hdrop]
  cases parseU16 digits <;> rfl

/-- Without a closing bracket there is no event. -/
theorem parseSyslog_of_unclosed {text : List Char} (h : trim raw = '<' :: text)
    (hopen : '>' ∉ text) : parseSyslog now raw = none := by
  have hnone : ('<' :: text).findIdx? (· == '>') = none := by
    rw [List.findIdx?_eq_none_iff]
    intro char hmem
    refine beq_false_of_ne ?_
    rintro rfl
    rcases List.mem_cons.mp hmem with heq | hmem
    · exact absurd heq (by decide)
    · exact hopen hmem
  unfold parseSyslog
  dsimp only
  rw [h, if_neg (List.cons_ne_nil _ _), List.head?_cons, if_neg (not_not_intro rfl), hnone]
  rfl

/-- An event is that of a raw message, or of a message behind a bracket with a number in it. -/
theorem parseSyslog_eq_some {event : SyslogEvent} (h : parseSyslog now raw = some event) :
    event = rawEvent now (trim raw) ∨
      ∃ (digits rest : List Char) (priority : UInt16),
        trim raw = '<' :: (digits ++ '>' :: rest) ∧ '>' ∉ digits ∧
          parseU16 digits = some priority ∧ event = priorityEvent now priority rest := by
  by_cases hopen : (trim raw).head? = some '<'
  · obtain ⟨text, htext⟩ : ∃ text, trim raw = '<' :: text := List.head?_eq_some_iff.mp hopen
    by_cases hclosed : '>' ∈ text
    · obtain ⟨digits, rest, rfl, hdigits⟩ := List.eq_append_cons_of_mem hclosed
      rw [parseSyslog_of_bracket htext hdigits] at h
      obtain ⟨priority, hpriority, rfl⟩ := Option.map_eq_some_iff.mp h
      exact Or.inr ⟨digits, rest, priority, htext, hdigits, hpriority, rfl⟩
    · rw [parseSyslog_of_unclosed htext hclosed] at h
      cases h
  · unfold parseSyslog at h
    dsimp only at h
    split at h
    next => cases h
    next => exact Or.inl (Option.some.inj h).symm

end

/-! ## The parts of the priority -/

/-- The facility and the severity make up the priority. -/
def SyslogEvent.LosesNothing (event : SyslogEvent) : Prop :=
  event.priority.toNat = 8 * event.facility.toNat + event.severity.toNat ∧
    event.severity.toNat ≤ 7

/-- Eight bits hold the facility of a priority below 2048. -/
theorem priorityEvent_losesNothing_iff (now : String) (priority : UInt16) (rest : List Char) :
    (priorityEvent now priority rest).LosesNothing ↔ priority.toNat < 2048 := by
  have hfacility : (priority >>> 3).toUInt8.toNat = priority.toNat / 2 ^ 3 % 2 ^ 8 := by
    rw [UInt16.toNat_toUInt8, UInt16.toNat_shiftRight, Nat.shiftRight_eq_div_pow]
    rfl
  have hseverity : (priority &&& 0x07).toUInt8.toNat = priority.toNat % 2 ^ 3 % 2 ^ 8 := by
    rw [UInt16.toNat_toUInt8, UInt16.toNat_and]
    exact congrArg (· % 2 ^ 8) (Nat.and_two_pow_sub_one_eq_mod priority.toNat 3)
  simp only [SyslogEvent.LosesNothing, priorityEvent, hfacility, hseverity]
  omega

/-- What `parse_syslog` returns has all of its priority in the facility and the severity exactly
when no number from 2048 on stands in the bracket. -/
theorem losesNothing_iff (now : String) (raw : List Char) :
    (∀ event, parseSyslog now raw = some event → event.LosesNothing) ↔
      ¬ ∃ (digits rest : List Char) (priority : UInt16),
        trim raw = '<' :: (digits ++ '>' :: rest) ∧ '>' ∉ digits ∧
          parseU16 digits = some priority ∧ 2048 ≤ priority.toNat := by
  constructor
  · rintro h ⟨digits, rest, priority, hshape, hdigits, hpriority, hlarge⟩
    have hevent : parseSyslog now raw = some (priorityEvent now priority rest) := by
      rw [parseSyslog_of_bracket hshape hdigits, hpriority, Option.map_some]
    exact absurd hlarge (Nat.not_le.mpr ((priorityEvent_losesNothing_iff ..).mp (h _ hevent)))
  · intro hsmall event hevent
    rcases parseSyslog_eq_some hevent with rfl | ⟨digits, rest, priority, hshape, hdigits,
      hpriority, rfl⟩
    · exact ⟨rfl, (by decide : (5 : UInt8).toNat ≤ 7)⟩
    · refine (priorityEvent_losesNothing_iff ..).mpr (Nat.lt_of_not_le fun hlarge => ?_)
      exact hsmall ⟨digits, rest, priority, hshape, hdigits, hpriority, hlarge⟩

/-- The facility of 2048 is 256, which becomes 0. -/
theorem priority2048_losesFacility :
    ¬ ∀ event, parseSyslog "" "<2048>x".toList = some event → event.LosesNothing := by
  intro h
  have hevent : parseSyslog "" "<2048>x".toList = some (priorityEvent "" 2048 ['x']) := by decide
  exact absurd ((priorityEvent_losesNothing_iff ..).mp (h _ hevent)) (by decide)

end GeSensor.Inputs
