/-
  Foundation/HttpMessage.lean --- HTTP/1.1 messages as they are read off a connection.

  A message is a start line, header fields and a body of as many bytes as the field
  `Content-Length` says.  A line ends at a carriage return and a line feed, and an empty line
  ends the head; a reader knows nothing else about where a field or the body begins.  What
  was written is read back when no line has a line end inside and the length is that of the
  body: nothing in the body can be taken for a field.
-/
import GeSensor.Foundation.Pcap
import GeSensor.Foundation.Text

set_option autoImplicit false

namespace GeSensor.Foundation

/-! ## Reading -/

/-- A line up to its line end. -/
def readLine : StepReader Bytes
  | [] => none
  | byte :: rest =>
      if byte = 13 ∧ rest.head? = some 10 then some ([], rest.tail)
      else (readLine rest).map fun (line, rest) => (byte :: line, rest)

/-- A header field. -/
structure HttpField where
  name : Bytes
  value : Bytes
  deriving DecidableEq, Repr

/-- A name, a colon and a value, with spaces before the value. -/
def readField (line : Bytes) : Option HttpField :=
  let name := line.takeWhile (· ≠ 58)
  match line.drop name.length with
  | [] => none
  | _ :: value => if name = [] then none else some ⟨name, value.dropWhile (· = 32)⟩

/-- The fields up to the empty line; every field takes at least one byte. -/
def readFields : (turns : Nat) → StepReader (List HttpField)
  | 0, _ => none
  | turns + 1, bytes =>
      (readLine bytes).bind fun (line, rest) =>
        if line = [] then some ([], rest)
        else
          (readField line).bind fun field =>
            (readFields turns rest).map fun (fields, rest) => (field :: fields, rest)

/-- A letter of the alphabet in lower case. -/
def lowerByte (byte : UInt8) : UInt8 := if 65 ≤ byte ∧ byte ≤ 90 then byte + 32 else byte

/-- `content-length`. -/
def contentLengthName : Bytes :=
  [99, 111, 110, 116, 101, 110, 116, 45, 108, 101, 110, 103, 116, 104]

/-- The decimal number that the bytes write. -/
def readDecimal (bytes : Bytes) : Option Nat :=
  if bytes = [] then none else readDigits 0 (bytes.map fun byte => Char.ofNat byte.toNat)

/-- The length of the body, said by one field whose name may be in any case. -/
def readContentLength (fields : List HttpField) : Option Nat :=
  match fields.filter fun field => field.name.map lowerByte = contentLengthName with
  | [field] => readDecimal field.value
  | _ => none

structure HttpMessage where
  startLine : Bytes
  fields : List HttpField
  body : Bytes
  deriving DecidableEq, Repr

/-- A message off the front of the bytes. -/
def readMessage : StepReader HttpMessage := fun bytes =>
  (readLine bytes).bind fun (startLine, rest) =>
    (readFields (rest.length + 1) rest).bind fun (fields, rest) =>
      (readContentLength fields).bind fun length =>
        if length ≤ rest.length then
          some (⟨startLine, fields, rest.take length⟩, rest.drop length)
        else none

/-! ## Writing -/

def lineEnd : Bytes := [13, 10]

def HttpField.line (field : HttpField) : Bytes := field.name ++ 58 :: 32 :: field.value

def HttpMessage.encode (message : HttpMessage) : Bytes :=
  message.startLine ++ lineEnd ++ message.fields.flatMap (fun field => field.line ++ lineEnd) ++
    lineEnd ++ message.body

/-- A field that stays on its line. -/
structure HttpField.OnLine (field : HttpField) : Prop where
  name_ne_nil : field.name ≠ []
  name_colon : 58 ∉ field.name
  name_return : 13 ∉ field.name
  value_return : 13 ∉ field.value
  value_space : field.value.head? ≠ some 32

/-- A message whose head has the lines it says, and the length of its body. -/
structure HttpMessage.Framed (message : HttpMessage) : Prop where
  startLine : 13 ∉ message.startLine
  fields : ∀ field ∈ message.fields, field.OnLine
  length : readContentLength message.fields = some message.body.length

theorem readLine_append {line : Bytes} (h : 13 ∉ line) (rest : Bytes) :
    readLine (line ++ lineEnd ++ rest) = some (line, rest) := by
  induction line with
  | nil => rfl
  | cons byte line ih =>
      obtain ⟨hbyte, hline⟩ := not_or.mp (List.mem_cons.not.mp h)
      rw [List.cons_append, List.cons_append, readLine, if_neg fun heq => hbyte heq.1.symm,
        ih hline]
      rfl

/-- A number is read back from the bytes of its digits. -/
theorem readDecimal_toDigits (number : Nat) :
    readDecimal (asBytes (String.ofList (Nat.toDigits 10 number))) = some number := by
  have hdigits : ∀ char ∈ Nat.toDigits 10 number, char.isDigit = true :=
    fun _ => Nat.isDigit_of_mem_toDigits (by decide) (by decide)
  have hrange : ∀ char ∈ Nat.toDigits 10 number, char.toNat < 128 := fun char hchar =>
    Nat.lt_of_le_of_lt (Char.isDigit_iff_toNat.mp (hdigits char hchar)).2 (by decide)
  have hchars : (asBytes (String.ofList (Nat.toDigits 10 number))).map
      (fun byte => Char.ofNat byte.toNat) = Nat.toDigits 10 number := by
    rw [asBytes_of_ascii hrange, List.map_map]
    refine (List.map_congr_left fun char hchar => ?_).trans (List.map_id _)
    have hbyte : (UInt8.ofNat char.toNat).toNat = char.toNat :=
      UInt8.toNat_ofNat_of_lt' (Nat.lt_trans (hrange char hchar) (by decide))
    rw [Function.comp_apply, hbyte, Char.ofNat_toNat, id]
  have hne : asBytes (String.ofList (Nat.toDigits 10 number)) ≠ [] := by
    intro h
    rw [h] at hchars
    exact Nat.toDigits_ne_nil hchars.symm
  rw [readDecimal, if_neg hne, hchars, readDigits_of_isDigit hdigits,
    Nat.ofDigitChars_toDigits (by decide) (by decide)]

/-- The only field of the name says the length. -/
theorem readContentLength_append {before after : List HttpField} {field : HttpField}
    (hbefore : ∀ other ∈ before, other.name.map lowerByte ≠ contentLengthName)
    (hfield : field.name.map lowerByte = contentLengthName)
    (hafter : ∀ other ∈ after, other.name.map lowerByte ≠ contentLengthName) :
    readContentLength (before ++ field :: after) = readDecimal field.value := by
  have hnone : ∀ fields : List HttpField,
      (∀ other ∈ fields, other.name.map lowerByte ≠ contentLengthName) →
        (fields.filter fun field => field.name.map lowerByte = contentLengthName) = [] := by
    intro fields hfields
    rw [List.filter_eq_nil_iff]
    exact fun other hother => by simpa using hfields other hother
  rw [readContentLength, List.filter_append, hnone before hbefore, List.nil_append,
    List.filter_cons, if_pos (decide_eq_true hfield), hnone after hafter]

theorem readField_line {field : HttpField} (h : field.OnLine) :
    readField field.line = some field := by
  have hname : field.line.takeWhile (· ≠ 58) = field.name := by
    rw [HttpField.line, List.takeWhile_append_of_pos fun byte hbyte => ?_]
    · simp
    · exact decide_eq_true fun heq => h.name_colon (heq ▸ hbyte)
  have hvalue : field.value.dropWhile (· = 32) = field.value := by
    cases hhead : field.value with
    | nil => rfl
    | cons byte value =>
        have hspace := h.value_space
        rw [hhead, List.head?_cons, ne_eq, Option.some.injEq] at hspace
        exact List.dropWhile_cons_of_neg (by simpa using hspace)
  rw [readField, hname, HttpField.line, List.drop_left]
  simp [h.name_ne_nil, hvalue]

theorem readFields_encode {fields : List HttpField} (h : ∀ field ∈ fields, field.OnLine)
    {turns : Nat} (hturns : fields.length < turns) (rest : Bytes) :
    readFields turns (fields.flatMap (fun field => field.line ++ lineEnd) ++ lineEnd ++ rest) =
      some (fields, rest) := by
  induction fields generalizing turns with
  | nil =>
      obtain ⟨left, rfl⟩ := Nat.exists_eq_succ_of_ne_zero (Nat.ne_zero_of_lt hturns)
      rfl
  | cons field fields ih =>
      obtain ⟨left, rfl⟩ := Nat.exists_eq_succ_of_ne_zero (Nat.ne_zero_of_lt hturns)
      obtain ⟨hfield, hrest⟩ := List.forall_mem_cons.mp h
      have hline : 13 ∉ field.line := by
        simp [HttpField.line, hfield.name_return, hfield.value_return]
      have hne : field.line ≠ [] := List.append_ne_nil_of_left_ne_nil hfield.name_ne_nil _
      rw [List.flatMap_cons, List.append_assoc, List.append_assoc, readFields,
        readLine_append hline, Option.bind_some]
      dsimp only
      rw [if_neg hne, readField_line hfield, Option.bind_some, ← List.append_assoc,
        ih hrest (Nat.lt_of_succ_lt_succ hturns)]
      rfl

/-- What was written is read back, whatever follows it. -/
theorem readMessage_encode {message : HttpMessage} (h : message.Framed) (rest : Bytes) :
    readMessage (message.encode ++ rest) = some (message, rest) := by
  have hfields : message.fields.length <
      (message.fields.flatMap (fun field => field.line ++ lineEnd) ++ lineEnd ++
        (message.body ++ rest)).length + 1 := by
    have hlength : ∀ fields : List HttpField,
        fields.length ≤ (fields.flatMap fun field => field.line ++ lineEnd).length := by
      intro fields
      induction fields with
      | nil => exact Nat.le_refl 0
      | cons field fields ih =>
          have hend : lineEnd.length = 2 := rfl
          rw [List.flatMap_cons, List.length_append, List.length_append, List.length_cons, hend]
          omega
    have hbound := hlength message.fields
    rw [List.length_append, List.length_append]
    omega
  rw [readMessage, HttpMessage.encode, List.append_assoc, List.append_assoc, List.append_assoc,
    readLine_append h.startLine, Option.bind_some, ← List.append_assoc]
  dsimp only
  rw [readFields_encode h.fields hfields, Option.bind_some]
  dsimp only
  rw [h.length, Option.bind_some, if_pos (by rw [List.length_append]; omega), List.take_left,
    List.drop_left]

end GeSensor.Foundation
