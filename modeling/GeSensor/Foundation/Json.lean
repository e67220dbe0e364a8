/-
  Foundation/Json.lean --- JSON texts and the values they denote.

  The grammar of JSON, as a relation between a text and a value.  An escape of one half
  of a surrogate pair denotes no character and is not accepted; a key may be repeated,
  and the last member counts.

  A text without quotes, backslashes and control characters denotes itself between two
  quotes.  Any other text takes more room than its own length, so `member_length_le`
  tells from the length of a document which strings it cannot hold.
-/
import GeSensor.Foundation.Text
import Mathlib.Data.List.Count

set_option autoImplicit false

namespace GeSensor.Foundation

inductive Json where
  | null
  | bool (value : Bool)
  | number (text : List Char)
  | string (value : List Char)
  | array (items : List Json)
  | object (members : List (List Char × Json))

namespace Json

/-- The last member of this name. -/
def get (key : List Char) : Json → Option Json
  | .object members => (members.reverse.find? fun entry => entry.1 == key).map Prod.snd
  | _ => none

def asBool : Json → Option Bool
  | .bool value => some value
  | _ => none

def asStr : Json → Option (List Char)
  | .string value => some value
  | _ => none

end Json

/-! ## Strings and numbers -/

/-- A character that stands for itself in a string. -/
def isPlainChar (char : Char) : Bool := char ≠ '"' && char ≠ '\\' && 0x20 ≤ char.toNat

/-- A text in which every character stands for itself. -/
def isPlainText (text : List Char) : Bool := text.all isPlainChar

/-- What a character behind a backslash denotes. -/
def simpleEscape : Char → Option Char
  | '"' => some '"'
  | '\\' => some '\\'
  | '/' => some '/'
  | 'b' => some '\x08'
  | 'f' => some '\x0C'
  | 'n' => some '\n'
  | 'r' => some '\r'
  | 't' => some '\t'
  | _ => none

/-- The code unit of four hexadecimal digits. -/
def hexUnit (a b c d : Char) : Option Nat :=
  match hexValue a, hexValue b, hexValue c, hexValue d with
  | some a, some b, some c, some d => some (((a * 16 + b) * 16 + c) * 16 + d)
  | _, _, _, _ => none

/-- What stands between the quotes, and the text that it denotes. -/
inductive JsonChars : List Char → List Char → Prop
  | nil : JsonChars [] []
  | plain {char : Char} {raw text : List Char} (hplain : isPlainChar char = true)
      (hrest : JsonChars raw text) : JsonChars (char :: raw) (char :: text)
  | escape {char denoted : Char} {raw text : List Char}
      (hescape : simpleEscape char = some denoted) (hrest : JsonChars raw text) :
      JsonChars ('\\' :: char :: raw) (denoted :: text)
  | unit {a b c d : Char} {unit : Nat} {raw text : List Char}
      (hunit : hexUnit a b c d = some unit) (hscalar : unit.isValidChar)
      (hrest : JsonChars raw text) :
      JsonChars ('\\' :: 'u' :: a :: b :: c :: d :: raw) (Char.ofNat unit :: text)
  | pair {a b c d a' b' c' d' : Char} {high low : Nat} {raw text : List Char}
      (hhigh : hexUnit a b c d = some high) (hlow : hexUnit a' b' c' d' = some low)
      (hhigh' : 0xD800 ≤ high ∧ high ≤ 0xDBFF) (hlow' : 0xDC00 ≤ low ∧ low ≤ 0xDFFF)
      (hrest : JsonChars raw text) :
      JsonChars ('\\' :: 'u' :: a :: b :: c :: d :: '\\' :: 'u' :: a' :: b' :: c' :: d' :: raw)
        (Char.ofNat (0x10000 + (high - 0xD800) * 0x400 + (low - 0xDC00)) :: text)

/-- Digits, at least one. -/
def IsDigits (text : List Char) : Prop := text ≠ [] ∧ ∀ char ∈ text, char.isDigit = true

/-- Digits without a leading zero. -/
def IsInteger (text : List Char) : Prop :=
  IsDigits text ∧ (text.head? = some '0' → text = ['0'])

/-- A sign, an integer, a fraction and an exponent; all but the integer may be absent. -/
def IsNumber (text : List Char) : Prop :=
  ∃ sign integer fraction exponent : List Char,
    text = sign ++ integer ++ fraction ++ exponent ∧
    (sign = [] ∨ sign = ['-']) ∧ IsInteger integer ∧
    (fraction = [] ∨ ∃ digits, fraction = '.' :: digits ∧ IsDigits digits) ∧
    (exponent = [] ∨ ∃ mark sign digits, exponent = mark :: (sign ++ digits) ∧
      (mark = 'e' ∨ mark = 'E') ∧ (sign = [] ∨ sign = ['+'] ∨ sign = ['-']) ∧ IsDigits digits)

/-- Blanks, tabs and line ends. -/
def IsSpace (text : List Char) : Prop := ∀ char ∈ text, char ∈ [' ', '\t', '\n', '\r']

/-- A text in quotes. -/
def quoted (raw : List Char) : List Char := '"' :: (raw ++ ['"'])

/-! ## Values -/

mutual

/-- A text, from the first to the last character of a value, and the value. -/
inductive Denotes : List Char → Json → Prop
  | null : Denotes ['n', 'u', 'l', 'l'] .null
  | true : Denotes ['t', 'r', 'u', 'e'] (.bool Bool.true)
  | false : Denotes ['f', 'a', 'l', 's', 'e'] (.bool Bool.false)
  | number {text : List Char} (h : IsNumber text) : Denotes text (.number text)
  | string {raw text : List Char} (h : JsonChars raw text) : Denotes (quoted raw) (.string text)
  | emptyArray {space : List Char} (h : IsSpace space) :
      Denotes ('[' :: (space ++ [']'])) (.array [])
  | array {text : List Char} {items : List Json} (h : DenotesItems text items) :
      Denotes ('[' :: (text ++ [']'])) (.array items)
  | emptyObject {space : List Char} (h : IsSpace space) :
      Denotes ('\x7b' :: (space ++ ['\x7d'])) (.object [])
  | object {text : List Char} {members : List (List Char × Json)}
      (h : DenotesMembers text members) : Denotes ('\x7b' :: (text ++ ['\x7d'])) (.object members)

/-- Values with commas between them. -/
inductive DenotesItems : List Char → List Json → Prop
  | last {before text after : List Char} {value : Json} (hbefore : IsSpace before)
      (h : Denotes text value) (hafter : IsSpace after) :
      DenotesItems (before ++ text ++ after) [value]
  | cons {before text after rest : List Char} {value : Json} {values : List Json}
      (hbefore : IsSpace before) (h : Denotes text value) (hafter : IsSpace after)
      (hrest : DenotesItems rest values) :
      DenotesItems (before ++ text ++ after ++ ',' :: rest) (value :: values)

/-- A name, a colon and a value. -/
inductive DenotesMember : List Char → List Char × Json → Prop
  | mk {before raw key left right text after : List Char} {value : Json}
      (hbefore : IsSpace before) (hkey : JsonChars raw key) (hleft : IsSpace left)
      (hright : IsSpace right) (h : Denotes text value) (hafter : IsSpace after) :
      DenotesMember (before ++ quoted raw ++ left ++ ':' :: (right ++ text ++ after)) (key, value)

/-- Members with commas between them. -/
inductive DenotesMembers : List Char → List (List Char × Json) → Prop
  | last {text : List Char} {entry : List Char × Json} (h : DenotesMember text entry) :
      DenotesMembers text [entry]
  | cons {text rest : List Char} {entry : List Char × Json} {members : List (List Char × Json)}
      (h : DenotesMember text entry) (hrest : DenotesMembers rest members) :
      DenotesMembers (text ++ ',' :: rest) (entry :: members)

end

/-- A document: a value between blanks. -/
def DenotesDocument (document : List Char) (value : Json) : Prop :=
  ∃ before text after : List Char, document = before ++ text ++ after ∧ IsSpace before ∧
    IsSpace after ∧ Denotes text value

/-- A well-formed document. -/
def IsJson (document : List Char) : Prop := ∃ value, DenotesDocument document value

/-! ## Plain texts -/

/-- A plain text denotes itself. -/
theorem jsonChars_self {text : List Char} (h : isPlainText text = true) : JsonChars text text := by
  induction text with
  | nil => exact .nil
  | cons char text ih =>
      obtain ⟨hchar, htext⟩ := List.all_cons.symm.trans h |> Bool.and_eq_true_iff.mp
      exact .plain hchar (ih htext)

theorem denotes_quoted {text : List Char} (h : isPlainText text = true) :
    Denotes (quoted text) (.string text) :=
  .string (jsonChars_self h)

theorem isSpace_nil : IsSpace [] := fun _ hchar => absurd hchar List.not_mem_nil

/-- A member written without blanks. -/
theorem denotesMember_quoted (key : List Char) {text : List Char} {value : Json}
    (hkey : isPlainText key = true) (h : Denotes text value) :
    DenotesMember (quoted key ++ ':' :: text) (key, value) := by
  have hmember := DenotesMember.mk isSpace_nil (jsonChars_self hkey) isSpace_nil isSpace_nil h
    isSpace_nil
  simpa using hmember

theorem denotesDocument_self {text : List Char} {value : Json} (h : Denotes text value) :
    DenotesDocument text value :=
  ⟨[], text, [], by simp, isSpace_nil, isSpace_nil, h⟩

/-- The decimal digits of a number. -/
theorem isInteger_toDigits (number : Nat) : IsInteger (Nat.toDigits 10 number) := by
  have hdigits : ∀ number, IsDigits (Nat.toDigits 10 number) := fun number =>
    ⟨Nat.toDigits_ne_nil, fun _ => Nat.isDigit_of_mem_toDigits (by decide) (by decide)⟩
  refine ⟨hdigits number, fun hzero => ?_⟩
  induction number using Nat.strongRecOn with
  | ind number ih =>
      rcases Nat.lt_or_ge number 10 with hlt | hge
      · rw [Nat.toDigits_of_lt_base hlt] at hzero ⊢
        exact congrArg (· :: []) (Option.some.inj hzero)
      · rw [Nat.toDigits_of_base_le (by decide) hge, List.head?_append,
          List.head?_eq_some_head (hdigits _).1, Option.some_or,
          ← List.head?_eq_some_head (hdigits _).1] at hzero
        have htail := ih (number / 10) (Nat.div_lt_self (by omega) (by decide)) hzero
        have hvalue := congrArg (Nat.ofDigitChars 10 · 0) htail
        rw [Nat.ofDigitChars_toDigits (by decide) (by decide)] at hvalue
        have hnone : number / 10 = 0 := hvalue
        omega

theorem denotes_toDigits (number : Nat) :
    Denotes (Nat.toDigits 10 number) (.number (Nat.toDigits 10 number)) :=
  .number ⟨[], _, [], [], by simp, Or.inl rfl, isInteger_toDigits number, Or.inl rfl, Or.inl rfl⟩

/-! ## The room that a string takes -/

/-- The characters that do not stand for themselves. -/
def escapeCount (text : List Char) : Nat := text.countP fun char => !isPlainChar char

theorem isPlainText_iff_escapeCount {text : List Char} :
    isPlainText text = true ↔ escapeCount text = 0 := by
  simp [isPlainText, escapeCount, List.countP_eq_zero]

theorem escapeCount_cons_le (char : Char) (text : List Char) :
    escapeCount (char :: text) ≤ escapeCount text + 1 := by
  rw [escapeCount, List.countP_cons]
  split
  · exact Nat.le_refl _
  · exact Nat.le_succ _

/-- Each of them takes two characters at least. -/
theorem length_le_of_jsonChars {raw text : List Char} (h : JsonChars raw text) :
    text.length + escapeCount text ≤ raw.length := by
  induction h with
  | nil => exact Nat.le_refl _
  | @plain char raw text hplain _ ih =>
      have hcount : escapeCount (char :: text) = escapeCount text := by
        rw [escapeCount, List.countP_cons, hplain]
        rfl
      rw [hcount, List.length_cons, List.length_cons]
      omega
  | @escape _ denoted _ text _ _ ih =>
      have hcount := escapeCount_cons_le denoted text
      simp only [List.length_cons]
      omega
  | @unit _ _ _ _ unit _ text _ _ _ ih =>
      have hcount := escapeCount_cons_le (Char.ofNat unit) text
      simp only [List.length_cons]
      omega
  | @pair _ _ _ _ _ _ _ _ high low _ text _ _ _ _ _ ih =>
      have hcount := escapeCount_cons_le
        (Char.ofNat (0x10000 + (high - 0xD800) * 0x400 + (low - 0xDC00))) text
      simp only [List.length_cons]
      omega

theorem member_length_le {text key value : List Char}
    (h : DenotesMember text (key, .string value)) :
    key.length + value.length + escapeCount value + 5 ≤ text.length := by
  cases h with
  | mk _ hkey _ _ hvalue _ =>
      cases hvalue with
      | string hchars =>
          have hkeys := length_le_of_jsonChars hkey
          have hvalues := length_le_of_jsonChars hchars
          simp only [quoted, List.length_append, List.length_cons, List.length_nil]
          omega

theorem members_length_le {text key value : List Char} {members : List (List Char × Json)}
    (h : DenotesMembers text members) (hmem : (key, .string value) ∈ members) :
    key.length + value.length + escapeCount value + 5 ≤ text.length := by
  match h, hmem with
  | .last hmember, hmem =>
      obtain rfl := List.mem_singleton.mp hmem
      exact member_length_le hmember
  | .cons hmember hrest, hmem =>
      rw [List.length_append, List.length_cons]
      rcases List.mem_cons.mp hmem with rfl | hmem
      · have := member_length_le hmember
        omega
      · have := members_length_le hrest hmem
        omega

/-- A string that a document holds under a key fits into the document with its key, the
quotes, the colon and the braces. -/
theorem document_length_le {document key value : List Char} {json : Json}
    (h : DenotesDocument document json) (hget : json.get key = some (.string value)) :
    key.length + value.length + escapeCount value + 7 ≤ document.length := by
  obtain ⟨before, text, after, rfl, _, _, hdenotes⟩ := h
  unfold Json.get at hget
  split at hget
  · rename_i members
    obtain ⟨⟨name, found⟩, hfind, hvalue⟩ := Option.map_eq_some_iff.mp hget
    have hname := List.find?_some hfind
    obtain rfl : name = key := eq_of_beq hname
    obtain rfl : found = .string value := hvalue
    have hmem := List.mem_reverse.mp (List.mem_of_find?_eq_some hfind)
    cases hdenotes with
    | emptyObject => cases hmem
    | object hmembers =>
        have hroom := members_length_le hmembers hmem
        simp only [List.length_append, List.length_cons, List.length_nil]
        omega
  · cases hget

end GeSensor.Foundation
