/-
  Foundation/Text.lean --- the string operations of the text dissectors.

  A text is the list of its characters.  The operations follow the documented
  behaviour of `str::lines`, `str::splitn`, `str::strip_prefix`, `str::trim` and
  `str::parse::<u16>`.
-/
import Mathlib.Algebra.GroupWithZero.Nat

set_option autoImplicit false

namespace GeSensor.Foundation

/-- `std::str::from_utf8(bytes).ok()`. -/
def fromUtf8 (bytes : List UInt8) : Option (List Char) :=
  (String.fromUTF8? ⟨⟨bytes⟩⟩).map String.toList

/-- `text.as_bytes()`. -/
def asBytes (text : String) : List UInt8 := text.toByteArray.data.toList

/-- The bytes of a text are its encoding. -/
theorem fromUTF8?_asBytes (text : String) : String.fromUTF8? ⟨⟨asBytes text⟩⟩ = some text :=
  dif_pos text.isValidUTF8

theorem fromUtf8_asBytes (text : String) : fromUtf8 (asBytes text) = some text.toList := by
  rw [fromUtf8, fromUTF8?_asBytes, Option.map_some]

/-- The bytes that decode to a text are its encoding. -/
theorem fromUtf8_eq_some_iff {bytes : List UInt8} {text : List Char} :
    fromUtf8 bytes = some text ↔ asBytes (String.ofList text) = bytes := by
  constructor
  · intro h
    obtain ⟨string, hstring, rfl⟩ := Option.map_eq_some_iff.mp h
    rw [String.ofList_toList]
    unfold String.fromUTF8? at hstring
    split at hstring
    · cases hstring
      rfl
    · cases hstring
  · rintro rfl
    rw [fromUtf8_asBytes, String.toList_ofList]

theorem asBytes_ofList_append (left right : List Char) :
    asBytes (String.ofList (left ++ right)) =
      asBytes (String.ofList left) ++ asBytes (String.ofList right) := by
  rw [asBytes, String.ofList_append, String.toByteArray_append, ByteArray.data_append,
    Array.toList_append, asBytes, asBytes]

/-- The characters of ASCII are one byte each. -/
theorem asBytes_of_ascii {text : List Char} (h : ∀ char ∈ text, char.toNat < 128) :
    asBytes (String.ofList text) = text.map fun char => UInt8.ofNat char.toNat := by
  induction text with
  | nil => rfl
  | cons char text ih =>
      obtain ⟨hchar, htext⟩ := List.forall_mem_cons.mp h
      have hsize : char.utf8Size = 1 := by
        rw [Char.utf8Size_eq_one_iff, UInt32.le_iff_toNat_le]
        exact Nat.le_of_lt_succ hchar
      have hbyte : asBytes (String.ofList [char]) = [UInt8.ofNat char.toNat] := by
        rw [asBytes, String.toByteArray_ofList, List.utf8Encode_singleton,
          String.utf8EncodeChar_eq_singleton hsize]
        rfl
      rw [← List.singleton_append, asBytes_ofList_append, hbyte, ih htext]
      rfl

/-- Behind a text, bytes decode as they do alone. -/
theorem fromUtf8_append {left : List UInt8} {text : List Char} (h : fromUtf8 left = some text)
    (right : List UInt8) : fromUtf8 (left ++ right) = (fromUtf8 right).map (text ++ ·) := by
  have hleft := fromUtf8_eq_some_iff.mp h
  ext whole
  rw [Option.map_eq_some_iff, fromUtf8_eq_some_iff]
  constructor
  · intro hwhole
    have hbytes : text.utf8Encode ++ ⟨⟨right⟩⟩ = whole.utf8Encode := by
      apply ByteArray.ext
      apply Array.ext'
      have hleft' : text.utf8Encode.data.toList = left := by
        rw [← hleft, asBytes, String.toByteArray_ofList]
      have hwhole' : whole.utf8Encode.data.toList = left ++ right := by
        rw [← hwhole, asBytes, String.toByteArray_ofList]
      rw [ByteArray.data_append, Array.toList_append, hleft', hwhole']
    obtain ⟨rest, rfl⟩ := List.isPrefix_of_utf8Encode_append_eq_utf8Encode _ hbytes
    rw [asBytes_ofList_append, hleft] at hwhole
    exact ⟨rest, fromUtf8_eq_some_iff.mpr (List.append_cancel_left hwhole), rfl⟩
  · rintro ⟨rest, hrest, rfl⟩
    rw [asBytes_ofList_append, hleft, fromUtf8_eq_some_iff.mp hrest]

/-- Every character takes a byte at least. -/
theorem length_le_asBytes (text : List Char) :
    text.length ≤ (asBytes (String.ofList text)).length := by
  induction text with
  | nil => exact Nat.zero_le _
  | cons char text ih =>
      have hchar : 0 < (asBytes (String.ofList [char])).length := by
        have hsize : (asBytes (String.ofList [char])).length = char.utf8Size := by
          rw [asBytes, String.toByteArray_ofList]
          simp [List.utf8Encode]
        rw [hsize]
        exact Char.utf8Size_pos char
      rw [← List.singleton_append, asBytes_ofList_append, List.length_append, List.length_append,
        List.length_singleton]
      omega

/-- `text.lines()`: lines end at a line feed or at a carriage return and a line
feed; the last line may do without. -/
def lines : List Char → List (List Char)
  | [] => []
  | char :: rest =>
      if char = '\n' then [] :: lines rest
      else if char = '\r' ∧ rest.head? = some '\n' then lines rest
      else
        match lines rest with
        | [] => [[char]]
        | line :: more => (char :: line) :: more

/-- `text.splitn(count, separator)`: at most `count` parts, the last unsplit. -/
def splitn : (count : Nat) → (separator : Char) → List Char → List (List Char)
  | 0, _, _ => []
  | 1, _, text => [text]
  | count + 2, separator, text =>
      let (part, rest) := text.span (· != separator)
      match rest with
      | [] => [part]
      | _ :: rest => part :: splitn (count + 1) separator rest

/-- `text.strip_prefix(start)`. -/
def stripPrefix (start text : List Char) : Option (List Char) :=
  if start.isPrefixOf text then some (text.drop start.length) else none

/-- `char::is_whitespace`: the Unicode property `White_Space`. -/
def isWhitespace (char : Char) : Bool :=
  let code := char.toNat
  (0x09 ≤ code && code ≤ 0x0D) || code = 0x20 || code = 0x85 || code = 0xA0 || code = 0x1680 ||
    (0x2000 ≤ code && code ≤ 0x200A) || code = 0x2028 || code = 0x2029 || code = 0x202F ||
    code = 0x205F || code = 0x3000

/-- `text.trim()`. -/
def trim (text : List Char) : List Char :=
  ((text.dropWhile isWhitespace).reverse.dropWhile isWhitespace).reverse

/-- `text.to_ascii_lowercase()`. -/
def toAsciiLowercase (text : List Char) : List Char := text.map Char.toLower

/-- `eq_ignore_ascii_case`. -/
def eqIgnoreAsciiCase (left right : List Char) : Bool :=
  toAsciiLowercase left == toAsciiLowercase right

/-- Value of a decimal digit. -/
def digitValue (char : Char) : Option Nat :=
  if '0' ≤ char ∧ char ≤ '9' then some (char.toNat - '0'.toNat) else none

/-- Value of a hexadecimal digit. -/
def hexValue (char : Char) : Option Nat :=
  let code := char.toNat
  if '0'.toNat ≤ code ∧ code ≤ '9'.toNat then some (code - '0'.toNat)
  else if 'a'.toNat ≤ code ∧ code ≤ 'f'.toNat then some (code - 'a'.toNat + 10)
  else if 'A'.toNat ≤ code ∧ code ≤ 'F'.toNat then some (code - 'A'.toNat + 10)
  else none

/-- Read decimal digits after `value`; `none` on any other character. -/
def readDigits : (value : Nat) → List Char → Option Nat
  | value, [] => some value
  | value, char :: rest => (digitValue char).bind fun digit => readDigits (10 * value + digit) rest

/-- Read hexadecimal digits after `value`; `none` on any other character. -/
def readHexDigits : (value : Nat) → List Char → Option Nat
  | value, [] => some value
  | value, char :: rest =>
      (hexValue char).bind fun digit => readHexDigits (16 * value + digit) rest

/-- `text.parse::<u16>().ok()`: decimal digits, at least one, after an optional
plus sign, of a value that fits. -/
def parseU16 (text : List Char) : Option UInt16 :=
  let digits := if text.head? = some '+' then text.tail else text
  if digits = [] then none
  else
    match readDigits 0 digits with
    | some value => if value < 2 ^ 16 then some (.ofNat value) else none
    | none => none

/-- Decimal digits are read as their value. -/
theorem readDigits_of_isDigit {text : List Char} (h : ∀ char ∈ text, char.isDigit = true)
    (value : Nat) : readDigits value text = some (Nat.ofDigitChars 10 text value) := by
  induction text generalizing value with
  | nil => rw [readDigits, Nat.ofDigitChars_nil]
  | cons char rest ih =>
      rw [List.forall_mem_cons] at h
      have hchar : '0' ≤ char ∧ char ≤ '9' := Char.isDigit_iff_toNat.mp h.1
      rw [readDigits, digitValue, if_pos hchar, Option.bind_some, ih h.2, Nat.ofDigitChars_cons]

/-- `number.to_string()`. -/
def decimal (number : Nat) : List Char := Nat.toDigits 10 number

theorem isDigit_of_mem_toDigits {number : Nat} {char : Char} (h : char ∈ Nat.toDigits 10 number) :
    char.isDigit = true := Nat.isDigit_of_mem_toDigits (by decide) (by decide) h

theorem readDigits_toDigits (number : Nat) :
    readDigits 0 (Nat.toDigits 10 number) = some number := by
  rw [readDigits_of_isDigit fun _ => isDigit_of_mem_toDigits,
    Nat.ofDigitChars_toDigits (by decide) (by decide)]

theorem decimal_injective : Function.Injective decimal := fun left right h =>
  Option.some.inj ((readDigits_toDigits left).symm.trans
    ((congrArg (readDigits 0) h).trans (readDigits_toDigits right)))

/-- A number that fits is read back from its digits. -/
theorem parseU16_toDigits {number : Nat} (h : number < 2 ^ 16) :
    parseU16 (Nat.toDigits 10 number) = some (.ofNat number) := by
  have hdigits : ∀ char ∈ Nat.toDigits 10 number, char.isDigit = true :=
    fun _ => Nat.isDigit_of_mem_toDigits (by decide) (by decide)
  have hplus : (Nat.toDigits 10 number).head? ≠ some '+' := fun hhead =>
    absurd (hdigits '+' (List.mem_of_head? hhead)) (by decide)
  rw [parseU16, if_neg hplus, if_neg Nat.toDigits_ne_nil, readDigits_of_isDigit hdigits,
    Nat.ofDigitChars_toDigits (by decide) (by decide)]
  exact if_pos h

/-! ## Hexadecimal digits -/

theorem hexValue_digitChar {digit : Nat} (h : digit < 16) :
    hexValue (Nat.digitChar digit) = some digit := by
  have hall : ∀ digit < 16, hexValue (Nat.digitChar digit) = some digit := by decide
  exact hall digit h

theorem readHexDigits_append (value : Nat) (left right : List Char) :
    readHexDigits value (left ++ right) =
      (readHexDigits value left).bind fun value => readHexDigits value right := by
  induction left generalizing value with
  | nil => rfl
  | cons char rest ih =>
      rw [List.cons_append, readHexDigits, readHexDigits]
      cases hexValue char with
      | none => rfl
      | some digit => exact ih _

/-- A number is read back from its hexadecimal digits, in lower or upper case. -/
theorem readHexDigits_map_toDigits {write : Char → Char}
    (hwrite : ∀ digit < 16, hexValue (write (Nat.digitChar digit)) = some digit) (number : Nat) :
    readHexDigits 0 ((Nat.toDigits 16 number).map write) = some number := by
  have hdigit : ∀ value digit : Nat, digit < 16 →
      readHexDigits value [write (Nat.digitChar digit)] = some (16 * value + digit) := by
    intro value digit h
    rw [readHexDigits, hwrite digit h, Option.bind_some, readHexDigits]
  induction number using Nat.strongRecOn with
  | ind number ih =>
      rcases Nat.lt_or_ge number 16 with hlt | hge
      · rw [Nat.toDigits_of_lt_base hlt, List.map_singleton, hdigit 0 number hlt, Nat.mul_zero,
          Nat.zero_add]
      · rw [Nat.toDigits_of_base_le (by decide) hge, List.map_append, readHexDigits_append,
          ih (number / 16) (by omega), Option.bind_some, List.map_singleton,
          hdigit _ _ (Nat.mod_lt _ (by decide)), Nat.div_add_mod]

theorem readHexDigits_toDigits (number : Nat) :
    readHexDigits 0 (Nat.toDigits 16 number) = some number := by
  have hread := @readHexDigits_map_toDigits id (fun _ => hexValue_digitChar) number
  rwa [List.map_id] at hread

/-- Every hexadecimal digit of a number has a value. -/
theorem hexValue_isSome_of_mem_toDigits {number : Nat} {char : Char}
    (h : char ∈ Nat.toDigits 16 number) : (hexValue char).isSome = true := by
  induction number using Nat.strongRecOn with
  | ind number ih =>
      rcases Nat.lt_or_ge number 16 with hlt | hge
      · rw [Nat.toDigits_of_lt_base hlt, List.mem_singleton] at h
        rw [h, hexValue_digitChar hlt]
        rfl
      · rw [Nat.toDigits_of_base_le (by decide) hge, List.mem_append, List.mem_singleton] at h
        rcases h with h | rfl
        · exact ih (number / 16) (by omega) h
        · rw [hexValue_digitChar (Nat.mod_lt _ (by decide))]
          rfl

/-- Digits behind so many zeros that they fill the width. -/
def zeroPadded (width : Nat) (digits : List Char) : List Char :=
  List.replicate (width - digits.length) '0' ++ digits

theorem readHexDigits_zeroPadded (width : Nat) (digits : List Char) :
    readHexDigits 0 (zeroPadded width digits) = readHexDigits 0 digits := by
  have hzeros : ∀ count, readHexDigits 0 (List.replicate count '0') = some 0 := by
    intro count
    induction count with
    | zero => rfl
    | succ count ih => exact ih
  rw [zeroPadded, readHexDigits_append, hzeros, Option.bind_some]

theorem length_zeroPadded {width : Nat} {digits : List Char} (h : digits.length ≤ width) :
    (zeroPadded width digits).length = width := by
  rw [zeroPadded, List.length_append, List.length_replicate, Nat.sub_add_cancel h]

example : lines "GET / HTTP/1.1\r\nHost: a\n\nx\r".toList =
    ["GET / HTTP/1.1".toList, "Host: a".toList, [], "x\r".toList] := by
  decide

end GeSensor.Foundation
