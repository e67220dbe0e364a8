/-
  Net/AddrText.lean --- reading IP addresses, after `str::parse::<IpAddr>`.

  An IPv4 address is four decimal octets without leading zeros.  An IPv6 address is
  eight groups of up to four hexadecimal digits; the last two may be written as an IPv4
  address, and `::` stands for one or more groups of zeros.
-/
import GeSensor.Foundation.TextSearch
import GeSensor.Net.IpAddr

set_option autoImplicit false

namespace GeSensor.Net

open GeSensor.Foundation

/-- A decimal octet. -/
def parseOctet (text : List Char) : Option UInt8 :=
  if text = [] ∨ 3 < text.length ∨ (text.head? = some '0' ∧ text ≠ ['0']) then none
  else
    (readDigits 0 text).bind fun value => if value < 2 ^ 8 then some (.ofNat value) else none

/-- So many octets and no more. -/
def octetsOf (count : Nat) (octets : List UInt8) : Option (Vector UInt8 count) :=
  if h : octets.length = count then some ⟨octets.toArray, h⟩ else none

def parseV4 (text : List Char) : Option (Vector UInt8 4) :=
  ((text.splitOn '.').mapM parseOctet).bind (octetsOf 4)

/-- A group of up to four hexadecimal digits, as two octets. -/
def parseGroup (text : List Char) : Option (List UInt8) :=
  if text = [] ∨ 4 < text.length then none
  else (readHexDigits 0 text).map fun value => [.ofNat (value / 2 ^ 8), .ofNat (value % 2 ^ 8)]

/-- Groups, of which the last may be an IPv4 address. -/
def parseGroups : List (List Char) → Option (List UInt8)
  | [] => some []
  | [last] => ((parseV4 last).map Vector.toList).or (parseGroup last)
  | first :: rest =>
      (parseGroup first).bind fun octets => (parseGroups rest).map fun more => octets ++ more

/-- The parts between colons; an empty text has none. -/
def groupTexts (text : List Char) : List (List Char) :=
  if text = [] then [] else text.splitOn ':'

def parseV6 (text : List Char) : Option (Vector UInt8 16) :=
  match text.dropInfix? [':', ':'] with
  | none => (parseGroups (groupTexts text)).bind (octetsOf 16)
  | some (left, right) =>
      (((groupTexts left).mapM parseGroup).map List.flatten).bind fun head =>
        (parseGroups (groupTexts right)).bind fun tail =>
          if head.length + tail.length ≤ 14 then
            octetsOf 16 (head ++ List.replicate (16 - head.length - tail.length) 0 ++ tail)
          else none

/-- `text.parse::<IpAddr>().ok()`. -/
def parseIpAddr (text : List Char) : Option IpAddr :=
  ((parseV4 text).map IpAddr.v4).or ((parseV6 text).map IpAddr.v6)

example : parseIpAddr "192.168.1.100".toList = some (.newV4 192 168 1 100) := by
  decide

end GeSensor.Net
