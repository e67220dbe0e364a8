/-
  Net/DnsWire.lean --- DNS messages on the wire, as the protocol lays them out.

  A name is a sequence of labels, each a length octet and that many bytes, ended by a zero
  octet or by a pointer: two octets with the top bits 11 and an offset of 14 bits.  A length
  octet has the top bits 00, so that labels and pointers can be told apart.
-/
import GeSensor.Foundation.ByteReads
import GeSensor.Foundation.Text

set_option autoImplicit false

namespace GeSensor.Net

open GeSensor.Foundation

/-! ## Names -/

/-- A label: 1 to 63 bytes of UTF-8. -/
structure DnsLabel where
  text : String
  pos : 1 ≤ (asBytes text).length
  short : (asBytes text).length ≤ 63

namespace DnsLabel

def bytes (label : DnsLabel) : Bytes := asBytes label.text

def encode (label : DnsLabel) : Bytes := .ofNat label.bytes.length :: label.bytes

theorem length_encode (label : DnsLabel) : label.encode.length = 1 + label.bytes.length :=
  Nat.add_comm _ _

/-- The length octet. -/
theorem toNat_octet (label : DnsLabel) :
    (UInt8.ofNat label.bytes.length).toNat = label.bytes.length :=
  UInt8.toNat_ofNat_of_lt' (Nat.lt_of_le_of_lt label.short (by decide : 63 < UInt8.size))

theorem octet_ne_zero (label : DnsLabel) : UInt8.ofNat label.bytes.length ≠ 0 := by
  intro hzero
  have hvalue := congrArg UInt8.toNat hzero
  have hpos : 1 ≤ label.bytes.length := label.pos
  rw [label.toNat_octet] at hvalue
  rw [hvalue] at hpos
  exact absurd hpos (by decide)

/-- A length octet is no pointer. -/
theorem octet_not_pointer (label : DnsLabel) :
    ¬ UInt8.ofNat label.bytes.length &&& 0xC0 = 0xC0 := by
  intro h
  have hvalue := congrArg UInt8.toNat h
  have hle : label.bytes.length &&& (0xC0 : UInt8).toNat ≤ label.bytes.length := Nat.and_le_left
  have hshort : label.bytes.length ≤ 63 := label.short
  rw [UInt8.toNat_and, label.toNat_octet] at hvalue
  rw [hvalue] at hle
  exact absurd (Nat.le_trans hle hshort) (by decide)

end DnsLabel

/-- Labels one after the other, without an end. -/
def encodeLabels (labels : List DnsLabel) : Bytes := labels.flatMap DnsLabel.encode

@[simp] theorem encodeLabels_nil : encodeLabels [] = [] := rfl

@[simp] theorem encodeLabels_cons (label : DnsLabel) (rest : List DnsLabel) :
    encodeLabels (label :: rest) = label.encode ++ encodeLabels rest := rfl

theorem encodeLabels_append (labels more : List DnsLabel) :
    encodeLabels (labels ++ more) = encodeLabels labels ++ encodeLabels more :=
  List.flatMap_append

/-- An uncompressed name. -/
def encodeName (labels : List DnsLabel) : Bytes := encodeLabels labels ++ [0]

/-- The text of a name: its labels joined by `.`. -/
def joinLabels (labels : List DnsLabel) : String := ".".intercalate (labels.map DnsLabel.text)

/-- A pointer to an offset below 2^14. -/
def encodePointer (target : Fin (2 ^ 14)) : Bytes :=
  [.ofNat (0xC0 + target / 2 ^ 8), .ofNat (target % 2 ^ 8)]

/-- A name that a message can ask for: 1 to 127 labels, 255 octets at most. -/
structure DnsName where
  labels : List DnsLabel
  pos : 1 ≤ labels.length
  few : labels.length ≤ 127
  short : (encodeName labels).length ≤ 255

/-! ## Messages -/

structure DnsHeader where
  transactionId : UInt16
  flags : UInt16
  questionCount : UInt16
  answerCount : UInt16
  authorityCount : UInt16
  additionalCount : UInt16

/-- The twelve bytes of a header. -/
def DnsHeader.encode (header : DnsHeader) : Bytes :=
  be16Bytes header.transactionId ++ (be16Bytes header.flags ++
    (be16Bytes header.questionCount ++ (be16Bytes header.answerCount ++
      (be16Bytes header.authorityCount ++ be16Bytes header.additionalCount))))

theorem DnsHeader.length_encode (header : DnsHeader) : header.encode.length = 12 := rfl

/-- A message with an uncompressed question name, its type, and whatever follows. -/
def encodeQuestion (header : DnsHeader) (name : DnsName) (queryType : UInt16)
    (trailing : Bytes) : Bytes :=
  header.encode ++ (encodeName name.labels ++ (be16Bytes queryType ++ trailing))

end GeSensor.Net
