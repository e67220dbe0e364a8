/-
  Foundation/Pcap.lean --- the little-endian PCAP file format.

  A file is a global header of 24 bytes and records up to the end of the file, each one a
  header of 16 bytes followed by as many bytes as its `incl_len` field says.  Nothing else
  separates the records, so a reader finds the next one only where the last one ended.

  Step readers take a value off the front of the bytes and hand back the rest; what an
  encoder wrote is read back whatever follows it.
-/
import GeSensor.Foundation.Checked

set_option autoImplicit false

namespace GeSensor.Foundation

/-- A step reader: a value from the front of the bytes, and the rest. -/
abbrev StepReader (α : Type) : Type := Bytes → Option (α × Bytes)

/-- Read values until no byte is left; every value takes at least one byte, so as many turns
as there are bytes are enough. -/
def readAll {α : Type} (read : StepReader α) : (turns : Nat) → Bytes → Option (List α)
  | _, [] => some []
  | 0, _ :: _ => none
  | turns + 1, bytes => do
      let (value, rest) ← read bytes
      let values ← readAll read turns rest
      return value :: values

/-- A reader that reads back what `emit` wrote reads back a sequence of it. -/
theorem readAll_flatMap {α : Type} {read : StepReader α} {emit : α → Bytes}
    (hread : ∀ value rest, read (emit value ++ rest) = some (value, rest))
    (hemit : ∀ value, emit value ≠ []) (values : List α) {turns : Nat}
    (hturns : values.length ≤ turns) : readAll read turns (values.flatMap emit) = some values := by
  induction values generalizing turns with
  | nil => rw [List.flatMap_nil, readAll]
  | cons value rest ih =>
      obtain ⟨left, rfl⟩ : ∃ left, turns = left + 1 :=
        Nat.exists_eq_succ_of_ne_zero (by rw [List.length_cons] at hturns; omega)
      obtain ⟨byte, bytes, hbytes⟩ :=
        List.exists_cons_of_ne_nil (List.append_ne_nil_of_left_ne_nil (hemit value)
          (rest.flatMap emit))
      rw [List.flatMap_cons, hbytes, readAll, ← hbytes, hread]
      · simp only [Option.bind_eq_bind, Option.bind_some]
        rw [ih (Nat.le_of_succ_le_succ hturns)]
        rfl
      · exact fun hnil => List.cons_ne_nil byte bytes hnil

/-! ## Words -/

/-- `u16::from_le_bytes` at the front. -/
def readLe16 : StepReader UInt16
  | b0 :: b1 :: rest => some (be16 b1 b0, rest)
  | _ => none

/-- `u32::from_le_bytes` at the front. -/
def readLe32 : StepReader UInt32
  | b0 :: b1 :: b2 :: b3 :: rest => some (be32 b3 b2 b1 b0, rest)
  | _ => none

theorem readLe32_le32Bytes (word : UInt32) (rest : Bytes) :
    readLe32 (le32Bytes word ++ rest) = some (word, rest) := by
  have hword := word.toNat_lt
  have hvalue : be32 (.ofNat (word.toNat / 2 ^ 24)) (.ofNat (word.toNat / 2 ^ 16))
      (.ofNat (word.toNat / 2 ^ 8)) (.ofNat word.toNat) = word := by
    apply UInt32.toNat_inj.mp
    simp only [be32, UInt32.toNat_ofNat', UInt8.toNat_ofNat']
    omega
  simp only [le32Bytes, List.cons_append, List.nil_append, readLe32, hvalue]

/-! ## Records -/

/-- A record of a capture file; it holds as many bytes as its header says. -/
structure PcapRecord where
  tsSec : UInt32
  tsUsec : UInt32
  inclLen : UInt32
  origLen : UInt32
  data : Bytes
  length_data : data.length = inclLen.toNat

def PcapRecord.encode (record : PcapRecord) : Bytes :=
  le32Bytes record.tsSec ++ (le32Bytes record.tsUsec ++ (le32Bytes record.inclLen ++
    (le32Bytes record.origLen ++ record.data)))

theorem PcapRecord.encode_ne_nil (record : PcapRecord) : record.encode ≠ [] := by
  rw [encode, le32Bytes]
  exact List.cons_ne_nil _ _

/-- The record at the front. -/
def readRecord : StepReader PcapRecord := fun bytes => do
  let (tsSec, bytes) ← readLe32 bytes
  let (tsUsec, bytes) ← readLe32 bytes
  let (inclLen, bytes) ← readLe32 bytes
  let (origLen, bytes) ← readLe32 bytes
  if h : inclLen.toNat ≤ bytes.length then
    some
      ({ tsSec := tsSec, tsUsec := tsUsec, inclLen := inclLen, origLen := origLen
         data := bytes.take inclLen.toNat
         length_data := List.length_take_of_le h }, bytes.drop inclLen.toNat)
  else none

theorem readRecord_encode (record : PcapRecord) (rest : Bytes) :
    readRecord (record.encode ++ rest) = some (record, rest) := by
  have hfits : record.inclLen.toNat ≤ (record.data ++ rest).length := by
    rw [List.length_append, ← record.length_data]
    exact Nat.le_add_right _ _
  have htake : (record.data ++ rest).take record.inclLen.toNat = record.data :=
    List.take_left' record.length_data
  have hdrop : (record.data ++ rest).drop record.inclLen.toNat = rest :=
    List.drop_left' record.length_data
  -- Field by field: the kernel does not get through one simp call over all four.
  unfold readRecord
  rw [PcapRecord.encode, List.append_assoc, List.append_assoc, List.append_assoc,
    List.append_assoc, readLe32_le32Bytes, Option.bind_eq_bind, Option.bind_some]
  dsimp only
  rw [readLe32_le32Bytes, Option.bind_some]
  dsimp only
  rw [readLe32_le32Bytes, Option.bind_some]
  dsimp only
  rw [readLe32_le32Bytes, Option.bind_some]
  dsimp only
  rw [dif_pos hfits]
  simp only [htake, hdrop]

/-! ## Files -/

/-- The global header behind the magic number. -/
structure PcapHeader where
  versionMajor : UInt16
  versionMinor : UInt16
  thiszone : UInt32
  sigfigs : UInt32
  snapLen : UInt32
  network : UInt32
  deriving DecidableEq, Repr

/-- The magic number of a file with microseconds. -/
def pcapMagic : UInt32 := 0xA1B2C3D4

/-- The global header at the front, if the magic number says that the file is little-endian. -/
def readHeader : StepReader PcapHeader := fun bytes => do
  let (magic, bytes) ← readLe32 bytes
  let (versionMajor, bytes) ← readLe16 bytes
  let (versionMinor, bytes) ← readLe16 bytes
  let (thiszone, bytes) ← readLe32 bytes
  let (sigfigs, bytes) ← readLe32 bytes
  let (snapLen, bytes) ← readLe32 bytes
  let (network, bytes) ← readLe32 bytes
  if magic = pcapMagic then
    some (⟨versionMajor, versionMinor, thiszone, sigfigs, snapLen, network⟩, bytes)
  else none

/-- A whole file: the header, and all records up to the last byte. -/
def readPcap (file : Bytes) : Option (PcapHeader × List PcapRecord) := do
  let (header, bytes) ← readHeader file
  let records ← readAll readRecord bytes.length bytes
  return (header, records)

theorem length_le_flatMap_encode (records : List PcapRecord) :
    records.length ≤ (records.flatMap PcapRecord.encode).length := by
  induction records with
  | nil => exact Nat.le_refl 0
  | cons record rest ih =>
      have hone := List.length_pos_iff.mpr record.encode_ne_nil
      rw [List.flatMap_cons, List.length_append, List.length_cons]
      omega

/-- A header that can be read, and encoded records behind it. -/
theorem readPcap_encode {front : Bytes} {header : PcapHeader}
    (hheader : ∀ rest, readHeader (front ++ rest) = some (header, rest))
    (records : List PcapRecord) :
    readPcap (front ++ records.flatMap PcapRecord.encode) = some (header, records) := by
  have hrecords := readAll_flatMap readRecord_encode PcapRecord.encode_ne_nil records
    (length_le_flatMap_encode records)
  simp only [readPcap, hheader, Option.bind_eq_bind, Option.bind_some, hrecords]
  rfl

end GeSensor.Foundation
