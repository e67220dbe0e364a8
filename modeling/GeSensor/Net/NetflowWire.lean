/-
  Net/NetflowWire.lean --- NetFlow v5 export packets on the wire, as the protocol lays them
  out.

  A packet is a header of 24 bytes and records of 48 bytes each.  The count of the header is
  a claim of the exporter: it stands beside the records and is not computed from them here.
-/
import GeSensor.Foundation.ByteReads

set_option autoImplicit false

namespace GeSensor.Net

open GeSensor.Foundation

/-- What a version 5 header says besides its version. -/
structure NetflowV5Header where
  count : UInt16
  sysUptime : UInt32
  unixSecs : UInt32
  unixNsecs : UInt32
  flowSequence : UInt32
  engineType : UInt8
  engineId : UInt8
  samplingInterval : UInt16

/-- The 24 bytes of a header. -/
def NetflowV5Header.encode (header : NetflowV5Header) : Bytes :=
  be16Bytes 5 ++ (be16Bytes header.count ++ (be32Bytes header.sysUptime ++
    (be32Bytes header.unixSecs ++ (be32Bytes header.unixNsecs ++
      (be32Bytes header.flowSequence ++ (header.engineType :: header.engineId ::
        be16Bytes header.samplingInterval))))))

theorem NetflowV5Header.length_encode (header : NetflowV5Header) : header.encode.length = 24 :=
  rfl

/-- A record of a flow. -/
structure NetflowV5Record where
  srcAddr : Vector UInt8 4
  dstAddr : Vector UInt8 4
  nextHop : Vector UInt8 4
  input : UInt16
  output : UInt16
  packets : UInt32
  octets : UInt32
  first : UInt32
  last : UInt32
  srcPort : UInt16
  dstPort : UInt16
  pad1 : UInt8
  tcpFlags : UInt8
  protocol : UInt8
  tos : UInt8
  srcAs : UInt16
  dstAs : UInt16
  srcMask : UInt8
  dstMask : UInt8
  pad2 : UInt16

/-- The 48 bytes of a record. -/
def NetflowV5Record.encode (record : NetflowV5Record) : Bytes :=
  record.srcAddr.toList ++ (record.dstAddr.toList ++ (record.nextHop.toList ++
    (be16Bytes record.input ++ (be16Bytes record.output ++ (be32Bytes record.packets ++
      (be32Bytes record.octets ++ (be32Bytes record.first ++ (be32Bytes record.last ++
        (be16Bytes record.srcPort ++ (be16Bytes record.dstPort ++
          (record.pad1 :: record.tcpFlags :: record.protocol :: record.tos ::
            (be16Bytes record.srcAs ++ (be16Bytes record.dstAs ++
              (record.srcMask :: record.dstMask :: be16Bytes record.pad2))))))))))))))

theorem NetflowV5Record.length_encode (record : NetflowV5Record) : record.encode.length = 48 := by
  simp only [encode, List.length_append, Vector.length_toList, be16Bytes, be32Bytes,
    List.length_cons, List.length_nil]

/-- A packet with these records. -/
def encodeNetflowV5 (header : NetflowV5Header) (records : List NetflowV5Record) : Bytes :=
  header.encode ++ records.flatMap NetflowV5Record.encode

theorem length_encodeNetflowV5 (header : NetflowV5Header) (records : List NetflowV5Record) :
    (encodeNetflowV5 header records).length = 24 + records.length * 48 := by
  rw [encodeNetflowV5, List.length_append, NetflowV5Header.length_encode,
    length_flatMap_of_width NetflowV5Record.length_encode]

/-- The number of records that end within the first `kept` bytes of the packet. -/
def wholeRecords (header : NetflowV5Header) (records : List NetflowV5Record) (kept : Nat) : Nat :=
  (List.range records.length).countP fun i =>
    (encodeNetflowV5 header (records.take (i + 1))).length ≤ kept

/-- Counting the numbers below a bound. -/
theorem countP_range_lt (size bound : Nat) :
    (List.range size).countP (fun i => i < bound) = min size bound := by
  induction size with
  | zero => rw [List.range_zero, List.countP_nil, Nat.zero_min]
  | succ size ih =>
      rw [List.range_succ, List.countP_append, ih, List.countP_singleton]
      split
      next h =>
        have hlt : size < bound := of_decide_eq_true h
        omega
      next h =>
        have hnot : ¬ size < bound := fun hlt => h (decide_eq_true hlt)
        omega

/-- The records have one width, so those that end within a prefix are the first ones. -/
theorem wholeRecords_eq_min (header : NetflowV5Header) (records : List NetflowV5Record)
    (kept : Nat) : wholeRecords header records kept = min records.length ((kept - 24) / 48) := by
  rw [wholeRecords, ← countP_range_lt]
  apply List.countP_congr
  intro i hi
  have hlength : (records.take (i + 1)).length = i + 1 :=
    List.length_take_of_le (List.mem_range.mp hi)
  rw [length_encodeNetflowV5, hlength, decide_eq_true_eq, decide_eq_true_eq]
  omega

/-- The `i`-th record ends within the prefix exactly when its 48 bytes do. -/
theorem lt_wholeRecords_iff {header : NetflowV5Header} {records : List NetflowV5Record}
    {kept i : Nat} : i < wholeRecords header records kept ↔
      24 + i * 48 + 48 ≤ ((encodeNetflowV5 header records).take kept).length := by
  rw [wholeRecords_eq_min, List.length_take, length_encodeNetflowV5]
  omega

/-- A record that ends within the prefix stands at its place there. -/
theorem drop_take_encodeNetflowV5 {header : NetflowV5Header} {records : List NetflowV5Record}
    {kept i : Nat} (h : i < wholeRecords header records kept) :
    ∃ (hin : i < records.length) (rest : Bytes),
      ((encodeNetflowV5 header records).take kept).drop (24 + i * 48) =
        records[i].encode ++ rest := by
  have hbound := h
  rw [wholeRecords_eq_min] at hbound
  have hin : i < records.length := by omega
  have hkept : 48 ≤ kept - (24 + i * 48) := by omega
  refine ⟨hin, ((records.drop (i + 1)).flatMap NetflowV5Record.encode).take
    (kept - (24 + i * 48) - 48), ?_⟩
  have hdrop : (encodeNetflowV5 header records).drop (24 + i * 48) =
      (records.drop i).flatMap NetflowV5Record.encode := by
    rw [encodeNetflowV5, ← List.drop_drop, List.drop_left' header.length_encode,
      drop_flatMap_of_width NetflowV5Record.length_encode]
  rw [List.drop_take, hdrop, List.drop_eq_getElem_cons hin, List.flatMap_cons,
    List.take_append, NetflowV5Record.length_encode, List.take_of_length_le]
  rwa [NetflowV5Record.length_encode]

end GeSensor.Net
