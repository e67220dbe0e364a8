/-
  Inputs/Netflow.lean --- `parse_netflow_v5` reads back what an exporter wrote.

  The loop of the parser ends at the count of the header or at the first record that is cut
  off, whichever comes first.  The records have one width, so both ends are numbers of
  records, and every record in front of them is read where the exporter wrote it.
-/
import GeSensor.Net.IpAddr
import GeSensor.Net.NetflowWire

set_option autoImplicit false

namespace GeSensor.Inputs

open GeSensor.Foundation GeSensor.Net

/-- `NetFlowRecord`. -/
structure NetFlowRecord where
  version : UInt16
  srcIp : IpAddr
  dstIp : IpAddr
  srcPort : UInt16
  dstPort : UInt16
  protocol : UInt8
  bytes : UInt64
  packets : UInt64
  firstSwitched : UInt32
  lastSwitched : UInt32
  tcpFlags : UInt8
  timestamp : String
  deriving DecidableEq, Repr

/-- The body of the loop in `parse_netflow_v5`, for the record at `offset`. -/
def readRecord (now : String) (data : Bytes) (offset : Nat) : Checked NetFlowRecord := do
  let srcIp := IpAddr.newV4 (← index data offset) (← index data (offset + 1))
    (← index data (offset + 2)) (← index data (offset + 3))
  let dstIp := IpAddr.newV4 (← index data (offset + 4)) (← index data (offset + 5))
    (← index data (offset + 6)) (← index data (offset + 7))
  let packets := (← index32 data (offset + 16)).toUInt64
  let bytes := (← index32 data (offset + 20)).toUInt64
  let firstSwitched ← index32 data (offset + 24)
  let lastSwitched ← index32 data (offset + 28)
  let srcPort ← index16 data (offset + 32)
  let dstPort ← index16 data (offset + 34)
  let tcpFlags ← index data (offset + 37)
  let protocol ← index data (offset + 38)
  return {
    version := 5
    srcIp := srcIp
    dstIp := dstIp
    srcPort := srcPort
    dstPort := dstPort
    protocol := protocol
    bytes := bytes
    packets := packets
    firstSwitched := firstSwitched
    lastSwitched := lastSwitched
    tcpFlags := tcpFlags
    timestamp := now }

/-- `parse_netflow_v5`, where the clock says `now`. -/
def parseNetflowV5 (now : String) (data : Bytes) : Checked (List NetFlowRecord) := do
  if data.length < 24 then
    return []
  let version ← index16 data 0
  if version ≠ 5 then
    return []
  let count := (← index16 data 2).toNat
  collectUntil (fun i => data.length < 24 + i * 48 + 48)
    (fun i => readRecord now data (24 + i * 48)) count 0

/-! ## What is read -/

/-- The record at `offset`. -/
def recordAt (now : String) (data : Bytes) (offset : Nat) : NetFlowRecord where
  version := 5
  srcIp := .v4 (bytesAt data offset 4)
  dstIp := .v4 (bytesAt data (offset + 4) 4)
  srcPort := be16At data (offset + 32)
  dstPort := be16At data (offset + 34)
  protocol := byteAt data (offset + 38)
  bytes := (be32At data (offset + 20)).toUInt64
  packets := (be32At data (offset + 16)).toUInt64
  firstSwitched := be32At data (offset + 24)
  lastSwitched := be32At data (offset + 28)
  tcpFlags := byteAt data (offset + 37)
  timestamp := now

/-- Every index of the loop body is inside a record that is. -/
theorem readRecord_eq_ok (now : String) {data : Bytes} {offset : Nat}
    (h : offset + 48 ≤ data.length) :
    readRecord now data offset = .ok (recordAt now data offset) := by
  simp (disch := omega) only [readRecord, index_eq_byteAt, index16_eq_be16At, index32_eq_be32At,
    ok_bind, pure_eq_ok]
  rfl

/-- The parser returns a record for each turn before the nearer end of its loop. -/
theorem parseNetflowV5_eq_ok (now : String) {data : Bytes} (hlength : 24 ≤ data.length)
    (hversion : be16At data 0 = 5) {whole : Nat}
    (hwhole : ∀ i, i < whole ↔ 24 + i * 48 + 48 ≤ data.length) :
    parseNetflowV5 now data = .ok ((List.range (min (be16At data 2).toNat whole)).map
      fun i => recordAt now data (24 + i * 48)) := by
  have hstop : ∀ i, decide (data.length < 24 + i * 48 + 48) = false ↔ i < whole := fun i => by
    rw [decide_eq_false_iff_not, Nat.not_lt, hwhole]
  have hread : ∀ i, i < whole → readRecord now data (24 + i * 48) =
      .ok (recordAt now data (24 + i * 48)) := fun i hi => readRecord_eq_ok now ((hwhole i).mp hi)
  have hloop := collectUntil_eq_ok hstop hread (be16At data 2).toNat 0
  rw [Nat.sub_zero, ← List.range_eq_range'] at hloop
  rw [parseNetflowV5, if_neg (Nat.not_lt.mpr hlength), index16_eq_be16At (by omega), ok_bind,
    hversion, if_neg (not_not_intro rfl), index16_eq_be16At (by omega), ok_bind, hloop]

/-- The parser never panics. -/
theorem parseNetflowV5_returns (now : String) (data : Bytes) :
    Returns (parseNetflowV5 now data) := by
  by_cases hlength : data.length < 24
  · rw [parseNetflowV5, if_pos hlength]
    exact returns_ok []
  · by_cases hversion : be16At data 0 = 5
    · have hwhole : ∀ i, i < (data.length - 24) / 48 ↔ 24 + i * 48 + 48 ≤ data.length := by
        intro i
        omega
      exact ⟨_, parseNetflowV5_eq_ok now (Nat.le_of_not_lt hlength) hversion hwhole⟩
    · rw [parseNetflowV5, if_neg hlength, index16_eq_be16At (by omega), ok_bind, if_pos hversion]
      exact returns_ok []

/-! ## Round trip -/

/-- What the parser reports of a record. -/
def reported (now : String) (record : NetflowV5Record) : NetFlowRecord where
  version := 5
  srcIp := .v4 record.srcAddr
  dstIp := .v4 record.dstAddr
  srcPort := record.srcPort
  dstPort := record.dstPort
  protocol := record.protocol
  bytes := record.octets.toUInt64
  packets := record.packets.toUInt64
  firstSwitched := record.first
  lastSwitched := record.last
  tcpFlags := record.tcpFlags
  timestamp := now

/-- A record is read field by field from where it stands. -/
theorem recordAt_of_drop (now : String) {data rest : Bytes} {offset : Nat}
    {record : NetflowV5Record} (h : data.drop offset = record.encode ++ rest) :
    recordAt now data offset = reported now record := by
  simp only [NetflowV5Record.encode, List.append_assoc] at h
  have hdst := drop_add_of_drop 4 h (Vector.length_toList ..)
  have hhop := drop_add_of_drop 4 hdst (Vector.length_toList ..)
  have hinput := drop_add_of_drop 4 hhop (Vector.length_toList ..)
  have houtput := drop_add_of_drop 2 hinput rfl
  have hpackets := drop_add_of_drop 2 houtput rfl
  have hoctets := drop_add_of_drop 4 hpackets rfl
  have hfirst := drop_add_of_drop 4 hoctets rfl
  have hlast := drop_add_of_drop 4 hfirst rfl
  have hsrcPort := drop_add_of_drop 4 hlast rfl
  have hdstPort := drop_add_of_drop 2 hsrcPort rfl
  have hpad := drop_add_of_drop 2 hdstPort rfl
  have hflags := drop_succ_of_drop hpad
  have hprotocol := drop_succ_of_drop hflags
  rw [recordAt, reported, bytesAt_of_drop h, bytesAt_of_drop hdst, be16At_of_drop hsrcPort,
    be16At_of_drop hdstPort, byteAt_of_drop hprotocol, be32At_of_drop hoctets,
    be32At_of_drop hpackets, be32At_of_drop hfirst, be32At_of_drop hlast, byteAt_of_drop hflags]

/-- The header is there once the prefix reaches behind it. -/
theorem header_of_take (header : NetflowV5Header) (records : List NetflowV5Record) {kept : Nat}
    (hkept : 24 ≤ kept) :
    be16At ((encodeNetflowV5 header records).take kept) 0 = 5 ∧
      be16At ((encodeNetflowV5 header records).take kept) 2 = header.count := by
  have hagree : AgreeBelow 24 ((encodeNetflowV5 header records).take kept)
      (encodeNetflowV5 header records) := by
    rw [AgreeBelow, List.take_take, Nat.min_eq_left hkept]
  rw [hagree.be16At (by decide), hagree.be16At (by decide)]
  exact ⟨be16_be16Bytes 5, be16_be16Bytes header.count⟩

/-- `parse_netflow_v5` on any prefix of a packet returns, in order, the first records: as many
as the header counts and the prefix holds whole. -/
theorem parseNetflowV5_take_encode (now : String) (header : NetflowV5Header)
    (records : List NetflowV5Record) (kept : Nat) :
    parseNetflowV5 now ((encodeNetflowV5 header records).take kept) =
      .ok ((records.take (min header.count.toNat (wholeRecords header records kept))).map
        (reported now)) := by
  by_cases hkept : 24 ≤ kept
  · obtain ⟨hversion, hcount⟩ := header_of_take header records hkept
    have hlength : 24 ≤ ((encodeNetflowV5 header records).take kept).length := by
      rw [List.length_take, length_encodeNetflowV5]
      omega
    have hsize := wholeRecords_eq_min header records kept
    rw [parseNetflowV5_eq_ok now hlength hversion (fun _ => lt_wholeRecords_iff), hcount]
    congr 1
    apply List.ext_getElem
    · rw [List.length_map, List.length_range, List.length_map, List.length_take]
      omega
    · intro i hi _
      rw [List.length_map, List.length_range] at hi
      have hwhole : i < wholeRecords header records kept := by omega
      obtain ⟨hin, rest, hdrop⟩ := drop_take_encodeNetflowV5 hwhole
      rw [List.getElem_map, List.getElem_range, List.getElem_map, List.getElem_take,
        recordAt_of_drop now hdrop]
  · -- Not even the header is whole.
    have hlength : ((encodeNetflowV5 header records).take kept).length < 24 := by
      rw [List.length_take]
      omega
    have hnone : wholeRecords header records kept = 0 := by
      rw [wholeRecords_eq_min]
      omega
    rw [parseNetflowV5, if_pos hlength, hnone, Nat.min_zero, List.take_zero, List.map_nil,
      pure_eq_ok]

end GeSensor.Inputs
