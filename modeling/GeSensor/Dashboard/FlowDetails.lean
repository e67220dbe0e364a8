/-
  Dashboard/FlowDetails.lean --- the answer of `GET /api/flows`.

  `flow_details` of `src/utils/dashboard.rs` makes a row of every record of the tracker and
  sorts the rows by their score, the highest first.  The features of a flow and its score
  are floating point numbers: what computes them, compares them and calls a score anomalous
  is given from outside.  Times are kept as durations, and the average of them is left out.
-/
import GeSensor.Flow.PacketCounts
import GeSensor.Net.AddrDisplay

set_option autoImplicit false

namespace GeSensor.Dashboard

open GeSensor.Flow
open GeSensor.Foundation

/-- The features of a flow that a row shows, and the score made of them. -/
structure FlowScores (F : Type) where
  bytesRatio : F
  dnsEntropy : F
  beaconingScore : F
  connRate : F
  offHoursPct : F
  mlScore : F

/-- What is computed with floating point numbers. -/
structure Scoring (F : Type) where
  /-- `extract_features`, and the weighted average of some of them -/
  scores : FlowRecord → FlowScores F
  partialCmp : F → F → Option Ordering
  /-- `score > 0.5` -/
  isAnomalous : F → Bool

structure FlowDetailRecord (F : Type) where
  srcIp : List Char
  dstIp : List Char
  srcPort : UInt16
  dstPort : UInt16
  protocol : String
  fwdPackets : UInt64
  revPackets : UInt64
  fwdBytes : UInt64
  revBytes : UInt64
  duration : Duration
  scores : FlowScores F

structure FlowsResponse (F : Type) where
  totalFlows : Nat
  tcpFlows : Nat
  udpFlows : Nat
  anomalous : Nat
  flows : List (FlowDetailRecord F)

def protoName (protocol : UInt8) : String :=
  if protocol = 6 then "TCP"
  else if protocol = 17 then "UDP"
  else if protocol = 1 then "ICMP"
  else "OTHER"

section

variable {F : Type} (scoring : Scoring F) (now : Instant)

/-- The row of a record. -/
def flowDetail (record : FlowRecord) : FlowDetailRecord F where
  srcIp := record.key.srcIp.display
  dstIp := record.key.dstIp.display
  srcPort := record.key.srcPort
  dstPort := record.key.dstPort
  protocol := protoName record.key.protocol
  fwdPackets := record.fwdPackets
  revPackets := record.revPackets
  fwdBytes := record.fwdBytes
  revBytes := record.revBytes
  duration := durationSince now record.firstSeen
  scores := scoring.scores record

/-- `b.ml_score.partial_cmp(&a.ml_score).unwrap_or(Equal)` is not `Greater`. -/
def rowLe (a b : FlowDetailRecord F) : Bool :=
  (scoring.partialCmp b.scores.mlScore a.scores.mlScore).getD .eq != .gt

/-- `flow_details`, with the flows in the order of the map. -/
def flowDetails (tracker : FlowTracker) (order : FlowOrder) : FlowsResponse F :=
  let allFlows := tracker.allFlows order
  let flowRecords := (allFlows.map (flowDetail scoring now)).mergeSort (rowLe scoring)
  { totalFlows := flowRecords.length
    tcpFlows := allFlows.countP fun record => record.key.protocol == 6
    udpFlows := allFlows.countP fun record => record.key.protocol == 17
    anomalous := flowRecords.countP fun row => scoring.isAnomalous row.scores.mlScore
    flows := flowRecords }

end

/-! ## The rows -/

/-- The packets that rows show. -/
def shownPackets {F : Type} (rows : List (FlowDetailRecord F)) : Nat :=
  total (fun row => row.fwdPackets.toNat + row.revPackets.toNat) rows

section

variable {F : Type} {scoring : Scoring F} {now : Instant} {tracker : FlowTracker}
  {order : FlowOrder}

/-- Each live flow has one row. -/
theorem flows_perm : (flowDetails scoring now tracker order).flows.Perm
    ((tracker.allFlows order).map (flowDetail scoring now)) := List.mergeSort_perm _ _

theorem totalFlows_eq : (flowDetails scoring now tracker order).totalFlows =
    tracker.activeCount := by
  have hlength : (tracker.allFlows order).length = tracker.activeCount := by
    rw [FlowTracker.allFlows, List.length_map, (order.perm _).length_eq]
    rfl
  rw [flowDetails, List.length_mergeSort, List.length_map, hlength]

theorem shownPackets_eq : shownPackets (flowDetails scoring now tracker order).flows =
    tracker.livePackets := by
  rw [shownPackets, total_perm _ flows_perm, total, List.map_map, FlowTracker.allFlows,
    List.map_map]
  exact total_perm (fun entry => entry.2.packets) (order.perm _)

/-- The counts at the top of the page are those of the rows. -/
theorem counts_eq :
    (flowDetails scoring now tracker order).tcpFlows =
        (flowDetails scoring now tracker order).flows.countP (fun row => row.protocol == "TCP") ∧
      (flowDetails scoring now tracker order).udpFlows =
        (flowDetails scoring now tracker order).flows.countP fun row => row.protocol == "UDP" := by
  have htcp : ∀ protocol, (protoName protocol == "TCP") = (protocol == 6) := by
    intro protocol
    unfold protoName
    split
    · simp_all
    · split
      · simp_all
      · split <;> simp_all
  have hudp : ∀ protocol, (protoName protocol == "UDP") = (protocol == 17) := by
    intro protocol
    unfold protoName
    split
    · simp_all
    · split
      · simp_all
      · split <;> simp_all
  rw [flows_perm.countP_eq, flows_perm.countP_eq, List.countP_map, List.countP_map, flowDetails]
  refine ⟨List.countP_congr fun record _ => ?_, List.countP_congr fun record _ => ?_⟩
  · exact (Bool.eq_iff_iff.mp (htcp record.key.protocol)).symm
  · exact (Bool.eq_iff_iff.mp (hudp record.key.protocol)).symm

/-- The protocols with a name of their own are told by it. -/
theorem protoName_inj {left right : UInt8} (h : protoName left = protoName right)
    (hnamed : protoName left ≠ "OTHER") : left = right := by
  unfold protoName at h hnamed
  split_ifs at h hnamed <;> simp_all

/-- The flow that a row names: two endpoints and a protocol. -/
def FlowDetailRecord.named (row : FlowDetailRecord F) :
    List Char × List Char × UInt16 × UInt16 × String :=
  (row.srcIp, row.dstIp, row.srcPort, row.dstPort, row.protocol)

theorem key_eq_of_named {left right : FlowRecord}
    (h : (flowDetail scoring now left).named = (flowDetail scoring now right).named)
    (hnamed : protoName left.key.protocol ≠ "OTHER") : left.key = right.key := by
  simp only [FlowDetailRecord.named, flowDetail, Prod.mk.injEq] at h
  obtain ⟨hsrc, hdst, hsport, hdport, hproto⟩ := h
  have hprotocol := protoName_inj hproto hnamed
  cases hleft : left.key
  cases hright : right.key
  rw [hleft, hright] at hsrc hdst hsport hdport hprotocol
  rw [FlowKey.mk.injEq]
  exact ⟨Net.display_injective hsrc, Net.display_injective hdst, hsport, hdport, hprotocol⟩

theorem keys_pairwise (hkeyed : FlowTracker.KeyedByRecord tracker.flows) :
    (tracker.allFlows order).Pairwise fun left right => left.key ≠ right.key := by
  have hkeys : (order.visit tracker.flows.entries).Pairwise fun left right =>
      left.1 ≠ right.1 :=
    List.pairwise_map.mp (((order.perm _).map Sigma.fst).nodup_iff.mpr tracker.flows.nodupKeys)
  rw [FlowTracker.allFlows, List.pairwise_map]
  refine hkeys.imp_of_mem fun hleft hright hne => ?_
  rw [hkeyed.key_eq (order.mem_visit.mp hleft), hkeyed.key_eq (order.mem_visit.mp hright)]
  exact hne

/-- No two rows name one flow, but for protocols without a name of their own. -/
theorem rows_pairwise (hkeyed : FlowTracker.KeyedByRecord tracker.flows) :
    (flowDetails scoring now tracker order).flows.Pairwise fun left right =>
      left.named = right.named → left.protocol = "OTHER" := by
  have hsymm : ∀ {left right : FlowDetailRecord F},
      (left.named = right.named → left.protocol = "OTHER") →
        (right.named = left.named → right.protocol = "OTHER") := by
    intro left right h heq
    have hprotocol : right.protocol = left.protocol := congrArg (fun named => named.2.2.2.2) heq
    rw [hprotocol]
    exact h heq.symm
  rw [flows_perm.pairwise_iff hsymm, List.pairwise_map]
  refine (keys_pairwise hkeyed).imp fun hne heq => ?_
  by_contra hnamed
  exact hne (key_eq_of_named heq hnamed)

end

end GeSensor.Dashboard
