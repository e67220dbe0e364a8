/-
  Flow/Tracker.lean --- the flow tracker of `src/flow/tracker.rs`.

  A hash map from 5-tuple keys to flow records.  `update` accounts one packet,
  after making room for a new flow; `evict_idle` gives up the flows idle for too
  long.  Both return the records they removed, as closing events.

  `Instant` and `Duration` are nanoseconds; every reading of the clock is an
  argument of the call that makes it, and so is the order in which an iteration
  visits the hash map.
-/
import Mathlib.Algebra.GroupWithZero.Nat
import Mathlib.Data.List.MinMax
import GeSensor.Flow.Key
import GeSensor.Foundation.HashMap

set_option autoImplicit false

namespace GeSensor.Flow

open GeSensor.Foundation
open GeSensor.Net

/-- A reading of the monotonic clock, in nanoseconds. -/
abbrev Instant : Type := Nat

/-- A span of time, in nanoseconds. -/
abbrev Duration : Type := Nat

/-- `now.duration_since(earlier)`, which saturates at zero. -/
def durationSince (now earlier : Instant) : Duration := now - earlier

/-- `if list.len() < bound { list.push(item) }`. -/
def pushBounded {α : Type} (bound : Nat) (list : List α) (item : α) : List α :=
  if list.length < bound then list ++ [item] else list

/-- The arguments of `update`: what the tracker is told about one packet. -/
structure FlowPacket where
  srcIp : IpAddr
  dstIp : IpAddr
  srcPort : UInt16
  dstPort : UInt16
  protocol : UInt8
  packetLen : UInt16
  tcpFlags : UInt8
  dnsQuery : Option String
  deriving DecidableEq, Repr

/-- The normalized key of a packet. -/
def FlowPacket.key (packet : FlowPacket) : FlowKey :=
  FlowKey.normalized packet.srcIp packet.dstIp packet.srcPort packet.dstPort packet.protocol

/-- Record of a tracked flow session. -/
structure FlowRecord where
  key : FlowKey
  firstSeen : Instant
  lastSeen : Instant
  fwdPackets : UInt64
  revPackets : UInt64
  fwdBytes : UInt64
  revBytes : UInt64
  /-- inter-arrival times, bounded -/
  interArrivalTimes : List Duration
  /-- packet sizes, bounded -/
  packetSizes : List UInt16
  /-- TCP flags seen, OR'd together -/
  tcpFlagsUnion : UInt8
  /-- DNS query names associated with this flow -/
  dnsQueries : List String
  deriving DecidableEq, Repr

/-- A record before its first packet; `now` is the reading that `new` makes. -/
def FlowRecord.new (key : FlowKey) (now : Instant) : FlowRecord where
  key := key
  firstSeen := now
  lastSeen := now
  fwdPackets := 0
  revPackets := 0
  fwdBytes := 0
  revBytes := 0
  interArrivalTimes := []
  packetSizes := []
  tcpFlagsUnion := 0
  dnsQueries := []

/-- Flow tracker configuration. -/
structure FlowTrackerConfig where
  /-- maximum number of concurrent flows -/
  maxFlows : Nat := 100000
  /-- flows idle for longer than this are evicted -/
  idleTimeout : Duration := 120 * 10 ^ 9
  /-- maximum number of samples to keep per flow -/
  maxSamples : Nat := 128
  deriving DecidableEq, Repr

/-- Why a flow was closed; nothing produces `tcpFinRst`. -/
inductive FlowCloseReason where
  | idleTimeout
  | capacityEviction
  | tcpFinRst
  deriving DecidableEq, Repr

/-- Event emitted when a flow is closed. -/
structure FlowClosedEvent where
  record : FlowRecord
  reason : FlowCloseReason
  deriving DecidableEq, Repr

/-- The live flows, by key. -/
abbrev FlowMap : Type := HashMap FlowKey FlowRecord

/-- An order of iteration over the live flows. -/
abbrev FlowOrder : Type := IterOrder (Sigma fun _ : FlowKey => FlowRecord)

/-- The main flow tracker. -/
structure FlowTracker where
  flows : FlowMap
  config : FlowTrackerConfig

/-- What an update does to the record of the packet's flow. -/
def FlowRecord.touch (config : FlowTrackerConfig) (now : Instant) (packet : FlowPacket)
    (record : FlowRecord) : FlowRecord :=
  let isForward := isForward packet.srcIp packet.dstIp packet.srcPort packet.dstPort
  let packetLen := packet.packetLen.toUInt64
  { record with
    interArrivalTimes :=
      if 0 < record.fwdPackets + record.revPackets then
        pushBounded config.maxSamples record.interArrivalTimes
          (durationSince now record.lastSeen)
      else record.interArrivalTimes
    lastSeen := now
    fwdPackets := if isForward then record.fwdPackets + 1 else record.fwdPackets
    fwdBytes := if isForward then record.fwdBytes + packetLen else record.fwdBytes
    revPackets := if isForward then record.revPackets else record.revPackets + 1
    revBytes := if isForward then record.revBytes else record.revBytes + packetLen
    packetSizes := pushBounded config.maxSamples record.packetSizes packet.packetLen
    tcpFlagsUnion := record.tcpFlagsUnion ||| packet.tcpFlags
    dnsQueries :=
      match packet.dnsQuery with
      | some query => pushBounded 16 record.dnsQueries query
      | none => record.dnsQueries }

/-- A record has been idle for longer than the timeout. -/
def FlowRecord.isIdle (timeout : Duration) (now : Instant) (record : FlowRecord) : Bool :=
  durationSince now record.lastSeen > timeout

namespace FlowTracker

/-- A tracker without flows. -/
def new (config : FlowTrackerConfig) : FlowTracker where
  flows := ∅
  config := config

/-- Find the oldest (least recently seen) flow key. -/
def findOldestFlow (tracker : FlowTracker) (order : FlowOrder) : Option FlowKey :=
  ((order.visit tracker.flows.entries).argmin fun entry => entry.2.lastSeen).map Sigma.fst

/-- Evict the oldest flow if the tracker is at capacity and `key` is new. -/
def makeRoom (tracker : FlowTracker) (order : FlowOrder) (key : FlowKey) :
    List FlowClosedEvent × FlowMap :=
  if key ∉ tracker.flows ∧ HashMap.len tracker.flows ≥ tracker.config.maxFlows then
    match tracker.findOldestFlow order with
    | some oldestKey =>
        match tracker.flows.lookup oldestKey with
        | some record =>
            ([{ record := record, reason := .capacityEviction }],
              tracker.flows.erase oldestKey)
        | none => ([], tracker.flows)
    | none => ([], tracker.flows)
  else ([], tracker.flows)

/-- Update or create a flow with new packet data; returns the evicted flows.
`now` is the reading at the start, `created` the one of a new record. -/
def update (tracker : FlowTracker) (order : FlowOrder) (now created : Instant)
    (packet : FlowPacket) : List FlowClosedEvent × FlowTracker :=
  let key := packet.key
  let (evicted, flows) := tracker.makeRoom order key
  (evicted,
    { tracker with
      flows := HashMap.upsert flows key (.new key created)
        (FlowRecord.touch tracker.config now packet) })

/-- Evict idle flows; returns all closed flow events. -/
def evictIdle (tracker : FlowTracker) (order : FlowOrder) (now : Instant) :
    List FlowClosedEvent × FlowTracker :=
  let isIdle := FlowRecord.isIdle tracker.config.idleTimeout now
  let evicted := (order.visit tracker.flows.entries).filter fun entry => isIdle entry.2
  (evicted.map fun entry => { record := entry.2, reason := .idleTimeout },
    { tracker with flows := HashMap.retain tracker.flows fun _ record => !isIdle record })

/-- Current number of active flows. -/
def activeCount (tracker : FlowTracker) : Nat := HashMap.len tracker.flows

/-- The record of a key. -/
def get (tracker : FlowTracker) (key : FlowKey) : Option FlowRecord := tracker.flows.lookup key

/-- All active flow records. -/
def allFlows (tracker : FlowTracker) (order : FlowOrder) : List FlowRecord :=
  (order.visit tracker.flows.entries).map Sigma.snd

/-- A call that changes the tracker, with its readings and its iteration order. -/
inductive Call where
  | update (order : FlowOrder) (now created : Instant) (packet : FlowPacket)
  | evictIdle (order : FlowOrder) (now : Instant)

/-- What a call returns, and the tracker after it. -/
def call (tracker : FlowTracker) : Call → List FlowClosedEvent × FlowTracker
  | .update order now created packet => tracker.update order now created packet
  | .evictIdle order now => tracker.evictIdle order now

/-- The tracker after a sequence of calls. -/
def runCalls (tracker : FlowTracker) (calls : List Call) : FlowTracker :=
  calls.foldl (fun tracker step => (tracker.call step).2) tracker

theorem call_config (tracker : FlowTracker) (call : Call) :
    (tracker.call call).2.config = tracker.config := by
  cases call <;> rfl

theorem runCalls_concat (tracker : FlowTracker) (calls : List Call) (call : Call) :
    tracker.runCalls (calls ++ [call]) = ((tracker.runCalls calls).call call).2 := by
  rw [runCalls, List.foldl_append]
  rfl

theorem runCalls_config (tracker : FlowTracker) (calls : List Call) :
    (tracker.runCalls calls).config = tracker.config := by
  induction calls using List.reverseRecOn with
  | nil => rfl
  | append_singleton calls call ih => rw [runCalls_concat, call_config, ih]

/-! ## What a call removes -/

/-- Records leave the map as events: each event carries the record stored under
its key, no key leaves twice, and all other keys keep their record. -/
structure Evicts (flows : FlowMap) (evicted : List FlowClosedEvent) (left : FlowMap) : Prop where
  distinct : (evicted.map fun event => event.record.key).Nodup
  stored : ∀ event ∈ evicted, flows.lookup event.record.key = some event.record
  lookup_left : ∀ key, left.lookup key =
    if key ∈ evicted.map (fun event => event.record.key) then none else flows.lookup key

/-- Every record is stored under its own key. -/
def KeyedByRecord (flows : FlowMap) : Prop :=
  ∀ key record, flows.lookup key = some record → record.key = key

theorem Evicts.nothing (flows : FlowMap) : Evicts flows [] flows where
  distinct := List.nodup_nil
  stored := by simp
  lookup_left := by simp

theorem makeRoom_evicts {tracker : FlowTracker} (hkeyed : KeyedByRecord tracker.flows)
    (order : FlowOrder) (key : FlowKey) :
    Evicts tracker.flows (tracker.makeRoom order key).1 (tracker.makeRoom order key).2 := by
  unfold makeRoom
  split
  · split
    · rename_i oldest _
      split
      · rename_i record hlookup
        have hkey := hkeyed _ _ hlookup
        refine ⟨List.nodup_singleton _, ?_, ?_⟩
        · intro event hevent
          rw [List.mem_singleton.mp hevent, hkey]
          exact hlookup
        · intro other
          rcases eq_or_ne other oldest with rfl | hother
          · simp [hkey, AList.lookup_erase]
          · simp [AList.lookup_erase_ne hother, hkey, hother]
      · exact Evicts.nothing _
    · exact Evicts.nothing _
  · exact Evicts.nothing _

/-- An entry of a map whose records know their keys. -/
theorem KeyedByRecord.key_eq {flows : FlowMap} (hkeyed : KeyedByRecord flows)
    {entry : Sigma fun _ : FlowKey => FlowRecord} (hmem : entry ∈ flows.entries) :
    entry.2.key = entry.1 :=
  hkeyed _ _ ((HashMap.lookup_eq_some_iff flows).mpr hmem)

/-- The keys that a sweep returns, in the order of the iteration. -/
theorem evictIdle_keys {tracker : FlowTracker} (hkeyed : KeyedByRecord tracker.flows)
    (order : FlowOrder) (now : Instant) :
    (tracker.evictIdle order now).1.map (fun event => event.record.key) =
      ((order.visit tracker.flows.entries).filter
        fun entry => entry.2.isIdle tracker.config.idleTimeout now).map Sigma.fst := by
  rw [evictIdle, List.map_map]
  apply List.map_congr_left
  intro entry hmem
  exact hkeyed.key_eq (by simpa using (List.mem_filter.mp hmem).1)

/-- A sweep returns the keys whose records are idle. -/
theorem mem_evictIdle_keys_iff {tracker : FlowTracker} (hkeyed : KeyedByRecord tracker.flows)
    (order : FlowOrder) (now : Instant) (key : FlowKey) :
    key ∈ (tracker.evictIdle order now).1.map (fun event => event.record.key) ↔
      ∃ record, tracker.flows.lookup key = some record ∧
        record.isIdle tracker.config.idleTimeout now = true := by
  rw [evictIdle_keys hkeyed]
  constructor
  · intro hmem
    obtain ⟨entry, hfiltered, rfl⟩ := List.mem_map.mp hmem
    obtain ⟨hvisited, hidle⟩ := List.mem_filter.mp hfiltered
    exact ⟨entry.2, (HashMap.lookup_eq_some_iff _).mpr (by simpa using hvisited), hidle⟩
  · intro h
    obtain ⟨record, hlookup, hidle⟩ := h
    apply List.mem_map.mpr
    refine ⟨⟨key, record⟩, List.mem_filter.mpr ⟨?_, hidle⟩, rfl⟩
    simpa using (HashMap.lookup_eq_some_iff _).mp hlookup

theorem evictIdle_evicts {tracker : FlowTracker} (hkeyed : KeyedByRecord tracker.flows)
    (order : FlowOrder) (now : Instant) :
    Evicts tracker.flows (tracker.evictIdle order now).1 (tracker.evictIdle order now).2.flows := by
  refine ⟨?_, ?_, ?_⟩
  · rw [evictIdle_keys hkeyed]
    have hall : ((order.visit tracker.flows.entries).map Sigma.fst).Nodup :=
      ((order.perm _).map Sigma.fst).nodup_iff.mpr tracker.flows.nodupKeys
    exact hall.sublist (List.filter_sublist.map Sigma.fst)
  · intro event hevent
    obtain ⟨entry, hfiltered, rfl⟩ := List.mem_map.mp hevent
    have hmem : entry ∈ tracker.flows.entries := by
      simpa using (List.mem_filter.mp hfiltered).1
    show tracker.flows.lookup entry.2.key = some entry.2
    rw [hkeyed.key_eq hmem]
    exact (HashMap.lookup_eq_some_iff _).mpr hmem
  · intro key
    have hleaving := mem_evictIdle_keys_iff hkeyed order now key
    show (HashMap.retain tracker.flows _).lookup key = _
    rw [HashMap.lookup_retain]
    split
    · rename_i hleaves
      obtain ⟨record, hlookup, hidle⟩ := hleaving.mp hleaves
      simp [hlookup, hidle]
    · rename_i hstays
      cases hlookup : tracker.flows.lookup key with
      | none => rfl
      | some record =>
          have hbusy : ¬ record.isIdle tracker.config.idleTimeout now = true := fun hidle =>
            hstays (hleaving.mpr ⟨record, hlookup, hidle⟩)
          simp [hbusy]

end FlowTracker

end GeSensor.Flow
