/-
  Flow/Accounting.lean --- the flow tracker loses and duplicates nothing.

  A run of the tracker is watched from outside: a returned event closes the
  session of its key, an update adds its packet, with the tag the observer gave
  the call, to the session of the packet's key.  The tracker's records are
  summaries of the sessions of that ledger (`Accounts`), whatever is evicted and
  re-created, and a ledger conserves its items; together they are
  `run_accounts`.

  The counters of a record are 64-bit words, so the invariant speaks of them as
  words (`Accumulates`); `Summarizes` is what that means for fewer than 2^64
  packets and bytes.
-/
import Mathlib.Data.List.Forall2
import GeSensor.Flow.Tracker
import GeSensor.Foundation.FitSuffix
import GeSensor.Foundation.Sessions

set_option autoImplicit false

namespace GeSensor.Flow

open GeSensor.Foundation
open GeSensor.Net

/-! ## The summary of a session -/

/-- The packet's source endpoint, address and port, is the key's. -/
def FlowKey.isSourceOf (key : FlowKey) (packet : FlowPacket) : Bool :=
  packet.srcIp == key.srcIp && packet.srcPort == key.srcPort

/-- Bytes of a list of packets. -/
abbrev byteCount (packets : List FlowPacket) : Nat :=
  totalWeight (fun packet => packet.packetLen.toNat) packets

/-- A record is the summary of the packets of its session. -/
structure Summarizes (config : FlowTrackerConfig) (record : FlowRecord)
    (packets : List FlowPacket) : Prop where
  ofKey : ∀ packet ∈ packets, packet.key = record.key
  fwdPackets : record.fwdPackets.toNat = (packets.filter (record.key.isSourceOf ·)).length
  revPackets : record.revPackets.toNat = (packets.filter (!record.key.isSourceOf ·)).length
  fwdBytes : record.fwdBytes.toNat = byteCount (packets.filter (record.key.isSourceOf ·))
  revBytes : record.revBytes.toNat = byteCount (packets.filter (!record.key.isSourceOf ·))
  tcpFlagsUnion : record.tcpFlagsUnion = (packets.map FlowPacket.tcpFlags).foldl (· ||| ·) 0
  packetSizes : record.packetSizes = (packets.map FlowPacket.packetLen).take config.maxSamples
  interArrivalTimes :
    record.interArrivalTimes.length = min config.maxSamples (packets.length - 1)
  dnsQueries : record.dnsQueries = (packets.filterMap FlowPacket.dnsQuery).take 16

/-- The record under `key` has been touched by `packets`, in this order; counters
are words. -/
structure Accumulates (config : FlowTrackerConfig) (key : FlowKey) (record : FlowRecord)
    (packets : List FlowPacket) : Prop where
  key_eq : record.key = key
  ofKey : ∀ packet ∈ packets, packet.key = key
  fwdPackets : record.fwdPackets = .ofNat (packets.filter (key.isSourceOf ·)).length
  revPackets : record.revPackets = .ofNat (packets.filter (!key.isSourceOf ·)).length
  fwdBytes : record.fwdBytes = .ofNat (byteCount (packets.filter (key.isSourceOf ·)))
  revBytes : record.revBytes = .ofNat (byteCount (packets.filter (!key.isSourceOf ·)))
  tcpFlagsUnion : record.tcpFlagsUnion = (packets.map FlowPacket.tcpFlags).foldl (· ||| ·) 0
  packetSizes : record.packetSizes = (packets.map FlowPacket.packetLen).take config.maxSamples
  interArrivalTimes : packets.length < 2 ^ 64 →
    record.interArrivalTimes.length = min config.maxSamples (packets.length - 1)
  dnsQueries : record.dnsQueries = (packets.filterMap FlowPacket.dnsQuery).take 16

/-- The direction test of `update` asks whether the packet's source endpoint is
the key's. -/
theorem isForward_eq_isSourceOf (packet : FlowPacket) :
    isForward packet.srcIp packet.dstIp packet.srcPort packet.dstPort =
      packet.key.isSourceOf packet := by
  unfold FlowPacket.key FlowKey.normalized FlowKey.isSourceOf
  split
  · rename_i hforward
    simp [hforward]
  · rename_i hreverse
    -- Of a reversed packet the addresses differ, so its source is not the key's.
    have hne : packet.srcIp ≠ packet.dstIp := by
      intro heq
      rw [isForward_eq, heq] at hreverse
      exact hreverse (decide_eq_true (IpAddr.le_refl packet.dstIp))
    simp [hreverse, hne]

/-- The bounded push of a sample keeps the first samples. -/
theorem pushBounded_take {α : Type} (bound : Nat) (samples : List α) (sample : α) :
    pushBounded bound (samples.take bound) sample = (samples ++ [sample]).take bound := by
  unfold pushBounded
  rw [List.length_take]
  split
  · rename_i hroom
    have hall : samples.length < bound := by omega
    rw [List.take_of_length_le hall.le, List.take_of_length_le]
    rw [List.length_append, List.length_singleton]
    exact hall
  · rename_i hfull
    rw [List.take_append_of_le_length]
    omega

theorem pushBounded_length {α : Type} (bound : Nat) (samples : List α) (sample : α) :
    (pushBounded bound samples sample).length =
      if samples.length < bound then samples.length + 1 else samples.length := by
  unfold pushBounded
  split
  · rw [List.length_append, List.length_singleton]
  · rfl

theorem Accumulates.new (config : FlowTrackerConfig) (key : FlowKey) (created : Instant) :
    Accumulates config key (.new key created) [] where
  key_eq := rfl
  ofKey := by simp
  fwdPackets := rfl
  revPackets := rfl
  fwdBytes := rfl
  revBytes := rfl
  tcpFlagsUnion := rfl
  packetSizes := by simp [FlowRecord.new]
  interArrivalTimes := by simp [FlowRecord.new]
  dnsQueries := rfl

/-- Both counters together are the number of packets. -/
theorem Accumulates.fwd_add_rev {config : FlowTrackerConfig} {key : FlowKey}
    {record : FlowRecord} {packets : List FlowPacket}
    (h : Accumulates config key record packets) :
    record.fwdPackets + record.revPackets = .ofNat packets.length := by
  rw [h.fwdPackets, h.revPackets, ← UInt64.ofNat_add]
  congr 1
  have := packets.length_eq_length_filter_add (key.isSourceOf ·)
  omega

/-- The step lemma: an update adds one packet to the summary. -/
theorem Accumulates.touch {config : FlowTrackerConfig} {key : FlowKey} {record : FlowRecord}
    {packets : List FlowPacket} (h : Accumulates config key record packets)
    {packet : FlowPacket} (hkey : packet.key = key) (now : Instant) :
    Accumulates config key (record.touch config now packet) (packets ++ [packet]) := by
  have hdirection : isForward packet.srcIp packet.dstIp packet.srcPort packet.dstPort =
      key.isSourceOf packet := hkey ▸ isForward_eq_isSourceOf packet
  refine
    { key_eq := h.key_eq
      ofKey := ?_
      fwdPackets := ?_
      revPackets := ?_
      fwdBytes := ?_
      revBytes := ?_
      tcpFlagsUnion := ?_
      packetSizes := ?_
      interArrivalTimes := ?_
      dnsQueries := ?_ }
  · intro other hother
    rcases List.mem_append.mp hother with hold | hnew
    · exact h.ofKey other hold
    · rw [List.mem_singleton.mp hnew, hkey]
  · cases hsource : key.isSourceOf packet <;>
      simp [FlowRecord.touch, hdirection, hsource, h.fwdPackets, UInt64.ofNat_add]
  · cases hsource : key.isSourceOf packet <;>
      simp [FlowRecord.touch, hdirection, hsource, h.revPackets, UInt64.ofNat_add]
  · cases hsource : key.isSourceOf packet <;>
      simp [FlowRecord.touch, hdirection, hsource, h.fwdBytes, UInt64.ofNat_add]
  · cases hsource : key.isSourceOf packet <;>
      simp [FlowRecord.touch, hdirection, hsource, h.revBytes, UInt64.ofNat_add]
  · simp [FlowRecord.touch, h.tcpFlagsUnion]
  · simp [FlowRecord.touch, h.packetSizes, pushBounded_take]
  · intro hcount
    rw [List.length_append, List.length_singleton] at hcount
    have hbefore := h.interArrivalTimes (by omega)
    have htest : 0 < record.fwdPackets + record.revPackets ↔ 0 < packets.length := by
      rw [h.fwd_add_rev, UInt64.lt_iff_toNat_lt, UInt64.toNat_ofNat']
      simp only [UInt64.toNat_zero]
      omega
    simp only [FlowRecord.touch, htest]
    split
    · rw [pushBounded_length, hbefore, List.length_append, List.length_singleton]
      split <;> omega
    · rw [hbefore, List.length_append, List.length_singleton]
      omega
  · cases hquery : packet.dnsQuery with
    | none => simp [FlowRecord.touch, hquery, h.dnsQueries]
    | some query => simp [FlowRecord.touch, hquery, h.dnsQueries, pushBounded_take]

/-- With fewer than 2^64 packets and bytes no counter has wrapped. -/
theorem Accumulates.summarizes {config : FlowTrackerConfig} {key : FlowKey}
    {record : FlowRecord} {packets : List FlowPacket}
    (h : Accumulates config key record packets) (hpackets : packets.length < 2 ^ 64)
    (hbytes : byteCount packets < 2 ^ 64) : Summarizes config record packets := by
  have hkey := h.key_eq
  have hcount : ∀ chosen : FlowPacket → Bool,
      (UInt64.ofNat (packets.filter chosen).length).toNat = (packets.filter chosen).length := by
    intro chosen
    exact UInt64.toNat_ofNat_of_lt (lt_of_le_of_lt (List.length_filter_le _ _) hpackets)
  have hsize : ∀ chosen : FlowPacket → Bool,
      (UInt64.ofNat (byteCount (packets.filter chosen))).toNat =
        byteCount (packets.filter chosen) := by
    intro chosen
    exact UInt64.toNat_ofNat_of_lt
      (lt_of_le_of_lt (totalWeight_le_of_sublist _ List.filter_sublist) hbytes)
  subst hkey
  exact
    { ofKey := h.ofKey
      fwdPackets := by rw [h.fwdPackets, hcount]
      revPackets := by rw [h.revPackets, hcount]
      fwdBytes := by rw [h.fwdBytes, hsize]
      revBytes := by rw [h.revBytes, hsize]
      tcpFlagsUnion := h.tcpFlagsUnion
      packetSizes := h.packetSizes
      interArrivalTimes := h.interArrivalTimes hpackets
      dnsQueries := h.dnsQueries }

/-! ## Runs -/

section Runs

variable {T : Type}

/-- The packet a call brings. -/
def FlowTracker.Call.packet? : FlowTracker.Call → Option FlowPacket
  | .update _ _ _ packet => some packet
  | .evictIdle _ _ => none

/-- The packets of the update calls, each with the tag of its call. -/
def taggedPackets (calls : List (FlowTracker.Call × T)) : List (T × FlowPacket) :=
  calls.filterMap fun (call, tag) => call.packet?.map fun packet => (tag, packet)

/-- What an observer of a call enters in the ledger: every returned event closes
the session of its key, then the packet joins the session of its own key. -/
def observe (call : FlowTracker.Call) (tag : T) (answer : List FlowClosedEvent) :
    List (SessionEvent FlowKey (T × FlowPacket)) :=
  (answer.map fun event => .close event.record.key) ++
    (call.packet?.map fun packet => .add packet.key (tag, packet)).toList

/-- A run: the tracker, all the events its calls returned, and what the observer
has entered. -/
structure TrackerRun (T : Type) where
  tracker : FlowTracker
  emitted : List FlowClosedEvent
  history : List (SessionEvent FlowKey (T × FlowPacket))

namespace TrackerRun

/-- The run before its first call. -/
def start (T : Type) (config : FlowTrackerConfig) : TrackerRun T where
  tracker := .new config
  emitted := []
  history := []

/-- Make one call. -/
def step (run : TrackerRun T) (tagged : FlowTracker.Call × T) : TrackerRun T :=
  let (answer, tracker) := run.tracker.call tagged.1
  { tracker := tracker
    emitted := run.emitted ++ answer
    history := run.history ++ observe tagged.1 tagged.2 answer }

/-- Make a sequence of calls on a new tracker. -/
def ofCalls (config : FlowTrackerConfig) (calls : List (FlowTracker.Call × T)) : TrackerRun T :=
  calls.foldl step (start T config)

/-- The sessions of a run. -/
def ledger (run : TrackerRun T) : Ledger FlowKey (T × FlowPacket) := .run run.history

theorem ofCalls_concat (config : FlowTrackerConfig) (calls : List (FlowTracker.Call × T))
    (tagged : FlowTracker.Call × T) :
    ofCalls config (calls ++ [tagged]) = (ofCalls config calls).step tagged := by
  rw [ofCalls, List.foldl_append]
  rfl

/-- The observer does not disturb the tracker. -/
theorem ofCalls_tracker (config : FlowTrackerConfig) (calls : List (FlowTracker.Call × T)) :
    (ofCalls config calls).tracker =
      (FlowTracker.new config).runCalls (calls.map Prod.fst) := by
  induction calls using List.reverseRecOn with
  | nil => rfl
  | append_singleton calls tagged ih =>
      rw [ofCalls_concat, step, ih, List.map_append, FlowTracker.runCalls, FlowTracker.runCalls,
        List.foldl_append]
      rfl

/-- Closings add nothing. -/
theorem addedItems_closes (answer : List FlowClosedEvent) :
    Ledger.addedItems (answer.map fun event =>
      (.close event.record.key : SessionEvent FlowKey (T × FlowPacket))) = [] := by
  induction answer with
  | nil => rfl
  | cons event rest ih => exact ih

/-- The observer adds every packet once, in order. -/
theorem addedItems_history (config : FlowTrackerConfig) (calls : List (FlowTracker.Call × T)) :
    Ledger.addedItems (ofCalls config calls).history = taggedPackets calls := by
  induction calls using List.reverseRecOn with
  | nil => rfl
  | append_singleton calls tagged ih =>
      obtain ⟨call, tag⟩ := tagged
      rw [ofCalls_concat, step]
      simp only [observe, Ledger.addedItems_append, ih, addedItems_closes, taggedPackets,
        List.filterMap_append]
      cases hpacket : call.packet? with
      | none => simp [Ledger.addedItems, hpacket]
      | some packet => simp [Ledger.addedItems, SessionEvent.item?, hpacket]

end TrackerRun

/-! ## The invariant -/

/-- Packets of a session. -/
def packetsOf (items : List (T × FlowPacket)) : List FlowPacket := items.map Prod.snd

/-- The live records summarise the open sessions, none of them empty, and every
emitted record summarises the closed session it was returned for. -/
structure Accounts (config : FlowTrackerConfig) (flows : FlowMap)
    (emitted : List FlowClosedEvent) (ledger : Ledger FlowKey (T × FlowPacket)) : Prop where
  live : ∀ key record, flows.lookup key = some record →
    ledger.openItems key ≠ [] ∧
      Accumulates config key record (packetsOf (ledger.openItems key))
  absent : ∀ key, flows.lookup key = none → ledger.openItems key = []
  closed : List.Forall₂ (fun event session =>
    Accumulates config session.1 event.record (packetsOf session.2)) emitted ledger.closed

theorem Accounts.keyedByRecord {config : FlowTrackerConfig} {flows : FlowMap}
    {emitted : List FlowClosedEvent} {ledger : Ledger FlowKey (T × FlowPacket)}
    (h : Accounts config flows emitted ledger) : FlowTracker.KeyedByRecord flows :=
  fun key record hlookup => (h.live key record hlookup).2.key_eq

/-- The ledger after the sessions of evicted records are closed. -/
theorem enterAll_evicted {flows left : FlowMap} {evicted : List FlowClosedEvent}
    (hevicts : FlowTracker.Evicts flows evicted left)
    (ledger : Ledger FlowKey (T × FlowPacket)) :
    ledger.enterAll (evicted.map fun event => .close event.record.key) =
      { openItems := fun key =>
          if key ∈ evicted.map (fun event => event.record.key) then [] else ledger.openItems key
        closed := ledger.closed ++ (evicted.map fun event => event.record.key).map
          fun key => (key, ledger.openItems key) } := by
  have hcloses := Ledger.enterAll_close hevicts.distinct ledger
  rw [List.map_map] at hcloses
  exact hcloses

/-- Evicted records close their sessions. -/
theorem Accounts.evict {config : FlowTrackerConfig} {flows left : FlowMap}
    {emitted evicted : List FlowClosedEvent} {ledger : Ledger FlowKey (T × FlowPacket)}
    (h : Accounts config flows emitted ledger)
    (hevicts : FlowTracker.Evicts flows evicted left) :
    Accounts config left (emitted ++ evicted)
      (ledger.enterAll (evicted.map fun event => .close event.record.key)) := by
  rw [enterAll_evicted hevicts]
  refine ⟨?_, ?_, ?_⟩
  · intro key record hlookup
    rw [hevicts.lookup_left] at hlookup
    split at hlookup
    · cases hlookup
    · rename_i hstays
      simp only [if_neg hstays]
      exact h.live key record hlookup
  · intro key hlookup
    rw [hevicts.lookup_left] at hlookup
    split at hlookup
    · rename_i hleaves
      simp only [if_pos hleaves]
    · rename_i hstays
      simp only [if_neg hstays]
      exact h.absent key hlookup
  · refine List.rel_append h.closed ?_
    rw [List.map_map, List.forall₂_map_right_iff, List.forall₂_same]
    intro event hevent
    exact (h.live _ _ (hevicts.stored event hevent)).2

/-- An update adds its packet to the open session of its key. -/
theorem Accounts.touch {config : FlowTrackerConfig} {flows : FlowMap}
    {emitted : List FlowClosedEvent} {ledger : Ledger FlowKey (T × FlowPacket)}
    (h : Accounts config flows emitted ledger) (now created : Instant) (tag : T)
    (packet : FlowPacket) :
    Accounts config
      (HashMap.upsert flows packet.key (.new packet.key created)
        (FlowRecord.touch config now packet))
      emitted (ledger.enter (.add packet.key (tag, packet))) := by
  have hbefore : Accumulates config packet.key
      ((flows.lookup packet.key).getD (.new packet.key created))
      (packetsOf (ledger.openItems packet.key)) := by
    cases hlookup : flows.lookup packet.key with
    | some record => exact (h.live _ _ hlookup).2
    | none =>
        rw [h.absent _ hlookup]
        exact Accumulates.new config packet.key created
  refine ⟨?_, ?_, h.closed⟩
  · intro key record hlookup
    rcases eq_or_ne key packet.key with rfl | hother
    · rw [HashMap.lookup_upsert, Option.some.injEq] at hlookup
      subst hlookup
      simp only [Ledger.enter, Function.update_self]
      refine ⟨List.append_ne_nil_of_right_ne_nil _ (List.cons_ne_nil _ _), ?_⟩
      rw [packetsOf, List.map_append]
      exact hbefore.touch rfl now
    · rw [HashMap.lookup_upsert_ne flows hother] at hlookup
      simp only [Ledger.enter, Function.update_of_ne hother]
      exact h.live key record hlookup
  · intro key hlookup
    rcases eq_or_ne key packet.key with rfl | hother
    · rw [HashMap.lookup_upsert] at hlookup
      cases hlookup
    · rw [HashMap.lookup_upsert_ne flows hother] at hlookup
      simp only [Ledger.enter, Function.update_of_ne hother]
      exact h.absent key hlookup

/-- The step lemma of the tracker. -/
theorem Accounts.call {config : FlowTrackerConfig} {tracker : FlowTracker}
    {emitted : List FlowClosedEvent} {ledger : Ledger FlowKey (T × FlowPacket)}
    (hconfig : tracker.config = config) (h : Accounts config tracker.flows emitted ledger)
    (call : FlowTracker.Call) (tag : T) :
    Accounts config (tracker.call call).2.flows (emitted ++ (tracker.call call).1)
      (ledger.enterAll (observe call tag (tracker.call call).1)) := by
  cases call with
  | update order now created packet =>
      have hroom := h.evict (FlowTracker.makeRoom_evicts h.keyedByRecord order packet.key)
      have htouch := hroom.touch now created tag packet
      rw [observe, Ledger.enterAll_append]
      subst hconfig
      exact htouch
  | evictIdle order now =>
      rw [observe, Ledger.enterAll_append]
      exact h.evict (FlowTracker.evictIdle_evicts h.keyedByRecord order now)

/-- The run lemma: after any sequence of calls the records account for the
sessions. -/
theorem TrackerRun.accounts (config : FlowTrackerConfig)
    (calls : List (FlowTracker.Call × T)) :
    Accounts config (ofCalls config calls).tracker.flows (ofCalls config calls).emitted
        (ofCalls config calls).ledger ∧
      (ofCalls config calls).tracker.config = config := by
  induction calls using List.reverseRecOn with
  | nil =>
      refine ⟨⟨?_, ?_, List.Forall₂.nil⟩, rfl⟩
      · intro key record hlookup
        cases hlookup
      · intro key _
        rfl
  | append_singleton calls tagged ih =>
      obtain ⟨haccounts, hconfig⟩ := ih
      rw [ofCalls_concat]
      refine ⟨?_, ?_⟩
      · show Accounts config _ _ (Ledger.run _)
        rw [step, Ledger.run_append]
        exact haccounts.call hconfig tagged.1 tagged.2
      · rw [step, FlowTracker.call_config, hconfig]

/-! ## The accounting theorem -/

/-- `all_flows` lists the live keys once, whatever the order of iteration. -/
theorem TrackerRun.listsOpen (config : FlowTrackerConfig)
    (calls : List (FlowTracker.Call × T)) (order : FlowOrder) :
    (ofCalls config calls).ledger.ListsOpen
      (((ofCalls config calls).tracker.allFlows order).map FlowRecord.key) := by
  obtain ⟨haccounts, _⟩ := accounts config calls
  have hkeys : ((ofCalls config calls).tracker.allFlows order).map FlowRecord.key =
      (order.visit (ofCalls config calls).tracker.flows.entries).map Sigma.fst := by
    rw [FlowTracker.allFlows, List.map_map]
    apply List.map_congr_left
    intro entry hmem
    exact haccounts.keyedByRecord.key_eq (by simpa using hmem)
  rw [hkeys]
  constructor
  · exact ((order.perm _).map Sigma.fst).nodup_iff.mpr
      (ofCalls config calls).tracker.flows.nodupKeys
  · intro key hkey
    apply haccounts.absent
    cases hlookup : (ofCalls config calls).tracker.flows.lookup key with
    | none => rfl
    | some record =>
        have hmem := (HashMap.lookup_eq_some_iff _).mp hlookup
        exact absurd (List.mem_map_of_mem ((order.mem_visit).mpr hmem)) hkey

/-- Every packet is in exactly one session, closed or live. -/
theorem TrackerRun.conserves (config : FlowTrackerConfig)
    (calls : List (FlowTracker.Call × T)) (order : FlowOrder) :
    ((ofCalls config calls).ledger.closed.flatMap Prod.snd ++
        ((ofCalls config calls).tracker.allFlows order).flatMap fun record =>
          (ofCalls config calls).ledger.openItems record.key).Perm (taggedPackets calls) := by
  have hperm := Ledger.run_conserves _ _ (listsOpen config calls order)
  rw [addedItems_history, List.flatMap_map] at hperm
  exact hperm

/-- A session that is part of the accounts is within their bounds. -/
theorem Accumulates.summarizes_of_perm {config : FlowTrackerConfig} {key : FlowKey}
    {record : FlowRecord} {items others all : List (T × FlowPacket)}
    (h : Accumulates config key record (packetsOf items)) (hpart : items.Sublist others)
    (hperm : others.Perm all) (hpackets : all.length < 2 ^ 64)
    (hbytes : byteCount (packetsOf all) < 2 ^ 64) :
    Summarizes config record (packetsOf items) := by
  have hsub : (packetsOf items).Sublist (packetsOf others) := hpart.map Prod.snd
  have hbytesPart : byteCount (packetsOf items) ≤ byteCount (packetsOf others) :=
    totalWeight_le_of_sublist _ hsub
  have hbytesAll : byteCount (packetsOf others) = byteCount (packetsOf all) :=
    ((hperm.map Prod.snd).map _).sum_eq
  apply h.summarizes
  · have hlength := hpart.length_le
    rw [hperm.length_eq] at hlength
    rw [packetsOf, List.length_map]
    omega
  · omega

end Runs

/-- The packets of the update calls, each with the number of its call. -/
abbrev numberedPackets (calls : List FlowTracker.Call) : List (Nat × FlowPacket) :=
  taggedPackets calls.zipIdx

/-- Every packet of the calls is accounted for in the records. -/
structure AccountsForAll (config : FlowTrackerConfig) (calls : List FlowTracker.Call)
    (run : TrackerRun Nat) (order : FlowOrder) : Prop where
  /-- each packet is in exactly one session, closed or live -/
  conserved : (run.ledger.closed.flatMap Prod.snd ++
      (run.tracker.allFlows order).flatMap fun record =>
        run.ledger.openItems record.key).Perm (numberedPackets calls)
  /-- the closed sessions are those of the emitted events, one each -/
  emitted : List.Forall₂ (fun event session => event.record.key = session.1 ∧
      Summarizes config event.record (packetsOf session.2)) run.emitted run.ledger.closed
  /-- a live record is stored under its key and summarises the open session -/
  live : ∀ key record, run.tracker.get key = some record → record.key = key ∧
      Summarizes config record (packetsOf (run.ledger.openItems key))

/-- After any sequence of `update` and `evict_idle` calls, of fewer than 2^64
packets and bytes, the records account for every packet. -/
theorem run_accounts (config : FlowTrackerConfig) (calls : List FlowTracker.Call)
    (hpackets : (numberedPackets calls).length < 2 ^ 64)
    (hbytes : byteCount (packetsOf (numberedPackets calls)) < 2 ^ 64) (order : FlowOrder) :
    AccountsForAll config calls (TrackerRun.ofCalls config calls.zipIdx) order := by
  obtain ⟨haccounts, _⟩ := TrackerRun.accounts config calls.zipIdx
  have hperm := TrackerRun.conserves config calls.zipIdx order
  refine ⟨hperm, ?_, ?_⟩
  · obtain ⟨hlength, hclosed⟩ := List.forall₂_iff_zip.mp haccounts.closed
    refine List.forall₂_iff_zip.mpr ⟨hlength, ?_⟩
    intro event session hzip
    have h := hclosed hzip
    refine ⟨h.key_eq, h.summarizes_of_perm ?_ hperm hpackets hbytes⟩
    have hpart := Ledger.sublist_flatMap_of_mem Prod.snd (List.of_mem_zip hzip).2
    exact hpart.trans (List.sublist_append_left _ _)
  · intro key record hlookup
    obtain ⟨_, h⟩ := haccounts.live key record hlookup
    have hmem : record ∈ (TrackerRun.ofCalls config calls.zipIdx).tracker.allFlows order := by
      have hentry := (HashMap.lookup_eq_some_iff _).mp hlookup
      exact List.mem_map_of_mem ((order.mem_visit).mpr hentry)
    refine ⟨h.key_eq, h.summarizes_of_perm ?_ hperm hpackets hbytes⟩
    have hpart := Ledger.sublist_flatMap_of_mem
      (fun record => (TrackerRun.ofCalls config calls.zipIdx).ledger.openItems record.key) hmem
    rw [h.key_eq] at hpart
    exact hpart.trans (List.sublist_append_right _ _)

/-- Both directions of a session, a second flow that evicts it at capacity, and
an idle sweep. -/
def sampleCalls : List FlowTracker.Call :=
  let order := IterOrder.id _
  let request : FlowPacket :=
    { srcIp := .newV4 192 168 1 1, dstIp := .newV4 10 0 0 1, srcPort := 12345
      dstPort := 80, protocol := 6, packetLen := 1500, tcpFlags := 0x02, dnsQuery := none }
  let answer : FlowPacket :=
    { srcIp := .newV4 10 0 0 1, dstIp := .newV4 192 168 1 1, srcPort := 80
      dstPort := 12345, protocol := 6, packetLen := 1200, tcpFlags := 0x12, dnsQuery := none }
  [.update order 0 1 request, .update order 2 2 answer,
    .update order 3 4 { request with srcPort := 12346 }, .evictIdle order 1000]

/-- The accounts of `sampleCalls` on a tracker of one flow. -/
theorem run_accounts_sampleCalls :
    AccountsForAll { maxFlows := 1, idleTimeout := 100 } sampleCalls
      (TrackerRun.ofCalls { maxFlows := 1, idleTimeout := 100 } sampleCalls.zipIdx)
      (IterOrder.id _) :=
  run_accounts { maxFlows := 1, idleTimeout := 100 } sampleCalls (by decide) (by decide)
    (IterOrder.id _)

/-- Both sessions of `sampleCalls` end as emitted events. -/
example : ((TrackerRun.ofCalls { maxFlows := 1, idleTimeout := 100 } sampleCalls.zipIdx).emitted.map
    fun event => (event.record.fwdBytes, event.record.revBytes, event.reason)) =
      [(1200, 1500, .capacityEviction), (0, 1500, .idleTimeout)] := by
  decide

end GeSensor.Flow
