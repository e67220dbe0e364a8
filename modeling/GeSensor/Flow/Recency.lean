/-
  Flow/Recency.lean --- which flows are live.

  Each update uses the key of its packet and makes it the flow seen last; what `update` and
  `evict_idle` remove is what a cache of `max_flows` keys would give up that forgets the key
  used longest ago.  So which flows the tracker knows can be told from the packets and the
  sweeps alone, whatever order the map is visited in.
-/
import GeSensor.Flow.Capacity
import GeSensor.Foundation.LeastRecent

set_option autoImplicit false

namespace GeSensor.Flow

open GeSensor.Foundation
open CacheEvent

namespace FlowTracker

/-- What a call means to the table of flows. -/
def Call.event : Call → CacheEvent FlowKey
  | .update _ now _ packet => .use packet.key now
  | .evictIdle _ now => .sweep now

/-- The calls as events, the newest first. -/
def history (calls : List Call) : List (CacheEvent FlowKey) := (calls.map Call.event).reverse

theorem history_concat (calls : List Call) (call : Call) :
    history (calls ++ [call]) = call.event :: history calls := by
  rw [history, List.map_append, List.reverse_append]
  rfl

/-- The keys of a table. -/
def keysOf (flows : FlowMap) : Finset FlowKey := flows.keys.toFinset

theorem mem_keysOf {flows : FlowMap} {key : FlowKey} : key ∈ keysOf flows ↔ key ∈ flows := by
  rw [keysOf, List.mem_toFinset, AList.mem_keys]

theorem mem_keysOf_iff_lookup {flows : FlowMap} {key : FlowKey} :
    key ∈ keysOf flows ↔ ∃ record, flows.lookup key = some record := by
  rw [mem_keysOf, ← AList.lookup_isSome, Option.isSome_iff_exists]

theorem card_keysOf (flows : FlowMap) : (keysOf flows).card = HashMap.len flows := by
  rw [keysOf, List.toFinset_card_of_nodup flows.keys_nodup, HashMap.len_eq_length_keys]

theorem keysOf_upsert (flows : FlowMap) (key : FlowKey) (fresh : FlowRecord)
    (change : FlowRecord → FlowRecord) :
    keysOf (HashMap.upsert flows key fresh change) = insert key (keysOf flows) := by
  ext other
  rw [mem_keysOf, HashMap.mem_upsert, Finset.mem_insert, mem_keysOf]

theorem keysOf_erase (flows : FlowMap) (key : FlowKey) :
    keysOf (flows.erase key) = (keysOf flows).erase key := by
  ext other
  rw [mem_keysOf, AList.mem_erase, Finset.mem_erase, mem_keysOf]

/-- Every live flow was last seen where its key was last used. -/
def SeenAtUse (history : List (CacheEvent FlowKey)) (flows : FlowMap) : Prop :=
  ∀ key record, flows.lookup key = some record → lastUse history key = some record.lastSeen

/-! ## One call -/

theorem SeenAtUse.touch {history : List (CacheEvent FlowKey)} {flows : FlowMap}
    (h : SeenAtUse history flows) (config : FlowTrackerConfig) (now created : Instant)
    (packet : FlowPacket) :
    SeenAtUse (.use packet.key now :: history)
      (HashMap.upsert flows packet.key (.new packet.key created)
        (FlowRecord.touch config now packet)) := by
  intro key record hlookup
  by_cases hkey : key = packet.key
  · rw [hkey, HashMap.lookup_upsert, Option.some.injEq] at hlookup
    rw [hkey, lastUse_use_self, ← hlookup]
    rfl
  · rw [HashMap.lookup_upsert_ne flows hkey] at hlookup
    rw [lastUse_use_of_ne hkey]
    exact h key record hlookup

theorem SeenAtUse.erase {history : List (CacheEvent FlowKey)} {flows : FlowMap}
    (h : SeenAtUse history flows) (oldest : FlowKey) : SeenAtUse history (flows.erase oldest) := by
  intro key record hlookup
  by_cases hkey : key = oldest
  · rw [hkey, AList.lookup_erase] at hlookup
    cases hlookup
  · rw [AList.lookup_erase_ne hkey] at hlookup
    exact h key record hlookup

/-- An update uses the key of its packet, and takes the oldest flow out of a full table. -/
theorem update_lruStep {history : List (CacheEvent FlowKey)} {tracker : FlowTracker}
    (hmax : 1 ≤ tracker.config.maxFlows) (h : SeenAtUse history tracker.flows) (order : FlowOrder)
    (now created : Instant) (packet : FlowPacket) :
    LruStep tracker.config.maxFlows tracker.config.idleTimeout history (keysOf tracker.flows)
        (.use packet.key now) (keysOf (tracker.update order now created packet).2.flows) ∧
      SeenAtUse (.use packet.key now :: history)
        (tracker.update order now created packet).2.flows := by
  have hflows : (tracker.update order now created packet).2.flows =
      HashMap.upsert (tracker.makeRoom order packet.key).2 packet.key (.new packet.key created)
        (FlowRecord.touch tracker.config now packet) := rfl
  rw [hflows, keysOf_upsert]
  obtain ⟨hroom, hmake⟩ | ⟨hnew, hfull, oldest, record, hstored, holdest, hmake⟩ :=
    makeRoom_cases hmax order packet.key
  · rw [hmake]
    refine ⟨?_, h.touch tracker.config now created packet⟩
    by_cases hlive : packet.key ∈ tracker.flows
    · rw [Finset.insert_eq_of_mem (mem_keysOf.mpr hlive)]
      exact .hit (mem_keysOf.mpr hlive)
    · refine .room (fun hmem => hlive (mem_keysOf.mp hmem)) ?_
      rw [card_keysOf]
      exact hroom.resolve_left hlive
  · rw [hmake]
    refine ⟨?_, (h.erase oldest).touch tracker.config now created packet⟩
    rw [keysOf_erase]
    refine .evict (fun hmem => hnew (mem_keysOf.mp hmem)) ?_
      (mem_keysOf_iff_lookup.mpr ⟨record, hstored⟩) (h oldest record hstored) ?_
    · rw [card_keysOf]
      exact hfull
    · intro other hother reading hreading
      obtain ⟨otherRecord, hlookup⟩ := mem_keysOf_iff_lookup.mp hother
      rw [h other otherRecord hlookup, Option.some.injEq] at hreading
      exact hreading ▸ holdest other otherRecord hlookup

/-- A sweep keeps the flows that are not idle. -/
theorem evictIdle_lruStep {history : List (CacheEvent FlowKey)} {tracker : FlowTracker}
    (h : SeenAtUse history tracker.flows) (order : FlowOrder) (now : Instant) :
    LruStep tracker.config.maxFlows tracker.config.idleTimeout history (keysOf tracker.flows)
        (.sweep now) (keysOf (tracker.evictIdle order now).2.flows) ∧
      SeenAtUse (.sweep now :: history) (tracker.evictIdle order now).2.flows := by
  have hkept : ∀ key record, (tracker.evictIdle order now).2.flows.lookup key = some record ↔
      tracker.flows.lookup key = some record ∧
        ¬tracker.config.idleTimeout < now - record.lastSeen := by
    intro key record
    show (HashMap.retain tracker.flows _).lookup key = some record ↔ _
    rw [HashMap.lookup_retain, Option.filter_eq_some_iff]
    refine and_congr_right fun _ => ?_
    simp [FlowRecord.isIdle, durationSince]
  refine ⟨.sweep fun key => ?_, fun key record hlookup => h key record ((hkept key record).mp
    hlookup).1⟩
  rw [mem_keysOf_iff_lookup, mem_keysOf_iff_lookup]
  constructor
  · rintro ⟨record, hlookup⟩
    obtain ⟨hbefore, hbusy⟩ := (hkept key record).mp hlookup
    refine ⟨⟨record, hbefore⟩, fun last hlast => ?_⟩
    rw [h key record hbefore, Option.some.injEq] at hlast
    exact hlast ▸ hbusy
  · rintro ⟨⟨record, hbefore⟩, hbusy⟩
    exact ⟨record, (hkept key record).mpr ⟨hbefore, hbusy _ (h key record hbefore)⟩⟩

/-! ## Runs -/

/-- The table is a least-recently-used cache. -/
theorem runCalls_lru {config : FlowTrackerConfig} (hmax : 1 ≤ config.maxFlows)
    (calls : List Call) :
    LruRun config.maxFlows config.idleTimeout (history calls)
        (keysOf ((new config).runCalls calls).flows) ∧
      SeenAtUse (history calls) ((new config).runCalls calls).flows := by
  induction calls using List.reverseRecOn with
  | nil => exact ⟨.nil, fun key record hlookup => absurd hlookup.symm (Option.some_ne_none _)⟩
  | append_singleton calls call ih =>
      obtain ⟨hrun, hseen⟩ := ih
      have hconfig : ((new config).runCalls calls).config = config := runCalls_config _ calls
      rw [runCalls_concat, history_concat]
      cases call with
      | update order now created packet =>
          have hstep := update_lruStep (hconfig.symm ▸ hmax) hseen order now created packet
          rw [hconfig] at hstep
          exact ⟨.cons hrun hstep.1, hstep.2⟩
      | evictIdle order now =>
          have hstep := evictIdle_lruStep hseen order now
          rw [hconfig] at hstep
          exact ⟨.cons hrun hstep.1, hstep.2⟩

/-- Which flows the tracker knows. -/
structure KnowsRecent (config : FlowTrackerConfig) (history : List (CacheEvent FlowKey))
    (tracker : FlowTracker) : Prop where
  /-- a live flow was last seen with the last packet of its key, no sweep has found it idle
  since, and fewer other keys than the table holds had a later packet -/
  live : ∀ key record, tracker.get key = some record →
    lastUse history key = some record.lastSeen ∧ ¬Expired config.idleTimeout history key ∧
      (othersUsed history (record.lastSeen < ·) key).card < config.maxFlows
  /-- a flow that has left was found idle by a sweep after its last packet, or as many other
  keys as the table holds had a packet since -/
  left : ∀ key last, tracker.get key = none → lastUse history key = some last →
    Expired config.idleTimeout history key ∨
      config.maxFlows ≤ (othersUsed history (last ≤ ·) key).card
  /-- where no two keys had their last packets at one reading, this says exactly which flows
  are live -/
  exact : ∀ key last, lastUse history key = some last →
    (∀ other, lastUse history other = some last → other = key) →
      (key ∈ tracker.flows ↔ ¬Expired config.idleTimeout history key ∧
        (othersUsed history (last < ·) key).card < config.maxFlows)

/-- After any calls at readings of a monotone clock, the flows that the tracker knows are told
by the packets and the sweeps alone. -/
theorem knows_recent (config : FlowTrackerConfig) (hmax : 1 ≤ config.maxFlows) (calls : List Call)
    (hclock : MonotoneHistory (history calls)) :
    KnowsRecent config (history calls) ((new config).runCalls calls) := by
  obtain ⟨hrun, hseen⟩ := runCalls_lru hmax calls
  have hrecent := hrun.leastRecent hclock
  constructor
  · intro key record hlookup
    have hlive := mem_keysOf_iff_lookup.mpr ⟨record, hlookup⟩
    have hlast := hseen key record hlookup
    exact ⟨hlast, hrecent.fresh key hlive, hrecent.othersUsed_card_lt hlive hlast⟩
  · intro key last hlookup hlast
    refine hrecent.left (fun hlive => ?_) hlast
    obtain ⟨record, hstored⟩ := mem_keysOf_iff_lookup.mp hlive
    exact Option.some_ne_none record (hstored.symm.trans hlookup)
  · intro key last hlast hapart
    rw [← mem_keysOf]
    exact hrun.mem_iff hclock hlast hapart

/-- Four flows in a table of two, the first of them seen twice, and a sweep. -/
def recentCalls : List Call :=
  let order := IterOrder.id _
  let packet (port : UInt16) : FlowPacket :=
    { srcIp := .newV4 10 0 0 1, dstIp := .newV4 10 0 1 0, srcPort := port, dstPort := 80
      protocol := 6, packetLen := 100, tcpFlags := 0, dnsQuery := none }
  [.update order 0 0 (packet 1000), .update order 1 1 (packet 1001),
    .update order 2 2 (packet 1000), .update order 3 3 (packet 1002), .evictIdle order 10,
    .update order 110 110 (packet 1003), .evictIdle order 110]

theorem knows_recent_recentCalls :
    KnowsRecent { maxFlows := 2, idleTimeout := 100 } (history recentCalls)
        ((new { maxFlows := 2, idleTimeout := 100 }).runCalls recentCalls) ∧
      (((new { maxFlows := 2, idleTimeout := 100 }).runCalls recentCalls).allFlows
        (IterOrder.id _)).map (fun record => record.key.srcPort) = [1003] :=
  ⟨knows_recent { maxFlows := 2, idleTimeout := 100 } (by decide) recentCalls (by
    unfold MonotoneHistory
    decide), by decide⟩

end FlowTracker

end GeSensor.Flow
