/-
  Flow/Timing.lean --- the two instants of a flow record and the times between its packets.

  WHAT THE INSTANTS ARE FOR.  `first_seen` and `last_seen` span the packets of a session,
  and the inter-arrival times cut that span into pieces (`Coherent`); the span is the
  denominator of the rate features.

  WHAT THE CODE DOES INSTEAD.  `update` reads the clock, and the record it creates reads it
  again.  The second reading becomes `first_seen`, the first one becomes `last_seen`: a new
  flow was last seen before it was first seen, unless both readings agree.
-/
import GeSensor.Flow.Accounting
import GeSensor.Flow.Capacity

set_option autoImplicit false

namespace GeSensor.Flow

open GeSensor.Foundation

/-! ## The clock -/

namespace FlowTracker

/-- The readings a call makes, in order: the creation of a record makes one more. -/
def Call.readings (tracker : FlowTracker) : Call → List Instant
  | .update _ now created packet =>
      if packet.key ∈ tracker.flows then [now] else [now, created]
  | .evictIdle _ now => [now]

/-- The readings of a sequence of calls, in order. -/
def readings (tracker : FlowTracker) : List Call → List Instant
  | [] => []
  | call :: rest => call.readings tracker ++ (tracker.call call).2.readings rest

theorem readings_append (tracker : FlowTracker) (calls more : List Call) :
    tracker.readings (calls ++ more) =
      tracker.readings calls ++ (tracker.runCalls calls).readings more := by
  induction calls generalizing tracker with
  | nil => rfl
  | cons call rest ih =>
      rw [List.cons_append, readings, readings, ih, List.append_assoc]
      rfl

end FlowTracker

/-- The readings of a run are monotone. -/
def MonotoneClock (config : FlowTrackerConfig) (calls : List FlowTracker.Call) : Prop :=
  ((FlowTracker.new config).readings calls).Pairwise (· ≤ ·)

instance (config : FlowTrackerConfig) (calls : List FlowTracker.Call) :
    Decidable (MonotoneClock config calls) :=
  inferInstanceAs (Decidable (List.Pairwise _ _))

/-! ## Coherence -/

/-- The instants of a record that has received `received` packets are in order, and the
inter-arrival times add up to the span between them while all of them are kept. -/
structure Coherent (config : FlowTrackerConfig) (record : FlowRecord) (received : Nat) :
    Prop where
  firstSeen_le : record.firstSeen ≤ record.lastSeen
  sum_eq : received ≤ config.maxSamples + 1 →
    record.interArrivalTimes.sum = record.lastSeen - record.firstSeen

/-- The number of packets that the live record of `key` has received. -/
def received (config : FlowTrackerConfig) (calls : List FlowTracker.Call) (key : FlowKey) : Nat :=
  ((TrackerRun.ofCalls config (calls.map fun call => (call, ()))).ledger.openItems key).length

/-- Every live record is coherent in every state of the run. -/
def TimingCoherent (config : FlowTrackerConfig) (calls : List FlowTracker.Call) : Prop :=
  ∀ made, made <+: calls → ∀ key record,
    ((FlowTracker.new config).runCalls made).get key = some record →
      Coherent config record (received config made key)

/-- Whenever a record is created, both readings of the clock agree. -/
def CreatesAtOneReading (config : FlowTrackerConfig) (calls : List FlowTracker.Call) : Prop :=
  ∀ made order now created packet, made ++ [.update order now created packet] <+: calls →
    packet.key ∉ ((FlowTracker.new config).runCalls made).flows → created = now

/-! ## One update -/

/-- A record that is created at one reading. -/
theorem Coherent.new (config : FlowTrackerConfig) (now : Instant) (packet : FlowPacket) :
    Coherent config ((FlowRecord.new packet.key now).touch config now packet) 1 where
  firstSeen_le := Nat.le_refl now
  sum_eq := by
    intro _
    simp [FlowRecord.touch, FlowRecord.new]

/-- A record that is updated after its last packet. -/
theorem Coherent.touch {config : FlowTrackerConfig} {key : FlowKey} {record : FlowRecord}
    {packets : List FlowPacket} (hsamples : config.maxSamples < 2 ^ 64)
    (haccumulates : Accumulates config key record packets) (hne : packets ≠ [])
    (h : Coherent config record packets.length) {now : Instant} (hnow : record.lastSeen ≤ now)
    (packet : FlowPacket) :
    Coherent config (record.touch config now packet) (packets.length + 1) where
  firstSeen_le := h.firstSeen_le.trans hnow
  sum_eq := by
    intro hreceived
    have hpositive : 0 < packets.length := List.length_pos_iff.mpr hne
    have hsmall : packets.length < 2 ^ 64 := by omega
    have htest : 0 < record.fwdPackets + record.revPackets := by
      rw [haccumulates.fwd_add_rev, UInt64.lt_iff_toNat_lt, UInt64.toNat_ofNat_of_lt' hsmall]
      exact hpositive
    -- All earlier times were kept, so there is room for one more.
    have hroom : record.interArrivalTimes.length < config.maxSamples := by
      rw [haccumulates.interArrivalTimes hsmall]
      omega
    have hsum := h.sum_eq (by omega)
    show (if 0 < record.fwdPackets + record.revPackets then _ else _ : List Duration).sum =
      now - record.firstSeen
    rw [if_pos htest, pushBounded, if_pos hroom, List.sum_append, hsum, List.sum_singleton,
      durationSince, Nat.add_comm, Nat.sub_add_sub_cancel hnow h.firstSeen_le]

/-! ## The invariant -/

/-- Every live record is coherent with its open session, and was last seen at one of the
readings made so far. -/
def Timed (config : FlowTrackerConfig) (made : List Instant) (flows : FlowMap)
    (ledger : Ledger FlowKey (Unit × FlowPacket)) : Prop :=
  ∀ key record, flows.lookup key = some record →
    record.lastSeen ∈ made ∧ Coherent config record (ledger.openItems key).length

theorem Timed.mono {config : FlowTrackerConfig} {made : List Instant} {flows : FlowMap}
    {ledger : Ledger FlowKey (Unit × FlowPacket)} (h : Timed config made flows ledger)
    (more : List Instant) : Timed config (made ++ more) flows ledger := by
  intro key record hlookup
  obtain ⟨hmade, hcoherent⟩ := h key record hlookup
  exact ⟨List.mem_append_left more hmade, hcoherent⟩

/-- Evictions do not touch the records that stay. -/
theorem Timed.evict {config : FlowTrackerConfig} {made : List Instant} {flows left : FlowMap}
    {evicted : List FlowClosedEvent} {ledger : Ledger FlowKey (Unit × FlowPacket)}
    (h : Timed config made flows ledger) (hevicts : FlowTracker.Evicts flows evicted left) :
    Timed config made left
      (ledger.enterAll (evicted.map fun event => .close event.record.key)) := by
  rw [enterAll_evicted hevicts]
  intro key record hlookup
  rw [hevicts.lookup_left] at hlookup
  split at hlookup
  · cases hlookup
  · rename_i hstays
    dsimp only
    rw [if_neg hstays]
    exact h key record hlookup

/-- An update at a later reading, which is the only reading if it creates a record. -/
theorem Timed.touch {config : FlowTrackerConfig} {made more : List Instant} {flows : FlowMap}
    {emitted : List FlowClosedEvent} {ledger : Ledger FlowKey (Unit × FlowPacket)}
    (hsamples : config.maxSamples < 2 ^ 64) (haccounts : Accounts config flows emitted ledger)
    (h : Timed config made flows ledger) {now created : Instant}
    (hlater : ∀ instant ∈ made, instant ≤ now) (hnow : now ∈ more) {packet : FlowPacket}
    (hcreated : packet.key ∉ flows → created = now) :
    Timed config (made ++ more)
      (HashMap.upsert flows packet.key (.new packet.key created)
        (FlowRecord.touch config now packet))
      (ledger.enter (.add packet.key ((), packet))) := by
  intro key record hlookup
  rcases eq_or_ne key packet.key with rfl | hother
  · rw [HashMap.lookup_upsert, Option.some.injEq] at hlookup
    subst hlookup
    refine ⟨List.mem_append_right made hnow, ?_⟩
    simp only [Ledger.enter, Function.update_self, List.length_append, List.length_singleton]
    cases hbefore : flows.lookup packet.key with
    | none =>
        rw [hcreated (AList.lookup_eq_none.mp hbefore), haccounts.absent _ hbefore]
        exact Coherent.new config now packet
    | some record =>
        obtain ⟨hmade, hcoherent⟩ := h _ _ hbefore
        obtain ⟨hopen, haccumulates⟩ := haccounts.live _ _ hbefore
        have hpackets : packetsOf (ledger.openItems packet.key) ≠ [] := by
          rw [packetsOf, ne_eq, List.map_eq_nil_iff]
          exact hopen
        rw [← List.length_map (f := Prod.snd)] at hcoherent ⊢
        exact hcoherent.touch hsamples haccumulates hpackets (hlater _ hmade) packet
  · rw [HashMap.lookup_upsert_ne flows hother] at hlookup
    simp only [Ledger.enter, Function.update_of_ne hother]
    exact h.mono more key record hlookup

/-- The step lemma. -/
theorem Timed.call {config : FlowTrackerConfig} {made : List Instant} {tracker : FlowTracker}
    {emitted : List FlowClosedEvent} {ledger : Ledger FlowKey (Unit × FlowPacket)}
    (hsamples : config.maxSamples < 2 ^ 64) (hconfig : tracker.config = config)
    (haccounts : Accounts config tracker.flows emitted ledger)
    (h : Timed config made tracker.flows ledger) (call : FlowTracker.Call)
    (hclock : (made ++ call.readings tracker).Pairwise (· ≤ ·))
    (hone : ∀ order now created packet, call = .update order now created packet →
      packet.key ∉ tracker.flows → created = now) :
    Timed config (made ++ call.readings tracker) (tracker.call call).2.flows
      (ledger.enterAll (observe call () (tracker.call call).1)) := by
  subst hconfig
  rw [observe, Ledger.enterAll_append]
  cases call with
  | evictIdle order now =>
      exact (h.evict (FlowTracker.evictIdle_evicts haccounts.keyedByRecord order now)).mono _
  | update order now created packet =>
      have hevicts := FlowTracker.makeRoom_evicts haccounts.keyedByRecord order packet.key
      have hnow : now ∈ (FlowTracker.Call.update order now created packet).readings tracker := by
        show now ∈ if packet.key ∈ tracker.flows then [now] else [now, created]
        split <;> exact List.mem_cons_self
      have hlater : ∀ instant ∈ made, instant ≤ now := fun instant hmade =>
        (List.pairwise_append.mp hclock).2.2 instant hmade now hnow
      refine (h.evict hevicts).touch hsamples (haccounts.evict hevicts) hlater hnow ?_
      intro hleft
      apply hone order now created packet rfl
      -- A key that was in the map makes no room, so it has not left.
      intro hmem
      rw [FlowTracker.makeRoom_eq_of_room (Or.inl hmem)] at hleft
      exact hleft hmem

/-! ## Runs -/

theorem CreatesAtOneReading.of_prefix {config : FlowTrackerConfig}
    {calls made : List FlowTracker.Call} (h : CreatesAtOneReading config calls)
    (hmade : made <+: calls) : CreatesAtOneReading config made := by
  intro before order now created packet hcall
  exact h before order now created packet (hcall.trans hmade)

theorem MonotoneClock.of_prefix {config : FlowTrackerConfig}
    {calls made : List FlowTracker.Call} (h : MonotoneClock config calls)
    (hmade : made <+: calls) : MonotoneClock config made := by
  obtain ⟨rest, rfl⟩ := hmade
  rw [MonotoneClock, FlowTracker.readings_append] at h
  exact (List.pairwise_append.mp h).1

theorem TrackerRun.untagged_tracker (config : FlowTrackerConfig)
    (calls : List FlowTracker.Call) :
    (ofCalls config (calls.map fun call => (call, ()))).tracker =
      (FlowTracker.new config).runCalls calls := by
  rw [ofCalls_tracker, List.map_map]
  exact congrArg _ (List.map_id calls)

/-- The accounts of a run whose calls carry no tag. -/
theorem TrackerRun.untagged_accounts (config : FlowTrackerConfig)
    (calls : List FlowTracker.Call) :
    Accounts config ((FlowTracker.new config).runCalls calls).flows
      (ofCalls config (calls.map fun call => (call, ()))).emitted
      (ofCalls config (calls.map fun call => (call, ()))).ledger := by
  rw [← untagged_tracker]
  exact (accounts config (calls.map fun call => (call, ()))).1

/-- The run lemma. -/
theorem TrackerRun.timed {config : FlowTrackerConfig} (hsamples : config.maxSamples < 2 ^ 64)
    (calls : List FlowTracker.Call) (hclock : MonotoneClock config calls)
    (hone : CreatesAtOneReading config calls) :
    Timed config ((FlowTracker.new config).readings calls)
      ((FlowTracker.new config).runCalls calls).flows
      (ofCalls config (calls.map fun call => (call, ()))).ledger := by
  induction calls using List.reverseRecOn with
  | nil =>
      intro key record hlookup
      cases hlookup
  | append_singleton calls call ih =>
      have hmade := List.prefix_append calls [call]
      have htimed := ih (hclock.of_prefix hmade) (hone.of_prefix hmade)
      have hconfig : ((FlowTracker.new config).runCalls calls).config = config :=
        FlowTracker.runCalls_config _ calls
      have hreadings : (FlowTracker.new config).readings (calls ++ [call]) =
          (FlowTracker.new config).readings calls ++
            call.readings ((FlowTracker.new config).runCalls calls) := by
        rw [FlowTracker.readings_append, FlowTracker.readings, FlowTracker.readings,
          List.append_nil]
      rw [MonotoneClock, hreadings] at hclock
      rw [hreadings, FlowTracker.runCalls_concat, List.map_append, List.map_singleton,
        ofCalls_concat]
      show Timed config _ _ (Ledger.run _)
      rw [step, Ledger.run_append, untagged_tracker]
      refine htimed.call hsamples hconfig (untagged_accounts config calls) call hclock ?_
      rintro order now created packet rfl hnew
      exact hone calls order now created packet (List.prefix_refl _) hnew

/-- The record that an update creates was first seen at the second reading. -/
theorem lookup_created {tracker : FlowTracker} {packet : FlowPacket}
    (hnew : packet.key ∉ tracker.flows) (hkeyed : FlowTracker.KeyedByRecord tracker.flows)
    (order : FlowOrder) (now created : Instant) :
    (tracker.update order now created packet).2.get packet.key =
      some ((FlowRecord.new packet.key created).touch tracker.config now packet) := by
  have hleft : (tracker.makeRoom order packet.key).2.lookup packet.key = none := by
    rw [(FlowTracker.makeRoom_evicts hkeyed order packet.key).lookup_left]
    split
    · rfl
    · exact AList.lookup_eq_none.mpr hnew
  show (HashMap.upsert (tracker.makeRoom order packet.key).2 _ _ _).lookup packet.key = _
  rw [HashMap.lookup_upsert, hleft]
  rfl

theorem FlowTracker.runCalls_update (tracker : FlowTracker) (made : List FlowTracker.Call)
    (order : FlowOrder) (now created : Instant) (packet : FlowPacket) :
    tracker.runCalls (made ++ [.update order now created packet]) =
      ((tracker.runCalls made).update order now created packet).2 :=
  runCalls_concat tracker made _

/-- Under a monotone clock the records are coherent in every state of a run exactly when
every update that creates a record reads the same instant twice. -/
theorem timingCoherent_iff (config : FlowTrackerConfig) (hsamples : config.maxSamples < 2 ^ 64)
    (calls : List FlowTracker.Call) (hclock : MonotoneClock config calls) :
    TimingCoherent config calls ↔ CreatesAtOneReading config calls := by
  constructor
  · intro h made order now created packet hcall hnew
    have hcreated := lookup_created hnew (TrackerRun.untagged_accounts config made).keyedByRecord
      order now created
    rw [← FlowTracker.runCalls_update] at hcreated
    have hle : created ≤ now := (h _ hcall _ _ hcreated).firstSeen_le
    have hge : now ≤ created := by
      have hmade := hclock.of_prefix hcall
      rw [MonotoneClock, FlowTracker.readings_append] at hmade
      have hpair := (List.pairwise_append.mp hmade).2.1
      simpa [FlowTracker.readings, FlowTracker.Call.readings, hnew] using hpair
    exact Nat.le_antisymm hle hge
  · intro hone made hmade key record hlookup
    exact (TrackerRun.timed hsamples made (hclock.of_prefix hmade) (hone.of_prefix hmade)
      key record hlookup).2

/-- A DNS query. -/
def timedQuery : FlowPacket where
  srcIp := .newV4 192 168 1 10
  dstIp := .newV4 8 8 8 8
  srcPort := 54321
  dstPort := 53
  protocol := 17
  packetLen := 100
  tcpFlags := 0
  dnsQuery := none

/-- The query creates a record, at the readings `now` and `created`, and is repeated later. -/
def queryTwice (now created later : Instant) : List FlowTracker.Call :=
  [.update (IterOrder.id _) now created timedQuery,
    .update (IterOrder.id _) later later timedQuery]

/-- The two queries with one reading at the creation of the record. -/
theorem timingCoherent_iff_queryTwice :
    TimingCoherent {} (queryTwice 5 5 9) ↔ CreatesAtOneReading {} (queryTwice 5 5 9) :=
  timingCoherent_iff {} (by decide) (queryTwice 5 5 9) (by decide)

/-- The clock ticks between the two readings: after the first query the flow was last seen
before it was first seen. -/
theorem queryTwice_not_coherent :
    MonotoneClock {} (queryTwice 5 6 9) ∧ ¬ TimingCoherent {} (queryTwice 5 6 9) := by
  refine ⟨by decide, ?_⟩
  intro h
  have hcreated : ((FlowTracker.new {}).runCalls ((queryTwice 5 6 9).take 1)).get
      timedQuery.key = some ((FlowRecord.new timedQuery.key 6).touch {} 5 timedQuery) := by
    decide
  have hcoherent := h _ (List.take_prefix 1 _) _ _ hcreated
  exact absurd hcoherent.firstSeen_le (by decide)

end GeSensor.Flow
