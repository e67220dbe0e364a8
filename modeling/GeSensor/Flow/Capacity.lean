/-
  Flow/Capacity.lean --- how many flows the tracker keeps, and which ones it gives up.

  The table is bounded because a new key makes room before it is inserted: the search for
  the oldest flow finds a key that is in the map, so that one entry leaves for the one that
  comes.  A sweep gives up the idle flows and no other.  Both hold in every state that calls
  can reach, whatever the clock reads and in whatever order the map is visited.
-/
import GeSensor.Flow.Tracker

set_option autoImplicit false

namespace GeSensor.Flow.FlowTracker

open GeSensor.Foundation

/-! ## The policy -/

/-- A flow that is given up for a new one: the table is full, the key is new, and no live
flow was last seen earlier. -/
structure EvictsOldest (tracker : FlowTracker) (key : FlowKey) (event : FlowClosedEvent) :
    Prop where
  reason : event.reason = .capacityEviction
  isNew : tracker.get key = none
  full : tracker.activeCount = tracker.config.maxFlows
  stored : tracker.get event.record.key = some event.record
  oldest : ∀ other record, tracker.get other = some record →
    event.record.lastSeen ≤ record.lastSeen
  otherKey : event.record.key ≠ key

/-- An update under `key` gives up one flow at most, and all other keys keep their record. -/
structure UpdatesWithinCapacity (tracker : FlowTracker) (key : FlowKey)
    (answer : List FlowClosedEvent) (after : FlowTracker) : Prop where
  atMostOne : answer.length ≤ 1
  evicts : ∀ event ∈ answer, EvictsOldest tracker key event
  others : ∀ other, other ≠ key → after.get other =
    if other ∈ answer.map (fun event => event.record.key) then none else tracker.get other

/-- A sweep at `now` returns each flow that has been idle for longer than the timeout, once,
and leaves the others as they are. -/
structure SweepsIdle (tracker : FlowTracker) (now : Instant) (answer : List FlowClosedEvent)
    (after : FlowTracker) : Prop where
  reason : ∀ event ∈ answer, event.reason = .idleTimeout
  once : (answer.map fun event => event.record.key).Nodup
  returned : ∀ key record, (∃ event ∈ answer, event.record = record ∧ record.key = key) ↔
    tracker.get key = some record ∧ tracker.config.idleTimeout < now - record.lastSeen
  kept : ∀ key record, after.get key = some record ↔
    tracker.get key = some record ∧ ¬ tracker.config.idleTimeout < now - record.lastSeen

/-- What holds in a state: the bound, and what the next call does. -/
structure CapacityPolicy (config : FlowTrackerConfig) (tracker : FlowTracker) : Prop where
  bounded : tracker.activeCount ≤ config.maxFlows
  update : ∀ order now created packet,
    UpdatesWithinCapacity tracker packet.key (tracker.update order now created packet).1
      (tracker.update order now created packet).2
  evictIdle : ∀ order now,
    SweepsIdle tracker now (tracker.evictIdle order now).1 (tracker.evictIdle order now).2

/-! ## Making room -/

/-- The search finds a live flow that no other was last seen before. -/
theorem findOldestFlow_spec {tracker : FlowTracker} (hlive : 0 < tracker.activeCount)
    (order : FlowOrder) :
    ∃ oldest record, tracker.findOldestFlow order = some oldest ∧
      tracker.get oldest = some record ∧
      ∀ other otherRecord, tracker.get other = some otherRecord →
        record.lastSeen ≤ otherRecord.lastSeen := by
  unfold findOldestFlow
  cases hfound : (order.visit tracker.flows.entries).argmin fun entry => entry.2.lastSeen with
  | none =>
      have hvisited := List.argmin_eq_none.mp hfound
      have hempty : tracker.flows.entries = [] :=
        List.Perm.nil_eq (hvisited ▸ order.perm tracker.flows.entries) |>.symm
      rw [activeCount, HashMap.len, hempty] at hlive
      exact absurd hlive (Nat.lt_irrefl 0)
  | some entry =>
      have hmem : entry ∈ tracker.flows.entries := by
        simpa using List.argmin_mem (Option.mem_def.mpr hfound)
      refine ⟨entry.1, entry.2, rfl, (HashMap.lookup_eq_some_iff _).mpr hmem, ?_⟩
      intro other otherRecord hother
      have hvisited : (⟨other, otherRecord⟩ : Sigma fun _ : FlowKey => FlowRecord) ∈
          order.visit tracker.flows.entries := by
        simpa using (HashMap.lookup_eq_some_iff _).mp hother
      exact List.le_of_mem_argmin (f := fun entry => entry.2.lastSeen) hvisited
        (Option.mem_def.mpr hfound)

/-- What making room does when the key is new and the table full: one entry leaves. -/
theorem makeRoom_eq_of_full {tracker : FlowTracker} {key : FlowKey} (hnew : key ∉ tracker.flows)
    (hfull : tracker.config.maxFlows ≤ tracker.activeCount) (hlive : 0 < tracker.activeCount)
    (order : FlowOrder) :
    ∃ oldest record, tracker.get oldest = some record ∧
      (∀ other otherRecord, tracker.get other = some otherRecord →
        record.lastSeen ≤ otherRecord.lastSeen) ∧
      tracker.makeRoom order key =
        ([{ record := record, reason := .capacityEviction }], tracker.flows.erase oldest) := by
  obtain ⟨oldest, record, hfound, hstored, holdest⟩ := findOldestFlow_spec hlive order
  have hlookup : tracker.flows.lookup oldest = some record := hstored
  refine ⟨oldest, record, hstored, holdest, ?_⟩
  rw [makeRoom, if_pos ⟨hnew, hfull⟩, hfound]
  dsimp only
  rw [hlookup]

theorem makeRoom_eq_of_room {tracker : FlowTracker} {key : FlowKey}
    (h : key ∈ tracker.flows ∨ tracker.activeCount < tracker.config.maxFlows)
    (order : FlowOrder) : tracker.makeRoom order key = ([], tracker.flows) := by
  rw [makeRoom, if_neg]
  rintro ⟨hnew, hfull⟩
  rcases h with hmem | hroom
  · exact hnew hmem
  · exact absurd hfull (Nat.not_le_of_lt hroom)

/-- What making room can do: nothing while there is room, else give up the oldest flow. -/
theorem makeRoom_cases {tracker : FlowTracker} (hmax : 1 ≤ tracker.config.maxFlows)
    (order : FlowOrder) (key : FlowKey) :
    ((key ∈ tracker.flows ∨ tracker.activeCount < tracker.config.maxFlows) ∧
        tracker.makeRoom order key = ([], tracker.flows)) ∨
      (key ∉ tracker.flows ∧ tracker.config.maxFlows ≤ tracker.activeCount ∧
        ∃ oldest record, tracker.get oldest = some record ∧
          (∀ other otherRecord, tracker.get other = some otherRecord →
            record.lastSeen ≤ otherRecord.lastSeen) ∧
          tracker.makeRoom order key =
            ([{ record := record, reason := .capacityEviction }], tracker.flows.erase oldest)) := by
  by_cases hroom : key ∈ tracker.flows ∨ tracker.activeCount < tracker.config.maxFlows
  · exact Or.inl ⟨hroom, makeRoom_eq_of_room hroom order⟩
  · obtain ⟨hnew, hlimit⟩ := not_or.mp hroom
    have hfull := Nat.le_of_not_lt hlimit
    exact Or.inr ⟨hnew, hfull, makeRoom_eq_of_full hnew hfull (by omega) order⟩

/-! ## The invariant -/

/-- The table is within its bound, and every record knows its key. -/
structure Bounded (tracker : FlowTracker) : Prop where
  within : tracker.activeCount ≤ tracker.config.maxFlows
  keyed : KeyedByRecord tracker.flows

theorem update_activeCount_le {tracker : FlowTracker} (hmax : 1 ≤ tracker.config.maxFlows)
    (hwithin : tracker.activeCount ≤ tracker.config.maxFlows) (order : FlowOrder)
    (now created : Instant) (packet : FlowPacket) :
    (tracker.update order now created packet).2.activeCount ≤ tracker.config.maxFlows := by
  show HashMap.len (HashMap.upsert (tracker.makeRoom order packet.key).2 _ _ _) ≤ _
  rw [HashMap.len_upsert]
  obtain ⟨hroom, hmake⟩ | ⟨_, _, oldest, record, hstored, _, hmake⟩ :=
    makeRoom_cases hmax order packet.key
  · rw [hmake]
    dsimp only
    split
    · exact hwithin
    · rename_i hnew
      exact hroom.resolve_left hnew
  · rw [hmake]
    dsimp only
    -- One entry leaves before one comes.
    have hleaves : HashMap.len (tracker.flows.erase oldest) + 1 = tracker.activeCount :=
      HashMap.len_erase_add_one (AList.lookup_isSome.mp (Option.isSome_of_eq_some hstored))
    split <;> omega

theorem KeyedByRecord.of_evicts {flows left : FlowMap} {evicted : List FlowClosedEvent}
    (hkeyed : KeyedByRecord flows) (hevicts : Evicts flows evicted left) : KeyedByRecord left := by
  intro key record hlookup
  rw [hevicts.lookup_left] at hlookup
  split at hlookup
  · cases hlookup
  · exact hkeyed key record hlookup

theorem KeyedByRecord.upsert {flows : FlowMap} (hkeyed : KeyedByRecord flows)
    (config : FlowTrackerConfig) (now created : Instant) (packet : FlowPacket) :
    KeyedByRecord (HashMap.upsert flows packet.key (.new packet.key created)
      (FlowRecord.touch config now packet)) := by
  intro key record hlookup
  rcases eq_or_ne key packet.key with rfl | hother
  · rw [HashMap.lookup_upsert, Option.some.injEq] at hlookup
    subst hlookup
    show ((flows.lookup packet.key).getD _).key = packet.key
    cases hbefore : flows.lookup packet.key with
    | none => rfl
    | some record => exact hkeyed _ _ hbefore
  · rw [HashMap.lookup_upsert_ne flows hother] at hlookup
    exact hkeyed key record hlookup

/-- The step lemma. -/
theorem Bounded.call {tracker : FlowTracker} (h : tracker.Bounded)
    (hmax : 1 ≤ tracker.config.maxFlows) (call : Call) : (tracker.call call).2.Bounded := by
  cases call with
  | update order now created packet =>
      refine ⟨update_activeCount_le hmax h.within order now created packet, ?_⟩
      exact (h.keyed.of_evicts (makeRoom_evicts h.keyed order packet.key)).upsert
        tracker.config now created packet
  | evictIdle order now =>
      refine ⟨(HashMap.len_retain_le _ _).trans h.within, ?_⟩
      exact h.keyed.of_evicts (evictIdle_evicts h.keyed order now)

/-- The run lemma. -/
theorem runCalls_bounded {config : FlowTrackerConfig} (hmax : 1 ≤ config.maxFlows)
    (calls : List Call) : ((new config).runCalls calls).Bounded := by
  induction calls using List.reverseRecOn with
  | nil =>
      refine ⟨Nat.zero_le _, ?_⟩
      intro key record hlookup
      cases hlookup
  | append_singleton calls call ih =>
      rw [runCalls_concat]
      refine ih.call ?_ call
      rw [runCalls_config]
      exact hmax

/-! ## What the calls do in a bounded table -/

theorem Bounded.updatesWithinCapacity {tracker : FlowTracker} (h : tracker.Bounded)
    (hmax : 1 ≤ tracker.config.maxFlows) (order : FlowOrder) (now created : Instant)
    (packet : FlowPacket) :
    UpdatesWithinCapacity tracker packet.key (tracker.update order now created packet).1
      (tracker.update order now created packet).2 := by
  have hevicts := makeRoom_evicts h.keyed order packet.key
  refine ⟨?_, ?_, ?_⟩
  · show (tracker.makeRoom order packet.key).1.length ≤ 1
    obtain ⟨_, hmake⟩ | ⟨_, _, oldest, record, _, _, hmake⟩ :=
      makeRoom_cases hmax order packet.key
    · rw [hmake]
      exact Nat.zero_le 1
    · rw [hmake]
      exact Nat.le_refl 1
  · intro event hevent
    change event ∈ (tracker.makeRoom order packet.key).1 at hevent
    obtain ⟨_, hmake⟩ | ⟨hnew, hfull, oldest, record, hstored, holdest, hmake⟩ :=
      makeRoom_cases hmax order packet.key
    · rw [hmake] at hevent
      cases hevent
    · have hisNew : tracker.get packet.key = none := AList.lookup_eq_none.mpr hnew
      rw [hmake, List.mem_singleton] at hevent
      subst hevent
      have hkey : record.key = oldest := h.keyed _ _ hstored
      refine ⟨rfl, hisNew, ?_, ?_, holdest, ?_⟩
      · exact Nat.le_antisymm h.within hfull
      · rw [hkey]
        exact hstored
      · rintro hsame
        rw [hkey] at hsame
        rw [hsame, hisNew] at hstored
        cases hstored
  · intro other hother
    show (HashMap.upsert (tracker.makeRoom order packet.key).2 _ _ _).lookup other = _
    rw [HashMap.lookup_upsert_ne _ hother]
    exact hevicts.lookup_left other

theorem Bounded.sweepsIdle {tracker : FlowTracker} (h : tracker.Bounded) (order : FlowOrder)
    (now : Instant) :
    SweepsIdle tracker now (tracker.evictIdle order now).1 (tracker.evictIdle order now).2 := by
  have hevicts := evictIdle_evicts h.keyed order now
  refine ⟨?_, hevicts.distinct, ?_, ?_⟩
  · intro event hevent
    obtain ⟨entry, _, rfl⟩ := List.mem_map.mp hevent
    rfl
  · intro key record
    constructor
    · rintro ⟨event, hevent, rfl, rfl⟩
      refine ⟨hevicts.stored event hevent, ?_⟩
      obtain ⟨entry, hfiltered, rfl⟩ := List.mem_map.mp hevent
      exact of_decide_eq_true (List.mem_filter.mp hfiltered).2
    · rintro ⟨hstored, hidle⟩
      refine ⟨⟨record, .idleTimeout⟩, ?_, rfl, h.keyed _ _ hstored⟩
      apply List.mem_map.mpr
      refine ⟨⟨key, record⟩, List.mem_filter.mpr ⟨?_, decide_eq_true hidle⟩, rfl⟩
      simpa using (HashMap.lookup_eq_some_iff _).mp hstored
  · intro key record
    show (HashMap.retain tracker.flows _).lookup key = some record ↔ _
    rw [HashMap.lookup_retain, Option.filter_eq_some_iff]
    refine and_congr_right fun _ => ?_
    simp [FlowRecord.isIdle, durationSince]

/-- In every state that calls can reach, the table is within its bound, the next update gives
up at most the oldest flow and only for a new one, and the next sweep gives up exactly the
idle flows. -/
theorem capacity_policy (config : FlowTrackerConfig) (hmax : 1 ≤ config.maxFlows)
    (calls : List Call) : CapacityPolicy config ((new config).runCalls calls) := by
  have hbounded := runCalls_bounded hmax calls
  have hconfig : ((new config).runCalls calls).config = config := runCalls_config _ calls
  refine ⟨?_, ?_, ?_⟩
  · have hwithin := hbounded.within
    rwa [hconfig] at hwithin
  · intro order now created packet
    exact hbounded.updatesWithinCapacity (hconfig.symm ▸ hmax) order now created packet
  · intro order now
    exact hbounded.sweepsIdle order now

/-- A table of one flow, after two packets of different flows. -/
theorem capacity_policy_oneFlow :
    CapacityPolicy { maxFlows := 1 }
      ((new { maxFlows := 1 }).runCalls
        [.update (IterOrder.id _) 0 1 ⟨.newV4 10 0 0 1, .newV4 10 0 1 0, 1000, 80, 6, 100, 0, none⟩,
          .update (IterOrder.id _) 2 3
            ⟨.newV4 10 0 0 2, .newV4 10 0 1 0, 1001, 80, 6, 100, 0, none⟩]) :=
  capacity_policy { maxFlows := 1 } (Nat.le_refl 1) _

end GeSensor.Flow.FlowTracker
