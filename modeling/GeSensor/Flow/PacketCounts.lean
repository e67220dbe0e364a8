/-
  Flow/PacketCounts.lean --- the packets that the flows of a tracker count.

  Every update counts one packet in one record, and records leave the map only as closing
  events.  So the packets counted by the live flows and by the closed ones are as many as
  there were updates, as long as no 64-bit counter overflows.
-/
import GeSensor.Flow.Accounting
import GeSensor.Foundation.Totals

set_option autoImplicit false

namespace GeSensor.Flow

open GeSensor.Foundation

/-- The packets of both directions. -/
def FlowRecord.packets (record : FlowRecord) : Nat :=
  record.fwdPackets.toNat + record.revPackets.toNat

/-- The packets of closed flows. -/
def closedPackets (events : List FlowClosedEvent) : Nat :=
  total (fun event => event.record.packets) events

namespace FlowTracker

/-- The packets of the live flows. -/
def livePackets (tracker : FlowTracker) : Nat :=
  HashMap.totalSize FlowRecord.packets tracker.flows

/-- The events that a sequence of calls returns. -/
def closedBy (tracker : FlowTracker) : List Call → List FlowClosedEvent
  | [] => []
  | call :: rest => (tracker.call call).1 ++ closedBy (tracker.call call).2 rest

/-! ## One call -/

/-- A record that is touched counts one more packet. -/
theorem packets_touch (config : FlowTrackerConfig) (now : Instant) (packet : FlowPacket)
    {record : FlowRecord} (h : record.packets + 1 < 2 ^ 64) :
    (record.touch config now packet).packets = record.packets + 1 := by
  unfold FlowRecord.packets at h ⊢
  unfold FlowRecord.touch
  dsimp only
  have hone : (1 : UInt64).toNat = 1 := rfl
  split
  · rw [UInt64.toNat_add, hone]
    omega
  · rw [UInt64.toNat_add, hone]
    omega

/-- Making room moves the packets of a flow to those of the closed ones. -/
theorem makeRoom_packets (tracker : FlowTracker) (order : FlowOrder) (key : FlowKey) :
    HashMap.totalSize FlowRecord.packets (tracker.makeRoom order key).2 +
      closedPackets (tracker.makeRoom order key).1 = tracker.livePackets := by
  unfold makeRoom
  split
  · split
    · split
      · rename_i record hlookup
        have herased := HashMap.totalSize_erase FlowRecord.packets hlookup
        rw [closedPackets, total_cons, total_nil, Nat.add_zero]
        exact herased
      · rfl
    · rfl
  · rfl

theorem update_packets (tracker : FlowTracker) (order : FlowOrder) (now created : Instant)
    (packet : FlowPacket) (h : tracker.livePackets + 1 < 2 ^ 64) :
    (tracker.update order now created packet).2.livePackets +
      closedPackets (tracker.update order now created packet).1 = tracker.livePackets + 1 := by
  have hroom := makeRoom_packets tracker order packet.key
  have hinsert := HashMap.totalSize_insert FlowRecord.packets
    (tracker.makeRoom order packet.key).2 packet.key
    (FlowRecord.touch tracker.config now packet
      (((tracker.makeRoom order packet.key).2.lookup packet.key).getD (.new packet.key created)))
  -- the record that is touched counts what stood under the key
  have hshare : (((tracker.makeRoom order packet.key).2.lookup packet.key).getD
      (.new packet.key created)).packets =
        (((tracker.makeRoom order packet.key).2.lookup packet.key).map
          FlowRecord.packets).getD 0 := by
    cases (tracker.makeRoom order packet.key).2.lookup packet.key <;> rfl
  have hbound : (((tracker.makeRoom order packet.key).2.lookup packet.key).map
      FlowRecord.packets).getD 0 ≤ tracker.livePackets := by
    cases hlookup : (tracker.makeRoom order packet.key).2.lookup packet.key with
    | none => exact Nat.zero_le _
    | some record =>
        have hle := HashMap.size_le_totalSize FlowRecord.packets hlookup
        rw [Option.map_some, Option.getD_some]
        omega
  rw [packets_touch _ _ _ (by omega), hshare] at hinsert
  have hafter : (tracker.update order now created packet).2.livePackets =
      HashMap.totalSize FlowRecord.packets ((tracker.makeRoom order packet.key).2.insert packet.key
        (FlowRecord.touch tracker.config now packet
          (((tracker.makeRoom order packet.key).2.lookup packet.key).getD
            (.new packet.key created)))) := rfl
  have hclosed : (tracker.update order now created packet).1 =
      (tracker.makeRoom order packet.key).1 := rfl
  rw [hafter, hclosed]
  omega

theorem evictIdle_packets (tracker : FlowTracker) (order : FlowOrder) (now : Instant) :
    (tracker.evictIdle order now).2.livePackets +
      closedPackets (tracker.evictIdle order now).1 = tracker.livePackets := by
  have hretain := HashMap.totalSize_retain FlowRecord.packets tracker.flows
    fun _ record => !record.isIdle tracker.config.idleTimeout now
  have hevicted : closedPackets (tracker.evictIdle order now).1 =
      total (fun entry => entry.2.packets) (tracker.flows.entries.filter fun entry =>
        !!entry.2.isIdle tracker.config.idleTimeout now) := by
    simp only [Bool.not_not]
    rw [closedPackets, evictIdle, total, List.map_map]
    exact total_perm (fun entry => entry.2.packets) ((order.perm _).filter _)
  rw [hevicted]
  exact hretain

/-- The step lemma. -/
theorem call_packets (tracker : FlowTracker) (call : Call)
    (h : tracker.livePackets + call.packet?.toList.length < 2 ^ 64) :
    (tracker.call call).2.livePackets + closedPackets (tracker.call call).1 =
      tracker.livePackets + call.packet?.toList.length := by
  cases call with
  | update order now created packet => exact update_packets tracker order now created packet h
  | evictIdle order now => exact evictIdle_packets tracker order now

/-! ## Runs -/

/-- Live and closed flows together count the packets of all updates. -/
theorem runCalls_packets (tracker : FlowTracker) (calls : List Call)
    (h : tracker.livePackets + (calls.filterMap Call.packet?).length < 2 ^ 64) :
    (tracker.runCalls calls).livePackets + closedPackets (tracker.closedBy calls) =
      tracker.livePackets + (calls.filterMap Call.packet?).length := by
  induction calls generalizing tracker with
  | nil => rfl
  | cons call rest ih =>
      have hcount : ((call :: rest).filterMap Call.packet?).length =
          call.packet?.toList.length + (rest.filterMap Call.packet?).length := by
        rw [List.filterMap_cons]
        cases call.packet? with
        | none => exact (Nat.zero_add _).symm
        | some packet => exact Nat.add_comm _ 1
      rw [hcount] at h ⊢
      have hcall := call_packets tracker call (by omega)
      have hrest := ih (tracker.call call).2 (by omega)
      have hrun : tracker.runCalls (call :: rest) = (tracker.call call).2.runCalls rest := rfl
      rw [hrun, closedBy, closedPackets, total_append]
      unfold closedPackets at hcall hrest
      omega

end FlowTracker

end GeSensor.Flow
