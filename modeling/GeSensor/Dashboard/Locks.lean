/-
  Dashboard/Locks.lean --- the lock usage of the sensor's threads.

  Each program lists the locks that a piece of `src/main.rs` or an `AppState`
  method of `src/utils/dashboard.rs` takes, in the order of the source, with the
  guards' scopes as nesting.  Branches that return early or take no lock are
  alternatives.  The capture thread nests the deepest: it holds the engine across
  the logging of an alert, a read of the configuration and a whole capture.
-/
import GeSensor.Foundation.LockOrder
import Mathlib.Data.Fintype.EquivFin
import Mathlib.Order.Fin.Basic

set_option autoImplicit false

namespace GeSensor.Dashboard

open GeSensor.Foundation
open LockProgram (skip seq either optionally sequence locked)

/-- The locks shared by the capture thread, the eviction task and the handlers. -/
inductive SensorLock where
  | flowTracker
  | ipsEngine
  | ipsEventRing
  | config
  | pcapOutputDir
  | pcapRing
  | pcapCaptures
  | packetRing
  | captureInterface
  deriving DecidableEq, Repr

/-- The lock usage of a piece of the sensor. -/
abbrev SensorProgram : Type := LockProgram SensorLock

/-- `lock()` for one statement. -/
def lockOnce (lock : SensorLock) : SensorProgram := locked lock .write skip

/-- `read()` for one statement. -/
def readOnce (lock : SensorLock) : SensorProgram := locked lock .read skip

/-! ## Methods of `AppState` -/

namespace Locks

def buildIpsInfo : SensorProgram := locked .ipsEngine .write (readOnce .config)

def ipsRules : SensorProgram := lockOnce .ipsEngine

/-- A text that is no mode is refused without a lock. -/
def setIpsMode : SensorProgram :=
  optionally (sequence [lockOnce .ipsEngine, locked .config .write skip, buildIpsInfo])

/-- A request that is no rule is refused without a lock, a duplicate under the
first. -/
def addIpsRule : SensorProgram :=
  optionally (seq (lockOnce .ipsEngine) (optionally ipsRules))

def deleteIpsRule : SensorProgram := lockOnce .ipsEngine

def recentIpsEvents : SensorProgram := lockOnce .ipsEventRing

def pcapPushPacketBytes : SensorProgram := lockOnce .pcapRing

/-- The records are not touched when the file cannot be written. -/
def createPcapCapture : SensorProgram :=
  sequence [readOnce .pcapOutputDir, lockOnce .pcapRing, optionally (lockOnce .pcapCaptures)]

/-- Both guards live to the end of the method. -/
def pcapStorage : SensorProgram :=
  locked .config .read (locked .pcapCaptures .write (lockOnce .pcapRing))

def pcapDownload : SensorProgram := lockOnce .pcapCaptures

def pcapBulkDownload : SensorProgram := lockOnce .pcapCaptures

def pcapReconstruct : SensorProgram := lockOnce .pcapCaptures

def listInterfaces : SensorProgram := readOnce .captureInterface

/-- A name that is no device is refused without a lock. -/
def setInterface : SensorProgram := optionally (locked .captureInterface .write skip)

def recentPackets : SensorProgram := lockOnce .packetRing

def flowDetails : SensorProgram := lockOnce .flowTracker

def toggleDissector : SensorProgram := locked .config .write skip

def snapshot : SensorProgram :=
  sequence [readOnce .captureInterface, lockOnce .flowTracker, buildIpsInfo, readOnce .config]

/-- The health endpoint reads the interface itself. -/
def health : SensorProgram := readOnce .captureInterface

/-! ## Background threads -/

/-- One round of the flow eviction task. -/
def evictIdle : SensorProgram := lockOnce .flowTracker

/-- The capture thread starts on an interface, or notices that it should restart. -/
def captureStart : SensorProgram := readOnce .captureInterface

/-- What the capture thread does under the engine's lock when a rule has matched. -/
def alert : SensorProgram :=
  sequence [lockOnce .ipsEventRing, readOnce .config, optionally createPcapCapture]

/-- A packet with both IP addresses. -/
def inspect : SensorProgram :=
  seq (lockOnce .flowTracker) (locked .ipsEngine .write (optionally alert))

/-- One iteration of the capture thread that receives a packet: it may be
malformed, its dissector switched off, or its addresses missing; every few seconds
the flows are counted for the log. -/
def capturePacket : SensorProgram :=
  seq pcapPushPacketBytes (optionally (seq (readOnce .config) (optionally
    (sequence [optionally inspect, lockOnce .packetRing, optionally (lockOnce .flowTracker)]))))

end Locks

/-- Everything the sensor's threads run. -/
def sensorPrograms : List SensorProgram :=
  [Locks.captureStart, Locks.capturePacket, Locks.evictIdle, Locks.buildIpsInfo, Locks.ipsRules,
    Locks.setIpsMode, Locks.addIpsRule, Locks.deleteIpsRule, Locks.recentIpsEvents,
    Locks.createPcapCapture, Locks.pcapStorage, Locks.pcapDownload, Locks.pcapBulkDownload,
    Locks.pcapReconstruct, Locks.listInterfaces, Locks.setInterface, Locks.recentPackets,
    Locks.flowDetails, Locks.toggleDissector, Locks.snapshot, Locks.health]

/-! ## No deadlock -/

/-- The order in which locks are nested: the engine first, then the configuration,
the records, and the ring. -/
def SensorLock.rank : SensorLock → Fin 4
  | .ipsEngine => 0
  | .config => 1
  | .pcapCaptures => 2
  | .pcapRing | .pcapOutputDir | .ipsEventRing => 3
  | .flowTracker | .packetRing | .captureInterface => 0

theorem sensorPrograms_respect_rank :
    ∀ program ∈ sensorPrograms, program.Respects SensorLock.rank [] := by
  decide

/-- No run of the sensor's threads, in any number and in any interleaving, reaches
a state in which some of them all wait for each other. -/
theorem sensor_not_deadlocked {state : LockState SensorLock}
    (h : Reachable (lockStep sensorPrograms) .initial state) : ¬ state.Deadlocked :=
  not_deadlocked_of_respects sensorPrograms_respect_rank h

/-- A handler shows the engine and waits for the configuration, which another one
is writing. -/
def blockedReader : LockState SensorLock where
  threads :=
    [⟨[(.ipsEngine, .write)],
        [.acquire .config .read, .release .config, .release .ipsEngine]⟩,
      ⟨[(.config, .write)], [.release .config]⟩]
  queue := fun lock => if lock = .config then [0] else []

/-- The moves that lead there. -/
def blockedReaderMoves : List (LockLabel SensorLock) :=
  [.spawn, .spawn,
    .begin 0 [.acquire .ipsEngine .write, .acquire .config .read, .release .config,
      .release .ipsEngine],
    .begin 1 [.acquire .config .write, .release .config],
    .request 0, .grant 0, .request 1, .grant 1, .request 0]

/-- One waiting thread is not a deadlock. -/
theorem sensor_not_deadlocked_blockedReader : ¬ blockedReader.Deadlocked := by
  have hmoves : ∀ state, runLabels (lockStep sensorPrograms) (fun _ _ => decide True) .initial
      blockedReaderMoves = some state → state = blockedReader := by
    intro state hrun
    cases hrun
    refine congrArg (LockState.mk _) (funext fun lock => ?_)
    cases lock <;> rfl
  have hreached : Reachable (lockStep sensorPrograms) .initial blockedReader := by
    cases hrun : runLabels (lockStep sensorPrograms) (fun _ _ => decide True) .initial
        blockedReaderMoves with
    | none => cases hrun
    | some state => exact hmoves state hrun ▸ reachableBy_of_runLabels _ .start hrun
  exact sensor_not_deadlocked hreached

end GeSensor.Dashboard
