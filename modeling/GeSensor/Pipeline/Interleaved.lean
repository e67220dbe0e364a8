/-
  Pipeline/Interleaved.lean --- the pipeline among the other threads.

  No frame visits a cell twice, so every interleaving of the capture thread with the
  dashboard and the eviction task does what `Sensor.run` does on some order of the same
  events, in which each frame is processed as a whole.  What is proved of whole frames
  therefore holds of the sensor as it runs.

  No visit can fail either: in no interleaving does the capture thread stop in a frame.
-/
import GeSensor.Ips.Counters
import GeSensor.Pipeline.Monitor

set_option autoImplicit false

namespace GeSensor.Pipeline

open GeSensor.Dashboard
open GeSensor.Dissectors
open GeSensor.Flow
open GeSensor.Foundation
open GeSensor.Ips
open GeSensor.Net
open GeSensor.PcapStore

/-! ## No cell is visited twice -/

theorem pushRow_visitsOnce (frame : CapturedFrame) (packet : PacketMetadata)
    (calls : List EvaluateArgs) (event : Option IpsEventRecord) (verdict : Verdict)
    (ruleId : String) {visited : List SensorCell} (h : .packetRing ∉ visited) :
    (pushRow frame packet calls event verdict ruleId).VisitsOnce visited :=
  ⟨h, fun _ => trivial⟩

theorem reportVerdict_visitsOnce (frame : CapturedFrame) (packet : PacketMetadata)
    (srcIp dstIp : IpAddr) (evaluated : Verdict × Option IpsRule) :
    (reportVerdict frame packet srcIp dstIp evaluated).VisitsOnce
      [.ipsEngine, .flowTracker, .packetsTotal, .dissectors, .pcapRing] := by
  obtain ⟨verdict, _ | rule⟩ := evaluated
  · exact pushRow_visitsOnce frame packet _ _ _ _ (by decide)
  · exact ⟨by decide, fun _ => ⟨by decide, fun _ =>
      pushRow_visitsOnce frame packet _ _ _ _ (by decide)⟩⟩

theorem inspectPacket_visitsOnce (frame : CapturedFrame) (packet : PacketMetadata)
    (srcIp dstIp : IpAddr) :
    (inspectPacket frame packet srcIp dstIp).VisitsOnce [.packetsTotal, .dissectors, .pcapRing] :=
  ⟨by decide, fun _ => ⟨by decide, fun _ =>
    reportVerdict_visitsOnce frame packet srcIp dstIp _⟩⟩

theorem countPacket_visitsOnce (frame : CapturedFrame) (packet : PacketMetadata) :
    (countPacket frame packet).VisitsOnce [.dissectors, .pcapRing] := by
  refine ⟨by decide, fun _ => ?_⟩
  dsimp only
  split
  · exact inspectPacket_visitsOnce frame packet _ _
  · exact pushRow_visitsOnce frame packet _ _ _ _ (by decide)

theorem frameVisits_visitsOnce (spare : Nat → Nat) (frame : CapturedFrame) :
    (frameVisits spare frame).VisitsOnce [] := by
  refine ⟨by decide, fun _ => ?_⟩
  cases dissectPacket frame.data with
  | error panic => trivial
  | ok answer =>
      cases answer with
      | none => exact ⟨by decide, fun _ => trivial⟩
      | some packet =>
          refine ⟨by decide, fun config => ?_⟩
          dsimp only
          split
          · trivial
          · exact countPacket_visitsOnce frame packet

/-! ## Every visit can be made -/

/-- The forensic ring is one that pushes can lead to. -/
def ValidCell : (cell : SensorCell) → SensorValue cell → Prop
  | .pcapRing, ring => ∃ packets, PacketRingBuffer.Represents ring packets
  | _, _ => True

theorem pushRow_safe (frame : CapturedFrame) (packet : PacketMetadata)
    (calls : List EvaluateArgs) (event : Option IpsEventRecord) (verdict : Verdict)
    (ruleId : String) : (pushRow frame packet calls event verdict ruleId).Safe ValidCell :=
  fun _ _ => ⟨⟨_, rfl, trivial⟩, trivial⟩

theorem reportVerdict_safe (frame : CapturedFrame) (packet : PacketMetadata)
    (srcIp dstIp : IpAddr) (evaluated : Verdict × Option IpsRule) :
    (reportVerdict frame packet srcIp dstIp evaluated).Safe ValidCell := by
  obtain ⟨verdict, _ | rule⟩ := evaluated
  · exact pushRow_safe frame packet _ _ _ _
  · exact fun _ _ => ⟨⟨_, rfl, trivial⟩, fun _ _ => ⟨⟨_, rfl, trivial⟩,
      pushRow_safe frame packet _ _ _ _⟩⟩

theorem inspectPacket_safe (frame : CapturedFrame) (packet : PacketMetadata)
    (srcIp dstIp : IpAddr) : (inspectPacket frame packet srcIp dstIp).Safe ValidCell :=
  fun _ _ => ⟨⟨_, rfl, trivial⟩, fun _ _ => ⟨⟨_, rfl, trivial⟩,
    reportVerdict_safe frame packet srcIp dstIp _⟩⟩

theorem countPacket_safe (frame : CapturedFrame) (packet : PacketMetadata) :
    (countPacket frame packet).Safe ValidCell := by
  refine fun _ _ => ⟨⟨_, rfl, trivial⟩, ?_⟩
  dsimp only
  split
  · exact inspectPacket_safe frame packet _ _
  · exact pushRow_safe frame packet _ _ _ _

theorem frameVisits_safe (spare : Nat → Nat) (frame : CapturedFrame) :
    (frameVisits spare frame).Safe ValidCell := by
  rintro ring ⟨packets, hring⟩
  obtain ⟨pushed, hpush, hpushed, -⟩ := PacketRingBuffer.push_represents spare hring
    ⟨frame.readings.tsSec, frame.readings.tsUsec, frame.data⟩
  refine ⟨⟨pushed, congrArg Except.toOption hpush, _, hpushed⟩, ?_⟩
  obtain ⟨answer, hanswer⟩ := dissectPacket_returns frame.data
  rw [hanswer]
  cases answer with
  | none => exact fun _ _ => ⟨⟨_, rfl, trivial⟩, trivial⟩
  | some packet =>
      refine fun config _ => ⟨⟨_, rfl, trivial⟩, ?_⟩
      dsimp only
      split
      · trivial
      · exact countPacket_safe frame packet

theorem meaning_valid (op : SensorOp) (value : SensorValue op.meaning.cell)
    (h : ValidCell op.meaning.cell value) : ValidCell op.meaning.cell (op.meaning.act value) := by
  cases op <;> trivial

theorem startCells_valid (spare : Nat → Nat) (settings : SensorSettings) (cell : SensorCell) :
    ValidCell cell (startCells spare settings cell) := by
  cases cell with
  | pcapRing => exact Sensor.start_ringValid spare settings
  | _ => trivial

/-! ## A frame as a whole -/

/-- What a report says of its frame, and what the engine answered, if it was called. -/
inductive FrameReport.Told (frame : CapturedFrame) : Option Answer → FrameReport → Prop
  | malformed : Told frame none
      { result := { outcome := .malformed }, counted := some (frame.iface, malformedLabel) }
  | disabled : Told frame none { result := { outcome := .disabled } }
  /-- a packet without IP addresses -/
  | unaddressed {packet : PacketMetadata} :
      Told frame none
        { result := { outcome := .recorded .pass "" }
          counted := some (frame.iface, protocolText packet.protocolName)
          row := some (buildPacketRecord packet frame.origLen frame.rowTime .pass "") }
  | unmatched {packet : PacketMetadata} {args : EvaluateArgs} {verdict : Verdict} :
      Told frame (some (verdict, none))
        { result := { outcome := .recorded verdict "", evaluateCalls := [args] }
          counted := some (frame.iface, protocolText packet.protocolName)
          row := some (buildPacketRecord packet frame.origLen frame.rowTime verdict "") }
  | matched {packet : PacketMetadata} {srcIp dstIp : IpAddr} {args : EvaluateArgs}
      {verdict : Verdict} {rule : IpsRule} :
      packet.srcIp = some srcIp → packet.dstIp = some dstIp →
      Told frame (some (verdict, some rule))
        { result := { outcome := .recorded verdict rule.id, evaluateCalls := [args] }
          counted := some (frame.iface, protocolText packet.protocolName)
          event := some (ipsEventRecord packet srcIp dstIp frame.eventTime verdict rule)
          row := some (buildPacketRecord packet frame.origLen frame.rowTime verdict rule.id) }

/-- What a frame does to the cells. -/
structure FrameEffect (spare : Nat → Nat) (frame : CapturedFrame) (cells : Cells SensorValue)
    (answer : Option Answer) (report : FrameReport) (after : Cells SensorValue) : Prop where
  process : (Sensor.ofCells cells).processFrame spare frame.readings frame.data =
    .ok (report.result, Sensor.ofCells after)
  packetsTotal : after .packetsTotal =
    report.counted.elim (cells .packetsTotal) (Counters.inc (cells .packetsTotal))
  alertsTotal : after .alertsTotal =
    report.event.elim (cells .alertsTotal) fun event =>
      Counters.inc (cells .alertsTotal) event.severity
  ipsEvents : after .ipsEvents =
    report.event.elim (cells .ipsEvents) (IpsEventRing.push (cells .ipsEvents))
  packetRing : after .packetRing =
    report.row.elim (cells .packetRing) (PacketRing.push (cells .packetRing))
  stats : IpsEngine.stats (after .ipsEngine) =
    answer.toList.foldl IpsStats.count (IpsEngine.stats (cells .ipsEngine))
  defaultAction : IpsEngine.defaultAction (after .ipsEngine) =
    IpsEngine.defaultAction (cells .ipsEngine)
  unmatched : ∀ verdict, answer = some (verdict, none) →
    verdict = IpsEngine.defaultAction (cells .ipsEngine)
  told : report.Told frame answer

/-- An evaluation without a rule returns the default action. -/
theorem evaluate_unmatched {engine : IpsEngine} {args : EvaluateArgs} {verdict : Verdict}
    (h : (engine.evaluate args).1 = (verdict, none)) : verdict = engine.defaultAction := by
  rw [IpsEngine.evaluate_result] at h
  split at h
  · cases h
  · cases h
    rfl

section

variable {spare : Nat → Nat} {frame : CapturedFrame} {packet : PacketMetadata}
  {srcIp dstIp : IpAddr} {cells after : Cells SensorValue} {report : FrameReport}
  {verdict : Verdict}

theorem addressed_or_not (packet : PacketMetadata) :
    (∃ srcIp dstIp, packet.srcIp = some srcIp ∧ packet.dstIp = some dstIp) ∨
      (packet.srcIp = none ∨ packet.dstIp = none) := by
  cases packet.srcIp with
  | none => exact Or.inr (Or.inl rfl)
  | some srcIp =>
      cases packet.dstIp with
      | none => exact Or.inr (Or.inr rfl)
      | some dstIp => exact Or.inl ⟨srcIp, dstIp, rfl, rfl⟩

theorem countPacket_of_addressed (hsrc : packet.srcIp = some srcIp)
    (hdst : packet.dstIp = some dstIp) :
    countPacket frame packet =
      .visit .packetsTotal (fun counters => some (Counters.inc counters
        (frame.iface, protocolText packet.protocolName))) fun _ =>
          inspectPacket frame packet srcIp dstIp := by
  rw [countPacket, hsrc, hdst]

theorem countPacket_of_unaddressed (h : packet.srcIp = none ∨ packet.dstIp = none) :
    countPacket frame packet =
      .visit .packetsTotal (fun counters => some (Counters.inc counters
        (frame.iface, protocolText packet.protocolName))) fun _ =>
          pushRow frame packet [] none .pass "" := by
  rw [countPacket]
  rcases h with hsrc | hdst
  · rw [hsrc]
  · rw [hdst]
    cases packet.srcIp <;> rfl

/-- A packet without both addresses is recorded without a look at it. -/
theorem processFrame_of_unaddressed {sensor : Sensor} {ring : PacketRingBuffer}
    (hpush : sensor.pcapRing.push spare
      ⟨frame.readings.tsSec, frame.readings.tsUsec, frame.data⟩ = .ok ring)
    (hanswer : dissectPacket frame.data = .ok (some packet))
    (henabled : sensor.dissectors.isEnabled packet.protocolName = true)
    (h : packet.srcIp = none ∨ packet.dstIp = none) :
    sensor.processFrame spare frame.readings frame.data =
      .ok ({ outcome := .recorded .pass "" }, { sensor with pcapRing := ring }) := by
  rw [Sensor.processFrame, hpush, ok_bind, hanswer, ok_bind]
  dsimp only
  rw [henabled]
  rcases h with hsrc | hdst
  · rw [hsrc]
    rfl
  · rw [hdst]
    cases packet.srcIp <;> rfl

/-- The cells behind the visits to the tracker and the engine. -/
def inspectedCells (frame : CapturedFrame) (packet : PacketMetadata) (srcIp dstIp : IpAddr)
    (cells : Cells SensorValue) : Cells SensorValue :=
  Function.update
    (Function.update cells .flowTracker (FlowTracker.update (cells .flowTracker)
      frame.readings.order frame.readings.now frame.readings.created
      (updateArgs packet srcIp dstIp)).2)
    .ipsEngine (IpsEngine.evaluate (cells .ipsEngine) (evaluateArgs packet srcIp dstIp)).2

theorem inspectPacket_run :
    (inspectPacket frame packet srcIp dstIp).run cells =
      (reportVerdict frame packet srcIp dstIp
        (IpsEngine.evaluate (cells .ipsEngine) (evaluateArgs packet srcIp dstIp)).1).run
        (inspectedCells frame packet srcIp dstIp cells) := rfl

/-- What the pipeline does with the packet of a frame, in the cells. -/
theorem inspectPacket_effect {ring : PacketRingBuffer}
    (hpush : PacketRingBuffer.push spare (cells .pcapRing)
      ⟨frame.readings.tsSec, frame.readings.tsUsec, frame.data⟩ = .ok ring)
    (hinspected : inspected? (Sensor.ofCells cells).dissectors frame.data =
      some { packet := packet, srcIp := srcIp, dstIp := dstIp })
    (hsrc : packet.srcIp = some srcIp) (hdst : packet.dstIp = some dstIp)
    (h : (inspectPacket frame packet srcIp dstIp).run
      (Function.update (Function.update cells .pcapRing ring) .packetsTotal
        (Counters.inc (cells .packetsTotal) (frame.iface, protocolText packet.protocolName))) =
          some (report, after)) :
    ∃ answer, FrameEffect spare frame cells answer report after := by
  have hpush' : (Sensor.ofCells cells).pcapRing.push spare
      ⟨frame.readings.tsSec, frame.readings.tsUsec, frame.data⟩ = .ok ring := hpush
  have hprocess := processFrame_of_inspected hpush' hinspected
  have hargs : InspectedPacket.evaluateArgs { packet := packet, srcIp := srcIp, dstIp := dstIp } =
      evaluateArgs packet srcIp dstIp := rfl
  rw [inspectPacket_run] at h
  rw [hargs] at hprocess
  cases hevaluate : (IpsEngine.evaluate (cells .ipsEngine) (evaluateArgs packet srcIp dstIp)).1 with
  | mk verdict matched =>
      have hengine : ((Sensor.ofCells cells).ipsEngine.evaluate
          (evaluateArgs packet srcIp dstIp)).1 = (verdict, matched) := hevaluate
      rw [hengine] at hprocess
      change (reportVerdict frame packet srcIp dstIp (IpsEngine.evaluate (cells .ipsEngine)
        (evaluateArgs packet srcIp dstIp)).1).run _ = _ at h
      rw [hevaluate] at h
      have hstats := IpsEngine.evaluate_stats (cells .ipsEngine) (evaluateArgs packet srcIp dstIp)
      have hdefault := (IpsEngine.evaluate_frame (cells .ipsEngine)
        (evaluateArgs packet srcIp dstIp)).2.2.1
      rw [hevaluate] at hstats
      refine ⟨some (verdict, matched), ?_⟩
      cases matched with
      | none =>
          cases h
          refine ⟨hprocess, rfl, rfl, rfl, rfl, hstats, hdefault, ?_, .unmatched⟩
          intro other hother
          cases hother
          exact evaluate_unmatched hevaluate
      | some rule =>
          cases h
          exact ⟨hprocess, rfl, rfl, rfl, rfl, hstats, hdefault,
            (fun _ hnone => nomatch hnone), .matched hsrc hdst⟩

theorem noAnswer (verdict : Verdict) (h : (none : Option Answer) = some (verdict, none)) :
    verdict = IpsEngine.defaultAction (cells .ipsEngine) :=
  (Option.some_ne_none _ h.symm).elim

/-- The step lemma: a frame whose visits are made one behind the other. -/
theorem frameVisits_effect (h : (frameVisits spare frame).run cells = some (report, after)) :
    ∃ answer, FrameEffect spare frame cells answer report after := by
  rw [frameVisits, Transaction.run] at h
  obtain ⟨ring, hring, h⟩ := Option.bind_eq_some_iff.mp h
  have hpush : PacketRingBuffer.push spare (cells .pcapRing)
      ⟨frame.readings.tsSec, frame.readings.tsUsec, frame.data⟩ = .ok ring := by
    cases hcall : PacketRingBuffer.push spare (cells .pcapRing)
        ⟨frame.readings.tsSec, frame.readings.tsUsec, frame.data⟩ with
    | error panic =>
        rw [hcall] at hring
        cases hring
    | ok pushed =>
        rw [hcall] at hring
        cases hring
        rfl
  obtain ⟨answer, hanswer⟩ := dissectPacket_returns frame.data
  rw [hanswer] at h
  have hpush' : (Sensor.ofCells cells).pcapRing.push spare
      ⟨frame.readings.tsSec, frame.readings.tsUsec, frame.data⟩ = .ok ring := hpush
  cases answer with
  | none =>
      cases h
      refine ⟨none, ?_, rfl, rfl, rfl, rfl, rfl, rfl, noAnswer, .malformed⟩
      rw [Sensor.processFrame, hpush', ok_bind, hanswer, ok_bind]
      rfl
  | some packet =>
      dsimp only [dissectedVisits] at h
      rw [Transaction.run, Option.bind_some, Function.update_eq_self] at h
      by_cases henabled : (Sensor.ofCells cells).dissectors.isEnabled packet.protocolName = true
      · have henabled' : (!DissectorConfig.isEnabled
            (Function.update cells .pcapRing ring .dissectors) packet.protocolName) = false := by
          change (!(Sensor.ofCells cells).dissectors.isEnabled packet.protocolName) = false
          rw [henabled]
          rfl
        rw [henabled', if_neg Bool.false_ne_true] at h
        rcases addressed_or_not packet with ⟨srcIp, dstIp, hsrc, hdst⟩ | hmissing
        · rw [countPacket_of_addressed hsrc hdst, Transaction.run, Option.bind_some] at h
          have hinspected : inspected? (Sensor.ofCells cells).dissectors frame.data =
              some { packet := packet, srcIp := srcIp, dstIp := dstIp } := by
            simp only [inspected?, addressed?, hanswer, hsrc, hdst, Option.filter_some, henabled,
              if_true]
          exact inspectPacket_effect hpush hinspected hsrc hdst h
        · rw [countPacket_of_unaddressed hmissing, Transaction.run, Option.bind_some] at h
          cases h
          exact ⟨none, processFrame_of_unaddressed hpush' hanswer henabled hmissing, rfl, rfl,
            rfl, rfl, rfl, rfl, noAnswer, .unaddressed⟩
      · have hdisabled : (!DissectorConfig.isEnabled
            (Function.update cells .pcapRing ring .dissectors) packet.protocolName) = true := by
          change (!(Sensor.ofCells cells).dissectors.isEnabled packet.protocolName) = true
          rw [Bool.eq_false_of_not_eq_true henabled]
          rfl
        rw [hdisabled, if_pos rfl] at h
        cases h
        refine ⟨none, ?_, rfl, rfl, rfl, rfl, rfl, rfl, noAnswer, .disabled⟩
        rw [Sensor.processFrame, hpush', ok_bind, hanswer, ok_bind]
        dsimp only
        rw [Bool.eq_false_of_not_eq_true henabled]
        rfl

end

/-! ## A sample run -/

/-- A TCP segment without flags. -/
def nullScanFrame : CapturedFrame where
  iface := "eth0"
  data :=
    [0, 0, 0, 0, 0, 0, 0, 0, 0, 0, 0, 0, 0x08, 0x00, 0x45, 0, 0, 40, 0, 0, 0, 0, 64, 6, 0, 0,
      192, 168, 1, 100, 10, 0, 0, 1, 0xC0, 0x00, 0, 22, 0, 0, 0, 1, 0, 0, 0, 0, 0x50, 0x00,
      0xFF, 0xFF, 0, 0, 0, 0]
  origLen := 54
  readings := .zero
  eventTime := 0
  rowTime := 0

/-- The frame, with two operations of other threads before its last visit. -/
def sampleLabels : List MonitorLabel :=
  .start nullScanFrame :: List.replicate 7 .advance ++
    [.operation (.toggleDissector "tcp" false), .operation (.setIpsMode .inline), .advance,
      .advance]

def sampleSpare : Nat → Nat := fun _ => 0

theorem sampleLabels_run :
    ∃ monitor, Run (Monitor.step sampleSpare) (.start sampleSpare .standard) sampleLabels monitor ∧
      monitor.running = none ∧
      monitor.results.map (fun report => report.result.outcome) =
        [.recorded .alert "GE-NET-003"] := by
  have hlast : (runLabels (Monitor.step sampleSpare) (fun _ _ => true)
      (Monitor.start sampleSpare .standard) sampleLabels).any (fun monitor =>
        monitor.running.isNone && monitor.results.map (fun report => report.result.outcome) ==
          [.recorded .alert "GE-NET-003"]) = true := by decide
  obtain ⟨monitor, hmonitor, htest⟩ := (Option.any_eq_true _ _).mp hlast
  rw [Bool.and_eq_true, Option.isNone_iff_eq_none, beq_iff_eq] at htest
  exact ⟨monitor, Run.append sampleLabels .nil hmonitor, htest⟩

/-! ## The sensor that is refined -/

/-- An event of the sensor. -/
def sensorEvent : SerialEvent CapturedFrame SensorOp → SensorEvent
  | .transaction frame => frame.event
  | .operation op => op.event

theorem step_operation (spare : Nat → Nat) (op : SensorOp) (cells : Cells SensorValue) :
    (Sensor.ofCells cells).step spare op.event =
      .ok (none, Sensor.ofCells (op.meaning.on cells)) := by
  cases op with
  | addIpsRule rule =>
      rw [SensorOp.event, Sensor.step]
      split
      · rename_i hknown
        refine congrArg (fun engine => Except.ok (none, { Sensor.ofCells cells with
          ipsEngine := engine })) ?_
        exact (if_pos hknown).symm
      · rename_i hnew
        refine congrArg (fun engine => Except.ok (none, { Sensor.ofCells cells with
          ipsEngine := engine })) ?_
        exact (if_neg hnew).symm
  | _ => rfl

/-- A serial run is a run of the sensor. -/
theorem run_of_runSerial {spare : Nat → Nat} {events : List (SerialEvent CapturedFrame SensorOp)}
    {cells after : Cells SensorValue} {reports : List FrameReport}
    (h : runSerial SensorOp.meaning (frameVisits spare) events cells = some (reports, after)) :
    ∃ results, (Sensor.ofCells cells).run spare (events.map sensorEvent) =
        .ok (results, Sensor.ofCells after) ∧
      results.filterMap id = reports.map FrameReport.result := by
  induction events generalizing cells reports with
  | nil =>
      cases h
      exact ⟨[], rfl, rfl⟩
  | cons event rest ih =>
      cases event with
      | operation op =>
          obtain ⟨results, hrun, hresults⟩ := ih h
          refine ⟨none :: results, ?_, hresults⟩
          rw [List.map_cons, sensorEvent, Sensor.run, step_operation, ok_bind]
          dsimp only
          rw [hrun]
          rfl
      | transaction frame =>
          obtain ⟨⟨report, middle⟩, hframe, hrest⟩ := Option.bind_eq_some_iff.mp h
          obtain ⟨⟨more, final⟩, hmore, hfinal⟩ := Option.map_eq_some_iff.mp hrest
          cases hfinal
          obtain ⟨answer, heffect⟩ := frameVisits_effect hframe
          obtain ⟨results, hrun, hresults⟩ := ih hmore
          have hstep : (Sensor.ofCells cells).step spare frame.event =
              .ok (some report.result, Sensor.ofCells middle) := by
            rw [CapturedFrame.event, Sensor.step, heffect.process]
            rfl
          refine ⟨some report.result :: results, ?_, ?_⟩
          · rw [List.map_cons, sensorEvent, Sensor.run, hstep, ok_bind]
            dsimp only
            rw [hrun]
            rfl
          · rw [List.filterMap_cons, List.map_cons, hresults]
            rfl

/-- Every interleaving of the capture thread with the other threads, up to a moment between
two frames, does what the sensor does on the same events in another order: the order of the
frames is kept, and so is that of the operations on each cell and that of everything that
does not overlap. -/
theorem monitor_refines_sensor (spare : Nat → Nat) (settings : SensorSettings)
    {labels : List MonitorLabel} {monitor : Monitor}
    (hrun : Run (Monitor.step spare) (.start spare settings) labels monitor)
    (hidle : monitor.running = none) :
    ∃ events results, Rearranges SensorOp.meaning labels events ∧
      (Sensor.start spare settings).run spare (events.map sensorEvent) =
        .ok (results, Sensor.ofCells monitor.cells) ∧
      results.filterMap id = monitor.results.map FrameReport.result := by
  obtain ⟨events, hevents, hserial⟩ := hrun.serializable (frameVisits_visitsOnce spare) hidle
  obtain ⟨results, hsensor, hresults⟩ := run_of_runSerial hserial
  exact ⟨events, results, hevents, hsensor, hresults⟩

/-- The sample run is one of the sensor. -/
theorem monitor_refines_sensor_sample :
    ∃ monitor, Run (Monitor.step sampleSpare) (.start sampleSpare .standard) sampleLabels monitor ∧
      ∃ events results, Rearranges SensorOp.meaning sampleLabels events ∧
        (Sensor.start sampleSpare .standard).run sampleSpare (events.map sensorEvent) =
          .ok (results, Sensor.ofCells monitor.cells) ∧
        results.filterMap id = monitor.results.map FrameReport.result := by
  obtain ⟨monitor, hrun, hidle, -⟩ := sampleLabels_run
  exact ⟨monitor, hrun, monitor_refines_sensor sampleSpare .standard hrun hidle⟩

/-- In no interleaving does the capture thread panic or get stuck in a frame. -/
theorem monitor_advances (spare : Nat → Nat) (settings : SensorSettings) {monitor : Monitor}
    (h : Reachable (Monitor.step spare) (.start spare settings) monitor)
    (hbusy : monitor.running.isSome) : ∃ next, Monitor.step spare monitor .advance = some next := by
  have hsound : monitor.Sound ValidCell :=
    h.invariant (Interleaving.Sound ValidCell)
      ⟨startCells_valid spare settings, fun _ hrest => (Option.some_ne_none _ hrest.symm).elim⟩
      fun hstate _ hstep => hstate.step (frameVisits_safe spare) meaning_valid hstep
  exact hsound.advances hbusy

/-- With the frame just received, the capture thread can go on. -/
theorem monitor_advances_sample :
    ∃ monitor next, Reachable (Monitor.step sampleSpare) (.start sampleSpare .standard) monitor ∧
      monitor.running.isSome ∧ Monitor.step sampleSpare monitor .advance = some next := by
  have hstart : Monitor.step sampleSpare (.start sampleSpare .standard) (.start nullScanFrame) =
      some { Monitor.start sampleSpare .standard with
        running := some (frameVisits sampleSpare nullScanFrame) } := rfl
  have hreachable : Reachable (Monitor.step sampleSpare) (.start sampleSpare .standard) _ :=
    .step .start trivial hstart
  obtain ⟨next, hnext⟩ := monitor_advances sampleSpare .standard hreachable rfl
  exact ⟨_, next, hreachable, rfl, hnext⟩

end GeSensor.Pipeline
