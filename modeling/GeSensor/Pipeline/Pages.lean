/-
  Pipeline/Pages.lean --- what the pages of the dashboard have in common.

  The counters of `/metrics`, the rows of the packets tab, the events of the IPS feed and
  the statistics of the engine are filled by different visits of the capture thread, each
  under a lock of its own.  A page may show one of them before and another after a visit.
  Between two frames, though, they agree, whatever the other threads did.

  `Booked` says what the cells hold in terms of the reports on the frames.  One frame
  keeps it, one operation keeps it, and so does every interleaving.
-/
import GeSensor.Pipeline.Interleaved

set_option autoImplicit false

namespace GeSensor.Pipeline

open GeSensor.Dashboard
open GeSensor.Dissectors
open GeSensor.Foundation
open GeSensor.Ips
open GeSensor.Net

/-! ## Books -/

/-- Rows numbered from one, as the ring numbers them. -/
def numberedRows (rows : List PacketRecord) : List PacketRecord :=
  rows.mapIdx fun i row => { row with no := i + 1 }

/-- The rows pushed for frames, in order. -/
def rowsOf (reports : List FrameReport) : List PacketRecord := reports.filterMap FrameReport.row

/-- The events pushed for frames, in order. -/
def eventsOf (reports : List FrameReport) : List IpsEventRecord :=
  reports.filterMap FrameReport.event

/-- The calls of `evaluate` made for frames, in order. -/
def callsOf (reports : List FrameReport) : List EvaluateArgs :=
  reports.flatMap fun report => report.result.evaluateCalls

/-- The number of rows that show a verdict. -/
def rowsWith (verdict : Verdict) (rows : List PacketRecord) : Nat :=
  rows.countP fun row => row.ipsVerdict == verdictDebug verdict

/-- What the cells hold, after frames with these reports. -/
structure Booked (reports : List FrameReport) (cells : Cells SensorValue) : Prop where
  told : ∀ report ∈ reports, ∃ frame answer, report.Told frame answer
  packetsTotal : ∀ select, Counters.sumWhere select (cells .packetsTotal) =
    (reports.filterMap FrameReport.counted).countP select
  alertsTotal : ∀ select, Counters.sumWhere select (cells .alertsTotal) =
    (eventsOf reports).countP fun event => select event.severity
  ipsEvents : IpsEventRing.events (cells .ipsEvents) = (eventsOf reports).rtake maxIpsEvents
  counter : PacketRing.counter (cells .packetRing) = (rowsOf reports).length
  packetRing : PacketRing.packets (cells .packetRing) =
    (numberedRows (rowsOf reports)).rtake maxRecentPackets
  defaultAction : IpsEngine.defaultAction (cells .ipsEngine) = .pass
  inspected : (IpsEngine.stats (cells .ipsEngine)).packetsInspected =
    (callsOf reports).length
  matched : (IpsEngine.stats (cells .ipsEngine)).rulesMatched = (eventsOf reports).length
  dropped : (IpsEngine.stats (cells .ipsEngine)).packetsDropped = rowsWith .drop (rowsOf reports)
  alerted : (IpsEngine.stats (cells .ipsEngine)).packetsAlerted = rowsWith .alert (rowsOf reports)
  passed : (IpsEngine.stats (cells .ipsEngine)).packetsPassed +
    (IpsEngine.stats (cells .ipsEngine)).packetsDropped +
    (IpsEngine.stats (cells .ipsEngine)).packetsAlerted = (callsOf reports).length

theorem numberedRows_concat (rows : List PacketRecord) (row : PacketRecord) :
    numberedRows (rows ++ [row]) = numberedRows rows ++ [{ row with no := rows.length + 1 }] :=
  List.mapIdx_concat

theorem Booked.start (spare : Nat → Nat) (settings : SensorSettings) :
    Booked [] (startCells spare settings) where
  told := fun _ hreport => absurd hreport List.not_mem_nil
  packetsTotal := fun _ => rfl
  alertsTotal := fun _ => rfl
  ipsEvents := rfl
  counter := rfl
  packetRing := rfl
  defaultAction := IpsEngine.loadDefaultRules_defaultAction _
  inspected := congrArg IpsStats.packetsInspected (IpsEngine.loadDefaultRules_stats _)
  matched := congrArg IpsStats.rulesMatched (IpsEngine.loadDefaultRules_stats _)
  dropped := congrArg IpsStats.packetsDropped (IpsEngine.loadDefaultRules_stats _)
  alerted := congrArg IpsStats.packetsAlerted (IpsEngine.loadDefaultRules_stats _)
  passed := by
    have hstats := IpsEngine.loadDefaultRules_stats (IpsEngine.new settings.ipsMode .pass)
    change ((IpsEngine.new settings.ipsMode .pass).loadDefaultRules.stats).packetsPassed +
      ((IpsEngine.new settings.ipsMode .pass).loadDefaultRules.stats).packetsDropped +
      ((IpsEngine.new settings.ipsMode .pass).loadDefaultRules.stats).packetsAlerted = 0
    rw [hstats]
    rfl

section

variable {spare : Nat → Nat} {reports : List FrameReport} {report : FrameReport}
  {frame : CapturedFrame} {cells after : Cells SensorValue} {answer : Option Answer}

theorem rowsOf_concat : rowsOf (reports ++ [report]) = rowsOf reports ++ report.row.toList := by
  cases hrow : report.row <;> simp [rowsOf, hrow]

theorem eventsOf_concat :
    eventsOf (reports ++ [report]) = eventsOf reports ++ report.event.toList := by
  cases hevent : report.event <;> simp [eventsOf, hevent]

theorem callsOf_concat :
    callsOf (reports ++ [report]) = callsOf reports ++ report.result.evaluateCalls := by
  simp [callsOf]

/-- What the engine counts for a frame is what the frame's report shows. -/
theorem FrameReport.Told.stats (h : report.Told frame answer)
    (hunmatched : ∀ verdict, answer = some (verdict, none) → verdict = .pass) (stats : IpsStats) :
    let counted := answer.toList.foldl IpsStats.count stats
    counted.packetsInspected = stats.packetsInspected + report.result.evaluateCalls.length ∧
    counted.rulesMatched = stats.rulesMatched + report.event.toList.length ∧
    counted.packetsDropped = stats.packetsDropped + rowsWith .drop report.row.toList ∧
    counted.packetsAlerted = stats.packetsAlerted + rowsWith .alert report.row.toList ∧
    counted.packetsPassed + counted.packetsDropped + counted.packetsAlerted =
      stats.packetsPassed + stats.packetsDropped + stats.packetsAlerted +
        report.result.evaluateCalls.length := by
  have hrow (packet : PacketMetadata) (verdict other : Verdict) (ruleId : String) :
      rowsWith other [buildPacketRecord packet frame.origLen frame.rowTime verdict ruleId] =
        if verdict = other then 1 else 0 := by
    rw [rowsWith, List.countP_singleton]
    refine if_congr ?_ rfl rfl
    rw [beq_iff_eq]
    exact verdictDebug_injective.eq_iff
  cases h with
  | malformed => simp [rowsWith]
  | disabled => simp [rowsWith]
  | unaddressed => simp [hrow]
  | unmatched =>
      rw [hunmatched _ rfl]
      simp [hrow, IpsStats.count]
      omega
  | @matched packet srcIp dstIp args verdict rule =>
      cases verdict <;> simp [hrow, IpsStats.count] <;> omega

/-- The step lemma. -/
theorem Booked.concat (h : Booked reports cells)
    (heffect : FrameEffect spare frame cells answer report after) :
    Booked (reports ++ [report]) after := by
  have htold := heffect.told
  obtain ⟨hinspected, hmatched, hdropped, halerted, hpassed⟩ := htold.stats
    (fun verdict hnone => (heffect.unmatched verdict hnone).trans h.defaultAction)
    (IpsEngine.stats (cells .ipsEngine))
  rw [← heffect.stats] at hinspected hmatched hdropped halerted hpassed
  refine ⟨?_, ?_, ?_, ?_, ?_, ?_, ?_, ?_, ?_, ?_, ?_, ?_⟩
  · exact forall_mem_join h.told ⟨frame, answer, htold⟩
  · intro select
    rw [heffect.packetsTotal, List.filterMap_append, List.countP_append]
    cases hcounted : report.counted with
    | none => simp [hcounted, h.packetsTotal]
    | some label =>
        simp only [Option.elim_some, Counters.sumWhere_inc, h.packetsTotal]
        simp [hcounted, List.countP_singleton]
  · intro select
    rw [heffect.alertsTotal, eventsOf_concat, List.countP_append]
    cases report.event with
    | none => exact h.alertsTotal select
    | some event =>
        rw [Option.elim_some, Counters.sumWhere_inc, h.alertsTotal, Option.toList_some,
          List.countP_singleton]
  · rw [heffect.ipsEvents, eventsOf_concat]
    cases report.event with
    | none =>
        rw [Option.elim_none, h.ipsEvents, Option.toList_none, List.append_nil]
    | some event =>
        rw [Option.elim_some, IpsEventRing.push, h.ipsEvents, pushRecent_rtake (by decide),
          Option.toList_some]
  · rw [heffect.packetRing, rowsOf_concat]
    cases report.row with
    | none => rw [Option.elim_none, h.counter, Option.toList_none, List.append_nil]
    | some row => simp [PacketRing.push, h.counter]
  · rw [heffect.packetRing, rowsOf_concat]
    cases report.row with
    | none => rw [Option.elim_none, h.packetRing, Option.toList_none, List.append_nil]
    | some row =>
        rw [Option.elim_some, PacketRing.push, h.counter, h.packetRing,
          pushRecent_rtake (by decide), Option.toList_some, numberedRows_concat]
  · rw [heffect.defaultAction, h.defaultAction]
  · rw [hinspected, h.inspected, callsOf_concat, List.length_append]
  · rw [hmatched, h.matched, eventsOf_concat, List.length_append]
  · rw [hdropped, h.dropped, rowsOf_concat, rowsWith, rowsWith, rowsWith, List.countP_append]
  · rw [halerted, h.alerted, rowsOf_concat, rowsWith, rowsWith, rowsWith, List.countP_append]
  · rw [hpassed, h.passed, callsOf_concat, List.length_append]

/-- A change of the mode or of the rules. -/
theorem Booked.of_engine (h : Booked reports cells) {engine : IpsEngine}
    (hdefault : engine.defaultAction = IpsEngine.defaultAction (cells .ipsEngine))
    (hstats : engine.stats = IpsEngine.stats (cells .ipsEngine)) :
    Booked reports (Function.update cells .ipsEngine engine) :=
  { h with
    defaultAction := hdefault.trans h.defaultAction
    inspected := (congrArg IpsStats.packetsInspected hstats).trans h.inspected
    matched := (congrArg IpsStats.rulesMatched hstats).trans h.matched
    dropped := (congrArg IpsStats.packetsDropped hstats).trans h.dropped
    alerted := (congrArg IpsStats.packetsAlerted hstats).trans h.alerted
    passed := (congrArg (fun stats : IpsStats =>
      stats.packetsPassed + stats.packetsDropped + stats.packetsAlerted) hstats).trans h.passed }

theorem Booked.operation (op : SensorOp) (h : Booked reports cells) :
    Booked reports (op.meaning.on cells) := by
  cases op with
  | toggleDissector name state => exact { h with }
  | evictIdle order now => exact { h with }
  | setIpsMode mode =>
      exact h.of_engine (IpsEngine.setMode_defaultAction _ _) (IpsEngine.setMode_stats _ _)
  | addIpsRule rule =>
      refine h.of_engine ?_ ?_
      · dsimp only [SensorOp.meaning]
        split <;> rfl
      · dsimp only [SensorOp.meaning]
        split <;> rfl
  | deleteIpsRule ruleId => exact h.of_engine rfl rfl

end

/-- Between two frames the cells hold what the frames' reports say, in every interleaving. -/
theorem monitor_booked (spare : Nat → Nat) (settings : SensorSettings)
    {labels : List MonitorLabel} {monitor : Monitor}
    (hrun : Run (Monitor.step spare) (.start spare settings) labels monitor)
    (hidle : monitor.running = none) : Booked monitor.results monitor.cells :=
  hrun.serial_invariant (frameVisits_visitsOnce spare) (Booked.start spare settings)
    (fun hbooked hframe => by
      obtain ⟨answer, heffect⟩ := frameVisits_effect hframe
      exact hbooked.concat heffect)
    (fun op hbooked => hbooked.operation op) hidle

/-! ## Pages -/

/-- What the pages of the dashboard have in common, behind frames with these reports. -/
structure PagesAgree (reports : List FrameReport) (cells : Cells SensorValue) : Prop where
  /-- packets counted under a protocol, and rows numbered -/
  rows : Counters.sumWhere (fun label => label.2 != malformedLabel) (cells .packetsTotal) =
    PacketRing.counter (cells .packetRing)
  rowsNumbered : (rowsOf reports).length = PacketRing.counter (cells .packetRing)
  /-- the latest rows are kept, with the latest numbers -/
  rowsKept : PacketRing.packets (cells .packetRing) =
    (numberedRows (rowsOf reports)).rtake maxRecentPackets
  rowNumbers : (PacketRing.packets (cells .packetRing)).map PacketRecord.no =
    (List.range' 1 (PacketRing.counter (cells .packetRing))).rtake maxRecentPackets
  /-- alerts counted, and rules matched -/
  alerts : Counters.sumWhere (fun _ => true) (cells .alertsTotal) =
    (IpsEngine.stats (cells .ipsEngine)).rulesMatched
  /-- every match has its event, and the latest events are kept -/
  eventsMatched : (eventsOf reports).length = (IpsEngine.stats (cells .ipsEngine)).rulesMatched
  eventsKept : IpsEventRing.events (cells .ipsEvents) = (eventsOf reports).rtake maxIpsEvents
  /-- every packet inspected has a verdict -/
  verdicts : (IpsEngine.stats (cells .ipsEngine)).packetsPassed +
      (IpsEngine.stats (cells .ipsEngine)).packetsDropped +
      (IpsEngine.stats (cells .ipsEngine)).packetsAlerted =
    (IpsEngine.stats (cells .ipsEngine)).packetsInspected
  matched : (IpsEngine.stats (cells .ipsEngine)).rulesMatched ≤
    (IpsEngine.stats (cells .ipsEngine)).packetsInspected
  inspected : (IpsEngine.stats (cells .ipsEngine)).packetsInspected ≤
    PacketRing.counter (cells .packetRing)

/-- What a frame adds to the totals. -/
theorem FrameReport.Told.totals {frame : CapturedFrame} {answer : Option Answer}
    {report : FrameReport} (h : report.Told frame answer) :
    report.counted.toList.countP (fun label => label.2 != malformedLabel) =
        report.row.toList.length ∧
      report.event.toList.length ≤ report.result.evaluateCalls.length ∧
      report.result.evaluateCalls.length ≤ report.row.toList.length := by
  have hprotocol : ∀ name, (protocolText name != malformedLabel) = true := by
    intro name
    cases name <;> decide
  cases h <;> simp [hprotocol]

theorem totals_of_told {reports : List FrameReport}
    (h : ∀ report ∈ reports, ∃ frame answer, report.Told frame answer) :
    (reports.filterMap FrameReport.counted).countP (fun label => label.2 != malformedLabel) =
        (rowsOf reports).length ∧
      (eventsOf reports).length ≤ (callsOf reports).length ∧
      (callsOf reports).length ≤ (rowsOf reports).length := by
  induction reports using List.reverseRecOn with
  | nil => exact ⟨rfl, Nat.le_refl _, Nat.le_refl _⟩
  | append_singleton reports report ih =>
      rw [List.forall_mem_append] at h
      obtain ⟨hcounted, hevents, hcalls⟩ := ih h.1
      obtain ⟨frame, answer, htold⟩ := h.2 report (List.mem_singleton.mpr rfl)
      obtain ⟨hcounted', hevents', hcalls'⟩ := htold.totals
      have hlast : [report].filterMap FrameReport.counted = report.counted.toList := by
        cases hlabel : report.counted <;> simp [hlabel]
      rw [List.filterMap_append, List.countP_append, hlast, rowsOf_concat, eventsOf_concat,
        callsOf_concat, List.length_append, List.length_append, List.length_append]
      omega

theorem numberedRows_no (rows : List PacketRecord) :
    (numberedRows rows).map PacketRecord.no = List.range' 1 rows.length := by
  induction rows using List.reverseRecOn with
  | nil => rfl
  | append_singleton rows row ih =>
      rw [numberedRows_concat, List.map_append, ih, List.length_append, List.length_singleton,
        List.range'_concat]
      simp [Nat.add_comm]

theorem Booked.pagesAgree {reports : List FrameReport} {cells : Cells SensorValue}
    (h : Booked reports cells) : PagesAgree reports cells := by
  obtain ⟨hcounted, hevents, hcalls⟩ := totals_of_told h.told
  refine ⟨?_, h.counter.symm, h.packetRing, ?_, ?_, h.matched.symm, h.ipsEvents, ?_, ?_, ?_⟩
  · rw [h.packetsTotal, hcounted, h.counter]
  · rw [h.packetRing, map_rtake, numberedRows_no, h.counter]
  · rw [h.alertsTotal, h.matched, List.countP_true]
  · rw [h.passed, h.inspected]
  · rw [h.matched, h.inspected]
    exact hevents
  · rw [h.inspected, h.counter]
    exact hcalls

/-- In every interleaving, at every moment between two frames: the counters, the packets tab,
the IPS feed and the engine's statistics agree. -/
theorem pages_agree (spare : Nat → Nat) (settings : SensorSettings)
    {labels : List MonitorLabel} {monitor : Monitor}
    (hrun : Run (Monitor.step spare) (.start spare settings) labels monitor)
    (hidle : monitor.running = none) : PagesAgree monitor.results monitor.cells :=
  (monitor_booked spare settings hrun hidle).pagesAgree

/-- The pages behind the sample run. -/
theorem pages_agree_sample :
    ∃ monitor, Run (Monitor.step sampleSpare) (.start sampleSpare .standard) sampleLabels monitor ∧
      PagesAgree monitor.results monitor.cells := by
  obtain ⟨monitor, hrun, hidle, -⟩ := sampleLabels_run
  exact ⟨monitor, hrun, pages_agree sampleSpare .standard hrun hidle⟩

/-! ## The feed and the rows -/

/-- One description of an event and of the row of its packet. -/
structure Describes (event : IpsEventRecord) (row : PacketRecord) : Prop where
  srcIp : event.srcIp = row.srcIp
  dstIp : event.dstIp = row.dstIp
  srcPort : event.srcPort = row.srcPort
  dstPort : event.dstPort = row.dstPort
  protocol : event.protocol = row.protocol
  verdict : event.verdict = row.ipsVerdict
  ruleId : event.ruleId = row.ipsRule

/-- The row of a frame, with the event that was pushed for it. -/
def storyOf (reports : List FrameReport) : List (PacketRecord × Option IpsEventRecord) :=
  reports.filterMap fun report => report.row.map fun row => (row, report.event)

theorem storyOf_rows (reports : List FrameReport) :
    (storyOf reports).map Prod.fst = rowsOf reports := by
  rw [storyOf, List.map_filterMap, rowsOf]
  refine List.filterMap_congr fun report _ => ?_
  cases report.row <;> rfl

/-- No event is pushed without a row. -/
theorem storyOf_events {reports : List FrameReport}
    (h : ∀ report ∈ reports, ∃ frame answer, report.Told frame answer) :
    (storyOf reports).filterMap Prod.snd = eventsOf reports := by
  rw [storyOf, List.filterMap_filterMap, eventsOf]
  refine List.filterMap_congr fun report hreport => ?_
  obtain ⟨frame, answer, htold⟩ := h report hreport
  cases htold <;> rfl

theorem describes_of_told {frame : CapturedFrame} {answer : Option Answer} {report : FrameReport}
    (h : report.Told frame answer) {row : PacketRecord} (hrow : report.row = some row) :
    (∀ event, report.event = some event → Describes event row) ∧
      (report.event = none → row.ipsRule = "") := by
  cases h with
  | malformed => cases hrow
  | disabled => cases hrow
  | unaddressed =>
      cases hrow
      exact ⟨nofun, fun _ => rfl⟩
  | unmatched =>
      cases hrow
      exact ⟨nofun, fun _ => rfl⟩
  | matched hsrc hdst =>
      cases hrow
      refine ⟨fun event hevent => ?_, nofun⟩
      cases hevent
      have hsrcText : addressText _ = _ := congrArg addressText hsrc
      have hdstText : addressText _ = _ := congrArg addressText hdst
      exact ⟨hsrcText.symm, hdstText.symm, rfl, rfl, rfl, rfl, rfl⟩

/-- In every interleaving, at every moment between two frames: the packets tab shows the
latest rows and the IPS feed the latest events of one story, in which every event describes
the packet of its row, every row without an event shows no rule, and the alert counters
count the events by severity. -/
theorem feed_describes_rows (spare : Nat → Nat) (settings : SensorSettings)
    {labels : List MonitorLabel} {monitor : Monitor}
    (hrun : Run (Monitor.step spare) (.start spare settings) labels monitor)
    (hidle : monitor.running = none) :
    ∃ story : List (PacketRecord × Option IpsEventRecord),
      PacketRing.packets (monitor.cells .packetRing) =
        (numberedRows (story.map Prod.fst)).rtake maxRecentPackets ∧
      IpsEventRing.events (monitor.cells .ipsEvents) =
        (story.filterMap Prod.snd).rtake maxIpsEvents ∧
      (∀ severity, Counters.value (monitor.cells .alertsTotal) severity =
        (story.filterMap Prod.snd).countP fun event => event.severity == severity) ∧
      ∀ row event, (row, event) ∈ story →
        (∀ shown, event = some shown → Describes shown row) ∧ (event = none → row.ipsRule = "") := by
  have hbooked := monitor_booked spare settings hrun hidle
  refine ⟨storyOf monitor.results, ?_, ?_, fun severity => ?_, fun row event hstory => ?_⟩
  · rw [storyOf_rows, hbooked.packetRing]
  · rw [storyOf_events hbooked.told, hbooked.ipsEvents]
  · rw [storyOf_events hbooked.told, ← Counters.sumWhere_eq_value, hbooked.alertsTotal]
  · obtain ⟨report, hreport, hpair⟩ := List.mem_filterMap.mp hstory
    obtain ⟨shown, hrow, hshown⟩ := Option.map_eq_some_iff.mp hpair
    cases hshown
    obtain ⟨frame, answer, htold⟩ := hbooked.told report hreport
    exact describes_of_told htold hrow

/-- The story of the sample run. -/
theorem feed_describes_rows_sample :
    ∃ monitor, Run (Monitor.step sampleSpare) (.start sampleSpare .standard) sampleLabels monitor ∧
      ∃ story : List (PacketRecord × Option IpsEventRecord),
        PacketRing.packets (monitor.cells .packetRing) =
          (numberedRows (story.map Prod.fst)).rtake maxRecentPackets ∧
        IpsEventRing.events (monitor.cells .ipsEvents) =
          (story.filterMap Prod.snd).rtake maxIpsEvents ∧
        (∀ severity, Counters.value (monitor.cells .alertsTotal) severity =
          (story.filterMap Prod.snd).countP fun event => event.severity == severity) ∧
        ∀ row event, (row, event) ∈ story →
          (∀ shown, event = some shown → Describes shown row) ∧
            (event = none → row.ipsRule = "") := by
  obtain ⟨monitor, hrun, hidle, -⟩ := sampleLabels_run
  exact ⟨monitor, hrun, feed_describes_rows sampleSpare .standard hrun hidle⟩

end GeSensor.Pipeline
