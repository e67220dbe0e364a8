/-
  Server/Downloads.lean --- captures as a client of the HTTP API gets them.

  The list of the captures, the bulk download and the file of one capture are requests of
  their own, and the captures go on in between.  What a client is shown can be fetched: the
  files of a listing are those that the bulk download names, and the file of a listed capture
  is a PCAP file of packets that the sensor has captured.
-/
import GeSensor.Dashboard.CapturedPackets
import GeSensor.Server.EncodedValues
import GeSensor.Server.Framing

set_option autoImplicit false

namespace GeSensor.Server

open GeSensor.Dashboard
open GeSensor.Foundation
open GeSensor.PcapStore

/-! ## The server beside the captures -/

/-- The state of the server that the index of the captures is part of. -/
def AppState.withIndex (app : AppState) (state : CaptureState) : AppState :=
  { app with pcapCaptures := state.pcapCaptures }

/-- `std::fs::read` of the files on disk. -/
def Outside.onFiles (outside : Outside) (files : Files) : Outside :=
  { outside with
    readFile := fun path =>
      match files path with
      | some bytes => .ok bytes
      | none => .error "No such file or directory (os error 2)" }

/-! ## One file -/

/-- The target of the request for the file of a capture. -/
def fileTarget (captureId : String) : Text :=
  "/api/pcap/file".toList ++ '?' :: ("id".toList ++ '=' :: literal captureId)

theorem mem_captureIdOf {captureNo : Nat} {char : Char}
    (h : char ∈ (captureIdOf captureNo).toList) :
    char ∈ "ALT-".toList ∨ char.isDigit = true := by
  simp only [captureIdOf, String.toList_append, String.toList_ofList, List.mem_append] at h
  rcases h with h | h | h
  · exact Or.inl h
  · rw [List.eq_of_mem_replicate h]
    exact Or.inr rfl
  · exact Or.inr (Nat.isDigit_of_mem_toDigits (by decide) (by decide) h)

theorem captureIdArgument_some {value : Text} (h : value ≠ []) :
    captureIdArgument (some value) = .captureId (some value) := by
  rw [captureIdArgument, Option.getD_some, nonEmpty, if_neg h]

/-- The server takes the id of a capture out of the target. -/
theorem dispatch_file {request : HttpRequest} {captureNo : Nat}
    (hmethod : request.method = "GET".toList)
    (htarget : request.target = fileTarget (captureIdOf captureNo)) :
    dispatch request.text =
      .endpoint .pcapFile (.captureId (some (literal (captureIdOf captureNo)))) := by
  have hother : ∀ char ∈ ['?', '&'], char ∉ "ALT-".toList ∧ char.isDigit = false := by
    simp only [List.forall_mem_cons]
    exact ⟨by decide, by decide, List.forall_mem_nil _⟩
  have hplain : ∀ char ∈ ['?', '&'], char ∉ literal (captureIdOf captureNo) := by
    intro char hchar hmem
    rcases mem_captureIdOf hmem with hstart | hdigit
    · exact (hother char hchar).1 hstart
    · exact Bool.false_ne_true ((hother char hchar).2.symm.trans hdigit)
  have hne : literal (captureIdOf captureNo) ≠ [] := by
    simp only [literal, captureIdOf, String.toList_append]
    exact List.append_ne_nil_of_left_ne_nil (by decide) _
  have hnamed : request.named = some .pcapFile := by
    rw [HttpRequest.named, hmethod]
    exact endpointNamed_path .pcapFile (Or.inr ⟨_, htarget⟩)
  rw [HttpRequest.dispatch_eq_iff_of_named hnamed hmethod]
  have hfirst : triedBefore (some .pcapFile) = [] := by decide
  constructor
  · intro endpoint hendpoint
    rw [hnamed, hfirst] at hendpoint
    exact absurd hendpoint List.not_mem_nil
  · have hquery : queryOf request.target "id".toList = some (literal (captureIdOf captureNo)) := by
      rw [htarget]
      exact queryOf_single (by decide) (by decide) (hplain '?' (by decide)) (hplain '&' (by decide))
    rw [(HttpRequest.arguments_text_iff hnamed rfl).mpr trivial, Endpoint.asked, hquery]
    exact captureIdArgument_some hne

/-- The id of a record says where its file is. -/
theorem filePath_of_indexed {state : CaptureState} (h : state.Sound) {record : PcapCaptureRecord}
    (hrecord : record ∈ state.pcapCaptures) :
    ∃ captureNo : Nat, record.captureId = captureIdOf captureNo ∧
      record.filePath = filePathOf captureNo := by
  obtain ⟨number, call, sizeBytes, hcall, hpc, rfl, hfile⟩ := h.indexed record hrecord
  exact ⟨call.captureNo, rfl, rfl⟩

/-- No two records in the index have the same id. -/
theorem eq_of_captureId {state : CaptureState} (h : state.Sound)
    {record other : PcapCaptureRecord} (hrecord : record ∈ state.pcapCaptures)
    (hother : other ∈ state.pcapCaptures) (hid : other.captureId = record.captureId) :
    other = record := by
  obtain ⟨captureNo, hnumber, hpath⟩ := filePath_of_indexed h hrecord
  obtain ⟨otherNo, hnumber', hpath'⟩ := filePath_of_indexed h hother
  have hsame : otherNo = captureNo :=
    captureIdOf_injective (hnumber'.symm.trans (hid.trans hnumber))
  refine List.inj_on_of_nodup_map h.nodup hother hrecord ?_
  rw [hpath, hpath', hsame]

/-- A record is found under its id. -/
theorem find?_captureId {state : CaptureState} (h : state.Sound) {record : PcapCaptureRecord}
    (hrecord : record ∈ state.pcapCaptures) :
    (state.pcapCaptures.find? fun capture => capture.captureId == record.captureId) =
      some record := by
  cases hfound : state.pcapCaptures.find? fun capture =>
      capture.captureId == record.captureId with
  | none =>
      have hnone := List.find?_eq_none.mp hfound record hrecord
      exact absurd (beq_self_eq_true record.captureId) hnone
  | some other =>
      have hid : other.captureId = record.captureId :=
        eq_of_beq (List.find?_some (p := fun capture : PcapCaptureRecord =>
          capture.captureId == record.captureId) hfound)
      rw [eq_of_captureId h hrecord (List.mem_of_find?_eq_some hfound) hid]

theorem findCapture_withIndex {state : CaptureState} (h : state.Sound)
    {record : PcapCaptureRecord} (hrecord : record ∈ state.pcapCaptures) (app : AppState) :
    (app.withIndex state).findCapture record.captureId = .ok record := by
  unfold AppState.findCapture AppState.withIndex
  rw [find?_captureId h hrecord]

/-- The answer that offers a file. -/
def fileAnswer (captureId : String) (bytes : Bytes) : Answer where
  status := "200 OK"
  contentType := "application/vnd.tcpdump.pcap"
  headers := dispositionLine captureId
  body := .file bytes
  error? := none

theorem fileAnswer_headed (captureId : String) (bytes : Bytes) :
    (fileAnswer captureId bytes).Headed (some captureId) where
  status := (by decide : "200 OK" ∈ statuses)
  contentType := (by decide : "application/vnd.tcpdump.pcap" ∈ contentTypes)
  headers := rfl

theorem fileAnswer_startLine (captureId : String) (bytes : Bytes) (page : Text) :
    ((fileAnswer captureId bytes).message page (some captureId)).startLine =
      asBytes "HTTP/1.1 200 OK" := by
  unfold Answer.message fileAnswer
  dsimp only
  decide

/-- The answer when the file is not there. -/
def goneAnswer : Answer :=
  .notFound "capture file unavailable: No such file or directory (os error 2)"

theorem goneAnswer_startLine (page : Text) :
    (goneAnswer.message page none).startLine = asBytes "HTTP/1.1 404 Not Found" := by
  unfold Answer.message goneAnswer
  dsimp only
  decide

/-- The server looks a capture up, gives the index back, and reads the file: its answer is
made of the index then and the files later. -/
theorem respond_file {state : CaptureState} (h : state.Sound) {record : PcapCaptureRecord}
    (hrecord : record ∈ state.pcapCaptures) (files : Files) (app : AppState) (outside : Outside)
    {request : HttpRequest} (hmethod : request.method = "GET".toList)
    (htarget : request.target = fileTarget record.captureId) :
    (respond (outside.onFiles files) (app.withIndex state) request.text).1 =
      match files record.filePath with
      | some bytes => fileAnswer record.captureId bytes
      | none => goneAnswer := by
  obtain ⟨captureNo, hid, -⟩ := filePath_of_indexed h hrecord
  have hdispatch := dispatch_file hmethod (hid ▸ htarget)
  have hdownload : (app.withIndex state).pcapDownload (String.ofList (literal record.captureId)) =
      .ok ⟨true, record.captureId, record.filePath, record.sizeBytes⟩ := by
    rw [literal, String.ofList_toList, AppState.pcapDownload, findCapture_withIndex h hrecord]
    rfl
  rw [respond, hdispatch]
  change pcapFileAnswer (outside.onFiles files) (app.withIndex state)
    (some (literal (captureIdOf captureNo))) = _
  rw [← hid, pcapFileAnswer, hdownload]
  dsimp only [Outside.onFiles]
  cases files record.filePath <;> rfl

/-- Whatever has happened, and whatever happens between the look at the index and the reading
of the file, a client that asks for the file of a capture in the index gets a PCAP file, under
the name of the capture: of the packets that the ring flushed at a time of this process, each
of which the sensor had captured by then.  Or it is told that there is no such file, because
the capture has been evicted in between. -/
theorem download_packets {spare : Nat → Nat} {files : Files} {maxBytes : Nat}
    {labels : List CaptureLabel} {state later : CaptureState}
    (hrun : Run (captureStep spare) (.start files (.new spare maxBytes)) labels state)
    (hlater : ReachableBy (captureStep spare) (fun _ label => label.isRestart = false) state later)
    (hsmall : ∀ packet ∈ pushedBy labels, packet.data.length < 2 ^ 32)
    {record : PcapCaptureRecord} (hrecord : record ∈ state.pcapCaptures) (app : AppState)
    (outside : Outside) {request : HttpRequest} (hmethod : request.method = "GET".toList)
    (htarget : request.target = fileTarget record.captureId) (page : Text) (rest : Bytes) :
    ∃ message : HttpMessage,
      readMessage ((respond (outside.onFiles later.files) (app.withIndex state)
        request.text).1.bytes page ++ rest) = some (message, rest) ∧
      ((message.startLine = asBytes "HTTP/1.1 404 Not Found" ∧ record ∉ later.pcapCaptures) ∨
        message.startLine = asBytes "HTTP/1.1 200 OK" ∧
          field "Content-Disposition" (dispositionValue record.captureId) ∈ message.fields ∧
          ∃ (earlier : List Packet)
            (hflushed : ∀ packet ∈ flushedPackets state.pcapRing.maxBytes earlier,
              packet.data.length < 2 ^ 32),
            earlier <+: pushedBy labels ∧
            readPcap message.body = some (⟨2, 4, 0, 0, 65535, 1⟩,
              (flushedPackets state.pcapRing.maxBytes earlier).pmap Packet.toRecord hflushed)) := by
  have hsound := reachable_sound hrun.reachable
  obtain ⟨earlier, hpart, hfile⟩ := indexed_packets hrun hrecord
  obtain ⟨captureNo, hid, -⟩ := filePath_of_indexed hsound hrecord
  have hanswer := respond_file hsound hrecord later.files app outside hmethod htarget
  rcases file_later hrun.reachable hlater hrecord with hsame | ⟨hgone, hevicted⟩
  · have hflushed : ∀ packet ∈ flushedPackets state.pcapRing.maxBytes earlier,
        packet.data.length < 2 ^ 32 := fun packet hpacket =>
      hsmall packet (hpart.subset (List.mem_of_mem_take hpacket))
    let content := (fileOf (flushedPackets state.pcapRing.maxBytes earlier)).flatten
    have hheaded := fileAnswer_headed record.captureId content
    have hframed := hheaded.framed (fun captureId hcapture => by
      cases hcapture
      rw [hid]
      exact visible_captureIdOf captureNo) page
    rw [hsame, hfile] at hanswer
    refine ⟨(fileAnswer record.captureId content).message page (some record.captureId), ?_,
      Or.inr ⟨fileAnswer_startLine _ _ _, ?_, earlier, hflushed, hpart, readPcap_fileOf hflushed⟩⟩
    · rw [hanswer, hheaded.bytes_eq]
      exact readMessage_encode hframed rest
    · exact List.mem_cons_of_mem _ List.mem_cons_self
  · have hheaded : goneAnswer.Headed none := Answer.headed_notFound _
    have hframed := hheaded.framed (fun captureId hcapture => by cases hcapture) page
    rw [hgone] at hanswer
    refine ⟨goneAnswer.message page none, ?_, Or.inl ⟨goneAnswer_startLine page, hevicted⟩⟩
    rw [hanswer, hheaded.bytes_eq]
    exact readMessage_encode hframed rest

/-- A packet is captured and saved. -/
def savingRun : List CaptureLabel :=
  [.push ⟨0, 0, [1]⟩, .enter .manual, .draw 0 0, .create 0 (.ok ())] ++
    List.replicate 6 (.write 0 (.ok ())) ++ [.finish 0, .measure 0 true, .record 0 true]

/-- A capture whose file cannot be created, and one more that is saved. -/
def laterRun : List CaptureLabel :=
  [.enter .manual, .draw 1 0, .create 1 (.error "disk full"), .enter .manual, .draw 2 0,
    .create 2 (.ok ())] ++
    List.replicate 6 (.write 2 (.ok ())) ++ [.finish 2, .measure 2 true, .record 2 true]

def fileRequest : HttpRequest :=
  { plainRequest with
    target := fileTarget "ALT-0001"
    target_ne_nil := by decide
    target_word := word_of_all rfl }

/-- One capture fails and another is saved before the file of the first one is read. -/
theorem download_packets_saved : ∃ (state later : CaptureState) (message : HttpMessage),
    later.pcapCaptures.length = 2 ∧
    readMessage ((respond (Outside.bare.onFiles later.files) (AppState.initial.withIndex state)
      fileRequest.text).1.bytes [] ++ []) = some (message, []) ∧
    message.startLine = asBytes "HTTP/1.1 200 OK" ∧
    field "Content-Disposition" (dispositionValue (captureIdOf 1)) ∈ message.fields ∧
    ∃ (earlier : List Packet) (hflushed : ∀ packet ∈ flushedPackets state.pcapRing.maxBytes earlier,
        packet.data.length < 2 ^ 32),
      earlier <+: pushedBy savingRun ∧
      readPcap message.body = some (⟨2, 4, 0, 0, 65535, 1⟩,
        (flushedPackets state.pcapRing.maxBytes earlier).pmap Packet.toRecord hflushed) := by
  have hrun : ∃ state later, Run (captureStep fun _ => 0)
      (.start (fun _ => none) (.new (fun _ => 0) 1024)) savingRun state ∧
      ReachableBy (captureStep fun _ => 0) (fun _ label => label.isRestart = false) state later ∧
      later.pcapCaptures.length = 2 ∧ ∃ record ∈ state.pcapCaptures,
        record ∈ later.pcapCaptures ∧ record.captureId = captureIdOf 1 :=
    ⟨_, _, Run.append savingRun .nil rfl, reachableBy_of_runLabels laterRun .start rfl, rfl, _,
      List.mem_cons_self, List.mem_cons_self, rfl⟩
  obtain ⟨state, later, hrun, hlater, htwo, record, hrecord, hkept, hid⟩ := hrun
  have hsmall : ∀ packet ∈ pushedBy savingRun, packet.data.length < 2 ^ 32 := by decide
  have htarget : fileRequest.target = fileTarget record.captureId := by
    rw [hid]
    exact congrArg fileTarget (by decide)
  obtain ⟨message, hread, hanswer⟩ :=
    download_packets hrun hlater hsmall hrecord .initial .bare rfl htarget [] []
  rw [← hid]
  exact ⟨state, later, message, htwo, hread, hanswer.resolve_left fun hgone => hgone.2 hkept⟩

/-! ## Listings -/

/-- What `pcap_storage` reads of the configuration. -/
structure PcapConfig where
  trigger : String
  ringBufferMb : Nat
  retentionDays : Nat

/-- The aggregates of the PCAP tab and the captures; the used share of the ring, a floating
point number, is not kept. -/
structure PcapStorageResponse where
  storedCaptures : Nat
  totalSizeBytes : Nat
  ringBufferMb : Nat
  ringBufferUsedBytes : Nat
  triggerMode : String
  retentionDays : Nat
  indexType : String
  storageBackend : String
  compression : String
  maxCaptureMb : Nat
  todayCaptures : Nat
  alertTriggered : Nat
  manualCaptures : Nat
  captures : List PcapCaptureRecord

/-- The needle, in lower case, is in one of the texts of the record. -/
def isFound (needle : Text) (capture : PcapCaptureRecord) : Bool :=
  contains (toAsciiLowercase capture.captureId.toList) needle ||
    contains (toAsciiLowercase capture.fiveTuple.toList) needle ||
    contains (toAsciiLowercase capture.ruleId.toList) needle ||
    contains (toAsciiLowercase capture.triggerType.toList) needle

/-- The captures that a filter leaves. -/
def listed (captures : List PcapCaptureRecord) : Option Text → List PcapCaptureRecord
  | none => captures
  | some filter =>
      let needle := toAsciiLowercase filter
      if needle = [] then captures else captures.filter (isFound needle)

/-- `pcap_storage` at the time `now`, with so many bytes used in the ring. -/
def AppState.pcapStorage (state : AppState) (config : PcapConfig) (now ringUsedBytes : Nat)
    (filter : Option Text) : PcapStorageResponse :=
  let captures := listed state.pcapCaptures filter
  { storedCaptures := captures.length
    totalSizeBytes := (captures.map PcapCaptureRecord.sizeBytes).sum
    ringBufferMb := config.ringBufferMb
    ringBufferUsedBytes := ringUsedBytes
    triggerMode := config.trigger
    retentionDays := config.retentionDays
    indexType := "5-tuple + timestamp"
    storageBackend := "filesystem + ring buffer"
    compression := "none"
    maxCaptureMb := 50
    todayCaptures := captures.countP fun capture => now - capture.timestamp ≤ 86400
    alertTriggered := captures.countP fun capture =>
      eqIgnoreAsciiCase capture.triggerType.toList "alert".toList
    manualCaptures := captures.countP fun capture =>
      eqIgnoreAsciiCase capture.triggerType.toList "manual".toList
    captures := captures }

theorem listed_sublist (captures : List PcapCaptureRecord) (filter : Option Text) :
    (listed captures filter).Sublist captures := by
  unfold listed
  split
  · exact List.Sublist.refl _
  · dsimp only
    split
    · exact List.Sublist.refl _
    · exact List.filter_sublist

/-- The answers to ids of which each finds its record, or none. -/
theorem filterMap_find?_eq_filter {shown captures : List PcapCaptureRecord}
    (hfound : ∀ capture ∈ shown, (captures.find? fun other =>
      other.captureId == capture.captureId) = if capture ∈ captures then some capture else none) :
    ((shown.map PcapCaptureRecord.captureId).filterMap fun id =>
      captures.find? fun other => other.captureId == id) =
        shown.filter (· ∈ captures) := by
  induction shown with
  | nil => rfl
  | cons capture shown ih =>
      obtain ⟨hcapture, hshown⟩ := List.forall_mem_cons.mp hfound
      rw [List.map_cons, List.filterMap_cons, hcapture, ih hshown, List.filter_cons]
      by_cases hmem : capture ∈ captures
      · rw [if_pos hmem]
        exact (if_pos (decide_eq_true hmem)).symm
      · rw [if_neg hmem]
        exact (if_neg fun hdecided => hmem (of_decide_eq_true hdecided)).symm

/-- However long after a listing, a client that asks for the files of all captures listed is
told those that have not been evicted since, in the order of the listing: no other capture has
taken one of the ids, and every file named is there, as it was at the listing. -/
theorem bulkDownload_of_listing {spare : Nat → Nat} {files : Files} {ring : PacketRingBuffer}
    {state later : CaptureState} (hrun : Reachable (captureStep spare) (.start files ring) state)
    (hlater : ReachableBy (captureStep spare) (fun _ label => label.isRestart = false) state later)
    (app appLater : AppState) (config : PcapConfig) (now ringUsedBytes : Nat)
    (filter : Option Text) :
    let shown := ((app.withIndex state).pcapStorage config now ringUsedBytes filter).captures
    let kept := shown.filter (· ∈ later.pcapCaptures)
    let answer := (appLater.withIndex later).pcapBulkDownload (shown.map (·.captureId))
    answer.selected = kept.length ∧
      answer.totalSizeBytes = (kept.map PcapCaptureRecord.sizeBytes).sum ∧
      answer.files = kept.map PcapCaptureRecord.filePath ∧ answer.files.Nodup ∧
      ∀ capture ∈ kept, later.files capture.filePath = state.files capture.filePath ∧
        later.files capture.filePath ≠ none := by
  intro shown kept answer
  have hshown : shown.Sublist state.pcapCaptures := listed_sublist state.pcapCaptures filter
  have hfound : ∀ capture ∈ shown, (later.pcapCaptures.find? fun other =>
      other.captureId == capture.captureId) =
        if capture ∈ later.pcapCaptures then some capture else none := by
    intro capture hcapture
    cases hfind : later.pcapCaptures.find? fun other =>
        other.captureId == capture.captureId with
    | none =>
        rw [if_neg fun hmem => ?_]
        exact List.find?_eq_none.mp hfind capture hmem (beq_self_eq_true capture.captureId)
    | some other =>
        have hid : other.captureId = capture.captureId :=
          eq_of_beq (List.find?_some (p := fun other : PcapCaptureRecord =>
            other.captureId == capture.captureId) hfind)
        have hother := List.mem_of_find?_eq_some hfind
        obtain ⟨rfl, -⟩ := indexed_later hrun hlater (hshown.subset hcapture) hother hid
        rw [if_pos hother]
  have hanswer : (shown.map PcapCaptureRecord.captureId).filterMap (fun id =>
      later.pcapCaptures.find? fun other => other.captureId == id) = kept :=
    filterMap_find?_eq_filter hfound
  have hkept : kept.Sublist state.pcapCaptures := List.filter_sublist.trans hshown
  have hfiles : answer.files = kept.map PcapCaptureRecord.filePath := by
    change (List.filterMap _ _).map PcapCaptureRecord.filePath = _
    exact congrArg (List.map PcapCaptureRecord.filePath) hanswer
  refine ⟨congrArg List.length hanswer, ?_, hfiles, ?_, fun capture hcapture => ?_⟩
  · exact congrArg (fun found => (found.map PcapCaptureRecord.sizeBytes).sum) hanswer
  · rw [hfiles]
    exact (hkept.map _).nodup (reachable_sound hrun).nodup
  · obtain ⟨hmem, hthere⟩ := List.mem_filter.mp hcapture
    have hrecord := hshown.subset hmem
    obtain ⟨-, hsame⟩ := indexed_later hrun hlater hrecord (of_decide_eq_true hthere) rfl
    obtain ⟨number, call, sizeBytes, hcall, hpc, hmade, hfile⟩ :=
      (reachable_sound hrun).indexed capture hrecord
    have hpath : capture.filePath = call.path := by rw [hmade]; rfl
    refine ⟨hsame, ?_⟩
    rw [hsame, hpath, hfile]
    exact Option.some_ne_none _

/-- The call has answered with a record. -/
def hasSaved (call : CaptureCall) : Bool :=
  match call.pc with
  | .returned (.ok _) => true
  | _ => false

/-- One capture is listed, one fails and another is made: the first one is named. -/
theorem bulkDownload_of_savingRun : ∃ state later : CaptureState,
    state.pcapCaptures.length = 1 ∧ later.pcapCaptures.length = 2 ∧
    later.calls.map hasSaved = [true, false, true] ∧
    let shown := ((AppState.initial.withIndex state).pcapStorage ⟨"alert", 512, 7⟩ 0 17
      none).captures
    ((AppState.initial.withIndex later).pcapBulkDownload (shown.map (·.captureId))).files =
      (shown.filter (· ∈ later.pcapCaptures)).map PcapCaptureRecord.filePath := by
  have hreached : ∃ state later, Reachable (captureStep fun _ => 0)
      (.start (fun _ => none) (.new (fun _ => 0) 1024)) state ∧
      ReachableBy (captureStep fun _ => 0) (fun _ label => label.isRestart = false) state later ∧
      state.pcapCaptures.length = 1 ∧ later.pcapCaptures.length = 2 ∧
      later.calls.map hasSaved = [true, false, true] :=
    ⟨_, _, reachableBy_of_runLabels savingRun .start rfl,
      reachableBy_of_runLabels laterRun .start rfl, rfl, rfl, rfl⟩
  obtain ⟨state, later, hreached, hlater, hone, htwo, hcalls⟩ := hreached
  exact ⟨state, later, hone, htwo, hcalls, (bulkDownload_of_listing hreached hlater .initial
    .initial ⟨"alert", 512, 7⟩ 0 17 none).2.2.1⟩

end GeSensor.Server
