/-
  Server/DissectorSwitches.lean --- the switches of the dissectors page.

  A click on a row of the page asks for the opposite of what the row shows, under a
  spelling of the row's name that `toggleDissector` of `src/utils/dashboard.html` looks up.
  The server finds name and state in the request again, and the row shows the last state
  that was asked for, whatever else was asked for in between; so does the capture thread.
-/
import GeSensor.Foundation.Reachable
import GeSensor.Pipeline.StatusPage
import GeSensor.Server.EncodedValues
import GeSensor.Server.Frames
import GeSensor.Server.JsonAnswers

set_option autoImplicit false

namespace GeSensor.Server

open GeSensor.Dashboard
open GeSensor.Dissectors
open GeSensor.Foundation
open GeSensor.Pipeline

/-! ## The page -/

/-- `map` of `toggleDissector`. -/
def apiNames : List (String × String) :=
  [("TCP", "tcp"), ("UDP", "udp"), ("ICMP", "icmp"), ("DNS", "dns"), ("HTTP", "http"),
    ("TLS", "tls"), ("NTP", "ntp"), ("DHCP", "dhcp"), ("Modbus TCP", "modbus"), ("DNP3", "dnp3"),
    ("BACnet/IP", "bacnet/ip")]

/-- `map[name] || name.toLowerCase()`; of other names, only ASCII letters are lowered. -/
def apiName (name : String) : String :=
  (apiNames.lookup name).getD (String.ofList (name.toList.map Char.toLower))

/-- The target that `toggleDissector` fetches. -/
def toggleTarget (name : String) (enabled : Bool) : Text :=
  Endpoint.toggleDissector.path ++ '?' ::
    ("name=".toList ++ (apiName name).toList ++ "&state=".toList ++ boolText enabled)

/-- A click on a row; the version, the header fields and the body are any. -/
structure ClickOn (row : DissectorInfo) (request : HttpRequest) : Prop where
  method : request.method = Endpoint.toggleDissector.method.text
  target : request.target = toggleTarget row.name !row.enabled

/-! ## Switches -/

/-- What is asked for: a row by its name, and whether it is to be on. -/
abbrev Switch := String × Bool

/-- The row that `toggle_dissector` changes for a name. -/
def rowOf (name : String) : Option String :=
  match String.ofList (name.toList.map Char.toLower) with
  | "tcp" => some "TCP"
  | "udp" => some "UDP"
  | "icmp" => some "ICMP"
  | "dns" => some "DNS"
  | "http" => some "HTTP"
  | "tls" => some "TLS"
  | "ntp" => some "NTP"
  | "dhcp" => some "DHCP"
  | "modbus" => some "Modbus TCP"
  | "dnp3" => some "DNP3"
  | "bacnet" | "bacnet/ip" => some "BACnet/IP"
  | _ => none

/-- The switch that the server finds in a request. -/
def switch? (request : Text) : Option Switch :=
  match dispatch request with
  | .endpoint .toggleDissector (.dissector (some (name, enabled))) =>
      (rowOf (String.ofList name)).map (·, enabled)
  | _ => none

/-- The rows after a switch. -/
def setRow (rows : List DissectorInfo) (switch : Switch) : List DissectorInfo :=
  rows.map fun row => if row.name = switch.1 then { row with enabled := switch.2 } else row

/-- A row that shows the last of the switches that name it. -/
def lastSet (switches : List Switch) (row : DissectorInfo) : DissectorInfo :=
  { row with enabled := (switches.reverse.lookup row.name).getD row.enabled }

theorem foldl_setRow (switches : List Switch) (rows : List DissectorInfo) :
    switches.foldl setRow rows = rows.map (lastSet switches) := by
  induction switches generalizing rows with
  | nil => exact (List.map_id rows).symm
  | cons switch rest ih =>
      rw [List.foldl_cons, ih, setRow, List.map_map]
      refine List.map_congr_left fun row _ => ?_
      obtain ⟨name, enabled⟩ := switch
      rw [Function.comp_apply, lastSet, lastSet, List.reverse_cons, List.lookup_append]
      by_cases hname : row.name = name
      · rw [if_pos hname, hname, List.lookup_cons_self]
        cases rest.reverse.lookup name <;> rfl
      · have hother : [(name, enabled)].lookup row.name = none := by
          rw [List.lookup_cons, beq_false_of_ne hname]
          rfl
        rw [if_neg hname, hother, Option.or_none]

/-! ## What the server does -/

/-- A toggle sets the row that it names. -/
theorem toggle_rows (config : DissectorConfig) (name : String) (enabled : Bool) :
    buildDissectorList ((config.toggle name enabled).getD config) =
      ((rowOf name).map (·, enabled)).toList.foldl setRow (buildDissectorList config) := by
  unfold DissectorConfig.toggle rowOf
  generalize String.ofList (name.toList.map Char.toLower) = lowered
  split
  -- a name that is none of the server's
  case h_15 =>
    split
    all_goals first | contradiction | rfl
  all_goals rfl

theorem toggleDissectorAnswer_dissectors (state : AppState) (name : Text) (enabled : Bool) :
    (toggleDissectorAnswer state (some (name, enabled))).2.dissectors =
      (state.dissectors.toggle (String.ofList name) enabled).getD state.dissectors := by
  unfold toggleDissectorAnswer AppState.toggleDissector
  dsimp only
  cases state.dissectors.toggle (String.ofList name) enabled <;> rfl

/-- The step lemma: a request sets the row of the switch found in it, if there is one. -/
theorem respond_rows (outside : Outside) (state : AppState) (request : Text) :
    buildDissectorList (respond outside state request).2.dissectors =
      (switch? request).toList.foldl setRow (buildDissectorList state.dissectors) := by
  rw [respond, switch?]
  cases dispatch request with
  | dashboard => rfl
  | endpoint endpoint arguments =>
      by_cases htoggle : endpoint = .toggleDissector
      · subst htoggle
        cases arguments with
        | dissector named =>
            cases named with
            | none => rfl
            | some named =>
                obtain ⟨name, enabled⟩ := named
                change buildDissectorList
                  (toggleDissectorAnswer state (some (name, enabled))).2.dissectors = _
                rw [toggleDissectorAnswer_dissectors]
                exact toggle_rows state.dissectors (String.ofList name) enabled
        | _ => rfl
      · have hframe := endpointAnswer_frame outside state (spares_dissectors htoggle) arguments
        dsimp only
        rw [hframe]
        cases endpoint with
        | toggleDissector => exact absurd rfl htoggle
        | _ => rfl

/-- What happens to the sensor: a request is served, or another thread changes something
else than the dissectors. -/
inductive ServerMove where
  | request (outside : Outside) (text : Text)
  | others (rest : AppState)

def ServerMove.switch? : ServerMove → Option Switch
  | .request _ text => Server.switch? text
  | .others _ => none

def serverStep (state : AppState) : ServerMove → Option AppState
  | .request outside text => some (respond outside state text).2
  | .others rest => if rest.dissectors = state.dissectors then some rest else none

/-- The run lemma. -/
theorem rows_of_run {start state : AppState} {moves : List ServerMove}
    (hrun : Run serverStep start moves state) :
    buildDissectorList state.dissectors =
      (moves.filterMap ServerMove.switch?).foldl setRow (buildDissectorList start.dissectors) := by
  induction hrun with
  | nil => rfl
  | snoc _ hmove ih =>
      rename_i moves state next move _
      have hone : [move].filterMap ServerMove.switch? = move.switch?.toList := by
        rw [List.filterMap_cons]
        cases move.switch? <;> rfl
      rw [List.filterMap_append, List.foldl_append, ← ih, hone]
      cases move with
      | request outside text =>
          rw [serverStep, Option.some.injEq] at hmove
          rw [← hmove]
          exact respond_rows outside state text
      | others rest =>
          rw [serverStep, Option.ite_none_right_eq_some, Option.some.injEq] at hmove
          obtain ⟨hsame, rfl⟩ := hmove
          rw [hsame]
          rfl

/-! ## Clicks -/

theorem mem_apiNames {config : DissectorConfig} {row : DissectorInfo}
    (h : row ∈ buildDissectorList config) : row.name ∈ apiNames.map Prod.fst := by
  have hnames : (buildDissectorList config).map DissectorInfo.name = apiNames.map Prod.fst := rfl
  rw [← hnames]
  exact List.mem_map_of_mem h

/-- The server finds the page's spelling and the state in the target. -/
theorem dissectorArgument_toggleTarget {name : String} (h : name ∈ apiNames.map Prod.fst)
    (enabled : Bool) : dissectorArgument (toggleTarget name enabled) =
      .dissector (some ((apiName name).toList, enabled)) := by
  have hnames : ∀ name ∈ apiNames.map Prod.fst, ∀ enabled, dissectorArgument
      (toggleTarget name enabled) = .dissector (some ((apiName name).toList, enabled)) := by
    decide +kernel
  exact hnames name h enabled

/-- The server takes the page's spelling for the row. -/
theorem rowOf_apiName {name : String} (h : name ∈ apiNames.map Prod.fst) :
    rowOf (apiName name) = some name := by
  have hnames : ∀ name ∈ apiNames.map Prod.fst, rowOf (apiName name) = some name := by
    decide +kernel
  exact hnames name h

theorem dispatch_click {row : DissectorInfo} {request : HttpRequest}
    (hrow : row.name ∈ apiNames.map Prod.fst) (hclick : ClickOn row request)
    (hundisturbed : request.Undisturbed) : dispatch request.text =
      .endpoint .toggleDissector (.dissector (some ((apiName row.name).toList, !row.enabled))) := by
  have hnamed : request.named = some .toggleDissector := by
    rw [HttpRequest.named, hclick.method, hclick.target]
    exact endpointNamed_path .toggleDissector (Or.inr ⟨_, rfl⟩)
  have htarget : NameIn request.target request.behindTarget := by
    refine Or.inl ?_
    rw [hclick.target]
    exact List.mem_append_right _ List.mem_cons_self
  refine (HttpRequest.dispatch_eq_iff_of_named hnamed hclick.method _).mpr ⟨hundisturbed, ?_⟩
  rw [(HttpRequest.arguments_text_iff hnamed rfl).mpr htarget, hclick.target]
  exact dissectorArgument_toggleTarget hrow _

theorem switch?_click {row : DissectorInfo} {request : HttpRequest}
    (hrow : row.name ∈ apiNames.map Prod.fst) (hclick : ClickOn row request)
    (hundisturbed : request.Undisturbed) :
    switch? request.text = some (row.name, !row.enabled) := by
  rw [switch?, dispatch_click hrow hclick hundisturbed]
  dsimp only
  rw [String.ofList_toList, rowOf_apiName hrow]
  rfl

/-- A click is answered, and changes nothing but the dissectors. -/
theorem respond_click (outside : Outside) {state : AppState} {row : DissectorInfo}
    {request : HttpRequest} (hrow : row.name ∈ apiNames.map Prod.fst) (hclick : ClickOn row request)
    (hundisturbed : request.Undisturbed) : ∃ dissectors, respond outside state request.text =
      (.json (dissectorBody (apiName row.name) !row.enabled),
        { state with dissectors := dissectors }) := by
  have htoggle : ∀ name ∈ apiNames.map Prod.fst, ∀ enabled, ∃ dissectors,
      state.dissectors.toggle (apiName name) enabled = some dissectors := by
    intro name hname enabled
    simp only [apiNames, List.map_cons, List.map_nil, List.mem_cons, List.not_mem_nil,
      or_false] at hname
    rcases hname with rfl | rfl | rfl | rfl | rfl | rfl | rfl | rfl | rfl | rfl | rfl
    all_goals exact ⟨_, rfl⟩
  obtain ⟨dissectors, hdissectors⟩ := htoggle row.name hrow !row.enabled
  refine ⟨dissectors, ?_⟩
  rw [respond, dispatch_click hrow hclick hundisturbed]
  change toggleDissectorAnswer state (some ((apiName row.name).toList, !row.enabled)) = _
  rw [toggleDissectorAnswer, String.ofList_toList, AppState.toggleDissector, hdissectors]
  rfl

/-- What the switches of a run have done, and what the next click will do. -/
structure SwitchesShown (start state : AppState) (switches : List Switch) : Prop where
  /-- each row shows the last switch that named it -/
  rows : buildDissectorList state.dissectors =
    (buildDissectorList start.dissectors).map (lastSet switches)
  /-- and the capture thread goes by it -/
  captured : ∀ (protocol : ProtocolName) (name : String), listedAs protocol = some name →
    state.dissectors.isEnabled protocol =
      (switches.reverse.lookup name).getD (start.dissectors.isEnabled protocol)
  /-- a click on a row is such a switch, to the opposite of what the row shows -/
  click : ∀ row ∈ buildDissectorList state.dissectors, ∀ request : HttpRequest,
    ClickOn row request → request.Undisturbed →
      switch? request.text = some (row.name, !row.enabled) ∧
        ∀ outside : Outside, ∃ dissectors, respond outside state request.text =
          (.json (dissectorBody (apiName row.name) !row.enabled),
            { state with dissectors := dissectors })

/-- Whatever is asked of the server and whatever other threads do: each row of the page shows
the last state that was asked for it, which the capture thread goes by; and a click on a row
asks for the opposite of what the row shows. -/
theorem switches_of_run {start state : AppState} {moves : List ServerMove}
    (hrun : Run serverStep start moves state) :
    SwitchesShown start state (moves.filterMap ServerMove.switch?) := by
  have hrows := rows_of_run hrun
  rw [foldl_setRow] at hrows
  refine ⟨hrows, fun protocol name hname => ?_, fun row hrow request hclick hundisturbed => ?_⟩
  · obtain ⟨row, hrow, hnamed, hshown⟩ :=
      (mem_buildDissectorList_iff start.dissectors hname _).mpr rfl
    have hset : lastSet (moves.filterMap ServerMove.switch?) row ∈
        buildDissectorList state.dissectors := hrows ▸ List.mem_map_of_mem hrow
    have hafter := (mem_buildDissectorList_iff state.dissectors hname _).mp
      ⟨_, hset, hnamed, rfl⟩
    rw [← hafter, ← hshown, ← hnamed]
    rfl
  · exact ⟨switch?_click (mem_apiNames hrow) hclick hundisturbed, fun outside =>
      respond_click outside (mem_apiNames hrow) hclick hundisturbed⟩

/-- A click on the row of the DNS dissector, which is on at the start. -/
def switchOffDns : HttpRequest :=
  { plainRequest with
    target := toggleTarget "DNS" false
    target_ne_nil := by decide
    target_word := word_of_all rfl }

/-- The dissector is switched off, and other threads turn the capture off. -/
def sampleMoves : List ServerMove :=
  [.request .bare switchOffDns.text, .others { AppState.initial with
    captureEnabled := false
    dissectors := { AppState.initial.dissectors with dns := false } }]

theorem switches_of_run_sample : ∃ state, Run serverStep .initial sampleMoves state ∧
    SwitchesShown .initial state [("DNS", false)] := by
  have hswitches : sampleMoves.filterMap ServerMove.switch? = [("DNS", false)] := by decide +kernel
  have hlast : (runLabels serverStep (fun _ _ => true) AppState.initial sampleMoves).isSome = true :=
    by decide +kernel
  obtain ⟨state, hstate⟩ := Option.isSome_iff_exists.mp hlast
  have hrun := Run.append sampleMoves .nil hstate
  exact ⟨state, hrun, hswitches ▸ switches_of_run hrun⟩

end GeSensor.Server
