/-
  Foundation/Transactions.lean --- transactions over cells with locks of their own.

  A transaction visits one cell after the other and holds only the lock of the cell that
  it visits.  Between two visits other threads perform operations, each on one cell.  So
  a transaction sees some cells as they were before an operation and some as they are
  after a later one.

  When no transaction visits a cell twice, every such run can be rearranged to one in
  which transactions are performed as a whole.  An operation on a cell that the running
  transaction has visited is performed behind it, any other operation in front of it.
  This keeps the order of the operations on any one cell, and the order of operations and
  transactions that do not overlap.
-/
import Mathlib.Data.List.Induction
import Mathlib.Logic.Function.Basic
import GeSensor.Foundation.Reachable

set_option autoImplicit false

namespace GeSensor.Foundation

/-! ## Cells, operations and transactions -/

section

variable {Cell : Type} {Value : Cell → Type} {Result : Type}

/-- One value for each cell. -/
abbrev Cells (Value : Cell → Type) : Type := (cell : Cell) → Value cell

/-- An operation on one cell. -/
structure CellOp (Value : Cell → Type) where
  cell : Cell
  act : Value cell → Value cell

/-- What a thread still has to do: it has its result, or it visits a cell and goes on with
what it found there.  A visit that cannot be made (`none`) stops the thread, and so does
`panic`. -/
inductive Transaction (Value : Cell → Type) (Result : Type) where
  | done (result : Result)
  | panic
  | visit (cell : Cell) (update : Value cell → Option (Value cell))
      (next : Value cell → Transaction Value Result)

/-- No cell is visited twice, and none of those in the list. -/
def Transaction.VisitsOnce : Transaction Value Result → List Cell → Prop
  | .done _, _ => True
  | .panic, _ => True
  | .visit cell _ next, visited =>
      cell ∉ visited ∧ ∀ value, (next value).VisitsOnce (cell :: visited)

variable [DecidableEq Cell]

def CellOp.on (op : CellOp Value) (cells : Cells Value) : Cells Value :=
  Function.update cells op.cell (op.act (cells op.cell))

/-- A transaction performed as a whole. -/
def Transaction.run : Transaction Value Result → Cells Value → Option (Result × Cells Value)
  | .done result, cells => some (result, cells)
  | .panic, _ => none
  | .visit cell update next, cells =>
      (update (cells cell)).bind fun value =>
        (next (cells cell)).run (Function.update cells cell value)

theorem CellOp.on_of_ne (op : CellOp Value) (cells : Cells Value) {cell : Cell}
    (h : cell ≠ op.cell) : op.on cells cell = cells cell := Function.update_of_ne h _ _

/-- An operation and a write to another cell commute. -/
theorem CellOp.on_update (op : CellOp Value) (cells : Cells Value) {cell : Cell}
    (h : cell ≠ op.cell) (value : Value cell) :
    op.on (Function.update cells cell value) = Function.update (op.on cells) cell value := by
  rw [CellOp.on, CellOp.on, Function.update_of_ne h.symm, Function.update_comm h]

end

/-! ## Serial runs and interleaved runs -/

/-- An event of a serial run. -/
inductive SerialEvent (Input Op : Type) where
  | transaction (input : Input)
  | operation (op : Op)
  deriving DecidableEq, Repr

/-- A move of an interleaved run. -/
inductive ThreadLabel (Input Op : Type) where
  /-- a transaction begins -/
  | start (input : Input)
  /-- it makes its next visit, or returns its result -/
  | advance
  | operation (op : Op)
  deriving DecidableEq, Repr

namespace SerialEvent

variable {Input Op : Type}

def input? : SerialEvent Input Op → Option Input
  | .transaction input => some input
  | .operation _ => none

def operation? : SerialEvent Input Op → Option Op
  | .transaction _ => none
  | .operation op => some op

end SerialEvent

namespace ThreadLabel

variable {Input Op : Type}

def input? : ThreadLabel Input Op → Option Input
  | .start input => some input
  | _ => none

def operation? : ThreadLabel Input Op → Option Op
  | .operation op => some op
  | _ => none

end ThreadLabel

/-- The cells, the transaction that runs, and the results so far. -/
structure Interleaving {Cell : Type} (Value : Cell → Type) (Result : Type) where
  cells : Cells Value
  running : Option (Transaction Value Result)
  results : List Result

section

variable {Cell : Type} [DecidableEq Cell] {Value : Cell → Type} {Result Input Op : Type}
  (meaning : Op → CellOp Value) (program : Input → Transaction Value Result)

/-- Perform events one after the other, each as a whole. -/
def runSerial : List (SerialEvent Input Op) → Cells Value → Option (List Result × Cells Value)
  | [], cells => some ([], cells)
  | .transaction input :: rest, cells =>
      ((program input).run cells).bind fun (result, cells) =>
        (runSerial rest cells).map fun (results, cells) => (result :: results, cells)
  | .operation op :: rest, cells => runSerial rest ((meaning op).on cells)

/-- One move of the thread, or one operation. -/
def interleave (state : Interleaving Value Result) :
    ThreadLabel Input Op → Option (Interleaving Value Result)
  | .start input =>
      match state.running with
      | none => some { state with running := some (program input) }
      | some _ => none
  | .advance =>
      match state.running with
      | some (.visit cell update next) =>
          (update (state.cells cell)).map fun value =>
            { state with
              cells := Function.update state.cells cell value
              running := some (next (state.cells cell)) }
      | some (.done result) =>
          some { state with running := none, results := state.results ++ [result] }
      | _ => none
  | .operation op => some { state with cells := (meaning op).on state.cells }

/-- Operations on one cell, in order. -/
def onCell (cell : Cell) (ops : List Op) : List Op :=
  ops.filter fun op => decide ((meaning op).cell = cell)

/-- The events are the labels in another order: operations outside a transaction stay where
they are, those inside are performed earlier or later than the transaction, in the same
order on each cell. -/
inductive Rearranges : List (ThreadLabel Input Op) → List (SerialEvent Input Op) → Prop
  | nil : Rearranges [] []
  | operation {labels : List (ThreadLabel Input Op)} {events : List (SerialEvent Input Op)}
      {op : Op} : Rearranges labels events →
      Rearranges (labels ++ [.operation op]) (events ++ [.operation op])
  | transaction {labels inside : List (ThreadLabel Input Op)}
      {events : List (SerialEvent Input Op)} {input : Input} {earlier later : List Op} :
      Rearranges labels events → (∀ label ∈ inside, label.input? = none) →
      (∀ cell, onCell meaning cell (earlier ++ later) =
        onCell meaning cell (inside.filterMap ThreadLabel.operation?)) →
      Rearranges (labels ++ .start input :: inside)
        (events ++ (earlier.map .operation ++ .transaction input :: later.map .operation))

/-- Perform operations one after the other. -/
def onAll (ops : List Op) (cells : Cells Value) : Cells Value :=
  ops.foldl (fun cells op => (meaning op).on cells) cells

end

/-! ## Operations on other cells -/

section

variable {Cell : Type} [DecidableEq Cell] {Value : Cell → Type} {Op : Type}
  {meaning : Op → CellOp Value}

theorem onCell_append (cell : Cell) (left right : List Op) :
    onCell meaning cell (left ++ right) = onCell meaning cell left ++ onCell meaning cell right :=
  List.filter_append _ _

theorem onCell_eq_nil {cell : Cell} {ops : List Op} (h : ∀ op ∈ ops, (meaning op).cell ≠ cell) :
    onCell meaning cell ops = [] := by
  rw [onCell, List.filter_eq_nil_iff]
  intro op hop
  rw [decide_eq_true_eq]
  exact h op hop

/-- An operation can be moved in front of operations on other cells. -/
theorem onCell_move {earlier later : List Op} {op : Op}
    (h : ∀ other ∈ later, (meaning other).cell ≠ (meaning op).cell) (cell : Cell) :
    onCell meaning cell ((earlier ++ [op]) ++ later) =
      onCell meaning cell ((earlier ++ later) ++ [op]) := by
  rw [List.append_assoc, List.append_assoc, onCell_append, onCell_append, onCell_append,
    onCell_append]
  by_cases hcell : (meaning op).cell = cell
  · have hlater : onCell meaning cell later = [] :=
      onCell_eq_nil fun other hother => hcell ▸ h other hother
    rw [hlater, List.append_nil, List.nil_append]
  · have hop : onCell meaning cell [op] = [] := onCell_eq_nil (by simpa using hcell)
    rw [hop, List.append_nil, List.nil_append]

theorem onAll_concat (ops : List Op) (op : Op) (cells : Cells Value) :
    onAll meaning (ops ++ [op]) cells = (meaning op).on (onAll meaning ops cells) := by
  rw [onAll, List.foldl_append]
  rfl

/-- Operations on other cells do not touch a cell. -/
theorem onAll_of_ne {cell : Cell} {ops : List Op} (h : ∀ op ∈ ops, (meaning op).cell ≠ cell)
    (cells : Cells Value) : onAll meaning ops cells cell = cells cell := by
  induction ops using List.reverseRecOn with
  | nil => rfl
  | append_singleton ops op ih =>
      rw [onAll_concat, CellOp.on_of_ne _ _ (h op (by simp)).symm]
      exact ih fun other hother => h other (by simp [hother])

/-- Operations on other cells commute with a write to a cell. -/
theorem onAll_update {cell : Cell} {ops : List Op} (h : ∀ op ∈ ops, (meaning op).cell ≠ cell)
    (cells : Cells Value) (value : Value cell) :
    onAll meaning ops (Function.update cells cell value) =
      Function.update (onAll meaning ops cells) cell value := by
  induction ops using List.reverseRecOn with
  | nil => rfl
  | append_singleton ops op ih =>
      rw [onAll_concat, onAll_concat, ih fun other hother => h other (by simp [hother]),
        CellOp.on_update _ _ (h op (by simp)).symm]

end

/-! ## Serial runs -/

section

variable {Cell : Type} [DecidableEq Cell] {Value : Cell → Type} {Result Input Op : Type}
  {meaning : Op → CellOp Value} {program : Input → Transaction Value Result}

theorem runSerial_append (events more : List (SerialEvent Input Op)) (cells : Cells Value) :
    runSerial meaning program (events ++ more) cells =
      (runSerial meaning program events cells).bind fun (results, cells) =>
        (runSerial meaning program more cells).map fun (further, cells) =>
          (results ++ further, cells) := by
  induction events generalizing cells with
  | nil => simp [runSerial]
  | cons event rest ih =>
      cases event with
      | operation op => exact ih _
      | transaction input =>
          rw [List.cons_append, runSerial, runSerial]
          cases (program input).run cells with
          | none => rfl
          | some first =>
              obtain ⟨result, next⟩ := first
              rw [Option.bind_some, Option.bind_some]
              dsimp only
              rw [ih]
              cases runSerial meaning program rest next with
              | none => rfl
              | some second =>
                  simp only [Option.bind_some, Option.map_some, Option.map_map]
                  rfl

theorem runSerial_operations (ops : List Op) (cells : Cells Value) :
    runSerial meaning program (ops.map (@SerialEvent.operation Input Op)) cells =
      some ([], onAll meaning ops cells) := by
  induction ops generalizing cells with
  | nil => rfl
  | cons op rest ih => exact ih _

/-- The transactions of a rearrangement are those that were started, in order. -/
theorem Rearranges.inputs {labels : List (ThreadLabel Input Op)}
    {events : List (SerialEvent Input Op)} (h : Rearranges meaning labels events) :
    events.filterMap SerialEvent.input? = labels.filterMap ThreadLabel.input? := by
  have hoperations : ∀ ops : List Op,
      (ops.map (@SerialEvent.operation Input Op)).filterMap SerialEvent.input? = [] := by
    intro ops
    induction ops with
    | nil => rfl
    | cons op rest ih => exact ih
  induction h with
  | nil => rfl
  | operation _ ih =>
      rw [List.filterMap_append, List.filterMap_append, ih]
      rfl
  | transaction _ hinside _ ih =>
      simp [ih, hoperations, SerialEvent.input?, ThreadLabel.input?,
        List.filterMap_eq_nil_iff.mpr hinside]

/-- A rearrangement keeps the order of the operations on every cell. -/
theorem Rearranges.onCell {labels : List (ThreadLabel Input Op)}
    {events : List (SerialEvent Input Op)} (h : Rearranges meaning labels events) (cell : Cell) :
    onCell meaning cell (events.filterMap SerialEvent.operation?) =
      onCell meaning cell (labels.filterMap ThreadLabel.operation?) := by
  have hoperations : ∀ ops : List Op,
      (ops.map (@SerialEvent.operation Input Op)).filterMap SerialEvent.operation? =
        ops := by
    intro ops
    induction ops with
    | nil => rfl
    | cons op rest ih => exact congrArg (op :: ·) ih
  induction h with
  | nil => rfl
  | operation _ ih =>
      simp [onCell_append, ih, SerialEvent.operation?, ThreadLabel.operation?]
  | transaction _ _ hsame ih =>
      have hsame := hsame cell
      simp only [List.filterMap_append, hoperations, List.filterMap_cons,
        SerialEvent.operation?, ThreadLabel.operation?, onCell_append, ih] at hsame ⊢
      rw [hsame]

/-! ## A transaction under way -/

/-- The transaction has made its first visits, to cells that no other thread wrote to in the
meantime. -/
inductive Progress (whole : Transaction Value Result) (before : Cells Value) :
    List Cell → Transaction Value Result → Cells Value → Prop
  | start : Progress whole before [] whole before
  | visit {visited : List Cell} {cell : Cell} {update : Value cell → Option (Value cell)}
      {next : Value cell → Transaction Value Result} {seen : Cells Value} {value : Value cell} :
      Progress whole before visited (.visit cell update next) seen →
      update (seen cell) = some value →
      Progress whole before (cell :: visited) (next (seen cell)) (Function.update seen cell value)

namespace Progress

variable {whole rest : Transaction Value Result} {before seen : Cells Value}
  {visited : List Cell}

theorem run_eq (h : Progress whole before visited rest seen) :
    whole.run before = rest.run seen := by
  induction h with
  | start => rfl
  | visit _ hupdate ih => rw [ih, Transaction.run, hupdate, Option.bind_some]

theorem visitsOnce (h : Progress whole before visited rest seen) (honce : whole.VisitsOnce []) :
    rest.VisitsOnce visited := by
  induction h with
  | start => exact honce
  | visit _ _ ih => exact ih.2 _

/-- An operation on a cell that is not visited yet could have come first. -/
theorem operation_first (h : Progress whole before visited rest seen) {op : CellOp Value}
    (hop : op.cell ∉ visited) : Progress whole (op.on before) visited rest (op.on seen) := by
  induction h with
  | start => exact .start
  | @visit visited cell update next seen value _ hupdate ih =>
      obtain ⟨hcell, hvisited⟩ := not_or.mp (List.mem_cons.not.mp hop)
      have hsame : op.on seen cell = seen cell := op.on_of_ne seen (Ne.symm hcell)
      have hprogress := ih hvisited
      rw [op.on_update seen (Ne.symm hcell), ← hsame]
      exact hprogress.visit (hsame ▸ hupdate)

end Progress

/-! ## Every interleaved run is serializable -/

/-- A run in the middle of a transaction: the operations performed since it began are split
into those in front of it and those behind it, which are on cells that it has visited. -/
inductive Underway (meaning : Op → CellOp Value) (program : Input → Transaction Value Result)
    (start : Cells Value) (labels : List (ThreadLabel Input Op))
    (rest : Transaction Value Result) (results : List Result) (cells : Cells Value) : Prop
  | intro {finished inside : List (ThreadLabel Input Op)} {events : List (SerialEvent Input Op)}
      {input : Input} {earlier later : List Op} {visited : List Cell}
      {before seen : Cells Value}
      (hlabels : labels = finished ++ .start input :: inside)
      (hinside : ∀ label ∈ inside, label.input? = none)
      (hfinished : Rearranges meaning finished events)
      (hserial : runSerial meaning program (events ++ earlier.map .operation) start =
        some (results, before))
      (hprogress : Progress (program input) before visited rest seen)
      (hlater : ∀ op ∈ later, (meaning op).cell ∈ visited)
      (hcells : cells = onAll meaning later seen)
      (horder : ∀ cell, onCell meaning cell (earlier ++ later) =
        onCell meaning cell (inside.filterMap ThreadLabel.operation?))

/-- What has been done so far is what a serial run does, and a transaction under way can
still be made part of it. -/
def Serializable (meaning : Op → CellOp Value) (program : Input → Transaction Value Result)
    (start : Cells Value) (labels : List (ThreadLabel Input Op))
    (state : Interleaving Value Result) : Prop :=
  match state.running with
  | none => ∃ events, Rearranges meaning labels events ∧
      runSerial meaning program events start = some (state.results, state.cells)
  | some rest => Underway meaning program start labels rest
      state.results state.cells

variable {start : Cells Value} {labels : List (ThreadLabel Input Op)} {results : List Result}
  {cells : Cells Value}

/-- The next visit. -/
theorem Underway.advance {cell : Cell} {update : Value cell → Option (Value cell)}
    {next : Value cell → Transaction Value Result} {value : Value cell}
    (h : Underway meaning program start labels
      (.visit cell update next) results cells)
    (honce : ∀ input, (program input).VisitsOnce []) (hupdate : update (cells cell) = some value) :
    Underway meaning program start (labels ++ [.advance])
      (next (cells cell)) results (Function.update cells cell value) := by
  obtain ⟨hlabels, hinside, hfinished, hserial, hprogress, hlater, hcells, horder⟩ := h
  rename_i finished inside events input earlier later visited before seen
  have hunvisited : cell ∉ visited := (hprogress.visitsOnce (honce input)).1
  have hothers : ∀ op ∈ later, (meaning op).cell ≠ cell := fun op hop hcell =>
    hunvisited (hcell ▸ hlater op hop)
  have hfound : cells cell = seen cell := by rw [hcells, onAll_of_ne hothers]
  rw [hfound] at hupdate ⊢
  have hlabels' : labels ++ [.advance] = finished ++ .start input :: (inside ++ [.advance]) := by
    rw [hlabels, List.append_assoc, List.cons_append]
  have hinside' : ∀ label ∈ inside ++ [.advance], label.input? = none :=
    forall_mem_join hinside rfl
  have hcells' : Function.update cells cell value =
      onAll meaning later (Function.update seen cell value) := by
    rw [hcells, onAll_update hothers]
  refine .intro hlabels' hinside' hfinished hserial (hprogress.visit hupdate)
    (fun op hop => List.mem_cons_of_mem _ (hlater op hop)) hcells' fun cell => ?_
  rw [horder, List.filterMap_append]
  exact congrArg _ (List.append_nil _).symm

/-- An operation of another thread: behind the transaction if that has visited the cell. -/
theorem Underway.operation {rest : Transaction Value Result}
    (h : Underway meaning program start labels rest results cells)
    (op : Op) :
    Underway meaning program start (labels ++ [.operation op]) rest
      results ((meaning op).on cells) := by
  obtain ⟨hlabels, hinside, hfinished, hserial, hprogress, hlater, hcells, horder⟩ := h
  rename_i finished inside events input earlier later visited before seen
  have hlabels' : labels ++ [.operation op] =
      finished ++ .start input :: (inside ++ [.operation op]) := by
    rw [hlabels, List.append_assoc, List.cons_append]
  have hinside' : ∀ label ∈ inside ++ [.operation op], label.input? = none :=
    forall_mem_join hinside rfl
  have horder' : ∀ cell, onCell meaning cell ((earlier ++ later) ++ [op]) =
      onCell meaning cell
        ((inside ++ [ThreadLabel.operation op]).filterMap ThreadLabel.operation?) := by
    intro cell
    rw [onCell_append, horder, List.filterMap_append, onCell_append]
    rfl
  by_cases hcell : (meaning op).cell ∈ visited
  · refine .intro hlabels' hinside' hfinished hserial hprogress (forall_mem_join hlater hcell)
      (by rw [onAll_concat, hcells]) fun cell => ?_
    rw [← List.append_assoc, horder']
  · have hothers : ∀ other ∈ later, (meaning other).cell ≠ (meaning op).cell :=
      fun other hother hsame => hcell (hsame ▸ hlater other hother)
    have hserial' : runSerial meaning program (events ++ (earlier ++ [op]).map .operation) start =
        some (results, (meaning op).on before) := by
      rw [List.map_append, ← List.append_assoc, runSerial_append, hserial, Option.bind_some]
      simp [runSerial]
    refine .intro hlabels' hinside' hfinished hserial' (hprogress.operation_first hcell) hlater ?_
      fun cell => ?_
    · rw [hcells, CellOp.on, CellOp.on, onAll_of_ne hothers, onAll_update hothers]
    · rw [onCell_move hothers, horder']

/-- The transaction returns its result: it is performed as a whole between the operations in
front of it and those behind it. -/
theorem Underway.finish {result : Result}
    (h : Underway meaning program start labels (.done result) results
      cells) :
    ∃ events, Rearranges meaning (labels ++ [.advance]) events ∧
      runSerial meaning program events start = some (results ++ [result], cells) := by
  obtain ⟨hlabels, hinside, hfinished, hserial, hprogress, hlater, hcells, horder⟩ := h
  rename_i finished inside events input earlier later visited before seen
  refine ⟨events ++ (earlier.map .operation ++ .transaction input :: later.map .operation),
    ?_, ?_⟩
  · rw [hlabels, List.append_assoc, List.cons_append]
    refine .transaction hfinished (forall_mem_join hinside rfl) fun cell => ?_
    rw [horder, List.filterMap_append]
    exact congrArg _ (List.append_nil _).symm
  · rw [← List.append_assoc, runSerial_append, hserial, Option.bind_some]
    dsimp only
    rw [runSerial, hprogress.run_eq, Transaction.run, Option.bind_some]
    dsimp only
    rw [runSerial_operations, ← hcells]
    rfl

/-- The step lemma. -/
theorem interleave_serializable (honce : ∀ input, (program input).VisitsOnce [])
    {state next : Interleaving Value Result} {label : ThreadLabel Input Op}
    (h : Serializable meaning program start labels state)
    (hstep : interleave meaning program state label = some next) :
    Serializable meaning program start (labels ++ [label]) next := by
  obtain ⟨cells, running, results⟩ := state
  cases label with
  | start input =>
      cases running with
      | some _ => cases hstep
      | none =>
          cases hstep
          obtain ⟨events, hevents, hserial⟩ := h
          have hbefore : runSerial meaning program
              (events ++ ([] : List Op).map .operation) start = some (results, cells) := by
            rw [List.map_nil, List.append_nil, hserial]
          exact .intro rfl (by simp) hevents hbefore .start
            (by simp : ∀ op ∈ ([] : List Op), _) rfl fun _ => rfl
  | advance =>
      cases running with
      | none => cases hstep
      | some rest =>
          cases rest with
          | panic => cases hstep
          | done result =>
              cases hstep
              exact Underway.finish h
          | visit cell update next =>
              obtain ⟨value, hupdate, rfl⟩ := Option.map_eq_some_iff.mp hstep
              exact Underway.advance h honce hupdate
  | operation op =>
      cases hstep
      cases running with
      | some rest => exact Underway.operation h op
      | none =>
          obtain ⟨events, hevents, hserial⟩ := h
          refine ⟨events ++ [.operation op], hevents.operation, ?_⟩
          rw [runSerial_append, hserial, Option.bind_some]
          simp [runSerial]

/-- When no transaction visits a cell twice, a run that ends between two transactions does
what a serial run of the rearranged events does, with the same results. -/
theorem Run.serializable (honce : ∀ input, (program input).VisitsOnce [])
    {state : Interleaving Value Result}
    (hrun : Run (interleave meaning program) ⟨start, none, []⟩ labels state)
    (hidle : state.running = none) :
    ∃ events, Rearranges meaning labels events ∧
      runSerial meaning program events start = some (state.results, state.cells) := by
  have hserializable : Serializable meaning program start labels state := by
    clear hidle
    induction hrun with
    | nil => exact ⟨[], .nil, rfl⟩
    | snoc _ hstep ih => exact interleave_serializable honce ih hstep
  rwa [Serializable, hidle] at hserializable

/-! ## What serial events keep, interleaved runs keep -/

/-- The rule for serial runs. -/
theorem runSerial_invariant {holds : List Result → Cells Value → Prop} (hstart : holds [] start)
    (htransaction : ∀ {results cells input result after}, holds results cells →
      (program input).run cells = some (result, after) → holds (results ++ [result]) after)
    (hoperation : ∀ {results cells} op, holds results cells →
      holds results ((meaning op).on cells))
    {events : List (SerialEvent Input Op)} {results : List Result} {cells : Cells Value}
    (h : runSerial meaning program events start = some (results, cells)) :
    holds results cells := by
  induction events using List.reverseRecOn generalizing results cells with
  | nil =>
      cases h
      exact hstart
  | append_singleton events event ih =>
      rw [runSerial_append] at h
      obtain ⟨⟨before, middle⟩, hbefore, hevent⟩ := Option.bind_eq_some_iff.mp h
      obtain ⟨⟨more, after⟩, hmore, hresult⟩ := Option.map_eq_some_iff.mp hevent
      cases hresult
      cases event with
      | operation op =>
          cases hmore
          rw [List.append_nil]
          exact hoperation op (ih hbefore)
      | transaction input =>
          obtain ⟨⟨result, last⟩, hrun, hrest⟩ := Option.bind_eq_some_iff.mp hmore
          cases hrest
          exact htransaction (ih hbefore) hrun

/-- The rule for interleaved runs: what every transaction keeps when it is performed as a
whole, and every operation keeps, holds between two transactions. -/
theorem Run.serial_invariant (honce : ∀ input, (program input).VisitsOnce [])
    {holds : List Result → Cells Value → Prop} (hstart : holds [] start)
    (htransaction : ∀ {results cells input result after}, holds results cells →
      (program input).run cells = some (result, after) → holds (results ++ [result]) after)
    (hoperation : ∀ {results cells} op, holds results cells →
      holds results ((meaning op).on cells))
    {state : Interleaving Value Result}
    (hrun : Run (interleave meaning program) ⟨start, none, []⟩ labels state)
    (hidle : state.running = none) : holds state.results state.cells := by
  obtain ⟨events, -, hserial⟩ := hrun.serializable honce hidle
  exact runSerial_invariant hstart htransaction hoperation hserial

end

/-! ## Visits that can always be made -/

section

variable {Cell : Type} [DecidableEq Cell] {Value : Cell → Type} {Result Input Op : Type}
  {meaning : Op → CellOp Value} {program : Input → Transaction Value Result}

/-- On a valid cell every visit can be made, and the cell stays valid. -/
def Transaction.Safe (valid : (cell : Cell) → Value cell → Prop) : Transaction Value Result → Prop
  | .done _ => True
  | .panic => False
  | .visit cell update next => ∀ value, valid cell value →
      (∃ updated, update value = some updated ∧ valid cell updated) ∧ (next value).Safe valid

/-- The cells are valid and the running transaction is safe. -/
structure Interleaving.Sound (valid : (cell : Cell) → Value cell → Prop)
    (state : Interleaving Value Result) : Prop where
  cells : ∀ cell, valid cell (state.cells cell)
  running : ∀ rest, state.running = some rest → rest.Safe valid

theorem valid_update {valid : (cell : Cell) → Value cell → Prop}
    {cells : Cells Value} (h : ∀ cell, valid cell (cells cell)) {cell : Cell} {value : Value cell}
    (hvalue : valid cell value) (other : Cell) :
    valid other (Function.update cells cell value other) := by
  rcases Decidable.em (other = cell) with rfl | hne
  · rwa [Function.update_self]
  · rw [Function.update_of_ne hne]
    exact h other

/-- The step lemma. -/
theorem Interleaving.Sound.step {valid : (cell : Cell) → Value cell → Prop}
    (hprogram : ∀ input, (program input).Safe valid)
    (hmeaning : ∀ op value, valid (meaning op).cell value →
      valid (meaning op).cell ((meaning op).act value))
    {state next : Interleaving Value Result} {label : ThreadLabel Input Op}
    (h : state.Sound valid) (hstep : interleave meaning program state label = some next) :
    next.Sound valid := by
  obtain ⟨cells, running, results⟩ := state
  obtain ⟨hcells, hrunning⟩ := h
  cases label with
  | start input =>
      cases running with
      | some _ => cases hstep
      | none =>
          cases hstep
          exact ⟨hcells, fun _ hrest => Option.some.inj hrest ▸ hprogram input⟩
  | advance =>
      cases running with
      | none => cases hstep
      | some rest =>
          cases rest with
          | panic => cases hstep
          | done result =>
              cases hstep
              exact ⟨hcells, fun _ hrest => nomatch hrest⟩
          | visit cell update next =>
              obtain ⟨value, hupdate, rfl⟩ := Option.map_eq_some_iff.mp hstep
              obtain ⟨⟨updated, hupdated, hvalid⟩, hnext⟩ :=
                hrunning _ rfl (cells cell) (hcells cell)
              cases hupdate.symm.trans hupdated
              exact ⟨valid_update hcells hvalid, fun _ hrest => Option.some.inj hrest ▸ hnext⟩
  | operation op =>
      cases hstep
      exact ⟨valid_update hcells (hmeaning op _ (hcells _)), hrunning⟩

/-- In no interleaving does a transaction get stuck or stop: whenever one runs, it can make
its next visit or return. -/
theorem Interleaving.Sound.advances {valid : (cell : Cell) → Value cell → Prop}
    {state : Interleaving Value Result} (h : state.Sound valid) (hbusy : state.running.isSome) :
    ∃ next, interleave meaning program state (ThreadLabel.advance) = some next := by
  obtain ⟨cells, running, results⟩ := state
  obtain ⟨hcells, hrunning⟩ := h
  cases running with
  | none => cases hbusy
  | some rest =>
      have hsafe := hrunning rest rfl
      cases rest with
      | panic => exact hsafe.elim
      | done result => exact ⟨_, rfl⟩
      | visit cell update next =>
          obtain ⟨⟨updated, hupdated, -⟩, -⟩ := hsafe (cells cell) (hcells cell)
          exact ⟨_, Option.map_eq_some_iff.mpr ⟨updated, hupdated, rfl⟩⟩

end

end GeSensor.Foundation
