/-
  Foundation/LockOrder.lean --- deadlock freedom from an order on the locks.

  Threads run programs that acquire and release locks.  A thread that wants a lock
  first joins the lock's queue, and is granted the lock at some later moment when
  no holder excludes it.  The queue may be rearranged at any time, so that every
  policy about who is let in first, and who is kept back behind whom, is covered.

  If every program acquires locks only above, in some order, the locks it already
  holds, then no set of threads is deadlocked: each thread waits for a lock that
  another one of the set holds or is ahead in the queue for.
-/
import Mathlib.Order.WellFounded
import GeSensor.Foundation.Reachable

set_option autoImplicit false

namespace GeSensor.Foundation

/-- Shared or exclusive access; a mutex is always locked for writing. -/
inductive LockMode where
  | read
  | write
  deriving DecidableEq, Repr

/-- One step of a thread. -/
inductive LockAction (Lock : Type) where
  | acquire (lock : Lock) (mode : LockMode)
  | release (lock : Lock)
  deriving DecidableEq, Repr

/-- The lock usage of a piece of code. -/
inductive LockProgram (Lock : Type) where
  /-- no lock is touched -/
  | skip
  | seq (first second : LockProgram Lock)
  /-- one of two branches is taken -/
  | either (left right : LockProgram Lock)
  /-- the body runs with the lock held -/
  | locked (lock : Lock) (mode : LockMode) (body : LockProgram Lock)
  deriving Repr

namespace LockProgram

variable {Lock : Type}

/-- The sequences of steps a program may perform. -/
def runs : LockProgram Lock → List (List (LockAction Lock))
  | skip => [[]]
  | seq first second => first.runs.flatMap fun run => second.runs.map fun rest => run ++ rest
  | either left right => left.runs ++ right.runs
  | locked lock mode body =>
      body.runs.map fun run => .acquire lock mode :: (run ++ [.release lock])

/-- Programs one after the other. -/
def sequence (programs : List (LockProgram Lock)) : LockProgram Lock := programs.foldr seq skip

/-- A program that is run or not. -/
def optionally (program : LockProgram Lock) : LockProgram Lock := either skip program

/-- Every lock is acquired above the locks held at that point. -/
def Respects {Rank : Type} [LT Rank] (rank : Lock → Rank) :
    (outer : List Lock) → LockProgram Lock → Prop
  | _, skip => True
  | outer, seq first second => Respects rank outer first ∧ Respects rank outer second
  | outer, either left right => Respects rank outer left ∧ Respects rank outer right
  | outer, locked lock _ body =>
      (∀ held ∈ outer, rank held < rank lock) ∧ Respects rank (lock :: outer) body

/-- Whether a program respects an order can be computed. -/
def decideRespects {Rank : Type} [LT Rank] [DecidableLT Rank] (rank : Lock → Rank) :
    (outer : List Lock) → (program : LockProgram Lock) → Decidable (program.Respects rank outer)
  | _, skip => .isTrue trivial
  | outer, seq first second =>
      have := decideRespects rank outer first
      have := decideRespects rank outer second
      inferInstanceAs (Decidable (_ ∧ _))
  | outer, either left right =>
      have := decideRespects rank outer left
      have := decideRespects rank outer right
      inferInstanceAs (Decidable (_ ∧ _))
  | outer, locked lock _ body =>
      have := decideRespects rank (lock :: outer) body
      inferInstanceAs (Decidable (_ ∧ _))

instance {Rank : Type} [LT Rank] [DecidableLT Rank] (rank : Lock → Rank) (outer : List Lock)
    (program : LockProgram Lock) : Decidable (program.Respects rank outer) :=
  decideRespects rank outer program

end LockProgram

/-- The locks a thread holds and the steps it has yet to perform. -/
structure LockThread (Lock : Type) where
  held : List (Lock × LockMode)
  todo : List (LockAction Lock)
  deriving DecidableEq, Repr

/-- All threads, and for every lock the threads that wait for it. -/
structure LockState (Lock : Type) where
  threads : List (LockThread Lock)
  queue : Lock → List Nat

/-- A move of the system. -/
inductive LockLabel (Lock : Type) where
  /-- a thread is created -/
  | spawn
  /-- an idle thread begins a run of some program -/
  | begin (number : Nat) (run : List (LockAction Lock))
  /-- a thread joins the queue for the lock it wants -/
  | request (number : Nat)
  /-- the queue for a lock is rearranged -/
  | reorder (lock : Lock) (order : List Nat)
  /-- a thread is granted the lock it waits for -/
  | grant (number : Nat)
  /-- a thread releases a lock -/
  | release (number : Nat)

section

variable {Lock : Type} [DecidableEq Lock]

/-- State without threads. -/
def LockState.initial : LockState Lock where
  threads := []
  queue := fun _ => []

/-- No holder excludes access in this mode: a writer excludes everybody, a reader
excludes writers. -/
def LockState.admits (state : LockState Lock) (lock : Lock) (mode : LockMode) : Bool :=
  state.threads.all fun thread => thread.held.all fun (other, otherMode) =>
    other != lock || (mode == .read && otherMode == .read)

/-- The state with another queue for one lock. -/
def LockState.setQueue (state : LockState Lock) (lock : Lock) (order : List Nat) :
    LockState Lock :=
  { state with queue := fun other => if other = lock then order else state.queue other }

/-- One move of the system that runs the given programs. -/
def lockStep (programs : List (LockProgram Lock)) (state : LockState Lock) :
    LockLabel Lock → Option (LockState Lock)
  | .spawn => some { state with threads := state.threads ++ [⟨[], []⟩] }
  | .begin number run =>
      match state.threads[number]? with
      | some ⟨held, []⟩ =>
          if run ∈ programs.flatMap LockProgram.runs then
            some { state with threads := state.threads.set number ⟨held, run⟩ }
          else none
      | _ => none
  | .request number =>
      match state.threads[number]? with
      | some ⟨_, .acquire lock _ :: _⟩ =>
          if number ∈ state.queue lock then none
          else some (state.setQueue lock (state.queue lock ++ [number]))
      | _ => none
  | .reorder lock order =>
      if order.isPerm (state.queue lock) then some (state.setQueue lock order) else none
  | .grant number =>
      match state.threads[number]? with
      | some ⟨held, .acquire lock mode :: rest⟩ =>
          if number ∈ state.queue lock ∧ state.admits lock mode = true then
            some { state.setQueue lock ((state.queue lock).filter (· ≠ number)) with
              threads := state.threads.set number ⟨(lock, mode) :: held, rest⟩ }
          else none
      | _ => none
  | .release number =>
      match state.threads[number]? with
      | some ⟨held, .release lock :: rest⟩ =>
          some { state with
            threads := state.threads.set number ⟨held.eraseP (·.1 = lock), rest⟩ }
      | _ => none

/-- A thread waits for a lock that the other one holds or is ahead in the queue
for. -/
def LockState.WaitsFor (state : LockState Lock) (number other : Nat) : Prop :=
  ∃ lock, number ∈ state.queue lock ∧
    ((∃ thread ∈ state.threads[other]?, ∃ mode, (lock, mode) ∈ thread.held) ∨
      (state.queue lock).idxOf other < (state.queue lock).idxOf number)

/-- Some threads all wait for each other. -/
def LockState.Deadlocked (state : LockState Lock) : Prop :=
  ∃ threads : Set Nat, threads.Nonempty ∧
    ∀ number ∈ threads, ∃ other ∈ threads, state.WaitsFor number other

/-! ## Ordered threads -/

section

variable {Rank : Type} [LT Rank] {rank : Lock → Rank}

/-- A thread acquires every lock above those it holds then, and ends with none. -/
def Ordered (rank : Lock → Rank) : (held : List (Lock × LockMode)) → List (LockAction Lock) → Prop
  | held, [] => held = []
  | held, .acquire lock mode :: rest =>
      (∀ entry ∈ held, rank entry.1 < rank lock) ∧ Ordered rank ((lock, mode) :: held) rest
  | held, .release lock :: rest => Ordered rank (held.eraseP (·.1 = lock)) rest

/-- A run of a program that respects the order can be put before an ordered rest. -/
theorem Ordered.run_append {program : LockProgram Lock} :
    ∀ {outer : List Lock} {held : List (Lock × LockMode)} {run rest : List (LockAction Lock)},
      program.Respects rank outer → held.map Prod.fst = outer → run ∈ program.runs →
      Ordered rank held rest → Ordered rank held (run ++ rest) := by
  induction program with
  | skip =>
      intro outer held run rest _ _ hrun hrest
      obtain rfl : run = [] := List.mem_singleton.mp hrun
      exact hrest
  | seq first second ihFirst ihSecond =>
      intro outer held run rest hrespects hheld hrun hrest
      obtain ⟨firstRun, hfirst, hmap⟩ := List.mem_flatMap.mp hrun
      obtain ⟨secondRun, hsecond, rfl⟩ := List.mem_map.mp hmap
      rw [List.append_assoc]
      exact ihFirst hrespects.1 hheld hfirst (ihSecond hrespects.2 hheld hsecond hrest)
  | either left right ihLeft ihRight =>
      intro outer held run rest hrespects hheld hrun hrest
      rcases List.mem_append.mp hrun with hrun | hrun
      · exact ihLeft hrespects.1 hheld hrun hrest
      · exact ihRight hrespects.2 hheld hrun hrest
  | locked lock mode body ih =>
      intro outer held run rest hrespects hheld hrun hrest
      obtain ⟨bodyRun, hbody, rfl⟩ := List.mem_map.mp hrun
      rw [List.cons_append, List.append_assoc]
      refine ⟨fun entry hentry => hrespects.1 entry.1 (hheld ▸ List.mem_map_of_mem hentry), ?_⟩
      refine ih hrespects.2 (by rw [List.map_cons, hheld]) hbody ?_
      -- Behind the body the lock is released again.
      change Ordered rank (((lock, mode) :: held).eraseP (·.1 = lock)) rest
      rw [List.eraseP_cons_of_pos (by simp)]
      exact hrest

/-- The threads are ordered, and those in a queue want the queue's lock. -/
structure LockState.Disciplined (rank : Lock → Rank) (state : LockState Lock) : Prop where
  ordered : ∀ thread ∈ state.threads, Ordered rank thread.held thread.todo
  waiting : ∀ {lock : Lock} {number : Nat}, number ∈ state.queue lock →
    ∃ held mode rest, state.threads[number]? = some ⟨held, .acquire lock mode :: rest⟩

/-- A thread moves on: the other threads and the queues it is not in are kept. -/
theorem LockState.Disciplined.setThread {state : LockState Lock} (h : state.Disciplined rank)
    {number : Nat} {thread : LockThread Lock} (hordered : Ordered rank thread.held thread.todo)
    {queue : Lock → List Nat}
    (hqueue : ∀ {lock : Lock} {other : Nat}, other ∈ queue lock →
      other ≠ number ∧ other ∈ state.queue lock) :
    LockState.Disciplined rank ⟨state.threads.set number thread, queue⟩ := by
  refine ⟨forall_mem_set h.ordered hordered, fun {lock other} hother => ?_⟩
  obtain ⟨hne, hqueued⟩ := hqueue hother
  obtain ⟨held, mode, rest, hwaits⟩ := h.waiting hqueued
  exact ⟨held, mode, rest, (List.getElem?_set_ne hne.symm).trans hwaits⟩

/-- Another queue for one lock, of threads that want it. -/
theorem LockState.Disciplined.setQueue {state : LockState Lock} (h : state.Disciplined rank)
    {lock : Lock} {order : List Nat}
    (horder : ∀ number ∈ order,
      ∃ held mode rest, state.threads[number]? = some ⟨held, .acquire lock mode :: rest⟩) :
    (state.setQueue lock order).Disciplined rank := by
  refine ⟨h.ordered, fun {other number} hnumber => ?_⟩
  rw [LockState.setQueue] at hnumber
  dsimp only at hnumber
  split at hnumber
  · rename_i hlock
    subst hlock
    exact horder number hnumber
  · exact h.waiting hnumber

/-- A thread that wants a lock is in no queue but that lock's. -/
theorem LockState.Disciplined.lock_eq {state : LockState Lock} (h : state.Disciplined rank)
    {lock : Lock} {number : Nat} {thread : LockThread Lock}
    (hthread : state.threads[number]? = some thread) (hqueued : number ∈ state.queue lock) :
    ∃ mode rest, thread.todo = .acquire lock mode :: rest := by
  obtain ⟨held, mode, rest, hwaits⟩ := h.waiting hqueued
  rw [hthread, Option.some.injEq] at hwaits
  exact ⟨mode, rest, by rw [hwaits]⟩

/-- A thread that wants something else is not in the lock's queue. -/
theorem LockState.Disciplined.ne_of_queued {state : LockState Lock} (h : state.Disciplined rank)
    {lock : Lock} {number other : Nat} {thread : LockThread Lock}
    (hthread : state.threads[number]? = some thread)
    (hwants : ∀ mode rest, thread.todo ≠ .acquire lock mode :: rest)
    (hqueued : other ∈ state.queue lock) : other ≠ number := by
  rintro rfl
  obtain ⟨mode, rest, htodo⟩ := h.lock_eq hthread hqueued
  exact hwants mode rest htodo

/-- A new thread holds nothing and waits for nothing. -/
theorem LockState.Disciplined.spawn {state : LockState Lock} (h : state.Disciplined rank) :
    LockState.Disciplined rank { state with threads := state.threads ++ [⟨[], []⟩] } := by
  refine ⟨forall_mem_join h.ordered rfl, fun {lock number} hqueued => ?_⟩
  obtain ⟨held, mode, rest, hwaits⟩ := h.waiting hqueued
  exact ⟨held, mode, rest, getElem?_join hwaits⟩

/-- An idle thread begins an ordered run. -/
theorem LockState.Disciplined.begin {state : LockState Lock} (h : state.Disciplined rank)
    {number : Nat} {held : List (Lock × LockMode)} {run : List (LockAction Lock)}
    (hthread : state.threads[number]? = some ⟨held, []⟩) (hrun : Ordered rank [] run) :
    LockState.Disciplined rank
      { state with threads := state.threads.set number ⟨held, run⟩ } := by
  obtain rfl : held = [] := h.ordered _ (List.mem_of_getElem? hthread)
  refine h.setThread hrun fun {lock other} hqueued => ⟨?_, hqueued⟩
  exact h.ne_of_queued hthread nofun hqueued

/-- A thread is granted the lock it wants, and leaves its queue. -/
theorem LockState.Disciplined.grant {state : LockState Lock} (h : state.Disciplined rank)
    {number : Nat} {held : List (Lock × LockMode)} {lock : Lock} {mode : LockMode}
    {rest : List (LockAction Lock)}
    (hthread : state.threads[number]? = some ⟨held, .acquire lock mode :: rest⟩) :
    LockState.Disciplined rank
      { state.setQueue lock ((state.queue lock).filter (· ≠ number)) with
        threads := state.threads.set number ⟨(lock, mode) :: held, rest⟩ } := by
  have hordered := h.ordered _ (List.mem_of_getElem? hthread)
  refine h.setThread hordered.2 fun {other waiting} hqueued => ?_
  rw [LockState.setQueue] at hqueued
  dsimp only at hqueued
  split at hqueued
  · rename_i hlock
    obtain ⟨hmem, hne⟩ := List.mem_filter.mp hqueued
    exact ⟨of_decide_eq_true hne, hlock ▸ hmem⟩
  · rename_i hlock
    refine ⟨h.ne_of_queued hthread (fun _ _ htodo => ?_) hqueued, hqueued⟩
    cases htodo
    exact hlock rfl

/-- A thread releases a lock. -/
theorem LockState.Disciplined.release {state : LockState Lock} (h : state.Disciplined rank)
    {number : Nat} {held : List (Lock × LockMode)} {lock : Lock} {rest : List (LockAction Lock)}
    (hthread : state.threads[number]? = some ⟨held, .release lock :: rest⟩) :
    LockState.Disciplined rank
      { state with threads := state.threads.set number ⟨held.eraseP (·.1 = lock), rest⟩ } := by
  have hordered : Ordered rank (held.eraseP (·.1 = lock)) rest :=
    h.ordered _ (List.mem_of_getElem? hthread)
  refine h.setThread hordered fun {wanted other} hqueued => ⟨?_, hqueued⟩
  exact h.ne_of_queued hthread nofun hqueued

/-- The step lemma. -/
theorem lockStep_disciplined {programs : List (LockProgram Lock)}
    (hrespects : ∀ program ∈ programs, program.Respects rank [])
    {state next : LockState Lock} {label : LockLabel Lock} (h : state.Disciplined rank)
    (hstep : lockStep programs state label = some next) : next.Disciplined rank := by
  cases label with
  | spawn =>
      cases hstep
      exact h.spawn
  | begin number run =>
      rw [lockStep] at hstep
      split at hstep
      · rename_i held hthread
        rw [Option.ite_none_right_eq_some] at hstep
        obtain ⟨hrun, hnext⟩ := hstep
        cases hnext
        obtain ⟨program, hprogram, hrun⟩ := List.mem_flatMap.mp hrun
        have hordered : Ordered rank [] (run ++ []) :=
          Ordered.run_append (hrespects program hprogram) rfl hrun rfl
        rw [List.append_nil] at hordered
        exact h.begin hthread hordered
      · cases hstep
  | request number =>
      rw [lockStep] at hstep
      split at hstep
      · rename_i held lock mode rest hthread
        split at hstep
        · cases hstep
        · cases hstep
          refine h.setQueue fun other hother => ?_
          rcases List.mem_append.mp hother with hother | hother
          · exact h.waiting hother
          · rw [List.mem_singleton.mp hother]
            exact ⟨held, mode, rest, hthread⟩
      · cases hstep
  | reorder lock order =>
      rw [lockStep, Option.ite_none_right_eq_some] at hstep
      obtain ⟨hperm, hnext⟩ := hstep
      cases hnext
      exact h.setQueue fun other hother =>
        h.waiting ((List.isPerm_iff.mp hperm).mem_iff.mp hother)
  | grant number =>
      rw [lockStep] at hstep
      split at hstep
      · rename_i hthread
        rw [Option.ite_none_right_eq_some] at hstep
        obtain ⟨_, hnext⟩ := hstep
        cases hnext
        exact h.grant hthread
      · cases hstep
  | release number =>
      rw [lockStep] at hstep
      split at hstep
      · rename_i hthread
        cases hstep
        exact h.release hthread
      · cases hstep

end

/-! ## No deadlock -/

section

variable {Rank : Type} [Preorder Rank] [WellFoundedGT Rank] {rank : Lock → Rank}

/-- Ordered threads are not deadlocked: along the threads that wait for each other
the rank of the lock goes up, or the place in its queue goes down. -/
theorem LockState.Disciplined.not_deadlocked {state : LockState Lock}
    (h : state.Disciplined rank) : ¬ state.Deadlocked := by
  rintro ⟨threads, ⟨first, hfirst⟩, hall⟩
  have hnone : ∀ (r : Rank) (place : Nat) (lock : Lock) (number : Nat), number ∈ threads →
      number ∈ state.queue lock → rank lock = r → (state.queue lock).idxOf number = place →
      False := by
    intro r
    induction r using WellFoundedGT.induction with
    | _ r ihRank =>
        intro place
        induction place using Nat.strong_induction_on with
        | _ place ihPlace =>
            rintro lock number hnumber hqueued rfl rfl
            obtain ⟨other, hother, lock', hqueued', hblocked⟩ := hall number hnumber
            obtain ⟨held, mode, rest, hthread⟩ := h.waiting hqueued
            obtain ⟨_, _, htodo⟩ := h.lock_eq hthread hqueued'
            cases htodo
            rcases hblocked with ⟨holder, hholder, otherMode, hheld⟩ | hahead
            · -- The holder waits itself, for a lock above.
              obtain ⟨_, _, next, hnext, _⟩ := hall other hother
              obtain ⟨_, _, htodo⟩ := h.lock_eq hholder hnext
              have hordered := h.ordered holder (List.mem_of_getElem? hholder)
              rw [htodo] at hordered
              exact ihRank (rank next) (hordered.1 _ hheld) _ next other hother hnext rfl rfl
            · have hin : other ∈ state.queue lock := by
                rw [← List.idxOf_lt_length_iff]
                exact Nat.lt_trans hahead (List.idxOf_lt_length_iff.mpr hqueued)
              exact ihPlace _ hahead lock other hother hin rfl rfl
  obtain ⟨_, _, lock, hqueued, _⟩ := hall first hfirst
  exact hnone _ _ lock first hfirst hqueued rfl rfl

/-- Threads that run programs with ordered lock usage, in any number and in any
interleaving, are never deadlocked. -/
theorem not_deadlocked_of_respects {programs : List (LockProgram Lock)}
    (hrespects : ∀ program ∈ programs, program.Respects rank []) {state : LockState Lock}
    (h : Reachable (lockStep programs) .initial state) : ¬ state.Deadlocked := by
  have hdisciplined : state.Disciplined rank := by
    refine ReachableBy.invariant (LockState.Disciplined rank) ⟨?_, ?_⟩
      (fun hinv _ hstep => lockStep_disciplined hrespects hinv hstep) h
    · intro thread hmem
      cases hmem
    · intro _ _ hmem
      cases hmem
  exact hdisciplined.not_deadlocked

end

end

end GeSensor.Foundation
