import DocumentQuery.Execution.Executor

/-!
The executions of one executor, which take turns. A new execution, and one that has become able to
go on, waits for its turn in the order in which that happened. Those that could go on when their
turn ended get their next one when all others have had theirs, the last of them first.
-/

namespace DocumentQuery

structure Workload where
  executor : Executor
  executions : Array Execution := #[]
  /-- The indices of the executions that wait for a turn, the next one first. -/
  ready : List Nat := []

namespace Workload

/-- Puts an execution back after a change, which may enable it to go on. -/
def update (w : Workload) (i : Nat) (x : Execution) : Workload :=
  let wakes := x.step.isSome && !w.ready.contains i
  { w with
    executions := w.executions.setIfInBounds i x
    ready := if wakes then w.ready ++ [i] else w.ready }

/-- Takes in a new execution, under the index that is next. -/
def enlist (w : Workload) (x : Execution) : Workload :=
  { w with executions := w.executions.push x, ready := w.ready ++ [w.executions.size] }

/-- The turn of one execution; tells whether another one is due. -/
def runOne (w : Workload) (i : Nat) : Workload × Bool :=
  match w.executions[i]? with
  | none => (w, false)
  | some x =>
    let (executor, x, spent) := w.executor.run x
    ({ w with executor, executions := w.executions.setIfInBounds i x }, spent)

/-- A turn for each of the given executions; gives those for which another one is due, the last of
them first. -/
def runAll (w : Workload) (queue : List Nat) : Workload × List Nat :=
  queue.foldl (fun (w, due) i =>
    let (w, spent) := w.runOne i
    (w, if spent then i :: due else due)) (w, [])

/-- Turns until all executions have to wait or have ended, or at most the given number for each. -/
def rounds : Nat → List Nat → Workload → Workload
  | 0, queue, w => { w with ready := queue }
  | n + 1, queue, w =>
    match w.runAll queue with
    | (w, []) => w
    | (w, due) => rounds n due w

/-- A bound of the turns that can be due for one execution; every turn but the last takes a step. -/
def work (w : Workload) : Nat := w.executions.foldl (fun n x => n + x.work) 1

/-- Turns until all executions have to wait or have ended. -/
def run (w : Workload) : Workload := rounds w.work w.ready { w with ready := [] }

end Workload

end DocumentQuery
