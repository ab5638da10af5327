import DocumentQuery.Proofs.Counters

/-!
# Executors with many executions

A service is an executor together with all the executions that it has started, each of them among
its own parties. These parties and the callers who start executions act in any order, and what a
driver counts is added to the metrics of the one executor.
-/

namespace DocumentQuery

namespace Session

/-- What the driver does to the counters and the log in an action. -/
def emitted (s : Session) : Action → List Effect
  | .drive =>
    match s.execution.step with
    | some (_, effects) => effects
    | none => []
  | _ => []

/-- The rows that the driver hands over in an action. -/
def dealt (s : Session) : Action → List Row
  | .drive => s.drive.execution.consumer.rows.drop s.execution.consumer.rows.length
  | _ => []

end Session

/-- An execution, what its driver has done to the counters and the log, and the rows that it has
handed over. -/
structure Member where
  session : Session
  effects : List Effect := []
  handed : List Row := []

namespace Member

/-- An execution that has just been started. -/
def fresh (x : Execution) : Member := { session := { execution := x } }

def execution (m : Member) : Execution := m.session.execution

def act (m : Member) (action : Action) : Member where
  session := m.session.act action
  effects := m.effects ++ m.session.emitted action
  handed := m.handed ++ m.session.dealt action

end Member

/-- What the parties around a service can do: start an execution, with the transport's answer to the
request as the capacity of a channel or an error, or take part in one that has been started. -/
inductive Deed where
  | start (transport : ExecuteRequest → Except ExecutionError Nat) (submission : Submission)
      (options : ExecuteOptions) (mode : DeliveryMode)
  | act (member : Nat) (action : Action)

structure Service where
  executor : Executor
  members : List Member

namespace Service

def idle (config : ExecutorConfig) : Service := ⟨.ofConfig config, []⟩

def step (v : Service) : Deed → Service
  | .start transport submission options mode =>
    match v.executor.submit (fun request => (transport request).map .ofCapacity) submission options
        mode with
    | (executor, .error _) => { v with executor }
    | (executor, .ok x) => { executor, members := v.members ++ [.fresh x] }
  | .act i action =>
    match v.members[i]? with
    | none => v
    | some m =>
      { executor := v.executor.applyAll (m.session.emitted action)
        members := v.members.set i (m.act action) }

def run (v : Service) (deeds : List Deed) : Service := deeds.foldl step v

end Service

lemma Executor.applyAll_append (ex : Executor) (effects more : List Effect) :
    (ex.applyAll effects).applyAll more = ex.applyAll (effects ++ more) := by
  rw [applyAll, applyAll, applyAll, List.foldl_append]

namespace Service

section Start

variable {v : Service} {transport : ExecuteRequest → Except ExecutionError Nat}
  {submission : Submission} {options : ExecuteOptions} {mode : DeliveryMode}
  {request : ExecuteRequest}

/-- The transport has no part in a start whose request cannot be built. -/
lemma step_rejected {e : BuildError}
    (built : v.executor.buildRequest submission options = .error e) :
    v.step (.start transport submission options mode) =
      { v with executor := v.executor.applyAll (Executor.rejectionEffects e) } := by
  rw [step, Executor.submit, built]

lemma step_refused {e : ExecutionError}
    (built : v.executor.buildRequest submission options = .ok request)
    (answer : transport request = .error e) :
    v.step (.start transport submission options mode) =
      { v with
        executor := { v.executor.applyAll (v.executor.requestEffects request ++
          Execution.failureEffects v.executor.issued e) with
            issued := v.executor.issued + 1 } } := by
  rw [step, Executor.submit, built]
  simp only [answer, Except.map, Executor.applyAll_append]

lemma step_accepted {capacity : Nat}
    (built : v.executor.buildRequest submission options = .ok request)
    (answer : transport request = .ok capacity) :
    v.step (.start transport submission options mode) =
      { executor := { v.executor.applyAll (v.executor.requestEffects request ++
          v.executor.submittedEffects request) with issued := v.executor.issued + 1 }
        members := v.members ++ [.fresh (.start v.executor.issued v.executor.config.database
          submission.pipeline (.ofCapacity capacity)
          (.ofMode v.executor.config.streamBuffer mode))] } := by
  rw [step, Executor.submit, built]
  simp only [answer, Except.map, Executor.applyAll_append]

end Start

variable {v : Service} {i : Nat} {m : Member}

lemma step_act (found : v.members[i]? = some m) (action : Action) :
    v.step (.act i action) =
      { executor := v.executor.applyAll (m.session.emitted action)
        members := v.members.set i (m.act action) } := by
  rw [step, found]

/-- A turn of a driver is a number of its steps, in the state of its execution and in what it does
to the counters and the log. -/
theorem turn_eq_drives (n credit : Nat) (found : v.members[i]? = some m) :
    ∃ k, (v.run (List.replicate k (.act i .drive))).executor =
        v.executor.applyAll (Execution.turn n credit m.execution).effects ∧
      (v.run (List.replicate k (.act i .drive))).members[i]?.map Member.execution =
        some (Execution.turn n credit m.execution).execution := by
  induction n generalizing credit v m with
  | zero => exact ⟨0, rfl, congrArg (Option.map Member.execution) found⟩
  | succ n ih =>
    rw [Execution.turn]
    split
    · exact ⟨0, rfl, congrArg (Option.map Member.execution) found⟩
    · cases step : m.execution.step with
      | none => exact ⟨0, rfl, congrArg (Option.map Member.execution) found⟩
      | some next =>
        obtain ⟨y, effects⟩ := next
        have emitted : m.session.emitted .drive = effects := by
          rw [Session.emitted, ← Member.execution, step]
        have driven : (m.act .drive).execution = y := by
          change m.session.drive.execution = y
          rw [Session.drive, ← Member.execution, step]
        have stepped := step_act found .drive
        rw [emitted] at stepped
        have present : i < v.members.length := (List.getElem?_eq_some_iff.mp found).1
        have found' : (v.step (.act i .drive)).members[i]? = some (m.act .drive) := by
          rw [stepped, List.getElem?_set_self present]
        obtain ⟨k, executor, execution⟩ := ih (credit - m.execution.exchanged) found'
        rw [driven] at executor execution
        refine ⟨k + 1, executor.trans ?_, execution⟩
        rw [stepped, Executor.applyAll_append]

end Service

end DocumentQuery
