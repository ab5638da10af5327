import DocumentQuery.Proofs.Service

/-!
# What becomes of effects

Effects go to two places that know nothing of each other: counters to the metrics, and log entries
to the logger, which keeps some of them for the journal. So all that a run does to an executor is
told by the effects of its deeds, in their order.
-/

namespace DocumentQuery

namespace Effect

def counter? : Effect → Option Counter
  | .count counter => some counter
  | .log _ => none

def entry? : Effect → Option LogEntry
  | .count _ => none
  | .log entry => some entry

end Effect

/-- The counters among effects. -/
def counters (effects : List Effect) : List Counter := effects.filterMap Effect.counter?

/-- The log entries among effects. -/
def entries (effects : List Effect) : List LogEntry := effects.filterMap Effect.entry?

section Entries

variable {effects : List Effect}

@[simp] lemma counters_nil : counters [] = [] := rfl

@[simp] lemma counters_count (c : Counter) :
    counters (.count c :: effects) = c :: counters effects := rfl

@[simp] lemma counters_log (entry : LogEntry) :
    counters (.log entry :: effects) = counters effects := rfl

@[simp] lemma counters_append (more : List Effect) :
    counters (effects ++ more) = counters effects ++ counters more :=
  List.filterMap_append

@[simp] lemma entries_nil : entries [] = [] := rfl

@[simp] lemma entries_count (c : Counter) : entries (.count c :: effects) = entries effects := rfl

@[simp] lemma entries_log (entry : LogEntry) :
    entries (.log entry :: effects) = entry :: entries effects := rfl

@[simp] lemma entries_append (more : List Effect) :
    entries (effects ++ more) = entries effects ++ entries more :=
  List.filterMap_append

end Entries

/-! ### Metrics and journal -/

namespace Logger

variable (logger : Logger)

@[simp] lemma kept_nil : logger.kept [] = [] := rfl

lemma kept_cons (entry : LogEntry) (rest : List LogEntry) :
    logger.kept (entry :: rest) =
      if logger.enabled entry.severity then entry :: logger.kept rest else logger.kept rest :=
  List.filter_cons

@[simp] lemma kept_append (first more : List LogEntry) :
    logger.kept (first ++ more) = logger.kept first ++ logger.kept more :=
  List.filter_append ..

/-- A logger whose minimum is `TRACE` keeps everything. -/
@[simp] lemma kept_trace (sink : LogSink) (entries : List LogEntry) :
    Logger.kept ⟨.trace, sink⟩ entries = entries :=
  List.filter_eq_self.2 fun entry _ => decide_eq_true (Nat.zero_le entry.severity.rank)

end Logger

@[simp] lemma Metrics.countAll_append (m : Metrics) (first more : List Counter) :
    m.countAll (first ++ more) = (m.countAll first).countAll more :=
  List.foldl_append

namespace Executor

/-- Counters are counted, entries are logged, and nothing else happens. -/
theorem applyAll_eq (ex : Executor) (effects : List Effect) :
    ex.applyAll effects =
      { ex with
        metrics := ex.metrics.countAll (counters effects)
        journal := ex.journal ++ ex.logger.kept (entries effects) } := by
  induction effects generalizing ex with
  | nil => simp [applyAll, Metrics.countAll]
  | cons effect rest ih =>
    have later : ex.applyAll (effect :: rest) = (ex.apply effect).applyAll rest := rfl
    rw [later, ih]
    cases effect with
    | count c => rfl
    | log entry =>
      rw [apply, entries_log, counters_log, Logger.kept_cons]
      by_cases enabled : ex.logger.enabled entry.severity = true
      · simp only [if_pos enabled, List.append_assoc, List.singleton_append]
      · simp only [if_neg enabled]

lemma applyAll_issued (ex : Executor) (effects : List Effect) :
    (ex.applyAll effects).issued = ex.issued := by
  rw [applyAll_eq]

end Executor

/-! ### The effects of deeds -/

namespace Service

/-- An executor with the given logger and without executions. -/
def logging (config : ExecutorConfig) (logger : Logger) : Service := ⟨{ config, logger }, []⟩

/-- What a deed does to the counters and the log. -/
def emitted (v : Service) : Deed → List Effect
  | .start transport submission options _ =>
    match v.executor.buildRequest submission options with
    | .error e => Executor.rejectionEffects e
    | .ok request =>
      match transport request with
      | .error e =>
        v.executor.requestEffects request ++ Execution.failureEffects v.executor.issued e
      | .ok _ => v.executor.requestEffects request ++ v.executor.submittedEffects request
  | .act i action =>
    match v.members[i]? with
    | none => []
    | some m => m.session.emitted action

/-- What deeds do to the counters and the log, one after another. -/
def effects (v : Service) : List Deed → List Effect
  | [] => []
  | deed :: rest => v.emitted deed ++ (v.step deed).effects rest

section Start

variable {v : Service} {transport : ExecuteRequest → Except ExecutionError Nat}
  {submission : Submission} {options : ExecuteOptions} {mode : DeliveryMode}
  {request : ExecuteRequest}

lemma emitted_rejected {e : BuildError}
    (built : v.executor.buildRequest submission options = .error e) :
    v.emitted (.start transport submission options mode) = Executor.rejectionEffects e := by
  rw [emitted, built]

lemma emitted_refused {e : ExecutionError}
    (built : v.executor.buildRequest submission options = .ok request)
    (answer : transport request = .error e) :
    v.emitted (.start transport submission options mode) =
      v.executor.requestEffects request ++ Execution.failureEffects v.executor.issued e := by
  rw [emitted, built]
  simp only [answer]

lemma emitted_accepted {capacity : Nat}
    (built : v.executor.buildRequest submission options = .ok request)
    (answer : transport request = .ok capacity) :
    v.emitted (.start transport submission options mode) =
      v.executor.requestEffects request ++ v.executor.submittedEffects request := by
  rw [emitted, built]
  simp only [answer]

end Start

/-- The executor after a deed: the effects are applied, and a start may have used up an id. -/
lemma step_executor (v : Service) (deed : Deed) :
    ∃ issued, (v.step deed).executor = { v.executor.applyAll (v.emitted deed) with issued } := by
  cases deed with
  | start transport submission options mode =>
    cases built : v.executor.buildRequest submission options with
    | error e => exact ⟨_, by rw [step_rejected built, emitted_rejected built]⟩
    | ok request =>
      cases answer : transport request with
      | error e => exact ⟨_, by rw [step_refused built answer, emitted_refused built answer]⟩
      | ok capacity => exact ⟨_, by rw [step_accepted built answer, emitted_accepted built answer]⟩
  | act i action =>
    rw [emitted]
    cases found : v.members[i]? with
    | none => exact ⟨_, by rw [step, found]; rfl⟩
    | some m => exact ⟨_, by rw [step_act found]⟩

lemma step_config (v : Service) (deed : Deed) :
    (v.step deed).executor.config = v.executor.config := by
  obtain ⟨issued, executor⟩ := v.step_executor deed
  rw [executor, Executor.applyAll_eq]

/-- The settings of an executor, its metrics and its journal after a run. -/
theorem run_executor (v : Service) (deeds : List Deed) :
    (v.run deeds).executor.config = v.executor.config ∧
      (v.run deeds).executor.logger = v.executor.logger ∧
      (v.run deeds).executor.metrics = v.executor.metrics.countAll (counters (v.effects deeds)) ∧
      (v.run deeds).executor.journal =
        v.executor.journal ++ v.executor.logger.kept (entries (v.effects deeds)) := by
  induction deeds generalizing v with
  | nil => simp [run, effects, Metrics.countAll]
  | cons deed rest ih =>
    obtain ⟨issued, executor⟩ := v.step_executor deed
    obtain ⟨config, logger, metrics, journal⟩ := ih (v.step deed)
    have later : v.run (deed :: rest) = (v.step deed).run rest := rfl
    rw [Executor.applyAll_eq] at executor
    rw [executor] at config logger metrics journal
    rw [later, effects, config, logger, metrics, journal]
    simp

/-- The journal has what the logger keeps. -/
lemma journal_logging (config : ExecutorConfig) (logger : Logger) (deeds : List Deed) :
    ((logging config logger).run deeds).executor.journal =
      logger.kept (entries ((logging config logger).effects deeds)) := by
  rw [((logging config logger).run_executor deeds).2.2.2]
  rfl

end Service

end DocumentQuery
