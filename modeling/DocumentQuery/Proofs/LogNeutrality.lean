import DocumentQuery.Proofs.Journal

/-!
# Logging does not influence executions

Two executors that differ only in what they log go through the same deeds in lockstep: their
executions, what the transports, consumers and callers get, and the counters stay the same. What the
executors log can differ in two ways. Requests are logged or not, and a logger drops what is below
its minimum.
-/

namespace DocumentQuery

/-- What the parties around a service get from a deed. -/
inductive Reply where
  /-- The request that the transport got, if there was one, and the id of the execution or an error
  for the caller. -/
  | start (request : Option ExecuteRequest) (result : Except ExecutionError Nat)
  /-- What the transport is told about an event it offers, what the consumer sees, and what the
  callers of `cancel` are answered. -/
  | act (outcome : Option SendOutcome) (occurrences : List Occurrence)

namespace Session

/-- What a transport that offers an event is told. -/
def outcome (s : Session) : Action → Option SendOutcome
  | .send event =>
    if s.execution.channel.senderOpen then some (s.execution.send event).1 else none
  | _ => none

/-- What comes to the trace in an action. -/
def occurring (s : Session) (action : Action) : List Occurrence :=
  (s.act action).trace.drop s.trace.length

end Session

namespace Service

def reply (v : Service) : Deed → Reply
  | .start transport submission options mode =>
    let channel (request : ExecuteRequest) := (transport request).map Channel.ofCapacity
    .start (v.executor.buildRequest submission options).toOption
      ((v.executor.submit channel submission options mode).2.map Execution.id)
  | .act i action =>
    match v.members[i]? with
    | none => .act none []
    | some m => .act (m.session.outcome action) (m.session.occurring action)

/-- What the parties get from deeds, one after another. -/
def replies (v : Service) : List Deed → List Reply
  | [] => []
  | deed :: rest => v.reply deed :: (v.step deed).replies rest

end Service

/-! ### Services in lockstep -/

namespace Executor

variable {ex ex' : Executor}

/-- A request depends on the database only. -/
lemma buildRequest_of_database (same : ex.config.database = ex'.config.database)
    (submission : Submission) (options : ExecuteOptions) :
    ex.buildRequest submission options = ex'.buildRequest submission options := by
  rw [buildRequest, buildRequest, same]

/-- What the caller of a submission gets. -/
lemma submit_result (ex : Executor) (transport : ExecuteRequest → Except ExecutionError Channel)
    (submission : Submission) (options : ExecuteOptions) (mode : DeliveryMode) :
    (ex.submit transport submission options mode).2 =
      match ex.buildRequest submission options with
      | .error e => .error (.rejected e)
      | .ok request => (transport request).map fun channel =>
        .start ex.issued ex.config.database submission.pipeline channel
          (.ofMode ex.config.streamBuffer mode) := by
  rw [submit]
  cases ex.buildRequest submission options with
  | error e => rfl
  | ok request =>
    dsimp only
    cases transport request with
    | error e => rfl
    | ok channel => rfl

end Executor

namespace Service

/-- Two services have the same executions, and they will start the same ones. -/
structure Alike (v w : Service) : Prop where
  database : v.executor.config.database = w.executor.config.database
  streamBuffer : v.executor.config.streamBuffer = w.executor.config.streamBuffer
  issued : v.executor.issued = w.executor.issued
  members : v.members = w.members

variable {v w : Service}

namespace Alike

variable (h : v.Alike w)
include h

lemma buildRequest (submission : Submission) (options : ExecuteOptions) :
    v.executor.buildRequest submission options = w.executor.buildRequest submission options :=
  Executor.buildRequest_of_database h.database submission options

lemma reply (deed : Deed) : v.reply deed = w.reply deed := by
  cases deed with
  | start transport submission options mode =>
    rw [Service.reply, Service.reply, Executor.submit_result, Executor.submit_result,
      h.buildRequest, h.issued, h.database, h.streamBuffer]
  | act i action => rw [Service.reply, Service.reply, h.members]

/-- Both services count the same in a deed. -/
lemma counters_emitted (deed : Deed) : counters (v.emitted deed) = counters (w.emitted deed) := by
  have unlogged (ex : Executor) (request : ExecuteRequest) :
      counters (ex.requestEffects request) = [] := by
    rw [Executor.requestEffects]
    split <;> rfl
  cases deed with
  | start transport submission options mode =>
    rw [emitted, emitted, h.buildRequest]
    cases w.executor.buildRequest submission options with
    | error e => rfl
    | ok request =>
      dsimp only
      cases transport request with
      | error e => simp only [counters_append, unlogged, h.issued]
      | ok capacity =>
        simp only [counters_append, unlogged]
        rfl
  | act i action => rw [emitted, emitted, h.members]

/-- Services that agree about the logging of requests do the same to counters and log. -/
lemma emitted_eq (requests : v.executor.config.logRequests = w.executor.config.logRequests)
    (deed : Deed) : v.emitted deed = w.emitted deed := by
  cases deed with
  | start transport submission options mode =>
    have opening (request : ExecuteRequest) :
        v.executor.requestEffects request = w.executor.requestEffects request := by
      rw [Executor.requestEffects, Executor.requestEffects, requests, h.issued]
    have submitted (request : ExecuteRequest) :
        v.executor.submittedEffects request = w.executor.submittedEffects request := by
      rw [Executor.submittedEffects, Executor.submittedEffects, h.issued, h.database]
    rw [emitted, emitted, h.buildRequest]
    simp only [opening, submitted, h.issued]
  | act i action => rw [emitted, emitted, h.members]

/-- A deed does the same to the executions of both services. -/
theorem step (deed : Deed) : (v.step deed).Alike (w.step deed) := by
  suffices same : (v.step deed).executor.issued = (w.step deed).executor.issued ∧
      (v.step deed).members = (w.step deed).members by
    refine ⟨?_, ?_, same.1, same.2⟩
    · rw [step_config, step_config, h.database]
    · rw [step_config, step_config, h.streamBuffer]
  cases deed with
  | start transport submission options mode =>
    have built := h.buildRequest submission options
    cases theirs : w.executor.buildRequest submission options with
    | error e =>
      rw [theirs] at built
      rw [step_rejected built, step_rejected theirs]
      exact ⟨by rw [Executor.applyAll_issued, Executor.applyAll_issued, h.issued], h.members⟩
    | ok request =>
      rw [theirs] at built
      cases answer : transport request with
      | error e =>
        rw [step_refused built answer, step_refused theirs answer]
        exact ⟨congrArg (· + 1) h.issued, h.members⟩
      | ok capacity =>
        rw [step_accepted built answer, step_accepted theirs answer]
        refine ⟨congrArg (· + 1) h.issued, ?_⟩
        rw [h.members, h.issued, h.database, h.streamBuffer]
  | act i action =>
    cases found : w.members[i]? with
    | none =>
      have found' : v.members[i]? = none := by rw [h.members, found]
      rw [Service.step, Service.step, found, found']
      exact ⟨h.issued, h.members⟩
    | some m =>
      have found' : v.members[i]? = some m := by rw [h.members, found]
      rw [step_act found, step_act found']
      refine ⟨?_, by rw [h.members]⟩
      rw [Executor.applyAll_issued, Executor.applyAll_issued, h.issued]

/-- A whole run brings the same to all parties and to the counters. -/
theorem run (deeds : List Deed) :
    (v.run deeds).Alike (w.run deeds) ∧ v.replies deeds = w.replies deeds ∧
      counters (v.effects deeds) = counters (w.effects deeds) := by
  induction deeds generalizing v w with
  | nil => exact ⟨h, rfl, rfl⟩
  | cons deed rest ih =>
    obtain ⟨alike, replies, counted⟩ := ih (h.step deed)
    refine ⟨alike, ?_, ?_⟩
    · rw [Service.replies, Service.replies, h.reply, replies]
    · rw [effects, effects, counters_append, counters_append, h.counters_emitted, counted]

theorem effects_eq (requests : v.executor.config.logRequests = w.executor.config.logRequests)
    (deeds : List Deed) : v.effects deeds = w.effects deeds := by
  induction deeds generalizing v w with
  | nil => rfl
  | cons deed rest ih =>
    have later : (v.step deed).executor.config.logRequests =
        (w.step deed).executor.config.logRequests := by
      rw [step_config, step_config, requests]
    rw [effects, effects, h.emitted_eq requests, ih (h.step deed) later]

end Alike

lemma alike_logging (config : ExecutorConfig) (level level' : Severity) (requests requests' : Bool)
    (logger logger' : Logger) :
    Alike (logging { config with logLevel := level, logRequests := requests } logger)
      (logging { config with logLevel := level', logRequests := requests' } logger') :=
  ⟨rfl, rfl, rfl, rfl⟩

end Service

/-! ### What is logged -/

/-- The lines that the logger of an executor holds in memory. -/
def Executor.captured (ex : Executor) : List String := (ex.logger.write ex.journal).captured

namespace Service

/-- What a logger has kept it does not drop when it writes. -/
lemma captured_run (config : ExecutorConfig) (minimum : Severity) (deeds : List Deed) :
    ((logging config ⟨minimum, .memory⟩).run deeds).executor.captured =
      ((logging config ⟨minimum, .memory⟩).run deeds).executor.journal.map LogEntry.line := by
  have logger : ((logging config ⟨minimum, .memory⟩).run deeds).executor.logger =
      ⟨minimum, .memory⟩ := ((logging config ⟨minimum, .memory⟩).run_executor deeds).2.1
  rw [Executor.captured, logger, journal_logging]
  simp only [Logger.write, Logger.kept, List.filter_filter, Bool.and_self]

/-- Whatever the settings of the log, the parties get the same in return, and the executions and the
counters are the same. The journal has the entries that are severe enough. -/
theorem logging_is_neutral (config : ExecutorConfig) (level level' : Severity)
    (requests requests' : Bool) (logger logger' : Logger) (deeds : List Deed) :
    let v := logging { config with logLevel := level, logRequests := requests } logger
    let w := logging { config with logLevel := level', logRequests := requests' } logger'
    v.replies deeds = w.replies deeds ∧
      (v.run deeds).members = (w.run deeds).members ∧
      (v.run deeds).executor.metrics = (w.run deeds).executor.metrics ∧
      ∀ minimum,
        let kept := (logging { config with logLevel := level, logRequests := requests }
          ⟨minimum, .memory⟩).run deeds
        let full := (logging { config with logLevel := level', logRequests := requests }
          ⟨.trace, .memory⟩).run deeds
        kept.executor.journal = full.executor.journal.filter
            (fun entry => minimum.rank ≤ entry.severity.rank) ∧
          kept.executor.captured = kept.executor.journal.map LogEntry.line ∧
          full.executor.captured = full.executor.journal.map LogEntry.line := by
  intro v w
  have alike : v.Alike w := alike_logging config level level' requests requests' logger logger'
  obtain ⟨after, replies, counted⟩ := alike.run deeds
  refine ⟨replies, after.members, ?_, fun minimum => ⟨?_, captured_run .., captured_run ..⟩⟩
  · rw [(v.run_executor deeds).2.2.1, (w.run_executor deeds).2.2.1, counted]
    rfl
  · have effects := (alike_logging config level level' requests requests ⟨minimum, .memory⟩
      ⟨.trace, .memory⟩).effects_eq rfl deeds
    rw [journal_logging, journal_logging, effects, Logger.kept_trace]
    rfl

end Service

end DocumentQuery
