import DocumentQuery.Config
import DocumentQuery.Execution.Page
import DocumentQuery.Execution.Run

/-!
The executor submits pipelines to a transport and keeps the counters and the log of all its
executions. A request that cannot be built is rejected and never reaches the transport.

Submissions are made inside an asynchronous runtime, on which the drivers run. Outside of one, a
request that has been built is refused with an error before it is logged, counted or sent. Such a
refusal changes nothing, so it is no case of a submission here.
-/

namespace DocumentQuery

/-- Settings of one request: a consistent read at a time, or inside a transaction. -/
structure ExecuteOptions where
  readTime : Option Timestamp := none
  transaction : Option Blob := none

structure Executor where
  config : ExecutorConfig
  logger : Logger
  metrics : Metrics := {}
  /-- The entries that the logger kept, in order. -/
  journal : List LogEntry := []
  /-- The executions that have been given an id. -/
  issued : Nat := 0

namespace Executor

def ofConfig (config : ExecutorConfig) : Executor := { config, logger := .ofLevel config.logLevel }

def apply (ex : Executor) : Effect → Executor
  | .count counter => { ex with metrics := ex.metrics.count counter }
  | .log entry =>
    if ex.logger.enabled entry.severity then { ex with journal := ex.journal ++ [entry] } else ex

def applyAll (ex : Executor) (effects : List Effect) : Executor := effects.foldl apply ex

def buildRequest (ex : Executor) (submission : Submission) (options : ExecuteOptions) :
    Except BuildError ExecuteRequest :=
  if options.readTime.isSome && options.transaction.isSome then
    .error (.argument .readTimeInTransaction)
  else submission.pipeline.toWire.map fun pipeline =>
    { database := ex.config.database
      pipeline
      options := submission.options
      readTime := options.readTime
      transaction := options.transaction }

def rejectionEffects (e : BuildError) : List Effect :=
  [.count .rejected, .log ⟨.warn, .rejected, [("code", e.code), ("message", e.message)]⟩]

/-- The text of a request, where requests are logged. -/
def requestEffects (ex : Executor) (request : ExecuteRequest) : List Effect :=
  if ex.config.logRequests then
    [Execution.entry ex.issued .trace .request [("request", request.toDocument.toText)]]
  else []

def submittedEffects (ex : Executor) (request : ExecuteRequest) : List Effect :=
  [.count .submitted,
    Execution.entry ex.issued .info .submitted
      [("database", ex.config.database),
        ("fingerprint", request.pipeline.fingerprint),
        ("stages", toString request.pipeline.stages.length)]]

/-- Submits a pipeline to a transport, which opens a channel or refuses. -/
def submit (ex : Executor) (transport : ExecuteRequest → Except ExecutionError Channel)
    (submission : Submission) (options : ExecuteOptions) (mode : DeliveryMode) :
    Executor × Except ExecutionError Execution :=
  match ex.buildRequest submission options with
  | .error e => (ex.applyAll (rejectionEffects e), .error (.rejected e))
  | .ok request =>
    let id := ex.issued
    let logged := ex.applyAll (ex.requestEffects request)
    match transport request with
    | .error e =>
      ({ logged.applyAll (Execution.failureEffects id e) with issued := id + 1 }, .error e)
    | .ok channel =>
      ({ logged.applyAll (ex.submittedEffects request) with issued := id + 1 },
        .ok (.start id ex.config.database submission.pipeline channel
          (.ofMode ex.config.streamBuffer mode)))

/-- Gives a turn to the driver of an execution; tells whether another one is due. -/
def run (ex : Executor) (x : Execution) : Executor × Execution × Bool :=
  let turn := x.takeTurn
  (ex.applyAll turn.effects, turn.execution, turn.spent)

end Executor

end DocumentQuery
