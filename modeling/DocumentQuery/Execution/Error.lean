import DocumentQuery.BuildError

/-!
Why an execution failed, and whether trying again could help.
-/

namespace DocumentQuery

inductive ExecutionError where
  /-- The request could not be built; nothing was sent. -/
  | rejected (cause : BuildError)
  /-- A row could not be decoded. -/
  | decode (reason : String)
  | transport (reason : String)
  | server (code message : String)
  /-- The stream ended without a completion or an error. -/
  | streamClosed
  /-- The caller abandoned the execution. -/
  | cancelled
  | runtime (reason : String)
  deriving DecidableEq

namespace ExecutionError

def kind : ExecutionError → String
  | .rejected _ => "rejected"
  | .decode _ => "decode"
  | .transport _ => "transport"
  | .server _ _ => "server"
  | .streamClosed => "stream_closed"
  | .cancelled => "cancelled"
  | .runtime _ => "runtime"

def message : ExecutionError → String
  | .rejected cause => "Pipeline rejected: " ++ cause.display
  | .decode reason => "Decode error: " ++ reason
  | .transport reason => "Transport error: " ++ reason
  | .server code message => s!"Server error {code}: {message}"
  | .streamClosed => "Stream closed before completion"
  | .cancelled => "Execution cancelled"
  | .runtime reason => "Runtime error: " ++ reason

/-- Codes of a server that is only for now not able to answer. -/
def retryableCodes : List String := ["UNAVAILABLE", "ABORTED", "RESOURCE_EXHAUSTED"]

def isRetryable : ExecutionError → Bool
  | .transport _ | .streamClosed => true
  | .server code _ => retryableCodes.contains code
  | _ => false

/-- All that can be said of the error, with its cause if it has one. -/
def toDocument (e : ExecutionError) : Json :=
  let cause := match e with
    | .rejected cause => [("cause", cause.toDocument)]
    | _ => []
  .object ([("error", .string e.kind), ("message", .string e.message),
    ("retryable", .bool e.isRetryable)] ++ cause)

/-- The error of a buffered execution that ended without an answer. -/
def unanswered : ExecutionError := .runtime "driver task ended without a result"

end ExecutionError

end DocumentQuery
