import DocumentQuery.Execution.Row

/-!
The receiving side of an execution. Rows are pushed to a subscriber, collected for one answer, or
queued in a bounded stream that the consumer pulls from.
-/

namespace DocumentQuery

/-- A call of a push subscriber. -/
inductive PushSignal where
  /-- A row, and whether the execution ended if the subscriber cancelled it then. -/
  | next (row : Row) (cancelled : Option Bool)
  | failed (error : ExecutionError)
  | completed (executionTime : Option Timestamp)

/-- The place of the answer of a buffered execution. -/
structure AnswerSlot where
  collected : List Row
  answer : Option (Except ExecutionError Snapshot)
  /-- Whether the consumer is still there. -/
  awaited : Bool

/-- The rows that wait for the consumer of a stream. -/
structure RowStream where
  capacity : Nat
  queue : List (Except ExecutionError Row)
  /-- Whether the consumer is still there and has not been told of its cancel. -/
  accepting : Bool
  cancelReported : Bool

namespace AnswerSlot

def collect (slot : AnswerSlot) (row : Row) : AnswerSlot :=
  { slot with collected := slot.collected ++ [row] }

/-- Puts the answer in its place, unless nobody waits for it. -/
def resolve (slot : AnswerSlot) (answer : Except ExecutionError Snapshot) : AnswerSlot :=
  { slot with answer := if slot.awaited then some answer else none }

end AnswerSlot

namespace RowStream

def isFull (stream : RowStream) : Bool := stream.capacity ≤ stream.queue.length

def enqueue (stream : RowStream) (item : Except ExecutionError Row) : RowStream :=
  { stream with queue := stream.queue ++ [item] }

end RowStream

inductive Consumer where
  /-- A subscriber with the calls made so far; it may cancel in one of them, counted from one. -/
  | push (signals : List PushSignal) (cancelAt : Option Nat)
  | buffer (slot : AnswerSlot)
  | pull (stream : RowStream)

/-- How a caller wants its rows. -/
inductive DeliveryMode where
  | push (cancelAt : Option Nat)
  | buffer
  | pull
  deriving DecidableEq, Repr

namespace Consumer

def ofMode (streamBuffer : UInt64) : DeliveryMode → Consumer
  | .push cancelAt => .push [] cancelAt
  | .buffer => .buffer ⟨[], none, true⟩
  | .pull => .pull ⟨max streamBuffer.toNat 1, [], true, false⟩

/-- What a push subscriber has been told. -/
def signals : Consumer → List PushSignal
  | .push signals _ => signals
  | _ => []

/-- The consumer goes away; a subscriber cannot. -/
def drop : Consumer → Consumer
  | .push signals cancelAt => .push signals cancelAt
  | .buffer slot => .buffer { slot with awaited := false }
  | .pull stream => .pull { stream with accepting := false, queue := [] }

end Consumer

end DocumentQuery
