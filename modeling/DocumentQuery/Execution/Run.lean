import DocumentQuery.Execution.Channel
import DocumentQuery.Execution.Consumer
import DocumentQuery.Observability.Log
import DocumentQuery.Observability.Metrics

/-!
One execution as a machine. Its driver takes one step at a time: it reads an event, decodes a row,
hands it over, waits for room in the consumer's stream, or reports how the execution ended. The
first of completion, failure and cancel to change the phase wins; later signals that are already
queued are counted as duplicates. A step that has to wait is no step. The driver takes its steps in
turns, and in one turn it exchanges a bounded number of items with channels.
-/

namespace DocumentQuery

/-- How far an execution is; only the first change counts. -/
inductive Phase where
  | streaming
  | completed
  | failed
  | cancelled
  deriving DecidableEq, Repr

/-- What the driver does once a failure has been reported to the consumer. -/
inductive AfterFailure where
  /-- Account for the events that are queued already, and end. -/
  | drain
  | leave
  | listen
  deriving DecidableEq, Repr

/-- Where the driver is. -/
inductive Task where
  | listening
  | delivering (rows : List RowPayload)
  /-- A row is to be handed over, and may have to wait for room in the stream. -/
  | offering (row : Row) (rest : List RowPayload)
  /-- An error waits for room in the stream. -/
  | failing (error : ExecutionError) (next : AfterFailure)
  | ended

namespace Task

/-- Whether the driver is where it may have to wait. -/
def mayWait : Task → Bool
  | .listening | .offering _ _ | .failing _ _ => true
  | .delivering _ | .ended => false

/-- A bound of the steps that are left as far as no event is taken. -/
def work : Task → Nat
  | .ended => 0
  | .failing _ .listen => 4
  | .failing _ _ => 1
  | .listening => 3
  | .delivering rows => 5 + 2 * rows.length
  | .offering _ rest => 6 + 2 * rest.length

end Task

/-- What a step does to the counters and the log. -/
inductive Effect where
  | count (counter : Counter)
  | log (entry : LogEntry)
  deriving DecidableEq

structure Execution where
  id : Nat
  database : String
  pipeline : Pipeline
  channel : Channel
  phase : Phase
  seenResponse : Bool
  /-- The time of the first response, which all rows get. -/
  executionTime : Option Timestamp
  delivered : Nat
  task : Task
  /-- Whether the consumer can still be given something. -/
  attached : Bool
  consumer : Consumer

namespace Execution

/-- An execution that has just been submitted. -/
def start (id : Nat) (database : String) (pipeline : Pipeline) (channel : Channel)
    (consumer : Consumer) : Execution :=
  { id, database, pipeline, channel, phase := .streaming, seenResponse := false,
    executionTime := none, delivered := 0, task := .listening, attached := true, consumer }

/-- Ends the execution on behalf of its caller, unless it has ended; tells whether it did. -/
def cancel (x : Execution) : Bool × Execution :=
  if x.phase = .streaming then
    (true, { x with phase := .cancelled, channel := x.channel.cancel })
  else (false, x)

def isFinished (x : Execution) : Bool := x.phase != .streaming

def entry (id : Nat) (severity : Severity) (event : Event) (fields : List (String × String)) :
    Effect :=
  .log ⟨severity, event, ("execution_id", toString id) :: fields⟩

/-- A failure that has been accepted. -/
def failureEffects (id : Nat) (e : ExecutionError) : List Effect :=
  [.count .failed, entry id .error .failed [("error", e.message), ("kind", e.kind)]]

/-- A signal after the one that ended the execution. -/
def duplicateEffects (id : Nat) (signal : String) : List Effect :=
  [.count .duplicate, entry id .warn .duplicateIgnored [("signal", signal)]]

/-- What is made of an event that is queued behind the end; rows are dropped. -/
def lateEffects (id : Nat) : StreamEvent → List Effect
  | .response _ => []
  | .failure _ => duplicateEffects id "error"
  | .completion => duplicateEffects id "complete"

/-- The driver ends, and lets go of the channel and the consumer. -/
def stop (x : Execution) : Execution :=
  { x with task := .ended, attached := false, channel := x.channel.closeReceiver }

/-- Continues after the consumer has been told of a failure. -/
def proceed (x : Execution) (next : AfterFailure) : Execution × List Effect :=
  let x := { x with attached := false }
  match next with
  | .drain =>
    ({ x with channel := x.channel.cancel }.stop, x.channel.queue.flatMap (lateEffects x.id))
  | .leave => (x.stop, [])
  | .listen => ({ x with task := .listening }, [])

/-- Tells the consumer of a failure. A stream may have to wait for room. -/
def reportFailure (x : Execution) (e : ExecutionError) (next : AfterFailure) :
    Execution × List Effect :=
  if !x.attached then x.proceed next
  else match x.consumer with
    | .push signals cancelAt =>
      let consumer := Consumer.push (signals ++ [.failed e]) cancelAt
      { x with consumer }.proceed next
    | .buffer slot =>
      let consumer := Consumer.buffer (slot.resolve (.error e))
      { x with consumer }.proceed next
    | .pull _ => ({ x with task := .failing e next }, [])

/-- Tells the consumer of the completion; a stream just ends. -/
def reportCompletion (x : Execution) : Execution :=
  match x.consumer with
  | .push signals cancelAt =>
    { x with consumer := .push (signals ++ [.completed x.executionTime]) cancelAt }
  | .buffer slot =>
    let snapshot := ⟨slot.collected, x.executionTime, x.pipeline⟩
    { x with consumer := .buffer (slot.resolve (.ok snapshot)) }
  | .pull _ => x

/-- What comes of handing a row to the consumer. -/
inductive Handover where
  | accepted (x : Execution)
  | gone
  | full

/-- Hands a row to the consumer. A subscriber may cancel while it has the row. -/
def handOver (x : Execution) (row : Row) : Handover :=
  match x.consumer with
  | .push signals cancelAt =>
    if cancelAt = some (signals.length + 1) then
      let (ended, x) := x.cancel
      .accepted { x with consumer := .push (signals ++ [.next row (some ended)]) cancelAt }
    else .accepted { x with consumer := .push (signals ++ [.next row none]) cancelAt }
  | .buffer slot =>
    if slot.awaited then .accepted { x with consumer := .buffer (slot.collect row) } else .gone
  | .pull stream =>
    if !stream.accepting then .gone
    else if stream.isFull then .full
    else .accepted { x with consumer := .pull (stream.enqueue (.ok row)) }

/-- The consumer has gone away, which ends the execution. -/
def loseConsumer (x : Execution) : Execution × List Effect :=
  let x := { x with attached := false, task := .listening }
  match x.cancel with
  | (true, x) =>
    (x, [.count .cancelled, entry x.id .info .cancelled [("reason", "consumer_dropped")]])
  | (false, x) => (x, [])

/-- Hands a row over, unless the execution is abandoned or has to wait for room. -/
def offer (x : Execution) (row : Row) (rest : List RowPayload) :
    Option (Execution × List Effect) :=
  if x.channel.cancelled then some ({ x with task := .listening }, [])
  else match x.handOver row with
    | .accepted y => some ({ y with delivered := y.delivered + 1, task := .delivering rest }, [])
    | .gone => some x.loseConsumer
    | .full => none

/-- Takes the next row of a batch, which counts as received from then on. -/
def deliver (x : Execution) (payload : RowPayload) (rest : List RowPayload) :
    Execution × List Effect :=
  if x.phase ≠ .streaming ∨ !x.attached then ({ x with task := .listening }, [])
  else match Row.decode payload x.executionTime x.database with
    | .error e =>
      let (x, effects) :=
        { x with phase := .failed, channel := x.channel.cancel }.reportFailure e .listen
      (x, failureEffects x.id e ++ effects)
    | .ok row => ({ x with task := .offering row rest }, [.count (.rows 1)])

/-- Takes an event of the transport. -/
def take (x : Execution) : StreamEvent → Execution × List Effect
  | .response batch =>
    if x.phase ≠ .streaming then (x, [])
    else if x.seenResponse then ({ x with task := .delivering batch.rows }, [])
    else
      let opened := { x with
        seenResponse := true
        executionTime := batch.executionTime
        task := .delivering batch.rows }
      (opened, [entry x.id .info .firstResponse []])
  | .failure e =>
    if x.phase ≠ .streaming then (x, duplicateEffects x.id "error")
    else
      let (x, effects) := { x with phase := .failed }.reportFailure e .drain
      (x, failureEffects x.id e ++ effects)
  | .completion =>
    if x.phase ≠ .streaming then (x, duplicateEffects x.id "complete")
    else
      let completed :=
        [.count .completed, entry x.id .info .completed [("rows", toString x.delivered)]]
      let x := { x with phase := .completed }
      let (x, effects) := (if x.attached then x.reportCompletion else x).proceed .drain
      (x, completed ++ effects)

/-- Waits for the transport. A cancelled channel is noticed before any event. -/
def listen (x : Execution) : Option (Execution × List Effect) :=
  if x.channel.cancelled then
    if x.phase = .cancelled ∧ x.attached then
      let (y, effects) := x.reportFailure .cancelled .leave
      some (y, .count .cancelled ::
        entry x.id .info .cancelled [("rows", toString x.delivered)] :: effects)
    else some (x.stop, [])
  else match x.channel.receive with
    | (.event e, channel) => some ({ x with channel }.take e)
    | (.pending, _) => none
    | (.ended, _) =>
      if x.phase ≠ .streaming then some (x.stop, [])
      else
        let (y, effects) := { x with phase := .failed }.reportFailure .streamClosed .leave
        some (y, failureEffects x.id .streamClosed ++ effects)

/-- Puts an error into the stream, unless it has to wait for room. -/
def offerFailure (x : Execution) (e : ExecutionError) (next : AfterFailure) :
    Option (Execution × List Effect) :=
  match x.consumer with
  | .pull stream =>
    if !stream.accepting then some (x.proceed next)
    else if stream.isFull then none
    else
      let consumer := Consumer.pull (stream.enqueue (.error e))
      some ({ x with consumer }.proceed next)
  | _ => some (x.proceed next)

/-- One step of the driver, if it does not have to wait. -/
def step (x : Execution) : Option (Execution × List Effect) :=
  match x.task with
  | .listening => x.listen
  | .delivering [] => some ({ x with task := .listening }, [])
  | .delivering (payload :: rest) => some (x.deliver payload rest)
  | .offering row rest => x.offer row rest
  | .failing e next => x.offerFailure e next
  | .ended => none

/-- The items that the next step exchanges with the transport's channel or the consumer's stream. -/
def exchanged (x : Execution) : Nat :=
  match x.task, x.consumer with
  | .listening, _ => if x.channel.cancelled then 0 else 1
  | .offering _ _, .pull _ => if x.channel.cancelled then 0 else 1
  | .failing _ _, .pull _ => 1
  | _, _ => 0

/-- What comes of a turn. -/
structure Turn where
  execution : Execution
  effects : List Effect
  /-- Whether the turn ended for want of credit, so that another one is due. -/
  spent : Bool

/-- At most the given number of steps, as far as they need no waiting and there is credit for the
items that they exchange. -/
def turn : Nat → Nat → Execution → Turn
  | 0, _, x => ⟨x, [], false⟩
  | n + 1, credit, x =>
    if credit = 0 ∧ x.task.mayWait then ⟨x, [], true⟩
    else match x.step with
      | none => ⟨x, [], false⟩
      | some (y, effects) =>
        let later := turn n (credit - x.exchanged) y
        { later with effects := effects ++ later.effects }

def eventWork : StreamEvent → Nat
  | .response batch => 3 + 2 * batch.rows.length
  | _ => 3

/-- A bound of the steps that can follow each other without waiting; every step lowers it. -/
def work (x : Execution) : Nat :=
  x.channel.queue.foldr (eventWork · + ·) x.task.work

/-- The items that a driver may exchange in one turn. -/
def turnCredit : Nat := 128

/-- Steps until the driver has to wait, has ended or has exchanged all the items it may. -/
def takeTurn (x : Execution) : Turn := turn x.work turnCredit x

/-- The answer of a buffered execution, once there is one. -/
def answer (x : Execution) : Option (Except ExecutionError Snapshot) :=
  match x.consumer with
  | .buffer { collected := _, answer := some answer, awaited := _ } => some answer
  | _ => if x.attached then none else some (.error .unanswered)

/-- What the consumer of a stream gets. -/
inductive Pulled where
  | item (item : Except ExecutionError Row)
  | ended
  | pending

/-- Takes the next item of a stream. After a cancel the waiting rows are passed over: the cancel is
reported once, and then the stream has ended. -/
def pull (x : Execution) : Pulled × Execution :=
  match x.consumer with
  | .pull stream =>
    if x.phase = .cancelled then
      if stream.cancelReported then (.ended, x)
      else
        (.item (.error .cancelled),
          { x with consumer := .pull { stream with cancelReported := true, accepting := false } })
    else match stream.queue with
      | item :: queue => (.item item, { x with consumer := .pull { stream with queue } })
      | [] => (if x.attached then .pending else .ended, x)
  | _ => (.ended, x)

/-- The consumer goes away. -/
def dropConsumer (x : Execution) : Execution := { x with consumer := x.consumer.drop }

/-- The transport offers an event. -/
def send (x : Execution) (e : StreamEvent) : SendOutcome × Execution :=
  let (outcome, channel) := x.channel.send e
  (outcome, { x with channel })

/-- The transport will send no more. -/
def closeSender (x : Execution) : Execution := { x with channel := x.channel.closeSender }

/-- The transport cancels its own channel. -/
def abort (x : Execution) : Execution := { x with channel := x.channel.cancel }

end Execution

end DocumentQuery
