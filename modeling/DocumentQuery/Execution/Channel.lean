import DocumentQuery.Execution.Error
import DocumentQuery.Execution.Message

/-!
The channel between a transport and the driver of an execution: a bounded queue of events, with a
signal by which the receiving side tells the sender to stop. The signal does not empty the queue.
-/

namespace DocumentQuery

/-- What a transport reports about an execution. -/
inductive StreamEvent where
  | response (batch : ResponseBatch)
  | failure (error : ExecutionError)
  | completion

structure Channel where
  capacity : Nat
  queue : List StreamEvent
  senderOpen : Bool
  receiverOpen : Bool
  cancelled : Bool

inductive SendOutcome where
  | accepted
  /-- The receiver is gone or has cancelled. -/
  | refused
  /-- The sender would have to wait. -/
  | full
  deriving DecidableEq, Repr

inductive Received where
  | event (e : StreamEvent)
  /-- The queue is empty, and the sender is gone. -/
  | ended
  /-- The queue is empty, but the sender is there. -/
  | pending

namespace Channel

/-- An empty channel with both ends open; it has room for at least one event. -/
def ofCapacity (capacity : Nat) : Channel :=
  { capacity := max capacity 1, queue := [], senderOpen := true, receiverOpen := true,
    cancelled := false }

def send (c : Channel) (e : StreamEvent) : SendOutcome × Channel :=
  if c.cancelled || !c.receiverOpen then (.refused, c)
  else if c.queue.length < c.capacity then (.accepted, { c with queue := c.queue ++ [e] })
  else (.full, c)

/-- Sends events one after another, without waiting. -/
def sendAll (c : Channel) : List StreamEvent → List SendOutcome × Channel
  | [] => ([], c)
  | e :: rest =>
    let (outcome, c) := c.send e
    let (outcomes, c) := c.sendAll rest
    (outcome :: outcomes, c)

def receive (c : Channel) : Received × Channel :=
  match c.queue with
  | e :: rest => (.event e, { c with queue := rest })
  | [] => (if c.senderOpen then .pending else .ended, c)

def cancel (c : Channel) : Channel := { c with cancelled := true }

def closeSender (c : Channel) : Channel := { c with senderOpen := false }

/-- The receiver goes away, and the queue with it. -/
def closeReceiver (c : Channel) : Channel := { c with receiverOpen := false, queue := [] }

end Channel

end DocumentQuery
