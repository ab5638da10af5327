import DocumentQuery.Proofs.DriverStep

/-!
# Executions among the parties around them

A session is one execution together with its transport, its consumer and the holders of its handle,
who take their steps in any order. The trace of a session keeps what the consumer sees and what the
calls of `cancel` answer, in the order in which that happens.
-/

namespace DocumentQuery

/-- What the parties around an execution can do. A call of `cancel` from inside a row's delivery is
part of a step of the driver. -/
inductive Action where
  | send (event : StreamEvent)
  | close
  | drive
  | poll
  | cancel
  | drop
  /-- A clone of the channel's controller is cancelled. -/
  | abort

inductive Occurrence where
  | seen (o : Observation)
  | cancel (won : Bool)

def Occurrence.observation? : Occurrence → Option Observation
  | .seen o => some o
  | .cancel _ => none

/-- What the consumer sees in a part of a trace. -/
def observations (trace : List Occurrence) : List Observation :=
  trace.filterMap Occurrence.observation?

/-- A call of a subscriber, which may answer with a call of `cancel`. -/
def PushSignal.occurrences : PushSignal → List Occurrence
  | .next row cancelled => .seen (.row row) :: cancelled.toList.map .cancel
  | .failed e => [.seen (.failure e)]
  | .completed t => [.seen (.completion t)]

/-- The event that the next step of the driver takes from the transport. -/
def Execution.taking (x : Execution) : List StreamEvent :=
  match x.task, x.channel.cancelled with
  | .listening, false => x.channel.queue.take 1
  | _, _ => []

@[simp] lemma Channel.send_cancelled (c : Channel) (e : StreamEvent) :
    (c.send e).2.cancelled = c.cancelled := by
  unfold Channel.send
  split
  · rfl
  · split <;> rfl

@[simp] lemma Channel.send_senderOpen (c : Channel) (e : StreamEvent) :
    (c.send e).2.senderOpen = c.senderOpen := by
  unfold Channel.send
  split
  · rfl
  · split <;> rfl

@[simp] lemma Channel.send_capacity (c : Channel) (e : StreamEvent) :
    (c.send e).2.capacity = c.capacity := by
  unfold Channel.send
  split
  · rfl
  · split <;> rfl

structure Session where
  execution : Execution
  /-- Whether the consumer is there. A future that has been resolved is gone. -/
  present : Bool := true
  /-- The events that the driver has taken. -/
  taken : List StreamEvent := []
  /-- The phase in which the driver ended, if it has. -/
  left : Option Phase := none
  trace : List Occurrence := []

namespace Session

/-- A session at its start. -/
def start (id : Nat) (database : String) (pipeline : Pipeline) (capacity : Nat)
    (streamBuffer : UInt64) (mode : DeliveryMode) : Session :=
  { execution := .start id database pipeline (.ofCapacity capacity) (.ofMode streamBuffer mode) }

/-- What the consumer has seen so far. -/
def seen (s : Session) : List Observation := observations s.trace

def see (s : Session) (o : Observation) : Session := { s with trace := s.trace ++ [.seen o] }

def drive (s : Session) : Session :=
  match s.execution.step with
  | none => s
  | some (x, _) =>
    let signals := x.consumer.signals.drop s.execution.consumer.signals.length
    { s with
      execution := x
      taken := s.taken ++ s.execution.taking
      left := x.exit
      trace := s.trace ++ signals.flatMap PushSignal.occurrences }

def poll (s : Session) : Session :=
  if s.present then
    match s.execution.consumer with
    | .push _ _ => s
    | .buffer _ =>
      match s.execution.answer with
      | none => s
      | some a => { s.see (.ofAnswer a) with present := false }
    | .pull _ =>
      match s.execution.pull with
      | (.item i, x) => { s.see (.ofItem i) with execution := x }
      | (.ended, _) => s.see .finish
      | (.pending, _) => s
  else s

def drop (s : Session) : Session :=
  match s.execution.consumer with
  | .push _ _ => s
  | _ => { s with execution := s.execution.dropConsumer, present := false }

def cancel (s : Session) : Session :=
  { s with
    execution := s.execution.cancel.2
    trace := s.trace ++ [.cancel s.execution.cancel.1] }

def act (s : Session) : Action → Session
  | .send e =>
    if s.execution.channel.senderOpen then { s with execution := (s.execution.send e).2 } else s
  | .close => { s with execution := s.execution.closeSender }
  | .drive => s.drive
  | .poll => s.poll
  | .cancel => s.cancel
  | .drop => s.drop
  | .abort => { s with execution := s.execution.abort }

def run (s : Session) (actions : List Action) : Session := actions.foldl act s

/-! ### What a poll does -/

/-- What a poll finds. -/
inductive Polled (s : Session) : Session → Prop where
  | absent (gone : s.present = false) : Polled s s
  | push {signals n} (consumer : s.execution.consumer = .push signals n) : Polled s s
  | unanswered {slot} (consumer : s.execution.consumer = .buffer slot)
      (silent : s.execution.answer = none) : Polled s s
  | answered {slot a} (present : s.present = true) (consumer : s.execution.consumer = .buffer slot)
      (answer : s.execution.answer = some a) :
      Polled s { s.see (.ofAnswer a) with present := false }
  | pending {stream} (consumer : s.execution.consumer = .pull stream)
      (open_ : s.execution.phase ≠ .cancelled) (empty : stream.queue = [])
      (attached : s.execution.attached = true) : Polled s s
  | item {stream i rest} (present : s.present = true)
      (consumer : s.execution.consumer = .pull stream) (open_ : s.execution.phase ≠ .cancelled)
      (first : stream.queue = i :: rest) :
      Polled s { s.see (.ofItem i) with
        execution := { s.execution with consumer := .pull { stream with queue := rest } } }
  /-- The cancel is reported, and waiting rows are passed over. -/
  | cancelled {stream} (present : s.present = true)
      (consumer : s.execution.consumer = .pull stream) (cancelled : s.execution.phase = .cancelled)
      (fresh : stream.cancelReported = false) :
      Polled s { s.see (.failure .cancelled) with
        execution := { s.execution with
          consumer := .pull { stream with cancelReported := true, accepting := false } } }
  | finish {stream} (present : s.present = true) (consumer : s.execution.consumer = .pull stream)
      (done : s.execution.phase = .cancelled ∧ stream.cancelReported = true ∨
        s.execution.phase ≠ .cancelled ∧ stream.queue = [] ∧ s.execution.attached = false) :
      Polled s (s.see .finish)

/-- Every poll finds one of these. -/
theorem polled (s : Session) : s.Polled s.poll := by
  by_cases present : s.present = true
  · cases consumer : s.execution.consumer with
    | push signals n =>
      simp only [poll, if_pos present, consumer]
      exact .push consumer
    | buffer slot =>
      simp only [poll, if_pos present, consumer]
      cases answer : s.execution.answer with
      | none => exact .unanswered consumer answer
      | some a => exact .answered present consumer answer
    | pull stream =>
      simp only [poll, if_pos present, consumer, Execution.pull]
      by_cases cancelled : s.execution.phase = .cancelled
      · rw [if_pos cancelled]
        cases reported : stream.cancelReported with
        | true => exact .finish present consumer (.inl ⟨cancelled, reported⟩)
        | false => exact .cancelled present consumer cancelled reported
      · rw [if_neg cancelled]
        cases queue : stream.queue with
        | cons i rest => exact .item present consumer cancelled queue
        | nil =>
          cases attached : s.execution.attached with
          | true => exact .pending consumer cancelled queue attached
          | false => exact .finish present consumer (.inr ⟨cancelled, queue, attached⟩)
  · rw [poll, if_neg present]
    exact .absent (Bool.eq_false_iff.2 present)

/-! ### Turns -/

/-- A turn of the driver is a number of its steps, so whatever holds over all orders of steps holds
over all orders of turns. -/
theorem turn_eq_drives (n credit : Nat) (s : Session) :
    ∃ k, (s.run (List.replicate k .drive)).execution =
      (Execution.turn n credit s.execution).execution := by
  induction n generalizing credit s with
  | zero => exact ⟨0, rfl⟩
  | succ n ih =>
    rw [Execution.turn]
    split
    · exact ⟨0, rfl⟩
    · cases step : s.execution.step with
      | none => exact ⟨0, rfl⟩
      | some next =>
        obtain ⟨y, effects⟩ := next
        obtain ⟨k, hk⟩ := ih (credit - s.execution.exchanged) s.drive
        have driven : s.drive.execution = y := by rw [drive, step]
        rw [driven] at hk
        exact ⟨k + 1, hk⟩

end Session

end DocumentQuery
