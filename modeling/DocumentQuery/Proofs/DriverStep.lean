import Mathlib
import DocumentQuery.Execution.Run

/-!
# What one step of a driver does

`Execution.step` is turned into a relation once, and everything about executions is derived from
it. An execution stands in one of five ways (`Execution.Stands`); from there a step is one of the
moves of `Execution.Move`, each of which says what the consumer is told by it. A move that ends the
execution has one of the reasons of `Execution.Decides`.
-/

namespace DocumentQuery

/-- What the consumer of an execution sees at one moment. -/
inductive Observation where
  | row (row : Row)
  | failure (error : ExecutionError)
  /-- A subscriber is told of the completion. -/
  | completion (executionTime : Option Timestamp)
  /-- A buffered execution has its answer. -/
  | snapshot (snapshot : Snapshot)
  /-- A stream has no more items. -/
  | finish

/-- How an execution ends: with the time of its first response, or with an error. -/
abbrev Verdict := Except ExecutionError (Option Timestamp)

def PushSignal.observation : PushSignal → Observation
  | .next row _ => .row row
  | .failed e => .failure e
  | .completed t => .completion t

def Observation.ofItem : Except ExecutionError Row → Observation
  | .ok r => .row r
  | .error e => .failure e

def Observation.ofAnswer : Except ExecutionError Snapshot → Observation
  | .ok s => .snapshot s
  | .error e => .failure e

namespace Consumer

/-- The kind of consumer, which never changes. -/
def mode : Consumer → DeliveryMode
  | .push _ cancelAt => .push cancelAt
  | .buffer _ => .buffer
  | .pull _ => .pull

/-- The consumer after it has been told how the execution ends. A completed stream just ends. -/
def tell (p : Pipeline) : Consumer → Verdict → Consumer
  | .push signals n, .error e => .push (signals ++ [.failed e]) n
  | .push signals n, .ok t => .push (signals ++ [.completed t]) n
  | .buffer slot, v => .buffer (slot.resolve (v.map fun t => ⟨slot.collected, t, p⟩))
  | .pull stream, .error e => .pull (stream.enqueue (.error e))
  | .pull stream, .ok _ => .pull stream

/-- What the consumer is told when the execution ends. -/
def told (p : Pipeline) : Consumer → Verdict → List Observation
  | .push _ _, .error e => [.failure e]
  | .push _ _, .ok t => [.completion t]
  | .buffer slot, v =>
    if slot.awaited then [.ofAnswer (v.map fun t => ⟨slot.collected, t, p⟩)] else []
  | .pull _, .error e => [.failure e]
  | .pull _, .ok _ => []

/-- The consumer takes a row, without cancelling the execution meanwhile. -/
inductive Takes (row : Row) : Consumer → Consumer → Prop where
  | push {signals cancelAt} (goesOn : cancelAt ≠ some (signals.length + 1)) :
      Takes row (.push signals cancelAt) (.push (signals ++ [.next row none]) cancelAt)
  | buffer {slot} (awaited : slot.awaited = true) :
      Takes row (.buffer slot) (.buffer (slot.collect row))
  | pull {stream} (accepting : stream.accepting = true) (room : stream.isFull = false) :
      Takes row (.pull stream) (.pull (stream.enqueue (.ok row)))

/-- Nobody is there to take a row any more. -/
inductive Gone : Consumer → Prop where
  | buffer {slot} (dropped : slot.awaited = false) : Gone (.buffer slot)
  | pull {stream} (closed : stream.accepting = false) : Gone (.pull stream)

@[simp] lemma mode_tell (p : Pipeline) (c : Consumer) (v : Verdict) :
    (c.tell p v).mode = c.mode := by
  cases c <;> cases v <;> rfl

@[simp] lemma mode_drop (c : Consumer) : c.drop.mode = c.mode := by cases c <;> rfl

lemma Takes.mode_eq {row : Row} {c d : Consumer} (h : Takes row c d) : d.mode = c.mode := by
  cases h <;> rfl

end Consumer

namespace Execution

variable {x y z : Execution} {e : ExecutionError} {v : Verdict} {next : AfterFailure}

/-- The execution after its consumer has been told how it ends. -/
def tell (x : Execution) (v : Verdict) : Execution :=
  { x with consumer := x.consumer.tell x.pipeline v }

/-- What the consumer is told when the execution ends. -/
def told (x : Execution) (v : Verdict) : List Observation := x.consumer.told x.pipeline v

def isPull (x : Execution) : Prop := x.consumer.mode = .pull

/-! ### Fields after the end of an execution has been reported -/

@[simp] lemma proceed_id : (x.proceed next).1.id = x.id := by cases next <;> rfl

@[simp] lemma proceed_phase : (x.proceed next).1.phase = x.phase := by cases next <;> rfl

lemma proceed_phase_ne (decided : x.phase ≠ .streaming) :
    (x.proceed next).1.phase ≠ .streaming := by
  rw [proceed_phase]
  exact decided

@[simp] lemma proceed_consumer : (x.proceed next).1.consumer = x.consumer := by cases next <;> rfl

@[simp] lemma proceed_attached : (x.proceed next).1.attached = false := by cases next <;> rfl

@[simp] lemma proceed_pipeline : (x.proceed next).1.pipeline = x.pipeline := by cases next <;> rfl

@[simp] lemma proceed_database : (x.proceed next).1.database = x.database := by cases next <;> rfl

@[simp] lemma proceed_executionTime : (x.proceed next).1.executionTime = x.executionTime := by
  cases next <;> rfl

@[simp] lemma proceed_seenResponse : (x.proceed next).1.seenResponse = x.seenResponse := by
  cases next <;> rfl

@[simp] lemma proceed_task :
    (x.proceed next).1.task = if next = .listen then .listening else .ended := by
  cases next <;> rfl

@[simp] lemma proceed_cancelled :
    (x.proceed next).1.channel.cancelled = (decide (next = .drain) || x.channel.cancelled) := by
  cases next <;> rfl

lemma reportFailure_of_prompt (attached : x.attached = true) (prompt : ¬x.isPull) :
    x.reportFailure e next = (x.tell (.error e)).proceed next := by
  unfold reportFailure tell
  rw [attached]
  cases h : x.consumer with
  | push signals cancelAt => rfl
  | buffer slot => rfl
  | pull stream => exact absurd (by simp [isPull, h, Consumer.mode]) prompt

lemma reportFailure_of_pull (attached : x.attached = true) (pull : x.isPull) :
    x.reportFailure e next = ({ x with task := .failing e next }, []) := by
  unfold reportFailure
  rw [attached]
  cases h : x.consumer with
  | push signals cancelAt => simp [isPull, h, Consumer.mode] at pull
  | buffer slot => simp [isPull, h, Consumer.mode] at pull
  | pull stream => rfl

lemma reportCompletion_eq : x.reportCompletion = x.tell (.ok x.executionTime) := by
  unfold reportCompletion tell
  cases h : x.consumer with
  | push signals cancelAt => rfl
  | buffer slot => rfl
  | pull stream =>
    cases x
    simp_all [Consumer.tell]

@[simp] lemma reportFailure_id : (x.reportFailure e next).1.id = x.id := by
  unfold reportFailure
  split
  · exact proceed_id
  · split
    · exact proceed_id
    · exact proceed_id
    · rfl

/-! ### The ways in which an execution can stand -/

/-- Whether the driver goes through events and rows, nothing having been reported yet. -/
def Working : Task → Prop
  | .listening | .delivering _ | .offering _ _ => True
  | .failing _ _ | .ended => False

/-- The ways in which an execution can stand. The phase in which its driver ended, if it has, comes
with it: a driver that ends while nothing has been accepted leaves the phase as it is. -/
inductive Stands (x : Execution) : Option Phase → Prop where
  /-- Nothing has been accepted. -/
  | running (undecided : x.phase = .streaming) (attached : x.attached = true)
      (working : Working x.task) : Stands x none
  /-- The caller has cancelled, and the driver has not noticed. -/
  | cancelling (cancelled : x.phase = .cancelled) (attached : x.attached = true)
      (working : Working x.task) (signal : x.channel.cancelled = true) : Stands x none
  /-- An error waits for room in the stream. -/
  | reporting (e : ExecutionError) (next : AfterFailure) (waiting : x.task = .failing e next)
      (attached : x.attached = true) (pull : x.isPull)
      (decided : x.phase = .failed ∨ x.phase = .cancelled ∧ e = .cancelled)
      (signal : next = .listen → x.channel.cancelled = true) : Stands x none
  /-- The consumer has been told or has gone, and the driver has yet to notice the signal. -/
  | winding (decided : x.phase = .failed ∨ x.phase = .cancelled) (detached : x.attached = false)
      (listening : x.task = .listening) (signal : x.channel.cancelled = true) : Stands x none
  | finished (final : Phase) (ended : x.task = .ended) (detached : x.attached = false)
      (signal : final = .streaming → x.channel.cancelled = true)
      (same : x.phase = final ∨ final = .streaming ∧ x.phase = .cancelled) : Stands x (some final)

/-- Why a driver ends an execution: how the execution is then, what it tells the consumer, what it
does once that is done, and what goes to the counters and the log. -/
inductive Decides (x : Execution) : Execution → Verdict → AfterFailure → List Effect → Prop where
  | completion {rest} (listening : x.task = .listening) (live : x.channel.cancelled = false)
      (first : x.channel.queue = .completion :: rest) (undecided : x.phase = .streaming) :
      Decides x { x with channel := { x.channel with queue := rest }, phase := .completed }
        (.ok x.executionTime) .drain
        [.count .completed, entry x.id .info .completed [("rows", toString x.delivered)]]
  | failure {e rest} (listening : x.task = .listening) (live : x.channel.cancelled = false)
      (first : x.channel.queue = .failure e :: rest) (undecided : x.phase = .streaming) :
      Decides x { x with channel := { x.channel with queue := rest }, phase := .failed }
        (.error e) .drain (failureEffects x.id e)
  | closed (listening : x.task = .listening) (live : x.channel.cancelled = false)
      (empty : x.channel.queue = []) (senderGone : x.channel.senderOpen = false)
      (undecided : x.phase = .streaming) :
      Decides x { x with phase := .failed } (.error .streamClosed) .leave
        (failureEffects x.id .streamClosed)
  | undecodable {payload rest e} (delivering : x.task = .delivering (payload :: rest))
      (undecided : x.phase = .streaming)
      (bad : Row.decode payload x.executionTime x.database = .error e) :
      Decides x { x with phase := .failed, channel := x.channel.cancel } (.error e) .listen
        (failureEffects x.id e)
  | cancelled (listening : x.task = .listening) (signal : x.channel.cancelled = true)
      (cancelled : x.phase = .cancelled) :
      Decides x x (.error .cancelled) .leave
        [.count .cancelled, entry x.id .info .cancelled [("rows", toString x.delivered)]]

/-- Whether an execution that is in the given phase can end like this. -/
def Admits : Phase → Verdict → Prop
  | .streaming, _ => False
  | .completed, v => ∃ t, v = .ok t
  | .failed, v => ∃ e, v = .error e
  | .cancelled, v => v = .error .cancelled

/-- The phase in which the driver ended, if it has just done so. -/
def exit (x : Execution) : Option Phase :=
  match x.task with
  | .ended => some x.phase
  | _ => none

/-- The steps of a driver, with their effects and with what the consumer is told. -/
inductive Move (x : Execution) : Execution → List Effect → List Observation → Prop where
  /-- The driver ends because of the signal, without a word to the consumer. -/
  | leave (listening : x.task = .listening) (signal : x.channel.cancelled = true)
      (silent : ¬(x.phase = .cancelled ∧ x.attached = true)) : Move x x.stop [] []
  /-- The first batch sets the time of all rows. -/
  | response {batch rest} (listening : x.task = .listening) (live : x.channel.cancelled = false)
      (first : x.channel.queue = .response batch :: rest) (undecided : x.phase = .streaming) :
      Move x
        { x with
          channel := { x.channel with queue := rest }
          seenResponse := true
          executionTime := if x.seenResponse then x.executionTime else batch.executionTime
          task := .delivering batch.rows }
        (if x.seenResponse then [] else [entry x.id .info .firstResponse []]) []
  /-- The batch is done, or its rest is passed over. -/
  | skip (busy : x.task ≠ .listening) (working : Working x.task)
      (idle : x.task = .delivering [] ∨ x.channel.cancelled = true) :
      Move x { x with task := .listening } [] []
  | decode {payload rest row} (delivering : x.task = .delivering (payload :: rest))
      (undecided : x.phase = .streaming)
      (good : Row.decode payload x.executionTime x.database = .ok row) :
      Move x { x with task := .offering row rest } [.count (.rows 1)] []
  | hand {row rest c} (offering : x.task = .offering row rest) (live : x.channel.cancelled = false)
      (takes : x.consumer.Takes row c) :
      Move x { x with consumer := c, delivered := x.delivered + 1, task := .delivering rest } []
        [.row row]
  /-- The subscriber cancels the execution while it has the row. -/
  | handCancelled {row rest signals} (offering : x.task = .offering row rest)
      (live : x.channel.cancelled = false) (undecided : x.phase = .streaming)
      (cancels : x.consumer = .push signals (some (signals.length + 1))) :
      Move x
        { x with
          phase := .cancelled
          channel := x.channel.cancel
          consumer := .push (signals ++ [.next row (some true)]) (some (signals.length + 1))
          delivered := x.delivered + 1
          task := .delivering rest }
        [] [.row row]
  | lose {row rest} (offering : x.task = .offering row rest) (live : x.channel.cancelled = false)
      (undecided : x.phase = .streaming) (gone : x.consumer.Gone) :
      Move x
        { x with
          phase := .cancelled
          channel := x.channel.cancel
          attached := false
          task := .listening }
        [.count .cancelled, entry x.id .info .cancelled [("reason", "consumer_dropped")]] []
  /-- The consumer is told at once how the execution ends. -/
  | settle {z v next effects} (attached : x.attached = true) (decides : x.Decides z v next effects)
      (prompt : x.isPull → ∃ t, v = .ok t) :
      Move x ((z.tell v).proceed next).1 (effects ++ ((z.tell v).proceed next).2) (z.told v)
  /-- The end has to wait for room in the stream. -/
  | await {z e next effects} (attached : x.attached = true)
      (decides : x.Decides z (.error e) next effects) (pull : x.isPull) :
      Move x { z with task := .failing e next } effects []
  | report {e next stream} (waiting : x.task = .failing e next) (pull : x.consumer = .pull stream)
      (accepting : stream.accepting = true) (room : stream.isFull = false) :
      Move x ((x.tell (.error e)).proceed next).1 ((x.tell (.error e)).proceed next).2 [.failure e]
  | refuse {e next stream} (waiting : x.task = .failing e next) (pull : x.consumer = .pull stream)
      (closed : stream.accepting = false) :
      Move x (x.proceed next).1 (x.proceed next).2 []

/-! ### Every step is a move -/

/-- A failure is reported at once, or it waits for room in the stream. -/
lemma Decides.move_failure {effects : List Effect} (attached : x.attached = true)
    (h : x.Decides z (.error e) next effects) (consumer : z.consumer = x.consumer)
    (still : z.attached = x.attached) :
    ∃ news, x.Move (z.reportFailure e next).1 (effects ++ (z.reportFailure e next).2) news := by
  have kept : z.isPull ↔ x.isPull := by rw [isPull, isPull, consumer]
  by_cases pull : x.isPull
  · rw [reportFailure_of_pull (still.trans attached) (kept.2 pull)]
    rw [List.append_nil]
    exact ⟨[], .await attached h pull⟩
  · rw [reportFailure_of_prompt (still.trans attached) (mt kept.1 pull)]
    exact ⟨_, .settle attached h (fun p => absurd p pull)⟩

lemma take_move {event : StreamEvent} {rest : List StreamEvent} {effects : List Effect}
    (undecided : x.phase = .streaming) (attached : x.attached = true)
    (listening : x.task = .listening) (live : x.channel.cancelled = false)
    (first : x.channel.queue = event :: rest)
    (h : ({ x with channel := { x.channel with queue := rest } } : Execution).take event =
      (y, effects)) :
    ∃ news, x.Move y effects news := by
  have hp : (x.phase ≠ .streaming) = False := by simp [undecided]
  cases event with
  | response batch =>
    have hm := Move.response listening live first undecided
    simp only [take, hp, if_false] at h
    by_cases seen : x.seenResponse = true
    · rw [if_pos seen] at h hm
      rw [if_pos seen] at hm
      simp only [Prod.mk.injEq] at h
      obtain ⟨rfl, rfl⟩ := h
      rw [← seen] at hm
      exact ⟨[], hm⟩
    · rw [if_neg seen] at h hm
      rw [if_neg seen] at hm
      simp only [Prod.mk.injEq] at h
      obtain ⟨rfl, rfl⟩ := h
      exact ⟨[], hm⟩
  | failure e =>
    have hm := (Decides.failure listening live first undecided).move_failure attached rfl rfl
    simp only [take, hp, if_false, reportFailure_id, Prod.mk.injEq] at h
    obtain ⟨rfl, rfl⟩ := h
    exact hm
  | completion =>
    have hd := Decides.completion listening live first undecided
    have hm := Move.settle attached hd (fun _ => ⟨_, rfl⟩)
    simp only [take, hp, if_false, attached, if_true, reportCompletion_eq, Prod.mk.injEq] at h
    obtain ⟨rfl, rfl⟩ := h
    exact ⟨_, hm⟩

lemma listen_move {effects : List Effect} (attached : x.attached = true)
    (listening : x.task = .listening)
    (phase : x.phase = .streaming ∨ x.phase = .cancelled ∧ x.channel.cancelled = true)
    (h : x.listen = some (y, effects)) : ∃ news, x.Move y effects news := by
  unfold listen at h
  by_cases signal : x.channel.cancelled = true
  · rw [if_pos signal] at h
    by_cases hc : x.phase = .cancelled ∧ x.attached = true
    · rw [if_pos hc] at h
      have hm := (Decides.cancelled listening signal hc.1).move_failure attached rfl rfl
      simp only [Option.some.injEq, Prod.mk.injEq] at h
      obtain ⟨rfl, rfl⟩ := h
      exact hm
    · rw [if_neg hc] at h
      simp only [Option.some.injEq, Prod.mk.injEq] at h
      obtain ⟨rfl, rfl⟩ := h
      exact ⟨[], .leave listening signal hc⟩
  · have undecided : x.phase = .streaming := phase.resolve_right (fun hc => signal hc.2)
    have hp : (x.phase ≠ .streaming) = False := by simp [undecided]
    have live : x.channel.cancelled = false := Bool.eq_false_iff.2 signal
    rw [if_neg signal] at h
    unfold Channel.receive at h
    cases first : x.channel.queue with
    | cons event rest =>
      rw [first] at h
      exact take_move undecided attached listening live first (Option.some.inj h)
    | nil =>
      rw [first] at h
      by_cases senderOpen : x.channel.senderOpen = true
      · simp [senderOpen] at h
      · have senderGone : x.channel.senderOpen = false := Bool.eq_false_iff.2 senderOpen
        have hm :=
          (Decides.closed listening live first senderGone undecided).move_failure attached rfl rfl
        simp only [senderGone, Bool.false_eq_true, if_false, hp, Option.some.injEq,
          Prod.mk.injEq] at h
        obtain ⟨rfl, rfl⟩ := h
        exact hm

lemma deliver_move {effects : List Effect} {payload : RowPayload} {rest : List RowPayload}
    (attached : x.attached = true) (delivering : x.task = .delivering (payload :: rest))
    (phase : x.phase = .streaming ∨ x.phase = .cancelled ∧ x.channel.cancelled = true)
    (h : x.deliver payload rest = (y, effects)) : ∃ news, x.Move y effects news := by
  unfold deliver at h
  by_cases undecided : x.phase = .streaming
  · have hp : ¬(x.phase ≠ .streaming ∨ (!x.attached) = true) := by simp [undecided, attached]
    rw [if_neg hp] at h
    cases decoded : Row.decode payload x.executionTime x.database with
    | error e =>
      have hm :=
        (Decides.undecodable delivering undecided decoded).move_failure attached rfl rfl
      simp only [decoded, reportFailure_id, Prod.mk.injEq] at h
      obtain ⟨rfl, rfl⟩ := h
      exact hm
    | ok row =>
      simp only [decoded, Prod.mk.injEq] at h
      obtain ⟨rfl, rfl⟩ := h
      exact ⟨[], .decode delivering undecided decoded⟩
  · rw [if_pos (Or.inl undecided)] at h
    simp only [Prod.mk.injEq] at h
    obtain ⟨rfl, rfl⟩ := h
    refine ⟨[], .skip (by simp [delivering]) (by rw [delivering]; trivial) (Or.inr ?_)⟩
    exact (phase.resolve_left undecided).2

lemma lose_move {effects : List Effect} {row : Row} {rest : List RowPayload}
    (offering : x.task = .offering row rest) (live : x.channel.cancelled = false)
    (undecided : x.phase = .streaming) (gone : x.consumer.Gone)
    (h : x.loseConsumer = (y, effects)) : ∃ news, x.Move y effects news := by
  simp only [loseConsumer, cancel, if_pos undecided, Prod.mk.injEq] at h
  obtain ⟨rfl, rfl⟩ := h
  exact ⟨_, .lose offering live undecided gone⟩

lemma hand_move {effects : List Effect} {row : Row} {rest : List RowPayload} {c : Consumer}
    (offering : x.task = .offering row rest) (live : x.channel.cancelled = false)
    (takes : x.consumer.Takes row c)
    (h : ({ x with consumer := c, delivered := x.delivered + 1, task := .delivering rest }, []) =
      (y, effects)) : ∃ news, x.Move y effects news := by
  obtain ⟨rfl, rfl⟩ := Prod.mk.inj h
  exact ⟨_, .hand offering live takes⟩

lemma offer_move {effects : List Effect} {row : Row} {rest : List RowPayload}
    (offering : x.task = .offering row rest)
    (phase : x.phase = .streaming ∨ x.phase = .cancelled ∧ x.channel.cancelled = true)
    (h : x.offer row rest = some (y, effects)) : ∃ news, x.Move y effects news := by
  unfold offer at h
  by_cases signal : x.channel.cancelled = true
  · rw [if_pos signal] at h
    simp only [Option.some.injEq, Prod.mk.injEq] at h
    obtain ⟨rfl, rfl⟩ := h
    exact ⟨[], .skip (by simp [offering]) (by rw [offering]; trivial) (Or.inr signal)⟩
  · have undecided : x.phase = .streaming := phase.resolve_right (fun hc => signal hc.2)
    have live : x.channel.cancelled = false := Bool.eq_false_iff.2 signal
    rw [if_neg signal] at h
    cases consumer : x.consumer with
    | push signals cancelAt =>
      by_cases cancels : cancelAt = some (signals.length + 1)
      · simp only [handOver, consumer, if_pos cancels, cancel, if_pos undecided,
          Option.some.injEq, Prod.mk.injEq] at h
        obtain ⟨rfl, rfl⟩ := h
        subst cancels
        exact ⟨_, .handCancelled offering live undecided consumer⟩
      · simp only [handOver, consumer, if_neg cancels] at h
        exact hand_move offering live (by rw [consumer]; exact .push cancels) (Option.some.inj h)
    | buffer slot =>
      by_cases awaited : slot.awaited = true
      · simp only [handOver, consumer, if_pos awaited] at h
        exact hand_move offering live (by rw [consumer]; exact .buffer awaited) (Option.some.inj h)
      · have gone : x.consumer.Gone := by rw [consumer]; exact .buffer (by simpa using awaited)
        have answer : x.handOver row = .gone := by simp only [handOver, consumer, if_neg awaited]
        rw [answer] at h
        exact lose_move offering live undecided gone (Option.some.inj h)
    | pull stream =>
      cases accepting : stream.accepting with
      | false =>
        have gone : x.consumer.Gone := by rw [consumer]; exact .pull accepting
        have answer : x.handOver row = .gone := by simp [handOver, consumer, accepting]
        rw [answer] at h
        exact lose_move offering live undecided gone (Option.some.inj h)
      | true =>
        cases full : stream.isFull with
        | true => simp [handOver, consumer, accepting, full] at h
        | false =>
          simp only [handOver, consumer, accepting, Bool.not_true, full, Bool.false_eq_true,
            if_false] at h
          exact hand_move offering live (by rw [consumer]; exact .pull accepting full)
            (Option.some.inj h)

lemma offerFailure_move {effects : List Effect} (waiting : x.task = .failing e next)
    (pull : x.isPull) (h : x.offerFailure e next = some (y, effects)) :
    ∃ news, x.Move y effects news := by
  cases consumer : x.consumer with
  | push signals cancelAt => simp [isPull, consumer, Consumer.mode] at pull
  | buffer slot => simp [isPull, consumer, Consumer.mode] at pull
  | pull stream =>
    cases accepting : stream.accepting with
    | false =>
      simp only [offerFailure, consumer, accepting, Bool.not_false, if_true,
        Option.some.injEq] at h
      obtain ⟨rfl, rfl⟩ := Prod.mk.inj h
      exact ⟨_, .refuse waiting consumer accepting⟩
    | true =>
      cases full : stream.isFull with
      | true => simp [offerFailure, consumer, accepting, full] at h
      | false =>
        simp only [offerFailure, consumer, accepting, Bool.not_true, full, Bool.false_eq_true,
          if_false, Option.some.injEq] at h
        have told : ({ x with consumer := .pull (stream.enqueue (.error e)) } : Execution) =
            x.tell (.error e) := by
          rw [tell, consumer, Consumer.tell]
        rw [told] at h
        obtain ⟨rfl, rfl⟩ := Prod.mk.inj h
        exact ⟨_, .report waiting consumer accepting full⟩

/-- A driver that goes through events and rows, while the execution runs or after its caller has
cancelled. -/
lemma working_move {effects : List Effect} (attached : x.attached = true)
    (working : Working x.task)
    (phase : x.phase = .streaming ∨ x.phase = .cancelled ∧ x.channel.cancelled = true)
    (h : x.step = some (y, effects)) : ∃ news, x.Move y effects news := by
  unfold step at h
  cases task : x.task with
  | listening => exact listen_move attached task phase (by rwa [task] at h)
  | delivering rows =>
    rw [task] at h
    cases rows with
    | nil =>
      obtain ⟨rfl, rfl⟩ := Prod.mk.inj (Option.some.inj h)
      exact ⟨[], .skip (by simp [task]) working (Or.inl task)⟩
    | cons payload rest => exact deliver_move attached task phase (Option.some.inj h)
  | offering row rest => exact offer_move task phase (by rwa [task] at h)
  | failing e next => rw [task] at working; exact working.elim
  | ended => rw [task] at working; exact working.elim

/-- Every step is one of the moves. -/
theorem step_move {left : Option Phase} {effects : List Effect} (stands : x.Stands left)
    (h : x.step = some (y, effects)) : ∃ news, x.Move y effects news := by
  cases stands with
  | running undecided attached working => exact working_move attached working (.inl undecided) h
  | cancelling cancelled attached working signal =>
    exact working_move attached working (.inr ⟨cancelled, signal⟩) h
  | reporting e next waiting attached pull decided signal =>
    rw [step, waiting] at h
    exact offerFailure_move waiting pull h
  | winding decided detached listening signal =>
    have silent : ¬(x.phase = .cancelled ∧ x.attached = true) := by simp [detached]
    simp only [step, listening, listen, if_pos signal, if_neg silent] at h
    obtain ⟨rfl, rfl⟩ := Prod.mk.inj (Option.some.inj h)
    exact ⟨[], .leave listening signal silent⟩
  | finished final ended detached signal same =>
    rw [step, ended] at h
    cases h

/-! ### What all moves have in common -/

section Decides

variable {effects : List Effect} (h : x.Decides z v next effects)
include h

lemma Decides.consumer_eq : z.consumer = x.consumer := by cases h <;> rfl

lemma Decides.pipeline_eq : z.pipeline = x.pipeline := by cases h <;> rfl

lemma Decides.database_eq : z.database = x.database := by cases h <;> rfl

lemma Decides.attached_eq : z.attached = x.attached := by cases h <;> rfl

lemma Decides.admits : Admits z.phase v := by
  cases h with
  | completion => exact ⟨_, rfl⟩
  | failure => exact ⟨_, rfl⟩
  | closed => exact ⟨_, rfl⟩
  | undecodable => exact ⟨_, rfl⟩
  | cancelled listening signal cancelled => rw [cancelled]; rfl

lemma Decides.signal (listen : next = .listen) :
    z.channel.cancelled = true ∧ z.phase = .failed := by
  cases h with
  | undecodable => exact ⟨rfl, rfl⟩
  | completion => cases listen
  | failure => cases listen
  | closed => cases listen
  | cancelled => cases listen

lemma Decides.phase_ne : z.phase ≠ .streaming := by
  intro hp
  have := h.admits
  rw [hp] at this
  exact this

end Decides

lemma isPull_iff : x.isPull ↔ ∃ stream, x.consumer = .pull stream := by
  unfold isPull
  cases x.consumer <;> simp [Consumer.mode]

section Move

variable {effects : List Effect} {news : List Observation} {left : Option Phase}

lemma Move.mode_eq (h : x.Move y effects news) : y.consumer.mode = x.consumer.mode := by
  cases h with
  | leave => rfl
  | response => rfl
  | skip => rfl
  | decode => rfl
  | hand offering live takes => exact takes.mode_eq
  | handCancelled offering live undecided cancels => rw [cancels]; rfl
  | lose => rfl
  | settle attached decides prompt => simp [tell, decides.consumer_eq]
  | await attached decides pull => rw [decides.consumer_eq]
  | report => simp [tell]
  | refuse => simp

lemma Move.pipeline_eq (h : x.Move y effects news) : y.pipeline = x.pipeline := by
  cases h with
  | leave => rfl
  | response => rfl
  | skip => rfl
  | decode => rfl
  | hand => rfl
  | handCancelled => rfl
  | lose => rfl
  | settle attached decides prompt => rw [proceed_pipeline]; exact decides.pipeline_eq
  | await attached decides pull => exact decides.pipeline_eq
  | report => exact proceed_pipeline
  | refuse => exact proceed_pipeline

lemma exit_eq_none (h : x.task ≠ .ended) : x.exit = none := by
  unfold exit
  split
  · contradiction
  · rfl

/-- After the end has been reported the driver has ended, or it waits for the signal. -/
lemma stands_proceed (decided : x.phase ≠ .streaming)
    (listen : next = .listen → x.channel.cancelled = true ∧ x.phase ≠ .completed) :
    (x.proceed next).1.Stands (x.proceed next).1.exit := by
  by_cases hl : next = .listen
  · have on : (x.proceed next).1.exit = none := exit_eq_none (by simp [hl])
    rw [on]
    refine .winding ?_ proceed_attached (by simp [hl]) (by simp [hl, listen hl])
    rw [proceed_phase]
    cases hp : x.phase with
    | streaming => exact absurd hp decided
    | completed => exact absurd hp (listen hl).2
    | failed => exact .inl rfl
    | cancelled => exact .inr rfl
  · have ended : (x.proceed next).1.task = .ended := by simp [hl]
    have final : (x.proceed next).1.exit = some x.phase := by
      rw [exit, ended, proceed_phase]
    rw [final]
    exact .finished _ ended proceed_attached (fun h => absurd h decided) (.inl proceed_phase)

lemma Stands.left_of_on (stands : x.Stands left) (on : x.task ≠ .ended) : left = none := by
  cases stands with
  | running => rfl
  | cancelling => rfl
  | reporting => rfl
  | winding => rfl
  | finished final ended => exact absurd ended on

/-- A driver holds on to the consumer while nothing has been accepted, until it ends. -/
lemma Stands.attached_of_left (stands : x.Stands left)
    (undecided : x.phase = .streaming) (on : left ≠ some .streaming) : x.attached = true := by
  cases stands with
  | running _ attached => exact attached
  | cancelling _ attached => exact attached
  | reporting _ _ _ attached => exact attached
  | winding decided => rw [undecided] at decided; simp at decided
  | finished final ended detached signal same =>
    rcases same with rfl | ⟨rfl, -⟩
    · exact absurd (congrArg some undecided) on
    · exact absurd rfl on

lemma Stands.attached_of_on (stands : x.Stands left) (undecided : x.phase = .streaming)
    (on : x.task ≠ .ended) : x.attached = true :=
  stands.attached_of_left undecided (by simp [stands.left_of_on on])

lemma Stands.offering_live {row : Row} {rest : List RowPayload} (stands : x.Stands left)
    (offering : x.task = .offering row rest) (live : x.channel.cancelled = false) :
    x.phase = .streaming ∧ x.attached = true := by
  cases stands with
  | running undecided attached working => exact ⟨undecided, attached⟩
  | cancelling cancelled attached working signal => rw [signal] at live; cases live
  | reporting e next waiting => rw [offering] at waiting; cases waiting
  | winding decided detached listening => rw [offering] at listening; cases listening
  | finished final ended => rw [offering] at ended; cases ended

lemma Stands.failing (stands : x.Stands left) (waiting : x.task = .failing e next) :
    x.attached = true ∧ Admits x.phase (.error e) ∧
      (next = .listen → x.channel.cancelled = true) := by
  cases stands with
  | running undecided attached working => rw [waiting] at working; exact working.elim
  | cancelling cancelled attached working => rw [waiting] at working; exact working.elim
  | reporting e' next' waiting' attached pull decided signal =>
    rw [waiting] at waiting'
    cases waiting'
    refine ⟨attached, ?_, signal⟩
    rcases decided with h | ⟨h, rfl⟩
    · rw [h]; exact ⟨_, rfl⟩
    · rw [h]; rfl
  | winding decided detached listening => rw [waiting] at listening; cases listening
  | finished final ended => rw [waiting] at ended; cases ended

lemma Admits.phase_ne {p : Phase} (h : Admits p (.error e)) : p ≠ .streaming ∧ p ≠ .completed := by
  cases p with
  | streaming => exact h.elim
  | completed => obtain ⟨t, ht⟩ := h; cases ht
  | failed => exact ⟨by simp, by simp⟩
  | cancelled => exact ⟨by simp, by simp⟩

lemma Stands.decided_of_failing (stands : x.Stands left) (waiting : x.task = .failing e next) :
    x.phase ≠ .streaming := by
  obtain ⟨-, admits, -⟩ := stands.failing waiting
  exact admits.phase_ne.1

/-- A move leads from a way to stand to a way to stand. -/
theorem Move.stands (h : x.Move y effects news) (stands : x.Stands left) :
    y.Stands y.exit := by
  cases h with
  | leave listening signal silent =>
    exact .finished x.phase rfl rfl (fun _ => signal) (.inl rfl)
  | response listening live first undecided =>
    have attached := stands.attached_of_on undecided (by simp [listening])
    exact .running undecided attached trivial
  | skip busy working idle =>
    cases stands with
    | running undecided attached _ => exact .running undecided attached trivial
    | cancelling cancelled attached _ signal => exact .cancelling cancelled attached trivial signal
    | reporting e next waiting => rw [waiting] at working; exact working.elim
    | winding decided detached listening => exact absurd listening busy
    | finished final ended => rw [ended] at working; exact working.elim
  | decode delivering undecided good =>
    have attached := stands.attached_of_on undecided (by simp [delivering])
    exact .running undecided attached trivial
  | hand offering live takes =>
    obtain ⟨undecided, attached⟩ := stands.offering_live offering live
    exact .running undecided attached trivial
  | handCancelled offering live undecided cancels =>
    exact .cancelling rfl (stands.offering_live offering live).2 trivial rfl
  | lose offering live undecided gone => exact .winding (.inr rfl) rfl rfl rfl
  | settle attached decides prompt =>
    refine stands_proceed decides.phase_ne (fun listen => ?_)
    obtain ⟨signal, failed⟩ := decides.signal listen
    exact ⟨signal, by simp [tell, failed]⟩
  | @await z e next effects attached decides pull =>
    refine .reporting e next rfl (decides.attached_eq.trans attached) ?_ ?_
      (fun listen => (decides.signal listen).1)
    · rw [isPull, decides.consumer_eq]
      exact pull
    · have hd := decides.admits
      cases hp : z.phase with
      | streaming => exact absurd hp decides.phase_ne
      | completed => exact absurd hp hd.phase_ne.2
      | failed => exact .inl rfl
      | cancelled =>
        rw [hp] at hd
        exact .inr ⟨rfl, Except.error.inj hd⟩
  | report waiting pull accepting room =>
    obtain ⟨attached, admits, signal⟩ := stands.failing waiting
    exact stands_proceed admits.phase_ne.1 (fun listen => ⟨signal listen, admits.phase_ne.2⟩)
  | refuse waiting pull closed =>
    obtain ⟨attached, admits, signal⟩ := stands.failing waiting
    exact stands_proceed admits.phase_ne.1 (fun listen => ⟨signal listen, admits.phase_ne.2⟩)

end Move

/-- Only the signal of the channel matters to the way in which an execution stands. -/
lemma Stands.channel {left : Option Phase} {c : Channel} (stands : x.Stands left)
    (kept : x.channel.cancelled = true → c.cancelled = true) :
    ({ x with channel := c } : Execution).Stands left := by
  cases stands with
  | running undecided attached working => exact .running undecided attached working
  | cancelling cancelled attached working signal =>
    exact .cancelling cancelled attached working (kept signal)
  | reporting e next waiting attached pull decided signal =>
    exact .reporting e next waiting attached pull decided (fun listen => kept (signal listen))
  | winding decided detached listening signal =>
    exact .winding decided detached listening (kept signal)
  | finished final ended detached signal same =>
    exact .finished final ended detached (fun streaming => kept (signal streaming)) same

lemma Stands.consumer {left : Option Phase} {c : Consumer} (stands : x.Stands left)
    (mode : c.mode = x.consumer.mode) : ({ x with consumer := c } : Execution).Stands left := by
  cases stands with
  | running undecided attached working => exact .running undecided attached working
  | cancelling cancelled attached working signal =>
    exact .cancelling cancelled attached working signal
  | reporting e next waiting attached pull decided signal =>
    exact .reporting e next waiting attached (mode.trans pull) decided signal
  | winding decided detached listening signal => exact .winding decided detached listening signal
  | finished final ended detached signal same => exact .finished final ended detached signal same

lemma Stands.cancel {left : Option Phase} (stands : x.Stands left)
    (undecided : x.phase = .streaming) :
    ({ x with phase := .cancelled, channel := x.channel.cancel } : Execution).Stands left := by
  cases stands with
  | running _ attached working => exact .cancelling rfl attached working rfl
  | cancelling cancelled => rw [undecided] at cancelled; cases cancelled
  | reporting e next waiting attached pull decided =>
    rw [undecided] at decided
    simp at decided
  | winding decided => rw [undecided] at decided; simp at decided
  | finished final ended detached signal same =>
    have streaming : final = .streaming := by
      rcases same with same | ⟨streaming, -⟩
      · rw [← same, undecided]
      · exact streaming
    exact .finished final ended detached (fun _ => rfl) (.inr ⟨streaming, rfl⟩)

lemma Stands.abandoned (stands : x.Stands (some .streaming)) :
    x.attached = false ∧ (x.phase = .streaming ∨ x.phase = .cancelled) := by
  cases stands with
  | finished _ ended detached signal same => exact ⟨detached, same.imp_right And.right⟩

lemma Stands.detached {left : Option Phase} (stands : x.Stands left) (ended : x.task = .ended) :
    x.attached = false := by
  cases stands with
  | running _ _ working => rw [ended] at working; exact working.elim
  | cancelling _ _ working => rw [ended] at working; exact working.elim
  | reporting _ _ waiting => rw [ended] at waiting; cases waiting
  | winding _ detached => exact detached
  | finished _ _ detached => exact detached

lemma Stands.left_eq_none {left : Option Phase} {effects : List Effect} (stands : x.Stands left)
    (h : x.step = some (y, effects)) : left = none := by
  apply stands.left_of_on
  intro ended
  rw [step, ended] at h
  cases h

end Execution

end DocumentQuery
