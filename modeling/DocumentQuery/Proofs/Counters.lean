import DocumentQuery.Execution.Executor
import DocumentQuery.Proofs.FirstSignal

/-!
# What an execution counts

Every move of a driver is read as a change of two accounts. The outcome of the execution is counted
in the move by which the driver notices it, whoever has brought it about, and never again. A row is
counted when it is decoded, and it is handed over later, if at all; only a cancel or a consumer that
has gone can come between the two, and no row is decoded after that.
-/

namespace DocumentQuery

/-! ### Metrics -/

/-- What a metric is about. -/
inductive Gauge where
  | submitted
  | completed
  | failed
  | cancelled
  | rejected
  | rows
  | duplicates
  deriving DecidableEq

def Metrics.read (m : Metrics) : Gauge → UInt64
  | .submitted => m.submitted
  | .completed => m.completed
  | .failed => m.failed
  | .cancelled => m.cancelled
  | .rejected => m.rejected
  | .rows => m.rowsReceived
  | .duplicates => m.duplicateSignals

namespace Counter

/-- The metric that a counter belongs to. -/
def gauge : Counter → Gauge
  | .submitted => .submitted
  | .completed => .completed
  | .failed => .failed
  | .cancelled => .cancelled
  | .rejected => .rejected
  | .duplicate => .duplicates
  | .rows _ => .rows

def amount : Counter → Nat
  | .rows n => n.toNat
  | _ => 1

end Counter

/-- One for the given metric, and nothing for the others. -/
def credit (g : Gauge) : Option Gauge → Nat
  | none => 0
  | some k => if k = g then 1 else 0

@[simp] lemma credit_none {g : Gauge} : credit g none = 0 := rfl

lemma credit_of_ne {g k : Gauge} (other : g ≠ k) : credit g (some k) = 0 := if_neg other.symm

/-- How much an effect adds to a metric. -/
def Effect.adds (g : Gauge) : Effect → Nat
  | .count c => credit g (some c.gauge) * c.amount
  | .log _ => 0

/-- How much effects add to a metric. -/
def raised (g : Gauge) (effects : List Effect) : Nat := (effects.map (Effect.adds g)).sum

section Raised

variable {g : Gauge} {effects : List Effect}

@[simp] lemma raised_nil : raised g [] = 0 := rfl

@[simp] lemma raised_append (more : List Effect) :
    raised g (effects ++ more) = raised g effects + raised g more := by
  rw [raised, List.map_append, List.sum_append]
  rfl

@[simp] lemma raised_count (c : Counter) :
    raised g (.count c :: effects) = credit g (some c.gauge) * c.amount + raised g effects :=
  List.sum_cons

@[simp] lemma raised_log (entry : LogEntry) :
    raised g (.log entry :: effects) = raised g effects := by
  rw [raised, List.map_cons, List.sum_cons]
  exact Nat.zero_add _

@[simp] lemma raised_entry (id : Nat) (severity : Severity) (event : Event)
    (fields : List (String × String)) :
    raised g (Execution.entry id severity event fields :: effects) = raised g effects :=
  raised_log _

end Raised

lemma Metrics.read_count (m : Metrics) (c : Counter) (g : Gauge) :
    (m.count c).read g = m.read g + .ofNat (credit g (some c.gauge) * c.amount) := by
  cases c <;> cases g <;> simp [count, read, credit, Counter.gauge, Counter.amount]

namespace Executor

variable (ex : Executor) (effects : List Effect)

lemma apply_config (effect : Effect) : (ex.apply effect).config = ex.config := by
  cases effect with
  | count counter => rfl
  | log entry => rw [apply]; split <;> rfl

lemma applyAll_config : (ex.applyAll effects).config = ex.config := by
  induction effects generalizing ex with
  | nil => rfl
  | cons effect rest ih => exact (ih (ex.apply effect)).trans (ex.apply_config effect)

lemma read_apply (effect : Effect) (g : Gauge) :
    (ex.apply effect).metrics.read g = ex.metrics.read g + .ofNat (effect.adds g) := by
  cases effect with
  | count counter => exact ex.metrics.read_count counter g
  | log entry => rw [apply]; split <;> simp [Effect.adds]

/-- The metrics of an executor after some effects. -/
theorem read_applyAll (g : Gauge) :
    (ex.applyAll effects).metrics.read g = ex.metrics.read g + .ofNat (raised g effects) := by
  induction effects generalizing ex with
  | nil => simp [applyAll]
  | cons effect rest ih =>
    have first := ih (ex.apply effect)
    rw [read_apply, add_assoc, ← UInt64.ofNat_add] at first
    exact first

end Executor

/-! ### Outcomes -/

def Phase.gauge? : Phase → Option Gauge
  | .streaming => none
  | .completed => some .completed
  | .failed => some .failed
  | .cancelled => some .cancelled

namespace Execution

variable {x y z : Execution} {v : Verdict} {next : AfterFailure} {effects : List Effect}
  {news : List Observation} {left : Option Phase} {g : Gauge}

instance : DecidablePred Working
  | .listening | .delivering _ | .offering _ _ => isTrue trivial
  | .failing _ _ | .ended => isFalse not_false

/-- The outcome that the driver has noticed and recorded. A cancel by the caller is not noticed
while the driver still works for the consumer. -/
def recorded (x : Execution) : Option Gauge :=
  if x.phase = .cancelled ∧ x.attached = true ∧ Working x.task then none else x.phase.gauge?

lemma recorded_of_streaming (undecided : x.phase = .streaming) : x.recorded = none := by
  simp [recorded, undecided, Phase.gauge?]

lemma recorded_of_unnoticed (cancelled : x.phase = .cancelled) (attached : x.attached = true)
    (working : Working x.task) : x.recorded = none := if_pos ⟨cancelled, attached, working⟩

lemma recorded_of_detached (detached : x.attached = false) : x.recorded = x.phase.gauge? := by
  simp [recorded, detached]

lemma recorded_of_idle (idle : ¬Working x.task) : x.recorded = x.phase.gauge? := by
  simp [recorded, idle]

lemma raised_late {queue : List StreamEvent} (id : Nat) (other : g ≠ .duplicates) :
    raised g (queue.flatMap (lateEffects id)) = 0 := by
  induction queue with
  | nil => rfl
  | cons event rest ih =>
    rw [List.flatMap_cons, raised_append, ih]
    cases event <;> simp [lateEffects, duplicateEffects, Counter.gauge, credit_of_ne other]

lemma raised_proceed (other : g ≠ .duplicates) : raised g (x.proceed next).2 = 0 := by
  cases next with
  | drain => exact raised_late x.id other
  | leave => rfl
  | listen => rfl

/-- An execution is ended with one count of its outcome, whatever the reason. -/
lemma Decides.raised_eq (h : x.Decides z v next effects) :
    raised g effects = credit g z.phase.gauge? := by
  cases h with
  | completion => simp [Phase.gauge?, Counter.gauge, Counter.amount]
  | failure => simp [failureEffects, Phase.gauge?, Counter.gauge, Counter.amount]
  | closed => simp [failureEffects, Phase.gauge?, Counter.gauge, Counter.amount]
  | undecodable => simp [failureEffects, Phase.gauge?, Counter.gauge, Counter.amount]
  | cancelled listening signal cancelled =>
    simp [cancelled, Phase.gauge?, Counter.gauge, Counter.amount]

/-- Nothing has been recorded before the execution is ended. -/
lemma Decides.recorded_eq (h : x.Decides z v next effects) (attached : x.attached = true) :
    x.recorded = none := by
  cases h with
  | completion listening live first undecided => exact recorded_of_streaming undecided
  | failure listening live first undecided => exact recorded_of_streaming undecided
  | closed listening live empty senderGone undecided => exact recorded_of_streaming undecided
  | undecodable delivering undecided => exact recorded_of_streaming undecided
  | cancelled listening signal cancelled =>
    exact recorded_of_unnoticed cancelled attached (by rw [listening]; trivial)

/-- What is recorded before and after a move, and what the move adds. -/
lemma credit_of_recorded {before after : Option Gauge} (hx : x.recorded = before)
    (hy : y.recorded = after) (h : credit g before + raised g effects = credit g after) :
    credit g x.recorded + raised g effects = credit g y.recorded := by
  rw [hx, hy, h]

/-- A move counts the outcome exactly if it records one. -/
theorem Move.raised_outcome (h : x.Move y effects news) (stands : x.Stands left)
    (noRows : g ≠ .rows) (noDuplicates : g ≠ .duplicates) :
    credit g x.recorded + raised g effects = credit g y.recorded := by
  cases h with
  | leave listening signal silent =>
    have before : x.recorded = x.phase.gauge? := if_neg fun h => silent ⟨h.1, h.2.1⟩
    exact credit_of_recorded before (recorded_of_detached rfl) rfl
  | response listening live first undecided =>
    refine credit_of_recorded (recorded_of_streaming undecided) (recorded_of_streaming undecided) ?_
    split <;> simp
  | skip busy working idle =>
    have same : ({ x with task := .listening } : Execution).recorded = x.recorded := by
      have listening : Working .listening := trivial
      simp only [recorded, working, listening]
    exact credit_of_recorded rfl same rfl
  | decode delivering undecided good =>
    refine credit_of_recorded (recorded_of_streaming undecided) (recorded_of_streaming undecided) ?_
    simp [Counter.gauge, credit_of_ne noRows]
  | hand offering live takes =>
    have undecided := (stands.offering_live offering live).1
    exact credit_of_recorded (recorded_of_streaming undecided) (recorded_of_streaming undecided) rfl
  | handCancelled offering live undecided cancels =>
    have attached := (stands.offering_live offering live).2
    exact credit_of_recorded (recorded_of_streaming undecided)
      (recorded_of_unnoticed rfl attached trivial) rfl
  | lose offering live undecided gone =>
    refine credit_of_recorded (recorded_of_streaming undecided) (recorded_of_detached rfl) ?_
    simp [Phase.gauge?, Counter.gauge, Counter.amount]
  | settle attached decides prompt =>
    refine credit_of_recorded (decides.recorded_eq attached)
      (recorded_of_detached proceed_attached) ?_
    rw [proceed_phase, raised_append, raised_proceed noDuplicates, decides.raised_eq]
    exact Nat.zero_add _
  | await attached decides pull =>
    refine credit_of_recorded (decides.recorded_eq attached) (recorded_of_idle not_false) ?_
    rw [decides.raised_eq]
    exact Nat.zero_add _
  | report waiting pull accepting room =>
    refine credit_of_recorded (recorded_of_idle (by rw [waiting]; exact not_false))
      (recorded_of_detached proceed_attached) ?_
    rw [proceed_phase, raised_proceed noDuplicates]
    rfl
  | refuse waiting pull closed =>
    refine credit_of_recorded (recorded_of_idle (by rw [waiting]; exact not_false))
      (recorded_of_detached proceed_attached) ?_
    rw [proceed_phase, raised_proceed noDuplicates]
    rfl

end Execution

/-! ### Rows -/

/-- The row of a call, if it is one for a row. -/
def PushSignal.row? : PushSignal → Option Row
  | .next row _ => some row
  | .failed _ | .completed _ => none

namespace Consumer

/-- The rows that a consumer holds: pushed, collected, or waiting in a stream. -/
def rows : Consumer → List Row
  | .push signals _ => signals.filterMap PushSignal.row?
  | .buffer slot => slot.collected
  | .pull stream => stream.queue.filterMap Except.toOption

@[simp] lemma rows_tell (p : Pipeline) (c : Consumer) (v : Verdict) :
    (c.tell p v).rows = c.rows := by
  cases c with
  | push signals cancelAt => cases v <;> simp [tell, rows, PushSignal.row?]
  | buffer slot => rfl
  | pull stream => cases v <;> simp [tell, rows, RowStream.enqueue, Except.toOption]

lemma Takes.rows_eq {row : Row} {c d : Consumer} (h : Takes row c d) :
    d.rows = c.rows ++ [row] := by
  cases h <;> simp [rows, PushSignal.row?, AnswerSlot.collect, RowStream.enqueue, Except.toOption]

end Consumer

namespace Execution

variable {x y z : Execution} {v : Verdict} {next : AfterFailure} {effects : List Effect}
  {news : List Observation} {left : Option Phase}

/-- The rows that have been counted and are yet to be handed over. -/
def offered (x : Execution) : Nat :=
  match x.task with
  | .offering _ _ => 1
  | _ => 0

/-- What becomes of rows in one move: how many are counted, and which are handed over. -/
inductive Deals (x y : Execution) : Nat → List Row → Prop where
  | nothing (same : y.offered = x.offered) : Deals x y 0 []
  | counted (undecided : x.phase = .streaming) (before : x.offered = 0) (after : y.offered = 1) :
      Deals x y 1 []
  | handed (row : Row) (before : x.offered = 1) (after : y.offered = 0) : Deals x y 0 [row]
  /-- The execution is cancelled, or the consumer has gone, before the row is handed over. -/
  | lost (cancelled : y.phase = .cancelled) (before : x.offered = 1) (after : y.offered = 0) :
      Deals x y 0 []

lemma offered_proceed : (x.proceed next).1.offered = 0 := by cases next <;> rfl

lemma Decides.offered_eq (h : x.Decides z v next effects) : x.offered = 0 := by
  cases h with
  | completion listening => rw [offered, listening]
  | failure listening => rw [offered, listening]
  | closed listening => rw [offered, listening]
  | undecodable delivering => rw [offered, delivering]
  | cancelled listening => rw [offered, listening]

lemma Decides.raised_rows (h : x.Decides z v next effects) : raised .rows effects = 0 := by
  rw [h.raised_eq]
  cases z.phase <;> rfl

/-- Rows are counted one by one, and each is handed over before the next one is counted. -/
theorem Move.deals (h : x.Move y effects news) (stands : x.Stands left)
    (live : x.phase = .streaming → x.channel.cancelled = false) :
    ∃ rows, y.consumer.rows = x.consumer.rows ++ rows ∧ x.Deals y (raised .rows effects) rows := by
  have quiet (consumer : y.consumer.rows = x.consumer.rows) (uncounted : raised .rows effects = 0)
      (same : y.offered = x.offered) :
      ∃ rows, y.consumer.rows = x.consumer.rows ++ rows ∧
        x.Deals y (raised .rows effects) rows := by
    refine ⟨[], by rw [consumer, List.append_nil], ?_⟩
    rw [uncounted]
    exact .nothing same
  cases h with
  | leave listening signal silent => exact quiet rfl rfl (by simp [offered, stop, listening])
  | response listening live first undecided =>
    refine quiet rfl ?_ (by simp [offered, listening])
    split <;> simp
  | skip busy working idle =>
    cases task : x.task with
    | offering row rest =>
      have signal : x.channel.cancelled = true := idle.resolve_left (by simp [task])
      have cancelled : x.phase = .cancelled := by
        cases stands with
        | running undecided =>
          rw [live undecided] at signal
          cases signal
        | cancelling cancelled => exact cancelled
        | reporting e next waiting => rw [task] at waiting; cases waiting
        | winding decided detached listening => rw [task] at listening; cases listening
        | finished final ended => rw [task] at ended; cases ended
      exact ⟨[], (List.append_nil _).symm, .lost cancelled (by rw [offered, task]) rfl⟩
    | delivering rows => exact quiet rfl rfl (by simp [offered, task])
    | listening => exact absurd task busy
    | failing e next => rw [task] at working; exact working.elim
    | ended => rw [task] at working; exact working.elim
  | decode delivering undecided good =>
    exact ⟨[], (List.append_nil _).symm, .counted undecided (by rw [offered, delivering]) rfl⟩
  | hand offering live takes => exact ⟨_, takes.rows_eq, .handed _ (by rw [offered, offering]) rfl⟩
  | @handCancelled row rest signals offering live undecided cancels =>
    refine ⟨[row], ?_, .handed row (by rw [offered, offering]) rfl⟩
    rw [cancels]
    simp [Consumer.rows, PushSignal.row?]
  | lose offering live undecided gone =>
    exact ⟨[], (List.append_nil _).symm, .lost rfl (by rw [offered, offering]) rfl⟩
  | settle attached decides prompt =>
    refine quiet ?_ ?_ (offered_proceed.trans decides.offered_eq.symm)
    · rw [proceed_consumer, tell, Consumer.rows_tell, decides.consumer_eq]
    · rw [raised_append, decides.raised_rows, raised_proceed (by decide)]
  | await attached decides pull =>
    exact quiet (by rw [decides.consumer_eq]) decides.raised_rows decides.offered_eq.symm
  | report waiting pull accepting room =>
    refine quiet ?_ (raised_proceed (by decide)) (offered_proceed.trans (by rw [offered, waiting]))
    rw [proceed_consumer, tell, Consumer.rows_tell]
  | refuse waiting pull closed =>
    refine quiet ?_ (raised_proceed (by decide)) (offered_proceed.trans (by rw [offered, waiting]))
    rw [proceed_consumer]

end Execution

end DocumentQuery
