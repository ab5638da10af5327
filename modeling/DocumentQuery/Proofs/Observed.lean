import DocumentQuery.Proofs.Session
import DocumentQuery.Proofs.Telling

/-!
# What the consumer of a session sees

A consumer sees rows, then at most one outcome, and after that a stream only ends again and again.
The invariant behind this, `Session.Upheld`, compares what the consumer has seen with what the
driver has told it so far. It holds for every order of steps, also when the channel's controller is
cancelled from outside.
-/

namespace DocumentQuery

/-! ### Observations in a trace -/

@[simp] lemma observations_append (t u : List Occurrence) :
    observations (t ++ u) = observations t ++ observations u :=
  List.filterMap_append

@[simp] lemma observations_seen (o : Observation) : observations [.seen o] = [o] := rfl

lemma observations_occurrences (signals : List PushSignal) :
    observations (signals.flatMap PushSignal.occurrences) =
      signals.map PushSignal.observation := by
  induction signals with
  | nil => rfl
  | cons signal rest ih =>
    rw [List.flatMap_cons, observations_append, ih, List.map_cons]
    cases signal with
    | next row cancelled => cases cancelled <;> rfl
    | failed e => rfl
    | completed t => rfl

namespace Observation

/-- Whether an observation is an outcome, for a consumer of the given kind. -/
def IsOutcome (mode : DeliveryMode) : Observation → Prop
  | .row _ => False
  | .failure _ => True
  | .completion _ => ∃ n, mode = .push n
  | .snapshot _ => mode = .buffer
  | .finish => mode = .pull

/-- Whether an outcome passes for a success. -/
def IsSuccess : Observation → Prop
  | .row _ | .failure _ => False
  | .completion _ | .snapshot _ | .finish => True

end Observation

/-- Nothing but rows. -/
def OnlyRows (seen : List Observation) : Prop := ∃ rows : List Row, seen = rows.map .row

/-- Rows and one outcome, which passes for a success exactly when the execution has completed. After
it a stream only ends again and again. -/
def OneOutcome (mode : DeliveryMode) (phase : Phase) (seen : List Observation) : Prop :=
  ∃ (rows : List Row) (o : Observation) (n : Nat),
    seen = rows.map .row ++ o :: List.replicate n .finish ∧ o.IsOutcome mode ∧
      (o.IsSuccess ↔ phase = .completed) ∧ (n = 0 ∨ mode = .pull)

lemma onlyRows_nil : OnlyRows [] := ⟨[], rfl⟩

lemma onlyRows_iff {seen : List Observation} :
    OnlyRows seen ↔ ∀ o ∈ seen, ∃ row, o = .row row := by
  constructor
  · rintro ⟨rows, rfl⟩ o ho
    obtain ⟨row, -, rfl⟩ := List.mem_map.1 ho
    exact ⟨row, rfl⟩
  · intro h
    induction seen with
    | nil => exact onlyRows_nil
    | cons o rest ih =>
      obtain ⟨row, rfl⟩ := h o List.mem_cons_self
      obtain ⟨rows, rfl⟩ := ih (fun o ho => h o (List.mem_cons_of_mem _ ho))
      exact ⟨row :: rows, rfl⟩

/-- An observation that is no row stands at the same place in two descriptions of what was seen. -/
lemma rows_append_inj {got rows : List Row} {o p : Observation} {r q : List Observation}
    (ho : ∀ row, o ≠ .row row) (hp : ∀ row, p ≠ .row row)
    (h : got.map Observation.row ++ o :: r = rows.map Observation.row ++ p :: q) :
    got = rows ∧ o = p ∧ r = q := by
  induction got generalizing rows with
  | nil =>
    cases rows with
    | nil => simpa using h
    | cons row rows => exact absurd (List.cons.inj h).1 (ho row)
  | cons first got ih =>
    cases rows with
    | nil => exact absurd (List.cons.inj h).1.symm (hp first)
    | cons row rows =>
      obtain ⟨hrow, htail⟩ := List.cons.inj h
      obtain ⟨rfl, ho, hr⟩ := ih htail
      exact ⟨by rw [Observation.row.inj hrow], ho, hr⟩

lemma not_onlyRows {got : List Row} {o : Observation} {r : List Observation}
    (ho : ∀ row, o ≠ .row row) : ¬OnlyRows (got.map Observation.row ++ o :: r) := by
  intro h
  obtain ⟨row, hrow⟩ := onlyRows_iff.1 h o (by simp)
  exact ho row hrow

@[simp] lemma Observation.ofAnswer_ne_row (a : Except ExecutionError Snapshot) (row : Row) :
    Observation.ofAnswer a ≠ .row row := by
  cases a <;> simp [Observation.ofAnswer]

lemma Observation.ofAnswer_inj {a b : Except ExecutionError Snapshot}
    (h : Observation.ofAnswer a = .ofAnswer b) : a = b := by
  cases a <;> cases b <;> simp_all [Observation.ofAnswer]

lemma Execution.Admits.ok_iff {phase : Phase} {v : Verdict} (h : Execution.Admits phase v) :
    (∃ t, v = .ok t) ↔ phase = .completed := by
  cases phase with
  | streaming => exact h.elim
  | completed => exact iff_of_true h rfl
  | failed =>
    obtain ⟨e, rfl⟩ := h
    simp
  | cancelled =>
    cases h
    simp

namespace Session

variable {s : Session} {told : List Observation}

/-! ### The invariant -/

/-- How a consumer that is there has been served from its stream, in terms of the phase, of whether
the driver holds on to the consumer, and of the phase in which the driver ended. -/
inductive Served (seen : List Observation) (phase : Phase) (attached : Bool) (left : Option Phase)
    (stream : RowStream) (told : List Observation) : Prop where
  /-- It has seen rows, and the rest is in the queue. -/
  | onward (got : List Row) (fresh : stream.cancelReported = false) (rows : seen = got.map .row)
      (rest : told = got.map .row ++ stream.queue.map .ofItem)
  | failed (got : List Row) (e : ExecutionError) (n : Nat) (fresh : stream.cancelReported = false)
      (decided : phase = .failed) (detached : attached = false)
      (error : seen = got.map .row ++ .failure e :: List.replicate n .finish)
      (empty : stream.queue = []) (rest : told = got.map .row ++ [.failure e])
  /-- It has seen the end, without an error. -/
  | ended (got : List Row) (n : Nat) (fresh : stream.cancelReported = false)
      (decided : phase = .completed ∨ left = some .streaming) (detached : attached = false)
      (finish : seen = got.map .row ++ .finish :: List.replicate n .finish)
      (empty : stream.queue = []) (rest : told = got.map .row)
  | cancelled (got : List Row) (n : Nat) (reported : stream.cancelReported = true)
      (decided : phase = .cancelled)
      (error : seen = got.map .row ++ .failure .cancelled :: List.replicate n .finish)
  /-- The cancel came when the consumer had seen the end already. -/
  | late (got : List Row) (m n : Nat) (reported : stream.cancelReported = true)
      (abandoned : left = some .streaming) (decided : phase = .cancelled)
      (error : seen = got.map .row ++ .finish :: List.replicate m .finish ++
        .failure .cancelled :: List.replicate n .finish)

/-- How the consumer stands to what the driver has told it. -/
def Relays (s : Session) (told : List Observation) : Prop :=
  match s.execution.consumer with
  | .push signals _ => told = signals.map PushSignal.observation ∧ s.seen = told
  | .buffer slot =>
    slot.awaited = true ∧ s.seen = [] ∧ (s.execution.attached = true → slot.answer = none) ∧
      told = slot.collected.map .row ++ (slot.answer.map .ofAnswer).toList
  | .pull stream =>
    stream.accepting = !stream.cancelReported ∧
      Served s.seen s.execution.phase s.execution.attached s.left stream told

/-- What the driver has told the consumer by the time it has let go of it. After a cancel it need
not tell a stream. -/
def Concluded (s : Session) (told : List Observation) : Prop :=
  (∃ (rows : List Row) (v : Verdict), Execution.Admits s.execution.phase v ∧
    told = rows.map .row ++ s.execution.told v) ∨
  s.execution.isPull ∧ s.execution.phase = .cancelled ∧ OnlyRows told

/-- What has been seen is rows, perhaps with one outcome behind them. -/
def Orderly (s : Session) : Prop :=
  OnlyRows s.seen ∨
  (s.execution.phase = .streaming → s.execution.attached = false) ∧
    OneOutcome s.execution.consumer.mode s.execution.phase s.seen

/-- The invariant of sessions. -/
structure Upheld (s : Session) (told : List Observation) : Prop where
  stands : s.execution.Stands s.left
  relays : s.present = true → s.Relays told
  plain : s.execution.attached = true ∨ s.left = some .streaming → OnlyRows told
  concluded : s.present = true → s.execution.attached = false → s.left ≠ some .streaming →
    s.Concluded told
  absent : s.present = false → (∀ n, s.execution.consumer.mode ≠ .push n) ∧
    (s.Orderly ∨ s.execution.isPull ∧ s.left = some .streaming)

/-- A subscriber is there for good, and it has seen all that it was told. -/
lemma Upheld.relays_push (h : s.Upheld told) {n : Option Nat}
    (push : s.execution.consumer.mode = .push n) :
    ∃ signals : List PushSignal, s.execution.consumer = .push signals n ∧ s.present = true ∧
      told = signals.map PushSignal.observation ∧ s.seen = told := by
  have present : s.present = true := by
    by_contra absent
    exact (h.absent (Bool.eq_false_iff.2 absent)).1 n push
  have relays := h.relays present
  unfold Relays at relays
  cases consumer : s.execution.consumer with
  | push signals k =>
    rw [consumer] at relays push
    cases push
    exact ⟨signals, rfl, present, relays⟩
  | buffer slot => rw [consumer] at push; cases push
  | pull stream => rw [consumer] at push; cases push

lemma Upheld.relays_buffer (h : s.Upheld told) (present : s.present = true) {slot : AnswerSlot}
    (consumer : s.execution.consumer = .buffer slot) :
    slot.awaited = true ∧ s.seen = [] ∧ (s.execution.attached = true → slot.answer = none) ∧
      told = slot.collected.map .row ++ (slot.answer.map .ofAnswer).toList := by
  have relays := h.relays present
  rw [Relays, consumer] at relays
  exact relays

lemma Upheld.relays_pull (h : s.Upheld told) (present : s.present = true) {stream : RowStream}
    (consumer : s.execution.consumer = .pull stream) :
    stream.accepting = !stream.cancelReported ∧
      Served s.seen s.execution.phase s.execution.attached s.left stream told := by
  have relays := h.relays present
  rw [Relays, consumer] at relays
  exact relays

lemma concluded_push {signals : List PushSignal} {n : Option Nat}
    (consumer : s.execution.consumer = .push signals n) (h : s.Concluded told) :
    OneOutcome s.execution.consumer.mode s.execution.phase told := by
  rcases h with ⟨rows, v, admits, rfl⟩ | ⟨pull, -⟩
  · have iff := admits.ok_iff
    cases v with
    | error e =>
      refine ⟨rows, .failure e, 0, ?_, trivial, ?_, .inl rfl⟩
      · rw [Execution.told, consumer]
        rfl
      · simpa [Observation.IsSuccess] using iff
    | ok t =>
      refine ⟨rows, .completion t, 0, ?_, ⟨n, by rw [consumer]; rfl⟩, ?_, .inl rfl⟩
      · rw [Execution.told, consumer]
        rfl
      · simpa [Observation.IsSuccess] using iff
  · rw [Execution.isPull, consumer] at pull
    cases pull

lemma concluded_buffer {slot : AnswerSlot} (consumer : s.execution.consumer = .buffer slot)
    (awaited : slot.awaited = true) (h : s.Concluded told)
    (all : told = slot.collected.map .row ++ (slot.answer.map .ofAnswer).toList) :
    ∃ v, Execution.Admits s.execution.phase v ∧
      slot.answer = some (v.map fun t => ⟨slot.collected, t, s.execution.pipeline⟩) := by
  rcases h with ⟨rows, v, admits, htold⟩ | ⟨pull, -⟩
  · rw [Execution.told, consumer, Consumer.told, if_pos awaited, all] at htold
    refine ⟨v, admits, ?_⟩
    cases answer : slot.answer with
    | none =>
      rw [answer] at htold
      have rows_only : OnlyRows (slot.collected.map Observation.row ++ []) :=
        ⟨slot.collected, by simp⟩
      simp only [Option.map_none, Option.toList_none] at htold
      rw [htold] at rows_only
      exact absurd rows_only (not_onlyRows (Observation.ofAnswer_ne_row _))
    | some a =>
      rw [answer] at htold
      obtain ⟨-, ha, -⟩ := rows_append_inj (Observation.ofAnswer_ne_row _)
        (Observation.ofAnswer_ne_row _) htold
      rw [Observation.ofAnswer_inj ha]
  · rw [Execution.isPull, consumer] at pull
    cases pull

lemma answer_isSuccess {x : Execution} {rows : List Row} {v : Verdict}
    (admits : Execution.Admits x.phase v) :
    (Observation.ofAnswer (v.map fun t => ⟨rows, t, x.pipeline⟩)).IsSuccess ↔
      x.phase = .completed := by
  rw [← admits.ok_iff]
  cases v <;> simp [Except.map, Observation.ofAnswer, Observation.IsSuccess]

/-- A failure that a stream has been told of is the last it was told, and the execution failed. -/
lemma concluded_failure {stream : RowStream} {got : List Row} {e : ExecutionError}
    {rest : List Observation} (consumer : s.execution.consumer = .pull stream)
    (h : s.Concluded told) (all : told = got.map .row ++ .failure e :: rest)
    (open_ : s.execution.phase ≠ .cancelled) : s.execution.phase = .failed ∧ rest = [] := by
  rcases h with ⟨rows, v, admits, htold⟩ | ⟨-, cancelled, -⟩
  · rw [Execution.told, consumer, all] at htold
    cases v with
    | error e' =>
      obtain ⟨-, -, hrest⟩ := rows_append_inj (by simp) (by simp) htold
      refine ⟨?_, hrest⟩
      cases hp : s.execution.phase with
      | streaming => exact absurd hp admits.phase_ne.1
      | completed => exact absurd hp admits.phase_ne.2
      | failed => rfl
      | cancelled => exact absurd hp open_
    | ok t =>
      have rows_only : OnlyRows (got.map Observation.row ++ .failure e :: rest) :=
        ⟨rows, by simpa [Consumer.told] using htold⟩
      exact absurd rows_only (not_onlyRows (by simp))
  · exact absurd cancelled open_

/-- A stream that has been told of rows only by the end belongs to a completed execution. -/
lemma concluded_rows {stream : RowStream} (consumer : s.execution.consumer = .pull stream)
    (h : s.Concluded told) (all : OnlyRows told) (open_ : s.execution.phase ≠ .cancelled) :
    s.execution.phase = .completed := by
  rcases h with ⟨rows, v, admits, htold⟩ | ⟨-, cancelled, -⟩
  · cases v with
    | error e =>
      rw [Execution.told, consumer, Consumer.told] at htold
      rw [htold] at all
      exact absurd all (not_onlyRows (by simp))
    | ok t => exact admits.ok_iff.1 ⟨t, rfl⟩
  · exact absurd cancelled open_

/-- A consumer has seen rows and at most one outcome, unless it pulls from a stream whose driver
ended while nothing had been accepted. -/
lemma Upheld.orderly (h : s.Upheld told) :
    s.Orderly ∨ s.execution.isPull ∧ s.left = some .streaming := by
  by_cases present : s.present = true
  · cases consumer : s.execution.consumer with
    | push signals n =>
      have push : s.execution.consumer.mode = .push n := by rw [consumer]; rfl
      obtain ⟨-, -, -, -, all⟩ := h.relays_push push
      by_cases open_ : s.execution.attached = true ∨ s.left = some .streaming
      · exact .inl (.inl (all ▸ h.plain open_))
      · push Not at open_
        have detached : s.execution.attached = false := Bool.eq_false_iff.2 open_.1
        have outcome := concluded_push consumer (h.concluded present detached open_.2)
        exact .inl (.inr ⟨fun _ => detached, all ▸ outcome⟩)
    | buffer slot =>
      obtain ⟨-, silent, -⟩ := h.relays_buffer present consumer
      exact .inl (.inl (silent ▸ onlyRows_nil))
    | pull stream =>
      have mode : s.execution.consumer.mode = .pull := by rw [consumer]; rfl
      cases (h.relays_pull present consumer).2 with
      | onward got fresh rows rest => exact .inl (.inl ⟨got, rows⟩)
      | failed got e n fresh decided detached error empty =>
        exact .inl (.inr ⟨fun _ => detached, got, .failure e, n, error, trivial,
          by simp [Observation.IsSuccess, decided], .inr mode⟩)
      | ended got n fresh decided detached finish empty =>
        rcases decided with decided | abandoned
        · exact .inl (.inr ⟨fun _ => detached, got, .finish, n, finish, mode,
            by simp [Observation.IsSuccess, decided], .inr mode⟩)
        · exact .inr ⟨mode, abandoned⟩
      | cancelled got n reported decided error =>
        exact .inl (.inr ⟨by simp [decided], got, .failure .cancelled, n, error, trivial,
          by simp [Observation.IsSuccess, decided], .inr mode⟩)
      | late got m n reported abandoned decided error => exact .inr ⟨mode, abandoned⟩
  · exact (h.absent (Bool.eq_false_iff.2 present)).2

lemma Upheld.rows_of_undecided (h : s.Upheld told) (undecided : s.execution.phase = .streaming)
    (on : s.left ≠ some .streaming) : OnlyRows s.seen := by
  rcases h.orderly with (rows | ⟨detached, -⟩) | ⟨-, abandoned⟩
  · exact rows
  · have attached := h.stands.attached_of_left undecided on
    exact absurd attached (ne_true_of_eq_false (detached undecided))
  · exact absurd abandoned on

/-! ### Steps of the other parties -/

lemma Upheld.channel (h : s.Upheld told) (c : Channel)
    (kept : s.execution.channel.cancelled = true → c.cancelled = true) :
    Upheld { s with execution := { s.execution with channel := c } } told where
  stands := h.stands.channel kept
  relays := h.relays
  plain := h.plain
  concluded := h.concluded
  absent := h.absent

lemma seen_append (t : List Occurrence) :
    ({ s with trace := s.trace ++ t } : Session).seen = s.seen ++ observations t :=
  observations_append _ _

@[simp] lemma seen_see (o : Observation) : (s.see o).seen = s.seen ++ [o] := seen_append _

@[simp] lemma seen_cancel : s.cancel.seen = s.seen := by
  rw [cancel]
  exact (observations_append _ _).trans (List.append_nil _)

lemma cancel_eq_of_decided (decided : s.execution.phase ≠ .streaming) :
    s.cancel = { s with trace := s.trace ++ [.cancel false] } := by
  simp only [cancel, Execution.cancel, if_neg decided]

lemma cancel_eq_of_undecided (undecided : s.execution.phase = .streaming) :
    s.cancel = { s with
      execution := { s.execution with
        phase := .cancelled, channel := s.execution.channel.cancel }
      trace := s.trace ++ [.cancel true] } := by
  simp only [cancel, Execution.cancel, if_pos undecided]

/-- How a stream has been served changes with a cancel only in that it may come too late. -/
lemma Served.cancel {seen : List Observation} {attached : Bool} {left : Option Phase}
    {stream : RowStream} (h : Served seen .streaming attached left stream told) :
    Served seen .cancelled attached left stream told := by
  cases h with
  | onward got fresh rows rest => exact .onward got fresh rows rest
  | failed got e n fresh decided => cases decided
  | ended got n fresh decided detached finish empty rest =>
    exact .ended got n fresh (.inr (decided.resolve_left (by simp))) detached finish empty rest
  | cancelled got n reported decided => cases decided
  | late got m n reported abandoned decided => cases decided

lemma Upheld.refused (h : s.Upheld told) (won : Bool) :
    Upheld { s with trace := s.trace ++ [.cancel won] } told := by
  have seen : Session.seen { s with trace := s.trace ++ [.cancel won] } = s.seen :=
    (seen_append _).trans (List.append_nil _)
  refine ⟨h.stands, ?_, h.plain, h.concluded, ?_⟩
  · intro present
    have relays := h.relays present
    unfold Relays at relays ⊢
    rw [seen]
    exact relays
  · intro absent
    have orderly := h.absent absent
    unfold Orderly at orderly ⊢
    rw [seen]
    exact orderly

lemma Upheld.cancel (h : s.Upheld told) : s.cancel.Upheld told := by
  by_cases undecided : s.execution.phase = .streaming
  · have seen : s.cancel.seen = s.seen := seen_cancel
    rw [cancel_eq_of_undecided undecided] at seen ⊢
    refine ⟨h.stands.cancel undecided, ?_, h.plain, ?_, ?_⟩
    · intro present
      have relays := h.relays present
      unfold Relays at relays ⊢
      rw [seen]
      cases consumer : s.execution.consumer with
      | push signals n => rw [consumer] at relays; exact relays
      | buffer slot => rw [consumer] at relays; exact relays
      | pull stream =>
        rw [consumer, undecided] at relays
        exact ⟨relays.1, relays.2.cancel⟩
    · intro present detached left
      have attached := h.stands.attached_of_left undecided left
      exact absurd attached (ne_true_of_eq_false detached)
    · intro absent
      obtain ⟨noPush, orderly | silent⟩ := h.absent absent
      · refine ⟨noPush, .inl ?_⟩
        rcases orderly with rows | ⟨detached, rows, o, n, hseen, outcome, iff, mode⟩
        · exact .inl (seen ▸ rows)
        · refine .inr ⟨by simp, rows, o, n, seen ▸ hseen, outcome, ?_, mode⟩
          rw [undecided] at iff
          simpa using iff
      · exact ⟨noPush, .inr silent⟩
  · rw [cancel_eq_of_decided undecided]
    exact h.refused false

lemma Upheld.drop (h : s.Upheld told) : s.drop.Upheld told := by
  have mode := Consumer.mode_drop s.execution.consumer
  have gone (noPush : ∀ n, s.execution.consumer.mode ≠ .push n) :
      Upheld { s with execution := s.execution.dropConsumer, present := false } told := by
    refine ⟨h.stands.consumer mode, by simp, h.plain, by simp, fun _ => ⟨?_, ?_⟩⟩
    · intro n
      exact fun push => noPush n (mode.symm.trans push)
    · have orderly := h.orderly
      unfold Orderly Execution.isPull at orderly ⊢
      simp only [Execution.dropConsumer, mode]
      exact orderly
  unfold Session.drop
  cases consumer : s.execution.consumer with
  | push signals n => exact h
  | buffer slot => exact gone (by simp [consumer, Consumer.mode])
  | pull stream => exact gone (by simp [consumer, Consumer.mode])

lemma answer_eq {x : Execution} {slot : AnswerSlot} (consumer : x.consumer = .buffer slot) :
    x.answer = match slot.answer with
      | some a => some a
      | none => if x.attached then none else some (.error .unanswered) := by
  rcases slot with ⟨collected, answer, awaited⟩
  rw [Execution.answer, consumer]
  cases answer <;> rfl

/-- A future is resolved when the driver has let go of it. It has the rows that were collected, or
the error with which the execution ended. If the driver ended while nothing had been accepted, it
has an error of its own. -/
lemma Upheld.answer_fits {slot : AnswerSlot} {a : Except ExecutionError Snapshot}
    (h : s.Upheld told) (present : s.present = true)
    (consumer : s.execution.consumer = .buffer slot) (answer : s.execution.answer = some a) :
    s.execution.attached = false ∧
      (s.left = some .streaming ∧ a = .error .unanswered ∨
        ∃ v, Execution.Admits s.execution.phase v ∧
          a = v.map fun t => ⟨slot.collected, t, s.execution.pipeline⟩) := by
  obtain ⟨awaited, -, pending, all⟩ := h.relays_buffer present consumer
  rw [answer_eq consumer] at answer
  cases held : slot.answer with
  | some b =>
    rw [held] at answer all
    obtain rfl := Option.some.inj answer
    have told_answer : ¬OnlyRows told := by
      rw [all]
      exact not_onlyRows (Observation.ofAnswer_ne_row _)
    have closed := mt h.plain told_answer
    push Not at closed
    have detached : s.execution.attached = false := Bool.eq_false_iff.2 closed.1
    obtain ⟨v, admits, ha⟩ := concluded_buffer consumer awaited
      (h.concluded present detached closed.2) (by rw [held]; exact all)
    rw [held] at ha
    exact ⟨detached, .inr ⟨v, admits, Option.some.inj ha⟩⟩
  | none =>
    rw [held] at answer
    cases attached : s.execution.attached with
    | true => simp [attached] at answer
    | false =>
      simp only [attached, Bool.false_eq_true, if_false, Option.some.injEq] at answer
      by_cases abandoned : s.left = some .streaming
      · exact ⟨rfl, .inl ⟨abandoned, answer.symm⟩⟩
      · obtain ⟨v, admits, ha⟩ := concluded_buffer consumer awaited
          (h.concluded present attached abandoned) all
        rw [held] at ha
        cases ha

lemma Upheld.answered {slot : AnswerSlot} {a : Except ExecutionError Snapshot}
    (h : s.Upheld told) (present : s.present = true)
    (consumer : s.execution.consumer = .buffer slot) (answer : s.execution.answer = some a) :
    Upheld { s.see (.ofAnswer a) with present := false } told := by
  have relays := h.relays_buffer present consumer
  have mode : s.execution.consumer.mode = .buffer := by rw [consumer]; rfl
  obtain ⟨detached, fits⟩ := h.answer_fits present consumer answer
  have success : (Observation.ofAnswer a).IsSuccess ↔ s.execution.phase = .completed := by
    rcases fits with ⟨abandoned, rfl⟩ | ⟨v, admits, rfl⟩
    · have phase := (abandoned ▸ h.stands).abandoned.2
      rcases phase with hp | hp <;> simp [Observation.ofAnswer, Observation.IsSuccess, hp]
    · exact answer_isSuccess admits
  refine ⟨h.stands, by simp, h.plain, by simp, fun _ => ⟨by simp [mode, Session.see], .inl ?_⟩⟩
  refine .inr ⟨fun _ => detached, [], .ofAnswer a, 0, ?_, ?_, success, .inl rfl⟩
  · exact (seen_see _).trans (by rw [relays.2.1]; rfl)
  · rw [show (s.see (.ofAnswer a)).execution.consumer.mode = .buffer from mode]
    cases a <;> trivial

lemma Upheld.serve {stream stream' : RowStream} {o : Observation} (h : s.Upheld told)
    (present : s.present = true) (consumer : s.execution.consumer = .pull stream)
    (accepting : stream'.accepting = !stream'.cancelReported)
    (served : Served (s.seen ++ [o]) s.execution.phase s.execution.attached s.left stream' told) :
    Upheld { s.see o with execution := { s.execution with consumer := .pull stream' } } told := by
  refine ⟨h.stands.consumer (by rw [consumer]; rfl), fun _ => ?_, h.plain, ?_, ?_⟩
  · exact ⟨accepting, (seen_see o).symm ▸ served⟩
  · intro _ detached on
    rcases h.concluded present detached on with ⟨rows, v, admits, htold⟩ | ⟨pull, cancelled, rows⟩
    · refine .inl ⟨rows, v, admits, ?_⟩
      rw [htold, Execution.told, Execution.told, consumer]
      cases v <;> rfl
    · exact .inr ⟨rfl, cancelled, rows⟩
  · intro absent
    exact absurd present (ne_true_of_eq_false absent)

lemma Upheld.item {stream : RowStream} {i : Except ExecutionError Row}
    {rest : List (Except ExecutionError Row)} (h : s.Upheld told) (present : s.present = true)
    (consumer : s.execution.consumer = .pull stream) (open_ : s.execution.phase ≠ .cancelled)
    (first : stream.queue = i :: rest) :
    Upheld { s.see (.ofItem i) with
      execution := { s.execution with consumer := .pull { stream with queue := rest } } } told := by
  obtain ⟨accepting, served⟩ := h.relays_pull present consumer
  refine h.serve present consumer accepting ?_
  cases served with
  | onward got fresh rows told_rest =>
    rw [first] at told_rest
    cases i with
    | ok row =>
      refine .onward (got ++ [row]) fresh ?_ ?_
      · simp [rows, Observation.ofItem]
      · simp [told_rest, Observation.ofItem]
    | error e =>
      have failure : told = got.map .row ++ .failure e :: rest.map .ofItem := by
        simpa [Observation.ofItem] using told_rest
      have closed : ¬(s.execution.attached = true ∨ s.left = some .streaming) := by
        apply mt h.plain
        rw [failure]
        exact not_onlyRows (by simp)
      push Not at closed
      have detached : s.execution.attached = false := Bool.eq_false_iff.2 closed.1
      obtain ⟨failed, empty⟩ := concluded_failure consumer
        (h.concluded present detached closed.2) failure open_
      refine .failed got e 0 fresh failed detached ?_ (List.map_eq_nil_iff.1 empty) ?_
      · simp [rows, Observation.ofItem]
      · rw [failure, empty]
  | failed got e n fresh decided detached error empty => rw [first] at empty; cases empty
  | ended got n fresh decided detached finish empty => rw [first] at empty; cases empty
  | cancelled got n reported decided => exact absurd decided open_
  | late got m n reported abandoned decided => exact absurd decided open_

lemma Upheld.cancelled_item {stream : RowStream} (h : s.Upheld told) (present : s.present = true)
    (consumer : s.execution.consumer = .pull stream) (cancelled : s.execution.phase = .cancelled)
    (fresh : stream.cancelReported = false) :
    Upheld { s.see (.failure .cancelled) with
      execution := { s.execution with
        consumer := .pull { stream with cancelReported := true, accepting := false } } } told := by
  have relays := h.relays_pull present consumer
  apply h.serve present consumer rfl
  cases relays.2 with
  | onward got _ rows rest => exact .cancelled got 0 rfl cancelled (by rw [rows]; rfl)
  | failed got e n _ decided => rw [cancelled] at decided; cases decided
  | ended got n _ decided detached finish =>
    rw [cancelled] at decided
    exact .late got n 0 rfl (decided.resolve_left (by simp)) cancelled (by rw [finish]; rfl)
  | cancelled got n reported => rw [fresh] at reported; cases reported
  | late got m n reported => rw [fresh] at reported; cases reported

lemma Upheld.finish {stream : RowStream} (h : s.Upheld told) (present : s.present = true)
    (consumer : s.execution.consumer = .pull stream)
    (done : s.execution.phase = .cancelled ∧ stream.cancelReported = true ∨
      s.execution.phase ≠ .cancelled ∧ stream.queue = [] ∧ s.execution.attached = false) :
    Upheld (s.see .finish) told := by
  have relays := h.relays_pull present consumer
  have served : Served (s.seen ++ [.finish]) s.execution.phase s.execution.attached s.left stream
      told := by
    cases relays.2 with
    | onward got fresh rows told_rest =>
      obtain ⟨open_, queue, detached⟩ := done.resolve_left (by simp [fresh])
      have told_rows : told = got.map .row := by simpa [queue] using told_rest
      have all : OnlyRows told := ⟨got, told_rows⟩
      refine .ended got 0 fresh ?_ detached (by rw [rows]; rfl) queue told_rows
      by_cases abandoned : s.left = some .streaming
      · exact .inr abandoned
      · exact .inl (concluded_rows consumer (h.concluded present detached abandoned) all open_)
    | failed got e n fresh decided detached error empty rest =>
      refine .failed got e (n + 1) fresh decided detached ?_ empty rest
      simp [error, List.replicate_succ']
    | ended got n fresh decided detached finish empty rest =>
      refine .ended got (n + 1) fresh decided detached ?_ empty rest
      simp [finish, List.replicate_succ']
    | cancelled got n reported decided error =>
      refine .cancelled got (n + 1) reported decided ?_
      simp [error, List.replicate_succ']
    | late got m n reported abandoned decided error =>
      refine .late got m (n + 1) reported abandoned decided ?_
      simp [error, List.replicate_succ']
  have same := h.serve present consumer relays.1 served
  rw [← consumer] at same
  exact same

lemma Upheld.poll (h : s.Upheld told) : s.poll.Upheld told := by
  have polled := s.polled
  generalize s.poll = t at polled
  cases polled with
  | absent => exact h
  | push => exact h
  | unanswered => exact h
  | answered present consumer answer => exact h.answered present consumer answer
  | pending => exact h
  | item present consumer open_ first => exact h.item present consumer open_ first
  | cancelled present consumer cancelled fresh =>
    exact h.cancelled_item present consumer cancelled fresh
  | finish present consumer done => exact h.finish present consumer done

/-! ### Steps of the driver -/

section Drive

open Execution

variable {y : Execution} {effects : List Effect} {news : List Observation}

/-- The session after its driver has gone from its execution to `y`. -/
def after (s : Session) (y : Execution) : Session :=
  { s with
    execution := y
    taken := s.taken ++ s.execution.taking
    left := y.exit
    trace := s.trace ++
      (y.consumer.signals.drop s.execution.consumer.signals.length).flatMap
        PushSignal.occurrences }

lemma drive_eq (h : s.execution.step = some (y, effects)) : s.drive = s.after y := by
  rw [drive, h]
  rfl

lemma seen_after : (s.after y).seen = s.seen ++
    (y.consumer.signals.drop s.execution.consumer.signals.length).map PushSignal.observation := by
  rw [← observations_occurrences]
  exact observations_append _ _

lemma seen_after_of_mode (noPush : ∀ n, y.consumer.mode ≠ .push n) : (s.after y).seen = s.seen := by
  rw [seen_after, Consumer.signals_of_mode noPush, List.drop_nil, List.map_nil, List.append_nil]

lemma OnlyRows.append {got rest : List Observation} (h : OnlyRows got)
    (more : rest = [] ∨ ∃ row, rest = [.row row]) : OnlyRows (got ++ rest) := by
  rcases more with rfl | ⟨row, rfl⟩
  · rwa [List.append_nil]
  · obtain ⟨rows, rfl⟩ := h
    exact ⟨rows ++ [row], by simp⟩

/-- How a stream has been served does not change while the driver goes on. -/
lemma Served.advance {seen told' : List Observation} {phase phase' : Phase}
    {attached attached' : Bool} {left : Option Phase} {stream stream' : RowStream}
    (h : Served seen phase attached none stream told)
    (kept : phase ≠ .streaming → phase' = phase) (released : attached' = true → attached = true)
    (reported : stream'.cancelReported = stream.cancelReported)
    (quiet : attached = false → stream'.queue = stream.queue ∧ told' = told)
    (rest : ∀ got : List Row, told = got.map .row ++ stream.queue.map .ofItem →
      told' = got.map .row ++ stream'.queue.map .ofItem) :
    Served seen phase' attached' left stream' told' := by
  have let_go (detached : attached = false) : attached' = false := by
    cases ha : attached' with
    | true => rw [released ha] at detached; cases detached
    | false => rfl
  cases h with
  | onward got fresh rows told_rest =>
    exact .onward got (reported.trans fresh) rows (rest got told_rest)
  | failed got e n fresh decided detached error empty all =>
    obtain ⟨queue, rfl⟩ := quiet detached
    exact .failed got e n (reported.trans fresh) ((kept (by simp [decided])).trans decided)
      (let_go detached) error (queue.trans empty) all
  | ended got n fresh decided detached finish empty all =>
    obtain ⟨queue, rfl⟩ := quiet detached
    have completed : phase = .completed := decided.resolve_right (by simp)
    exact .ended got n (reported.trans fresh) (.inl ((kept (by simp [completed])).trans completed))
      (let_go detached) finish (queue.trans empty) all
  | cancelled got n done decided error =>
    exact .cancelled got n (reported.trans done) ((kept (by simp [decided])).trans decided) error
  | late got m n done abandoned => cases abandoned

lemma Upheld.relays_after (h : s.Upheld told) (left : s.left = none)
    (move : s.execution.Move y effects news) (present : s.present = true) :
    (s.after y).Relays (told ++ news) := by
  have relays := h.relays present
  unfold Relays at relays
  cases consumer : s.execution.consumer with
  | push signals n =>
    rw [consumer] at relays
    obtain ⟨told_signals, seen_told⟩ := relays
    obtain ⟨new, hy, rfl, -⟩ := move.push consumer
    have all : told ++ new.map PushSignal.observation =
        (signals ++ new).map PushSignal.observation := by
      rw [told_signals, List.map_append]
    rw [Relays, show (s.after y).execution.consumer = _ from hy]
    refine ⟨all, ?_⟩
    rw [seen_after, hy, consumer, seen_told]
    simp [Consumer.signals]
  | buffer slot =>
    rw [consumer] at relays
    obtain ⟨awaited, silent, unresolved, all⟩ := relays
    have mode : y.consumer.mode = .buffer := by rw [move.mode_eq, consumer]; rfl
    have seen : (s.after y).seen = [] := (seen_after_of_mode (by simp [mode])).trans silent
    cases move.buffer consumer awaited with
    | nothing same =>
      rw [Relays, show (s.after y).execution.consumer = _ from same]
      exact ⟨awaited, seen, fun on => unresolved (move.attached_of on), by simpa using all⟩
    | row r collected =>
      have on := move.attached_of_news h.stands (by simp)
      rw [Relays, show (s.after y).execution.consumer = _ from collected]
      refine ⟨awaited, seen, fun _ => unresolved on, ?_⟩
      simp [all, AnswerSlot.collect, unresolved on]
    | answer a detached resolved =>
      have on := move.attached_of_news h.stands (by simp)
      rw [Relays, show (s.after y).execution.consumer = _ from resolved]
      refine ⟨awaited, seen, fun again => ?_, ?_⟩
      · exact absurd again (ne_true_of_eq_false detached)
      · simp [all, unresolved on]
  | pull stream =>
    rw [consumer] at relays
    obtain ⟨accepting, served⟩ := relays
    rw [left] at served
    have mode : y.consumer.mode = .pull := by rw [move.mode_eq, consumer]; rfl
    have seen : (s.after y).seen = s.seen := seen_after_of_mode (by simp [mode])
    cases move.pull consumer with
    | nothing same =>
      rw [Relays, show (s.after y).execution.consumer = _ from same, seen]
      rw [List.append_nil]
      exact ⟨accepting, served.advance move.phase_eq move.attached_of rfl (fun _ => ⟨rfl, rfl⟩)
        (fun got told_rest => told_rest)⟩
    | item i open_ room queued =>
      have on := move.attached_of_news h.stands (by simp)
      rw [Relays, show (s.after y).execution.consumer = _ from queued, seen]
      refine ⟨accepting, served.advance move.phase_eq move.attached_of rfl ?_ ?_⟩
      · intro detached
        exact absurd on (ne_true_of_eq_false detached)
      · intro got told_rest
        simp [told_rest, RowStream.enqueue]

lemma Upheld.plain_after (h : s.Upheld told) (left : s.left = none)
    (move : s.execution.Move y effects news)
    (open_ : y.attached = true ∨ y.exit = some .streaming) : OnlyRows (told ++ news) := by
  have still : y.attached = true ∨ y.phase = .streaming := by
    refine open_.imp_right (fun exit => ?_)
    unfold Execution.exit at exit
    split at exit
    · exact Option.some.inj exit
    · cases exit
  refine OnlyRows.append (h.plain (.inl ?_)) (move.news_rows h.stands still)
  rcases still with attached | undecided
  · exact move.attached_of attached
  · have before : s.execution.phase = .streaming := by
      by_contra decided
      exact decided ((move.phase_eq decided).symm.trans undecided)
    exact h.stands.attached_of_left before (by simp [left])

/-- A stream that takes no more items has told its consumer of a cancel. -/
lemma Upheld.closed_stream {stream : RowStream} (h : s.Upheld told) (present : s.present = true)
    (consumer : s.execution.consumer = .pull stream) (closed : stream.accepting = false) :
    s.execution.phase = .cancelled := by
  obtain ⟨accepting, served⟩ := h.relays_pull present consumer
  rw [closed] at accepting
  have reported : stream.cancelReported = true := by simpa using accepting.symm
  cases served with
  | onward got fresh => rw [reported] at fresh; cases fresh
  | failed got e n fresh => rw [reported] at fresh; cases fresh
  | ended got n fresh => rw [reported] at fresh; cases fresh
  | cancelled got n _ decided => exact decided
  | late got m n _ abandoned decided => exact decided

/-- A consumer that is there is not lost while nothing has been accepted. -/
lemma Upheld.not_gone (h : s.Upheld told) (present : s.present = true)
    (undecided : s.execution.phase = .streaming) : ¬s.execution.consumer.Gone := by
  intro gone
  cases consumer : s.execution.consumer with
  | push signals n => rw [consumer] at gone; cases gone
  | buffer slot =>
    have relays := h.relays_buffer present consumer
    rw [consumer] at gone
    cases gone with
    | buffer dropped => rw [relays.1] at dropped; cases dropped
  | pull stream =>
    rw [consumer] at gone
    cases gone with
    | pull closed =>
      have cancelled := h.closed_stream present consumer closed
      rw [undecided] at cancelled
      cases cancelled

lemma concluded_tell {x : Execution} {v : Verdict} {next : AfterFailure} (rows : OnlyRows told)
    (admits : Admits x.phase v) :
    (s.after ((x.tell v).proceed next).1).Concluded (told ++ x.told v) := by
  obtain ⟨rows, rfl⟩ := rows
  refine .inl ⟨rows, v, ?_, ?_⟩
  · rw [after, proceed_phase]
    exact admits
  · simp [after, Execution.told, Execution.tell]

lemma Upheld.concluded_after (h : s.Upheld told) (left : s.left = none)
    (move : s.execution.Move y effects news) (present : s.present = true)
    (detached : y.attached = false) (on : y.exit ≠ some .streaming) :
    (s.after y).Concluded (told ++ news) := by
  cases move with
  | leave listening signal silent =>
    rw [List.append_nil]
    cases attached : s.execution.attached with
    | true =>
      have stands := h.stands
      rw [left] at stands
      cases stands with
      | running undecided _ working => exact absurd (congrArg some undecided) on
      | cancelling cancelled => exact absurd ⟨cancelled, attached⟩ silent
      | reporting e next waiting => rw [listening] at waiting; cases waiting
      | winding decided detached => rw [attached] at detached; cases detached
    | false =>
      have := h.concluded present attached (by simp [left])
      exact this
  | response listening live first undecided =>
    have attached := h.stands.attached_of_left undecided (by simp [left])
    exact absurd attached (ne_true_of_eq_false detached)
  | skip busy working idle =>
    have stands := h.stands
    rw [left] at stands
    cases stands with
    | running _ attached => exact absurd attached (ne_true_of_eq_false detached)
    | cancelling _ attached => exact absurd attached (ne_true_of_eq_false detached)
    | reporting _ _ _ attached => exact absurd attached (ne_true_of_eq_false detached)
    | winding _ _ listening => exact absurd listening busy
  | decode delivering undecided good =>
    have attached := h.stands.attached_of_left undecided (by simp [left])
    exact absurd attached (ne_true_of_eq_false detached)
  | hand offering live takes =>
    have attached := (h.stands.offering_live offering live).2
    exact absurd attached (ne_true_of_eq_false detached)
  | handCancelled offering live undecided cancels =>
    have attached := (h.stands.offering_live offering live).2
    exact absurd attached (ne_true_of_eq_false detached)
  | lose offering live undecided gone => exact absurd gone (h.not_gone present undecided)
  | settle attached decides prompt => exact concluded_tell (h.plain (.inl attached)) decides.admits
  | await attached decides pull =>
    exact absurd (decides.attached_eq.trans attached) (ne_true_of_eq_false detached)
  | @report e next stream waiting pull accepting room =>
    obtain ⟨attached, admits, -⟩ := h.stands.failing waiting
    have news : s.execution.told (.error e) = [.failure e] := by
      rw [Execution.told, pull]
      rfl
    rw [← news]
    exact concluded_tell (h.plain (.inl attached)) admits
  | refuse waiting pull closed =>
    obtain ⟨attached, -, -⟩ := h.stands.failing waiting
    rw [List.append_nil]
    refine .inr ⟨?_, ?_, h.plain (.inl attached)⟩
    · rw [after, Execution.isPull, proceed_consumer, pull]
      rfl
    · rw [after, proceed_phase]
      exact h.closed_stream present pull closed

lemma Upheld.absent_after (h : s.Upheld told) (left : s.left = none)
    (move : s.execution.Move y effects news) (absent : s.present = false) :
    (∀ n, y.consumer.mode ≠ .push n) ∧ (s.after y).Orderly := by
  obtain ⟨noPush, orderly⟩ := h.absent absent
  rw [← move.mode_eq] at noPush
  refine ⟨noPush, ?_⟩
  have seen : (s.after y).seen = s.seen := seen_after_of_mode noPush
  rcases orderly with (rows | ⟨detached, outcome⟩) | ⟨-, abandoned⟩
  · exact .inl (seen ▸ rows)
  · have decided : s.execution.phase ≠ .streaming := by
      intro undecided
      have attached := h.stands.attached_of_left undecided (by simp [left])
      exact absurd attached (ne_true_of_eq_false (detached undecided))
    refine .inr ⟨?_, ?_⟩
    · intro undecided
      exact absurd ((move.phase_eq decided).symm.trans undecided) decided
    · rw [seen, show (s.after y).execution.phase = _ from move.phase_eq decided,
        show (s.after y).execution.consumer.mode = _ from move.mode_eq]
      exact outcome
  · rw [left] at abandoned
    cases abandoned

/-- A step of the driver, which adds what it tells. -/
theorem Upheld.after (h : s.Upheld told) (left : s.left = none)
    (move : s.execution.Move y effects news) : (s.after y).Upheld (told ++ news) where
  stands := move.stands h.stands
  relays := h.relays_after left move
  plain := h.plain_after left move
  concluded := h.concluded_after left move
  absent absent := (h.absent_after left move absent).imp_right .inl

end Drive

/-! ### The transport, and the start -/

lemma Upheld.act_send (h : s.Upheld told) (event : StreamEvent) :
    (s.act (.send event)).Upheld told := by
  rw [Session.act]
  split
  · exact h.channel _ (fun signal => (Channel.send_cancelled _ event).trans signal)
  · exact h

variable (id : Nat) (database : String) (pipeline : Pipeline) (capacity : Nat)
  (streamBuffer : UInt64) (mode : DeliveryMode)

lemma upheld_start : (start id database pipeline capacity streamBuffer mode).Upheld [] where
  stands := .running rfl rfl trivial
  relays _ := by
    cases mode with
    | push n => exact ⟨rfl, rfl⟩
    | buffer => exact ⟨rfl, rfl, fun _ => rfl, rfl⟩
    | pull => exact ⟨rfl, .onward [] rfl rfl rfl⟩
  plain _ := onlyRows_nil
  concluded _ detached := by cases detached
  absent gone := by cases gone

end Session

end DocumentQuery
