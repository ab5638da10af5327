import DocumentQuery.Proofs.Service

/-!
# What ends an execution

A running execution is ended by a signal of the transport, by a row that cannot be decoded, by the
end of the transport's stream, by a cancel, or by a consumer that has gone away. From then on the
consumer is told of nothing but how the execution has ended, and of nothing at all if its driver had
ended before.
-/

namespace DocumentQuery

/-- Whether an observation fits the way in which an execution ended. -/
def Observation.Agrees (v : Verdict) : Observation → Prop
  | .row _ | .finish => True
  | .failure e => v = .error e
  | .completion t => v = .ok t
  | .snapshot taken => v = .ok taken.executionTime

/-- Whether an observation needs nobody who tells the consumer of it. -/
def Observation.Untold : Observation → Prop
  | .row _ | .finish => True
  | .failure e => e = .cancelled ∨ e = .unanswered
  | .completion _ | .snapshot _ => False

/-- What can end an execution. -/
inductive Winner where
  | completion
  | failure (e : ExecutionError)
  | undecodable (e : ExecutionError)
  /-- The transport has sent all it will send. -/
  | closed
  | cancel
  /-- The consumer has gone away. -/
  | gone

namespace Winner

/-- How an execution ends that is ended by this. -/
def verdict (time : Option Timestamp) : Winner → Verdict
  | .completion => .ok time
  | .failure e | .undecodable e => .error e
  | .closed => .error .streamClosed
  | .cancel | .gone => .error .cancelled

/-- Whether it is a signal of the transport. -/
def isSignal : Winner → Bool
  | .completion | .failure _ => true
  | _ => false

end Winner

namespace Execution

variable {x y z : Execution} {v : Verdict} {next : AfterFailure} {effects : List Effect}
  {news : List Observation} {left : Option Phase}

/-- What the next step of the driver of a running execution ends it for. -/
inductive EndsFor (x : Execution) : Winner → Prop where
  | completion {rest} (listening : x.task = .listening) (live : x.channel.cancelled = false)
      (first : x.channel.queue = .completion :: rest) : EndsFor x .completion
  | failure {e rest} (listening : x.task = .listening) (live : x.channel.cancelled = false)
      (first : x.channel.queue = .failure e :: rest) : EndsFor x (.failure e)
  | undecodable {payload rest e} (delivering : x.task = .delivering (payload :: rest))
      (bad : Row.decode payload x.executionTime x.database = .error e) :
      EndsFor x (.undecodable e)
  | closed (listening : x.task = .listening) (live : x.channel.cancelled = false)
      (empty : x.channel.queue = []) (senderGone : x.channel.senderOpen = false) :
      EndsFor x .closed
  /-- A subscriber cancels while it has a row. -/
  | cancel {row rest signals} (offering : x.task = .offering row rest)
      (live : x.channel.cancelled = false)
      (cancels : x.consumer = .push signals (some (signals.length + 1))) : EndsFor x .cancel
  | gone {row rest} (offering : x.task = .offering row rest) (live : x.channel.cancelled = false)
      (gone : x.consumer.Gone) : EndsFor x .gone

/-! ### After the end -/

/-- Once an execution has ended its driver finds nothing but the cancel of its caller. -/
lemma Decides.of_decided (h : x.Decides z v next effects) (decided : x.phase ≠ .streaming) :
    z = x ∧ v = .error .cancelled ∧ next = .leave ∧ x.phase = .cancelled := by
  cases h with
  | completion _ _ _ undecided => exact absurd undecided decided
  | failure _ _ _ undecided => exact absurd undecided decided
  | closed _ _ _ _ undecided => exact absurd undecided decided
  | undecodable _ undecided => exact absurd undecided decided
  | cancelled _ _ cancelled => exact ⟨rfl, rfl, rfl, cancelled⟩

lemma agrees_of_told (x : Execution) (v : Verdict) : ∀ o ∈ x.told v, o.Agrees v := by
  intro o told
  rw [Execution.told] at told
  cases consumer : x.consumer with
  | push signals n =>
    rw [consumer] at told
    cases v <;> rw [List.mem_singleton.1 told] <;> rfl
  | buffer slot =>
    rw [consumer, Consumer.told] at told
    split at told
    · rw [List.mem_singleton.1 told]
      cases v <;> rfl
    · cases told
  | pull stream =>
    rw [consumer] at told
    cases v with
    | error e => rw [List.mem_singleton.1 told]; rfl
    | ok t => cases told

/-- What a driver tells the consumer once the execution has ended fits how it ended. -/
lemma Move.agrees (h : x.Move y effects news) (decided : x.phase ≠ .streaming)
    (waiting : ∀ e next, x.task = .failing e next → v = .error e)
    (cancelled : x.phase = .cancelled → v = .error .cancelled) :
    (∀ o ∈ news, o.Agrees v) ∧ ∀ e next, y.task = .failing e next → v = .error e := by
  have proceeds {u : Execution} {next : AfterFailure} :
      ∀ e next', (u.proceed next).1.task = .failing e next' → v = .error e := by
    intro e next' again
    rw [proceed_task] at again
    split at again <;> cases again
  cases h with
  | leave => exact ⟨by simp, fun e next again => by cases again⟩
  | response listening live first undecided => exact absurd undecided decided
  | skip => exact ⟨by simp, fun e next again => by cases again⟩
  | decode => exact ⟨by simp, fun e next again => by cases again⟩
  | hand => exact ⟨by simp [Observation.Agrees], fun e next again => by cases again⟩
  | handCancelled offering live undecided => exact absurd undecided decided
  | lose offering live undecided => exact absurd undecided decided
  | settle attached decides prompt =>
    obtain ⟨-, rfl, -, phase⟩ := decides.of_decided decided
    rw [cancelled phase]
    exact ⟨agrees_of_told _ _, cancelled phase ▸ proceeds⟩
  | await attached decides pull =>
    obtain ⟨-, verdict, -, phase⟩ := decides.of_decided decided
    refine ⟨by simp, fun e next again => ?_⟩
    rw [cancelled phase, ← verdict, (Task.failing.inj again).1]
  | report waiting' =>
    refine ⟨fun o mem => ?_, proceeds⟩
    rw [List.mem_singleton.1 mem]
    exact waiting _ _ waiting'
  | refuse => exact ⟨by simp, proceeds⟩

lemma Decides.id_eq (h : x.Decides z v next effects) : z.id = x.id := by cases h <;> rfl

/-- An execution keeps its id. -/
lemma Move.id_eq (h : x.Move y effects news) : y.id = x.id := by
  cases h with
  | leave => rfl
  | response => rfl
  | skip => rfl
  | decode => rfl
  | hand => rfl
  | handCancelled => rfl
  | lose => rfl
  | settle attached decides prompt => exact proceed_id.trans decides.id_eq
  | await attached decides pull => exact decides.id_eq
  | report => exact proceed_id
  | refuse => exact proceed_id

/-- The driver of a running execution can have ended only in the phase in which this still is. -/
lemma Stands.left_of_undecided (stands : x.Stands left) (undecided : x.phase = .streaming)
    (gone : left ≠ none) : left = some .streaming := by
  cases stands with
  | running => exact absurd rfl gone
  | cancelling => exact absurd rfl gone
  | reporting => exact absurd rfl gone
  | winding => exact absurd rfl gone
  | finished final ended detached signal same =>
    rcases same with phase | ⟨-, cancelled⟩
    · rw [← phase, undecided]
    · rw [undecided] at cancelled
      cases cancelled

end Execution

/-! ### Sessions -/

namespace Session

open Execution

variable {s : Session} {told : List Observation} {v : Verdict} {database : String}

/-- What ends a running execution in an action. -/
inductive Wins (s : Session) : Action → Winner → Prop where
  | driver {winner} (reason : s.execution.EndsFor winner) : Wins s .drive winner
  | caller : Wins s .cancel .cancel

/-- A step of the driver, if it takes one, is a move, and its effects are those of the move. -/
lemma driven (upheld : s.Upheld told) :
    s.drive = s ∧ s.emitted .drive = [] ∨
      ∃ y news, s.left = none ∧ s.drive = s.after y ∧
        s.execution.Move y (s.emitted .drive) news := by
  cases step : s.execution.step with
  | none => exact .inl ⟨by rw [drive, step], by rw [emitted, step]⟩
  | some next =>
    obtain ⟨y, effects⟩ := next
    obtain ⟨news, move⟩ := step_move upheld.stands step
    refine .inr ⟨y, news, upheld.stands.left_eq_none step, drive_eq step, ?_⟩
    rw [emitted, step]
    exact move

lemma emitted_of_ne {action : Action} (other : action ≠ .drive) : s.emitted action = [] := by
  cases action <;> first | rfl | exact absurd rfl other

lemma act_task {action : Action} (other : action ≠ .drive) :
    (s.act action).execution.task = s.execution.task := by
  cases action with
  | send event =>
    rw [act]
    split <;> rfl
  | close => rfl
  | drive => exact absurd rfl other
  | poll => exact s.poll_aside.task
  | cancel =>
    rw [act, cancel, Execution.cancel]
    split <;> rfl
  | drop => exact s.drop_aside.task
  | abort => rfl

lemma Aside.id {t : Session} (aside : Aside s t) : t.execution.id = s.execution.id := by
  rw [aside.execution]

lemma act_id (upheld : s.Upheld told) (action : Action) :
    (s.act action).execution.id = s.execution.id := by
  have acted := acted upheld action
  generalize s.act action = t at acted
  cases acted with
  | outside => rfl
  | moved left move => exact move.id_eq
  | polled => exact s.poll_aside.id
  | refused => rfl
  | won => rfl
  | dropped => exact s.drop_aside.id

lemma phase_of_ne (upheld : s.Upheld told) {action : Action} (noDrive : action ≠ .drive)
    (noCancel : action ≠ .cancel) :
    (s.act action).execution.phase = s.execution.phase := by
  have acted := acted upheld action
  generalize s.act action = t at acted
  cases acted with
  | outside => rfl
  | moved => exact absurd rfl noDrive
  | polled => exact s.poll_aside.phase
  | refused => exact absurd rfl noCancel
  | won => exact absurd rfl noCancel
  | dropped => exact s.drop_aside.phase

/-- What every action keeps is kept in a run. -/
theorem Follows.keeps {p : Session → Prop} (follows : s.Follows database told)
    (upheld : s.Upheld told)
    (kept : ∀ (t : Session) (told : List Observation) (action : Action), t.Upheld told →
      p t → p (t.act action)) (first : p s) (actions : List Action) : p (s.run actions) := by
  induction actions generalizing s told with
  | nil => exact first
  | cons action rest ih =>
    obtain ⟨told', upheld', follows'⟩ := follows.act upheld action
    exact ih follows' upheld' (kept s told action upheld first)

/-! ### What the consumer is told -/

lemma agrees_of_onlyRows {seen : List Observation} {v : Verdict} (rows : OnlyRows seen) :
    ∀ o ∈ seen, o.Agrees v := by
  intro o mem
  obtain ⟨row, rfl⟩ := onlyRows_iff.1 rows o mem
  trivial

/-- An execution has ended, and its consumer is told of nothing but how it did. -/
structure Bears (s : Session) (told : List Observation) (v : Verdict) : Prop where
  decided : s.execution.phase ≠ .streaming
  stayed : s.left ≠ some .streaming
  told : ∀ o ∈ told, o.Agrees v
  seen : ∀ o ∈ s.seen, o.Agrees v
  waiting : ∀ e next, s.execution.task = .failing e next → v = .error e
  cancelled : s.execution.phase = .cancelled → v = .error .cancelled

/-- A subscriber has seen what it was told; the others see nothing in a step of the driver. -/
lemma Upheld.seen_after {y : Execution} {effects : List Effect} {news : List Observation}
    (upheld : s.Upheld told) (left : s.left = none) (move : s.execution.Move y effects news) :
    (s.after y).seen = s.seen ∨ (s.after y).seen = told ++ news := by
  by_cases push : ∃ n, y.consumer.mode = .push n
  · obtain ⟨n, mode⟩ := push
    obtain ⟨-, -, -, -, same⟩ := (upheld.after left move).relays_push mode
    exact .inr same
  · exact .inl (seen_after_of_mode fun n mode => push ⟨n, mode⟩)

lemma bears_after {y : Execution} {effects : List Effect} {news : List Observation}
    (upheld : s.Upheld told) (left : s.left = none) (move : s.execution.Move y effects news)
    (decided : y.phase ≠ .streaming) (before : ∀ o ∈ told, o.Agrees v)
    (seen : ∀ o ∈ s.seen, o.Agrees v) (agrees : ∀ o ∈ news, o.Agrees v)
    (waiting : ∀ e next, y.task = .failing e next → v = .error e)
    (cancelled : y.phase = .cancelled → v = .error .cancelled) :
    (s.after y).Bears (told ++ news) v := by
  have all : ∀ o ∈ told ++ news, o.Agrees v := fun o mem =>
    (List.mem_append.1 mem).elim (before o) (agrees o)
  refine ⟨decided, fun abandoned => decided (exit_eq_streaming abandoned).2, all, ?_, waiting,
    cancelled⟩
  rcases upheld.seen_after left move with same | same
  · rw [same]
    exact seen
  · rw [same]
    exact all

lemma Bears.after {y : Execution} {effects : List Effect} {news : List Observation}
    (h : s.Bears told v) (upheld : s.Upheld told) (left : s.left = none)
    (move : s.execution.Move y effects news) : (s.after y).Bears (told ++ news) v := by
  have phase := move.phase_eq h.decided
  obtain ⟨agrees, waiting⟩ := move.agrees h.decided h.waiting h.cancelled
  refine bears_after upheld left move ?_ h.told h.seen agrees waiting ?_
  · rw [phase]
    exact h.decided
  · rw [phase]
    exact h.cancelled

/-- The consumer sees what fits while the driver's side stays as it is. -/
lemma Bears.aside {t : Session} (h : s.Bears told v) (aside : Aside s t)
    (seen : ∀ o ∈ t.seen, o.Agrees v) : t.Bears told v where
  decided := aside.phase ▸ h.decided
  stayed := aside.left ▸ h.stayed
  told := h.told
  seen := seen
  waiting := aside.task ▸ h.waiting
  cancelled := aside.phase ▸ h.cancelled

/-- What comes out of a stream is what the driver has told. -/
lemma Upheld.item_told {stream : RowStream} {i : Except ExecutionError Row}
    {rest : List (Except ExecutionError Row)} (upheld : s.Upheld told) (present : s.present = true)
    (consumer : s.execution.consumer = .pull stream) (open_ : s.execution.phase ≠ .cancelled)
    (first : stream.queue = i :: rest) : .ofItem i ∈ told := by
  cases (upheld.relays_pull present consumer).2 with
  | onward got fresh rows told_rest =>
    rw [told_rest, first]
    simp
  | failed got e n fresh decided detached error empty => rw [first] at empty; cases empty
  | ended got n fresh decided detached finish empty => rw [first] at empty; cases empty
  | cancelled got n reported decided => exact absurd decided open_
  | late got m n reported abandoned decided => exact absurd decided open_

lemma Bears.poll (h : s.Bears told v) (upheld : s.Upheld told) : s.poll.Bears told v := by
  refine h.aside s.poll_aside ?_
  have more {t : Session} {o : Observation} (agrees : o.Agrees v) (seen : t.seen = s.seen ++ [o]) :
      ∀ p ∈ t.seen, p.Agrees v := by
    rw [seen]
    exact List.forall_mem_append.2 ⟨h.seen, List.forall_mem_singleton.2 agrees⟩
  have polled := s.polled
  generalize s.poll = t at polled
  cases polled with
  | absent => exact h.seen
  | push => exact h.seen
  | unanswered => exact h.seen
  | @answered slot a present consumer answer =>
    refine more (h.told _ ?_) (seen_append _)
    obtain ⟨awaited, -, -, all⟩ := upheld.relays_buffer present consumer
    have detached := (upheld.answer_fits present consumer answer).1
    obtain ⟨v, -, held⟩ :=
      concluded_buffer consumer awaited (upheld.concluded present detached h.stayed) all
    rw [answer_eq consumer, held] at answer
    rw [all, held, Option.some.inj answer]
    simp
  | pending => exact h.seen
  | @item stream i rest present consumer open_ first =>
    exact more (h.told _ (upheld.item_told present consumer open_ first)) (seen_append _)
  | cancelled present consumer cancelled =>
    exact more (o := .failure .cancelled) (h.cancelled cancelled) (seen_append _)
  | finish => exact more (o := .finish) trivial (seen_append _)

lemma Bears.act (h : s.Bears told v) (upheld : s.Upheld told) (action : Action) :
    ∃ told', (s.act action).Upheld told' ∧ (s.act action).Bears told' v := by
  have acted := acted upheld action
  generalize s.act action = t at acted
  cases acted with
  | outside c kept quiet =>
    exact ⟨told, upheld.channel c kept, h.decided, h.stayed, h.told, h.seen, h.waiting, h.cancelled⟩
  | moved left move => exact ⟨_, upheld.after left move, h.after upheld left move⟩
  | polled => exact ⟨told, upheld.poll, h.poll upheld⟩
  | refused decided =>
    have later : Upheld { s with trace := s.trace ++ [.cancel false] } told := by
      rw [← cancel_eq_of_decided decided]
      exact upheld.cancel
    refine ⟨told, later, h.decided, h.stayed, h.told, ?_, h.waiting, h.cancelled⟩
    rw [← cancel_eq_of_decided decided, seen_cancel]
    exact h.seen
  | won undecided => exact absurd undecided h.decided
  | dropped =>
    refine ⟨told, upheld.drop, h.aside s.drop_aside ?_⟩
    rw [Session.seen, s.drop_trace]
    exact h.seen

lemma Bears.run (h : s.Bears told v) (upheld : s.Upheld told) (actions : List Action) :
    ∃ told', (s.run actions).Upheld told' ∧ (s.run actions).Bears told' v := by
  induction actions generalizing s told with
  | nil => exact ⟨told, upheld, h⟩
  | cons action rest ih =>
    obtain ⟨told', upheld', h'⟩ := h.act upheld action
    exact ih h' upheld'

lemma Bears.outcome {v : Verdict} (h : s.Bears told v) (upheld : s.Upheld told) :
    OnlyRows s.seen ∨ OneOutcome s.execution.consumer.mode s.execution.phase s.seen := by
  rcases upheld.orderly with (rows | ⟨-, outcome⟩) | ⟨-, abandoned⟩
  · exact .inl rows
  · exact .inr outcome
  · exact absurd abandoned h.stayed

/-- A consumer has been told of rows only, and seen nothing else, until the execution ends. -/
lemma Upheld.only_rows (upheld : s.Upheld told) (undecided : s.execution.phase = .streaming)
    (left : s.left = none) : OnlyRows told ∧ OnlyRows s.seen := by
  have on : s.left ≠ some .streaming := by simp [left]
  exact ⟨upheld.plain (.inl (upheld.stands.attached_of_left undecided on)),
    upheld.rows_of_undecided undecided on⟩

/-! ### Without a driver -/

lemma untold_of_onlyRows {seen : List Observation} (rows : OnlyRows seen) :
    ∀ o ∈ seen, o.Untold := by
  intro o mem
  obtain ⟨row, rfl⟩ := onlyRows_iff.1 rows o mem
  trivial

/-- Once the driver has ended while the execution was running, the consumer sees nothing that it
would have to be told of. -/
def Deserted (s : Session) : Prop := s.left = some .streaming → ∀ o ∈ s.seen, o.Untold

lemma deserted_start (id : Nat) (database : String) (pipeline : Pipeline) (capacity : Nat)
    (streamBuffer : UInt64) (mode : DeliveryMode) :
    (start id database pipeline capacity streamBuffer mode).Deserted := nofun

lemma Deserted.after {y : Execution} {effects : List Effect} {news : List Observation}
    (upheld : s.Upheld told) (left : s.left = none) (move : s.execution.Move y effects news) :
    (s.after y).Deserted := by
  intro abandoned
  rcases upheld.seen_after left move with same | same
  · have undecided : s.execution.phase = .streaming := by
      by_contra decided
      exact decided ((move.phase_eq decided).symm.trans (exit_eq_streaming abandoned).2)
    rw [same]
    exact untold_of_onlyRows (upheld.only_rows undecided left).2
  · rw [same]
    exact untold_of_onlyRows ((upheld.after left move).plain (.inr abandoned))

lemma Deserted.poll (h : s.Deserted) (upheld : s.Upheld told) : s.poll.Deserted := by
  intro abandoned
  rw [s.poll_aside.left] at abandoned
  have rows : OnlyRows told := upheld.plain (.inr abandoned)
  have more {t : Session} {o : Observation} (untold : o.Untold) (seen : t.seen = s.seen ++ [o]) :
      ∀ p ∈ t.seen, p.Untold := by
    rw [seen]
    exact List.forall_mem_append.2 ⟨h abandoned, List.forall_mem_singleton.2 untold⟩
  have polled := s.polled
  generalize s.poll = t at polled
  cases polled with
  | absent => exact h abandoned
  | push => exact h abandoned
  | unanswered => exact h abandoned
  | @answered slot a present consumer answer =>
    obtain ⟨-, -, -, all⟩ := upheld.relays_buffer present consumer
    refine more ?_ (seen_append _)
    rw [answer_eq consumer] at answer
    cases held : slot.answer with
    | some b =>
      rw [all, held] at rows
      exact absurd rows (not_onlyRows (by simp))
    | none =>
      rw [held] at answer
      dsimp only at answer
      split at answer
      · cases answer
      · rw [← Option.some.inj answer]
        exact .inr rfl
  | pending => exact h abandoned
  | @item stream i rest present consumer open_ first =>
    have item := upheld.item_told present consumer open_ first
    exact more (untold_of_onlyRows rows _ item) (seen_append _)
  | cancelled => exact more (o := .failure .cancelled) (.inl rfl) (seen_append _)
  | finish => exact more (o := .finish) trivial (seen_append _)

lemma Deserted.act (h : s.Deserted) (upheld : s.Upheld told) (action : Action) :
    (s.act action).Deserted := by
  have acted := acted upheld action
  generalize s.act action = t at acted
  cases acted with
  | outside => exact h
  | moved left move => exact .after upheld left move
  | polled => exact h.poll upheld
  | refused decided =>
    intro abandoned
    rw [← cancel_eq_of_decided decided, seen_cancel]
    exact h abandoned
  | won undecided =>
    intro abandoned
    rw [← cancel_eq_of_undecided undecided, seen_cancel]
    exact h abandoned
  | dropped =>
    intro abandoned
    rw [s.drop_aside.left] at abandoned
    rw [Session.seen, s.drop_trace]
    exact h abandoned

/-- A driver that has ended does not come back. -/
lemma left_act (upheld : s.Upheld told) {final : Phase} (left : s.left = some final)
    (action : Action) : (s.act action).left = some final := by
  have acted := acted upheld action
  generalize s.act action = t at acted
  cases acted with
  | outside => exact left
  | moved on => rw [on] at left; cases left
  | polled => exact s.poll_aside.left.trans left
  | refused => exact left
  | won => exact left
  | dropped => exact s.drop_aside.left.trans left

/-- Nobody tells the consumer anything from then on. -/
theorem untold_run (deserted : s.Deserted) (upheld : s.Upheld told)
    (follows : s.Follows database told) (abandoned : s.left = some .streaming)
    (actions : List Action) : ∀ o ∈ (s.run actions).seen, o.Untold := by
  have alone : (s.run actions).Deserted :=
    follows.keeps upheld (fun _ _ action upheld h => h.act upheld action) deserted actions
  have left : (s.run actions).left = some .streaming :=
    follows.keeps upheld (fun _ _ action upheld left => left_act upheld left action) abandoned
      actions
  exact alone left

end Session

end DocumentQuery
