import DocumentQuery.Proofs.Endings

/-!
# Signals behind the one that ends an execution

When an execution is ended other signals may be queued already. A driver that takes a completion or
an error from the transport goes through the rest of the queue before it ends, and counts and logs
every signal there. A driver that is stopped by the channel, after a row that could not be decoded
or a cancel, drops the queue without a look. Nobody is ever told of these signals.
-/

namespace DocumentQuery

/-- Whether an event is a signal that could have ended the execution. -/
def StreamEvent.isTerminal : StreamEvent → Bool
  | .response _ => false
  | .failure _ | .completion => true

/-- Whether an effect is about a signal that came too late. -/
def Effect.isLate : Effect → Bool
  | .count c => c = .duplicate
  | .log entry => entry.event = .duplicateIgnored

/-- The effects that are about signals that came too late. -/
def late (effects : List Effect) : List Effect := effects.filter Effect.isLate

section Late

variable {effects : List Effect}

@[simp] lemma late_nil : late [] = [] := rfl

@[simp] lemma late_append (more : List Effect) :
    late (effects ++ more) = late effects ++ late more :=
  List.filter_append ..

lemma late_eq_nil (timely : ∀ effect ∈ effects, effect.isLate = false) : late effects = [] :=
  List.filter_eq_nil_iff.2 fun effect mem => by simp [timely effect mem]

lemma late_lateEffects (id : Nat) (queue : List StreamEvent) :
    late (queue.flatMap (Execution.lateEffects id)) = queue.flatMap (Execution.lateEffects id) := by
  refine List.filter_eq_self.2 fun effect mem => ?_
  obtain ⟨event, -, mem⟩ := List.mem_flatMap.1 mem
  cases event with
  | response batch => cases mem
  | failure e =>
    rcases List.mem_pair.1 mem with rfl | rfl <;> rfl
  | completion =>
    rcases List.mem_pair.1 mem with rfl | rfl <;> rfl

/-- Something is due for every queue with a terminal signal. -/
lemma flatMap_lateEffects_eq_nil (id : Nat) (queue : List StreamEvent) :
    queue.flatMap (Execution.lateEffects id) = [] ↔ ∀ event ∈ queue, event.isTerminal = false := by
  rw [List.flatMap_eq_nil_iff]
  refine forall₂_congr fun event _ => ?_
  cases event <;> simp [Execution.lateEffects, Execution.duplicateEffects, StreamEvent.isTerminal]

end Late

namespace Execution

variable {x y z : Execution} {v : Verdict} {next : AfterFailure} {effects : List Effect}
  {news : List Observation} {left : Option Phase} {w : Winner}

/-- An error of the transport waits for room in the stream, and the queue will be drained. -/
def Draining (x : Execution) : Prop := ∃ e, x.task = .failing e .drain

/-- What is still to be done for the signals in the queue. -/
def due (x : Execution) : List Effect :=
  match x.task with
  | .failing _ .drain => x.channel.queue.flatMap (lateEffects x.id)
  | _ => []

lemma due_of_not_draining (h : ¬x.Draining) : x.due = [] := by
  unfold due
  split
  · exact absurd ⟨_, ‹_›⟩ h
  · rfl

lemma due_of_draining (h : x.Draining) :
    x.due = x.channel.queue.flatMap (lateEffects x.id) := by
  obtain ⟨e, waiting⟩ := h
  rw [due, waiting]

lemma not_draining_of_working (working : Working x.task) : ¬x.Draining := by
  rintro ⟨e, waiting⟩
  rw [waiting] at working
  exact working

lemma not_draining_proceed : ¬(x.proceed next).1.Draining := by
  rintro ⟨e, waiting⟩
  rw [proceed_task] at waiting
  split at waiting <;> cases waiting

lemma late_proceed : late (x.proceed next).2 =
    if next = .drain then x.channel.queue.flatMap (lateEffects x.id) else [] := by
  cases next with
  | drain => exact late_lateEffects _ _
  | leave => rfl
  | listen => rfl

lemma Decides.late_eq (h : x.Decides z v next effects) : late effects = [] := by
  cases h <;> exact late_eq_nil (by simp [failureEffects, entry, Effect.isLate])

lemma Decides.not_draining (h : x.Decides z v next effects) : ¬x.Draining := by
  rintro ⟨e, waiting⟩
  exact h.not_failing waiting

/-- Why a running execution is ended, and what becomes of the queue. -/
lemma Decides.endsFor (h : x.Decides z v next effects) (undecided : x.phase = .streaming) :
    ∃ w, x.EndsFor w ∧ w.verdict x.executionTime = v ∧ (w.isSignal = true ↔ next = .drain) ∧
      (w ≠ .closed → next = .drain ∨ z.channel.cancelled = true) ∧
      (next = .drain → z.channel.queue = x.channel.queue.drop x.taking.length) := by
  cases h with
  | @completion rest listening live first =>
    refine ⟨.completion, .completion listening live first, rfl, by simp [Winner.isSignal], by simp,
      fun _ => ?_⟩
    rw [taking_of_listening listening live, first]
    rfl
  | @failure e rest listening live first =>
    refine ⟨.failure e, .failure listening live first, rfl, by simp [Winner.isSignal], by simp,
      fun _ => ?_⟩
    rw [taking_of_listening listening live, first]
    rfl
  | closed listening live empty senderGone =>
    exact ⟨.closed, .closed listening live empty senderGone, rfl, by simp [Winner.isSignal],
      fun other => absurd rfl other, by simp⟩
  | @undecodable payload rest e delivering _ bad =>
    exact ⟨.undecodable e, .undecodable delivering bad, rfl, by simp [Winner.isSignal],
      fun _ => .inr rfl, by simp⟩
  | cancelled listening signal cancelled =>
    rw [undecided] at cancelled
    cases cancelled

/-- A move that ends an execution has a reason. The signals that are queued behind a signal of the
transport are then drained, at once or when the stream has room; otherwise they never are. -/
structure Move.Ends (x y : Execution) (effects : List Effect) (news : List Observation)
    (w : Winner) : Prop where
  reason : x.EndsFor w
  counted : late effects ++ y.due =
    if w.isSignal then (x.channel.queue.drop x.taking.length).flatMap (lateEffects x.id) else []
  draining : y.Draining → w.isSignal = true
  signal : w ≠ .closed → y.Draining ∨ y.channel.cancelled = true
  agrees : ∀ o ∈ news, o.Agrees (w.verdict x.executionTime)
  waiting : ∀ e next, y.task = .failing e next → w.verdict x.executionTime = .error e
  cancelled : y.phase = .cancelled → w.verdict x.executionTime = .error .cancelled
  prompt : w.isSignal = true → x.isPull ∨ y.task = .ended

/-- The consumer is told at once, and the queue is drained at once if it is. -/
lemma Decides.settled_ends (h : x.Decides z v next effects) (undecided : x.phase = .streaming) :
    ∃ w, Move.Ends x ((z.tell v).proceed next).1 (effects ++ ((z.tell v).proceed next).2)
      (z.told v) w := by
  obtain ⟨w, reason, rfl, drains, signal, queue⟩ := h.endsFor undecided
  refine ⟨w, reason, ?counted, fun draining => absurd draining not_draining_proceed,
    fun other => .inr ?signal, agrees_of_told z _, ?waiting, fun cancelled => ?cancelled,
    fun drain => .inr ?prompt⟩
  case counted =>
    rw [late_append, h.late_eq, late_proceed, due_of_not_draining not_draining_proceed,
      List.nil_append, List.append_nil]
    by_cases drain : next = .drain
    · rw [if_pos drain, if_pos (drains.2 drain), ← queue drain, ← h.id_eq]
      rfl
    · rw [if_neg drain, if_neg (mt drains.1 drain)]
  case signal =>
    rw [proceed_cancelled]
    rcases signal other with drain | cancelled
    · simp [drain]
    · simp [tell, cancelled]
  case waiting =>
    intro e next' waiting
    exact absurd waiting (by rw [proceed_task]; split <;> simp)
  case cancelled =>
    have admits := h.admits
    rw [proceed_phase] at cancelled
    rw [show z.phase = .cancelled from cancelled] at admits
    exact admits
  case prompt => simp [drains.1 drain]

/-- The error has to wait for room in the stream, and so has the queue. -/
lemma Decides.waiting_ends {e : ExecutionError} (h : x.Decides z (.error e) next effects)
    (undecided : x.phase = .streaming) (pull : x.isPull) :
    ∃ w, Move.Ends x { z with task := .failing e next } effects [] w := by
  obtain ⟨w, reason, verdict, drains, signal, queue⟩ := h.endsFor undecided
  have draining : ({ z with task := .failing e next } : Execution).Draining ↔ next = .drain :=
    ⟨fun ⟨_, waiting⟩ => (Task.failing.inj waiting).2, fun drain => ⟨e, by rw [drain]⟩⟩
  refine ⟨w, reason, ?counted, fun waiting => drains.2 (draining.1 waiting),
    fun other => (signal other).imp_left draining.2, List.forall_mem_nil _, ?waiting,
    fun cancelled => ?cancelled, fun _ => .inl pull⟩
  case counted =>
    rw [h.late_eq, List.nil_append]
    by_cases drain : next = .drain
    · rw [due_of_draining (draining.2 drain), if_pos (drains.2 drain), ← queue drain, ← h.id_eq]
    · rw [due_of_not_draining (mt draining.1 drain), if_neg (mt drains.1 drain)]
  case waiting =>
    intro e' next' waiting
    rw [verdict, (Task.failing.inj waiting).1]
  case cancelled =>
    have admits := h.admits
    rw [show z.phase = .cancelled from cancelled] at admits
    exact verdict.trans admits

theorem Move.ends (h : x.Move y effects news) (stands : x.Stands left)
    (undecided : x.phase = .streaming) (decided : y.phase ≠ .streaming) :
    ∃ w, Move.Ends x y effects news w := by
  cases h with
  | leave => exact absurd undecided decided
  | response => exact absurd undecided decided
  | skip => exact absurd undecided decided
  | decode => exact absurd undecided decided
  | hand => exact absurd undecided decided
  | handCancelled offering live _ cancels =>
    exact ⟨.cancel, .cancel offering live cancels, rfl,
      fun draining => absurd draining (not_draining_of_working trivial), fun _ => .inr rfl,
      List.forall_mem_singleton.2 trivial, nofun, fun _ => rfl, nofun⟩
  | lose offering live _ gone =>
    exact ⟨.gone, .gone offering live gone, rfl,
      fun draining => absurd draining (not_draining_of_working trivial), fun _ => .inr rfl,
      List.forall_mem_nil _, nofun, fun _ => rfl, nofun⟩
  | settle attached decides prompt => exact decides.settled_ends undecided
  | await attached decides pull => exact decides.waiting_ends undecided pull
  | report waiting => exact absurd undecided (stands.decided_of_failing waiting)
  | refuse waiting => exact absurd undecided (stands.decided_of_failing waiting)

/-! ### What a driver does after that -/

/-- What the driver of an ended execution does for late signals was due, and is no longer. -/
lemma Move.late_eq (h : x.Move y effects news) (stands : x.Stands left)
    (decided : x.phase ≠ .streaming) :
    late effects ++ y.due = x.due ∧ (y.Draining → x.Draining) := by
  have reported {u : Execution} {e : ExecutionError} {next : AfterFailure}
      (waiting : x.task = .failing e next) (channel : u.channel = x.channel) (id : u.id = x.id) :
      late (u.proceed next).2 ++ (u.proceed next).1.due = x.due := by
    rw [late_proceed, due_of_not_draining not_draining_proceed, List.append_nil, channel, id]
    by_cases drain : next = .drain
    · rw [if_pos drain, due_of_draining ⟨e, by rw [waiting, drain]⟩]
    · rw [if_neg drain, due_of_not_draining]
      rintro ⟨e', again⟩
      rw [waiting] at again
      exact drain (Task.failing.inj again).2
  have idle (before : ¬x.Draining) (silent : late effects = []) (after : ¬y.Draining) :
      late effects ++ y.due = x.due ∧ (y.Draining → x.Draining) := by
    rw [silent, due_of_not_draining before, due_of_not_draining after]
    exact ⟨rfl, fun draining => absurd draining after⟩
  cases h with
  | leave listening =>
    refine idle (not_draining_of_working (by rw [listening]; trivial)) rfl ?_
    rintro ⟨e, waiting⟩
    cases waiting
  | response listening live first undecided => exact absurd undecided decided
  | skip busy working =>
    exact idle (not_draining_of_working working) rfl (not_draining_of_working trivial)
  | decode delivering undecided => exact absurd undecided decided
  | hand offering live => exact absurd (stands.offering_live offering live).1 decided
  | handCancelled offering live undecided => exact absurd undecided decided
  | lose offering live undecided => exact absurd undecided decided
  | settle attached decides prompt =>
    obtain ⟨-, -, rfl, -⟩ := decides.of_decided decided
    refine idle decides.not_draining ?_ not_draining_proceed
    rw [late_append, decides.late_eq, late_proceed]
    rfl
  | await attached decides pull =>
    obtain ⟨-, -, rfl, -⟩ := decides.of_decided decided
    refine idle decides.not_draining decides.late_eq ?_
    rintro ⟨e, waiting⟩
    cases waiting
  | report waiting pull accepting room =>
    exact ⟨reported waiting rfl rfl, fun draining => absurd draining not_draining_proceed⟩
  | refuse waiting pull closed =>
    exact ⟨reported waiting rfl rfl, fun draining => absurd draining not_draining_proceed⟩

/-- The channel is cancelled for good, at the latest when the queue has been drained. -/
lemma Move.signal (h : x.Move y effects news) (decided : x.phase ≠ .streaming)
    (signal : x.Draining ∨ x.channel.cancelled = true) :
    y.Draining ∨ y.channel.cancelled = true := by
  have kept (same : y.channel.cancelled = x.channel.cancelled) (before : ¬x.Draining) :
      y.Draining ∨ y.channel.cancelled = true := .inr (same.trans (signal.resolve_left before))
  have reported {u : Execution} {e : ExecutionError} {next : AfterFailure}
      (waiting : x.task = .failing e next) (channel : u.channel = x.channel) :
      (u.proceed next).1.channel.cancelled = true := by
    rw [proceed_cancelled, channel]
    rcases signal with ⟨e', again⟩ | cancelled
    · rw [waiting] at again
      simp [(Task.failing.inj again).2]
    · simp [cancelled]
  cases h with
  | leave listening => exact kept rfl (not_draining_of_working (by rw [listening]; trivial))
  | response listening live first undecided => exact absurd undecided decided
  | skip busy working => exact kept rfl (not_draining_of_working working)
  | decode delivering undecided => exact absurd undecided decided
  | hand offering => exact kept rfl (not_draining_of_working (by rw [offering]; trivial))
  | handCancelled offering live undecided => exact absurd undecided decided
  | lose offering live undecided => exact absurd undecided decided
  | settle attached decides prompt =>
    obtain ⟨rfl, -, rfl, -⟩ := decides.of_decided decided
    exact kept rfl decides.not_draining
  | await attached decides pull =>
    obtain ⟨rfl, -, rfl, -⟩ := decides.of_decided decided
    exact kept rfl decides.not_draining
  | report waiting => exact .inr (reported waiting rfl)
  | refuse waiting => exact .inr (reported waiting rfl)

/-- Once an execution has ended, or in the step that ends it, no row counts as received. -/
lemma Move.raised_rows (h : x.Move y effects news) (decided : y.phase ≠ .streaming) :
    raised .rows effects = 0 := by
  cases h with
  | leave => rfl
  | response listening live first undecided => exact absurd undecided decided
  | skip => rfl
  | decode delivering undecided => exact absurd undecided decided
  | hand => rfl
  | handCancelled => rfl
  | lose => rfl
  | settle attached decides prompt =>
    rw [raised_append, decides.raised_rows, raised_proceed (by decide)]
  | await attached decides pull => exact decides.raised_rows
  | report => exact raised_proceed (by decide)
  | refuse => exact raised_proceed (by decide)

end Execution

/-! ### Sessions -/

/-- The events that a transport offers in an action. -/
def Action.sent : Action → List StreamEvent
  | .send event => [event]
  | _ => []

namespace Session

open Execution

variable {s : Session} {told : List Observation} {database : String} {w : Winner}

/-- What the driver does to the counters and the log in actions, one after another. -/
def emissions (s : Session) : List Action → List Effect
  | [] => []
  | action :: rest => s.emitted action ++ (s.act action).emissions rest

/-- What is in the queue behind the event that the driver takes in an action, if it takes one. -/
def behind (s : Session) : Action → List StreamEvent
  | .drive => s.execution.channel.queue.drop s.execution.taking.length
  | _ => s.execution.channel.queue

lemma send_queue (c : Channel) (event : StreamEvent) :
    ∃ added, added.Sublist [event] ∧ (c.send event).2.queue = c.queue ++ added := by
  unfold Channel.send
  split
  · exact ⟨[], List.nil_sublist _, (List.append_nil _).symm⟩
  · split
    · exact ⟨[event], List.Sublist.refl _, rfl⟩
    · exact ⟨[], List.nil_sublist _, (List.append_nil _).symm⟩

/-- What parties other than the driver add to the queue. -/
lemma act_queue {action : Action} (other : action ≠ .drive) :
    ∃ added, added.Sublist action.sent ∧
      (s.act action).execution.channel.queue = s.execution.channel.queue ++ added := by
  have same {c : Channel} (queue : c.queue = s.execution.channel.queue) :
      ∃ added, added.Sublist action.sent ∧ c.queue = s.execution.channel.queue ++ added :=
    ⟨[], List.nil_sublist _, by rw [queue, List.append_nil]⟩
  cases action with
  | send event =>
    rw [act]
    split
    · exact send_queue s.execution.channel event
    · exact same rfl
  | close => exact same rfl
  | drive => exact absurd rfl other
  | poll => exact same (congrArg Channel.queue s.poll_aside.channel)
  | cancel =>
    refine same ?_
    rw [act, cancel, Execution.cancel]
    split <;> rfl
  | drop => exact same (congrArg Channel.queue s.drop_aside.channel)
  | abort => exact same rfl

/-! ### After the end -/

/-- In an action after the end, what is done for late signals was due before, or it becomes due
because the transport adds to a queue that will be drained. -/
lemma late_act (upheld : s.Upheld told) (decided : s.execution.phase ≠ .streaming)
    (action : Action) :
    ∃ added, added.Sublist action.sent ∧ (¬s.execution.Draining → added = []) ∧
      late (s.emitted action) ++ (s.act action).execution.due =
        s.execution.due ++ added.flatMap (lateEffects s.execution.id) ∧
      ((s.act action).execution.Draining → s.execution.Draining) := by
  by_cases drive : action = .drive
  · subst drive
    refine ⟨[], List.nil_sublist _, fun _ => rfl, ?_⟩
    rw [List.flatMap_nil, List.append_nil, act]
    rcases driven upheld with ⟨stuck, nothing⟩ | ⟨y, news, left, driven, move⟩
    · rw [stuck, nothing]
      exact ⟨rfl, id⟩
    · rw [driven]
      exact move.late_eq upheld.stands decided
  · have task := act_task (s := s) drive
    have draining : (s.act action).execution.Draining ↔ s.execution.Draining := by
      rw [Draining, Draining, task]
    obtain ⟨added, sent, queue⟩ := act_queue (s := s) drive
    by_cases waiting : s.execution.Draining
    · refine ⟨added, sent, fun idle => absurd waiting idle, ?_, draining.1⟩
      rw [emitted_of_ne drive, due_of_draining (draining.2 waiting), due_of_draining waiting, queue,
        act_id upheld, late_nil, List.nil_append, List.flatMap_append]
    · refine ⟨[], List.nil_sublist _, fun _ => rfl, ?_, draining.1⟩
      rw [emitted_of_ne drive, due_of_not_draining (mt draining.1 waiting),
        due_of_not_draining waiting]
      rfl

lemma late_run (follows : s.Follows database told) (upheld : s.Upheld told)
    (decided : s.execution.phase ≠ .streaming) (actions : List Action) :
    ∃ added, added.Sublist (actions.flatMap Action.sent) ∧
      (¬s.execution.Draining → added = []) ∧
      late (s.emissions actions) ++ (s.run actions).execution.due =
        s.execution.due ++ added.flatMap (lateEffects s.execution.id) := by
  induction actions generalizing s told with
  | nil => exact ⟨[], List.nil_sublist _, fun _ => rfl, (List.append_nil _).symm⟩
  | cons action rest ih =>
    obtain ⟨told', upheld', follows'⟩ := follows.act upheld action
    obtain ⟨first, sent, quiet, due, draining⟩ := late_act upheld decided action
    have phase := phase_act upheld action decided
    obtain ⟨more, sent', quiet', due'⟩ := ih follows' upheld' (by rw [phase]; exact decided)
    refine ⟨first ++ more, sent.append sent', fun idle => ?_, ?_⟩
    · rw [quiet idle, quiet' (mt draining idle), List.nil_append]
    · have later : s.run (action :: rest) = (s.act action).run rest := rfl
      rw [emissions, later, late_append, List.append_assoc, due', act_id upheld,
        ← List.append_assoc, due, List.append_assoc, List.flatMap_append]

lemma rows_act (upheld : s.Upheld told) {action : Action}
    (decided : (s.act action).execution.phase ≠ .streaming) :
    raised .rows (s.emitted action) = 0 := by
  by_cases drive : action = .drive
  · subst drive
    rw [act] at decided
    rcases driven upheld with ⟨-, nothing⟩ | ⟨y, news, left, driven, move⟩
    · rw [nothing, raised_nil]
    · rw [driven] at decided
      exact move.raised_rows decided
  · rw [emitted_of_ne drive, raised_nil]

/-- After the end no row counts as received. -/
lemma rows_run (follows : s.Follows database told) (upheld : s.Upheld told)
    (decided : s.execution.phase ≠ .streaming) (actions : List Action) :
    raised .rows (s.emissions actions) = 0 := by
  induction actions generalizing s told with
  | nil => rfl
  | cons action rest ih =>
    obtain ⟨told', upheld', follows'⟩ := follows.act upheld action
    have decided' : (s.act action).execution.phase ≠ .streaming := by
      rw [phase_act upheld action decided]
      exact decided
    rw [emissions, raised_append, rows_act upheld decided', ih follows' upheld' decided']

lemma signal_act (upheld : s.Upheld told) (decided : s.execution.phase ≠ .streaming)
    (signal : s.execution.Draining ∨ s.execution.channel.cancelled = true) (action : Action) :
    (s.act action).execution.Draining ∨ (s.act action).execution.channel.cancelled = true := by
  have acted := acted upheld action
  generalize s.act action = t at acted
  cases acted with
  | outside c kept quiet => exact signal.imp_right kept
  | moved left move => exact move.signal decided signal
  | polled =>
    rw [Draining, s.poll_aside.task, s.poll_aside.channel]
    exact signal
  | refused => exact signal
  | won undecided => exact absurd undecided decided
  | dropped =>
    rw [Draining, s.drop_aside.task, s.drop_aside.channel]
    exact signal

lemma signal_run (follows : s.Follows database told) (upheld : s.Upheld told)
    (decided : s.execution.phase ≠ .streaming)
    (signal : s.execution.Draining ∨ s.execution.channel.cancelled = true) (actions : List Action) :
    (s.run actions).execution.Draining ∨ (s.run actions).execution.channel.cancelled = true := by
  refine (follows.keeps upheld (p := fun t => t.execution.phase ≠ .streaming ∧
    (t.execution.Draining ∨ t.execution.channel.cancelled = true)) ?_ ⟨decided, signal⟩ actions).2
  rintro t told action upheld ⟨decided, signal⟩
  refine ⟨?_, signal_act upheld decided signal action⟩
  rw [phase_act upheld action decided]
  exact decided

/-! ### The action that ends an execution -/

/-- What an action that ends a running execution comes to. -/
structure Ended (s : Session) (action : Action) (w : Winner) : Prop where
  wins : s.Wins action w
  counted : late (s.emitted action) ++ (s.act action).execution.due =
    if w.isSignal then (s.behind action).flatMap (lateEffects s.execution.id) else []
  draining : (s.act action).execution.Draining → w.isSignal = true
  signal : w ≠ .closed →
    (s.act action).execution.Draining ∨ (s.act action).execution.channel.cancelled = true
  bears : s.left = none → ∃ told, (s.act action).Upheld told ∧
    (s.act action).Bears told (w.verdict s.execution.executionTime)
  prompt : w.isSignal = true → s.execution.isPull ∨ (s.act action).execution.task = .ended

lemma Upheld.ended_drive (upheld : s.Upheld told) (undecided : s.execution.phase = .streaming)
    (decided : s.drive.execution.phase ≠ .streaming) : ∃ w, s.Ended .drive w := by
  rcases driven upheld with ⟨stuck, -⟩ | ⟨y, news, left, driven, move⟩
  · rw [stuck] at decided
    exact absurd undecided decided
  · rw [driven] at decided
    have act : s.act .drive = s.after y := driven
    obtain ⟨w, ends⟩ := move.ends upheld.stands undecided decided
    refine ⟨w, .driver ends.reason, ?_, ?_, ?_, fun _ => ?_, ?_⟩ <;> rw [act]
    · exact ends.counted
    · exact ends.draining
    · exact ends.signal
    · obtain ⟨rows, seen⟩ := upheld.only_rows undecided left
      exact ⟨_, upheld.after left move, bears_after upheld left move decided
        (agrees_of_onlyRows rows) (agrees_of_onlyRows seen) ends.agrees ends.waiting
        ends.cancelled⟩
    · exact ends.prompt

lemma Upheld.ended_cancel (upheld : s.Upheld told) (undecided : s.execution.phase = .streaming) :
    s.Ended .cancel .cancel := by
  have idle : ¬s.cancel.execution.Draining := by
    rintro ⟨e, waiting⟩
    rw [cancel_eq_of_undecided undecided] at waiting
    exact absurd undecided (upheld.stands.decided_of_failing waiting)
  refine ⟨.caller, ?_, fun draining => absurd draining idle, fun _ => .inr ?_, fun left => ?_,
    nofun⟩
  · exact due_of_not_draining idle
  · rw [act, cancel_eq_of_undecided undecided]
    rfl
  · obtain ⟨rows, seen⟩ := upheld.only_rows undecided left
    refine ⟨told, upheld.cancel, ?_, ?_, agrees_of_onlyRows rows, ?_, ?_, fun _ => rfl⟩
    · rw [act, cancel_eq_of_undecided undecided]
      simp
    · rw [act, cancel_eq_of_undecided undecided, left]
      simp
    · rw [act, seen_cancel]
      exact agrees_of_onlyRows seen
    · intro e next waiting
      rw [act, cancel_eq_of_undecided undecided] at waiting
      exact absurd undecided (upheld.stands.decided_of_failing waiting)

/-- Whatever ends a running execution is one of the winners. -/
theorem Upheld.ended (upheld : s.Upheld told) (undecided : s.execution.phase = .streaming)
    {action : Action} (decided : (s.act action).execution.phase ≠ .streaming) :
    ∃ w, s.Ended action w := by
  by_cases drive : action = .drive
  · subst drive
    exact upheld.ended_drive undecided decided
  · by_cases cancel : action = .cancel
    · subst cancel
      exact ⟨.cancel, upheld.ended_cancel undecided⟩
    · rw [phase_of_ne upheld drive cancel] at decided
      exact absurd undecided decided

/-! ### Late signals -/

/-- From the winner of an action on, nothing of what is behind it in the queue is delivered. -/
structure Undelivered (s : Session) (action : Action) (w : Winner) (more : List Action) : Prop where
  /-- Rows that are queued do not count as received. -/
  rows : raised .rows (s.emissions (action :: more)) = 0
  /-- The consumer sees rows and at most one outcome, and this is the one of the winner. -/
  told : s.left = none →
    (OnlyRows (s.run (action :: more)).seen ∨
      OneOutcome s.execution.consumer.mode (s.run (action :: more)).execution.phase
        (s.run (action :: more)).seen) ∧
    ∀ o ∈ (s.run (action :: more)).seen, o.Agrees (w.verdict s.execution.executionTime)
  /-- If the driver had ended before, nobody tells the consumer anything. -/
  untold : s.left ≠ none → ∀ o ∈ (s.run (action :: more)).seen, o.Untold

/-- What has become of the signals behind the winner of an action when the driver has ended. -/
structure LateSignals (s : Session) (action : Action) (w : Winner) (more : List Action) : Prop where
  /-- Every signal that is queued when the winner takes effect is counted and logged, in the order
  of the queue, and so is what still comes to the queue until it is drained. -/
  counted : (∃ added, added.Sublist (more.flatMap Action.sent) ∧
      late (s.emissions (action :: more)) =
        (s.behind action ++ added).flatMap (lateEffects s.execution.id)) ↔
    w.isSignal = true ∨ ∀ event ∈ s.behind action, event.isTerminal = false
  /-- A winner that is no signal of the transport leaves the queue unaccounted for. -/
  dropped : w.isSignal = false → late (s.emissions (action :: more)) = []
  cancelled : w ≠ .closed → (s.run (action :: more)).execution.channel.cancelled = true

section Late

variable {action : Action} (h : s.Ended action w) (upheld : s.Upheld told)
  (follows : s.Follows database told) (decided : (s.act action).execution.phase ≠ .streaming)
  {more : List Action}
include h upheld follows decided

lemma Ended.undelivered (deserted : s.Deserted) (undecided : s.execution.phase = .streaming) :
    s.Undelivered action w more := by
  obtain ⟨told', upheld', follows'⟩ := follows.act upheld action
  refine ⟨?_, fun left => ?_, fun gone => ?_⟩
  · rw [emissions, raised_append, rows_act upheld decided, rows_run follows' upheld' decided]
  · obtain ⟨told₁, upheld₁, bears₁⟩ := h.bears left
    obtain ⟨told₂, upheld₂, bears₂⟩ := bears₁.run upheld₁ more
    refine ⟨?_, bears₂.seen⟩
    rw [← (follows.fixed_run upheld (action :: more)).1]
    exact bears₂.outcome upheld₂
  · have abandoned := upheld.stands.left_of_undecided undecided gone
    exact untold_run deserted upheld follows abandoned _

lemma Ended.lateSignals (ended : (s.run (action :: more)).execution.task = .ended) :
    s.LateSignals action w more := by
  obtain ⟨told', upheld', follows'⟩ := follows.act upheld action
  have final : s.run (action :: more) = (s.act action).run more := rfl
  have stopped : ¬(s.run (action :: more)).execution.Draining := by
    rintro ⟨e, waiting⟩
    rw [ended] at waiting
    cases waiting
  obtain ⟨added, sent, quiet, due⟩ := late_run follows' upheld' decided more
  rw [← final, due_of_not_draining stopped, List.append_nil, act_id upheld] at due
  have all : late (s.emissions (action :: more)) =
      (if w.isSignal then (s.behind action).flatMap (lateEffects s.execution.id) else []) ++
        added.flatMap (lateEffects s.execution.id) := by
    rw [emissions, late_append, due, ← List.append_assoc, h.counted]
  have dropped (other : w.isSignal = false) : late (s.emissions (action :: more)) = [] := by
    have idle : added = [] := quiet fun draining => by simp [h.draining draining] at other
    rw [all, idle, other]
    rfl
  refine ⟨⟨fun ⟨added', sent', counted⟩ => ?_, fun cases => ?_⟩, dropped, fun other => ?_⟩
  · cases signal : w.isSignal with
    | true => exact .inl rfl
    | false =>
      right
      rw [dropped signal, List.flatMap_append] at counted
      have silent := (List.append_eq_nil_iff.1 counted.symm).1
      exact (flatMap_lateEffects_eq_nil s.execution.id _).1 silent
  · cases signal : w.isSignal with
    | true => exact ⟨added, sent, by rw [all, signal, if_pos rfl, List.flatMap_append]⟩
    | false =>
      have silent := cases.resolve_left (by simp [signal])
      refine ⟨[], List.nil_sublist _, ?_⟩
      rw [dropped signal, List.append_nil, (flatMap_lateEffects_eq_nil s.execution.id _).2 silent]
  · exact (signal_run follows' upheld' decided (h.signal other) more).resolve_left stopped

end Late

/-- Late signals are counted and logged exactly if the winner is a signal of the transport, or none
is late. Whatever the winner, the consumer is told of it only, and no further row is received. -/
theorem late_signals_counted_iff (id : Nat) (database : String) (pipeline : Pipeline)
    (capacity : Nat) (streamBuffer : UInt64) (mode : DeliveryMode) (actions : List Action) :
    let s := (start id database pipeline capacity streamBuffer mode).run actions
    s.execution.phase = .streaming → ∀ action, (s.act action).execution.phase ≠ .streaming →
      ∃ w, s.Wins action w ∧
        (w.isSignal = true → mode = .pull ∨ (s.act action).execution.task = .ended) ∧
        ∀ more, s.Undelivered action w more ∧
          ((s.run (action :: more)).execution.task = .ended → s.LateSignals action w more) := by
  intro s undecided action decided
  have begun := follows_start id database pipeline capacity streamBuffer mode
  have begun' := upheld_start id database pipeline capacity streamBuffer mode
  obtain ⟨told, upheld, follows⟩ := begun.run begun' actions
  have deserted : s.Deserted := begun.keeps begun' (fun _ _ action upheld h => h.act upheld action)
    (deserted_start id database pipeline capacity streamBuffer mode) actions
  obtain ⟨w, h⟩ := upheld.ended undecided decided
  refine ⟨w, h.wins, fun signal => (h.prompt signal).imp_left fun pull => ?_,
    fun more => ⟨h.undelivered upheld follows decided deserted undecided,
      h.lateSignals upheld follows decided⟩⟩
  have kind := (begun.fixed_run begun' actions).1
  rw [isPull, show s.execution.consumer.mode = _ from kind] at pull
  cases mode <;> first | rfl | cases pull

/-- A completion and an error are queued behind the completion that wins. -/
theorem late_signals_counted_after_completion :
    let s := (start 0 "" ⟨none, []⟩ 3 1 .buffer).run
      [.send .completion, .send .completion, .send (.failure .streamClosed)]
    s.execution.phase = .streaming ∧ (s.act .drive).execution.phase ≠ .streaming ∧
      (s.run [.drive]).execution.task = .ended ∧
      ∃ w, s.Wins .drive w ∧ s.Undelivered .drive w [] ∧ s.LateSignals .drive w [] := by
  intro s
  have decided : (s.act .drive).execution.phase ≠ .streaming := by decide
  obtain ⟨w, wins, -, signals⟩ :=
    late_signals_counted_iff 0 "" ⟨none, []⟩ 3 1 .buffer _ rfl .drive decided
  exact ⟨rfl, decided, rfl, w, wins, (signals []).1, (signals []).2 rfl⟩

/-- A completion is queued behind a cancel, or behind a row that cannot be decoded, and nothing
becomes of it. -/
theorem late_signals_dropped :
    let running := (start 0 "" ⟨none, []⟩ 1 1 .buffer).run [.send .completion]
    let delivering := (start 0 "" ⟨none, []⟩ 2 1 .buffer).run
      [.send (.response { rows := [{ name := some "books" }] }), .send .completion, .drive]
    ((running.act .cancel).execution.phase = .cancelled ∧
      running.behind .cancel = [.completion] ∧
      (running.run [.cancel, .drive]).execution.task = .ended ∧
      late (running.emissions [.cancel, .drive]) = []) ∧
    (delivering.act .drive).execution.phase = .failed ∧
      delivering.behind .drive = [.completion] ∧
      (delivering.run [.drive, .drive]).execution.task = .ended ∧
      late (delivering.emissions [.drive, .drive]) = [] :=
  ⟨⟨rfl, rfl, rfl, rfl⟩, rfl, rfl, rfl, rfl⟩

end Session

end DocumentQuery
