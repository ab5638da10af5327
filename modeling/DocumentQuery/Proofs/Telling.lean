import DocumentQuery.Proofs.DriverStep

/-!
# What a step tells each kind of consumer

A subscriber is called once for everything it is told, the place of an answer keeps rows until the
answer comes, and a stream queues what it is told. Once something has been accepted the phase stays,
and once the driver has let go of the consumer it tells it nothing more.
-/

namespace DocumentQuery

namespace Consumer

@[simp] lemma told_tell (p : Pipeline) (c : Consumer) (v : Verdict) :
    (c.tell p v).told p v = c.told p v := by
  cases c <;> cases v <;> rfl

lemma signals_of_mode {c : Consumer} (noPush : ∀ n, c.mode ≠ .push n) : c.signals = [] := by
  cases c with
  | push signals n => exact absurd rfl (noPush n)
  | buffer slot => rfl
  | pull stream => rfl

end Consumer

namespace Execution

variable {x y z : Execution} {v : Verdict} {next : AfterFailure} {effects : List Effect}
  {news : List Observation} {left : Option Phase}

lemma Decides.phase_eq (h : x.Decides z v next effects) (decided : x.phase ≠ .streaming) :
    z.phase = x.phase := by
  cases h with
  | completion listening live first undecided => exact absurd undecided decided
  | failure listening live first undecided => exact absurd undecided decided
  | closed listening live empty senderGone undecided => exact absurd undecided decided
  | undecodable delivering undecided => exact absurd undecided decided
  | cancelled => rfl

/-- What has been accepted stays accepted. -/
theorem Move.phase_eq (h : x.Move y effects news) (decided : x.phase ≠ .streaming) :
    y.phase = x.phase := by
  cases h with
  | leave => rfl
  | response listening live first undecided => exact absurd undecided decided
  | skip => rfl
  | decode => rfl
  | hand => rfl
  | handCancelled offering live undecided => exact absurd undecided decided
  | lose offering live undecided => exact absurd undecided decided
  | settle attached decides prompt =>
    rw [proceed_phase]
    exact decides.phase_eq decided
  | await attached decides pull => exact decides.phase_eq decided
  | report => exact proceed_phase
  | refuse => exact proceed_phase

/-- While the driver tells the consumer something it holds on to it. -/
theorem Move.attached_of_news (h : x.Move y effects news) (stands : x.Stands left)
    (told : news ≠ []) : x.attached = true := by
  cases h with
  | leave => exact absurd rfl told
  | response => exact absurd rfl told
  | skip => exact absurd rfl told
  | decode => exact absurd rfl told
  | hand offering live takes => exact (stands.offering_live offering live).2
  | handCancelled offering live undecided cancels => exact (stands.offering_live offering live).2
  | lose => exact absurd rfl told
  | settle attached decides prompt => exact attached
  | await => exact absurd rfl told
  | report waiting pull accepting room => exact (stands.failing waiting).1
  | refuse => exact absurd rfl told

lemma Move.attached_of (h : x.Move y effects news) (attached : y.attached = true) :
    x.attached = true := by
  cases h with
  | leave => cases attached
  | response => exact attached
  | skip => exact attached
  | decode => exact attached
  | hand => exact attached
  | handCancelled => exact attached
  | lose => cases attached
  | settle attached' decides prompt => exact attached'
  | await attached' decides pull => exact attached'
  | report => rw [proceed_attached] at attached; cases attached
  | refuse => rw [proceed_attached] at attached; cases attached

/-- What is told by a move after which the driver still holds on to the consumer, or which leaves
everything open, is a row or nothing. -/
lemma Move.news_rows (h : x.Move y effects news) (stands : x.Stands left)
    (open_ : y.attached = true ∨ y.phase = .streaming) : news = [] ∨ ∃ row, news = [.row row] := by
  cases h with
  | leave => exact .inl rfl
  | response => exact .inl rfl
  | skip => exact .inl rfl
  | decode => exact .inl rfl
  | hand => exact .inr ⟨_, rfl⟩
  | handCancelled => exact .inr ⟨_, rfl⟩
  | lose => exact .inl rfl
  | settle attached decides prompt =>
    rw [proceed_attached] at open_
    exact absurd (open_.resolve_left (by simp)) (proceed_phase_ne decides.phase_ne)
  | await => exact .inl rfl
  | report waiting pull accepting room =>
    rw [proceed_attached] at open_
    have decided := stands.decided_of_failing waiting
    exact absurd (open_.resolve_left (by simp)) (proceed_phase_ne decided)
  | refuse => exact .inl rfl

lemma Move.detached (h : x.Move y effects news) (detached : x.attached = false) :
    y.attached = false := by
  cases attached : y.attached with
  | true => exact absurd (h.attached_of attached) (ne_true_of_eq_false detached)
  | false => rfl

lemma Decides.not_failing (h : x.Decides z v next effects) {e : ExecutionError}
    {next' : AfterFailure} : x.task ≠ .failing e next' := by
  cases h with
  | completion listening => simp [listening]
  | failure listening => simp [listening]
  | closed listening => simp [listening]
  | undecodable delivering => simp [delivering]
  | cancelled listening => simp [listening]

/-- An error that waits for room is reported, unless the stream takes no more items. -/
theorem Move.of_failing {e : ExecutionError} (h : x.Move y effects news)
    (waiting : x.task = .failing e next) :
    x.isPull ∧ y = ((x.tell (.error e)).proceed next).1 ∧ news = [.failure e] ∨
      ∃ stream, x.consumer = .pull stream ∧ stream.accepting = false := by
  cases h with
  | leave listening => rw [waiting] at listening; cases listening
  | response listening => rw [waiting] at listening; cases listening
  | skip busy working => rw [waiting] at working; exact working.elim
  | decode delivering => rw [waiting] at delivering; cases delivering
  | hand offering => rw [waiting] at offering; cases offering
  | handCancelled offering => rw [waiting] at offering; cases offering
  | lose offering => rw [waiting] at offering; cases offering
  | settle attached decides prompt => exact absurd waiting decides.not_failing
  | await attached decides pull => exact absurd waiting decides.not_failing
  | report waiting' pull accepting room =>
    rw [waiting] at waiting'
    cases waiting'
    exact .inl ⟨by rw [isPull, pull]; rfl, rfl, rfl⟩
  | refuse waiting' pull closed => exact .inr ⟨_, pull, closed⟩

/-! ### Subscribers -/

/-- The calls of a subscriber in one step: it cancels in none of them, or it has a row and cancels
the execution, which nothing had ended before. -/
inductive Calls (x y : Execution) : List PushSignal → Prop where
  | quiet {new} (uncancelled : ∀ row won, .next row (some won) ∉ new) : Calls x y new
  | cancels (row : Row) (undecided : x.phase = .streaming) (cancelled : y.phase = .cancelled) :
      Calls x y [.next row (some true)]

/-- A subscriber is called for what it is told. -/
theorem Move.push {signals : List PushSignal} {n : Option Nat} (h : x.Move y effects news)
    (consumer : x.consumer = .push signals n) :
    ∃ new, y.consumer = .push (signals ++ new) n ∧ news = new.map PushSignal.observation ∧
      Calls x y new := by
  have quiet (same : y.consumer = x.consumer) (silent : news = []) :
      ∃ new, y.consumer = .push (signals ++ new) n ∧ news = new.map PushSignal.observation ∧
        Calls x y new :=
    ⟨[], by rw [same, consumer, List.append_nil], silent, .quiet (by simp)⟩
  cases h with
  | leave => exact quiet rfl rfl
  | response => exact quiet rfl rfl
  | skip => exact quiet rfl rfl
  | decode => exact quiet rfl rfl
  | hand offering live takes =>
    rw [consumer] at takes
    cases takes
    exact ⟨[.next _ none], rfl, rfl, .quiet (by simp)⟩
  | handCancelled offering live undecided cancels =>
    rw [consumer] at cancels
    cases cancels
    exact ⟨[.next _ (some true)], rfl, rfl, .cancels _ undecided rfl⟩
  | lose => exact quiet rfl rfl
  | @settle z v next effects attached decides prompt =>
    have kept : z.consumer = .push signals n := decides.consumer_eq.trans consumer
    rw [proceed_consumer, tell, told, kept]
    cases v with
    | error e => exact ⟨[.failed e], rfl, rfl, .quiet (by simp)⟩
    | ok t => exact ⟨[.completed t], rfl, rfl, .quiet (by simp)⟩
  | await attached decides pull => exact quiet decides.consumer_eq rfl
  | report waiting pull => rw [consumer] at pull; cases pull
  | refuse waiting pull => rw [consumer] at pull; cases pull

/-- All that a subscriber is told after a cancel is the cancel. -/
lemma Move.news_cancelled {signals : List PushSignal} {n : Option Nat} (h : x.Move y effects news)
    (stands : x.Stands left) (consumer : x.consumer = .push signals n)
    (cancelled : x.phase = .cancelled) : news = [] ∨ news = [.failure .cancelled] := by
  cases h with
  | leave => exact .inl rfl
  | response => exact .inl rfl
  | skip => exact .inl rfl
  | decode => exact .inl rfl
  | hand offering live takes =>
    rw [(stands.offering_live offering live).1] at cancelled
    cases cancelled
  | handCancelled offering live undecided => rw [undecided] at cancelled; cases cancelled
  | lose => exact .inl rfl
  | @settle z v next effects attached decides prompt =>
    have phase : z.phase = .cancelled := (decides.phase_eq (by simp [cancelled])).trans cancelled
    have admits := decides.admits
    rw [phase] at admits
    cases admits
    rw [told, decides.consumer_eq, consumer]
    exact .inr rfl
  | await => exact .inl rfl
  | report waiting pull => rw [consumer] at pull; cases pull
  | refuse => exact .inl rfl

/-! ### Places of answers -/

/-- The place of an answer that somebody waits for: it keeps rows until the answer comes, with which
the driver lets go. -/
inductive Noted (y : Execution) (slot : AnswerSlot) : List Observation → Prop where
  | nothing (same : y.consumer = .buffer slot) : Noted y slot []
  | row (r : Row) (collected : y.consumer = .buffer (slot.collect r)) : Noted y slot [.row r]
  | answer (a : Except ExecutionError Snapshot) (detached : y.attached = false)
      (resolved : y.consumer = .buffer { slot with answer := some a }) :
      Noted y slot [.ofAnswer a]

theorem Move.buffer {slot : AnswerSlot} (h : x.Move y effects news)
    (consumer : x.consumer = .buffer slot) (awaited : slot.awaited = true) :
    y.Noted slot news := by
  cases h with
  | leave => exact .nothing consumer
  | response => exact .nothing consumer
  | skip => exact .nothing consumer
  | decode => exact .nothing consumer
  | hand offering live takes =>
    rw [consumer] at takes
    cases takes
    exact .row _ rfl
  | handCancelled offering live undecided cancels => rw [consumer] at cancels; cases cancels
  | lose => exact .nothing consumer
  | @settle z v next effects attached decides prompt =>
    have kept : z.consumer = .buffer slot := decides.consumer_eq.trans consumer
    rw [told, kept, Consumer.told, if_pos awaited]
    refine .answer _ proceed_attached ?_
    rw [proceed_consumer, tell, kept, Consumer.tell, AnswerSlot.resolve, if_pos awaited]
  | await attached decides pull => exact .nothing (decides.consumer_eq.trans consumer)
  | report waiting pull => rw [consumer] at pull; cases pull
  | refuse waiting pull => rw [consumer] at pull; cases pull

/-! ### Streams -/

/-- A stream queues what it is told, as long as it accepts items. -/
inductive Queued (y : Execution) (stream : RowStream) : List Observation → Prop where
  | nothing (same : y.consumer = .pull stream) : Queued y stream []
  | item (i : Except ExecutionError Row) (accepting : stream.accepting = true)
      (room : stream.isFull = false) (queued : y.consumer = .pull (stream.enqueue i)) :
      Queued y stream [.ofItem i]

theorem Move.pull {stream : RowStream} (h : x.Move y effects news)
    (consumer : x.consumer = .pull stream) : y.Queued stream news := by
  cases h with
  | leave => exact .nothing consumer
  | response => exact .nothing consumer
  | skip => exact .nothing consumer
  | decode => exact .nothing consumer
  | hand offering live takes =>
    rw [consumer] at takes
    cases takes with
    | pull accepting room => exact .item (.ok _) accepting room rfl
  | handCancelled offering live undecided cancels => rw [consumer] at cancels; cases cancels
  | lose => exact .nothing consumer
  | @settle z v next effects attached decides prompt =>
    have kept : z.consumer = .pull stream := decides.consumer_eq.trans consumer
    obtain ⟨t, rfl⟩ := prompt (by rw [isPull, consumer]; rfl)
    rw [told, kept]
    refine .nothing ?_
    rw [proceed_consumer, tell, kept, Consumer.tell]
  | await attached decides pull => exact .nothing (decides.consumer_eq.trans consumer)
  | @report e next stream' waiting pull accepting room =>
    rw [consumer] at pull
    cases pull
    refine .item (.error e) accepting room ?_
    rw [proceed_consumer, tell, consumer, Consumer.tell]
  | refuse => exact .nothing (proceed_consumer.trans consumer)

end Execution

end DocumentQuery
