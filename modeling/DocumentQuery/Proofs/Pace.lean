import DocumentQuery.Proofs.FirstSignal
import DocumentQuery.Proofs.Progress

/-!
# Executions at any pace

A producer sends its events one by one, waits while the channel is full, and closes the channel in
the end. Producer, driver and consumer take their turns in any order. What the consumer sees is the
outcome of the events by the reference, told in the way of its kind.
-/

namespace DocumentQuery

/-- Who takes a turn. -/
inductive Party where
  | producer
  | driver
  | consumer

/-- A session with the events that the producer has yet to send. -/
structure Play where
  session : Session
  script : List StreamEvent

/-- What a consumer of the given kind is told of an outcome, until the end. -/
def Outcome.told (mode : DeliveryMode) (pipeline : Pipeline) (o : Outcome) : List Observation :=
  match mode with
  | .push _ => o.rows.map .row ++
      [match o.result with
      | .error e => .failure e
      | .ok t => .completion t]
  | .buffer => o.rows.map .row ++ [.ofAnswer (o.result.map fun t => ⟨o.rows, t, pipeline⟩)]
  | .pull => o.rows.map .row ++
      match o.result with
      | .error e => [.failure e]
      | .ok _ => []

/-- What a consumer of the given kind sees of an outcome. A subscriber is called for the rows, and
then once for the end. A future has all rows with the time and the pipeline, or the error alone. A
stream gives the rows, and the error if there is one, and ends. -/
def Outcome.expected (mode : DeliveryMode) (pipeline : Pipeline) (o : Outcome) :
    List Observation :=
  match mode with
  | .push _ => o.rows.map .row ++
      [match o.result with
      | .error e => .failure e
      | .ok t => .completion t]
  | .buffer =>
      [match o.result with
      | .error e => .failure e
      | .ok t => .snapshot ⟨o.rows, t, pipeline⟩]
  | .pull => o.rows.map .row ++
      match o.result with
      | .error e => [.failure e, .finish]
      | .ok _ => [.finish]

namespace Play

def start (id : Nat) (database : String) (pipeline : Pipeline) (capacity : Nat)
    (streamBuffer : UInt64) (mode : DeliveryMode) (events : List StreamEvent) : Play :=
  ⟨.start id database pipeline capacity streamBuffer mode, events⟩

/-- One turn. An event that the channel takes or refuses is behind the producer. -/
def turn (p : Play) : Party → Play
  | .producer =>
    match p.script with
    | [] => { p with session := p.session.act .close }
    | event :: rest =>
      match (p.session.execution.send event).1 with
      | .full => p
      | _ => ⟨p.session.act (.send event), rest⟩
  | .driver => { p with session := p.session.act .drive }
  | .consumer => { p with session := p.session.act .poll }

def run (p : Play) (schedule : List Party) : Play := schedule.foldl turn p

end Play

namespace Execution

variable {x y z : Execution} {v : Verdict} {next : AfterFailure} {effects : List Effect}
  {news : List Observation} {left : Option Phase}

/-! ### Channels -/

/-- What a driver that goes on has taken is the first of what was queued. -/
lemma Move.queue_eq (h : x.Move y effects news) (stands : x.Stands left) (live : y.Live) :
    x.taking ++ y.channel.queue = x.channel.queue ∧
      y.channel.receiverOpen = x.channel.receiverOpen := by
  cases h with
  | leave listening signal silent =>
    have closed : x.channel.cancelled = false := live.2
    rw [signal] at closed
    cases closed
  | response listening open_ first undecided =>
    rw [taking_of_listening listening open_, first]
    exact ⟨rfl, rfl⟩
  | skip busy => rw [taking_of_busy busy]; exact ⟨rfl, rfl⟩
  | decode delivering => rw [taking_of_busy (by simp [delivering])]; exact ⟨rfl, rfl⟩
  | hand offering => rw [taking_of_busy (by simp [offering])]; exact ⟨rfl, rfl⟩
  | handCancelled => cases live.1
  | lose => cases live.1
  | settle attached decides prompt =>
    exact absurd live.1 (proceed_phase_ne decides.phase_ne)
  | await attached decides pull => exact absurd live.1 decides.phase_ne
  | report waiting pull accepting room =>
    exact absurd live.1 (proceed_phase_ne (stands.decided_of_failing waiting))
  | refuse waiting pull closed =>
    exact absurd live.1 (proceed_phase_ne (stands.decided_of_failing waiting))

lemma proceed_capacity : (x.proceed next).1.channel.capacity = x.channel.capacity := by
  cases next <;> rfl

lemma proceed_senderOpen : (x.proceed next).1.channel.senderOpen = x.channel.senderOpen := by
  cases next <;> rfl

lemma Move.channel_eq (h : x.Move y effects news) :
    y.channel.capacity = x.channel.capacity ∧ y.channel.senderOpen = x.channel.senderOpen := by
  cases h with
  | leave => exact ⟨rfl, rfl⟩
  | response => exact ⟨rfl, rfl⟩
  | skip => exact ⟨rfl, rfl⟩
  | decode => exact ⟨rfl, rfl⟩
  | hand => exact ⟨rfl, rfl⟩
  | handCancelled => exact ⟨rfl, rfl⟩
  | lose => exact ⟨rfl, rfl⟩
  | settle attached decides prompt =>
    rw [proceed_capacity, proceed_senderOpen]
    cases decides <;> exact ⟨rfl, rfl⟩
  | await attached decides pull => cases decides <;> exact ⟨rfl, rfl⟩
  | report =>
    rw [proceed_capacity, proceed_senderOpen]
    exact ⟨rfl, rfl⟩
  | refuse =>
    rw [proceed_capacity, proceed_senderOpen]
    exact ⟨rfl, rfl⟩

/-! ### The end of an execution -/

/-- As long as there has been no response the time of the rows is not set. -/
def Timed (x : Execution) : Prop := x.seenResponse = false → x.executionTime = none

lemma Timed.clock (h : x.Timed) : x.clock.getD none = x.executionTime := by
  unfold Execution.clock
  cases seen : x.seenResponse with
  | true => rfl
  | false => exact (h seen).symm

lemma Decides.timed (h : x.Decides z v next effects) (timed : x.Timed) : z.Timed := by
  cases h <;> exact timed

lemma Move.timed (h : x.Move y effects news) (timed : x.Timed) : y.Timed := by
  cases h with
  | leave => exact timed
  | response => intro fresh; cases fresh
  | skip => exact timed
  | decode => exact timed
  | hand => exact timed
  | handCancelled => exact timed
  | lose => exact timed
  | settle attached decides prompt =>
    unfold Timed
    rw [proceed_seenResponse, proceed_executionTime]
    exact decides.timed timed
  | await attached decides pull => exact decides.timed timed
  | report =>
    unfold Timed
    rw [proceed_seenResponse, proceed_executionTime]
    exact timed
  | refuse =>
    unfold Timed
    rw [proceed_seenResponse, proceed_executionTime]
    exact timed

/-- A driver ends a running execution as the events before it call for. -/
lemma Decides.outlook_eq (h : x.Decides z v next effects) (timed : x.Timed) (live : x.Live)
    {script : List StreamEvent} (heard : x.channel.senderOpen = false → script = []) :
    x.outlook (x.channel.queue ++ script) = ⟨[], v⟩ := by
  cases h with
  | completion listening open_ first =>
    rw [first]
    simp only [outlook, listening, List.cons_append, reference, timed.clock]
  | failure listening open_ first =>
    rw [first]
    simp only [outlook, listening, List.cons_append, reference]
  | closed listening open_ empty senderGone =>
    rw [empty, heard senderGone]
    simp only [outlook, listening, List.append_nil, reference]
  | undecodable delivering undecided bad => simp only [outlook, delivering, afterRows, bad]
  | cancelled listening signal => rw [live.2] at signal; cases signal

end Execution

namespace Session

open Execution

variable {s : Session} {told : List Observation}

/-! ### What a consumer has been told by the end -/

lemma onlyRows_eq (h : OnlyRows told) : told = (toldRows told).map .row := by
  obtain ⟨rows, rfl⟩ := h
  rw [toldRows_map_row]

/-- How far the end of an execution has come: its error waits for room, or the consumer has been
told all of the outcome. -/
inductive Settled (s : Session) (mode : DeliveryMode) (pipeline : Pipeline) (o : Outcome)
    (told : List Observation) : Prop where
  | waiting (e : ExecutionError) (next : AfterFailure) (task : s.execution.task = .failing e next)
      (rows : toldRows told = o.rows) (result : o.result = .error e)
  | told (detached : s.execution.attached = false) (all : told = o.told mode pipeline)

/-- A consumer that has been told rows only is told the rest of the outcome. -/
lemma Upheld.told_eq (h : s.Upheld told) (present : s.present = true)
    (attached : s.execution.attached = true) (v : Verdict) :
    told ++ s.execution.told v =
      Outcome.told s.execution.consumer.mode s.execution.pipeline ⟨toldRows told, v⟩ := by
  have rows := onlyRows_eq (h.plain (.inl attached))
  cases consumer : s.execution.consumer with
  | push signals n =>
    rw [Execution.told, consumer]
    cases v <;> exact congrArg (· ++ _) rows
  | buffer slot =>
    obtain ⟨awaited, -, pending, all⟩ := h.relays_buffer present consumer
    have collected : toldRows told = slot.collected := by
      rw [all, pending attached]
      simp
    rw [Execution.told, consumer, Consumer.told, if_pos awaited, Consumer.mode, Outcome.told,
      ← rows, collected]
  | pull stream =>
    rw [Execution.told, consumer]
    cases v <;> exact congrArg (· ++ _) rows

lemma Settled.after {y : Execution} {effects : List Effect} {news : List Observation}
    {mode : DeliveryMode} {pipeline : Pipeline} {o : Outcome}
    (h : s.Settled mode pipeline o told) (upheld : s.Upheld told) (awaited : s.Awaited)
    (move : s.execution.Move y effects news) (kind : s.execution.consumer.mode = mode)
    (plan : s.execution.pipeline = pipeline) (uncancelled : s.execution.phase ≠ .cancelled) :
    (s.after y).Settled mode pipeline o (told ++ news) := by
  cases h with
  | waiting e next task rows result =>
    obtain ⟨attached, -, -⟩ := upheld.stands.failing task
    rcases move.of_failing task with ⟨pull, rfl, rfl⟩ | ⟨stream, consumer, closed⟩
    · refine .told proceed_attached ?_
      have same : o = ⟨toldRows told, .error e⟩ := by rw [rows, ← result]
      have present := awaited.present_of_pull pull
      have all := upheld.told_eq present attached (.error e)
      obtain ⟨stream, consumer⟩ := isPull_iff.1 pull
      rw [kind, plan, ← same, Execution.told, consumer] at all
      exact all
    · have present := awaited.present_of_pull (by rw [isPull, consumer]; rfl)
      exact absurd (upheld.closed_stream present consumer closed) uncancelled
  | told detached all =>
    have silent : news = [] := by
      by_contra some
      exact absurd (move.attached_of_news upheld.stands some) (ne_true_of_eq_false detached)
    refine .told (move.detached detached) ?_
    rw [silent, List.append_nil]
    exact all

lemma Upheld.settles {y : Execution} {effects : List Effect} {news : List Observation}
    {o : Outcome} {script : List StreamEvent}
    (upheld : s.Upheld told) (present : s.present = true) (live : s.execution.Live)
    (timed : s.execution.Timed) (heard : s.execution.channel.senderOpen = false → script = [])
    (account : o = (s.execution.outlook (s.execution.channel.queue ++ script)).prepend
      (toldRows told))
    (move : s.execution.Move y effects news) (decided : y.phase ≠ .streaming)
    (uncancelled : y.phase ≠ .cancelled) :
    (s.after y).Settled s.execution.consumer.mode s.execution.pipeline o (told ++ news) := by
  cases move with
  | leave listening signal => rw [live.2] at signal; cases signal
  | response listening live first undecided => exact absurd undecided decided
  | skip => exact absurd live.1 decided
  | decode delivering undecided => exact absurd undecided decided
  | hand => exact absurd live.1 decided
  | handCancelled => exact absurd rfl uncancelled
  | lose => exact absurd rfl uncancelled
  | @settle z v next effects attached decides prompt =>
    have same : o = ⟨toldRows told, v⟩ := by
      rw [account, decides.outlook_eq timed live heard, Outcome.prepend, List.append_nil]
    have news : z.told v = s.execution.told v := by
      rw [Execution.told, Execution.told, decides.consumer_eq, decides.pipeline_eq]
    refine .told proceed_attached ?_
    rw [news, upheld.told_eq present attached v, same]
  | @await z e next effects attached decides pull =>
    have same : o = ⟨toldRows told, .error e⟩ := by
      rw [account, decides.outlook_eq timed live heard, Outcome.prepend, List.append_nil]
    rw [List.append_nil, same]
    exact .waiting e next rfl rfl rfl
  | report waiting pull accepting room =>
    exact absurd live.1 (upheld.stands.decided_of_failing waiting)
  | refuse waiting pull closed =>
    exact absurd live.1 (upheld.stands.decided_of_failing waiting)

lemma Settled.aside {t : Session} {mode : DeliveryMode} {pipeline : Pipeline} {o : Outcome}
    (h : s.Settled mode pipeline o told) (task : t.execution.task = s.execution.task)
    (attached : t.execution.attached = s.execution.attached) : t.Settled mode pipeline o told := by
  cases h with
  | waiting e next waiting rows result => exact .waiting e next (task.trans waiting) rows result
  | told detached all => exact .told (attached.trans detached) all

end Session

namespace Execution

variable {x y : Execution} {effects : List Effect} {news : List Observation}

lemma Decides.uncancelled {z : Execution} {v : Verdict} {next : AfterFailure}
    (h : x.Decides z v next effects) (undecided : x.phase = .streaming) : z.phase ≠ .cancelled := by
  cases h with
  | completion => simp
  | failure => simp
  | closed => simp
  | undecodable => simp
  | cancelled listening signal cancelled => rw [undecided] at cancelled; cases cancelled

/-- Only its consumer cancels a running execution in a step of the driver: a subscriber in a call,
or by having gone. -/
lemma Move.uncancelled (h : x.Move y effects news) (undecided : x.phase = .streaming)
    (patient : ∀ n, x.consumer.mode ≠ .push (some n)) (there : ¬x.consumer.Gone) :
    y.phase ≠ .cancelled := by
  cases h with
  | leave => simp [stop, undecided]
  | response => simp [undecided]
  | skip => simp [undecided]
  | decode => simp [undecided]
  | hand => simp [undecided]
  | handCancelled offering live _ cancels => exact absurd (by rw [cancels]; rfl) (patient _)
  | lose offering live _ gone => exact absurd gone there
  | settle attached decides prompt =>
    rw [proceed_phase]
    exact decides.uncancelled undecided
  | await attached decides pull => exact decides.uncancelled undecided
  | report => rw [proceed_phase]; simp [tell, undecided]
  | refuse => rw [proceed_phase]; simp [undecided]

end Execution

namespace Session

open Execution

variable {s : Session} {told : List Observation}

/-- There is room for an event in the channel, and for an item in the stream of the consumer. -/
structure Roomy (s : Session) : Prop where
  channel : 1 ≤ s.execution.channel.capacity
  stream : ∀ stream, s.execution.consumer = .pull stream → 1 ≤ stream.capacity

lemma Roomy.poll (h : s.Roomy) : s.poll.Roomy := by
  refine ⟨by rw [s.poll_aside.channel]; exact h.channel, ?_⟩
  have polled := s.polled
  generalize s.poll = t at polled
  cases polled with
  | absent => exact h.stream
  | push => exact h.stream
  | unanswered => exact h.stream
  | answered => exact h.stream
  | pending => exact h.stream
  | item present consumer =>
    have enough := h.stream _ consumer
    rintro stream' ⟨⟩
    exact enough
  | cancelled present consumer =>
    have enough := h.stream _ consumer
    rintro stream' ⟨⟩
    exact enough
  | finish => exact h.stream

lemma Roomy.after {y : Execution} {effects : List Effect} {news : List Observation} (h : s.Roomy)
    (move : s.execution.Move y effects news) : (s.after y).Roomy where
  channel := move.channel_eq.1.symm ▸ h.channel
  stream stream' consumer' := by
    have pull : s.execution.isPull := by
      rw [isPull, ← move.mode_eq, show y.consumer = _ from consumer']
      rfl
    obtain ⟨stream, consumer⟩ := isPull_iff.1 pull
    have enough := h.stream stream consumer
    cases move.pull consumer with
    | nothing same =>
      rw [show y.consumer = _ from consumer'] at same
      cases same
      exact enough
    | item i accepting room queued =>
      rw [show y.consumer = _ from consumer'] at queued
      cases queued
      exact enough

end Session

namespace Play

open Execution Session

variable {p : Play} {database : String} {pipeline : Pipeline} {mode : DeliveryMode}
  {events : List StreamEvent} {told : List Observation}

/-! ### The invariant of plays -/

/-- The invariant of plays of the given events. -/
structure Playing (p : Play) (database : String) (pipeline : Pipeline) (mode : DeliveryMode)
    (events : List StreamEvent) (told : List Observation) : Prop where
  upheld : p.session.Upheld told
  follows : p.session.Follows database told
  calm : p.session.Calm
  awaited : p.session.Awaited
  kind : p.session.execution.consumer.mode = mode
  plan : p.session.execution.pipeline = pipeline
  uncancelled : p.session.execution.phase ≠ .cancelled
  timed : p.session.execution.Timed
  roomy : p.session.Roomy
  /-- Until the end is decided no event is lost. -/
  running : p.session.execution.phase = .streaming →
    p.session.taken ++ p.session.execution.channel.queue ++ p.script = events ∧
      p.session.execution.channel.receiverOpen = true
  heard : p.session.execution.channel.senderOpen = false → p.script = []
  settled : p.session.execution.phase ≠ .streaming →
    p.session.Settled mode pipeline (reference database none events) told
  answered : p.session.present = false →
    p.session.seen = (reference database none events).expected mode pipeline

lemma Playing.live (h : p.Playing database pipeline mode events told)
    (undecided : p.session.execution.phase = .streaming) : p.session.execution.Live :=
  ⟨undecided, h.calm.live undecided⟩

/-- While the driver goes on, what it has told and what it has before it make up the outcome. -/
lemma Playing.account (h : p.Playing database pipeline mode events told)
    (undecided : p.session.execution.phase = .streaming) :
    reference database none events =
      (p.session.execution.outlook (p.session.execution.channel.queue ++ p.script)).prepend
        (toldRows told) := by
  have account := h.follows.account (h.live undecided)
    (p.session.execution.channel.queue ++ p.script)
  rw [← List.append_assoc, (h.running undecided).1] at account
  exact account

/-! ### Turns of the producer -/

lemma Playing.close (h : p.Playing database pipeline mode events told) (script : p.script = []) :
    Playing { p with session := p.session.act .close } database pipeline mode events told where
  upheld := h.upheld.channel _ id
  follows := h.follows.aside rfl (fun _ => rfl) id
  calm := h.calm.act h.upheld (show Action.close ≠ .abort by simp)
  awaited := h.awaited.act h.upheld (show Action.close ≠ .drop by simp)
  kind := h.kind
  plan := h.plan
  uncancelled := h.uncancelled
  timed := h.timed
  roomy := ⟨h.roomy.channel, h.roomy.stream⟩
  running := h.running
  heard _ := script
  settled decided := (h.settled decided).aside rfl rfl
  answered := h.answered

lemma send_eq {c : Channel} {event : StreamEvent} (live : c.cancelled = false)
    (open_ : c.receiverOpen = true) (room : (c.send event).1 ≠ .full) :
    (c.send event).2 = { c with queue := c.queue ++ [event] } := by
  unfold Channel.send at room ⊢
  simp only [live, open_, Bool.not_true, Bool.or_self, Bool.false_eq_true, if_false] at room ⊢
  split
  · rfl
  · rename_i full
    simp [full] at room

lemma Playing.send (h : p.Playing database pipeline mode events told) {event : StreamEvent}
    {rest : List StreamEvent} (script : p.script = event :: rest)
    (room : (p.session.execution.send event).1 ≠ .full) :
    Playing ⟨p.session.act (.send event), rest⟩ database pipeline mode events told := by
  have open_ : p.session.execution.channel.senderOpen = true := by
    by_contra closed
    have := h.heard (Bool.eq_false_iff.2 closed)
    rw [script] at this
    cases this
  have calm := h.calm.act h.upheld (show Action.send event ≠ .abort by simp)
  have awaited := h.awaited.act h.upheld (show Action.send event ≠ .drop by simp)
  have follows : (p.session.act (.send event)).Follows database told := by
    rw [Session.act, if_pos open_]
    refine h.follows.aside rfl (fun _ => rfl) (fun live => ⟨live.1, ?_⟩)
    exact (Channel.send_cancelled _ event).symm.trans live.2
  have upheld := h.upheld.act_send event
  rw [Session.act, if_pos open_] at calm awaited follows upheld ⊢
  exact
    { upheld, follows, calm, awaited
      kind := h.kind
      plan := h.plan
      uncancelled := h.uncancelled
      timed := h.timed
      roomy := ⟨(Channel.send_capacity _ event).symm ▸ h.roomy.channel, h.roomy.stream⟩
      running := fun undecided => by
        obtain ⟨all, receiverOpen⟩ := h.running undecided
        have sent : (p.session.execution.send event).2.channel = _ :=
          send_eq (h.live undecided).2 receiverOpen room
        rw [script] at all
        rw [sent]
        exact ⟨by simpa using all, receiverOpen⟩
      heard := fun closed => by
        have still : (p.session.execution.send event).2.channel.senderOpen = true :=
          (Channel.send_senderOpen _ event).trans open_
        exact absurd still (ne_true_of_eq_false closed)
      settled := fun decided => (h.settled decided).aside rfl rfl
      answered := h.answered }

lemma Playing.produce (h : p.Playing database pipeline mode events told) :
    (p.turn .producer).Playing database pipeline mode events told := by
  rw [turn]
  split
  · exact h.close ‹_›
  · split
    · exact h
    · exact h.send ‹_› ‹_›

/-! ### Turns of the consumer and of the driver -/

lemma Playing.told_all (h : p.Playing database pipeline mode events told)
    (detached : p.session.execution.attached = false) :
    told = (reference database none events).told mode pipeline := by
  have decided : p.session.execution.phase ≠ .streaming := by
    intro undecided
    have attached := h.upheld.stands.attached_of_left undecided h.calm.stayed
    exact absurd attached (ne_true_of_eq_false detached)
  cases h.settled decided with
  | waiting e next task =>
    have attached := (h.upheld.stands.failing task).1
    exact absurd attached (ne_true_of_eq_false detached)
  | told _ all => exact all

lemma Playing.answer (h : p.Playing database pipeline mode events told) {slot : AnswerSlot}
    {a : Except ExecutionError Snapshot} (present : p.session.present = true)
    (consumer : p.session.execution.consumer = .buffer slot)
    (answer : p.session.execution.answer = some a) :
    [.ofAnswer a] = (reference database none events).expected mode pipeline := by
  have detached := (h.upheld.answer_fits present consumer answer).1
  have buffer : mode = .buffer := by rw [← h.kind, consumer]; rfl
  obtain ⟨-, -, -, all⟩ := h.upheld.relays_buffer present consumer
  rw [h.told_all detached, buffer, Outcome.told] at all
  rw [answer_eq consumer] at answer
  cases held : slot.answer with
  | none =>
    rw [held, Option.map_none, Option.toList_none, List.append_nil] at all
    exact absurd ⟨slot.collected, all⟩ (not_onlyRows (Observation.ofAnswer_ne_row _))
  | some b =>
    rw [held] at all answer
    obtain rfl := Option.some.inj answer
    obtain ⟨-, same, -⟩ := rows_append_inj (Observation.ofAnswer_ne_row _)
      (Observation.ofAnswer_ne_row _) all
    rw [← same, buffer, Outcome.expected]
    cases (reference database none events).result <;> rfl

lemma Playing.answered_poll (h : p.Playing database pipeline mode events told)
    (absent : p.session.poll.present = false) :
    p.session.poll.seen = (reference database none events).expected mode pipeline := by
  have polled := p.session.polled
  generalize p.session.poll = t at polled absent
  cases polled with
  | absent => exact h.answered absent
  | push => exact h.answered absent
  | unanswered => exact h.answered absent
  | answered present consumer answer =>
    have relays := h.upheld.relays_buffer present consumer
    rw [← h.answer present consumer answer]
    exact (seen_append _).trans (by rw [relays.2.1]; rfl)
  | pending => exact h.answered absent
  | item present => cases present.symm.trans absent
  | cancelled present => cases present.symm.trans absent
  | finish present => cases present.symm.trans absent

lemma Playing.consume (h : p.Playing database pipeline mode events told) :
    (p.turn .consumer).Playing database pipeline mode events told := by
  have aside := p.session.poll_aside
  exact
    { upheld := h.upheld.poll
      follows := h.follows.poll h.upheld
      calm := h.calm.aside aside
      awaited := h.awaited.poll
      kind := aside.mode.trans h.kind
      plan := aside.pipeline.trans h.plan
      uncancelled := aside.phase ▸ h.uncancelled
      timed := by
        change p.session.poll.execution.Timed
        rw [aside.execution]
        exact h.timed
      roomy := h.roomy.poll
      running := by
        change p.session.poll.execution.phase = .streaming →
          p.session.poll.taken ++ p.session.poll.execution.channel.queue ++ p.script = events ∧
            p.session.poll.execution.channel.receiverOpen = true
        rw [aside.phase, aside.taken, aside.channel]
        exact h.running
      heard := by
        change p.session.poll.execution.channel.senderOpen = false → p.script = []
        rw [aside.channel]
        exact h.heard
      settled := fun decided => (h.settled (aside.phase ▸ decided)).aside aside.task aside.attached
      answered := h.answered_poll }

lemma Playing.after (h : p.Playing database pipeline mode events told)
    (patient : ∀ n, mode ≠ .push (some n)) {y : Execution} {effects : List Effect}
    {news : List Observation} (left : p.session.left = none)
    (move : p.session.execution.Move y effects news)
    (awaited : (p.session.after y).Awaited) :
    Playing { p with session := p.session.after y } database pipeline mode events
      (told ++ news) := by
  have upheld := h.upheld.after left move
  have calm := h.calm.after h.upheld move
  have uncancelled : y.phase ≠ .cancelled := by
    by_cases undecided : p.session.execution.phase = .streaming
    · have present := h.awaited.present_of_undecided h.upheld undecided h.calm.stayed
      exact move.uncancelled undecided (h.kind.symm ▸ patient)
        (h.upheld.not_gone present undecided)
    · rw [move.phase_eq undecided]
      exact h.uncancelled
  obtain ⟨-, senderOpen⟩ := move.channel_eq
  refine
    { upheld, calm, awaited, uncancelled
      follows := h.follows.after h.upheld upheld move
      kind := move.mode_eq.trans h.kind
      plan := move.pipeline_eq.trans h.plan
      timed := move.timed h.timed
      roomy := h.roomy.after move
      running := fun undecided => ?_
      heard := fun closed => h.heard (senderOpen.symm.trans closed)
      settled := fun decided => ?_
      answered := fun absent => ?_ }
  · have live : y.Live := ⟨undecided, calm.live undecided⟩
    obtain ⟨all, receiverOpen⟩ := h.running (move.live_of live).1
    obtain ⟨queue, still⟩ := move.queue_eq h.upheld.stands live
    refine ⟨?_, still.trans receiverOpen⟩
    rw [← queue] at all
    simpa [Session.after] using all
  · by_cases undecided : p.session.execution.phase = .streaming
    · have present := h.awaited.present_of_undecided h.upheld undecided h.calm.stayed
      have settled := h.upheld.settles present (h.live undecided) h.timed h.heard
        (h.account undecided) move decided uncancelled
      rw [h.kind, h.plan] at settled
      exact settled
    · exact (h.settled undecided).after h.upheld h.awaited move h.kind h.plan h.uncancelled
  · have noPush := (upheld.absent absent).1
    exact (seen_after_of_mode noPush).trans (h.answered absent)

lemma Playing.drive (h : p.Playing database pipeline mode events told)
    (patient : ∀ n, mode ≠ .push (some n)) :
    ∃ told', (p.turn .driver).Playing database pipeline mode events told' := by
  have awaited := h.awaited.act h.upheld (show Action.drive ≠ .drop by simp)
  rw [turn]
  cases step : p.session.execution.step with
  | none =>
    rw [Session.act, Session.drive, step]
    exact ⟨told, h⟩
  | some next =>
    obtain ⟨y, effects⟩ := next
    have left := h.upheld.stands.left_eq_none step
    obtain ⟨news, move⟩ := step_move h.upheld.stands step
    rw [Session.act, drive_eq step] at awaited ⊢
    exact ⟨told ++ news, h.after patient left move awaited⟩

/-- Every turn keeps the invariant. -/
theorem Playing.turn (h : p.Playing database pipeline mode events told)
    (patient : ∀ n, mode ≠ .push (some n)) (party : Party) :
    ∃ told', (p.turn party).Playing database pipeline mode events told' := by
  cases party with
  | producer => exact ⟨told, h.produce⟩
  | driver => exact h.drive patient
  | consumer => exact ⟨told, h.consume⟩

lemma Playing.run (h : p.Playing database pipeline mode events told)
    (patient : ∀ n, mode ≠ .push (some n)) (schedule : List Party) :
    ∃ told', (p.run schedule).Playing database pipeline mode events told' := by
  induction schedule generalizing p told with
  | nil => exact ⟨told, h⟩
  | cons party rest ih =>
    obtain ⟨told', h'⟩ := h.turn patient party
    exact ih h'

lemma playing_start (id : Nat) (database : String) (pipeline : Pipeline) (capacity : Nat)
    (streamBuffer : UInt64) (mode : DeliveryMode) (events : List StreamEvent) :
    (start id database pipeline capacity streamBuffer mode events).Playing database pipeline mode
      events [] where
  upheld := upheld_start id database pipeline capacity streamBuffer mode
  follows := follows_start id database pipeline capacity streamBuffer mode
  calm := ⟨fun _ => rfl, by simp [start, Session.start]⟩
  awaited := awaited_start
  kind := by cases mode <;> rfl
  plan := rfl
  uncancelled := by simp [start, Session.start, Execution.start]
  timed _ := rfl
  roomy := by
    refine ⟨le_max_right _ _, fun stream consumer => ?_⟩
    cases mode with
    | push n => cases consumer
    | buffer => cases consumer
    | pull =>
      cases consumer
      exact le_max_right _ _
  running _ := ⟨rfl, rfl⟩
  heard open_ := by cases open_
  settled decided := absurd rfl decided
  answered absent := by cases absent

end Play

end DocumentQuery
