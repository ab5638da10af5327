import DocumentQuery.Proofs.Pace

/-!
# The outcome at any pace

At every moment of a play the consumer has seen a first part of the outcome. When all parties have
taken enough turns, in whatever order, it has seen all of it.
-/

namespace DocumentQuery

/-! ### What has been seen -/

lemma Outcome.rows_told (mode : DeliveryMode) (pipeline : Pipeline) (o : Outcome) :
    o.rows.map .row <+: o.told mode pipeline := by
  cases mode <;> exact List.prefix_append _ _

lemma Outcome.expected_pull (pipeline : Pipeline) (o : Outcome) :
    o.expected .pull pipeline = o.told .pull pipeline ++ [.finish] := by
  unfold Outcome.expected Outcome.told
  cases o.result <;> simp

namespace Session

open Execution

variable {s : Session} {told : List Observation}

/-- The driver has let go of the consumer, and the consumer has its answer or has seen the end. -/
def Done (s : Session) : Prop :=
  s.execution.attached = false ∧
    (s.execution.consumer.mode = .buffer → s.present = false) ∧
    (s.execution.consumer.mode = .pull → .finish ∈ s.seen)

lemma act_absent (upheld : s.Upheld told) (absent : s.present = false) (action : Action) :
    (s.act action).present = false := by
  have acted := acted upheld action
  generalize s.act action = t at acted
  cases acted with
  | outside => exact absent
  | moved => exact absent
  | polled => rw [poll, if_neg (by simp [absent])]; exact absent
  | refused => exact absent
  | won => exact absent
  | dropped => rw [drop]; split <;> [exact absent; rfl]

lemma act_detached (upheld : s.Upheld told) (detached : s.execution.attached = false)
    (action : Action) : (s.act action).execution.attached = false := by
  have acted := acted upheld action
  generalize s.act action = t at acted
  cases acted with
  | outside => exact detached
  | moved left move => exact move.detached detached
  | polled => exact s.poll_aside.attached.trans detached
  | refused => exact detached
  | won => exact detached
  | dropped => exact s.drop_aside.attached.trans detached

lemma Done.act (h : s.Done) (upheld : s.Upheld told) (action : Action) : (s.act action).Done := by
  obtain ⟨detached, buffer, pull⟩ := h
  rw [Done, (act_fixed upheld action).1]
  refine ⟨act_detached upheld detached action, fun mode => act_absent upheld (buffer mode) action,
    fun mode => ?_⟩
  obtain ⟨more, hmore⟩ := s.act_trace action
  rw [seen, ← hmore, observations_append]
  exact List.mem_append_left _ (pull mode)

end Session

namespace Play

open Execution Session

variable {p : Play} {database : String} {pipeline : Pipeline} {mode : DeliveryMode}
  {events : List StreamEvent} {told : List Observation}

lemma Playing.told_begins (h : p.Playing database pipeline mode events told) :
    told <+: (reference database none events).told mode pipeline := by
  cases attached : p.session.execution.attached with
  | false => rw [h.told_all attached]
  | true =>
    have rows := onlyRows_eq (h.upheld.plain (.inl attached))
    have begins : toldRows told <+: (reference database none events).rows := by
      by_cases undecided : p.session.execution.phase = .streaming
      · rw [h.account undecided]
        exact List.prefix_append _ _
      · cases h.settled undecided with
        | waiting e next task same => rw [same]
        | told detached => exact absurd attached (ne_true_of_eq_false detached)
    rw [rows]
    exact (begins.map Observation.row).trans (Outcome.rows_told mode pipeline _)

lemma Playing.seen_pull (h : p.Playing database pipeline .pull events told) :
    p.session.seen <+: (reference database none events).told .pull pipeline ∨
      p.session.execution.attached = false ∧ ∃ n, p.session.seen =
        (reference database none events).told .pull pipeline ++ List.replicate n .finish := by
  have present := h.awaited.present_of_pull h.kind
  obtain ⟨stream, consumer⟩ := isPull_iff.1 h.kind
  have relays := h.upheld.relays_pull present consumer
  cases relays.2 with
  | onward got fresh rows rest =>
    refine .inl (List.IsPrefix.trans ?_ h.told_begins)
    rw [rows, rest]
    exact List.prefix_append _ _
  | failed got e n fresh decided detached error empty rest =>
    refine .inr ⟨detached, n, ?_⟩
    rw [error, ← h.told_all detached, rest, List.append_assoc]
    rfl
  | ended got n fresh decided detached finish empty rest =>
    refine .inr ⟨detached, n + 1, ?_⟩
    rw [finish, ← h.told_all detached, rest]
    rfl
  | cancelled got n reported decided => exact absurd decided h.uncancelled
  | late got m n reported abandoned decided => exact absurd decided h.uncancelled

lemma Playing.seen_push {n : Option Nat} (h : p.Playing database pipeline (.push n) events told) :
    p.session.seen = told := by
  obtain ⟨-, -, -, -, all⟩ := h.upheld.relays_push h.kind
  exact all

lemma Playing.seen_buffer (h : p.Playing database pipeline .buffer events told)
    (present : p.session.present = true) : p.session.seen = [] := by
  have kind := h.kind
  cases consumer : p.session.execution.consumer with
  | push signals k => rw [consumer] at kind; cases kind
  | buffer slot =>
    obtain ⟨-, silent, -⟩ := h.upheld.relays_buffer present consumer
    exact silent
  | pull stream => rw [consumer] at kind; cases kind

/-- At every moment the consumer has seen a first part of the outcome. -/
theorem Playing.seen_begins (h : p.Playing database pipeline mode events told) :
    ∃ k, p.session.seen <+:
      (reference database none events).expected mode pipeline ++ List.replicate k .finish := by
  cases mode with
  | push n =>
    refine ⟨0, ?_⟩
    rw [List.replicate_zero, List.append_nil, h.seen_push]
    exact h.told_begins
  | buffer =>
    refine ⟨0, ?_⟩
    rw [List.replicate_zero, List.append_nil]
    by_cases present : p.session.present = true
    · rw [h.seen_buffer present]
      exact List.nil_prefix
    · rw [h.answered (Bool.eq_false_iff.2 present)]
  | pull =>
    rw [Outcome.expected_pull]
    rcases h.seen_pull with begins | ⟨-, n, seen⟩
    · exact ⟨0, begins.trans (by rw [List.append_assoc]; exact List.prefix_append _ _)⟩
    · refine ⟨n, ?_⟩
      rw [seen, List.append_assoc, List.prefix_append_right_inj]
      exact ⟨[.finish], by rw [← List.replicate_succ', List.replicate_succ]; rfl⟩

/-- In the end the consumer has seen the outcome; a stream may have ended again and again. -/
theorem Playing.seen_of_done (h : p.Playing database pipeline mode events told)
    (done : p.session.Done) :
    ∃ k, (k = 0 ∨ mode = .pull) ∧ p.session.seen =
      (reference database none events).expected mode pipeline ++ List.replicate k .finish := by
  obtain ⟨detached, buffer, pull⟩ := done
  rw [h.kind] at buffer pull
  cases mode with
  | push n =>
    refine ⟨0, .inl rfl, ?_⟩
    rw [List.replicate_zero, List.append_nil, h.seen_push]
    exact h.told_all detached
  | buffer =>
    refine ⟨0, .inl rfl, ?_⟩
    rw [List.replicate_zero, List.append_nil]
    exact h.answered (buffer rfl)
  | pull =>
    have unfinished : .finish ∉ (reference database none events).told .pull pipeline := by
      unfold Outcome.told
      cases (reference database none events).result <;> simp
    rcases h.seen_pull with begins | ⟨-, n, seen⟩
    · exact absurd (begins.subset (pull rfl)) unfinished
    · cases n with
      | zero =>
        rw [List.replicate_zero, List.append_nil] at seen
        exact absurd (seen ▸ pull rfl) unfinished
      | succ n =>
        refine ⟨n, .inr rfl, ?_⟩
        rw [seen, Outcome.expected_pull, List.append_assoc]
        rfl

/-! ### Turns bring the end nearer -/

/-- The work of the script: every event is sent, taken and worked on. -/
def scriptWork (script : List StreamEvent) : Nat :=
  (script.map fun event => 2 * eventWork event + 1).sum

/-- A bound of the turns that change something before all is done. A step of the driver may add an
item to the queue of a stream, so it counts twice. -/
def rank (p : Play) : Nat :=
  scriptWork p.script + (if p.session.execution.channel.senderOpen then 1 else 0) +
    2 * p.session.execution.work + p.session.backlog

lemma scriptWork_cons (event : StreamEvent) (rest : List StreamEvent) :
    scriptWork (event :: rest) = 2 * eventWork event + 1 + scriptWork rest := by
  simp [scriptWork]

lemma queueWork_send (c : Channel) (event : StreamEvent) :
    queueWork (c.send event).2.queue ≤ queueWork c.queue + eventWork event := by
  unfold Channel.send
  split
  · exact Nat.le_add_right _ _
  · split
    · rw [queueWork_append]
      exact le_of_eq (by simp [queueWork])
    · exact Nat.le_add_right _ _

/-- A party whose turn changes nothing. -/
inductive Idle (p : Play) : Party → Prop where
  | closed (script : p.script = []) (closed : p.session.execution.channel.senderOpen = false) :
      Idle p .producer
  | full (full : p.session.execution.channel.capacity ≤ p.session.execution.channel.queue.length) :
      Idle p .producer
  | waiting (stuck : p.session.execution.step = none) : Idle p .driver
  | absent (gone : p.session.present = false) : Idle p .consumer
  | push {signals n} (consumer : p.session.execution.consumer = .push signals n) : Idle p .consumer
  | unanswered {slot} (consumer : p.session.execution.consumer = .buffer slot)
      (silent : p.session.execution.answer = none) : Idle p .consumer
  | pending {stream} (consumer : p.session.execution.consumer = .pull stream)
      (empty : stream.queue = []) (attached : p.session.execution.attached = true) :
      Idle p .consumer

lemma full_of_send {c : Channel} {event : StreamEvent} (h : (c.send event).1 = .full) :
    c.capacity ≤ c.queue.length := by
  unfold Channel.send at h
  split at h
  · cases h
  · split at h
    · cases h
    · exact Nat.le_of_not_lt ‹_›

lemma produce_progress (p : Play) :
    p.turn .producer = p ∧ p.Idle .producer ∨ (p.turn .producer).rank < p.rank := by
  cases script : p.script with
  | nil =>
    simp only [turn, script]
    cases open_ : p.session.execution.channel.senderOpen with
    | true =>
      right
      have work : (p.session.act .close).execution.work = p.session.execution.work := by
        rw [work_eq, work_eq]
        rfl
      have backlog : (p.session.act .close).backlog = p.session.backlog := rfl
      have closed : (p.session.act .close).execution.channel.senderOpen = false := rfl
      simp only [rank, script, work, backlog, closed, open_, if_true, Bool.false_eq_true, if_false]
      omega
    | false =>
      have same : p.session.execution.channel.closeSender = p.session.execution.channel := by
        rw [Channel.closeSender, ← open_]
      refine .inl ⟨?_, .closed script open_⟩
      rw [Session.act, Execution.closeSender, same, ← script]
  | cons event rest =>
    simp only [turn, script]
    split
    · exact .inl ⟨rfl, .full (full_of_send ‹_›)⟩
    · right
      have work : (p.session.act (.send event)).execution.work ≤
          p.session.execution.work + eventWork event := by
        rw [Session.act]
        split
        · rw [work_eq, work_eq]
          have queue := queueWork_send p.session.execution.channel event
          have same : (p.session.execution.send event).2.task = p.session.execution.task := rfl
          have channel : (p.session.execution.send event).2.channel =
            (p.session.execution.channel.send event).2 := rfl
          rw [same, channel]
          omega
        · exact Nat.le_add_right _ _
      have backlog : (p.session.act (.send event)).backlog = p.session.backlog := by
        rw [Session.act]
        split <;> rfl
      have senderOpen : (p.session.act (.send event)).execution.channel.senderOpen =
          p.session.execution.channel.senderOpen := by
        rw [Session.act]
        split
        · exact Channel.send_senderOpen _ event
        · rfl
      simp only [rank, script, scriptWork_cons, backlog, senderOpen]
      omega

lemma Playing.drive_progress (h : p.Playing database pipeline mode events told) :
    p.turn .driver = p ∧ p.Idle .driver ∨ (p.turn .driver).rank < p.rank := by
  cases step : p.session.execution.step with
  | none =>
    refine .inl ⟨?_, .waiting step⟩
    rw [Play.turn, Session.act, Session.drive, step]
  | some next =>
    right
    obtain ⟨y, effects⟩ := next
    obtain ⟨news, move⟩ := step_move h.upheld.stands step
    have work := move.work_lt
    have senderOpen : y.channel.senderOpen = p.session.execution.channel.senderOpen :=
      move.channel_eq.2
    have backlog : (p.session.after y).backlog ≤ p.session.backlog + 1 := by
      by_cases pull : p.session.execution.isPull
      · obtain ⟨stream, consumer⟩ := isPull_iff.1 pull
        cases move.pull consumer with
        | nothing same => simp [backlog, consumer, Session.after, same]
        | item i accepting room queued =>
          simp [backlog, consumer, Session.after, queued, RowStream.enqueue]
      · have prompt : ¬(p.session.after y).execution.isPull := by
          rw [isPull, show (p.session.after y).execution.consumer.mode = _ from move.mode_eq]
          exact pull
        rw [backlog_eq_zero prompt]
        exact Nat.zero_le _
    rw [Play.turn, Session.act, drive_eq step]
    simp only [rank]
    rw [show (p.session.after y).execution = y from rfl, senderOpen]
    omega

lemma Playing.consume_progress (h : p.Playing database pipeline mode events told) :
    p.turn .consumer = p ∧ p.Idle .consumer ∨ (p.turn .consumer).rank < p.rank ∨
      (p.turn .consumer).session.Done := by
  have polled := p.session.polled
  have turned : p.turn .consumer = { p with session := p.session.poll } := rfl
  rw [turned]
  generalize p.session.poll = t at polled
  cases polled with
  | absent gone => exact .inl ⟨rfl, .absent gone⟩
  | push consumer => exact .inl ⟨rfl, .push consumer⟩
  | unanswered consumer silent => exact .inl ⟨rfl, .unanswered consumer silent⟩
  | answered present consumer answer =>
    have detached := (h.upheld.answer_fits present consumer answer).1
    refine .inr (.inr ⟨detached, fun _ => rfl, fun pull => ?_⟩)
    rw [show (p.session.see _).execution.consumer = _ from consumer] at pull
    cases pull
  | pending consumer open_ empty attached => exact .inl ⟨rfl, .pending consumer empty attached⟩
  | item present consumer open_ first =>
    refine .inr (.inl ?_)
    simp only [rank, backlog, consumer, first, List.length_cons]
    exact Nat.add_lt_add_left (Nat.lt_succ_self _) _
  | cancelled present consumer cancelled => exact absurd cancelled h.uncancelled
  | finish present consumer done =>
    obtain ⟨-, -, detached⟩ := done.resolve_left (fun cancelled => h.uncancelled cancelled.1)
    refine .inr (.inr ⟨detached, fun buffer => ?_, fun _ => ?_⟩)
    · rw [show (p.session.see .finish).execution.consumer = _ from consumer] at buffer
      cases buffer
    · rw [seen_see]
      exact List.mem_append_right _ List.mem_cons_self

/-- A turn changes nothing, or it brings the end nearer, or it is the last that counts. -/
theorem Playing.progress (h : p.Playing database pipeline mode events told) (party : Party) :
    p.turn party = p ∧ p.Idle party ∨ (p.turn party).rank < p.rank ∨
      (p.turn party).session.Done := by
  cases party with
  | producer => exact p.produce_progress.imp_right .inl
  | driver => exact h.drive_progress.imp_right .inl
  | consumer => exact h.consume_progress

/-- Where all parties are idle all is done. -/
theorem Playing.done_of_idle (h : p.Playing database pipeline mode events told)
    (idle : ∀ party, p.Idle party) : p.session.Done := by
  have consumer_idle := idle .consumer
  cases idle .driver with
  | waiting step =>
    cases waits_of_step step with
    | transport listening live empty senderOpen =>
      cases idle .producer with
      | closed script closed => cases senderOpen.symm.trans closed
      | full full =>
        have room := h.roomy.channel
        rw [empty] at full
        exact absurd (room.trans full) (by simp)
    | @room stream busy consumer full =>
      have space := h.roomy.stream stream consumer
      cases consumer_idle with
      | absent gone =>
        have present := h.awaited.present_of_pull (by rw [isPull, consumer]; rfl)
        cases present.symm.trans gone
      | push consumer' => rw [consumer] at consumer'; cases consumer'
      | unanswered consumer' => rw [consumer] at consumer'; cases consumer'
      | pending consumer' empty =>
        rw [consumer] at consumer'
        cases consumer'
        rw [RowStream.isFull, empty] at full
        exact absurd (space.trans (of_decide_eq_true full)) (by simp)
    | ended ended =>
      have detached := h.upheld.stands.detached ended
      cases consumer_idle with
      | absent gone =>
        refine ⟨detached, fun _ => gone, fun pull => ?_⟩
        rw [(h.awaited gone).1] at pull
        cases pull
      | push consumer => exact ⟨detached, by simp [consumer, Consumer.mode]⟩
      | @unanswered slot consumer silent =>
        rw [answer_eq consumer, detached] at silent
        cases held : slot.answer <;> simp [held] at silent
      | pending consumer empty attached => cases attached.symm.trans detached

/-! ### Rounds -/

lemma Playing.done_turn (h : p.Playing database pipeline mode events told)
    (done : p.session.Done) (party : Party) : (p.turn party).session.Done := by
  cases party with
  | producer =>
    rw [Play.turn]
    split
    · exact done.act h.upheld .close
    · split
      · exact done
      · exact done.act h.upheld (.send _)
  | driver => exact done.act h.upheld .drive
  | consumer => exact done.act h.upheld .poll

lemma Playing.done_run (h : p.Playing database pipeline mode events told)
    (patient : ∀ n, mode ≠ .push (some n)) (done : p.session.Done) (schedule : List Party) :
    (p.run schedule).session.Done := by
  induction schedule generalizing p told with
  | nil => exact done
  | cons party rest ih =>
    obtain ⟨told', h'⟩ := h.turn patient party
    exact ih h' (h.done_turn done party)

/-- Over any schedule all is done, or the end has come nearer, or nobody in it could do anything. -/
lemma Playing.progress_run (h : p.Playing database pipeline mode events told)
    (patient : ∀ n, mode ≠ .push (some n)) (schedule : List Party) :
    (p.run schedule = p ∧ ∀ party ∈ schedule, p.Idle party) ∨ (p.run schedule).rank < p.rank ∨
      (p.run schedule).session.Done := by
  induction schedule generalizing p told with
  | nil => exact .inl ⟨rfl, by simp⟩
  | cons party rest ih =>
    obtain ⟨told', h'⟩ := h.turn patient party
    have later := ih h'
    have split : p.run (party :: rest) = (p.turn party).run rest := rfl
    rw [split]
    rcases h.progress party with ⟨same, idle⟩ | nearer | done
    · rw [same] at later ⊢
      refine later.imp_left (fun ⟨still, others⟩ => ⟨still, ?_⟩)
      exact List.forall_mem_cons.2 ⟨idle, others⟩
    · rcases later with ⟨still, -⟩ | nearer' | done
      · exact .inr (.inl (by rw [still]; exact nearer))
      · exact .inr (.inl (nearer'.trans nearer))
      · exact .inr (.inr done)
    · exact .inr (.inr (h'.done_run patient done rest))

/-- After more rounds than the rank, in each of which every party has a turn, all is done. -/
theorem Playing.done_of_rounds (h : p.Playing database pipeline mode events told)
    (patient : ∀ n, mode ≠ .push (some n)) {rounds : List (List Party)}
    (fair : ∀ round ∈ rounds, ∀ party, party ∈ round) (enough : p.rank < rounds.length) :
    (p.run rounds.flatten).session.Done := by
  induction rounds generalizing p told with
  | nil => exact absurd enough (Nat.not_lt_zero _)
  | cons round rest ih =>
    obtain ⟨everyone, later⟩ := List.forall_mem_cons.1 fair
    obtain ⟨told', h'⟩ := h.run patient round
    have split : p.run (round :: rest).flatten = (p.run round).run rest.flatten := by
      rw [Play.run, Play.run, Play.run, List.flatten_cons, List.foldl_append]
    rw [split]
    rcases h.progress_run patient round with ⟨same, idle⟩ | nearer | done
    · have done := h.done_of_idle (fun party => idle party (everyone party))
      exact h'.done_run patient (same.symm ▸ done) rest.flatten
    · have few : (p.run round).rank < rest.length := by
        rw [List.length_cons] at enough
        omega
      exact ih h' later few
    · exact h'.done_run patient done rest.flatten

/-- The three kinds of consumers see one outcome, that of the events by the reference, at any pace
of producer, driver and consumer: at every moment a first part of it, and all of it once each of
them has had its turn often enough. After the end a stream only ends again. -/
theorem pace_independent (id : Nat) (database : String) (pipeline : Pipeline) (capacity : Nat)
    (streamBuffer : UInt64) (mode : DeliveryMode) (patient : ∀ n, mode ≠ .push (some n))
    (events : List StreamEvent) :
    let p := start id database pipeline capacity streamBuffer mode events
    let target := (reference database none events).expected mode pipeline
    (∀ schedule, ∃ k, (p.run schedule).session.seen <+: target ++ List.replicate k .finish) ∧
    ∃ enough, ∀ rounds : List (List Party),
      (∀ round ∈ rounds, ∀ party, party ∈ round) → enough ≤ rounds.length →
        ∃ k, (k = 0 ∨ mode = .pull) ∧
          (p.run rounds.flatten).session.seen = target ++ List.replicate k .finish := by
  intro p target
  have begun := playing_start id database pipeline capacity streamBuffer mode events
  refine ⟨fun schedule => ?_, p.rank + 1, fun rounds fair enough => ?_⟩
  · obtain ⟨told, h⟩ := begun.run patient schedule
    exact h.seen_begins
  · obtain ⟨told, h⟩ := begun.run patient rounds.flatten
    exact h.seen_of_done (begun.done_of_rounds patient fair enough)

/-- A stream with room for one item, over a channel with room for one event. -/
theorem pace_independent_stream :
    ∃ enough, ∀ rounds : List (List Party),
      (∀ round ∈ rounds, ∀ party, party ∈ round) → enough ≤ rounds.length →
        ∃ k, (k = 0 ∨ DeliveryMode.pull = .pull) ∧
          ((start 0 "" ⟨none, []⟩ 1 1 .pull
            [.response { rows := [{}] }, .failure .streamClosed]).run rounds.flatten).session.seen =
            [.row ⟨none, none, none, none, none, ""⟩, .failure .streamClosed, .finish] ++
              List.replicate k .finish :=
  (pace_independent 0 "" ⟨none, []⟩ 1 1 .pull (by simp)
    [.response { rows := [{}] }, .failure .streamClosed]).2

end Play

end DocumentQuery
