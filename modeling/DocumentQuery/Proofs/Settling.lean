import DocumentQuery.Proofs.Observed

/-!
# What polls come to

Polls and drops leave the driver's side of a session as it is, and what has been seen is never
unseen. Once the driver has let go of a consumer that is there, the consumer gets its outcome after
as many polls as there are items in its queue, and one more.
-/

namespace DocumentQuery

namespace Session

open Execution

variable {s : Session} {told : List Observation}

/-! ### Steps that are none of the driver -/

/-- The driver's side of a session is as it was; of the consumer's side only the kind is. -/
structure Aside (s t : Session) : Prop where
  execution : t.execution = { s.execution with consumer := t.execution.consumer }
  mode : t.execution.consumer.mode = s.execution.consumer.mode
  left : t.left = s.left
  taken : t.taken = s.taken

namespace Aside

variable {t : Session} (h : Aside s t)
include h

lemma phase : t.execution.phase = s.execution.phase := by rw [h.execution]

lemma channel : t.execution.channel = s.execution.channel := by rw [h.execution]

lemma task : t.execution.task = s.execution.task := by rw [h.execution]

lemma attached : t.execution.attached = s.execution.attached := by rw [h.execution]

lemma pipeline : t.execution.pipeline = s.execution.pipeline := by rw [h.execution]

end Aside

lemma poll_aside (s : Session) : Aside s s.poll := by
  have polled := s.polled
  generalize s.poll = t at polled
  cases polled with
  | absent => exact ⟨rfl, rfl, rfl, rfl⟩
  | push => exact ⟨rfl, rfl, rfl, rfl⟩
  | unanswered => exact ⟨rfl, rfl, rfl, rfl⟩
  | answered => exact ⟨rfl, rfl, rfl, rfl⟩
  | pending => exact ⟨rfl, rfl, rfl, rfl⟩
  | item present consumer => exact ⟨rfl, by rw [consumer]; rfl, rfl, rfl⟩
  | cancelled present consumer => exact ⟨rfl, by rw [consumer]; rfl, rfl, rfl⟩
  | finish => exact ⟨rfl, rfl, rfl, rfl⟩

lemma drop_aside (s : Session) : Aside s s.drop := by
  rw [drop]
  split
  · exact ⟨rfl, rfl, rfl, rfl⟩
  · exact ⟨rfl, Consumer.mode_drop _, rfl, rfl⟩

lemma drop_trace (s : Session) : s.drop.trace = s.trace := by
  rw [drop]
  split <;> rfl

/-! ### What an action comes to -/

/-- What an action of a party does to a session that upholds the invariant. -/
inductive Acted (s : Session) : Action → Session → Prop where
  /-- The channel is all that changes, if anything. -/
  | outside {action} (c : Channel)
      (kept : s.execution.channel.cancelled = true → c.cancelled = true)
      (quiet : action ≠ .abort → c.cancelled = s.execution.channel.cancelled) :
      Acted s action { s with execution := { s.execution with channel := c } }
  | moved {y effects news} (left : s.left = none) (move : s.execution.Move y effects news) :
      Acted s .drive (s.after y)
  | polled : Acted s .poll s.poll
  | refused (decided : s.execution.phase ≠ .streaming) :
      Acted s .cancel { s with trace := s.trace ++ [.cancel false] }
  | won (undecided : s.execution.phase = .streaming) :
      Acted s .cancel
        { s with
          execution := { s.execution with
            phase := .cancelled, channel := s.execution.channel.cancel }
          trace := s.trace ++ [.cancel true] }
  | dropped : Acted s .drop s.drop

lemma acted (upheld : s.Upheld told) (action : Action) : s.Acted action (s.act action) := by
  cases action with
  | send event =>
    rw [act]
    split
    · have signal := s.execution.channel.send_cancelled event
      exact .outside _ signal.trans (fun _ => signal)
    · exact .outside s.execution.channel id (fun _ => rfl)
  | close => exact .outside _ id (fun _ => rfl)
  | drive =>
    cases step : s.execution.step with
    | none =>
      rw [act, drive, step]
      exact .outside s.execution.channel id (fun _ => rfl)
    | some next =>
      obtain ⟨y, effects⟩ := next
      obtain ⟨news, move⟩ := step_move upheld.stands step
      rw [act, drive_eq step]
      exact .moved (upheld.stands.left_eq_none step) move
  | poll => exact .polled
  | cancel =>
    rw [act]
    by_cases undecided : s.execution.phase = .streaming
    · rw [cancel_eq_of_undecided undecided]
      exact .won undecided
    · rw [cancel_eq_of_decided undecided]
      exact .refused undecided
  | drop => exact .dropped
  | abort => exact .outside _ (fun _ => rfl) (fun calm => absurd rfl calm)

lemma act_fixed (upheld : s.Upheld told) (action : Action) :
    (s.act action).execution.consumer.mode = s.execution.consumer.mode ∧
      (s.act action).execution.pipeline = s.execution.pipeline := by
  have acted := acted upheld action
  generalize s.act action = t at acted
  cases acted with
  | outside => exact ⟨rfl, rfl⟩
  | moved left move => exact ⟨move.mode_eq, move.pipeline_eq⟩
  | polled => exact ⟨s.poll_aside.mode, s.poll_aside.pipeline⟩
  | refused => exact ⟨rfl, rfl⟩
  | won => exact ⟨rfl, rfl⟩
  | dropped => exact ⟨s.drop_aside.mode, s.drop_aside.pipeline⟩

/-! ### Traces only grow -/

lemma poll_trace (s : Session) : s.trace <+: s.poll.trace := by
  have polled := s.polled
  generalize s.poll = t at polled
  cases polled with
  | absent => exact List.prefix_rfl
  | push => exact List.prefix_rfl
  | unanswered => exact List.prefix_rfl
  | answered => exact List.prefix_append _ _
  | pending => exact List.prefix_rfl
  | item => exact List.prefix_append _ _
  | cancelled => exact List.prefix_append _ _
  | finish => exact List.prefix_append _ _

lemma act_trace (s : Session) (action : Action) : s.trace <+: (s.act action).trace := by
  cases action with
  | send event =>
    rw [act]
    split <;> exact List.prefix_rfl
  | close => exact List.prefix_rfl
  | drive =>
    rw [act, drive]
    split
    · exact List.prefix_rfl
    · exact List.prefix_append _ _
  | poll => exact s.poll_trace
  | cancel => exact List.prefix_append _ _
  | drop => exact s.drop_trace.symm ▸ List.prefix_rfl
  | abort => exact List.prefix_rfl

lemma run_trace (s : Session) (actions : List Action) : s.trace <+: (s.run actions).trace := by
  induction actions generalizing s with
  | nil => exact List.prefix_rfl
  | cons action rest ih => exact (s.act_trace action).trans (ih (s.act action))

lemma outcome_of_trace {t : Session} (h : s.trace <+: t.trace) (outcome : ¬OnlyRows s.seen) :
    ¬OnlyRows t.seen := by
  intro rows
  obtain ⟨more, hmore⟩ := h
  refine outcome (onlyRows_iff.2 (fun o ho => onlyRows_iff.1 rows o ?_))
  rw [seen, ← hmore, observations_append]
  exact List.mem_append_left _ ho

/-! ### Consumers that are not dropped -/

/-- A consumer that is gone is a future that has been resolved. -/
def Awaited (s : Session) : Prop :=
  s.present = false → s.execution.consumer.mode = .buffer ∧ ¬OnlyRows s.seen

lemma not_onlyRows_see {t : Session} {o : Observation} (ho : ∀ row, o ≠ .row row)
    (seen : t.seen = s.seen ++ [o]) : ¬OnlyRows t.seen := by
  intro rows
  rw [seen] at rows
  obtain ⟨row, hrow⟩ := onlyRows_iff.1 rows o (by simp)
  exact ho row hrow

lemma Awaited.poll (h : s.Awaited) : s.poll.Awaited := by
  intro absent
  have polled := s.polled
  generalize s.poll = t at polled absent
  cases polled with
  | absent => exact h absent
  | push => exact h absent
  | unanswered => exact h absent
  | @answered slot a present consumer =>
    refine ⟨?_, not_onlyRows_see (Observation.ofAnswer_ne_row a) (seen_append _)⟩
    rw [show (s.see (.ofAnswer a)).execution.consumer = _ from consumer]
    rfl
  | pending => exact h absent
  | item present => cases present.symm.trans absent
  | cancelled present => cases present.symm.trans absent
  | finish present => cases present.symm.trans absent

lemma Awaited.act (h : s.Awaited) (upheld : s.Upheld told) {action : Action}
    (kept : action ≠ .drop) : (s.act action).Awaited := by
  have fixed := act_fixed upheld action
  have trace := s.act_trace action
  have acted := acted upheld action
  generalize s.act action = t at acted fixed trace
  have later (present : t.present = s.present) : t.Awaited := by
    intro absent
    obtain ⟨mode, outcome⟩ := h (present.symm.trans absent)
    exact ⟨fixed.1.trans mode, outcome_of_trace trace outcome⟩
  cases acted with
  | outside => exact later rfl
  | moved => exact later rfl
  | polled => exact h.poll
  | refused => exact later rfl
  | won => exact later rfl
  | dropped => exact absurd rfl kept

lemma awaited_start {id : Nat} {database : String} {pipeline : Pipeline} {capacity : Nat}
    {streamBuffer : UInt64} {mode : DeliveryMode} :
    (start id database pipeline capacity streamBuffer mode).Awaited := by
  simp [Awaited, start]

lemma Awaited.present_of_undecided (h : s.Awaited) (upheld : s.Upheld told)
    (undecided : s.execution.phase = .streaming) (on : s.left ≠ some .streaming) :
    s.present = true := by
  by_contra absent
  exact (h (Bool.eq_false_iff.2 absent)).2 (upheld.rows_of_undecided undecided on)

lemma Awaited.present_of_pull (h : s.Awaited) (pull : s.execution.isPull) : s.present = true := by
  by_contra absent
  have mode := (h (Bool.eq_false_iff.2 absent)).1
  rw [pull] at mode
  cases mode

/-! ### Polls -/

/-- The items that wait for the consumer of a stream. -/
def backlog (s : Session) : Nat :=
  match s.execution.consumer with
  | .pull stream => stream.queue.length
  | _ => 0

lemma backlog_eq_zero (prompt : ¬s.execution.isPull) : s.backlog = 0 := by
  unfold backlog
  cases consumer : s.execution.consumer with
  | push signals n => rfl
  | buffer slot => rfl
  | pull stream => exact absurd (by rw [isPull, consumer]; rfl) prompt

/-- A poll of a consumer that the driver has let go of gives it an outcome or an item. -/
lemma Upheld.poll_settles (h : s.Upheld told) (awaited : s.Awaited)
    (detached : s.execution.attached = false)
    (on : (∀ n, s.execution.consumer.mode ≠ .push n) ∨ s.left ≠ some .streaming) :
    ¬OnlyRows s.poll.seen ∨ s.poll.backlog < s.backlog := by
  have polled := s.polled
  generalize s.poll = t at polled
  cases polled with
  | absent gone => exact .inl (awaited gone).2
  | @push signals n consumer =>
    have mode : s.execution.consumer.mode = .push n := by rw [consumer]; rfl
    obtain ⟨-, -, present, -, all⟩ := h.relays_push mode
    have left := on.resolve_left (fun noPush => noPush n mode)
    obtain ⟨rows, o, k, hseen, outcome, -, -⟩ :=
      concluded_push consumer (h.concluded present detached left)
    left
    rw [all, hseen]
    exact not_onlyRows (fun row hrow => by rw [hrow] at outcome; exact outcome)
  | @unanswered slot consumer silent =>
    rw [answer_eq consumer, detached] at silent
    cases held : slot.answer with
    | none => simp [held] at silent
    | some a => simp [held] at silent
  | @answered slot a =>
    exact .inl (not_onlyRows_see (Observation.ofAnswer_ne_row a) (seen_append _))
  | pending consumer open_ empty attached => exact absurd attached (ne_true_of_eq_false detached)
  | @item stream i rest present consumer open_ first =>
    right
    simp [backlog, consumer, first]
  | cancelled => exact .inl (not_onlyRows_see (by simp) (seen_append _))
  | finish => exact .inl (not_onlyRows_see (by simp) (seen_append _))

/-- Polls bring the outcome of an execution whose driver has let go of the consumer. -/
theorem Upheld.outcome_of_polls (h : s.Upheld told) (awaited : s.Awaited)
    (detached : s.execution.attached = false)
    (on : (∀ n, s.execution.consumer.mode ≠ .push n) ∨ s.left ≠ some .streaming) {n : Nat}
    (enough : s.backlog < n) : ¬OnlyRows (s.run (List.replicate n .poll)).seen := by
  induction n generalizing s with
  | zero => exact absurd enough (Nat.not_lt_zero _)
  | succ n ih =>
    rcases h.poll_settles awaited detached on with outcome | fewer
    · exact outcome_of_trace (s.poll.run_trace (List.replicate n .poll)) outcome
    · have aside := s.poll_aside
      have few : s.poll.backlog < n := by omega
      refine ih (s := s.poll) h.poll awaited.poll (aside.attached.trans detached) ?_ few
      rw [aside.mode, aside.left]
      exact on

end Session

end DocumentQuery
