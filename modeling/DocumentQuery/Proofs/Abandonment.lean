import DocumentQuery.Proofs.FirstSignal

/-!
# Abandoned streams

A clone of the channel's controller may cancel the channel while the execution runs. The driver then
ends without a word, and nothing has been accepted. A future notices; a subscriber hears nothing
more, and a stream ends as if all its rows had come. These are the only executions that leave a
consumer without exactly one outcome that tells how they ended.
-/

namespace DocumentQuery

namespace Session

open Execution

variable {s : Session} {told : List Observation} {database : String}

/-- The driver ended while nothing had been accepted, and the consumer cannot know it: a subscriber
never, a stream unless its caller cancels before it has ended. -/
def Forsaken (s : Session) : Prop :=
  s.left = some .streaming ∧
    match s.execution.consumer with
    | .push _ _ => True
    | .buffer _ => False
    | .pull _ => s.execution.phase = .streaming ∨
        ∃ (rows : List Row) (rest : List Observation), s.seen = rows.map .row ++ .finish :: rest

/-! ### Polls after the driver has ended -/

lemma Upheld.polls (h : s.Upheld told) (n : Nat) :
    (s.run (List.replicate n .poll)).Upheld told := by
  induction n generalizing s with
  | zero => exact h
  | succ n ih => exact ih h.poll

lemma polls_aside (s : Session) (n : Nat) : Aside s (s.run (List.replicate n .poll)) := by
  induction n generalizing s with
  | zero => exact ⟨rfl, rfl, rfl, rfl⟩
  | succ n ih =>
    have first := s.poll_aside
    have rest := ih s.poll
    refine ⟨?_, rest.mode.trans first.mode, rest.left.trans first.left,
      rest.taken.trans first.taken⟩
    have execution := rest.execution
    rw [first.execution] at execution
    exact execution

lemma not_onlyRows_of_outcome {mode : DeliveryMode} {phase : Phase} {seen : List Observation}
    (h : OneOutcome mode phase seen) : ¬OnlyRows seen := by
  obtain ⟨rows, o, n, rfl, outcome, -⟩ := h
  refine not_onlyRows (fun row hrow => ?_)
  rw [hrow] at outcome
  exact outcome

/-- The end of a stream is not the first that its consumer has seen behind the rows. -/
def Ongoing (seen : List Observation) : Prop :=
  ∀ (rows : List Row) (rest : List Observation), seen ≠ rows.map .row ++ .finish :: rest

lemma ongoing_of_failure (got : List Row) (e : ExecutionError) (rest : List Observation) :
    Ongoing (got.map .row ++ .failure e :: rest) := by
  intro rows rest' h
  obtain ⟨-, same, -⟩ := rows_append_inj (by simp) (by simp) h
  cases same

lemma poll_present (pull : s.execution.isPull) : s.poll.present = s.present := by
  have polled := s.polled
  rw [isPull] at pull
  generalize s.poll = t at polled
  cases polled with
  | answered present consumer => rw [consumer] at pull; cases pull
  | absent => rfl
  | push => rfl
  | unanswered => rfl
  | pending => rfl
  | item => rfl
  | cancelled => rfl
  | finish => rfl

lemma polls_present (pull : s.execution.isPull) (n : Nat) :
    (s.run (List.replicate n .poll)).present = s.present := by
  induction n generalizing s with
  | zero => rfl
  | succ n ih => exact (ih (s := s.poll) (s.poll_aside.mode.trans pull)).trans (poll_present pull)

/-- A stream whose caller has cancelled, and which had not ended before, has its cancel reported. -/
lemma Upheld.poll_cancel (h : s.Upheld told) (present : s.present = true)
    (pull : s.execution.isPull) (cancelled : s.execution.phase = .cancelled)
    (ongoing : Ongoing s.seen) :
    ∃ (got : List Row) (n : Nat),
      s.poll.seen = got.map .row ++ .failure .cancelled :: List.replicate n .finish := by
  obtain ⟨stream, consumer⟩ := isPull_iff.1 pull
  have relays := h.relays_pull present consumer
  have seen : s.poll.seen =
      s.seen ++ [if stream.cancelReported then .finish else .failure .cancelled] := by
    simp only [Session.poll, if_pos present, consumer, Execution.pull, if_pos cancelled]
    cases stream.cancelReported <;> exact seen_append _
  rw [seen]
  cases relays.2 with
  | onward got fresh rows =>
    refine ⟨got, 0, ?_⟩
    rw [fresh, rows]
    rfl
  | failed got e n fresh decided => rw [cancelled] at decided; cases decided
  | ended got n fresh decided detached finish => exact absurd finish (ongoing got _)
  | cancelled got n reported _ error =>
    refine ⟨got, n + 1, ?_⟩
    rw [reported, error, List.replicate_succ', List.append_assoc]
    rfl
  | late got m n reported abandoned _ error =>
    rw [List.append_assoc] at error
    exact absurd error (ongoing got _)

lemma Upheld.polls_cancel (h : s.Upheld told) (present : s.present = true)
    (pull : s.execution.isPull) (cancelled : s.execution.phase = .cancelled)
    (ongoing : Ongoing s.seen) (n : Nat) :
    ∃ (got : List Row) (k : Nat), (s.run (List.replicate (n + 1) .poll)).seen =
      got.map .row ++ .failure .cancelled :: List.replicate k .finish := by
  induction n generalizing s with
  | zero => exact h.poll_cancel present pull cancelled ongoing
  | succ n ih =>
    obtain ⟨got, k, seen⟩ := h.poll_cancel present pull cancelled ongoing
    have ongoing' : Ongoing s.poll.seen := by
      rw [seen]
      exact ongoing_of_failure got .cancelled _
    have aside := s.poll_aside
    exact ih h.poll ((poll_present pull).trans present) (aside.mode.trans pull)
      (aside.phase.trans cancelled) ongoing'

/-! ### Who is left without an outcome -/

/-- Where something was accepted, or the consumer can know otherwise, there is one outcome. -/
lemma Upheld.outcome_of_polls_of_not_forsaken (h : s.Upheld told) (awaited : s.Awaited)
    (detached : s.execution.attached = false) {n : Nat} (enough : s.backlog < n)
    (known : ¬s.Forsaken) :
    OneOutcome s.execution.consumer.mode s.execution.phase
      (s.run (List.replicate n .poll)).seen := by
  have aside := s.polls_aside n
  have later := (h.polls n).orderly
  rw [Orderly, isPull, aside.left, aside.mode, aside.phase] at later
  by_cases left : s.left = some .streaming
  · cases consumer : s.execution.consumer with
    | push signals k => exact absurd ⟨left, by rw [consumer]; trivial⟩ known
    | buffer slot =>
      have mode : s.execution.consumer.mode = .buffer := by rw [consumer]; rfl
      have outcome := h.outcome_of_polls awaited detached (.inl (by simp [mode])) enough
      rw [consumer] at later
      rcases later with (rows | ⟨-, one⟩) | ⟨pull, -⟩
      · exact absurd rows outcome
      · exact one
      · cases pull
    | pull stream =>
      have pull : s.execution.isPull := by rw [isPull, consumer]; rfl
      have present := awaited.present_of_pull pull
      have cancelled : s.execution.phase = .cancelled := by
        refine (left ▸ h.stands).abandoned.2.resolve_left (fun streaming => known ⟨left, ?_⟩)
        rw [consumer]
        exact .inl streaming
      have ongoing : Ongoing s.seen := by
        intro rows rest finish
        refine known ⟨left, ?_⟩
        rw [consumer]
        exact .inr ⟨rows, rest, finish⟩
      obtain ⟨m, rfl⟩ : ∃ m, n = m + 1 := Nat.exists_eq_add_one.2 (Nat.zero_lt_of_lt enough)
      obtain ⟨got, k, seen⟩ := h.polls_cancel present pull cancelled ongoing m
      refine ⟨got, .failure .cancelled, k, seen, trivial, ?_, .inr rfl⟩
      simp [Observation.IsSuccess, cancelled]
  · have outcome := h.outcome_of_polls awaited detached (.inr left) enough
    rcases later with (rows | ⟨-, one⟩) | ⟨-, abandoned⟩
    · exact absurd rows outcome
    · exact one
    · exact absurd abandoned left

/-- A forsaken consumer gets no outcome, or one that passes for a success. -/
lemma Upheld.not_outcome_of_forsaken (h : s.Upheld told) (awaited : s.Awaited) (n : Nat)
    (forsaken : s.Forsaken) :
    ¬OneOutcome s.execution.consumer.mode s.execution.phase
      (s.run (List.replicate n .poll)).seen := by
  intro outcome
  obtain ⟨left, way⟩ := forsaken
  have aside := s.polls_aside n
  have upheld := h.polls n
  have phase := (left ▸ h.stands).abandoned.2
  cases consumer : s.execution.consumer with
  | buffer slot => rw [consumer] at way; exact way
  | push signals k =>
    have mode : (s.run (List.replicate n .poll)).execution.consumer.mode = .push k :=
      aside.mode.trans (by rw [consumer]; rfl)
    have plain := upheld.plain (.inr (aside.left.trans left))
    obtain ⟨-, -, -, -, all⟩ := upheld.relays_push mode
    exact not_onlyRows_of_outcome outcome (all ▸ plain)
  | pull stream =>
    have pull : s.execution.isPull := by rw [isPull, consumer]; rfl
    have unfinished (rows : List Row) (rest : List Observation) :
        (s.run (List.replicate n .poll)).seen ≠ rows.map .row ++ .finish :: rest := by
      intro finish
      obtain ⟨got, o, k, seen, shape, success, -⟩ := outcome
      have noRow (row : Row) : o ≠ .row row := by
        rintro rfl
        exact shape
      obtain ⟨-, rfl, -⟩ := rows_append_inj noRow (by simp) (seen.symm.trans finish)
      have completed := success.1 trivial
      rcases phase with h | h <;> rw [h] at completed <;> cases completed
    rw [consumer] at way
    rcases way with streaming | ⟨rows, rest, finish⟩
    · have present := (polls_present pull n).trans (awaited.present_of_pull pull)
      obtain ⟨later, consumer'⟩ := isPull_iff.1 (aside.mode.trans pull)
      have served := (upheld.relays_pull present consumer').2
      rw [aside.phase, streaming] at served
      cases served with
      | onward got fresh rows => exact not_onlyRows_of_outcome outcome ⟨got, rows⟩
      | failed got e n fresh decided => cases decided
      | ended got m fresh decided _ finish => exact unfinished got _ finish
      | cancelled got m reported decided => cases decided
      | late got m k reported abandoned decided => cases decided
    · obtain ⟨more, hmore⟩ := s.run_trace (List.replicate n .poll)
      apply unfinished rows (rest ++ observations more)
      rw [seen, ← hmore, observations_append, show observations s.trace = s.seen from rfl, finish]
      simp

/-- Once the driver of a session has ended, and its consumer was not dropped, the consumer gets
exactly one outcome, which passes for a success exactly when a completion was accepted, unless the
execution is forsaken. Only an abort forsakes an execution. -/
theorem outcome_iff_not_forsaken (id : Nat) (database : String) (pipeline : Pipeline)
    (capacity : Nat) (streamBuffer : UInt64) (mode : DeliveryMode) (actions : List Action)
    (kept : .drop ∉ actions) :
    let s := (start id database pipeline capacity streamBuffer mode).run actions
    (s.execution.task = .ended → ∀ n, s.backlog < n →
      (OneOutcome mode s.execution.phase (s.run (List.replicate n .poll)).seen ↔ ¬s.Forsaken)) ∧
    (s.Forsaken → .abort ∈ actions) := by
  intro s
  have upheld_start := upheld_start id database pipeline capacity streamBuffer mode
  have follows_start := follows_start id database pipeline capacity streamBuffer mode
  have kind : s.execution.consumer.mode = mode := by
    rw [(follows_start.fixed_run upheld_start actions).1]
    cases mode <;> rfl
  have awaited : s.Awaited := follows_start.awaited_run upheld_start awaited_start kept
  obtain ⟨told, upheld, -⟩ := follows_start.run upheld_start actions
  refine ⟨fun ended n enough => ⟨fun outcome forsaken => ?_, fun known => ?_⟩, fun forsaken => ?_⟩
  · rw [← kind] at outcome
    exact upheld.not_outcome_of_forsaken awaited n forsaken outcome
  · rw [← kind]
    have detached := upheld.stands.detached ended
    exact upheld.outcome_of_polls_of_not_forsaken awaited detached enough known
  · by_contra calm
    obtain ⟨-, -, -, still, -⟩ :=
      (guarded_start id database pipeline capacity streamBuffer mode).run calm
    exact still.stayed forsaken.1

/-- A future whose transport gives up before the first row. -/
theorem outcome_iff_not_forsaken_future :
    let s := (start 0 "" ⟨none, []⟩ 1 1 .buffer).run [.abort, .drive]
    OneOutcome .buffer s.execution.phase (s.run [.poll]).seen :=
  ((outcome_iff_not_forsaken 0 "" ⟨none, []⟩ 1 1 .buffer [.abort, .drive] (by simp)).1 rfl 1
    Nat.zero_lt_one).2 (fun forsaken => forsaken.2)

/-- A transport gives up behind its first row. The stream gives that row and ends, without an error
and without a completion, and a subscriber hears of the row only. -/
theorem aborted_after_row :
    let given : List Action :=
      [.send (.response { rows := [{}] }), .drive, .drive, .drive, .drive, .abort, .drive]
    let pulled := (start 0 "" ⟨none, []⟩ 1 1 .pull).run given
    let pushed := (start 0 "" ⟨none, []⟩ 1 1 (.push none)).run given
    (pulled.execution.task = .ended ∧ pulled.backlog < 2 ∧
      ¬OneOutcome .pull pulled.execution.phase (pulled.run (List.replicate 2 .poll)).seen) ∧
    (pushed.execution.task = .ended ∧ pushed.backlog < 1 ∧
      ¬OneOutcome (.push none) pushed.execution.phase
        (pushed.run (List.replicate 1 .poll)).seen) := by
  refine ⟨⟨rfl, Nat.one_lt_two, ?_⟩, rfl, Nat.zero_lt_one, ?_⟩
  · rintro ⟨rows, o, n, seen, shape, success, -⟩
    have noRow (row : Row) : o ≠ .row row := by
      rintro rfl
      exact shape
    let row : Row := ⟨none, none, none, none, none, ""⟩
    have split : [row].map .row ++ .finish :: [] =
        rows.map Observation.row ++ o :: List.replicate n .finish := seen
    obtain ⟨-, rfl, -⟩ := rows_append_inj (by simp) noRow split
    cases success.1 trivial
  · intro outcome
    exact not_onlyRows_of_outcome outcome ⟨[⟨none, none, none, none, none, ""⟩], rfl⟩

end Session

end DocumentQuery
