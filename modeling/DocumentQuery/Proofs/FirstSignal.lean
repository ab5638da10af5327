import DocumentQuery.Proofs.Reference

/-!
# The first signal that ends an execution

As long as the channel is cancelled by the driver and by the holders of a handle only, a driver
never leaves a running execution. Of all calls of `cancel` at most one counts, and none after a
completion or an error has been accepted. After the one that counts the consumer sees the cancel and
nothing else, however many rows are waiting, and a stream ends with it.
-/

namespace DocumentQuery

namespace Execution

variable {x y : Execution} {effects : List Effect} {news : List Observation} {left : Option Phase}

/-- As long as a running execution has no signal, its driver neither gives one nor ends. -/
lemma Move.calm (h : x.Move y effects news) (stands : x.Stands left)
    (calm : x.phase = .streaming → x.channel.cancelled = false) (undecided : y.phase = .streaming) :
    y.channel.cancelled = false ∧ y.task ≠ .ended := by
  have before : x.phase = .streaming := by
    by_contra decided
    exact decided ((h.phase_eq decided).symm.trans undecided)
  have live := calm before
  cases h with
  | leave listening signal => rw [live] at signal; cases signal
  | response => exact ⟨live, by simp⟩
  | skip => exact ⟨live, by simp⟩
  | decode => exact ⟨live, by simp⟩
  | hand => exact ⟨live, by simp⟩
  | handCancelled => cases undecided
  | lose => cases undecided
  | settle attached decides prompt =>
    exact absurd undecided (proceed_phase_ne decides.phase_ne)
  | await attached decides pull => exact absurd undecided decides.phase_ne
  | report waiting pull accepting room =>
    exact absurd undecided (proceed_phase_ne (stands.decided_of_failing waiting))
  | refuse waiting pull closed =>
    exact absurd undecided (proceed_phase_ne (stands.decided_of_failing waiting))

lemma exit_eq_streaming (h : x.exit = some .streaming) :
    x.task = .ended ∧ x.phase = .streaming := by
  unfold exit at h
  split at h
  · exact ⟨‹_›, Option.some.inj h⟩
  · cases h

/-! ### The driver of a cancelled execution -/

/-- The steps after which the driver of a cancelled execution lets go of a consumer that does not
pull. -/
def lag (x : Execution) : Nat :=
  if x.attached then
    match x.task with
    | .listening => 1
    | _ => 2
  else 0

lemma lag_eq_zero (h : x.lag = 0) : x.attached = false := by
  unfold lag at h
  split at h
  · split at h <;> cases h
  · exact Bool.eq_false_iff.2 ‹_›

lemma lag_of_detached (h : x.attached = false) : x.lag = 0 := by
  rw [lag, if_neg (by simp [h])]

lemma lag_le_two : x.lag ≤ 2 := by
  unfold lag
  split
  · split <;> simp
  · simp

lemma Stands.step_of_cancelled (stands : x.Stands left) (cancelled : x.phase = .cancelled)
    (attached : x.attached = true) (prompt : ¬x.isPull) :
    ∃ y effects, x.step = some (y, effects) := by
  cases stands with
  | running undecided => rw [cancelled] at undecided; cases undecided
  | reporting e next waiting _ pull => exact absurd pull prompt
  | winding decided detached => rw [attached] at detached; cases detached
  | finished final ended detached => rw [attached] at detached; cases detached
  | cancelling _ _ working signal =>
    cases task : x.task with
    | listening =>
      simp only [step, task, listen, if_pos signal, if_pos (And.intro cancelled attached)]
      exact ⟨_, _, rfl⟩
    | delivering rows =>
      cases rows with
      | nil => simp only [step, task]; exact ⟨_, _, rfl⟩
      | cons payload rest => simp only [step, task]; exact ⟨_, _, rfl⟩
    | offering row rest =>
      simp only [step, task, offer, if_pos signal]
      exact ⟨_, _, rfl⟩
    | failing e next => rw [task] at working; exact working.elim
    | ended => rw [task] at working; exact working.elim

/-- Each of its steps brings the driver of a cancelled execution nearer to letting go. -/
lemma Move.lag_lt (h : x.Move y effects news) (stands : x.Stands left)
    (cancelled : x.phase = .cancelled) (attached : x.attached = true) (prompt : ¬x.isPull) :
    y.lag < x.lag := by
  have some_left : 0 < x.lag := by
    refine Nat.pos_of_ne_zero (fun h => ?_)
    rw [lag_eq_zero h] at attached
    cases attached
  cases h with
  | leave listening signal silent => exact absurd ⟨cancelled, attached⟩ silent
  | response listening live first undecided => rw [cancelled] at undecided; cases undecided
  | skip busy working idle =>
    have two : x.lag = 2 := by
      rw [lag, if_pos attached]
      split
      · contradiction
      · rfl
    rw [two]
    simp [lag, attached]
  | decode delivering undecided => rw [cancelled] at undecided; cases undecided
  | hand offering live takes =>
    rw [(stands.offering_live offering live).1] at cancelled
    cases cancelled
  | handCancelled offering live undecided => rw [cancelled] at undecided; cases undecided
  | lose offering live undecided => rw [cancelled] at undecided; cases undecided
  | settle attached decides _ =>
    rw [lag_of_detached proceed_attached]
    exact some_left
  | await attached decides pull => exact absurd pull prompt
  | report =>
    rw [lag_of_detached proceed_attached]
    exact some_left
  | refuse =>
    rw [lag_of_detached proceed_attached]
    exact some_left

end Execution

namespace Session

open Execution

variable {s : Session} {told : List Observation}

/-! ### Without an abort -/

/-- Nobody but the driver and the caller has cancelled the channel. -/
structure Calm (s : Session) : Prop where
  live : s.execution.phase = .streaming → s.execution.channel.cancelled = false
  stayed : s.left ≠ some .streaming

lemma Calm.after {y : Execution} {effects : List Effect} {news : List Observation} (h : s.Calm)
    (upheld : s.Upheld told) (move : s.execution.Move y effects news) : (s.after y).Calm where
  live undecided := (move.calm upheld.stands h.live undecided).1
  stayed exit := by
    obtain ⟨ended, undecided⟩ := exit_eq_streaming exit
    exact (move.calm upheld.stands h.live undecided).2 ended

lemma Calm.aside {t : Session} (h : s.Calm) (aside : Aside s t) : t.Calm where
  live := by
    rw [aside.phase, aside.channel]
    exact h.live
  stayed := aside.left ▸ h.stayed

lemma Calm.act (h : s.Calm) (upheld : s.Upheld told) {action : Action} (calm : action ≠ .abort) :
    (s.act action).Calm := by
  have acted := acted upheld action
  generalize s.act action = t at acted
  cases acted with
  | outside c kept quiet =>
    exact ⟨fun undecided => (quiet calm).trans (h.live undecided), h.stayed⟩
  | moved left move => exact h.after upheld move
  | polled => exact h.aside s.poll_aside
  | refused => exact ⟨h.live, h.stayed⟩
  | won => exact ⟨by simp, h.stayed⟩
  | dropped => exact h.aside s.drop_aside

/-! ### What has been accepted -/

lemma phase_act (upheld : s.Upheld told) (action : Action)
    (decided : s.execution.phase ≠ .streaming) :
    (s.act action).execution.phase = s.execution.phase := by
  have acted := acted upheld action
  generalize s.act action = t at acted
  cases acted with
  | outside => rfl
  | moved left move => exact move.phase_eq decided
  | polled => exact s.poll_aside.phase
  | refused => rfl
  | won undecided => exact absurd undecided decided
  | dropped => exact s.drop_aside.phase

/-! ### The cancel that counts -/

/-- What a consumer of the given kind may see after a cancel that counts. -/
def Hushed (mode : DeliveryMode) (seen : List Observation) : Prop :=
  seen = [] ∨
    ∃ n, seen = .failure .cancelled :: List.replicate n .finish ∧ (n = 0 ∨ mode = .pull)

/-- One cancel counted. The consumer had seen rows until then, and from then on it is hushed. -/
def Won (mode : DeliveryMode) (trace : List Occurrence) : Prop :=
  ∃ before later, trace = before ++ .cancel true :: later ∧ .cancel true ∉ before ∧
    .cancel true ∉ later ∧ OnlyRows (observations before) ∧ Hushed mode (observations later)

/-- No cancel has counted, or the execution was cancelled by one. -/
def Ruled (s : Session) : Prop :=
  .cancel true ∉ s.trace ∨
    s.execution.phase = .cancelled ∧ Won s.execution.consumer.mode s.trace

lemma Hushed.eq_nil {mode : DeliveryMode} {before seen : List Observation} (h : Hushed mode seen)
    (rows : OnlyRows (before ++ seen)) : seen = [] := by
  rcases h with rfl | ⟨n, rfl, -⟩
  · rfl
  · obtain ⟨row, hrow⟩ := onlyRows_iff.1 rows (.failure .cancelled) (by simp)
    cases hrow

/-- What can come after a cancel that counted: nothing, or, where only rows have been seen, the
cancel. -/
lemma Won.append {mode : DeliveryMode} {trace more : List Occurrence} (h : Won mode trace)
    (uncancelled : .cancel true ∉ more)
    (next : observations more = [] ∨ observations more = [.failure .cancelled] ∧
      OnlyRows (observations trace)) : Won mode (trace ++ more) := by
  obtain ⟨before, later, rfl, hb, hl, rows, hushed⟩ := h
  refine ⟨before, later ++ more, by simp, hb, by simp [hl, uncancelled], rows, ?_⟩
  rw [observations_append]
  rcases next with silent | ⟨cancel, all⟩
  · rw [silent, List.append_nil]
    exact hushed
  · rw [observations_append] at all
    have nothing : observations later = [] := hushed.eq_nil all
    rw [nothing, cancel]
    exact .inr ⟨0, rfl, .inl rfl⟩

lemma Won.append_finish {trace : List Occurrence} (h : Won .pull trace)
    (outcome : ¬OnlyRows (observations trace)) : Won .pull (trace ++ [.seen .finish]) := by
  obtain ⟨before, later, rfl, hb, hl, rows, hushed⟩ := h
  refine ⟨before, later ++ [.seen .finish], by simp, hb, by simp [hl], rows, ?_⟩
  rw [observations_append]
  rcases hushed with nothing | ⟨n, cancel, -⟩
  · refine absurd ?_ outcome
    rw [observations_append,
      show observations (.cancel true :: later) = observations later from rfl,
      nothing, List.append_nil]
    exact rows
  · refine .inr ⟨n + 1, ?_, .inr rfl⟩
    rw [cancel, observations_seen, List.replicate_succ']
    rfl

/-! ### What each action does to the cancel that counts -/

lemma after_trace {y : Execution} {effects : List Effect} {news : List Observation}
    (move : s.execution.Move y effects news) :
    ∃ more, (s.after y).trace = s.trace ++ more ∧
      (.cancel true ∉ more ∧ (observations more = [] ∨
        (∃ signals n, s.execution.consumer = .push signals n) ∧ observations more = news) ∨
      s.execution.phase = .streaming ∧ y.phase = .cancelled ∧
        ∃ row, more = [.seen (.row row), .cancel true]) := by
  by_cases noPush : ∀ n, s.execution.consumer.mode ≠ .push n
  · rw [← move.mode_eq] at noPush
    refine ⟨[], ?_, .inl ⟨by simp, .inl rfl⟩⟩
    rw [after, Consumer.signals_of_mode noPush, List.drop_nil]
    rfl
  · cases consumer : s.execution.consumer with
    | push signals n =>
      obtain ⟨new, hy, rfl, calls⟩ := move.push consumer
      refine ⟨new.flatMap PushSignal.occurrences, ?_, ?_⟩
      · rw [after, hy, consumer]
        simp [Consumer.signals]
      · cases calls with
        | cancels row undecided cancelled => exact .inr ⟨undecided, cancelled, row, rfl⟩
        | quiet uncancelled =>
          refine .inl ⟨?_, .inr ⟨⟨signals, n, rfl⟩, observations_occurrences new⟩⟩
          intro won
          obtain ⟨signal, mem, hsignal⟩ := List.mem_flatMap.1 won
          cases signal with
          | next row answer =>
            cases answer with
            | none => simp [PushSignal.occurrences] at hsignal
            | some won => exact uncancelled row won mem
          | failed e => simp [PushSignal.occurrences] at hsignal
          | completed t => simp [PushSignal.occurrences] at hsignal
    | buffer slot => exact absurd (by simp [consumer, Consumer.mode]) noPush
    | pull stream => exact absurd (by simp [consumer, Consumer.mode]) noPush

lemma Ruled.after {y : Execution} {effects : List Effect} {news : List Observation} (h : s.Ruled)
    (upheld : s.Upheld told) (calm : s.Calm) (move : s.execution.Move y effects news) :
    (s.after y).Ruled := by
  obtain ⟨more, htrace, next⟩ := after_trace move
  rcases next with ⟨uncancelled, silent⟩ | ⟨undecided, cancelled, row, rfl⟩
  · rcases h with unwon | ⟨cancelled, won⟩
    · left
      rw [htrace]
      simp [unwon, uncancelled]
    · have decided : s.execution.phase ≠ .streaming := by simp [cancelled]
      refine .inr ⟨(move.phase_eq decided).trans cancelled, ?_⟩
      rw [show (s.after y).execution.consumer.mode = _ from move.mode_eq, htrace]
      apply won.append uncancelled
      rcases silent with nothing | ⟨⟨signals, n, consumer⟩, hnews⟩
      · exact .inl nothing
      · rw [hnews]
        refine (move.news_cancelled upheld.stands consumer cancelled).imp_right (fun cancel => ?_)
        refine ⟨cancel, ?_⟩
        have attached := move.attached_of_news upheld.stands (by simp [cancel])
        have push : s.execution.consumer.mode = .push n := by rw [consumer]; rfl
        obtain ⟨-, -, -, -, all⟩ := upheld.relays_push push
        rw [show observations s.trace = told from all]
        exact upheld.plain (.inl attached)
  · have unwon : .cancel true ∉ s.trace := by
      refine h.resolve_right (fun won => ?_)
      rw [undecided] at won
      cases won.1
    have rows : OnlyRows s.seen := upheld.rows_of_undecided undecided calm.stayed
    refine .inr ⟨cancelled, s.trace ++ [.seen (.row row)], [], ?_, ?_, by simp, ?_, .inl rfl⟩
    · rw [htrace]
      simp
    · simp [unwon]
    · rw [observations_append]
      exact OnlyRows.append rows (.inr ⟨row, rfl⟩)

lemma Ruled.aside {t : Session} (h : s.Ruled) (aside : Aside s t) (trace : t.trace = s.trace) :
    t.Ruled := by
  rw [Ruled, aside.phase, aside.mode, trace]
  exact h

lemma Ruled.unwon_append {t : Session} {o : Observation} (unwon : .cancel true ∉ s.trace)
    (trace : t.trace = s.trace ++ [.seen o]) : t.Ruled := by
  left
  rw [trace]
  simp [unwon]

lemma Ruled.poll (h : s.Ruled) (upheld : s.Upheld told) (calm : s.Calm) : s.poll.Ruled := by
  have polled := s.polled
  generalize s.poll = t at polled
  rcases h with unwon | ⟨cancelled, won⟩
  · cases polled with
    | absent => exact .inl unwon
    | push => exact .inl unwon
    | unanswered => exact .inl unwon
    | answered => exact Ruled.unwon_append unwon rfl
    | pending => exact .inl unwon
    | item => exact Ruled.unwon_append unwon rfl
    | cancelled => exact Ruled.unwon_append unwon rfl
    | finish => exact Ruled.unwon_append unwon rfl
  · cases polled with
    | absent => exact .inr ⟨cancelled, won⟩
    | push => exact .inr ⟨cancelled, won⟩
    | unanswered => exact .inr ⟨cancelled, won⟩
    | @answered slot a present consumer answer =>
      have relays := upheld.relays_buffer present consumer
      have seen : observations s.trace = [] := relays.2.1
      obtain ⟨-, ⟨abandoned, -⟩ | ⟨v, admits, rfl⟩⟩ :=
        upheld.answer_fits present consumer answer
      · exact absurd abandoned calm.stayed
      · rw [cancelled] at admits
        cases admits
        exact .inr ⟨cancelled, won.append (by simp) (.inr ⟨rfl, seen ▸ onlyRows_nil⟩)⟩
    | pending => exact .inr ⟨cancelled, won⟩
    | item present consumer open_ => exact absurd cancelled open_
    | @cancelled stream present consumer _ fresh =>
      have relays := upheld.relays_pull present consumer
      rw [consumer] at won
      refine .inr ⟨cancelled, won.append (by simp) (.inr ⟨rfl, ?_⟩)⟩
      cases relays.2 with
      | onward got _ rows => exact ⟨got, rows⟩
      | failed got e n _ decided => rw [cancelled] at decided; cases decided
      | ended got n _ decided =>
        rw [cancelled] at decided
        exact absurd (decided.resolve_left (by simp)) calm.stayed
      | cancelled got n reported => rw [fresh] at reported; cases reported
      | late got m n reported => rw [fresh] at reported; cases reported
    | @finish stream present consumer done =>
      obtain ⟨-, reported⟩ := done.resolve_right (fun open_ => open_.1 cancelled)
      have relays := upheld.relays_pull present consumer
      have mode : s.execution.consumer.mode = .pull := by rw [consumer]; rfl
      rw [mode] at won
      refine .inr ⟨cancelled, ?_⟩
      rw [show (s.see .finish).execution.consumer.mode = _ from mode]
      apply won.append_finish
      have seen : observations s.trace = s.seen := rfl
      rw [seen]
      cases relays.2 with
      | onward got fresh => rw [reported] at fresh; cases fresh
      | failed got e n fresh => rw [reported] at fresh; cases fresh
      | ended got n fresh => rw [reported] at fresh; cases fresh
      | cancelled got n _ _ error => rw [error]; exact not_onlyRows (by simp)
      | late got m n _ abandoned => exact absurd abandoned calm.stayed

lemma Ruled.cancel (h : s.Ruled) (upheld : s.Upheld told) (calm : s.Calm) : s.cancel.Ruled := by
  by_cases undecided : s.execution.phase = .streaming
  · have unwon : .cancel true ∉ s.trace := by
      refine h.resolve_right (fun won => ?_)
      rw [undecided] at won
      cases won.1
    have rows := upheld.rows_of_undecided undecided calm.stayed
    rw [cancel_eq_of_undecided undecided]
    exact .inr ⟨rfl, s.trace, [], rfl, unwon, by simp, rows, .inl rfl⟩
  · rw [cancel_eq_of_decided undecided]
    rcases h with unwon | ⟨cancelled, won⟩
    · exact .inl (by simp [unwon])
    · exact .inr ⟨cancelled, won.append (by simp) (.inl rfl)⟩

lemma Ruled.act (h : s.Ruled) (upheld : s.Upheld told) (calm : s.Calm) (action : Action) :
    (s.act action).Ruled := by
  have acted := acted upheld action
  generalize s.act action = t at acted
  cases acted with
  | outside => exact h
  | moved left move => exact h.after upheld calm move
  | polled => exact h.poll upheld calm
  | refused decided =>
    rw [← cancel_eq_of_decided decided]
    exact h.cancel upheld calm
  | won undecided =>
    rw [← cancel_eq_of_undecided undecided]
    exact h.cancel upheld calm
  | dropped => exact h.aside s.drop_aside s.drop_trace

/-! ### Runs without an abort -/

/-- All that holds of sessions whose channel is not cancelled from outside. -/
def Guarded (s : Session) (database : String) : Prop :=
  ∃ told, s.Upheld told ∧ s.Follows database told ∧ s.Calm ∧ s.Ruled

variable {database : String}

lemma Guarded.act (h : s.Guarded database) {action : Action} (calm : action ≠ .abort) :
    (s.act action).Guarded database := by
  obtain ⟨told, upheld, follows, still, ruled⟩ := h
  obtain ⟨told', upheld', follows'⟩ := follows.act upheld action
  exact ⟨told', upheld', follows', still.act upheld calm, ruled.act upheld still action⟩

lemma Guarded.run (h : s.Guarded database) {actions : List Action} (calm : .abort ∉ actions) :
    (s.run actions).Guarded database := by
  induction actions generalizing s with
  | nil => exact h
  | cons action rest ih =>
    rw [List.mem_cons, not_or] at calm
    exact ih (h.act (fun abort => calm.1 abort.symm)) calm.2

lemma Guarded.phase_run (h : s.Guarded database) (decided : s.execution.phase ≠ .streaming)
    {actions : List Action} (calm : .abort ∉ actions) :
    (s.run actions).execution.phase = s.execution.phase := by
  induction actions generalizing s with
  | nil => rfl
  | cons action rest ih =>
    rw [List.mem_cons, not_or] at calm
    have same : (s.act action).execution.phase = s.execution.phase := by
      obtain ⟨told, upheld, -⟩ := h
      exact phase_act upheld action decided
    rw [← same] at decided ⊢
    exact ih (h.act (fun abort => calm.1 abort.symm)) decided calm.2

lemma Guarded.mode_run (h : s.Guarded database) (actions : List Action) :
    (s.run actions).execution.consumer.mode = s.execution.consumer.mode := by
  obtain ⟨told, upheld, follows, -⟩ := h
  exact (follows.fixed_run upheld actions).1

lemma Guarded.awaited_run (h : s.Guarded database) (awaited : s.Awaited) {actions : List Action}
    (kept : .drop ∉ actions) : (s.run actions).Awaited := by
  obtain ⟨told, upheld, follows, -⟩ := h
  exact follows.awaited_run upheld awaited kept

/-! ### A cancel is reported -/

lemma Guarded.lag_act (h : s.Guarded database) (cancelled : s.execution.phase = .cancelled)
    (prompt : ¬s.execution.isPull) (action : Action) :
    (s.act action).execution.lag ≤ s.execution.lag := by
  obtain ⟨told, upheld, -⟩ := h
  have aside {t : Session} (aside : Aside s t) : t.execution.lag ≤ s.execution.lag := by
    rw [lag, lag, aside.task, aside.attached]
  have acted := acted upheld action
  generalize s.act action = t at acted
  cases acted with
  | outside => exact le_rfl
  | @moved y effects news left move =>
    cases attached : s.execution.attached with
    | true => exact (move.lag_lt upheld.stands cancelled attached prompt).le
    | false =>
      rw [show (s.after y).execution = y from rfl, lag_of_detached (move.detached attached)]
      exact Nat.zero_le _
  | polled => exact aside s.poll_aside
  | refused => exact le_rfl
  | won undecided => rw [undecided] at cancelled; cases cancelled
  | dropped => exact aside s.drop_aside

lemma Guarded.lag_drive (h : s.Guarded database) (cancelled : s.execution.phase = .cancelled)
    (prompt : ¬s.execution.isPull) {n : Nat} (few : s.execution.lag ≤ n + 1) :
    (s.act .drive).execution.lag ≤ n := by
  cases attached : s.execution.attached with
  | true =>
    obtain ⟨told, upheld, -⟩ := h
    obtain ⟨y, effects, step⟩ := upheld.stands.step_of_cancelled cancelled attached prompt
    obtain ⟨news, move⟩ := step_move upheld.stands step
    have nearer := move.lag_lt upheld.stands cancelled attached prompt
    rw [Session.act, drive_eq step]
    exact Nat.le_of_lt_succ (Nat.lt_of_lt_of_le nearer few)
  | false =>
    apply (h.lag_act cancelled prompt .drive).trans
    rw [lag_of_detached attached]
    exact Nat.zero_le n

/-- The driver of a cancelled execution lets go of a consumer that does not pull. -/
lemma Guarded.released (h : s.Guarded database) (cancelled : s.execution.phase = .cancelled)
    (prompt : ¬s.execution.isPull) {n : Nat} {actions : List Action} (calm : .abort ∉ actions)
    (few : s.execution.lag ≤ n) (drives : (List.replicate n .drive).Sublist actions) :
    (s.run actions).execution.attached = false := by
  induction actions generalizing s n with
  | nil =>
    have exhausted : n = 0 := by simpa using List.sublist_nil.1 drives
    rw [exhausted] at few
    exact lag_eq_zero (Nat.le_zero.1 few)
  | cons action rest ih =>
    rw [List.mem_cons, not_or] at calm
    have next := h.act (fun abort => calm.1 abort.symm)
    have ⟨told, upheld, _⟩ := h
    have still : (s.act action).execution.phase = .cancelled :=
      (phase_act upheld action (by simp [cancelled])).trans cancelled
    have prompt' : ¬(s.act action).execution.isPull := by
      rw [isPull, (act_fixed upheld action).1]
      exact prompt
    rcases List.sublist_cons_iff.1 drives with skipped | ⟨taken, split, later⟩
    · exact ih next still prompt' calm.2 ((h.lag_act cancelled prompt action).trans few) skipped
    · cases n with
      | zero => cases split
      | succ n =>
        obtain ⟨rfl, rfl⟩ := List.cons.inj split
        exact ih next still prompt' calm.2 (h.lag_drive cancelled prompt few) later

/-- A cancelled execution that has let go of its consumer, or whose consumer pulls, gives it an
outcome at the next poll. -/
lemma Guarded.reports (h : s.Guarded database) (awaited : s.Awaited)
    (cancelled : s.execution.phase = .cancelled)
    (released : s.execution.isPull ∨ s.execution.attached = false) : ¬OnlyRows s.poll.seen := by
  obtain ⟨told, upheld, -, calm, -⟩ := h
  by_cases pull : s.execution.isPull
  · have polled := s.polled
    rw [isPull] at pull
    generalize s.poll = t at polled
    cases polled with
    | absent gone => exact (awaited gone).2
    | push consumer => rw [consumer] at pull; cases pull
    | unanswered consumer => rw [consumer] at pull; cases pull
    | answered present consumer => rw [consumer] at pull; cases pull
    | pending consumer open_ => exact absurd cancelled open_
    | item present consumer open_ => exact absurd cancelled open_
    | cancelled => exact not_onlyRows_see (by simp) (seen_append _)
    | finish => exact not_onlyRows_see (by simp) (seen_append _)
  · have detached := released.resolve_left pull
    rcases upheld.poll_settles awaited detached (.inr calm.stayed) with outcome | fewer
    · exact outcome
    · rw [backlog_eq_zero pull] at fewer
      exact absurd fewer (Nat.not_lt_zero _)

lemma mem_of_observations {trace : List Occurrence} {o : Observation}
    (h : o ∈ observations trace) : .seen o ∈ trace := by
  obtain ⟨occurrence, mem, ho⟩ := List.mem_filterMap.1 h
  cases occurrence with
  | seen p =>
    obtain rfl := Option.some.inj ho
    exact mem
  | cancel won => cases ho

lemma not_onlyRows_of_mem {e : ExecutionError} (h : .seen (.failure e) ∈ s.trace) :
    ¬OnlyRows s.seen := by
  intro rows
  have failure : .failure e ∈ s.seen := List.mem_filterMap.2 ⟨_, h, rfl⟩
  obtain ⟨row, hrow⟩ := onlyRows_iff.1 rows _ failure
  cases hrow

/-- The outcome that a consumer sees after a cancel that counted is the cancel. -/
lemma Won.reported {mode : DeliveryMode} {trace : List Occurrence} (h : Won mode trace)
    (outcome : ¬OnlyRows (observations trace)) : .seen (.failure .cancelled) ∈ trace := by
  obtain ⟨before, later, rfl, -, -, rows, hushed⟩ := h
  apply mem_of_observations
  rw [observations_append] at outcome ⊢
  rcases hushed with nothing | ⟨n, cancel, -⟩
  · refine absurd ?_ outcome
    rw [show observations (.cancel true :: later) = observations later from rfl, nothing,
      List.append_nil]
    exact rows
  · apply List.mem_append_right _
    rw [show observations (.cancel true :: later) = observations later from rfl, cancel]
    exact List.mem_cons_self

/-- A stream that has given an outcome has nothing more to give. -/
lemma Served.done {seen told : List Observation} {phase : Phase} {attached : Bool}
    {left : Option Phase} {stream : RowStream} (h : Served seen phase attached left stream told)
    (outcome : ¬OnlyRows seen) (stayed : left ≠ some .streaming) :
    phase = .cancelled ∧ stream.cancelReported = true ∨
      phase ≠ .cancelled ∧ stream.queue = [] ∧ attached = false := by
  cases h with
  | onward got fresh rows => exact absurd ⟨got, rows⟩ outcome
  | failed got e n fresh decided detached error empty =>
    exact .inr ⟨by simp [decided], empty, detached⟩
  | ended got n fresh decided detached finish empty =>
    have completed := decided.resolve_right stayed
    exact .inr ⟨by simp [completed], empty, detached⟩
  | cancelled got n reported decided => exact .inl ⟨decided, reported⟩
  | late got m n reported abandoned => exact absurd abandoned stayed

/-- Such a stream tells the end at every further poll. -/
lemma Guarded.poll_of_outcome (h : s.Guarded database) (awaited : s.Awaited)
    (pull : s.execution.isPull) (outcome : ¬OnlyRows s.seen) : s.poll = s.see .finish := by
  obtain ⟨told, upheld, -, calm, -⟩ := h
  have present : s.present = true := by
    by_contra gone
    have buffered := (awaited (Bool.eq_false_iff.2 gone)).1
    rw [isPull, buffered] at pull
    cases pull
  obtain ⟨stream, consumer⟩ := isPull_iff.1 pull
  have done := (upheld.relays_pull present consumer).2.done outcome calm.stayed
  simp only [poll, if_pos present, consumer, Execution.pull]
  rcases done with ⟨cancelled, reported⟩ | ⟨open_, empty, detached⟩
  · rw [if_pos cancelled, if_pos reported]
  · simp only [if_neg open_, empty, detached, Bool.false_eq_true, if_false]

lemma Guarded.outcome (h : s.Guarded database) :
    OnlyRows s.seen ∨ OneOutcome s.execution.consumer.mode s.execution.phase s.seen := by
  obtain ⟨told, upheld, -, calm, -⟩ := h
  rcases upheld.orderly with (rows | ⟨-, outcome⟩) | ⟨-, abandoned⟩
  · exact .inl rows
  · exact .inr outcome
  · exact absurd abandoned calm.stayed

lemma Guarded.not_won_run (h : s.Guarded database)
    (accepted : s.execution.phase = .completed ∨ s.execution.phase = .failed)
    {more : List Action} (calm : .abort ∉ more) : .cancel true ∉ (s.run more).trace := by
  have decided : s.execution.phase ≠ .streaming := by rcases accepted with h | h <;> simp [h]
  have uncancelled : s.execution.phase ≠ .cancelled := by rcases accepted with h | h <;> simp [h]
  obtain ⟨-, -, -, -, ruled⟩ := h.run calm
  refine ruled.resolve_right (fun won => uncancelled ?_)
  rw [← h.phase_run decided calm]
  exact won.1

/-- A cancel that counted is the only one, and it splits what the consumer sees. -/
lemma Guarded.split_won (h : s.Guarded database) {before later : List Occurrence}
    (split : s.trace = before ++ .cancel true :: later) :
    s.execution.phase = .cancelled ∧ .cancel true ∉ before ∧ .cancel true ∉ later ∧
      OnlyRows (observations before) ∧
      Hushed s.execution.consumer.mode (observations later) := by
  obtain ⟨-, -, -, -, unwon | ⟨cancelled, b, l, split', hb, hl, rows, hushed⟩⟩ := h
  · exact absurd (by rw [split]; simp) unwon
  · obtain ⟨rfl, -, rfl⟩ := (List.append_cons_inj_of_notMem hb hl).1 (split'.symm.trans split)
    exact ⟨cancelled, hb, hl, rows, hushed⟩

lemma Guarded.cancel_reported (h : s.Guarded database) (won : .cancel true ∈ s.trace)
    (awaited : s.Awaited) {more : List Action} (calm : .abort ∉ more) (kept : .drop ∉ more)
    (enough : s.execution.isPull ∨ [.drive, .drive].Sublist more) :
    .seen (.failure .cancelled) ∈ (s.run more).poll.trace := by
  have cancelled : s.execution.phase = .cancelled := by
    obtain ⟨-, -, -, -, ruled⟩ := h
    exact (ruled.resolve_left (not_not.2 won)).1
  have later : (s.run more).Guarded database := h.run calm
  have cancelled' : (s.run more).execution.phase = .cancelled :=
    (h.phase_run (by simp [cancelled]) calm).trans cancelled
  have released : (s.run more).execution.isPull ∨ (s.run more).execution.attached = false := by
    by_cases pull : s.execution.isPull
    · left
      rw [isPull, h.mode_run more]
      exact pull
    · right
      exact h.released cancelled pull calm lag_le_two (enough.resolve_left pull)
  have outcome := later.reports (h.awaited_run awaited kept) cancelled' released
  have polled : ((s.run more).act .poll).Guarded database := later.act (by simp)
  obtain ⟨-, -, -, -, ruled⟩ := polled
  have won' : .cancel true ∈ (s.run more).poll.trace :=
    ((s.run_trace more).trans (s.run more).poll_trace).subset won
  exact (ruled.resolve_left (not_not.2 won')).2.reported outcome

lemma guarded_start (id : Nat) (database : String) (pipeline : Pipeline) (capacity : Nat)
    (streamBuffer : UInt64) (mode : DeliveryMode) :
    (start id database pipeline capacity streamBuffer mode).Guarded database :=
  ⟨[], upheld_start id database pipeline capacity streamBuffer mode,
    follows_start id database pipeline capacity streamBuffer mode,
    ⟨fun _ => rfl, by simp [start]⟩, .inl (by simp [start])⟩

/-- The consumer sees the rows that were received, in order, and at most one outcome. A signal that
has been accepted is never displaced; a cancel that counts is the only one and is told to the
consumer, and a stream that has given an error only ends from then on. -/
theorem first_signal_wins (id : Nat) (database : String) (pipeline : Pipeline) (capacity : Nat)
    (streamBuffer : UInt64) (mode : DeliveryMode) (actions : List Action)
    (calm : .abort ∉ actions) :
    let s := (start id database pipeline capacity streamBuffer mode).run actions
    ((seenRows s.seen).map .ok <+:
      (payloads s.taken).map fun p => Row.decode p (firstTime s.taken) database) ∧
    (OnlyRows s.seen ∨ OneOutcome mode s.execution.phase s.seen) ∧
    (s.execution.phase = .completed ∨ s.execution.phase = .failed →
      ∀ more, .abort ∉ more → .cancel true ∉ (s.run more).trace) ∧
    (∀ before later, s.trace = before ++ .cancel true :: later →
      s.execution.phase = .cancelled ∧ .cancel true ∉ before ∧ .cancel true ∉ later ∧
        OnlyRows (observations before) ∧ Hushed mode (observations later)) ∧
    (.cancel true ∈ s.trace → .drop ∉ actions → ∀ more, .abort ∉ more → .drop ∉ more →
      mode = .pull ∨ [.drive, .drive].Sublist more →
        .seen (.failure .cancelled) ∈ (s.run more).poll.trace) ∧
    (mode = .pull → ∀ e, .seen (.failure e) ∈ s.trace → .drop ∉ actions →
      ∀ more, .abort ∉ more → .drop ∉ more →
        (s.run more).poll.trace = (s.run more).trace ++ [.seen .finish]) := by
  intro s
  have begun := guarded_start id database pipeline capacity streamBuffer mode
  have guarded : s.Guarded database := begun.run calm
  have kind : s.execution.consumer.mode = mode := by
    rw [begun.mode_run actions]
    cases mode <;> rfl
  refine ⟨?_, ?_, ?_, ?_, ?_, ?_⟩
  · obtain ⟨told, upheld, follows, -⟩ := guarded
    exact follows.seen_decoded
  · exact kind ▸ guarded.outcome
  · intro accepted more calm'
    exact guarded.not_won_run accepted calm'
  · intro before later split
    exact kind ▸ guarded.split_won split
  · intro won kept more calm' kept' enough
    have awaited : s.Awaited := begun.awaited_run awaited_start kept
    apply guarded.cancel_reported won awaited calm' kept'
    rw [isPull, kind]
    exact enough
  · intro pull e failure kept more calm' kept'
    have awaited : s.Awaited := begun.awaited_run awaited_start kept
    have outcome : ¬OnlyRows (s.run more).seen :=
      outcome_of_trace (s.run_trace more) (not_onlyRows_of_mem failure)
    have streams : (s.run more).execution.isPull := by
      rw [isPull, guarded.mode_run more, kind, pull]
    rw [(guarded.run calm').poll_of_outcome (guarded.awaited_run awaited kept') streams outcome]
    rfl

/-- A stream has given one row, and another one waits, when the caller cancels. The next poll tells
the cancel, and the one after it the end. -/
theorem first_signal_wins_over_row :
    let actions : List Action :=
      [.send (.response { rows := [{}, {}] }), .drive, .drive, .drive, .drive, .drive, .poll,
        .cancel]
    let s := (start 0 "" ⟨none, []⟩ 1 2 .pull).run actions
    let t := (start 0 "" ⟨none, []⟩ 1 2 .pull).run (actions ++ [.poll])
    s.backlog = 1 ∧ .seen (.failure .cancelled) ∈ (s.run []).poll.trace ∧
      (t.run []).poll.trace = (t.run []).trace ++ [.seen .finish] := by
  intro actions s t
  obtain ⟨-, -, -, -, told, -⟩ :=
    first_signal_wins 0 "" ⟨none, []⟩ 1 2 .pull actions (by simp [actions])
  obtain ⟨-, -, -, -, -, ends⟩ :=
    first_signal_wins 0 "" ⟨none, []⟩ 1 2 .pull (actions ++ [.poll]) (by simp [actions])
  refine ⟨rfl, ?_, ?_⟩
  · exact told (List.mem_of_mem_getLast? rfl) (by simp [actions]) [] (by simp) (by simp) (.inl rfl)
  · exact ends rfl .cancelled (List.mem_of_mem_getLast? rfl) (by simp [actions]) [] (by simp)
      (by simp)

end Session

end DocumentQuery
