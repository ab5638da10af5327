import DocumentQuery.Proofs.Service

/-!
# Counters of many executions

The metrics are the sum of what the starts and the drivers have counted, and every driver keeps the
account of its own execution, whatever the others do. Together this ties the metrics to the number
of executions that have ended and of rows that were handed over.
-/

namespace DocumentQuery

/-! ### The account of one execution -/

namespace Execution

variable {x y : Execution} {effects more : List Effect} {news : List Observation}
  {left : Option Phase} {handed : List Row}

/-- Before anything has been accepted the driver works for the consumer. -/
lemma Stands.working_of_undecided (stands : x.Stands left) (undecided : x.phase = .streaming)
    (stayed : left ≠ some .streaming) : x.attached = true ∧ Working x.task := by
  have attached := stands.attached_of_left undecided stayed
  refine ⟨attached, ?_⟩
  cases stands with
  | running _ _ working => exact working
  | cancelling _ _ working => exact working
  | reporting e next waiting _ pull decided => rw [undecided] at decided; simp at decided
  | winding _ detached => rw [attached] at detached; cases detached
  | finished _ _ detached => rw [attached] at detached; cases detached

/-- What the driver of an execution has counted so far, and the rows that it has handed over. -/
structure Accounted (x : Execution) (effects : List Effect) (handed : List Row) : Prop where
  outcome : ∀ g, g ≠ .rows → g ≠ .duplicates → raised g effects = credit g x.recorded
  rows : ∃ lost, raised .rows effects = handed.length + x.offered + lost ∧
    (lost = 0 ∨ lost = 1 ∧ x.offered = 0 ∧ x.phase = .cancelled)

/-- Nothing happens that the driver would count. -/
structure Still (x y : Execution) : Prop where
  recorded : y.recorded = x.recorded
  offered : y.offered = x.offered
  phase : x.phase ≠ .streaming → y.phase = x.phase

lemma Accounted.still (h : x.Accounted effects handed) (still : x.Still y) :
    y.Accounted effects handed where
  outcome := by
    rw [still.recorded]
    exact h.outcome
  rows := by
    obtain ⟨lost, rows, cases⟩ := h.rows
    rw [still.offered]
    refine ⟨lost, rows, cases.imp_right fun ⟨one, idle, cancelled⟩ => ⟨one, idle, ?_⟩⟩
    rw [still.phase (by simp [cancelled]), cancelled]

/-- The account after a move of the driver. -/
theorem Accounted.move (h : x.Accounted effects handed) (move : x.Move y more news)
    (stands : x.Stands left) (live : x.phase = .streaming → x.channel.cancelled = false) :
    y.Accounted (effects ++ more)
      (handed ++ y.consumer.rows.drop x.consumer.rows.length) where
  outcome g noRows noDuplicates := by
    rw [raised_append, h.outcome g noRows noDuplicates]
    exact move.raised_outcome stands noRows noDuplicates
  rows := by
    obtain ⟨lost, rows, lostCases⟩ := h.rows
    obtain ⟨new, consumer, deals⟩ := move.deals stands live
    have kept : x.phase ≠ .streaming → y.phase = x.phase := move.phase_eq
    rw [consumer, List.drop_left, raised_append, rows, List.length_append]
    generalize raised .rows more = count at deals
    cases deals with
    | nothing same =>
      refine ⟨lost, by rw [same]; simp, lostCases.imp_right fun ⟨one, idle, cancelled⟩ => ?_⟩
      exact ⟨one, same.trans idle, (kept (by simp [cancelled])).trans cancelled⟩
    | counted undecided before after =>
      have settled : lost = 0 := by
        refine lostCases.resolve_right fun ⟨_, _, cancelled⟩ => ?_
        rw [undecided] at cancelled
        cases cancelled
      refine ⟨0, ?_, .inl rfl⟩
      rw [before, after, settled, List.length_nil]
    | handed row before after =>
      have settled : lost = 0 := lostCases.resolve_right fun ⟨_, idle, _⟩ => by omega
      refine ⟨0, ?_, .inl rfl⟩
      rw [before, after, settled, List.length_singleton]
    | lost cancelled before after =>
      have settled : lost = 0 := lostCases.resolve_right fun ⟨_, idle, _⟩ => by omega
      refine ⟨1, ?_, .inr ⟨rfl, after, cancelled⟩⟩
      rw [before, after, settled, List.length_nil]

end Execution

namespace Session

open Execution

variable {s : Session} {told : List Observation}

lemma Aside.still {t : Session} (aside : Aside s t) : s.execution.Still t.execution := by
  have execution := aside.execution
  refine ⟨?_, ?_, fun _ => aside.phase⟩ <;> rw [execution] <;> rfl

/-- Only its driver counts for an execution. -/
lemma act_still (upheld : s.Upheld told) (calm : s.Calm) {action : Action}
    (other : action ≠ .drive) : s.execution.Still (s.act action).execution := by
  have acted := acted upheld action
  generalize s.act action = t at acted
  cases acted with
  | outside c kept quiet => exact ⟨rfl, rfl, fun _ => rfl⟩
  | moved left move => exact absurd rfl other
  | polled => exact s.poll_aside.still
  | refused => exact ⟨rfl, rfl, fun _ => rfl⟩
  | won undecided =>
    have unrecorded : s.execution.recorded = none := recorded_of_streaming undecided
    obtain ⟨attached, working⟩ := upheld.stands.working_of_undecided undecided calm.stayed
    refine ⟨?_, rfl, fun decided => absurd undecided decided⟩
    rw [unrecorded]
    exact recorded_of_unnoticed rfl attached working
  | dropped => exact s.drop_aside.still

end Session

namespace Member

/-- What holds of an execution whose channel is cancelled by its driver and its caller only. -/
structure Sound (m : Member) : Prop where
  guarded : ∃ database, m.session.Guarded database
  accounted : m.execution.Accounted m.effects m.handed

lemma accounted_of_step {m : Member} {next : Option (Execution × List Effect)}
    (step : m.session.execution.step = next) {told : List Observation}
    (upheld : m.session.Upheld told) (calm : m.session.Calm)
    (h : m.execution.Accounted m.effects m.handed) :
    (m.act .drive).execution.Accounted (m.act .drive).effects (m.act .drive).handed := by
  change m.session.drive.execution.Accounted (m.effects ++ m.session.emitted .drive)
    (m.handed ++ m.session.dealt .drive)
  rw [Session.emitted, Session.dealt, step]
  cases next with
  | none =>
    have stuck : m.session.drive = m.session := by rw [Session.drive, step]
    rw [stuck, List.drop_length, List.append_nil, List.append_nil]
    exact h
  | some next =>
    obtain ⟨y, effects⟩ := next
    obtain ⟨news, move⟩ := Execution.step_move upheld.stands step
    have driven : m.session.drive.execution = y := by rw [Session.drive_eq step]; rfl
    rw [driven]
    exact h.move move upheld.stands calm.live

lemma Sound.act {m : Member} (h : m.Sound) {action : Action} (calm : action ≠ .abort) :
    (m.act action).Sound where
  guarded := by
    obtain ⟨database, guarded⟩ := h.guarded
    exact ⟨database, guarded.act calm⟩
  accounted := by
    obtain ⟨database, told, upheld, -, still, -⟩ := h.guarded
    by_cases drive : action = .drive
    · subst drive
      exact accounted_of_step rfl upheld still h.accounted
    · have nothing : m.session.emitted action = [] ∧ m.session.dealt action = [] := by
        cases action <;> first | exact ⟨rfl, rfl⟩ | exact absurd rfl drive
      rw [Member.act, nothing.1, nothing.2, List.append_nil, List.append_nil]
      exact h.accounted.still (Session.act_still upheld still drive)

lemma sound_fresh (id : Nat) (database : String) (pipeline : Pipeline) (capacity : Nat)
    (streamBuffer : UInt64) (mode : DeliveryMode) :
    Sound (.fresh (.start id database pipeline (.ofCapacity capacity)
      (.ofMode streamBuffer mode))) where
  guarded := ⟨database, Session.guarded_start id database pipeline capacity streamBuffer mode⟩
  accounted := ⟨fun _ _ _ => rfl, 0, rfl, .inl rfl⟩

/-- A driver that has ended has recorded an outcome. -/
lemma Sound.recorded_of_ended {m : Member} (h : m.Sound) (ended : m.execution.task = .ended) :
    m.execution.recorded.isSome = true := by
  obtain ⟨database, told, upheld, -, still, -⟩ := h.guarded
  have detached : m.execution.attached = false := upheld.stands.detached ended
  have decided : m.execution.phase ≠ .streaming := by
    intro undecided
    have attached := upheld.stands.attached_of_left undecided still.stayed
    rw [execution, attached] at detached
    cases detached
  rw [Execution.recorded_of_detached detached]
  cases phase : m.execution.phase with
  | streaming => exact absurd phase decided
  | completed => rfl
  | failed => rfl
  | cancelled => rfl

end Member

namespace Deed

/-- Whether a start asks for what cannot be requested: its pipeline cannot be written, or it
combines a read time with a transaction. -/
def isUnbuildable : Deed → Bool
  | .start _ submission options _ =>
    options.readTime.isSome && options.transaction.isSome ||
      submission.pipeline.toWire.toOption.isNone
  | .act _ _ => false

/-- The metric that a start is counted in: its request cannot be built, or the transport refuses it,
or the transport takes it. -/
def counted (config : ExecutorConfig) : Deed → Option Gauge
  | .start transport submission options _ =>
    match (Executor.ofConfig config).buildRequest submission options with
    | .error _ => some .rejected
    | .ok request =>
      match transport request with
      | .error _ => some .failed
      | .ok _ => some .submitted
  | .act _ _ => none

end Deed

/-! ### What the starts count -/

section Start

variable {submission : Submission} {options : ExecuteOptions} {request : ExecuteRequest} {g : Gauge}

lemma Executor.buildRequest_eq {ex ex' : Executor} (same : ex.config = ex'.config) :
    ex.buildRequest submission options = ex'.buildRequest submission options := by
  rw [buildRequest, buildRequest, same]

lemma raised_rejectionEffects (e : BuildError) :
    raised g (Executor.rejectionEffects e) = credit g (some .rejected) := by
  simp [Executor.rejectionEffects, Counter.gauge, Counter.amount]

lemma raised_requestEffects (ex : Executor) : raised g (ex.requestEffects request) = 0 := by
  unfold Executor.requestEffects
  split <;> simp

lemma raised_submittedEffects (ex : Executor) :
    raised g (ex.submittedEffects request) = credit g (some .submitted) := by
  simp [Executor.submittedEffects, Counter.gauge, Counter.amount]

lemma raised_failureEffects (id : Nat) (e : ExecutionError) :
    raised g (Execution.failureEffects id e) = credit g (some .failed) := by
  simp [Execution.failureEffects, Counter.gauge, Counter.amount]

end Start

/-! ### The sum of all accounts -/

namespace Service

/-- How many starts are counted in a metric. -/
def opened (config : ExecutorConfig) (history : List Deed) (g : Gauge) : Nat :=
  history.countP fun deed => deed.counted config = some g

/-- How much the drivers have added to a metric. -/
def driven (members : List Member) (g : Gauge) : Nat :=
  (members.map fun m => raised g m.effects).sum

/-- The metrics are what the starts and the drivers have counted. -/
structure Balanced (config : ExecutorConfig) (history : List Deed) (v : Service) : Prop where
  configured : v.executor.config = config
  metrics : ∀ g, v.executor.metrics.read g = .ofNat (opened config history g + driven v.members g)
  submitted : v.members.length = opened config history .submitted
  sound : ∀ m ∈ v.members, m.Sound

variable {config : ExecutorConfig} {history : List Deed} {v : Service} {deed : Deed}
  {members : List Member} {effects : List Effect} {g : Gauge}

lemma opened_snoc (deed : Deed) :
    opened config (history ++ [deed]) g =
      opened config history g + credit g (deed.counted config) := by
  rw [opened, opened, List.countP_append, List.countP_singleton]
  congr 1
  cases deed.counted config with
  | none => rfl
  | some k => simp [credit]

lemma driven_append (x : Execution) : driven (members ++ [.fresh x]) g = driven members g := by
  rw [driven, List.map_append, List.sum_append]
  rfl

lemma driven_set {i : Nat} {m n : Member} (found : members[i]? = some m) {k : Nat}
    (grown : raised g n.effects = raised g m.effects + k) :
    driven (members.set i n) g = driven members g + k := by
  unfold driven
  induction members generalizing i with
  | nil => cases found
  | cons first rest ih =>
    cases i with
    | zero =>
      cases found
      simp [grown, Nat.add_right_comm]
    | succ i =>
      simp only [List.set_cons_succ, List.map_cons, List.sum_cons, ih found, Nat.add_assoc]

/-- The metrics after effects that count a start, or what the drivers have added since. -/
lemma Balanced.metrics_applyAll (h : v.Balanced config history)
    (counted : ∀ g, credit g (deed.counted config) + driven members g =
      driven v.members g + raised g effects) (g : Gauge) :
    (v.executor.applyAll effects).metrics.read g =
      .ofNat (opened config (history ++ [deed]) g + driven members g) := by
  rw [Executor.read_applyAll, h.metrics, ← UInt64.ofNat_add, opened_snoc, Nat.add_assoc,
    Nat.add_assoc, counted]

/-- A start, whatever comes of it, keeps the balance. -/
lemma Balanced.start (h : v.Balanced config history)
    (transport : ExecuteRequest → Except ExecutionError Nat) (submission : Submission)
    (options : ExecuteOptions) (mode : DeliveryMode) :
    (v.step (.start transport submission options mode)).Balanced config
      (history ++ [.start transport submission options mode]) := by
  have configured (effects : List Effect) : (v.executor.applyAll effects).config = config :=
    (v.executor.applyAll_config effects).trans h.configured
  have same : v.executor.buildRequest submission options =
      (Executor.ofConfig config).buildRequest submission options :=
    Executor.buildRequest_eq h.configured
  cases built : v.executor.buildRequest submission options with
  | error e =>
    have counted : (Deed.start transport submission options mode).counted config =
        some .rejected := by
      rw [Deed.counted, ← same, built]
    rw [step_rejected built]
    refine ⟨configured _, h.metrics_applyAll fun g => ?_, ?_, h.sound⟩
    · rw [counted, raised_rejectionEffects, Nat.add_comm]
    · rw [opened_snoc, counted, h.submitted]
      rfl
  | ok request =>
    cases answer : transport request with
    | error e =>
      have counted : (Deed.start transport submission options mode).counted config =
          some .failed := by
        rw [Deed.counted, ← same, built]
        simp only [answer]
      rw [step_refused built answer]
      refine ⟨configured _, h.metrics_applyAll fun g => ?_, ?_, h.sound⟩
      · rw [counted, raised_append, raised_requestEffects, raised_failureEffects, Nat.zero_add,
          Nat.add_comm]
      · rw [opened_snoc, counted, h.submitted]
        rfl
    | ok capacity =>
      have counted : (Deed.start transport submission options mode).counted config =
          some .submitted := by
        rw [Deed.counted, ← same, built]
        simp only [answer]
      rw [step_accepted built answer]
      refine ⟨configured _, h.metrics_applyAll fun g => ?_, ?_, fun m hm => ?_⟩
      · rw [counted, raised_append, raised_requestEffects, raised_submittedEffects, driven_append,
          Nat.zero_add, Nat.add_comm]
      · rw [List.length_append, opened_snoc, counted, h.submitted]
        rfl
      · rcases List.mem_append.mp hm with old | new
        · exact h.sound m old
        · rw [List.mem_singleton.mp new]
          exact Member.sound_fresh ..

/-- What the parties of an execution do keeps the balance. -/
lemma Balanced.act (h : v.Balanced config history) (i : Nat) {action : Action}
    (calm : action ≠ .abort) :
    (v.step (.act i action)).Balanced config (history ++ [.act i action]) := by
  have opened (g : Gauge) :
      opened config (history ++ [.act i action]) g = opened config history g := opened_snoc _
  cases found : v.members[i]? with
  | none =>
    have idle : v.step (.act i action) = v := by rw [step, found]
    rw [idle]
    refine ⟨h.configured, fun g => ?_, ?_, h.sound⟩
    · rw [opened, h.metrics]
    · rw [opened, h.submitted]
  | some m =>
    have member : m ∈ v.members := List.mem_of_getElem? found
    rw [step_act found]
    refine ⟨(v.executor.applyAll_config _).trans h.configured, h.metrics_applyAll fun g => ?_, ?_,
      fun n hn => ?_⟩
    · have grown : raised g (m.act action).effects =
          raised g m.effects + raised g (m.session.emitted action) := raised_append _
      rw [driven_set found grown]
      exact Nat.zero_add _
    · rw [List.length_set, opened, h.submitted]
    · rcases List.mem_or_eq_of_mem_set hn with old | rfl
      · exact h.sound n old
      · exact (h.sound m member).act calm

lemma balanced_idle (config : ExecutorConfig) : (idle config).Balanced config [] where
  configured := rfl
  metrics g := by cases g <;> rfl
  submitted := rfl
  sound m hm := by cases hm

theorem Balanced.run (h : v.Balanced config history) {deeds : List Deed}
    (calm : ∀ i, .act i .abort ∉ deeds) : (v.run deeds).Balanced config (history ++ deeds) := by
  induction deeds generalizing v history with
  | nil => rwa [List.append_nil]
  | cons deed rest ih =>
    have later : ∀ i, .act i .abort ∉ rest := fun i found => calm i (List.mem_cons_of_mem _ found)
    have first : (v.step deed).Balanced config (history ++ [deed]) := by
      cases deed with
      | start transport submission options mode => exact h.start transport submission options mode
      | act i action =>
        refine h.act i fun abort => calm i ?_
        rw [abort]
        exact List.mem_cons_self ..
    have all := ih first later
    rwa [List.append_assoc] at all

end Service

/-! ### Counters and executions -/

lemma Execution.recorded_cases (x : Execution) :
    x.recorded = none ∨ x.recorded = some .completed ∨ x.recorded = some .failed ∨
      x.recorded = some .cancelled := by
  rw [recorded]
  split
  · exact .inl rfl
  · cases x.phase <;> simp [Phase.gauge?]

lemma Execution.offered_le (x : Execution) : x.offered ≤ 1 := by
  unfold offered
  split <;> decide

lemma Deed.counted_cases (config : ExecutorConfig) (deed : Deed) :
    deed.counted config = none ∨ deed.counted config = some .rejected ∨
      deed.counted config = some .failed ∨ deed.counted config = some .submitted := by
  cases deed with
  | act i action => exact .inl rfl
  | start transport submission options mode =>
    rw [counted]
    split
    · simp
    · split <;> simp

lemma Deed.isUnbuildable_eq (config : ExecutorConfig) (deed : Deed) :
    deed.isUnbuildable = decide (deed.counted config = some .rejected) := by
  cases deed with
  | act i action => rfl
  | start transport submission options mode =>
    rw [isUnbuildable, counted, Executor.buildRequest]
    cases options.readTime.isSome && options.transaction.isSome with
    | true => rfl
    | false =>
      cases submission.pipeline.toWire with
      | error e => rfl
      | ok pipeline =>
        simp only [Bool.false_eq_true, if_false, Except.map]
        split <;> rfl

namespace Service

variable {config : ExecutorConfig} {history : List Deed} {v : Service} {members : List Member}
  {g : Gauge}

/-- How many executions have a recorded outcome that belongs to a metric. -/
def tally (members : List Member) (g : Gauge) : Nat :=
  members.countP fun m => m.execution.recorded = some g

lemma tally_outcomes (members : List Member) :
    tally members .completed + tally members .failed + tally members .cancelled =
      members.countP fun m => m.execution.recorded.isSome := by
  unfold tally
  induction members with
  | nil => rfl
  | cons m rest ih =>
    simp only [List.countP_cons, ← ih]
    rcases m.execution.recorded_cases with h | h | h | h <;> simp [h] <;> omega

lemma tally_eq_zero (members : List Member) (completed : g ≠ .completed) (failed : g ≠ .failed)
    (cancelled : g ≠ .cancelled) : tally members g = 0 := by
  refine List.countP_eq_zero.mpr fun m _ => ?_
  rcases m.execution.recorded_cases with h | h | h | h <;>
    simp [h, completed.symm, failed.symm, cancelled.symm]

lemma driven_eq_tally (sound : ∀ m ∈ members, m.Sound) (noRows : g ≠ .rows)
    (noDuplicates : g ≠ .duplicates) : driven members g = tally members g := by
  unfold driven tally
  induction members with
  | nil => rfl
  | cons m rest ih =>
    have first := (sound m (List.mem_cons_self ..)).accounted.outcome g noRows noDuplicates
    have others := ih fun n hn => sound n (List.mem_cons_of_mem m hn)
    rw [List.map_cons, List.sum_cons, List.countP_cons, first, others, Nat.add_comm]
    cases m.execution.recorded with
    | none => rfl
    | some k => simp [credit]

lemma opened_eq_zero (config : ExecutorConfig) (history : List Deed) (rejected : g ≠ .rejected)
    (failed : g ≠ .failed) (submitted : g ≠ .submitted) : opened config history g = 0 := by
  refine List.countP_eq_zero.mpr fun deed _ => ?_
  rcases deed.counted_cases config with h | h | h | h <;>
    simp [h, rejected.symm, failed.symm, submitted.symm]

/-- What the metrics say about the starts so far and the executions that came of them. -/
structure Conserved (config : ExecutorConfig) (deeds : List Deed) (v : Service) : Prop where
  started : v.members.length = deeds.countP fun deed => deed.counted config = some .submitted
  /-- A start is counted as what came of it, and an execution as what its driver has recorded. -/
  counts : ∀ g, g ≠ .rows → g ≠ .duplicates → v.executor.metrics.read g =
    .ofNat ((deeds.countP fun deed => deed.counted config = some g) +
      v.members.countP fun m => m.execution.recorded = some g)
  submitted : v.executor.metrics.submitted = .ofNat v.members.length
  rejected : v.executor.metrics.rejected = .ofNat (deeds.countP Deed.isUnbuildable)
  /-- An outcome is counted for every start that the transport refused, and for every execution
  whose driver has recorded one. -/
  outcomes : v.executor.metrics.completed + v.executor.metrics.failed +
    v.executor.metrics.cancelled =
      .ofNat ((deeds.countP fun deed => deed.counted config = some .failed) +
        v.members.countP fun m => m.execution.recorded.isSome)
  /-- Over all its steps a driver counts the outcome that it has recorded once, and no other. -/
  once : ∀ m ∈ v.members, ∀ g, g ≠ .rows → g ≠ .duplicates →
    raised g m.effects = credit g m.execution.recorded
  settled : (∀ m ∈ v.members, m.execution.task = .ended) →
    v.executor.metrics.completed + v.executor.metrics.failed + v.executor.metrics.cancelled =
      v.executor.metrics.submitted +
        .ofNat (deeds.countP fun deed => deed.counted config = some .failed)
  /-- Besides the rows that were handed over, an execution has counted the one that it still offers
  to its consumer, or lost when it was cancelled. -/
  rows : ∃ extra : Member → Nat,
    v.executor.metrics.rowsReceived =
      .ofNat (v.members.map fun m => m.handed.length + extra m).sum ∧
      ∀ m ∈ v.members, extra m = 0 ∨
        extra m = 1 ∧ (m.execution.offered = 1 ∨ m.execution.phase = .cancelled)

lemma Balanced.conserved (h : v.Balanced config history) : v.Conserved config history := by
  have counts (g : Gauge) (noRows : g ≠ .rows) (noDuplicates : g ≠ .duplicates) :
      v.executor.metrics.read g = .ofNat (opened config history g + tally v.members g) := by
    rw [h.metrics, driven_eq_tally h.sound noRows noDuplicates]
  have submitted : v.executor.metrics.submitted = .ofNat v.members.length := by
    have read := counts .submitted (by decide) (by decide)
    rw [tally_eq_zero _ (by decide) (by decide) (by decide), ← h.submitted] at read
    exact read
  have outcomes : v.executor.metrics.completed + v.executor.metrics.failed +
      v.executor.metrics.cancelled = .ofNat (opened config history .failed +
        v.members.countP fun m => m.execution.recorded.isSome) := by
    have completed : v.executor.metrics.completed = _ := counts .completed (by decide) (by decide)
    have failed : v.executor.metrics.failed = _ := counts .failed (by decide) (by decide)
    have cancelled : v.executor.metrics.cancelled = _ := counts .cancelled (by decide) (by decide)
    rw [opened_eq_zero config history (by decide) (by decide) (by decide), Nat.zero_add]
      at completed cancelled
    rw [completed, failed, cancelled, ← tally_outcomes, ← UInt64.ofNat_add, ← UInt64.ofNat_add]
    congr 1
    omega
  refine ⟨h.submitted, counts, submitted, ?_, outcomes,
    fun m hm => (h.sound m hm).accounted.outcome, ?_, ?_⟩
  · have read := counts .rejected (by decide) (by decide)
    rw [tally_eq_zero _ (by decide) (by decide) (by decide), Nat.add_zero] at read
    rw [funext (Deed.isUnbuildable_eq config)]
    exact read
  · intro ended
    have all : (v.members.countP fun m => m.execution.recorded.isSome) = v.members.length :=
      List.countP_eq_length.mpr fun m hm => (h.sound m hm).recorded_of_ended (ended m hm)
    rw [outcomes, submitted, all, ← UInt64.ofNat_add, Nat.add_comm]
    rfl
  · refine ⟨fun m => raised .rows m.effects - m.handed.length, ?_, fun m hm => ?_⟩
    · have read := h.metrics .rows
      rw [opened_eq_zero config history (by decide) (by decide) (by decide), Nat.zero_add, driven]
        at read
      refine read.trans (congrArg UInt64.ofNat (congrArg List.sum ?_))
      refine List.map_congr_left fun m hm => ?_
      obtain ⟨lost, rows, -⟩ := (h.sound m hm).accounted.rows
      exact (Nat.add_sub_cancel' (by omega)).symm
    · obtain ⟨lost, rows, cases⟩ := (h.sound m hm).accounted.rows
      have offered := m.execution.offered_le
      dsimp only
      rcases cases with settled | ⟨one, idle, cancelled⟩
      · by_cases idle : m.execution.offered = 0
        · exact .inl (by omega)
        · exact .inr ⟨by omega, .inl (by omega)⟩
      · exact .inr ⟨by omega, .inr cancelled⟩

/-- A start whose request cannot be built is counted as rejected, which is all that it does. -/
lemma step_unbuildable (v : Service) {transport : ExecuteRequest → Except ExecutionError Nat}
    {submission : Submission} {options : ExecuteOptions} {mode : DeliveryMode}
    (unbuildable : (Deed.start transport submission options mode).isUnbuildable = true) :
    (v.step (.start transport submission options mode)).members = v.members ∧
      (v.step (.start transport submission options mode)).executor.metrics =
        { v.executor.metrics with rejected := v.executor.metrics.rejected + 1 } ∧
      ∀ other, v.step (.start other submission options mode) =
        v.step (.start transport submission options mode) := by
  have counted : (Deed.start transport submission options mode).counted v.executor.config =
      some .rejected := of_decide_eq_true ((Deed.isUnbuildable_eq ..).symm.trans unbuildable)
  have same : v.executor.buildRequest submission options =
      (Executor.ofConfig v.executor.config).buildRequest submission options :=
    Executor.buildRequest_eq rfl
  rw [Deed.counted, ← same] at counted
  cases built : v.executor.buildRequest submission options with
  | ok request =>
    rw [built] at counted
    dsimp only at counted
    split at counted <;> cases counted
  | error e =>
    rw [step_rejected built]
    refine ⟨rfl, ?_, fun other => step_rejected built⟩
    simp only [Executor.applyAll, Executor.rejectionEffects, List.foldl_cons, List.foldl_nil,
      Executor.apply]
    split <;> rfl

/-- As long as the channels are cancelled by nobody else, the metrics account for every start, every
outcome and every row, whatever the parties of the executions do and in which order. -/
theorem counters_conserve_executions (config : ExecutorConfig) (deeds : List Deed)
    (calm : ∀ i, .act i .abort ∉ deeds) :
    let v := (idle config).run deeds
    v.Conserved config deeds ∧
      ∀ transport submission options mode,
        (Deed.start transport submission options mode).isUnbuildable = true →
          (v.step (.start transport submission options mode)).members = v.members ∧
          (v.step (.start transport submission options mode)).executor.metrics =
            { v.executor.metrics with rejected := v.executor.metrics.rejected + 1 } ∧
          ∀ other, v.step (.start other submission options mode) =
            v.step (.start transport submission options mode) := by
  intro v
  refine ⟨?_, fun transport submission options mode => v.step_unbuildable⟩
  have balanced := (balanced_idle config).run calm
  rw [List.nil_append] at balanced
  exact balanced.conserved

/-- One start is rejected and one is refused. An execution gives a row to its consumer and is then
completed. -/
theorem counters_conserve_executions_three :
    let p : Pipeline := ⟨none, [.database]⟩
    let deeds : List Deed :=
      [.start (fun _ => .ok 1) ⟨⟨none, []⟩, []⟩ {} .buffer,
        .start (fun _ => .error .streamClosed) ⟨p, []⟩ {} .buffer,
        .start (fun _ => .ok 2) ⟨p, []⟩ {} .buffer,
        .act 0 (.send (.response { rows := [{}] })), .act 0 (.send .completion),
        .act 0 .drive, .act 0 .drive, .act 0 .drive, .act 0 .drive, .act 0 .drive]
    let v := (idle {}).run deeds
    (v.executor.metrics.submitted = 1 ∧ v.executor.metrics.completed = 1 ∧
      v.executor.metrics.failed = 1 ∧ v.executor.metrics.rejected = 1 ∧
      v.executor.metrics.rowsReceived = 1) ∧ v.Conserved {} deeds :=
  ⟨⟨rfl, rfl, rfl, rfl, rfl⟩, (counters_conserve_executions {} _ (by simp)).1⟩

end Service

end DocumentQuery
