import DocumentQuery.Proofs.Conservation
import DocumentQuery.Proofs.Endings
import DocumentQuery.Proofs.Journal

/-!
# What a driver logs

Wherever something is counted, except rows, an entry of its event is logged. The entries of a driver
carry the id of its execution and come in the order of its life: the first response, the outcome,
and then signals that are ignored.
-/

namespace DocumentQuery

/-- The event that is logged whenever a metric is counted. -/
def Gauge.event? : Gauge → Option Event
  | .submitted => some .submitted
  | .completed => some .completed
  | .failed => some .failed
  | .cancelled => some .cancelled
  | .rejected => some .rejected
  | .rows => none
  | .duplicates => some .duplicateIgnored

/-- The events that are logged by effects. -/
def events (effects : List Effect) : List Event := (entries effects).map LogEntry.event

/-- What is counted is logged, and the other way round. -/
def Matched (effects : List Effect) : Prop :=
  ∀ g event, g.event? = some event → raised g effects = (events effects).count event

/-- The execution that an entry is about, as it is written in the entry. -/
def LogEntry.execution? (entry : LogEntry) : Option String := entry.fields.lookup "execution_id"

/-- All entries among effects are about one execution. -/
def About (id : Nat) (effects : List Effect) : Prop :=
  ∀ entry ∈ entries effects, entry.execution? = some (toString id)

section Effects

variable {effects more : List Effect} {id : Nat}

@[simp] lemma events_nil : events [] = [] := rfl

@[simp] lemma events_count (c : Counter) : events (.count c :: effects) = events effects := rfl

@[simp] lemma events_log (entry : LogEntry) :
    events (.log entry :: effects) = entry.event :: events effects := rfl

@[simp] lemma events_append : events (effects ++ more) = events effects ++ events more := by
  rw [events, entries_append, List.map_append]
  rfl

lemma matched_nil : Matched [] := fun _ _ _ => rfl

lemma Matched.append (first : Matched effects) (later : Matched more) :
    Matched (effects ++ more) := by
  intro g event logged
  rw [raised_append, events_append, List.count_append, first g event logged, later g event logged]

/-- A counter and the entry of its event. -/
lemma matched_pair {c : Counter} {entry : LogEntry} (logged : c.gauge.event? = some entry.event)
    (one : c.amount = 1) : Matched [.count c, .log entry] := by
  intro g event hg
  rw [raised_count, raised_log, raised_nil, one, events_count, events_log, events_nil]
  by_cases same : c.gauge = g
  · subst same
    rw [logged] at hg
    simp [credit, Option.some.inj hg]
  · have other : entry.event ≠ event := by
      rintro rfl
      rw [← hg] at logged
      revert same logged
      cases c.gauge <;> cases g <;> simp [Gauge.event?]
    simp [credit, same, other]

/-- An entry of an event that nothing is counted for. -/
lemma matched_log {entry : LogEntry} (uncounted : ∀ g : Gauge, g.event? ≠ some entry.event) :
    Matched [.log entry] := by
  intro g event hg
  have other : entry.event ≠ event := fun same => uncounted g (same ▸ hg)
  simp [other]

lemma matched_rows (n : UInt64) : Matched [.count (.rows n)] := by
  intro g event hg
  have other : g ≠ .rows := by
    rintro rfl
    cases hg
  simp [Counter.gauge, credit_of_ne other]

lemma about_nil : About id [] := by simp [About]

lemma About.append (first : About id effects) (later : About id more) :
    About id (effects ++ more) := by
  intro entry mem
  rw [entries_append] at mem
  exact (List.mem_append.1 mem).elim (first entry) (later entry)

lemma about_count {c : Counter} (rest : About id effects) : About id (.count c :: effects) := rest

lemma about_entry {severity : Severity} {event : Event} {fields : List (String × String)}
    (rest : About id effects) :
    About id (Execution.entry id severity event fields :: effects) := by
  intro entry mem
  rcases List.mem_cons.1 mem with rfl | later
  · rfl
  · exact rest entry later

lemma matched_failureEffects (id : Nat) (e : ExecutionError) :
    Matched (Execution.failureEffects id e) := matched_pair rfl rfl

lemma about_failureEffects (id : Nat) (e : ExecutionError) :
    About id (Execution.failureEffects id e) := about_count (about_entry about_nil)

/-- What is logged for a queue that is drained. -/
lemma lateEffects_logged (id : Nat) (queue : List StreamEvent) :
    Matched (queue.flatMap (Execution.lateEffects id)) ∧
      About id (queue.flatMap (Execution.lateEffects id)) ∧
      ∃ n, events (queue.flatMap (Execution.lateEffects id)) =
        List.replicate n .duplicateIgnored := by
  induction queue with
  | nil => exact ⟨matched_nil, about_nil, 0, rfl⟩
  | cons event rest ih =>
    obtain ⟨matched, about, n, logged⟩ := ih
    have duplicate (signal : String) :
        Matched (Execution.duplicateEffects id signal) ∧
          About id (Execution.duplicateEffects id signal) :=
      ⟨matched_pair rfl rfl, about_count (about_entry about_nil)⟩
    rw [List.flatMap_cons]
    cases event with
    | response batch => exact ⟨matched, about, n, logged⟩
    | failure e =>
      have first := duplicate "error"
      refine ⟨first.1.append matched, first.2.append about, n + 1, ?_⟩
      rw [events_append, logged]
      rfl
    | completion =>
      have first := duplicate "complete"
      refine ⟨first.1.append matched, first.2.append about, n + 1, ?_⟩
      rw [events_append, logged]
      rfl

end Effects

namespace Execution

variable {x y z : Execution} {v : Verdict} {next : AfterFailure} {effects more : List Effect}
  {news : List Observation} {left : Option Phase}

/-! ### Moves -/

lemma proceed_logged (x : Execution) (next : AfterFailure) :
    Matched (x.proceed next).2 ∧ About x.id (x.proceed next).2 ∧
      ∃ n, events (x.proceed next).2 = List.replicate n .duplicateIgnored := by
  cases next with
  | drain => exact lateEffects_logged x.id x.channel.queue
  | leave => exact ⟨matched_nil, about_nil, 0, rfl⟩
  | listen => exact ⟨matched_nil, about_nil, 0, rfl⟩

/-- The end of an execution is logged once, and under its own name. -/
lemma Decides.logged (h : x.Decides z v next effects) :
    Matched effects ∧ About x.id effects ∧
      ∃ g event, z.phase.gauge? = some g ∧ g.event? = some event ∧ events effects = [event] := by
  cases h with
  | completion =>
    exact ⟨matched_pair rfl rfl, about_count (about_entry about_nil), _, _, rfl, rfl, rfl⟩
  | failure =>
    exact ⟨matched_failureEffects _ _, about_failureEffects _ _, _, _, rfl, rfl, rfl⟩
  | closed =>
    exact ⟨matched_failureEffects _ _, about_failureEffects _ _, _, _, rfl, rfl, rfl⟩
  | undecodable =>
    exact ⟨matched_failureEffects _ _, about_failureEffects _ _, _, _, rfl, rfl, rfl⟩
  | cancelled listening signal cancelled =>
    refine ⟨matched_pair rfl rfl, about_count (about_entry about_nil), .cancelled, _, ?_, rfl, rfl⟩
    rw [cancelled]
    rfl

lemma Decides.seenResponse_eq (h : x.Decides z v next effects) :
    z.seenResponse = x.seenResponse := by
  cases h <;> rfl

/-- What a move logs, in terms of what the driver has recorded. -/
inductive Writes (x y : Execution) : List Event → Prop where
  | opened (fresh : x.seenResponse = false) (seen : y.seenResponse = true)
      (before : x.recorded = none) (after : y.recorded = none) : Writes x y [.firstResponse]
  | outcome {g event} (n : Nat) (seen : y.seenResponse = x.seenResponse)
      (before : x.recorded = none) (after : y.recorded = some g) (logged : g.event? = some event) :
      Writes x y (event :: List.replicate n .duplicateIgnored)
  /-- Late signals, if any, come after the outcome. -/
  | late (n : Nat) (seen : y.seenResponse = x.seenResponse) (same : y.recorded = x.recorded)
      (after : n ≠ 0 → x.recorded ≠ none) : Writes x y (List.replicate n .duplicateIgnored)

lemma writes_nothing {r : Option Gauge} (seen : y.seenResponse = x.seenResponse)
    (before : x.recorded = r) (after : y.recorded = r) : x.Writes y [] :=
  .late 0 seen (after.trans before.symm) (by simp)

lemma gauge?_ne_none {p : Phase} (decided : p ≠ .streaming) : p.gauge? ≠ none := by
  cases p <;> simp_all [Phase.gauge?]

/-- An error that has waited for room has been recorded before; what comes now is late. -/
lemma proceed_writes {e : ExecutionError} (stands : x.Stands left)
    (waiting : x.task = .failing e next) (id : y.id = x.id) (phase : y.phase = x.phase)
    (seen : y.seenResponse = x.seenResponse) :
    Matched (y.proceed next).2 ∧ About x.id (y.proceed next).2 ∧
      x.Writes (y.proceed next).1 (events (y.proceed next).2) := by
  obtain ⟨matched, about, n, late⟩ := y.proceed_logged next
  have before : x.recorded = x.phase.gauge? :=
    recorded_of_idle (by rw [waiting]; exact not_false)
  refine ⟨matched, id ▸ about, ?_⟩
  rw [late]
  refine .late n (proceed_seenResponse.trans seen) ?_ fun _ => ?_
  · rw [recorded_of_detached proceed_attached, proceed_phase, phase, before]
  · rw [before]
    exact gauge?_ne_none (stands.decided_of_failing waiting)

/-- A move counts what it logs, logs it about its execution, and in the order of its life. -/
theorem Move.logged (h : x.Move y effects news) (stands : x.Stands left) :
    Matched effects ∧ About x.id effects ∧ x.Writes y (events effects) := by
  have silent {r : Option Gauge} (seen : y.seenResponse = x.seenResponse)
      (before : x.recorded = r) (after : y.recorded = r) :
      Matched [] ∧ About x.id [] ∧ x.Writes y (events []) :=
    ⟨matched_nil, about_nil, writes_nothing seen before after⟩
  cases h with
  | leave listening signal quiet =>
    have before : x.recorded = x.phase.gauge? := if_neg fun h => quiet ⟨h.1, h.2.1⟩
    exact silent rfl before (recorded_of_detached rfl)
  | response listening live first undecided =>
    have before : x.recorded = none := recorded_of_streaming undecided
    cases seen : x.seenResponse with
    | true =>
      exact ⟨matched_nil, about_nil,
        writes_nothing seen.symm before (recorded_of_streaming undecided)⟩
    | false =>
      refine ⟨matched_log fun g => ?_, about_entry about_nil,
        .opened seen rfl before (recorded_of_streaming undecided)⟩
      cases g <;> simp [Gauge.event?]
  | skip busy working =>
    have same : ({ x with task := .listening } : Execution).recorded = x.recorded := by
      have listening : Working .listening := trivial
      simp only [recorded, working, listening]
    exact silent rfl rfl same
  | decode delivering undecided good =>
    exact ⟨matched_rows 1, about_count about_nil,
      writes_nothing rfl (recorded_of_streaming undecided) (recorded_of_streaming undecided)⟩
  | hand offering live takes =>
    have undecided := (stands.offering_live offering live).1
    exact silent rfl (recorded_of_streaming undecided) (recorded_of_streaming undecided)
  | handCancelled offering live undecided cancels =>
    have attached := (stands.offering_live offering live).2
    exact silent rfl (recorded_of_streaming undecided) (recorded_of_unnoticed rfl attached trivial)
  | lose offering live undecided gone =>
    exact ⟨matched_pair rfl rfl, about_count (about_entry about_nil),
      .outcome 0 rfl (recorded_of_streaming undecided) (recorded_of_detached rfl) rfl⟩
  | @settle z v next effects attached decides prompt =>
    obtain ⟨matched, about, g, event, phase, named, logged⟩ := decides.logged
    obtain ⟨matched', about', n, late⟩ := (z.tell v).proceed_logged next
    have id : (z.tell v).id = x.id := decides.id_eq
    refine ⟨matched.append matched', about.append (id ▸ about'), ?_⟩
    rw [events_append, logged, late]
    refine .outcome n (proceed_seenResponse.trans decides.seenResponse_eq)
      (decides.recorded_eq attached) ?_ named
    rw [recorded_of_detached proceed_attached, proceed_phase]
    exact phase
  | @await z e next effects attached decides pull =>
    obtain ⟨matched, about, g, event, phase, named, logged⟩ := decides.logged
    have after : ({ z with task := .failing e next } : Execution).recorded = z.phase.gauge? :=
      recorded_of_idle not_false
    refine ⟨matched, about, ?_⟩
    rw [logged]
    exact .outcome 0 decides.seenResponse_eq (decides.recorded_eq attached) (after.trans phase)
      named
  | report waiting => exact proceed_writes stands waiting rfl rfl rfl
  | refuse waiting => exact proceed_writes stands waiting rfl rfl rfl

/-! ### Runs of a driver -/

/-- The events that a driver has logged, in terms of what it has recorded and of the number of late
signals. -/
def story (x : Execution) (late : Nat) : List Event :=
  (if x.seenResponse then [.firstResponse] else []) ++ (x.recorded.bind Gauge.event?).toList ++
    List.replicate late .duplicateIgnored

lemma Writes.story {written : List Event} (h : x.Writes y written) {n : Nat}
    (waiting : x.recorded = none → n = 0) :
    ∃ m, x.story n ++ written = y.story m ∧ (y.recorded = none → m = 0) := by
  cases h with
  | opened fresh seen before after =>
    exact ⟨0, by simp [Execution.story, fresh, seen, before, after, waiting before], fun _ => rfl⟩
  | outcome k seen before after logged =>
    refine ⟨k, by simp [Execution.story, seen, before, after, logged, waiting before], ?_⟩
    rw [after]
    exact nofun
  | late k seen same after =>
    refine ⟨n + k, ?_, fun open_ => ?_⟩
    · rw [Execution.story, Execution.story, seen, same, List.append_assoc,
        List.replicate_append_replicate]
    · rw [same] at open_
      by_contra more
      exact after (by have := waiting open_; omega) open_

/-- What the driver of an execution has logged is what it has counted, and it is about this
execution. -/
structure Narrated (x : Execution) (effects : List Effect) : Prop where
  matched : Matched effects
  about : About x.id effects
  story : ∃ late, events effects = x.story late ∧ (x.recorded = none → late = 0)

lemma narrated_start (id : Nat) (database : String) (pipeline : Pipeline) (channel : Channel)
    (consumer : Consumer) : (start id database pipeline channel consumer).Narrated [] :=
  ⟨matched_nil, about_nil, 0, rfl, fun _ => rfl⟩

lemma Narrated.move (h : x.Narrated effects) (stands : x.Stands left) (move : x.Move y more news) :
    y.Narrated (effects ++ more) := by
  obtain ⟨matched, about, writes⟩ := move.logged stands
  obtain ⟨n, story, waiting⟩ := h.story
  obtain ⟨m, story', waiting'⟩ := writes.story waiting
  refine ⟨h.matched.append matched, ?_, m, ?_, waiting'⟩
  · rw [move.id_eq]
    exact h.about.append about
  · rw [events_append, story, story']

lemma Narrated.still (h : x.Narrated effects) (still : x.Still y) (id : y.id = x.id)
    (seen : y.seenResponse = x.seenResponse) : y.Narrated effects := by
  refine ⟨h.matched, id ▸ h.about, ?_⟩
  rw [still.recorded]
  obtain ⟨n, story, waiting⟩ := h.story
  exact ⟨n, by rw [story, Execution.story, Execution.story, seen, still.recorded], waiting⟩

end Execution

namespace Session

open Execution

variable {s : Session} {told : List Observation}

lemma Aside.seenResponse {t : Session} (aside : Aside s t) :
    t.execution.seenResponse = s.execution.seenResponse := by
  rw [aside.execution]

lemma act_seenResponse (upheld : s.Upheld told) {action : Action} (other : action ≠ .drive) :
    (s.act action).execution.seenResponse = s.execution.seenResponse := by
  have acted := acted upheld action
  generalize s.act action = t at acted
  cases acted with
  | outside => rfl
  | moved => exact absurd rfl other
  | polled => exact s.poll_aside.seenResponse
  | refused => rfl
  | won => rfl
  | dropped => exact s.drop_aside.seenResponse

end Session

namespace Member

variable {m : Member}

/-- What a driver does to the counters and the log in an action. -/
lemma Sound.emitted_logged (h : m.Sound) (action : Action) :
    Matched (m.session.emitted action) ∧ About m.execution.id (m.session.emitted action) := by
  obtain ⟨database, told, upheld, -⟩ := h.guarded
  by_cases drive : action = .drive
  · subst drive
    rcases Session.driven upheld with ⟨-, nothing⟩ | ⟨y, news, left, driven, move⟩
    · rw [nothing]
      exact ⟨matched_nil, about_nil⟩
    · obtain ⟨matched, about, -⟩ := move.logged upheld.stands
      exact ⟨matched, about⟩
  · rw [Session.emitted_of_ne drive]
    exact ⟨matched_nil, about_nil⟩

/-- Nobody but its driver logs about an execution. -/
theorem Sound.narrated_act (h : m.Sound) (narrated : m.execution.Narrated m.effects)
    (action : Action) : (m.act action).execution.Narrated (m.act action).effects := by
  obtain ⟨database, told, upheld, -, calm, -⟩ := h.guarded
  change (m.session.act action).execution.Narrated (m.effects ++ m.session.emitted action)
  by_cases drive : action = .drive
  · subst drive
    rw [Session.act]
    rcases Session.driven upheld with ⟨stuck, nothing⟩ | ⟨y, news, left, driven, move⟩
    · rw [stuck, nothing, List.append_nil]
      exact narrated
    · rw [driven]
      exact narrated.move upheld.stands move
  · rw [Session.emitted_of_ne drive, List.append_nil]
    exact narrated.still (Session.act_still upheld calm drive) (Session.act_id upheld action)
      (Session.act_seenResponse upheld drive)

end Member

end DocumentQuery
