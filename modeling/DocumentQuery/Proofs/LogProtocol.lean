import DocumentQuery.Proofs.DriverLog

/-!
# The log of many executions

In the journal of an executor that keeps everything, the entries of its executions are mixed. Those
of one execution follow the course of its life, from the request to signals that come too late, and
every metric but the one for rows tells how many entries of its event there are.
-/

namespace DocumentQuery

/-- What is logged about an execution before the transport answers. -/
def opening (requests : Bool) : List Event := if requests then [.request] else []

/-- What can be logged about an execution, from its start to its end. -/
inductive Course (requests : Bool) : List Event → Prop where
  | refused : Course requests (opening requests ++ [.failed])
  | executed (responded : Bool) {outcome : Event}
      (ends : outcome = .completed ∨ outcome = .failed ∨ outcome = .cancelled) (late : Nat) :
      Course requests (opening requests ++ .submitted ::
        ((if responded then [.firstResponse] else []) ++
          outcome :: List.replicate late .duplicateIgnored))

/-- The events of the entries about one execution. -/
def eventsOf (id : Nat) (journal : List LogEntry) : List Event :=
  (journal.filter fun entry => entry.execution? = some (toString id)).map LogEntry.event

section EventsOf

variable {id : Nat} {effects : List Effect}

lemma eventsOf_append (journal more : List LogEntry) :
    eventsOf id (journal ++ more) = eventsOf id journal ++ eventsOf id more := by
  rw [eventsOf, List.filter_append, List.map_append]
  rfl

lemma eventsOf_of_about (about : About id effects) :
    eventsOf id (entries effects) = events effects := by
  rw [eventsOf, List.filter_eq_self.2 fun entry mem => decide_eq_true (about entry mem)]
  rfl

lemma eventsOf_of_ne {other : Nat} (about : About other effects) (ne : id ≠ other) :
    eventsOf id (entries effects) = [] := by
  rw [eventsOf, List.map_eq_nil_iff, List.filter_eq_nil_iff]
  intro entry mem same
  have ids := (of_decide_eq_true same).symm.trans (about entry mem)
  exact ne (Nat.repr_inj.1 (Option.some.inj ids))

end EventsOf

/-! ### Starts -/

section Start

variable (ex : Executor) (request : ExecuteRequest)

lemma requestEffects_logged :
    Matched (ex.requestEffects request) ∧ About ex.issued (ex.requestEffects request) ∧
      events (ex.requestEffects request) = opening ex.config.logRequests := by
  rw [Executor.requestEffects]
  cases ex.config.logRequests with
  | false => exact ⟨matched_nil, about_nil, rfl⟩
  | true =>
    refine ⟨matched_log fun g => ?_, about_entry about_nil, rfl⟩
    cases g <;> simp [Gauge.event?]

lemma submittedEffects_logged :
    Matched (ex.submittedEffects request) ∧ About ex.issued (ex.submittedEffects request) :=
  ⟨matched_pair rfl rfl, about_count (about_entry about_nil)⟩

lemma matched_rejectionEffects (e : BuildError) : Matched (Executor.rejectionEffects e) :=
  matched_pair rfl rfl

/-- A rejection is about no execution. -/
lemma eventsOf_rejectionEffects (id : Nat) (e : BuildError) :
    eventsOf id (entries (Executor.rejectionEffects e)) = [] := by
  simp [Executor.rejectionEffects, eventsOf, LogEntry.execution?, List.lookup]

end Start

/-! ### Services -/

namespace Service

/-- What has been logged so far, for every execution and for every id that was given to a start. -/
structure Chronicled (config : ExecutorConfig) (v : Service) (history : List Effect) : Prop where
  configured : v.executor.config = config
  matched : Matched history
  sound : ∀ m ∈ v.members, m.Sound
  narrated : ∀ m ∈ v.members, m.execution.Narrated m.effects
  distinct : (v.members.map fun m => m.execution.id).Nodup
  issued : ∀ m ∈ v.members, m.execution.id < v.executor.issued
  executed : ∀ m ∈ v.members, eventsOf m.execution.id (entries history) =
    opening config.logRequests ++ .submitted :: events m.effects
  refused : ∀ id < v.executor.issued, (∀ m ∈ v.members, m.execution.id ≠ id) →
    eventsOf id (entries history) = opening config.logRequests ++ [.failed]
  unissued : ∀ id, v.executor.issued ≤ id → eventsOf id (entries history) = []

variable {config : ExecutorConfig} {history : List Effect} {v : Service}

lemma chronicled_logging (config : ExecutorConfig) (logger : Logger) :
    (logging config logger).Chronicled config [] where
  configured := rfl
  matched := matched_nil
  sound m hm := by cases hm
  narrated m hm := by cases hm
  distinct := List.nodup_nil
  issued m hm := by cases hm
  executed m hm := by cases hm
  refused id below := absurd below (Nat.not_lt_zero id)
  unissued id above := rfl

/-- More is logged about one id, and nothing about the others. -/
lemma eventsOf_more (history : List Effect) {id : Nat} {more : List Effect}
    (about : About id more) (other : Nat) :
    eventsOf other (entries (history ++ more)) =
      if other = id then eventsOf id (entries history) ++ events more
      else eventsOf other (entries history) := by
  rw [entries_append, eventsOf_append]
  split
  · subst other
    rw [eventsOf_of_about about]
  · rw [eventsOf_of_ne about ‹_›, List.append_nil]

section Start

variable {transport : ExecuteRequest → Except ExecutionError Nat} {submission : Submission}
  {options : ExecuteOptions} {mode : DeliveryMode} {request : ExecuteRequest}

lemma Chronicled.apply_config (h : v.Chronicled config history) (effects : List Effect) :
    (v.executor.applyAll effects).config = config :=
  (v.executor.applyAll_config effects).trans h.configured

lemma Chronicled.apart (h : v.Chronicled config history) {m : Member} (member : m ∈ v.members) :
    m.execution.id ≠ v.executor.issued :=
  Nat.ne_of_lt (h.issued m member)

lemma Chronicled.rejected (h : v.Chronicled config history) {e : BuildError}
    (built : v.executor.buildRequest submission options = .error e) :
    (v.step (.start transport submission options mode)).Chronicled config
      (history ++ v.emitted (.start transport submission options mode)) := by
  have same (id : Nat) : eventsOf id (entries (history ++ Executor.rejectionEffects e)) =
      eventsOf id (entries history) := by
    rw [entries_append, eventsOf_append, eventsOf_rejectionEffects, List.append_nil]
  rw [step_rejected built, emitted_rejected built]
  refine ⟨h.apply_config _, h.matched.append (matched_rejectionEffects e), h.sound, h.narrated,
    h.distinct, ?_, ?_, ?_, ?_⟩ <;> simp only [same, Executor.applyAll_issued]
  · exact h.issued
  · exact h.executed
  · exact h.refused
  · exact h.unissued

lemma Chronicled.turned_down (h : v.Chronicled config history) {e : ExecutionError}
    (built : v.executor.buildRequest submission options = .ok request)
    (answer : transport request = .error e) :
    (v.step (.start transport submission options mode)).Chronicled config
      (history ++ v.emitted (.start transport submission options mode)) := by
  obtain ⟨matched, about, opened⟩ := requestEffects_logged v.executor request
  rw [h.configured] at opened
  have logged := eventsOf_more history
    (about.append (about_failureEffects v.executor.issued e))
  rw [step_refused built answer, emitted_refused built answer]
  refine ⟨h.apply_config _, h.matched.append (matched.append (matched_failureEffects _ e)), h.sound,
    h.narrated, h.distinct, fun m member => Nat.lt_succ_of_lt (h.issued m member),
    fun m member => ?_, fun id below absent => ?_, fun id above => ?_⟩
  · rw [logged, if_neg (h.apart member)]
    exact h.executed m member
  · rw [logged]
    by_cases new : id = v.executor.issued
    · rw [if_pos new, h.unissued _ le_rfl, events_append, opened]
      rfl
    · rw [if_neg new]
      exact h.refused id (Nat.lt_of_le_of_ne (Nat.le_of_lt_succ below) new) absent
  · rw [logged, if_neg (Nat.ne_of_gt above)]
    exact h.unissued id (Nat.le_of_succ_le above)

lemma Chronicled.accepted (h : v.Chronicled config history) {capacity : Nat}
    (built : v.executor.buildRequest submission options = .ok request)
    (answer : transport request = .ok capacity) :
    (v.step (.start transport submission options mode)).Chronicled config
      (history ++ v.emitted (.start transport submission options mode)) := by
  obtain ⟨matched, about, opened⟩ := requestEffects_logged v.executor request
  obtain ⟨matched', about'⟩ := submittedEffects_logged v.executor request
  rw [h.configured] at opened
  have logged := eventsOf_more history (about.append about')
  rw [step_accepted built answer, emitted_accepted built answer]
  refine ⟨h.apply_config _, h.matched.append (matched.append matched'), ?_, ?_, ?_, ?_, ?_,
    fun id below absent => ?_, fun id above => ?_⟩
  · exact List.forall_mem_append.2 ⟨h.sound, List.forall_mem_singleton.2 (Member.sound_fresh ..)⟩
  · exact List.forall_mem_append.2
      ⟨h.narrated, List.forall_mem_singleton.2 (Execution.narrated_start ..)⟩
  · rw [List.map_append, List.map_singleton]
    refine List.nodup_append.2 ⟨h.distinct, List.nodup_singleton _, ?_⟩
    rintro _ old _ new rfl
    obtain ⟨m, member, same⟩ := List.mem_map.1 old
    exact h.apart member (same.trans (List.mem_singleton.1 new))
  · exact List.forall_mem_append.2 ⟨fun m member => Nat.lt_succ_of_lt (h.issued m member),
      List.forall_mem_singleton.2 (Nat.lt_succ_self _)⟩
  · refine List.forall_mem_append.2 ⟨fun m member => ?_, List.forall_mem_singleton.2 ?_⟩
    · rw [logged, if_neg (h.apart member)]
      exact h.executed m member
    · have first := logged v.executor.issued
      rw [if_pos rfl, h.unissued _ le_rfl, events_append, opened] at first
      exact first
  · obtain ⟨others, first⟩ := List.forall_mem_append.1 absent
    have new : id ≠ v.executor.issued := fun same =>
      List.forall_mem_singleton.1 first same.symm
    rw [logged, if_neg new]
    exact h.refused id (Nat.lt_of_le_of_ne (Nat.le_of_lt_succ below) new) others
  · rw [logged, if_neg (Nat.ne_of_gt above)]
    exact h.unissued id (Nat.le_of_succ_le above)

end Start

/-! ### What the parties of an execution do -/

lemma ids_set {members : List Member} {i : Nat} {m n : Member} (found : members[i]? = some m)
    (same : n.execution.id = m.execution.id) :
    (members.set i n).map (fun m => m.execution.id) = members.map fun m => m.execution.id := by
  obtain ⟨present, rfl⟩ := List.getElem?_eq_some_iff.1 found
  have bound : i < (members.map fun m => m.execution.id).length := by simpa using present
  have self : members[i].execution.id = (members.map fun m => m.execution.id)[i] := by
    rw [List.getElem_map]
  rw [List.map_set, same, self, List.set_getElem_self]

lemma forall_id_set {members : List Member} {i : Nat} {m n : Member} (found : members[i]? = some m)
    (same : n.execution.id = m.execution.id) (p : Nat → Prop) :
    (∀ k ∈ members.set i n, p k.execution.id) ↔ ∀ k ∈ members, p k.execution.id := by
  have ids := ids_set found same
  rw [← List.forall_mem_map (P := p), ids, List.forall_mem_map]

/-- The member that has acted is the only one with its id. -/
lemma mem_set_of_distinct {members : List Member} {i : Nat} {m n k : Member}
    (found : members[i]? = some m) (same : n.execution.id = m.execution.id)
    (distinct : (members.map fun m => m.execution.id).Nodup) (member : k ∈ members.set i n) :
    k = n ∨ k ∈ members ∧ k.execution.id ≠ m.execution.id := by
  rcases List.mem_or_eq_of_mem_set member with old | new
  · by_cases id : k.execution.id = m.execution.id
    · left
      rw [← ids_set found same] at distinct
      have present : i < members.length := (List.getElem?_eq_some_iff.1 found).1
      exact List.inj_on_of_nodup_map distinct member (List.mem_set present n) (id.trans same.symm)
    · exact .inr ⟨old, id⟩
  · exact .inl new

lemma Chronicled.act (h : v.Chronicled config history) (i : Nat) {action : Action}
    (calm : action ≠ .abort) :
    (v.step (.act i action)).Chronicled config (history ++ v.emitted (.act i action)) := by
  cases found : v.members[i]? with
  | none =>
    have idle : v.step (.act i action) = v := by rw [step, found]
    have silent : v.emitted (.act i action) = [] := by rw [emitted, found]
    rw [idle, silent, List.append_nil]
    exact h
  | some m =>
    have member : m ∈ v.members := List.mem_of_getElem? found
    have sound := h.sound m member
    obtain ⟨matched, about⟩ := sound.emitted_logged action
    have emitted : v.emitted (.act i action) = m.session.emitted action := by rw [emitted, found]
    have logged := eventsOf_more history about
    have id : (m.act action).execution.id = m.execution.id := by
      obtain ⟨database, told, upheld, -⟩ := sound.guarded
      exact Session.act_id upheld action
    have members {k : Member} (hk : k ∈ v.members.set i (m.act action)) :=
      mem_set_of_distinct found id h.distinct hk
    rw [step_act found, emitted]
    refine ⟨h.apply_config _, h.matched.append matched, fun k hk => ?_, fun k hk => ?_, ?_, ?_,
      fun k hk => ?_, fun id' below absent => ?_, fun id' above => ?_⟩
    · rcases members hk with rfl | ⟨old, -⟩
      · exact sound.act calm
      · exact h.sound k old
    · rcases members hk with rfl | ⟨old, -⟩
      · exact sound.narrated_act (h.narrated m member) action
      · exact h.narrated k old
    · rw [ids_set found id]
      exact h.distinct
    · rw [Executor.applyAll_issued]
      exact (forall_id_set found id (· < v.executor.issued)).2 h.issued
    · rcases members hk with rfl | ⟨old, other⟩
      · rw [id, logged, if_pos rfl, h.executed m member, Member.act, events_append]
        simp
      · rw [logged, if_neg other]
        exact h.executed k old
    · rw [Executor.applyAll_issued] at below
      have others := (forall_id_set found id (· ≠ id')).1 absent
      rw [logged, if_neg (others m member).symm]
      exact h.refused id' below others
    · rw [Executor.applyAll_issued] at above
      rw [logged, if_neg (Nat.ne_of_gt (Nat.lt_of_lt_of_le (h.issued m member) above))]
      exact h.unissued id' above

lemma Chronicled.step (h : v.Chronicled config history) (deed : Deed)
    (calm : ∀ i, deed ≠ .act i .abort) :
    (v.step deed).Chronicled config (history ++ v.emitted deed) := by
  cases deed with
  | start transport submission options mode =>
    cases built : v.executor.buildRequest submission options with
    | error e => exact h.rejected built
    | ok request =>
      cases answer : transport request with
      | error e => exact h.turned_down built answer
      | ok capacity => exact h.accepted built answer
  | act i action =>
    refine h.act i fun abort => calm i ?_
    rw [abort]

theorem Chronicled.run (h : v.Chronicled config history) {deeds : List Deed}
    (calm : ∀ i, .act i .abort ∉ deeds) :
    (v.run deeds).Chronicled config (history ++ v.effects deeds) := by
  induction deeds generalizing v history with
  | nil => rwa [effects, List.append_nil]
  | cons deed rest ih =>
    have first := h.step deed fun i abort => calm i (abort ▸ List.mem_cons_self)
    have all := ih first fun i found => calm i (List.mem_cons_of_mem _ found)
    rwa [List.append_assoc] at all

/-! ### The journal -/

/-- What has been logged about an execution is the beginning of a course, and all of it if the
driver has recorded an outcome. -/
lemma course_of_story (requests : Bool) (x : Execution) {late : Nat}
    (waiting : x.recorded = none → late = 0) :
    (∃ course, Course requests course ∧
      opening requests ++ .submitted :: x.story late <+: course) ∧
    (x.recorded.isSome = true →
      Course requests (opening requests ++ .submitted :: x.story late)) := by
  have full {g : Gauge} {outcome : Event} (recorded : x.recorded = some g)
      (logged : g.event? = some outcome)
      (ends : outcome = .completed ∨ outcome = .failed ∨ outcome = .cancelled) :
      Course requests (opening requests ++ .submitted :: x.story late) := by
    rw [Execution.story, recorded, Option.bind_some, logged, Option.toList_some, List.append_assoc]
    exact .executed x.seenResponse ends late
  rcases x.recorded_cases with undecided | completed | failed | cancelled
  · refine ⟨⟨_, .executed x.seenResponse (.inl rfl) 0, ?_⟩, fun decided => ?_⟩
    · rw [Execution.story, undecided, waiting undecided]
      simp
    · rw [undecided] at decided
      cases decided
  · have course := full completed rfl (.inl rfl)
    exact ⟨⟨_, course, List.prefix_rfl⟩, fun _ => course⟩
  · have course := full failed rfl (.inr (.inl rfl))
    exact ⟨⟨_, course, List.prefix_rfl⟩, fun _ => course⟩
  · have course := full cancelled rfl (.inr (.inr rfl))
    exact ⟨⟨_, course, List.prefix_rfl⟩, fun _ => course⟩

/-- The journal of an executor follows the lives of its executions, and agrees with the metrics. -/
structure Recounts (config : ExecutorConfig) (v : Service) : Prop where
  begun : ∀ id, ∃ course, Course config.logRequests course ∧
    eventsOf id v.executor.journal <+: course
  executed : ∀ m ∈ v.members, ∃ late, eventsOf m.execution.id v.executor.journal =
    opening config.logRequests ++ .submitted :: m.execution.story late
  ended : ∀ m ∈ v.members, m.execution.task = .ended →
    Course config.logRequests (eventsOf m.execution.id v.executor.journal)
  /-- A start that was given an id and did not become an execution was refused. -/
  refused : ∀ id < v.executor.issued, (∀ m ∈ v.members, m.execution.id ≠ id) →
    eventsOf id v.executor.journal = opening config.logRequests ++ [.failed]
  counted : ∀ g event, g.event? = some event →
    v.executor.metrics.read g = .ofNat ((v.executor.journal.map LogEntry.event).count event)

lemma Chronicled.recounts (h : v.Chronicled config history)
    (journal : v.executor.journal = entries history)
    (metrics : ∀ g, v.executor.metrics.read g = .ofNat (raised g history)) : v.Recounts config := by
  have executed {m : Member} (member : m ∈ v.members) :
      ∃ late, (m.execution.recorded = none → late = 0) ∧
        eventsOf m.execution.id (entries history) =
          opening config.logRequests ++ .submitted :: m.execution.story late := by
    obtain ⟨late, story, waiting⟩ := (h.narrated m member).story
    exact ⟨late, waiting, by rw [h.executed m member, story]⟩
  constructor <;> rw [journal]
  case begun =>
    intro id
    by_cases member : ∃ m ∈ v.members, m.execution.id = id
    · obtain ⟨m, member, rfl⟩ := member
      obtain ⟨late, waiting, events⟩ := executed member
      rw [events]
      exact (course_of_story config.logRequests m.execution waiting).1
    · rcases Nat.lt_or_ge id v.executor.issued with below | above
      · rw [h.refused id below fun m hm same => member ⟨m, hm, same⟩]
        exact ⟨_, .refused, List.prefix_rfl⟩
      · rw [h.unissued id above]
        exact ⟨_, .refused, List.nil_prefix⟩
  case executed =>
    intro m member
    obtain ⟨late, -, events⟩ := executed member
    exact ⟨late, events⟩
  case ended =>
    intro m member ended
    obtain ⟨late, waiting, events⟩ := executed member
    rw [events]
    exact (course_of_story config.logRequests m.execution waiting).2
      ((h.sound m member).recorded_of_ended ended)
  case refused => exact h.refused
  case counted =>
    intro g event logged
    rw [metrics, h.matched g event logged]
    rfl

/-- A metric of a new executor is what the effects of its deeds add to it. -/
lemma read_logging (config : ExecutorConfig) (logger : Logger) (deeds : List Deed) (g : Gauge) :
    ((logging config logger).run deeds).executor.metrics.read g =
      .ofNat (raised g ((logging config logger).effects deeds)) := by
  have zero : (logging config logger).executor.metrics.read g = 0 := by cases g <;> rfl
  have read := (logging config logger).executor.read_applyAll
    ((logging config logger).effects deeds) g
  rw [Executor.applyAll_eq, zero, zero_add] at read
  rw [((logging config logger).run_executor deeds).2.2.1]
  exact read

/-- In a journal that keeps everything, the entries about one execution are the beginning of a
course, and the whole of one when its driver has ended. The counters are numbers of entries. -/
theorem log_follows_protocol (config : ExecutorConfig) (logger : Logger)
    (keeps : ∀ severity, logger.enabled severity = true) (deeds : List Deed)
    (calm : ∀ i, .act i .abort ∉ deeds) :
    ((logging config logger).run deeds).Recounts config := by
  have chronicled := (chronicled_logging config logger).run calm
  rw [List.nil_append] at chronicled
  refine chronicled.recounts ?_ (read_logging config logger deeds)
  rw [journal_logging]
  exact List.filter_eq_self.2 fun entry _ => keeps entry.severity

/-- One start is rejected and one is refused. An execution is completed, and a second completion is
ignored. -/
theorem log_follows_protocol_three :
    let config : ExecutorConfig := { logRequests := true }
    let p : Pipeline := ⟨none, [.database]⟩
    let deeds : List Deed :=
      [.start (fun _ => .ok 1) ⟨⟨none, []⟩, []⟩ {} .buffer,
        .start (fun _ => .error .streamClosed) ⟨p, []⟩ {} .buffer,
        .start (fun _ => .ok 3) ⟨p, []⟩ {} .buffer,
        .act 0 (.send (.response { rows := [] })), .act 0 (.send .completion),
        .act 0 (.send .completion), .act 0 .drive, .act 0 .drive, .act 0 .drive]
    let v := (logging config ⟨.trace, .memory⟩).run deeds
    (eventsOf 0 v.executor.journal = [.request, .failed] ∧
      eventsOf 1 v.executor.journal =
        [.request, .submitted, .firstResponse, .completed, .duplicateIgnored]) ∧
      v.Recounts config := by
  have keeps (severity : Severity) : Logger.enabled ⟨.trace, .memory⟩ severity = true := by
    cases severity <;> rfl
  exact ⟨⟨rfl, rfl⟩, log_follows_protocol _ _ keeps _ (by simp)⟩

end Service

end DocumentQuery
