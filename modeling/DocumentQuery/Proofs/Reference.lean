import DocumentQuery.Proofs.Settling

/-!
# The outcome of a list of events

The events of a transport are read one by one, and their rows are decoded one by one with the time
of the first response. Reading stops at the first completion, at the first error, at the first row
that cannot be decoded, or at the end of the list. Whatever the order of steps, a session gives its
consumer rows of this outcome only, and in their order.
-/

namespace DocumentQuery

/-- The rows that come before the end, and how it ends. -/
structure Outcome where
  rows : List Row
  result : Verdict

namespace Outcome

def prepend (rows : List Row) (o : Outcome) : Outcome := { o with rows := rows ++ o.rows }

@[simp] lemma prepend_nil (o : Outcome) : o.prepend [] = o := rfl

@[simp] lemma prepend_prepend (rows more : List Row) (o : Outcome) :
    (o.prepend more).prepend rows = o.prepend (rows ++ more) := by
  simp [prepend]

@[simp] lemma rows_prepend (rows : List Row) (o : Outcome) :
    (o.prepend rows).rows = rows ++ o.rows := rfl

end Outcome

/-- The outcome of the rows of a batch, given the outcome of what comes after them. -/
def afterRows (time : Option Timestamp) (database : String) : List RowPayload → Outcome → Outcome
  | [], later => later
  | payload :: rest, later =>
    match Row.decode payload time database with
    | .error e => ⟨[], .error e⟩
    | .ok row => (afterRows time database rest later).prepend [row]

/-- The outcome of a list of events. The clock is the time of the first response, which may be
absent, once there has been a response. -/
def reference (database : String) : Option (Option Timestamp) → List StreamEvent → Outcome
  | _, [] => ⟨[], .error .streamClosed⟩
  | clock, .completion :: _ => ⟨[], .ok (clock.getD none)⟩
  | _, .failure e :: _ => ⟨[], .error e⟩
  | clock, .response batch :: rest =>
    let time := clock.getD batch.executionTime
    afterRows time database batch.rows (reference database (some time) rest)

/-! ### Rows of batches -/

def StreamEvent.batch? : StreamEvent → Option ResponseBatch
  | .response batch => some batch
  | _ => none

/-- The rows of all batches, in order. -/
def payloads (events : List StreamEvent) : List RowPayload :=
  (events.filterMap StreamEvent.batch?).flatMap ResponseBatch.rows

/-- The time of the first batch. -/
def firstTime (events : List StreamEvent) : Option Timestamp :=
  (events.filterMap StreamEvent.batch?).head?.bind ResponseBatch.executionTime

lemma payloads_response (batch : ResponseBatch) (rest : List StreamEvent) :
    payloads (.response batch :: rest) = batch.rows ++ payloads rest := rfl

lemma firstTime_response (batch : ResponseBatch) (rest : List StreamEvent) :
    firstTime (.response batch :: rest) = batch.executionTime := rfl

lemma afterRows_decoded {time : Option Timestamp} {database : String} (rows : List RowPayload)
    {later : Outcome} {l : List (Except ExecutionError Row)} (h : later.rows.map .ok <+: l) :
    (afterRows time database rows later).rows.map .ok <+:
      rows.map (fun p => Row.decode p time database) ++ l := by
  induction rows with
  | nil => exact h
  | cons payload rest ih =>
    rw [afterRows]
    cases decoded : Row.decode payload time database with
    | error e => exact List.nil_prefix
    | ok row => simpa [decoded] using ih

/-- The rows of an outcome are the first ones of the batches, decoded with the time of the first
batch. -/
theorem reference_decoded (database : String) (clock : Option (Option Timestamp))
    (events : List StreamEvent) :
    (reference database clock events).rows.map .ok <+:
      (payloads events).map fun p => Row.decode p (clock.getD (firstTime events)) database := by
  induction events generalizing clock with
  | nil => exact List.nil_prefix
  | cons event rest ih =>
    cases event with
    | completion => exact List.nil_prefix
    | failure e => exact List.nil_prefix
    | response batch =>
      rw [payloads_response, firstTime_response, List.map_append, reference]
      have later := ih (some (clock.getD batch.executionTime))
      rw [Option.getD_some] at later
      exact afterRows_decoded batch.rows later

/-! ### Rows among observations -/

def Observation.row? : Observation → Option Row
  | .row r => some r
  | _ => none

/-- The rows that a driver tells one by one. -/
def toldRows (told : List Observation) : List Row := told.filterMap Observation.row?

/-- The rows that a consumer sees in an observation, one by one or all at once. -/
def Observation.rows : Observation → List Row
  | .row r => [r]
  | .snapshot s => s.rows
  | _ => []

def seenRows (seen : List Observation) : List Row := seen.flatMap Observation.rows

@[simp] lemma toldRows_append (told news : List Observation) :
    toldRows (told ++ news) = toldRows told ++ toldRows news := List.filterMap_append

@[simp] lemma toldRows_map_row (rows : List Row) : toldRows (rows.map .row) = rows := by
  simp [toldRows, List.filterMap_map, Function.comp_def, Observation.row?]

@[simp] lemma seenRows_append (seen more : List Observation) :
    seenRows (seen ++ more) = seenRows seen ++ seenRows more := List.flatMap_append

@[simp] lemma seenRows_map_row (rows : List Row) : seenRows (rows.map .row) = rows := by
  simp [seenRows, List.flatMap_map, Observation.rows]

lemma toldRows_singleton_row (row : Row) : toldRows [.row row] = [row] := rfl

lemma seenRows_signals (signals : List PushSignal) :
    seenRows (signals.map PushSignal.observation) =
      toldRows (signals.map PushSignal.observation) := by
  induction signals with
  | nil => rfl
  | cons signal rest ih =>
    rw [List.map_cons, ← List.singleton_append, seenRows_append, toldRows_append, ih]
    cases signal <;> rfl

lemma Consumer.toldRows_told (p : Pipeline) (c : Consumer) (v : Verdict) :
    toldRows (c.told p v) = [] := by
  cases c with
  | push signals n => cases v <;> rfl
  | buffer slot =>
    rw [Consumer.told]
    split
    · cases v <;> rfl
    · rfl
  | pull stream => cases v <;> rfl

namespace Execution

variable {x y : Execution} {effects : List Effect} {news : List Observation} {left : Option Phase}

/-! ### What a driver has before it -/

/-- The time of the first response, once there has been one. -/
def clock (x : Execution) : Option (Option Timestamp) :=
  if x.seenResponse then some x.executionTime else none

/-- The outcome of what the driver has in its hands and of the events to come. -/
def outlook (x : Execution) (pending : List StreamEvent) : Outcome :=
  let later := reference x.database x.clock pending
  match x.task with
  | .delivering rows => afterRows x.executionTime x.database rows later
  | .offering row rest => (afterRows x.executionTime x.database rest later).prepend [row]
  | _ => later

/-- Whether the driver goes on with events: nothing has been accepted, and there is no signal. -/
def Live (x : Execution) : Prop := x.phase = .streaming ∧ x.channel.cancelled = false

lemma taking_of_busy (busy : x.task ≠ .listening) : x.taking = [] := by
  unfold taking
  split
  · contradiction
  · rfl

lemma taking_of_listening (listening : x.task = .listening) (live : x.channel.cancelled = false) :
    x.taking = x.channel.queue.take 1 := by
  rw [taking, listening, live]

lemma Decides.cancelled_of {z : Execution} {v : Verdict} {next : AfterFailure}
    (h : x.Decides z v next effects) (live : z.channel.cancelled = false) :
    x.channel.cancelled = false := by
  cases h with
  | completion listening open_ => exact open_
  | failure listening open_ => exact open_
  | closed listening open_ => exact open_
  | undecodable => cases live
  | cancelled => exact live

lemma Move.live_of (h : x.Move y effects news) (live : y.Live) : x.Live := by
  obtain ⟨undecided, open_⟩ := live
  refine ⟨?_, ?_⟩
  · by_contra decided
    exact decided ((h.phase_eq decided).symm.trans undecided)
  · cases h with
    | leave => exact open_
    | response listening live first => exact live
    | skip => exact open_
    | decode => exact open_
    | hand offering live => exact live
    | handCancelled offering live => exact live
    | lose offering live => exact live
    | settle attached decides prompt =>
      rw [proceed_cancelled, Bool.or_eq_false_iff] at open_
      exact decides.cancelled_of open_.2
    | await attached decides pull => exact decides.cancelled_of open_
    | report waiting pull accepting room =>
      rw [proceed_cancelled, Bool.or_eq_false_iff] at open_
      exact open_.2
    | refuse waiting pull closed =>
      rw [proceed_cancelled, Bool.or_eq_false_iff] at open_
      exact open_.2

lemma Move.database_eq (h : x.Move y effects news) : y.database = x.database := by
  cases h with
  | leave => rfl
  | response => rfl
  | skip => rfl
  | decode => rfl
  | hand => rfl
  | handCancelled => rfl
  | lose => rfl
  | settle attached decides prompt =>
    rw [proceed_database]
    exact decides.database_eq
  | await attached decides pull => exact decides.database_eq
  | report => exact proceed_database
  | refuse => exact proceed_database

/-- What a driver tells by a move is the next of what it has before it. -/
theorem Move.outlook_eq (h : x.Move y effects news) (stands : x.Stands left) (live : y.Live)
    (pending : List StreamEvent) :
    x.outlook (x.taking ++ pending) = (y.outlook pending).prepend (toldRows news) := by
  cases h with
  | leave listening signal silent =>
    have closed : x.channel.cancelled = false := live.2
    rw [signal] at closed
    cases closed
  | response listening open_ first undecided =>
    rw [taking_of_listening listening open_, first]
    simp only [outlook, listening, List.take_succ_cons, List.take_zero, List.singleton_append,
      reference, clock, toldRows, List.filterMap_nil, Outcome.prepend_nil]
    cases x.seenResponse <;> rfl
  | skip busy working idle =>
    have open_ : x.channel.cancelled = false := live.2
    rw [open_] at idle
    have delivering := idle.resolve_right (by simp)
    rw [taking_of_busy busy]
    simp only [outlook, delivering, List.nil_append, afterRows, toldRows, List.filterMap_nil,
      Outcome.prepend_nil]
    rfl
  | decode delivering undecided good =>
    rw [taking_of_busy (by simp [delivering])]
    simp only [outlook, delivering, afterRows, good, List.nil_append, toldRows,
      List.filterMap_nil, Outcome.prepend_nil]
    rfl
  | hand offering open_ takes =>
    rw [taking_of_busy (by simp [offering]), toldRows_singleton_row]
    simp only [outlook, offering, List.nil_append]
    rfl
  | handCancelled => cases live.1
  | lose => cases live.1
  | settle attached decides prompt =>
    exact absurd live.1 (proceed_phase_ne decides.phase_ne)
  | await attached decides pull => exact absurd live.1 decides.phase_ne
  | report waiting pull accepting room =>
    exact absurd live.1 (proceed_phase_ne (stands.decided_of_failing waiting))
  | refuse waiting pull closed =>
    exact absurd live.1 (proceed_phase_ne (stands.decided_of_failing waiting))

/-- A row that is told is the one that the driver had in its hands. -/
theorem Move.tells_next (h : x.Move y effects news) :
    toldRows news <+: (x.outlook x.taking).rows := by
  have quiet (silent : toldRows news = []) : toldRows news <+: (x.outlook x.taking).rows := by
    rw [silent]
    exact List.nil_prefix
  cases h with
  | leave => exact quiet rfl
  | response => exact quiet rfl
  | skip => exact quiet rfl
  | decode => exact quiet rfl
  | hand offering live takes =>
    simp only [outlook, offering, toldRows_singleton_row, Outcome.rows_prepend]
    exact List.prefix_append _ _
  | handCancelled offering live undecided cancels =>
    simp only [outlook, offering, toldRows_singleton_row, Outcome.rows_prepend]
    exact List.prefix_append _ _
  | lose => exact quiet rfl
  | settle attached decides prompt => exact quiet (Consumer.toldRows_told _ _ _)
  | await => exact quiet rfl
  | report => exact quiet rfl
  | refuse => exact quiet rfl

/-- A driver that does not go on takes no events and tells no rows. -/
lemma Move.idle (h : x.Move y effects news) (stands : x.Stands left) (idle : ¬x.Live) :
    toldRows news = [] ∧ x.taking = [] := by
  have listening_idle (listening : x.task = .listening) : x.taking = [] := by
    cases open_ : x.channel.cancelled with
    | true => rw [taking, listening, open_]
    | false =>
      cases stands with
      | running undecided => exact absurd ⟨undecided, open_⟩ idle
      | cancelling _ _ _ signal => rw [open_] at signal; cases signal
      | reporting _ _ waiting => rw [listening] at waiting; cases waiting
      | winding _ _ _ signal => rw [open_] at signal; cases signal
      | finished _ ended => rw [listening] at ended; cases ended
  have taking : x.taking = [] := by
    by_cases listening : x.task = .listening
    · exact listening_idle listening
    · exact taking_of_busy listening
  refine ⟨?_, taking⟩
  cases h with
  | leave => rfl
  | response => rfl
  | skip => rfl
  | decode => rfl
  | hand offering live takes => exact absurd ⟨(stands.offering_live offering live).1, live⟩ idle
  | handCancelled offering live undecided cancels => exact absurd ⟨undecided, live⟩ idle
  | lose => rfl
  | settle => exact Consumer.toldRows_told _ _ _
  | await => rfl
  | report => rfl
  | refuse => rfl

end Execution

namespace Session

open Execution

variable {s : Session} {told : List Observation} {database : String}

/-- What the driver has told is what the events that it has taken call for, and the consumer has
seen no other rows. -/
structure Follows (s : Session) (database : String) (told : List Observation) : Prop where
  source : s.execution.database = database
  account : s.execution.Live → ∀ pending, reference database none (s.taken ++ pending) =
    (s.execution.outlook pending).prepend (toldRows told)
  sound : toldRows told <+: (reference database none s.taken).rows
  seen : seenRows s.seen <+: toldRows told

/-- The rows that a consumer has seen are the first ones of the batches that the driver has taken,
decoded with the time of the first of them. -/
lemma Follows.seen_decoded (h : s.Follows database told) :
    (seenRows s.seen).map .ok <+:
      (payloads s.taken).map fun p => Row.decode p (firstTime s.taken) database := by
  have told_rows := (h.seen.trans h.sound).map (Except.ok (ε := ExecutionError))
  exact told_rows.trans (reference_decoded database none s.taken)

lemma Follows.after {y : Execution} {effects : List Effect} {news : List Observation}
    (h : s.Follows database told) (upheld : s.Upheld told)
    (later : (s.after y).Upheld (told ++ news))
    (move : s.execution.Move y effects news) : (s.after y).Follows database (told ++ news) where
  source := move.database_eq.trans h.source
  account live pending := by
    have account := h.account (move.live_of live) (s.execution.taking ++ pending)
    rw [move.outlook_eq upheld.stands live, Outcome.prepend_prepend, ← List.append_assoc] at account
    rw [toldRows_append]
    exact account
  sound := by
    rw [toldRows_append]
    by_cases live : s.execution.Live
    · have account := h.account live s.execution.taking
      rw [show (s.after y).taken = s.taken ++ s.execution.taking from rfl, account,
        Outcome.rows_prepend]
      exact (List.prefix_append_right_inj _).2 move.tells_next
    · obtain ⟨silent, taking⟩ := move.idle upheld.stands live
      rw [show (s.after y).taken = s.taken ++ s.execution.taking from rfl, taking, silent,
        List.append_nil, List.append_nil]
      exact h.sound
  seen := by
    rw [toldRows_append]
    by_cases noPush : ∀ n, y.consumer.mode ≠ .push n
    · rw [seen_after_of_mode noPush]
      exact h.seen.trans (List.prefix_append _ _)
    · obtain ⟨n, push⟩ : ∃ n, y.consumer.mode = .push n := by
        push Not at noPush
        exact noPush
      obtain ⟨signals, -, -, told_eq, all⟩ := later.relays_push push
      rw [← toldRows_append, all, told_eq, seenRows_signals]

lemma rows_ofAnswer (v : Verdict) (rows : List Row) (p : Pipeline) :
    (Observation.ofAnswer (v.map fun t => ⟨rows, t, p⟩)).rows <+: rows := by
  cases v with
  | error e => exact List.nil_prefix
  | ok t => exact List.prefix_rfl

/-- An item of a stream, or an answer, holds rows that the driver has told. -/
lemma Follows.poll (h : s.Follows database told) (upheld : s.Upheld told) :
    s.poll.Follows database told := by
  have seeing {o : Observation} {c : Consumer} {present : Bool}
      (rows : seenRows s.seen ++ o.rows <+: toldRows told) :
      Follows { s.see o with execution := { s.execution with consumer := c }, present := present }
        database told :=
    ⟨h.source, h.account, h.sound, by
      rw [show Session.seen _ = s.seen ++ [o] from seen_append _, seenRows_append]
      simpa [seenRows] using rows⟩
  have quiet : seenRows s.seen ++ [] <+: toldRows told := by
    rw [List.append_nil]
    exact h.seen
  have polled := s.polled
  generalize s.poll = t at polled
  cases polled with
  | absent => exact h
  | push => exact h
  | unanswered => exact h
  | @answered slot a present consumer answer =>
    obtain ⟨-, silent, -, all⟩ := upheld.relays_buffer present consumer
    apply seeing
    rw [silent, all, toldRows_append, toldRows_map_row]
    have collected : (Observation.ofAnswer a).rows <+: slot.collected := by
      rcases (upheld.answer_fits present consumer answer).2 with ⟨-, rfl⟩ | ⟨v, -, rfl⟩
      · exact List.nil_prefix
      · exact rows_ofAnswer v slot.collected s.execution.pipeline
    exact collected.trans (List.prefix_append _ _)
  | pending => exact h
  | @item stream i rest present consumer open_ first =>
    apply seeing
    cases i with
    | error e => exact quiet
    | ok row =>
      have relays := upheld.relays_pull present consumer
      cases relays.2 with
      | onward got fresh rows told_rest =>
        rw [rows, seenRows_map_row, told_rest, first, toldRows_append, toldRows_map_row]
        exact (List.prefix_append_right_inj _).2 ⟨toldRows (rest.map .ofItem), rfl⟩
      | failed got e n fresh decided detached error empty => rw [first] at empty; cases empty
      | ended got n fresh decided detached finish empty => rw [first] at empty; cases empty
      | cancelled got n reported decided => exact absurd decided open_
      | late got m n reported abandoned decided => exact absurd decided open_
  | cancelled present consumer cancelled fresh => exact seeing quiet
  | finish present consumer done => exact seeing quiet

/-- A change of the channel or of the consumer that leaves open whether the driver goes on. -/
lemma Follows.aside {x : Execution} (h : s.Follows database told)
    (database_eq : x.database = s.execution.database)
    (outlook_eq : ∀ pending, x.outlook pending = s.execution.outlook pending)
    (live : x.Live → s.execution.Live) : Follows { s with execution := x } database told where
  source := database_eq.trans h.source
  account going pending := by
    rw [outlook_eq]
    exact h.account (live going) pending
  sound := h.sound
  seen := h.seen

lemma Follows.cancel (h : s.Follows database told) : s.cancel.Follows database told := by
  refine ⟨?_, ?_, h.sound, seen_cancel.symm ▸ h.seen⟩
  · by_cases undecided : s.execution.phase = .streaming
    · rw [cancel_eq_of_undecided undecided]
      exact h.source
    · rw [cancel_eq_of_decided undecided]
      exact h.source
  · by_cases undecided : s.execution.phase = .streaming
    · rw [cancel_eq_of_undecided undecided]
      intro live
      cases live.1
    · rw [cancel_eq_of_decided undecided]
      exact h.account

/-- Both invariants are kept by every action. -/
theorem Follows.act (h : s.Follows database told) (upheld : s.Upheld told) (action : Action) :
    ∃ told', (s.act action).Upheld told' ∧ (s.act action).Follows database told' := by
  have acted := acted upheld action
  generalize s.act action = t at acted
  cases acted with
  | outside c kept quiet =>
    refine ⟨told, upheld.channel c kept, h.aside rfl (fun _ => rfl) (fun live => ⟨live.1, ?_⟩)⟩
    by_contra signal
    exact absurd (kept (by simpa using signal)) (ne_true_of_eq_false live.2)
  | moved left move =>
    have later := upheld.after left move
    exact ⟨_, later, h.after upheld later move⟩
  | polled => exact ⟨told, upheld.poll, h.poll upheld⟩
  | refused decided =>
    rw [← cancel_eq_of_decided decided]
    exact ⟨told, upheld.cancel, h.cancel⟩
  | won undecided =>
    rw [← cancel_eq_of_undecided undecided]
    exact ⟨told, upheld.cancel, h.cancel⟩
  | dropped =>
    refine ⟨told, upheld.drop, ?_⟩
    rw [Session.drop]
    split
    · exact h
    · exact ⟨h.source, h.account, h.sound, h.seen⟩

lemma Follows.run (h : s.Follows database told) (upheld : s.Upheld told) (actions : List Action) :
    ∃ told', (s.run actions).Upheld told' ∧ (s.run actions).Follows database told' := by
  induction actions generalizing s told with
  | nil => exact ⟨told, upheld, h⟩
  | cons action rest ih =>
    obtain ⟨told', upheld', h'⟩ := h.act upheld action
    exact ih h' upheld'

lemma Follows.fixed_run (h : s.Follows database told) (upheld : s.Upheld told)
    (actions : List Action) :
    (s.run actions).execution.consumer.mode = s.execution.consumer.mode ∧
      (s.run actions).execution.pipeline = s.execution.pipeline := by
  induction actions generalizing s told with
  | nil => exact ⟨rfl, rfl⟩
  | cons action rest ih =>
    obtain ⟨told', upheld', h'⟩ := h.act upheld action
    obtain ⟨mode, pipeline⟩ := act_fixed upheld action
    have later := ih h' upheld'
    rw [mode, pipeline] at later
    exact later

lemma Follows.awaited_run (h : s.Follows database told) (upheld : s.Upheld told)
    (awaited : s.Awaited) {actions : List Action} (kept : .drop ∉ actions) :
    (s.run actions).Awaited := by
  induction actions generalizing s told with
  | nil => exact awaited
  | cons action rest ih =>
    rw [List.mem_cons, not_or] at kept
    obtain ⟨told', upheld', h'⟩ := h.act upheld action
    exact ih h' upheld' (awaited.act upheld (fun drop => kept.1 drop.symm)) kept.2

variable (id : Nat) (database : String) (pipeline : Pipeline) (capacity : Nat)
  (streamBuffer : UInt64) (mode : DeliveryMode)

lemma follows_start :
    (start id database pipeline capacity streamBuffer mode).Follows database [] where
  source := rfl
  account _ _ := rfl
  sound := List.nil_prefix
  seen := List.nil_prefix

end Session

end DocumentQuery
