import DocumentQuery.Proofs.Telling

/-!
# How far a driver is

Every step of a driver lowers its work, so a driver cannot go on forever without new events. When it
cannot go on it waits for the transport, or for room in the stream of its consumer, or it has ended.
-/

namespace DocumentQuery

namespace Execution

variable {x y z : Execution} {v : Verdict} {next : AfterFailure} {effects : List Effect}
  {news : List Observation} {left : Option Phase}

def queueWork (events : List StreamEvent) : Nat := (events.map eventWork).sum

lemma work_eq (x : Execution) : x.work = queueWork x.channel.queue + x.task.work := by
  unfold work queueWork
  induction x.channel.queue with
  | nil => simp
  | cons event rest ih =>
    rw [List.foldr_cons, ih, List.map_cons, List.sum_cons]
    omega

@[simp] lemma queueWork_cons (event : StreamEvent) (rest : List StreamEvent) :
    queueWork (event :: rest) = eventWork event + queueWork rest := by
  simp [queueWork]

@[simp] lemma queueWork_append (events more : List StreamEvent) :
    queueWork (events ++ more) = queueWork events + queueWork more := by
  simp [queueWork]

lemma proceed_work (x : Execution) :
    (x.proceed next).1.work = if next = .listen then queueWork x.channel.queue + 3 else 0 := by
  rw [work_eq]
  cases next <;> rfl

lemma failing_work (e : ExecutionError) :
    (Task.failing e next).work = if next = .listen then 4 else 1 := by
  cases next <;> rfl

lemma Decides.work (h : x.Decides z v next effects) :
    queueWork z.channel.queue ≤ queueWork x.channel.queue ∧ 3 ≤ x.task.work ∧
      (next = .listen → 7 ≤ x.task.work) := by
  cases h with
  | completion listening live first => simp [listening, first, Task.work]
  | failure listening live first => simp [listening, first, Task.work]
  | closed listening => simp [listening, Task.work]
  | undecodable delivering =>
    rw [delivering]
    refine ⟨le_rfl, ?_, fun _ => ?_⟩
    · simp only [Task.work, List.length_cons]
      omega
    · simp only [Task.work, List.length_cons]
      omega
  | cancelled listening => simp [listening, Task.work]

/-- Every step of a driver lowers its work. -/
theorem Move.work_lt (h : x.Move y effects news) : y.work < x.work := by
  cases h with
  | leave listening signal silent =>
    rw [x.work_eq, listening]
    simp [Execution.work, stop, Channel.closeReceiver, Task.work]
  | response listening live first undecided =>
    rw [work_eq, work_eq, listening, first]
    simp [Task.work, eventWork]
    omega
  | skip busy working idle =>
    rw [work_eq, work_eq]
    cases task : x.task with
    | listening => exact absurd task busy
    | delivering rows => simp [Task.work]; omega
    | offering row rest => simp [Task.work]; omega
    | failing e next => rw [task] at working; exact working.elim
    | ended => rw [task] at working; exact working.elim
  | decode delivering undecided good =>
    rw [work_eq, work_eq, delivering]
    simp [Task.work]
    omega
  | hand offering live takes =>
    rw [work_eq, work_eq, offering]
    simp [Task.work]
  | handCancelled offering live undecided cancels =>
    rw [work_eq, work_eq, offering]
    simp [Task.work, Channel.cancel]
  | lose offering live undecided gone =>
    rw [work_eq, work_eq, offering]
    simp [Task.work, Channel.cancel]
    omega
  | @settle z v next effects attached decides prompt =>
    obtain ⟨queue, three, seven⟩ := decides.work
    rw [proceed_work, x.work_eq, show (z.tell v).channel.queue = z.channel.queue from rfl]
    split
    · have := seven ‹_›
      omega
    · omega
  | @await z e next effects attached decides pull =>
    obtain ⟨queue, three, seven⟩ := decides.work
    rw [work_eq, x.work_eq, failing_work]
    change queueWork z.channel.queue + _ < _
    split
    · have := seven ‹_›
      omega
    · omega
  | @report e next stream waiting pull accepting room =>
    rw [proceed_work, x.work_eq, waiting,
      show (x.tell (.error e)).channel.queue = x.channel.queue from rfl]
    cases next <;> simp [Task.work]
  | @refuse e next stream waiting pull closed =>
    rw [proceed_work, x.work_eq, waiting]
    cases next <;> simp [Task.work]

/-! ### Drivers that cannot go on -/

/-- Why a driver cannot go on. -/
inductive Waits (x : Execution) : Prop where
  | transport (listening : x.task = .listening) (live : x.channel.cancelled = false)
      (empty : x.channel.queue = []) (senderOpen : x.channel.senderOpen = true)
  | room {stream} (busy : x.task ≠ .ended) (consumer : x.consumer = .pull stream)
      (full : stream.isFull = true)
  | ended (ended : x.task = .ended)

lemma waits_of_listen (listening : x.task = .listening) (h : x.listen = none) : x.Waits := by
  unfold listen at h
  by_cases signal : x.channel.cancelled = true
  · rw [if_pos signal] at h
    split at h <;> cases h
  · rw [if_neg signal] at h
    unfold Channel.receive at h
    cases queue : x.channel.queue with
    | cons event rest => rw [queue] at h; cases h
    | nil =>
      rw [queue] at h
      by_cases senderOpen : x.channel.senderOpen = true
      · exact .transport listening (Bool.eq_false_iff.2 signal) queue senderOpen
      · simp only [senderOpen, Bool.false_eq_true, if_false] at h
        split at h <;> cases h

lemma waits_of_offer {row : Row} {rest : List RowPayload} (offering : x.task = .offering row rest)
    (h : x.offer row rest = none) : x.Waits := by
  unfold offer at h
  split at h
  · cases h
  · cases consumer : x.consumer with
    | push signals cancelAt =>
      by_cases cancels : cancelAt = some (signals.length + 1)
      · simp [handOver, consumer, cancels] at h
      · simp [handOver, consumer, cancels] at h
    | buffer slot =>
      cases awaited : slot.awaited <;> simp [handOver, consumer, awaited] at h
    | pull stream =>
      cases accepting : stream.accepting with
      | false => simp [handOver, consumer, accepting] at h
      | true =>
        cases full : stream.isFull with
        | false => simp [handOver, consumer, accepting, full] at h
        | true => exact .room (by simp [offering]) consumer full

lemma waits_of_offerFailure {e : ExecutionError} (failing : x.task = .failing e next)
    (h : x.offerFailure e next = none) : x.Waits := by
  unfold offerFailure at h
  cases consumer : x.consumer with
  | push signals cancelAt => simp [consumer] at h
  | buffer slot => simp [consumer] at h
  | pull stream =>
    cases accepting : stream.accepting with
    | false => simp [consumer, accepting] at h
    | true =>
      cases full : stream.isFull with
      | false => simp [consumer, accepting, full] at h
      | true => exact .room (by simp [failing]) consumer full

/-- A driver that cannot go on waits for the transport or for room, or it has ended. -/
theorem waits_of_step (h : x.step = none) : x.Waits := by
  unfold step at h
  cases task : x.task with
  | listening => exact waits_of_listen task (by rwa [task] at h)
  | delivering rows => rw [task] at h; cases rows <;> cases h
  | offering row rest => exact waits_of_offer task (by rwa [task] at h)
  | failing e next => exact waits_of_offerFailure task (by rwa [task] at h)
  | ended => exact .ended task

end Execution

end DocumentQuery
