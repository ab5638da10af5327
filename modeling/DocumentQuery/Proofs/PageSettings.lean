import DocumentQuery.Execution.Executor
import DocumentQuery.Proofs.Cursors

/-!
# Settings of a pagination

A pagination has three parts that calls set: an offset, a start and an end. A call sets its own part
or fails, and whether it fails depends on the keys only, which no call changes. So after any calls
the requests for the first and the last page carry for each part what the last successful call for
it has set, and the order of calls for different parts does not matter.
-/

namespace DocumentQuery

/-- A cursor has a value, and not more values than there are keys. -/
def Cursor.Fits (c : Cursor) (keys : List SortKey) : Prop :=
  c.values ≠ [] ∧ c.values.length ≤ keys.length

/-- A key as requests carry it, with the name of its direction and its expression. -/
inductive SortKey.Written : SortKey → WireValue → Prop where
  | ascending (e : Expr) : Written ⟨e, .ascending⟩
      (.map [("direction", .string "ascending"), ("expression", e.toWire)])
  | descending (e : Expr) : Written ⟨e, .descending⟩
      (.map [("direction", .string "descending"), ("expression", e.toWire)])

lemma SortKey.written_toWire (key : SortKey) : key.Written key.toWire := by
  obtain ⟨e, direction⟩ := key
  cases direction with
  | ascending => exact .ascending e
  | descending => exact .descending e

namespace PagedPipeline

/-- The parts of a pagination that calls set. -/
inductive Part where
  | offset
  | start
  | stop
  deriving DecidableEq

/-- The name under which a request carries a part. -/
def Part.name : Part → String
  | .offset => "offset"
  | .start => "start_cursor"
  | .stop => "end_cursor"

/-- What a request carries for a part, if the part has been set. -/
def carried (p : PagedPipeline) : Part → Option WireValue
  | .offset => p.offset.map .integer
  | .start => p.start.map Cursor.toWire
  | .stop => p.stop.map Cursor.toWire

def RowMark.part : RowMark → Part
  | .startAt | .startAfter => .start
  | .endAt | .endBefore => .stop

namespace Setting

/-- The part that a call sets. -/
def part : Setting → Part
  | .offset _ => .offset
  | .startCursor _ => .start
  | .endCursor _ => .stop
  | .mark m _ => m.part

/-- The cursor that a call is for; one that is taken from a row has the values of the row for the
keys. -/
inductive Cuts (keys : List SortKey) : Setting → Cursor → Prop where
  | start (c : Cursor) : Cuts keys (.startCursor c) c
  | stop (c : Cursor) : Cuts keys (.endCursor c) c
  | mark {row : Row} {values : List WireValue} (m : RowMark)
      (lined : List.Forall₂ (fun key v => KeyValue row key.expr v) keys values) :
      Cuts keys (.mark m row) ⟨values, m.inclusive⟩

/-- What a call sets its part to, as requests carry it, in a pagination with the given keys. -/
inductive Sets (keys : List SortKey) : Setting → WireValue → Prop where
  | offset {n : Int64} (counts : ¬n < 0) : Sets keys (.offset n) (.integer n)
  | cursor {call : Setting} {c : Cursor} (cut : call.Cuts keys c) (fits : c.Fits keys) :
      Sets keys call (.map [("inclusive", .boolean c.inclusive), ("values", .array c.values)])

end Setting

/-- The pagination after some calls; a call that fails leaves the pagination in use that it was made
on. -/
def configure (p : PagedPipeline) : List Setting → PagedPipeline
  | [] => p
  | call :: rest =>
    match call.apply p with
    | .ok q => q.configure rest
    | .error _ => p.configure rest

/-- The calls that succeed, in their order. -/
def succeeding (p : PagedPipeline) : List Setting → List Setting
  | [] => []
  | call :: rest =>
    match call.apply p with
    | .ok q => call :: q.succeeding rest
    | .error _ => p.succeeding rest

/-- The calls that succeed in setting a part. -/
def successes (p : PagedPipeline) (calls : List Setting) (part : Part) : List Setting :=
  (p.succeeding calls).filter (·.part = part)

/-! ### One call -/

/-- What a successful call changes: its own part and nothing else. -/
structure Setting.Changes (call : Setting) (p q : PagedPipeline) : Prop where
  pipeline : q.pipeline = p.pipeline
  pageSize : q.pageSize = p.pageSize
  keys : q.keys = p.keys
  own : ∃ v, call.Sets p.keys v ∧ q.carried call.part = some v
  others : ∀ part, part ≠ call.part → q.carried part = p.carried part

variable {p q : PagedPipeline} {call : Setting} {c : Cursor} {keys : List SortKey}

lemma checkCursor_eq_ok_iff {u : Unit} : p.checkCursor c = .ok u ↔ c.Fits p.keys := by
  constructor
  · intro taken
    unfold checkCursor at taken
    split_ifs at taken with long filled
    exact ⟨by simpa using filled, by omega⟩
  · intro fits
    exact checkCursor_ok fits.1 fits.2

lemma RowMark.carried_place (m : RowMark) (c : Cursor) (p : PagedPipeline) (part : Part) :
    (m.place c p).carried part = if part = m.part then some c.toWire else p.carried part := by
  cases m <;> cases part <;> rfl

/-- A cursor that is put in its place is all that changes. -/
lemma Setting.Cuts.changes {m : RowMark} (cut : call.Cuts p.keys c) (fits : c.Fits p.keys)
    (same : call.part = m.part) : call.Changes p (m.place c p) where
  pipeline := by cases m <;> rfl
  pageSize := by cases m <;> rfl
  keys := by cases m <;> rfl
  own := ⟨c.toWire, .cursor cut fits, by rw [m.carried_place, if_pos same]⟩
  others := by
    intro part other
    rw [m.carried_place, if_neg (same ▸ other)]

lemma Setting.changes_of_apply (set : call.apply p = .ok q) : call.Changes p q := by
  cases call with
  | offset n =>
    rw [apply, withOffset] at set
    split_ifs at set with below
    cases set
    refine ⟨rfl, rfl, rfl, ⟨.integer n, .offset below, rfl⟩, ?_⟩
    intro part other
    cases part with
    | offset => exact absurd rfl other
    | start | stop => rfl
  | startCursor c =>
    obtain ⟨_, fits, rfl⟩ := map_eq_ok_iff.1 set
    exact Cuts.changes (m := .startAt) (.start c) (checkCursor_eq_ok_iff.1 fits) rfl
  | endCursor c =>
    obtain ⟨_, fits, rfl⟩ := map_eq_ok_iff.1 set
    exact Cuts.changes (m := .endAt) (.stop c) (checkCursor_eq_ok_iff.1 fits) rfl
  | mark m row =>
    rw [apply, m.apply_eq] at set
    obtain ⟨values, read, placed⟩ := bind_eq_ok_iff.1 set
    obtain ⟨_, fits, rfl⟩ := map_eq_ok_iff.1 placed
    exact Cuts.changes (.mark m (cursorValues_ok_iff.1 read)) (checkCursor_eq_ok_iff.1 fits) rfl

lemma Setting.apply_of_sets {v : WireValue} (sets : call.Sets p.keys v) :
    ∃ q, call.apply p = .ok q := by
  cases sets with
  | offset counts => exact ⟨_, if_neg counts⟩
  | cursor cut fits =>
    have checked := checkCursor_ok fits.1 fits.2
    cases cut with
    | start | stop => exact ⟨_, map_eq_ok_iff.2 ⟨(), checked, rfl⟩⟩
    | @mark row values m lined =>
      rw [apply, m.apply_eq, cursorValues_ok_iff.2 lined]
      refine ⟨m.place ⟨values, m.inclusive⟩ p, ?_⟩
      change (p.checkCursor _).map _ = _
      rw [checked]
      rfl

lemma Setting.Cuts.unique {c' : Cursor} (cut : call.Cuts keys c) (cut' : call.Cuts keys c') :
    c = c' := by
  cases cut with
  | start | stop =>
    cases cut'
    rfl
  | mark m lined =>
    cases cut' with
    | mark _ lined' =>
      have read := (cursorValues_ok_iff.2 lined).symm.trans (cursorValues_ok_iff.2 lined')
      rw [Except.ok.inj read]

/-- A call has one value to set. -/
lemma Setting.Sets.unique {v v' : WireValue} (sets : call.Sets keys v)
    (sets' : call.Sets keys v') : v = v' := by
  cases sets with
  | offset =>
    cases sets' with
    | offset => rfl
    | cursor cut => cases cut
  | cursor cut =>
    cases sets' with
    | offset => cases cut
    | cursor cut' => rw [cut.unique cut']

/-! ### A sequence of calls -/

lemma configure_of_ok (set : call.apply p = .ok q) (rest : List Setting) :
    p.configure (call :: rest) = q.configure rest := by
  rw [configure, set]

lemma configure_of_error {e : BuildError} (failed : call.apply p = .error e)
    (rest : List Setting) : p.configure (call :: rest) = p.configure rest := by
  rw [configure, failed]

lemma succeeding_of_ok (set : call.apply p = .ok q) (rest : List Setting) :
    p.succeeding (call :: rest) = call :: q.succeeding rest := by
  rw [succeeding, set]

lemma succeeding_of_error {e : BuildError} (failed : call.apply p = .error e)
    (rest : List Setting) : p.succeeding (call :: rest) = p.succeeding rest := by
  rw [succeeding, failed]

/-- What no call changes. -/
lemma configure_keeps (p : PagedPipeline) (calls : List Setting) :
    (p.configure calls).pipeline = p.pipeline ∧ (p.configure calls).pageSize = p.pageSize ∧
      (p.configure calls).keys = p.keys := by
  induction calls generalizing p with
  | nil => exact ⟨rfl, rfl, rfl⟩
  | cons call rest ih =>
    cases set : call.apply p with
    | error e =>
      rw [configure_of_error set]
      exact ih p
    | ok q =>
      have changes := Setting.changes_of_apply set
      rw [configure_of_ok set, ← changes.pipeline, ← changes.pageSize, ← changes.keys]
      exact ih q

/-- The calls that succeed are those with something to set. -/
lemma mem_succeeding_iff {calls : List Setting} :
    call ∈ p.succeeding calls ↔ call ∈ calls ∧ ∃ v, call.Sets p.keys v := by
  induction calls generalizing p with
  | nil => simp [succeeding]
  | cons first rest ih =>
    cases set : first.apply p with
    | error e =>
      have unable : ¬∃ v, first.Sets p.keys v := by
        rintro ⟨v, sets⟩
        obtain ⟨q, set'⟩ := Setting.apply_of_sets sets
        rw [set] at set'
        cases set'
      rw [succeeding_of_error set, ih, List.mem_cons]
      constructor
      · exact fun h => ⟨.inr h.1, h.2⟩
      · rintro ⟨rfl | later, sets⟩
        · exact absurd sets unable
        · exact ⟨later, sets⟩
    | ok q =>
      have changes := Setting.changes_of_apply set
      obtain ⟨v, sets, -⟩ := changes.own
      rw [succeeding_of_ok set, List.mem_cons, List.mem_cons, ih, changes.keys]
      constructor
      · rintro (rfl | later)
        · exact ⟨.inl rfl, v, sets⟩
        · exact ⟨.inr later.1, later.2⟩
      · rintro ⟨rfl | later, sets⟩
        · exact .inl rfl
        · exact .inr ⟨later, sets⟩

/-- A part holds what the last of some calls has set, or what it held before if there are none. -/
def Part.Holds (part : Part) (p q : PagedPipeline) (calls : List Setting) : Prop :=
  match calls.getLast? with
  | none => q.carried part = p.carried part
  | some call => ∃ v, call.Sets p.keys v ∧ q.carried part = some v

section Holds

variable {part : Part} {r : PagedPipeline} {calls : List Setting}

lemma Part.Holds.other (changes : call.Changes p q) (other : part ≠ call.part)
    (later : part.Holds q r calls) : part.Holds p r calls := by
  unfold Holds at later ⊢
  rwa [changes.others part other, changes.keys] at later

lemma Part.Holds.own (changes : call.Changes p q) (later : call.part.Holds q r calls) :
    call.part.Holds p r (call :: calls) := by
  unfold Holds at later ⊢
  rw [List.getLast?_cons]
  rw [changes.keys] at later
  cases last : calls.getLast? with
  | none =>
    obtain ⟨v, sets, held⟩ := changes.own
    rw [last] at later
    exact ⟨v, sets, later.trans held⟩
  | some call' =>
    rw [last] at later
    exact later

/-- After any calls a part holds what the last successful one for it has set. -/
lemma Part.holds_configure (part : Part) (p : PagedPipeline) (calls : List Setting) :
    part.Holds p (p.configure calls) (p.successes calls part) := by
  induction calls generalizing p with
  | nil => exact rfl
  | cons call rest ih =>
    cases set : call.apply p with
    | error e =>
      rw [configure_of_error set, successes, succeeding_of_error set]
      exact ih p
    | ok q =>
      have changes := Setting.changes_of_apply set
      rw [configure_of_ok set, successes, succeeding_of_ok set, List.filter_cons]
      -- The later calls start from what this one has set; the other parts still are as in `p`.
      split_ifs with own
      · obtain rfl := of_decide_eq_true own
        exact (ih q).own changes
      · exact (ih q).other changes fun same => own (decide_eq_true same.symm)

end Holds

/-! ### Requests -/

/-- The names of what a request can say of a pagination, in their order. -/
def optionNames : List String :=
  ["direction", "end_cursor", "offset", "orderings", "page_size", "start_cursor"]

/-- What a request says of a pagination: the direction, the size of a page and the keys, and for
each part what the last successful call has set, if there was one. Cursors fit the keys. -/
structure Says (size : Int64) (keys : List SortKey) (direction : String)
    (last : Part → Option Setting) (entries : Dictionary WireValue) : Prop where
  names : (entries.map Prod.fst).Sublist optionNames
  direction : entries.get? "direction" = some (.string direction)
  pageSize : entries.get? "page_size" = some (.integer size)
  orderings : ∃ items, entries.get? "orderings" = some (.array items) ∧
    List.Forall₂ SortKey.Written keys items
  part : ∀ part : Part, Option.Rel (Setting.Sets keys) (last part) (entries.get? part.name)
  cursor : ∀ part : Part, part ≠ .offset → ∀ v, entries.get? part.name = some v →
    ∃ c : Cursor, c.Fits keys ∧
      v = .map [("inclusive", .boolean c.inclusive), ("values", .array c.values)]

/-- A request for a page sends the pipeline itself, with one option that says everything about the
pagination. -/
def Asks (pipeline : Pipeline) (size : Int64) (keys : List SortKey) (direction : String)
    (last : Part → Option Setting) (page : Submission) : Prop :=
  ∃ entries : Dictionary WireValue, page = ⟨pipeline, [("pagination", .map entries)]⟩ ∧
    Says size keys direction last entries ∧
    ∀ (ex : Executor) (options : ExecuteOptions),
      ex.buildRequest page options =
        (ex.buildRequest pipeline.submission options).map fun request =>
          { request with options := [("pagination", .map entries)] }

/-- What a request says of a pagination, by what it carries for the parts. -/
def entries (p : PagedPipeline) (direction : PageDirection) : Dictionary WireValue :=
  [("direction", .string direction.name)] ++ WireStage.optional "end_cursor" (p.carried .stop) ++
    WireStage.optional "offset" (p.carried .offset) ++
    [("orderings", .array (p.keys.map SortKey.toWire)), ("page_size", .integer p.pageSize)] ++
    WireStage.optional "start_cursor" (p.carried .start)

lemma page_eq (p : PagedPipeline) (direction : PageDirection) :
    p.page direction = ⟨p.pipeline, [("pagination", .map (p.entries direction))]⟩ := rfl

lemma optional_names (name : String) (value : Option WireValue) :
    ((WireStage.optional name value).map Prod.fst).Sublist [name] := by
  cases value with
  | none => exact List.nil_sublist _
  | some v => exact List.Sublist.refl _

section Entries

variable (p : PagedPipeline) (direction : PageDirection)

lemma entries_names : ((p.entries direction).map Prod.fst).Sublist optionNames := by
  unfold entries
  simp only [List.map_append]
  exact ((((List.Sublist.refl _).append (optional_names _ _)).append (optional_names _ _)).append
    (List.Sublist.refl _)).append (optional_names _ _)

lemma get?_entries_part (part : Part) : (p.entries direction).get? part.name = p.carried part := by
  unfold entries
  generalize p.carried = held
  cases part <;> cases held .offset <;> cases held .start <;> cases held .stop <;>
    simp [WireStage.optional, Dictionary.get?, Part.name]

/-- What every request says, whatever the parts hold. -/
lemma get?_entries_fixed :
    (p.entries direction).get? "direction" = some (.string direction.name) ∧
      (p.entries direction).get? "page_size" = some (.integer p.pageSize) ∧
      (p.entries direction).get? "orderings" = some (.array (p.keys.map SortKey.toWire)) := by
  unfold entries
  cases p.carried .offset <;> cases p.carried .stop <;>
    simp [WireStage.optional, Dictionary.get?]

/-- Two paginations that carry the same make the same requests. -/
lemma page_congr {q : PagedPipeline} (pipeline : p.pipeline = q.pipeline)
    (size : p.pageSize = q.pageSize) (keys : p.keys = q.keys)
    (same : ∀ part, p.carried part = q.carried part) : p.page direction = q.page direction := by
  simp only [page_eq, entries, pipeline, size, keys, same]

end Entries

/-- Parts that the same calls have set hold the same. -/
lemma Part.Holds.unique {part : Part} {calls : List Setting} {r : PagedPipeline}
    (held : part.Holds p q calls) (held' : part.Holds p r calls) :
    q.carried part = r.carried part := by
  unfold Holds at held held'
  cases last : calls.getLast? with
  | none =>
    rw [last] at held held'
    exact held.trans held'.symm
  | some call =>
    rw [last] at held held'
    obtain ⟨v, sets, carries⟩ := held
    obtain ⟨v', sets', carries'⟩ := held'
    rw [carries, carries', sets.unique sets']

/-- A part that was not set before is set by the last successful call only. -/
lemma Part.Holds.rel {part : Part} {calls : List Setting} (held : part.Holds p q calls)
    (unset : p.carried part = none) :
    Option.Rel (Setting.Sets p.keys) calls.getLast? (q.carried part) := by
  unfold Holds at held
  cases last : calls.getLast? with
  | none =>
    rw [last] at held
    rw [held, unset]
    exact .none
  | some call =>
    rw [last] at held
    obtain ⟨v, sets, carries⟩ := held
    rw [carries]
    exact .some sets

lemma Setting.Sets.cursor_of_part {v : WireValue} (sets : call.Sets keys v)
    (other : call.part ≠ .offset) : ∃ c : Cursor, c.Fits keys ∧
      v = .map [("inclusive", .boolean c.inclusive), ("values", .array c.values)] := by
  cases sets with
  | offset => exact absurd rfl other
  | cursor cut fits => exact ⟨_, fits, rfl⟩

lemma part_of_mem_successes {calls : List Setting} {part : Part}
    (member : call ∈ p.successes calls part) : call.part = part :=
  of_decide_eq_true (List.mem_filter.1 member).2

/-- What a request says after any calls on a pagination with no part set. -/
lemma says_configure (unset : ∀ part, p.carried part = none) (calls : List Setting)
    (direction : PageDirection) :
    Says p.pageSize p.keys direction.name (fun part => (p.successes calls part).getLast?)
      ((p.configure calls).entries direction) := by
  obtain ⟨-, size, keys⟩ := p.configure_keeps calls
  obtain ⟨scan, sizeSaid, keysSaid⟩ := (p.configure calls).get?_entries_fixed direction
  have parts : ∀ part : Part, Option.Rel (Setting.Sets p.keys) (p.successes calls part).getLast?
      (((p.configure calls).entries direction).get? part.name) := by
    intro part
    rw [get?_entries_part]
    exact (part.holds_configure p calls).rel (unset part)
  refine ⟨entries_names _ direction, scan, ?_, ?_, parts, ?_⟩
  · rw [sizeSaid, size]
  · rw [keysSaid, keys]
    refine ⟨_, rfl, List.forall₂_map_right_iff.2 (List.forall₂_same.2 fun key _ => ?_)⟩
    exact key.written_toWire
  · intro part other v carries
    have set := parts part
    rw [carries] at set
    cases last : (p.successes calls part).getLast? with
    | none =>
      rw [last] at set
      cases set
    | some call =>
      rw [last] at set
      have own := part_of_mem_successes (List.mem_of_getLast? last)
      cases set with
      | some sets => exact sets.cursor_of_part (own ▸ other)

/-- A new pagination has no part set. -/
lemma paginate_ok {pipeline : Pipeline} {size : Int64}
    (paged : pipeline.paginate size keys = .ok p) :
    p.pipeline = pipeline ∧ p.pageSize = size ∧ p.keys = keys ∧
      ∀ part, p.carried part = none := by
  unfold Pipeline.paginate at paged
  split_ifs at paged
  cases paged
  refine ⟨rfl, rfl, rfl, ?_⟩
  intro part
  cases part <;> rfl

/-- The options of a submission are sent along with its pipeline. -/
lemma buildRequest_options (ex : Executor) (options : ExecuteOptions) (pipeline : Pipeline)
    (entries : Dictionary WireValue) :
    ex.buildRequest ⟨pipeline, entries⟩ options =
      (ex.buildRequest pipeline.submission options).map fun request =>
        { request with options := entries } := by
  unfold Executor.buildRequest
  split_ifs
  · rfl
  · change (pipeline.toWire).map _ = ((pipeline.toWire).map _).map _
    cases pipeline.toWire <;> rfl

lemma asks_configure (unset : ∀ part, p.carried part = none) (calls : List Setting)
    (direction : PageDirection) :
    Asks p.pipeline p.pageSize p.keys direction.name (fun part => (p.successes calls part).getLast?)
      ((p.configure calls).page direction) := by
  have sent := (p.configure_keeps calls).1
  have request : (p.configure calls).page direction =
      ⟨p.pipeline, [("pagination", .map ((p.configure calls).entries direction))]⟩ := by
    rw [page_eq, sent]
  refine ⟨_, request, says_configure unset calls direction, ?_⟩
  intro ex options
  rw [request, buildRequest_options]

/-- Calls that agree on the successful ones for each part make the same request. -/
lemma page_configure_congr {calls others : List Setting}
    (agree : ∀ part, p.successes calls part = p.successes others part) (direction : PageDirection) :
    (p.configure calls).page direction = (p.configure others).page direction := by
  obtain ⟨sent, size, keys⟩ := p.configure_keeps calls
  obtain ⟨sent', size', keys'⟩ := p.configure_keeps others
  apply page_congr
  · exact sent.trans sent'.symm
  · exact size.trans size'.symm
  · exact keys.trans keys'.symm
  · intro part
    have held := part.holds_configure p calls
    rw [agree part] at held
    exact held.unique (part.holds_configure p others)

/-- The first and the last page are asked for with what the last successful call for each part has
set, and a call succeeds exactly if it has something to set. Calls that agree on the successful ones
for each part ask for the same pages. -/
theorem settings_independent {pipeline : Pipeline} {size : Int64} {keys : List SortKey}
    {p : PagedPipeline} (paged : pipeline.paginate size keys = .ok p) (calls : List Setting) :
    Asks pipeline size keys "forward" (fun part => (p.successes calls part).getLast?)
      (p.configure calls).firstPage ∧
    Asks pipeline size keys "backward" (fun part => (p.successes calls part).getLast?)
      (p.configure calls).lastPage ∧
    (∀ call, call ∈ p.succeeding calls ↔ call ∈ calls ∧ ∃ v, call.Sets keys v) ∧
    ∀ others, (∀ part, p.successes calls part = p.successes others part) →
      (p.configure calls).firstPage = (p.configure others).firstPage ∧
        (p.configure calls).lastPage = (p.configure others).lastPage := by
  obtain ⟨rfl, rfl, rfl, unset⟩ := paginate_ok paged
  refine ⟨asks_configure unset calls .forward, asks_configure unset calls .backward, ?_, ?_⟩
  · intro call
    exact mem_succeeding_iff
  · intro others agree
    exact ⟨page_configure_congr agree .forward, page_configure_congr agree .backward⟩

/-- Books in pages of ten, by city. A negative offset and a cursor without values are refused, and a
second start takes the place of the first. -/
theorem settings_independent_books :
    let cursor : Cursor := .afterValues [.string "Rome"]
    let calls : List Setting := [.startCursor (.atValues [.string "Bari"]), .offset 3,
      .startCursor cursor, .offset (-1), .endCursor (.atValues [])]
    ∃ p, Pipeline.paginate ⟨none, [.collection "books"]⟩ 10 booksByCity.keys = .ok p ∧
      p.successes calls .start = [.startCursor (.atValues [.string "Bari"]), .startCursor cursor] ∧
      p.successes calls .stop = [] ∧
      (p.configure calls).firstPage =
        (p.configure [.offset 3, .startCursor (.atValues [.string "Bari"]),
          .startCursor cursor]).firstPage ∧
      ∃ entries : Dictionary WireValue,
        (p.configure calls).lastPage =
          ⟨⟨none, [.collection "books"]⟩, [("pagination", .map entries)]⟩ ∧
        entries.get? "start_cursor" = some
          (.map [("inclusive", .boolean false), ("values", .array [.string "Rome"])]) := by
  intro cursor calls
  have paged : Pipeline.paginate ⟨none, [.collection "books"]⟩ 10 booksByCity.keys =
      .ok booksByCity := rfl
  obtain ⟨-, ⟨entries, last, said, -⟩, -, same⟩ := settings_independent paged calls
  refine ⟨booksByCity, paged, rfl, rfl, (same _ fun part => ?_).1, entries, last, ?_⟩
  · cases part <;> rfl
  · have set : Option.Rel (Setting.Sets booksByCity.keys) (some (.startCursor cursor))
        (entries.get? "start_cursor") := said.part .start
    cases start : entries.get? "start_cursor" with
    | none =>
      rw [start] at set
      cases set
    | some v =>
      rw [start] at set
      obtain ⟨sets⟩ := set
      cases sets with
      | cursor cut =>
        cases cut
        rfl

end PagedPipeline

end DocumentQuery
