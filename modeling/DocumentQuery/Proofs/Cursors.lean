import DocumentQuery.Execution.Page
import DocumentQuery.Proofs.BuiltStages

/-!
# Cursors taken from rows

A cursor that is taken from a row has one value for each key of the pagination, in the order of the
keys. The values are read key by key, and the first key that the row has no value for is the one
that is reported.
-/

namespace DocumentQuery

/-! ### Values at paths -/

/-- A chain of names leads from a value to another one through nested maps. -/
inductive Row.Leads : WireValue → List String → WireValue → Prop where
  | here (v : WireValue) : Leads v [] v
  | into {entries : Dictionary WireValue} {key : String} {v : WireValue} {rest : List String}
      {w : WireValue} (found : entries.get? key = some v) (further : Leads v rest w) :
      Leads (.map entries) (key :: rest) w

lemma Row.descend_eq_some_iff {v w : WireValue} {path : List String} :
    Row.descend v path = some w ↔ Leads v path w := by
  induction path generalizing v with
  | nil =>
    constructor
    · rintro ⟨⟩
      exact .here _
    · rintro ⟨⟩
      rfl
  | cons key rest ih =>
    constructor
    · intro found
      unfold descend at found
      split at found
      · split at found
        · rename_i entries v bound
          exact .into bound (ih.1 found)
        · cases found
      · cases found
    · rintro (_ | ⟨bound, further⟩)
      rw [descend, bound]
      exact ih.2 further

/-- The fields of a row are asked for the whole path; only if none of them has that name, its
segments lead through nested maps. -/
theorem Row.get?_eq_some_iff {row : Row} {path : String} {v : WireValue} :
    row.get? path = some v ↔
      ∃ fields, row.fields = some fields ∧
        (Dictionary.get? fields path = some v ∨
          Dictionary.get? fields path = none ∧ Leads (.map fields) (fieldSegments path) v) := by
  unfold get?
  cases row.fields with
  | none => simp
  | some fields =>
    cases named : Dictionary.get? fields path with
    | none => simp [named, descend_eq_some_iff]
    | some w => simp [named]

namespace PagedPipeline

/-! ### Values of a row for the keys -/

/-- The value of a row for the expression of a key: its document, or what is at the path of a
field. -/
inductive KeyValue (row : Row) : Expr → WireValue → Prop where
  | document {d : DocumentReference} (named : row.reference = some d) :
      KeyValue row .documentId (.reference d.absolutePath)
  | field {path : String} {v : WireValue} (other : path ≠ documentIdPath)
      (found : row.get? path = some v) : KeyValue row (.field path) v

/-- Why a row has no value for the expression of a key. -/
inductive KeyFault (row : Row) : Expr → CursorFault → Prop where
  | document (unnamed : row.reference = none) : KeyFault row .documentId .noDocumentName
  | field {path : String} (other : path ≠ documentIdPath) (absent : row.get? path = none) :
      KeyFault row (.field path) (.noValue path)
  | expression {e : Expr} (computed : ∀ path, e ≠ .field path) :
      KeyFault row e (.notAField e.display)

lemma cursorValue_of_keyValue {row : Row} {e : Expr} {v : WireValue} (h : KeyValue row e v) :
    cursorValue row e = .ok v := by
  cases h with
  | document named => rw [Expr.documentId, cursorValue, if_pos rfl, named]
  | field other found => rw [cursorValue, if_neg other, found]

lemma cursorValue_of_keyFault {row : Row} {e : Expr} {fault : CursorFault}
    (h : KeyFault row e fault) : cursorValue row e = .error (.cursor fault) := by
  cases h with
  | document unnamed => rw [Expr.documentId, cursorValue, if_pos rfl, unnamed]
  | field other absent => rw [cursorValue, if_neg other, absent]
  | expression computed =>
    cases e with
    | field path => exact absurd rfl (computed path)
    | _ => rfl

lemma keyValue_or_keyFault (row : Row) (e : Expr) :
    (∃ v, KeyValue row e v) ∨ ∃ fault, KeyFault row e fault := by
  by_cases field : ∃ path, e = .field path
  · obtain ⟨path, rfl⟩ := field
    by_cases id : path = documentIdPath
    · subst id
      cases named : row.reference with
      | none => exact .inr ⟨_, .document named⟩
      | some d => exact .inl ⟨_, .document named⟩
    · cases found : row.get? path with
      | none => exact .inr ⟨_, .field id found⟩
      | some v => exact .inl ⟨v, .field id found⟩
  · exact .inr ⟨_, .expression (not_exists.1 field)⟩

lemma cursorValue_ok_iff {row : Row} {e : Expr} {v : WireValue} :
    cursorValue row e = .ok v ↔ KeyValue row e v := by
  refine ⟨fun read => ?_, cursorValue_of_keyValue⟩
  rcases keyValue_or_keyFault row e with ⟨w, h⟩ | ⟨fault, h⟩
  · rw [cursorValue_of_keyValue h] at read
    cases read
    exact h
  · rw [cursorValue_of_keyFault h] at read
    cases read

lemma cursorValue_error_iff {row : Row} {e : Expr} {x : BuildError} :
    cursorValue row e = .error x ↔ ∃ fault, KeyFault row e fault ∧ x = .cursor fault := by
  constructor
  · intro refused
    rcases keyValue_or_keyFault row e with ⟨w, h⟩ | ⟨fault, h⟩
    · rw [cursorValue_of_keyValue h] at refused
      cases refused
    · rw [cursorValue_of_keyFault h] at refused
      cases refused
      exact ⟨fault, h, rfl⟩
  · rintro ⟨fault, h, rfl⟩
    exact cursorValue_of_keyFault h

lemma cursorValues_ok_iff {row : Row} {keys : List SortKey} {values : List WireValue} :
    cursorValues row keys = .ok values ↔
      List.Forall₂ (fun key v => KeyValue row key.expr v) keys values := by
  induction keys generalizing values with
  | nil =>
    rw [List.forall₂_nil_left_iff, cursorValues, Except.ok.injEq]
    exact eq_comm
  | cons key rest ih =>
    rw [cursorValues, List.forall₂_cons_left_iff]
    constructor
    · intro read
      cases first : cursorValue row key.expr with
      | error e =>
        rw [first] at read
        cases read
      | ok v =>
        rw [first] at read
        cases later : cursorValues row rest with
        | error e =>
          rw [later] at read
          cases read
        | ok values =>
          rw [later] at read
          cases read
          exact ⟨v, values, cursorValue_ok_iff.1 first, ih.1 later, rfl⟩
    · rintro ⟨v, values, first, later, rfl⟩
      rw [cursorValue_ok_iff.2 first, ih.2 later]
      rfl

lemma exists_values_iff {row : Row} {keys : List SortKey} :
    (∃ values, cursorValues row keys = .ok values) ↔
      ∀ key ∈ keys, ∃ v, KeyValue row key.expr v := by
  simp only [cursorValues_ok_iff]
  induction keys with
  | nil => exact iff_of_true ⟨[], .nil⟩ nofun
  | cons key rest ih =>
    rw [List.forall_mem_cons, ← ih]
    constructor
    · rintro ⟨values, lined⟩
      obtain ⟨v, later, first, lined', -⟩ := List.forall₂_cons_left_iff.1 lined
      exact ⟨⟨v, first⟩, later, lined'⟩
    · rintro ⟨⟨v, first⟩, values, later⟩
      exact ⟨v :: values, .cons first later⟩

/-- The first key that a row has no value for is reported. -/
lemma cursorValues_error_iff {row : Row} {keys : List SortKey} {x : BuildError} :
    cursorValues row keys = .error x ↔
      ∃ before key after fault, keys = before ++ key :: after ∧
        (∀ k ∈ before, ∃ v, KeyValue row k.expr v) ∧ KeyFault row key.expr fault ∧
        x = .cursor fault := by
  constructor
  · induction keys with
    | nil => exact nofun
    | cons key rest ih =>
      intro refused
      rw [cursorValues] at refused
      cases first : cursorValue row key.expr with
      | error e =>
        rw [first] at refused
        cases refused
        obtain ⟨fault, faulty, rfl⟩ := cursorValue_error_iff.1 first
        exact ⟨[], key, rest, fault, rfl, nofun, faulty, rfl⟩
      | ok v =>
        rw [first] at refused
        cases later : cursorValues row rest with
        | ok values =>
          rw [later] at refused
          cases refused
        | error e =>
          rw [later] at refused
          cases refused
          obtain ⟨before, k, after, fault, rfl, valued, faulty, rfl⟩ := ih later
          exact ⟨key :: before, k, after, fault, rfl,
            List.forall_mem_cons.2 ⟨⟨v, cursorValue_ok_iff.1 first⟩, valued⟩, faulty, rfl⟩
  · rintro ⟨before, key, after, fault, rfl, valued, faulty, rfl⟩
    induction before with
    | nil =>
      rw [List.nil_append, cursorValues, cursorValue_of_keyFault faulty]
    | cons k before ih =>
      obtain ⟨⟨v, first⟩, valued'⟩ := List.forall_mem_cons.1 valued
      rw [List.cons_append, cursorValues, cursorValue_of_keyValue first, ih valued']
      rfl

/-! ### Setting up a pagination -/

/-- A function that takes a cursor from a row. -/
inductive RowMark where
  | startAt
  | startAfter
  | endAt
  | endBefore

namespace RowMark

def apply : RowMark → PagedPipeline → Row → Except BuildError PagedPipeline
  | .startAt => PagedPipeline.startAt
  | .startAfter => PagedPipeline.startAfter
  | .endAt => PagedPipeline.endAt
  | .endBefore => PagedPipeline.endBefore

/-- Whether the row itself belongs to the page. -/
def inclusive : RowMark → Bool
  | .startAt | .endAt => true
  | .startAfter | .endBefore => false

/-- The pagination with a cursor in the place that the function is for. -/
def place (c : Cursor) (p : PagedPipeline) : RowMark → PagedPipeline
  | .startAt | .startAfter => { p with start := some c }
  | .endAt | .endBefore => { p with stop := some c }

end RowMark

/-- One call that sets a part of a pagination. -/
inductive Setting where
  | offset (n : Int64)
  | startCursor (c : Cursor)
  | endCursor (c : Cursor)
  | mark (m : RowMark) (row : Row)

def Setting.apply : Setting → PagedPipeline → Except BuildError PagedPipeline
  | .offset n, p => p.withOffset n
  | .startCursor c, p => p.withStart c
  | .endCursor c, p => p.withStop c
  | .mark m row, p => m.apply p row

/-- The paginations that callers can make. -/
inductive Made : PagedPipeline → Prop where
  | paginate {p : Pipeline} {size : Int64} {keys : List SortKey} {q : PagedPipeline}
      (made : p.paginate size keys = .ok q) : Made q
  | set {p q : PagedPipeline} (base : Made p) (setting : Setting) (made : setting.apply p = .ok q) :
      Made q

/-- A cursor is taken if it has values, and not too many of them. -/
lemma checkCursor_ok {p : PagedPipeline} {c : Cursor} (nonempty : c.values ≠ [])
    (short : c.values.length ≤ p.keys.length) : p.checkCursor c = .ok () := by
  rw [checkCursor, if_neg (Nat.not_lt.2 short), if_neg (by rwa [List.isEmpty_iff])]

/-- The values are read for all keys before the cursor is looked at. -/
lemma RowMark.apply_eq (mark : RowMark) (p : PagedPipeline) (row : Row) :
    mark.apply p row = (cursorValues row p.keys >>= fun values =>
      (p.checkCursor ⟨values, mark.inclusive⟩).map fun _ =>
        mark.place ⟨values, mark.inclusive⟩ p) := by
  cases mark <;> rfl

lemma Setting.keeps_keys (setting : Setting) (p : PagedPipeline) :
    Yields (setting.apply p) fun q => q.keys = p.keys := by
  cases setting with
  | offset n => exact .ite fun _ => rfl
  | startCursor c => exact .map_all fun _ => rfl
  | endCursor c => exact .map_all fun _ => rfl
  | mark m row =>
    rw [apply, m.apply_eq]
    exact .bind_all fun _ => .map_all fun _ => by cases m <;> rfl

lemma Made.keys_ne_nil {p : PagedPipeline} (made : Made p) : p.keys ≠ [] := by
  induction made with
  | @paginate p size keys q made =>
    unfold Pipeline.paginate at made
    split_ifs at made with _ filled
    cases made
    exact fun empty => filled (List.isEmpty_iff.2 empty)
  | set base setting made ih =>
    rw [setting.keeps_keys _ _ made]
    exact ih

/-- With a value for every key, there are some values and not too many, so that the cursor is
taken. -/
lemma RowMark.apply_of_made {p : PagedPipeline} (made : Made p) (m : RowMark) (row : Row) :
    m.apply p row =
      (cursorValues row p.keys).map fun values => m.place ⟨values, m.inclusive⟩ p := by
  rw [m.apply_eq]
  cases read : cursorValues row p.keys with
  | error e => rfl
  | ok values =>
    have length := (cursorValues_ok_iff.1 read).length_eq
    have nonempty : values ≠ [] := by
      rw [← List.length_pos_iff, ← length, List.length_pos_iff]
      exact made.keys_ne_nil
    change (p.checkCursor ⟨values, m.inclusive⟩).map _ = _
    rw [checkCursor_ok nonempty length.ge]
    rfl

/-- A cursor is taken exactly if the row has a value for every key. It has these values in the order
of the keys, and nothing else changes; otherwise the first key without a value is reported. -/
theorem row_marks_line_up {p : PagedPipeline} (made : Made p) (m : RowMark) (row : Row) :
    ((∃ q, m.apply p row = .ok q) ↔ ∀ key ∈ p.keys, ∃ v, KeyValue row key.expr v) ∧
    (∀ q, m.apply p row = .ok q ↔
      ∃ values, List.Forall₂ (fun key v => KeyValue row key.expr v) p.keys values ∧
        q = m.place ⟨values, m.inclusive⟩ p) ∧
    (∀ e, m.apply p row = .error e ↔
      ∃ before key after fault, p.keys = before ++ key :: after ∧
        (∀ k ∈ before, ∃ v, KeyValue row k.expr v) ∧ KeyFault row key.expr fault ∧
        e = .cursor fault) := by
  rw [m.apply_of_made made]
  refine ⟨?_, fun q => ?_, fun e => ?_⟩
  · rw [exists_map_eq_ok_iff, exists_values_iff]
  · simp only [map_eq_ok_iff, cursorValues_ok_iff]
  · rw [map_eq_error_iff, cursorValues_error_iff]

/-- Books by the city of their shop, in pages of ten. -/
def booksByCity : PagedPipeline where
  pipeline := ⟨none, [.collection "books"]⟩
  pageSize := 10
  keys := [⟨.field "shop.city", .ascending⟩, ⟨.documentId, .ascending⟩]
  offset := none
  start := none
  stop := none

/-- A book in a shop in Rome. -/
def romanBook : Row where
  reference := some ⟨["books".toList, "b1".toList], by decide⟩
  fields := some [("shop", .map [("city", .string "Rome")])]
  createTime := none
  updateTime := none
  executionTime := none
  database := "db"

/-- The city is found in the nested map, the document is the second value. -/
theorem row_marks_line_up_roman_book :
    Made booksByCity ∧
      RowMark.startAfter.apply booksByCity romanBook =
        .ok { booksByCity with start := some ⟨[.string "Rome", .reference "/books/b1"], false⟩ } ∧
      ∃ e, RowMark.endAt.apply booksByCity { romanBook with reference := none } = .error e := by
  have paged : Pipeline.paginate ⟨none, [.collection "books"]⟩ 10 booksByCity.keys =
      .ok booksByCity := rfl
  have made : Made booksByCity := .paginate paged
  have city : romanBook.get? "shop.city" = some (.string "Rome") := rfl
  obtain ⟨-, marked, -⟩ := row_marks_line_up made .startAfter romanBook
  obtain ⟨-, -, refused⟩ := row_marks_line_up made .endAt { romanBook with reference := none }
  refine ⟨made, (marked _).2 ⟨_, .cons (.field (by decide) city) (.cons (.document rfl) .nil), rfl⟩,
    _, (refused _).2 ⟨[⟨.field "shop.city", .ascending⟩], ⟨.documentId, .ascending⟩, [], _, rfl, ?_,
      .document rfl, rfl⟩⟩
  exact List.forall_mem_singleton.2 ⟨_, .field (by decide) city⟩

end PagedPipeline

end DocumentQuery
