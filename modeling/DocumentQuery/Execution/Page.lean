import DocumentQuery.Execution.Row
import DocumentQuery.Pipeline.Wire

/-!
Pagination: a pipeline with a page size, the keys that rows are sorted by, an offset and cursors. A
cursor marks a place in the sorted rows by the values of the first keys. All of it travels as an
option of the request; the pipeline itself is sent as it is.
-/

namespace DocumentQuery

/-- A place in sorted rows, and whether the row at that place is included. -/
structure Cursor where
  values : List WireValue
  inclusive : Bool

namespace Cursor

def atValues (values : List WireValue) : Cursor := ⟨values, true⟩

def afterValues (values : List WireValue) : Cursor := ⟨values, false⟩

def toWire (c : Cursor) : WireValue :=
  .map [("inclusive", .boolean c.inclusive), ("values", .array c.values)]

end Cursor

inductive PageDirection where
  | forward
  | backward
  deriving DecidableEq, Repr

def PageDirection.name : PageDirection → String
  | .forward => "forward"
  | .backward => "backward"

structure PagedPipeline where
  pipeline : Pipeline
  pageSize : Int64
  keys : List SortKey
  offset : Option Int64
  start : Option Cursor
  stop : Option Cursor

/-- A pipeline with the options that are sent along with it. -/
structure Submission where
  pipeline : Pipeline
  options : Dictionary WireValue

/-- A pipeline to be executed as a whole. -/
def Pipeline.submission (p : Pipeline) : Submission := ⟨p, []⟩

/-- Pages of the given size; the keys should leave no two rows equal. -/
def Pipeline.paginate (p : Pipeline) (pageSize : Int64) (keys : List SortKey) :
    Except BuildError PagedPipeline :=
  if pageSize ≤ 0 then .error (.argument (.pageSize pageSize))
  else if keys.isEmpty then .error (.argument .noPageOrderings)
  else .ok { pipeline := p, pageSize, keys, offset := none, start := none, stop := none }

namespace PagedPipeline

/-- Skips rows after the start. -/
def withOffset (p : PagedPipeline) (n : Int64) : Except BuildError PagedPipeline :=
  if n < 0 then .error (.negative "offset" n) else .ok { p with offset := some n }

/-- A cursor must have a value, and not more values than there are keys. -/
def checkCursor (p : PagedPipeline) (c : Cursor) : Except BuildError Unit :=
  if p.keys.length < c.values.length then
    .error (.cursor (.tooManyValues c.values.length p.keys.length))
  else if c.values.isEmpty then .error (.cursor .noValues)
  else .ok ()

def withStart (p : PagedPipeline) (c : Cursor) : Except BuildError PagedPipeline :=
  (p.checkCursor c).map fun _ => { p with start := some c }

def withStop (p : PagedPipeline) (c : Cursor) : Except BuildError PagedPipeline :=
  (p.checkCursor c).map fun _ => { p with stop := some c }

/-- The value of a row for a key, which has to be a field that the row has. -/
def cursorValue (row : Row) (e : Expr) : Except BuildError WireValue :=
  match e with
  | .field path =>
    if path = documentIdPath then
      match row.reference with
      | some d => .ok (.reference d.absolutePath)
      | none => .error (.cursor .noDocumentName)
    else match row.get? path with
      | some v => .ok v
      | none => .error (.cursor (.noValue path))
  | e => .error (.cursor (.notAField e.display))

/-- The values of a row for a list of keys. -/
def cursorValues (row : Row) : List SortKey → Except BuildError (List WireValue)
  | [] => .ok []
  | key :: rest =>
    match cursorValue row key.expr with
    | .error e => .error e
    | .ok v => (cursorValues row rest).map (v :: ·)

def startAt (p : PagedPipeline) (row : Row) : Except BuildError PagedPipeline := do
  p.withStart (.atValues (← cursorValues row p.keys))

def startAfter (p : PagedPipeline) (row : Row) : Except BuildError PagedPipeline := do
  p.withStart (.afterValues (← cursorValues row p.keys))

def endAt (p : PagedPipeline) (row : Row) : Except BuildError PagedPipeline := do
  p.withStop (.atValues (← cursorValues row p.keys))

def endBefore (p : PagedPipeline) (row : Row) : Except BuildError PagedPipeline := do
  p.withStop (.afterValues (← cursorValues row p.keys))

/-- The pagination as a value; what is not set is left out. -/
def toWire (p : PagedPipeline) (direction : PageDirection) : WireValue :=
  .map <|
    [("direction", .string direction.name)] ++
    WireStage.optional "end_cursor" (p.stop.map Cursor.toWire) ++
    WireStage.optional "offset" (p.offset.map .integer) ++
    [("orderings", .array (p.keys.map SortKey.toWire)), ("page_size", .integer p.pageSize)] ++
    WireStage.optional "start_cursor" (p.start.map Cursor.toWire)

/-- The request for one page. -/
def page (p : PagedPipeline) (direction : PageDirection) : Submission :=
  ⟨p.pipeline, [("pagination", p.toWire direction)]⟩

def firstPage (p : PagedPipeline) : Submission := p.page .forward

def lastPage (p : PagedPipeline) : Submission := p.page .backward

end PagedPipeline

end DocumentQuery
