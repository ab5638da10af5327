import DocumentQuery.Execution.Error
import DocumentQuery.Execution.Message
import DocumentQuery.Path
import DocumentQuery.Pipeline.Basic
import DocumentQuery.Wire.Equality
import DocumentQuery.Wire.View

/-!
Decoded rows. The document of a row is read off its resource name when the row arrives; its fields
stay values until a caller asks for one, by a name or by a path of names between dots.
-/

namespace DocumentQuery

/-- A row, with the time of the response and the database that it came from. -/
structure Row where
  reference : Option DocumentReference
  fields : Option (Dictionary WireValue)
  createTime : Option Timestamp
  updateTime : Option Timestamp
  executionTime : Option Timestamp
  database : String

namespace Row

/-- The document that a row is of: none if the row has no name. -/
def referenceOf : Option String → Except ExecutionError (Option DocumentReference)
  | none => .ok none
  | some name =>
    if name = "" then .ok none
    else match DocumentReference.ofResourceName name with
      | .ok d => .ok (some d)
      | .error e => .error (.decode e.message)

def decode (payload : RowPayload) (executionTime : Option Timestamp) (database : String) :
    Except ExecutionError Row :=
  (referenceOf payload.name).map fun reference =>
    { reference
      fields := payload.fields
      createTime := payload.createTime
      updateTime := payload.updateTime
      executionTime
      database }

/-- Whether the document of the row is there. -/
def isPresent (row : Row) : Bool := row.fields.isSome

/-- The value reached by descending through maps along a chain of keys. -/
def descend (v : WireValue) : List String → Option WireValue
  | [] => some v
  | key :: rest =>
    match v with
    | .map entries =>
      match Dictionary.get? entries key with
      | some v => descend v rest
      | none => none
    | _ => none

/-- The value at a path. A field whose name is the whole path comes before the descent along the
segments of the path. -/
def get? (row : Row) (path : String) : Option WireValue :=
  match row.fields with
  | none => none
  | some fields =>
    match Dictionary.get? fields path with
    | some v => some v
    | none => descend (.map fields) (fieldSegments path)

def contains (row : Row) (path : String) : Bool := (row.get? path).isSome

/-- The plain view of all fields. -/
def data (row : Row) : Option Json :=
  row.fields.map fun fields => .object (WireValue.viewEntries fields)

/-- What a row shows of itself, its fields in their plain view. -/
def members (row : Row) : List (String × Json) :=
  [("id", .ofOption (fun d => .string d.id) row.reference),
    ("path", .ofOption (fun d => .string d.path) row.reference),
    ("exists", .bool row.isPresent),
    ("data", row.data.getD .null),
    ("create", .ofOption Timestamp.toDocument row.createTime),
    ("update", .ofOption Timestamp.toDocument row.updateTime),
    ("time", .ofOption Timestamp.toDocument row.executionTime),
    ("database", .string row.database)]

def toDocument (row : Row) : Json := .object row.members

/-- Rows are equal when they have the same document, fields and times, whichever execution they
came from. -/
def numEq (a b : Row) : Bool :=
  a.reference == b.reference && a.createTime == b.createTime && a.updateTime == b.updateTime &&
    match a.fields, b.fields with
    | none, none => true
    | some a, some b => WireValue.entriesNumEq a b
    | _, _ => false

end Row

/-- The rows of a completed execution. -/
structure Snapshot where
  rows : List Row
  executionTime : Option Timestamp
  pipeline : Pipeline

/-- The rows with their number; the pipeline is told by its display form. -/
def Snapshot.members (s : Snapshot) : List (String × Json) :=
  [("len", .ofNat s.rows.length), ("empty", .bool s.rows.isEmpty),
    ("rows", .array (s.rows.map Row.toDocument)),
    ("time", .ofOption Timestamp.toDocument s.executionTime),
    ("pipeline", .string s.pipeline.display)]

end DocumentQuery
