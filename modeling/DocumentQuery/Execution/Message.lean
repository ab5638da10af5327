import DocumentQuery.Wire.Document
import DocumentQuery.Wire.Part
import DocumentQuery.Wire.Reading

/-!
What an executor and its transport exchange: the request for one execution, and the batches of rows
that answer it, with their documents. A document of a row or a batch always has every field; a
request leaves out what it does not set.
-/

namespace DocumentQuery

/-- One returned row: the resource name of its document and the document's fields, where it has
them. -/
structure RowPayload where
  name : Option String := none
  fields : Option (Dictionary WireValue) := none
  createTime : Option Timestamp := none
  updateTime : Option Timestamp := none

/-- Rows that were produced at one time. -/
structure ResponseBatch where
  executionTime : Option Timestamp := none
  rows : List RowPayload

/-- The request for one execution. -/
structure ExecuteRequest where
  database : String
  pipeline : WirePipeline
  options : Dictionary WireValue
  readTime : Option Timestamp := none
  transaction : Option Blob := none

namespace Part

def row : Part :=
  .record [("name", .whole), ("fields", .dictionary .value), ("create_time", .whole),
    ("update_time", .whole)]

def batch : Part := .record [("execution_time", .whole), ("results", .list row)]

def request : Part :=
  .record [("database", .whole), ("pipeline", pipeline), ("options", .dictionary .value),
    ("read_time", .whole), ("transaction", .whole)]

end Part

namespace RowPayload

def toDocument (row : RowPayload) : Json :=
  .object [("name", .ofOption .string row.name),
    ("fields", .ofOption (fun fields => .object (WireValue.entryDocuments fields)) row.fields),
    ("create_time", .ofOption Timestamp.toDocument row.createTime),
    ("update_time", .ofOption Timestamp.toDocument row.updateTime)]

def fieldsOf? : Json → Option (Dictionary WireValue)
  | .object members => WireValue.ofMembers? members
  | _ => none

def ofDocument? (document : Json) : Option RowPayload :=
  match document.fields? ["name", "fields", "create_time", "update_time"] with
  | some [name, fields, createTime, updateTime] => do
    return {
      name := ← Json.optional? Json.string? name
      fields := ← Json.optional? fieldsOf? fields
      createTime := ← Json.optional? Timestamp.ofDocument? createTime
      updateTime := ← Json.optional? Timestamp.ofDocument? updateTime }
  | _ => none

/-- The rows of a list of documents, if every one is a row. -/
def ofDocuments? : List Json → Option (List RowPayload)
  | [] => some []
  | document :: rest =>
    match ofDocument? document with
    | none => none
    | some row => (ofDocuments? rest).map (row :: ·)

end RowPayload

namespace ResponseBatch

def toDocument (batch : ResponseBatch) : Json :=
  .object [("execution_time", .ofOption Timestamp.toDocument batch.executionTime),
    ("results", .array (batch.rows.map RowPayload.toDocument))]

def ofDocument? (document : Json) : Option ResponseBatch :=
  match document.fields? ["execution_time", "results"] with
  | some [executionTime, some (.array rows)] => do
    return {
      executionTime := ← Json.optional? Timestamp.ofDocument? executionTime
      rows := ← RowPayload.ofDocuments? rows }
  | _ => none

end ResponseBatch

namespace ExecuteRequest

def optionalMember (key : String) : Option Json → List (String × Json)
  | none => []
  | some v => [(key, v)]

def toDocument (request : ExecuteRequest) : Json :=
  .object <|
    [("database", .string request.database),
      ("pipeline", request.pipeline.toDocument),
      ("options", .object (WireValue.entryDocuments request.options))] ++
    optionalMember "read_time" (request.readTime.map Timestamp.toDocument) ++
    optionalMember "transaction" (request.transaction.map Blob.toDocument)

def ofDocument? (document : Json) : Option ExecuteRequest :=
  match document.fields? ["database", "pipeline", "options", "read_time", "transaction"] with
  | some [some (.string database), some pipeline, some (.object options), readTime,
      transaction] => do
    return {
      database
      pipeline := ← WirePipeline.ofDocument? pipeline
      options := ← WireValue.ofMembers? options
      readTime := ← Json.optional? Timestamp.ofDocument? readTime
      transaction := ← Json.optional? Blob.ofDocument? transaction }
  | _ => none

end ExecuteRequest

end DocumentQuery
