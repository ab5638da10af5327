import DocumentQuery.Json.Printer
import DocumentQuery.Observability.Log
import DocumentQuery.Text.Blank
import DocumentQuery.Wire.Part
import DocumentQuery.Wire.Reading

/-!
The configuration of an executor. A document may leave out any field, which then has its default;
what has been read must name a database and leave room for at least one row.
-/

namespace DocumentQuery

structure ExecutorConfig where
  database : String := "projects/(default)/databases/(default)"
  /-- The rows that may wait in a stream for its consumer. -/
  streamBuffer : UInt64 := 64
  logLevel : Severity := .info
  /-- Whether the text of every request is logged. -/
  logRequests : Bool := false
  deriving DecidableEq

inductive ConfigError where
  | unreadable
  | emptyDatabase
  | emptyBuffer
  deriving DecidableEq

def ConfigError.message : ConfigError → String
  | .unreadable => "Invalid config document"
  | .emptyDatabase => "Invalid config value: database must not be empty"
  | .emptyBuffer => "Invalid config value: stream_buffer must be positive"

namespace ExecutorConfig

def forDatabase (database : String) : ExecutorConfig := { database }

def validate (c : ExecutorConfig) : Except ConfigError Unit :=
  if isBlankText c.database then .error .emptyDatabase
  else if c.streamBuffer = 0 then .error .emptyBuffer
  else .ok ()

def toDocument (c : ExecutorConfig) : Json :=
  .object [("database", .string c.database), ("stream_buffer", .ofNat c.streamBuffer.toNat),
    ("log_level", c.logLevel.toDocument), ("log_requests", .bool c.logRequests)]

def toText (c : ExecutorConfig) : String := c.toDocument.toText

def word? : Json → Option UInt64
  | .whole n => if 0 ≤ n.value then some (UInt64.ofNat n.value.toNat) else none
  | _ => none

/-- A field that has a default. -/
def defaulted? {α : Type} (default : α) (read : Json → Option α) : Option Json → Option α
  | none => some default
  | some v => read v

def fieldNames : List String := ["database", "stream_buffer", "log_level", "log_requests"]

/-- The fields of a document; an array may be shorter than the list of fields. -/
def fields? : Json → Option (List (Option Json))
  | .array items =>
    if items.length ≤ fieldNames.length then
      some (items.map some ++ List.replicate (fieldNames.length - items.length) none)
    else none
  | document => document.fields? fieldNames

def ofDocument? (document : Json) : Option ExecutorConfig :=
  let standard : ExecutorConfig := {}
  match fields? document with
  | some [database, streamBuffer, logLevel, logRequests] => do
    return {
      database := ← defaulted? standard.database Json.string? database
      streamBuffer := ← defaulted? standard.streamBuffer word? streamBuffer
      logLevel := ← defaulted? standard.logLevel Severity.ofDocument? logLevel
      logRequests := ← defaulted? standard.logRequests Json.bool? logRequests }
  | _ => none

def part : Part := .record (fieldNames.map fun name => (name, .whole))

/-- The configuration of a text, if it is a valid one. -/
def ofText (text : String) : Except ConfigError ExecutorConfig :=
  match (part.ofText? text).bind ofDocument? with
  | none => .error .unreadable
  | some config => config.validate.map fun _ => config

end ExecutorConfig

end DocumentQuery
