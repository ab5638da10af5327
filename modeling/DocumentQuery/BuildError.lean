import DocumentQuery.Json.Basic
import DocumentQuery.Number.Layout

/-!
Why a pipeline, a condition or a request could not be built. An error is its cause; code, message
and field are read off the cause, except that a field may be attached afterwards.
-/

namespace DocumentQuery

/-- What is wrong with a path. -/
inductive PathFault where
  | empty
  | emptySegment
  | oddSegments
  | rooted
  | evenSegments
  | emptyCollectionId
  | slashInCollectionId
  | other (reason : String)
  deriving DecidableEq

def PathFault.reason : PathFault → String
  | .empty => "path is empty"
  | .emptySegment => "path contains an empty segment"
  | .oddSegments => "document paths need an even number of segments"
  | .rooted => "collection path must be relative to the database root"
  | .evenSegments => "a collection path has an odd number of segments"
  | .emptyCollectionId => "collection id must not be empty"
  | .slashInCollectionId => "collection id must not contain '/'"
  | .other reason => reason

/-- What is wrong with an argument. -/
inductive ArgumentFault where
  | latitude (x : Double)
  | longitude (x : Double)
  | emptyOutputName
  | noGroupingKey
  | noStages
  | noSourceFirst (stage : String)
  | strayingSource (stage : String)
  | membershipWithoutArray (field : String)
  | percentage (x : Double)
  | emptyStageName
  | noDocuments
  | noColumns (stage : String)
  | noOrderings
  | noAccumulators
  | emptyVector
  | conditionOnCrossJoin
  | joinWithoutCondition (kind : String)
  | joinUsingNothing
  | joinWithoutSource
  | emptyUnnestAlias
  | unionWithoutSource
  | pageSize (n : Int64)
  | noPageOrderings
  | readTimeInTransaction
  | other (reason : String)
  deriving DecidableEq

def ArgumentFault.reason : ArgumentFault → String
  | .latitude x => "Latitude must be in [-90, 90], got " ++ x.plainText
  | .longitude x => "Longitude must be in [-180, 180], got " ++ x.plainText
  | .emptyOutputName => "output field name must not be empty"
  | .noGroupingKey => "group needs at least one grouping key"
  | .noStages => "pipeline has no stages"
  | .noSourceFirst stage => s!"pipeline must start with a source stage, found '{stage}'"
  | .strayingSource stage => s!"source stage '{stage}' may only appear first"
  | .membershipWithoutArray field => s!"membership filter on '{field}' needs an array value"
  | .percentage x => "sample percentage must be within [0, 100], got " ++ x.plainText
  | .emptyStageName => "stage name must not be empty"
  | .noDocuments => "documents stage needs at least one document"
  | .noColumns stage => stage ++ " needs at least one field"
  | .noOrderings => "sort needs at least one ordering"
  | .noAccumulators =>
    "aggregate needs at least one accumulator; use distinct for group values only"
  | .emptyVector => "query vector must not be empty"
  | .conditionOnCrossJoin => "cross join takes no condition"
  | .joinWithoutCondition kind => kind ++ " join needs a condition"
  | .joinUsingNothing => "join using needs at least one field"
  | .joinWithoutSource => "right-hand side of a join must have a source stage"
  | .emptyUnnestAlias => "unnest alias must not be empty"
  | .unionWithoutSource => "union needs a pipeline with a source stage"
  | .pageSize n => s!"page size must be positive, got {n.toInt}"
  | .noPageOrderings => "pagination needs at least one ordering"
  | .readTimeInTransaction => "read_time and transaction cannot be combined"
  | .other reason => reason

/-- What is wrong with a cursor. -/
inductive CursorFault where
  | tooManyValues (values orderings : Nat)
  | noValues
  | noDocumentName
  | noValue (path : String)
  | notAField (expression : String)
  | other (reason : String)
  deriving DecidableEq

def CursorFault.reason : CursorFault → String
  | .tooManyValues values orderings =>
    s!"cursor has {values} values but only {orderings} orderings"
  | .noValues => "cursor has no values"
  | .noDocumentName => "result has no document name to resume from"
  | .noValue path => s!"result has no value for ordering field '{path}'"
  | .notAField expression =>
    "cursor values can only be read for field orderings, got " ++ expression
  | .other reason => reason

/-- What cannot be written to the wire. -/
inductive SerializationFault where
  | integerTooLarge (n : Int)
  | other (reason : String)
  deriving DecidableEq

def SerializationFault.reason : SerializationFault → String
  | .integerTooLarge n => s!"Integer {n} does not fit in a signed 64-bit value"
  | .other reason => reason

inductive BuildFault where
  | invalidArgument (fault : ArgumentFault)
  | invalidPath (path : String) (fault : PathFault)
  | duplicateField (name : String)
  | notBoolean (expression : String)
  | negativeValue (argument : String) (n : Int64)
  | unsupported (operation : String)
  | serialization (fault : SerializationFault)
  | invalidCursor (fault : CursorFault)
  deriving DecidableEq

namespace BuildFault

/-- The stable code of the kind of fault. -/
def code : BuildFault → String
  | .invalidArgument _ => "DOCPIPE_INVALID_ARGUMENT"
  | .invalidPath _ _ => "DOCPIPE_INVALID_PATH"
  | .duplicateField _ => "DOCPIPE_DUPLICATE_FIELD"
  | .notBoolean _ => "DOCPIPE_NOT_BOOLEAN"
  | .negativeValue _ _ => "DOCPIPE_NEGATIVE_VALUE"
  | .unsupported _ => "DOCPIPE_UNSUPPORTED_OPERATION"
  | .serialization _ => "DOCPIPE_SERIALIZATION"
  | .invalidCursor _ => "DOCPIPE_INVALID_CURSOR"

def message : BuildFault → String
  | .invalidArgument fault => fault.reason
  | .invalidPath path fault => s!"Invalid path '{path}': {fault.reason}"
  | .duplicateField name => s!"Output field '{name}' is produced more than once"
  | .notBoolean expression => s!"Expression {expression} does not produce a boolean"
  | .negativeValue argument n => s!"{argument} must be non-negative, got {n.toInt}"
  | .unsupported operation => "Unsupported operator: " ++ operation
  | .serialization fault => fault.reason
  | .invalidCursor fault => fault.reason

/-- The field that the fault is about, where the fault names one. -/
def field : BuildFault → Option String
  | .invalidArgument (.membershipWithoutArray field) => some field
  | .invalidPath path _ => some path
  | .duplicateField name => some name
  | .invalidCursor (.noValue path) => some path
  | _ => none

end BuildFault

/-- A fault, and the field it was attached to. -/
structure BuildError where
  fault : BuildFault
  field : Option String := fault.field
  deriving DecidableEq

namespace BuildError

def code (e : BuildError) : String := e.fault.code

def message (e : BuildError) : String := e.fault.message

/-- How much an error matters: all of them reject the pipeline. -/
def severity (_ : BuildError) : String := "REJECT"

/-- The error in one line. -/
def display (e : BuildError) : String := s!"[{e.severity}] {e.code}: {e.message}"

/-- All that can be said of the error. -/
def toDocument (e : BuildError) : Json :=
  .object [("error", .string e.code), ("message", .string e.message),
    ("field", .ofOption .string e.field), ("display", .string e.display),
    ("severity", .string e.severity)]

def withField (e : BuildError) (field : String) : BuildError := { e with field := some field }

def argument (fault : ArgumentFault) : BuildError := { fault := .invalidArgument fault }

def path (path : String) (fault : PathFault) : BuildError := { fault := .invalidPath path fault }

def duplicate (name : String) : BuildError := { fault := .duplicateField name }

def notBoolean (expression : String) : BuildError := { fault := .notBoolean expression }

def negative (argument : String) (n : Int64) : BuildError := { fault := .negativeValue argument n }

def unsupported (operation : String) : BuildError := { fault := .unsupported operation }

def tooLarge (n : Int) : BuildError := { fault := .serialization (.integerTooLarge n) }

def cursor (fault : CursorFault) : BuildError := { fault := .invalidCursor fault }

end BuildError

end DocumentQuery
