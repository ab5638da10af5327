import DocumentQuery.BuildError
import DocumentQuery.Dictionary
import DocumentQuery.Time.Timestamp

/-!
The values exchanged with the execution engine: constants, field references, operator calls and
nested pipelines, all of one type. Maps and stage options are dictionaries, so that equal values are
written in the same way.
-/

namespace DocumentQuery

structure GeoPoint where
  latitude : Double
  longitude : Double
  deriving DecidableEq

/-- The point at the given coordinates, which must be in range. -/
def GeoPoint.of (latitude longitude : Double) : Except BuildError GeoPoint :=
  if !latitude.within (.ofInt (-90)) (.ofInt 90) then .error (.argument (.latitude latitude))
  else if !longitude.within (.ofInt (-180)) (.ofInt 180) then
    .error (.argument (.longitude longitude))
  else .ok ⟨latitude, longitude⟩

abbrev Blob := List UInt8

mutual

inductive WireValue where
  | null
  | boolean (b : Bool)
  | integer (n : Int64)
  | double (x : Double)
  | timestamp (t : Timestamp)
  | string (s : String)
  | bytes (b : Blob)
  | reference (path : String)
  | geoPoint (p : GeoPoint)
  | array (items : List WireValue)
  | map (entries : List (String × WireValue))
  | fieldReference (path : String)
  | function (name : String) (args : List WireValue)
  | pipeline (stages : List WireStage)

/-- A stage: its name, its positional arguments and its named options. -/
structure WireStage where
  name : String
  args : List WireValue
  options : List (String × WireValue)

end

instance : Inhabited WireValue := ⟨.null⟩

/-- A pipeline ready to be submitted. -/
structure WirePipeline where
  stages : List WireStage

namespace WireValue

/-- The class of a value in the order that the engine puts values of different types in. -/
def typeName : WireValue → String
  | .null => "null"
  | .boolean _ => "boolean"
  | .integer _ => "number"
  | .double _ => "number"
  | .timestamp _ => "timestamp"
  | .string _ => "string"
  | .bytes _ => "bytes"
  | .reference _ => "reference"
  | .geoPoint _ => "geo_point"
  | .array _ => "array"
  | .map _ => "map"
  | .fieldReference _ => "field_reference"
  | .function _ _ => "function"
  | .pipeline _ => "pipeline"

def isNull : WireValue → Bool
  | .null => true
  | _ => false

def string? : WireValue → Option String
  | .string s => some s
  | _ => none

def array? : WireValue → Option (List WireValue)
  | .array items => some items
  | _ => none

def map? : WireValue → Option (Dictionary WireValue)
  | .map entries => some entries
  | _ => none

/-- A natural number as a value; it must be a signed 64-bit integer. -/
def ofNat (n : Nat) : Except BuildError WireValue :=
  if n < 9223372036854775808 then .ok (.integer (Int64.ofNat n)) else .error (.tooLarge n)

end WireValue

mutual

/-- The invariant of values: every map and every list of options in it is sorted by key. -/
def WireValue.Sorted : WireValue → Prop
  | .array items => WireValue.AllSorted items
  | .map entries => Dictionary.Sorted entries ∧ WireValue.EntriesSorted entries
  | .function _ args => WireValue.AllSorted args
  | .pipeline stages => WireStage.AllSorted stages
  | _ => True

def WireValue.AllSorted : List WireValue → Prop
  | [] => True
  | v :: rest => v.Sorted ∧ WireValue.AllSorted rest

def WireValue.EntriesSorted : List (String × WireValue) → Prop
  | [] => True
  | (_, v) :: rest => v.Sorted ∧ WireValue.EntriesSorted rest

def WireStage.Sorted : WireStage → Prop
  | ⟨_, args, options⟩ =>
    WireValue.AllSorted args ∧ Dictionary.Sorted options ∧ WireValue.EntriesSorted options

def WireStage.AllSorted : List WireStage → Prop
  | [] => True
  | s :: rest => s.Sorted ∧ WireStage.AllSorted rest

end

end DocumentQuery
