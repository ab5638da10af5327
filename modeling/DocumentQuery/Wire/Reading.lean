import DocumentQuery.Json.Basic
import DocumentQuery.Text.Base64
import DocumentQuery.Time.Rfc3339
import DocumentQuery.Wire.Value

/-!
Reading values back from documents. A record may be an object, in which unknown members are passed
over and a known one may not be repeated, or an array of exactly its fields. In a map the last of
several members with one key counts.
-/

namespace DocumentQuery

/-- A number of a document as a double. -/
def Double.ofNumber? : Json → Option Double
  | .whole n => some (.ofInt n.value)
  | .fractional x => some (.finite x)
  | _ => none

/-- A number, or the name of a double that is not finite. -/
def Double.ofDocument? : Json → Option Double
  | .string s =>
    if s = "NaN" then some .nan
    else if s = "Infinity" then some (.infinite false)
    else if s = "-Infinity" then some (.infinite true)
    else none
  | number => Double.ofNumber? number

def Timestamp.ofDocument? : Json → Option Timestamp
  | .string s => Rfc3339.ofText? s
  | _ => none

def Blob.ofDocument? : Json → Option Blob
  | .string s => Base64.decode? s.toList
  | _ => none

namespace Json

def string? : Json → Option String
  | .string s => some s
  | _ => none

def bool? : Json → Option Bool
  | .bool b => some b
  | _ => none

def int64? : Json → Option Int64
  | .whole n => n.toInt64?
  | _ => none

/-- The fields of a record, in the order of the given names, with `none` for an absent one: the
members of an object, none of them repeated, or exactly as many items of an array. -/
def fields? (names : List String) : Json → Option (List (Option Json))
  | .array items => if items.length = names.length then some (items.map some) else none
  | .object members =>
    if names.all fun name => (members.filter (·.1 = name)).length ≤ 1 then
      some (names.map fun name => (members.find? (·.1 = name)).map (·.2))
    else none
  | _ => none

/-- A field that may be absent or null. -/
def optional? {α : Type} (read : Json → Option α) : Option Json → Option (Option α)
  | none => some none
  | some .null => some none
  | some v => (read v).map some

end Json

def GeoPoint.ofDocument? (document : Json) : Option GeoPoint :=
  match document.fields? ["latitude", "longitude"] with
  | some [some latitude, some longitude] => do
    return ⟨← Double.ofNumber? latitude, ← Double.ofNumber? longitude⟩
  | _ => none

/-- The fields of a call or a stage that have been read so far. -/
structure CallParts where
  name : Option String := none
  args : Option (List WireValue) := none
  options : Option (List (String × WireValue)) := none

namespace CallParts

/-! A field is taken once, and only if it can be read. -/

def takeName (parts : CallParts) (name : String) : Option CallParts :=
  if parts.name.isSome then none else some { parts with name := some name }

def takeArgs (parts : CallParts) (args : Option (List WireValue)) : Option CallParts :=
  if parts.args.isSome then none else args.map fun args => { parts with args := some args }

def takeOptions (parts : CallParts) (options : Option (List (String × WireValue))) :
    Option CallParts :=
  if parts.options.isSome then none
  else options.map fun options => { parts with options := some options }

end CallParts

mutual

def WireValue.ofDocument? : Json → Option WireValue
  | .string s => if s = "null_value" then some .null else none
  | .object [(kind, payload)] =>
    match kind, payload with
    | "null_value", .null => some .null
    | "boolean_value", .bool b => some (.boolean b)
    | "integer_value", n => n.int64?.map .integer
    | "double_value", x => (Double.ofDocument? x).map .double
    | "timestamp_value", t => (Timestamp.ofDocument? t).map .timestamp
    | "string_value", .string s => some (.string s)
    | "bytes_value", b => (Blob.ofDocument? b).map .bytes
    | "reference_value", .string path => some (.reference path)
    | "geo_point_value", p => (GeoPoint.ofDocument? p).map .geoPoint
    | "array_value", .array items => (WireValue.ofItems? items).map .array
    | "map_value", .object members => (WireValue.ofMembers? members).map .map
    | "field_reference_value", .string path => some (.fieldReference path)
    | "function_value", .array [.string name, .array args] =>
      (WireValue.ofItems? args).map (.function name)
    | "function_value", .object members =>
      match WireValue.partsOf? false members with
      | some { name := some name, args := some args, options := _ } => some (.function name args)
      | _ => none
    | "pipeline_value", .array stages => (WireStage.ofItems? stages).map .pipeline
    | _, _ => none
  | _ => none

def WireValue.ofItems? : List Json → Option (List WireValue)
  | [] => some []
  | item :: rest =>
    match WireValue.ofDocument? item with
    | none => none
    | some v => (WireValue.ofItems? rest).map (v :: ·)

/-- A dictionary of values; the last of several members with one key is kept. -/
def WireValue.ofMembers? : List (String × Json) → Option (List (String × WireValue))
  | [] => some []
  | (key, member) :: rest =>
    match WireValue.ofDocument? member with
    | none => none
    | some v => (WireValue.ofMembers? rest).map (Dictionary.insertNew key v)

/-- The fields of a call, or of a stage if it may have options, among the members of an object. -/
def WireValue.partsOf? (hasOptions : Bool) : List (String × Json) → Option CallParts
  | [] => some {}
  | (key, member) :: rest =>
    (WireValue.partsOf? hasOptions rest).bind fun parts =>
      match key, member with
      | "name", .string name => parts.takeName name
      | "name", _ => none
      | "args", .array args => parts.takeArgs (WireValue.ofItems? args)
      | "args", _ => none
      | "options", .object options =>
        if hasOptions then parts.takeOptions (WireValue.ofMembers? options) else some parts
      | "options", _ => if hasOptions then none else some parts
      | _, _ => some parts

def WireStage.ofDocument? : Json → Option WireStage
  | .array [.string name, .array args, .object options] =>
    match WireValue.ofItems? args, WireValue.ofMembers? options with
    | some args, some options => some ⟨name, args, options⟩
    | _, _ => none
  | .object members =>
    match WireValue.partsOf? true members with
    | some { name := some name, args := some args, options := some options } =>
      some ⟨name, args, options⟩
    | _ => none
  | _ => none

def WireStage.ofItems? : List Json → Option (List WireStage)
  | [] => some []
  | item :: rest =>
    match WireStage.ofDocument? item with
    | none => none
    | some s => (WireStage.ofItems? rest).map (s :: ·)

end

def WirePipeline.ofDocument? (document : Json) : Option WirePipeline :=
  match document.fields? ["stages"] with
  | some [some (.array stages)] => (WireStage.ofItems? stages).map WirePipeline.mk
  | _ => none

end DocumentQuery
