import DocumentQuery.Json.Reader

/-!
The parts of the documents that hold values. A record has known members, and all others are passed
over. In a value every member counts, because a value has just one.
-/

namespace DocumentQuery

/-- A part of a document. -/
inductive Part where
  /-- Any document. -/
  | whole
  | value
  | dictionary (entry : Part)
  | list (item : Part)
  | record (fields : List (String × Part))

namespace Part

def point : Part := .record [("latitude", .whole), ("longitude", .whole)]

def call : Part := .record [("name", .whole), ("args", .list .value)]

def stage : Part :=
  .record [("name", .whole), ("args", .list .value), ("options", .dictionary .value)]

def pipeline : Part := .record [("stages", .list stage)]

/-- What a value of the named kind holds. -/
def payload : String → Part
  | "geo_point_value" => point
  | "array_value" => .list .value
  | "map_value" => .dictionary .value
  | "function_value" => call
  | "pipeline_value" => .list stage
  | _ => .whole

def member? : Part → String → Option Part
  | .record fields, key => fields.lookup key
  | .value, kind => some (payload kind)
  | .dictionary entry, _ => some entry
  | .list _, _ | .whole, _ => some .whole

/-- The part that an item is; a record may be the list of its fields. -/
def item : Part → Nat → Part
  | .list part, _ => part
  | .record fields, i => ((fields[i]?).map (·.2)).getD .whole
  | .value, _ | .dictionary _, _ | .whole, _ => .whole

def outline : Outline Part := ⟨member?, item⟩

/-- The document that a text is, without the members that the part does not know. -/
def ofText? (part : Part) (text : String) : Option Json := Json.ofTextAs? outline part text

end Part

end DocumentQuery
