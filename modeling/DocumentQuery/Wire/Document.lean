import DocumentQuery.Json.Printer
import DocumentQuery.Text.Base64
import DocumentQuery.Text.Sha256
import DocumentQuery.Time.Rfc3339
import DocumentQuery.Wire.Value

/-!
Values as documents. Each kind of value is an object with one member whose key names the kind, but
the null value is a bare string. Members stand in a fixed order, so a pipeline has one canonical
text, and the digest of that text identifies the pipeline.
-/

namespace DocumentQuery

/-- The names of the doubles that no number in a document can be. -/
def Double.nonFiniteName : Double → Option String
  | .nan => some "NaN"
  | .infinite false => some "Infinity"
  | .infinite true => some "-Infinity"
  | .finite _ => none

/-- A double as a document: a number, or its name if it is not finite. -/
def Double.toDocument (x : Double) : Json :=
  match x with
  | .finite x => .fractional x
  | x => .string (x.nonFiniteName.getD "")

/-- A coordinate as a document; one that is not finite is lost. -/
def GeoPoint.coordinateDocument : Double → Json
  | .finite x => .fractional x
  | _ => .null

def GeoPoint.toDocument (p : GeoPoint) : Json :=
  .object [("latitude", coordinateDocument p.latitude),
    ("longitude", coordinateDocument p.longitude)]

def Timestamp.toDocument (t : Timestamp) : Json := .string (Rfc3339.toText t)

def Blob.toText (b : Blob) : String := String.ofList (Base64.encode b)

def Blob.toDocument (b : Blob) : Json := .string (Blob.toText b)

mutual

def WireValue.toDocument : WireValue → Json
  | .null => .string "null_value"
  | .boolean b => .object [("boolean_value", .bool b)]
  | .integer n => .object [("integer_value", .ofInt64 n)]
  | .double x => .object [("double_value", x.toDocument)]
  | .timestamp t => .object [("timestamp_value", t.toDocument)]
  | .string s => .object [("string_value", .string s)]
  | .bytes b => .object [("bytes_value", Blob.toDocument b)]
  | .reference path => .object [("reference_value", .string path)]
  | .geoPoint p => .object [("geo_point_value", p.toDocument)]
  | .array items => .object [("array_value", .array (WireValue.itemDocuments items))]
  | .map entries => .object [("map_value", .object (WireValue.entryDocuments entries))]
  | .fieldReference path => .object [("field_reference_value", .string path)]
  | .function name args =>
    .object [("function_value",
      .object [("name", .string name), ("args", .array (WireValue.itemDocuments args))])]
  | .pipeline stages => .object [("pipeline_value", .array (WireStage.documents stages))]

def WireValue.itemDocuments : List WireValue → List Json
  | [] => []
  | v :: rest => v.toDocument :: WireValue.itemDocuments rest

def WireValue.entryDocuments : List (String × WireValue) → List (String × Json)
  | [] => []
  | (key, v) :: rest => (key, v.toDocument) :: WireValue.entryDocuments rest

def WireStage.toDocument : WireStage → Json
  | ⟨name, args, options⟩ =>
    .object [("name", .string name), ("args", .array (WireValue.itemDocuments args)),
      ("options", .object (WireValue.entryDocuments options))]

def WireStage.documents : List WireStage → List Json
  | [] => []
  | s :: rest => s.toDocument :: WireStage.documents rest

end

namespace WirePipeline

def toDocument (p : WirePipeline) : Json :=
  .object [("stages", .array (WireStage.documents p.stages))]

/-- The text that identifies the pipeline. -/
def canonicalText (p : WirePipeline) : String := p.toDocument.toText

/-- The SHA-256 digest of the canonical text, in lower-case hexadecimal. -/
def fingerprint (p : WirePipeline) : String := Sha256.hexDigest p.canonicalText.toUTF8.toList

end WirePipeline

end DocumentQuery
