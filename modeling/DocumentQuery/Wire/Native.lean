import DocumentQuery.Path
import DocumentQuery.Wire.Document

/-!
Native types of values. A shape names a type that callers read fields as: a scalar, or a list, an
option or a dictionary of a shape. Every shape can be written as a value; reading refuses a value
with a kind that the shape does not allow at its place, except that integers widen to doubles.
-/

namespace DocumentQuery

inductive Shape where
  | value
  | bool
  | integer
  | double
  | string
  | timestamp
  | geoPoint
  | blob
  | reference
  | list (item : Shape)
  | optional (item : Shape)
  | dictionary (item : Shape)
  deriving DecidableEq

namespace Shape

/-- The type that a shape names. -/
abbrev Native : Shape → Type
  | .value => WireValue
  | .bool => Bool
  | .integer => Int64
  | .double => Double
  | .string => String
  | .timestamp => Timestamp
  | .geoPoint => GeoPoint
  | .blob => Blob
  | .reference => DocumentReference
  | .list item => List item.Native
  | .optional item => Option item.Native
  | .dictionary item => Dictionary item.Native

/-- The value of a native datum; a reference is written as its path from the database root. -/
def encode : (shape : Shape) → shape.Native → WireValue
  | .value, v => v
  | .bool, b => .boolean b
  | .integer, n => .integer n
  | .double, x => .double x
  | .string, s => .string s
  | .timestamp, t => .timestamp t
  | .geoPoint, p => .geoPoint p
  | .blob, b => .bytes b
  | .reference, d => .reference d.absolutePath
  | .list item, items => .array (items.map item.encode)
  | .optional _, none => .null
  | .optional item, some a => item.encode a
  | .dictionary item, entries => .map (Dictionary.mapValues item.encode entries)

/-- The datum of all items, if every item has one. -/
def readAll {α β : Type} (read : α → Option β) : List α → Option (List β)
  | [] => some []
  | a :: rest =>
    match read a with
    | none => none
    | some b => (readAll read rest).map (b :: ·)

/-- The native datum of a value, if the value has the shape. -/
def read? : (shape : Shape) → WireValue → Option shape.Native
  | .value, v => some v
  | .bool, .boolean b => some b
  | .integer, .integer n => some n
  | .double, .double x => some x
  | .double, .integer n => some (Double.ofInt n.toInt)
  | .string, .string s => some s
  | .timestamp, .timestamp t => some t
  | .geoPoint, .geoPoint p => some p
  | .blob, .bytes b => some b
  | .reference, .reference path => (DocumentReference.ofResourceName path).toOption
  | .list item, .array items => readAll item.read? items
  | .optional _, .null => some none
  | .optional item, v => (item.read? v).map some
  | .dictionary item, .map entries =>
    readAll (fun (key, v) => (item.read? v).map fun a => (key, a)) entries
  | _, _ => none

/-- The document of a native datum: a blob is its bytes, and a missing datum is null. -/
def toDocument : (shape : Shape) → shape.Native → Json
  | .value, v => v.toDocument
  | .bool, b => .bool b
  | .integer, n => .ofInt64 n
  | .double, x => x.toDocument
  | .string, s => .string s
  | .timestamp, t => t.toDocument
  | .geoPoint, p => p.toDocument
  | .blob, b => .array (b.map fun byte => .ofNat byte.toNat)
  | .reference, d => d.toDocument
  | .list item, items => .array (items.map item.toDocument)
  | .optional item, datum => .ofOption item.toDocument datum
  | .dictionary item, entries => .object (Dictionary.mapValues item.toDocument entries)

end Shape

end DocumentQuery
