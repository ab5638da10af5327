import DocumentQuery.Wire.Value
import DocumentQuery.Json.Basic

/-!
Equality of values as callers see it: doubles are compared as numbers, so the two zeros are equal
and a value that holds NaN does not even equal itself. Plain documents are compared in the same way.
-/

namespace DocumentQuery

def GeoPoint.numEq (p q : GeoPoint) : Bool :=
  p.latitude.numEq q.latitude && p.longitude.numEq q.longitude

mutual

def WireValue.numEq : WireValue → WireValue → Bool
  | .null, .null => true
  | .boolean a, .boolean b => a == b
  | .integer a, .integer b => a == b
  | .double a, .double b => a.numEq b
  | .timestamp a, .timestamp b => a == b
  | .string a, .string b => a == b
  | .bytes a, .bytes b => a == b
  | .reference a, .reference b => a == b
  | .geoPoint a, .geoPoint b => a.numEq b
  | .array a, .array b => WireValue.itemsNumEq a b
  | .map a, .map b => WireValue.entriesNumEq a b
  | .fieldReference a, .fieldReference b => a == b
  | .function f a, .function g b => f == g && WireValue.itemsNumEq a b
  | .pipeline a, .pipeline b => WireStage.itemsNumEq a b
  | _, _ => false

def WireValue.itemsNumEq : List WireValue → List WireValue → Bool
  | [], [] => true
  | a :: as, b :: bs => a.numEq b && WireValue.itemsNumEq as bs
  | _, _ => false

def WireValue.entriesNumEq : List (String × WireValue) → List (String × WireValue) → Bool
  | [], [] => true
  | (k, a) :: as, (l, b) :: bs => k == l && a.numEq b && WireValue.entriesNumEq as bs
  | _, _ => false

def WireStage.numEq : WireStage → WireStage → Bool
  | ⟨f, a, o⟩, ⟨g, b, p⟩ =>
    f == g && WireValue.itemsNumEq a b && WireValue.entriesNumEq o p

def WireStage.itemsNumEq : List WireStage → List WireStage → Bool
  | [], [] => true
  | a :: as, b :: bs => a.numEq b && WireStage.itemsNumEq as bs
  | _, _ => false

end

mutual

/-- Equality of plain documents whose objects are in the order of their keys. -/
def Json.numEq : Json → Json → Bool
  | .null, .null => true
  | .bool a, .bool b => a == b
  | .whole a, .whole b => a == b
  | .fractional a, .fractional b => a.units == b.units
  | .string a, .string b => a == b
  | .array a, .array b => Json.itemsNumEq a b
  | .object a, .object b => Json.membersNumEq a b
  | _, _ => false

def Json.itemsNumEq : List Json → List Json → Bool
  | [], [] => true
  | a :: as, b :: bs => a.numEq b && Json.itemsNumEq as bs
  | _, _ => false

def Json.membersNumEq : List (String × Json) → List (String × Json) → Bool
  | [], [] => true
  | (k, a) :: as, (l, b) :: bs => k == l && a.numEq b && Json.membersNumEq as bs
  | _, _ => false

end

end DocumentQuery
