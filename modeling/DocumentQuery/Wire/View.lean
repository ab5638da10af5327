import DocumentQuery.Wire.Document

/-!
The plain view of a value: the document that a reader expects who does not care for the kinds. It
loses the kinds of texts and of calls. Going the other way, a plain document is a value unless it
holds an integer that no value can.
-/

namespace DocumentQuery

mutual

/-- The plain view of a value; the members of its objects are in the order of their keys. -/
def WireValue.view : WireValue → Json
  | .null => .null
  | .boolean b => .bool b
  | .integer n => .ofInt64 n
  | .double x => x.toDocument
  | .timestamp t => t.toDocument
  | .string s => .string s
  | .bytes b => Blob.toDocument b
  | .reference path => .string path
  | .geoPoint p => p.toDocument
  | .array items => .array (WireValue.viewItems items)
  | .map entries => .object (WireValue.viewEntries entries)
  | .fieldReference path => .object [("field", .string path)]
  | .function name args =>
    .object [("args", .array (WireValue.viewItems args)), ("function", .string name)]
  | .pipeline stages => (Json.array (WireStage.documents stages)).normalize

def WireValue.viewItems : List WireValue → List Json
  | [] => []
  | v :: rest => v.view :: WireValue.viewItems rest

def WireValue.viewEntries : List (String × WireValue) → List (String × Json)
  | [] => []
  | (key, v) :: rest => (key, v.view) :: WireValue.viewEntries rest

end

/-- A whole number as a value: an integer, if it is a signed one of 64 bits. -/
def WholeNumber.toValue (n : WholeNumber) : Except BuildError WireValue :=
  match n.toInt64? with
  | some i => .ok (.integer i)
  | none => .error (.tooLarge n.value)

mutual

/-- The value with the given plain view, objects being read member by member. The first integer
that is too large is reported. -/
def WireValue.ofPlain : Json → Except BuildError WireValue
  | .null => .ok .null
  | .bool b => .ok (.boolean b)
  | .whole n => n.toValue
  | .fractional x => .ok (.double (.finite x))
  | .string s => .ok (.string s)
  | .array items => (WireValue.ofPlainItems items).map .array
  | .object members => (WireValue.ofPlainMembers members).map .map

def WireValue.ofPlainItems : List Json → Except BuildError (List WireValue)
  | [] => .ok []
  | item :: rest =>
    match WireValue.ofPlain item with
    | .error e => .error e
    | .ok v => (WireValue.ofPlainItems rest).map (v :: ·)

def WireValue.ofPlainMembers : List (String × Json) → Except BuildError (List (String × WireValue))
  | [] => .ok []
  | (key, member) :: rest =>
    match WireValue.ofPlain member with
    | .error e => .error e
    | .ok v => (WireValue.ofPlainMembers rest).map (Dictionary.insertNew key v)

end

/-- The value of a plain document, whose objects are taken as maps: in the order of their keys and
with the last of several members that have one key. -/
def WireValue.ofJson (document : Json) : Except BuildError WireValue :=
  WireValue.ofPlain document.normalize

end DocumentQuery
