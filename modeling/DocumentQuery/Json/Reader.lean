import DocumentQuery.Json.Basic
import DocumentQuery.Json.Text
import DocumentQuery.Number.Scaled

/-!
Reading documents from texts. The tree of a text has three limits to keep to: containers nest to a
bounded depth, strings hold whole characters only, and a number that is too large for a double is no
number. An outline tells which members of records are read. The others are passed over, whatever
they hold, and so they need not keep to the limits.
-/

namespace DocumentQuery

/-- The parts of a kind of documents, as states: the part that a member or an item of a part is.
There is none for a member that is passed over. -/
structure Outline (State : Type) where
  member : State → String → Option State
  item : State → Nat → State

/-- The outline of documents that are read as a whole. -/
def Outline.whole : Outline Unit := ⟨fun _ _ => some (), fun _ _ => ()⟩

/-- The whole number that digits write, if it has 64 bits. Minus zero is none, because it is not
the whole number zero. -/
def WholeNumber.ofDigits? (negative : Bool) (digits : List Char) : Option WholeNumber :=
  let n : Int := if negative then -(digitsValue digits : Int) else digitsValue digits
  if h : ¬(negative = true ∧ n = 0) ∧ FitsWord n then some ⟨n, h.2⟩ else none

/-- The number that is written: whole if it has neither point nor exponent and has 64 bits. -/
def NumberText.read? (n : NumberText) : Option Json :=
  let whole :=
    if n.places.isEmpty && n.exponent.isNone then WholeNumber.ofDigits? n.negative n.digits
    else none
  match whole with
  | some n => some (.whole n)
  | none =>
    (FiniteDouble.ofDecimal? n.negative n.digits n.places (n.exponent.getD 0)).map .fractional

namespace JsonText

variable {State : Type}

mutual

/-- The document of a tree that is the given part of an outline, with `depth` levels of nesting
left. -/
def read? (outline : Outline State) : JsonText → Nat → State → Option Json
  | .null, _, _ => some .null
  | .bool b, _, _ => some (.bool b)
  | .number n, _, _ => n.read?
  | .string pieces, _, _ => (Quoted.joinPieces? pieces).map fun s => .string (String.ofList s)
  | .array _, 0, _ => none
  | .array items, depth + 1, part => (readItems? outline items depth part 0).map .array
  | .object _, 0, _ => none
  | .object members, depth + 1, part => (readMembers? outline members depth part).map .object

/-- The documents of the items from the given index on. -/
def readItems? (outline : Outline State) :
    List JsonText → Nat → State → Nat → Option (List Json)
  | [], _, _, _ => some []
  | item :: rest, depth, part, index =>
    match item.read? outline depth (outline.item part index) with
    | none => none
    | some v => (readItems? outline rest depth part (index + 1)).map (v :: ·)

/-- The members that are not passed over, with their documents. -/
def readMembers? (outline : Outline State) :
    List (List Quoted.Piece × JsonText) → Nat → State → Option (List (String × Json))
  | [], _, _ => some []
  | (key, member) :: rest, depth, part =>
    match Quoted.joinPieces? key with
    | none => none
    | some key =>
      match outline.member part (String.ofList key) with
      | none => readMembers? outline rest depth part
      | some memberPart =>
        match member.read? outline depth memberPart with
        | none => none
        | some v =>
          (readMembers? outline rest depth part).map ((String.ofList key, v) :: ·)

end

end JsonText

namespace Json

/-- The levels of arrays and objects that may be nested in a document. -/
def depthLimit : Nat := 127

/-- The document that a text is, as the given part of an outline. -/
def ofTextAs? {State : Type} (outline : Outline State) (part : State) (text : String) :
    Option Json := do
  (← JsonText.ofText? text).read? outline depthLimit part

/-- The document that a text is. -/
def ofText? : String → Option Json := ofTextAs? .whole ()

end Json

end DocumentQuery
