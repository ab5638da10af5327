import DocumentQuery.Number.Layout
import DocumentQuery.Text.Quoted

/-!
The grammar of documents: the tree of a text, in which numbers and strings are still as they are
written. Every text of the grammar has one, also if its numbers are too large or its strings are not
made of characters.
-/

namespace DocumentQuery

/-- A number as it is written; without a point it has no places. -/
structure NumberText where
  negative : Bool
  digits : List Char
  places : List Char
  exponent : Option Int
  deriving DecidableEq

inductive JsonText where
  | null
  | bool (b : Bool)
  | number (n : NumberText)
  | string (pieces : List Quoted.Piece)
  | array (items : List JsonText)
  | object (members : List (List Quoted.Piece × JsonText))

namespace JsonText

/-- The blanks that may stand between the tokens of a document. -/
def isBlank (c : Char) : Bool := c = ' ' || c = '\n' || c = '\t' || c = '\r'

def skipBlank (text : List Char) : List Char := text.dropWhile isBlank

/-- The digits after a point, if there is one; a point needs at least one digit. -/
def readPlaces : List Char → Option (List Char × List Char)
  | '.' :: rest =>
    let digits := rest.takeWhile Char.isDigit
    if digits.isEmpty then none else some (digits, rest.dropWhile Char.isDigit)
  | rest => some ([], rest)

/-- The signed exponent after `e`, if there is one. -/
def readExponent : List Char → Option (Option Int × List Char)
  | c :: rest =>
    if c = 'e' ∨ c = 'E' then
      let (negative, rest) := match rest with
        | '-' :: rest => (true, rest)
        | '+' :: rest => (false, rest)
        | rest => (false, rest)
      let digits := rest.takeWhile Char.isDigit
      if digits.isEmpty then none
      else
        let n : Int := digitsValue digits
        some (some (if negative then -n else n), rest.dropWhile Char.isDigit)
    else some (none, c :: rest)
  | [] => some (none, [])

/-- Reads a number after its sign; only zero itself starts with the digit 0. -/
def readNumber (negative : Bool) (text : List Char) : Option (JsonText × List Char) := do
  let digits := text.takeWhile Char.isDigit
  if digits.isEmpty ∨ (digits.head? = some '0' ∧ digits.length ≠ 1) then none
  else
    let (places, rest) ← readPlaces (text.dropWhile Char.isDigit)
    let (exponent, rest) ← readExponent rest
    return (.number { negative, digits, places, exponent }, rest)

mutual

/-- Reads the tree of a value. One unit of fuel is spent on every value and every separator. -/
def readValue : Nat → List Char → Option (JsonText × List Char)
  | 0, _ => none
  | fuel + 1, text =>
    match text with
    | 'n' :: 'u' :: 'l' :: 'l' :: rest => some (.null, rest)
    | 't' :: 'r' :: 'u' :: 'e' :: rest => some (.bool true, rest)
    | 'f' :: 'a' :: 'l' :: 's' :: 'e' :: rest => some (.bool false, rest)
    | '"' :: rest => (Quoted.readPieces rest).map fun (s, rest) => (.string s, rest)
    | '[' :: rest =>
      match skipBlank rest with
      | ']' :: rest => some (.array [], rest)
      | rest => (readItems fuel rest).map fun (items, rest) => (.array items, rest)
    | '{' :: rest =>
      match skipBlank rest with
      | '}' :: rest => some (.object [], rest)
      | rest => (readMembers fuel rest).map fun (members, rest) => (.object members, rest)
    | '-' :: rest => readNumber true rest
    | rest => readNumber false rest

/-- Reads one or more items and the closing bracket. -/
def readItems : Nat → List Char → Option (List JsonText × List Char)
  | 0, _ => none
  | fuel + 1, text =>
    match readValue fuel (skipBlank text) with
    | none => none
    | some (item, rest) =>
      match skipBlank rest with
      | ']' :: rest => some ([item], rest)
      | ',' :: rest => (readItems fuel rest).map fun (items, rest) => (item :: items, rest)
      | _ => none

/-- Reads one or more members and the closing brace. -/
def readMembers : Nat → List Char → Option (List (List Quoted.Piece × JsonText) × List Char)
  | 0, _ => none
  | fuel + 1, text =>
    match skipBlank text with
    | '"' :: rest =>
      match Quoted.readPieces rest with
      | none => none
      | some (key, rest) =>
        match skipBlank rest with
        | ':' :: rest =>
          match readValue fuel (skipBlank rest) with
          | none => none
          | some (value, rest) =>
            match skipBlank rest with
            | '}' :: rest => some ([(key, value)], rest)
            | ',' :: rest =>
              (readMembers fuel rest).map fun (members, rest) => ((key, value) :: members, rest)
            | _ => none
        | _ => none
    | _ => none

end

/-- The tree of a text, blanks around it aside. A text of `n` characters needs at most `2 n + 2`
units of fuel. -/
def ofText? (text : String) : Option JsonText :=
  match readValue (2 * text.length + 2) (skipBlank text.toList) with
  | some (value, rest) => if (skipBlank rest).isEmpty then some value else none
  | none => none

end JsonText

end DocumentQuery
