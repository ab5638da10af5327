import DocumentQuery.Json.Basic
import DocumentQuery.Number.Layout
import DocumentQuery.Text.Quoted

/-!
The compact text of a document: no blanks, members in the order they have in the object. Every
writer puts its text before a given rest, so that reading can be stated for a document followed by
anything.
-/

namespace DocumentQuery.Json

mutual

def write : Json → List Char → List Char
  | .null, rest => 'n' :: 'u' :: 'l' :: 'l' :: rest
  | .bool true, rest => 't' :: 'r' :: 'u' :: 'e' :: rest
  | .bool false, rest => 'f' :: 'a' :: 'l' :: 's' :: 'e' :: rest
  | .whole n, rest => integerDigits n.value ++ rest
  | .fractional x, rest => x.documentText ++ rest
  | .string s, rest => Quoted.write s rest
  | .array [], rest => '[' :: ']' :: rest
  | .array (item :: items), rest => '[' :: item.write (writeItems items rest)
  | .object [], rest => '{' :: '}' :: rest
  | .object ((key, value) :: members), rest =>
    '{' :: Quoted.write key (':' :: value.write (writeMembers members rest))

/-- The items after the first, and the closing bracket. -/
def writeItems : List Json → List Char → List Char
  | [], rest => ']' :: rest
  | item :: items, rest => ',' :: item.write (writeItems items rest)

/-- The members after the first, and the closing brace. -/
def writeMembers : List (String × Json) → List Char → List Char
  | [], rest => '}' :: rest
  | (key, value) :: members, rest =>
    ',' :: Quoted.write key (':' :: value.write (writeMembers members rest))

end

/-- The compact text of a document. -/
def toText (v : Json) : String := String.ofList (v.write [])

end DocumentQuery.Json
