import DocumentQuery.Number.Nearest
import DocumentQuery.Dictionary

/-!
JSON documents as data. Whole numbers within 64 bits are kept exact and apart from fractional ones;
every other number is a finite double. An object keeps its members in the order of the text,
repeated keys included; `Json.normalize` gives the reading in which the last of them counts and the
order does not.
-/

namespace DocumentQuery

/-- Whether a number has 64 bits, signed or unsigned. -/
abbrev FitsWord (n : Int) : Prop := -9223372036854775808 ≤ n ∧ n < 18446744073709551616

/-- The whole numbers that documents keep exact. -/
structure WholeNumber where
  value : Int
  inRange : FitsWord value
  deriving DecidableEq

inductive Json where
  | null
  | bool (b : Bool)
  | whole (n : WholeNumber)
  | fractional (x : FiniteDouble)
  | string (s : String)
  | array (items : List Json)
  | object (members : List (String × Json))
  deriving Inhabited

namespace WholeNumber

def ofInt64 (n : Int64) : WholeNumber :=
  ⟨n.toInt, by have := n.le_toInt; have := n.toInt_lt; omega⟩

/-- The number as a signed 64-bit integer, if it is one. -/
def toInt64? (n : WholeNumber) : Option Int64 :=
  if n.value < 9223372036854775808 then some (Int64.ofInt n.value) else none

end WholeNumber

namespace Json

/-- An integer as a document holds it: exact within 64 bits, the nearest double beyond. -/
def ofInt (n : Int) : Json :=
  if h : FitsWord n then .whole ⟨n, h⟩
  else match Double.ofInt n with
    | .finite x => .fractional x
    | _ => .null

def ofNat (n : Nat) : Json := ofInt n

def ofInt64 (n : Int64) : Json := .whole (.ofInt64 n)

/-- `null` for a missing value. -/
def ofOption {α : Type} (toJson : α → Json) : Option α → Json
  | none => .null
  | some a => toJson a

/-- The value under a key, the last one if the key is repeated. -/
def member? (key : String) : Json → Option Json
  | .object members => (members.reverse.find? (·.1 = key)).map (·.2)
  | _ => none

mutual

/-- The document with the members of every object in the order of their keys, the last of several
members with one key being kept. -/
def normalize : Json → Json
  | .array items => .array (normalizeItems items)
  | .object members => .object (normalizeMembers members)
  | scalar => scalar

def normalizeItems : List Json → List Json
  | [] => []
  | item :: rest => item.normalize :: normalizeItems rest

def normalizeMembers : List (String × Json) → Dictionary Json
  | [] => []
  | (key, value) :: rest => Dictionary.insertNew key value.normalize (normalizeMembers rest)

end

end Json

end DocumentQuery
