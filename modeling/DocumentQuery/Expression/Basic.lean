import DocumentQuery.Expression.Operator
import DocumentQuery.Path
import DocumentQuery.Wire.Equality
import DocumentQuery.Wire.View

/-!
Expressions over the fields of a row: constants, field references, lists, operator calls, and
accumulators, which have a meaning in aggregations only. An expression has a display form for
messages and a value on the wire.
-/

namespace DocumentQuery

/-- The path that stands for the name of the row's document. -/
def documentIdPath : String := "__name__"

/-- How an accumulator reduces many rows to one value. -/
inductive Reduction where
  | sum
  | average
  | count
  | countIf
  | minimum
  | maximum
  deriving DecidableEq, Repr

namespace Reduction

def name : Reduction → String
  | .sum => "sum"
  | .average => "average"
  | .count => "count"
  | .countIf => "count_if"
  | .minimum => "minimum"
  | .maximum => "maximum"

/-- The name on the wire, which tells whether only distinct inputs count. -/
def wireName (kind : Reduction) (distinct : Bool) : String :=
  if distinct then kind.name ++ "_distinct" else kind.name

end Reduction

inductive Expr where
  | constant (v : WireValue)
  | field (path : String)
  | list (items : List Expr)
  | call (op : Operator) (args : List Expr)
  | aggregate (kind : Reduction) (distinct : Bool) (arg : Option Expr)

instance : Inhabited Expr := ⟨.list []⟩

/-- A reduction of many rows to one value, of the values of its argument or of the rows. -/
structure Accumulator where
  kind : Reduction
  arg : Option Expr
  distinct : Bool := false

namespace Accumulator

def name (a : Accumulator) : String := a.kind.wireName a.distinct

def toExpr (a : Accumulator) : Expr := .aggregate a.kind a.distinct a.arg

end Accumulator

namespace Expr

/-- The text of a list with a comma and a blank between the items. -/
def commaSeparated (items : List String) : String := ", ".intercalate items

mutual

def display : Expr → String
  | .constant v => v.view.toText
  | .field path => path
  | .list items => "[" ++ commaSeparated (displays items) ++ "]"
  | .call op args => op.name ++ "(" ++ commaSeparated (displays args) ++ ")"
  | .aggregate kind distinct _ => kind.wireName distinct ++ "(..)"

def displays : List Expr → List String
  | [] => []
  | e :: rest => e.display :: displays rest

end

mutual

/-- The value of an expression on the wire: constants as they are, field references, arrays for
lists, and calls for operators and accumulators. -/
def toWire : Expr → WireValue
  | .constant v => v
  | .field path => .fieldReference path
  | .list items => .array (toWires items)
  | .call op args => .function op.name (toWires args)
  | .aggregate kind distinct none => .function (kind.wireName distinct) []
  | .aggregate kind distinct (some arg) => .function (kind.wireName distinct) [arg.toWire]

def toWires : List Expr → List WireValue
  | [] => []
  | e :: rest => e.toWire :: toWires rest

end

mutual

/-- Equality of expressions, their doubles being compared as numbers. -/
def numEq : Expr → Expr → Bool
  | .constant a, .constant b => a.numEq b
  | .field a, .field b => a == b
  | .list a, .list b => itemsNumEq a b
  | .call f a, .call g b => f == g && itemsNumEq a b
  | .aggregate k d none, .aggregate l e none => k == l && d == e
  | .aggregate k d (some a), .aggregate l e (some b) => k == l && d == e && a.numEq b
  | _, _ => false

def itemsNumEq : List Expr → List Expr → Bool
  | [], [] => true
  | a :: as, b :: bs => a.numEq b && itemsNumEq as bs
  | _, _ => false

end

/-- Equality of dictionaries of expressions. -/
def entriesNumEq : Dictionary Expr → Dictionary Expr → Bool
  | [], [] => true
  | (k, a) :: as, (l, b) :: bs => k == l && a.numEq b && entriesNumEq as bs
  | _, _ => false

/-- Whether an expression can stand as a condition: a field can, because it may hold a boolean. -/
def isBooleanCapable : Expr → Bool
  | .constant (.boolean _) => true
  | .field _ => true
  | .call op _ => op.isBoolean
  | _ => false

/-- Whether an expression is a call of a generic operator. -/
def isGenericCall : Expr → Bool
  | .call op _ => op.isGeneric
  | _ => false

def documentId : Expr := .field documentIdPath

/-- A constant vector of doubles. -/
def vector (values : List Double) : Expr := .constant (.array (values.map .double))

end Expr

/-- The segments of a field path, between its dots. -/
def fieldSegments (path : String) : List String :=
  (path.toList.splitOn '.').map String.ofList

end DocumentQuery
