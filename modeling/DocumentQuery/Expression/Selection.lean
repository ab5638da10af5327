import DocumentQuery.Expression.Basic

/-!
Output columns: what a projection selects, and the dictionary of expressions by output name that it
resolves to. Every name must be non-empty and may be produced once. Also the keys that rows are
sorted by.
-/

namespace DocumentQuery

/-- An accumulator with the name of its output column. -/
structure AggregateTarget where
  accumulator : Accumulator
  output : String

inductive Selection where
  | field (path : String)
  | fields (paths : List String)
  | aliased (expr : Expr) (output : String)
  | aggregate (target : AggregateTarget)

namespace Selection

/-- The columns of a selection, in order. -/
def columns : Selection → List (String × Expr)
  | .field path => [(path, .field path)]
  | .fields paths => paths.map fun path => (path, .field path)
  | .aliased expr output => [(output, expr)]
  | .aggregate target => [(target.output, target.accumulator.toExpr)]

/-- Adds columns to a dictionary; the first one whose name is empty or taken is refused. -/
def resolveColumns (resolved : Dictionary Expr) :
    List (String × Expr) → Except BuildError (Dictionary Expr)
  | [] => .ok resolved
  | (name, expr) :: rest =>
    if name = "" then .error (.argument .emptyOutputName)
    else if resolved.contains name then .error (.duplicate name)
    else resolveColumns (resolved.insert name expr) rest

/-- The expressions of all columns by output name. -/
def resolve (items : List Selection) : Except BuildError (Dictionary Expr) :=
  resolveColumns [] (items.flatMap columns)

end Selection

inductive Direction where
  | ascending
  | descending
  deriving DecidableEq, Repr

namespace Direction

def name : Direction → String
  | .ascending => "ascending"
  | .descending => "descending"

def reversed : Direction → Direction
  | .ascending => .descending
  | .descending => .ascending

end Direction

/-- An expression that rows are sorted by, and the direction. -/
structure SortKey where
  expr : Expr
  direction : Direction

namespace SortKey

def reversed (key : SortKey) : SortKey := { key with direction := key.direction.reversed }

def toWire (key : SortKey) : WireValue :=
  .map [("direction", .string key.direction.name), ("expression", key.expr.toWire)]

def numEq (a b : SortKey) : Bool := a.direction == b.direction && a.expr.numEq b.expr

end SortKey

end DocumentQuery
