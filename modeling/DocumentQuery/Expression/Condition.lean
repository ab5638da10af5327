import DocumentQuery.Expression.Basic

/-!
Conditions: expressions that may stand where a boolean is required. A condition can evaluate to a
boolean as far as that can be told from its form, or is a generic call that the caller vouches for.
-/

namespace DocumentQuery

structure Condition where
  expr : Expr
  admissible : (expr.isBooleanCapable || expr.isGenericCall) = true

namespace Condition

/-- The condition that an expression is, if it can be one. -/
def ofExpr (e : Expr) : Except BuildError Condition :=
  if h : e.isBooleanCapable = true then .ok ⟨e, by simp [h]⟩
  else .error (.notBoolean e.display)

def ofField (path : String) : Condition := ⟨.field path, rfl⟩

def ofBool (b : Bool) : Condition := ⟨.constant (.boolean b), rfl⟩

/-- A call of an operator that is not known here, taken to give a boolean. -/
def trusted (name : String) (args : List Expr) : Condition := ⟨.call (.generic name) args, rfl⟩

def compare (op : Comparison) (left right : Expr) : Condition :=
  ⟨.call (.comparison op) [left, right], rfl⟩

def test (op : Predicate) (operand : Expr) : Condition := ⟨.call (.predicate op) [operand], rfl⟩

def member (op : Membership) (operand : Expr) (candidates : List Expr) : Condition :=
  ⟨.call (.membership op) [operand, .list candidates], rfl⟩

/-- One condition of several, in one call whatever their number. -/
def combine (op : Connective) (first : Condition) (rest : List Condition) : Condition :=
  ⟨.call (.connective op) (first.expr :: rest.map (·.expr)), rfl⟩

def negate (c : Condition) : Condition := ⟨.call .not [c.expr], rfl⟩

/-- The field is present in the row, even if it is null. -/
def present (operand : Expr) : Condition := test .present operand

def isNotNan (operand : Expr) : Condition := (test .isNan operand).negate

def isNotNull (operand : Expr) : Condition := (test .isNull operand).negate

/-- The operand equals none of the candidates. -/
def notEqAny (operand : Expr) (candidates : List Expr) : Condition :=
  (member .eqAny operand candidates).negate

def numEq (c d : Condition) : Bool := c.expr.numEq d.expr

end Condition

namespace Expr

def unary (op : UnaryOperator) (operand : Expr) : Expr := .call (.unary op) [operand]

def binary (op : BinaryOperator) (left right : Expr) : Expr := .call (.binary op) [left, right]

def concat (op : Concatenation) (first : Expr) (rest : List Expr) : Expr :=
  .call (.concatenation op) (first :: rest)

/-- The value under a key of a map. -/
def mapGet (map : Expr) (key : String) : Expr :=
  .call .mapGet [map, .constant (.string key)]

/-- A timestamp moved by an amount of a unit of time. -/
def shift (op : TimeShift) (timestamp unit amount : Expr) : Expr :=
  .call (.timeShift op) [timestamp, unit, amount]

/-- One of two expressions, by a condition. -/
def choose (condition : Condition) (holds otherwise : Expr) : Expr :=
  .call .conditional [condition.expr, holds, otherwise]

/-- A call of an operator that is not known here. -/
def generic (name : String) (args : List Expr) : Expr := .call (.generic name) args

end Expr

namespace Accumulator

def sum (operand : Expr) : Accumulator := ⟨.sum, some operand, false⟩

def average (operand : Expr) : Accumulator := ⟨.average, some operand, false⟩

/-- Counts the rows in which the operand is present and not null. -/
def count (operand : Expr) : Accumulator := ⟨.count, some operand, false⟩

/-- Counts the rows. -/
def countAll : Accumulator := ⟨.count, none, false⟩

/-- Counts the rows in which a condition holds. -/
def countIf (condition : Condition) : Accumulator := ⟨.countIf, some condition.expr, false⟩

def minimum (operand : Expr) : Accumulator := ⟨.minimum, some operand, false⟩

def maximum (operand : Expr) : Accumulator := ⟨.maximum, some operand, false⟩

/-- Whether only distinct inputs are considered. -/
def withDistinct (a : Accumulator) (distinct : Bool) : Accumulator := { a with distinct }

end Accumulator

end DocumentQuery
