/-!
The operators of expressions, by the operands they take. Each operator has one name on the wire, and
those that always give a boolean are told apart from the rest.
-/

namespace DocumentQuery

/-- Boolean operators on two operands. -/
inductive Comparison where
  | equal
  | notEqual
  | greaterThan
  | greaterThanOrEqual
  | lessThan
  | lessThanOrEqual
  | arrayContains
  | startsWith
  | endsWith
  | stringContains
  | like
  | regexContains
  | regexMatch
  deriving DecidableEq, Repr

namespace Comparison

def name : Comparison → String
  | .equal => "equal"
  | .notEqual => "not_equal"
  | .greaterThan => "greater_than"
  | .greaterThanOrEqual => "greater_than_or_equal"
  | .lessThan => "less_than"
  | .lessThanOrEqual => "less_than_or_equal"
  | .arrayContains => "array_contains"
  | .startsWith => "starts_with"
  | .endsWith => "ends_with"
  | .stringContains => "string_contains"
  | .like => "like"
  | .regexContains => "regex_contains"
  | .regexMatch => "regex_match"

def all : List Comparison :=
  [.equal, .notEqual, .greaterThan, .greaterThanOrEqual, .lessThan, .lessThanOrEqual,
    .arrayContains, .startsWith, .endsWith, .stringContains, .like, .regexContains, .regexMatch]

end Comparison

/-- Boolean operators on one operand. -/
inductive Predicate where
  | present
  | isNan
  | isNull
  deriving DecidableEq, Repr

namespace Predicate

def name : Predicate → String
  | .present => "exists"
  | .isNan => "is_nan"
  | .isNull => "is_null"

def all : List Predicate := [.present, .isNan, .isNull]

end Predicate

/-- Boolean operators on an operand and a list of candidates. -/
inductive Membership where
  | eqAny
  | arrayContainsAll
  | arrayContainsAny
  deriving DecidableEq, Repr

namespace Membership

def name : Membership → String
  | .eqAny => "eq_any"
  | .arrayContainsAll => "array_contains_all"
  | .arrayContainsAny => "array_contains_any"

def all : List Membership := [.eqAny, .arrayContainsAll, .arrayContainsAny]

end Membership

/-- Boolean operators on one or more conditions. -/
inductive Connective where
  | and
  | or
  | xor
  deriving DecidableEq, Repr

namespace Connective

def name : Connective → String
  | .and => "and"
  | .or => "or"
  | .xor => "xor"

def all : List Connective := [.and, .or, .xor]

end Connective

/-- Operators on one operand. -/
inductive UnaryOperator where
  | arrayLength
  | arrayReverse
  | charLength
  | toLower
  | toUpper
  | trim
  | reverse
  | vectorLength
  | unixSecondsToTimestamp
  | timestampToUnixSeconds
  deriving DecidableEq, Repr

namespace UnaryOperator

def name : UnaryOperator → String
  | .arrayLength => "array_length"
  | .arrayReverse => "array_reverse"
  | .charLength => "char_length"
  | .toLower => "to_lower"
  | .toUpper => "to_upper"
  | .trim => "trim"
  | .reverse => "reverse"
  | .vectorLength => "vector_length"
  | .unixSecondsToTimestamp => "unix_seconds_to_timestamp"
  | .timestampToUnixSeconds => "timestamp_to_unix_seconds"

def all : List UnaryOperator :=
  [.arrayLength, .arrayReverse, .charLength, .toLower, .toUpper, .trim, .reverse, .vectorLength,
    .unixSecondsToTimestamp, .timestampToUnixSeconds]

end UnaryOperator

/-- Operators on two operands. -/
inductive BinaryOperator where
  | add
  | subtract
  | multiply
  | divide
  | modulo
  | logicalMaximum
  | logicalMinimum
  | cosineDistance
  | dotProduct
  | euclideanDistance
  deriving DecidableEq, Repr

namespace BinaryOperator

def name : BinaryOperator → String
  | .add => "add"
  | .subtract => "subtract"
  | .multiply => "multiply"
  | .divide => "divide"
  | .modulo => "mod"
  | .logicalMaximum => "logical_maximum"
  | .logicalMinimum => "logical_minimum"
  | .cosineDistance => "cosine_distance"
  | .dotProduct => "dot_product"
  | .euclideanDistance => "euclidean_distance"

def all : List BinaryOperator :=
  [.add, .subtract, .multiply, .divide, .modulo, .logicalMaximum, .logicalMinimum,
    .cosineDistance, .dotProduct, .euclideanDistance]

end BinaryOperator

/-- Operators on one or more operands of one type. -/
inductive Concatenation where
  | arrayConcat
  | stringConcat
  deriving DecidableEq, Repr

namespace Concatenation

def name : Concatenation → String
  | .arrayConcat => "array_concat"
  | .stringConcat => "string_concat"

def all : List Concatenation := [.arrayConcat, .stringConcat]

end Concatenation

/-- Operators on a timestamp, a unit of time and an amount. -/
inductive TimeShift where
  | timestampAdd
  | timestampSub
  deriving DecidableEq, Repr

namespace TimeShift

def name : TimeShift → String
  | .timestampAdd => "timestamp_add"
  | .timestampSub => "timestamp_sub"

def all : List TimeShift := [.timestampAdd, .timestampSub]

end TimeShift

inductive Operator where
  | comparison (op : Comparison)
  | predicate (op : Predicate)
  | membership (op : Membership)
  | connective (op : Connective)
  | not
  | conditional
  | unary (op : UnaryOperator)
  | binary (op : BinaryOperator)
  | concatenation (op : Concatenation)
  | mapGet
  | timeShift (op : TimeShift)
  | generic (name : String)
  deriving DecidableEq, Repr

namespace Operator

/-- The name on the wire; that of a generic operator is sent as it is. -/
def name : Operator → String
  | .comparison op => op.name
  | .predicate op => op.name
  | .membership op => op.name
  | .connective op => op.name
  | .not => "not"
  | .conditional => "conditional"
  | .unary op => op.name
  | .binary op => op.name
  | .concatenation op => op.name
  | .mapGet => "map_get"
  | .timeShift op => op.name
  | .generic name => name

/-- Whether the operator always gives a boolean. What a generic one gives is not known. -/
def isBoolean : Operator → Bool
  | .comparison _ | .predicate _ | .membership _ | .connective _ | .not => true
  | _ => false

def isGeneric : Operator → Bool
  | .generic _ => true
  | _ => false

/-- Every operator that is not generic. -/
def all : List Operator :=
  Comparison.all.map .comparison ++ Predicate.all.map .predicate ++
    Membership.all.map .membership ++ Connective.all.map .connective ++ [.not, .conditional] ++
    UnaryOperator.all.map .unary ++ BinaryOperator.all.map .binary ++
    Concatenation.all.map .concatenation ++ [.mapGet] ++ TimeShift.all.map .timeShift

/-- The operator of a name; a name that no other operator has makes a generic one. -/
def ofName (name : String) : Operator := (all.find? (·.name = name)).getD (.generic name)

end Operator

end DocumentQuery
