import DocumentQuery.Pipeline.Build

/-!
Structured queries: a filter tree, orderings, an offset, a limit and aggregations over one
collection. A query is answered by a pipeline that makes its implicit rules explicit: a field that
is compared, ordered by or aggregated has to exist, and ties are broken by document name. What has
no counterpart in a pipeline is refused.
-/

namespace DocumentQuery

inductive QuerySource where
  | collection (path : String)
  | collectionGroup (id : String)
  deriving DecidableEq

/-- Comparisons of a field with a value. -/
inductive FieldFilter where
  | unspecified
  | lessThan
  | lessThanOrEqual
  | greaterThan
  | greaterThanOrEqual
  | equal
  | notEqual
  | arrayContains
  | isIn
  | arrayContainsAny
  | notIn
  deriving DecidableEq, Repr

def FieldFilter.ofName? : String → Option FieldFilter
  | "unspecified" => some .unspecified
  | "less_than" => some .lessThan
  | "less_than_or_equal" => some .lessThanOrEqual
  | "greater_than" => some .greaterThan
  | "greater_than_or_equal" => some .greaterThanOrEqual
  | "equal" => some .equal
  | "not_equal" => some .notEqual
  | "array_contains" => some .arrayContains
  | "in" => some .isIn
  | "array_contains_any" => some .arrayContainsAny
  | "not_in" => some .notIn
  | _ => none

/-- Tests of a field alone. -/
inductive UnaryFilter where
  | unspecified
  | isNan
  | isNull
  | isNotNan
  | isNotNull
  deriving DecidableEq, Repr

def UnaryFilter.ofName? : String → Option UnaryFilter
  | "unspecified" => some .unspecified
  | "is_nan" => some .isNan
  | "is_null" => some .isNull
  | "is_not_nan" => some .isNotNan
  | "is_not_null" => some .isNotNull
  | _ => none

inductive CompositeFilter where
  | unspecified
  | and
  | or
  deriving DecidableEq, Repr

def CompositeFilter.ofName? : String → Option CompositeFilter
  | "unspecified" => some .unspecified
  | "and" => some .and
  | "or" => some .or
  | _ => none

/-- How messages name a way of combining filters. -/
def CompositeFilter.label : CompositeFilter → String
  | .unspecified => "Unspecified"
  | .and => "And"
  | .or => "Or"

inductive QueryFilter where
  | field (path : String) (op : FieldFilter) (value : WireValue)
  | unary (path : String) (op : UnaryFilter)
  | composite (op : CompositeFilter) (filters : List QueryFilter)

structure QueryOrder where
  field : String
  direction : Direction
  deriving DecidableEq

inductive AggregateOperator where
  | sum
  | count
  | average
  | other (name : String)
  deriving DecidableEq

/-- The operator of a name; a name that no operator has is kept. -/
def AggregateOperator.ofName : String → AggregateOperator
  | "sum" => .sum
  | "count" => .count
  | "average" => .average
  | name => .other name

/-- An aggregation; the field of a count may be empty. -/
structure QueryAggregation where
  operator : AggregateOperator
  field : String
  output : String
  deriving DecidableEq

structure StructuredQuery where
  source : QuerySource
  filter : Option QueryFilter := none
  orderBy : List QueryOrder := []
  offset : Option Int64 := none
  limit : Option Int64 := none
  aggregations : List QueryAggregation := []

namespace QueryFilter

/-- The field exists and a condition on it holds. -/
def guarded (path : String) (condition : Condition) : Condition :=
  .combine .and (.present (.field path)) [condition]

/-- The candidates of a membership filter, which has to have an array. -/
def candidates (path : String) : WireValue → Except BuildError (List Expr)
  | .array items => .ok (items.map .constant)
  | _ => .error (.argument (.membershipWithoutArray path))

/-- The condition of a comparison, existence aside. -/
def comparison (path : String) (value : WireValue) : FieldFilter → Except BuildError Condition
  | .lessThan => .ok (.compare .lessThan (.field path) (.constant value))
  | .lessThanOrEqual => .ok (.compare .lessThanOrEqual (.field path) (.constant value))
  | .greaterThan => .ok (.compare .greaterThan (.field path) (.constant value))
  | .greaterThanOrEqual => .ok (.compare .greaterThanOrEqual (.field path) (.constant value))
  | .equal => .ok (.compare .equal (.field path) (.constant value))
  | .notEqual => .ok (Condition.compare .equal (.field path) (.constant value)).negate
  | .arrayContains => .ok (.compare .arrayContains (.field path) (.constant value))
  | .isIn => (candidates path value).map (.member .eqAny (.field path))
  | .arrayContainsAny => (candidates path value).map (.member .arrayContainsAny (.field path))
  | .notIn => (candidates path value).map (.notEqAny (.field path))
  | .unspecified => .error ((BuildError.unsupported "Unspecified").withField path)

/-- The condition of a test, existence aside. -/
def test (path : String) : UnaryFilter → Except BuildError Condition
  | .isNan => .ok (.test .isNan (.field path))
  | .isNull => .ok (.test .isNull (.field path))
  | .isNotNan => .ok (.isNotNan (.field path))
  | .isNotNull => .ok (.isNotNull (.field path))
  | .unspecified => .error ((BuildError.unsupported "Unspecified").withField path)

/-- One condition of several, in the way of a composite filter. -/
def combine (op : CompositeFilter) : List Condition → Except BuildError Condition
  | [] => .error (.unsupported ("empty " ++ op.label ++ " filter"))
  | first :: rest =>
    match op with
    | .and => .ok (.combine .and first rest)
    | .or => .ok (.combine .or first rest)
    | .unspecified => .error (.unsupported op.label)

mutual

/-- The condition of a filter tree, in which every leaf also asks for its field to exist. -/
def toCondition : QueryFilter → Except BuildError Condition
  | .field path op value => (comparison path value op).map (guarded path)
  | .unary path op => (test path op).map (guarded path)
  | .composite op filters =>
    match toConditions filters with
    | .error e => .error e
    | .ok conditions => combine op conditions

def toConditions : List QueryFilter → Except BuildError (List Condition)
  | [] => .ok []
  | filter :: rest =>
    match filter.toCondition with
    | .error e => .error e
    | .ok c => (toConditions rest).map (c :: ·)

end

end QueryFilter

namespace QueryAggregation

def toTarget (a : QueryAggregation) : Except BuildError AggregateTarget :=
  match a.operator with
  | .sum => .ok ⟨.sum (.field a.field), a.output⟩
  | .count => .ok ⟨.countAll, a.output⟩
  | .average => .ok ⟨.average (.field a.field), a.output⟩
  | .other name => .error (.unsupported name)

end QueryAggregation

namespace StructuredQuery

/-- The keys of the query's sort: its orderings, and the document name in the direction of the last
of them unless it is among them. -/
def sortKeys (orderBy : List QueryOrder) : List SortKey :=
  let explicit := orderBy.map fun o => ⟨.field o.field, o.direction⟩
  if orderBy.any (·.field = documentIdPath) then explicit
  else
    let direction := match orderBy.getLast? with
      | some last => last.direction
      | none => .ascending
    explicit ++ [⟨.documentId, direction⟩]

/-- Keeps the rows that have all the given fields; nothing to keep apart if there are none. -/
def requireFields (p : Pipeline) : List String → Pipeline
  | [] => p
  | first :: rest =>
    p.filter (.combine .and (.present (.field first)) (rest.map fun path => .present (.field path)))

/-- Appends the sort, the offset and the limit. -/
def addWindow (q : StructuredQuery) (p : Pipeline) : Except BuildError Pipeline := do
  let p ← p.sort (sortKeys q.orderBy)
  let p ← match q.offset with
    | some n => p.offset n
    | none => .ok p
  match q.limit with
  | some n => p.limit n
  | none => .ok p

/-- Appends the aggregations, if there are any. -/
def addAggregations (aggregations : List QueryAggregation) (p : Pipeline) :
    Except BuildError Pipeline :=
  if aggregations.isEmpty then .ok p
  else do
    let p := requireFields p ((aggregations.map (·.field)).filter (· ≠ ""))
    p.aggregate (← aggregations.mapM QueryAggregation.toTarget)

/-- The pipeline that answers a query. -/
def toPipeline (q : StructuredQuery) : Except BuildError Pipeline := do
  let p ← match q.source with
    | .collection path => Pipeline.collection path
    | .collectionGroup id => Pipeline.collectionGroup id
  let p ← match q.filter with
    | some filter => filter.toCondition.map p.filter
    | none => .ok p
  let p := requireFields p ((q.orderBy.map (·.field)).filter (· ≠ documentIdPath))
  addAggregations q.aggregations (← q.addWindow p)

end StructuredQuery

end DocumentQuery
