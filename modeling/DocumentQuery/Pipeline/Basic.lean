import DocumentQuery.Expression.Condition
import DocumentQuery.Expression.Selection
import DocumentQuery.Text.Visible

/-!
Pipelines: sequences of stages that read rows from storage and transform them. Joins, unions and
generic stages hold pipelines of their own. A pipeline may have a name, which is for display only.
-/

namespace DocumentQuery

/-- How densely sorted output has to be. -/
inductive SortDensity where
  | unspecified
  | required
  deriving DecidableEq, Repr

def SortDensity.name : SortDensity → String
  | .unspecified => "unspecified"
  | .required => "required"

/-- Whether the keys of a sort may be truncated. -/
inductive SortTruncation where
  | unspecified
  | disabled
  deriving DecidableEq, Repr

def SortTruncation.name : SortTruncation → String
  | .unspecified => "unspecified"
  | .disabled => "disabled"

/-- How far apart two vectors are. -/
inductive DistanceMeasure where
  | euclidean
  | cosine
  | dotProduct
  | generic (name : String)
  deriving DecidableEq, Repr

namespace DistanceMeasure

def name : DistanceMeasure → String
  | .euclidean => "euclidean"
  | .cosine => "cosine"
  | .dotProduct => "dot_product"
  | .generic name => name

/-- The measure of a name; a name that no other measure has makes a generic one. -/
def ofName : String → DistanceMeasure
  | "euclidean" => .euclidean
  | "cosine" => .cosine
  | "dot_product" => .dotProduct
  | name => .generic name

end DistanceMeasure

inductive JoinKind where
  | cross
  | inner
  | full
  | left
  | right
  | leftSemi
  | rightSemi
  | leftAntiSemi
  | rightAntiSemi
  deriving DecidableEq, Repr

namespace JoinKind

def name : JoinKind → String
  | .cross => "cross"
  | .inner => "inner"
  | .full => "full"
  | .left => "left"
  | .right => "right"
  | .leftSemi => "left_semi"
  | .rightSemi => "right_semi"
  | .leftAntiSemi => "left_anti_semi"
  | .rightAntiSemi => "right_anti_semi"

def all : List JoinKind :=
  [.cross, .inner, .full, .left, .right, .leftSemi, .rightSemi, .leftAntiSemi, .rightAntiSemi]

/-- Whether the join keeps the columns of one side only. -/
def isSemi : JoinKind → Bool
  | .leftSemi | .rightSemi | .leftAntiSemi | .rightAntiSemi => true
  | _ => false

def stageName (kind : JoinKind) : String := if kind.isSemi then "semi_join" else "join"

end JoinKind

/-- How the rows of a join are matched: by a condition, or by equality of fields of one name. -/
inductive JoinCondition where
  | on (condition : Condition)
  | using (fields : List String)

/-- How a nested value is combined with the row that holds it. -/
inductive MergeMode where
  | fullReplace
  | preferNested
  | preferParent
  deriving DecidableEq, Repr

def MergeMode.name : MergeMode → String
  | .fullReplace => "full_replace"
  | .preferNested => "merge_prefer_nest"
  | .preferParent => "merge_prefer_parent"

/-- The size of a sample: a number of rows, or a percentage of the input. -/
inductive SampleSize where
  | documents (n : Int64)
  | percent (x : Double)

def SampleSize.mode : SampleSize → String
  | .documents _ => "documents"
  | .percent _ => "percent"

mutual

inductive Stage where
  | collection (path : String)
  | collectionGroup (id : String)
  | database
  | documents (references : List DocumentReference)
  | select (columns : List (String × Expr))
  | addFields (columns : List (String × Expr))
  | removeFields (fields : List String)
  | filter (condition : Condition)
  | offset (n : Int64)
  | limit (n : Int64)
  | sort (keys : List SortKey) (density : SortDensity) (truncation : SortTruncation)
  | aggregate (accumulators : List (String × Accumulator)) (groups : List (String × Expr))
  | distinct (columns : List (String × Expr))
  | findNearest (field : String) (vector : List Double) (measure : DistanceMeasure)
      (limit : Option Int64) (distanceField : Option String)
  | join (kind : JoinKind) (condition : Option JoinCondition) (leftAlias rightAlias : Option String)
      (right : Pipeline)
  | unnest (field output : String) (mode : MergeMode) (indexField : Option String)
  | union (other : Pipeline)
  | sample (size : SampleSize)
  | replace (expr : Expr) (mode : MergeMode)
  | generic (name : String) (args : List StageArgument) (options : List (String × StageArgument))

structure Pipeline where
  name : Option String
  stages : List Stage

/-- An argument of a generic stage. -/
inductive StageArgument where
  | expr (e : Expr)
  | json (document : Json)
  | pipeline (p : Pipeline)

end

namespace Stage

/-- The name of the stage on the wire. -/
def name : Stage → String
  | .collection _ => "collection"
  | .collectionGroup _ => "collection_group"
  | .database => "database"
  | .documents _ => "documents"
  | .select _ => "select"
  | .addFields _ => "add_fields"
  | .removeFields _ => "remove_fields"
  | .filter _ => "filter"
  | .offset _ => "offset"
  | .limit _ => "limit"
  | .sort _ _ _ => "sort"
  | .aggregate _ _ => "aggregate"
  | .distinct _ => "distinct"
  | .findNearest _ _ _ _ _ => "find_nearest"
  | .join kind _ _ _ _ => kind.stageName
  | .unnest _ _ _ _ => "unnest"
  | .union _ => "union"
  | .sample _ => "sample"
  | .replace _ _ => "replace_with"
  | .generic name _ _ => name

/-- Whether the stage reads rows from storage rather than transforming those it is given. -/
def isSource : Stage → Bool
  | .collection _ | .collectionGroup _ | .database | .documents _ => true
  | _ => false

end Stage

namespace Pipeline

/-- The pipeline without stages. -/
def empty : Pipeline := ⟨none, []⟩

instance : Inhabited Pipeline := ⟨empty⟩

def ofSource (source : Stage) : Pipeline := ⟨none, [source]⟩

def length (p : Pipeline) : Nat := p.stages.length

def isEmpty (p : Pipeline) : Bool := p.stages.isEmpty

/-- The same stages under a display name. -/
def withName (p : Pipeline) (name : String) : Pipeline := { p with name := some name }

def append (p : Pipeline) (stage : Stage) : Pipeline := { p with stages := p.stages ++ [stage] }

/-- The name, and the names of the stages. -/
def display (p : Pipeline) : String :=
  (match p.name with
    | some name => name ++ ": "
    | none => "") ++ " | ".intercalate (p.stages.map Stage.name)

/-- The fields of the pipeline, stages being told by their names. -/
def inspect (p : Pipeline) : String :=
  let name := match p.name with
    | some name => "Some(" ++ showName name ++ ")"
    | none => "None"
  let stages := ", ".intercalate (p.stages.map fun stage => showName stage.name)
  "Pipeline \x7b name: " ++ name ++ ", stages: [" ++ stages ++ "] \x7d"

/-- Whether the pipeline can be submitted: it starts with a source, and has no other one. -/
def validate (p : Pipeline) : Except BuildError Unit :=
  match p.stages with
  | [] => .error (.argument .noStages)
  | first :: rest =>
    if !first.isSource then .error (.argument (.noSourceFirst first.name))
    else match rest.find? Stage.isSource with
      | some stage => .error (.argument (.strayingSource stage.name))
      | none => .ok ()

end Pipeline

end DocumentQuery
