import DocumentQuery.Pipeline.Basic
import DocumentQuery.Text.Blank

/-!
Building pipelines stage by stage. Each stage has one function that checks what it is given and
fails with the first fault; the pipeline it is added to is not changed.
-/

namespace DocumentQuery

namespace SampleSize

def ofDocuments (n : Int64) : Except BuildError SampleSize :=
  if n < 0 then .error (.negative "sample size" n) else .ok (.documents n)

def ofPercent (x : Double) : Except BuildError SampleSize :=
  if x.within (.ofInt 0) (.ofInt 100) then .ok (.percent x) else .error (.argument (.percentage x))

end SampleSize

namespace Stage

def ofCollection (path : String) : Except BuildError Stage :=
  (collectionPath path).map .collection

def ofCollectionGroup (id : String) : Except BuildError Stage :=
  (collectionId id).map .collectionGroup

def ofReferences (references : List DocumentReference) : Except BuildError Stage :=
  if references.isEmpty then .error (.argument .noDocuments) else .ok (.documents references)

/-- Point reads of the documents at the given paths. -/
def ofDocuments (paths : List String) : Except BuildError Stage := do
  ofReferences (← paths.mapM DocumentReference.ofPath)

/-- The columns of a projection, of which there must be one. -/
def columnsOf (stage : String) (items : List Selection) : Except BuildError (Dictionary Expr) := do
  let columns ← Selection.resolve items
  if columns.isEmpty then .error (.argument (.noColumns stage)) else .ok columns

def ofSelect (items : List Selection) : Except BuildError Stage :=
  (columnsOf "select" items).map .select

def ofAddFields (items : List Selection) : Except BuildError Stage :=
  (columnsOf "add_fields" items).map .addFields

def ofDistinct (items : List Selection) : Except BuildError Stage :=
  (columnsOf "distinct" items).map .distinct

def ofRemoveFields (fields : List String) : Except BuildError Stage :=
  if fields.isEmpty then .error (.argument (.noColumns "remove_fields"))
  else .ok (.removeFields fields)

def ofOffset (n : Int64) : Except BuildError Stage :=
  if n < 0 then .error (.negative "offset" n) else .ok (.offset n)

def ofLimit (n : Int64) : Except BuildError Stage :=
  if n < 0 then .error (.negative "limit" n) else .ok (.limit n)

def ofSort (keys : List SortKey) (density : SortDensity) (truncation : SortTruncation) :
    Except BuildError Stage :=
  if keys.isEmpty then .error (.argument .noOrderings) else .ok (.sort keys density truncation)

/-- Adds accumulators by output name; a name may be neither a group nor repeated. -/
def addTargets (groups : Dictionary Expr) (accumulators : Dictionary Accumulator) :
    List AggregateTarget → Except BuildError (Dictionary Accumulator)
  | [] => .ok accumulators
  | target :: rest =>
    if groups.contains target.output || accumulators.contains target.output then
      .error (.duplicate target.output)
    else addTargets groups (accumulators.insert target.output target.accumulator) rest

/-- Aggregation over groups, or over all rows if there are no groups. -/
def ofAggregate (targets : List AggregateTarget) (groups : Dictionary Expr) :
    Except BuildError Stage :=
  if targets.isEmpty then .error (.argument .noAccumulators)
  else (addTargets groups [] targets).map fun accumulators => .aggregate accumulators groups

def ofFindNearest (field : String) (vector : List Double) (measure : DistanceMeasure)
    (limit : Option Int64) (distanceField : Option String) : Except BuildError Stage :=
  if vector.isEmpty then .error (.argument .emptyVector)
  else match limit with
    | some n =>
      if n < 0 then .error (.negative "find_nearest limit" n)
      else .ok (.findNearest field vector measure (some n) distanceField)
    | none => .ok (.findNearest field vector measure none distanceField)

/-- Whether a kind of join may have the given condition: all kinds but the cross join need one. -/
def checkJoin (kind : JoinKind) : Option JoinCondition → Except BuildError Unit
  | none =>
    if kind = .cross then .ok () else .error (.argument (.joinWithoutCondition kind.name))
  | some condition =>
    if kind = .cross then .error (.argument .conditionOnCrossJoin)
    else match condition with
      | .using [] => .error (.argument .joinUsingNothing)
      | _ => .ok ()

def ofJoin (kind : JoinKind) (condition : Option JoinCondition)
    (leftAlias rightAlias : Option String) (right : Pipeline) : Except BuildError Stage := do
  checkJoin kind condition
  if right.isEmpty then .error (.argument .joinWithoutSource)
  else .ok (.join kind condition leftAlias rightAlias right)

def ofUnnest (field output : String) (mode : MergeMode) (indexField : Option String) :
    Except BuildError Stage :=
  if output = "" then .error (.argument .emptyUnnestAlias)
  else .ok (.unnest field output mode indexField)

def ofUnion (other : Pipeline) : Except BuildError Stage :=
  if other.isEmpty then .error (.argument .unionWithoutSource) else .ok (.union other)

/-- A stage that is not known here, with its arguments and options as given; of several options
with one key the last counts. -/
def ofGeneric (name : String) (args : List StageArgument)
    (options : List (String × StageArgument)) : Except BuildError Stage :=
  if isBlankText name then .error (.argument .emptyStageName)
  else .ok (.generic name args (Dictionary.ofList options))

end Stage

/-- A pipeline whose rows have been grouped but not yet reduced. It cannot be executed. -/
structure GroupedPipeline where
  base : Pipeline
  groups : Dictionary Expr

namespace Pipeline

/-- Adds a stage if it could be built. -/
def appendBuilt (p : Pipeline) (stage : Except BuildError Stage) : Except BuildError Pipeline :=
  stage.map p.append

/-- All documents of the collection at a path. -/
def collection (path : String) : Except BuildError Pipeline :=
  (Stage.ofCollection path).map ofSource

/-- All documents of the collections with an id, wherever they are. -/
def collectionGroup (id : String) : Except BuildError Pipeline :=
  (Stage.ofCollectionGroup id).map ofSource

/-- All documents of the database. -/
def database : Pipeline := ofSource .database

/-- The documents at the given paths. -/
def documents (paths : List String) : Except BuildError Pipeline :=
  (Stage.ofDocuments paths).map ofSource

def documentReferences (references : List DocumentReference) : Except BuildError Pipeline :=
  (Stage.ofReferences references).map ofSource

/-- Keeps exactly the given columns. -/
def select (p : Pipeline) (items : List Selection) : Except BuildError Pipeline :=
  p.appendBuilt (Stage.ofSelect items)

/-- Adds or replaces columns. -/
def addFields (p : Pipeline) (items : List Selection) : Except BuildError Pipeline :=
  p.appendBuilt (Stage.ofAddFields items)

def removeFields (p : Pipeline) (fields : List String) : Except BuildError Pipeline :=
  p.appendBuilt (Stage.ofRemoveFields fields)

def filter (p : Pipeline) (condition : Condition) : Pipeline := p.append (.filter condition)

/-- Keeps the rows for which an expression holds; it has to be one that can be a condition. -/
def filterExpr (p : Pipeline) (e : Expr) : Except BuildError Pipeline :=
  (Condition.ofExpr e).map p.filter

def offset (p : Pipeline) (n : Int64) : Except BuildError Pipeline :=
  p.appendBuilt (Stage.ofOffset n)

def limit (p : Pipeline) (n : Int64) : Except BuildError Pipeline :=
  p.appendBuilt (Stage.ofLimit n)

def sortWith (p : Pipeline) (keys : List SortKey) (density : SortDensity)
    (truncation : SortTruncation) : Except BuildError Pipeline :=
  p.appendBuilt (Stage.ofSort keys density truncation)

/-- Sorts without hints to the engine. -/
def sort (p : Pipeline) (keys : List SortKey) : Except BuildError Pipeline :=
  p.sortWith keys .unspecified .unspecified

/-- Reduces all rows to one. -/
def aggregate (p : Pipeline) (targets : List AggregateTarget) : Except BuildError Pipeline :=
  p.appendBuilt (Stage.ofAggregate targets [])

/-- Groups the rows by columns, of which there must be one. -/
def groupBy (p : Pipeline) (items : List Selection) : Except BuildError GroupedPipeline := do
  let groups ← Selection.resolve items
  if groups.isEmpty then .error (.argument .noGroupingKey) else .ok ⟨p, groups⟩

def distinct (p : Pipeline) (items : List Selection) : Except BuildError Pipeline :=
  p.appendBuilt (Stage.ofDistinct items)

def findNearest (p : Pipeline) (field : String) (vector : List Double) (measure : DistanceMeasure)
    (limit : Option Int64) (distanceField : Option String) : Except BuildError Pipeline :=
  p.appendBuilt (Stage.ofFindNearest field vector measure limit distanceField)

/-- Joins rows of both pipelines; the aliases name the sides in the condition. -/
def join (p right : Pipeline) (kind : JoinKind) (condition : JoinCondition)
    (aliases : Option (String × String)) : Except BuildError Pipeline :=
  p.appendBuilt (Stage.ofJoin kind (some condition) (aliases.map (·.1)) (aliases.map (·.2)) right)

/-- Every pair of rows; the only join without a condition. -/
def crossJoin (p right : Pipeline) : Except BuildError Pipeline :=
  p.appendBuilt (Stage.ofJoin .cross none none none right)

/-- One row for each element of an array field. -/
def unnest (p : Pipeline) (field output : String) (mode : MergeMode) (indexField : Option String) :
    Except BuildError Pipeline :=
  p.appendBuilt (Stage.ofUnnest field output mode indexField)

def union (p other : Pipeline) : Except BuildError Pipeline := p.appendBuilt (Stage.ofUnion other)

def sample (p : Pipeline) (size : SampleSize) : Pipeline := p.append (.sample size)

/-- Replaces each row by the map that an expression gives. -/
def replace (p : Pipeline) (e : Expr) (mode : MergeMode) : Pipeline := p.append (.replace e mode)

def generic (p : Pipeline) (name : String) (args : List StageArgument)
    (options : List (String × StageArgument)) : Except BuildError Pipeline :=
  p.appendBuilt (Stage.ofGeneric name args options)

end Pipeline

/-- Reduces the rows of each group to one. -/
def GroupedPipeline.aggregate (p : GroupedPipeline) (targets : List AggregateTarget) :
    Except BuildError Pipeline :=
  p.base.appendBuilt (Stage.ofAggregate targets p.groups)

end DocumentQuery
