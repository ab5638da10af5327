import DocumentQuery.Pipeline.Basic

/-!
Writing pipelines to the wire. A pipeline and every pipeline inside it must start with a source
stage and have no other; apart from that only an integer in a plain document of a generic stage can
be refused. The first fault is reported, stages being taken from left to right and the check of a
pipeline before its stages.
-/

namespace DocumentQuery

/-- A reference to a path from the root of the database. -/
def WireValue.rooted (path : String) : WireValue := .reference ("/" ++ path)

/-- An option that is left out when it has no value. -/
def WireStage.optional (key : String) : Option WireValue → List (String × WireValue)
  | none => []
  | some v => [(key, v)]

/-- A dictionary of expressions as a map. -/
def WireValue.ofColumns (columns : Dictionary Expr) : WireValue :=
  .map (Dictionary.mapValues Expr.toWire columns)

/-- How rows are matched, as an argument: nothing, a condition, or the fields that are equal. -/
def JoinCondition.toWire : Option JoinCondition → WireValue
  | none => .null
  | some (.on condition) => condition.expr.toWire
  | some (.using fields) => .array (fields.map .fieldReference)

def SampleSize.amount : SampleSize → WireValue
  | .documents n => .integer n
  | .percent x => .double x

mutual

def Pipeline.toWireStages : Pipeline → Except BuildError (List WireStage)
  | ⟨name, stages⟩ =>
    match Pipeline.validate ⟨name, stages⟩ with
    | .error e => .error e
    | .ok () => Stage.toWires stages

def Stage.toWires : List Stage → Except BuildError (List WireStage)
  | [] => .ok []
  | stage :: rest =>
    match stage.toWire with
    | .error e => .error e
    | .ok w => (Stage.toWires rest).map (w :: ·)

/-- The wire form of a stage. Its own place in a pipeline is not checked, but pipelines inside it
are. -/
def Stage.toWire : Stage → Except BuildError WireStage
  | .collection path => .ok ⟨"collection", [.rooted path], []⟩
  | .collectionGroup id => .ok ⟨"collection_group", [.reference "", .string id], []⟩
  | .database => .ok ⟨"database", [], []⟩
  | .documents references =>
    .ok ⟨"documents", references.map fun d => .reference d.absolutePath, []⟩
  | .select columns => .ok ⟨"select", [.ofColumns columns], []⟩
  | .addFields columns => .ok ⟨"add_fields", [.ofColumns columns], []⟩
  | .removeFields fields => .ok ⟨"remove_fields", fields.map .fieldReference, []⟩
  | .filter condition => .ok ⟨"filter", [condition.expr.toWire], []⟩
  | .offset n => .ok ⟨"offset", [.integer n], []⟩
  | .limit n => .ok ⟨"limit", [.integer n], []⟩
  | .sort keys density truncation =>
    .ok ⟨"sort", keys.map SortKey.toWire,
      [("density", .string density.name), ("truncation", .string truncation.name)]⟩
  | .aggregate accumulators groups =>
    .ok ⟨"aggregate",
      [.map (Dictionary.mapValues (fun a => a.toExpr.toWire) accumulators), .ofColumns groups], []⟩
  | .distinct columns => .ok ⟨"distinct", [.ofColumns columns], []⟩
  | .findNearest field vector measure limit distanceField =>
    .ok ⟨"find_nearest",
      [.fieldReference field, .array (vector.map .double), .string measure.name],
      WireStage.optional "distance_field" (distanceField.map .fieldReference) ++
        WireStage.optional "limit" (limit.map .integer)⟩
  | .join kind condition leftAlias rightAlias right =>
    match right.toWireStages with
    | .error e => .error e
    | .ok stages =>
      .ok ⟨kind.stageName,
        [.string kind.name, JoinCondition.toWire condition, .pipeline stages],
        WireStage.optional "left_alias" (leftAlias.map .string) ++
          WireStage.optional "right_alias" (rightAlias.map .string)⟩
  | .unnest field output mode indexField =>
    .ok ⟨"unnest", [.fieldReference field, .string output],
      WireStage.optional "index_field" (indexField.map .string) ++ [("mode", .string mode.name)]⟩
  | .union other =>
    match other.toWireStages with
    | .error e => .error e
    | .ok stages => .ok ⟨"union", [.pipeline stages], []⟩
  | .sample size => .ok ⟨"sample", [size.amount, .string size.mode], []⟩
  | .replace e mode => .ok ⟨"replace_with", [e.toWire, .string mode.name], []⟩
  | .generic name args options =>
    match StageArgument.toWires args with
    | .error e => .error e
    | .ok args => (StageArgument.entriesToWire options).map fun options => ⟨name, args, options⟩

def StageArgument.toWire : StageArgument → Except BuildError WireValue
  | .expr e => .ok e.toWire
  | .json document => WireValue.ofJson document
  | .pipeline p => p.toWireStages.map .pipeline

def StageArgument.toWires : List StageArgument → Except BuildError (List WireValue)
  | [] => .ok []
  | arg :: rest =>
    match arg.toWire with
    | .error e => .error e
    | .ok v => (StageArgument.toWires rest).map (v :: ·)

def StageArgument.entriesToWire :
    List (String × StageArgument) → Except BuildError (List (String × WireValue))
  | [] => .ok []
  | (key, arg) :: rest =>
    match arg.toWire with
    | .error e => .error e
    | .ok v => (StageArgument.entriesToWire rest).map ((key, v) :: ·)

end

/-- The wire form of a pipeline that can be submitted. -/
def Pipeline.toWire (p : Pipeline) : Except BuildError WirePipeline :=
  p.toWireStages.map WirePipeline.mk

end DocumentQuery
