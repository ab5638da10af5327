import Mathlib.Tactic
import DocumentQuery.Proofs.ExpressionWire
import DocumentQuery.Proofs.Segments

/-!
# Pipelines are determined by their form on the wire

A stage is told from others by its name on the wire, and its parts by its arguments and options. The
display names of pipelines are not written, so nested pipelines are determined up to these.
-/

namespace DocumentQuery

/-! ### Closed pipelines -/

def ColumnsClosed (columns : Dictionary Expr) : Prop := ∀ e ∈ columns, e.2.Closed

mutual

/-- Whether no operator, distance or stage in a stage, or in the pipelines inside it, has a name of
its own, and no constant looks like a list, a field or a call. -/
def Stage.Closed : Stage → Prop
  | .select columns | .addFields columns | .distinct columns => ColumnsClosed columns
  | .filter condition => condition.expr.Closed
  | .sort keys _ _ => ∀ key ∈ keys, key.expr.Closed
  | .aggregate accumulators groups =>
    (∀ a ∈ accumulators, a.2.toExpr.Closed) ∧ ColumnsClosed groups
  | .findNearest _ _ measure _ _ => ∀ name, measure ≠ .generic name
  | .join _ condition _ _ right => JoinCondition.Closed condition ∧ right.Closed
  | .union other => other.Closed
  | .replace e _ => e.Closed
  | .generic _ _ _ => False
  | .collection _ | .collectionGroup _ | .database | .documents _ | .removeFields _ | .offset _
  | .limit _ | .unnest _ _ _ _ | .sample _ => True

def Stage.AllClosed : List Stage → Prop
  | [] => True
  | s :: rest => s.Closed ∧ Stage.AllClosed rest

def Pipeline.Closed : Pipeline → Prop
  | ⟨_, stages⟩ => Stage.AllClosed stages

end

mutual

/-- The stage with all pipelines inside it without display names. -/
def Stage.unnamed : Stage → Stage
  | .join kind condition leftAlias rightAlias right =>
    .join kind condition leftAlias rightAlias right.unnamed
  | .union other => .union other.unnamed
  | .generic name args options =>
    .generic name (StageArgument.allUnnamed args) (StageArgument.entriesUnnamed options)
  | stage => stage

def Stage.allUnnamed : List Stage → List Stage
  | [] => []
  | s :: rest => s.unnamed :: Stage.allUnnamed rest

/-- The pipeline without its display name, and without those of the pipelines inside it. -/
def Pipeline.unnamed : Pipeline → Pipeline
  | ⟨_, stages⟩ => ⟨none, Stage.allUnnamed stages⟩

def StageArgument.unnamed : StageArgument → StageArgument
  | .pipeline p => .pipeline p.unnamed
  | arg => arg

def StageArgument.allUnnamed : List StageArgument → List StageArgument
  | [] => []
  | arg :: rest => arg.unnamed :: StageArgument.allUnnamed rest

def StageArgument.entriesUnnamed :
    List (String × StageArgument) → List (String × StageArgument)
  | [] => []
  | (key, arg) :: rest => (key, arg.unnamed) :: StageArgument.entriesUnnamed rest

end

/-! ### Names of parameters -/

lemma SortDensity.name_inj {d d' : SortDensity} (same : d.name = d'.name) : d = d' := by
  revert same
  cases d <;> cases d' <;> decide

lemma SortTruncation.name_inj {t t' : SortTruncation} (same : t.name = t'.name) : t = t' := by
  revert same
  cases t <;> cases t' <;> decide

lemma MergeMode.name_inj {m m' : MergeMode} (same : m.name = m'.name) : m = m' := by
  revert same
  cases m <;> cases m' <;> decide

lemma JoinKind.name_inj {k k' : JoinKind} (same : k.name = k'.name) : k = k' := by
  revert same
  cases k <;> cases k' <;> decide

lemma DistanceMeasure.name_inj {m m' : DistanceMeasure} (h : ∀ name, m ≠ .generic name)
    (h' : ∀ name, m' ≠ .generic name) (same : m.name = m'.name) : m = m' := by
  cases m with
  | generic name => exact absurd rfl (h name)
  | euclidean | cosine | dotProduct =>
    cases m' with
    | generic name => exact absurd rfl (h' name)
    | euclidean | cosine | dotProduct => revert same; decide

/-! ### Parts of stages -/

lemma WireValue.rooted_inj {path path' : String} (same : rooted path = rooted path') :
    path = path' := by
  have texts := congrArg String.toList (WireValue.reference.inj same)
  rw [String.toList_append, String.toList_append] at texts
  exact String.toList_inj.1 (List.append_cancel_left texts)

/-- A path determines the segments, as these hold no slashes. -/
lemma DocumentReference.absolutePath_inj {d d' : DocumentReference}
    (same : d.absolutePath = d'.absolutePath) : d = d' := by
  have paths : d.path = d'.path := WireValue.rooted_inj (congrArg WireValue.reference same)
  have segments : d.segments = d'.segments := by rw [← d.splitOn_path, paths, d'.splitOn_path]
  cases d
  cases d'
  cases segments
  rfl

/-- Two options under different keys are told apart, whether they are there or not. -/
lemma WireStage.optional_append_inj {key key' : String} (apart : key ≠ key')
    {v w v' w' : Option WireValue}
    (same : optional key v ++ optional key' v' = optional key w ++ optional key' w') :
    v = w ∧ v' = w' := by
  cases v <;> cases w <;> cases v' <;> cases w' <;>
    simp_all [optional, apart.symm]

/-! ### Kinds of stages -/

/-- Both stages are of one kind, which is not the generic one. -/
inductive Stage.SameKind : Stage → Stage → Prop
  | collection (path path') : SameKind (.collection path) (.collection path')
  | collectionGroup (id id') : SameKind (.collectionGroup id) (.collectionGroup id')
  | database : SameKind .database .database
  | documents (ds ds') : SameKind (.documents ds) (.documents ds')
  | select (columns columns') : SameKind (.select columns) (.select columns')
  | addFields (columns columns') : SameKind (.addFields columns) (.addFields columns')
  | removeFields (fields fields') : SameKind (.removeFields fields) (.removeFields fields')
  | filter (c c') : SameKind (.filter c) (.filter c')
  | offset (n n') : SameKind (.offset n) (.offset n')
  | limit (n n') : SameKind (.limit n) (.limit n')
  | sort (keys d t keys' d' t') : SameKind (.sort keys d t) (.sort keys' d' t')
  | aggregate (as gs as' gs') : SameKind (.aggregate as gs) (.aggregate as' gs')
  | distinct (columns columns') : SameKind (.distinct columns) (.distinct columns')
  | findNearest (f v m l d f' v' m' l' d') :
    SameKind (.findNearest f v m l d) (.findNearest f' v' m' l' d')
  | join (k c l r p k' c' l' r' p') : SameKind (.join k c l r p) (.join k' c' l' r' p')
  | unnest (f o m i f' o' m' i') : SameKind (.unnest f o m i) (.unnest f' o' m' i')
  | union (p p') : SameKind (.union p) (.union p')
  | sample (size size') : SameKind (.sample size) (.sample size')
  | replace (e m e' m') : SameKind (.replace e m) (.replace e' m')

lemma JoinKind.stageName_ne {name : String} (plain : "join" ≠ name) (semi : "semi_join" ≠ name)
    (kind : JoinKind) : kind.stageName ≠ name := by
  unfold stageName
  split_ifs
  · exact semi
  · exact plain

lemma Stage.not_closed_generic (name args options) : ¬(generic name args options).Closed := by
  rw [Closed]
  exact id

/-- Stages that have the same name are of one kind. -/
lemma Stage.sameKind_of_name {s s' : Stage} (h : s.Closed) (h' : s'.Closed)
    (same : s.name = s'.name) : SameKind s s' := by
  cases s <;> cases s' <;> simp only [name] at same <;>
    first
    | constructor
    | exact absurd h (not_closed_generic _ _ _)
    | exact absurd h' (not_closed_generic _ _ _)
    | exact absurd same (by decide)
    | exact absurd same (JoinKind.stageName_ne (by decide) (by decide) _)
    | exact absurd same.symm (JoinKind.stageName_ne (by decide) (by decide) _)

/-- The name on the wire. -/
lemma Stage.toWire_name {s : Stage} {w : WireStage} (written : s.toWire = .ok w) :
    w.name = s.name := by
  cases s with
  | join kind condition leftAlias rightAlias right =>
    rw [toWire] at written
    split at written <;> cases written
    rfl
  | union other =>
    rw [toWire] at written
    split at written <;> cases written
    rfl
  | generic name args options =>
    rw [toWire] at written
    split at written
    · cases written
    · cases entries : StageArgument.entriesToWire options with
      | error e => rw [entries] at written; cases written
      | ok entries' => rw [entries] at written; cases written; rfl
  | _ => cases written; rfl

/-! ### Stages and pipelines -/

namespace Stage

/-- The parts of stages that are written as one and the same. -/
lemma parts_of_same {w w' : WireStage}
    (same : (Except.ok w : Except BuildError WireStage) = .ok w') :
    w.args = w'.args ∧ w.options = w'.options := by
  cases same
  exact ⟨rfl, rfl⟩

/-- What a stage without pipelines inside it is written as tells the stage. -/
lemma flat_inj {s s' : Stage} (kind : SameKind s s') (h : s.Closed) (h' : s'.Closed)
    (same : s.toWire = s'.toWire) (noJoin : ∀ k c l r p, s ≠ .join k c l r p)
    (noUnion : ∀ p, s ≠ .union p) : s = s' := by
  cases kind with
  | collection path path' =>
    rw [toWire, toWire] at same
    rw [WireValue.rooted_inj (List.cons.inj (parts_of_same same).1).1]
  | collectionGroup id id' =>
    rw [toWire, toWire] at same
    obtain ⟨-, ids⟩ := List.cons.inj (parts_of_same same).1
    rw [WireValue.string.inj (List.cons.inj ids).1]
  | database => rfl
  | documents ds ds' =>
    rw [toWire, toWire] at same
    rw [map_inj_of (fun d _ d' _ equal =>
      DocumentReference.absolutePath_inj (WireValue.reference.inj equal)) (parts_of_same same).1]
  | select columns columns' | addFields columns columns' | distinct columns columns' =>
    rw [Closed] at h h'
    rw [toWire, toWire] at same
    rw [WireValue.ofColumns_inj h h' (List.cons.inj (parts_of_same same).1).1]
  | removeFields fields fields' =>
    rw [toWire, toWire] at same
    rw [fieldReferences_inj (parts_of_same same).1]
  | filter c c' =>
    rw [Closed] at h h'
    rw [toWire, toWire] at same
    have exprs := Expr.toWire_inj c.expr c'.expr h h' (List.cons.inj (parts_of_same same).1).1
    rw [Condition.ext_expr exprs]
  | offset n n' | limit n n' =>
    rw [toWire, toWire] at same
    rw [WireValue.integer.inj (List.cons.inj (parts_of_same same).1).1]
  | sort keys d t keys' d' t' =>
    rw [Closed] at h h'
    rw [toWire, toWire] at same
    obtain ⟨args, options⟩ := parts_of_same same
    obtain ⟨density, rest⟩ := List.cons.inj options
    obtain ⟨truncation, -⟩ := List.cons.inj rest
    rw [map_inj_of (fun k hk k' hk' => SortKey.toWire_inj (h k hk) (h' k' hk')) args,
      SortDensity.name_inj (WireValue.string.inj (Prod.mk.inj density).2),
      SortTruncation.name_inj (WireValue.string.inj (Prod.mk.inj truncation).2)]
  | aggregate as gs as' gs' =>
    rw [Closed] at h h'
    rw [toWire, toWire] at same
    obtain ⟨accumulators, rest⟩ := List.cons.inj (parts_of_same same).1
    obtain ⟨groups, -⟩ := List.cons.inj rest
    rw [WireValue.ofColumns_inj h.2 h'.2 groups,
      Dictionary.mapValues_inj (fun a ha a' ha' => Accumulator.toWire_inj (h.1 a ha) (h'.1 a' ha'))
        (WireValue.map.inj accumulators)]
  | findNearest f v m l d f' v' m' l' d' =>
    rw [Closed] at h h'
    rw [toWire, toWire] at same
    obtain ⟨args, options⟩ := parts_of_same same
    obtain ⟨field, rest⟩ := List.cons.inj args
    obtain ⟨vector, rest⟩ := List.cons.inj rest
    obtain ⟨measure, -⟩ := List.cons.inj rest
    obtain ⟨distance, limit⟩ := WireStage.optional_append_inj (by decide) options
    rw [WireValue.fieldReference.inj field,
      map_inj_of (fun x _ x' _ => WireValue.double.inj) (WireValue.array.inj vector),
      DistanceMeasure.name_inj h h' (WireValue.string.inj measure),
      Option.map_injective (fun n n' => WireValue.integer.inj) limit,
      Option.map_injective (fun path path' => WireValue.fieldReference.inj) distance]
  | join k c l r p k' c' l' r' p' => exact absurd rfl (noJoin k c l r p)
  | unnest f o m i f' o' m' i' =>
    rw [toWire, toWire] at same
    obtain ⟨args, options⟩ := parts_of_same same
    obtain ⟨field, rest⟩ := List.cons.inj args
    obtain ⟨output, -⟩ := List.cons.inj rest
    obtain ⟨index, mode⟩ : i.map WireValue.string = i'.map .string ∧
        some (WireValue.string m.name) = some (.string m'.name) :=
      WireStage.optional_append_inj (by decide : "index_field" ≠ "mode") options
    rw [WireValue.fieldReference.inj field, WireValue.string.inj output,
      MergeMode.name_inj (WireValue.string.inj (Option.some.inj mode)),
      Option.map_injective (fun s s' => WireValue.string.inj) index]
  | union p p' => exact absurd rfl (noUnion p)
  | sample size size' =>
    rw [toWire, toWire] at same
    have amount := (List.cons.inj (parts_of_same same).1).1
    cases size <;> cases size' <;> simp_all [SampleSize.amount]
  | replace e m e' m' =>
    rw [Closed] at h h'
    rw [toWire, toWire] at same
    obtain ⟨expr, rest⟩ := List.cons.inj (parts_of_same same).1
    rw [Expr.toWire_inj e e' h h' expr,
      MergeMode.name_inj (WireValue.string.inj (List.cons.inj rest).1)]

end Stage

lemma Pipeline.toWireStages_eq_ok {p : Pipeline} {w : List WireStage}
    (written : p.toWireStages = .ok w) : Stage.toWires p.stages = .ok w := by
  obtain ⟨name, stages⟩ := p
  rw [toWireStages] at written
  split at written
  · cases written
  · exact written

lemma Stage.toWires_cons {s : Stage} {rest : List Stage} {ws : List WireStage}
    (written : toWires (s :: rest) = .ok ws) :
    ∃ w more, ws = w :: more ∧ s.toWire = .ok w ∧ toWires rest = .ok more := by
  rw [toWires] at written
  split at written
  · cases written
  · rename_i w first
    cases later : toWires rest with
    | error e => rw [later] at written; cases written
    | ok more =>
      rw [later] at written
      cases written
      exact ⟨w, more, rfl, first, rfl⟩

lemma Stage.join_toWire {kind : JoinKind} {condition : Option JoinCondition}
    {leftAlias rightAlias : Option String} {right : Pipeline} {w : WireStage}
    (written : (join kind condition leftAlias rightAlias right).toWire = .ok w) :
    ∃ stages, right.toWireStages = .ok stages ∧
      w = ⟨kind.stageName, [.string kind.name, JoinCondition.toWire condition, .pipeline stages],
        WireStage.optional "left_alias" (leftAlias.map .string) ++
          WireStage.optional "right_alias" (rightAlias.map .string)⟩ := by
  rw [toWire] at written
  split at written
  · cases written
  · rename_i stages nested
    exact ⟨stages, nested, (Except.ok.inj written).symm⟩

lemma Stage.union_toWire {other : Pipeline} {w : WireStage}
    (written : (union other).toWire = .ok w) :
    ∃ stages, other.toWireStages = .ok stages ∧ w = ⟨"union", [.pipeline stages], []⟩ := by
  rw [toWire] at written
  split at written
  · cases written
  · rename_i stages nested
    exact ⟨stages, nested, (Except.ok.inj written).symm⟩

mutual

/-- The form of a closed stage tells the stage, up to the names of the pipelines inside it. -/
theorem Stage.toWire_inj (s s' : Stage) (w : WireStage) (h : s.Closed) (h' : s'.Closed)
    (written : s.toWire = .ok w) (written' : s'.toWire = .ok w) : s.unnamed = s'.unnamed := by
  have kind : Stage.SameKind s s' := by
    apply Stage.sameKind_of_name h h'
    rw [← Stage.toWire_name written, Stage.toWire_name written']
  cases s with
  | join k c l r p =>
    cases kind with
    | join _ _ _ _ _ k' c' l' r' p' =>
      rw [Stage.Closed] at h h'
      obtain ⟨stages, nested, rfl⟩ := Stage.join_toWire written
      obtain ⟨stages', nested', parts⟩ := Stage.join_toWire written'
      obtain ⟨-, args, options⟩ := WireStage.mk.inj parts
      obtain ⟨kinds, rest⟩ := List.cons.inj args
      obtain ⟨conditions, rest⟩ := List.cons.inj rest
      obtain ⟨pipelines, -⟩ := List.cons.inj rest
      obtain ⟨left, right⟩ := WireStage.optional_append_inj (by decide) options
      cases pipelines
      rw [Stage.unnamed, Stage.unnamed, JoinKind.name_inj (WireValue.string.inj kinds),
        JoinCondition.toWire_inj h.1 h'.1 conditions,
        Option.map_injective (fun s s' => WireValue.string.inj) left,
        Option.map_injective (fun s s' => WireValue.string.inj) right,
        Pipeline.toWireStages_inj p p' stages h.2 h'.2 nested nested']
  | union p =>
    cases kind with
    | union _ p' =>
      rw [Stage.Closed] at h h'
      obtain ⟨stages, nested, rfl⟩ := Stage.union_toWire written
      obtain ⟨stages', nested', parts⟩ := Stage.union_toWire written'
      cases parts
      rw [Stage.unnamed, Stage.unnamed, Pipeline.toWireStages_inj p p' stages h h' nested nested']
  | _ =>
    rw [Stage.flat_inj kind h h' (written.trans written'.symm) (by simp) (by simp)]

theorem Stage.toWires_inj (ss ss' : List Stage) (ws : List WireStage) (h : Stage.AllClosed ss)
    (h' : Stage.AllClosed ss') (written : Stage.toWires ss = .ok ws)
    (written' : Stage.toWires ss' = .ok ws) : Stage.allUnnamed ss = Stage.allUnnamed ss' := by
  cases ss with
  | nil =>
    cases written
    cases ss' with
    | nil => rfl
    | cons s' rest' =>
      obtain ⟨w, more, nonempty, -⟩ := Stage.toWires_cons written'
      cases nonempty
  | cons s rest =>
    obtain ⟨w, more, rfl, first, later⟩ := Stage.toWires_cons written
    cases ss' with
    | nil => cases written'
    | cons s' rest' =>
      rw [Stage.AllClosed] at h h'
      obtain ⟨w', more', same, first', later'⟩ := Stage.toWires_cons written'
      cases same
      rw [Stage.allUnnamed, Stage.allUnnamed, Stage.toWire_inj s s' w h.1 h'.1 first first',
        Stage.toWires_inj rest rest' more h.2 h'.2 later later']

theorem Pipeline.toWireStages_inj (p p' : Pipeline) (ws : List WireStage) (h : p.Closed)
    (h' : p'.Closed) (written : p.toWireStages = .ok ws) (written' : p'.toWireStages = .ok ws) :
    p.unnamed = p'.unnamed := by
  obtain ⟨name, stages⟩ := p
  obtain ⟨name', stages'⟩ := p'
  rw [Pipeline.Closed] at h h'
  rw [Pipeline.unnamed, Pipeline.unnamed, Stage.toWires_inj stages stages' ws h h'
    (Pipeline.toWireStages_eq_ok written) (Pipeline.toWireStages_eq_ok written')]

end

namespace Pipeline

lemma toWireStages_of_toWire {p : Pipeline} {w : WirePipeline} (written : p.toWire = .ok w) :
    p.toWireStages = .ok w.stages := by
  unfold toWire at written
  cases stages : p.toWireStages with
  | error e =>
    rw [stages] at written
    cases written
  | ok ws =>
    rw [stages] at written
    cases written
    rfl

/-- Writing loses nothing of what is closed. Two pipelines that are written as one have the same
stages, display names aside at every level; two expressions with one value are the same; and so are
two conditions of joins, of which one may be absent. -/
theorem wire_form_is_lossless :
    (∀ (p q : Pipeline) (w : WirePipeline), p.Closed → q.Closed → p.toWire = .ok w →
      q.toWire = .ok w → p.unnamed.stages = q.unnamed.stages) ∧
    (∀ e e' : Expr, e.Closed → e'.Closed → e.toWire = e'.toWire → e = e') ∧
    (∀ c c' : Option JoinCondition, JoinCondition.Closed c → JoinCondition.Closed c' →
      JoinCondition.toWire c = JoinCondition.toWire c' → c = c') := by
  refine ⟨fun p q w h h' written written' => ?_, Expr.toWire_inj, fun c c' =>
    JoinCondition.toWire_inj⟩
  rw [toWireStages_inj p q w.stages h h' (toWireStages_of_toWire written)
    (toWireStages_of_toWire written')]

/-- Both parts of a union may be named differently, but whether inputs are counted once only shows,
and so does whether a join is by no fields or without a condition. -/
theorem wire_form_is_lossless_union :
    let named (name : String) : Pipeline :=
      ⟨none, [.database, .union ⟨some name, [.database, .limit 3]⟩]⟩
    let count (distinct : Bool) : Expr := .aggregate .count distinct (some (.field "x"))
    (named "a").unnamed.stages = (named "b").unnamed.stages ∧
      (count true).toWire ≠ (count false).toWire ∧
      JoinCondition.toWire (some (.using [])) ≠ JoinCondition.toWire none := by
  intro named count
  have closed (name : String) : (named name).Closed := by
    simp [named, Closed, Stage.AllClosed, Stage.Closed]
  refine ⟨?_, ?_, ?_⟩
  · exact wire_form_is_lossless.1 _ _ _ (closed "a") (closed "b") rfl rfl
  · intro same
    have counts := wire_form_is_lossless.2.1 _ _ (by simp [count, Expr.Closed])
      (by simp [count, Expr.Closed]) same
    cases counts
  · intro same
    have conditions := wire_form_is_lossless.2.2 (some (.using [])) none trivial trivial same
    cases conditions

end Pipeline

end DocumentQuery
