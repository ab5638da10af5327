import DocumentQuery.Pipeline.Wire
import DocumentQuery.Proofs.Columns
import DocumentQuery.Proofs.FilterMeaning
import DocumentQuery.Proofs.Segments

/-!
# The stages that answer a query

The pipeline of a query is built step by step. Each step either fails or appends stages that meet
its specification, and it fails exactly if its part of the query is at fault; steps in sequence
compose to the stages of the whole query. All of these stages can be written to the wire.
-/

namespace DocumentQuery

/-! ### Steps of a construction -/

namespace Pipeline

/-- A pipeline with further stages. -/
def extend (p : Pipeline) (new : List Stage) : Pipeline := { p with stages := p.stages ++ new }

lemma extend_nil (p : Pipeline) : p.extend [] = p := by
  cases p
  rw [extend, List.append_nil]

lemma extend_extend (p : Pipeline) (a b : List Stage) :
    (p.extend a).extend b = p.extend (a ++ b) := by
  simp [extend]

/-- How a step comes out. If it is sound it appends stages that meet a specification, otherwise it
fails. -/
structure Appends (p : Pipeline) (sound : Prop) (spec : List Stage → Prop)
    (result : Except BuildError Pipeline) : Prop where
  success : sound → ∃ new, spec new ∧ result = .ok (p.extend new)
  failure : ¬sound → ∃ e, result = .error e

variable {p : Pipeline} {sound sound' : Prop} {spec spec' : List Stage → Prop}
  {x : Except BuildError Pipeline} {f : Pipeline → Except BuildError Pipeline}

/-- Steps in sequence: both have to be sound, and the stages of the second follow. -/
theorem Appends.bind (first : Appends p sound spec x)
    (later : ∀ q, Appends q sound' spec' (f q)) :
    Appends p (sound ∧ sound') (fun new => ∃ a b, spec a ∧ spec' b ∧ new = a ++ b) (x >>= f) := by
  constructor
  · rintro ⟨hs, hs'⟩
    obtain ⟨a, ha, rfl⟩ := first.success hs
    obtain ⟨b, hb, result⟩ := (later (p.extend a)).success hs'
    refine ⟨a ++ b, ⟨a, b, ha, hb, rfl⟩, ?_⟩
    rw [← extend_extend, ← result]
    rfl
  · intro unsound
    by_cases hs : sound
    · obtain ⟨a, -, rfl⟩ := first.success hs
      exact (later (p.extend a)).failure fun hs' => unsound ⟨hs, hs'⟩
    · obtain ⟨e, rfl⟩ := first.failure hs
      exact ⟨e, rfl⟩

lemma Appends.ok {new : List Stage} (h : spec new) : Appends p True spec (.ok (p.extend new)) :=
  ⟨fun _ => ⟨new, h, rfl⟩, fun h => absurd trivial h⟩

lemma Appends.of_ok {q : Pipeline} (h : Appends p sound spec x) (built : x = .ok q) :
    ∃ new, spec new ∧ q = p.extend new := by
  by_cases hs : sound
  · obtain ⟨new, hnew, result⟩ := h.success hs
    exact ⟨new, hnew, Except.ok.inj (built.symm.trans result)⟩
  · obtain ⟨e, refused⟩ := h.failure hs
    rw [built] at refused
    cases refused

/-- The step for a part of a query that may be absent. -/
def optionalStep {α : Type} (p : Pipeline) (step : α → Except BuildError Pipeline) :
    Option α → Except BuildError Pipeline
  | none => .ok p
  | some a => step a

/-- The stages that an optional part of a query appends. -/
def Optionally {α : Type} (spec : α → List Stage → Prop) (part : Option α) (new : List Stage) :
    Prop :=
  match part with
  | none => new = []
  | some a => spec a new

lemma Appends.optional {α : Type} {sound : α → Prop} {spec : α → List Stage → Prop}
    {step : α → Except BuildError Pipeline} (part : Option α)
    (h : ∀ a, Appends p (sound a) (spec a) (step a)) :
    Appends p (∀ a ∈ part, sound a) (Optionally spec part) (p.optionalStep step part) := by
  cases part with
  | none => exact ⟨fun _ => ⟨[], rfl, by rw [extend_nil]; rfl⟩, fun h => absurd (by simp) h⟩
  | some a =>
    constructor
    · intro hs
      exact (h a).success (hs a rfl)
    · intro unsound
      exact (h a).failure fun hs => unsound (by simpa using hs)

end Pipeline

open Pipeline

/-! ### Sources -/

namespace QuerySource

/-- Whether rows can be read from a source: its path is one of a collection, or its id is a
segment. -/
def Valid : QuerySource → Prop
  | .collection path => IsCollectionPath path
  | .collectionGroup id => id ≠ "" ∧ '/' ∉ id.toList

/-- The stage that reads the rows of a source. -/
def stage : QuerySource → Stage
  | .collection path => .collection path
  | .collectionGroup id => .collectionGroup id

def start : QuerySource → Except BuildError Pipeline
  | .collection path => Pipeline.collection path
  | .collectionGroup id => Pipeline.collectionGroup id

lemma start_appends (source : QuerySource) :
    Appends .empty source.Valid (· = [source.stage]) source.start := by
  cases source with
  | collection path =>
    constructor
    · intro valid
      have accepted := collectionPath_eq_ok_iff.2 ⟨valid, rfl⟩
      exact ⟨_, rfl, by rw [start, Pipeline.collection, Stage.ofCollection, accepted]; rfl⟩
    · intro invalid
      cases accepted : collectionPath path with
      | error e => exact ⟨e, by rw [start, Pipeline.collection, Stage.ofCollection, accepted]; rfl⟩
      | ok canonical => exact absurd (collectionPath_eq_ok_iff.1 accepted).1 invalid
  | collectionGroup id =>
    constructor
    · intro valid
      have accepted := collectionId_eq_ok_iff.2 ⟨valid, rfl⟩
      refine ⟨_, rfl, ?_⟩
      rw [start, Pipeline.collectionGroup, Stage.ofCollectionGroup, accepted]
      rfl
    · intro invalid
      cases accepted : collectionId id with
      | error e =>
        exact ⟨e, by rw [start, Pipeline.collectionGroup, Stage.ofCollectionGroup, accepted]; rfl⟩
      | ok canonical => exact absurd (collectionId_eq_ok_iff.1 accepted).1 invalid

end QuerySource

/-! ### Filters -/

namespace StructuredQuery

/-- A filter by a condition that stands for a filter tree. -/
def FiltersBy (filter : QueryFilter) (new : List Stage) : Prop :=
  ∃ c, filter.toCondition = .ok c ∧ new = [.filter c]

lemma filter_appends (p : Pipeline) (filter : QueryFilter) :
    Appends p filter.Convertible (FiltersBy filter) (filter.toCondition.map p.filter) := by
  constructor
  · intro convertible
    obtain ⟨c, built, -⟩ := QueryFilter.toCondition_of_convertible filter convertible
    exact ⟨_, ⟨c, built, rfl⟩, by rw [built]; rfl⟩
  · intro inexpressible
    obtain ⟨e, refused⟩ := QueryFilter.toCondition_of_not_convertible filter inexpressible
    exact ⟨e, by rw [refused]; rfl⟩

/-- Whether a condition holds exactly if all the given fields exist, and asks for nothing else. -/
def RequiresFields (paths : List String) (c : Condition) : Prop :=
  (∀ truth, c.expr.holds truth = paths.all fun path => truth (.tested .present path)) ∧
    c.expr.atoms = paths.map (.tested .present)

/-- One filter by the existence of the given fields, or no stage if there are none. -/
def Guards (paths : List String) (new : List Stage) : Prop :=
  (paths = [] → new = []) ∧ (paths ≠ [] → ∃ c, new = [.filter c] ∧ RequiresFields paths c)

lemma presence_truths (truth : Expr → Bool) (paths : List String) :
    Expr.truths truth (paths.map (.tested .present)) =
      paths.map fun path => truth (.tested .present path) := by
  induction paths with
  | nil => rfl
  | cons path rest ih =>
    rw [List.map_cons, Expr.truths, (Expr.tested_atomic .present path).1, ih, List.map_cons]

lemma presence_atoms (paths : List String) :
    Expr.atomsOf (paths.map (.tested .present)) = paths.map (.tested .present) := by
  induction paths with
  | nil => rfl
  | cons path rest ih =>
    rw [List.map_cons, Expr.atomsOf, (Expr.tested_atomic .present path).2, ih]
    rfl

lemma requireFields_guards (p : Pipeline) (paths : List String) :
    ∃ new, Guards paths new ∧ requireFields p paths = p.extend new := by
  cases paths with
  | nil => exact ⟨[], ⟨fun _ => rfl, fun filled => absurd rfl filled⟩, by rw [extend_nil]; rfl⟩
  | cons path rest =>
    refine ⟨_, ⟨fun empty => (List.cons_ne_nil _ _ empty).elim, fun _ => ⟨_, rfl, ?_⟩⟩, rfl⟩
    have form : (Condition.combine .and (.present (.field path))
        (rest.map fun path => .present (.field path))).expr =
        .call (.connective .and) ((path :: rest).map (.tested .present)) := by
      simp [Condition.combine, Condition.present, Condition.test, Expr.tested, Function.comp_def]
    rw [RequiresFields, form]
    refine ⟨fun truth => ?_, ?_⟩
    · rw [Expr.holds, presence_truths, List.all_map]
      rfl
    · rw [Expr.atoms, presence_atoms]

/-- The fields whose existence an ordering implies; every row has a document name. -/
def orderedFields (q : StructuredQuery) : List String :=
  (q.orderBy.map (·.field)).filter (· ≠ documentIdPath)

/-- The fields whose existence the aggregations imply. -/
def aggregatedFields (aggregations : List QueryAggregation) : List String :=
  (aggregations.map (·.field)).filter (· ≠ "")

/-! ### Sort, offset and limit -/

/-- The ordering by document name, in the direction of the last explicit ordering; there is none if
the document name is ordered by explicitly. -/
def tieBreak (orderBy : List QueryOrder) : List SortKey :=
  if documentIdPath ∈ orderBy.map (·.field) then []
  else [⟨.documentId, (orderBy.getLast?.map (·.direction)).getD .ascending⟩]

/-- The explicit orderings in order, and the tie break. -/
def orderings (orderBy : List QueryOrder) : List SortKey :=
  orderBy.map (fun o => ⟨.field o.field, o.direction⟩) ++ tieBreak orderBy

lemma sortKeys_eq (orderBy : List QueryOrder) : sortKeys orderBy = orderings orderBy := by
  have named : (orderBy.any (·.field = documentIdPath)) = true ↔
      documentIdPath ∈ orderBy.map (·.field) := by
    simp
  unfold sortKeys orderings tieBreak
  simp only [named]
  split_ifs
  · rw [List.append_nil]
  · cases orderBy.getLast? <;> rfl

lemma documentId_mem_orderings (orderBy : List QueryOrder) :
    ∃ key ∈ orderings orderBy, key.expr = .documentId := by
  rw [orderings, tieBreak]
  split_ifs with named
  · obtain ⟨o, ho, name⟩ := List.mem_map.1 named
    refine ⟨⟨.field o.field, o.direction⟩, by simpa using ⟨o, ho, rfl, rfl⟩, ?_⟩
    rw [name]
    rfl
  · exact ⟨_, List.mem_append_right _ (List.mem_singleton_self _), rfl⟩

lemma sort_appends (p : Pipeline) (orderBy : List QueryOrder) :
    Appends p True (· = [.sort (orderings orderBy) .unspecified .unspecified])
      (p.sort (sortKeys orderBy)) := by
  obtain ⟨key, hkey, -⟩ := documentId_mem_orderings orderBy
  have filled : ¬(orderings orderBy).isEmpty := by
    intro empty
    rw [List.isEmpty_iff.1 empty] at hkey
    cases hkey
  have built : p.sort (sortKeys orderBy) =
      .ok (p.extend [.sort (orderings orderBy) .unspecified .unspecified]) := by
    rw [sortKeys_eq, Pipeline.sort, Pipeline.sortWith, Stage.ofSort, if_neg filled]
    rfl
  rw [built]
  exact .ok rfl

lemma offset_appends (p : Pipeline) (n : Int64) :
    Appends p (¬n < 0) (· = [.offset n]) (p.offset n) := by
  constructor
  · intro sound
    exact ⟨_, rfl, by rw [Pipeline.offset, Stage.ofOffset, if_neg sound]; rfl⟩
  · intro negative
    exact ⟨_, by rw [Pipeline.offset, Stage.ofOffset, if_pos (not_not.1 negative)]; rfl⟩

lemma limit_appends (p : Pipeline) (n : Int64) :
    Appends p (¬n < 0) (· = [.limit n]) (p.limit n) := by
  constructor
  · intro sound
    exact ⟨_, rfl, by rw [Pipeline.limit, Stage.ofLimit, if_neg sound]; rfl⟩
  · intro negative
    exact ⟨_, by rw [Pipeline.limit, Stage.ofLimit, if_pos (not_not.1 negative)]; rfl⟩

/-! ### Aggregations -/

/-- The accumulator of an aggregation, if its operator is known. -/
def accumulator? (a : QueryAggregation) : Option Accumulator :=
  match a.operator with
  | .sum => some (.sum (.field a.field))
  | .count => some .countAll
  | .average => some (.average (.field a.field))
  | .other _ => none

lemma accumulator?_eq_none_iff {a : QueryAggregation} :
    accumulator? a = none ↔ ∃ name, a.operator = .other name := by
  unfold accumulator?
  cases a.operator <;> simp

lemma toTarget_of_known {a : QueryAggregation} {accumulator : Accumulator}
    (h : accumulator? a = some accumulator) : a.toTarget = .ok ⟨accumulator, a.output⟩ := by
  unfold accumulator? at h
  unfold QueryAggregation.toTarget
  cases operator : a.operator <;> rw [operator] at h <;> cases h <;> rfl

lemma toTarget_of_unknown {a : QueryAggregation} (h : accumulator? a = none) :
    ∃ e, a.toTarget = .error e := by
  obtain ⟨name, operator⟩ := accumulator?_eq_none_iff.1 h
  exact ⟨_, by rw [QueryAggregation.toTarget, operator]⟩

lemma mapM_toTarget {aggregations : List QueryAggregation}
    (known : ∀ a ∈ aggregations, accumulator? a ≠ none) :
    ∃ targets, aggregations.mapM QueryAggregation.toTarget = .ok targets ∧
      targets.map (fun t => (t.output, some t.accumulator)) =
        aggregations.map fun a => (a.output, accumulator? a) := by
  induction aggregations with
  | nil => exact ⟨[], rfl, rfl⟩
  | cons a rest ih =>
    obtain ⟨accumulator, first⟩ := Option.ne_none_iff_exists'.1 (known a (by simp))
    obtain ⟨targets, later, outputs⟩ := ih fun a ha => known a (by simp [ha])
    refine ⟨⟨accumulator, a.output⟩ :: targets, ?_, ?_⟩
    · rw [List.mapM_cons, toTarget_of_known first, later]
      rfl
    · rw [List.map_cons, List.map_cons, outputs, first]

lemma mapM_toTarget_error {aggregations : List QueryAggregation} {a : QueryAggregation}
    (ha : a ∈ aggregations) (unknown : accumulator? a = none) :
    ∃ e, aggregations.mapM QueryAggregation.toTarget = .error e := by
  induction aggregations with
  | nil => cases ha
  | cons b rest ih =>
    rw [List.mapM_cons]
    cases first : b.toTarget with
    | error e => exact ⟨e, rfl⟩
    | ok target =>
      rcases List.mem_cons.1 ha with rfl | later
      · obtain ⟨e, refused⟩ := toTarget_of_unknown unknown
        rw [refused] at first
        cases first
      · obtain ⟨e, refused⟩ := ih later
        exact ⟨e, by rw [refused]; rfl⟩

/-- The stage of resolved aggregations: their names have to be distinct, and each of them has its
accumulator. -/
lemma targets_append (p : Pipeline) {targets : List AggregateTarget} (nonempty : targets ≠ []) :
    Appends p (targets.map (·.output)).Nodup
      (fun new => ∃ all : Dictionary Accumulator, new = [.aggregate all []] ∧ all.Sorted ∧
        all.Perm (targets.map fun t => (t.output, t.accumulator)))
      (p.aggregate targets) := by
  constructor
  · intro distinct
    obtain ⟨all, built, sorted, perm⟩ := Stage.ofAggregate_of_nodup [] nonempty distinct
    exact ⟨_, ⟨all, rfl, sorted, perm⟩, by rw [Pipeline.aggregate, built]; rfl⟩
  · intro repeated
    obtain ⟨before, target, after, rfl, distinct, taken⟩ :=
      (nodup_or_first_repeat AggregateTarget.output List.nodup_nil targets).resolve_left repeated
    have refused := Stage.ofAggregate_of_repeat [] after distinct taken
    exact ⟨_, by rw [Pipeline.aggregate, refused]; rfl⟩

/-- The stages of a list of aggregations: a filter by the fields they need, if they need any, and
one stage with exactly one accumulator for each of them, under its name. -/
def Aggregates (aggregations : List QueryAggregation) (new : List Stage) : Prop :=
  (aggregations = [] → new = []) ∧
    (aggregations ≠ [] → ∃ guards accumulators, new = guards ++ [.aggregate accumulators []] ∧
      Guards (aggregatedFields aggregations) guards ∧ Dictionary.Sorted accumulators ∧
      (accumulators.map fun e => (e.1, some e.2)).Perm
        (aggregations.map fun a => (a.output, accumulator? a)))

lemma aggregate_appends (p : Pipeline) (aggregations : List QueryAggregation) :
    Appends p ((∀ a ∈ aggregations, accumulator? a ≠ none) ∧ (aggregations.map (·.output)).Nodup)
      (Aggregates aggregations) (addAggregations aggregations p) := by
  by_cases unasked : aggregations = []
  · subst unasked
    exact ⟨fun _ => ⟨[], ⟨fun _ => rfl, fun filled => absurd rfl filled⟩, by rw [extend_nil]; rfl⟩,
      fun h => absurd (by simp) h⟩
  · obtain ⟨guards, guarded, required⟩ := requireFields_guards p (aggregatedFields aggregations)
    have unfolded : addAggregations aggregations p =
        aggregations.mapM QueryAggregation.toTarget >>= (p.extend guards).aggregate := by
      rw [addAggregations, if_neg (by simpa using unasked), ← required]
      rfl
    rw [unfolded]
    by_cases known : ∀ a ∈ aggregations, accumulator? a ≠ none
    · obtain ⟨targets, resolved, named⟩ := mapM_toTarget known
      have outputs : targets.map (·.output) = aggregations.map (·.output) := by
        simpa [Function.comp_def] using congrArg (List.map Prod.fst) named
      have nonempty : targets ≠ [] := by
        intro empty
        apply unasked
        rw [← List.map_eq_nil_iff (f := (·.output)), ← outputs, empty, List.map_nil]
      have step := targets_append (p.extend guards) nonempty
      rw [resolved]
      constructor
      · rintro ⟨-, distinct⟩
        obtain ⟨_, ⟨all, rfl, sorted, perm⟩, built⟩ := step.success (by rwa [outputs])
        refine ⟨guards ++ [.aggregate all []], ⟨fun h => absurd h unasked, fun _ =>
          ⟨guards, all, rfl, guarded, sorted, ?_⟩⟩, ?_⟩
        · rw [← named]
          simpa [Function.comp_def] using perm.map fun e => (e.1, some e.2)
        · rw [← extend_extend]
          exact built
      · intro unsound
        exact step.failure fun distinct => unsound ⟨known, by rwa [← outputs]⟩
    · refine ⟨fun h => absurd h.1 known, fun _ => ?_⟩
      push Not at known
      obtain ⟨a, ha, unknown⟩ := known
      obtain ⟨e, refused⟩ := mapM_toTarget_error ha unknown
      exact ⟨e, by rw [refused]; rfl⟩

/-! ### Writing to the wire -/

/-- A stage that may follow a source in a pipeline that is submitted. -/
def Submittable (stage : Stage) : Prop := stage.isSource = false ∧ ∃ w, stage.toWire = .ok w

lemma toWires_ok {stages : List Stage} (h : ∀ stage ∈ stages, ∃ w, stage.toWire = .ok w) :
    ∃ ws, Stage.toWires stages = .ok ws := by
  induction stages with
  | nil => exact ⟨[], by rw [Stage.toWires]⟩
  | cons stage rest ih =>
    obtain ⟨w, first⟩ := h stage (by simp)
    obtain ⟨ws, later⟩ := ih fun stage hstage => h stage (by simp [hstage])
    exact ⟨w :: ws, by rw [Stage.toWires, first, later]; rfl⟩

/-- A source and submittable stages make a pipeline that can be written. -/
lemma toWire_of_submittable {p : Pipeline} {source : QuerySource} {rest : List Stage}
    (stages : p.stages = source.stage :: rest) (h : ∀ stage ∈ rest, Submittable stage) :
    ∃ w, p.toWire = .ok w := by
  obtain ⟨name, _⟩ := p
  obtain rfl := stages
  have reads : source.stage.isSource = true := by cases source <;> rfl
  have written : ∃ w, source.stage.toWire = .ok w := by
    cases source
    · exact ⟨_, by rw [QuerySource.stage, Stage.toWire]⟩
    · exact ⟨_, by rw [QuerySource.stage, Stage.toWire]⟩
  have single : rest.find? Stage.isSource = none := by
    rw [List.find?_eq_none]
    intro stage hstage
    rw [(h stage hstage).1]
    exact Bool.false_ne_true
  have valid : Pipeline.validate ⟨name, source.stage :: rest⟩ = .ok () := by
    simp [Pipeline.validate, reads, single]
  obtain ⟨ws, all⟩ : ∃ ws, Stage.toWires (source.stage :: rest) = .ok ws := by
    apply toWires_ok
    intro stage hstage
    rcases List.mem_cons.1 hstage with rfl | later
    · exact written
    · exact (h stage later).2
  exact ⟨⟨ws⟩, by rw [Pipeline.toWire, Pipeline.toWireStages, valid]; dsimp only; rw [all]; rfl⟩

lemma submittable_filter (c : Condition) : Submittable (.filter c) :=
  ⟨rfl, _, by rw [Stage.toWire]⟩

lemma Guards.submittable {paths : List String} {new : List Stage} (h : Guards paths new) :
    ∀ stage ∈ new, Submittable stage := by
  intro stage hstage
  by_cases empty : paths = []
  · rw [h.1 empty] at hstage
    cases hstage
  · obtain ⟨c, rfl, -⟩ := h.2 empty
    obtain rfl := List.mem_singleton.1 hstage
    exact submittable_filter c

lemma submittable_of_filters {filter : Option QueryFilter} {new : List Stage}
    (h : Optionally FiltersBy filter new) : ∀ stage ∈ new, Submittable stage := by
  intro stage hstage
  cases filter with
  | none =>
    obtain rfl : new = [] := h
    cases hstage
  | some filter =>
    obtain ⟨c, -, rfl⟩ := h
    obtain rfl := List.mem_singleton.1 hstage
    exact submittable_filter c

lemma Aggregates.submittable {aggregations : List QueryAggregation} {new : List Stage}
    (h : Aggregates aggregations new) : ∀ stage ∈ new, Submittable stage := by
  intro stage hstage
  by_cases empty : aggregations = []
  · rw [h.1 empty] at hstage
    cases hstage
  · obtain ⟨guards, accumulators, rfl, guarded, -⟩ := h.2 empty
    rcases List.mem_append.1 hstage with guard | last
    · exact guarded.submittable stage guard
    · obtain rfl := List.mem_singleton.1 last
      exact ⟨rfl, _, by rw [Stage.toWire]⟩

/-! ### The whole query -/

/-- The stages of a query: its source, its filter, the existence of the fields it orders by, one
sort, offset and limit, and its aggregations. -/
def Answered (q : StructuredQuery) (stages : List Stage) : Prop :=
  ∃ filters guards aggregates,
    Optionally FiltersBy q.filter filters ∧ Guards q.orderedFields guards ∧
    Aggregates q.aggregations aggregates ∧
    stages = q.source.stage :: (filters ++ guards ++
      [.sort (orderings q.orderBy) .unspecified .unspecified] ++
      (q.offset.map .offset).toList ++ (q.limit.map .limit).toList ++ aggregates)

lemma Answered.submittable {q : StructuredQuery} {stages : List Stage} (h : q.Answered stages) :
    ∃ rest, stages = q.source.stage :: rest ∧ ∀ stage ∈ rest, Submittable stage := by
  obtain ⟨filters, guards, aggregates, filtered, guarded, aggregated, rfl⟩ := h
  refine ⟨_, rfl, ?_⟩
  intro stage hstage
  simp only [List.mem_append, List.mem_singleton, Option.mem_toList,
    Option.map_eq_some_iff] at hstage
  rcases hstage with ((((hf | hg) | rfl) | ⟨n, -, rfl⟩) | ⟨n, -, rfl⟩) | ha
  · exact submittable_of_filters filtered stage hf
  · exact guarded.submittable stage hg
  · exact ⟨rfl, _, by rw [Stage.toWire]⟩
  · exact ⟨rfl, _, by rw [Stage.toWire]⟩
  · exact ⟨rfl, _, by rw [Stage.toWire]⟩
  · exact aggregated.submittable stage ha

/-- What a query has to be for a pipeline to answer it. -/
structure Answerable (q : StructuredQuery) : Prop where
  source : q.source.Valid
  filter : ∀ filter ∈ q.filter, filter.Convertible
  offset : ∀ n ∈ q.offset, ¬n < 0
  limit : ∀ n ∈ q.limit, ¬n < 0
  operators : ∀ a ∈ q.aggregations, accumulator? a ≠ none
  outputs : (q.aggregations.map (·.output)).Nodup

/-- A query is answerable unless one of its parts is at fault. -/
lemma answerable_iff (q : StructuredQuery) :
    q.Answerable ↔ ¬(¬q.source.Valid ∨ (∃ filter ∈ q.filter, ¬filter.Convertible) ∨
      (∃ n ∈ q.offset, n < 0) ∨ (∃ n ∈ q.limit, n < 0) ∨
      (∃ a ∈ q.aggregations, ∃ name, a.operator = .other name) ∨
      ¬(q.aggregations.map (·.output)).Nodup) := by
  have known (a : QueryAggregation) : accumulator? a ≠ none ↔ ¬∃ name, a.operator = .other name :=
    accumulator?_eq_none_iff.not
  constructor
  · rintro ⟨source, filter, offset, limit, operators, outputs⟩
    rintro (fault | ⟨f, hf, fault⟩ | ⟨n, hn, fault⟩ | ⟨n, hn, fault⟩ | ⟨a, ha, fault⟩ | fault)
    · exact fault source
    · exact fault (filter f hf)
    · exact offset n hn fault
    · exact limit n hn fault
    · exact (known a).1 (operators a ha) fault
    · exact fault outputs
  · intro sound
    simp only [not_or, not_exists, not_and, not_not] at sound
    obtain ⟨source, filter, offset, limit, operators, outputs⟩ := sound
    refine ⟨source, filter, offset, limit, fun a ha => (known a).2 ?_, outputs⟩
    rintro ⟨name, operator⟩
    exact operators a ha name operator

/-- The sort, the offset and the limit of a query. -/
def Windows (q : StructuredQuery) (new : List Stage) : Prop :=
  new = .sort (orderings q.orderBy) .unspecified .unspecified ::
    ((q.offset.map .offset).toList ++ (q.limit.map .limit).toList)

lemma optionally_eq {α : Type} {stage : α → Stage} {part : Option α} {new : List Stage}
    (h : Optionally (fun a new => new = [stage a]) part new) : new = (part.map stage).toList := by
  cases part <;> exact h

lemma addWindow_eq (q : StructuredQuery) (p : Pipeline) :
    q.addWindow p = (p.sort (sortKeys q.orderBy) >>= fun p =>
      p.optionalStep p.offset q.offset >>= fun p => p.optionalStep p.limit q.limit) := by
  unfold addWindow
  cases q.offset <;> cases q.limit <;> rfl

lemma addWindow_appends (q : StructuredQuery) (p : Pipeline) :
    Appends p ((∀ n ∈ q.offset, ¬n < 0) ∧ ∀ n ∈ q.limit, ¬n < 0) q.Windows (q.addWindow p) := by
  have steps := (sort_appends p q.orderBy).bind fun p =>
    (Appends.optional q.offset (offset_appends p)).bind fun p =>
    Appends.optional q.limit (limit_appends p)
  rw [addWindow_eq]
  constructor
  · intro sound
    obtain ⟨new, ⟨_, _, rfl, ⟨offsets, limits, offset, limit, rfl⟩, rfl⟩, built⟩ :=
      steps.success ⟨trivial, sound⟩
    refine ⟨_, ?_, built⟩
    rw [Windows, optionally_eq offset, optionally_eq limit]
    rfl
  · intro unsound
    exact steps.failure fun h => unsound h.2

/-- The construction as a sequence of steps. -/
lemma toPipeline_eq (q : StructuredQuery) :
    q.toPipeline = (q.source.start >>= fun p =>
      p.optionalStep (fun filter => filter.toCondition.map p.filter) q.filter >>= fun p =>
      .ok (requireFields p q.orderedFields) >>= fun p =>
      q.addWindow p >>= fun p =>
      addAggregations q.aggregations p) := by
  unfold toPipeline
  cases q.source <;> cases q.filter <;> rfl

/-- A pipeline answers a query exactly if the query is answerable. -/
theorem toPipeline_appends (q : StructuredQuery) :
    Appends .empty q.Answerable q.Answered q.toPipeline := by
  have guard (p : Pipeline) : Appends p True (Guards q.orderedFields)
      (.ok (requireFields p q.orderedFields)) := by
    obtain ⟨new, guarded, required⟩ := requireFields_guards p q.orderedFields
    rw [required]
    exact .ok guarded
  have steps := q.source.start_appends.bind fun p =>
    (Appends.optional q.filter (filter_appends p)).bind fun p =>
    (guard p).bind fun p =>
    (q.addWindow_appends p).bind fun p =>
    aggregate_appends p q.aggregations
  rw [toPipeline_eq]
  constructor
  · intro h
    obtain ⟨new, ⟨_, _, rfl, ⟨filters, _, filtered, ⟨guards, _, guarded, ⟨_, aggregates, rfl,
      aggregated, rfl⟩, rfl⟩, rfl⟩, rfl⟩, built⟩ := steps.success
      ⟨h.source, h.filter, trivial, ⟨h.offset, h.limit⟩, h.operators, h.outputs⟩
    refine ⟨_, ⟨filters, guards, aggregates, filtered, guarded, aggregated, ?_⟩, built⟩
    simp
  · intro unanswerable
    apply steps.failure
    rintro ⟨source, filter, -, ⟨offset, limit⟩, operators, outputs⟩
    exact unanswerable ⟨source, filter, offset, limit, operators, outputs⟩

/-- A query is answered by the stages it asks for, in order and with nothing else, and they can be
written to the wire. It is refused exactly if a part of it is invalid. -/
theorem query_has_its_stages (q : StructuredQuery) :
    (∀ p, q.toPipeline = .ok p →
      q.Answered p.stages ∧ (∃ key ∈ orderings q.orderBy, key.expr = .documentId) ∧
        ∃ w, p.toWire = .ok w) ∧
    ((∃ e, q.toPipeline = .error e) ↔
      ¬q.source.Valid ∨ (∃ filter ∈ q.filter, ¬filter.Convertible) ∨ (∃ n ∈ q.offset, n < 0) ∨
        (∃ n ∈ q.limit, n < 0) ∨ (∃ a ∈ q.aggregations, ∃ name, a.operator = .other name) ∨
        ¬(q.aggregations.map (·.output)).Nodup) := by
  have answer := q.toPipeline_appends
  have answerable := q.answerable_iff
  refine ⟨fun p built => ?_, ?_⟩
  · obtain ⟨stages, answered, rfl⟩ := answer.of_ok built
    obtain ⟨rest, first, submittable⟩ := answered.submittable
    exact ⟨answered, documentId_mem_orderings q.orderBy, toWire_of_submittable first submittable⟩
  · constructor
    · rintro ⟨e, refused⟩
      by_contra sound
      obtain ⟨stages, -, built⟩ := answer.success (answerable.2 sound)
      rw [refused] at built
      cases built
    · intro fault
      exact answer.failure fun sound => answerable.1 sound fault

/-- The best rated places of a city, and how many of them there are. -/
def bestRated : StructuredQuery where
  source := .collectionGroup "places"
  filter := some (.composite .and [.field "city" .isIn (.array [.string "SF"]),
    .field "closed" .notEqual (.boolean true)])
  orderBy := [⟨"rating", .descending⟩]
  limit := some 10
  aggregations := [⟨.count, "", "n"⟩, ⟨.average, "rating", "mean"⟩]

/-- Filter, guard, sort, limit, guard and aggregation follow the source. -/
theorem query_has_its_stages_best_rated :
    ∃ p, bestRated.toPipeline = .ok p ∧ p.stages.map Stage.name =
        ["collection_group", "filter", "filter", "sort", "limit", "filter", "aggregate"] ∧
      bestRated.Answered p.stages ∧ ∃ w, p.toWire = .ok w := by
  obtain ⟨answered, -, written⟩ := (query_has_its_stages bestRated).1 _ rfl
  exact ⟨_, rfl, rfl, answered, written⟩

end StructuredQuery

end DocumentQuery
