import DocumentQuery.Proofs.Nesting
import DocumentQuery.Proofs.QueryStages

/-!
# Built pipelines have well-formed stages

Every function that makes a stage checks what it is given, in one place or in two, as groups and the
sides of a join are handed over before they are used. Pipelines that come of such functions, applied
to pipelines that come of them too, hold well-formed stages only, at any depth.
-/

namespace DocumentQuery

lemma map_eq_ok_iff {ε α β : Type} {x : Except ε α} {f : α → β} {b : β} :
    x.map f = .ok b ↔ ∃ a, x = .ok a ∧ b = f a := by
  cases x with
  | error e => simp [Except.map]
  | ok a => simp [Except.map, eq_comm]

lemma exists_map_eq_ok_iff {α β : Type} {x : Except BuildError α} {f : α → β} :
    (∃ b, x.map f = .ok b) ↔ ∃ a, x = .ok a := by
  cases x <;> simp [Except.map]

lemma map_eq_error_iff {α β : Type} {x : Except BuildError α} {f : α → β} {e : BuildError} :
    x.map f = .error e ↔ x = .error e := by
  cases x <;> simp [Except.map]

lemma bind_eq_ok_iff {α β : Type} {x : Except BuildError α} {f : α → Except BuildError β} {b : β} :
    x.bind f = .ok b ↔ ∃ a, x = .ok a ∧ f a = .ok b := by
  cases x <;> simp [Except.bind]

/-- Whatever the construction gives has a property. -/
def Yields {α : Type} (x : Except BuildError α) (good : α → Prop) : Prop :=
  ∀ a, x = .ok a → good a

namespace Yields

variable {α β : Type} {x : Except BuildError α} {good : α → Prop} {fine : β → Prop}

lemma ok {a : α} (h : good a) : Yields (.ok a) good := by
  rintro _ ⟨⟩
  exact h

lemma error {e : BuildError} : Yields (.error e) good := nofun

lemma map {f : α → β} (h : Yields x good) (keeps : ∀ a, good a → fine (f a)) :
    Yields (x.map f) fine := by
  cases x with
  | error e => exact error
  | ok a => exact ok (keeps a (h a rfl))

lemma bind {f : α → Except BuildError β} (h : Yields x good)
    (later : ∀ a, good a → Yields (f a) fine) : Yields (x >>= f) fine := by
  cases x with
  | error e => exact error
  | ok a => exact later a (h a rfl)

lemma any : Yields x fun _ => True := fun _ _ => trivial

/-- What comes first does not matter if the rest is good after anything. -/
lemma map_all {f : α → β} (always : ∀ a, fine (f a)) : Yields (x.map f) fine :=
  any.map fun a _ => always a

lemma bind_all {f : α → Except BuildError β} (always : ∀ a, Yields (f a) fine) :
    Yields (x >>= f) fine :=
  any.bind fun a _ => always a

lemma ite {p : Prop} [Decidable p] {e : BuildError} {a : α} (h : ¬p → good a) :
    Yields (if p then .error e else .ok a) good := by
  split_ifs with bad
  · exact error
  · exact ok (h bad)

end Yields

/-! ### Well-formed stages -/

/-- Columns of an output: some, under names that are distinct and not empty. -/
def OutputColumns (columns : Dictionary Expr) : Prop :=
  columns ≠ [] ∧ columns.Sorted ∧ ∀ c ∈ columns, c.1 ≠ ""

/-- A number of rows, or a percentage as a number of units of `2 ^ -1074`. -/
def SampleSize.WellFormed : SampleSize → Prop
  | .documents n => 0 ≤ n.toInt
  | .percent x => ∃ y : FiniteDouble, x = .finite y ∧ 0 ≤ y.units ∧ y.units ≤ 100 * 2 ^ 1074

/-- What has to hold of the parts of a stage, pipelines inside it being only required to have
stages. -/
def Stage.WellFormed : Stage → Prop
  | .collection path => IsCollectionPath path ∧ path.toList.head? ≠ some '/'
  | .collectionGroup id => id ≠ "" ∧ '/' ∉ id.toList
  | .documents references =>
    references ≠ [] ∧ ∀ d ∈ references, ∃ segments, IsDocumentPath segments ∧
      d.path.toList = ['/'].intercalate segments
  | .select columns | .addFields columns | .distinct columns => OutputColumns columns
  | .removeFields fields => fields ≠ []
  | .offset n => 0 ≤ n.toInt
  | .limit n => 0 ≤ n.toInt
  | .sort keys _ _ => keys ≠ []
  | .aggregate accumulators groups =>
    accumulators ≠ [] ∧ Dictionary.Sorted accumulators ∧ Dictionary.Sorted groups ∧
      (∀ g ∈ groups, g.1 ≠ "") ∧ ∀ a ∈ accumulators, a.1 ∉ groups.map Prod.fst
  | .findNearest _ vector _ most _ => vector ≠ [] ∧ ∀ n ∈ most, 0 ≤ n.toInt
  | .join kind condition _ _ right =>
    (condition = none ↔ kind = .cross) ∧ condition ≠ some (.using []) ∧ right.stages ≠ []
  | .unnest _ output _ _ => output ≠ ""
  | .union other => other.stages ≠ []
  | .sample size => size.WellFormed
  | .generic name _ options => isBlankText name = false ∧ Dictionary.Sorted options
  | .database | .filter _ | .replace _ _ => True

/-- All stages that a pipeline holds are well-formed, at any depth. -/
def Pipeline.WellFormed (p : Pipeline) : Prop :=
  ∀ q, .pipeline q ∈ p.contents → ∀ s ∈ q.stages, s.WellFormed

/-- A stage is well-formed, and so are the stages of the pipelines inside it. -/
def Stage.Thorough (s : Stage) : Prop :=
  s.WellFormed ∧ ∀ q, .pipeline q ∈ s.contents → ∀ t ∈ q.stages, t.WellFormed

lemma Stage.WellFormed.thorough {s : Stage} (h : s.WellFormed) (flat : s.contents = []) :
    s.Thorough := by
  refine ⟨h, fun q held => ?_⟩
  rw [flat] at held
  cases held

namespace Pipeline

lemma wellFormed_iff {p : Pipeline} : p.WellFormed ↔ ∀ s ∈ p.stages, s.Thorough := by
  constructor
  · intro h s hs
    refine ⟨h p (mem_contents.2 (.inl rfl)) s hs, fun q held => ?_⟩
    exact h q (mem_contents.2 (.inr ⟨s, hs, held⟩))
  · intro h q held t ht
    rcases mem_contents.1 held with same | ⟨s, hs, inside⟩
    · cases same
      exact (h t ht).1
    · exact (h s hs).2 q inside t ht

lemma wellFormed_empty : empty.WellFormed := wellFormed_iff.2 nofun

lemma wellFormed_ofSource {s : Stage} (h : s.Thorough) : (ofSource s).WellFormed :=
  wellFormed_iff.2 (List.forall_mem_singleton.2 h)

variable {p : Pipeline}

lemma WellFormed.withName (h : p.WellFormed) (name : String) : (p.withName name).WellFormed := by
  have stages := wellFormed_iff.1 h
  exact wellFormed_iff.2 stages

lemma WellFormed.append (h : p.WellFormed) {s : Stage} (added : s.Thorough) :
    (p.append s).WellFormed := by
  refine wellFormed_iff.2 (List.forall_mem_append.2 ⟨wellFormed_iff.1 h, ?_⟩)
  exact List.forall_mem_singleton.2 added

lemma WellFormed.appendBuilt (h : p.WellFormed) {x : Except BuildError Stage}
    (added : Yields x Stage.Thorough) : Yields (p.appendBuilt x) WellFormed :=
  added.map fun _ => h.append

end Pipeline

/-! ### Functions that make stages -/

lemma Int64.toInt_nonneg_of_not_neg {n : Int64} (h : ¬n < 0) : 0 ≤ n.toInt :=
  Int64.le_iff_toInt_le.1 (Int64.not_lt.1 h)

lemma FiniteDouble.units_hundred :
    (⟨false, 1029, 0x9000000000000#52⟩ : FiniteDouble).units = 100 * 2 ^ 1074 := by
  decide +kernel

namespace SampleSize

lemma ofDocuments_yields (n : Int64) : Yields (ofDocuments n) WellFormed :=
  .ite Int64.toInt_nonneg_of_not_neg

lemma ofPercent_yields (x : Double) : Yields (ofPercent x) WellFormed := by
  have low : Double.ofInt 0 = .finite (.zero false) := by decide
  have high : Double.ofInt 100 = .finite ⟨false, 1029, 0x9000000000000#52⟩ := by decide
  unfold ofPercent
  split_ifs with inside
  · rw [low, high, Double.within, Bool.and_eq_true] at inside
    obtain ⟨above, below⟩ := inside
    cases x with
    | nan => cases above
    | infinite negative => cases negative <;> trivial
    | finite y =>
      refine .ok ⟨y, rfl, of_decide_eq_true above, ?_⟩
      rw [← FiniteDouble.units_hundred]
      exact of_decide_eq_true below
  · exact .error

end SampleSize

namespace Stage

lemma ofCollection_yields (path : String) : Yields (ofCollection path) Thorough := by
  have accepted : Yields (collectionPath path) fun c => (collection c).WellFormed := by
    intro c built
    obtain ⟨valid, rfl⟩ := collectionPath_eq_ok_iff.1 built
    refine ⟨valid, fun rooted => ?_⟩
    rw [collectionPath, if_pos rooted] at built
    cases built
  exact accepted.map fun c valid => valid.thorough rfl

lemma ofCollectionGroup_yields (id : String) : Yields (ofCollectionGroup id) Thorough := by
  have accepted : Yields (collectionId id) fun i => (collectionGroup i).WellFormed := by
    intro i built
    obtain ⟨valid, rfl⟩ := collectionId_eq_ok_iff.1 built
    exact valid
  exact accepted.map fun i valid => valid.thorough rfl

lemma ofReferences_yields (references : List DocumentReference) :
    Yields (ofReferences references) Thorough := by
  refine .ite fun filled => ?_
  have valid : (documents references).WellFormed := by
    refine ⟨fun empty => filled (List.isEmpty_iff.2 empty), fun d _ => ⟨d.segments, d.valid, ?_⟩⟩
    exact String.toList_ofList
  exact valid.thorough rfl

lemma ofDocuments_yields (paths : List String) : Yields (ofDocuments paths) Thorough :=
  .bind_all ofReferences_yields

lemma resolve_yields (items : List Selection) :
    Yields (Selection.resolve items) fun columns => columns.Sorted ∧ ∀ c ∈ columns, c.1 ≠ "" :=
  fun _ built => ⟨(Selection.resolve_ok built).1, (Selection.resolve_ok built).2.2⟩

lemma columnsOf_yields (stage : String) (items : List Selection) :
    Yields (columnsOf stage items) OutputColumns := by
  refine (resolve_yields items).bind fun columns valid => .ite fun filled => ?_
  exact ⟨fun empty => filled (List.isEmpty_iff.2 empty), valid⟩

lemma ofSelect_yields (items : List Selection) : Yields (ofSelect items) Thorough :=
  (columnsOf_yields _ items).map fun columns valid =>
    WellFormed.thorough (show (select columns).WellFormed from valid) rfl

lemma ofAddFields_yields (items : List Selection) : Yields (ofAddFields items) Thorough :=
  (columnsOf_yields _ items).map fun columns valid =>
    WellFormed.thorough (show (addFields columns).WellFormed from valid) rfl

lemma ofDistinct_yields (items : List Selection) : Yields (ofDistinct items) Thorough :=
  (columnsOf_yields _ items).map fun columns valid =>
    WellFormed.thorough (show (distinct columns).WellFormed from valid) rfl

lemma ofRemoveFields_yields (fields : List String) : Yields (ofRemoveFields fields) Thorough := by
  refine .ite fun filled => ?_
  have valid : (removeFields fields).WellFormed := fun empty => filled (List.isEmpty_iff.2 empty)
  exact valid.thorough rfl

lemma ofOffset_yields (n : Int64) : Yields (ofOffset n) Thorough := by
  refine .ite fun positive => ?_
  have valid : (offset n).WellFormed := Int64.toInt_nonneg_of_not_neg positive
  exact valid.thorough rfl

lemma ofLimit_yields (n : Int64) : Yields (ofLimit n) Thorough := by
  refine .ite fun positive => ?_
  have valid : (limit n).WellFormed := Int64.toInt_nonneg_of_not_neg positive
  exact valid.thorough rfl

lemma ofSort_yields (keys : List SortKey) (density : SortDensity) (truncation : SortTruncation) :
    Yields (ofSort keys density truncation) Thorough := by
  refine .ite fun filled => ?_
  have valid : (sort keys density truncation).WellFormed :=
    fun empty => filled (List.isEmpty_iff.2 empty)
  exact valid.thorough rfl

lemma ofAggregate_yields (targets : List AggregateTarget) {groups : Dictionary Expr}
    (sorted : groups.Sorted) (named : ∀ g ∈ groups, g.1 ≠ "") :
    Yields (ofAggregate targets groups) Thorough := by
  intro s made
  obtain ⟨nonempty, distinct, all, rfl, order, perm⟩ := ofAggregate_ok sorted.keys_nodup made
  have valid : (aggregate all groups).WellFormed := by
    refine ⟨?_, order, sorted, named, fun a ha => ?_⟩
    · rintro rfl
      exact nonempty (List.map_eq_nil_iff.1 perm.symm.eq_nil)
    · have output := (outputs_perm perm).subset (List.mem_map_of_mem ha)
      exact fun group => (List.nodup_append.1 distinct).2.2 _ group _ output rfl
  exact valid.thorough rfl

lemma ofFindNearest_yields (field : String) (vector : List Double) (measure : DistanceMeasure)
    (limit : Option Int64) (distanceField : Option String) :
    Yields (ofFindNearest field vector measure limit distanceField) Thorough := by
  unfold ofFindNearest
  split_ifs with empty
  · exact .error
  · have nonempty : vector ≠ [] := mt List.isEmpty_iff.2 empty
    cases limit with
    | none =>
      have valid : (findNearest field vector measure none distanceField).WellFormed :=
        ⟨nonempty, nofun⟩
      exact .ok (valid.thorough rfl)
    | some n =>
      refine .ite fun positive => ?_
      have valid : (findNearest field vector measure (some n) distanceField).WellFormed := by
        refine ⟨nonempty, ?_⟩
        rintro _ ⟨⟩
        exact Int64.toInt_nonneg_of_not_neg positive
      exact valid.thorough rfl

/-- A cross join has no condition, every other join has one that is not empty. -/
lemma checkJoin_yields (kind : JoinKind) (condition : Option JoinCondition) :
    Yields (checkJoin kind condition) fun _ =>
      (condition = none ↔ kind = .cross) ∧ condition ≠ some (.using []) := by
  cases condition with
  | none =>
    unfold checkJoin
    split_ifs with cross
    · exact .ok ⟨iff_of_true rfl cross, nofun⟩
    · exact .error
  | some condition =>
    unfold checkJoin
    split_ifs with cross
    · exact .error
    · dsimp only
      split
      · exact .error
      · rename_i other
        exact .ok ⟨iff_of_false nofun cross, fun same => other (Option.some.inj same)⟩

lemma ofJoin_yields (kind : JoinKind) (condition : Option JoinCondition)
    (leftAlias rightAlias : Option String) {right : Pipeline} (inside : right.WellFormed) :
    Yields (ofJoin kind condition leftAlias rightAlias right) Thorough := by
  refine (checkJoin_yields kind condition).bind fun _ valid => .ite fun filled => ?_
  exact ⟨⟨valid.1, valid.2, fun empty => filled (List.isEmpty_iff.2 empty)⟩, inside⟩

lemma ofUnnest_yields (field output : String) (mode : MergeMode) (indexField : Option String) :
    Yields (ofUnnest field output mode indexField) Thorough := by
  refine .ite fun named => ?_
  have valid : (unnest field output mode indexField).WellFormed := named
  exact valid.thorough rfl

lemma ofUnion_yields {other : Pipeline} (inside : other.WellFormed) :
    Yields (ofUnion other) Thorough :=
  .ite fun filled => ⟨fun empty => filled (List.isEmpty_iff.2 empty), inside⟩

lemma ofGeneric_yields (name : String) {args : List StageArgument}
    {options : List (String × StageArgument)}
    (positional : ∀ p, .pipeline p ∈ args → p.WellFormed)
    (named : ∀ key p, (key, .pipeline p) ∈ options → p.WellFormed) :
    Yields (ofGeneric name args options) Thorough := by
  refine .ite fun visible => ?_
  refine ⟨⟨Bool.eq_false_iff.2 visible, Dictionary.ofList_sorted options⟩, fun q held => ?_⟩
  rcases List.mem_append.1 held with first | later
  · obtain ⟨arg, harg, inside⟩ := StageArgument.mem_allContents.1 first
    cases arg with
    | expr e => cases inside
    | json d => cases List.mem_singleton.1 inside
    | pipeline p => exact positional p harg q inside
  · obtain ⟨⟨key, arg⟩, hoption, inside⟩ := StageArgument.mem_entryContents.1 later
    cases arg with
    | expr e => cases inside
    | json d => cases List.mem_singleton.1 inside
    | pipeline p => exact named key p (Dictionary.ofList_subset options _ hoption) q inside

end Stage

/-- The pipelines that the builder functions make, of pipelines made in the same way. -/
inductive Pipeline.Built : Pipeline → Prop where
  | empty : Built .empty
  | collection {path p} (made : Pipeline.collection path = .ok p) : Built p
  | collectionGroup {id p} (made : Pipeline.collectionGroup id = .ok p) : Built p
  | database : Built .database
  | documents {paths p} (made : Pipeline.documents paths = .ok p) : Built p
  | references {references p} (made : Pipeline.documentReferences references = .ok p) : Built p
  | query {q : StructuredQuery} {p} (made : q.toPipeline = .ok p) : Built p
  | withName {p} (base : Built p) (name : String) : Built (p.withName name)
  | select {p items q} (base : Built p) (made : p.select items = .ok q) : Built q
  | addFields {p items q} (base : Built p) (made : p.addFields items = .ok q) : Built q
  | removeFields {p fields q} (base : Built p) (made : p.removeFields fields = .ok q) : Built q
  | filter {p} (base : Built p) (condition : Condition) : Built (p.filter condition)
  | filterExpr {p e q} (base : Built p) (made : p.filterExpr e = .ok q) : Built q
  | offset {p n q} (base : Built p) (made : p.offset n = .ok q) : Built q
  | limit {p n q} (base : Built p) (made : p.limit n = .ok q) : Built q
  | sort {p keys density truncation q} (base : Built p)
      (made : p.sortWith keys density truncation = .ok q) : Built q
  | aggregate {p targets q} (base : Built p) (made : p.aggregate targets = .ok q) : Built q
  | aggregateGroups {p items g targets q} (base : Built p) (grouped : p.groupBy items = .ok g)
      (made : g.aggregate targets = .ok q) : Built q
  | distinct {p items q} (base : Built p) (made : p.distinct items = .ok q) : Built q
  | findNearest {p field vector measure limit distanceField q} (base : Built p)
      (made : p.findNearest field vector measure limit distanceField = .ok q) : Built q
  | join {p right kind condition aliases q} (base : Built p) (side : Built right)
      (made : p.join right kind condition aliases = .ok q) : Built q
  | crossJoin {p right q} (base : Built p) (side : Built right)
      (made : p.crossJoin right = .ok q) : Built q
  | unnest {p field output mode indexField q} (base : Built p)
      (made : p.unnest field output mode indexField = .ok q) : Built q
  | union {p other q} (base : Built p) (operand : Built other) (made : p.union other = .ok q) :
      Built q
  | sampleDocuments {p n size} (base : Built p) (sized : SampleSize.ofDocuments n = .ok size) :
      Built (p.sample size)
  | samplePercent {p x size} (base : Built p) (sized : SampleSize.ofPercent x = .ok size) :
      Built (p.sample size)
  | replace {p} (base : Built p) (e : Expr) (mode : MergeMode) : Built (p.replace e mode)
  | generic {p name args options q} (base : Built p)
      (positional : ∀ r, .pipeline r ∈ args → Built r)
      (named : ∀ key r, (key, .pipeline r) ∈ options → Built r)
      (made : p.generic name args options = .ok q) : Built q

/-! ### Functions that add stages -/

namespace Pipeline

variable {p : Pipeline}

lemma WellFormed.filter (h : p.WellFormed) (condition : Condition) :
    (p.filter condition).WellFormed := by
  have valid : (Stage.filter condition).WellFormed := trivial
  exact h.append (valid.thorough rfl)

lemma WellFormed.filterExpr (h : p.WellFormed) (e : Expr) : Yields (p.filterExpr e) WellFormed :=
  .map_all h.filter

lemma WellFormed.groupBy (h : p.WellFormed) (items : List Selection) :
    Yields (p.groupBy items) fun g =>
      g.base.WellFormed ∧ g.groups.Sorted ∧ ∀ c ∈ g.groups, c.1 ≠ "" := by
  intro g made
  obtain ⟨rfl, resolved, -⟩ := groupBy_ok made
  exact ⟨h, Stage.resolve_yields items _ resolved⟩

lemma WellFormed.requireFields (h : p.WellFormed) (paths : List String) :
    (StructuredQuery.requireFields p paths).WellFormed := by
  cases paths with
  | nil => exact h
  | cons first rest => exact h.filter _

lemma WellFormed.optionalStep (h : p.WellFormed) {α : Type} {step : α → Except BuildError Pipeline}
    (part : Option α) (keeps : ∀ a, Yields (step a) WellFormed) :
    Yields (p.optionalStep step part) WellFormed := by
  cases part with
  | none => exact .ok h
  | some a => exact keeps a

lemma WellFormed.addWindow (h : p.WellFormed) (q : StructuredQuery) :
    Yields (q.addWindow p) WellFormed := by
  rw [StructuredQuery.addWindow_eq]
  have sorted : Yields (p.sort (StructuredQuery.sortKeys q.orderBy)) WellFormed :=
    h.appendBuilt (Stage.ofSort_yields _ _ _)
  exact sorted.bind fun p h =>
    (h.optionalStep q.offset fun n => h.appendBuilt (Stage.ofOffset_yields n)).bind fun p h =>
    h.optionalStep q.limit fun n => h.appendBuilt (Stage.ofLimit_yields n)

lemma WellFormed.addAggregations (h : p.WellFormed) (aggregations : List QueryAggregation) :
    Yields (StructuredQuery.addAggregations aggregations p) WellFormed := by
  unfold StructuredQuery.addAggregations
  split_ifs
  · exact .ok h
  · refine .bind_all fun targets => ?_
    exact (h.requireFields _).appendBuilt (Stage.ofAggregate_yields targets .nil nofun)

/-- The pipeline of a query is built by the same functions. -/
lemma toPipeline_yields (q : StructuredQuery) : Yields q.toPipeline WellFormed := by
  rw [StructuredQuery.toPipeline_eq]
  have started : Yields q.source.start WellFormed := by
    cases q.source with
    | collection path =>
      exact (Stage.ofCollection_yields path).map fun _ => wellFormed_ofSource
    | collectionGroup id =>
      exact (Stage.ofCollectionGroup_yields id).map fun _ => wellFormed_ofSource
  have filtered {p : Pipeline} (h : p.WellFormed) (filter : QueryFilter) :
      Yields (filter.toCondition.map p.filter) WellFormed :=
    .map_all h.filter
  exact started.bind fun p h => (h.optionalStep q.filter (filtered h)).bind fun p h =>
    (Yields.ok (h.requireFields _)).bind fun p h => (h.addWindow q).bind fun p h =>
    h.addAggregations q.aggregations

lemma WellFormed.sample (h : p.WellFormed) {size : SampleSize} (sized : size.WellFormed) :
    (p.sample size).WellFormed := by
  have valid : (Stage.sample size).WellFormed := sized
  exact h.append (valid.thorough rfl)

/-- Every stage of a built pipeline, and of every pipeline that it holds at any depth, has what its
kind requires. -/
theorem built_stages_wellFormed (built : Built p) :
    ∀ q, .pipeline q ∈ p.contents → ∀ s ∈ q.stages, s.WellFormed := by
  change p.WellFormed
  induction built with
  | empty => exact wellFormed_empty
  | collection made =>
    exact (Stage.ofCollection_yields _).map (fun _ => wellFormed_ofSource) _ made
  | collectionGroup made =>
    exact (Stage.ofCollectionGroup_yields _).map (fun _ => wellFormed_ofSource) _ made
  | database =>
    have valid : Stage.database.WellFormed := trivial
    exact wellFormed_ofSource (valid.thorough rfl)
  | documents made =>
    exact (Stage.ofDocuments_yields _).map (fun _ => wellFormed_ofSource) _ made
  | references made =>
    exact (Stage.ofReferences_yields _).map (fun _ => wellFormed_ofSource) _ made
  | query made => exact toPipeline_yields _ _ made
  | withName base name h => exact h.withName name
  | select base made h => exact h.appendBuilt (Stage.ofSelect_yields _) _ made
  | addFields base made h => exact h.appendBuilt (Stage.ofAddFields_yields _) _ made
  | removeFields base made h => exact h.appendBuilt (Stage.ofRemoveFields_yields _) _ made
  | filter base condition h => exact h.filter condition
  | filterExpr base made h => exact h.filterExpr _ _ made
  | offset base made h => exact h.appendBuilt (Stage.ofOffset_yields _) _ made
  | limit base made h => exact h.appendBuilt (Stage.ofLimit_yields _) _ made
  | sort base made h => exact h.appendBuilt (Stage.ofSort_yields _ _ _) _ made
  | aggregate base made h => exact h.appendBuilt (Stage.ofAggregate_yields _ .nil nofun) _ made
  | aggregateGroups base grouped made h =>
    obtain ⟨inside, sorted, named⟩ := h.groupBy _ _ grouped
    exact inside.appendBuilt (Stage.ofAggregate_yields _ sorted named) _ made
  | distinct base made h => exact h.appendBuilt (Stage.ofDistinct_yields _) _ made
  | findNearest base made h =>
    exact h.appendBuilt (Stage.ofFindNearest_yields _ _ _ _ _) _ made
  | join base side made h h' => exact h.appendBuilt (Stage.ofJoin_yields _ _ _ _ h') _ made
  | crossJoin base side made h h' => exact h.appendBuilt (Stage.ofJoin_yields _ _ _ _ h') _ made
  | unnest base made h => exact h.appendBuilt (Stage.ofUnnest_yields _ _ _ _) _ made
  | union base operand made h h' => exact h.appendBuilt (Stage.ofUnion_yields h') _ made
  | sampleDocuments base sized h => exact h.sample (SampleSize.ofDocuments_yields _ _ sized)
  | samplePercent base sized h => exact h.sample (SampleSize.ofPercent_yields _ _ sized)
  | replace base e mode h =>
    have valid : (Stage.replace e mode).WellFormed := trivial
    exact h.append (valid.thorough rfl)
  | generic base positional named made h h' h'' =>
    exact h.appendBuilt (Stage.ofGeneric_yields _ h' h'') _ made

/-- The first ten users. -/
def tenUsers : Pipeline := ⟨none, [.collection "users", .limit 10]⟩

/-- Orders with those of the users that placed them. -/
def ordersOfUsers : Pipeline :=
  ⟨none, [.collection "orders", .join .left (some (.using ["user"])) none none tenUsers]⟩

/-- The join and the pipeline inside it. -/
theorem built_stages_wellFormed_join :
    Built ordersOfUsers ∧ (∀ s ∈ ordersOfUsers.stages, s.WellFormed) ∧
      ∀ s ∈ tenUsers.stages, s.WellFormed := by
  have orders : collection "orders" = .ok ⟨none, [.collection "orders"]⟩ := rfl
  have users : collection "users" = .ok ⟨none, [.collection "users"]⟩ := rfl
  have limited : limit ⟨none, [.collection "users"]⟩ 10 = .ok tenUsers := rfl
  have ten : Built tenUsers := (Built.collection users).limit limited
  have made : join ⟨none, [.collection "orders"]⟩ tenUsers .left (.using ["user"]) none =
      .ok ordersOfUsers := rfl
  have built : Built ordersOfUsers := (Built.collection orders).join ten made
  have outer : Content.pipeline ordersOfUsers ∈ ordersOfUsers.contents := List.mem_cons_self ..
  have inner : Content.pipeline tenUsers ∈ ordersOfUsers.contents :=
    List.mem_cons_of_mem _ (List.mem_cons_self ..)
  exact ⟨built, built_stages_wellFormed built _ outer, built_stages_wellFormed built _ inner⟩

end Pipeline

end DocumentQuery
