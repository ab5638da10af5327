import DocumentQuery.Proofs.BuiltStages

/-!
# Names of output columns

Projections and groups obey one rule: the names of their columns are distinct and not empty. An
aggregation puts groups and accumulators side by side. It looks for names that come twice, in both
of them, and not for a name that is empty.
-/

namespace DocumentQuery

namespace Stage

/-- The names of the columns that a stage makes. -/
def outputNames : Stage → List String
  | .aggregate accumulators groups => groups.map Prod.fst ++ accumulators.map Prod.fst
  | .select columns | .addFields columns | .distinct columns => columns.map Prod.fst
  | _ => []

/-- The groups of an aggregation: none, or those of a pipeline that was grouped. -/
inductive Grouping : Dictionary Expr → Prop where
  | none : Grouping []
  | keys {p : Pipeline} {items : List Selection} {g : GroupedPipeline}
      (made : p.groupBy items = .ok g) : Grouping g.groups

lemma Grouping.proper {groups : Dictionary Expr} (grouped : Grouping groups) :
    ProperNames (groups.map Prod.fst) := by
  cases grouped with
  | none => exact ⟨List.nodup_nil, List.not_mem_nil⟩
  | keys made => exact Selection.properNames_of_resolve (Pipeline.groupBy_ok made).2.1

/-! ### Projections -/

/-- The columns of a projection: there have to be some, and their names have to obey the rule. -/
lemma columnsOf_ok_iff {stage : String} {items : List Selection} :
    (∃ columns, columnsOf stage items = .ok columns) ↔
      items.flatMap Selection.columns ≠ [] ∧
        ProperNames ((items.flatMap Selection.columns).map Prod.fst) := by
  rw [← Selection.resolve_ok_iff]
  constructor
  · rintro ⟨columns, made⟩
    unfold columnsOf at made
    cases resolved : Selection.resolve items with
    | error e =>
      rw [resolved] at made
      cases made
    | ok all =>
      refine ⟨fun empty => ?_, all, rfl⟩
      have perm := (Selection.resolve_ok resolved).2.1
      rw [empty] at perm
      rw [resolved, perm.eq_nil] at made
      cases made
  · rintro ⟨nonempty, all, resolved⟩
    have perm := (Selection.resolve_ok resolved).2.1
    have nonempty : ¬all.isEmpty := by
      rw [List.isEmpty_iff]
      rintro rfl
      exact nonempty perm.symm.eq_nil
    refine ⟨all, ?_⟩
    unfold columnsOf
    rw [resolved]
    exact if_neg nonempty

lemma ofSelect_ok_iff {items : List Selection} :
    (∃ s, ofSelect items = .ok s) ↔
      items.flatMap Selection.columns ≠ [] ∧
        ProperNames ((items.flatMap Selection.columns).map Prod.fst) := by
  rw [ofSelect, exists_map_eq_ok_iff, columnsOf_ok_iff]

lemma aggregate_columns (targets : List AggregateTarget) :
    (targets.map Selection.aggregate).flatMap Selection.columns =
      targets.map fun t => (t.output, t.accumulator.toExpr) := by
  rw [List.flatMap_map, List.map_eq_flatMap]
  rfl

/-! ### Aggregations -/

variable {groups : Dictionary Expr} {targets : List AggregateTarget}

lemma ofAggregate_ok_iff (grouped : Grouping groups) (targets : List AggregateTarget) :
    (∃ s, ofAggregate targets groups = .ok s) ↔
      targets ≠ [] ∧ (groups.map Prod.fst ++ targets.map (·.output)).Nodup := by
  constructor
  · rintro ⟨s, made⟩
    obtain ⟨nonempty, distinct, -⟩ := ofAggregate_ok grouped.proper.1 made
    exact ⟨nonempty, distinct⟩
  · rintro ⟨nonempty, distinct⟩
    obtain ⟨all, made, -⟩ := ofAggregate_of_nodup groups nonempty distinct
    exact ⟨_, made⟩

lemma outputNames_perm (grouped : Grouping groups) {s : Stage}
    (made : ofAggregate targets groups = .ok s) :
    s.outputNames.Perm (groups.map Prod.fst ++ targets.map (·.output)) := by
  obtain ⟨-, -, all, rfl, -, perm⟩ := ofAggregate_ok grouped.proper.1 made
  exact (outputs_perm perm).append_left _

lemma outputNames_proper_iff (grouped : Grouping groups) {s : Stage}
    (made : ofAggregate targets groups = .ok s) :
    ProperNames s.outputNames ↔ "" ∉ targets.map (·.output) := by
  have perm := outputNames_perm grouped made
  have distinct := ((ofAggregate_ok_iff grouped targets).1 ⟨s, made⟩).2
  rw [ProperNames, perm.nodup_iff, perm.mem_iff, List.mem_append, not_or]
  exact ⟨fun h => h.2.2, fun named => ⟨distinct, grouped.proper.2, named⟩⟩

/-- An aggregation asks for distinct names, and its own are proper exactly if no target has an empty
name. A projection of the same targets is made only if their names are proper. -/
theorem aggregation_names (grouped : Grouping groups) (targets : List AggregateTarget) :
    ((∃ s, ofAggregate targets groups = .ok s) ↔
      targets ≠ [] ∧ (groups.map Prod.fst ++ targets.map (·.output)).Nodup) ∧
    (∀ s, ofAggregate targets groups = .ok s →
      s.outputNames.Perm (groups.map Prod.fst ++ targets.map (·.output)) ∧
        (ProperNames s.outputNames ↔ "" ∉ targets.map (·.output))) ∧
    ((∀ s, ofAggregate targets groups = .ok s → ProperNames s.outputNames) ↔
      targets = [] ∨ ¬(groups.map Prod.fst ++ targets.map (·.output)).Nodup ∨
        "" ∉ targets.map (·.output)) ∧
    ((∃ s, ofSelect (targets.map .aggregate) = .ok s) ↔
      targets ≠ [] ∧ ProperNames (targets.map (·.output))) := by
  have accepted := ofAggregate_ok_iff grouped targets
  refine ⟨accepted, fun s made =>
    ⟨outputNames_perm grouped made, outputNames_proper_iff grouped made⟩, ?_, ?_⟩
  · constructor
    · intro proper
      by_contra! unnamed
      obtain ⟨nonempty, distinct, empty⟩ := unnamed
      obtain ⟨s, made⟩ := accepted.2 ⟨nonempty, distinct⟩
      exact (outputNames_proper_iff grouped made).1 (proper s made) empty
    · intro sound s made
      obtain ⟨nonempty, distinct⟩ := accepted.1 ⟨s, made⟩
      rw [outputNames_proper_iff grouped made]
      exact (sound.resolve_left nonempty).resolve_left (not_not.2 distinct)
  · rw [ofSelect_ok_iff, aggregate_columns, List.map_map, ne_eq, List.map_eq_nil_iff]
    rfl

/-- Orders and their revenue by city. -/
def revenueTargets : List AggregateTarget :=
  [⟨.countAll, "n"⟩, ⟨.sum (.field "total"), "revenue"⟩]

/-- Names of groups and accumulators side by side. -/
theorem aggregation_names_by_city :
    ∃ g s, Pipeline.groupBy ⟨none, [.collection "orders"]⟩ [.field "city"] = .ok g ∧
      ofAggregate revenueTargets g.groups = .ok s ∧
      s.outputNames = ["city", "n", "revenue"] ∧ ProperNames s.outputNames := by
  have made : Pipeline.groupBy ⟨none, [.collection "orders"]⟩ [.field "city"] =
    .ok ⟨⟨none, [.collection "orders"]⟩, [("city", .field "city")]⟩ := rfl
  obtain ⟨-, names, -, -⟩ := aggregation_names (Grouping.keys made) revenueTargets
  refine ⟨_, _, made, rfl, rfl, ?_⟩
  exact (names _ rfl).2.2 (by decide)

/-- One count under the empty name makes an aggregation, and no column of a projection. -/
theorem empty_name_aggregated :
    Grouping [] ∧ ∃ s, ofAggregate [⟨.countAll, ""⟩] [] = .ok s ∧ ¬ProperNames s.outputNames ∧
      Selection.resolve [.aggregate ⟨.countAll, ""⟩] = .error (.argument .emptyOutputName) :=
  ⟨.none, _, rfl, fun proper => proper.2 (List.mem_singleton.2 rfl), rfl⟩

end Stage

end DocumentQuery
