import DocumentQuery.Proofs.Acceptance
import DocumentQuery.Proofs.BuiltStages

/-!
# Pipelines inside unions and joins

A union and a join ask of their operand that it has stages, and no more than that. Builder functions
put a source in front only, so a built pipeline that does not start with one was grown from the
empty pipeline and has none at all. Such an operand is taken, and its fault comes up when the result
is written.
-/

namespace DocumentQuery

/-- A function that makes a pipeline part of another one. -/
inductive Combination where
  | union
  | crossJoin
  | join (kind : JoinKind) (condition : JoinCondition) (aliases : Option (String × String))

namespace Combination

def apply : Combination → Pipeline → Pipeline → Except BuildError Pipeline
  | .union, p, other => p.union other
  | .crossJoin, p, other => p.crossJoin other
  | .join kind condition aliases, p, other => p.join other kind condition aliases

/-- Whether a join has a condition that its kind allows. -/
def Admissible : Combination → Prop
  | .join kind condition _ => kind ≠ .cross ∧ condition ≠ .using []
  | .union | .crossJoin => True

/-- The stage that holds the operand. -/
def stage (other : Pipeline) : Combination → Stage
  | .union => .union other
  | .crossJoin => .join .cross none none none other
  | .join kind condition aliases =>
    .join kind (some condition) (aliases.map (·.1)) (aliases.map (·.2)) other

/-- What is said of an operand without stages. -/
def missingSource : Combination → ArgumentFault
  | .union => .unionWithoutSource
  | .crossJoin | .join .. => .joinWithoutSource

end Combination

/-! ### What is taken -/

lemma Stage.checkJoin_ok_iff {kind : JoinKind} {condition : JoinCondition} :
    checkJoin kind (some condition) = .ok () ↔ kind ≠ .cross ∧ condition ≠ .using [] := by
  constructor
  · intro accepted
    obtain ⟨crossed, used⟩ := checkJoin_yields kind (some condition) () accepted
    refine ⟨fun cross => ?_, fun nothing => used (congrArg some nothing)⟩
    cases crossed.2 cross
  · rintro ⟨crossed, used⟩
    cases condition with
    | on condition => exact if_neg crossed
    | «using» fields =>
      cases fields with
      | nil => exact absurd rfl used
      | cons field fields => exact if_neg crossed

lemma Stage.ofUnion_ok_iff {other : Pipeline} {s : Stage} :
    ofUnion other = .ok s ↔ other.stages ≠ [] ∧ s = .union other := by
  unfold ofUnion Pipeline.isEmpty
  cases other.stages with
  | nil => simp
  | cons first rest => simp [eq_comm]

lemma Stage.ofJoin_ok_iff {kind : JoinKind} {condition : Option JoinCondition}
    {leftAlias rightAlias : Option String} {right : Pipeline} {s : Stage} :
    ofJoin kind condition leftAlias rightAlias right = .ok s ↔
      checkJoin kind condition = .ok () ∧ right.stages ≠ [] ∧
        s = .join kind condition leftAlias rightAlias right := by
  unfold ofJoin Pipeline.isEmpty
  cases checkJoin kind condition with
  | error e => simp [bind, Except.bind]
  | ok checked =>
    cases right.stages with
    | nil => simp [bind, Except.bind]
    | cons first rest => simp [bind, Except.bind, eq_comm]

/-- An operand is taken if it has stages. -/
lemma Combination.apply_ok_iff {c : Combination} {p other q : Pipeline} :
    c.apply p other = .ok q ↔ c.Admissible ∧ other.stages ≠ [] ∧ q = p.append (c.stage other) := by
  cases c with
  | union =>
    rw [apply, Pipeline.union, Pipeline.appendBuilt, map_eq_ok_iff]
    simp [Stage.ofUnion_ok_iff, Admissible, stage]
  | crossJoin =>
    have allowed : Stage.checkJoin .cross none = .ok () := rfl
    rw [apply, Pipeline.crossJoin, Pipeline.appendBuilt, map_eq_ok_iff]
    simp [Stage.ofJoin_ok_iff, allowed, Admissible, stage]
  | join kind condition aliases =>
    rw [apply, Pipeline.join, Pipeline.appendBuilt, map_eq_ok_iff]
    simp [Stage.ofJoin_ok_iff, Stage.checkJoin_ok_iff, Admissible, stage, and_assoc]

lemma Combination.apply_empty {c : Combination} {p other : Pipeline} (allowed : c.Admissible)
    (sourceless : other.stages = []) : c.apply p other = .error (.argument c.missingSource) := by
  have empty : other.isEmpty = true := List.isEmpty_iff.2 sourceless
  cases c with
  | union =>
    rw [apply, Pipeline.union, Stage.ofUnion, if_pos empty]
    rfl
  | crossJoin =>
    rw [apply, Pipeline.crossJoin, Stage.ofJoin, if_pos empty]
    rfl
  | join kind condition aliases =>
    rw [apply, Pipeline.join, Stage.ofJoin, Stage.checkJoin_ok_iff.2 allowed, if_pos empty]
    rfl

lemma Combination.stage_isSource (c : Combination) (other : Pipeline) :
    (c.stage other).isSource = false := by
  cases c <;> rfl

lemma Combination.stage_contents (c : Combination) (other : Pipeline) :
    (c.stage other).contents = other.contents := by
  cases c <;> rw [stage, Stage.contents]

/-! ### What is reported when the result is written -/

namespace Pipeline

lemma toWire_reports (p : Pipeline) :
    Reports (allFaults p.contents) (fun w : WirePipeline => p.WrittenAs w.stages) p.toWire :=
  p.toWireStages_reports.map _ fun _ => id

/-- The faults of a pipeline that can be written and has a stage added are those of the stage. -/
lemma allFaults_append_stage {p : Pipeline} {w : WirePipeline} (written : p.toWire = .ok w)
    {s : Stage} (plain : s.isSource = false) :
    allFaults (p.append s).contents = allFaults s.contents := by
  obtain ⟨name, stages⟩ := p
  have clean := ((toWire_reports ⟨name, stages⟩).ok w written).1
  rw [contents, allFaults, List.flatMap_cons, List.append_eq_nil_iff] at clean
  obtain ⟨sources, inside⟩ := clean
  obtain ⟨source, rest, rfl, reads, others⟩ := sourceFaults_eq_nil.1 sources
  have sourced : (append ⟨name, source :: rest⟩ s).WellSourced :=
    ⟨source, rest ++ [s], rfl, reads,
      List.forall_mem_append.2 ⟨others, List.forall_mem_singleton.2 plain⟩⟩
  have front := sourceFaults_eq_nil.2 sourced
  have last : Stage.allContents [s] = s.contents := by
    rw [Stage.allContents, Stage.allContents, List.append_nil]
  calc allFaults (append ⟨name, source :: rest⟩ s).contents
      = (append ⟨name, source :: rest⟩ s).sourceFaults ++
          allFaults (Stage.allContents ((source :: rest) ++ [s])) := by
        rw [append, contents, allFaults, List.flatMap_cons]
        rfl
    _ = allFaults (Stage.allContents (source :: rest)) ++ allFaults s.contents := by
        rw [front, List.nil_append, Stage.allContents_append, allFaults_append, last]
    _ = allFaults s.contents := by
        rw [allFaults, inside, List.nil_append]

/-- Writing a pipeline with an operand fails as writing the operand does. -/
lemma toWire_combined_error_iff {p other : Pipeline} {w : WirePipeline}
    (written : p.toWire = .ok w) (c : Combination) {e : BuildError} :
    (p.append (c.stage other)).toWire = .error e ↔ other.toWire = .error e := by
  rw [(toWire_reports _).eq_error_iff, (toWire_reports other).eq_error_iff,
    allFaults_append_stage written (c.stage_isSource other), c.stage_contents]

/-- An operand that does not start with its only source is refused by the first check. -/
lemma toWire_eq_validate {p : Pipeline} (unsound : ¬p.WellSourced) :
    ∃ e, p.validate = .error e ∧ p.toWire = .error e := by
  have report := p.validate_reports
  cases checked : p.validate with
  | ok valid => exact absurd (sourceFaults_eq_nil.1 (report.ok valid checked).1) unsound
  | error e =>
    refine ⟨e, rfl, ?_⟩
    rw [toWire, toWireStages_eq, checked]
    rfl

/-! ### Where built pipelines have sources -/

/-- No stage but the first reads from storage. -/
def SourcesLead (p : Pipeline) : Prop := ∀ s ∈ p.stages.tail, s.isSource = false

lemma sourcesLead_ofSource (s : Stage) : (ofSource s).SourcesLead := nofun

variable {p : Pipeline}

lemma SourcesLead.append (h : p.SourcesLead) {s : Stage} (plain : s.isSource = false) :
    (p.append s).SourcesLead := by
  obtain ⟨name, stages⟩ := p
  cases stages with
  | nil => exact nofun
  | cons first rest => exact List.forall_mem_append.2 ⟨h, List.forall_mem_singleton.2 plain⟩

lemma SourcesLead.appendBuilt (h : p.SourcesLead) {x : Except BuildError Stage}
    (plain : Yields x fun s => s.isSource = false) : Yields (p.appendBuilt x) SourcesLead :=
  plain.map fun _ => h.append

lemma ofAggregate_plain (targets : List AggregateTarget) (groups : Dictionary Expr) :
    Yields (Stage.ofAggregate targets groups) fun s => s.isSource = false := by
  unfold Stage.ofAggregate
  split_ifs
  · exact .error
  · exact .map_all fun _ => rfl

lemma ofFindNearest_plain (field : String) (vector : List Double) (measure : DistanceMeasure)
    (limit : Option Int64) (distanceField : Option String) :
    Yields (Stage.ofFindNearest field vector measure limit distanceField)
      fun s => s.isSource = false := by
  unfold Stage.ofFindNearest
  split_ifs
  · exact .error
  · cases limit with
    | none => exact .ok rfl
    | some n => exact .ite fun _ => rfl

lemma ofJoin_plain (kind : JoinKind) (condition : Option JoinCondition)
    (leftAlias rightAlias : Option String) (right : Pipeline) :
    Yields (Stage.ofJoin kind condition leftAlias rightAlias right)
      fun s => s.isSource = false := by
  intro s made
  obtain ⟨-, -, rfl⟩ := Stage.ofJoin_ok_iff.1 made
  rfl

lemma toPipeline_sourcesLead (q : StructuredQuery) : Yields q.toPipeline SourcesLead := by
  intro p made
  obtain ⟨stages, answered, rfl⟩ := q.toPipeline_appends.of_ok made
  obtain ⟨rest, rfl, submittable⟩ := answered.submittable
  exact fun s hs => (submittable s hs).1

/-- Builder functions put a source in front, and add no other one. -/
lemma Built.sourcesLead (built : Built p) : p.SourcesLead := by
  induction built with
  | empty => exact nofun
  | collection made => exact Yields.map_all sourcesLead_ofSource _ made
  | collectionGroup made => exact Yields.map_all sourcesLead_ofSource _ made
  | database => exact sourcesLead_ofSource _
  | documents made => exact Yields.map_all sourcesLead_ofSource _ made
  | references made => exact Yields.map_all sourcesLead_ofSource _ made
  | query made => exact toPipeline_sourcesLead _ _ made
  | withName base name h => exact h
  | select base made h => exact h.appendBuilt (.map_all fun _ => rfl) _ made
  | addFields base made h => exact h.appendBuilt (.map_all fun _ => rfl) _ made
  | removeFields base made h => exact h.appendBuilt (.ite fun _ => rfl) _ made
  | filter base condition h => exact h.append rfl
  | filterExpr base made h => exact Yields.map_all (fun _ => h.append rfl) _ made
  | offset base made h => exact h.appendBuilt (.ite fun _ => rfl) _ made
  | limit base made h => exact h.appendBuilt (.ite fun _ => rfl) _ made
  | sort base made h => exact h.appendBuilt (.ite fun _ => rfl) _ made
  | aggregate base made h => exact h.appendBuilt (ofAggregate_plain _ _) _ made
  | aggregateGroups base grouped made h =>
    obtain ⟨rfl, -, -⟩ := groupBy_ok grouped
    exact h.appendBuilt (ofAggregate_plain _ _) _ made
  | distinct base made h => exact h.appendBuilt (.map_all fun _ => rfl) _ made
  | findNearest base made h => exact h.appendBuilt (ofFindNearest_plain _ _ _ _ _) _ made
  | join base side made h => exact h.appendBuilt (ofJoin_plain _ _ _ _ _) _ made
  | crossJoin base side made h => exact h.appendBuilt (ofJoin_plain _ _ _ _ _) _ made
  | unnest base made h => exact h.appendBuilt (.ite fun _ => rfl) _ made
  | union base operand made h => exact h.appendBuilt (.ite fun _ => rfl) _ made
  | sampleDocuments base sized h => exact h.append rfl
  | samplePercent base sized h => exact h.append rfl
  | replace base e mode h => exact h.append rfl
  | generic base positional named made h => exact h.appendBuilt (.ite fun _ => rfl) _ made

lemma SourcesLead.wellSourced_iff (h : p.SourcesLead) :
    p.WellSourced ↔ ∃ s ∈ p.stages, s.isSource = true := by
  obtain ⟨name, stages⟩ := p
  constructor
  · rintro ⟨source, rest, rfl, reads, -⟩
    exact ⟨source, List.mem_cons_self .., reads⟩
  · rintro ⟨s, hs, reads⟩
    cases stages with
    | nil => cases hs
    | cons first rest =>
      rcases List.mem_cons.1 hs with rfl | later
      · exact ⟨s, rest, rfl, reads, h⟩
      · rw [h s later] at reads
        cases reads

/-- An operand is taken exactly if it has stages, wherever its sources are. If they are not where
validation wants them, writing the result fails with what validation says of the operand. -/
theorem operand_needs_only_stages (c : Combination) (p other : Pipeline) :
    ((∃ q, c.apply p other = .ok q) ↔ c.Admissible ∧ other.stages ≠ []) ∧
    (c.Admissible → other.stages = [] → c.apply p other = .error (.argument c.missingSource)) ∧
    ((∀ q, c.apply p other = .ok q → other.WellSourced) ↔
      ¬c.Admissible ∨ other.stages = [] ∨ other.WellSourced) ∧
    (∀ q w, c.apply p other = .ok q → p.toWire = .ok w → ¬other.WellSourced →
      ∃ e, other.validate = .error e ∧ q.toWire = .error e) ∧
    (Built other → (other.WellSourced ↔ ∃ s ∈ other.stages, s.isSource = true)) := by
  have taken : (∃ q, c.apply p other = .ok q) ↔ c.Admissible ∧ other.stages ≠ [] := by
    constructor
    · rintro ⟨q, made⟩
      obtain ⟨allowed, nonempty, -⟩ := Combination.apply_ok_iff.1 made
      exact ⟨allowed, nonempty⟩
    · rintro ⟨allowed, nonempty⟩
      exact ⟨_, Combination.apply_ok_iff.2 ⟨allowed, nonempty, rfl⟩⟩
  refine ⟨taken, Combination.apply_empty, ?_, ?_, fun built => built.sourcesLead.wellSourced_iff⟩
  · calc (∀ q, c.apply p other = .ok q → other.WellSourced)
        ↔ ((∃ q, c.apply p other = .ok q) → other.WellSourced) := exists_imp.symm
      _ ↔ (c.Admissible ∧ other.stages ≠ [] → other.WellSourced) := by rw [taken]
      _ ↔ ¬c.Admissible ∨ other.stages = [] ∨ other.WellSourced := by tauto
  · intro q w made written unsound
    obtain ⟨-, -, rfl⟩ := Combination.apply_ok_iff.1 made
    obtain ⟨e, invalid, refused⟩ := toWire_eq_validate unsound
    exact ⟨e, invalid, (toWire_combined_error_iff written c).2 refused⟩

/-- All users. -/
def users : Pipeline := ⟨none, [.collection "users"]⟩

/-- A limit on the empty pipeline. -/
def headless : Pipeline := ⟨none, [.limit 5]⟩

lemma built_headless : Built headless := by
  have limited : limit .empty 5 = .ok headless := rfl
  exact Built.empty.limit limited

lemma not_wellSourced_headless : ¬headless.WellSourced := by
  rw [built_headless.sourcesLead.wellSourced_iff]
  rintro ⟨s, hs, reads⟩
  cases List.mem_singleton.1 hs
  cases reads

/-- A join with users is fine, a join with the headless pipeline is made and cannot be written. -/
theorem operand_needs_only_stages_join :
    (∃ q, Combination.crossJoin.apply tenUsers users = .ok q) ∧
    ∃ q e, Combination.crossJoin.apply users headless = .ok q ∧ headless.validate = .error e ∧
      q.toWire = .error e := by
  have written : users.toWire = .ok ⟨[⟨"collection", [.reference "/users"], []⟩]⟩ := rfl
  obtain ⟨taken, -⟩ := operand_needs_only_stages .crossJoin tenUsers users
  obtain ⟨taken', -, -, reported, -⟩ := operand_needs_only_stages .crossJoin users headless
  obtain ⟨q, made⟩ := taken'.2 ⟨trivial, List.cons_ne_nil _ _⟩
  obtain ⟨e, invalid, refused⟩ := reported q _ made written not_wellSourced_headless
  exact ⟨taken.2 ⟨trivial, List.cons_ne_nil _ _⟩, q, e, made, invalid, refused⟩

/-- A union with the headless pipeline is made, and the missing source is reported by the writer. -/
theorem headless_operand_taken :
    Built headless ∧ ¬headless.WellSourced ∧
      ∃ q, Combination.union.apply users headless = .ok q ∧
        q.toWire = .error (.argument (.noSourceFirst "limit")) :=
  ⟨built_headless, not_wellSourced_headless, ⟨none, [.collection "users", .union headless]⟩, rfl,
    rfl⟩

end Pipeline

end DocumentQuery
