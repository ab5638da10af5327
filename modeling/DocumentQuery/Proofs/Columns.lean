import Mathlib.Tactic
import DocumentQuery.Pipeline.Build
import DocumentQuery.Proofs.Arrangement

/-!
# Resolved columns

A dictionary that grows by fresh keys stays sorted and keeps all of its entries. So the columns that
a list of selections resolves to are those of the selections, each of them once, under names that
are non-empty and distinct. Accumulators are collected in the same way, apart from the groups.
-/

namespace DocumentQuery

namespace Dictionary

variable {α : Type} {key : String} {value : α} {entries : Dictionary α}

lemma contains_iff : entries.contains key = true ↔ key ∈ entries.map Prod.fst := by
  simp [contains]

lemma insert_perm (fresh : key ∉ entries.map Prod.fst) :
    (insert key value entries).Perm ((key, value) :: entries) := by
  induction entries with
  | nil => rfl
  | cons e rest ih =>
    obtain ⟨k, v⟩ := e
    have other : key ≠ k := fun same => fresh (by simp [same])
    have later : key ∉ rest.map Prod.fst := fun found => fresh (List.mem_cons_of_mem _ found)
    unfold insert
    split_ifs
    · exact .refl _
    · exact ((ih later).cons (k, v)).trans (.swap _ _ _)

lemma insert_sorted (sorted : entries.Sorted) (fresh : key ∉ entries.map Prod.fst) :
    (insert key value entries).Sorted := by
  induction entries with
  | nil => exact sorted_singleton _
  | cons e rest ih =>
    obtain ⟨k, v⟩ := e
    obtain ⟨least, sorted'⟩ := List.pairwise_cons.1 sorted
    have other : key ≠ k := fun same => fresh (by simp [same])
    have later : key ∉ rest.map Prod.fst := fun found => fresh (List.mem_cons_of_mem _ found)
    unfold insert
    split_ifs with first
    · refine List.pairwise_cons.2 ⟨fun e he => ?_, sorted⟩
      rcases List.mem_cons.1 he with rfl | he
      · exact first
      · exact String.lt_trans first (least e he)
    · refine List.pairwise_cons.2 ⟨fun e he => ?_, ih sorted' later⟩
      rcases List.mem_cons.1 ((insert_perm later).subset he) with rfl | he
      · exact Std.lt_of_le_of_ne (String.not_lt.1 first) other.symm
      · exact least e he

end Dictionary

/-- The rule for the names of output columns. -/
def ProperNames (names : List String) : Prop := names.Nodup ∧ "" ∉ names

namespace Selection

/-- What has been resolved so far is kept, and every column is added to it under a name of its
own. -/
lemma resolveColumns_ok {columns : List (String × Expr)} {resolved all : Dictionary Expr}
    (sorted : resolved.Sorted) (built : resolveColumns resolved columns = .ok all) :
    all.Sorted ∧ all.Perm (columns ++ resolved) ∧ ∀ c ∈ columns, c.1 ≠ "" := by
  induction columns generalizing resolved with
  | nil =>
    cases built
    exact ⟨sorted, .refl _, by simp⟩
  | cons column rest ih =>
    obtain ⟨name, expr⟩ := column
    unfold resolveColumns at built
    split_ifs at built with empty taken
    have fresh : name ∉ resolved.map Prod.fst := fun found =>
      taken (Dictionary.contains_iff.2 found)
    obtain ⟨order, perm, named⟩ := ih (Dictionary.insert_sorted sorted fresh) built
    refine ⟨order, ?_, ?_⟩
    · have inserted : (resolved.insert name expr).Perm ((name, expr) :: resolved) :=
        Dictionary.insert_perm fresh
      exact perm.trans ((inserted.append_left rest).trans List.perm_middle)
    · intro c hc
      rcases List.mem_cons.1 hc with rfl | later
      · exact empty
      · exact named c later

/-- The columns of a list of selections, by name. -/
theorem resolve_ok {items : List Selection} {all : Dictionary Expr}
    (built : resolve items = .ok all) :
    all.Sorted ∧ all.Perm (items.flatMap columns) ∧ ∀ c ∈ all, c.1 ≠ "" := by
  have empty : Dictionary.Sorted ([] : Dictionary Expr) := List.Pairwise.nil
  obtain ⟨sorted, perm, named⟩ := resolveColumns_ok empty built
  rw [List.append_nil] at perm
  exact ⟨sorted, perm, fun c hc => named c (perm.subset hc)⟩

lemma resolveColumns_of_proper {columns : List (String × Expr)} {resolved : Dictionary Expr}
    (distinct : (resolved.map Prod.fst ++ columns.map Prod.fst).Nodup)
    (named : "" ∉ columns.map Prod.fst) : ∃ all, resolveColumns resolved columns = .ok all := by
  induction columns generalizing resolved with
  | nil => exact ⟨resolved, rfl⟩
  | cons column rest ih =>
    obtain ⟨name, expr⟩ := column
    obtain ⟨nonempty, named'⟩ := not_or.1 (List.mem_cons.not.1 named)
    have distinct' := List.perm_middle.nodup_iff.1 distinct
    have fresh : name ∉ resolved.map Prod.fst := fun found =>
      (List.nodup_cons.1 distinct').1 (List.mem_append_left _ found)
    have keys : ((resolved.insert name expr).map Prod.fst).Perm (name :: resolved.map Prod.fst) :=
      (Dictionary.insert_perm fresh).map Prod.fst
    rw [← Dictionary.contains_iff, Bool.not_eq_true] at fresh
    obtain ⟨all, resolved'⟩ := ih ((keys.append_right _).nodup_iff.2 distinct') named'
    refine ⟨all, ?_⟩
    rw [resolveColumns, if_neg (Ne.symm nonempty), fresh]
    exact resolved'

lemma properNames_of_resolve {items : List Selection} {all : Dictionary Expr}
    (built : resolve items = .ok all) : ProperNames (all.map Prod.fst) := by
  obtain ⟨sorted, -, named⟩ := resolve_ok built
  refine ⟨sorted.keys_nodup, fun found => ?_⟩
  obtain ⟨c, hc, empty⟩ := List.mem_map.1 found
  exact named c hc empty

/-- Selections are resolved exactly if the names of their columns obey the rule. -/
theorem resolve_ok_iff {items : List Selection} :
    (∃ all, resolve items = .ok all) ↔ ProperNames ((items.flatMap columns).map Prod.fst) := by
  constructor
  · rintro ⟨all, built⟩
    have keys := (resolve_ok built).2.1.map Prod.fst
    obtain ⟨distinct, named⟩ := properNames_of_resolve built
    exact ⟨keys.nodup_iff.1 distinct, keys.mem_iff.not.1 named⟩
  · rintro ⟨distinct, named⟩
    exact resolveColumns_of_proper distinct named

end Selection

/-! ### Accumulators -/

/-- Either no name comes twice, or there is a first item whose name has come before. -/
lemma nodup_or_first_repeat {α : Type} (name : α → String) {known : List String}
    (distinct : known.Nodup) (items : List α) :
    (known ++ items.map name).Nodup ∨
      ∃ before item after, items = before ++ item :: after ∧
        (known ++ before.map name).Nodup ∧ name item ∈ known ++ before.map name := by
  induction items using List.reverseRecOn with
  | nil => exact .inl (by simpa using distinct)
  | append_singleton earlier last ih =>
    rcases ih with distinct' | ⟨before, item, after, rfl, distinct', found⟩
    · by_cases found : name last ∈ known ++ earlier.map name
      · exact .inr ⟨earlier, last, [], rfl, distinct', found⟩
      · refine .inl ?_
        rw [List.map_append, List.map_singleton, ← List.append_assoc, ← List.concat_eq_append]
        exact List.Nodup.concat found distinct'
    · exact .inr ⟨before, item, after ++ [last], by simp, distinct', found⟩

namespace Stage

variable {groups : Dictionary Expr} {accumulators : Dictionary Accumulator}
  {target : AggregateTarget} {targets rest : List AggregateTarget}

lemma addTargets_cons_free (noGroup : target.output ∉ groups.map Prod.fst)
    (fresh : target.output ∉ accumulators.map Prod.fst) :
    addTargets groups accumulators (target :: rest) =
      addTargets groups (accumulators.insert target.output target.accumulator) rest := by
  rw [← Dictionary.contains_iff, Bool.not_eq_true] at noGroup fresh
  rw [addTargets, noGroup, fresh]
  rfl

lemma addTargets_cons_taken
    (taken : target.output ∈ groups.map Prod.fst ++ accumulators.map Prod.fst) :
    addTargets groups accumulators (target :: rest) = .error (.duplicate target.output) := by
  rw [addTargets, if_pos]
  rwa [Bool.or_eq_true, Dictionary.contains_iff, Dictionary.contains_iff, ← List.mem_append]

/-- Accumulators are added one by one in the order of their names, as long as no name is taken. -/
lemma addTargets_of_nodup (sorted : accumulators.Sorted)
    (distinct :
      (groups.map Prod.fst ++ accumulators.map Prod.fst ++ targets.map (·.output)).Nodup) :
    ∃ all, addTargets groups accumulators targets = .ok all ∧ all.Sorted ∧
      all.Perm (targets.map (fun t => (t.output, t.accumulator)) ++ accumulators) := by
  induction targets generalizing accumulators with
  | nil => exact ⟨accumulators, rfl, sorted, .refl _⟩
  | cons target rest ih =>
    have distinct' := List.perm_middle.nodup_iff.1 distinct
    have fresh := (List.nodup_cons.1 distinct').1
    rw [List.mem_append, List.mem_append, not_or, not_or] at fresh
    obtain ⟨⟨noGroup, new⟩, later⟩ := fresh
    have inserted : (accumulators.insert target.output target.accumulator).Perm
        ((target.output, target.accumulator) :: accumulators) := Dictionary.insert_perm new
    have keys : (groups.map Prod.fst ++
        (accumulators.insert target.output target.accumulator).map Prod.fst).Perm
        (target.output :: (groups.map Prod.fst ++ accumulators.map Prod.fst)) :=
      ((inserted.map Prod.fst).append_left _).trans List.perm_middle
    obtain ⟨all, added, order, perm⟩ :=
      ih (Dictionary.insert_sorted sorted new) ((keys.append_right _).nodup_iff.2 distinct')
    refine ⟨all, ?_, order, perm.trans ((inserted.append_left _).trans List.perm_middle)⟩
    rw [addTargets_cons_free noGroup new]
    exact added

lemma addTargets_append :
    addTargets groups accumulators (targets ++ rest) =
      addTargets groups accumulators targets >>= fun all => addTargets groups all rest := by
  induction targets generalizing accumulators with
  | nil => rfl
  | cons target targets ih =>
    rw [List.cons_append, addTargets, addTargets]
    split_ifs
    · rfl
    · exact ih

lemma outputs_perm {all : Dictionary Accumulator}
    (perm : all.Perm (targets.map fun t => (t.output, t.accumulator))) :
    (all.map Prod.fst).Perm (targets.map (·.output)) := by
  simpa [Function.comp_def] using perm.map Prod.fst

/-- The first accumulator whose name is taken is refused. -/
lemma addTargets_of_repeat
    (distinct : (groups.map Prod.fst ++ targets.map (·.output)).Nodup)
    (taken : target.output ∈ groups.map Prod.fst ++ targets.map (·.output)) :
    addTargets groups [] (targets ++ target :: rest) = .error (.duplicate target.output) := by
  have empty : Dictionary.Sorted ([] : Dictionary Accumulator) := .nil
  rw [← List.append_nil (groups.map Prod.fst)] at distinct
  obtain ⟨all, added, -, perm⟩ := addTargets_of_nodup empty distinct
  rw [List.append_nil] at perm
  rw [addTargets_append, added]
  refine addTargets_cons_taken ?_
  rwa [((outputs_perm perm).append_left _).mem_iff]

lemma ofAggregate_of_nodup (groups : Dictionary Expr) (nonempty : targets ≠ [])
    (distinct : (groups.map Prod.fst ++ targets.map (·.output)).Nodup) :
    ∃ all : Dictionary Accumulator, ofAggregate targets groups = .ok (.aggregate all groups) ∧
      all.Sorted ∧ all.Perm (targets.map fun t => (t.output, t.accumulator)) := by
  have empty : Dictionary.Sorted ([] : Dictionary Accumulator) := .nil
  rw [← List.append_nil (groups.map Prod.fst)] at distinct
  obtain ⟨all, added, sorted, perm⟩ := addTargets_of_nodup empty distinct
  rw [List.append_nil] at perm
  refine ⟨all, ?_, sorted, perm⟩
  rw [ofAggregate, if_neg (by rwa [List.isEmpty_iff]), added]
  rfl

lemma ofAggregate_of_repeat (groups : Dictionary Expr) (rest : List AggregateTarget)
    (distinct : (groups.map Prod.fst ++ targets.map (·.output)).Nodup)
    (taken : target.output ∈ groups.map Prod.fst ++ targets.map (·.output)) :
    ofAggregate (targets ++ target :: rest) groups = .error (.duplicate target.output) := by
  rw [ofAggregate, if_neg (by simp), addTargets_of_repeat distinct taken]
  rfl

/-- An aggregation has one accumulator for each target, under names that are distinct and apart from
those of the groups. -/
lemma ofAggregate_ok {s : Stage} (grouped : (groups.map Prod.fst).Nodup)
    (made : ofAggregate targets groups = .ok s) :
    targets ≠ [] ∧ (groups.map Prod.fst ++ targets.map (·.output)).Nodup ∧
      ∃ all : Dictionary Accumulator, s = .aggregate all groups ∧ all.Sorted ∧
        all.Perm (targets.map fun t => (t.output, t.accumulator)) := by
  have nonempty : targets ≠ [] := by
    rintro rfl
    cases made
  rcases nodup_or_first_repeat AggregateTarget.output grouped targets with
    distinct | ⟨before, target, after, rfl, distinct, taken⟩
  · obtain ⟨all, made', sorted, perm⟩ := ofAggregate_of_nodup groups nonempty distinct
    exact ⟨nonempty, distinct, all, Except.ok.inj (made.symm.trans made'), sorted, perm⟩
  · rw [ofAggregate_of_repeat groups after distinct taken] at made
    cases made

end Stage

lemma Pipeline.groupBy_ok {p : Pipeline} {items : List Selection} {g : GroupedPipeline}
    (made : p.groupBy items = .ok g) :
    g.base = p ∧ Selection.resolve items = .ok g.groups ∧ g.groups ≠ [] := by
  unfold groupBy at made
  cases resolved : Selection.resolve items with
  | error e =>
    rw [resolved] at made
    cases made
  | ok groups =>
    rw [resolved] at made
    change (if groups.isEmpty then _ else _) = _ at made
    split_ifs at made with filled
    cases made
    exact ⟨rfl, rfl, fun empty => filled (List.isEmpty_iff.2 empty)⟩

end DocumentQuery
