import DocumentQuery.Pipeline.Wire
import DocumentQuery.Proofs.Columns

/-!
# The order of selections

Selections are resolved column by column, whichever of them a column belongs to. The first column
that breaks the rule for names is reported; otherwise every column is kept under its name. The names
put the columns in order, so the order of the selections does not show in what is made of them.
-/

namespace DocumentQuery

/-- What is wrong with the name of a column that stands behind columns of the known names. -/
inductive NameFault (known : List String) : String → BuildError → Prop where
  | unnamed {name : String} (empty : name = "") : NameFault known name (.argument .emptyOutputName)
  | repeated {name : String} (nonempty : name ≠ "") (taken : name ∈ known) :
      NameFault known name (.duplicate name)

/-- The rule for names treats the empty name like one that is taken from the start. -/
lemma properNames_iff {names : List String} : ProperNames names ↔ ([""] ++ names).Nodup := by
  rw [List.singleton_append, List.nodup_cons, ProperNames, and_comm]

/-- Either the names of columns obey the rule, or there is a first column that breaks it. -/
lemma proper_or_first_fault {α : Type} (columns : List (String × α)) :
    ProperNames (columns.map Prod.fst) ∨
      ∃ before column after e, columns = before ++ column :: after ∧
        ProperNames (before.map Prod.fst) ∧ NameFault (before.map Prod.fst) column.1 e := by
  simp only [properNames_iff]
  rcases nodup_or_first_repeat Prod.fst (List.nodup_singleton "") columns with
    distinct | ⟨before, column, after, split, distinct, taken⟩
  · exact .inl distinct
  · by_cases empty : column.1 = ""
    · exact .inr ⟨before, column, after, _, split, distinct, .unnamed empty⟩
    · have repeated := (List.mem_cons.1 taken).resolve_left empty
      exact .inr ⟨before, column, after, _, split, distinct, .repeated empty repeated⟩

namespace Selection

variable {resolved : Dictionary Expr} {columns before after : List (String × Expr)}

lemma resolveColumns_append :
    resolveColumns resolved (before ++ after) =
      resolveColumns resolved before >>= fun all => resolveColumns all after := by
  induction before generalizing resolved with
  | nil => rfl
  | cons column before ih =>
    obtain ⟨name, expr⟩ := column
    rw [List.cons_append, resolveColumns, resolveColumns]
    split_ifs
    · rfl
    · rfl
    · exact ih

lemma resolveColumns_cons_fault {column : String × Expr} {e : BuildError}
    (fault : NameFault (resolved.map Prod.fst) column.1 e) :
    resolveColumns resolved (column :: after) = .error e := by
  obtain ⟨name, expr⟩ := column
  cases fault with
  | unnamed empty => rw [resolveColumns, if_pos empty]
  | repeated nonempty taken =>
    rw [resolveColumns, if_neg nonempty, if_pos (Dictionary.contains_iff.2 taken)]

/-- The columns in front of the first fault are taken in before it is found. -/
lemma resolveColumns_first_fault {column : String × Expr} {e : BuildError}
    (proper : ProperNames (before.map Prod.fst))
    (fault : NameFault (before.map Prod.fst) column.1 e) :
    resolveColumns [] (before ++ column :: after) = .error e := by
  have distinct : (([] : Dictionary Expr).map Prod.fst ++ before.map Prod.fst).Nodup := proper.1
  obtain ⟨all, made⟩ := resolveColumns_of_proper distinct proper.2
  obtain ⟨-, perm, -⟩ := resolveColumns_ok .nil made
  have known (name : String) : name ∈ before.map Prod.fst ↔ name ∈ all.map Prod.fst := by
    rw [List.append_nil] at perm
    exact (perm.map Prod.fst).mem_iff.symm
  have fault' : NameFault (all.map Prod.fst) column.1 e := by
    cases fault with
    | unnamed empty => exact .unnamed empty
    | repeated nonempty taken => exact .repeated nonempty ((known _).1 taken)
  rw [resolveColumns_append, made]
  exact resolveColumns_cons_fault fault'

/-- The first column that breaks the rule for names is the one that is reported. -/
theorem resolve_eq_error_iff {items : List Selection} {e : BuildError} :
    resolve items = .error e ↔
      ∃ before column after, items.flatMap Selection.columns = before ++ column :: after ∧
        ProperNames (before.map Prod.fst) ∧ NameFault (before.map Prod.fst) column.1 e := by
  constructor
  · intro refused
    rcases proper_or_first_fault (items.flatMap Selection.columns) with
      proper | ⟨before, column, after, e', split, proper, fault⟩
    · obtain ⟨all, made⟩ := resolve_ok_iff.2 proper
      rw [made] at refused
      cases refused
    · have found : resolve items = .error e' := by
        rw [resolve, split]
        exact resolveColumns_first_fault proper fault
      cases refused.symm.trans found
      exact ⟨before, column, after, split, proper, fault⟩
  · rintro ⟨before, column, after, split, proper, fault⟩
    rw [resolve, split]
    exact resolveColumns_first_fault proper fault

/-! ### Rearranged selections -/

/-- The columns of rearranged selections are the same, and their names tell the order. -/
lemma resolve_perm {items items' : List Selection} (perm : items'.Perm items) :
    (resolve items').toOption = (resolve items).toOption := by
  have columns : (items'.flatMap Selection.columns).Perm (items.flatMap Selection.columns) :=
    perm.flatMap_right _
  have names := columns.map Prod.fst
  have accepted : (∃ all, resolve items' = .ok all) ↔ ∃ all, resolve items = .ok all := by
    rw [resolve_ok_iff, resolve_ok_iff, ProperNames, ProperNames, names.nodup_iff, names.mem_iff]
  cases made : resolve items with
  | error e =>
    cases made' : resolve items' with
    | error e' => rfl
    | ok all' =>
      obtain ⟨all, contrary⟩ := accepted.1 ⟨all', made'⟩
      rw [made] at contrary
      cases contrary
  | ok all =>
    obtain ⟨all', made'⟩ := accepted.2 ⟨all, made⟩
    obtain ⟨sorted, perm, -⟩ := resolve_ok made
    obtain ⟨sorted', perm', -⟩ := resolve_ok made'
    rw [made', sorted'.eq_of_perm sorted (perm'.trans (columns.trans perm.symm))]

end Selection

lemma toOption_bind {α β : Type} {x y : Except BuildError α} (same : x.toOption = y.toOption)
    (f : α → Except BuildError β) : (x >>= f).toOption = (y >>= f).toOption := by
  cases x with
  | error e =>
    cases y with
    | error e' => rfl
    | ok b => cases same
  | ok a =>
    cases y with
    | error e => cases same
    | ok b =>
      cases same
      rfl

/-- What is done with the columns of selections. -/
inductive ColumnUse where
  | select
  | addFields
  | distinct
  | aggregate (targets : List AggregateTarget)

namespace ColumnUse

/-- The pipeline with the stage that the columns are for. -/
def grow (p : Pipeline) (items : List Selection) : ColumnUse → Except BuildError Pipeline
  | .select => p.select items
  | .addFields => p.addFields items
  | .distinct => p.distinct items
  | .aggregate targets => p.groupBy items >>= fun grouped => grouped.aggregate targets

/-- The selections enter a stage through their columns only. -/
lemma grow_eq (use : ColumnUse) (p : Pipeline) :
    ∃ finish, ∀ items, use.grow p items = Selection.resolve items >>= finish := by
  have projection (stage : String) (make : Dictionary Expr → Stage) :
      ∃ finish : Dictionary Expr → Except BuildError Pipeline, ∀ items,
        p.appendBuilt ((Stage.columnsOf stage items).map make) =
          Selection.resolve items >>= finish := by
    refine ⟨fun columns => p.appendBuilt (Except.map make
      (if columns.isEmpty then .error (.argument (.noColumns stage)) else .ok columns)), ?_⟩
    intro items
    unfold Stage.columnsOf
    cases Selection.resolve items <;> rfl
  cases use with
  | select => exact projection "select" .select
  | addFields => exact projection "add_fields" .addFields
  | distinct => exact projection "distinct" .distinct
  | aggregate targets =>
    refine ⟨fun groups => (if groups.isEmpty then .error (.argument .noGroupingKey)
      else .ok ⟨p, groups⟩) >>= fun grouped => GroupedPipeline.aggregate grouped targets, ?_⟩
    intro items
    unfold grow Pipeline.groupBy
    cases Selection.resolve items <;> rfl

end ColumnUse

namespace Selection

/-- Selections are resolved exactly if each column has a name of its own, to a dictionary of all of
them. Otherwise the first column without one is reported; the order does not matter. -/
theorem resolution_keeps_columns (items : List Selection) :
    ((∃ all, resolve items = .ok all) ↔
      ProperNames ((items.flatMap columns).map Prod.fst)) ∧
    (∀ all, resolve items = .ok all →
      all.Sorted ∧ all.Perm (items.flatMap columns) ∧
        ∀ name expr, all.get? name = some expr ↔ (name, expr) ∈ items.flatMap columns) ∧
    (∀ e, resolve items = .error e ↔
      ∃ before column after, items.flatMap columns = before ++ column :: after ∧
        ProperNames (before.map Prod.fst) ∧ NameFault (before.map Prod.fst) column.1 e) ∧
    ∀ items', items'.Perm items →
      (resolve items').toOption = (resolve items).toOption ∧
      ∀ (use : ColumnUse) (p : Pipeline),
        (use.grow p items').toOption = (use.grow p items).toOption ∧
        (use.grow p items' >>= Pipeline.toWire).toOption =
          (use.grow p items >>= Pipeline.toWire).toOption := by
  refine ⟨resolve_ok_iff, ?_, fun e => resolve_eq_error_iff, ?_⟩
  · intro all made
    obtain ⟨sorted, perm, -⟩ := resolve_ok made
    refine ⟨sorted, perm, ?_⟩
    intro name expr
    rw [Dictionary.get?_eq_some_iff sorted.keys_nodup, perm.mem_iff]
  · intro items' perm
    refine ⟨resolve_perm perm, ?_⟩
    intro use p
    obtain ⟨finish, grown⟩ := use.grow_eq p
    have same : (use.grow p items').toOption = (use.grow p items).toOption := by
      rw [grown, grown]
      exact toOption_bind (resolve_perm perm) finish
    exact ⟨same, toOption_bind same Pipeline.toWire⟩

/-- A group of two fields, an expression under a name of its own, and one more field. -/
def ratedBooks : List Selection :=
  [.fields ["title", "year"], .aliased (.field "rating") "score", .field "author"]

/-- The columns come out in the order of their names, whatever the order of the selections; a second
column called `score` is reported. -/
theorem resolution_keeps_columns_rated :
    ratedBooks.reverse.Perm ratedBooks ∧
      resolve ratedBooks = .ok [("author", .field "author"), ("score", .field "rating"),
        ("title", .field "title"), ("year", .field "year")] ∧
      (resolve ratedBooks.reverse).toOption = (resolve ratedBooks).toOption ∧
      resolve (ratedBooks ++ [.fields ["pages", "score", ""]]) = .error (.duplicate "score") := by
  have perm : ratedBooks.reverse.Perm ratedBooks := List.reverse_perm _
  obtain ⟨-, -, -, rearranged⟩ := resolution_keeps_columns ratedBooks
  obtain ⟨-, -, refused, -⟩ :=
    resolution_keeps_columns (ratedBooks ++ [.fields ["pages", "score", ""]])
  refine ⟨perm, by rfl, (rearranged _ perm).1, (refused _).2 ?_⟩
  refine ⟨[("title", .field "title"), ("year", .field "year"), ("score", .field "rating"),
    ("author", .field "author"), ("pages", .field "pages")], ("score", .field "score"),
    [("", .field "")], rfl, ⟨by decide, by decide⟩, .repeated (by decide) (by decide)⟩

end Selection

end DocumentQuery
