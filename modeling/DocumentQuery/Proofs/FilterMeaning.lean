import Mathlib.Tactic
import DocumentQuery.Query

/-!
# The condition of a filter tree means what the tree means

A condition is read under an assignment of truth values to its atomic calls; and, or, xor and not
are read classically. A leaf of a filter tree asks for its field to exist and for its operator to
hold, where some operators are negations of the call that they make. The two readings agree for
every assignment, and the condition makes the calls of the leaves in their order.
-/

namespace DocumentQuery

/-! ### Reading conditions -/

namespace Expr

mutual

/-- The truth of a condition whose atomic calls have the given truth. -/
def holds (truth : Expr → Bool) : Expr → Bool
  | .call (.connective .and) args => (truths truth args).all id
  | .call (.connective .or) args => (truths truth args).any id
  | .call (.connective .xor) args => (truths truth args).foldl xor false
  | .call .not [e] => !e.holds truth
  | atom => truth atom

def truths (truth : Expr → Bool) : List Expr → List Bool
  | [] => []
  | e :: rest => e.holds truth :: truths truth rest

end

mutual

/-- The atomic calls of a condition, from left to right. -/
def atoms : Expr → List Expr
  | .call (.connective _) args => atomsOf args
  | .call .not [e] => e.atoms
  | atom => [atom]

def atomsOf : List Expr → List Expr
  | [] => []
  | e :: rest => e.atoms ++ atomsOf rest

end

/-- Whether a call is neither a connective nor a negation. -/
def Atomic (e : Expr) : Prop := (∀ truth, e.holds truth = truth e) ∧ e.atoms = [e]

/-- A test of a field alone. -/
def tested (op : Predicate) (path : String) : Expr := .call (.predicate op) [.field path]

/-- A comparison of a field with a value. -/
def compared (op : Comparison) (path : String) (value : WireValue) : Expr :=
  .call (.comparison op) [.field path, .constant value]

/-- A membership test of a field with candidate values. -/
def among (op : Membership) (path : String) (candidates : List WireValue) : Expr :=
  .call (.membership op) [.field path, .list (candidates.map .constant)]

lemma tested_atomic (op : Predicate) (path : String) : (tested op path).Atomic := by
  simp [Atomic, tested, holds, atoms]

lemma compared_atomic (op : Comparison) (path : String) (value : WireValue) :
    (compared op path value).Atomic := by
  simp [Atomic, compared, holds, atoms]

lemma among_atomic (op : Membership) (path : String) (candidates : List WireValue) :
    (among op path candidates).Atomic := by
  simp [Atomic, among, holds, atoms]

end Expr

/-! ### Reading filter trees -/

/-- The call that a comparison makes; there is none if it is unspecified, or if it needs candidates
and the value is no array. -/
def FieldFilter.call? (path : String) (value : WireValue) : FieldFilter → Option Expr
  | .unspecified => none
  | .lessThan => some (.compared .lessThan path value)
  | .lessThanOrEqual => some (.compared .lessThanOrEqual path value)
  | .greaterThan => some (.compared .greaterThan path value)
  | .greaterThanOrEqual => some (.compared .greaterThanOrEqual path value)
  | .equal | .notEqual => some (.compared .equal path value)
  | .arrayContains => some (.compared .arrayContains path value)
  | .isIn | .notIn => value.array?.map (.among .eqAny path)
  | .arrayContainsAny => value.array?.map (.among .arrayContainsAny path)

/-- Whether a comparison holds when its call is false. -/
def FieldFilter.negates : FieldFilter → Bool
  | .notEqual | .notIn => true
  | _ => false

/-- Whether a comparison is with the items of an array. -/
def FieldFilter.needsArray : FieldFilter → Bool
  | .isIn | .notIn | .arrayContainsAny => true
  | _ => false

def UnaryFilter.call? (path : String) : UnaryFilter → Option Expr
  | .unspecified => none
  | .isNan | .isNotNan => some (.tested .isNan path)
  | .isNull | .isNotNull => some (.tested .isNull path)

def UnaryFilter.negates : UnaryFilter → Bool
  | .isNotNan | .isNotNull => true
  | _ => false

namespace QueryFilter

/-- A leaf: its field exists, and its operator holds. -/
def leafHolds (truth : Expr → Bool) (path : String) (call : Option Expr) (negates : Bool) : Bool :=
  truth (.tested .present path) && call.any fun e => if negates then !truth e else truth e

/-- The calls of a leaf. -/
def leafCalls (path : String) (call : Option Expr) : List Expr :=
  .tested .present path :: call.toList

mutual

/-- The truth of a filter tree, each leaf being read as that its field exists and that its operator
holds. -/
def holds (truth : Expr → Bool) : QueryFilter → Bool
  | .field path op value => leafHolds truth path (op.call? path value) op.negates
  | .unary path op => leafHolds truth path (op.call? path) op.negates
  | .composite .and filters => (truths truth filters).all id
  | .composite .or filters => (truths truth filters).any id
  | .composite .unspecified _ => false

def truths (truth : Expr → Bool) : List QueryFilter → List Bool
  | [] => []
  | filter :: rest => filter.holds truth :: truths truth rest

end

mutual

/-- The calls of the leaves of a filter tree, from left to right. -/
def calls : QueryFilter → List Expr
  | .field path op value => leafCalls path (op.call? path value)
  | .unary path op => leafCalls path (op.call? path)
  | .composite _ filters => callsOf filters

def callsOf : List QueryFilter → List Expr
  | [] => []
  | filter :: rest => filter.calls ++ callsOf rest

end

mutual

/-- What a filter tree has to be for a condition to stand for it: all its operators are specified,
those that need an array have one, and no composite is empty. -/
def Convertible : QueryFilter → Prop
  | .field _ op value => op ≠ .unspecified ∧ (op.needsArray → ∃ items, value = .array items)
  | .unary _ op => op ≠ .unspecified
  | .composite op filters => op ≠ .unspecified ∧ filters ≠ [] ∧ AllConvertible filters

def AllConvertible : List QueryFilter → Prop
  | [] => True
  | filter :: rest => filter.Convertible ∧ AllConvertible rest

end

/-! ### Leaves -/

/-- A condition that makes one call, or denies it. -/
def Signs (c : Condition) (negates : Bool) (call : Expr) : Prop :=
  call.Atomic ∧ c.expr = if negates then .call .not [call] else call

/-- Whether a condition has the truth of a filter tree under every assignment, and makes its
calls. -/
def Renders (c : Condition) (filter : QueryFilter) : Prop :=
  (∀ truth, c.expr.holds truth = filter.holds truth) ∧ c.expr.atoms = filter.calls

lemma Signs.guarded_holds {c : Condition} {negates : Bool} {call : Expr}
    (h : Signs c negates call) (path : String) (truth : Expr → Bool) :
    (guarded path c).expr.holds truth = leafHolds truth path (some call) negates := by
  obtain ⟨⟨value, -⟩, form⟩ := h
  have present := (Expr.tested_atomic .present path).1 truth
  have guard : (guarded path c).expr.holds truth =
      ((Expr.tested .present path).holds truth && c.expr.holds truth) := by
    simp [guarded, Condition.combine, Condition.present, Condition.test, Expr.holds, Expr.truths,
      Expr.tested]
  rw [guard, present, form]
  cases negates <;> simp [leafHolds, Expr.holds, value]

lemma Signs.guarded_atoms {c : Condition} {negates : Bool} {call : Expr}
    (h : Signs c negates call) (path : String) :
    (guarded path c).expr.atoms = leafCalls path (some call) := by
  obtain ⟨⟨-, single⟩, form⟩ := h
  have calls : (guarded path c).expr.atoms = .tested .present path :: c.expr.atoms := by
    simp [guarded, Condition.combine, Condition.present, Condition.test, Expr.atoms, Expr.atomsOf,
      Expr.tested]
  rw [calls, form]
  cases negates <;> simp [leafCalls, Expr.atoms, single]

/-- A guarded call renders each leaf that is read as the call. -/
lemma Signs.guarded_renders {c : Condition} {negates : Bool} {call : Expr} {path : String}
    {leaf : QueryFilter} (h : Signs c negates call)
    (reads : ∀ truth, leaf.holds truth = leafHolds truth path (some call) negates)
    (made : leaf.calls = leafCalls path (some call)) : Renders (guarded path c) leaf := by
  constructor
  · intro truth
    rw [h.guarded_holds, reads]
  · rw [h.guarded_atoms, made]

/-- A comparison makes its call if it has one. -/
lemma comparison_of_call {path : String} {value : WireValue} {op : FieldFilter} {call : Expr}
    (h : op.call? path value = some call) :
    ∃ c, comparison path value op = .ok c ∧ Signs c op.negates call := by
  have compared (op : Comparison) := Expr.compared_atomic op path value
  have among := Expr.among_atomic
  cases op with
  | unspecified => cases h
  | isIn | notIn | arrayContainsAny =>
    obtain ⟨items, array, rfl⟩ := Option.map_eq_some_iff.1 h
    cases value <;> cases array
    exact ⟨_, rfl, among _ _ _, rfl⟩
  | _ =>
    cases h
    exact ⟨_, rfl, compared _, rfl⟩

lemma comparison_of_no_call {path : String} {value : WireValue} {op : FieldFilter}
    (h : op.call? path value = none) : ∃ e, comparison path value op = .error e := by
  cases op with
  | unspecified => exact ⟨_, rfl⟩
  | isIn | notIn | arrayContainsAny =>
    have array := Option.map_eq_none_iff.1 h
    cases value with
    | array items => cases array
    | _ => exact ⟨_, rfl⟩
  | _ => cases h

lemma field_convertible_iff {path : String} {op : FieldFilter} {value : WireValue} :
    (QueryFilter.field path op value).Convertible ↔ (op.call? path value).isSome := by
  cases op <;> cases value <;>
    simp [Convertible, FieldFilter.call?, FieldFilter.needsArray, WireValue.array?]

lemma test_of_call {path : String} {op : UnaryFilter} {call : Expr}
    (h : op.call? path = some call) :
    ∃ c, test path op = .ok c ∧ Signs c op.negates call := by
  have tested (op : Predicate) := Expr.tested_atomic op path
  cases op with
  | unspecified => cases h
  | _ =>
    cases h
    exact ⟨_, rfl, tested _, rfl⟩

lemma test_of_no_call {path : String} {op : UnaryFilter} (h : op.call? path = none) :
    ∃ e, test path op = .error e := by
  cases op with
  | unspecified => exact ⟨_, rfl⟩
  | _ => cases h

lemma unary_convertible_iff {path : String} {op : UnaryFilter} :
    (QueryFilter.unary path op).Convertible ↔ (op.call? path).isSome := by
  cases op <;> simp [Convertible, UnaryFilter.call?]

/-! ### Composites -/

/-- The conditions of the filters of a list. -/
def AllRender (conditions : List Condition) (filters : List QueryFilter) : Prop :=
  (∀ truth, Expr.truths truth (conditions.map (·.expr)) = truths truth filters) ∧
    Expr.atomsOf (conditions.map (·.expr)) = callsOf filters ∧ conditions.length = filters.length

lemma AllRender.nil : AllRender [] [] := by
  simp [AllRender, Expr.truths, truths, Expr.atomsOf, callsOf]

lemma AllRender.cons {c : Condition} {filter : QueryFilter} {conditions : List Condition}
    {filters : List QueryFilter} (first : Renders c filter)
    (later : AllRender conditions filters) :
    AllRender (c :: conditions) (filter :: filters) := by
  obtain ⟨truth, atoms, length⟩ := later
  refine ⟨fun t => ?_, ?_, by simp [length]⟩
  · rw [List.map_cons, Expr.truths, truths, first.1 t, truth t]
  · rw [List.map_cons, Expr.atomsOf, callsOf, first.2, atoms]

/-- A specified connective over conditions renders the composite of their filters. -/
lemma AllRender.combine {op : CompositeFilter} {conditions : List Condition}
    {filters : List QueryFilter} (h : AllRender conditions filters) (specified : op ≠ .unspecified)
    (nonempty : filters ≠ []) :
    ∃ c, combine op conditions = .ok c ∧ Renders c (.composite op filters) := by
  obtain ⟨truth, atoms, length⟩ := h
  cases conditions with
  | nil => exact absurd (List.length_eq_zero_iff.1 length.symm) nonempty
  | cons first rest =>
    cases op with
    | unspecified => exact absurd rfl specified
    | and =>
      refine ⟨.combine .and first rest, rfl, fun t => ?_, ?_⟩
      · rw [holds, ← truth t]
        rfl
      · rw [calls, ← atoms]
        rfl
    | or =>
      refine ⟨.combine .or first rest, rfl, fun t => ?_, ?_⟩
      · rw [holds, ← truth t]
        rfl
      · rw [calls, ← atoms]
        rfl

lemma combine_error {op : CompositeFilter} {conditions : List Condition}
    (h : op = .unspecified ∨ conditions = []) : ∃ e, combine op conditions = .error e := by
  cases conditions with
  | nil => exact ⟨_, rfl⟩
  | cons first rest =>
    rcases h with rfl | empty
    · exact ⟨_, rfl⟩
    · cases empty

/-! ### Trees -/

mutual

/-- A convertible tree has a condition that renders it. -/
theorem toCondition_of_convertible : ∀ filter : QueryFilter, filter.Convertible →
    ∃ c, filter.toCondition = .ok c ∧ Renders c filter
  | .field path op value, h => by
    obtain ⟨call, made⟩ := Option.isSome_iff_exists.1 (field_convertible_iff.1 h)
    obtain ⟨c, built, signs⟩ := comparison_of_call made
    refine ⟨guarded path c, by rw [toCondition, built]; rfl, signs.guarded_renders ?_ ?_⟩
    · intro truth
      rw [holds, made]
    · rw [calls, made]
  | .unary path op, h => by
    obtain ⟨call, made⟩ := Option.isSome_iff_exists.1 (unary_convertible_iff.1 h)
    obtain ⟨c, built, signs⟩ := test_of_call made
    refine ⟨guarded path c, by rw [toCondition, built]; rfl, signs.guarded_renders ?_ ?_⟩
    · intro truth
      rw [holds, made]
    · rw [calls, made]
  | .composite op filters, h => by
    rw [Convertible] at h
    obtain ⟨specified, nonempty, convertible⟩ := h
    obtain ⟨conditions, built, render⟩ := toConditions_of_convertible filters convertible
    obtain ⟨c, combined, renders⟩ := render.combine specified nonempty
    exact ⟨c, by rw [toCondition, built]; exact combined, renders⟩

theorem toConditions_of_convertible : ∀ filters : List QueryFilter, AllConvertible filters →
    ∃ conditions, toConditions filters = .ok conditions ∧ AllRender conditions filters
  | [], _ => ⟨[], by rw [toConditions], .nil⟩
  | filter :: rest, h => by
    rw [AllConvertible] at h
    obtain ⟨c, first, renders⟩ := toCondition_of_convertible filter h.1
    obtain ⟨conditions, later, render⟩ := toConditions_of_convertible rest h.2
    exact ⟨c :: conditions, by rw [toConditions, first, later]; rfl, .cons renders render⟩

end

mutual

/-- Any other tree is refused. -/
theorem toCondition_of_not_convertible : ∀ filter : QueryFilter, ¬filter.Convertible →
    ∃ e, filter.toCondition = .error e
  | .field path op value, h => by
    have uncalled : op.call? path value = none := by simpa [field_convertible_iff] using h
    obtain ⟨e, refused⟩ := comparison_of_no_call uncalled
    exact ⟨e, by rw [toCondition, refused]; rfl⟩
  | .unary path op, h => by
    have uncalled : op.call? path = none := by simpa [unary_convertible_iff] using h
    obtain ⟨e, refused⟩ := test_of_no_call uncalled
    exact ⟨e, by rw [toCondition, refused]; rfl⟩
  | .composite op filters, h => by
    by_cases convertible : AllConvertible filters
    · obtain ⟨conditions, built, -, -, length⟩ := toConditions_of_convertible filters convertible
      have fault : op = .unspecified ∨ conditions = [] := by
        by_contra! sound
        apply h
        rw [Convertible]
        refine ⟨sound.1, fun empty => sound.2 ?_, convertible⟩
        rw [← List.length_eq_zero_iff, length, empty, List.length_nil]
      obtain ⟨e, refused⟩ := combine_error fault
      exact ⟨e, by rw [toCondition, built]; exact refused⟩
    · obtain ⟨e, refused⟩ := toConditions_of_not_convertible filters convertible
      exact ⟨e, by rw [toCondition, refused]⟩

theorem toConditions_of_not_convertible : ∀ filters : List QueryFilter, ¬AllConvertible filters →
    ∃ e, toConditions filters = .error e
  | [], h => absurd (by rw [AllConvertible]; trivial) h
  | filter :: rest, h => by
    by_cases first : filter.Convertible
    · obtain ⟨c, built, -⟩ := toCondition_of_convertible filter first
      have later : ¬AllConvertible rest := by
        intro later
        apply h
        rw [AllConvertible]
        exact ⟨first, later⟩
      obtain ⟨e, refused⟩ := toConditions_of_not_convertible rest later
      exact ⟨e, by rw [toConditions, built, refused]; rfl⟩
    · obtain ⟨e, refused⟩ := toCondition_of_not_convertible filter first
      exact ⟨e, by rw [toConditions, refused]⟩

end

/-- A filter tree is converted exactly if all its parts can be expressed, to a condition with the
truth of the tree under every assignment to the atomic calls and with the calls of its leaves in
order. -/
theorem conversion_keeps_meaning (filter : QueryFilter) :
    ((∃ c, filter.toCondition = .ok c) ↔ filter.Convertible) ∧
    ∀ c, filter.toCondition = .ok c →
      (∀ truth, c.expr.holds truth = filter.holds truth) ∧
      c.expr.atoms = filter.calls ∧
      ∀ path truth, ((∃ op value, filter = .field path op value) ∨ ∃ op, filter = .unary path op) →
        truth (.tested .present path) = false → c.expr.holds truth = false := by
  have success : (∃ c, filter.toCondition = .ok c) ↔ filter.Convertible := by
    constructor
    · rintro ⟨c, built⟩
      by_contra sound
      obtain ⟨e, refused⟩ := toCondition_of_not_convertible filter sound
      rw [built] at refused
      cases refused
    · intro convertible
      obtain ⟨c, built, -⟩ := toCondition_of_convertible filter convertible
      exact ⟨c, built⟩
  refine ⟨success, fun c built => ?_⟩
  obtain ⟨c', built', truths, atoms⟩ :=
    toCondition_of_convertible filter (success.1 ⟨c, built⟩)
  obtain rfl : c = c' := Except.ok.inj (built.symm.trans built')
  refine ⟨truths, atoms, fun path truth leaf absent => ?_⟩
  rw [truths]
  rcases leaf with ⟨op, value, rfl⟩ | ⟨op, rfl⟩
  · rw [holds, leafHolds, absent, Bool.false_and]
  · rw [holds, leafHolds, absent, Bool.false_and]

/-- Open places, and those outside two cities that have a rating. -/
def openOrRated : QueryFilter :=
  .composite .or [.field "closed" .notEqual (.boolean true),
    .composite .and [.field "city" .notIn (.array [.string "SF", .string "LA"]),
      .unary "rating" .isNotNan]]

/-- Where no field exists no leaf is true, although each of them is a negation. -/
theorem conversion_keeps_meaning_absent :
    (∃ c, openOrRated.toCondition = .ok c ∧ c.expr.atoms.length = 6 ∧
      c.expr.holds (fun _ => false) = false) ∧
    ∃ c, (QueryFilter.unary "rating" .isNotNan).toCondition = .ok c ∧
      c.expr.holds (fun _ => false) = false := by
  have convertible : openOrRated.Convertible := by
    simp [openOrRated, Convertible, AllConvertible, FieldFilter.needsArray]
  obtain ⟨c, built⟩ := (conversion_keeps_meaning openOrRated).1.2 convertible
  obtain ⟨truths, atoms, -⟩ := (conversion_keeps_meaning openOrRated).2 c built
  obtain ⟨-, -, absent⟩ := (conversion_keeps_meaning (.unary "rating" .isNotNan)).2 _ rfl
  refine ⟨⟨c, built, ?_, ?_⟩, _, rfl, absent "rating" _ (.inr ⟨_, rfl⟩) rfl⟩
  · rw [atoms]
    rfl
  · rw [truths]
    rfl

end QueryFilter

end DocumentQuery
