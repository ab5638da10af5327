import DocumentQuery.Expression.Condition
import DocumentQuery.Proofs.Columns

/-!
# The forms of constructed expressions

Constructors of expressions, conditions, accumulators and selections are applied to what others have
built, to any depth. In all that comes of it each call has the operands that its operator takes, and
wherever a condition is required there is an expression that can be one by its form, or a generic
call that the caller vouches for. So a condition that is no generic call is accepted again as what
it is.
-/

namespace DocumentQuery

/-- Whether an expression may stand where a condition is required. -/
def Expr.Testable (e : Expr) : Prop := e.isBooleanCapable = true ∨ e.isGenericCall = true

/-- Whether an operator takes the given operands. Nothing is known of generic operators. -/
def Operator.Takes : Operator → List Expr → Prop
  | .comparison _, args | .binary _, args | .mapGet, args => args.length = 2
  | .predicate _, args | .unary _, args => args.length = 1
  | .membership _, args => ∃ operand candidates, args = [operand, .list candidates]
  | .connective _, args => args ≠ [] ∧ ∀ a ∈ args, a.Testable
  | .not, args => ∃ c, args = [c] ∧ c.Testable
  | .conditional, args => ∃ c holds otherwise, args = [c, holds, otherwise] ∧ c.Testable
  | .concatenation _, args => args ≠ []
  | .timeShift _, args => args.length = 3
  | .generic _, _ => True

namespace Expr

mutual

/-- The parts of an expression at any depth, itself first. -/
def nodes : Expr → List Expr
  | .constant v => [.constant v]
  | .field path => [.field path]
  | .list items => .list items :: nodesOf items
  | .call op args => .call op args :: nodesOf args
  | .aggregate kind distinct none => [.aggregate kind distinct none]
  | .aggregate kind distinct (some arg) => .aggregate kind distinct (some arg) :: arg.nodes

def nodesOf : List Expr → List Expr
  | [] => []
  | e :: rest => e.nodes ++ nodesOf rest

end

/-- Whether an expression has the operands it must have, whatever these are made of. -/
def Fits : Expr → Prop
  | .call op args => op.Takes args
  | .aggregate .countIf _ arg => ∃ c, arg = some c ∧ c.Testable
  | _ => True

/-- Every part has the operands it must have. -/
def WellFormed (e : Expr) : Prop := ∀ node ∈ e.nodes, node.Fits

lemma forall_mem_nodesOf {items : List Expr} {p : Expr → Prop} :
    (∀ node ∈ nodesOf items, p node) ↔ ∀ e ∈ items, ∀ node ∈ e.nodes, p node := by
  induction items with
  | nil => simp [nodesOf]
  | cons e rest ih => simp [nodesOf, or_imp, forall_and, ih]

@[simp] lemma wellFormed_constant (v : WireValue) : (constant v).WellFormed := by
  simp [WellFormed, nodes, Fits]

@[simp] lemma wellFormed_field (path : String) : (field path).WellFormed := by
  simp [WellFormed, nodes, Fits]

lemma wellFormed_list {items : List Expr} :
    (list items).WellFormed ↔ ∀ e ∈ items, e.WellFormed := by
  simp [WellFormed, nodes, Fits, forall_mem_nodesOf]

lemma wellFormed_call {op : Operator} {args : List Expr} :
    (call op args).WellFormed ↔ op.Takes args ∧ ∀ e ∈ args, e.WellFormed := by
  simp [WellFormed, nodes, Fits, forall_mem_nodesOf]

lemma wellFormed_aggregate {kind : Reduction} {distinct : Bool} {arg : Option Expr} :
    (aggregate kind distinct arg).WellFormed ↔
      (aggregate kind distinct arg).Fits ∧ ∀ e ∈ arg, e.WellFormed := by
  cases arg <;> simp [WellFormed, nodes]

end Expr

namespace Condition

lemma testable (c : Condition) : c.expr.Testable := by
  have admissible := c.admissible
  rwa [Bool.or_eq_true] at admissible

/-- A condition that is no generic call is the condition of its own expression. -/
lemma ofExpr_expr {c : Condition} (known : c.expr.isGenericCall = false) :
    ofExpr c.expr = .ok c := by
  have capable : c.expr.isBooleanCapable = true :=
    c.testable.resolve_right (Bool.eq_false_iff.1 known)
  rw [ofExpr, dif_pos capable]

lemma expr_of_ofExpr {e : Expr} {c : Condition} (accepted : ofExpr e = .ok c) : c.expr = e := by
  unfold ofExpr at accepted
  split_ifs at accepted
  cases accepted
  rfl

end Condition

/-- What constructors build. -/
inductive Construct where
  | expr (e : Expr)
  | condition (c : Condition)
  | accumulator (a : Accumulator)
  | selection (s : Selection)

namespace Construct

/-- The expressions that something stands for. -/
def expressions : Construct → List Expr
  | .expr e => [e]
  | .condition c => [c.expr]
  | .accumulator a => [a.toExpr]
  | .selection s => s.columns.map Prod.snd

/-- What comes of constructors that are applied to what has been built before. Texts that name a
field and scalars are taken for fields and constants. -/
inductive Built : Construct → Prop where
  | constant (v : WireValue) : Built (.expr (.constant v))
  | field (path : String) : Built (.expr (.field path))
  | list {items} (parts : ∀ e ∈ items, Built (.expr e)) : Built (.expr (.list items))
  | unary (op : UnaryOperator) {operand} (part : Built (.expr operand)) :
      Built (.expr (.unary op operand))
  | binary (op : BinaryOperator) {left right} (part : Built (.expr left))
      (other : Built (.expr right)) : Built (.expr (.binary op left right))
  | concat (op : Concatenation) {first rest} (part : Built (.expr first))
      (others : ∀ e ∈ rest, Built (.expr e)) : Built (.expr (.concat op first rest))
  | mapGet (key : String) {map} (part : Built (.expr map)) : Built (.expr (.mapGet map key))
  | shift (op : TimeShift) {timestamp unit amount} (moment : Built (.expr timestamp))
      (step : Built (.expr unit)) (extent : Built (.expr amount)) :
      Built (.expr (.shift op timestamp unit amount))
  | choose {c holds otherwise} (test : Built (.condition c)) (part : Built (.expr holds))
      (other : Built (.expr otherwise)) : Built (.expr (.choose c holds otherwise))
  | generic (name : String) {args} (parts : ∀ e ∈ args, Built (.expr e)) :
      Built (.expr (.generic name args))
  | ofCondition {c} (part : Built (.condition c)) : Built (.expr c.expr)
  | ofAccumulator {a} (part : Built (.accumulator a)) : Built (.expr a.toExpr)
  | column {s name e} (part : Built (.selection s)) (named : (name, e) ∈ s.columns) :
      Built (.expr e)
  | resolved {items columns name e} (parts : ∀ s ∈ items, Built (.selection s))
      (built : Selection.resolve items = .ok columns) (named : (name, e) ∈ columns) :
      Built (.expr e)
  | ofField (path : String) : Built (.condition (.ofField path))
  | ofBool (b : Bool) : Built (.condition (.ofBool b))
  | ofExpr {e c} (part : Built (.expr e)) (accepted : Condition.ofExpr e = .ok c) :
      Built (.condition c)
  | trusted (name : String) {args} (parts : ∀ e ∈ args, Built (.expr e)) :
      Built (.condition (.trusted name args))
  | compare (op : Comparison) {left right} (part : Built (.expr left))
      (other : Built (.expr right)) : Built (.condition (.compare op left right))
  | test (op : Predicate) {operand} (part : Built (.expr operand)) :
      Built (.condition (.test op operand))
  | member (op : Membership) {operand candidates} (part : Built (.expr operand))
      (others : ∀ e ∈ candidates, Built (.expr e)) :
      Built (.condition (.member op operand candidates))
  | combine (op : Connective) {first rest} (part : Built (.condition first))
      (others : ∀ c ∈ rest, Built (.condition c)) : Built (.condition (.combine op first rest))
  | negate {c} (part : Built (.condition c)) : Built (.condition c.negate)
  | isNotNan {operand} (part : Built (.expr operand)) : Built (.condition (.isNotNan operand))
  | isNotNull {operand} (part : Built (.expr operand)) : Built (.condition (.isNotNull operand))
  | notEqAny {operand candidates} (part : Built (.expr operand))
      (others : ∀ e ∈ candidates, Built (.expr e)) :
      Built (.condition (.notEqAny operand candidates))
  | sum {operand} (part : Built (.expr operand)) : Built (.accumulator (.sum operand))
  | average {operand} (part : Built (.expr operand)) : Built (.accumulator (.average operand))
  | count {operand} (part : Built (.expr operand)) : Built (.accumulator (.count operand))
  | countAll : Built (.accumulator .countAll)
  | countIf {c} (test : Built (.condition c)) : Built (.accumulator (.countIf c))
  | minimum {operand} (part : Built (.expr operand)) : Built (.accumulator (.minimum operand))
  | maximum {operand} (part : Built (.expr operand)) : Built (.accumulator (.maximum operand))
  | withDistinct (distinct : Bool) {a} (part : Built (.accumulator a)) :
      Built (.accumulator (a.withDistinct distinct))
  | selectField (path : String) : Built (.selection (.field path))
  | selectFields (paths : List String) : Built (.selection (.fields paths))
  | selectAliased (output : String) {e} (part : Built (.expr e)) :
      Built (.selection (.aliased e output))
  | selectAggregate (output : String) {a} (part : Built (.accumulator a)) :
      Built (.selection (.aggregate ⟨a, output⟩))

/-- Every expression that something stands for is well-formed. -/
def WellFormed : Construct → Prop
  | .expr e => e.WellFormed
  | .condition c => c.expr.WellFormed
  | .accumulator a => a.toExpr.WellFormed
  | .selection s => ∀ c ∈ s.columns, c.2.WellFormed

lemma WellFormed.expressions {k : Construct} (h : k.WellFormed) {e : Expr}
    (he : e ∈ k.expressions) : e.WellFormed := by
  cases k with
  | expr => exact List.mem_singleton.1 he ▸ h
  | condition => exact List.mem_singleton.1 he ▸ h
  | accumulator => exact List.mem_singleton.1 he ▸ h
  | selection s =>
    obtain ⟨c, hc, rfl⟩ := List.mem_map.1 he
    exact h c hc

/-! ### Every constructor keeps the form -/

lemma forall_mem_pair {p : Expr → Prop} {a b : Expr} (ha : p a) (hb : p b) :
    ∀ e ∈ [a, b], p e :=
  List.forall_mem_cons.2 ⟨ha, List.forall_mem_singleton.2 hb⟩

section Parts

variable {operand : Expr} {candidates : List Expr} (h : operand.WellFormed)
include h

lemma wellFormed_test (op : Predicate) : (Condition.test op operand).expr.WellFormed :=
  Expr.wellFormed_call.2 ⟨rfl, List.forall_mem_singleton.2 h⟩

lemma wellFormed_member (op : Membership) (others : ∀ e ∈ candidates, e.WellFormed) :
    (Condition.member op operand candidates).expr.WellFormed :=
  Expr.wellFormed_call.2 ⟨⟨_, _, rfl⟩, forall_mem_pair h (Expr.wellFormed_list.2 others)⟩

end Parts

lemma wellFormed_negate {c : Condition} (h : c.expr.WellFormed) : c.negate.expr.WellFormed :=
  Expr.wellFormed_call.2 ⟨⟨_, rfl, c.testable⟩, List.forall_mem_singleton.2 h⟩

lemma wellFormed_combine (op : Connective) {first : Condition} {rest : List Condition}
    (h : first.expr.WellFormed) (others : ∀ c ∈ rest, c.expr.WellFormed) :
    (Condition.combine op first rest).expr.WellFormed := by
  refine Expr.wellFormed_call.2 ⟨⟨by simp, ?_⟩, by simpa using ⟨h, others⟩⟩
  simpa using ⟨first.testable, fun c _ => c.testable⟩

/-- Of the accumulators, only a conditional count asks for something. -/
lemma wellFormed_reduction {a : Accumulator} (plain : a.kind ≠ .countIf)
    (h : ∀ e ∈ a.arg, e.WellFormed) : a.toExpr.WellFormed := by
  refine Expr.wellFormed_aggregate.2 ⟨?_, h⟩
  cases kind : a.kind with
  | countIf => exact absurd kind plain
  | _ => trivial

lemma wellFormed_withDistinct {a : Accumulator} (h : a.toExpr.WellFormed) (distinct : Bool) :
    (a.withDistinct distinct).toExpr.WellFormed := by
  obtain ⟨fits, part⟩ := Expr.wellFormed_aggregate.1 h
  refine Expr.wellFormed_aggregate.2 ⟨?_, part⟩
  obtain ⟨kind, arg, _⟩ := a
  cases kind <;> exact fits

/-- Whatever has been built is well-formed. -/
theorem Built.wellFormed {k : Construct} (h : Built k) : k.WellFormed := by
  induction h with
  | constant v => exact Expr.wellFormed_constant v
  | field path => exact Expr.wellFormed_field path
  | list parts ih => exact Expr.wellFormed_list.2 ih
  | unary op part ih => exact Expr.wellFormed_call.2 ⟨rfl, List.forall_mem_singleton.2 ih⟩
  | binary op part other ih ih' => exact Expr.wellFormed_call.2 ⟨rfl, forall_mem_pair ih ih'⟩
  | concat op part others ih ih' =>
    exact Expr.wellFormed_call.2 ⟨List.cons_ne_nil _ _, List.forall_mem_cons.2 ⟨ih, ih'⟩⟩
  | mapGet key part ih =>
    exact Expr.wellFormed_call.2 ⟨rfl, forall_mem_pair ih (Expr.wellFormed_constant _)⟩
  | shift op moment step extent ih ih' ih'' =>
    exact Expr.wellFormed_call.2 ⟨rfl, List.forall_mem_cons.2 ⟨ih, forall_mem_pair ih' ih''⟩⟩
  | @choose c _ _ test part other ih ih' ih'' =>
    exact Expr.wellFormed_call.2 ⟨⟨_, _, _, rfl, c.testable⟩,
      List.forall_mem_cons.2 ⟨ih, forall_mem_pair ih' ih''⟩⟩
  | generic name parts ih => exact Expr.wellFormed_call.2 ⟨trivial, ih⟩
  | ofCondition part ih => exact ih
  | ofAccumulator part ih => exact ih
  | column part named ih => exact ih _ named
  | resolved parts built named ih =>
    obtain ⟨-, perm, -⟩ := Selection.resolve_ok built
    obtain ⟨s, hs, own⟩ := List.mem_flatMap.1 (perm.subset named)
    exact ih s hs _ own
  | ofField path => exact Expr.wellFormed_field path
  | ofBool b => exact Expr.wellFormed_constant (.boolean b)
  | ofExpr part accepted ih =>
    rw [WellFormed, Condition.expr_of_ofExpr accepted]
    exact ih
  | trusted name parts ih => exact Expr.wellFormed_call.2 ⟨trivial, ih⟩
  | compare op part other ih ih' => exact Expr.wellFormed_call.2 ⟨rfl, forall_mem_pair ih ih'⟩
  | test op part ih => exact wellFormed_test ih op
  | member op part others ih ih' => exact wellFormed_member ih op ih'
  | combine op part others ih ih' => exact wellFormed_combine op ih ih'
  | negate part ih => exact wellFormed_negate ih
  | isNotNan part ih => exact wellFormed_negate (wellFormed_test ih .isNan)
  | isNotNull part ih => exact wellFormed_negate (wellFormed_test ih .isNull)
  | notEqAny part others ih ih' => exact wellFormed_negate (wellFormed_member ih .eqAny ih')
  | sum part ih => exact wellFormed_reduction nofun (by rintro _ ⟨⟩; exact ih)
  | average part ih => exact wellFormed_reduction nofun (by rintro _ ⟨⟩; exact ih)
  | count part ih => exact wellFormed_reduction nofun (by rintro _ ⟨⟩; exact ih)
  | countAll => exact wellFormed_reduction nofun nofun
  | @countIf c test ih =>
    refine Expr.wellFormed_aggregate.2 ⟨⟨_, rfl, c.testable⟩, ?_⟩
    rintro _ ⟨⟩
    exact ih
  | minimum part ih => exact wellFormed_reduction nofun (by rintro _ ⟨⟩; exact ih)
  | maximum part ih => exact wellFormed_reduction nofun (by rintro _ ⟨⟩; exact ih)
  | withDistinct distinct part ih => exact wellFormed_withDistinct ih distinct
  | selectField path => simp [WellFormed, Selection.columns]
  | selectFields paths => simp [WellFormed, Selection.columns]
  | selectAliased output part ih => simpa [WellFormed, Selection.columns] using ih
  | selectAggregate output part ih => simpa [WellFormed, Selection.columns] using ih

/-- In whatever has been built, every call at any depth has the operands that its operator takes.
A condition that is no generic call is accepted again, unchanged, when it is made of its
expression. -/
theorem operands_match_operators {k : Construct} (built : Built k) :
    (∀ e ∈ k.expressions, ∀ node ∈ e.nodes,
      (∀ op args, node = .call op args → op.Takes args) ∧
      (∀ distinct arg, node = .aggregate .countIf distinct arg → ∃ c, arg = some c ∧ c.Testable)) ∧
    (∀ c, k = .condition c → c.expr.isGenericCall = false → Condition.ofExpr c.expr = .ok c) := by
  refine ⟨fun e he node hnode => ?_, fun c _ known => Condition.ofExpr_expr known⟩
  have fits : node.Fits := built.wellFormed.expressions he node hnode
  constructor
  · rintro op args rfl
    exact fits
  · rintro distinct arg rfl
    exact fits

/-- A field may be closed, or a call that nobody here knows gives a boolean: that is counted. -/
def doubtful : Condition := .combine .or (.ofField "closed") [.trusted "near" [.field "place"]]

/-- The count of rows in which the condition holds, and the condition itself. -/
theorem operands_match_operators_doubtful :
    Built (.accumulator (.countIf doubtful)) ∧
      Expr.call (.connective .or) [.field "closed", .call (.generic "near") [.field "place"]] ∈
        (Accumulator.countIf doubtful).toExpr.nodes ∧
      Condition.ofExpr doubtful.expr = .ok doubtful := by
  have parts : ∀ c ∈ [Condition.trusted "near" [.field "place"]], Built (.condition c) := by
    simpa using Built.trusted "near" (by simpa using Built.field "place")
  have built : Built (.condition doubtful) := .combine .or (.ofField "closed") parts
  exact ⟨.countIf built, by simp [Accumulator.countIf, Accumulator.toExpr, doubtful,
    Condition.combine, Condition.ofField, Condition.trusted, Expr.nodes],
    (operands_match_operators built).2 _ rfl rfl⟩

end Construct

end DocumentQuery
