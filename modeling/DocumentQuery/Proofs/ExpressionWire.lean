import Mathlib.Tactic
import DocumentQuery.Pipeline.Wire

/-!
# Expressions are determined by their values on the wire

Operators and accumulators share one space of names, and no two of them have the same name there.
So the value of an expression tells its form, as long as the expression has no operator with a name
of its own and no constant that looks like a list, a field or a call.
-/

namespace DocumentQuery

/-! ### Names of calls -/

namespace Operator

lemma mem_all {op : Operator} (h : op.isGeneric = false) : op ∈ all := by
  cases op with
  | generic name => cases h
  | comparison op | predicate op | membership op | connective op | unary op | binary op
    | concatenation op | timeShift op => cases op <;> decide
  | not | conditional | mapGet => decide

end Operator

/-- The accumulators, by how they reduce and whether only distinct inputs count. -/
def Reduction.all : List (Reduction × Bool) :=
  [.sum, .average, .count, .countIf, .minimum, .maximum].product [false, true]

lemma Reduction.mem_all (kind : Reduction) (distinct : Bool) : (kind, distinct) ∈ all := by
  cases kind <;> cases distinct <;> decide

lemma callNames_nodup :
    (Operator.all.map Operator.name ++ Reduction.all.map fun a => a.1.wireName a.2).Nodup := by
  decide +kernel

lemma Operator.name_inj {f g : Operator} (hf : f.isGeneric = false) (hg : g.isGeneric = false)
    (same : f.name = g.name) : f = g :=
  List.inj_on_of_nodup_map (List.nodup_append.1 callNames_nodup).1 (mem_all hf) (mem_all hg) same

lemma Reduction.wireName_inj {kind kind' : Reduction} {distinct distinct' : Bool}
    (same : kind.wireName distinct = kind'.wireName distinct') :
    kind = kind' ∧ distinct = distinct' := by
  have equal := List.inj_on_of_nodup_map (List.nodup_append.1 callNames_nodup).2.1
    (mem_all kind distinct) (mem_all kind' distinct') same
  exact Prod.mk.inj equal

/-- No operator has the name of an accumulator. -/
lemma Operator.name_ne_wireName {op : Operator} (h : op.isGeneric = false) (kind : Reduction)
    (distinct : Bool) : op.name ≠ kind.wireName distinct := by
  have apart := (List.nodup_append.1 callNames_nodup).2.2
  apply apart
  · exact List.mem_map_of_mem (mem_all h)
  · exact List.mem_map_of_mem (Reduction.mem_all kind distinct)

/-! ### Closed expressions -/

/-- Whether a value is one that lists, fields or calls are written as. -/
def WireValue.looksComposed : WireValue → Bool
  | .array _ | .fieldReference _ | .function _ _ => true
  | _ => false

namespace Expr

mutual

/-- Whether all operators in an expression are known, and no constant in it looks like a list, a
field or a call. -/
def Closed : Expr → Prop
  | .constant v => v.looksComposed = false
  | .field _ => True
  | .list items => AllClosed items
  | .call op args => op.isGeneric = false ∧ AllClosed args
  | .aggregate _ _ none => True
  | .aggregate _ _ (some arg) => arg.Closed

def AllClosed : List Expr → Prop
  | [] => True
  | e :: rest => e.Closed ∧ AllClosed rest

end

lemma toWire_ne_constant {e : Expr} {v : WireValue} (closed : (Expr.constant v).Closed)
    (composed : e.toWire.looksComposed = true) : Expr.toWire (.constant v) ≠ e.toWire := by
  intro same
  rw [Closed] at closed
  rw [toWire] at same
  rw [same, composed] at closed
  cases closed

mutual

/-- The value of a closed expression tells the expression. -/
theorem toWire_inj : ∀ e e' : Expr, e.Closed → e'.Closed → e.toWire = e'.toWire → e = e'
  | .constant v, e', h, h', same => by
    cases e' with
    | constant v' => simpa [toWire] using same
    | field path => exact absurd same (toWire_ne_constant h rfl)
    | list items => exact absurd same (toWire_ne_constant h rfl)
    | call op args => exact absurd same (toWire_ne_constant h rfl)
    | aggregate kind distinct arg => exact absurd same (toWire_ne_constant h (by cases arg <;> rfl))
  | .field path, e', h, h', same => by
    cases e' with
    | constant v => exact absurd same.symm (toWire_ne_constant h' rfl)
    | field path' => simpa [toWire] using same
    | aggregate kind distinct arg => cases arg <;> simp [toWire] at same
    | _ => simp [toWire] at same
  | .list items, e', h, h', same => by
    cases e' with
    | constant v => exact absurd same.symm (toWire_ne_constant h' rfl)
    | list items' =>
      rw [toWire, toWire] at same
      rw [Closed] at h h'
      rw [toWires_inj items items' h h' (WireValue.array.inj same)]
    | aggregate kind distinct arg => cases arg <;> simp [toWire] at same
    | _ => simp [toWire] at same
  | .call op args, e', h, h', same => by
    cases e' with
    | constant v => exact absurd same.symm (toWire_ne_constant h' rfl)
    | call op' args' =>
      rw [toWire, toWire] at same
      rw [Closed] at h h'
      obtain ⟨names, values⟩ := WireValue.function.inj same
      rw [Operator.name_inj h.1 h'.1 names, toWires_inj args args' h.2 h'.2 values]
    | aggregate kind distinct arg =>
      rw [Closed] at h
      exfalso
      apply Operator.name_ne_wireName h.1 kind distinct
      cases arg <;> simp only [toWire] at same <;> exact (WireValue.function.inj same).1
    | _ => simp [toWire] at same
  | .aggregate kind distinct none, e', h, h', same => by
    cases e' with
    | constant v => exact absurd same.symm (toWire_ne_constant h' rfl)
    | call op args =>
      rw [Closed] at h'
      rw [toWire, toWire] at same
      exact absurd (WireValue.function.inj same).1.symm (Operator.name_ne_wireName h'.1 _ _)
    | aggregate kind' distinct' arg' =>
      cases arg' with
      | none =>
        rw [toWire, toWire] at same
        obtain ⟨rfl, rfl⟩ := Reduction.wireName_inj (WireValue.function.inj same).1
        rfl
      | some arg' => simp [toWire] at same
    | _ => simp [toWire] at same
  | .aggregate kind distinct (some arg), e', h, h', same => by
    cases e' with
    | constant v => exact absurd same.symm (toWire_ne_constant h' rfl)
    | call op args =>
      rw [Closed] at h'
      rw [toWire, toWire] at same
      exact absurd (WireValue.function.inj same).1.symm (Operator.name_ne_wireName h'.1 _ _)
    | aggregate kind' distinct' arg' =>
      cases arg' with
      | none => simp [toWire] at same
      | some arg' =>
        rw [Closed] at h h'
        rw [toWire, toWire] at same
        obtain ⟨names, values⟩ := WireValue.function.inj same
        obtain ⟨rfl, rfl⟩ := Reduction.wireName_inj names
        rw [toWire_inj arg arg' h h' (List.cons.inj values).1]
    | _ => simp [toWire] at same

theorem toWires_inj : ∀ items items' : List Expr, AllClosed items → AllClosed items' →
    toWires items = toWires items' → items = items'
  | [], [], _, _, _ => rfl
  | [], e :: rest, _, _, same => by simp [toWires] at same
  | e :: rest, [], _, _, same => by simp [toWires] at same
  | e :: rest, e' :: rest', h, h', same => by
    rw [AllClosed] at h h'
    rw [toWires, toWires] at same
    obtain ⟨first, later⟩ := List.cons.inj same
    rw [toWire_inj e e' h.1 h'.1 first, toWires_inj rest rest' h.2 h'.2 later]

end

end Expr

/-! ### What contains expressions -/

lemma Condition.ext_expr {c d : Condition} (h : c.expr = d.expr) : c = d := by
  cases c
  cases d
  cases h
  rfl

/-- A closed condition is written as a boolean, a field or a call. -/
lemma Condition.toWire_forms {c : Condition} (closed : c.expr.Closed) :
    c.expr.toWire ≠ .null ∧ ∀ items, c.expr.toWire ≠ .array items := by
  obtain ⟨e, admissible⟩ := c
  cases e with
  | constant v =>
    cases v <;> simp [Expr.isBooleanCapable, Expr.isGenericCall] at admissible
    simp [Expr.toWire]
  | list items => simp [Expr.isBooleanCapable, Expr.isGenericCall] at admissible
  | aggregate kind distinct arg =>
    simp [Expr.isBooleanCapable, Expr.isGenericCall] at admissible
  | field path => simp [Expr.toWire]
  | call op args => simp [Expr.toWire]

lemma fieldReferences_inj {fields fields' : List String}
    (same : fields.map WireValue.fieldReference = fields'.map .fieldReference) :
    fields = fields' :=
  List.map_injective_iff.2 (fun _ _ => WireValue.fieldReference.inj) same

def JoinCondition.Closed : Option JoinCondition → Prop
  | some (.on c) => c.expr.Closed
  | _ => True

/-- Conditions, fields and their absence are told apart. -/
theorem JoinCondition.toWire_inj {c c' : Option JoinCondition} (h : Closed c) (h' : Closed c')
    (same : toWire c = toWire c') : c = c' := by
  match c, c' with
  | none, none => rfl
  | none, some (.on d) => exact absurd same.symm (Condition.toWire_forms h').1
  | none, some (.using fields) => simp [toWire] at same
  | some (.on d), none => exact absurd same (Condition.toWire_forms h).1
  | some (.on d), some (.on d') =>
    rw [Condition.ext_expr (Expr.toWire_inj d.expr d'.expr h h' same)]
  | some (.on d), some (.using fields) => exact absurd same ((Condition.toWire_forms h).2 _)
  | some (.using fields), none => simp [toWire] at same
  | some (.using fields), some (.on d) =>
    exact absurd same.symm ((Condition.toWire_forms h').2 _)
  | some (.using fields), some (.using fields') =>
    rw [fieldReferences_inj (WireValue.array.inj same)]

lemma Accumulator.toWire_inj {a a' : Accumulator} (h : a.toExpr.Closed) (h' : a'.toExpr.Closed)
    (same : a.toExpr.toWire = a'.toExpr.toWire) : a = a' := by
  obtain ⟨kind, arg, distinct⟩ := a
  obtain ⟨kind', arg', distinct'⟩ := a'
  obtain ⟨rfl, rfl, rfl⟩ := Expr.aggregate.inj (Expr.toWire_inj _ _ h h' same)
  rfl

lemma Direction.name_inj {d d' : Direction} (same : d.name = d'.name) : d = d' := by
  revert same
  cases d <;> cases d' <;> decide

lemma SortKey.toWire_inj {k k' : SortKey} (h : k.expr.Closed) (h' : k'.expr.Closed)
    (same : k.toWire = k'.toWire) : k = k' := by
  obtain ⟨e, d⟩ := k
  obtain ⟨e', d'⟩ := k'
  simp only [SortKey.toWire, WireValue.map.injEq, List.cons.injEq, Prod.mk.injEq, true_and,
    WireValue.string.injEq, and_true] at same
  rw [Direction.name_inj same.1, Expr.toWire_inj e e' h h' same.2]

/-- A mapping that tells the elements of two lists apart tells the lists apart. -/
lemma map_inj_of {α β : Type} {f : α → β} {l l' : List α}
    (h : ∀ a ∈ l, ∀ a' ∈ l', f a = f a' → a = a') (same : l.map f = l'.map f) : l = l' := by
  induction l generalizing l' with
  | nil => exact (List.map_eq_nil_iff.1 same.symm).symm
  | cons a rest ih =>
    cases l' with
    | nil => cases same
    | cons a' rest' =>
      obtain ⟨first, later⟩ := List.cons.inj same
      rw [h a (by simp) a' (by simp) first,
        ih (fun b hb b' hb' => h b (by simp [hb]) b' (by simp [hb'])) later]

lemma Dictionary.mapValues_inj {α β : Type} {f : α → β} {entries entries' : Dictionary α}
    (h : ∀ e ∈ entries, ∀ e' ∈ entries', f e.2 = f e'.2 → e.2 = e'.2)
    (same : mapValues f entries = mapValues f entries') : entries = entries' := by
  refine map_inj_of (fun e he e' he' equal => ?_) same
  obtain ⟨key, value⟩ := Prod.mk.inj equal
  exact Prod.ext key (h e he e' he' value)

lemma WireValue.ofColumns_inj {columns columns' : Dictionary Expr}
    (h : ∀ e ∈ columns, e.2.Closed) (h' : ∀ e ∈ columns', e.2.Closed)
    (same : WireValue.ofColumns columns = .ofColumns columns') : columns = columns' :=
  Dictionary.mapValues_inj (fun e he e' he' => Expr.toWire_inj e.2 e'.2 (h e he) (h' e' he'))
    (WireValue.map.inj same)

end DocumentQuery
