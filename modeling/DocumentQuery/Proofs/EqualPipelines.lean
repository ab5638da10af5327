import DocumentQuery.Pipeline.Equality
import DocumentQuery.Proofs.Acceptance
import DocumentQuery.Proofs.ZeroSigns

/-!
# Equal pipelines on the wire

Equal pipelines are refused for the same reason or written as equal stages. Their canonical texts
are the same exactly if the zeros in them have the same signs.
-/

namespace DocumentQuery

/-- Two results are alike: the same error, or values that are alike. -/
def Agree {α : Type} (alike : α → α → Bool) : Except BuildError α → Except BuildError α → Prop
  | .ok a, .ok b => alike a b = true
  | .error e, .error f => e = f
  | _, _ => False

namespace Agree

variable {α β γ : Type} {alike : α → α → Bool} {x y : Except BuildError α}

lemma map (h : Agree alike x y) {alike' : β → β → Bool} {f g : α → β}
    (keeps : ∀ a b, alike a b = true → alike' (f a) (g b) = true) :
    Agree alike' (x.map f) (y.map g) := by
  cases x <;> cases y
  · exact h
  · exact h
  · exact h
  · exact keeps _ _ h

lemma bind (h : Agree alike x y) {alike' : β → β → Bool} {f g : α → Except BuildError β}
    (later : ∀ a b, alike a b = true → Agree alike' (f a) (g b)) :
    Agree alike' (x.bind f) (y.bind g) := by
  cases x <;> cases y
  · exact h
  · exact h.elim
  · exact h.elim
  · exact later _ _ h

/-- What is made of two results is alike if they are. -/
lemma both (h : Agree alike x y) {alike' : β → β → Bool} {x' y' : Except BuildError β}
    (h' : Agree alike' x' y') {alike'' : γ → γ → Bool} {f g : α → β → γ}
    (keeps : ∀ a b a' b', alike a b = true → alike' a' b' = true →
      alike'' (f a a') (g b b') = true) :
    Agree alike'' (x.bind fun a => x'.map (f a)) (y.bind fun b => y'.map (g b)) :=
  h.bind fun a b first => h'.map fun a' b' => keeps a b a' b' first

lemma error_iff (h : Agree alike x y) {e : BuildError} : x = .error e ↔ y = .error e := by
  cases x with
  | error e' =>
    cases y with
    | error e'' =>
      obtain rfl : e' = e'' := h
      rfl
    | ok b => exact h.elim
  | ok a =>
    cases y with
    | error e'' => exact h.elim
    | ok b => exact ⟨nofun, nofun⟩

end Agree

/-! ### Plain documents -/

lemma Dictionary.insertNew_numEq {key : String} {v w : WireValue}
    {entries entries' : Dictionary WireValue} (first : v.numEq w = true)
    (rest : WireValue.entriesNumEq entries entries' = true) :
    WireValue.entriesNumEq (insertNew key v entries) (insertNew key w entries') = true := by
  induction entries generalizing entries' with
  | nil =>
    cases entries' with
    | nil => simp [insertNew, WireValue.entriesNumEq, first]
    | cons e' rest' => simp [WireValue.entriesNumEq] at rest
  | cons e entries ih =>
    cases entries' with
    | nil => simp [WireValue.entriesNumEq] at rest
    | cons e' entries' =>
      obtain ⟨k, u⟩ := e
      obtain ⟨k', u'⟩ := e'
      rw [WireValue.entriesNumEq, Bool.and_eq_true, Bool.and_eq_true, beq_iff_eq] at rest
      obtain ⟨⟨rfl, second⟩, later⟩ := rest
      unfold insertNew
      split_ifs <;> simp [WireValue.entriesNumEq, first, second, later, ih]

/-- Equal plain documents are refused for the same reason, or read as equal values. -/
lemma WireValue.ofPlain_agree :
    (∀ d d' : Json, d.numEq d' = true → Agree WireValue.numEq (ofPlain d) (ofPlain d')) ∧
    (∀ ms ms' : List (String × Json), Json.membersNumEq ms ms' = true →
      Agree WireValue.entriesNumEq (ofPlainMembers ms) (ofPlainMembers ms')) ∧
    (∀ ds ds' : List Json, Json.itemsNumEq ds ds' = true →
      Agree WireValue.itemsNumEq (ofPlainItems ds) (ofPlainItems ds')) := by
  refine Json.numEq.mutual_induct _ _ _ ?null ?bool ?whole ?fractional ?string ?array ?object
    ?otherDocument ?noItem ?moreItems ?otherItems ?noMember ?moreMembers ?otherMembers
  case null => simp [ofPlain, Agree, WireValue.numEq]
  case noItem => simp [ofPlainItems, Agree, WireValue.itemsNumEq]
  case noMember => simp [ofPlainMembers, Agree, WireValue.entriesNumEq]
  case bool | string =>
    intro a b same
    rw [Json.numEq, beq_iff_eq] at same
    simp [same, ofPlain, Agree, WireValue.numEq]
  case whole =>
    intro n m same
    rw [Json.numEq, beq_iff_eq] at same
    rw [same, ofPlain, WholeNumber.toValue]
    cases m.toInt64? with
    | none => rfl
    | some i => simp [Agree, WireValue.numEq]
  case fractional =>
    intro x y same
    rw [Json.numEq] at same
    rw [ofPlain, ofPlain]
    change (WireValue.double (.finite x)).numEq (.double (.finite y)) = true
    rwa [WireValue.numEq]
  case array =>
    intro items items' ih same
    rw [Json.numEq] at same
    rw [ofPlain, ofPlain]
    exact (ih same).map fun a b alike => by rwa [WireValue.numEq]
  case object =>
    intro members members' ih same
    rw [Json.numEq] at same
    rw [ofPlain, ofPlain]
    exact (ih same).map fun a b alike => by rwa [WireValue.numEq]
  case moreItems =>
    intro d ds d' ds' ih ih' same
    rw [Json.itemsNumEq, Bool.and_eq_true] at same
    rw [ofPlainItems_cons_eq, ofPlainItems_cons_eq]
    refine (ih same.1).both (ih' same.2) fun v w vs ws first rest => ?_
    rw [WireValue.itemsNumEq, first, rest]
    rfl
  case moreMembers =>
    intro key d ms key' d' ms' ih ih' same
    rw [Json.membersNumEq, Bool.and_eq_true, Bool.and_eq_true, beq_iff_eq] at same
    obtain ⟨⟨rfl, first⟩, rest⟩ := same
    rw [ofPlainMembers_cons_eq, ofPlainMembers_cons_eq]
    exact (ih first).both (ih' rest) fun v w vs ws => Dictionary.insertNew_numEq
  -- Nothing else is equal.
  case otherDocument => simp +contextual [Json.numEq]
  case otherItems => simp +contextual [Json.itemsNumEq]
  case otherMembers => simp +contextual [Json.membersNumEq]

/-! ### Expressions -/

/-- Equal expressions are written as equal values. -/
lemma Expr.toWire_numEq_and :
    (∀ e e' : Expr, e.numEq e' = true → e.toWire.numEq e'.toWire = true) ∧
    (∀ es es' : List Expr, Expr.itemsNumEq es es' = true →
      WireValue.itemsNumEq (Expr.toWires es) (Expr.toWires es') = true) := by
  refine Expr.numEq.mutual_induct _ _ ?constant ?field ?list ?call ?rows ?values ?otherExpr ?noItem
    ?moreItems ?otherItems
  case constant =>
    intro v w same
    rwa [Expr.numEq] at same
  case field =>
    intro path path' same
    rw [Expr.numEq, beq_iff_eq] at same
    simp [same, Expr.toWire, WireValue.numEq]
  case list =>
    intro es es' ih same
    rw [Expr.numEq] at same
    rw [Expr.toWire, Expr.toWire, WireValue.numEq]
    exact ih same
  case call =>
    intro op args op' args' ih same
    rw [Expr.numEq, Bool.and_eq_true, beq_iff_eq] at same
    simp [same.1, ih same.2, Expr.toWire, WireValue.numEq]
  case rows =>
    intro kind distinct kind' distinct' same
    rw [Expr.numEq, Bool.and_eq_true, beq_iff_eq, beq_iff_eq] at same
    simp [same, Expr.toWire, WireValue.numEq, WireValue.itemsNumEq]
  case values =>
    intro kind distinct e kind' distinct' e' ih same
    rw [Expr.numEq, Bool.and_eq_true, Bool.and_eq_true, beq_iff_eq, beq_iff_eq] at same
    simp [same.1, ih same.2, Expr.toWire, WireValue.numEq, WireValue.itemsNumEq]
  case noItem => simp [Expr.toWires, WireValue.itemsNumEq]
  case moreItems =>
    intro e es e' es' ih ih' same
    rw [Expr.itemsNumEq, Bool.and_eq_true] at same
    simp [ih same.1, ih' same.2, Expr.toWires, WireValue.itemsNumEq]
  -- Nothing else is equal.
  case otherExpr =>
    intro e e' _ _ _ _ _ _ same
    rw [Expr.numEq] at same <;> first | assumption | cases same
  case otherItems => simp +contextual [Expr.itemsNumEq]

lemma Expr.toWire_numEq {e e' : Expr} (same : e.numEq e' = true) :
    e.toWire.numEq e'.toWire = true :=
  toWire_numEq_and.1 e e' same

lemma Expr.columns_numEq {columns columns' : Dictionary Expr}
    (same : Expr.entriesNumEq columns columns' = true) :
    (WireValue.ofColumns columns).numEq (.ofColumns columns') = true := by
  rw [WireValue.ofColumns, WireValue.ofColumns, WireValue.numEq]
  fun_induction Expr.entriesNumEq columns columns' with
  | case1 => simp [Dictionary.mapValues, WireValue.entriesNumEq]
  | case2 key e rest key' e' rest' ih =>
    rw [Bool.and_eq_true, Bool.and_eq_true, beq_iff_eq] at same
    obtain ⟨⟨rfl, first⟩, later⟩ := same
    simpa [Dictionary.mapValues, WireValue.entriesNumEq, toWire_numEq first] using ih later
  | case3 => cases same

lemma Accumulator.entries_numEq {accumulators accumulators' : Dictionary Accumulator}
    (same : Accumulator.entriesNumEq accumulators accumulators' = true) :
    WireValue.entriesNumEq (Dictionary.mapValues (fun a => a.toExpr.toWire) accumulators)
      (Dictionary.mapValues (fun a => a.toExpr.toWire) accumulators') = true := by
  fun_induction Accumulator.entriesNumEq accumulators accumulators' with
  | case1 => simp [Dictionary.mapValues, WireValue.entriesNumEq]
  | case2 key a rest key' a' rest' ih =>
    rw [Bool.and_eq_true, Bool.and_eq_true, beq_iff_eq] at same
    obtain ⟨⟨rfl, first⟩, later⟩ := same
    simpa [Dictionary.mapValues, WireValue.entriesNumEq, Expr.toWire_numEq first] using ih later
  | case3 => cases same

lemma SortKey.list_numEq {keys keys' : List SortKey} (same : SortKey.listNumEq keys keys' = true) :
    WireValue.itemsNumEq (keys.map SortKey.toWire) (keys'.map SortKey.toWire) = true := by
  fun_induction SortKey.listNumEq keys keys' with
  | case1 => simp [WireValue.itemsNumEq]
  | case2 key rest key' rest' ih =>
    rw [Bool.and_eq_true] at same
    obtain ⟨first, later⟩ := same
    rw [SortKey.numEq, Bool.and_eq_true, beq_iff_eq] at first
    simp [WireValue.itemsNumEq, SortKey.toWire, WireValue.numEq, WireValue.entriesNumEq, first.1,
      Expr.toWire_numEq first.2, ih later]
  | case3 => cases same

lemma doubles_numEq {xs ys : List Double} (same : doublesNumEq xs ys = true) :
    WireValue.itemsNumEq (xs.map .double) (ys.map .double) = true := by
  fun_induction doublesNumEq xs ys with
  | case1 => simp [WireValue.itemsNumEq]
  | case2 x xs y ys ih =>
    rw [Bool.and_eq_true] at same
    simp [WireValue.itemsNumEq, WireValue.numEq, same.1, ih same.2]
  | case3 => cases same

/-- Values without doubles are equal to themselves. -/
lemma WireValue.itemsNumEq_map_self {α : Type} {f : α → WireValue}
    (self : ∀ a, (f a).numEq (f a) = true) (items : List α) :
    itemsNumEq (items.map f) (items.map f) = true := by
  induction items with
  | nil => simp [itemsNumEq]
  | cons a rest ih => simp [itemsNumEq, self, ih]

lemma JoinCondition.toWire_numEq {c c' : Option JoinCondition}
    (same : JoinCondition.numEq c c' = true) :
    (JoinCondition.toWire c).numEq (JoinCondition.toWire c') = true := by
  rcases c with _ | condition | fields <;> rcases c' with _ | condition' | fields'
  case none.none => simp [JoinCondition.toWire, WireValue.numEq]
  case some.on.some.on => exact Expr.toWire_numEq same
  case some.using.some.using =>
    obtain rfl : fields = fields' := beq_iff_eq.1 same
    rw [JoinCondition.toWire, WireValue.numEq]
    exact WireValue.itemsNumEq_map_self (fun _ => by simp [WireValue.numEq]) _
  -- Nothing else is equal.
  all_goals cases same

/-! ### Stages and pipelines -/

/-- What the check of a pipeline looks at. -/
def Stage.label (s : Stage) : Bool × String := (s.isSource, s.name)

/-- Pipelines whose stages have the same labels are refused for the same reason, if at all. -/
lemma Pipeline.validate_congr {p p' : Pipeline}
    (same : p.stages.map Stage.label = p'.stages.map Stage.label) : p.validate = p'.validate := by
  obtain ⟨name, stages⟩ := p
  obtain ⟨name', stages'⟩ := p'
  cases stages with
  | nil =>
    obtain rfl : stages' = [] := List.map_eq_nil_iff.1 same.symm
    rfl
  | cons first rest =>
    cases stages' with
    | nil => cases same
    | cons first' rest' =>
      obtain ⟨label, labels⟩ := List.cons.inj same
      obtain ⟨source, text⟩ := Prod.mk.inj label
      have strays := congrArg (List.find? Prod.fst) labels
      rw [List.find?_map, List.find?_map] at strays
      change (rest.find? Stage.isSource).map Stage.label =
        (rest'.find? Stage.isSource).map Stage.label at strays
      simp only [validate, source, text]
      cases stray : rest.find? Stage.isSource with
      | none =>
        rw [stray] at strays
        rw [Option.map_eq_none_iff.1 strays.symm]
      | some s =>
        rw [stray] at strays
        obtain ⟨s', stray', labelled⟩ := Option.map_eq_some_iff.1 strays.symm
        rw [stray']
        dsimp only
        rw [(Prod.mk.inj labelled).2]

/-- Two stages that look the same to the check of a pipeline and are written alike. -/
structure Stage.Alike (s s' : Stage) : Prop where
  label : s.label = s'.label
  written : Agree WireStage.numEq s.toWire s'.toWire

/-- Stages without pipelines inside them are alike if their arguments and options are. -/
lemma Stage.alike_of_parts {s s' : Stage} {name : String} {args args' : List WireValue}
    {options options' : List (String × WireValue)} (label : s.label = s'.label)
    (written : s.toWire = .ok ⟨name, args, options⟩)
    (written' : s'.toWire = .ok ⟨name, args', options'⟩)
    (positional : WireValue.itemsNumEq args args' = true)
    (named : WireValue.entriesNumEq options options' = true) : s.Alike s' := by
  refine ⟨label, ?_⟩
  rw [written, written']
  simp [Agree, WireStage.numEq, positional, named]

/-! One lemma for each kind of stage that has more than one part. -/

namespace Stage

lemma sort_alike {keys keys' : List SortKey} {density density' : SortDensity}
    {truncation truncation' : SortTruncation}
    (same : (sort keys density truncation).numEq (sort keys' density' truncation') = true) :
    (sort keys density truncation).Alike (sort keys' density' truncation') := by
  rw [numEq, Bool.and_eq_true, Bool.and_eq_true, beq_iff_eq, beq_iff_eq] at same
  obtain ⟨⟨equal, rfl⟩, rfl⟩ := same
  refine alike_of_parts rfl (by rw [toWire]) (by rw [toWire]) (SortKey.list_numEq equal) ?_
  simp [WireValue.entriesNumEq, WireValue.numEq]

lemma aggregate_alike {accumulators accumulators' : Dictionary Accumulator}
    {groups groups' : Dictionary Expr}
    (same : (aggregate accumulators groups).numEq (aggregate accumulators' groups') = true) :
    (aggregate accumulators groups).Alike (aggregate accumulators' groups') := by
  rw [numEq, Bool.and_eq_true] at same
  refine alike_of_parts rfl (by rw [toWire]) (by rw [toWire]) ?_ (by rw [WireValue.entriesNumEq])
  simp [WireValue.itemsNumEq, WireValue.numEq, Accumulator.entries_numEq same.1,
    Expr.columns_numEq same.2]

lemma findNearest_alike {field field' : String} {vector vector' : List Double}
    {measure measure' : DistanceMeasure} {limit limit' : Option Int64}
    {distance distance' : Option String}
    (same : (findNearest field vector measure limit distance).numEq
      (findNearest field' vector' measure' limit' distance') = true) :
    (findNearest field vector measure limit distance).Alike
      (findNearest field' vector' measure' limit' distance') := by
  simp only [numEq, Bool.and_eq_true, beq_iff_eq] at same
  obtain ⟨⟨⟨⟨rfl, equal⟩, rfl⟩, rfl⟩, rfl⟩ := same
  refine alike_of_parts rfl (by rw [toWire]) (by rw [toWire]) ?_ ?_
  · simp [WireValue.itemsNumEq, WireValue.numEq, doubles_numEq equal]
  · cases limit <;> cases distance <;>
      simp [WireStage.optional, WireValue.entriesNumEq, WireValue.numEq]

lemma unnest_alike {field field' output output' : String} {mode mode' : MergeMode}
    {index index' : Option String}
    (same : (unnest field output mode index).numEq (unnest field' output' mode' index') = true) :
    (unnest field output mode index).Alike (unnest field' output' mode' index') := by
  simp only [numEq, Bool.and_eq_true, beq_iff_eq] at same
  obtain ⟨⟨⟨rfl, rfl⟩, rfl⟩, rfl⟩ := same
  refine alike_of_parts rfl (by rw [toWire]) (by rw [toWire]) ?_ ?_
  · simp [WireValue.itemsNumEq, WireValue.numEq]
  · cases index <;> simp [WireStage.optional, WireValue.entriesNumEq, WireValue.numEq]

lemma sample_alike {size size' : SampleSize} (same : (sample size).numEq (sample size') = true) :
    (sample size).Alike (sample size') := by
  rw [numEq] at same
  refine alike_of_parts rfl (by rw [toWire]) (by rw [toWire]) ?_ (by rw [WireValue.entriesNumEq])
  cases size with
  | documents n =>
    cases size' with
    | documents n' =>
      rw [SampleSize.numEq, beq_iff_eq] at same
      simp [WireValue.itemsNumEq, WireValue.numEq, SampleSize.amount, SampleSize.mode, same]
    | percent x => cases same
  | percent x =>
    cases size' with
    | documents n => cases same
    | percent x' =>
      rw [SampleSize.numEq] at same
      simp [WireValue.itemsNumEq, WireValue.numEq, SampleSize.amount, SampleSize.mode, same]

lemma replace_alike {e e' : Expr} {mode mode' : MergeMode}
    (same : (replace e mode).numEq (replace e' mode') = true) :
    (replace e mode).Alike (replace e' mode') := by
  rw [numEq, Bool.and_eq_true, beq_iff_eq] at same
  obtain ⟨equal, rfl⟩ := same
  refine alike_of_parts rfl (by rw [toWire]) (by rw [toWire]) ?_ (by rw [WireValue.entriesNumEq])
  simp [WireValue.itemsNumEq, WireValue.numEq, Expr.toWire_numEq equal]

lemma join_alike {kind kind' : JoinKind} {condition condition' : Option JoinCondition}
    {left left' right right' : Option String} {p p' : Pipeline}
    (inside : p.numEq p' = true → Agree WireStage.itemsNumEq p.toWireStages p'.toWireStages)
    (same : (join kind condition left right p).numEq (join kind' condition' left' right' p') =
      true) :
    (join kind condition left right p).Alike (join kind' condition' left' right' p') := by
  simp only [numEq, Bool.and_eq_true, beq_iff_eq] at same
  obtain ⟨⟨⟨⟨rfl, conditions⟩, rfl⟩, rfl⟩, equal⟩ := same
  refine ⟨rfl, ?_⟩
  rw [toWire_join_eq, toWire_join_eq]
  refine (inside equal).map fun stages stages' alike => ?_
  cases left <;> cases right <;>
    simp [WireStage.numEq, WireStage.optional, WireValue.itemsNumEq, WireValue.entriesNumEq,
      WireValue.numEq, JoinCondition.toWire_numEq conditions, alike]

lemma union_alike {p p' : Pipeline}
    (inside : p.numEq p' = true → Agree WireStage.itemsNumEq p.toWireStages p'.toWireStages)
    (same : (union p).numEq (union p') = true) : (union p).Alike (union p') := by
  rw [numEq] at same
  refine ⟨rfl, ?_⟩
  rw [toWire_union_eq, toWire_union_eq]
  refine (inside same).map fun stages stages' alike => ?_
  simp [WireStage.numEq, WireValue.itemsNumEq, WireValue.entriesNumEq, WireValue.numEq, alike]

lemma generic_alike {name name' : String} {args args' : List StageArgument}
    {options options' : List (String × StageArgument)}
    (positional : StageArgument.listNumEq args args' = true →
      Agree WireValue.itemsNumEq (StageArgument.toWires args) (StageArgument.toWires args'))
    (named : StageArgument.entriesNumEq options options' = true →
      Agree WireValue.entriesNumEq (StageArgument.entriesToWire options)
        (StageArgument.entriesToWire options'))
    (same : (generic name args options).numEq (generic name' args' options') = true) :
    (generic name args options).Alike (generic name' args' options') := by
  rw [numEq, Bool.and_eq_true, Bool.and_eq_true, beq_iff_eq] at same
  obtain ⟨⟨rfl, equal⟩, equal'⟩ := same
  refine ⟨rfl, ?_⟩
  rw [toWire_generic_eq, toWire_generic_eq]
  refine (positional equal).both (named equal') fun vs ws entries entries' first rest => ?_
  simp [WireStage.numEq, first, rest]

end Stage

namespace Pipeline

/-- Equal stages, pipelines and arguments are refused for the same reason, or written alike. -/
lemma all_agree :
    (∀ s s' : Stage, s.numEq s' = true → s.Alike s') ∧
    (∀ os os' : List (String × StageArgument), StageArgument.entriesNumEq os os' = true →
      Agree WireValue.entriesNumEq (StageArgument.entriesToWire os)
        (StageArgument.entriesToWire os')) ∧
    (∀ a a' : StageArgument, a.numEq a' = true → Agree WireValue.numEq a.toWire a'.toWire) ∧
    (∀ p p' : Pipeline, p.numEq p' = true →
      Agree WireStage.itemsNumEq p.toWireStages p'.toWireStages) ∧
    (∀ ss ss' : List Stage, Stage.listNumEq ss ss' = true →
      ss.map Stage.label = ss'.map Stage.label ∧
        Agree WireStage.itemsNumEq (Stage.toWires ss) (Stage.toWires ss')) ∧
    (∀ as as' : List StageArgument, StageArgument.listNumEq as as' = true →
      Agree WireValue.itemsNumEq (StageArgument.toWires as) (StageArgument.toWires as')) := by
  refine Stage.numEq.mutual_induct _ _ _ _ _ _ ?collection ?collectionGroup ?database ?documents
    ?select ?addFields ?removeFields ?filter ?offset ?limit ?sort ?aggregate ?distinct ?findNearest
    ?join ?unnest ?union ?sample ?replace ?generic ?otherStage ?noOption ?moreOptions ?otherOptions
    ?expr ?json ?nested ?otherArgument ?pipeline ?noStage ?moreStages ?otherStages ?noArgument
    ?moreArguments ?otherArguments
  case collection | collectionGroup | offset | limit =>
    intro a b same
    rw [Stage.numEq, beq_iff_eq] at same
    rw [same]
    refine Stage.alike_of_parts rfl (by rw [Stage.toWire]) (by rw [Stage.toWire]) ?_ ?_ <;>
      simp [WireValue.itemsNumEq, WireValue.entriesNumEq, WireValue.numEq, WireValue.rooted]
  case database =>
    intro _
    refine Stage.alike_of_parts rfl (by rw [Stage.toWire]) (by rw [Stage.toWire]) ?_ ?_
    · rw [WireValue.itemsNumEq]
    · rw [WireValue.entriesNumEq]
  case documents | removeFields =>
    intro items items' same
    rw [Stage.numEq, beq_iff_eq] at same
    rw [same]
    refine Stage.alike_of_parts rfl (by rw [Stage.toWire]) (by rw [Stage.toWire]) ?_ ?_
    · exact WireValue.itemsNumEq_map_self (fun _ => by simp [WireValue.numEq]) _
    · rw [WireValue.entriesNumEq]
  case select | addFields | distinct =>
    intro columns columns' same
    rw [Stage.numEq] at same
    refine Stage.alike_of_parts rfl (by rw [Stage.toWire]) (by rw [Stage.toWire]) ?_ ?_
    · simp [WireValue.itemsNumEq, Expr.columns_numEq same]
    · rw [WireValue.entriesNumEq]
  case filter =>
    intro condition condition' same
    rw [Stage.numEq] at same
    refine Stage.alike_of_parts rfl (by rw [Stage.toWire]) (by rw [Stage.toWire]) ?_ ?_
    · simp [WireValue.itemsNumEq, Expr.toWire_numEq same]
    · rw [WireValue.entriesNumEq]
  case sort => exact fun _ _ _ _ _ _ => Stage.sort_alike
  case aggregate => exact fun _ _ _ _ => Stage.aggregate_alike
  case findNearest => exact fun _ _ _ _ _ _ _ _ _ _ => Stage.findNearest_alike
  case unnest => exact fun _ _ _ _ _ _ _ _ => Stage.unnest_alike
  case sample => exact fun _ _ => Stage.sample_alike
  case replace => exact fun _ _ _ _ => Stage.replace_alike
  case join => exact fun _ _ _ _ _ _ _ _ _ _ => Stage.join_alike
  case union => exact fun _ _ => Stage.union_alike
  case generic => exact fun _ _ _ _ _ _ => Stage.generic_alike
  case expr =>
    intro e e' same
    rw [StageArgument.numEq] at same
    rw [StageArgument.toWire, StageArgument.toWire]
    exact Expr.toWire_numEq same
  case json =>
    intro d d' same
    rw [StageArgument.numEq] at same
    rw [StageArgument.toWire, StageArgument.toWire]
    exact WireValue.ofPlain_agree.1 _ _ same
  case nested =>
    intro p p' ih same
    rw [StageArgument.numEq] at same
    rw [StageArgument.toWire, StageArgument.toWire]
    exact (ih same).map fun stages stages' alike => by rwa [WireValue.numEq]
  case pipeline =>
    intro name stages name' stages' ih same
    rw [Pipeline.numEq, Bool.and_eq_true] at same
    obtain ⟨labels, written⟩ := ih same.2
    have valid : validate ⟨name, stages⟩ = validate ⟨name', stages'⟩ := validate_congr labels
    rw [toWireStages_eq, toWireStages_eq, valid]
    cases validate ⟨name', stages'⟩ with
    | error e => rfl
    | ok _ => exact written
  case noOption => simp [StageArgument.entriesToWire, Agree, WireValue.entriesNumEq]
  case noArgument => simp [StageArgument.toWires, Agree, WireValue.itemsNumEq]
  case noStage => simp [Stage.toWires, Agree, WireStage.itemsNumEq]
  case moreOptions =>
    intro key a as key' a' as' ih ih' same
    rw [StageArgument.entriesNumEq, Bool.and_eq_true, Bool.and_eq_true, beq_iff_eq] at same
    obtain ⟨⟨rfl, first⟩, rest⟩ := same
    rw [StageArgument.entriesToWire_cons_eq, StageArgument.entriesToWire_cons_eq]
    refine (ih first).both (ih' rest) fun v w vs ws alike later => ?_
    simp [WireValue.entriesNumEq, alike, later]
  case moreArguments =>
    intro a as a' as' ih ih' same
    rw [StageArgument.listNumEq, Bool.and_eq_true] at same
    rw [StageArgument.toWires_cons_eq, StageArgument.toWires_cons_eq]
    refine (ih same.1).both (ih' same.2) fun v w vs ws alike later => ?_
    simp [WireValue.itemsNumEq, alike, later]
  case moreStages =>
    intro s ss s' ss' ih ih' same
    rw [Stage.listNumEq, Bool.and_eq_true] at same
    obtain ⟨label, written⟩ := ih same.1
    obtain ⟨labels, later⟩ := ih' same.2
    refine ⟨by rw [List.map_cons, List.map_cons, label, labels], ?_⟩
    rw [Stage.toWires_cons_eq, Stage.toWires_cons_eq]
    refine written.both later fun v w vs ws alike rest => ?_
    simp [WireStage.itemsNumEq, alike, rest]
  -- Nothing else is equal.
  case otherStage => simp +contextual [Stage.numEq]
  case otherOptions => simp +contextual [StageArgument.entriesNumEq]
  case otherArgument => simp +contextual [StageArgument.numEq]
  case otherStages => simp +contextual [Stage.listNumEq]
  case otherArguments => simp +contextual [StageArgument.listNumEq]

/-- Equal pipelines are refused for the same reason, or written as equal stages. -/
lemma toWire_agree {p q : Pipeline} (same : p.numEq q = true) :
    Agree (fun w w' : WirePipeline => WireStage.itemsNumEq w.stages w'.stages) p.toWire q.toWire :=
  (all_agree.2.2.2.1 p q same).map fun _ _ => id

/-- Equal pipelines are both written or refused for the same reason. Their canonical texts are the
same exactly if the zeros in them have the same signs, in order. -/
theorem equal_pipelines_share_text {p q : Pipeline} (same : p.numEq q = true) :
    (∀ e, p.toWire = .error e ↔ q.toWire = .error e) ∧
    ∀ w w', p.toWire = .ok w → q.toWire = .ok w' →
      (w.canonicalText = w'.canonicalText ↔ w.zeroSigns = w'.zeroSigns) ∧
      (w.zeroSigns = w'.zeroSigns → w.fingerprint = w'.fingerprint) ∧
      (w.fingerprint = w'.fingerprint → w.zeroSigns = w'.zeroSigns ∨
        w.canonicalText.toUTF8.toList ≠ w'.canonicalText.toUTF8.toList ∧
          Sha256.digest w.canonicalText.toUTF8.toList =
            Sha256.digest w'.canonicalText.toUTF8.toList) := by
  have agree := toWire_agree same
  refine ⟨fun e => agree.error_iff, fun w w' written written' => ?_⟩
  rw [written, written'] at agree
  have text := WirePipeline.canonicalText_eq_iff agree
  refine ⟨text, fun signs => ?_, fun fingerprints => ?_⟩
  · rw [WirePipeline.fingerprint, WirePipeline.fingerprint, text.2 signs]
  · by_cases signs : w.zeroSigns = w'.zeroSigns
    · exact .inl signs
    · refine .inr ⟨fun bytes => signs (text.1 (toList_toUTF8_inj bytes)), ?_⟩
      exact Sha256.digest_eq_of_hexDigest fingerprints

/-- Books near a place, given as an object with its members in some order. -/
def booksNear (place : List (String × Json)) : Pipeline :=
  ⟨none, [.collection "books", .generic "near" [.json (.object place)] []]⟩

/-- Books whose balance is a given number. -/
def booksOfBalance (x : Double) : Pipeline :=
  ⟨none, [.collection "books",
    .filter (.compare .equal (.field "balance") (.constant (.double x)))]⟩

/-- Objects with their members in another order are equal, and there is one text for both. -/
theorem equal_pipelines_share_text_near :
    let place := [("x", Json.ofNat 1), ("y", Json.ofNat 2)]
    (booksNear place).numEq (booksNear place.reverse) = true ∧
      ∃ w w', (booksNear place).toWire = .ok w ∧ (booksNear place.reverse).toWire = .ok w' ∧
        w.canonicalText = w'.canonicalText ∧ w.fingerprint = w'.fingerprint := by
  intro place
  have same : (booksNear place).numEq (booksNear place.reverse) = true := by
    have normal : (Json.object place).normalize = (Json.object place.reverse).normalize := rfl
    have self : (Json.object place).normalize.numEq (Json.object place).normalize = true := rfl
    rw [normal] at self
    simp [booksNear, Pipeline.numEq, Stage.listNumEq, Stage.numEq, StageArgument.listNumEq,
      StageArgument.numEq, StageArgument.entriesNumEq, self, normal]
  obtain ⟨text, prints, -⟩ := (equal_pipelines_share_text same).2 _ _ rfl rfl
  exact ⟨same, _, _, rfl, rfl, text.2 rfl, prints rfl⟩

/-- The two zeros make equal pipelines with different texts. -/
theorem zeros_told_apart :
    let zero (negative : Bool) : Pipeline := booksOfBalance (.finite (.zero negative))
    (zero false).numEq (zero true) = true ∧
      ∃ w w', (zero false).toWire = .ok w ∧ (zero true).toWire = .ok w' ∧
        w.canonicalText ≠ w'.canonicalText := by
  intro zero
  have same : (zero false).numEq (zero true) = true := by
    have numbers : (Double.finite (.zero false)).numEq (.finite (.zero true)) = true := rfl
    simp [zero, booksOfBalance, Condition.compare, Pipeline.numEq, Stage.listNumEq, Stage.numEq,
      Condition.numEq, Expr.numEq, Expr.itemsNumEq, WireValue.numEq, numbers]
  let wire (negative : Bool) : WirePipeline :=
    ⟨[⟨"collection", [.reference "/books"], []⟩,
      ⟨"filter", [.function "equal" [.fieldReference "balance",
        .double (.finite (.zero negative))]], []⟩]⟩
  have written (negative : Bool) : (zero negative).toWire = .ok (wire negative) := rfl
  have signs (negative : Bool) : (wire negative).zeroSigns = [negative] := by
    have zero : (FiniteDouble.zero negative).isZero = true := rfl
    simp [wire, WirePipeline.zeroSigns, WireStage.signsOfAll, WireStage.zeroSigns,
      WireValue.itemSigns, WireValue.entrySigns, WireValue.zeroSigns, Double.zeroSigns, zero]
    rfl
  refine ⟨same, _, _, written false, written true, fun texts => ?_⟩
  have equal := toWire_agree same
  rw [written, written] at equal
  rw [WirePipeline.canonicalText_eq_iff equal, signs, signs] at texts
  cases texts

end Pipeline

end DocumentQuery
