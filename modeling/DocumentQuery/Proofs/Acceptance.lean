import DocumentQuery.Pipeline.Wire
import DocumentQuery.Proofs.Arrangement
import DocumentQuery.Proofs.Nesting

/-!
# Which pipelines are written to the wire

Everything that a pipeline holds has faults of its own: a pipeline may lack its source or have
others after it, and a document may hold integers that are too large. Writing a pipeline fails if
and only if there are faults, with the first of them in the order of the contents. Otherwise there
is one wire stage for every stage, under its name, in the pipelines inside it too.

The walks over stages, arguments and documents stop at their first error. They are all compared with
a list of faults in one way, `Reports`, which is composed as the walks are.
-/

namespace DocumentQuery

/-- The result is the error of the first fault, or without faults a value of which `spec` holds. -/
structure Reports {α : Type} (faults : List BuildError) (spec : α → Prop)
    (result : Except BuildError α) : Prop where
  ok : ∀ a, result = .ok a → faults = [] ∧ spec a
  error : ∀ e, result = .error e → faults.head? = some e

namespace Reports

variable {α β γ : Type} {faults later : List BuildError} {p : α → Prop} {q : β → Prop}
  {r : γ → Prop} {x : Except BuildError α} {y : Except BuildError β}

lemma of_ok {a : α} (h : p a) : Reports [] p (.ok a) where
  ok := by
    rintro _ ⟨⟩
    exact ⟨rfl, h⟩
  error := nofun

lemma of_error {e : BuildError} {rest : List BuildError} :
    Reports (e :: rest) p (.error e) where
  ok := nofun
  error := by
    rintro _ ⟨⟩
    rfl

lemma map (h : Reports faults p x) (f : α → β) (keeps : ∀ a, p a → q (f a)) :
    Reports faults q (x.map f) := by
  cases x with
  | error e => exact ⟨nofun, fun _ failed => h.error _ (by cases failed; rfl)⟩
  | ok a =>
    obtain ⟨sound, spec⟩ := h.ok a rfl
    subst sound
    exact of_ok (keeps a spec)

/-- What comes first is reported first. -/
lemma andThen (h : Reports faults p x) (h' : Reports later q y) :
    Reports (faults ++ later) q (x.bind fun _ => y) := by
  cases x with
  | error e =>
    refine ⟨nofun, fun _ failed => ?_⟩
    cases failed
    rw [List.head?_append, h.error e rfl, Option.some_or]
  | ok a =>
    obtain ⟨sound, -⟩ := h.ok a rfl
    subst sound
    exact h'

lemma both (h : Reports faults p x) (h' : Reports later q y) (f : α → β → γ)
    (keeps : ∀ a b, p a → q b → r (f a b)) :
    Reports (faults ++ later) r (x.bind fun a => y.map (f a)) := by
  cases x with
  | error e =>
    refine ⟨nofun, fun _ failed => ?_⟩
    cases failed
    rw [List.head?_append, h.error e rfl, Option.some_or]
  | ok a =>
    obtain ⟨sound, spec⟩ := h.ok a rfl
    subst sound
    exact h'.map (f a) fun b => keeps a b spec

/-- The result succeeds exactly if there are no faults. -/
lemma exists_ok_iff (h : Reports faults p x) : (∃ a, x = .ok a) ↔ faults = [] := by
  cases x with
  | error e =>
    have first := h.error e rfl
    refine ⟨nofun, fun sound => ?_⟩
    rw [sound] at first
    cases first
  | ok a => exact ⟨fun _ => (h.ok a rfl).1, fun _ => ⟨a, rfl⟩⟩

lemma eq_error_iff (h : Reports faults p x) {e : BuildError} :
    x = .error e ↔ faults.head? = some e := by
  refine ⟨h.error e, fun first => ?_⟩
  cases x with
  | error e' =>
    rw [h.error e' rfl] at first
    rw [Option.some.inj first]
  | ok a =>
    rw [(h.ok a rfl).1] at first
    cases first

end Reports

/-! ### Faults -/

mutual

/-- The whole numbers in a document, at any depth and in the order of the text. -/
def Json.wholes : Json → List WholeNumber
  | .whole n => [n]
  | .array items => Json.itemWholes items
  | .object members => Json.memberWholes members
  | _ => []

def Json.itemWholes : List Json → List WholeNumber
  | [] => []
  | item :: rest => item.wholes ++ Json.itemWholes rest

def Json.memberWholes : List (String × Json) → List WholeNumber
  | [] => []
  | (_, value) :: rest => value.wholes ++ Json.memberWholes rest

end

mutual

/-- Whether the members of every object stand in the order of their keys. -/
def Json.InKeyOrder : Json → Prop
  | .array items => Json.AllInKeyOrder items
  | .object members => Dictionary.Sorted members ∧ Json.MembersInKeyOrder members
  | _ => True

def Json.AllInKeyOrder : List Json → Prop
  | [] => True
  | item :: rest => item.InKeyOrder ∧ Json.AllInKeyOrder rest

def Json.MembersInKeyOrder : List (String × Json) → Prop
  | [] => True
  | (_, value) :: rest => value.InKeyOrder ∧ Json.MembersInKeyOrder rest

end

/-- The largest integer that a value can be. -/
def maxInteger : Int := 9223372036854775807

/-- The errors of the integers that no value can be. -/
def WholeNumber.faults (n : WholeNumber) : List BuildError :=
  if n.value ≤ maxInteger then [] else [.tooLarge n.value]

/-- Whether a pipeline starts with a source and has no other one. -/
def Pipeline.WellSourced (p : Pipeline) : Prop :=
  ∃ source rest, p.stages = source :: rest ∧ source.isSource = true ∧
    ∀ s ∈ rest, s.isSource = false

/-- What is wrong with the places of sources among the stages. -/
def Pipeline.sourceFaults (p : Pipeline) : List BuildError :=
  match p.stages with
  | [] => [.argument .noStages]
  | first :: rest =>
    (if first.isSource then [] else [.argument (.noSourceFirst first.name)]) ++
      (rest.filter Stage.isSource).map fun s => .argument (.strayingSource s.name)

namespace Content

/-- Whether something can be written, apart from what it holds. -/
def Sound : Content → Prop
  | .pipeline p => p.WellSourced
  | .document d => ∀ n ∈ d.normalize.wholes, n.value ≤ maxInteger

/-- Its own faults, in order; objects are taken by key. -/
def faults : Content → List BuildError
  | .pipeline p => p.sourceFaults
  | .document d => d.normalize.wholes.flatMap WholeNumber.faults

end Content

lemma WholeNumber.faults_eq_nil {n : WholeNumber} : n.faults = [] ↔ n.value ≤ maxInteger := by
  unfold faults
  split_ifs with fits <;> simp [fits]

lemma Pipeline.sourceFaults_eq_nil {p : Pipeline} : p.sourceFaults = [] ↔ p.WellSourced := by
  unfold sourceFaults WellSourced
  cases p.stages with
  | nil => simp
  | cons first rest =>
    cases source : first.isSource <;>
      simp [source, List.filter_eq_nil_iff]

lemma Content.faults_eq_nil {c : Content} : c.faults = [] ↔ c.Sound := by
  cases c with
  | pipeline p => exact Pipeline.sourceFaults_eq_nil
  | document d => simp [faults, Sound, WholeNumber.faults_eq_nil]

/-! ### Documents -/

lemma Json.allInKeyOrder_iff {items : List Json} :
    AllInKeyOrder items ↔ ∀ item ∈ items, item.InKeyOrder := by
  induction items with
  | nil => simp [AllInKeyOrder]
  | cons item rest ih => simp [AllInKeyOrder, ih]

lemma Json.membersInKeyOrder_iff {members : List (String × Json)} :
    MembersInKeyOrder members ↔ ∀ m ∈ members, m.2.InKeyOrder := by
  induction members with
  | nil => simp [MembersInKeyOrder]
  | cons m rest ih => simp [MembersInKeyOrder, ih]

lemma Json.normalizeMembers_inKeyOrder (members : List (String × Json)) :
    Dictionary.Sorted (normalizeMembers members) := by
  induction members with
  | nil => exact List.Pairwise.nil
  | cons m rest ih =>
    rw [normalizeMembers]
    exact Dictionary.insertNew_sorted ih

mutual

lemma Json.inKeyOrder_normalize (d : Json) : d.normalize.InKeyOrder := by
  cases d with
  | array items =>
    rw [normalize, InKeyOrder]
    exact Json.allInKeyOrder_normalizeItems items
  | object members =>
    rw [normalize, InKeyOrder]
    refine ⟨normalizeMembers_inKeyOrder members, ?_⟩
    exact membersInKeyOrder_iff.2 (Json.inKeyOrder_of_mem_normalizeMembers members)
  | _ => trivial

lemma Json.allInKeyOrder_normalizeItems (items : List Json) :
    AllInKeyOrder (normalizeItems items) := by
  cases items with
  | nil => simp [normalizeItems, AllInKeyOrder]
  | cons item rest =>
    rw [normalizeItems, AllInKeyOrder]
    exact ⟨Json.inKeyOrder_normalize item, Json.allInKeyOrder_normalizeItems rest⟩

lemma Json.inKeyOrder_of_mem_normalizeMembers (members : List (String × Json)) :
    ∀ m ∈ normalizeMembers members, m.2.InKeyOrder := by
  cases members with
  | nil => simp [normalizeMembers]
  | cons m rest =>
    intro entry found
    rw [normalizeMembers] at found
    rcases Dictionary.mem_insertNew found with rfl | later
    · exact Json.inKeyOrder_normalize m.2
    · exact Json.inKeyOrder_of_mem_normalizeMembers rest entry later

end

mutual

/-- A document whose members stand in the order of their keys is its own normal form. -/
lemma Json.normalize_of_inKeyOrder {d : Json} (ordered : d.InKeyOrder) : d.normalize = d := by
  cases d with
  | array items =>
    rw [InKeyOrder] at ordered
    rw [normalize, Json.normalizeItems_of_inKeyOrder ordered]
  | object members =>
    rw [InKeyOrder] at ordered
    rw [normalize, Json.normalizeMembers_of_inKeyOrder ordered.1 ordered.2]
  | _ => rfl

lemma Json.normalizeItems_of_inKeyOrder {items : List Json} (ordered : AllInKeyOrder items) :
    normalizeItems items = items := by
  cases items with
  | nil => rfl
  | cons item rest =>
    rw [AllInKeyOrder] at ordered
    rw [normalizeItems, Json.normalize_of_inKeyOrder ordered.1,
      Json.normalizeItems_of_inKeyOrder ordered.2]

lemma Json.normalizeMembers_of_inKeyOrder {members : Dictionary Json} (sorted : members.Sorted)
    (ordered : MembersInKeyOrder members) : normalizeMembers members = members := by
  cases members with
  | nil => rfl
  | cons member rest =>
    obtain ⟨least, sorted⟩ := List.pairwise_cons.1 sorted
    rw [MembersInKeyOrder] at ordered
    rw [normalizeMembers, Json.normalize_of_inKeyOrder ordered.1,
      Json.normalizeMembers_of_inKeyOrder sorted ordered.2, Dictionary.insertNew_of_lt least]

end

lemma WireValue.ofPlainItems_cons_eq (item : Json) (rest : List Json) :
    ofPlainItems (item :: rest) =
      (ofPlain item).bind fun v => (ofPlainItems rest).map (v :: ·) := by
  rw [ofPlainItems]
  cases ofPlain item <;> rfl

lemma WireValue.ofPlainMembers_cons_eq (m : String × Json) (rest : List (String × Json)) :
    ofPlainMembers (m :: rest) =
      (ofPlain m.2).bind fun v => (ofPlainMembers rest).map (Dictionary.insertNew m.1 v) := by
  rw [ofPlainMembers]
  cases ofPlain m.2 <;> rfl

lemma WholeNumber.toValue_reports (n : WholeNumber) :
    Reports n.faults (fun _ => True) n.toValue := by
  unfold toValue toInt64? faults maxInteger
  by_cases fits : n.value < 9223372036854775808
  · rw [if_pos fits, if_pos (by omega)]
    exact .of_ok trivial
  · rw [if_neg fits, if_neg (by omega)]
    exact .of_error

mutual

/-- Reading a document fails with the first integer that is too large. -/
lemma WireValue.ofPlain_reports (d : Json) :
    Reports (d.wholes.flatMap WholeNumber.faults) (fun _ => True) (ofPlain d) := by
  cases d with
  | whole n =>
    rw [Json.wholes, List.flatMap_singleton, ofPlain]
    exact n.toValue_reports
  | array items =>
    rw [Json.wholes, ofPlain]
    exact (WireValue.ofPlainItems_reports items).map _ fun _ => id
  | object members =>
    rw [Json.wholes, ofPlain]
    exact (WireValue.ofPlainMembers_reports members).map _ fun _ => id
  | _ => exact Reports.of_ok trivial

lemma WireValue.ofPlainItems_reports (items : List Json) :
    Reports ((Json.itemWholes items).flatMap WholeNumber.faults) (fun _ => True)
      (ofPlainItems items) := by
  cases items with
  | nil =>
    rw [Json.itemWholes, ofPlainItems]
    exact .of_ok trivial
  | cons item rest =>
    rw [Json.itemWholes, List.flatMap_append, WireValue.ofPlainItems_cons_eq]
    exact (WireValue.ofPlain_reports item).both (WireValue.ofPlainItems_reports rest) _
      fun _ _ _ _ => trivial

lemma WireValue.ofPlainMembers_reports (members : List (String × Json)) :
    Reports ((Json.memberWholes members).flatMap WholeNumber.faults) (fun _ => True)
      (ofPlainMembers members) := by
  cases members with
  | nil =>
    rw [Json.memberWholes, ofPlainMembers]
    exact .of_ok trivial
  | cons m rest =>
    rw [Json.memberWholes, List.flatMap_append, WireValue.ofPlainMembers_cons_eq]
    exact (WireValue.ofPlain_reports m.2).both (WireValue.ofPlainMembers_reports rest) _
      fun _ _ _ _ => trivial

end

/-! ### Stages and pipelines -/

mutual

/-- Whether a wire stage has the name of a stage, and holds what the pipelines inside it are written
as. -/
def Stage.WrittenAs : Stage → WireStage → Prop
  | .join kind _ _ _ right, w =>
    w.name = kind.stageName ∧
      ∃ name condition stages, w.args = [name, condition, .pipeline stages] ∧ right.WrittenAs stages
  | .union other, w =>
    w.name = "union" ∧ ∃ stages, w.args = [.pipeline stages] ∧ other.WrittenAs stages
  | .generic name args options, w =>
    w.name = name ∧ StageArgument.AllWrittenAs args w.args ∧
      StageArgument.EntriesWrittenAs options w.options
  | stage, w => w.name = stage.name

/-- One wire stage for each stage, in order. -/
def Stage.AllWrittenAs : List Stage → List WireStage → Prop
  | [], ws => ws = []
  | s :: rest, ws => ∃ w more, ws = w :: more ∧ s.WrittenAs w ∧ Stage.AllWrittenAs rest more

def Pipeline.WrittenAs : Pipeline → List WireStage → Prop
  | ⟨_, stages⟩, ws => Stage.AllWrittenAs stages ws

def StageArgument.WrittenAs : StageArgument → WireValue → Prop
  | .pipeline p, v => ∃ stages, v = .pipeline stages ∧ p.WrittenAs stages
  | _, _ => True

def StageArgument.AllWrittenAs : List StageArgument → List WireValue → Prop
  | [], vs => vs = []
  | arg :: rest, vs =>
    ∃ v more, vs = v :: more ∧ arg.WrittenAs v ∧ StageArgument.AllWrittenAs rest more

def StageArgument.EntriesWrittenAs :
    List (String × StageArgument) → List (String × WireValue) → Prop
  | [], entries => entries = []
  | (key, arg) :: rest, entries =>
    ∃ v more, entries = (key, v) :: more ∧ arg.WrittenAs v ∧
      StageArgument.EntriesWrittenAs rest more

end

/-- The faults of all that is held, in order. -/
def allFaults (contents : List Content) : List BuildError := contents.flatMap Content.faults

lemma allFaults_append (front back : List Content) :
    allFaults (front ++ back) = allFaults front ++ allFaults back := List.flatMap_append

lemma Pipeline.validate_reports (p : Pipeline) :
    Reports p.sourceFaults (fun _ => True) p.validate := by
  unfold sourceFaults validate
  cases p.stages with
  | nil => exact .of_error
  | cons first rest =>
    cases source : first.isSource with
    | false =>
      simp only [source, Bool.not_false, if_true, Bool.false_eq_true, if_false]
      exact .of_error
    | true =>
      simp only [source, Bool.not_true, if_true, Bool.false_eq_true, if_false, List.nil_append]
      rw [← List.head?_filter]
      cases rest.filter Stage.isSource with
      | nil => exact .of_ok trivial
      | cons stray others => exact .of_error

/-! The walks as compositions: what comes first, and then the rest. -/

lemma Stage.toWires_cons_eq (s : Stage) (rest : List Stage) :
    toWires (s :: rest) = s.toWire.bind fun w => (toWires rest).map (w :: ·) := by
  rw [toWires]
  cases s.toWire <;> rfl

lemma Stage.toWire_join_eq (kind : JoinKind) (condition : Option JoinCondition)
    (leftAlias rightAlias : Option String) (right : Pipeline) :
    (join kind condition leftAlias rightAlias right).toWire =
      right.toWireStages.map fun stages =>
        ⟨kind.stageName, [.string kind.name, JoinCondition.toWire condition, .pipeline stages],
          WireStage.optional "left_alias" (leftAlias.map .string) ++
            WireStage.optional "right_alias" (rightAlias.map .string)⟩ := by
  rw [toWire]
  cases right.toWireStages <;> rfl

lemma Stage.toWire_union_eq (other : Pipeline) :
    (union other).toWire =
      other.toWireStages.map fun stages => ⟨"union", [.pipeline stages], []⟩ := by
  rw [toWire]
  cases other.toWireStages <;> rfl

lemma Stage.toWire_generic_eq (name : String) (args : List StageArgument)
    (options : List (String × StageArgument)) :
    (generic name args options).toWire =
      (StageArgument.toWires args).bind fun vs =>
        (StageArgument.entriesToWire options).map fun entries => ⟨name, vs, entries⟩ := by
  rw [toWire]
  cases StageArgument.toWires args <;> rfl

lemma StageArgument.toWires_cons_eq (arg : StageArgument) (rest : List StageArgument) :
    toWires (arg :: rest) = arg.toWire.bind fun v => (toWires rest).map (v :: ·) := by
  rw [toWires]
  cases arg.toWire <;> rfl

lemma StageArgument.entriesToWire_cons_eq (key : String) (arg : StageArgument)
    (rest : List (String × StageArgument)) :
    entriesToWire ((key, arg) :: rest) =
      arg.toWire.bind fun v => (entriesToWire rest).map ((key, v) :: ·) := by
  rw [entriesToWire]
  cases arg.toWire <;> rfl

lemma Pipeline.toWireStages_eq (p : Pipeline) :
    p.toWireStages = p.validate.bind fun _ => Stage.toWires p.stages := by
  obtain ⟨name, stages⟩ := p
  rw [toWireStages]
  cases validate ⟨name, stages⟩ <;> rfl

mutual

lemma Stage.toWire_reports (s : Stage) :
    Reports (allFaults s.contents) s.WrittenAs s.toWire := by
  cases s with
  | join kind condition leftAlias rightAlias right =>
    rw [Stage.contents, Stage.toWire_join_eq]
    refine (Pipeline.toWireStages_reports right).map _ fun stages written => ?_
    rw [Stage.WrittenAs]
    exact ⟨rfl, _, _, stages, rfl, written⟩
  | union other =>
    rw [Stage.contents, Stage.toWire_union_eq]
    refine (Pipeline.toWireStages_reports other).map _ fun stages written => ?_
    rw [Stage.WrittenAs]
    exact ⟨rfl, stages, rfl, written⟩
  | generic name args options =>
    rw [Stage.contents, allFaults_append, Stage.toWire_generic_eq]
    refine (StageArgument.toWires_reports args).both
      (StageArgument.entriesToWire_reports options) _ ?_
    intro vs entries positional named
    rw [Stage.WrittenAs]
    exact ⟨rfl, positional, named⟩
  | _ => exact Reports.of_ok (Eq.refl _)

lemma Stage.toWires_reports (stages : List Stage) :
    Reports (allFaults (Stage.allContents stages)) (Stage.AllWrittenAs stages)
      (Stage.toWires stages) := by
  cases stages with
  | nil =>
    rw [Stage.allContents, Stage.toWires]
    exact .of_ok (by rw [Stage.AllWrittenAs])
  | cons s rest =>
    rw [Stage.allContents, allFaults_append, Stage.toWires_cons_eq]
    refine (Stage.toWire_reports s).both (Stage.toWires_reports rest) _ ?_
    intro w more first later
    rw [Stage.AllWrittenAs]
    exact ⟨w, more, rfl, first, later⟩

lemma Pipeline.toWireStages_reports (p : Pipeline) :
    Reports (allFaults p.contents) p.WrittenAs p.toWireStages := by
  obtain ⟨name, stages⟩ := p
  rw [Pipeline.contents, Pipeline.toWireStages_eq]
  exact (Pipeline.validate_reports ⟨name, stages⟩).andThen (Stage.toWires_reports stages)

lemma StageArgument.toWire_reports (arg : StageArgument) :
    Reports (allFaults arg.contents) arg.WrittenAs arg.toWire := by
  cases arg with
  | expr e =>
    rw [StageArgument.contents, StageArgument.toWire]
    exact .of_ok (by simp [StageArgument.WrittenAs])
  | json d =>
    have own : allFaults [.document d] = (Content.document d).faults := List.flatMap_singleton ..
    rw [StageArgument.contents, StageArgument.toWire, own]
    have read := WireValue.ofPlain_reports d.normalize
    exact ⟨fun v done => ⟨(read.ok v done).1, trivial⟩, read.error⟩
  | pipeline p =>
    rw [StageArgument.contents, StageArgument.toWire]
    refine (Pipeline.toWireStages_reports p).map _ fun stages written => ?_
    rw [StageArgument.WrittenAs]
    exact ⟨stages, rfl, written⟩

lemma StageArgument.toWires_reports (args : List StageArgument) :
    Reports (allFaults (StageArgument.allContents args)) (StageArgument.AllWrittenAs args)
      (StageArgument.toWires args) := by
  cases args with
  | nil =>
    rw [StageArgument.allContents, StageArgument.toWires]
    exact .of_ok (by rw [StageArgument.AllWrittenAs])
  | cons arg rest =>
    rw [StageArgument.allContents, allFaults_append, StageArgument.toWires_cons_eq]
    refine (StageArgument.toWire_reports arg).both (StageArgument.toWires_reports rest) _ ?_
    intro v more first later
    rw [StageArgument.AllWrittenAs]
    exact ⟨v, more, rfl, first, later⟩

lemma StageArgument.entriesToWire_reports (options : List (String × StageArgument)) :
    Reports (allFaults (StageArgument.entryContents options))
      (StageArgument.EntriesWrittenAs options) (StageArgument.entriesToWire options) := by
  cases options with
  | nil =>
    rw [StageArgument.entryContents, StageArgument.entriesToWire]
    exact .of_ok (by rw [StageArgument.EntriesWrittenAs])
  | cons option rest =>
    obtain ⟨key, arg⟩ := option
    rw [StageArgument.entryContents, allFaults_append, StageArgument.entriesToWire_cons_eq]
    refine (StageArgument.toWire_reports arg).both (StageArgument.entriesToWire_reports rest) _ ?_
    intro v more first later
    rw [StageArgument.EntriesWrittenAs]
    exact ⟨v, more, rfl, first, later⟩

end

/-- A pipeline is written unless a pipeline in it is not well sourced, or an integer in a document
is too large. Then its stages are written under their names, in order and on every level; otherwise
the first fault is reported. -/
theorem Pipeline.toWire_reports_first_fault (p : Pipeline) :
    ((∃ w, p.toWire = .ok w) ↔ ∀ c ∈ p.contents, c.Sound) ∧
    (∀ w, p.toWire = .ok w → p.WrittenAs w.stages) ∧
    (∀ e, p.toWire = .error e ↔ (p.contents.flatMap Content.faults).head? = some e) ∧
    (∀ d, .document d ∈ p.contents →
      d.normalize.InKeyOrder ∧ (d.InKeyOrder → d.normalize = d)) := by
  have reported : Reports (p.contents.flatMap Content.faults)
      (fun w : WirePipeline => p.WrittenAs w.stages) p.toWire :=
    p.toWireStages_reports.map _ fun _ => id
  refine ⟨?_, fun w written => (reported.ok w written).2, fun e => reported.eq_error_iff,
    fun d _ => ⟨d.inKeyOrder_normalize, Json.normalize_of_inKeyOrder⟩⟩
  rw [reported.exists_ok_iff, List.flatMap_eq_nil_iff]
  exact forall₂_congr fun c _ => Content.faults_eq_nil

/-- A union of a pipeline that has a second source, after a generic stage whose argument is too
large. -/
def twiceFaulty : Pipeline :=
  ⟨none, [.database, .generic "near" [.json (.array [.null, .ofNat 9223372036854775808])] [],
    .union ⟨none, [.database, .database]⟩]⟩

/-- The stages are taken in order, so the integer is reported, and not the second source. -/
theorem Pipeline.toWire_reports_first_fault_twice :
    twiceFaulty.toWire = .error (.tooLarge 9223372036854775808) := by
  have faults : twiceFaulty.contents.flatMap Content.faults =
      [.tooLarge 9223372036854775808, .argument (.strayingSource "database")] := rfl
  rw [twiceFaulty.toWire_reports_first_fault.2.2.1, faults, List.head?_cons]

end DocumentQuery
