import DocumentQuery.Proofs.CanonicalText
import DocumentQuery.Proofs.ShortestDigits
import DocumentQuery.Wire.Equality

/-!
# Equal values and their documents

Values are compared with their doubles as numbers, so that the two zeros are equal. Their documents
tell the zeros apart. Nothing else is between equality and identity: equal values are identical, and
have the same document, exactly if the zeros in them have the same signs.
-/

namespace DocumentQuery

/-- The sign of a double that is zero. -/
def Double.zeroSigns : Double → List Bool
  | .finite x => if x.isZero then [x.negative] else []
  | _ => []

def GeoPoint.zeroSigns (p : GeoPoint) : List Bool := p.latitude.zeroSigns ++ p.longitude.zeroSigns

mutual

/-- The signs of the zeros in a value, in order. -/
def WireValue.zeroSigns : WireValue → List Bool
  | .double x => x.zeroSigns
  | .geoPoint p => p.zeroSigns
  | .array items => WireValue.itemSigns items
  | .map entries => WireValue.entrySigns entries
  | .function _ args => WireValue.itemSigns args
  | .pipeline stages => WireStage.signsOfAll stages
  | _ => []

def WireValue.itemSigns : List WireValue → List Bool
  | [] => []
  | v :: rest => v.zeroSigns ++ WireValue.itemSigns rest

def WireValue.entrySigns : List (String × WireValue) → List Bool
  | [] => []
  | (_, v) :: rest => v.zeroSigns ++ WireValue.entrySigns rest

def WireStage.zeroSigns : WireStage → List Bool
  | ⟨_, args, options⟩ => WireValue.itemSigns args ++ WireValue.entrySigns options

def WireStage.signsOfAll : List WireStage → List Bool
  | [] => []
  | s :: rest => s.zeroSigns ++ WireStage.signsOfAll rest

end

def WirePipeline.zeroSigns (p : WirePipeline) : List Bool := WireStage.signsOfAll p.stages

/-! ### Twins -/

/-- Two equal things: they have equally many zeros, and they are identical if the signs of these are
the same, or if they are written in the same way. -/
structure Twins {α β : Type} (signs : α → List Bool) (document : α → β) (a b : α) : Prop where
  length : (signs a).length = (signs b).length
  signed : signs a = signs b → a = b
  written : document a = document b → a = b

namespace Twins

variable {α β γ δ ε ζ : Type} {signs : α → List Bool} {document : α → β} {a b : α}
  {signs' : γ → List Bool} {document' : γ → δ} {c d : γ}

lemma refl (a : α) : Twins signs document a a := ⟨rfl, fun _ => rfl, fun _ => rfl⟩

/-- What is made of one part has the zeros of the part, and its document tells that of the part. -/
lemma map (h : Twins signs document a b) {signs' : γ → List Bool} {document' : γ → δ} (f : α → γ)
    (kept : ∀ a, signs' (f a) = signs a)
    (told : document' (f a) = document' (f b) → document a = document b) :
    Twins signs' document' (f a) (f b) where
  length := by rw [kept, kept, h.length]
  signed same := by
    rw [kept, kept] at same
    rw [h.signed same]
  written same := by rw [h.written (told same)]

/-- What is made of two parts has the zeros of both, one after the other. -/
lemma both (h : Twins signs document a b) (h' : Twins signs' document' c d)
    {signs'' : ε → List Bool} {document'' : ε → ζ} (f : α → γ → ε)
    (kept : ∀ a c, signs'' (f a c) = signs a ++ signs' c)
    (told : document'' (f a c) = document'' (f b d) →
      document a = document b ∧ document' c = document' d) :
    Twins signs'' document'' (f a c) (f b d) where
  length := by rw [kept, kept, List.length_append, List.length_append, h.length, h'.length]
  signed same := by
    rw [kept, kept] at same
    obtain ⟨first, second⟩ := List.append_inj same h.length
    rw [h.signed first, h'.signed second]
  written same := by
    obtain ⟨first, second⟩ := told same
    rw [h.written first, h'.written second]

end Twins

/-! ### Doubles -/

lemma FiniteDouble.magnitude_of_units {x y : FiniteDouble} (same : x.units = y.units) :
    x.magnitude = y.magnitude ∧ (x.negative = y.negative ∨ x.magnitude = 0) := by
  unfold units at same
  split_ifs at same with hx hy hy
  · exact ⟨by omega, .inl (hx.trans hy.symm)⟩
  · exact ⟨by omega, .inr (by omega)⟩
  · exact ⟨by omega, .inr (by omega)⟩
  · rw [Bool.not_eq_true] at hx hy
    exact ⟨by omega, .inl (hx.trans hy.symm)⟩

lemma FiniteDouble.twins {x y : FiniteDouble} (same : x.units = y.units) :
    Twins Double.zeroSigns id (.finite x) (.finite y) := by
  obtain ⟨magnitude, signs⟩ := magnitude_of_units same
  have zeros : x.isZero = y.isZero := by rw [isZero, isZero, magnitude]
  refine ⟨?_, fun equal => ?_, id⟩
  · rw [Double.zeroSigns, Double.zeroSigns, zeros]
    cases y.isZero <;> rfl
  · have negative : x.negative = y.negative := by
      rcases signs with negative | zero
      · exact negative
      · have isZero : x.isZero = true := decide_eq_true zero
        rw [Double.zeroSigns, Double.zeroSigns, ← zeros, isZero] at equal
        exact (List.cons.inj equal).1
    rw [eq_of_magnitude_eq negative magnitude]

lemma Double.twins {x y : Double} (same : x.numEq y = true) :
    Twins Double.zeroSigns Double.toDocument x y := by
  cases x with
  | nan => cases same
  | infinite negative =>
    cases y with
    | infinite negative' =>
      obtain rfl : negative = negative' := by simpa [numEq] using same
      exact .refl _
    | _ => cases same
  | finite x =>
    cases y with
    | finite y =>
      have units : x.units = y.units := by simpa [numEq] using same
      exact (FiniteDouble.twins units).map id (fun _ => rfl) fun equal => by cases equal; rfl
    | _ => cases same

/-- Coordinates that are not finite are all written in one way, but equal ones are identical. -/
lemma Double.coordinate_twins {x y : Double} (same : x.numEq y = true) :
    Twins Double.zeroSigns GeoPoint.coordinateDocument x y := by
  have twins := Double.twins same
  refine ⟨twins.length, twins.signed, fun written => ?_⟩
  cases x with
  | nan => cases same
  | infinite negative =>
    cases y with
    | infinite negative' => exact congrArg _ (by simpa [numEq] using same)
    | _ => cases same
  | finite x =>
    cases y with
    | finite y => exact twins.written written
    | _ => cases same

lemma GeoPoint.twins {p q : GeoPoint} (same : p.numEq q = true) :
    Twins GeoPoint.zeroSigns GeoPoint.toDocument p q := by
  obtain ⟨latitude, longitude⟩ := p
  obtain ⟨latitude', longitude'⟩ := q
  obtain ⟨latitudes, longitudes⟩ := Bool.and_eq_true_iff.1 same
  refine (Double.coordinate_twins latitudes).both (Double.coordinate_twins longitudes)
    GeoPoint.mk (fun _ _ => rfl) fun equal => ?_
  simpa [toDocument] using equal

/-! ### Values -/

/-- Equal values, lists of values, entries and stages are twins. -/
lemma WireValue.all_twins :
    (∀ v w : WireValue, v.numEq w = true → Twins WireValue.zeroSigns WireValue.toDocument v w) ∧
    (∀ ss ts : List WireStage, WireStage.itemsNumEq ss ts = true →
      Twins WireStage.signsOfAll WireStage.documents ss ts) ∧
    (∀ s t : WireStage, s.numEq t = true →
      Twins WireStage.zeroSigns WireStage.toDocument s t) ∧
    (∀ vs ws : List (String × WireValue), WireValue.entriesNumEq vs ws = true →
      Twins WireValue.entrySigns WireValue.entryDocuments vs ws) ∧
    (∀ vs ws : List WireValue, WireValue.itemsNumEq vs ws = true →
      Twins WireValue.itemSigns WireValue.itemDocuments vs ws) := by
  refine WireValue.numEq.mutual_induct _ _ _ _ _ ?null ?boolean ?integer ?double ?timestamp ?string
    ?bytes ?reference ?geoPoint ?array ?map ?fieldReference ?function ?pipeline ?otherValue
    ?noStage ?moreStages ?otherStages ?stage ?noEntry ?moreEntries ?otherEntries ?noItem ?moreItems
    ?otherItems
  case null | noStage | noEntry | noItem => exact fun _ => .refl _
  case boolean | integer | timestamp | string | bytes | reference | fieldReference =>
    intro a b same
    rw [WireValue.numEq, beq_iff_eq] at same
    rw [same]
    exact .refl _
  case double =>
    intro x y same
    rw [WireValue.numEq] at same
    refine (Double.twins same).map WireValue.double (fun _ => ?_) fun equal => ?_
    · rw [WireValue.zeroSigns]
    · simpa [WireValue.toDocument] using equal
  case geoPoint =>
    intro p q same
    rw [WireValue.numEq] at same
    refine (GeoPoint.twins same).map WireValue.geoPoint (fun _ => ?_) fun equal => ?_
    · rw [WireValue.zeroSigns]
    · simpa [WireValue.toDocument] using equal
  case array =>
    intro items items' ih same
    rw [WireValue.numEq] at same
    refine (ih same).map WireValue.array (fun _ => ?_) fun equal => ?_
    · rw [WireValue.zeroSigns]
    · simpa [WireValue.toDocument] using equal
  case map =>
    intro entries entries' ih same
    rw [WireValue.numEq] at same
    refine (ih same).map WireValue.map (fun _ => ?_) fun equal => ?_
    · rw [WireValue.zeroSigns]
    · simpa [WireValue.toDocument] using equal
  case pipeline =>
    intro stages stages' ih same
    rw [WireValue.numEq] at same
    refine (ih same).map WireValue.pipeline (fun _ => ?_) fun equal => ?_
    · rw [WireValue.zeroSigns]
    · simpa [WireValue.toDocument] using equal
  case function =>
    intro name args name' args' ih same
    rw [WireValue.numEq, Bool.and_eq_true, beq_iff_eq] at same
    obtain ⟨rfl, same⟩ := same
    refine (ih same).map (WireValue.function name) (fun _ => ?_) fun equal => ?_
    · rw [WireValue.zeroSigns]
    · simpa [WireValue.toDocument] using equal
  case stage =>
    intro name args options name' args' options' ih ih' same
    rw [WireStage.numEq, Bool.and_eq_true, Bool.and_eq_true, beq_iff_eq] at same
    obtain ⟨⟨rfl, args⟩, options⟩ := same
    refine (ih args).both (ih' options) (WireStage.mk name) (fun _ _ => ?_) fun equal => ?_
    · rw [WireStage.zeroSigns]
    · simpa [WireStage.toDocument] using equal
  case moreStages =>
    intro s ss t ts ih ih' same
    rw [WireStage.itemsNumEq, Bool.and_eq_true] at same
    refine (ih same.1).both (ih' same.2) List.cons (fun _ _ => ?_) fun equal => ?_
    · rw [WireStage.signsOfAll]
    · simpa [WireStage.documents] using equal
  case moreItems =>
    intro v vs w ws ih ih' same
    rw [WireValue.itemsNumEq, Bool.and_eq_true] at same
    refine (ih same.1).both (ih' same.2) List.cons (fun _ _ => ?_) fun equal => ?_
    · rw [WireValue.itemSigns]
    · simpa [WireValue.itemDocuments] using equal
  case moreEntries =>
    intro key v vs key' w ws ih ih' same
    rw [WireValue.entriesNumEq, Bool.and_eq_true, Bool.and_eq_true, beq_iff_eq] at same
    obtain ⟨⟨rfl, first⟩, rest⟩ := same
    refine (ih first).both (ih' rest) (fun v vs => (key, v) :: vs) (fun _ _ => ?_) fun equal => ?_
    · rw [WireValue.entrySigns]
    · simpa [WireValue.entryDocuments] using equal
  -- Nothing else is equal.
  case otherValue => simp +contextual [WireValue.numEq]
  case otherStages => simp +contextual [WireStage.itemsNumEq]
  case otherEntries => simp +contextual [WireValue.entriesNumEq]
  case otherItems => simp +contextual [WireValue.itemsNumEq]

namespace WirePipeline

variable {p q : WirePipeline} (same : WireStage.itemsNumEq p.stages q.stages = true)

include same

lemma twins : Twins WirePipeline.zeroSigns WirePipeline.toDocument p q :=
  (WireValue.all_twins.2.1 p.stages q.stages same).map WirePipeline.mk (fun _ => rfl)
    fun equal => by simpa [toDocument] using equal

/-- Equal pipelines have one text exactly if the zeros in them have the same signs. -/
theorem canonicalText_eq_iff : p.canonicalText = q.canonicalText ↔ p.zeroSigns = q.zeroSigns := by
  have twins := twins same
  constructor
  · intro texts
    rw [twins.written (Json.toText_inj texts)]
  · intro signs
    rw [twins.signed signs]

end WirePipeline

end DocumentQuery
