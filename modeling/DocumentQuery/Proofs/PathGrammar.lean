import DocumentQuery.Proofs.BuiltStages
import DocumentQuery.Proofs.ResourceNames

/-!
# The grammar of paths

A path is a list of segments between slashes, none of them empty and none of them with a slash. A
text is taken for a document if it spells an even number of segments, one leading slash aside, and
for a collection if it spells an odd number of them without such a slash. A document path is cut at
its last slash: what stands before it is the path of a collection, and what stands behind it is the
last segment.
-/

namespace DocumentQuery

/-- A text spells the segments between slashes, and may have one more slash before the first. -/
def Spells (text : String) (segments : List Segment) : Prop :=
  text.toList = ['/'].intercalate segments ∨ text.toList = '/' :: ['/'].intercalate segments

section Separators

variable {sep : Char}

lemma intercalate_concat {parts : List (List Char)} (nonempty : parts ≠ []) (last : List Char) :
    [sep].intercalate (parts ++ [last]) = [sep].intercalate parts ++ sep :: last := by
  induction parts with
  | nil => exact absurd rfl nonempty
  | cons part parts ih =>
    by_cases single : parts = []
    · simp [single, List.intercalate_cons_cons]
    · rw [List.cons_append, List.intercalate_cons_of_ne_nil (by simp),
        List.intercalate_cons_of_ne_nil single, ih single]
      simp

/-- A separator that stands behind a cut is not among what the cut leaves free of separators. -/
lemma eq_of_later_separator {before before' behind behind' more : List Char} (clean : sep ∉ behind)
    (begins : before' = before ++ more) (ends : sep :: behind = more ++ sep :: behind') :
    before = before' ∧ behind = behind' := by
  cases more with
  | nil =>
    rw [List.append_nil] at begins
    exact ⟨begins.symm, (List.cons.inj ends).2⟩
  | cons c more =>
    obtain ⟨-, rfl⟩ := List.cons.inj ends
    exact absurd (List.mem_append_right more List.mem_cons_self) clean

/-- A text has one last separator. -/
lemma eq_of_last_separator {before before' behind behind' : List Char}
    (same : before ++ sep :: behind = before' ++ sep :: behind') (clean : sep ∉ behind)
    (clean' : sep ∉ behind') : before = before' ∧ behind = behind' := by
  rcases List.append_eq_append_iff.1 same with ⟨more, begins, ends⟩ | ⟨more, begins, ends⟩
  · exact eq_of_later_separator clean begins ends
  · have cut := eq_of_later_separator clean' begins ends
    exact ⟨cut.1.symm, cut.2.symm⟩

end Separators

/-! ### What is taken for a path -/

lemma pathSegments_ok {text : String} {segments : List Segment}
    (read : pathSegments text = .ok segments) : Spells text segments := by
  unfold pathSegments at read
  dsimp only at read
  split at read
  · rename_i rest rooted
    split_ifs at read
    cases read
    exact .inr (by rw [rooted, List.intercalate_splitOn])
  · split_ifs at read
    cases read
    exact .inl (List.intercalate_splitOn '/').symm

lemma pathSegments_error {text : String} {e : BuildError}
    (refused : pathSegments text = .error e) : ∃ fault, e = .path text fault := by
  unfold pathSegments at refused
  dsimp only at refused
  split_ifs at refused
  · cases refused
    exact ⟨.empty, rfl⟩
  · cases refused
    exact ⟨.emptySegment, rfl⟩

namespace DocumentReference

/-- A text is taken for the document whose segments it spells. -/
theorem ofPath_eq_ok_iff {text : String} {d : DocumentReference} :
    ofPath text = .ok d ↔ Spells text d.segments := by
  constructor
  · intro taken
    unfold ofPath at taken
    split at taken
    · cases taken
    · rename_i segments read
      split_ifs at taken
      cases taken
      exact pathSegments_ok read
  · exact ofPath_intercalate d.valid

lemma ofPath_error {text : String} {e : BuildError} (refused : ofPath text = .error e) :
    ∃ fault, e = .path text fault := by
  unfold ofPath at refused
  split at refused
  · rename_i fault read
    cases refused
    exact pathSegments_error read
  · split_ifs at refused
    cases refused
    exact ⟨.oddSegments, rfl⟩

lemma exists_ofPath_iff {text : String} :
    (∃ d, ofPath text = .ok d) ↔ ∃ segments, IsDocumentPath segments ∧ Spells text segments := by
  constructor
  · rintro ⟨d, taken⟩
    exact ⟨d.segments, d.valid, ofPath_eq_ok_iff.1 taken⟩
  · rintro ⟨segments, valid, spelled⟩
    exact ⟨⟨segments, valid⟩, ofPath_eq_ok_iff.2 spelled⟩

end DocumentReference

lemma IsCollectionPath.relative {path : String} (valid : IsCollectionPath path) :
    path.toList.head? ≠ some '/' := by
  obtain ⟨segments, odd, proper, text⟩ := valid
  have nonempty : segments ≠ [] := by
    intro empty
    rw [empty] at odd
    exact absurd odd (by decide)
  obtain ⟨c, rest, joined, other⟩ := intercalate_eq_cons nonempty proper
  rw [text, joined]
  simpa using other

namespace Stage

lemma ofCollection_eq_ok_iff {path : String} {s : Stage} :
    ofCollection path = .ok s ↔ IsCollectionPath path ∧ s = .collection path := by
  rw [ofCollection, map_eq_ok_iff]
  constructor
  · rintro ⟨canonical, accepted, rfl⟩
    obtain ⟨valid, rfl⟩ := collectionPath_eq_ok_iff.1 accepted
    exact ⟨valid, rfl⟩
  · rintro ⟨valid, rfl⟩
    exact ⟨path, collectionPath_eq_ok_iff.2 ⟨valid, rfl⟩, rfl⟩

lemma ofCollection_error {path : String} {e : BuildError}
    (refused : ofCollection path = .error e) : ∃ fault, e = .path path fault := by
  rw [ofCollection, map_eq_error_iff] at refused
  unfold collectionPath at refused
  split_ifs at refused
  · cases refused
    exact ⟨.rooted, rfl⟩
  · split at refused
    · rename_i fault read
      cases refused
      exact pathSegments_error read
    · split_ifs at refused
      cases refused
      exact ⟨.evenSegments, rfl⟩

end Stage

/-! ### The parts of a document path -/

namespace DocumentReference

variable (d : DocumentReference)

/-- The segments of the collection that a document is in. -/
lemma parent_valid : d.segments.dropLast.length % 2 = 1 ∧
    ∀ s ∈ d.segments.dropLast, s ≠ [] ∧ '/' ∉ s := by
  obtain ⟨nonempty, even, proper⟩ := d.valid
  have length := List.length_pos_iff.2 nonempty
  constructor
  · rw [List.length_dropLast]
    omega
  · intro s hs
    exact proper s (List.mem_of_mem_dropLast hs)

lemma id_eq : d.id.toList = d.segments.getLast d.valid.1 := by
  rw [id, String.toList_ofList, List.getLastD_eq_getLast?, List.getLast?_eq_some_getLast d.valid.1,
    Option.getD_some]

lemma path_cut : d.path.toList = d.parentPath.toList ++ '/' :: d.id.toList := by
  have nonempty : d.segments.dropLast ≠ [] := by
    intro empty
    have odd := d.parent_valid.1
    rw [empty] at odd
    exact absurd odd (by decide)
  rw [id_eq, path, parentPath, String.toList_ofList, String.toList_ofList,
    ← intercalate_concat nonempty, List.dropLast_append_getLast]

lemma id_proper : d.id ≠ "" ∧ '/' ∉ d.id.toList := by
  have proper := d.valid.2.2 _ (List.getLast_mem d.valid.1)
  rw [← id_eq] at proper
  exact ⟨fun empty => proper.1 (by rw [empty]; rfl), proper.2⟩

lemma parentPath_valid : IsCollectionPath d.parentPath :=
  ⟨d.segments.dropLast, d.parent_valid.1, d.parent_valid.2, String.toList_ofList⟩

/-- A text is taken for a document if it spells an even number of proper segments, and for a
collection if it spells an odd number. A document leads to its paths and back, and these are cut at
the last slash. -/
theorem path_grammar (text : String) :
    ((∃ d, ofPath text = .ok d) ↔
      ∃ segments, IsDocumentPath segments ∧ Spells text segments) ∧
    ((∃ s, Stage.ofCollection text = .ok s) ↔
      text.toList.head? ≠ some '/' ∧ IsCollectionPath text) ∧
    (∀ e, ofPath text = .error e ∨ Stage.ofCollection text = .error e →
      ∃ fault, e = .path text fault) ∧
    ∀ d, ofPath text = .ok d →
      Spells text d.segments ∧
      ofPath d.path = .ok d ∧ ofPath d.absolutePath = .ok d ∧
      d.path = d.parentPath ++ "/" ++ d.id ∧ d.id ≠ "" ∧ '/' ∉ d.id.toList ∧
      (∀ before behind : String, d.path = before ++ "/" ++ behind → '/' ∉ behind.toList →
        before = d.parentPath ∧ behind = d.id) ∧
      Stage.ofCollection d.parentPath = .ok (.collection d.parentPath) := by
  refine ⟨exists_ofPath_iff, ?_, ?_, ?_⟩
  · simp only [Stage.ofCollection_eq_ok_iff]
    constructor
    · rintro ⟨s, valid, -⟩
      exact ⟨valid.relative, valid⟩
    · rintro ⟨-, valid⟩
      exact ⟨_, valid, rfl⟩
  · rintro e (refused | refused)
    · exact ofPath_error refused
    · exact Stage.ofCollection_error refused
  · intro d taken
    have plain : Spells d.path d.segments := .inl String.toList_ofList
    have rooted : Spells d.absolutePath d.segments := .inr (by simp [absolutePath, path])
    have cut : d.path = d.parentPath ++ "/" ++ d.id :=
      String.toList_inj.1 (by simpa using d.path_cut)
    refine ⟨ofPath_eq_ok_iff.1 taken, ofPath_eq_ok_iff.2 plain, ofPath_eq_ok_iff.2 rooted, cut,
      d.id_proper.1, d.id_proper.2, ?_,
      Stage.ofCollection_eq_ok_iff.2 ⟨d.parentPath_valid, rfl⟩⟩
    intro before behind other clean
    have same : before.toList ++ '/' :: behind.toList =
        d.parentPath.toList ++ '/' :: d.id.toList := by
      rw [← path_cut, other]
      simp
    have parts := eq_of_last_separator same clean d.id_proper.2
    exact ⟨String.toList_inj.1 parts.1, String.toList_inj.1 parts.2⟩

/-- An order below a user, with a leading slash; a slash at the end is refused. -/
theorem path_grammar_order :
    let order : DocumentReference :=
      ⟨["users".toList, "alice".toList, "orders".toList, "o1".toList], by decide⟩
    ofPath "/users/alice/orders/o1" = .ok order ∧ order.parentPath = "users/alice/orders" ∧
      Stage.ofCollection "users/alice/orders" = .ok (.collection "users/alice/orders") ∧
      ∃ e, ofPath "users/alice/" = .error e ∧ ∃ fault, e = .path "users/alice/" fault := by
  intro order
  have taken : ofPath "/users/alice/orders/o1" = .ok order := by rfl
  have parent : order.parentPath = "users/alice/orders" := by rfl
  have hollow : ofPath "users/alice/" = .error (.path "users/alice/" .emptySegment) := by rfl
  obtain ⟨-, -, -, parts⟩ := path_grammar "/users/alice/orders/o1"
  obtain ⟨-, -, -, -, -, -, -, collection⟩ := parts order taken
  obtain ⟨-, -, refused, -⟩ := path_grammar "users/alice/"
  rw [parent] at collection
  exact ⟨taken, parent, collection, _, hollow, refused _ (.inl hollow)⟩

end DocumentReference

end DocumentQuery
