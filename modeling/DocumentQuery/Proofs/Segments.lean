import Mathlib.Tactic
import DocumentQuery.Path

/-!
# Paths and their segments

A text is split at its slashes, and joined segments are split into the same segments again, as long
as none of them holds a slash. So a path determines its segments, and the collection paths that are
accepted are exactly the joined lists of an odd number of proper segments.
-/

namespace DocumentQuery

/-- What holds of a path that names a collection: it is made of an odd number of segments, each of
them non-empty and without a slash. -/
def IsCollectionPath (path : String) : Prop :=
  ∃ segments : List Segment, segments.length % 2 = 1 ∧ (∀ s ∈ segments, s ≠ [] ∧ '/' ∉ s) ∧
    path.toList = ['/'].intercalate segments

lemma pathSegments_of_relative {path : String} (h : path.toList.head? ≠ some '/') :
    pathSegments path =
      if path.toList.isEmpty then .error (.path path .empty)
      else if (path.toList.splitOn '/').any List.isEmpty then .error (.path path .emptySegment)
      else .ok (path.toList.splitOn '/') := by
  cases text : path.toList with
  | nil => simp [pathSegments, text]
  | cons c rest =>
    have other : c ≠ '/' := by
      rintro rfl
      rw [text] at h
      exact h rfl
    simp [pathSegments, text, other]

lemma pathSegments_of_rooted {path : String} {text : List Char} (h : path.toList = '/' :: text) :
    pathSegments path =
      if text.isEmpty then .error (.path path .empty)
      else if (text.splitOn '/').any List.isEmpty then .error (.path path .emptySegment)
      else .ok (text.splitOn '/') := by
  simp [pathSegments, h]

/-- Joined proper segments do not begin with a slash. -/
lemma intercalate_eq_cons {segments : List Segment} (nonempty : segments ≠ [])
    (proper : ∀ s ∈ segments, s ≠ [] ∧ '/' ∉ s) :
    ∃ c rest, ['/'].intercalate segments = c :: rest ∧ c ≠ '/' := by
  obtain ⟨first, more, rfl⟩ := List.exists_cons_of_ne_nil nonempty
  obtain ⟨filled, clean⟩ := proper first List.mem_cons_self
  obtain ⟨c, letters, rfl⟩ := List.exists_cons_of_ne_nil filled
  have relative : c ≠ '/' := (List.ne_and_not_mem_of_not_mem_cons clean).1.symm
  cases more with
  | nil => exact ⟨c, letters, List.intercalate_singleton, relative⟩
  | cons next more => exact ⟨c, _, List.intercalate_cons_cons, relative⟩

/-- The path of proper segments has these segments, with and without a leading slash. -/
lemma pathSegments_intercalate {segments : List Segment} {path : String}
    (nonempty : segments ≠ []) (proper : ∀ s ∈ segments, s ≠ [] ∧ '/' ∉ s)
    (text : path.toList = ['/'].intercalate segments ∨
      path.toList = '/' :: ['/'].intercalate segments) :
    pathSegments path = .ok segments := by
  have parts : (['/'].intercalate segments).splitOn '/' = segments :=
    List.splitOn_intercalate '/' (fun s hs => (proper s hs).2) nonempty
  have full : ¬segments.any List.isEmpty := by
    rw [List.any_eq_true]
    rintro ⟨s, hs, empty⟩
    exact (proper s hs).1 (List.isEmpty_iff.1 empty)
  obtain ⟨c, rest, joined, relative⟩ := intercalate_eq_cons nonempty proper
  have filled : ¬(['/'].intercalate segments).isEmpty := by simp [joined]
  rcases text with plain | rooted
  · have head : path.toList.head? ≠ some '/' := by simp [plain, joined, relative]
    rw [pathSegments_of_relative head, plain, if_neg filled, parts, if_neg full]
  · rw [pathSegments_of_rooted rooted, if_neg filled, parts, if_neg full]

/-- The segments of a document, read off its path. -/
lemma DocumentReference.splitOn_path (d : DocumentReference) :
    d.path.toList.splitOn '/' = d.segments := by
  have text : d.path.toList = ['/'].intercalate d.segments := String.toList_ofList
  rw [text]
  exact List.splitOn_intercalate '/' (fun s hs => (d.valid.2.2 s hs).2) d.valid.1

/-- A collection path is accepted as it is, and nothing else is accepted. -/
theorem collectionPath_eq_ok_iff {path canonical : String} :
    collectionPath path = .ok canonical ↔ IsCollectionPath path ∧ canonical = path := by
  constructor
  · intro accepted
    unfold collectionPath at accepted
    split_ifs at accepted with rooted
    rw [pathSegments_of_relative rooted] at accepted
    split_ifs at accepted with empty hollow
    dsimp only at accepted
    split_ifs at accepted with even
    cases accepted
    refine ⟨⟨path.toList.splitOn '/', by omega, fun s hs => ⟨?_, not_mem_of_mem_splitOn hs⟩,
      (List.intercalate_splitOn '/').symm⟩, ?_⟩
    · rintro rfl
      exact hollow (List.any_eq_true.2 ⟨[], hs, rfl⟩)
    · rw [List.intercalate_splitOn, String.ofList_toList]
  · rintro ⟨⟨segments, odd, proper, joined⟩, rfl⟩
    have nonempty : segments ≠ [] := by
      rintro rfl
      cases odd
    obtain ⟨c, rest, begins, other⟩ := intercalate_eq_cons nonempty proper
    have relative : canonical.toList.head? ≠ some '/' := by simp [joined, begins, other]
    rw [collectionPath, if_neg relative, pathSegments_intercalate nonempty proper (.inl joined)]
    dsimp only
    rw [if_neg (by omega), ← joined, String.ofList_toList]

theorem collectionId_eq_ok_iff {id accepted : String} :
    collectionId id = .ok accepted ↔ (id ≠ "" ∧ '/' ∉ id.toList) ∧ accepted = id := by
  unfold collectionId
  split_ifs with empty slash
  · simp [empty]
  · have : '/' ∈ id.toList := by simpa using slash
    simp [this]
  · have : '/' ∉ id.toList := by simpa using slash
    simp [this, empty, eq_comm]

end DocumentQuery
