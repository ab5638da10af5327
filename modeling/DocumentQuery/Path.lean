import DocumentQuery.BuildError

/-!
Slash-separated paths. A document path has an even number of segments, a collection path an odd one;
no segment is empty. A document reference is kept as its segments, so that its id and its parent are
read off without searching.
-/

namespace DocumentQuery

/-- The rest of a text after the first occurrence of a mark. -/
def afterFirst? (mark : List Char) : List Char → Option (List Char)
  | [] => if mark.isEmpty then some [] else none
  | c :: rest =>
    if mark.isPrefixOf (c :: rest) then some ((c :: rest).drop mark.length)
    else afterFirst? mark rest

theorem not_mem_of_mem_splitOn {sep : Char} {text part : List Char}
    (h : part ∈ text.splitOn sep) : sep ∉ part := by
  induction text generalizing part with
  | nil => simp_all
  | cons c rest ih =>
    rw [List.splitOn_cons_eq_if_modifyHead] at h
    split at h
    · rcases List.mem_cons.1 h with rfl | h
      · simp
      · exact ih h
    · rename_i other
      obtain ⟨first, parts, split⟩ := List.exists_cons_of_ne_nil (List.splitOn_ne_nil sep rest)
      rw [split, List.modifyHead_cons] at h
      rcases List.mem_cons.1 h with rfl | h
      · have clean : sep ∉ first := ih (by simp [split])
        rw [List.mem_cons, not_or]
        exact ⟨fun same => other (by simp [same]), clean⟩
      · exact ih (by simp [split, h])

abbrev Segment := List Char

/-- The segments of a path, one leading slash aside; none may be empty. -/
def pathSegments (path : String) : Except BuildError (List Segment) :=
  let trimmed := match path.toList with
    | '/' :: rest => rest
    | text => text
  if trimmed.isEmpty then .error (.path path .empty)
  else if (trimmed.splitOn '/').any List.isEmpty then .error (.path path .emptySegment)
  else .ok (trimmed.splitOn '/')

/-- What holds of the segments of a document path. -/
def IsDocumentPath (segments : List Segment) : Prop :=
  segments ≠ [] ∧ segments.length % 2 = 0 ∧ ∀ s ∈ segments, s ≠ [] ∧ '/' ∉ s

instance (segments : List Segment) : Decidable (IsDocumentPath segments) := by
  unfold IsDocumentPath; infer_instance

/-- The path of one document, relative to the database root. -/
structure DocumentReference where
  segments : List Segment
  valid : IsDocumentPath segments
  deriving DecidableEq

namespace DocumentReference

theorem isDocumentPath_of_pathSegments {path : String} {segments : List Segment}
    (h : pathSegments path = .ok segments) (even : segments.length % 2 = 0) :
    IsDocumentPath segments := by
  unfold pathSegments at h
  dsimp only at h
  generalize (match path.toList with | '/' :: rest => rest | text => text) = trimmed at h
  split at h
  · cases h
  · split at h
    · cases h
    · rename_i hne
      cases h
      refine ⟨List.splitOn_ne_nil '/' trimmed, even, fun s hs => ⟨?_, not_mem_of_mem_splitOn hs⟩⟩
      · rintro rfl
        exact hne (List.any_eq_true.2 ⟨_, hs, rfl⟩)

/-- The reference of a path such as `users/alice`, a leading slash being dropped. -/
def ofPath (path : String) : Except BuildError DocumentReference :=
  match h : pathSegments path with
  | .error e => .error e
  | .ok segments =>
    if even : segments.length % 2 = 0 then
      .ok ⟨segments, isDocumentPath_of_pathSegments h even⟩
    else .error (.path path .oddSegments)

/-- The reference of a full resource name, whose path follows the first `/documents/`, or of a
plain path. -/
def ofResourceName (name : String) : Except BuildError DocumentReference :=
  match afterFirst? "/documents/".toList name.toList with
  | some rest => ofPath (String.ofList rest)
  | none => ofPath name

def path (d : DocumentReference) : String := String.ofList (['/'].intercalate d.segments)

/-- The path from the database root, as values carry it. -/
def absolutePath (d : DocumentReference) : String := "/" ++ d.path

/-- The last segment. -/
def id (d : DocumentReference) : String := String.ofList (d.segments.getLastD [])

/-- The path of the collection that holds the document. -/
def parentPath (d : DocumentReference) : String :=
  String.ofList (['/'].intercalate d.segments.dropLast)

def toDocument (d : DocumentReference) : Json :=
  .object [("path", .string d.path), ("absolute", .string d.absolutePath), ("id", .string d.id),
    ("parent", .string d.parentPath), ("display", .string d.path)]

end DocumentReference

/-- The canonical form of a collection path: relative, with an odd number of segments. -/
def collectionPath (path : String) : Except BuildError String :=
  if path.toList.head? = some '/' then .error (.path path .rooted)
  else match pathSegments path with
    | .error e => .error e
    | .ok segments =>
      if segments.length % 2 = 0 then .error (.path path .evenSegments)
      else .ok (String.ofList (['/'].intercalate segments))

/-- A collection id, which is one segment. -/
def collectionId (id : String) : Except BuildError String :=
  if id = "" then .error (.path id .emptyCollectionId)
  else if id.toList.contains '/' then .error (.path id .slashInCollectionId)
  else .ok id

end DocumentQuery
