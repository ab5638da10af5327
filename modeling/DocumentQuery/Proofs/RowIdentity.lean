import DocumentQuery.Execution.Row
import DocumentQuery.Proofs.PathGrammar

/-!
# The document of a row

A row is told apart by the resource name that it arrives with. The path of its document is what
stands behind the first `/documents/` of the name, or the whole name where there is no such mark. In
the name of a database the mark cannot come earlier than at its end, so the path may have segments
of any name, `documents` included.
-/

namespace DocumentQuery

/-! ### The first place of a mark -/

/-- A mark stands between the two parts of a text, and nowhere further left. -/
def FirstAt (mark text before behind : List Char) : Prop :=
  text = before ++ mark ++ behind ∧
    ∀ earlier later, text = earlier ++ mark ++ later → before.length ≤ earlier.length

section Mark

variable {mark text before behind : List Char}

lemma FirstAt.behind_unique {before' behind' : List Char} (first : FirstAt mark text before behind)
    (first' : FirstAt mark text before' behind') : behind = behind' := by
  have le := first.2 before' behind' first'.1
  have ge := first'.2 before behind first.1
  have same := first.1.symm.trans first'.1
  have lengths : (before ++ mark).length = (before' ++ mark).length := by
    rw [List.length_append, List.length_append]
    omega
  exact (List.append_inj same lengths).2

lemma FirstAt.infix (first : FirstAt mark text before behind) : mark <:+: text :=
  ⟨before, behind, first.1.symm⟩

lemma FirstAt.cons {c : Char} (first : FirstAt mark text before behind)
    (apart : ¬mark <+: c :: text) : FirstAt mark (c :: text) (c :: before) behind := by
  refine ⟨by rw [first.1]; rfl, ?_⟩
  intro earlier later split
  cases earlier with
  | nil => exact absurd ⟨later, split.symm⟩ apart
  | cons d earlier =>
    have shorter := first.2 earlier later (List.cons.inj split).2
    simpa using shorter

lemma afterFirst?_eq_none_iff : afterFirst? mark text = none ↔ ¬mark <:+: text := by
  induction text with
  | nil =>
    cases mark with
    | nil => simp [afterFirst?]
    | cons c mark => simp [afterFirst?]
  | cons c text ih =>
    rw [afterFirst?, List.infix_cons_iff]
    by_cases here : mark <+: c :: text
    · rw [if_pos (List.isPrefixOf_iff_prefix.2 here)]
      simp [here]
    · rw [if_neg (mt List.isPrefixOf_iff_prefix.1 here), ih]
      simp [here]

lemma firstAt_of_afterFirst? (found : afterFirst? mark text = some behind) :
    ∃ before, FirstAt mark text before behind := by
  induction text with
  | nil =>
    unfold afterFirst? at found
    split_ifs at found with empty
    cases found
    exact ⟨[], by rw [List.isEmpty_iff.1 empty]; rfl, fun _ _ _ => Nat.zero_le _⟩
  | cons c text ih =>
    rw [afterFirst?] at found
    split_ifs at found with here
    · cases found
      obtain ⟨rest, begins⟩ := List.isPrefixOf_iff_prefix.1 here
      refine ⟨[], ?_, fun _ _ _ => Nat.zero_le _⟩
      rw [← begins, List.drop_left]
      rfl
    · obtain ⟨before, first⟩ := ih found
      exact ⟨c :: before, first.cons (mt List.isPrefixOf_iff_prefix.2 here)⟩

end Mark

/-! ### Resource names -/

namespace DocumentReference

/-- The part of a resource name that is read as a path. -/
inductive PathPart (name : List Char) : List Char → Prop where
  | behind {before path : List Char} (first : FirstAt documentsMark name before path) :
      PathPart name path
  | whole (unmarked : ¬documentsMark <:+: name) : PathPart name name

namespace PathPart

variable {name path path' : List Char}

lemma unique (part : PathPart name path) (part' : PathPart name path') : path = path' := by
  cases part with
  | behind first =>
    cases part' with
    | behind first' => exact first.behind_unique first'
    | whole unmarked => exact absurd first.infix unmarked
  | whole unmarked =>
    cases part' with
    | behind first' => exact absurd first'.infix unmarked
    | whole unmarked' => rfl

lemma suffix (part : PathPart name path) : path <:+ name := by
  cases part with
  | @behind before path first => exact ⟨before ++ documentsMark, first.1.symm⟩
  | whole unmarked => exact List.suffix_refl _

end PathPart

/-- A resource name is read like the one part of it that is a path. -/
lemma exists_pathPart (name : String) :
    ∃ path, PathPart name.toList path ∧ ofResourceName name = ofPath (String.ofList path) := by
  rw [ofResourceName, documentsMark_eq]
  cases found : afterFirst? documentsMark name.toList with
  | none =>
    refine ⟨name.toList, .whole (afterFirst?_eq_none_iff.1 found), ?_⟩
    rw [String.ofList_toList]
  | some path =>
    obtain ⟨before, first⟩ := firstAt_of_afterFirst? found
    exact ⟨path, .behind first, rfl⟩

lemma ofResourceName_eq_ok_iff {name : String} {d : DocumentReference} :
    ofResourceName name = .ok d ↔
      ∃ path, PathPart name.toList path ∧ Spells (String.ofList path) d.segments := by
  obtain ⟨path, part, read⟩ := exists_pathPart name
  rw [read, ofPath_eq_ok_iff]
  constructor
  · intro spelled
    exact ⟨path, part, spelled⟩
  · rintro ⟨path', part', spelled⟩
    rw [part.unique part']
    exact spelled

lemma path_suffix {name : String} {d : DocumentReference} (read : ofResourceName name = .ok d) :
    d.path.toList <:+ name.toList := by
  obtain ⟨path, part, spelled⟩ := ofResourceName_eq_ok_iff.1 read
  refine List.IsSuffix.trans ?_ part.suffix
  rw [DocumentReference.path, String.toList_ofList]
  rcases spelled with plain | rooted
  · rw [← plain, String.toList_ofList]
  · rw [String.toList_ofList] at rooted
    rw [rooted]
    exact List.suffix_cons _ _

/-- The full name of what is at a path in a database of a project. -/
def resourceName (project database path : String) : String :=
  "projects/" ++ project ++ "/databases/" ++ database ++ "/documents/" ++ path

/-- The parts of a resource name between the first one and the word `documents`. -/
def databaseParts (project database : String) : List Segment :=
  [project.toList, "databases".toList, database.toList]

section FullName

variable {project database path : String} {segments : List Segment}

lemma resourceName_toList (nonempty : segments ≠ [])
    (plain : path.toList = ['/'].intercalate segments) :
    (resourceName project database path).toList = ['/'].intercalate
      ("projects".toList :: (databaseParts project database ++ documents :: segments)) := by
  have first : "projects/".toList = "projects".toList ++ ['/'] := by decide
  have middle : "/databases/".toList = '/' :: ("databases".toList ++ ['/']) := by decide
  simp only [resourceName, databaseParts, String.toList_append, first, middle, documentsMark_eq,
    documentsMark, plain, List.cons_append, List.nil_append, List.append_assoc,
    List.intercalate_cons_of_ne_nil nonempty, List.intercalate_cons_cons]

lemma documents_not_mem_databaseParts (hproject : project ≠ "documents")
    (hdatabase : database ≠ "documents") : documents ∉ databaseParts project database := by
  intro found
  simp only [databaseParts, List.mem_cons, List.not_mem_nil, or_false] at found
  rcases found with same | same | same
  · exact hproject (String.toList_inj.1 same.symm)
  · exact absurd same (by decide)
  · exact hdatabase (String.toList_inj.1 same.symm)

lemma slash_not_mem_parts (hproject : '/' ∉ project.toList) (hdatabase : '/' ∉ database.toList)
    (clean : ∀ s ∈ segments, '/' ∉ s) :
    ∀ part ∈ "projects".toList :: (databaseParts project database ++ documents :: segments),
      '/' ∉ part := by
  intro part hpart
  simp only [databaseParts, List.cons_append, List.nil_append, List.mem_cons] at hpart
  rcases hpart with rfl | rfl | rfl | rfl | rfl | inside
  · decide
  · exact hproject
  · decide
  · exact hdatabase
  · decide
  · exact clean part inside

/-- Of the parts in front of the path, only the last one is called `documents`, so that the path is
what stands behind it. -/
lemma ofResourceName_resourceName {d : DocumentReference}
    (hproject : '/' ∉ project.toList ∧ project ≠ "documents")
    (hdatabase : '/' ∉ database.toList ∧ database ≠ "documents")
    (plain : path.toList = ['/'].intercalate d.segments) :
    ofResourceName (resourceName project database path) = .ok d := by
  have absent := documents_not_mem_databaseParts hproject.2 hdatabase.2
  have clean := slash_not_mem_parts hproject.1 hdatabase.1 fun s hs => (d.valid.2.2 s hs).2
  rw [ofResourceName_intercalate clean (resourceName_toList d.valid.1 plain),
    behindMark?_append absent d.valid.1]
  exact ofPath_intercalate d.valid (.inl String.toList_ofList)

end FullName

end DocumentReference

/-! ### Decoded rows -/

namespace Row

open DocumentReference

variable {payload : RowPayload} {time : Option Timestamp} {database : String}

lemma map_reference_decode :
    (decode payload time database).map Row.reference = referenceOf payload.name := by
  unfold decode
  cases referenceOf payload.name <;> rfl

lemma referenceOf_of_ne {name : String} (named : name ≠ "") :
    (∃ message, referenceOf (some name) = .error (.decode message)) ∨
      ∃ d, referenceOf (some name) = .ok (some d) ∧ ofResourceName name = .ok d := by
  rw [referenceOf, if_neg named]
  cases read : ofResourceName name with
  | error e => exact .inl ⟨e.message, rfl⟩
  | ok d => exact .inr ⟨d, rfl, rfl⟩

lemma referenceOf_eq_ok_iff {name : String} {d : DocumentReference} (named : name ≠ "") :
    referenceOf (some name) = .ok (some d) ↔ ofResourceName name = .ok d := by
  rw [referenceOf, if_neg named]
  cases ofResourceName name with
  | error e => simp
  | ok d' => simp

lemma decode_keeps {row : Row} (decoded : decode payload time database = .ok row) :
    row.fields = payload.fields ∧ row.createTime = payload.createTime ∧
      row.updateTime = payload.updateTime ∧ row.executionTime = time ∧
      row.database = database := by
  rw [decode, map_eq_ok_iff] at decoded
  obtain ⟨reference, -, rfl⟩ := decoded
  exact ⟨rfl, rfl, rfl, rfl, rfl⟩

/-- The name of a document gives the document back, and a row without a name has none. Any other
name fails to decode or leads to the document that its part behind the mark spells. -/
theorem identity_of_name (payload : RowPayload) (time : Option Timestamp) (database : String) :
    (∀ (project db path : String) (d : DocumentReference),
      '/' ∉ project.toList → project ≠ "documents" → '/' ∉ db.toList → db ≠ "documents" →
      ofPath path = .ok d → path.toList.head? ≠ some '/' →
      payload.name = some (resourceName project db path) →
        (decode payload time database).map Row.reference = .ok (some d) ∧ d.path = path) ∧
    (payload.name.getD "" = "" → (decode payload time database).map Row.reference = .ok none) ∧
    (∀ name, payload.name = some name → name ≠ "" →
      ((∃ message, decode payload time database = .error (.decode message)) ∨
        ∃ d, (decode payload time database).map Row.reference = .ok (some d) ∧
          IsDocumentPath (d.path.toList.splitOn '/') ∧ d.path.toList <:+ name.toList) ∧
      ∀ d, (decode payload time database).map Row.reference = .ok (some d) ↔
        ∃ path, PathPart name.toList path ∧ Spells (String.ofList path) d.segments) ∧
    ∀ row, decode payload time database = .ok row →
      row.fields = payload.fields ∧ row.createTime = payload.createTime ∧
        row.updateTime = payload.updateTime ∧ row.executionTime = time ∧
        row.database = database := by
  rw [map_reference_decode]
  refine ⟨?_, ?_, ?_, fun row => decode_keeps⟩
  · intro project db path d hproject project_ne hdb db_ne taken relative named
    have plain : path.toList = ['/'].intercalate d.segments := by
      apply (ofPath_eq_ok_iff.1 taken).resolve_right
      intro rooted
      rw [rooted] at relative
      exact relative rfl
    have nonempty : resourceName project db path ≠ "" := by
      intro empty
      have text := congrArg String.toList empty
      simp [resourceName] at text
    rw [named, referenceOf_eq_ok_iff nonempty]
    refine ⟨ofResourceName_resourceName ⟨hproject, project_ne⟩ ⟨hdb, db_ne⟩ plain, ?_⟩
    rw [DocumentReference.path, ← plain, String.ofList_toList]
  · intro unnamed
    cases named : payload.name with
    | none => rfl
    | some name =>
      rw [named, Option.getD_some] at unnamed
      rw [unnamed]
      rfl
  · intro name named nonempty
    rw [named]
    refine ⟨?_, fun d => ?_⟩
    · rcases referenceOf_of_ne nonempty with ⟨message, failed⟩ | ⟨d, read, found⟩
      · refine .inl ⟨message, ?_⟩
        rw [decode, named, failed]
        rfl
      · refine .inr ⟨d, read, ?_, path_suffix found⟩
        rw [splitOn_path]
        exact d.valid
    · rw [referenceOf_eq_ok_iff nonempty, ofResourceName_eq_ok_iff]

/-- Segments called `documents` and `projects` belong to the path, behind the first mark; the name
of a collection is not decoded. -/
theorem identity_of_name_documents :
    let d : DocumentReference :=
      ⟨["documents".toList, "projects".toList, "documents".toList, "d1".toList], by decide⟩
    let name := resourceName "p" "(default)" "documents/projects/documents/d1"
    (decode ⟨some name, none, none, none⟩ none "db").map Row.reference = .ok (some d) ∧
      d.path = "documents/projects/documents/d1" ∧
      ∃ message, decode ⟨some "projects/p/databases/d/documents/users", none, none, none⟩ none
        "db" = .error (.decode message) := by
  intro d name
  have taken : ofPath "documents/projects/documents/d1" = .ok d := by rfl
  obtain ⟨document, -, -, -⟩ := identity_of_name ⟨some name, none, none, none⟩ none "db"
  obtain ⟨-, -, others, -⟩ :=
    identity_of_name ⟨some "projects/p/databases/d/documents/users", none, none, none⟩ none "db"
  obtain ⟨found, path⟩ := document "p" "(default)" _ d (by decide) (by decide) (by decide)
    (by decide) taken (by decide) rfl
  refine ⟨found, path, ?_⟩
  rcases (others _ rfl (by decide)).1 with failed | ⟨d', found', -⟩
  · exact failed
  · cases found'

end Row

end DocumentQuery
