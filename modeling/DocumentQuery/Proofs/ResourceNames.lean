import DocumentQuery.Proofs.Segments
import DocumentQuery.Wire.Native

/-!
# References and the mark of resource names

In a resource name the path of the document follows the first `/documents/`. A reference value
carries a path that is rooted at the database and has no such mark before it, but it is read like a
resource name. So the value of a reference gives the reference back exactly if no segment of its
path but the last one is called `documents`; otherwise what stands behind the first such segment is
taken for the path.
-/

namespace DocumentQuery

/-! ### The search for a segment -/

/-- The parts behind the first one that equals the mark, where parts stand on both sides of it. -/
def behindMark? (mark : Segment) : List Segment → Option (List Segment)
  | _ :: part :: next :: rest =>
    if part = mark then some (next :: rest) else behindMark? mark (part :: next :: rest)
  | _ => none

section Search

variable {sep : Char} {mark : Segment}

lemma behindMark?_cons {parts : List Segment} (several : parts ≠ []) (first part : Segment) :
    behindMark? mark (first :: part :: parts) =
      if part = mark then some parts else behindMark? mark (part :: parts) := by
  obtain ⟨next, rest, rfl⟩ := List.exists_cons_of_ne_nil several
  rfl

/-- A mark that begins with a separator is not found in a part. -/
lemma afterFirst?_append {part : List Char} (h : sep ∉ part) (text : List Char) :
    afterFirst? (sep :: mark) (part ++ text) = afterFirst? (sep :: mark) text := by
  induction part with
  | nil => rfl
  | cons c part ih =>
    obtain ⟨other, later⟩ := List.ne_and_not_mem_of_not_mem_cons h
    have apart : ¬(sep :: mark).isPrefixOf (c :: (part ++ text)) := by simp [other]
    rw [List.cons_append, afterFirst?, if_neg apart, ih later]

/-- Joined parts begin with the mark and a separator if the mark is the first part of several. -/
lemma prefix_intercalate_iff {part : Segment} {parts : List Segment} (clean : sep ∉ mark)
    (h : ∀ p ∈ part :: parts, sep ∉ p) :
    mark ++ [sep] <+: [sep].intercalate (part :: parts) ↔ part = mark ∧ parts ≠ [] := by
  constructor
  · rintro ⟨text, begins⟩
    have split : ([sep].intercalate (part :: parts)).splitOn sep = part :: parts :=
      List.splitOn_intercalate sep h (List.cons_ne_nil _ _)
    rw [← begins, List.append_assoc, List.singleton_append,
      List.splitOn_append_cons_self_of_not_mem clean] at split
    obtain ⟨first, rest⟩ := List.cons.inj split
    exact ⟨first.symm, rest ▸ List.splitOn_ne_nil sep text⟩
  · rintro ⟨rfl, several⟩
    rw [List.intercalate_cons_of_ne_nil several]
    exact List.prefix_append _ _

/-- The text behind the first mark between separators is made of the parts behind it. -/
theorem afterFirst?_intercalate {parts : List Segment} (clean : sep ∉ mark)
    (h : ∀ part ∈ parts, sep ∉ part) :
    afterFirst? (sep :: (mark ++ [sep])) ([sep].intercalate parts) =
      (behindMark? mark parts).map [sep].intercalate := by
  induction parts with
  | nil => rfl
  | cons part parts ih =>
    have first : sep ∉ part := h part List.mem_cons_self
    have others : ∀ p ∈ parts, sep ∉ p := fun p hp => h p (List.mem_cons_of_mem _ hp)
    have later := ih others
    match parts with
    | [] =>
      have alone : afterFirst? (sep :: (mark ++ [sep])) (part ++ []) = none :=
        afterFirst?_append first []
      rw [List.append_nil] at alone
      rw [List.intercalate_singleton]
      exact alone
    | next :: rest =>
      have begins := prefix_intercalate_iff clean others
      rw [List.intercalate_cons_cons, List.append_assoc, List.singleton_append,
        afterFirst?_append first, afterFirst?]
      by_cases found : next = mark ∧ rest ≠ []
      · have hit :
            (sep :: (mark ++ [sep])).isPrefixOf (sep :: [sep].intercalate (next :: rest)) := by
          rw [List.isPrefixOf_iff_prefix, List.prefix_cons_inj]
          exact begins.2 found
        obtain ⟨rfl, several⟩ := found
        rw [if_pos hit, behindMark?_cons several, if_pos rfl,
          List.intercalate_cons_of_ne_nil several]
        simp
      · have miss :
            ¬(sep :: (mark ++ [sep])).isPrefixOf (sep :: [sep].intercalate (next :: rest)) := by
          rw [List.isPrefixOf_iff_prefix, List.prefix_cons_inj]
          exact mt begins.1 found
        rw [if_neg miss, later]
        by_cases last : rest = []
        · rw [last]
          rfl
        · rw [behindMark?_cons last, if_neg fun same => found ⟨same, last⟩]

lemma behindMark?_eq_none {parts : List Segment} (absent : mark ∉ parts.dropLast)
    (first : Segment) : behindMark? mark (first :: parts) = none := by
  induction parts generalizing first with
  | nil => rfl
  | cons part parts ih =>
    by_cases last : parts = []
    · rw [last]
      rfl
    · rw [List.dropLast_cons_of_ne_nil last] at absent
      obtain ⟨other, later⟩ := List.ne_and_not_mem_of_not_mem_cons absent
      rw [behindMark?_cons last, if_neg other.symm]
      exact ih later part

lemma behindMark?_append {before behind : List Segment} (absent : mark ∉ before)
    (several : behind ≠ []) (first : Segment) :
    behindMark? mark (first :: (before ++ mark :: behind)) = some behind := by
  induction before generalizing first with
  | nil => rw [List.nil_append, behindMark?_cons several, if_pos rfl]
  | cons part before ih =>
    obtain ⟨other, later⟩ := List.ne_and_not_mem_of_not_mem_cons absent
    rw [List.cons_append, behindMark?_cons (by simp), if_neg other.symm]
    exact ih later part

end Search

/-! ### References read back -/

namespace DocumentReference

/-- A path of proper segments, with or without a leading slash, is the one of its reference. -/
lemma ofPath_intercalate {segments : List Segment} (valid : IsDocumentPath segments)
    {path : String} (text : path.toList = ['/'].intercalate segments ∨
      path.toList = '/' :: ['/'].intercalate segments) :
    ofPath path = .ok ⟨segments, valid⟩ := by
  have read := pathSegments_intercalate valid.1 valid.2.2 text
  unfold ofPath
  split
  · rename_i e failed
    rw [read] at failed
    cases failed
  · rename_i found accepted
    rw [read] at accepted
    cases accepted
    exact dif_pos valid.2.1

/-- The name of the segment that a path follows in a resource name. -/
def documents : Segment := "documents".toList

/-- What a path follows in a resource name. -/
def documentsMark : List Char := '/' :: (documents ++ ['/'])

lemma documentsMark_eq : "/documents/".toList = documentsMark := by decide

/-- A name that is made of parts between slashes is cut behind the first part called `documents`
that has others on both sides. -/
lemma ofResourceName_intercalate {name : String} {parts : List Segment}
    (clean : ∀ part ∈ parts, '/' ∉ part) (text : name.toList = ['/'].intercalate parts) :
    ofResourceName name =
      match behindMark? documents parts with
      | some behind => ofPath (String.ofList (['/'].intercalate behind))
      | none => ofPath name := by
  have unslashed : '/' ∉ documents := by decide
  have search := afterFirst?_intercalate unslashed clean
  rw [ofResourceName, documentsMark_eq, documentsMark, text, search]
  cases behindMark? documents parts <;> rfl

lemma ofResourceName_absolutePath (d : DocumentReference) :
    ofResourceName d.absolutePath =
      match behindMark? documents ([] :: d.segments) with
      | some parts => ofPath (String.ofList (['/'].intercalate parts))
      | none => .ok d := by
  have rooted : d.absolutePath.toList = '/' :: ['/'].intercalate d.segments := by
    simp [absolutePath, path]
  have parts : '/' :: ['/'].intercalate d.segments = ['/'].intercalate ([] :: d.segments) := by
    rw [List.intercalate_cons_of_ne_nil d.valid.1]
    rfl
  have clean : ∀ part ∈ [] :: d.segments, '/' ∉ part := by
    intro part hpart
    rcases List.mem_cons.1 hpart with rfl | later
    · exact List.not_mem_nil
    · exact (d.valid.2.2 part later).2
  rw [ofResourceName_intercalate clean (rooted.trans parts),
    ofPath_intercalate d.valid (.inr rooted)]

/-- A path whose first segment `documents` has others behind it is read as what stands there. -/
lemma read?_marked (d : DocumentReference) {before behind : List Segment}
    (split : d.segments = before ++ documents :: behind) (absent : documents ∉ before)
    (several : behind ≠ []) :
    Shape.read? .reference (Shape.encode .reference d) =
      if valid : IsDocumentPath behind then some ⟨behind, valid⟩ else none := by
  have found := ofResourceName_absolutePath d
  rw [split, behindMark?_append absent several] at found
  have proper : ∀ s ∈ behind, s ≠ [] ∧ '/' ∉ s := by
    intro s hs
    refine d.valid.2.2 s ?_
    rw [split]
    exact List.mem_append_right _ (List.mem_cons_of_mem _ hs)
  have text : (String.ofList (['/'].intercalate behind)).toList = ['/'].intercalate behind :=
    String.toList_ofList
  change (ofResourceName d.absolutePath).toOption = _
  rw [found]
  dsimp only
  split_ifs with valid
  · rw [ofPath_intercalate valid (.inl text)]
    rfl
  · have odd : ¬behind.length % 2 = 0 := fun even => valid ⟨several, even, proper⟩
    have read := pathSegments_intercalate several proper (.inl text)
    unfold ofPath
    split
    · rfl
    · rename_i found accepted
      rw [read] at accepted
      cases accepted
      rw [dif_neg odd]
      rfl

/-- A reference is read back from its value exactly if no segment but the last one is `documents`.
Otherwise what stands behind the first such segment is read, if it is a document path. -/
theorem value_read_back (d : DocumentReference) :
    ofPath d.path = .ok d ∧
      (Shape.read? .reference (Shape.encode .reference d) = some d ↔
        documents ∉ d.segments.dropLast) ∧
      ∀ before behind, d.segments = before ++ documents :: behind → documents ∉ before →
        behind ≠ [] →
          Shape.read? .reference (Shape.encode .reference d) =
            if valid : IsDocumentPath behind then some ⟨behind, valid⟩ else none := by
  refine ⟨ofPath_intercalate d.valid (.inl String.toList_ofList),
    ⟨fun same marked => ?_, fun absent => ?_⟩, fun before behind => d.read?_marked⟩
  · obtain ⟨before, later, marks, absent⟩ := List.eq_append_cons_of_mem marked
    have split : d.segments = before ++ documents :: (later ++ [d.segments.getLast d.valid.1]) := by
      have whole := List.dropLast_append_getLast d.valid.1
      rw [marks] at whole
      simpa using whole.symm
    rw [d.read?_marked split absent (by simp)] at same
    split_ifs at same with valid
    have segments := congrArg DocumentReference.segments (Option.some.inj same)
    have lengths := congrArg List.length (split.trans (congrArg _ (congrArg _ segments)))
    simp only [List.length_append, List.length_cons] at lengths
    omega
  · change (ofResourceName d.absolutePath).toOption = _
    rw [ofResourceName_absolutePath, behindMark?_eq_none absent]
    rfl

/-- The value of a document in a collection called `documents` is read as no document. -/
theorem value_read_back_collection :
    let d : DocumentReference := ⟨["documents".toList, "d1".toList], by decide⟩
    d.segments = [] ++ documents :: ["d1".toList] ∧
      Shape.read? .reference (Shape.encode .reference d) = none :=
  ⟨rfl, (value_read_back _).2.2 [] ["d1".toList] rfl List.not_mem_nil (List.cons_ne_nil _ _)⟩

/-- A document called `documents` has another document below it, which is read in its place. -/
theorem value_of_other_document :
    let d : DocumentReference :=
      ⟨["users".toList, "documents".toList, "orders".toList, "o1".toList], by decide⟩
    let other : DocumentReference := ⟨["orders".toList, "o1".toList], by decide⟩
    ofPath "users/documents/orders/o1" = .ok d ∧
      Shape.read? .reference (Shape.encode .reference d) = some other ∧ other ≠ d :=
  ⟨by rfl, by rfl, by decide⟩

end DocumentReference

end DocumentQuery
