import DocumentQuery.Json.Reader
import DocumentQuery.Observability.Log
import DocumentQuery.Proofs.Arrangement
import DocumentQuery.Proofs.DocumentText

/-!
# Log lines

Log lines have a writer of their own, which escapes more than documents do, so that no control
character is left. A reader of documents takes a line for an object, and finds the event, the
severity and the fields with the texts that were logged. The keys put the fields in order, so the
order in which they were logged does not show.
-/

namespace DocumentQuery

open JsonText

/-- The value that an object has for the key of one of its members. -/
lemma Json.member?_of_mem {members : List (String × Json)}
    (distinct : (members.map Prod.fst).Nodup) {key : String} {value : Json}
    (h : (key, value) ∈ members) : (Json.object members).member? key = some value := by
  rw [Json.member?, find?_key_perm distinct (List.reverse_perm members), find?_key distinct h,
    Option.map_some]

namespace LogEntry

/-! ### Characters -/

/-- A character outside both blocks of control characters, U+0000 to U+001F and U+007F to U+009F. -/
def Shown (c : Char) : Prop := 0x20 ≤ c.toNat ∧ (c.toNat < 0x7F ∨ 0xA0 ≤ c.toNat)

instance : DecidablePred Shown := fun _ => inferInstanceAs (Decidable (_ ∧ _))

lemma shown_of_not_isControl {c : Char} (h : ¬isControl c = true) : Shown c := by
  simp only [isControl, Bool.or_eq_true, Bool.and_eq_true, decide_eq_true_eq] at h
  unfold Shown
  omega

lemma shown_cons {c : Char} {rest : List Char} (first : Shown c) (h : ∀ c ∈ rest, Shown c) :
    ∀ d ∈ c :: rest, Shown d :=
  List.forall_mem_cons.2 ⟨first, h⟩

lemma shown_singleton {c : Char} (h : Shown c) : ∀ d ∈ [c], Shown d :=
  List.forall_mem_singleton.2 h

lemma shown_hexDigit : ∀ n < 16, Shown (Quoted.hexDigit n) := by decide

lemma shown_unicodeEscape (n : Nat) : ∀ c ∈ Quoted.unicodeEscape n, Shown c := by
  have digit (m : Nat) : Shown (Quoted.hexDigit (m % 16)) :=
    shown_hexDigit _ (Nat.mod_lt m (by decide))
  have slash : Shown '\\' := by decide
  have mark : Shown 'u' := by decide
  simp [Quoted.unicodeEscape, digit, slash, mark]

/-- Control characters are written by their escapes, the others as they are or behind a
backslash. -/
lemma shown_escapeChar (c : Char) : ∀ d ∈ escapeChar c, Shown d := by
  have short {letter : Char} (h : Shown letter) : ∀ d ∈ ['\\', letter], Shown d :=
    shown_cons (by decide) (shown_singleton h)
  unfold escapeChar
  split
  · exact short (by decide)
  · exact short (by decide)
  · exact short (by decide)
  · exact short (by decide)
  · exact short (by decide)
  · split_ifs with control
    · exact shown_unicodeEscape _
    · exact shown_singleton (shown_of_not_isControl control)

/-- The piece that a character of a logged text is read as. -/
def pieceOf (c : Char) : Quoted.Piece :=
  if (escapeChar c).length = 6 then .unit c.toNat else .char c

lemma escaped_escapeChar (c : Char) : Quoted.Escaped c (escapeChar c) (pieceOf c) := by
  unfold pieceOf escapeChar
  split
  · exact .short _ rfl
  · exact .short _ rfl
  · exact .short _ rfl
  · exact .short _ rfl
  · exact .short _ rfl
  · split_ifs with control six six
    · apply Quoted.Escaped.unit
      simp only [isControl, Bool.or_eq_true, Bool.and_eq_true, decide_eq_true_eq] at control
      omega
    · exact absurd rfl six
    · cases six
    · exact .plain (shown_of_not_isControl control).1 ‹_› ‹_›

def piecesOf (s : String) : List Quoted.Piece := s.toList.map pieceOf

lemma joinPieces?_piecesOf (s : String) :
    Quoted.joinPieces? (piecesOf s) = some s.toList :=
  Quoted.joinPieces?_map escaped_escapeChar s.toList

/-! ### Fields -/

variable {fields : List (String × String)}

lemma writeFields_cons (key value : String) (fields : List (String × String)) (rest : List Char) :
    writeFields ((key, value) :: fields) rest =
      ',' :: writeText key (':' :: writeText value (writeFields fields rest)) := rfl

lemma shown_writeText {rest : List Char} (h : ∀ c ∈ rest, Shown c) (s : String) :
    ∀ c ∈ writeText s rest, Shown c := by
  have quote : Shown '"' := by decide
  intro c hc
  simp only [writeText, Quoted.writeWith, List.mem_cons, List.mem_append, List.mem_flatMap] at hc
  rcases hc with rfl | ⟨d, -, escaped⟩ | rfl | later
  · exact quote
  · exact shown_escapeChar d c escaped
  · exact quote
  · exact h c later

lemma shown_writeFields {rest : List Char} (h : ∀ c ∈ rest, Shown c) :
    ∀ c ∈ writeFields fields rest, Shown c := by
  induction fields with
  | nil => exact h
  | cons field fields ih =>
    obtain ⟨key, value⟩ := field
    rw [writeFields_cons]
    apply shown_cons (by decide)
    apply shown_writeText
    apply shown_cons (by decide)
    exact shown_writeText ih value

lemma length_le_writeFields (rest : List Char) :
    fields.length ≤ (writeFields fields rest).length := by
  induction fields with
  | nil => exact Nat.zero_le _
  | cons field fields ih =>
    obtain ⟨key, value⟩ := field
    rw [writeFields_cons]
    simp only [writeText, Quoted.writeWith, List.length_cons, List.length_append]
    omega

/-- The tree of a field. -/
def fieldTree (field : String × String) : List Quoted.Piece × JsonText :=
  (piecesOf field.1, .string (piecesOf field.2))

lemma skipBlank_writeText (s : String) (rest : List Char) :
    skipBlank (writeText s rest) = writeText s rest :=
  Json.skipBlank_cons (by decide) _

lemma readValue_writeText {fuel : Nat} (s : String) (rest : List Char) :
    readValue (fuel + 1) (writeText s rest) = some (.string (piecesOf s), rest) :=
  Json.readValue_quoted escaped_escapeChar s.toList rest

/-- The fields are read one by one; each of them takes one unit of fuel, and its value another. -/
lemma readMembers_writeFields {fuel : Nat} (rest : List Char) (nonempty : fields ≠ [])
    (enough : fields.length < fuel) :
    readMembers fuel ((writeFields fields ('\x7d' :: rest)).drop 1) =
      some (fields.map fieldTree, rest) := by
  induction fields generalizing fuel with
  | nil => exact absurd rfl nonempty
  | cons field fields ih =>
    obtain ⟨key, value⟩ := field
    obtain ⟨fuel, rfl⟩ : ∃ n, fuel = n + 2 := by
      rw [List.length_cons] at enough
      exact ⟨fuel - 2, by omega⟩
    rw [writeFields_cons, List.drop_one, List.tail_cons]
    cases fields with
    | nil =>
      exact Json.readMembers_quoted_last escaped_escapeChar (skipBlank_writeText value _)
        (readValue_writeText value _)
    | cons next fields =>
      have enough' : (next :: fields).length < fuel + 1 := by
        rw [List.length_cons] at enough
        omega
      have later := ih (List.cons_ne_nil _ _) enough'
      rw [writeFields_cons, List.drop_one, List.tail_cons] at later
      exact Json.readMembers_quoted_more escaped_escapeChar (skipBlank_writeText value _)
        (readValue_writeText value _) later

/-- A field as a member of a document. -/
def member (field : String × String) : String × Json := (field.1, .string field.2)

lemma readMembers?_fieldTree (fields : List (String × String)) (depth : Nat) :
    readMembers? .whole (fields.map fieldTree) depth () = some (fields.map member) := by
  induction fields with
  | nil => rfl
  | cons field fields ih =>
    obtain ⟨key, value⟩ := field
    rw [List.map_cons, fieldTree, readMembers?, joinPieces?_piecesOf]
    simp only [Outline.whole, read?, joinPieces?_piecesOf, Option.map_some, String.ofList_toList]
    rw [← Outline.whole, ih, Option.map_some, List.map_cons, member]

/-! ### Order -/

lemma sortedFields_perm (fields : List (String × String)) :
    (sortedFields fields).Perm fields :=
  List.mergeSort_perm _ _

lemma sortedFields_ordered (fields : List (String × String)) :
    (sortedFields fields).Pairwise fun a b => a.1 ≤ b.1 := by
  have ordered : (sortedFields fields).Pairwise fun a b => decide (a.1 ≤ b.1) = true := by
    apply List.pairwise_mergeSort
    · intro a b c first second
      rw [decide_eq_true_eq] at *
      exact String.le_trans first second
    · intro a b
      simpa using String.le_total a.1 b.1
  exact ordered.imp of_decide_eq_true

/-- No two fields have the same key, so the order of the keys is strict. -/
lemma sortedFields_sorted (distinct : (fields.map Prod.fst).Nodup) :
    Dictionary.Sorted (sortedFields fields) := by
  have distinct' : ((sortedFields fields).map Prod.fst).Nodup :=
    ((sortedFields_perm fields).map Prod.fst).nodup_iff.2 distinct
  apply ((sortedFields_ordered fields).and (List.pairwise_map.1 distinct')).imp
  rintro a b ⟨le, ne⟩
  exact Std.lt_of_le_of_ne le ne

/-! ### Lines -/

/-- The members of a line, in the order in which they are written. -/
def members (entry : LogEntry) : List (String × String) :=
  ("event", entry.event.name) :: ("severity", entry.severity.name) :: sortedFields entry.fields

lemma line_toList (entry : LogEntry) :
    entry.line.toList = '\x7b' :: (writeFields entry.members ['\x7d']).drop 1 := by
  rw [line, String.toList_ofList]
  rfl

lemma shown_line (entry : LogEntry) : ∀ c ∈ entry.line.toList, Shown c := by
  have close : ∀ c ∈ ['\x7d'], Shown c := shown_singleton (by decide)
  rw [line_toList]
  apply shown_cons (by decide)
  intro c hc
  exact shown_writeFields close c (List.mem_of_mem_drop hc)

/-- The tree of a line. -/
lemma tree_line (entry : LogEntry) :
    JsonText.ofText? entry.line = some (.object (entry.members.map fieldTree)) := by
  have length : entry.line.length = (writeFields entry.members ['\x7d']).length := by
    rw [← String.length_toList, line_toList, members, writeFields_cons, List.drop_one,
      List.tail_cons, List.length_cons, List.length_cons]
  have enough : entry.members.length < 2 * entry.line.length + 1 := by
    have written : entry.members.length ≤ (writeFields entry.members ['\x7d']).length :=
      length_le_writeFields _
    omega
  have nonempty : entry.members ≠ [] := List.cons_ne_nil _ _
  have read := readMembers_writeFields [] nonempty enough
  rw [JsonText.ofText?, line_toList, Json.skipBlank_cons (by decide)]
  rw [members, writeFields_cons, List.drop_one, List.tail_cons, writeText] at read ⊢
  rw [Json.readValue_brace, read]
  rfl

/-- A line is the text of the object with its members, in their order. -/
lemma ofText?_line (entry : LogEntry) :
    Json.ofText? entry.line = some (.object (entry.members.map member)) := by
  rw [Json.ofText?, Json.ofTextAs?, tree_line]
  simp only [Option.bind_eq_bind, Option.bind_some, Json.depthLimit, read?,
    readMembers?_fieldTree, Option.map_some]

lemma line_perm {entry : LogEntry} (distinct : (entry.fields.map Prod.fst).Nodup)
    {fields : List (String × String)} (perm : fields.Perm entry.fields) :
    ({ entry with fields } : LogEntry).line = entry.line := by
  have distinct' : (fields.map Prod.fst).Nodup := (perm.map Prod.fst).nodup_iff.2 distinct
  have same : sortedFields fields = sortedFields entry.fields := by
    apply Dictionary.Sorted.eq_of_perm (sortedFields_sorted distinct')
      (sortedFields_sorted distinct)
    exact (sortedFields_perm _).trans (perm.trans (sortedFields_perm _).symm)
  simp only [line, same]

lemma members_nodup {entry : LogEntry} (distinct : (entry.fields.map Prod.fst).Nodup)
    (other : ∀ field ∈ entry.fields, field.1 ≠ "event" ∧ field.1 ≠ "severity") :
    (entry.members.map Prod.fst).Nodup := by
  have distinct' : ((sortedFields entry.fields).map Prod.fst).Nodup :=
    (sortedFields_sorted distinct).keys_nodup
  have fresh : ∀ field ∈ sortedFields entry.fields, field.1 ≠ "event" ∧ field.1 ≠ "severity" :=
    fun field h => other field ((sortedFields_perm _).subset h)
  rw [members, List.map_cons, List.map_cons, List.nodup_cons, List.nodup_cons]
  refine ⟨?_, ?_, distinct'⟩
  · simp only [List.mem_cons, List.mem_map, not_or, not_exists, not_and]
    exact ⟨by decide, fun field h => (fresh field h).1⟩
  · simp only [List.mem_map, not_exists, not_and]
    exact fun field h => (fresh field h).2

/-- A line has no control character, and is read as one object of the event, the severity and then
the fields by key. The order in which the fields were logged does not matter. -/
theorem line_is_one_object (entry : LogEntry) (distinct : (entry.fields.map Prod.fst).Nodup)
    (other : ∀ field ∈ entry.fields, field.1 ≠ "event" ∧ field.1 ≠ "severity") :
    (∀ c ∈ entry.line.toList, Shown c) ∧
    (∃ sorted : Dictionary String, sorted.Sorted ∧ sorted.Perm entry.fields ∧
      ∃ document : Json, Json.ofText? entry.line = some document ∧
        document = .object (("event", .string entry.event.name) ::
          ("severity", .string entry.severity.name) ::
          sorted.map fun (key, text) => (key, .string text)) ∧
        document.member? "event" = some (.string entry.event.name) ∧
        document.member? "severity" = some (.string entry.severity.name) ∧
        ∀ key text, (key, text) ∈ entry.fields → document.member? key = some (.string text)) ∧
    ∀ fields : List (String × String), fields.Perm entry.fields →
      ({ entry with fields } : LogEntry).line = entry.line := by
  refine ⟨shown_line entry, ?_, fun fields perm => line_perm distinct perm⟩
  have keys : ((entry.members.map member).map Prod.fst).Nodup := by
    rw [List.map_map]
    exact members_nodup distinct other
  have found {key text : String} (h : (key, text) ∈ entry.members) :
      (Json.object (entry.members.map member)).member? key = some (.string text) :=
    Json.member?_of_mem keys (List.mem_map.2 ⟨_, h, rfl⟩)
  refine ⟨sortedFields entry.fields, sortedFields_sorted distinct, sortedFields_perm _,
    _, ofText?_line entry, rfl, ?_, ?_, ?_⟩
  · exact found (List.mem_cons_self ..)
  · exact found (List.mem_cons_of_mem _ (List.mem_cons_self ..))
  · intro key text h
    have logged := (sortedFields_perm entry.fields).mem_iff.2 h
    exact found (List.mem_cons_of_mem _ (List.mem_cons_of_mem _ logged))

/-- The fields of a refusal, with quotes, a line break, a control character and a backslash. -/
def refusalFields : List (String × String) :=
  [("text", "say \"no\"\n\u0085"), ("path", "c:\\")]

/-- The escaped texts are read as they were logged, and the path comes before the text. -/
theorem line_is_one_object_escaped :
    (refusalFields.map Prod.fst).Nodup ∧
    (∀ field ∈ refusalFields, field.1 ≠ "event" ∧ field.1 ≠ "severity") ∧
    Json.ofText? (line ⟨.warn, .rejected, refusalFields⟩) = some (.object [
      ("event", .string "PIPELINE_REJECTED"), ("severity", .string "WARN"),
      ("path", .string "c:\\"), ("text", .string "say \"no\"\n\u0085")]) := by
  have distinct : (refusalFields.map Prod.fst).Nodup := by decide
  have other : ∀ field ∈ refusalFields, field.1 ≠ "event" ∧ field.1 ≠ "severity" := by decide
  refine ⟨distinct, other, ?_⟩
  obtain ⟨-, ⟨sorted, order, perm, document, read, same, -⟩, -⟩ :=
    line_is_one_object ⟨.warn, .rejected, refusalFields⟩ distinct other
  have arranged : sorted = [("path", "c:\\"), ("text", "say \"no\"\n\u0085")] :=
    order.eq_of_perm (Dictionary.sorted_pair (by decide) _ _) (perm.trans (.swap _ _ _))
  rw [read, same, arranged]
  rfl

end LogEntry

end DocumentQuery
