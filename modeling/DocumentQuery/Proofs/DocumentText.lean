import Mathlib.Tactic
import DocumentQuery.Proofs.NumberText
import DocumentQuery.Proofs.QuotedText

/-!
# Documents are read as they are written

The reader finds in the text of a document the tree that was written, and stops where it ends. The
first character tells the kind of a value, a string ends at its closing quote, and a number ends
where a comma, a bracket or the text does. So the text of a document tells the document.
-/

namespace DocumentQuery

open NumberText JsonText

namespace Json

mutual

/-- The tree of the text of a document. -/
def tree : Json → JsonText
  | .null => .null
  | .bool b => .bool b
  | .whole n => .number (.ofInt n.value)
  | .fractional x => .number x.toNumberText
  | .string s => .string (Quoted.piecesOf s)
  | .array items => .array (itemTrees items)
  | .object members => .object (memberTrees members)

def itemTrees : List Json → List JsonText
  | [] => []
  | item :: items => item.tree :: itemTrees items

def memberTrees : List (String × Json) → List (List Quoted.Piece × JsonText)
  | [] => []
  | (key, value) :: members => (Quoted.piecesOf key, value.tree) :: memberTrees members

end

/-! ### Scalars -/

variable {fuel : Nat} {rest : List Char}

lemma skipBlank_cons {c : Char} (h : isBlank c = false) (rest : List Char) :
    skipBlank (c :: rest) = c :: rest := by
  simp [skipBlank, h]

/-- A digit starts a number without a sign, and no other value. -/
lemma readValue_digit {c : Char} (h : c.isDigit = true) (rest : List Char) :
    readValue (fuel + 1) (c :: rest) = readNumber false (c :: rest) := by
  rw [readValue]
  all_goals
    intro more same
    cases same
    exact absurd h (by decide)

lemma readValue_number {t : NumberText} (proper : t.Proper) (h : Stops rest) :
    readValue (fuel + 1) (t.write rest) = some (.number t, rest) := by
  have read := readNumber_writeMagnitude proper h
  obtain ⟨c, more, text, ⟨sign, rfl, rfl⟩ | ⟨sign, digit, magnitude⟩⟩ := write_head proper rest
  · rw [text, readValue, ← sign, read]
  · rw [text, readValue_digit digit, magnitude, ← sign, read]

section Quotes

variable {escape : Char → List Char} {piece : Char → Quoted.Piece}
  (h : ∀ c, Quoted.Escaped c (escape c) (piece c))

include h

/-- A string in quotes is read whichever of its characters are escaped. -/
lemma readValue_quoted (s rest : List Char) :
    readValue (fuel + 1) (Quoted.writeWith escape s rest) = some (.string (s.map piece), rest) := by
  unfold Quoted.writeWith
  rw [readValue, Quoted.readPieces_writeWith h]
  rfl

lemma readMembers_quoted_last {key text : List Char} {found : JsonText}
    (solid : skipBlank text = text) (first : readValue fuel text = some (found, '\x7d' :: rest)) :
    readMembers (fuel + 1) (Quoted.writeWith escape key (':' :: text)) =
      some ([(key.map piece, found)], rest) := by
  have quote : isBlank '"' = false := by decide
  have colon : isBlank ':' = false := by decide
  have brace : isBlank '\x7d' = false := by decide
  simp only [Quoted.writeWith, readMembers, skipBlank_cons quote, Quoted.readPieces_writeWith h,
    skipBlank_cons colon, solid, first, skipBlank_cons brace]

lemma readMembers_quoted_more {key text next : List Char} {found : JsonText}
    {members : List (List Quoted.Piece × JsonText)} (solid : skipBlank text = text)
    (first : readValue fuel text = some (found, ',' :: next))
    (later : readMembers fuel next = some (members, rest)) :
    readMembers (fuel + 1) (Quoted.writeWith escape key (':' :: text)) =
      some ((key.map piece, found) :: members, rest) := by
  have quote : isBlank '"' = false := by decide
  have colon : isBlank ':' = false := by decide
  have comma : isBlank ',' = false := by decide
  simp only [Quoted.writeWith, readMembers, skipBlank_cons quote, Quoted.readPieces_writeWith h,
    skipBlank_cons colon, solid, first, skipBlank_cons comma, later, Option.map_some]

end Quotes

lemma readValue_string (s : String) (rest : List Char) :
    readValue (fuel + 1) (Quoted.write s rest) = some (.string (Quoted.piecesOf s), rest) :=
  readValue_quoted Quoted.escaped_escapeChar s.toList rest

lemma write_whole (n : WholeNumber) (rest : List Char) :
    (whole n).write rest = (NumberText.ofInt n.value).write rest := by
  rw [write, write_ofInt]

lemma write_fractional (x : FiniteDouble) (rest : List Char) :
    (fractional x).write rest = x.toNumberText.write rest := by
  rw [write, x.write_toNumberText]

lemma isBlank_of_isDigit {c : Char} (h : c.isDigit = true) : isBlank c = false := by
  rw [Bool.eq_false_iff]
  intro blank
  simp only [isBlank, Bool.or_eq_true, decide_eq_true_eq] at blank
  rcases blank with ((rfl | rfl) | rfl) | rfl <;> exact absurd h (by decide)

/-- The first character of a document is neither a blank nor a closing bracket. -/
lemma write_head (v : Json) (rest : List Char) :
    ∃ c more, v.write rest = c :: more ∧ isBlank c = false ∧ c ≠ ']' := by
  have number {t : NumberText} (proper : t.Proper) :
      ∃ c more, t.write rest = c :: more ∧ isBlank c = false ∧ c ≠ ']' := by
    obtain ⟨c, more, text, ⟨-, rfl, -⟩ | ⟨-, digit, -⟩⟩ := NumberText.write_head proper rest
    · exact ⟨_, _, text, by decide, by decide⟩
    · refine ⟨c, more, text, isBlank_of_isDigit digit, ?_⟩
      rintro rfl
      exact absurd digit (by decide)
  cases v with
  | null => exact ⟨_, _, rfl, by decide, by decide⟩
  | bool b => cases b <;> exact ⟨_, _, rfl, by decide, by decide⟩
  | whole n =>
    rw [write_whole]
    exact number (ofInt_proper _)
  | fractional x =>
    rw [write_fractional]
    exact number x.toNumberText_proper
  | string s => exact ⟨_, _, rfl, by decide, by decide⟩
  | array items => cases items <;> exact ⟨_, _, rfl, by decide, by decide⟩
  | object members => cases members <;> exact ⟨_, _, rfl, by decide, by decide⟩

/-! ### Lengths -/

mutual

lemma length_lt_write : ∀ (v : Json) (rest : List Char), rest.length < (v.write rest).length
  | .null, rest => by simp only [write, List.length_cons]; omega
  | .bool b, rest => by cases b <;> simp only [write, List.length_cons] <;> omega
  | .whole n, rest => by
    rw [write_whole]
    exact NumberText.length_lt_write (ofInt_proper _) rest
  | .fractional x, rest => by
    rw [write_fractional]
    exact NumberText.length_lt_write x.toNumberText_proper rest
  | .string s, rest => by
    simp only [write, Quoted.write, Quoted.writeWith, List.length_cons, List.length_append]
    omega
  | .array [], rest => by simp only [write, List.length_cons]; omega
  | .array (item :: items), rest => by
    have first := length_lt_write item (writeItems items rest)
    have later := length_lt_writeItems items rest
    rw [write, List.length_cons]
    omega
  | .object [], rest => by simp only [write, List.length_cons]; omega
  | .object ((key, value) :: members), rest => by
    have first := length_lt_write value (writeMembers members rest)
    have later := length_lt_writeMembers members rest
    simp only [write, Quoted.write, Quoted.writeWith, List.length_cons, List.length_append]
    omega

lemma length_lt_writeItems : ∀ (items : List Json) (rest : List Char),
    rest.length < (writeItems items rest).length
  | [], rest => by simp [writeItems]
  | item :: items, rest => by
    have first := length_lt_write item (writeItems items rest)
    have later := length_lt_writeItems items rest
    rw [writeItems, List.length_cons]
    omega

lemma length_lt_writeMembers : ∀ (members : List (String × Json)) (rest : List Char),
    rest.length < (writeMembers members rest).length
  | [], rest => by simp [writeMembers]
  | (key, value) :: members, rest => by
    have first := length_lt_write value (writeMembers members rest)
    have later := length_lt_writeMembers members rest
    simp only [writeMembers, Quoted.write, Quoted.writeWith, List.length_cons, List.length_append]
    omega

end

/-! ### Whole documents -/

lemma stops_writeItems (items : List Json) (rest : List Char) : Stops (writeItems items rest) := by
  cases items <;> exact stops_cons (by decide) _

lemma stops_writeMembers (members : List (String × Json)) (rest : List Char) :
    Stops (writeMembers members rest) := by
  cases members <;> exact stops_cons (by decide) _

lemma skipBlank_write (v : Json) (rest : List Char) :
    skipBlank (v.write rest) = v.write rest := by
  obtain ⟨c, more, text, blank, -⟩ := v.write_head rest
  rw [text, skipBlank_cons blank]

/-- An opening bracket with something in the brackets. -/
lemma readValue_bracket (v : Json) (rest : List Char) :
    readValue (fuel + 1) ('[' :: v.write rest) =
      (readItems fuel (v.write rest)).map fun (items, rest) => (.array items, rest) := by
  obtain ⟨c, more, text, blank, other⟩ := v.write_head rest
  rw [text, readValue, skipBlank_cons blank]
  split
  · rename_i same
    exact absurd (List.cons.inj same).1 other
  · rfl

lemma readItems_last {v : Json} {found : JsonText}
    (first : readValue fuel (v.write (']' :: rest)) = some (found, ']' :: rest)) :
    readItems (fuel + 1) (v.write (']' :: rest)) = some ([found], rest) := by
  have bracket : isBlank ']' = false := by decide
  rw [readItems, skipBlank_write, first]
  simp only [skipBlank_cons bracket]

lemma readItems_more {v : Json} {found : JsonText} {items : List JsonText} {text : List Char}
    (first : readValue fuel (v.write (',' :: text)) = some (found, ',' :: text))
    (later : readItems fuel text = some (items, rest)) :
    readItems (fuel + 1) (v.write (',' :: text)) = some (found :: items, rest) := by
  have comma : isBlank ',' = false := by decide
  rw [readItems, skipBlank_write, first]
  simp only [skipBlank_cons comma, later, Option.map_some]

lemma readMembers_last {key : String} {v : Json} {found : JsonText}
    (first : readValue fuel (v.write ('\x7d' :: rest)) = some (found, '\x7d' :: rest)) :
    readMembers (fuel + 1) (Quoted.write key (':' :: v.write ('\x7d' :: rest))) =
      some ([(Quoted.piecesOf key, found)], rest) :=
  readMembers_quoted_last Quoted.escaped_escapeChar (skipBlank_write v _) first

lemma readMembers_more {key : String} {v : Json} {found : JsonText}
    {members : List (List Quoted.Piece × JsonText)} {text : List Char}
    (first : readValue fuel (v.write (',' :: text)) = some (found, ',' :: text))
    (later : readMembers fuel text = some (members, rest)) :
    readMembers (fuel + 1) (Quoted.write key (':' :: v.write (',' :: text))) =
      some ((Quoted.piecesOf key, found) :: members, rest) :=
  readMembers_quoted_more Quoted.escaped_escapeChar (skipBlank_write v _) first later

/-- An opening brace with a member after it. -/
lemma readValue_brace (escape : Char → List Char) (key text : List Char) :
    readValue (fuel + 1) ('\x7b' :: Quoted.writeWith escape key text) =
      (readMembers fuel (Quoted.writeWith escape key text)).map fun (members, rest) =>
        (.object members, rest) := by
  unfold Quoted.writeWith
  rw [readValue, skipBlank_cons (by decide)]
  rfl

mutual

/-- The reader gives back the tree that was written, and the rest of the text. As every value and
every separator has a character of its own, the length of the text is fuel enough. -/
theorem readValue_write : ∀ (v : Json) (fuel : Nat) (rest : List Char), Stops rest →
    (v.write rest).length ≤ fuel + rest.length →
    readValue fuel (v.write rest) = some (v.tree, rest)
  | v, 0, rest, _, enough => by
    have := v.length_lt_write rest
    omega
  | .null, fuel + 1, rest, _, _ => rfl
  | .bool true, fuel + 1, rest, _, _ => rfl
  | .bool false, fuel + 1, rest, _, _ => rfl
  | .whole n, fuel + 1, rest, stops, _ => by
    rw [write_whole, readValue_number (ofInt_proper _) stops, tree]
  | .fractional x, fuel + 1, rest, stops, _ => by
    rw [write_fractional, readValue_number x.toNumberText_proper stops, tree]
  | .string s, fuel + 1, rest, _, _ => by rw [write, readValue_string, tree]
  | .array [], fuel + 1, rest, _, _ => rfl
  | .array (item :: items), fuel + 1, rest, _, enough => by
    have enough : (writeItems (item :: items) rest).length ≤ fuel + rest.length + 1 := by
      rw [write, List.length_cons] at enough
      rw [writeItems, List.length_cons]
      omega
    have read := readItems_write (item :: items) fuel rest (by simp) enough
    rw [writeItems, List.drop_one, List.tail_cons] at read
    rw [write, readValue_bracket, read, tree]
    rfl
  | .object [], fuel + 1, rest, _, _ => rfl
  | .object ((key, value) :: members), fuel + 1, rest, _, enough => by
    have enough : (writeMembers ((key, value) :: members) rest).length ≤
        fuel + rest.length + 1 := by
      rw [write, List.length_cons] at enough
      rw [writeMembers, List.length_cons]
      omega
    have read := readMembers_write ((key, value) :: members) fuel rest (by simp) enough
    rw [writeMembers, List.drop_one, List.tail_cons] at read
    rw [write, Quoted.write, readValue_brace]
    rw [Quoted.write] at read
    rw [read, tree]
    rfl

/-- The items after an opening bracket are read like those after a comma. -/
theorem readItems_write : ∀ (items : List Json) (fuel : Nat) (rest : List Char), items ≠ [] →
    (writeItems items rest).length ≤ fuel + rest.length + 1 →
    readItems fuel ((writeItems items rest).drop 1) = some (itemTrees items, rest)
  | [], _, _, nonempty, _ => absurd rfl nonempty
  | item :: items, 0, rest, _, enough => by
    have first := item.length_lt_write (writeItems items rest)
    have later := length_lt_writeItems items rest
    rw [writeItems, List.length_cons] at enough
    omega
  | item :: items, fuel + 1, rest, _, enough => by
    have later := length_lt_writeItems items rest
    have first := item.length_lt_write (writeItems items rest)
    rw [writeItems, List.length_cons] at enough
    have read := readValue_write item fuel (writeItems items rest) (stops_writeItems items rest)
      (by omega)
    rw [writeItems, List.drop_one, List.tail_cons, itemTrees]
    cases items with
    | nil => exact readItems_last read
    | cons next items =>
      have more := readItems_write (next :: items) fuel rest (by simp) (by omega)
      exact readItems_more read more

/-- The members after an opening brace are read like those after a comma. -/
theorem readMembers_write : ∀ (members : List (String × Json)) (fuel : Nat) (rest : List Char),
    members ≠ [] → (writeMembers members rest).length ≤ fuel + rest.length + 1 →
    readMembers fuel ((writeMembers members rest).drop 1) = some (memberTrees members, rest)
  | [], _, _, nonempty, _ => absurd rfl nonempty
  | (key, value) :: members, 0, rest, _, enough => by
    have first := value.length_lt_write (writeMembers members rest)
    have later := length_lt_writeMembers members rest
    simp only [writeMembers, Quoted.write, Quoted.writeWith, List.length_cons,
      List.length_append] at enough
    omega
  | (key, value) :: members, fuel + 1, rest, _, enough => by
    have later := length_lt_writeMembers members rest
    have first := value.length_lt_write (writeMembers members rest)
    simp only [writeMembers, Quoted.write, Quoted.writeWith, List.length_cons,
      List.length_append] at enough
    have read := readValue_write value fuel (writeMembers members rest)
      (stops_writeMembers members rest) (by omega)
    rw [writeMembers, List.drop_one, List.tail_cons, memberTrees]
    cases members with
    | nil => exact readMembers_last read
    | cons next members =>
      have more := readMembers_write (next :: members) fuel rest (by simp) (by omega)
      exact readMembers_more read more

end

/-- The tree of the text of a document is the one that was written. -/
theorem ofText?_toText (v : Json) : JsonText.ofText? v.toText = some v.tree := by
  have enough : (v.write []).length ≤ 2 * v.toText.length + 2 + ([] : List Char).length := by
    rw [toText, String.length_ofList]
    omega
  unfold JsonText.ofText?
  rw [toText, String.toList_ofList, skipBlank_write]
  rw [toText] at enough
  rw [readValue_write v _ [] stops_nil enough]
  rfl

/-! ### Texts tell documents apart -/

lemma whole_of_tree {n : WholeNumber} {v : Json}
    (same : JsonText.number (.ofInt n.value) = v.tree) : whole n = v := by
  cases v with
  | whole m =>
    rw [tree, JsonText.number.injEq] at same
    obtain ⟨value, inRange⟩ := n
    obtain ⟨value', inRange'⟩ := m
    cases NumberText.ofInt_inj same
    rfl
  | fractional x =>
    rw [tree, JsonText.number.injEq] at same
    exact absurd same.symm (x.toNumberText_ne_ofInt n.value)
  | _ => simp [tree] at same

lemma fractional_of_tree {x : FiniteDouble} {v : Json}
    (same : JsonText.number x.toNumberText = v.tree) : fractional x = v := by
  cases v with
  | whole m =>
    rw [tree, JsonText.number.injEq] at same
    exact absurd same (x.toNumberText_ne_ofInt m.value)
  | fractional y =>
    rw [tree, JsonText.number.injEq] at same
    rw [FiniteDouble.toNumberText_inj same]
  | _ => simp [tree] at same

mutual

/-- The tree of a document tells the document: whole numbers from fractional ones, and each number
and each string from the others. -/
theorem tree_inj : ∀ v w : Json, v.tree = w.tree → v = w
  | .null, w, same => by cases w <;> simp [tree] at same; rfl
  | .bool b, w, same => by cases w <;> simp [tree] at same; rw [same]
  | .whole n, w, same => whole_of_tree same
  | .fractional x, w, same => fractional_of_tree same
  | .string s, w, same => by
    cases w with
    | string t =>
      rw [tree, tree] at same
      rw [Quoted.piecesOf_inj (JsonText.string.inj same)]
    | _ => simp [tree] at same
  | .array items, w, same => by
    cases w with
    | array items' =>
      rw [tree, tree] at same
      rw [itemTrees_inj items items' (JsonText.array.inj same)]
    | _ => simp [tree] at same
  | .object members, w, same => by
    cases w with
    | object members' =>
      rw [tree, tree] at same
      rw [memberTrees_inj members members' (JsonText.object.inj same)]
    | _ => simp [tree] at same

theorem itemTrees_inj : ∀ items items' : List Json,
    itemTrees items = itemTrees items' → items = items'
  | [], [], _ => rfl
  | [], item' :: items', same => by simp [itemTrees] at same
  | item :: items, [], same => by simp [itemTrees] at same
  | item :: items, item' :: items', same => by
    rw [itemTrees, itemTrees] at same
    obtain ⟨first, later⟩ := List.cons.inj same
    rw [tree_inj item item' first, itemTrees_inj items items' later]

theorem memberTrees_inj : ∀ members members' : List (String × Json),
    memberTrees members = memberTrees members' → members = members'
  | [], [], _ => rfl
  | [], member' :: members', same => by simp [memberTrees] at same
  | member :: members, [], same => by simp [memberTrees] at same
  | (key, value) :: members, (key', value') :: members', same => by
    rw [memberTrees, memberTrees] at same
    obtain ⟨first, later⟩ := List.cons.inj same
    obtain ⟨keys, values⟩ := Prod.mk.inj first
    rw [Quoted.piecesOf_inj keys, tree_inj value value' values,
      memberTrees_inj members members' later]

end

/-- Documents with the same text are the same. -/
theorem toText_inj {v w : Json} (same : v.toText = w.toText) : v = w := by
  have trees := v.ofText?_toText
  rw [same, w.ofText?_toText] at trees
  exact (w.tree_inj v (Option.some.inj trees)).symm

end Json

end DocumentQuery
