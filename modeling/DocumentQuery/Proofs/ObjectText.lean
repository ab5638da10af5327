import Mathlib.Data.List.DropRight
import Mathlib.Data.List.ReduceOption
import DocumentQuery.Wire.Part
import DocumentQuery.Wire.Reading
import DocumentQuery.Proofs.LongerTexts

/-!
# Objects put together from texts

The text of an object can be put together from the texts of its keys and values, and is then read
member by member. A record takes from it the fields that it knows, in the order of the text, and
passes over the members that are foreign to it, whatever their values are.
-/

namespace DocumentQuery

open NumberText JsonText

/-- A member of an object in a text: the text of its key and that of its value. -/
structure MemberText where
  key : String
  value : String

/-- The text of an object that has the given members. -/
def objectText (members : List MemberText) : String :=
  "\x7b" ++ ",".intercalate (members.map fun m => m.key ++ ":" ++ m.value) ++ "\x7d"

namespace MemberText

/-- A member as the writer of documents has it. -/
def written (member : String × Json) : MemberText :=
  ⟨(Json.string member.1).toText, member.2.toText⟩

/-- A member with another key than the given ones. Its value is any text of the grammar. -/
structure Foreign (names : List String) (m : MemberText) : Prop where
  key : ∃ name, name ∉ names ∧ Json.ofText? m.key = some (.string name)
  value : (JsonText.ofText? m.value).isSome

lemma foreign_iff {names : List String} {m : MemberText} :
    m.Foreign names ↔ (((Json.ofText? m.key).bind Json.string?).any (· ∉ names)) = true ∧
      (JsonText.ofText? m.value).isSome := by
  have key : (∃ name, name ∉ names ∧ Json.ofText? m.key = some (.string name)) ↔
      (((Json.ofText? m.key).bind Json.string?).any (· ∉ names)) = true := by
    constructor
    · rintro ⟨name, other, read⟩
      simpa [read, Json.string?] using other
    · intro h
      obtain ⟨name, read, other⟩ := (Option.any_eq_true _ _).1 h
      obtain ⟨v, text, string⟩ := Option.bind_eq_some_iff.1 read
      cases v <;> cases string
      exact ⟨name, of_decide_eq_true other, text⟩
  exact ⟨fun h => ⟨key.1 h.key, h.value⟩, fun h => ⟨key.2 h.1, h.2⟩⟩

instance (names : List String) : DecidablePred (Foreign names) :=
  fun _ => decidable_of_iff' _ foreign_iff

/-- The member before the rest of a text. -/
def write (m : MemberText) (rest : List Char) : List Char :=
  m.key.toList ++ ':' :: (m.value.toList ++ rest)

/-- The members after the first, and the closing brace. -/
def writeLater : List MemberText → List Char
  | [] => ['\x7d']
  | m :: members => ',' :: m.write (writeLater members)

/-- The trees of the texts of a member. -/
def HasTree (m : MemberText) (member : List Quoted.Piece × JsonText) : Prop :=
  JsonText.ofText? m.key = some (.string member.1) ∧ JsonText.ofText? m.value = some member.2

lemma toList_objectText (m : MemberText) (members : List MemberText) :
    (objectText (m :: members)).toList = '\x7b' :: m.write (writeLater members) := by
  have inside : (",".intercalate ((m :: members).map fun m => m.key ++ ":" ++ m.value)).toList ++
      ['\x7d'] = m.write (writeLater members) := by
    induction members generalizing m with
    | nil => simp [String.toList_append, write, writeLater]
    | cons next members ih =>
      rw [List.map_cons, String.intercalate_cons_of_ne_nil (by simp), String.toList_append,
        List.append_assoc, ih next, writeLater]
      simp [String.toList_append, write]
  rw [objectText, String.toList_append, String.toList_append, List.append_assoc]
  exact congrArg ('\x7b' :: ·) inside

lemma stops_writeLater (members : List MemberText) : Stops (writeLater members) := by
  cases members <;> exact stops_cons (by decide) _

end MemberText

/-! ### Trees -/

namespace JsonText

variable {fuel : Nat} {text left : List Char}

lemma ofText?_eq_some_iff {text : String} {tree : JsonText} :
    ofText? text = some tree ↔ ∃ blank,
      readValue (2 * text.length + 2) (skipBlank text.toList) = some (tree, blank) ∧
        skipBlank blank = [] := by
  unfold ofText?
  constructor
  · intro h
    split at h
    · rename_i found blank read
      split_ifs at h with ends
      cases h
      exact ⟨blank, read, List.isEmpty_iff.1 ends⟩
    · cases h
  · rintro ⟨blank, read, ends⟩
    rw [read]
    dsimp only
    rw [ends]
    rfl

lemma readMembers_skipBlank : readMembers fuel (skipBlank text) = readMembers fuel text := by
  have again : skipBlank (skipBlank text) = skipBlank text := List.dropWhile_idempotent _ _
  cases fuel with
  | zero => rfl
  | succ fuel => rw [readMembers, readMembers, again]

/-- Only a quote starts a string. -/
lemma readPieces_of_readValue {pieces : List Quoted.Piece}
    (h : readValue fuel text = some (.string pieces, left)) :
    ∃ body, text = '"' :: body ∧ Quoted.readPieces body = some (pieces, left) := by
  have not_number {negative : Bool} {text : List Char} :
      readNumber negative text ≠ some (.string pieces, left) := by
    intro found
    unfold readNumber at found
    dsimp only at found
    split_ifs at found
    obtain ⟨_, -, found⟩ := Option.bind_eq_some_iff.1 found
    obtain ⟨_, -, found⟩ := Option.bind_eq_some_iff.1 found
    cases found
  cases fuel with
  | zero => cases h
  | succ fuel =>
    have found := h
    unfold readValue at h
    split at h
    · cases h
    · cases h
    · cases h
    · rename_i body
      obtain ⟨⟨_, _⟩, read, same⟩ := Option.map_eq_some_iff.1 h
      cases same
      exact ⟨body, rfl, read⟩
    · rcases readValue_bracket_eq_some_iff.1 found with ⟨-, same⟩ | ⟨_, -, -, same⟩ <;> cases same
    · rcases readValue_brace_eq_some_iff.1 found with ⟨-, same⟩ | ⟨_, -, -, same⟩ <;> cases same
    · exact absurd h not_number
    · exact absurd h not_number

end JsonText

namespace MemberText

variable {m : MemberText} {members : List MemberText} {fuel : Nat} {rest : List Char}
  {tree : List Quoted.Piece × JsonText} {trees : List (List Quoted.Piece × JsonText)}

lemma HasTree.write_quote (h : m.HasTree tree) (rest : List Char) :
    ∃ body, skipBlank (m.write rest) = '"' :: body := by
  obtain ⟨afterKey, key, -⟩ := ofText?_eq_some_iff.1 h.1
  obtain ⟨body, quote, -⟩ := readPieces_of_readValue key
  exact ⟨_, skipBlank_append_cons quote _⟩

/-- A member is read from its text. Blanks may be left before what follows. -/
lemma HasTree.memberAt (h : m.HasTree tree) (enough : 2 * m.value.length + 2 ≤ fuel)
    (stops : Stops rest) :
    ∃ blank, skipBlank blank = [] ∧ MemberAt fuel (m.write rest) tree (blank ++ rest) := by
  obtain ⟨afterKey, key, keyEnds⟩ := ofText?_eq_some_iff.1 h.1
  obtain ⟨blank, value, valueEnds⟩ := ofText?_eq_some_iff.1 h.2
  obtain ⟨body, quote, pieces⟩ := readPieces_of_readValue key
  have colon : Stops (':' :: (m.value.toList ++ rest)) := stops_cons (by decide) _
  refine ⟨blank, valueEnds, body ++ ':' :: (m.value.toList ++ rest),
    afterKey ++ ':' :: (m.value.toList ++ rest), m.value.toList ++ rest,
    skipBlank_append_cons quote _, extends_readPieces pieces _ colon, ?_,
    (extends_readValue enough).skipBlank readValue_nil value stops⟩
  rw [skipBlank_append_blank keyEnds, Json.skipBlank_cons (by decide)]

lemma length_write : (m.write rest).length = m.key.length + m.value.length + rest.length + 1 := by
  simp only [write, List.length_append, List.length_cons, String.length_toList]
  omega

/-- The members are read one by one. The fuel that is left is always twice the text that is left,
so it is enough for the value of the next member. -/
lemma readMembers_write (h : m.HasTree tree) (later : List.Forall₂ HasTree members trees)
    (enough : 2 * (m.write (writeLater members)).length ≤ fuel) :
    readMembers fuel (m.write (writeLater members)) = some (tree :: trees, []) := by
  induction later generalizing m tree fuel with
  | nil =>
    rw [length_write, writeLater, List.length_singleton] at enough
    obtain ⟨fuel, rfl⟩ : ∃ n, fuel = n + 1 := ⟨fuel - 1, by omega⟩
    have room : 2 * m.value.length + 2 ≤ fuel := by omega
    obtain ⟨blank, ends, member⟩ := h.memberAt room (stops_writeLater [])
    refine readMembers_eq_some_iff.2 ⟨tree, _, member, .inl ⟨?_, rfl⟩⟩
    rw [skipBlank_append_blank ends]
    rfl
  | @cons next nextTree members trees hnext hlater ih =>
    rw [length_write, writeLater, List.length_cons] at enough
    obtain ⟨fuel, rfl⟩ : ∃ n, fuel = n + 1 := ⟨fuel - 1, by omega⟩
    have room : 2 * m.value.length + 2 ≤ fuel := by omega
    obtain ⟨blank, ends, member⟩ := h.memberAt room (stops_writeLater (next :: members))
    refine readMembers_eq_some_iff.2
      ⟨tree, _, member, .inr ⟨next.write (writeLater members), nextTree :: trees, ?_, ?_, rfl⟩⟩
    · rw [skipBlank_append_blank ends, writeLater, Json.skipBlank_cons (by decide)]
    · exact ih hnext (by omega)

/-- An object is read member by member, if the keys are texts of strings and the values are any
texts of the grammar. -/
theorem ofText?_objectText (h : List.Forall₂ HasTree members trees) :
    JsonText.ofText? (objectText members) = some (.object trees) := by
  cases h with
  | nil => rfl
  | @cons m tree members trees first later =>
    have length : (objectText (m :: members)).length =
        (m.write (writeLater members)).length + 1 := by
      rw [← String.length_toList, toList_objectText, List.length_cons]
    obtain ⟨body, quote⟩ := first.write_quote (writeLater members)
    refine ofText?_eq_some_iff.2 ⟨[], ?_, rfl⟩
    rw [toList_objectText, Json.skipBlank_cons (by decide), readValue_brace_eq_some_iff]
    refine .inr ⟨_, ?_, ?_, rfl⟩
    · intro rest close
      rw [quote] at close
      cases close
    · rw [readMembers_skipBlank]
      exact readMembers_write first later (by omega)

end MemberText

/-! ### Written objects -/

namespace Json

mutual

/-- The text of a document does not depend on what is behind it. -/
lemma write_append : ∀ (v : Json) (text rest : List Char),
    v.write (text ++ rest) = v.write text ++ rest
  | .null, _, _ => rfl
  | .bool true, _, _ => rfl
  | .bool false, _, _ => rfl
  | .whole n, _, _ => by rw [write, write, List.append_assoc]
  | .fractional x, _, _ => by rw [write, write, List.append_assoc]
  | .string s, _, _ => by simp [write, Quoted.write, Quoted.writeWith]
  | .array [], _, _ => rfl
  | .array (item :: items), text, rest => by
    rw [write, write, writeItems_append items, write_append item, List.cons_append]
  | .object [], _, _ => rfl
  | .object ((key, value) :: members), text, rest => by
    rw [write, write, writeMembers_append members, write_append value]
    simp [Quoted.write, Quoted.writeWith]

lemma writeItems_append : ∀ (items : List Json) (text rest : List Char),
    writeItems items (text ++ rest) = writeItems items text ++ rest
  | [], _, _ => rfl
  | item :: items, text, rest => by
    rw [writeItems, writeItems, writeItems_append items, write_append item, List.cons_append]

lemma writeMembers_append : ∀ (members : List (String × Json)) (text rest : List Char),
    writeMembers members (text ++ rest) = writeMembers members text ++ rest
  | [], _, _ => rfl
  | (key, value) :: members, text, rest => by
    rw [writeMembers, writeMembers, writeMembers_append members, write_append value]
    simp [Quoted.write, Quoted.writeWith]

end

lemma write_eq (v : Json) (rest : List Char) : v.write rest = v.toText.toList ++ rest := by
  rw [toText, String.toList_ofList, ← write_append, List.nil_append]

end Json

namespace MemberText

lemma write_written (key : String) (v : Json) (rest : List Char) :
    (written (key, v)).write rest = Quoted.write key (':' :: v.write rest) := by
  have quoted : Quoted.write key (':' :: v.write rest) =
      (Json.string key).write (':' :: v.write rest) := by rw [Json.write]
  rw [quoted, Json.write_eq, v.write_eq rest]
  rfl

lemma writeLater_map_written (members : List (String × Json)) :
    writeLater (members.map written) = Json.writeMembers members [] := by
  induction members with
  | nil => rfl
  | cons member members ih =>
    obtain ⟨key, v⟩ := member
    rw [List.map_cons, writeLater, ih, write_written, Json.writeMembers]

/-- The text of an object is put together from those of its members. -/
theorem toText_object (members : List (String × Json)) :
    (Json.object members).toText = objectText (members.map written) := by
  apply String.toList_inj.1
  cases members with
  | nil => rfl
  | cons member members =>
    obtain ⟨key, v⟩ := member
    rw [List.map_cons, toList_objectText, writeLater_map_written, write_written, Json.toText,
      String.toList_ofList, Json.write]

lemma hasTree_written (key : String) (v : Json) :
    (written (key, v)).HasTree (Quoted.piecesOf key, v.tree) :=
  ⟨(Json.string key).ofText?_toText, v.ofText?_toText⟩

end MemberText

/-! ### Scalars -/

namespace JsonText

variable {State : Type} {outline : Outline State} {part : State} {depth : Nat}

/-- Only the tree of a string is read as one. -/
lemma read?_eq_some_string {tree : JsonText} {s : String}
    (h : tree.read? outline depth part = some (.string s)) :
    ∃ pieces chars, tree = .string pieces ∧ Quoted.joinPieces? pieces = some chars ∧
      String.ofList chars = s := by
  cases tree with
  | null | bool => cases h
  | number n =>
    rw [read?] at h
    unfold NumberText.read? at h
    dsimp only at h
    split at h
    · cases h
    · obtain ⟨x, -, same⟩ := Option.map_eq_some_iff.1 h
      cases same
  | string pieces =>
    rw [read?] at h
    obtain ⟨chars, joined, same⟩ := Option.map_eq_some_iff.1 h
    exact ⟨pieces, chars, rfl, joined, Json.string.inj same⟩
  | array items =>
    cases depth with
    | zero => cases h
    | succ depth =>
      rw [read?] at h
      obtain ⟨_, -, same⟩ := Option.map_eq_some_iff.1 h
      cases same
  | object members =>
    cases depth with
    | zero => cases h
    | succ depth =>
      rw [read?] at h
      obtain ⟨_, -, same⟩ := Option.map_eq_some_iff.1 h
      cases same

end JsonText

namespace Json

/-- Whether a document is a word, a whole number or a string. -/
def IsScalar : Json → Prop
  | .null | .bool _ | .whole _ | .string _ => True
  | .fractional _ | .array _ | .object _ => False

/-- A whole number is read from its digits. -/
lemma read?_ofInt (n : WholeNumber) : (NumberText.ofInt n.value).read? = some (.whole n) := by
  have magnitude : (if decide (n.value < 0) = true then
      -(digitsValue (decimalDigits n.value.natAbs) : Int)
      else digitsValue (decimalDigits n.value.natAbs)) = n.value := by
    rw [digitsValue_decimalDigits]
    simp only [decide_eq_true_eq]
    omega
  have found : WholeNumber.ofDigits? (n.value < 0) (decimalDigits n.value.natAbs) = some n := by
    unfold WholeNumber.ofDigits?
    dsimp only
    simp only [magnitude]
    rw [dif_pos]
    refine ⟨?_, n.inRange⟩
    rintro ⟨negative, zero⟩
    have := of_decide_eq_true negative
    omega
  unfold NumberText.read?
  simp [NumberText.ofInt, found]

/-- Words, whole numbers and strings are read as they were written, wherever they stand. -/
theorem read?_tree {State : Type} {v : Json} (h : v.IsScalar) (outline : Outline State)
    (depth : Nat) (part : State) : v.tree.read? outline depth part = some v := by
  cases v with
  | null | bool => rfl
  | whole n => rw [tree, JsonText.read?, read?_ofInt]
  | string s =>
    rw [tree, JsonText.read?, Quoted.joinPieces?_piecesOf, Option.map_some, String.ofList_toList]
  | fractional | array | object => cases h

lemma ofText?_toText_of_isScalar {v : Json} (h : v.IsScalar) : Json.ofText? v.toText = some v := by
  rw [Json.ofText?, ofTextAs?, v.ofText?_toText, Option.bind_eq_bind, Option.bind_some,
    read?_tree h]

end Json

/-- Any document may be the value of a foreign member. -/
lemma MemberText.foreign_written {names : List String} {member : String × Json}
    (other : member.1 ∉ names) : (written member).Foreign names where
  key := ⟨member.1, other, Json.ofText?_toText_of_isScalar trivial⟩
  value := Option.isSome_of_eq_some member.2.ofText?_toText

/-! ### Fields of records -/

namespace Part

/-- A record whose fields are documents of any kind. -/
def flat (names : List String) : Part := .record (names.map fun name => (name, .whole))

lemma outline_member_flat (names : List String) (key : String) :
    outline.member (flat names) key = if key ∈ names then some .whole else none := by
  rw [outline, flat]
  dsimp only
  rw [member?]
  induction names with
  | nil => rfl
  | cons name names ih =>
    rw [List.map_cons, List.lookup_cons, ih]
    by_cases same : key = name
    · simp [same]
    · rw [beq_eq_false_iff_ne.2 same]
      simp [same]

variable {names : List String} {m : MemberText} {depth : Nat}
  {trees : List (List Quoted.Piece × JsonText)} {found : List (String × Json)}

/-- The value of a foreign member is not even looked at. -/
lemma readMembers?_foreign (h : m.Foreign names) :
    ∃ tree, m.HasTree tree ∧ ∀ trees depth,
      readMembers? outline (tree :: trees) depth (flat names) =
        readMembers? outline trees depth (flat names) := by
  obtain ⟨⟨name, other, key⟩, value⟩ := h
  obtain ⟨valueTree, value⟩ := Option.isSome_iff_exists.1 value
  obtain ⟨keyTree, read, isString⟩ := Option.bind_eq_some_iff.1 key
  obtain ⟨pieces, chars, rfl, joined, rfl⟩ := read?_eq_some_string isString
  refine ⟨(pieces, valueTree), ⟨read, value⟩, fun trees depth => ?_⟩
  rw [readMembers?, joined]
  dsimp only
  rw [outline_member_flat, if_neg other]

lemma readMembers?_known {key : String} {v : Json} (known : key ∈ names) (scalar : v.IsScalar)
    (later : readMembers? outline trees depth (flat names) = some found) :
    readMembers? outline ((Quoted.piecesOf key, v.tree) :: trees) depth (flat names) =
      some ((key, v) :: found) := by
  have part : outline.member (flat names) key = some .whole := by
    rw [outline_member_flat, if_pos known]
  rw [readMembers?, Quoted.joinPieces?_piecesOf]
  simp only [String.ofList_toList, part, Json.read?_tree scalar, later, Option.map_some]

/-- What a record takes from a member of a text: a field if it is a known one, and nothing if it is
foreign. -/
def Takes (names : List String) (m : MemberText) : Option (String × Json) → Prop
  | none => m.Foreign names
  | some (key, v) => key ∈ names ∧ v.IsScalar ∧ m = .written (key, v)

lemma readMembers?_takes {members : List MemberText} {taken : List (Option (String × Json))}
    (h : List.Forall₂ (Takes names) members taken) :
    ∃ trees, List.Forall₂ MemberText.HasTree members trees ∧ ∀ depth,
      readMembers? outline trees depth (flat names) = some taken.reduceOption := by
  induction h with
  | nil => exact ⟨[], .nil, fun _ => rfl⟩
  | @cons m field members taken first later ih =>
    obtain ⟨trees, each, read⟩ := ih
    cases field with
    | none =>
      obtain ⟨tree, here, skips⟩ := readMembers?_foreign first
      refine ⟨tree :: trees, .cons here each, fun depth => ?_⟩
      rw [skips, read, List.reduceOption_cons_of_none]
    | some field =>
      obtain ⟨key, v⟩ := field
      obtain ⟨known, scalar, rfl⟩ := first
      refine ⟨_, .cons (MemberText.hasTree_written key v) each, fun depth => ?_⟩
      rw [readMembers?_known known scalar (read depth), List.reduceOption_cons_of_some]

/-- A record is read from the text of an object that has some of its fields and any foreign members,
in whichever order they are. -/
theorem ofText?_objectText {own : List (String × Json)} {foreign members : List MemberText}
    (hown : ∀ field ∈ own, field.1 ∈ names ∧ field.2.IsScalar)
    (hforeign : ∀ m ∈ foreign, m.Foreign names)
    (perm : members.Perm (own.map .written ++ foreign)) :
    ∃ found, found.Perm own ∧ (flat names).ofText? (objectText members) = some (.object found) := by
  have takes : List.Forall₂ (Takes names) (own.map .written ++ foreign)
      (own.map some ++ foreign.map fun _ => none) := by
    apply List.rel_append
    · rw [List.forall₂_map_left_iff, List.forall₂_map_right_iff, List.forall₂_same]
      exact fun field h => ⟨(hown field h).1, (hown field h).2, rfl⟩
    · rw [List.forall₂_map_right_iff, List.forall₂_same]
      exact hforeign
  obtain ⟨taken, takes, same⟩ := List.perm_comp_forall₂ perm takes
  obtain ⟨trees, each, read⟩ := readMembers?_takes takes
  refine ⟨taken.reduceOption, ?_, ?_⟩
  · have fields : (own.map some ++ foreign.map fun _ => none).reduceOption = own := by
      simp [List.reduceOption]
    rw [← fields]
    exact same.filterMap id
  · rw [ofText?, Json.ofTextAs?, MemberText.ofText?_objectText each]
    simp only [Option.bind_eq_bind, Option.bind_some, Json.depthLimit, JsonText.read?, read,
      Option.map_some]

end Part

end DocumentQuery
