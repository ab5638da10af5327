import Mathlib.Tactic
import DocumentQuery.Wire.Native

/-!
# Native data as values

A shape expects something of a value and of the nodes inside it: items of lists, entries of
dictionaries, and whatever stands in place of a missing datum. Reading a value in a shape fails
exactly if some node has a kind that is not allowed where it stands. Otherwise the datum that is
read is written as the same value again, but for integers that have been widened to doubles; and
every datum is read back from the value that it is written as.
-/

namespace DocumentQuery

/-- The kinds of values. -/
inductive WireValue.Kind where
  | null
  | boolean
  | integer
  | double
  | timestamp
  | string
  | bytes
  | reference
  | geoPoint
  | array
  | map
  | fieldReference
  | function
  | pipeline
  deriving DecidableEq

def WireValue.kind : WireValue → Kind
  | .null => .null
  | .boolean _ => .boolean
  | .integer _ => .integer
  | .double _ => .double
  | .timestamp _ => .timestamp
  | .string _ => .string
  | .bytes _ => .bytes
  | .reference _ => .reference
  | .geoPoint _ => .geoPoint
  | .array _ => .array
  | .map _ => .map
  | .fieldReference _ => .fieldReference
  | .function _ _ => .function
  | .pipeline _ => .pipeline

namespace Shape

/-- Whether a shape is made of scalars, lists, dictionaries and options, references and whole values
being left out, and has no option directly inside an option. -/
def Plain : Shape → Prop
  | .bool | .integer | .double | .string | .timestamp | .geoPoint | .blob => True
  | .list item | .dictionary item => item.Plain
  | .optional item => item.Plain ∧ ∀ inner, item ≠ .optional inner
  | .value | .reference => False

/-- The kinds of values that a shape allows: an integer may stand for a double, and null for a
missing datum. -/
def Allows : Shape → WireValue.Kind → Prop
  | .value, _ => True
  | .bool, kind => kind = .boolean
  | .integer, kind => kind = .integer
  | .double, kind => kind = .double ∨ kind = .integer
  | .string, kind => kind = .string
  | .timestamp, kind => kind = .timestamp
  | .geoPoint, kind => kind = .geoPoint
  | .blob, kind => kind = .bytes
  | .reference, kind => kind = .reference
  | .list _, kind => kind = .array
  | .dictionary _, kind => kind = .map
  | .optional item, kind => kind = .null ∨ item.Allows kind

/-- Where a shape is expected of a value, another shape is expected of a node in it. -/
inductive Expects : Shape → WireValue → Shape → WireValue → Prop where
  | here (shape : Shape) (v : WireValue) : Expects shape v shape v
  | item {shape expected : Shape} {items : List WireValue} {v node : WireValue}
      (member : v ∈ items) (inside : Expects shape v expected node) :
      Expects (.list shape) (.array items) expected node
  | entry {shape expected : Shape} {entries : List (String × WireValue)} {key : String}
      {v node : WireValue} (member : (key, v) ∈ entries) (inside : Expects shape v expected node) :
      Expects (.dictionary shape) (.map entries) expected node
  | datum {shape expected : Shape} {v node : WireValue} (present : v.kind ≠ .null)
      (inside : Expects shape v expected node) : Expects (.optional shape) v expected node

/-- Some node of a value has a kind that is not allowed where it stands. -/
def Misfit (shape : Shape) (v : WireValue) : Prop :=
  ∃ expected node, Expects shape v expected node ∧ ¬expected.Allows node.kind

/-- The value with its integers widened where doubles are expected. -/
def widen : Shape → WireValue → WireValue
  | .double, .integer n => .double (.ofInt n.toInt)
  | .list item, .array items => .array (items.map item.widen)
  | .dictionary item, .map entries => .map (Dictionary.mapValues item.widen entries)
  | .optional item, v => item.widen v
  | _, v => v

/-! ### Reading all items -/

section ReadAll

variable {α β : Type} {read : α → Option β}

lemma readAll_cons (a : α) (rest : List α) :
    readAll read (a :: rest) = (read a).bind fun b => (readAll read rest).map (b :: ·) := by
  rw [readAll]
  cases read a <;> rfl

lemma readAll_eq_none_iff {items : List α} :
    readAll read items = none ↔ ∃ a ∈ items, read a = none := by
  induction items with
  | nil => simp [readAll]
  | cons a rest ih =>
    rw [readAll_cons]
    cases first : read a with
    | none => simp [first]
    | some b => simp [first, ih]

lemma readAll_map {write : β → α} (back : ∀ b, read (write b) = some b) (data : List β) :
    readAll read (data.map write) = some data := by
  induction data with
  | nil => rfl
  | cons b rest ih =>
    rw [List.map_cons, readAll_cons, back, ih]
    rfl

lemma map_of_readAll {γ : Type} {write : β → γ} {wide : α → γ} {items : List α} {data : List β}
    (each : ∀ a ∈ items, ∀ b, read a = some b → write b = wide a)
    (taken : readAll read items = some data) : data.map write = items.map wide := by
  induction items generalizing data with
  | nil =>
    cases taken
    rfl
  | cons a rest ih =>
    rw [readAll_cons] at taken
    obtain ⟨b, first, later⟩ := Option.bind_eq_some_iff.1 taken
    obtain ⟨more, others, rfl⟩ := Option.map_eq_some_iff.1 later
    have same : more.map write = rest.map wide :=
      ih (fun x hx => each x (List.mem_cons_of_mem _ hx)) others
    rw [List.map_cons, List.map_cons, same, each a List.mem_cons_self b first]

end ReadAll

/-! ### Kinds where they stand -/

variable {shape item : Shape} {v : WireValue}

/-- Whether a shape expects something of the value itself only. -/
def Scalar : Shape → Prop
  | .bool | .integer | .double | .string | .timestamp | .geoPoint | .blob => True
  | _ => False

lemma Scalar.misfit_iff (scalar : shape.Scalar) : Misfit shape v ↔ ¬shape.Allows v.kind := by
  constructor
  · rintro ⟨expected, node, inside, wrong⟩
    cases inside with
    | here => exact wrong
    | item | entry | datum => exact scalar.elim
  · intro wrong
    exact ⟨shape, v, .here shape v, wrong⟩

lemma misfit_list_iff : Misfit (.list item) v ↔
    v.kind ≠ .array ∨ ∃ items, v = .array items ∧ ∃ a ∈ items, Misfit item a := by
  constructor
  · rintro ⟨expected, node, inside, wrong⟩
    cases inside with
    | here => exact .inl wrong
    | item member inside => exact .inr ⟨_, rfl, _, member, expected, node, inside, wrong⟩
  · rintro (wrong | ⟨items, rfl, a, member, expected, node, inside, wrong⟩)
    · exact ⟨_, _, .here _ _, wrong⟩
    · exact ⟨expected, node, .item member inside, wrong⟩

lemma misfit_dictionary_iff : Misfit (.dictionary item) v ↔
    v.kind ≠ .map ∨ ∃ entries, v = .map entries ∧ ∃ e ∈ entries, Misfit item e.2 := by
  constructor
  · rintro ⟨expected, node, inside, wrong⟩
    cases inside with
    | here => exact .inl wrong
    | entry member inside => exact .inr ⟨_, rfl, _, member, expected, node, inside, wrong⟩
  · rintro (wrong | ⟨entries, rfl, ⟨key, a⟩, member, expected, node, inside, wrong⟩)
    · exact ⟨_, _, .here _ _, wrong⟩
    · exact ⟨expected, node, .entry member inside, wrong⟩

lemma misfit_optional_iff : Misfit (.optional item) v ↔ v.kind ≠ .null ∧ Misfit item v := by
  constructor
  · rintro ⟨expected, node, inside, wrong⟩
    cases inside with
    | here =>
      obtain ⟨present, wrong⟩ := not_or.1 wrong
      exact ⟨present, item, v, .here item v, wrong⟩
    | datum present inside => exact ⟨present, expected, node, inside, wrong⟩
  · rintro ⟨present, expected, node, inside, wrong⟩
    exact ⟨expected, node, .datum present inside, wrong⟩

lemma Scalar.read?_eq_none_iff (scalar : shape.Scalar) :
    shape.read? v = none ↔ Misfit shape v := by
  rw [scalar.misfit_iff]
  cases shape with
  | value | reference | list | optional | dictionary => exact scalar.elim
  | _ => cases v <;> simp [read?, Allows, WireValue.kind]

lemma read?_list_eq_none_iff : (Shape.list item).read? v = none ↔
    v.kind ≠ .array ∨ ∃ items, v = .array items ∧ ∃ a ∈ items, item.read? a = none := by
  cases v with
  | array items => simp [read?, WireValue.kind, readAll_eq_none_iff]
  | _ => simp [read?, WireValue.kind]

lemma read?_dictionary_eq_none_iff : (Shape.dictionary item).read? v = none ↔
    v.kind ≠ .map ∨ ∃ entries, v = .map entries ∧ ∃ e ∈ entries, item.read? e.2 = none := by
  cases v with
  | map entries => simp [read?, WireValue.kind, readAll_eq_none_iff]
  | _ => simp [read?, WireValue.kind]

lemma read?_optional (item : Shape) (v : WireValue) : (Shape.optional item).read? v =
    if v.kind = .null then some none else (item.read? v).map some := by
  cases v <;> rfl

/-- A value cannot be read exactly if a node of it does not fit. -/
theorem read?_eq_none_iff (plain : shape.Plain) : shape.read? v = none ↔ Misfit shape v := by
  induction shape generalizing v with
  | value | reference => exact plain.elim
  | bool | integer | double | string | timestamp | geoPoint | blob =>
    exact Scalar.read?_eq_none_iff trivial
  | list item ih =>
    rw [read?_list_eq_none_iff, misfit_list_iff]
    simp only [ih plain]
  | dictionary item ih =>
    rw [read?_dictionary_eq_none_iff, misfit_dictionary_iff]
    simp only [ih plain]
  | optional item ih =>
    rw [read?_optional, misfit_optional_iff, ← ih plain.1]
    split_ifs with missing
    · simp [missing]
    · simp [missing]

/-! ### Writing and reading -/

/-- Only a missing datum is written as null, so nothing under an option is lost. -/
lemma encode_kind (plain : shape.Plain) (present : ∀ item, shape ≠ .optional item)
    (x : shape.Native) : (shape.encode x).kind ≠ .null := by
  cases shape with
  | value | reference => exact plain.elim
  | optional item => exact absurd rfl (present item)
  | _ => exact WireValue.Kind.noConfusion

/-- Every datum is read back from its value. -/
theorem read?_encode (plain : shape.Plain) (x : shape.Native) :
    shape.read? (shape.encode x) = some x := by
  induction shape with
  | value | reference => exact plain.elim
  | bool | integer | double | string | timestamp | geoPoint | blob => rfl
  | list item ih => exact readAll_map (ih plain) x
  | dictionary item ih =>
    refine readAll_map (fun entry => ?_) x
    change (item.read? (item.encode entry.2)).map _ = _
    rw [ih plain, Option.map_some]
  | optional item ih =>
    cases x with
    | none => rfl
    | some a =>
      rw [encode, read?_optional, if_neg (encode_kind plain.1 plain.2 a), ih plain.1,
        Option.map_some]

lemma widen_null (shape : Shape) : shape.widen .null = .null := by
  induction shape with
  | optional item ih => exact ih
  | _ => rfl

/-- What is read is written as the value that it was read from, but for widened integers. -/
theorem encode_of_read? (plain : shape.Plain) {x : shape.Native} (taken : shape.read? v = some x) :
    shape.encode x = shape.widen v := by
  induction shape generalizing v with
  | value | reference => exact plain.elim
  | bool | integer | double | string | timestamp | geoPoint | blob =>
    cases v <;> cases taken <;> rfl
  | list item ih =>
    cases v with
    | array items =>
      exact congrArg WireValue.array (map_of_readAll (fun a _ b => ih plain) taken)
    | _ => cases taken
  | dictionary item ih =>
    cases v with
    | map entries =>
      refine congrArg WireValue.map (map_of_readAll (fun a _ b found => ?_) taken)
      obtain ⟨datum, read, rfl⟩ := Option.map_eq_some_iff.1 found
      exact congrArg (Prod.mk a.1) (ih plain read)
    | _ => cases taken
  | optional item ih =>
    rw [read?_optional] at taken
    split_ifs at taken with missing
    · cases v <;> cases missing
      cases taken
      exact (widen_null item).symm
    · obtain ⟨a, read, rfl⟩ := Option.map_eq_some_iff.1 taken
      exact ih plain.1 read

/-- A datum is read back from its value. A value cannot be read in a shape exactly if a node in
it has a kind that is not allowed there; otherwise what is read is written as the value again,
widened. -/
theorem native_values_survive (plain : shape.Plain) :
    (∀ x, shape.read? (shape.encode x) = some x) ∧
    (∀ v, shape.read? v = none ↔
      ∃ expected node, Expects shape v expected node ∧ ¬expected.Allows node.kind) ∧
    ∀ v x, shape.read? v = some x → shape.encode x = shape.widen v :=
  ⟨read?_encode plain, fun _ => read?_eq_none_iff plain, fun _ _ => encode_of_read? plain⟩

/-- Lists of ratings, some of them missing: an integer may stand for a rating, a text may not. -/
theorem native_values_survive_ratings :
    let ratings : Shape := .dictionary (.list (.optional .double))
    let data : ratings.Native := [("b1", [some .nan, none])]
    ratings.Plain ∧ ratings.read? (ratings.encode data) = some data ∧
      ratings.read? (.map [("b1", .array [.null, .string "good"])]) = none ∧
      ∃ x, ratings.read? (.map [("b1", .array [.integer 4, .null])]) = some x ∧
        ratings.encode x = .map [("b1", .array [.double (.ofInt 4), .null])] := by
  intro ratings data
  have plain : ratings.Plain := ⟨trivial, nofun⟩
  obtain ⟨back, refused, written⟩ := native_values_survive plain
  have text : Expects ratings (.map [("b1", .array [.null, .string "good"])]) .double
      (.string "good") :=
    .entry List.mem_cons_self
      (.item (List.mem_cons_of_mem _ List.mem_cons_self)
        (.datum WireValue.Kind.noConfusion (.here _ _)))
  have wrong : ¬Allows .double (WireValue.string "good").kind := by
    simp [Allows, WireValue.kind]
  have taken : ratings.read? (.map [("b1", .array [.integer 4, .null])]) =
      some [("b1", [some (.ofInt 4), none])] := rfl
  exact ⟨plain, back data, (refused _).2 ⟨_, _, text, wrong⟩, _, taken, written _ _ taken⟩

end Shape

end DocumentQuery
