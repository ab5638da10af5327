import DocumentQuery.Proofs.Cursors
import DocumentQuery.Proofs.Segments

/-!
# Fields at dotted paths

A path writes a chain of keys with dots between them, and each path writes one chain only. So every
value that a chain leads to through nested maps is found at the path of the chain, unless the path
as a whole is the name of a field, which is found first.
-/

namespace DocumentQuery

/-- The path writes the keys, with dots between them. -/
structure Dotted (path : String) (keys : List String) : Prop where
  nonempty : keys ≠ []
  plain : ∀ key ∈ keys, '.' ∉ key.toList
  joined : ".".intercalate keys = path

lemma map_toList_fieldSegments (path : String) :
    (fieldSegments path).map String.toList = path.toList.splitOn '.' := by
  rw [fieldSegments, List.map_map]
  apply List.map_id''
  exact fun part => String.toList_ofList

lemma dotted_fieldSegments (path : String) : Dotted path (fieldSegments path) where
  nonempty := by
    intro empty
    exact List.splitOn_ne_nil '.' path.toList (List.map_eq_nil_iff.1 empty)
  plain := by
    intro key hkey
    have part : key.toList ∈ path.toList.splitOn '.' := by
      rw [← map_toList_fieldSegments]
      exact List.mem_map_of_mem hkey
    exact not_mem_of_mem_splitOn part
  joined := by
    apply String.toList_inj.1
    rw [String.toList_intercalate, map_toList_fieldSegments]
    exact List.intercalate_splitOn '.'

/-- Splitting at the dots gives the one chain of keys that a path writes. -/
theorem dotted_iff {path : String} {keys : List String} :
    Dotted path keys ↔ keys = fieldSegments path := by
  constructor
  · rintro ⟨nonempty, plain, rfl⟩
    have parts : (".".toList.intercalate (keys.map String.toList)).splitOn '.' =
        keys.map String.toList := by
      apply List.splitOn_intercalate '.'
      · simpa using plain
      · simpa using nonempty
    have texts : keys.map (String.ofList ∘ String.toList) = keys := by
      apply List.map_id''
      exact fun key => String.ofList_toList
    rw [fieldSegments, String.toList_intercalate, parts, List.map_map, texts]
  · rintro rfl
    exact dotted_fieldSegments path

namespace Row

variable {row : Row} {fields : Dictionary WireValue}

/-- A value is at a path as a field of that name or, if there is none, at the end of the chain of
keys that the path writes. -/
lemma get?_eq_some_iff_dotted (present : row.fields = some fields) {path : String}
    {v : WireValue} :
    row.get? path = some v ↔
      Dictionary.get? fields path = some v ∨
        Dictionary.get? fields path = none ∧
          ∃ keys, Dotted path keys ∧ Leads (.map fields) keys v := by
  rw [Row.get?_eq_some_iff]
  simp only [present, dotted_iff, Option.some.injEq, exists_eq_left', exists_eq_left]

/-- A value that a chain of keys leads to is found at the path of the chain, unless a field has the
path for its name, which is found instead. Nothing else is ever found. -/
theorem lookup_addresses_every_value (row : Row) :
    (row.fields = none → ∀ path, row.get? path = none) ∧
    ∀ fields : Dictionary WireValue, row.fields = some fields →
      (∀ path keys v, Dotted path keys → Leads (.map fields) keys v →
        row.get? path = some ((fields.get? path).getD v)) ∧
      (∀ path v, row.get? path = some v ↔
        fields.get? path = some v ∨
          fields.get? path = none ∧ ∃ keys, Dotted path keys ∧ Leads (.map fields) keys v) ∧
      (fields.Sorted → ∀ key v, (key, v) ∈ fields → row.get? key = some v) := by
  constructor
  · intro absent path
    rw [get?, absent]
  · intro fields present
    refine ⟨?_, fun path v => get?_eq_some_iff_dotted present, ?_⟩
    · intro path keys v dotted leads
      rw [get?_eq_some_iff_dotted present]
      cases named : Dictionary.get? fields path with
      | none => exact .inr ⟨rfl, keys, dotted, leads⟩
      | some w => exact .inl rfl
    · intro sorted key v member
      apply (get?_eq_some_iff_dotted present).2
      exact .inl ((Dictionary.get?_eq_some_iff sorted.keys_nodup).2 member)

/-- An order with an address, and with a total both nested and under a dotted name. -/
def dottedFields : Dictionary WireValue :=
  [("address", .map [("city", .string "Paris")]), ("o", .map [("total", .string "nested")]),
    ("o.total", .string "dotted")]

/-- A row of the fields. -/
def dottedRow (fields : Option (Dictionary WireValue)) : Row :=
  ⟨none, fields, none, none, none, "db"⟩

/-- The city is found in the address, and the total under its dotted name. -/
theorem lookup_addresses_every_value_dotted :
    Dotted "address.city" ["address", "city"] ∧
      Leads (.map dottedFields) ["address", "city"] (.string "Paris") ∧
      (dottedRow dottedFields).get? "address.city" = some (.string "Paris") ∧
      Dotted "o.total" ["o", "total"] ∧
      Leads (.map dottedFields) ["o", "total"] (.string "nested") ∧
      dottedFields.Sorted ∧
      (dottedRow dottedFields).get? "o.total" = some (.string "dotted") ∧
      (dottedRow none).get? "o.total" = none := by
  have city : Dotted "address.city" ["address", "city"] := ⟨nofun, by decide, by decide⟩
  have cityLeads : Leads (.map dottedFields) ["address", "city"] (.string "Paris") :=
    .into rfl (.into rfl (.here _))
  have total : Dotted "o.total" ["o", "total"] := ⟨nofun, by decide, by decide⟩
  have totalLeads : Leads (.map dottedFields) ["o", "total"] (.string "nested") :=
    .into rfl (.into rfl (.here _))
  have sorted : dottedFields.Sorted := by
    unfold dottedFields Dictionary.Sorted
    decide
  obtain ⟨chains, -, names⟩ :=
    (lookup_addresses_every_value (dottedRow dottedFields)).2 dottedFields rfl
  have absent := (lookup_addresses_every_value (dottedRow none)).1 rfl
  refine ⟨city, cityLeads, chains _ _ _ city cityLeads, total, totalLeads, sorted, ?_, absent _⟩
  exact names sorted "o.total" (.string "dotted") (by simp [dottedFields])

end Row

end DocumentQuery
