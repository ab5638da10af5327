import DocumentQuery.Config
import DocumentQuery.Proofs.Arrangement
import DocumentQuery.Proofs.ObjectText

/-!
# Configurations are read from texts

The text of a configuration has all its fields. A text that was not written for one may leave fields
out and have members that no configuration has, at any place: those fields have their defaults, and
those members do not count. Validity is a matter of two of the fields, each by itself, and the
defaults are valid, so leaving fields out keeps a configuration valid.
-/

namespace DocumentQuery

@[simp] lemma Severity.ofDocument?_toDocument (s : Severity) :
    Severity.ofDocument? s.toDocument = some s := by
  cases s <;> rfl

namespace ExecutorConfig

variable {c : ExecutorConfig} {kept : String → Bool} {found : List (String × Json)}

/-- The fields of a configuration, in the order of its document. -/
def members (c : ExecutorConfig) : List (String × Json) :=
  [("database", .string c.database), ("stream_buffer", .ofNat c.streamBuffer.toNat),
    ("log_level", c.logLevel.toDocument), ("log_requests", .bool c.logRequests)]

/-- The configuration with the fields that are kept, and with the defaults of the others. -/
def restrict (c : ExecutorConfig) (kept : String → Bool) : ExecutorConfig :=
  let standard : ExecutorConfig := {}
  { database := if kept "database" then c.database else standard.database
    streamBuffer := if kept "stream_buffer" then c.streamBuffer else standard.streamBuffer
    logLevel := if kept "log_level" then c.logLevel else standard.logLevel
    logRequests := if kept "log_requests" then c.logRequests else standard.logRequests }

/-! ### Validity -/

/-- A valid configuration names a database and has room for a row. -/
lemma validate_eq_ok_iff :
    c.validate = .ok () ↔ isBlankText c.database = false ∧ 0 < c.streamBuffer := by
  have positive : 0 < c.streamBuffer ↔ c.streamBuffer ≠ 0 := UInt64.pos_iff_ne_zero
  unfold validate
  rw [positive]
  split_ifs with blank empty
  · simp [blank]
  · simp [empty]
  · simp [blank, empty]

lemma validate_restrict (valid : c.validate = .ok ()) (kept : String → Bool) :
    (c.restrict kept).validate = .ok () := by
  have standard : isBlankText ({} : ExecutorConfig).database = false ∧
      0 < ({} : ExecutorConfig).streamBuffer := by decide
  rw [validate_eq_ok_iff] at valid ⊢
  unfold restrict
  dsimp only
  constructor
  · split_ifs
    · exact valid.1
    · exact standard.1
  · split_ifs
    · exact valid.2
    · exact standard.2

/-- Only valid configurations are read. -/
lemma validate_of_ofText {text : String} (h : ofText text = .ok c) : c.validate = .ok () := by
  unfold ofText at h
  split at h
  · cases h
  · rename_i config _
    cases valid : config.validate with
    | error fault =>
      rw [valid] at h
      cases h
    | ok =>
      rw [valid] at h
      cases h
      exact valid

/-! ### Fields -/

lemma ofNat_toNat (n : UInt64) :
    ∃ whole : WholeNumber, Json.ofNat n.toNat = .whole whole ∧ whole.value = n.toNat := by
  have fits : FitsWord (n.toNat : Int) := by
    have := n.toNat_lt
    constructor <;> omega
  exact ⟨⟨n.toNat, fits⟩, by rw [Json.ofNat, Json.ofInt, dif_pos fits], rfl⟩

lemma word?_ofNat (n : UInt64) : word? (.ofNat n.toNat) = some n := by
  obtain ⟨whole, same, value⟩ := ofNat_toNat n
  rw [same, word?, value, if_pos (Int.natCast_nonneg _), Int.toNat_natCast, UInt64.ofNat_toNat]

lemma members_distinct (c : ExecutorConfig) : (c.members.map Prod.fst).Nodup := by
  have names : fieldNames.Nodup := by decide
  exact names

lemma members_scalar : ∀ field ∈ c.members, field.1 ∈ fieldNames ∧ field.2.IsScalar := by
  obtain ⟨whole, same, -⟩ := ofNat_toNat c.streamBuffer
  simp [members, fieldNames, same, Severity.toDocument, Json.IsScalar]

lemma defaulted?_ite {α : Type} {default a : α} {read : Json → Option α} {v : Json}
    {present : Bool} (h : read v = some a) :
    defaulted? default read (if present then some v else none) =
      some (if present then a else default) := by
  cases present
  · rfl
  · exact h

/-- A configuration is read from the fields that are kept. -/
lemma ofDocument?_kept (perm : found.Perm (c.members.filter (kept ·.1))) :
    ofDocument? (.object found) = some (c.restrict kept) := by
  have fields : ExecutorConfig.fields? (.object found) =
      some (c.members.map fun field => if kept field.1 then some field.2 else none) :=
    Json.fields?_kept c.members_distinct perm
  have database : Json.string? (.string c.database) = some c.database := rfl
  have logRequests : Json.bool? (.bool c.logRequests) = some c.logRequests := rfl
  rw [ofDocument?, fields]
  simp only [members, List.map_cons, List.map_nil, defaulted?_ite database,
    defaulted?_ite (word?_ofNat _), defaulted?_ite (Severity.ofDocument?_toDocument _),
    defaulted?_ite logRequests]
  rfl

/-! ### Texts -/

lemma ofText_of_found {text : String} (valid : c.validate = .ok ())
    (read : part.ofText? text = some (.object found))
    (perm : found.Perm (c.members.filter (kept ·.1))) : ofText text = .ok (c.restrict kept) := by
  have config : (part.ofText? text).bind ofDocument? = some (c.restrict kept) := by
    rw [read, Option.bind_some, ofDocument?_kept perm]
  rw [ofText, config]
  dsimp only
  rw [validate_restrict valid]
  rfl

/-- Fields may be left out, foreign members may be added, and the order is free. -/
lemma ofText_objectText (valid : c.validate = .ok ()) (kept : String → Bool)
    {foreign entries : List MemberText} (hforeign : ∀ m ∈ foreign, m.Foreign fieldNames)
    (perm : entries.Perm ((c.members.filter (kept ·.1)).map .written ++ foreign)) :
    ofText (objectText entries) = .ok (c.restrict kept) := by
  have own : ∀ field ∈ c.members.filter (kept ·.1), field.1 ∈ fieldNames ∧ field.2.IsScalar :=
    fun field h => c.members_scalar field (List.mem_of_mem_filter h)
  obtain ⟨found, order, read⟩ := Part.ofText?_objectText own hforeign perm
  exact ofText_of_found valid read order

/-- A document may have fields left out and other members added. -/
lemma ofText_document (valid : c.validate = .ok ()) (kept : String → Bool)
    {added members : List (String × Json)} (other : ∀ member ∈ added, member.1 ∉ fieldNames)
    (perm : members.Perm (c.members.filter (kept ·.1) ++ added)) :
    ofText (Json.object members).toText = .ok (c.restrict kept) := by
  have foreign : ∀ m ∈ added.map MemberText.written, m.Foreign fieldNames := by
    intro m h
    obtain ⟨member, hmember, rfl⟩ := List.mem_map.1 h
    exact MemberText.foreign_written (other member hmember)
  have entries := perm.map MemberText.written
  rw [List.map_append] at entries
  rw [MemberText.toText_object]
  exact ofText_objectText valid kept foreign entries

lemma ofText_toText (valid : c.validate = .ok ()) : ofText c.toText = .ok c := by
  have all : c.members.Perm ((c.members.filter fun _ => true) ++ []) := by
    rw [List.filter_true, List.append_nil]
  exact ofText_document valid (fun _ => true) (by simp) all

/-- A valid configuration is read back from its text. Fields that are left out have their defaults,
added members and their order do not matter, and only valid configurations are ever read. -/
theorem configurations_survive_as_texts :
    (∀ c : ExecutorConfig,
      (c.validate = .ok () ↔ isBlankText c.database = false ∧ 0 < c.streamBuffer) ∧
      (c.validate = .ok () →
        ofText c.toText = .ok c ∧
        ∀ kept : String → Bool,
          (∀ added members : List (String × Json), (∀ member ∈ added, member.1 ∉ fieldNames) →
            members.Perm (c.members.filter (kept ·.1) ++ added) →
            ofText (Json.object members).toText = .ok (c.restrict kept)) ∧
          ∀ foreign entries : List MemberText, (∀ m ∈ foreign, m.Foreign fieldNames) →
            entries.Perm ((c.members.filter (kept ·.1)).map .written ++ foreign) →
            ofText (objectText entries) = .ok (c.restrict kept))) ∧
    ∀ (text : String) (c : ExecutorConfig), ofText text = .ok c → c.validate = .ok () := by
  refine ⟨fun c => ⟨validate_eq_ok_iff, fun valid => ⟨ofText_toText valid, fun kept => ?_⟩⟩, ?_⟩
  · constructor
    · exact fun added members other perm => ofText_document valid kept other perm
    · exact fun foreign entries hforeign perm => ofText_objectText valid kept hforeign perm
  · exact fun text c read => validate_of_ofText read

/-- A configuration whose database has quotes, a control character and an astral one in its name,
and the largest buffer. -/
def roomyConfig : ExecutorConfig := ⟨"a \"b\"\x01 😀", 18446744073709551615, .warn, true⟩

/-- A member with an escaped key and a value that is no document, and one with a capital in its
key. -/
def strayMembers : List MemberText :=
  [⟨"\"\\u0041ge\" ", " \x7b\"deep\":[1e999,\"\\ud800\"]\x7d "⟩, ⟨"\"Database\"", "-0"⟩]

/-- The text of the configuration without its level, and with a stray member at either end. -/
def strayText : String :=
  "\x7b\"\\u0041ge\" : \x7b\"deep\":[1e999,\"\\ud800\"]\x7d ," ++
    "\"database\":\"a \\\"b\\\"\\u0001 😀\",\"stream_buffer\":18446744073709551615," ++
    "\"log_requests\":true,\"Database\":-0\x7d"

theorem configurations_survive_as_texts_stray :
    roomyConfig.validate = .ok () ∧ (∀ m ∈ strayMembers, m.Foreign fieldNames) ∧
    ofText strayText = .ok { roomyConfig with logLevel := .info } ∧
    ofText (Json.object (("Database", .array [.null]) :: roomyConfig.members)).toText =
      .ok roomyConfig := by
  have valid : roomyConfig.validate = .ok () := validate_eq_ok_iff.2 ⟨by decide, by decide⟩
  have foreign : ∀ m ∈ strayMembers, m.Foreign fieldNames := by decide +kernel
  have read := ((configurations_survive_as_texts.1 roomyConfig).2 valid).2
  let own := (roomyConfig.members.filter (·.1 ≠ "log_level")).map MemberText.written
  have text : objectText (strayMembers.take 1 ++ own ++ strayMembers.drop 1) = strayText := by
    decide +kernel
  refine ⟨valid, foreign, ?_, ?_⟩
  · rw [← text]
    exact (read (· ≠ "log_level")).2 strayMembers _ foreign List.perm_middle.symm
  · exact (read fun _ => true).1 [("Database", .array [.null])] _ (by decide)
      (List.perm_append_singleton _ roomyConfig.members).symm

end ExecutorConfig

end DocumentQuery
