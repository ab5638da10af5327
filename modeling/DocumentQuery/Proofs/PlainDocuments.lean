import DocumentQuery.Proofs.Acceptance
import DocumentQuery.Proofs.BuiltStages
import DocumentQuery.Proofs.DocumentRoundTrip

/-!
# Plain documents and the values that have them as views

A plain document is read as a value member by member, and the view of a value is a plain document.
On documents whose members stand in the order of their keys, and on the values that are made of
scalars, arrays and maps, the two undo each other; whole and fractional numbers are kept apart. Only
an integer that is too large for a value cannot be read.
-/

namespace DocumentQuery

namespace WireValue

/-- Values made of null, booleans, integers, finite doubles, texts, arrays and maps. -/
inductive Plain : WireValue → Prop where
  | null : Plain .null
  | boolean (b : Bool) : Plain (.boolean b)
  | integer (n : Int64) : Plain (.integer n)
  | double (x : FiniteDouble) : Plain (.double (.finite x))
  | string (s : String) : Plain (.string s)
  | array {items : List WireValue} (each : ∀ v ∈ items, Plain v) : Plain (.array items)
  | map {entries : List (String × WireValue)} (each : ∀ e ∈ entries, Plain e.2) :
      Plain (.map entries)

lemma allSorted_iff {items : List WireValue} : AllSorted items ↔ ∀ v ∈ items, v.Sorted := by
  induction items with
  | nil => simp [AllSorted]
  | cons v rest ih => simp [AllSorted, ih]

lemma entriesSorted_iff {entries : List (String × WireValue)} :
    EntriesSorted entries ↔ ∀ e ∈ entries, e.2.Sorted := by
  induction entries with
  | nil => simp [EntriesSorted]
  | cons e rest ih => simp [EntriesSorted, ih]

lemma viewItems_eq_map (items : List WireValue) : viewItems items = items.map view := by
  induction items with
  | nil => rfl
  | cons v rest ih => rw [viewItems, ih, List.map_cons]

lemma viewEntries_eq_map (entries : List (String × WireValue)) :
    viewEntries entries = entries.map fun e => (e.1, e.2.view) := by
  induction entries with
  | nil => rfl
  | cons e rest ih => rw [viewEntries, ih, List.map_cons]

lemma viewEntries_sorted {entries : Dictionary WireValue} :
    Dictionary.Sorted (viewEntries entries) ↔ entries.Sorted := by
  rw [viewEntries_eq_map, Dictionary.Sorted, List.pairwise_map, Dictionary.Sorted]

lemma key_mem_viewEntries {entries : Dictionary WireValue} {e : String × WireValue}
    (member : e ∈ entries) : (e.1, e.2.view) ∈ viewEntries entries := by
  rw [viewEntries_eq_map]
  exact List.mem_map_of_mem member

end WireValue

/-- A whole number that is read as a value is an integer of the same amount. -/
lemma WholeNumber.toValue_ok {n : WholeNumber} {v : WireValue} (taken : n.toValue = .ok v) :
    ∃ i, v = .integer i ∧ WholeNumber.ofInt64 i = n := by
  unfold toValue toInt64? at taken
  split_ifs at taken with small
  cases taken
  refine ⟨_, rfl, ?_⟩
  have least := n.inRange.1
  have amount : (Int64.ofInt n.value).toInt = n.value :=
    Int64.toInt_ofInt_of_le (by omega) (by omega)
  rw [WholeNumber.mk.injEq]
  exact amount

namespace WireValue

/-! ### From documents to values and back -/

mutual

/-- What is read from a document has the document as its view. -/
lemma view_of_ofPlain {d : Json} (ordered : d.InKeyOrder) {v : WireValue}
    (taken : ofPlain d = .ok v) : v.view = d ∧ v.Plain ∧ v.Sorted := by
  cases d with
  | null =>
    cases taken
    exact ⟨rfl, .null, trivial⟩
  | bool b =>
    cases taken
    exact ⟨rfl, .boolean b, trivial⟩
  | whole n =>
    obtain ⟨i, rfl, same⟩ := WholeNumber.toValue_ok taken
    exact ⟨congrArg Json.whole same, .integer i, trivial⟩
  | fractional x =>
    cases taken
    exact ⟨rfl, .double x, trivial⟩
  | string s =>
    cases taken
    exact ⟨rfl, .string s, trivial⟩
  | array items =>
    rw [Json.InKeyOrder] at ordered
    rw [ofPlain] at taken
    obtain ⟨vs, read, rfl⟩ := map_eq_ok_iff.1 taken
    obtain ⟨same, plain, sorted⟩ := WireValue.viewItems_of_ofPlainItems ordered read
    exact ⟨congrArg Json.array same, .array plain, sorted⟩
  | object members =>
    rw [Json.InKeyOrder] at ordered
    rw [ofPlain] at taken
    obtain ⟨entries, read, rfl⟩ := map_eq_ok_iff.1 taken
    obtain ⟨same, plain, sorted⟩ :=
      WireValue.viewEntries_of_ofPlainMembers ordered.1 ordered.2 read
    exact ⟨congrArg Json.object same, .map plain, viewEntries_sorted.1 (same ▸ ordered.1), sorted⟩

lemma viewItems_of_ofPlainItems {items : List Json} (ordered : Json.AllInKeyOrder items)
    {vs : List WireValue} (taken : ofPlainItems items = .ok vs) :
    viewItems vs = items ∧ (∀ v ∈ vs, v.Plain) ∧ AllSorted vs := by
  cases items with
  | nil =>
    cases taken
    exact ⟨rfl, nofun, trivial⟩
  | cons item rest =>
    rw [Json.AllInKeyOrder] at ordered
    rw [ofPlainItems_cons_eq] at taken
    obtain ⟨v, first, later⟩ := bind_eq_ok_iff.1 taken
    obtain ⟨more, others, rfl⟩ := map_eq_ok_iff.1 later
    obtain ⟨same, plain, sorted⟩ := WireValue.view_of_ofPlain ordered.1 first
    obtain ⟨same', plain', sorted'⟩ := WireValue.viewItems_of_ofPlainItems ordered.2 others
    refine ⟨?_, List.forall_mem_cons.2 ⟨plain, plain'⟩, sorted, sorted'⟩
    rw [viewItems, same, same']

lemma viewEntries_of_ofPlainMembers {members : Dictionary Json} (sorted : members.Sorted)
    (ordered : Json.MembersInKeyOrder members) {entries : List (String × WireValue)}
    (taken : ofPlainMembers members = .ok entries) :
    viewEntries entries = members ∧ (∀ e ∈ entries, e.2.Plain) ∧ EntriesSorted entries := by
  cases members with
  | nil =>
    cases taken
    exact ⟨rfl, nofun, trivial⟩
  | cons member rest =>
    obtain ⟨least, sorted⟩ := List.pairwise_cons.1 sorted
    rw [Json.MembersInKeyOrder] at ordered
    rw [ofPlainMembers_cons_eq] at taken
    obtain ⟨v, first, later⟩ := bind_eq_ok_iff.1 taken
    obtain ⟨more, others, rfl⟩ := map_eq_ok_iff.1 later
    obtain ⟨same, plain, deep⟩ := WireValue.view_of_ofPlain ordered.1 first
    obtain ⟨same', plain', deep'⟩ :=
      WireValue.viewEntries_of_ofPlainMembers sorted ordered.2 others
    -- The keys of the later entries are those of the later members, so the new entry comes first.
    have least' : ∀ e ∈ more, member.1 < e.1 := by
      intro e he
      have found := key_mem_viewEntries he
      rw [same'] at found
      exact least _ found
    rw [Dictionary.insertNew_of_lt least']
    refine ⟨?_, List.forall_mem_cons.2 ⟨plain, plain'⟩, deep, deep'⟩
    rw [viewEntries, same, same']

end

lemma ofPlainItems_viewItems {items : List WireValue}
    (each : ∀ v ∈ items, ofPlain v.view = .ok v) :
    ofPlainItems (viewItems items) = .ok items := by
  induction items with
  | nil => rfl
  | cons v rest ih =>
    obtain ⟨first, others⟩ := List.forall_mem_cons.1 each
    rw [viewItems, ofPlainItems_cons_eq, bind_eq_ok_iff]
    exact ⟨v, first, map_eq_ok_iff.2 ⟨rest, ih others, rfl⟩⟩

lemma ofPlainMembers_viewEntries {entries : Dictionary WireValue} (sorted : entries.Sorted)
    (each : ∀ e ∈ entries, ofPlain e.2.view = .ok e.2) :
    ofPlainMembers (viewEntries entries) = .ok entries := by
  induction entries with
  | nil => rfl
  | cons e rest ih =>
    obtain ⟨least, sorted⟩ := List.pairwise_cons.1 sorted
    obtain ⟨first, others⟩ := List.forall_mem_cons.1 each
    rw [viewEntries, ofPlainMembers_cons_eq, bind_eq_ok_iff]
    refine ⟨e.2, first, map_eq_ok_iff.2 ⟨rest, ih sorted others, ?_⟩⟩
    exact (Dictionary.insertNew_of_lt least).symm

/-- A plain value is read from its view. -/
lemma Plain.ofPlain_view {v : WireValue} (plain : v.Plain) (sorted : v.Sorted) :
    ofPlain v.view = .ok v := by
  induction plain with
  | null | boolean | double | string => rfl
  | integer n =>
    rw [view, Json.ofInt64, ofPlain, WholeNumber.toValue, WholeNumber.toInt64?_ofInt64]
  | array _ ih =>
    rw [Sorted, allSorted_iff] at sorted
    rw [view, ofPlain, ofPlainItems_viewItems fun v hv => ih v hv (sorted v hv)]
    rfl
  | map _ ih =>
    rw [Sorted, entriesSorted_iff] at sorted
    rw [view, ofPlain,
      ofPlainMembers_viewEntries sorted.1 fun e he => ih e he (sorted.2 e he)]
    rfl

/-- The view of a plain value has its members in the order of their keys. -/
lemma Plain.inKeyOrder_view {v : WireValue} (plain : v.Plain) (sorted : v.Sorted) :
    v.view.InKeyOrder := by
  induction plain with
  | null | boolean | double | string | integer => trivial
  | array _ ih =>
    rw [Sorted, allSorted_iff] at sorted
    rw [view, Json.InKeyOrder, Json.allInKeyOrder_iff, viewItems_eq_map, List.forall_mem_map]
    intro v hv
    exact ih v hv (sorted v hv)
  | map _ ih =>
    rw [Sorted, entriesSorted_iff] at sorted
    rw [view, Json.InKeyOrder, Json.membersInKeyOrder_iff]
    refine ⟨viewEntries_sorted.2 sorted.1, ?_⟩
    rw [viewEntries_eq_map, List.forall_mem_map]
    intro e he
    exact ih e he (sorted.2 e he)

/-- A document is refused with an integer in it that is too large. -/
lemma ofJson_error {d : Json} {e : BuildError} (refused : ofJson d = .error e) :
    ∃ n ∈ d.normalize.wholes, maxInteger < n.value ∧ e = .tooLarge n.value := by
  have first := (ofPlain_reports d.normalize).error e refused
  obtain ⟨n, member, fault⟩ := List.mem_flatMap.1 (List.mem_of_mem_head? first)
  unfold WholeNumber.faults at fault
  split_ifs at fault with fits
  · cases fault
  · exact ⟨n, member, not_le.1 fits, List.mem_singleton.1 fault⟩

lemma exists_ofJson_error_iff {d : Json} :
    (∃ e, ofJson d = .error e) ↔ ∃ n ∈ d.normalize.wholes, maxInteger < n.value := by
  constructor
  · rintro ⟨e, refused⟩
    obtain ⟨n, member, large, -⟩ := ofJson_error refused
    exact ⟨n, member, large⟩
  · rintro ⟨n, member, large⟩
    cases taken : ofJson d with
    | error e => exact ⟨e, rfl⟩
    | ok v =>
      have sound := ((ofPlain_reports d.normalize).ok v taken).1
      have fits := WholeNumber.faults_eq_nil.1 (List.flatMap_eq_nil_iff.1 sound n member)
      omega

/-- Reading a document fails exactly if it holds an integer that no value can be; otherwise the
value has the document, ordered by its keys, as its view. Every plain value is read from its
view. -/
theorem plain_documents_correspond (d : Json) :
    d.normalize.InKeyOrder ∧ (d.InKeyOrder → d.normalize = d) ∧
    ((∃ e, ofJson d = .error e) ↔
      ∃ n ∈ d.normalize.wholes, maxInteger < n.value ∧ n.value ≤ 18446744073709551615) ∧
    (∀ e, ofJson d = .error e →
      ∃ n ∈ d.normalize.wholes, maxInteger < n.value ∧ e = .tooLarge n.value) ∧
    (∀ v, ofJson d = .ok v → v.view = d.normalize ∧ v.Plain ∧ v.Sorted) ∧
    ∀ v : WireValue, v.Plain → v.Sorted → ofJson v.view = .ok v := by
  refine ⟨Json.inKeyOrder_normalize d, Json.normalize_of_inKeyOrder, ?_,
    fun e => ofJson_error, ?_, ?_⟩
  · rw [exists_ofJson_error_iff]
    refine exists_congr fun n => and_congr_right fun _ => ?_
    have fits : n.value < 18446744073709551616 := n.inRange.2
    omega
  · intro v taken
    exact view_of_ofPlain (Json.inKeyOrder_normalize d) taken
  · intro v plain sorted
    rw [ofJson, Json.normalize_of_inKeyOrder (plain.inKeyOrder_view sorted)]
    exact plain.ofPlain_view sorted

/-- A repeated key counts once, and a negative zero and a whole number stay what they are; the least
integer that is too large is refused inside an array. -/
theorem plain_documents_correspond_ratings :
    let zero : Json := .fractional (.zero true)
    let ratings : Json :=
      .object [("b", .array [.ofInt64 4, zero]), ("a", .null), ("a", .bool true)]
    let large : WholeNumber := ⟨9223372036854775808, by decide⟩
    (∃ v, ofJson ratings = .ok v ∧
      v.view = .object [("a", .bool true), ("b", .array [.ofInt64 4, zero])] ∧
      ofJson v.view = .ok v) ∧
    ∃ e, ofJson (.array [zero, .array [.whole large]]) = .error e := by
  intro zero ratings large
  have taken : ofJson ratings = .ok (.map
      [("a", .boolean true), ("b", .array [.integer 4, .double (.finite (.zero true))])]) := by
    rfl
  obtain ⟨-, -, -, -, viewed, back⟩ := plain_documents_correspond ratings
  obtain ⟨same, plain, sorted⟩ := viewed _ taken
  obtain ⟨-, -, refused, -⟩ := plain_documents_correspond (.array [zero, .array [.whole large]])
  refine ⟨⟨_, taken, same.trans rfl, back _ plain sorted⟩, refused.2 ⟨large, ?_, ?_⟩⟩
  · exact List.mem_cons_self
  · decide

end WireValue

end DocumentQuery
