import Mathlib.Tactic
import DocumentQuery.Wire.Reading

/-!
# The order of the members of a document

A document comes in two orders: that in which its members are written, and that of their keys. Maps
are sorted, so both orders agree on them; the records are read by the names of their fields, so
their order is immaterial as long as no name is repeated.
-/

namespace DocumentQuery

namespace Dictionary

variable {α : Type}

@[simp] lemma sorted_singleton (entry : String × α) : Sorted [entry] :=
  List.pairwise_singleton _ _

lemma sorted_pair {k l : String} (h : k < l) (v w : α) : Sorted [(k, v), (l, w)] :=
  List.pairwise_pair.2 h

lemma Sorted.keys_nodup {entries : Dictionary α} (sorted : entries.Sorted) :
    (entries.map Prod.fst).Nodup :=
  List.pairwise_map.2 (sorted.imp fun before => String.ne_of_lt before)

/-- The order of the keys leaves one way to arrange the entries. -/
lemma Sorted.eq_of_perm {entries others : Dictionary α} (sorted : entries.Sorted)
    (sorted' : others.Sorted) (perm : entries.Perm others) : entries = others := by
  refine List.Perm.eq_of_pairwise ?_ sorted sorted' perm
  intro a b _ _ before after
  exact absurd (String.lt_trans before after) (String.lt_irrefl a.1)

lemma insertNew_of_lt {key : String} {value : α} {entries : Dictionary α}
    (h : ∀ e ∈ entries, key < e.1) : insertNew key value entries = (key, value) :: entries := by
  cases entries with
  | nil => rfl
  | cons e rest =>
    obtain ⟨k, v⟩ := e
    rw [insertNew, if_pos (h (k, v) (by simp))]

lemma mem_insertNew {key : String} {value : α} {entries : Dictionary α} {e : String × α}
    (h : e ∈ insertNew key value entries) : e = (key, value) ∨ e ∈ entries := by
  induction entries with
  | nil => exact .inl (List.mem_singleton.1 h)
  | cons entry rest ih =>
    unfold insertNew at h
    split_ifs at h
    · exact List.mem_cons.1 h
    · exact .inr h
    · rcases List.mem_cons.1 h with rfl | later
      · exact .inr (List.mem_cons_self ..)
      · exact (ih later).imp_right (List.mem_cons_of_mem _)

lemma insertNew_sorted {key : String} {value : α} {entries : Dictionary α}
    (sorted : entries.Sorted) : (insertNew key value entries).Sorted := by
  induction entries with
  | nil => exact sorted_singleton _
  | cons entry rest ih =>
    obtain ⟨k, v⟩ := entry
    obtain ⟨least, sorted'⟩ := List.pairwise_cons.1 sorted
    unfold insertNew
    split_ifs with first same
    · refine List.pairwise_cons.2 ⟨fun e he => ?_, sorted⟩
      rcases List.mem_cons.1 he with rfl | he
      · exact first
      · exact String.lt_trans first (least e he)
    · exact sorted
    · refine List.pairwise_cons.2 ⟨fun e he => ?_, ih sorted'⟩
      rcases mem_insertNew he with rfl | he
      · exact Std.lt_of_le_of_ne (String.not_lt.1 first) (Ne.symm same)
      · exact least e he

/-- A dictionary made of a list has entries of the list only. -/
lemma ofList_subset (entries : List (String × α)) : ∀ e ∈ ofList entries, e ∈ entries := by
  induction entries with
  | nil => exact fun e he => he
  | cons entry rest ih =>
    intro e he
    rcases mem_insertNew he with rfl | later
    · exact List.mem_cons_self ..
    · exact List.mem_cons_of_mem _ (ih e later)

lemma ofList_sorted (entries : List (String × α)) : (ofList entries).Sorted := by
  induction entries with
  | nil => exact List.Pairwise.nil
  | cons entry rest ih => exact insertNew_sorted ih

lemma insertNew_perm {key : String} {value : α} {entries : Dictionary α}
    (h : ∀ e ∈ entries, e.1 ≠ key) :
    (insertNew key value entries).Perm ((key, value) :: entries) := by
  induction entries with
  | nil => rfl
  | cons e rest ih =>
    obtain ⟨k, v⟩ := e
    have other : key ≠ k := fun same => h (k, v) (by simp) same.symm
    have later : ∀ e ∈ rest, e.1 ≠ key := fun e he => h e (by simp [he])
    unfold insertNew
    split_ifs
    · exact .refl _
    · exact ((ih later).cons (k, v)).trans (.swap _ _ _)

end Dictionary

/-- The two orders of the members of a document. -/
inductive MemberOrder where
  | written
  | byKey

namespace MemberOrder

variable (order : MemberOrder)

def arrange : MemberOrder → Json → Json
  | .written, document => document
  | .byKey, document => document.normalize

@[simp] lemma arrange_null : order.arrange .null = .null := by cases order <;> rfl

@[simp] lemma arrange_bool (b : Bool) : order.arrange (.bool b) = .bool b := by
  cases order <;> rfl

@[simp] lemma arrange_whole (n : WholeNumber) : order.arrange (.whole n) = .whole n := by
  cases order <;> rfl

@[simp] lemma arrange_fractional (x : FiniteDouble) :
    order.arrange (.fractional x) = .fractional x := by
  cases order <;> rfl

@[simp] lemma arrange_string (s : String) : order.arrange (.string s) = .string s := by
  cases order <;> rfl

@[simp] lemma arrange_array (items : List Json) :
    order.arrange (.array items) = .array (items.map order.arrange) := by
  cases order with
  | written =>
    have same : written.arrange = id := rfl
    simp [same]
  | byKey =>
    have each : ∀ items, Json.normalizeItems items = items.map Json.normalize := by
      intro items
      induction items with
      | nil => rfl
      | cons item rest ih => rw [Json.normalizeItems, ih, List.map_cons]
    simp [arrange, Json.normalize, each]

/-- Each member of an object is arranged in itself. -/
def arrangeMember (member : String × Json) : String × Json := (member.1, order.arrange member.2)

end MemberOrder

lemma Json.normalizeMembers_perm {members : List (String × Json)}
    (distinct : (members.map Prod.fst).Nodup) :
    (Json.normalizeMembers members).Perm (members.map MemberOrder.byKey.arrangeMember) := by
  induction members with
  | nil => rfl
  | cons member rest ih =>
    obtain ⟨key, value⟩ := member
    obtain ⟨fresh, distinct⟩ := List.nodup_cons.1 distinct
    have kept := ih distinct
    have other : ∀ e ∈ Json.normalizeMembers rest, e.1 ≠ key := by
      intro e he same
      obtain ⟨member, hmember, rfl⟩ := List.mem_map.1 (kept.subset he)
      exact fresh (List.mem_map.2 ⟨member, hmember, same⟩)
    exact (Dictionary.insertNew_perm other).trans (kept.cons _)

lemma Json.normalizeMembers_sorted {members : Dictionary Json} (sorted : members.Sorted) :
    Json.normalizeMembers members = members.map MemberOrder.byKey.arrangeMember := by
  induction members with
  | nil => rfl
  | cons member rest ih =>
    obtain ⟨key, value⟩ := member
    obtain ⟨least, sorted⟩ := List.pairwise_cons.1 sorted
    rw [Json.normalizeMembers, ih sorted, Dictionary.insertNew_of_lt]
    · rfl
    · intro e he
      obtain ⟨member, hmember, rfl⟩ := List.mem_map.1 he
      exact least member hmember

namespace MemberOrder

variable (order : MemberOrder)

lemma arrange_object_sorted {members : Dictionary Json} (sorted : members.Sorted) :
    order.arrange (.object members) = .object (members.map order.arrangeMember) := by
  cases order with
  | written =>
    have same : (written.arrangeMember) = id := rfl
    rw [same, List.map_id]
    rfl
  | byKey =>
    rw [arrange, Json.normalize, Json.normalizeMembers_sorted sorted]

@[simp] lemma arrange_object_single (key : String) (value : Json) :
    order.arrange (.object [(key, value)]) = .object [(key, order.arrange value)] :=
  order.arrange_object_sorted (Dictionary.sorted_singleton _)

lemma arrange_object {members : List (String × Json)}
    (distinct : (members.map Prod.fst).Nodup) :
    ∃ arranged, order.arrange (.object members) = .object arranged ∧
      arranged.Perm (members.map order.arrangeMember) := by
  cases order with
  | written =>
    have same : (written.arrangeMember) = id := rfl
    exact ⟨members, rfl, by rw [same, List.map_id]⟩
  | byKey => exact ⟨_, by rw [arrange, Json.normalize], Json.normalizeMembers_perm distinct⟩

end MemberOrder

/-! ### Fields of records -/

lemma length_filter_key {α : Type} {members : List (String × α)}
    (distinct : (members.map Prod.fst).Nodup) (name : String) :
    (members.filter (·.1 = name)).length ≤ 1 := by
  have once := List.nodup_iff_count_le_one.1 distinct name
  rw [List.count, List.countP_map, List.countP_eq_length_filter] at once
  simpa [Function.comp_def, beq_eq_decide] using once

lemma find?_key {α : Type} {members : List (String × α)}
    (distinct : (members.map Prod.fst).Nodup) {member : String × α} (h : member ∈ members) :
    members.find? (·.1 = member.1) = some member := by
  induction members with
  | nil => cases h
  | cons head rest ih =>
    obtain ⟨fresh, distinct⟩ := List.nodup_cons.1 distinct
    rcases List.mem_cons.1 h with rfl | later
    · simp
    · have other : head.1 ≠ member.1 := fun same =>
        fresh (List.mem_map.2 ⟨member, later, same.symm⟩)
      simp [other, ih distinct later]

/-- A key is bound to the one value that it has an entry with. -/
lemma Dictionary.get?_eq_some_iff {α : Type} {entries : Dictionary α}
    (distinct : (entries.map Prod.fst).Nodup) {key : String} {value : α} :
    entries.get? key = some value ↔ (key, value) ∈ entries := by
  rw [get?, Option.map_eq_some_iff]
  constructor
  · rintro ⟨entry, found, rfl⟩
    have same : entry.1 = key := by simpa using List.find?_some found
    rw [← same]
    exact List.mem_of_find?_eq_some found
  · intro member
    exact ⟨(key, value), find?_key distinct member, rfl⟩

lemma find?_key_perm {α : Type} {members others : List (String × α)}
    (distinct : (members.map Prod.fst).Nodup) (perm : others.Perm members) (name : String) :
    others.find? (·.1 = name) = members.find? (·.1 = name) := by
  have distinct' : (others.map Prod.fst).Nodup := (perm.map Prod.fst).nodup_iff.2 distinct
  cases found : members.find? (·.1 = name) with
  | none =>
    rw [List.find?_eq_none] at found ⊢
    exact fun member hmember => found member (perm.subset hmember)
  | some member =>
    have key : member.1 = name := by simpa using List.find?_some found
    rw [← key]
    exact find?_key distinct' (perm.symm.subset (List.mem_of_find?_eq_some found))

/-- A reader that takes no null reads an optional field that is there as it does without. -/
lemma Json.optional?_some {α : Type} {read? : Json → Option α} (hnull : read? .null = none)
    {document : Json} {a : α} (h : read? document = some a) :
    Json.optional? read? (some document) = some (some a) := by
  unfold Json.optional?
  split
  · contradiction
  · rename_i null
    rw [Option.some.inj null, hnull] at h
    contradiction
  · rename_i value
    rw [← Option.some.inj value, h, Option.map_some]

namespace MemberOrder

variable (order : MemberOrder)

/-- The fields of a record are found in either order. -/
theorem fields?_arrange {members : List (String × Json)}
    (distinct : (members.map Prod.fst).Nodup) (names : List String) :
    (order.arrange (.object members)).fields? names =
      some (names.map fun name =>
        (members.find? (·.1 = name)).map fun member => order.arrange member.2) := by
  obtain ⟨arranged, object, perm⟩ := order.arrange_object distinct
  have keys : ((members.map order.arrangeMember).map Prod.fst) = members.map Prod.fst := by
    rw [List.map_map]
    rfl
  have distinct' : ((members.map order.arrangeMember).map Prod.fst).Nodup := by rwa [keys]
  have once : (names.all fun name => (arranged.filter (·.1 = name)).length ≤ 1) = true := by
    refine List.all_eq_true.2 fun name _ => decide_eq_true ?_
    exact length_filter_key ((perm.map Prod.fst).nodup_iff.2 distinct') name
  rw [object, Json.fields?, if_pos once]
  congr 1
  refine List.map_congr_left fun name _ => ?_
  rw [find?_key_perm distinct' perm, List.find?_map, Option.map_map]
  rfl

end MemberOrder

lemma find?_kept {α : Type} (members : List (String × α)) (kept : String → Bool) (name : String) :
    (members.filter (kept ·.1)).find? (·.1 = name) =
      if kept name then members.find? (·.1 = name) else none := by
  rw [List.find?_filter]
  split_ifs with h
  · congr 1
    funext member
    by_cases same : member.1 = name <;> simp [same, h]
  · rw [List.find?_eq_none]
    rintro member - both
    simp only [decide_eq_true_eq] at both
    exact h (both.2 ▸ both.1)

/-- The fields of a record that has some of its members only, in whichever order they are. -/
theorem Json.fields?_kept {members found : List (String × Json)} {kept : String → Bool}
    (distinct : (members.map Prod.fst).Nodup) (perm : found.Perm (members.filter (kept ·.1))) :
    (Json.object found).fields? (members.map Prod.fst) =
      some (members.map fun field => if kept field.1 then some field.2 else none) := by
  have distinct' : ((members.filter (kept ·.1)).map Prod.fst).Nodup :=
    distinct.sublist (List.filter_sublist.map _)
  have fields := MemberOrder.written.fields?_arrange
    ((perm.map Prod.fst).nodup_iff.2 distinct') (members.map Prod.fst)
  refine Eq.trans fields ?_
  rw [List.map_map]
  congr 1
  refine List.map_congr_left fun field member => ?_
  dsimp only [Function.comp_apply]
  rw [find?_key_perm distinct' perm, find?_kept, find?_key distinct member]
  split_ifs <;> rfl

namespace MemberOrder

variable (order : MemberOrder)

section OptionalFields

variable {α : Type} {write : α → Json} {read? : Json → Option α} (hnull : read? .null = none)
  {x : Option α} (h : ∀ a ∈ x, read? (order.arrange (write a)) = some a)

include hnull h

lemma optional?_ofOption :
    Json.optional? read? (some (order.arrange (Json.ofOption write x))) = some x := by
  cases x with
  | none => simp [Json.ofOption, Json.optional?]
  | some a => exact Json.optional?_some hnull (h a rfl)

lemma optional?_map :
    Json.optional? read? (x.map fun a => order.arrange (write a)) = some x := by
  cases x with
  | none => rfl
  | some a => exact Json.optional?_some hnull (h a rfl)

end OptionalFields

end MemberOrder

end DocumentQuery
