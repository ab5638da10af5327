import DocumentQuery.Execution.Message
import DocumentQuery.Proofs.Arrangement
import DocumentQuery.Proofs.Base64
import DocumentQuery.Proofs.Rfc3339

/-!
# Documents name the values they were written for

Reading a document gives back the value that it was written for, in whichever of the two orders its
members come. Values and stages contain each other, so their statements go by one mutual induction,
with companions for lists of values, for the entries of maps and options, and for lists of stages.
The only values that documents cannot hold are points whose coordinates are not finite.
-/

namespace DocumentQuery

/-! ### Values without parts -/

@[simp] lemma WholeNumber.toInt64?_ofInt64 (n : Int64) :
    (WholeNumber.ofInt64 n).toInt64? = some n := by
  have small : n.toInt < 9223372036854775808 := n.toInt_lt
  rw [WholeNumber.toInt64?, WholeNumber.ofInt64, if_pos small, Int64.ofInt_toInt]

@[simp] lemma Double.ofDocument?_toDocument (x : Double) :
    Double.ofDocument? x.toDocument = some x := by
  match x with
  | .nan => rfl
  | .infinite true => rfl
  | .infinite false => rfl
  | .finite x => rfl

@[simp] lemma Timestamp.ofDocument?_toDocument (t : Timestamp) :
    Timestamp.ofDocument? t.toDocument = some t :=
  Rfc3339.ofText?_toText t

@[simp] lemma Blob.ofDocument?_toDocument (b : Blob) :
    Blob.ofDocument? (Blob.toDocument b) = some b := by
  rw [Blob.toDocument, Blob.ofDocument?, Blob.toText, String.toList_ofList, Base64.decode?_encode]

/-- Whether a document can hold the point. -/
def GeoPoint.Located (p : GeoPoint) : Prop := p.latitude.isFinite ∧ p.longitude.isFinite

lemma GeoPoint.ofNumber?_coordinateDocument {x : Double} (hx : x.isFinite) :
    Double.ofNumber? (GeoPoint.coordinateDocument x) = some x := by
  match x, hx with
  | .finite x, _ => rfl

lemma GeoPoint.ofDocument?_toDocument {p : GeoPoint} (hp : p.Located) :
    GeoPoint.ofDocument? p.toDocument = some p := by
  have fields : p.toDocument.fields? ["latitude", "longitude"] =
      some [some (coordinateDocument p.latitude), some (coordinateDocument p.longitude)] := by
    simp [GeoPoint.toDocument, Json.fields?]
  rw [GeoPoint.ofDocument?, fields]
  simp [ofNumber?_coordinateDocument hp.1, ofNumber?_coordinateDocument hp.2]

section Arranged

variable (order : MemberOrder)

@[simp] lemma Double.arrange_toDocument (x : Double) :
    order.arrange x.toDocument = x.toDocument := by
  cases x <;> simp [Double.toDocument]

@[simp] lemma Timestamp.arrange_toDocument (t : Timestamp) :
    order.arrange t.toDocument = t.toDocument :=
  order.arrange_string _

@[simp] lemma Blob.arrange_toDocument (b : Blob) :
    order.arrange (Blob.toDocument b) = Blob.toDocument b :=
  order.arrange_string _

@[simp] lemma GeoPoint.arrange_toDocument (p : GeoPoint) :
    order.arrange p.toDocument = p.toDocument := by
  have coordinate (x : Double) :
      order.arrange (coordinateDocument x) = coordinateDocument x := by
    cases x <;> simp [coordinateDocument]
  have sorted : Dictionary.Sorted [("latitude", coordinateDocument p.latitude),
      ("longitude", coordinateDocument p.longitude)] :=
    Dictionary.sorted_pair (by decide) _ _
  rw [GeoPoint.toDocument, order.arrange_object_sorted sorted]
  simp [MemberOrder.arrangeMember, coordinate]

end Arranged

/-! ### Values with parts -/

mutual

/-- Whether every point in a value is one that documents can hold. -/
def WireValue.Located : WireValue → Prop
  | .geoPoint p => p.Located
  | .array items => WireValue.AllLocated items
  | .map entries => WireValue.EntriesLocated entries
  | .function _ args => WireValue.AllLocated args
  | .pipeline stages => WireStage.AllLocated stages
  | _ => True

def WireValue.AllLocated : List WireValue → Prop
  | [] => True
  | v :: rest => v.Located ∧ WireValue.AllLocated rest

def WireValue.EntriesLocated : List (String × WireValue) → Prop
  | [] => True
  | (_, v) :: rest => v.Located ∧ WireValue.EntriesLocated rest

def WireStage.Located : WireStage → Prop
  | ⟨_, args, options⟩ => WireValue.AllLocated args ∧ WireValue.EntriesLocated options

def WireStage.AllLocated : List WireStage → Prop
  | [] => True
  | s :: rest => s.Located ∧ WireStage.AllLocated rest

end

lemma WireValue.entryDocuments_eq_map (entries : List (String × WireValue)) :
    WireValue.entryDocuments entries = entries.map fun e => (e.1, e.2.toDocument) := by
  induction entries with
  | nil => rfl
  | cons e rest ih => rw [WireValue.entryDocuments, ih, List.map_cons]

lemma WireValue.entryDocuments_sorted {entries : Dictionary WireValue} (h : entries.Sorted) :
    Dictionary.Sorted (WireValue.entryDocuments entries) := by
  rw [WireValue.entryDocuments_eq_map, Dictionary.Sorted, List.pairwise_map]
  exact h

namespace WireValue

/-! ### The parts of calls and stages -/

lemma partsOf?_name {hasOptions : Bool} {members : List (String × Json)} {parts : CallParts}
    (h : partsOf? hasOptions members = some parts) (fresh : parts.name = none) (name : String) :
    partsOf? hasOptions (("name", .string name) :: members) =
      some { parts with name := some name } := by
  simp [partsOf?, h, CallParts.takeName, fresh]

lemma partsOf?_args {hasOptions : Bool} {members : List (String × Json)} {parts : CallParts}
    (h : partsOf? hasOptions members = some parts) (fresh : parts.args = none)
    {items : List Json} {args : List WireValue} (read : ofItems? items = some args) :
    partsOf? hasOptions (("args", .array items) :: members) =
      some { parts with args := some args } := by
  simp [partsOf?, h, CallParts.takeArgs, fresh, read]

lemma partsOf?_options {members : List (String × Json)} {parts : CallParts}
    (h : partsOf? true members = some parts) (fresh : parts.options = none)
    {entries : List (String × Json)} {options : Dictionary WireValue}
    (read : ofMembers? entries = some options) :
    partsOf? true (("options", .object entries) :: members) =
      some { parts with options := some options } := by
  simp [partsOf?, h, CallParts.takeOptions, fresh, read]

/-- A call is read from its two members, whichever comes first. -/
lemma ofDocument?_function (order : MemberOrder) (name : String) {items : List Json}
    {args : List WireValue} (read : ofItems? (items.map order.arrange) = some args) :
    ofDocument? (.object [("function_value",
      order.arrange (.object [("name", .string name), ("args", .array items)]))]) =
      some (.function name args) := by
  have empty : partsOf? false [] = some {} := rfl
  have arguments := order.arrange_array items
  cases order with
  | written =>
    have members : MemberOrder.written.arrange
        (.object [("name", .string name), ("args", .array items)]) =
        .object [("name", .string name), ("args", MemberOrder.written.arrange (.array items))] :=
      rfl
    have parts := partsOf?_name (partsOf?_args empty rfl read) rfl name
    rw [members, arguments]
    simp [ofDocument?, parts]
  | byKey =>
    have members : MemberOrder.byKey.arrange
        (.object [("name", .string name), ("args", .array items)]) =
        .object [("args", MemberOrder.byKey.arrange (.array items)), ("name", .string name)] := by
      have name_later : ¬"name" < "args" := by decide
      have other : "name" ≠ "args" := by decide
      simp only [MemberOrder.arrange, Json.normalize, Json.normalizeMembers, Dictionary.insertNew,
        if_neg name_later, if_neg other]
    have parts := partsOf?_args (partsOf?_name empty rfl name) rfl read
    rw [members, arguments]
    simp [ofDocument?, parts]

end WireValue

/-- A stage is read from its three members, in either order. -/
lemma WireStage.ofDocument?_parts (order : MemberOrder) (name : String) {items : List Json}
    {args : List WireValue} (readArgs : WireValue.ofItems? (items.map order.arrange) = some args)
    {entries : Dictionary Json} {options : Dictionary WireValue} (sorted : entries.Sorted)
    (readOptions : WireValue.ofMembers? (entries.map order.arrangeMember) = some options) :
    WireStage.ofDocument? (order.arrange (.object [("name", .string name),
      ("args", .array items), ("options", .object entries)])) = some ⟨name, args, options⟩ := by
  have empty : WireValue.partsOf? true [] = some {} := rfl
  have arguments := order.arrange_array items
  have settings := order.arrange_object_sorted sorted
  cases order with
  | written =>
    have members : MemberOrder.written.arrange (.object [("name", .string name),
        ("args", .array items), ("options", .object entries)]) =
        .object [("name", .string name), ("args", MemberOrder.written.arrange (.array items)),
          ("options", MemberOrder.written.arrange (.object entries))] :=
      rfl
    have parts := WireValue.partsOf?_name
      (WireValue.partsOf?_args (WireValue.partsOf?_options empty rfl readOptions) rfl readArgs)
      rfl name
    rw [members, arguments, settings]
    simp [WireStage.ofDocument?, parts]
  | byKey =>
    have members : MemberOrder.byKey.arrange (.object [("name", .string name),
        ("args", .array items), ("options", .object entries)]) =
        .object [("args", MemberOrder.byKey.arrange (.array items)), ("name", .string name),
          ("options", MemberOrder.byKey.arrange (.object entries))] := by
      have args_first : "args" < "options" := by decide
      have name_later : ¬"name" < "args" := by decide
      have name_first : "name" < "options" := by decide
      have other : "name" ≠ "args" := by decide
      simp only [MemberOrder.arrange, Json.normalize, Json.normalizeMembers, Dictionary.insertNew,
        if_pos args_first, if_neg name_later, if_neg other, if_pos name_first]
    have parts := WireValue.partsOf?_args
      (WireValue.partsOf?_name (WireValue.partsOf?_options empty rfl readOptions) rfl name)
      rfl readArgs
    rw [members, arguments, settings]
    simp [WireStage.ofDocument?, parts]

/-! ### The round trip of values -/

section RoundTrip

variable (order : MemberOrder)

mutual

/-- Reading gives back the value that was written. -/
theorem WireValue.ofDocument?_arrange : ∀ v : WireValue, v.Sorted → v.Located →
    WireValue.ofDocument? (order.arrange v.toDocument) = some v
  | .null, _, _ => by
    simp [WireValue.toDocument, WireValue.ofDocument?]
  | .boolean b, _, _ => by
    simp [WireValue.toDocument, WireValue.ofDocument?]
  | .integer n, _, _ => by
    simp [WireValue.toDocument, WireValue.ofDocument?, Json.ofInt64, Json.int64?]
  | .double x, _, _ => by
    simp [WireValue.toDocument, WireValue.ofDocument?]
  | .timestamp t, _, _ => by
    simp [WireValue.toDocument, WireValue.ofDocument?]
  | .string s, _, _ => by
    simp [WireValue.toDocument, WireValue.ofDocument?]
  | .bytes b, _, _ => by
    simp [WireValue.toDocument, WireValue.ofDocument?]
  | .reference path, _, _ => by
    simp [WireValue.toDocument, WireValue.ofDocument?]
  | .geoPoint p, _, located => by
    have hp : p.Located := by simpa [WireValue.Located] using located
    simp [WireValue.toDocument, WireValue.ofDocument?, GeoPoint.ofDocument?_toDocument hp]
  | .array items, sorted, located => by
    rw [WireValue.Sorted] at sorted
    rw [WireValue.Located] at located
    have read := WireValue.ofItems?_arrange items sorted located
    simp [WireValue.toDocument, WireValue.ofDocument?, read]
  | .map entries, sorted, located => by
    rw [WireValue.Sorted] at sorted
    rw [WireValue.Located] at located
    have read := WireValue.ofMembers?_arrange entries sorted.1 sorted.2 located
    have members := order.arrange_object_sorted (WireValue.entryDocuments_sorted sorted.1)
    simp [WireValue.toDocument, WireValue.ofDocument?, members, read]
  | .fieldReference path, _, _ => by
    simp [WireValue.toDocument, WireValue.ofDocument?]
  | .function name args, sorted, located => by
    rw [WireValue.Sorted] at sorted
    rw [WireValue.Located] at located
    have read := WireValue.ofItems?_arrange args sorted located
    rw [WireValue.toDocument, order.arrange_object_single]
    exact WireValue.ofDocument?_function order name read
  | .pipeline stages, sorted, located => by
    rw [WireValue.Sorted] at sorted
    rw [WireValue.Located] at located
    have read := WireStage.ofItems?_arrange stages sorted located
    simp [WireValue.toDocument, WireValue.ofDocument?, read]

theorem WireValue.ofItems?_arrange : ∀ items : List WireValue,
    WireValue.AllSorted items → WireValue.AllLocated items →
    WireValue.ofItems? ((WireValue.itemDocuments items).map order.arrange) = some items
  | [], _, _ => by
    simp [WireValue.itemDocuments, WireValue.ofItems?]
  | v :: rest, sorted, located => by
    rw [WireValue.AllSorted] at sorted
    rw [WireValue.AllLocated] at located
    have first := WireValue.ofDocument?_arrange v sorted.1 located.1
    have later := WireValue.ofItems?_arrange rest sorted.2 located.2
    simp [WireValue.itemDocuments, WireValue.ofItems?, first, later]

theorem WireValue.ofMembers?_arrange : ∀ entries : List (String × WireValue),
    Dictionary.Sorted entries → WireValue.EntriesSorted entries →
    WireValue.EntriesLocated entries →
    WireValue.ofMembers? ((WireValue.entryDocuments entries).map order.arrangeMember) =
      some entries
  | [], _, _, _ => by
    simp [WireValue.entryDocuments, WireValue.ofMembers?]
  | (key, v) :: rest, ascending, sorted, located => by
    rw [WireValue.EntriesSorted] at sorted
    rw [WireValue.EntriesLocated] at located
    obtain ⟨least, ascending⟩ := List.pairwise_cons.1 ascending
    have first := WireValue.ofDocument?_arrange v sorted.1 located.1
    have later := WireValue.ofMembers?_arrange rest ascending sorted.2 located.2
    have front : Dictionary.insertNew key v rest = (key, v) :: rest :=
      Dictionary.insertNew_of_lt least
    simp [WireValue.entryDocuments, MemberOrder.arrangeMember, WireValue.ofMembers?, first, later,
      front]

theorem WireStage.ofDocument?_arrange : ∀ s : WireStage, s.Sorted → s.Located →
    WireStage.ofDocument? (order.arrange s.toDocument) = some s
  | ⟨name, args, options⟩, sorted, located => by
    rw [WireStage.Sorted] at sorted
    rw [WireStage.Located] at located
    have readArgs := WireValue.ofItems?_arrange args sorted.1 located.1
    have readOptions := WireValue.ofMembers?_arrange options sorted.2.1 sorted.2.2 located.2
    rw [WireStage.toDocument]
    exact WireStage.ofDocument?_parts order name readArgs
      (WireValue.entryDocuments_sorted sorted.2.1) readOptions

theorem WireStage.ofItems?_arrange : ∀ stages : List WireStage,
    WireStage.AllSorted stages → WireStage.AllLocated stages →
    WireStage.ofItems? ((WireStage.documents stages).map order.arrange) = some stages
  | [], _, _ => by
    simp [WireStage.documents, WireStage.ofItems?]
  | s :: rest, sorted, located => by
    rw [WireStage.AllSorted] at sorted
    rw [WireStage.AllLocated] at located
    have first := WireStage.ofDocument?_arrange s sorted.1 located.1
    have later := WireStage.ofItems?_arrange rest sorted.2 located.2
    simp [WireStage.documents, WireStage.ofItems?, first, later]

end

/-! ### The round trip of records -/

end RoundTrip

/-- Whether a value can be held by a document: its maps are in order and its points are located. -/
def WireValue.Writable (v : WireValue) : Prop := v.Sorted ∧ v.Located

def WireStage.Writable (s : WireStage) : Prop := s.Sorted ∧ s.Located

def WirePipeline.Writable (p : WirePipeline) : Prop :=
  WireStage.AllSorted p.stages ∧ WireStage.AllLocated p.stages

def WireValue.EntriesWritable (entries : Dictionary WireValue) : Prop :=
  entries.Sorted ∧ WireValue.EntriesSorted entries ∧ WireValue.EntriesLocated entries

def RowPayload.Writable (row : RowPayload) : Prop :=
  ∀ fields ∈ row.fields, WireValue.EntriesWritable fields

def ResponseBatch.Writable (batch : ResponseBatch) : Prop := ∀ row ∈ batch.rows, row.Writable

def ExecuteRequest.Writable (request : ExecuteRequest) : Prop :=
  request.pipeline.Writable ∧ WireValue.EntriesWritable request.options

section Records

variable (order : MemberOrder)

theorem WirePipeline.ofDocument?_arrange {p : WirePipeline} (hp : p.Writable) :
    WirePipeline.ofDocument? (order.arrange p.toDocument) = some p := by
  have read := WireStage.ofItems?_arrange order p.stages hp.1 hp.2
  rw [WirePipeline.ofDocument?, WirePipeline.toDocument, order.fields?_arrange (by simp)]
  simp [read]

lemma WireValue.arrange_entries {entries : Dictionary WireValue}
    (h : WireValue.EntriesWritable entries) :
    ∃ members, order.arrange (.object (WireValue.entryDocuments entries)) = .object members ∧
      WireValue.ofMembers? members = some entries :=
  ⟨_, order.arrange_object_sorted (WireValue.entryDocuments_sorted h.1),
    WireValue.ofMembers?_arrange order entries h.1 h.2.1 h.2.2⟩

lemma Timestamp.optional?_toDocument (t : Option Timestamp) :
    Json.optional? Timestamp.ofDocument?
      (some (order.arrange (Json.ofOption Timestamp.toDocument t))) = some t :=
  order.optional?_ofOption rfl fun t _ => by
    rw [Timestamp.arrange_toDocument, Timestamp.ofDocument?_toDocument]

theorem RowPayload.ofDocument?_arrange {row : RowPayload} (hrow : row.Writable) :
    RowPayload.ofDocument? (order.arrange row.toDocument) = some row := by
  have name : Json.optional? Json.string? (some (order.arrange (Json.ofOption .string row.name))) =
      some row.name :=
    order.optional?_ofOption rfl fun name _ => by simp [Json.string?]
  have fields : Json.optional? RowPayload.fieldsOf? (some (order.arrange (Json.ofOption
      (fun fields => .object (WireValue.entryDocuments fields)) row.fields))) =
      some row.fields := by
    refine order.optional?_ofOption rfl fun fields hfields => ?_
    obtain ⟨members, object, read⟩ := WireValue.arrange_entries order (hrow fields hfields)
    rw [object, RowPayload.fieldsOf?, read]
  rw [RowPayload.ofDocument?, RowPayload.toDocument, order.fields?_arrange (by simp)]
  simp [name, fields, Timestamp.optional?_toDocument]

lemma RowPayload.ofDocuments?_arrange {rows : List RowPayload} (h : ∀ row ∈ rows, row.Writable) :
    RowPayload.ofDocuments? ((rows.map RowPayload.toDocument).map order.arrange) = some rows := by
  induction rows with
  | nil => rfl
  | cons row rest ih =>
    have first := RowPayload.ofDocument?_arrange order (h row (by simp))
    have later := ih fun row hrow => h row (by simp [hrow])
    simp only [List.map_cons, RowPayload.ofDocuments?, first, later, Option.map_some]

theorem ResponseBatch.ofDocument?_arrange {batch : ResponseBatch} (hbatch : batch.Writable) :
    ResponseBatch.ofDocument? (order.arrange batch.toDocument) = some batch := by
  have rows := RowPayload.ofDocuments?_arrange order hbatch
  rw [ResponseBatch.ofDocument?, ResponseBatch.toDocument, order.fields?_arrange (by simp)]
  simp only [List.map_map] at rows
  simp [Timestamp.optional?_toDocument, rows]

namespace ExecuteRequest

def members (request : ExecuteRequest) : List (String × Json) :=
  [("database", .string request.database),
    ("pipeline", request.pipeline.toDocument),
    ("options", .object (WireValue.entryDocuments request.options))] ++
  optionalMember "read_time" (request.readTime.map Timestamp.toDocument) ++
  optionalMember "transaction" (request.transaction.map Blob.toDocument)

lemma members_distinct (request : ExecuteRequest) :
    (request.members.map Prod.fst).Nodup := by
  cases time : request.readTime <;> cases transaction : request.transaction <;>
    simp [members, optionalMember, time, transaction]

lemma members_readTime (request : ExecuteRequest) :
    request.members.find? (·.1 = "read_time") =
      request.readTime.map fun t => ("read_time", t.toDocument) := by
  cases time : request.readTime <;> cases transaction : request.transaction <;>
    simp [members, optionalMember, time, transaction]

lemma members_transaction (request : ExecuteRequest) :
    request.members.find? (·.1 = "transaction") =
      request.transaction.map fun b => ("transaction", Blob.toDocument b) := by
  cases time : request.readTime <;> cases transaction : request.transaction <;>
    simp [members, optionalMember, time, transaction]

theorem ofDocument?_arrange {request : ExecuteRequest} (h : request.Writable) :
    ExecuteRequest.ofDocument? (order.arrange request.toDocument) = some request := by
  have pipeline := WirePipeline.ofDocument?_arrange order h.1
  obtain ⟨entries, object, options⟩ := WireValue.arrange_entries order h.2
  have time : Json.optional? Timestamp.ofDocument?
      (request.readTime.map fun t => order.arrange t.toDocument) = some request.readTime :=
    order.optional?_map rfl fun t _ => by
      rw [Timestamp.arrange_toDocument, Timestamp.ofDocument?_toDocument]
  have transaction : Json.optional? Blob.ofDocument?
      (request.transaction.map fun b => order.arrange (Blob.toDocument b)) =
      some request.transaction :=
    order.optional?_map rfl fun b _ => by
      rw [Blob.arrange_toDocument, Blob.ofDocument?_toDocument]
  have fields : (order.arrange request.toDocument).fields?
      ["database", "pipeline", "options", "read_time", "transaction"] =
      some [some (.string request.database), some (order.arrange request.pipeline.toDocument),
        some (.object entries), request.readTime.map fun t => order.arrange t.toDocument,
        request.transaction.map fun b => order.arrange (Blob.toDocument b)] := by
    have document : request.toDocument = .object request.members := rfl
    rw [document, order.fields?_arrange request.members_distinct]
    simp only [List.map_cons, List.map_nil, members_readTime, members_transaction]
    simp [members, object, Function.comp_def]
  simp only [ofDocument?, fields, pipeline, options, time, transaction, Option.bind_eq_bind,
    Option.bind_some]
  rfl

end ExecuteRequest

end Records

/-- Reading undoes writing over the whole wire format, in whichever order the members of the
documents come. -/
theorem document_round_trip (order : MemberOrder) :
    (∀ v : WireValue, v.Writable →
      WireValue.ofDocument? (order.arrange v.toDocument) = some v) ∧
    (∀ s : WireStage, s.Writable →
      WireStage.ofDocument? (order.arrange s.toDocument) = some s) ∧
    (∀ p : WirePipeline, p.Writable →
      WirePipeline.ofDocument? (order.arrange p.toDocument) = some p) ∧
    (∀ row : RowPayload, row.Writable →
      RowPayload.ofDocument? (order.arrange row.toDocument) = some row) ∧
    (∀ batch : ResponseBatch, batch.Writable →
      ResponseBatch.ofDocument? (order.arrange batch.toDocument) = some batch) ∧
    (∀ request : ExecuteRequest, request.Writable →
      ExecuteRequest.ofDocument? (order.arrange request.toDocument) = some request) :=
  ⟨fun v hv => WireValue.ofDocument?_arrange order v hv.1 hv.2,
    fun s hs => WireStage.ofDocument?_arrange order s hs.1 hs.2,
    fun _ hp => WirePipeline.ofDocument?_arrange order hp,
    fun _ hrow => RowPayload.ofDocument?_arrange order hrow,
    fun _ hbatch => ResponseBatch.ofDocument?_arrange order hbatch,
    fun _ hrequest => ExecuteRequest.ofDocument?_arrange order hrequest⟩

/-- A value with the doubles that no number is, a negative zero, a leap second and a stage within a
call. -/
def nestedValue : WireValue :=
  .array [.double .nan, .double (.infinite true), .double (.finite (FiniteDouble.zero true)),
    .timestamp ⟨⟨2024, 2, 29, by decide⟩, ⟨23, 59, 60, 5000, by decide⟩⟩,
    .map [("a", .null), ("b", .geoPoint ⟨.finite (.zero true), .finite (.zero false)⟩)],
    .function "f" [.integer (-1), .pipeline [⟨"s", [.bytes [0, 255]], [("o", .reference "/a")]⟩]]]

theorem document_round_trip_nested :
    nestedValue.Writable ∧
      WireValue.ofDocument? (MemberOrder.byKey.arrange nestedValue.toDocument) =
        some nestedValue ∧
      ResponseBatch.ofDocument? (MemberOrder.written.arrange
        (ResponseBatch.toDocument ⟨none, [{ fields := some [("v", nestedValue)] }, {}]⟩)) =
        some ⟨none, [{ fields := some [("v", nestedValue)] }, {}]⟩ := by
  have writable : nestedValue.Writable := by
    simp [WireValue.Writable, nestedValue, WireValue.Sorted, WireValue.AllSorted,
      WireValue.EntriesSorted, WireStage.AllSorted, WireStage.Sorted,
      Dictionary.sorted_pair (by decide : "a" < "b"),
      WireValue.Located, WireValue.AllLocated, WireValue.EntriesLocated, WireStage.AllLocated,
      WireStage.Located, GeoPoint.Located, Double.isFinite]
  have rows : ResponseBatch.Writable ⟨none, [{ fields := some [("v", nestedValue)] }, {}]⟩ := by
    simp [ResponseBatch.Writable, RowPayload.Writable, WireValue.EntriesWritable,
      WireValue.EntriesSorted, WireValue.EntriesLocated, writable.1, writable.2]
  exact ⟨writable, (document_round_trip .byKey).1 nestedValue writable,
    (document_round_trip .written).2.2.2.2.1 _ rows⟩

end DocumentQuery
