import Mathlib.Tactic
import DocumentQuery.Proofs.DocumentRoundTrip
import DocumentQuery.Proofs.DocumentText

/-!
# The canonical text identifies a pipeline

The document of a pipeline reads back as the pipeline, and the text of a document tells the
document. So pipelines with the same canonical bytes are the same, and if the fingerprints of two
pipelines agree, then the pipelines do, or their bytes are a collision of the digest.
-/

namespace DocumentQuery

/-! ### Bytes and digests -/

lemma toList_loop (bytes : ByteArray) (i : Nat) (done : List UInt8) :
    ByteArray.toList.loop bytes i done = done.reverse ++ bytes.data.toList.drop i := by
  induction i, done using ByteArray.toList.loop.induct bytes with
  | case1 i done inside ih =>
    have next : bytes.data.toList.drop i = bytes.get! i :: bytes.data.toList.drop (i + 1) := by
      have bound : i < bytes.data.toList.length := inside
      rw [List.drop_eq_getElem_cons bound]
      congr 1
      exact (getElem!_pos bytes.data i inside).symm
    rw [ByteArray.toList.loop, if_pos inside, ih, next]
    simp
  | case2 i done outside =>
    have nothing : bytes.data.toList.drop i = [] := List.drop_eq_nil_of_le (Nat.not_lt.1 outside)
    rw [ByteArray.toList.loop, if_neg outside, nothing, List.append_nil]

/-- The bytes of a text tell the text. -/
lemma toList_toUTF8_inj {s t : String} (same : s.toUTF8.toList = t.toUTF8.toList) : s = t := by
  unfold ByteArray.toList at same
  rw [toList_loop, toList_loop] at same
  apply String.toByteArray_inj.1
  apply ByteArray.ext
  exact Array.toList_inj.1 same

namespace Sha256

/-- The two digits of each byte tell the bytes. -/
lemma hexDigits_inj {bytes bytes' : List UInt8}
    (same : bytes.flatMap (fun b =>
        [Nat.digitChar (b.toNat / 16), Nat.digitChar (b.toNat % 16)]) =
      bytes'.flatMap fun b => [Nat.digitChar (b.toNat / 16), Nat.digitChar (b.toNat % 16)]) :
    bytes = bytes' := by
  have digit {n m : Nat} (hn : n < 16) (hm : m < 16) (same : n.digitChar = m.digitChar) :
      n = m := by
    have values := congrArg Quoted.hexValue? same
    exact Option.some.inj ((Quoted.hexValue?_hexDigit n hn).symm.trans
      (values.trans (Quoted.hexValue?_hexDigit m hm)))
  induction bytes generalizing bytes' with
  | nil =>
    cases bytes' with
    | nil => rfl
    | cons b' bytes' => cases same
  | cons b bytes ih =>
    cases bytes' with
    | nil => cases same
    | cons b' bytes' =>
      have bound := b.toNat_lt
      have bound' := b'.toNat_lt
      obtain ⟨high, rest⟩ := List.cons.inj same
      obtain ⟨low, later⟩ := List.cons.inj rest
      have quotients := digit (by omega) (by omega) high
      have remainders := digit (by omega) (by omega) low
      have values : b.toNat = b'.toNat := by omega
      rw [UInt8.toNat_inj.1 values, ih later]

lemma digest_eq_of_hexDigest {m m' : List UInt8} (same : hexDigest m = hexDigest m') :
    digest m = digest m' :=
  hexDigits_inj (String.ofList_injective same)

end Sha256

/-! ### Pipelines -/

namespace WirePipeline

lemma toDocument_inj {p q : WirePipeline} (hp : p.Writable) (hq : q.Writable)
    (same : p.toDocument = q.toDocument) : p = q := by
  have read : ofDocument? p.toDocument = some p := ofDocument?_arrange .written hp
  have read' : ofDocument? q.toDocument = some q := ofDocument?_arrange .written hq
  rw [same, read'] at read
  exact (Option.some.inj read).symm

/-- No two pipelines have the same canonical bytes. So a fingerprint stands for one pipeline, unless
the bytes of two are a collision of the digest. -/
theorem canonical_text_identifies (p q : WirePipeline) (hp : p.Writable) (hq : q.Writable) :
    (p.canonicalText.toUTF8.toList = q.canonicalText.toUTF8.toList ↔ p = q) ∧
      (p.fingerprint = q.fingerprint → p = q ∨
        p.canonicalText.toUTF8.toList ≠ q.canonicalText.toUTF8.toList ∧
          Sha256.digest p.canonicalText.toUTF8.toList =
            Sha256.digest q.canonicalText.toUTF8.toList) := by
  have identifies : p.canonicalText.toUTF8.toList = q.canonicalText.toUTF8.toList ↔ p = q := by
    constructor
    · intro same
      apply toDocument_inj hp hq
      exact Json.toText_inj (toList_toUTF8_inj same)
    · rintro rfl
      rfl
  refine ⟨identifies, fun fingerprints => ?_⟩
  by_cases same : p = q
  · exact .inl same
  · refine .inr ⟨fun bytes => same (identifies.1 bytes), ?_⟩
    exact Sha256.digest_eq_of_hexDigest fingerprints

/-- The double that is no number is not taken for the text of its name, nor for another double. -/
theorem canonical_text_identifies_nan :
    let holding (v : WireValue) : WirePipeline := ⟨[⟨"where", [v], []⟩]⟩
    (holding (.double .nan)).canonicalText.toUTF8.toList ≠
        (holding (.string "NaN")).canonicalText.toUTF8.toList ∧
      (holding (.double .nan)).canonicalText.toUTF8.toList ≠
        (holding (.double (.infinite false))).canonicalText.toUTF8.toList := by
  intro holding
  have writable {v : WireValue} (hv : v.Writable) : (holding v).Writable := by
    simpa [holding, Writable, WireStage.AllSorted, WireStage.Sorted, WireValue.AllSorted,
      WireValue.EntriesSorted, Dictionary.Sorted, WireStage.AllLocated, WireStage.Located,
      WireValue.AllLocated, WireValue.EntriesLocated, WireValue.Writable] using hv
  have double (x : Double) : (holding (.double x)).Writable := writable ⟨trivial, trivial⟩
  have string (s : String) : (holding (.string s)).Writable := writable ⟨trivial, trivial⟩
  constructor
  · intro same
    cases (canonical_text_identifies _ _ (double _) (string _)).1.1 same
  · intro same
    cases (canonical_text_identifies _ _ (double _) (double _)).1.1 same

end WirePipeline

end DocumentQuery
