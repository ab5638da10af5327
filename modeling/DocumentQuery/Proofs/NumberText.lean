import Mathlib.Tactic
import DocumentQuery.Json.Text
import DocumentQuery.Json.Printer
import DocumentQuery.Proofs.Digits
import DocumentQuery.Proofs.ShortestDigits

/-!
# Numbers are read as they are written

The text of a number has a sign, digits, places and an exponent, of which the reader finds each
where the writer put it. Whole numbers and doubles are written in this form, and the number that is
written tells them apart: a whole one has neither places nor an exponent, and the value of the other
is that of the shortest digits of the double.
-/

namespace DocumentQuery

namespace NumberText

/-- What the reader asks of a number. Only zero itself starts with the digit 0. -/
structure Proper (t : NumberText) : Prop where
  nonempty : t.digits ≠ []
  digits : ∀ c ∈ t.digits, c.isDigit = true
  lead : t.digits.head? = some '0' → t.digits.length = 1
  places : ∀ c ∈ t.places, c.isDigit = true

/-- The places after a point, if there are any, before the rest of a text. -/
def writePlaces (places rest : List Char) : List Char :=
  if places = [] then rest else '.' :: places ++ rest

def writeExponent (exponent : Option Int) (rest : List Char) : List Char :=
  match exponent with
  | none => rest
  | some e => 'e' :: (if e < 0 then '-' else '+') :: decimalDigits e.natAbs ++ rest

/-- The number after its sign. -/
def writeMagnitude (t : NumberText) (rest : List Char) : List Char :=
  t.digits ++ writePlaces t.places (writeExponent t.exponent rest)

def write (t : NumberText) (rest : List Char) : List Char :=
  if t.negative then '-' :: t.writeMagnitude rest else t.writeMagnitude rest

/-- Whether a text does not go on with what a number could go on with. -/
def Stops (text : List Char) : Prop :=
  ∀ c ∈ text.head?, c.isDigit = false ∧ c ≠ '.' ∧ c ≠ 'e' ∧ c ≠ 'E'

lemma stops_nil : Stops [] := by simp [Stops]

lemma stops_cons {c : Char} (h : c.isDigit = false ∧ c ≠ '.' ∧ c ≠ 'e' ∧ c ≠ 'E')
    (rest : List Char) : Stops (c :: rest) := by
  simpa [Stops] using h

lemma Stops.ends {text : List Char} (h : Stops text) : Ends text := fun c hc => (h c hc).1

variable {rest : List Char}

lemma readExponent_writeExponent (exponent : Option Int) (h : Stops rest) :
    JsonText.readExponent (writeExponent exponent rest) = some (exponent, rest) := by
  cases exponent with
  | none =>
    cases rest with
    | nil => rfl
    | cons c rest =>
      obtain ⟨-, -, lower, upper⟩ := h c rfl
      simp [writeExponent, JsonText.readExponent, lower, upper]
  | some e =>
    have digits : (decimalDigits e.natAbs ++ rest).takeWhile Char.isDigit =
        decimalDigits e.natAbs :=
      takeWhile_digits (fun _ hc => isDigit_of_mem_decimalDigits hc) h.ends
    have after : (decimalDigits e.natAbs ++ rest).dropWhile Char.isDigit = rest :=
      dropWhile_digits (fun _ hc => isDigit_of_mem_decimalDigits hc) h.ends
    unfold writeExponent
    by_cases negative : e < 0
    · have magnitude : -|e| = e := by rw [abs_of_neg negative, neg_neg]
      simp [JsonText.readExponent, negative, digits, after, decimalDigits_ne_nil, magnitude]
    · have magnitude : ((e.natAbs : Nat) : Int) = e := by omega
      simp [JsonText.readExponent, negative, digits, after, decimalDigits_ne_nil, magnitude]

/-- Whether a text goes on with neither a digit nor a point. -/
lemma writeExponent_head (exponent : Option Int) (h : Stops rest) :
    ∀ c ∈ (writeExponent exponent rest).head?, c.isDigit = false ∧ c ≠ '.' := by
  intro c hc
  cases exponent with
  | none => exact ⟨(h c hc).1, (h c hc).2.1⟩
  | some e =>
    obtain rfl : 'e' = c := Option.some.inj hc
    decide

lemma readPlaces_writePlaces {places : List Char} (hplaces : ∀ c ∈ places, c.isDigit = true)
    (h : ∀ c ∈ rest.head?, c.isDigit = false ∧ c ≠ '.') :
    JsonText.readPlaces (writePlaces places rest) = some (places, rest) := by
  have ends : Ends rest := fun c hc => (h c hc).1
  unfold writePlaces
  split_ifs with whole
  · subst whole
    cases rest with
    | nil => rfl
    | cons c rest =>
      have other : c ≠ '.' := (h c rfl).2
      simp [JsonText.readPlaces, other]
  · simp [JsonText.readPlaces, takeWhile_digits hplaces ends, dropWhile_digits hplaces ends, whole]

lemma writePlaces_ends (places : List Char) (h : Ends rest) : Ends (writePlaces places rest) := by
  unfold writePlaces
  split_ifs
  · exact h
  · exact ends_cons (by decide) _

/-- The reader gives back the number that was written, and the rest of the text. -/
theorem readNumber_writeMagnitude {t : NumberText} (proper : t.Proper) (h : Stops rest) :
    JsonText.readNumber t.negative (t.writeMagnitude rest) = some (.number t, rest) := by
  have head := writeExponent_head t.exponent h
  have ends := writePlaces_ends t.places fun c hc => (head c hc).1
  have digits : (t.writeMagnitude rest).takeWhile Char.isDigit = t.digits :=
    takeWhile_digits proper.digits ends
  have after : (t.writeMagnitude rest).dropWhile Char.isDigit =
      writePlaces t.places (writeExponent t.exponent rest) :=
    dropWhile_digits proper.digits ends
  have lead : ¬(t.digits.isEmpty = true ∨ (t.digits.head? = some '0' ∧ t.digits.length ≠ 1)) := by
    rintro (empty | ⟨zero, long⟩)
    · exact proper.nonempty (List.isEmpty_iff.1 empty)
    · exact long (proper.lead zero)
  unfold JsonText.readNumber
  dsimp only
  rw [digits, after, if_neg lead, readPlaces_writePlaces proper.places head]
  refine Option.bind_eq_some_iff.2 ⟨_, rfl, ?_⟩
  dsimp only
  rw [readExponent_writeExponent t.exponent h]
  rfl

/-- The first character of a number is a sign or a digit. -/
lemma write_head {t : NumberText} (proper : t.Proper) (rest : List Char) :
    ∃ c more, t.write rest = c :: more ∧
      (t.negative = true ∧ c = '-' ∧ more = t.writeMagnitude rest ∨
        t.negative = false ∧ c.isDigit = true ∧ c :: more = t.writeMagnitude rest) := by
  unfold write
  cases t.negative with
  | true => exact ⟨'-', _, rfl, .inl ⟨rfl, rfl, rfl⟩⟩
  | false =>
    obtain ⟨c, more, digits⟩ := List.exists_cons_of_ne_nil proper.nonempty
    refine ⟨c, more ++ writePlaces t.places (writeExponent t.exponent rest), ?_,
      .inr ⟨rfl, proper.digits c (by rw [digits]; simp), ?_⟩⟩
    · simp [writeMagnitude, digits]
    · simp [writeMagnitude, digits]

lemma length_lt_write {t : NumberText} (proper : t.Proper) (rest : List Char) :
    rest.length < (t.write rest).length := by
  have digits := List.length_pos_iff.2 proper.nonempty
  have exponent : rest.length ≤ (writeExponent t.exponent rest).length := by
    unfold writeExponent
    split
    · exact le_rfl
    · simp only [List.length_cons, List.length_append]
      omega
  have places : (writeExponent t.exponent rest).length ≤
      (writePlaces t.places (writeExponent t.exponent rest)).length := by
    unfold writePlaces
    split_ifs
    · exact le_rfl
    · simp only [List.cons_append, List.length_cons, List.length_append]
      omega
  have magnitude : (t.writeMagnitude rest).length =
      t.digits.length + (writePlaces t.places (writeExponent t.exponent rest)).length :=
    List.length_append
  unfold write
  split_ifs
  · rw [List.length_cons]
    omega
  · omega

/-! ### Whole numbers -/

/-- The number that stands for an integer. -/
def ofInt (n : Int) : NumberText := ⟨n < 0, decimalDigits n.natAbs, [], none⟩

lemma ofInt_proper (n : Int) : (ofInt n).Proper where
  nonempty := decimalDigits_ne_nil _
  digits := fun _ hc => isDigit_of_mem_decimalDigits hc
  lead := by
    intro zero
    by_cases zero' : n.natAbs = 0
    · change (decimalDigits n.natAbs).length = 1
      rw [zero']
      rfl
    · exact absurd zero (head?_decimalDigits (Nat.pos_of_ne_zero zero'))
  places := by simp [ofInt]

lemma write_ofInt (n : Int) (rest : List Char) :
    (ofInt n).write rest = integerDigits n ++ rest := by
  unfold integerDigits write
  by_cases negative : n < 0 <;>
    simp [ofInt, writeMagnitude, writePlaces, writeExponent, negative]

lemma ofInt_inj {n m : Int} (same : ofInt n = ofInt m) : n = m := by
  obtain ⟨signs, digits, -, -⟩ := NumberText.mk.inj same
  have magnitudes : n.natAbs = m.natAbs := by
    rw [← digitsValue_decimalDigits n.natAbs, digits, digitsValue_decimalDigits]
  have signs : n < 0 ↔ m < 0 := decide_eq_decide.1 signs
  omega

/-- The value, apart from the sign. -/
def value (t : NumberText) : ℚ :=
  digitsValue (t.digits ++ t.places) * 10 ^ (t.exponent.getD 0 - t.places.length)

end NumberText

namespace FiniteDouble

/-! ### Doubles -/

/-- The number that stands for `n · 10 ^ s`, laid out as documents have it. -/
def layout (negative : Bool) (n : Nat) (s : Int) : NumberText :=
  let digits := decimalDigits n
  let exponent : Int := s + (digits.length - 1)
  if -5 ≤ exponent ∧ exponent ≤ 15 then
    if 0 ≤ s then ⟨negative, digits ++ List.replicate s.toNat '0', ['0'], none⟩
    else if (-s).toNat < digits.length then
      ⟨negative, digits.take (digits.length - (-s).toNat),
        digits.drop (digits.length - (-s).toNat), none⟩
    else ⟨negative, ['0'], List.replicate ((-s).toNat - digits.length) '0' ++ digits, none⟩
  else ⟨negative, digits.take 1, digits.drop 1, some exponent⟩

/-- The number that stands for a double. -/
def toNumberText (x : FiniteDouble) : NumberText :=
  if x.isZero then ⟨x.negative, ['0'], ['0'], none⟩
  else layout x.negative (x.shortest .toEven).1 (x.shortest .toEven).2

lemma write_of_magnitude {t : NumberText} {x : FiniteDouble} {text rest : List Char}
    (sign : t.negative = x.negative) (magnitude : t.writeMagnitude rest = text ++ rest) :
    t.write rest = x.signed text ++ rest := by
  unfold NumberText.write signed
  rw [sign, magnitude]
  split_ifs <;> rfl

lemma withPoint_append {digits : List Char} {places : Nat} (positive : 0 < places)
    (rest : List Char) :
    withPoint digits places ++ rest =
      if places < digits.length then
        digits.take (digits.length - places) ++
          NumberText.writePlaces (digits.drop (digits.length - places)) rest
      else '0' :: NumberText.writePlaces
        (List.replicate (places - digits.length) '0' ++ digits) rest := by
  unfold withPoint NumberText.writePlaces
  split_ifs with inside empty empty
  · have := List.drop_eq_nil_iff.1 empty
    omega
  · simp
  · have short := congrArg List.length empty
    rw [List.length_append, List.length_replicate, List.length_nil] at short
    omega
  · simp

/-- The text of a double is that of the number that stands for it. -/
lemma write_toNumberText (x : FiniteDouble) (rest : List Char) :
    x.toNumberText.write rest = x.documentText ++ rest := by
  unfold toNumberText documentText
  by_cases zero : x.isZero = true
  · rw [if_pos zero, if_pos zero]
    exact write_of_magnitude rfl rfl
  · rw [if_neg zero, if_neg zero]
    obtain ⟨n, s⟩ := x.shortest .toEven
    unfold layout
    dsimp only
    apply write_of_magnitude
    · split_ifs <;> rfl
    · by_cases positional : -5 ≤ s + ((decimalDigits n).length - 1 : Int) ∧
          s + ((decimalDigits n).length - 1 : Int) ≤ 15
      · rw [if_pos positional, if_pos positional]
        by_cases whole : 0 ≤ s
        · rw [if_pos whole, if_pos whole]
          simp [NumberText.writeMagnitude, NumberText.writePlaces, NumberText.writeExponent]
        · rw [if_neg whole, if_neg whole, withPoint_append (by omega)]
          split_ifs <;> rfl
      · rw [if_neg positional, if_neg positional]
        match decimalDigits n with
        | [] => rfl
        | [first] => rfl
        | first :: second :: more =>
          simp [NumberText.writeMagnitude, NumberText.writePlaces, NumberText.writeExponent]

/-! ### Numbers of doubles -/

variable {negative : Bool} {n : Nat} {s : Int}

lemma layout_negative : (layout negative n s).negative = negative := by
  unfold layout
  dsimp only
  split_ifs <;> rfl

/-- A fractional number is marked as such. -/
lemma layout_marked :
    (layout negative n s).places ≠ [] ∨ (layout negative n s).exponent ≠ none := by
  unfold layout
  dsimp only
  split_ifs with positional whole inside
  · simp
  · left
    intro empty
    have := List.drop_eq_nil_iff.1 empty
    omega
  · left
    intro empty
    exact decimalDigits_ne_nil n (List.append_eq_nil_iff.1 empty).2
  · simp

lemma layout_proper (positive : 0 < n) : (layout negative n s).Proper := by
  have digit : ∀ c ∈ decimalDigits n, c.isDigit = true := fun _ => isDigit_of_mem_decimalDigits
  have zeros (count : Nat) : ∀ c ∈ List.replicate count '0', c.isDigit = true := by
    intro c hc
    rw [List.eq_of_mem_replicate hc]
    rfl
  obtain ⟨first, more, digits⟩ := List.exists_cons_of_ne_nil (decimalDigits_ne_nil n)
  have lead : first ≠ '0' := by
    intro zero
    apply head?_decimalDigits positive
    rw [digits, zero]
    rfl
  unfold layout
  dsimp only
  split_ifs with positional whole inside
  · refine ⟨?_, ?_, ?_, by simp⟩
    · simp [decimalDigits_ne_nil]
    · exact List.forall_mem_append.2 ⟨digit, zeros _⟩
    · rw [digits]
      intro zero
      exact absurd (Option.some.inj zero) lead
  · obtain ⟨count, before⟩ : ∃ count, (decimalDigits n).length - (-s).toNat = count + 1 :=
      ⟨_, (Nat.succ_pred_eq_of_pos (by omega)).symm⟩
    refine ⟨?_, fun c hc => digit c (List.mem_of_mem_take hc), ?_,
      fun c hc => digit c (List.mem_of_mem_drop hc)⟩
    · simp [before, decimalDigits_ne_nil]
    · rw [before, digits]
      intro zero
      exact absurd (Option.some.inj zero) lead
  · refine ⟨by simp, by simp, fun _ => rfl, ?_⟩
    exact List.forall_mem_append.2 ⟨zeros _, digit⟩
  · refine ⟨?_, fun c hc => digit c (List.mem_of_mem_take hc), ?_,
      fun c hc => digit c (List.mem_of_mem_drop hc)⟩
    · simp [decimalDigits_ne_nil]
    · rw [digits]
      intro zero
      exact absurd (Option.some.inj zero) lead

/-- Wherever the point stands, and whether there is an exponent, the value is the same. -/
lemma layout_value : (layout negative n s).value = n * 10 ^ s := by
  unfold layout NumberText.value
  dsimp only
  split_ifs with positional whole inside
  · have power : (10 : ℚ) ^ s = 10 ^ s.toNat := by
      rw [← zpow_natCast, Int.toNat_of_nonneg whole]
    rw [List.append_assoc, ← List.replicate_succ', digitsValue_append_zeros,
      digitsValue_decimalDigits, power]
    push_cast
    rw [pow_succ]
    norm_num
    ring
  · have places : (0 : Int) - ((decimalDigits n).drop
        ((decimalDigits n).length - (-s).toNat)).length = s := by
      rw [List.length_drop]
      omega
    simp only [Option.getD_none]
    rw [List.take_append_drop, digitsValue_decimalDigits, places]
  · have places : (0 : Int) - (List.replicate ((-s).toNat - (decimalDigits n).length) '0' ++
        decimalDigits n).length = s := by
      rw [List.length_append, List.length_replicate]
      omega
    simp only [Option.getD_none]
    rw [places, ← List.append_assoc, List.singleton_append, ← List.replicate_succ,
      digitsValue_zeros_append, digitsValue_decimalDigits]
  · have nonempty := List.length_pos_iff.2 (decimalDigits_ne_nil n)
    have places : s + ((decimalDigits n).length - 1 : Int) - ((decimalDigits n).drop 1).length =
        s := by
      rw [List.length_drop]
      omega
    simp only [Option.getD_some]
    rw [List.take_append_drop, digitsValue_decimalDigits, places]

lemma magnitude_ne_zero {x : FiniteDouble} (nonzero : ¬x.isZero = true) : x.magnitude ≠ 0 := by
  intro zero
  exact nonzero (decide_eq_true zero)

lemma toNumberText_negative (x : FiniteDouble) : x.toNumberText.negative = x.negative := by
  unfold toNumberText
  split_ifs
  · rfl
  · exact layout_negative

lemma toNumberText_proper (x : FiniteDouble) : x.toNumberText.Proper := by
  unfold toNumberText
  split_ifs with zero
  · exact ⟨by simp, by simp, fun _ => rfl, by simp⟩
  · exact layout_proper (shortest_holds .toEven x (magnitude_ne_zero zero)).2

lemma toNumberText_marked (x : FiniteDouble) :
    x.toNumberText.places ≠ [] ∨ x.toNumberText.exponent ≠ none := by
  unfold toNumberText
  split_ifs
  · simp
  · exact layout_marked

lemma value_toNumberText_pos {x : FiniteDouble} (nonzero : ¬x.isZero = true) :
    0 < x.toNumberText.value := by
  have positive : (0 : ℚ) < (x.shortest .toEven).1 := by
    exact_mod_cast (shortest_holds .toEven x (magnitude_ne_zero nonzero)).2
  rw [toNumberText, if_neg nonzero, layout_value]
  positivity

lemma value_toNumberText_zero {x : FiniteDouble} (zero : x.isZero = true) :
    x.toNumberText.value = 0 := by
  rw [toNumberText, if_pos zero]
  simp [NumberText.value, digitsValue]

/-- The number that is written for a double tells the double. -/
theorem toNumberText_inj {x y : FiniteDouble} (same : x.toNumberText = y.toNumberText) : x = y := by
  have signs : x.negative = y.negative := by
    rw [← toNumberText_negative, same, toNumberText_negative]
  by_cases hx : x.isZero = true
  · have hy : y.isZero = true := by
      by_contra nonzero
      have positive := value_toNumberText_pos nonzero
      rw [← same, value_toNumberText_zero hx] at positive
      exact lt_irrefl _ positive
    apply eq_of_magnitude_eq signs
    rw [of_decide_eq_true hx, of_decide_eq_true hy]
  · have hy : ¬y.isZero = true := by
      intro zero
      have positive := value_toNumberText_pos hx
      rw [same, value_toNumberText_zero zero] at positive
      exact lt_irrefl _ positive
    apply eq_of_shortest_eq signs (magnitude_ne_zero hx) (magnitude_ne_zero hy)
    rw [toNumberText, if_neg hx, toNumberText, if_neg hy] at same
    have values := congrArg NumberText.value same
    rwa [layout_value, layout_value] at values

/-- No double is written as a whole number. -/
lemma toNumberText_ne_ofInt (x : FiniteDouble) (n : Int) : x.toNumberText ≠ .ofInt n := by
  intro same
  rcases x.toNumberText_marked with places | exponent
  · apply places
    rw [same]
    rfl
  · apply exponent
    rw [same]
    rfl

end FiniteDouble

end DocumentQuery
