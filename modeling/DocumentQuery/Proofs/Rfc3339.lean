import Mathlib.Tactic
import DocumentQuery.Time.Rfc3339
import DocumentQuery.Proofs.Digits

/-!
# The text of a timestamp names the timestamp

Each part of the text is read back up to the mark that follows it, because no mark is a digit or a
blank. The widths make the parts unambiguous, years outside the four digits by their sign, and the
offset is always that of UTC, so the local time read is the one written.
-/

namespace DocumentQuery

lemma CivilDate.of?_fields (d : CivilDate) : CivilDate.of? d.year d.month d.day = some d := by
  rw [CivilDate.of?, dif_pos d.valid]

lemma ClockTime.of?_fields (t : ClockTime) :
    ClockTime.of? t.hour t.minute t.second t.nanosecond = some t := by
  rw [ClockTime.of?, dif_pos t.valid]

lemma Timestamp.ofLocal?_utc (date : CivilDate) (time : ClockTime) :
    Timestamp.ofLocal? date time 0 = some ⟨date, time⟩ := by
  obtain ⟨hour, minute, -, -⟩ := time.valid
  have early : ¬((time.hour : Int) * 60 + time.minute - 0 < 0) := by omega
  have late : ¬(1440 ≤ (time.hour : Int) * 60 + time.minute - 0) := by omega
  have inDay : (((time.hour : Int) * 60 + time.minute - 0) % 1440).toNat =
      time.hour * 60 + time.minute := by omega
  have hours : (time.hour * 60 + time.minute) / 60 = time.hour := by omega
  have minutes : (time.hour * 60 + time.minute) % 60 = time.minute := by omega
  simp only [Timestamp.ofLocal?, if_neg early, if_neg late, inDay, hours, minutes,
    ClockTime.of?_fields]
  rfl

namespace Rfc3339

/-! ### Digits -/

lemma isDigit_of_mem_padded {width n : Nat} {c : Char} (hc : c ∈ padded width n) :
    c.isDigit = true := by
  rcases List.mem_append.1 hc with zero | digit
  · rw [List.eq_of_mem_replicate zero]
    rfl
  · exact isDigit_of_mem_decimalDigits digit

lemma digitsValue_padded (width n : Nat) : digitsValue (padded width n) = n := by
  unfold padded
  rw [digitsValue_zeros_append, digitsValue_decimalDigits]

lemma padded_ne_nil (width n : Nat) : padded width n ≠ [] := by
  simp [padded, decimalDigits]

lemma length_padded {width n : Nat} (hwidth : 0 < width) (hn : n < 10 ^ width) :
    (padded width n).length = width := by
  have short := (Nat.length_toDigits_le_iff (b := 10) (by decide) hwidth).2 hn
  simp only [padded, decimalDigits, List.length_append, List.length_replicate]
  omega

lemma takeWhile_padded (width n : Nat) {rest : List Char} (hrest : Ends rest) :
    (padded width n ++ rest).takeWhile Char.isDigit = padded width n :=
  takeWhile_digits (fun _ hc => isDigit_of_mem_padded hc) hrest

lemma dropWhile_padded (width n : Nat) {rest : List Char} (hrest : Ends rest) :
    (padded width n ++ rest).dropWhile Char.isDigit = rest :=
  dropWhile_digits (fun _ hc => isDigit_of_mem_padded hc) hrest

/-- A number is read in full when the width admits it, and no further when it fills the width or
no digit follows. -/
lemma readDigits_padded {width limit n : Nat} {rest : List Char}
    (hlimit : (padded width n).length ≤ limit)
    (hrest : (padded width n).length = limit ∨ Ends rest) :
    readDigits limit (padded width n ++ rest) = some (n, rest) := by
  have digits : ((padded width n ++ rest).take limit).takeWhile Char.isDigit =
      padded width n := by
    rcases hrest with full | ends
    · rw [← full, List.take_left]
      simpa using takeWhile_padded width n ends_nil
    · rw [List.take_append, List.take_of_length_le hlimit]
      apply takeWhile_padded width n
      intro c hc
      apply ends c
      cases rest with
      | nil => simp at hc
      | cons head rest =>
        cases room : limit - (padded width n).length with
        | zero => simp [room] at hc
        | succ room' => simpa [room] using hc
  simp [readDigits, digits, padded_ne_nil, digitsValue_padded]

/-! ### Marks and blanks -/

lemma isWhiteSpace_of_isDigit {c : Char} (hc : c.isDigit = true) : isWhiteSpace c = false := by
  have range : 48 ≤ c.toNat ∧ c.toNat ≤ 57 := Char.isDigit_iff_toNat.1 hc
  simp only [isWhiteSpace, Bool.or_eq_false_iff, Bool.and_eq_false_iff, decide_eq_false_iff_not]
  omega

lemma skipBlank_cons {c : Char} (hc : isWhiteSpace c = false) (rest : List Char) :
    skipBlank (c :: rest) = c :: rest := by
  simp [skipBlank, hc]

lemma skipBlank_padded (width n : Nat) (rest : List Char) :
    skipBlank (padded width n ++ rest) = padded width n ++ rest := by
  cases digits : padded width n with
  | nil => exact absurd digits (padded_ne_nil width n)
  | cons c more =>
    have first : c.isDigit = true := isDigit_of_mem_padded (by rw [digits]; simp)
    exact skipBlank_cons (isWhiteSpace_of_isDigit first) _

lemma readMark_cons {mark : Char} (hmark : isWhiteSpace mark = false) (rest : List Char) :
    readMark mark (mark :: rest) = some rest := by
  simp [readMark, skipBlank_cons hmark]

/-! ### The parts of a text -/

lemma readTwo_padded {n : Nat} (hn : n < 100) (rest : List Char) :
    readTwo (padded 2 n ++ rest) = some (n, rest) := by
  have width : (padded 2 n).length = 2 := length_padded (by decide) hn
  rw [readTwo, skipBlank_padded, readDigits_padded (by omega) (.inl width)]

lemma readDigits_rest (width n : Nat) {rest : List Char} (hrest : Ends rest) :
    readDigits (padded width n ++ rest).length (padded width n ++ rest) = some (n, rest) :=
  readDigits_padded (by simp) (.inr hrest)

/-- A digit is no sign: the year is read as four digits. -/
lemma readYear_digit {c : Char} (hc : c.isDigit = true) (rest : List Char) :
    readYear (c :: rest) =
      (readDigits 4 (c :: rest)).map fun (n, rest) => ((n : Int), rest) := by
  have minus : c ≠ '-' := by
    rintro rfl
    exact absurd hc (by decide)
  have plus : c ≠ '+' := by
    rintro rfl
    exact absurd hc (by decide)
  simp [readYear, skipBlank_cons (isWhiteSpace_of_isDigit hc), minus, plus]

lemma readYear_writeYear (year : Int) {rest : List Char} (hrest : Ends rest) :
    readYear (writeYear year ++ rest) = some (year, rest) := by
  by_cases four : 0 ≤ year ∧ year ≤ 9999
  · have width : (padded 4 year.toNat).length = 4 := length_padded (by decide) (by omega)
    have read : readDigits 4 (padded 4 year.toNat ++ rest) = some (year.toNat, rest) :=
      readDigits_padded (by omega) (.inl width)
    have value : ((year.toNat : Nat) : Int) = year := by omega
    rw [writeYear, if_pos four]
    cases digits : padded 4 year.toNat with
    | nil => exact absurd digits (padded_ne_nil 4 _)
    | cons c more =>
      have first : c.isDigit = true := isDigit_of_mem_padded (by rw [digits]; simp)
      rw [digits] at read
      rw [List.cons_append] at read ⊢
      simp only [readYear_digit first, read, Option.map_some, value]
  · rw [writeYear, if_neg four]
    by_cases negative : year < 0
    · have magnitude : -((year.natAbs : Nat) : Int) = year := by omega
      have blank : isWhiteSpace '-' = false := by decide
      simp only [if_pos negative, readYear, List.cons_append, skipBlank_cons blank,
        readDigits_rest 4 _ hrest, Option.map_some, magnitude]
    · have magnitude : ((year.natAbs : Nat) : Int) = year := by omega
      have blank : isWhiteSpace '+' = false := by decide
      simp only [if_neg negative, readYear, List.cons_append, skipBlank_cons blank,
        readDigits_rest 4 _ hrest, Option.map_some, magnitude]

lemma readFraction_point {width n : Nat} (hwidth : 0 < width ∧ width ≤ 9) (hn : n < 10 ^ width)
    {rest : List Char} (hrest : Ends rest) :
    readFraction ('.' :: padded width n ++ rest) = some (n * powerOfTen (9 - width), rest) := by
  have digits := takeWhile_padded width n hrest
  have after := dropWhile_padded width n hrest
  have length := length_padded hwidth.1 hn
  have kept : (padded width n).take 9 = padded width n := List.take_of_length_le (by omega)
  simp [readFraction, digits, after, kept, length, padded_ne_nil, digitsValue_padded]

/-- The fraction is exact, with whichever number of digits it is written. -/
lemma readFraction_writeFraction {n : Nat} (hn : n < 1000000000) {rest : List Char}
    (hrest : Ends rest) (hpoint : rest.head? ≠ some '.') :
    readFraction (writeFraction n ++ rest) = some (n, rest) := by
  unfold writeFraction
  split_ifs with zero milli micro
  · subst zero
    cases rest with
    | nil => rfl
    | cons c rest =>
      have other : c ≠ '.' := by simpa using hpoint
      simp [readFraction, other]
  · have value : n / 1000000 * powerOfTen (9 - 3) = n := by simp [powerOfTen]; omega
    rw [readFraction_point (by decide) (by omega) hrest, value]
  · have value : n / 1000 * powerOfTen (9 - 6) = n := by simp [powerOfTen]; omega
    rw [readFraction_point (by decide) (by omega) hrest, value]
  · have value : n * powerOfTen (9 - 9) = n := by simp [powerOfTen]
    rw [readFraction_point (by decide) (by omega) hrest, value]

/-- Reading undoes writing. -/
theorem read?_write (t : Timestamp) : read? (write t) = some t := by
  obtain ⟨-, -, -, hmonth, -, hday⟩ := t.date.valid
  obtain ⟨hhour, hminute, hsecond, hnanosecond⟩ := t.time.valid
  have hdays : t.date.day < 100 := by
    have most : daysInMonth t.date.year t.date.month ≤ 31 := by
      unfold daysInMonth
      split_ifs <;> omega
    omega
  have dash : isWhiteSpace '-' = false := by decide
  have colon : isWhiteSpace ':' = false := by decide
  simp only [write, List.append_assoc, List.cons_append]
  refine Option.bind_eq_some_iff.2 ⟨_, readYear_writeYear _ (ends_cons (by decide) _), ?_⟩
  refine Option.bind_eq_some_iff.2 ⟨_, readMark_cons dash _, ?_⟩
  refine Option.bind_eq_some_iff.2 ⟨_, readTwo_padded (by omega) _, ?_⟩
  refine Option.bind_eq_some_iff.2 ⟨_, readMark_cons dash _, ?_⟩
  refine Option.bind_eq_some_iff.2 ⟨_, readTwo_padded hdays _, ?_⟩
  refine Option.bind_eq_some_iff.2 ⟨_, readTwo_padded (by omega) _, ?_⟩
  refine Option.bind_eq_some_iff.2 ⟨_, readMark_cons colon _, ?_⟩
  refine Option.bind_eq_some_iff.2 ⟨_, readTwo_padded (by omega) _, ?_⟩
  refine Option.bind_eq_some_iff.2 ⟨_, readMark_cons colon _, ?_⟩
  refine Option.bind_eq_some_iff.2 ⟨_, readTwo_padded (by omega) _, ?_⟩
  refine Option.bind_eq_some_iff.2
    ⟨_, readFraction_writeFraction hnanosecond (ends_cons (by decide) _) (by decide), ?_⟩
  refine Option.bind_eq_some_iff.2 ⟨(0, []), rfl, ?_⟩
  refine Option.bind_eq_some_iff.2 ⟨_, t.date.of?_fields, ?_⟩
  refine Option.bind_eq_some_iff.2 ⟨_, t.time.of?_fields, ?_⟩
  exact Timestamp.ofLocal?_utc t.date t.time

theorem ofText?_toText (t : Timestamp) : ofText? (toText t) = some t := by
  rw [ofText?, toText, String.toList_ofList, read?_write]

end Rfc3339

end DocumentQuery
