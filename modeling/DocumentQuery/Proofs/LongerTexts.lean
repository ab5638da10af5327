import DocumentQuery.Proofs.DocumentText

/-!
# Documents within longer texts

A reader that has found a value in a text finds the same value in front of whatever follows, as long
as a number at the end of the value could not go on. It stops where it did, and fuel that was enough
is still enough. So the text of a value can be put wherever a value may stand, and it need not be a
text that a writer of documents would have chosen: it may have blanks, escapes of any kind, and
numbers and surrogates that no document has.
-/

namespace DocumentQuery

open NumberText

namespace JsonText

/-- What the first reader takes from a text, the second one takes from every text that starts with
it, unless a number at its end could go on. -/
def Extends {α : Type} (read read' : List Char → Option (α × List Char)) : Prop :=
  ∀ ⦃text a left⦄, read text = some (a, left) →
    ∀ rest, Stops rest → read' (text ++ rest) = some (a, left ++ rest)

variable {α β : Type} {text left rest : List Char} {fuel more : Nat}

lemma Extends.map {read read' : List Char → Option (α × List Char)} (h : Extends read read')
    (f : α → β) : Extends (fun text => (read text).map fun (a, left) => (f a, left))
      (fun text => (read' text).map fun (a, left) => (f a, left)) := by
  intro text b left found rest stops
  obtain ⟨⟨a, left⟩, taken, same⟩ := Option.map_eq_some_iff.1 found
  cases same
  dsimp only
  rw [h taken rest stops, Option.map_some]

/-! ### Blanks -/

lemma skipBlank_append_cons {c : Char} (h : skipBlank text = c :: left) (rest : List Char) :
    skipBlank (text ++ rest) = c :: (left ++ rest) := by
  unfold skipBlank at h ⊢
  rw [List.dropWhile_append, h]
  rfl

lemma skipBlank_append_blank (h : skipBlank text = []) (rest : List Char) :
    skipBlank (text ++ rest) = skipBlank rest := by
  unfold skipBlank at h ⊢
  rw [List.dropWhile_append, h]
  rfl

lemma skipBlank_append_ne {c : Char} (nonempty : skipBlank text ≠ [])
    (other : ∀ left, skipBlank text ≠ c :: left) (rest left : List Char) :
    skipBlank (text ++ rest) ≠ c :: left := by
  obtain ⟨d, later, start⟩ := List.exists_cons_of_ne_nil nonempty
  rw [skipBlank_append_cons start]
  rintro same
  exact other later (by rw [start, (List.cons.inj same).1])

/-- Readers that need something to read agree behind blanks as well. -/
lemma Extends.skipBlank {read read' : List Char → Option (α × List Char)} (h : Extends read read')
    (nothing : read [] = none) {a : α} (found : read (skipBlank text) = some (a, left))
    (stops : Stops rest) : read' (JsonText.skipBlank (text ++ rest)) = some (a, left ++ rest) := by
  cases start : JsonText.skipBlank text with
  | nil =>
    rw [start, nothing] at found
    cases found
  | cons c later =>
    rw [skipBlank_append_cons start, ← List.cons_append, ← start]
    exact h found rest stops

/-! ### Strings and numbers -/

/-- A string ends at its closing quote. -/
lemma extends_readPieces : Extends Quoted.readPieces Quoted.readPieces := by
  intro text pieces left found rest stops
  fun_induction Quoted.readPieces text generalizing pieces left with
  | case1 | case3 | case5 | case7 => cases found
  | case2 text =>
    cases found
    rw [List.cons_append, Quoted.readPieces]
  | case4 a b c d text n unit ih =>
    obtain ⟨⟨pieces, left⟩, taken, same⟩ := Option.map_eq_some_iff.1 found
    cases same
    simp only [List.cons_append]
    rw [Quoted.readPieces, unit]
    dsimp only
    rw [ih taken, Option.map_some]
  | case6 mark text other c short ih =>
    obtain ⟨⟨pieces, left⟩, taken, same⟩ := Option.map_eq_some_iff.1 found
    cases same
    have not_unit : mark ≠ 'u' := by
      rintro rfl
      cases short
    simp only [List.cons_append]
    rw [Quoted.readPieces, short]
    · dsimp only
      rw [ih taken, Option.map_some]
    · exact fun _ _ _ _ _ same => absurd same not_unit
  | case8 c text quote unit slash plain ih =>
    obtain ⟨⟨pieces, left⟩, taken, same⟩ := Option.map_eq_some_iff.1 found
    cases same
    rw [List.cons_append, Quoted.readPieces]
    · rw [if_neg plain, ih taken, Option.map_some]
    · exact quote
    · exact fun _ _ _ _ _ same => absurd (.inr same) plain
    · exact fun _ _ same => absurd (.inr same) plain

lemma takeWhile_append_ends (text : List Char) (h : Ends rest) :
    (text ++ rest).takeWhile Char.isDigit = text.takeWhile Char.isDigit := by
  induction text with
  | nil => exact takeWhile_digits (by simp) h
  | cons c text ih => rw [List.cons_append, List.takeWhile_cons, List.takeWhile_cons, ih]

lemma dropWhile_append_ends (text : List Char) (h : Ends rest) :
    (text ++ rest).dropWhile Char.isDigit = text.dropWhile Char.isDigit ++ rest := by
  induction text with
  | nil => exact dropWhile_digits (by simp) h
  | cons c text ih =>
    rw [List.cons_append, List.dropWhile_cons, List.dropWhile_cons, ih]
    split_ifs <;> rfl

lemma extends_readPlaces : Extends readPlaces readPlaces := by
  intro text places left found rest stops
  unfold readPlaces at found
  split at found
  · rename_i text
    dsimp only at found
    split_ifs at found with empty
    cases found
    rw [List.cons_append, readPlaces, takeWhile_append_ends text stops.ends,
      dropWhile_append_ends text stops.ends]
    exact if_neg empty
  · rename_i other
    cases found
    rw [readPlaces]
    intro more point
    cases text with
    | nil =>
      have head : '.' ∈ rest.head? := by
        rw [← List.nil_append rest, point]
        rfl
      exact (stops '.' head).2.1 rfl
    | cons c text => exact other text (by rw [(List.cons.inj point).1])

/-- The sign in front of an exponent, and what follows it. -/
def splitSign : List Char → Bool × List Char
  | '-' :: text => (true, text)
  | '+' :: text => (false, text)
  | text => (false, text)

/-- The exponent behind its mark. -/
def readSigned (signed : Bool × List Char) : Option (Option Int × List Char) :=
  let digits := signed.2.takeWhile Char.isDigit
  if digits.isEmpty then none
  else
    let n : Int := digitsValue digits
    some (some (if signed.1 then -n else n), signed.2.dropWhile Char.isDigit)

lemma readExponent_mark {c : Char} (mark : c = 'e' ∨ c = 'E') (text : List Char) :
    readExponent (c :: text) = readSigned (splitSign text) := by
  unfold readExponent
  dsimp only
  rw [if_pos mark]
  rfl

lemma readExponent_other {c : Char} (other : ¬(c = 'e' ∨ c = 'E')) (text : List Char) :
    readExponent (c :: text) = some (none, c :: text) := by
  unfold readExponent
  dsimp only
  rw [if_neg other]

lemma splitSign_append (nonempty : text ≠ []) (rest : List Char) :
    splitSign (text ++ rest) = ((splitSign text).1, (splitSign text).2 ++ rest) := by
  obtain ⟨c, text, rfl⟩ := List.exists_cons_of_ne_nil nonempty
  rw [List.cons_append]
  unfold splitSign
  split <;> simp_all

lemma readSigned_append {negative : Bool} {digits : List Char} {exponent : Option Int}
    (h : readSigned (negative, digits) = some (exponent, left)) (stops : Stops rest) :
    readSigned (negative, digits ++ rest) = some (exponent, left ++ rest) := by
  unfold readSigned at h ⊢
  dsimp only at h ⊢
  rw [takeWhile_append_ends digits stops.ends, dropWhile_append_ends digits stops.ends]
  by_cases empty : (digits.takeWhile Char.isDigit).isEmpty = true
  · rw [if_pos empty] at h
    cases h
  · rw [if_neg empty] at h ⊢
    cases h
    rfl

lemma extends_readExponent : Extends readExponent readExponent := by
  intro text exponent left found rest stops
  cases text with
  | nil =>
    cases found
    exact readExponent_writeExponent none stops
  | cons c text =>
    rw [List.cons_append]
    by_cases mark : c = 'e' ∨ c = 'E'
    · rw [readExponent_mark mark] at found ⊢
      have nonempty : text ≠ [] := by
        rintro rfl
        cases found
      rw [splitSign_append nonempty]
      exact readSigned_append found stops
    · rw [readExponent_other mark] at found ⊢
      cases found
      rfl

lemma extends_readNumber (negative : Bool) :
    Extends (readNumber negative) (readNumber negative) := by
  intro text v left found rest stops
  unfold readNumber at found ⊢
  dsimp only at found ⊢
  rw [takeWhile_append_ends text stops.ends, dropWhile_append_ends text stops.ends]
  split_ifs at found ⊢ with improper
  obtain ⟨⟨places, afterPlaces⟩, hplaces, found⟩ := Option.bind_eq_some_iff.1 found
  obtain ⟨⟨exponent, afterExponent⟩, hexponent, found⟩ := Option.bind_eq_some_iff.1 found
  cases found
  rw [extends_readPlaces hplaces rest stops]
  refine Option.bind_eq_some_iff.2 ⟨_, rfl, ?_⟩
  dsimp only
  rw [extends_readExponent hexponent rest stops]
  rfl

lemma exists_digit_of_readNumber {negative : Bool} {v : JsonText}
    (h : readNumber negative text = some (v, left)) :
    ∃ c more, text = c :: more ∧ c.isDigit = true := by
  unfold readNumber at h
  dsimp only at h
  split_ifs at h with improper
  cases text with
  | nil => simp at improper
  | cons c text =>
    refine ⟨c, text, rfl, ?_⟩
    by_contra other
    simp [other] at improper

/-! ### Items and members

A list of items or members is one of them, and then the closing bracket or a comma and more. -/

lemma readItems_eq_some_iff {items : List JsonText} :
    readItems (fuel + 1) text = some (items, left) ↔
      ∃ item after, readValue fuel (skipBlank text) = some (item, after) ∧
        (skipBlank after = ']' :: left ∧ items = [item] ∨
          ∃ next later, skipBlank after = ',' :: next ∧ readItems fuel next = some (later, left) ∧
            items = item :: later) := by
  rw [readItems]
  constructor
  · intro h
    split at h
    · cases h
    · rename_i item after first
      refine ⟨item, after, first, ?_⟩
      split at h
      · rename_i close
        cases h
        exact .inl ⟨close, rfl⟩
      · rename_i next comma
        obtain ⟨⟨later, left⟩, read, same⟩ := Option.map_eq_some_iff.1 h
        cases same
        exact .inr ⟨next, later, comma, read, rfl⟩
      · cases h
  · rintro ⟨item, after, first, ⟨close, rfl⟩ | ⟨next, later, comma, read, rfl⟩⟩
    · simp only [first, close]
    · simp only [first, comma, read, Option.map_some]

/-- The text starts with a member: a key and a value with a colon between them. -/
def MemberAt (fuel : Nat) (text : List Char) (member : List Quoted.Piece × JsonText)
    (after : List Char) : Prop :=
  ∃ body afterKey start, skipBlank text = '"' :: body ∧
    Quoted.readPieces body = some (member.1, afterKey) ∧ skipBlank afterKey = ':' :: start ∧
    readValue fuel (skipBlank start) = some (member.2, after)

lemma readMembers_eq_some_iff {members : List (List Quoted.Piece × JsonText)} :
    readMembers (fuel + 1) text = some (members, left) ↔
      ∃ member after, MemberAt fuel text member after ∧
        (skipBlank after = '\x7d' :: left ∧ members = [member] ∨
          ∃ next later, skipBlank after = ',' :: next ∧
            readMembers fuel next = some (later, left) ∧ members = member :: later) := by
  rw [readMembers]
  constructor
  · intro h
    split at h
    · rename_i body quote
      split at h
      · cases h
      · rename_i key afterKey hkey
        split at h
        · rename_i start colon
          split at h
          · cases h
          · rename_i value after first
            refine ⟨(key, value), after, ⟨body, afterKey, start, quote, hkey, colon, first⟩, ?_⟩
            split at h
            · rename_i close
              cases h
              exact .inl ⟨close, rfl⟩
            · rename_i next comma
              obtain ⟨⟨later, left⟩, read, same⟩ := Option.map_eq_some_iff.1 h
              cases same
              exact .inr ⟨next, later, comma, read, rfl⟩
            · cases h
        · cases h
    · cases h
  · rintro ⟨⟨key, value⟩, after, ⟨body, afterKey, start, quote, hkey, colon, first⟩,
      ⟨close, rfl⟩ | ⟨next, later, comma, read, rfl⟩⟩
    · simp only [quote, hkey, colon, first, close]
    · simp only [quote, hkey, colon, first, comma, read, Option.map_some]

/-! Nothing is no value, and neither items nor members. -/

lemma readValue_nil : readValue fuel [] = none := by
  cases fuel <;> rfl

lemma readItems_nil : readItems fuel [] = none := by
  cases fuel with
  | zero => rfl
  | succ fuel =>
    have nothing : skipBlank [] = [] := rfl
    rw [readItems, nothing, readValue_nil]

lemma readMembers_nil : readMembers fuel [] = none := by
  cases fuel <;> rfl

lemma extends_readItems_succ (value : Extends (readValue fuel) (readValue more))
    (items : Extends (readItems fuel) (readItems more)) :
    Extends (readItems (fuel + 1)) (readItems (more + 1)) := by
  intro text found left h rest stops
  obtain ⟨item, after, first, tail⟩ := readItems_eq_some_iff.1 h
  refine readItems_eq_some_iff.2
    ⟨item, after ++ rest, value.skipBlank readValue_nil first stops, ?_⟩
  rcases tail with ⟨close, same⟩ | ⟨next, later, comma, read, same⟩
  · exact .inl ⟨skipBlank_append_cons close rest, same⟩
  · exact .inr ⟨next ++ rest, later, skipBlank_append_cons comma rest, items read rest stops,
      same⟩

lemma MemberAt.append (value : Extends (readValue fuel) (readValue more))
    {member : List Quoted.Piece × JsonText} {after : List Char}
    (h : MemberAt fuel text member after) (stops : Stops rest) :
    MemberAt more (text ++ rest) member (after ++ rest) := by
  obtain ⟨body, afterKey, start, quote, key, colon, first⟩ := h
  exact ⟨body ++ rest, afterKey ++ rest, start ++ rest, skipBlank_append_cons quote rest,
    extends_readPieces key rest stops, skipBlank_append_cons colon rest,
    value.skipBlank readValue_nil first stops⟩

lemma extends_readMembers_succ (value : Extends (readValue fuel) (readValue more))
    (members : Extends (readMembers fuel) (readMembers more)) :
    Extends (readMembers (fuel + 1)) (readMembers (more + 1)) := by
  intro text found left h rest stops
  obtain ⟨member, after, first, tail⟩ := readMembers_eq_some_iff.1 h
  refine readMembers_eq_some_iff.2 ⟨member, after ++ rest, first.append value stops, ?_⟩
  rcases tail with ⟨close, same⟩ | ⟨next, later, comma, read, same⟩
  · exact .inl ⟨skipBlank_append_cons close rest, same⟩
  · exact .inr ⟨next ++ rest, later, skipBlank_append_cons comma rest, members read rest stops,
      same⟩

/-! ### Values -/

lemma readValue_bracket_eq_some_iff {v : JsonText} :
    readValue (fuel + 1) ('[' :: text) = some (v, left) ↔
      skipBlank text = ']' :: left ∧ v = .array [] ∨
        ∃ items, (∀ rest, skipBlank text ≠ ']' :: rest) ∧
          readItems fuel (skipBlank text) = some (items, left) ∧ v = .array items := by
  rw [readValue]
  constructor
  · intro h
    split at h
    · rename_i close
      cases h
      exact .inl ⟨close, rfl⟩
    · rename_i other
      obtain ⟨⟨items, left⟩, read, same⟩ := Option.map_eq_some_iff.1 h
      cases same
      exact .inr ⟨items, other, read, rfl⟩
  · rintro (⟨close, rfl⟩ | ⟨items, other, read, rfl⟩)
    · simp only [close]
    · split
      · exact absurd ‹_› (other _)
      · rw [read, Option.map_some]

lemma readValue_brace_eq_some_iff {v : JsonText} :
    readValue (fuel + 1) ('\x7b' :: text) = some (v, left) ↔
      skipBlank text = '\x7d' :: left ∧ v = .object [] ∨
        ∃ members, (∀ rest, skipBlank text ≠ '\x7d' :: rest) ∧
          readMembers fuel (skipBlank text) = some (members, left) ∧ v = .object members := by
  rw [readValue]
  constructor
  · intro h
    split at h
    · rename_i close
      cases h
      exact .inl ⟨close, rfl⟩
    · rename_i other
      obtain ⟨⟨members, left⟩, read, same⟩ := Option.map_eq_some_iff.1 h
      cases same
      exact .inr ⟨members, other, read, rfl⟩
  · rintro (⟨close, rfl⟩ | ⟨members, other, read, rfl⟩)
    · simp only [close]
    · split
      · exact absurd ‹_› (other _)
      · rw [read, Option.map_some]

lemma skipBlank_ne_nil {read : List Char → Option (α × List Char)} (nothing : read [] = none)
    {a : α} (found : read (skipBlank text) = some (a, left)) : skipBlank text ≠ [] := by
  intro empty
  rw [empty, nothing] at found
  cases found

lemma extends_readValue_succ (items : Extends (readItems fuel) (readItems more))
    (members : Extends (readMembers fuel) (readMembers more)) :
    Extends (readValue (fuel + 1)) (readValue (more + 1)) := by
  intro text v left found rest stops
  -- The cases of the reader: three words, a string, an array, an object, numbers of either sign.
  have h := found
  unfold readValue at h
  split at h
  · cases h
    rfl
  · cases h
    rfl
  · cases h
    rfl
  · rw [List.cons_append, readValue]
    exact extends_readPieces.map JsonText.string h rest stops
  · rw [List.cons_append, readValue_bracket_eq_some_iff]
    rcases readValue_bracket_eq_some_iff.1 found with ⟨close, same⟩ | ⟨inside, other, read, same⟩
    · exact .inl ⟨skipBlank_append_cons close rest, same⟩
    · have nonempty := skipBlank_ne_nil readItems_nil read
      exact .inr ⟨inside, skipBlank_append_ne nonempty other rest,
        items.skipBlank readItems_nil read stops, same⟩
  · rw [List.cons_append, readValue_brace_eq_some_iff]
    rcases readValue_brace_eq_some_iff.1 found with ⟨close, same⟩ | ⟨inside, other, read, same⟩
    · exact .inl ⟨skipBlank_append_cons close rest, same⟩
    · have nonempty := skipBlank_ne_nil readMembers_nil read
      exact .inr ⟨inside, skipBlank_append_ne nonempty other rest,
        members.skipBlank readMembers_nil read stops, same⟩
  · rw [List.cons_append, readValue]
    exact extends_readNumber true h rest stops
  · obtain ⟨c, later, rfl, digit⟩ := exists_digit_of_readNumber h
    rw [List.cons_append, Json.readValue_digit digit, ← List.cons_append]
    exact extends_readNumber false h rest stops

/-- What is read with some fuel is read with any more in every longer text. -/
lemma extends_readers (enough : fuel ≤ more) :
    Extends (readValue fuel) (readValue more) ∧ Extends (readItems fuel) (readItems more) ∧
      Extends (readMembers fuel) (readMembers more) := by
  induction fuel generalizing more with
  | zero => exact ⟨nofun, nofun, nofun⟩
  | succ fuel ih =>
    obtain ⟨more, rfl⟩ : ∃ n, more = n + 1 := ⟨more - 1, by omega⟩
    obtain ⟨value, items, members⟩ := ih (Nat.le_of_succ_le_succ enough)
    exact ⟨extends_readValue_succ items members, extends_readItems_succ value items,
      extends_readMembers_succ value members⟩

/-- A value is read the same in a longer text and with more fuel. -/
theorem extends_readValue (enough : fuel ≤ more) : Extends (readValue fuel) (readValue more) :=
  (extends_readers enough).1

end JsonText

end DocumentQuery
