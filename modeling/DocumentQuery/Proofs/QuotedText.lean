import Mathlib.Tactic
import DocumentQuery.Text.Quoted

/-!
# Quoted texts are read as they are written

A writer may leave a character as it is, or use the short escape that stands for it, or the number
of its code unit. Whatever it does for each of the characters, the reader stops at the closing
quote, and the pieces that it finds stand for the characters that were written.
-/

namespace DocumentQuery.Quoted

/-- The ways to write a character, and the piece that each is read as. -/
inductive Escaped (c : Char) : List Char → Piece → Prop
  | plain (visible : 0x20 ≤ c.toNat) (quote : c ≠ '"') (slash : c ≠ '\\') :
    Escaped c [c] (.char c)
  | short (mark : Char) (h : unescape? mark = some c) : Escaped c ['\\', mark] (.char c)
  | unit (h : c.toNat < 0x10000) : Escaped c (unicodeEscape c.toNat) (.unit c.toNat)

lemma hexValue?_hexDigit : ∀ n < 16, hexValue? (hexDigit n) = some n := by decide

lemma codeUnit?_digits {n : Nat} (h : n < 0x10000) :
    codeUnit? (hexDigit (n / 4096 % 16)) (hexDigit (n / 256 % 16)) (hexDigit (n / 16 % 16))
      (hexDigit (n % 16)) = some n := by
  have value : 4096 * (n / 4096 % 16) + 256 * (n / 256 % 16) + 16 * (n / 16 % 16) + n % 16 = n := by
    omega
  unfold codeUnit?
  rw [hexValue?_hexDigit _ (by omega), hexValue?_hexDigit _ (by omega),
    hexValue?_hexDigit _ (by omega), hexValue?_hexDigit _ (by omega)]
  exact congrArg some value

namespace Escaped

variable {c : Char} {text : List Char} {piece : Piece}

lemma readPieces (h : Escaped c text piece) (rest : List Char) :
    readPieces (text ++ rest) =
      (Quoted.readPieces rest).map fun (pieces, rest) => (piece :: pieces, rest) := by
  cases h with
  | plain visible quote slash =>
    have : ¬c.toNat < 0x20 := by omega
    rw [List.singleton_append, Quoted.readPieces.eq_def]
    split <;> simp_all
  | short mark h =>
    unfold unescape? at h
    split at h <;> cases h <;> rfl
  | unit h =>
    unfold unicodeEscape
    simp only [List.cons_append, List.nil_append]
    rw [Quoted.readPieces, codeUnit?_digits h]

/-- No character is a surrogate. -/
lemma joinPieces? (h : Escaped c text piece) (pieces : List Piece) :
    joinPieces? (piece :: pieces) = (Quoted.joinPieces? pieces).map (c :: ·) := by
  cases h with
  | plain | short => rw [Quoted.joinPieces?]
  | unit h =>
    have valid : c.toNat < 0xD800 ∨ 0xDFFF < c.toNat := by
      rcases c.valid with low | high
      · exact .inl low
      · exact .inr high.1
    have leading : isLeadingSurrogate c.toNat = false := by
      simp [isLeadingSurrogate]
      omega
    have trailing : isTrailingSurrogate c.toNat = false := by
      simp [isTrailingSurrogate]
      omega
    rw [Quoted.joinPieces?.eq_def]
    simp [leading, trailing]

end Escaped

/-! ### Whole texts -/

variable {escape : Char → List Char} {piece : Char → Piece}

/-- A text is read up to its closing quote. -/
theorem readPieces_writeWith (h : ∀ c, Escaped c (escape c) (piece c)) (s rest : List Char) :
    readPieces (s.flatMap escape ++ '"' :: rest) = some (s.map piece, rest) := by
  induction s with
  | nil => simp [readPieces]
  | cons c s ih => rw [List.flatMap_cons, List.append_assoc, (h c).readPieces, ih]; rfl

/-- The pieces of a text stand for its characters. -/
theorem joinPieces?_map (h : ∀ c, Escaped c (escape c) (piece c)) (s : List Char) :
    joinPieces? (s.map piece) = some s := by
  induction s with
  | nil => rfl
  | cons c s ih => rw [List.map_cons, (h c).joinPieces?, ih]; rfl

/-! ### Strings of documents -/

/-- The piece that a character of a string is read as. -/
def pieceOf (c : Char) : Piece :=
  if (escapeChar c).length = 6 then .unit c.toNat else .char c

lemma escaped_escapeChar (c : Char) : Escaped c (escapeChar c) (pieceOf c) := by
  unfold pieceOf escapeChar
  split
  · exact .short _ rfl
  · exact .short _ rfl
  · exact .short _ rfl
  · exact .short _ rfl
  · exact .short _ rfl
  · exact .short _ rfl
  · exact .short _ rfl
  · split
    · exact .unit (by omega)
    · exact .plain (by omega) ‹_› ‹_›

/-- The pieces that a string is read as. -/
def piecesOf (s : String) : List Piece := s.toList.map pieceOf

lemma joinPieces?_piecesOf (s : String) : joinPieces? (piecesOf s) = some s.toList :=
  joinPieces?_map escaped_escapeChar s.toList

lemma piecesOf_inj {s s' : String} (same : piecesOf s = piecesOf s') : s = s' := by
  have texts := congrArg joinPieces? same
  rw [joinPieces?_piecesOf, joinPieces?_piecesOf] at texts
  exact String.toList_inj.1 (Option.some.inj texts)

end DocumentQuery.Quoted
