import Mathlib.Tactic
import DocumentQuery.Text.Base64

/-!
# Base64 texts name the bytes they were written for

A group of four symbols is read through the value of each symbol. The pad is not a symbol, so a
group that ends in a pad is never taken for a full one, and decoding undoes encoding group by group.
-/

namespace DocumentQuery.Base64

lemma symbolValue?_symbol {n : Nat} (hn : n < 64) : symbolValue? (symbol n) = some n := by
  have table : ∀ n < 64, symbolValue? (symbol n) = some n := by decide +kernel
  exact table n hn

lemma symbol_ne_pad {n : Nat} (hn : n < 64) : symbol n ≠ '=' := by
  intro pad
  have value := symbolValue?_symbol hn
  rw [pad] at value
  exact absurd value (by simp [symbolValue?])

lemma byte_eq {n : Nat} {a : UInt8} (h : n = a.toNat) : UInt8.ofNat n = a := by
  rw [h, UInt8.ofNat_toNat]

lemma decode?_one {w x : Nat} (hw : w < 64) (hx : x < 64) (spare : x % 16 = 0) :
    decode? [symbol w, symbol x, '=', '='] = some [UInt8.ofNat (w * 4 + x / 16)] := by
  simp [decode?, symbolValue?_symbol hw, symbolValue?_symbol hx, spare]

lemma decode?_two {w x y : Nat} (hw : w < 64) (hx : x < 64) (hy : y < 64) (spare : y % 4 = 0) :
    decode? [symbol w, symbol x, symbol y, '='] =
      some [UInt8.ofNat (w * 4 + x / 16), UInt8.ofNat (x % 16 * 16 + y / 4)] := by
  rw [decode?.eq_3 _ _ _ (fun pad => symbol_ne_pad hy pad)]
  simp [symbolValue?_symbol hw, symbolValue?_symbol hx, symbolValue?_symbol hy, spare]

lemma decode?_three {w x y z : Nat} (hw : w < 64) (hx : x < 64) (hy : y < 64) (hz : z < 64)
    (rest : List Char) :
    decode? (symbol w :: symbol x :: symbol y :: symbol z :: rest) =
      (decode? rest).map fun bytes =>
        UInt8.ofNat (w * 4 + x / 16) :: UInt8.ofNat (x % 16 * 16 + y / 4) ::
          UInt8.ofNat (y % 4 * 64 + z) :: bytes := by
  rw [decode?.eq_4 _ _ _ _ _ (fun _ pad _ => symbol_ne_pad hz pad)
    (fun pad _ => symbol_ne_pad hz pad)]
  simp only [symbolValue?_symbol hw, symbolValue?_symbol hx, symbolValue?_symbol hy,
    symbolValue?_symbol hz]
  cases decode? rest <;> rfl

/-- Decoding undoes encoding. -/
theorem decode?_encode (bytes : List UInt8) : decode? (encode bytes) = some bytes := by
  induction bytes using encode.induct with
  | case1 => rfl
  | case2 a =>
    have ha := a.toNat_lt
    rw [encode, decode?_one (by omega) (by omega) (by omega)]
    rw [byte_eq (by omega : a.toNat / 4 * 4 + a.toNat % 4 * 16 / 16 = a.toNat)]
  | case3 a b =>
    have ha := a.toNat_lt
    have hb := b.toNat_lt
    rw [encode, decode?_two (by omega) (by omega) (by omega) (by omega)]
    rw [byte_eq (a := a) (by omega), byte_eq (a := b) (by omega)]
  | case4 a b c rest ih =>
    have ha := a.toNat_lt
    have hb := b.toNat_lt
    have hc := c.toNat_lt
    rw [encode, decode?_three (by omega) (by omega) (by omega) (by omega), ih, Option.map_some]
    rw [byte_eq (a := a) (by omega), byte_eq (a := b) (by omega), byte_eq (a := c) (by omega)]

end DocumentQuery.Base64
