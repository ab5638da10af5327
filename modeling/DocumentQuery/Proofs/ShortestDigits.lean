import Mathlib.Tactic
import DocumentQuery.Number.Shortest

/-!
# The shortest decimal reads back

The intervals of decimals that are nearest to two doubles of different magnitude do not meet. The
shortest decimal of a double that is not zero lies in the interval of the double: seventeen digits
are so many that some neighbour of the value on the last grid does. So the shortest decimals of two
doubles have different values unless the doubles have the same magnitude, and this determines the
exponent and the fraction.
-/

namespace DocumentQuery

namespace FiniteDouble

/-! ### Magnitudes -/

/-- The distance to the next greater double, in units of `2 ^ -1074`. -/
def gap (x : FiniteDouble) : Nat := 2 ^ (x.exponent.val - 1)

variable {x y : FiniteDouble}

lemma gap_pos (x : FiniteDouble) : 0 < x.gap := Nat.two_pow_pos _

lemma magnitude_eq (x : FiniteDouble) : x.magnitude = x.significand * x.gap :=
  Nat.shiftLeft_eq _ _

lemma significand_lt (x : FiniteDouble) : x.significand < 2 ^ 53 := by
  have fraction := x.fraction.isLt
  unfold significand leadingBit
  split_ifs <;> omega

lemma le_significand (h : 0 < x.exponent.val) : 2 ^ 52 ≤ x.significand := by
  unfold significand leadingBit
  split_ifs <;> omega

lemma significand_eq (h : 0 < x.exponent.val) : x.significand = 2 ^ 52 + x.fraction.toNat := by
  unfold significand leadingBit
  split_ifs <;> omega

/-- Doubles of two sizes: the gaps are the same, or one is at least twice the other. -/
lemma gap_cases (x y : FiniteDouble) :
    x.gap = y.gap ∨ 1 < y.exponent.val ∧ 2 * x.gap ≤ y.gap ∨
      1 < x.exponent.val ∧ 2 * y.gap ≤ x.gap := by
  have doubled {i j : Nat} (h : i < j) : 2 * 2 ^ i ≤ 2 ^ j := by
    rw [← pow_succ']
    exact Nat.pow_le_pow_right (by decide) h
  unfold gap
  rcases Nat.lt_trichotomy (x.exponent.val - 1) (y.exponent.val - 1) with less | same | more
  · exact .inr (.inl ⟨by omega, doubled less⟩)
  · exact .inl (by rw [same])
  · exact .inr (.inr ⟨by omega, doubled more⟩)

/-- A double above the subnormal range is beyond those with at most half its gap. -/
lemma magnitude_lt_of_gap (normal : 1 < y.exponent.val) (h : 2 * x.gap ≤ y.gap) :
    x.magnitude < y.magnitude := by
  have most : x.significand * x.gap < 2 ^ 53 * x.gap :=
    Nat.mul_lt_mul_of_pos_right (significand_lt x) (gap_pos x)
  have least : 2 ^ 52 * y.gap ≤ y.significand * y.gap :=
    Nat.mul_le_mul_right _ (le_significand (by omega))
  rw [magnitude_eq, magnitude_eq]
  omega

/-- Doubles of one sign with the same magnitude are the same. -/
theorem eq_of_magnitude_eq (sign : x.negative = y.negative) (h : x.magnitude = y.magnitude) :
    x = y := by
  have gaps : x.gap = y.gap := by
    rcases gap_cases x y with same | ⟨normal, wider⟩ | ⟨normal, wider⟩
    · exact same
    · exact absurd h (magnitude_lt_of_gap normal wider).ne
    · exact absurd h (magnitude_lt_of_gap normal wider).ne'
  have scales : x.exponent.val - 1 = y.exponent.val - 1 := Nat.pow_right_injective le_rfl gaps
  have significands : x.significand = y.significand := by
    rw [magnitude_eq, magnitude_eq, gaps] at h
    exact Nat.eq_of_mul_eq_mul_right (gap_pos y) h
  obtain ⟨s, e, f⟩ := x
  obtain ⟨t, e', g⟩ := y
  have exponents : e = e' := by
    apply Fin.ext
    unfold significand leadingBit at significands
    dsimp only at scales significands
    split_ifs at significands <;> omega
  subst exponents
  have fractions : f.toNat = g.toNat := by
    unfold significand at significands
    dsimp only at significands
    split_ifs at significands
    · exact significands
    · exact Nat.add_left_cancel significands
  rw [BitVec.eq_of_toNat_eq fractions, show s = t from sign]

/-! ### Intervals -/

/-- The distance from the value to the lower bound of its interval. -/
def below (x : FiniteDouble) : Nat :=
  if x.fraction = 0 ∧ 1 < x.exponent.val then x.gap else 2 * x.gap

lemma value_eq (x : FiniteDouble) : x.roundingInterval.value = 4 * (x.significand * x.gap) := by
  rw [← magnitude_eq]
  rfl

lemma low_eq (x : FiniteDouble) :
    x.roundingInterval.low = 4 * (x.significand * x.gap) - x.below := by
  rw [← magnitude_eq, below, gap, ← Nat.one_shiftLeft]
  rfl

lemma high_eq (x : FiniteDouble) :
    x.roundingInterval.high = 4 * (x.significand * x.gap) + 2 * x.gap := by
  rw [← magnitude_eq, gap, ← Nat.one_shiftLeft]
  rfl

lemma closed_iff (x : FiniteDouble) :
    x.roundingInterval.closed = true ↔ x.significand % 2 = 0 := decide_eq_true_iff

/-- Among the doubles of one gap above the subnormal range, the interval of the power of two reaches
lowest. -/
lemma le_low (normal : 1 < x.exponent.val) : (2 ^ 54 - 1) * x.gap ≤ x.roundingInterval.low := by
  have significand := significand_eq (x := x) (by omega)
  rw [low_eq]
  unfold below
  split_ifs with least
  · rw [significand, least.1]
    simp only [BitVec.toNat_zero, BitVec.ofNat_eq_ofNat]
    omega
  · have fraction : 0 < x.fraction.toNat := by
      apply Nat.pos_of_ne_zero
      intro zero
      exact least ⟨BitVec.eq_of_toNat_eq zero, normal⟩
    have more : (2 ^ 52 + 1) * x.gap ≤ x.significand * x.gap :=
      Nat.mul_le_mul_right _ (by omega)
    omega

/-- The intervals of two doubles meet in an end at most, and then this does not belong to both. -/
lemma intervals_apart (h : x.magnitude < y.magnitude) :
    x.roundingInterval.high ≤ y.roundingInterval.low ∧
      (x.roundingInterval.high = y.roundingInterval.low →
        ¬(x.roundingInterval.closed = true ∧ y.roundingInterval.closed = true)) := by
  have positive := gap_pos x
  rw [high_eq, closed_iff, closed_iff]
  rcases gap_cases x y with same | ⟨normal, wider⟩ | ⟨normal, wider⟩
  · -- Next to each other, the significands are of different parity.
    have significands : x.significand < y.significand := by
      rw [magnitude_eq, magnitude_eq, same] at h
      exact Nat.lt_of_mul_lt_mul_right h
    have apart : (x.significand + 1) * x.gap ≤ y.significand * y.gap := by
      rw [← same]
      exact Nat.mul_le_mul_right _ significands
    have bound : y.below ≤ 2 * x.gap := by
      unfold below
      split_ifs <;> omega
    rw [Nat.succ_mul] at apart
    rw [low_eq]
    refine ⟨by omega, fun meet even => ?_⟩
    have next : y.significand * y.gap = (x.significand + 1) * y.gap := by
      rw [Nat.succ_mul, ← same]
      rw [← same] at apart meet
      omega
    have consecutive := Nat.eq_of_mul_eq_mul_right (gap_pos y) next
    omega
  · -- Across sizes, the lower one can only be the greatest of its size, which is odd.
    have most : x.significand * x.gap ≤ (2 ^ 53 - 1) * x.gap :=
      Nat.mul_le_mul_right _ (Nat.le_pred_of_lt (significand_lt x))
    have least := le_low normal
    refine ⟨by omega, fun meet even => ?_⟩
    have greatest : (2 ^ 53 - 1) * x.gap ≤ x.significand * x.gap := by omega
    have odd := Nat.le_of_mul_le_mul_right greatest positive
    have bound := significand_lt x
    omega
  · exact absurd h (magnitude_lt_of_gap normal wider).asymm

/-- Whether a rational, counted in units of `1 / valueUnit`, reads back. -/
def RoundingInterval.Holds (i : RoundingInterval) (q : ℚ) : Prop :=
  if i.closed then (i.low : ℚ) ≤ q ∧ q ≤ i.high else (i.low : ℚ) < q ∧ q < i.high

lemma RoundingInterval.Holds.bounds {i : RoundingInterval} {q : ℚ} (h : i.Holds q) :
    (i.low : ℚ) ≤ q ∧ q ≤ i.high := by
  unfold Holds at h
  split_ifs at h
  · exact h
  · exact ⟨h.1.le, h.2.le⟩

lemma RoundingInterval.Holds.closed_of_end {i : RoundingInterval} {q : ℚ} (h : i.Holds q)
    (edge : q = i.low ∨ q = i.high) : i.closed = true := by
  by_contra opened
  unfold Holds at h
  rw [if_neg opened] at h
  rcases edge with rfl | rfl
  · exact lt_irrefl _ h.1
  · exact lt_irrefl _ h.2

/-- A rational reads back as one magnitude at most. -/
theorem magnitude_eq_of_holds {q : ℚ} (hx : x.roundingInterval.Holds q)
    (hy : y.roundingInterval.Holds q) : x.magnitude = y.magnitude := by
  have not_lt {x y : FiniteDouble} (hx : x.roundingInterval.Holds q)
      (hy : y.roundingInterval.Holds q) : ¬x.magnitude < y.magnitude := by
    intro less
    obtain ⟨apart, single⟩ := intervals_apart less
    have ends : (x.roundingInterval.high : ℚ) ≤ y.roundingInterval.low := by exact_mod_cast apart
    have upper : q = x.roundingInterval.high :=
      le_antisymm hx.bounds.2 (ends.trans hy.bounds.1)
    have lower : q = y.roundingInterval.low := le_antisymm (upper.le.trans ends) hy.bounds.1
    apply single
    · exact_mod_cast upper.symm.trans lower
    · exact ⟨hx.closed_of_end (.inr upper), hy.closed_of_end (.inl lower)⟩
  exact le_antisymm (Nat.not_lt.1 (not_lt hy hx)) (Nat.not_lt.1 (not_lt hx hy))

/-! ### Grids -/

/-- The step of the grid of multiples of `10 ^ s`, in units of `1 / valueUnit`. -/
def gridStep (s : Int) : ℚ := 10 ^ s * valueUnit

lemma valueUnit_pos : 0 < valueUnit := by
  unfold valueUnit
  rw [Nat.shiftLeft_eq]
  positivity

lemma gridStep_pos (s : Int) : 0 < gridStep s := by
  have unit : (0 : ℚ) < valueUnit := by exact_mod_cast valueUnit_pos
  unfold gridStep
  positivity

lemma powerOfTen_pos (k : Nat) : 0 < powerOfTen k := Nat.pow_pos (by decide)

/-- The two parts that a power of ten is written in. -/
lemma gridStep_mul (s : Int) :
    gridStep s * powerOfTen (-s).toNat = (powerOfTen s.toNat * valueUnit : Nat) := by
  have parts : (10 : ℚ) ^ s * 10 ^ (-s).toNat = 10 ^ s.toNat := by
    rw [← zpow_natCast, ← zpow_natCast, ← zpow_add₀ (by norm_num)]
    congr 1
    omega
  have scale (k : Nat) : (powerOfTen k : ℚ) = 10 ^ k := by
    rw [show powerOfTen k = 10 ^ k from rfl]
    push_cast
    rfl
  rw [Nat.cast_mul, scale, scale, ← parts, gridStep]
  ring

lemma le_gridStep_iff {n m : Nat} {s : Int} :
    n * (powerOfTen s.toNat * valueUnit) ≤ m * powerOfTen (-s).toNat ↔
      n * gridStep s ≤ (m : ℚ) := by
  have scale : (0 : ℚ) < powerOfTen (-s).toNat := by exact_mod_cast powerOfTen_pos _
  rw [← mul_le_mul_iff_left₀ scale, mul_assoc, gridStep_mul]
  exact_mod_cast Iff.rfl

lemma gridStep_le_iff {n m : Nat} {s : Int} :
    m * powerOfTen (-s).toNat ≤ n * (powerOfTen s.toNat * valueUnit) ↔
      (m : ℚ) ≤ n * gridStep s := by
  have scale : (0 : ℚ) < powerOfTen (-s).toNat := by exact_mod_cast powerOfTen_pos _
  rw [← mul_le_mul_iff_left₀ scale, mul_assoc (n : ℚ), gridStep_mul]
  exact_mod_cast Iff.rfl

lemma contains_iff {i : RoundingInterval} {n : Nat} {s : Int} :
    i.contains (n * (powerOfTen s.toNat * valueUnit)) (powerOfTen (-s).toNat) = true ↔
      i.Holds (n * gridStep s) := by
  unfold RoundingInterval.contains RoundingInterval.Holds
  split_ifs
  · rw [decide_eq_true_iff, gridStep_le_iff, le_gridStep_iff]
  · rw [decide_eq_true_iff, ← not_le, ← not_le, le_gridStep_iff, gridStep_le_iff, not_le, not_le]

lemma RoundingInterval.holds_of_lt {i : RoundingInterval} {q : ℚ} (lower : (i.low : ℚ) < q)
    (upper : q < i.high) : i.Holds q := by
  unfold Holds
  split_ifs
  · exact ⟨lower.le, upper.le⟩
  · exact ⟨lower, upper⟩

variable {tie : TieRule} {i : RoundingInterval} {s : Int}

lemma holds_of_gridPoint? {n : Nat} (found : gridPoint? tie i s = some n) :
    i.Holds (n * gridStep s) := by
  unfold gridPoint? at found
  dsimp only at found
  rw [← contains_iff]
  split_ifs at found with both better down up
  · cases found
    exact both.2
  · cases found
    exact both.1
  · cases found
    exact down
  · cases found
    exact up

/-- A grid whose step is small compared to the interval has a point that reads back. -/
lemma gridPoint?_ne_none (below : gridStep s < 2 * (i.value - i.low))
    (above : gridStep s < 2 * (i.high - i.value)) : gridPoint? tie i s ≠ none := by
  have positive := gridStep_pos s
  have divisor : 0 < powerOfTen s.toNat * valueUnit := Nat.mul_pos (powerOfTen_pos _) valueUnit_pos
  unfold gridPoint?
  dsimp only
  generalize quotient : i.value * powerOfTen (-s).toNat / (powerOfTen s.toNat * valueUnit) = point
  have lower : point * gridStep s ≤ (i.value : ℚ) := by
    rw [← le_gridStep_iff, ← quotient]
    exact Nat.div_mul_le_self _ _
  have upper : (i.value : ℚ) ≤ (point + 1 : Nat) * gridStep s := by
    rw [← gridStep_le_iff, ← quotient]
    exact (Nat.lt_mul_of_div_lt (Nat.lt_succ_self _) divisor).le
  have neighbour : i.Holds (point * gridStep s) ∨ i.Holds ((point + 1 : Nat) * gridStep s) := by
    push_cast at upper ⊢
    by_cases near : 2 * (i.value - point * gridStep s) ≤ gridStep s
    · left
      apply RoundingInterval.holds_of_lt <;> linarith
    · right
      apply RoundingInterval.holds_of_lt <;> linarith
  rw [← contains_iff, ← contains_iff] at neighbour
  split_ifs with both better down up
  · exact Option.some_ne_none _
  · exact Option.some_ne_none _
  · exact Option.some_ne_none _
  · exact Option.some_ne_none _
  · rcases neighbour with h | h
    · exact absurd h down
    · exact absurd h up

/-- The search ends at a point that reads back if one of the grids it goes through has one. -/
lemma searchGrid_holds {finer j : Nat} (later : j < finer)
    (found : gridPoint? tie i (s - j) ≠ none) :
    i.Holds ((searchGrid tie i s finer).1 * gridStep (searchGrid tie i s finer).2) := by
  induction finer generalizing s j with
  | zero => cases later
  | succ finer ih =>
    unfold searchGrid
    split
    · rename_i n here
      exact holds_of_gridPoint? here
    · rename_i missing
      cases j with
      | zero =>
        rw [Nat.cast_zero, sub_zero] at found
        exact absurd missing found
      | succ j =>
        apply ih (Nat.lt_of_succ_lt_succ later)
        rwa [sub_sub, add_comm (1 : Int), ← Nat.cast_succ]

/-- Whether zeros at the end are dropped or not, the value is the same. -/
lemma dropTrailingZeros_value (fuel n : Nat) (s : Int) :
    (dropTrailingZeros fuel n s).1 * gridStep (dropTrailingZeros fuel n s).2 = n * gridStep s := by
  induction fuel generalizing n s with
  | zero => rfl
  | succ fuel ih =>
    unfold dropTrailingZeros
    split_ifs with zero
    · have digits : (n : ℚ) = (n / 10 : Nat) * 10 := by
        exact_mod_cast (Nat.div_mul_cancel (Nat.dvd_of_mod_eq_zero zero)).symm
      have shifted : gridStep (s + 1) = 10 * gridStep s := by
        unfold gridStep
        rw [zpow_add_one₀ (by norm_num)]
        ring
      rw [ih, shifted, digits]
      ring
    · rfl

/-! ### The first grid -/

/-- The estimate of the decimal exponent, less one, is not too great. It is enough to check the
powers of two that a value can lie above. -/
lemma guess_le : ∀ log : Nat, log < 2100 →
    powerOfTen ((((log : Int) - 1076) * 30103 / 100000 - 1).toNat) * valueUnit ≤
      2 ^ log * powerOfTen (-(((log : Int) - 1076) * 30103 / 100000 - 1)).toNat := by
  decide +kernel

lemma gridStep_decimalExponent {value : Nat} (positive : 0 < value)
    (bounded : value.log2 < 2100) : gridStep (decimalExponent value) ≤ value := by
  have step {k : Int} (h : powerOfTen k.toNat * valueUnit ≤ value * powerOfTen (-k).toNat) :
      gridStep k ≤ value := by
    have := le_gridStep_iff.1 ((one_mul (powerOfTen k.toNat * valueUnit)).le.trans h)
    simpa using this
  unfold decimalExponent
  dsimp only
  split_ifs with first second
  · exact step (of_decide_eq_true first)
  · exact step (of_decide_eq_true second)
  · apply step
    refine (guess_le value.log2 bounded).trans (Nat.mul_le_mul_right _ ?_)
    exact Nat.log2_self_le positive.ne'

lemma log2_value (x : FiniteDouble) (nonzero : x.magnitude ≠ 0) :
    x.roundingInterval.value.log2 < 2100 := by
  have positive : x.roundingInterval.value ≠ 0 := by
    rw [value_eq, ← magnitude_eq]
    omega
  have bound : x.roundingInterval.value < 2 ^ (x.exponent.val - 1 + 55) := by
    have most : x.significand * x.gap < 2 ^ 53 * x.gap :=
      Nat.mul_lt_mul_of_pos_right (significand_lt x) (gap_pos x)
    rw [value_eq, pow_add]
    change _ < x.gap * 2 ^ 55
    omega
  have log := (Nat.log2_lt positive).2 bound
  have exponent := x.exponent.isLt
  omega

lemma value_bounds (x : FiniteDouble) (nonzero : x.magnitude ≠ 0) :
    x.roundingInterval.low + x.below = x.roundingInterval.value ∧ 0 < x.roundingInterval.low ∧
      x.roundingInterval.value ≤ 2 ^ 54 * x.below ∧
      x.roundingInterval.value ≤ 2 ^ 54 * (2 * x.gap) := by
  have positive : 0 < x.significand := by
    apply Nat.pos_of_ne_zero
    intro zero
    apply nonzero
    rw [magnitude_eq, zero, Nat.zero_mul]
  have least : x.gap ≤ x.significand * x.gap := Nat.le_mul_of_pos_left _ positive
  have most : x.significand * x.gap ≤ 2 ^ 53 * x.gap :=
    Nat.mul_le_mul_right _ (significand_lt x).le
  have gap := gap_pos x
  rw [low_eq, value_eq]
  unfold below
  split_ifs with power
  · have significand := significand_eq (x := x) (by omega)
    rw [power.1] at significand
    rw [significand] at least most ⊢
    simp only [BitVec.toNat_zero, BitVec.ofNat_eq_ofNat] at least most ⊢
    omega
  · omega

/-- Half a step of the seventeenth grid is less than the distance to either bound. -/
lemma gridStep_fine (x : FiniteDouble) (nonzero : x.magnitude ≠ 0) :
    let i := x.roundingInterval
    let s := decimalExponent i.value - 16
    gridStep s < 2 * (i.value - i.low) ∧ gridStep s < 2 * (i.high - i.value) := by
  intro i s
  obtain ⟨lower, positive, below, above⟩ := value_bounds x nonzero
  have upper : i.value + 2 * x.gap = i.high := by rw [high_eq, value_eq]
  have nonempty : 0 < x.roundingInterval.value := by omega
  have first : gridStep (decimalExponent i.value) ≤ i.value :=
    gridStep_decimalExponent nonempty (log2_value x nonzero)
  have finer : 10 ^ 16 * gridStep s = gridStep (decimalExponent i.value) := by
    unfold gridStep
    rw [← mul_assoc, ← zpow_natCast, ← zpow_add₀ (by norm_num)]
    congr 2
    push_cast
    omega
  have gap : (0 : ℚ) < x.gap := by exact_mod_cast gap_pos x
  have lower : (i.low : ℚ) + x.below = i.value := by exact_mod_cast lower
  have upper : (i.value : ℚ) + 2 * x.gap = i.high := by exact_mod_cast upper
  have below : (i.value : ℚ) ≤ 2 ^ 54 * x.below := by exact_mod_cast below
  have above : (i.value : ℚ) ≤ 2 ^ 54 * (2 * x.gap) := by exact_mod_cast above
  have positive := gridStep_pos s
  constructor <;> linarith

/-- The shortest decimal of a double that is not zero reads back, and it is not zero either. -/
theorem shortest_holds (tie : TieRule) (x : FiniteDouble) (nonzero : x.magnitude ≠ 0) :
    x.roundingInterval.Holds ((x.shortest tie).1 * gridStep (x.shortest tie).2) ∧
      0 < (x.shortest tie).1 := by
  obtain ⟨below, above⟩ := gridStep_fine x nonzero
  have found : gridPoint? tie x.roundingInterval
      (decimalExponent x.roundingInterval.value - (16 : Nat)) ≠ none :=
    gridPoint?_ne_none below above
  have holds : x.roundingInterval.Holds
      ((x.shortest tie).1 * gridStep (x.shortest tie).2) := by
    unfold shortest
    dsimp only
    rw [dropTrailingZeros_value]
    exact searchGrid_holds (by decide) found
  refine ⟨holds, Nat.pos_of_ne_zero fun zero => ?_⟩
  have low : (0 : ℚ) < x.roundingInterval.low := by
    exact_mod_cast (value_bounds x nonzero).2.1
  rw [zero, Nat.cast_zero, zero_mul] at holds
  exact absurd holds.bounds.1 low.not_ge

/-- Doubles of one sign, both of them not zero, are the same if their shortest decimals have the
same value. -/
theorem eq_of_shortest_eq {tie : TieRule} (sign : x.negative = y.negative)
    (hx : x.magnitude ≠ 0) (hy : y.magnitude ≠ 0)
    (same : ((x.shortest tie).1 : ℚ) * 10 ^ (x.shortest tie).2 =
      (y.shortest tie).1 * 10 ^ (y.shortest tie).2) : x = y := by
  apply eq_of_magnitude_eq sign
  have units : ((x.shortest tie).1 : ℚ) * gridStep (x.shortest tie).2 =
      (y.shortest tie).1 * gridStep (y.shortest tie).2 := by
    unfold gridStep
    rw [← mul_assoc, same, mul_assoc]
  have holds := (shortest_holds tie x hx).1
  rw [units] at holds
  exact magnitude_eq_of_holds holds (shortest_holds tie y hy).1

end FiniteDouble

end DocumentQuery
