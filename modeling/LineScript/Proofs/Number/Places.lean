import LineScript.Proofs.Number.Format

/-!
Rounding to places. The result is the nearest multiple of a power of ten, ties to even, if that
multiple has no more digits than are kept; otherwise there is none. What has been rounded to places
is not changed by rounding it to the same places again.
-/

namespace LineScript.Number

variable {x : ℚ} {place : ℤ}

/-! ## The nearest multiple -/

theorem abs_sub_roundAt (place : ℤ) (x : ℚ) :
    |x - roundAt place x| = |x / 10 ^ place - roundEven (x / 10 ^ place)| * 10 ^ place := by
  have positive := ten_zpow_pos place
  rw [← abs_of_pos positive, ← abs_mul, abs_of_pos positive, sub_mul,
    div_mul_cancel₀ _ positive.ne', roundAt]

theorem close_roundAt (place : ℤ) (x : ℚ) : 2 * |x - roundAt place x| ≤ 10 ^ place := by
  have scaled := mul_le_mul_of_nonneg_right (nearest_roundEven (x / 10 ^ place)).close
    (ten_zpow_pos place).le
  rw [abs_sub_roundAt]
  linarith

theorem even_of_tie (tie : 2 * |x - roundAt place x| = 10 ^ place) :
    Even (roundEven (x / 10 ^ place)) := by
  refine (nearest_roundEven (x / 10 ^ place)).even ?_
  rw [abs_sub_roundAt] at tie
  refine mul_right_cancel₀ (ten_zpow_pos place).ne' ?_
  linarith

theorem roundEven_multiple (n place : ℤ) : roundEven (n * 10 ^ place / 10 ^ place) = n := by
  rw [mul_div_cancel_right₀ _ (ten_zpow_pos place).ne', roundEven_intCast]

theorem inRange_multiple {n q : ℤ} (natural : 0 ≤ q) (few : q ≤ 999999) (short : |n| < 10 ^ 28) :
    InRange (n * 10 ^ (-q)) := by
  have positive := ten_zpow_pos (-q)
  by_cases zero : n = 0
  · exact .inl (by rw [zero, Int.cast_zero, zero_mul])
  have nonzero : (n : ℚ) * 10 ^ (-q) ≠ 0 := mul_ne_zero (by exact_mod_cast zero) positive.ne'
  have magnitude : |(n : ℚ) * 10 ^ (-q)| = (|n| : ℤ) * 10 ^ (-q) := by
    rw [abs_mul, abs_of_pos positive, Int.cast_abs]
  have least : (1 : ℚ) ≤ (|n| : ℤ) := by exact_mod_cast Int.one_le_abs zero
  have most : ((|n| : ℤ) : ℚ) < 10 ^ 28 := by exact_mod_cast short
  have fine : (10 : ℚ) ^ (-999999 : ℤ) ≤ 10 ^ (-q) := ten_zpow_le_iff.mpr (by omega)
  have coarse : (10 : ℚ) ^ (28 - q) ≤ 10 ^ (1000000 : ℤ) := ten_zpow_le_iff.mpr (by omega)
  have split : (10 : ℚ) ^ (28 - q) = 10 ^ 28 * 10 ^ (-q) := by
    rw [sub_eq_add_neg, zpow_add₀ (by norm_num)]
    rfl
  right
  rw [le_log_iff nonzero, ← Int.lt_add_one_iff, log_lt_iff nonzero, magnitude]
  constructor
  · exact fine.trans (le_mul_of_one_le_left positive.le least)
  · exact (mul_lt_mul_of_pos_right most positive).trans_le (split ▸ coarse)

namespace Decimal

variable {d : Decimal} {places : ℕ}

/-! ## Rounding to a place -/

def coefficientAt (d : Decimal) (place : ℤ) : ℕ :=
  if place ≤ d.exponent then d.coefficient * pow10 (d.exponent - place).toNat
  else halfEven d.coefficient (pow10 (place - d.exponent).toNat)

theorem value_coefficientAt (d : Decimal) (place : ℤ) :
    (⟨d.negative, d.coefficientAt place, place⟩ : Decimal).value = roundAt place d.value := by
  unfold coefficientAt
  split
  · next finer =>
      have whole : place + ((d.exponent - place).toNat : ℤ) = d.exponent := by omega
      rw [pow10_eq, value_shift, whole]
      exact (roundAt_of_multiple finer rfl).symm
  · next coarser => exact value_halfEven (not_le.mp coarser).le

theorem coefficientAt_eq (d : Decimal) (place : ℤ) :
    (d.coefficientAt place : ℤ) = |roundEven (d.value / 10 ^ place)| := by
  have positive := ten_zpow_pos place
  have scaled := congrArg (|·|) (d.value_coefficientAt place)
  rw [abs_value, roundAt, abs_mul, abs_of_pos positive, mul_left_inj' positive.ne',
    ← Int.cast_abs] at scaled
  exact_mod_cast scaled

theorem coefficientAt_of_isZero (zero : d.isZero = true) (place : ℤ) :
    d.coefficientAt place = 0 := by
  have vanishes : (d.coefficientAt place : ℤ) = 0 := by
    rw [coefficientAt_eq, value_eq_zero_iff.mpr zero, zero_div, abs_eq_zero, roundEven_eq_zero_iff]
    norm_num
  exact_mod_cast vanishes

theorem le_coefficientAt (nonzero : d.isZero = false) (high : place + precision ≤ d.adjusted) :
    pow10 precision ≤ d.coefficientAt place := by
  have large : 10 ^ (place + (precision : ℤ)) ≤ |d.value| := by
    rwa [← le_log_iff (value_ne_zero nonzero), log_value nonzero]
  have kept := ten_zpow_le_abs_roundAt (Int.le_add_of_nonneg_right (Int.natCast_nonneg _)) large
  rw [← value_coefficientAt, abs_value, add_comm, zpow_add₀ (by norm_num), zpow_natCast,
    mul_le_mul_iff_left₀ (ten_zpow_pos place)] at kept
  exact_mod_cast kept

theorem roundTo_eq (d : Decimal) (few : places ≤ 999999) :
    d.roundTo places =
      if d.coefficientAt (-places) < 10 ^ 28 then
        .ok ⟨d.negative, d.coefficientAt (-places), -places⟩
      else .error .invalidOperation := by
  have place : placesExponent? places = some (-(places : ℤ)) := by
    unfold placesExponent? tiny
    rw [if_pos (by omega)]
  unfold roundTo
  rw [place]
  dsimp only
  split
  · next zero =>
      rw [coefficientAt_of_isZero zero, if_pos (by decide), isZero_iff.mp zero]
  next nonzero =>
    rw [Bool.not_eq_true] at nonzero
    split
    · next high =>
        have beyond : 10 ^ 28 ≤ d.coefficientAt (-places) := le_coefficientAt nonzero high
        rw [if_neg (not_lt.mpr beyond)]
    -- A coefficient shorter than the places cut off is below half a unit and rounds to zero.
    · have same : (if (-places : ℤ) ≤ d.exponent then
          d.coefficient * pow10 (d.exponent - -places).toNat
          else if (-places - d.exponent).toNat > digitCount d.coefficient then 0
          else halfEven d.coefficient (pow10 (-places - d.exponent).toNat)) =
          d.coefficientAt (-places) := by
        rw [halfEven_of_digitCount]
        rfl
      rw [same]
      split
      · next beyond => exact (if_neg (not_lt.mpr beyond)).symm
      · next fits => exact (if_pos (not_le.mp fits)).symm

end Decimal

end LineScript.Number
