import LineScript.Proofs.Number.Decimal

/-!
The four kinds of arithmetic. Each finishes a number that is rounded like the exact result: a
summand far below the other, and what is left of a division, may be replaced by anything of the same
sign that is as small.
-/

namespace LineScript.Number

variable {x y far small other unit : ℚ} {n k : ℤ}

/-! ## What is too small to be kept -/

theorem sameCell_add (multiple : far = n * unit) (less : |small| < unit)
    (lessOther : |other| < unit) (alike : 0 < small * other) :
    SameCell unit (far + small) (far + other) := by
  have positive : 0 < unit := (abs_nonneg _).trans_lt less
  rw [abs_lt] at less lessOther
  rw [multiple]
  rcases mul_pos_iff.mp alike with above | below
  · exact sameCell_of_between (n := n) positive (by linarith) (by linarith) (by linarith)
      (by linarith)
  · refine sameCell_of_between (n := n - 1) positive ?_ ?_ ?_ ?_ <;>
      (push_cast; linarith)

theorem rounded_eq_of_sameCell (same : SameCell (5 * 10 ^ k) x y) (large : 10 ^ (k + 28) ≤ |x|) :
    rounded x = rounded y := by
  have nonzero : x ≠ 0 := abs_pos.mp ((ten_zpow_pos _).trans_le large)
  have leading := (le_log_iff nonzero).mpr large
  have order : k < lastPlace x := by
    unfold lastPlace Decimal.precision
    omega
  have place : lastPlace y = lastPlace x := by
    have wide : 10 ^ (k + 1) ≤ |x| := (ten_zpow_le_iff.mpr (by omega)).trans large
    rw [lastPlace, lastPlace, same.log_eq wide]
  rw [rounded, rounded, place, same.roundAt_eq order]

namespace Decimal

variable {a b : Decimal}

theorem value_ofSigned (coefficient exponent : ℤ) :
    (ofSigned coefficient exponent).value = coefficient * 10 ^ exponent := by
  have signed : (ofSigned coefficient exponent).signed = coefficient := by
    unfold ofSigned Decimal.signed
    simp only [decide_eq_true_eq]
    split <;> omega
  rw [value, signed]
  rfl

theorem value_mul_value_pos (alike : a.negative = b.negative) (some : a.isZero = false)
    (someOther : b.isZero = false) : 0 < a.value * b.value := by
  have nonzero := value_ne_zero some
  have nonzeroOther := value_ne_zero someOther
  cases sign : a.negative with
  | false =>
      exact mul_pos (lt_of_le_of_ne (value_nonneg sign) nonzero.symm)
        (lt_of_le_of_ne (value_nonneg (alike ▸ sign)) nonzeroOther.symm)
  | true =>
      exact mul_pos_of_neg_of_neg (lt_of_le_of_ne (value_nonpos sign) nonzero)
        (lt_of_le_of_ne (value_nonpos (alike ▸ sign)) nonzeroOther)

/-! ## Sums -/

theorem digitCount_pos (n : ℕ) : 0 < digitCount n := by
  rw [digitCount_eq]
  exact Nat.succ_pos _

theorem relevant_exponent_le {large small : Decimal} (order : small.exponent ≤ large.exponent) :
    (relevant large small).exponent ≤ large.exponent := by
  unfold relevant
  dsimp only
  split_ifs
  · exact order
  · dsimp only
    omega
  · exact order

/-- The exact sum with the second summand as far as it matters. -/
theorem rounded_relevant {large small : Decimal} (some : large.isZero = false)
    (someSmall : small.isZero = false) :
    rounded (large.value + (relevant large small).value) = rounded (large.value + small.value) := by
  unfold relevant
  dsimp only
  rw [some, someSmall, Bool.or_self, if_neg Bool.false_ne_true]
  split
  swap
  · rfl
  next tiny =>
    have count := digitCount_pos large.coefficient
    generalize same : large.exponent +
      Min.min (-1) ((digitCount large.coefficient : ℤ) - precision - 2) = place at tiny ⊢
    unfold precision at same
    have below : |small.value| < 10 ^ place := by
      rwa [← log_lt_iff (value_ne_zero someSmall), log_value someSmall]
    have unit : |(⟨small.negative, 1, place⟩ : Decimal).value| = 10 ^ place := by
      rw [abs_value, Nat.cast_one, one_mul]
    have step := ten_zpow_pos place
    -- The larger number is a multiple of half the place above, and far enough from zero.
    have multiple : large.value =
        ((2 * large.signed * 10 ^ (large.exponent - (place + 1)).toNat : ℤ) : ℚ) *
          (5 * 10 ^ place) := by
      rw [value, ten_zpow_split (show place + 1 ≤ large.exponent by omega),
        zpow_add_one₀ (by norm_num)]
      push_cast
      ring
    have far : 10 * 10 ^ (place + 28) ≤ |large.value| := by
      rw [← zpow_one_add₀ (by norm_num), ← le_log_iff (value_ne_zero some), log_value some]
      unfold adjusted
      omega
    have alike : 0 < (⟨small.negative, 1, place⟩ : Decimal).value * small.value :=
      value_mul_value_pos rfl rfl someSmall
    have cell := sameCell_add multiple (by rw [unit]; linarith) (by linarith) alike
    refine rounded_eq_of_sameCell cell ?_
    have nearer : (10 : ℚ) ^ place ≤ 10 ^ (place + 28) := ten_zpow_le_iff.mpr (by omega)
    have triangle := abs_add_le (large.value + (⟨small.negative, 1, place⟩ : Decimal).value)
      (-(⟨small.negative, 1, place⟩ : Decimal).value)
    rw [add_neg_cancel_right, abs_neg, unit] at triangle
    linarith

theorem rounded_sumOrdered {large small : Decimal} (order : small.exponent ≤ large.exponent) :
    rounded (sumOrdered large small).value = rounded (large.value + small.value) := by
  unfold sumOrdered
  cases zero : large.isZero with
  | true => rw [if_pos rfl, value_eq_zero_iff.mpr zero, zero_add]
  | false =>
      cases zeroSmall : small.isZero with
      | true =>
          rw [if_neg Bool.false_ne_true, if_pos rfl, value_eq_zero_iff.mpr zeroSmall, add_zero]
      | false =>
          rw [if_neg Bool.false_ne_true, if_neg Bool.false_ne_true,
            ← rounded_relevant zero zeroSmall]
          have shifted : large.value =
              large.signed * pow10 (large.exponent - (relevant large small).exponent).toNat *
                10 ^ (relevant large small).exponent := by
            rw [value, ten_zpow_split (relevant_exponent_le order), pow10_eq]
            push_cast
            ring
          dsimp only
          rw [value_ofSigned, shifted, value]
          push_cast
          rw [add_mul]

theorem add_eq (a b : Decimal) :
    ∃ sum : Decimal, a.add b = sum.finish ∧ rounded sum.value = rounded (a.value + b.value) := by
  unfold add
  split
  · next order => exact ⟨_, rfl, rounded_sumOrdered order⟩
  · next order => exact ⟨_, rfl, add_comm a.value _ ▸ rounded_sumOrdered (not_le.mp order).le⟩

theorem sub_eq (a b : Decimal) :
    ∃ difference : Decimal, a.sub b = difference.finish ∧
      rounded difference.value = rounded (a.value - b.value) := by
  obtain ⟨sum, added, same⟩ := a.add_eq b.neg
  rw [value_neg, ← sub_eq_add_neg] at same
  exact ⟨sum, added, same⟩

/-! ## Products -/

theorem mul_eq (a b : Decimal) :
    ∃ product : Decimal, a.mul b = product.finish ∧ product.value = a.value * b.value := by
  refine ⟨_, rfl, ?_⟩
  obtain ⟨negative, coefficient, exponent⟩ := a
  obtain ⟨negativeOther, coefficientOther, exponentOther⟩ := b
  simp only [value_mk, zpow_add₀ (show (10 : ℚ) ≠ 0 by norm_num)]
  cases negative <;> cases negativeOther <;> (push_cast; simp; ring)

/-! ## Quotients -/

/-- A remainder counts as one digit more, if the quotient has more digits than are kept. -/
theorem rounded_quotient {num den : ℕ} (positive : 0 < den) (long : 10 ^ 28 * den ≤ num)
    (exponent : ℤ) :
    rounded (((10 * (num / den) + if num % den == 0 then 0 else 1 : ℕ) : ℚ) * 10 ^ exponent) =
      rounded (10 * ((num : ℚ) / den) * 10 ^ exponent) := by
  have scale : (0 : ℚ) < den := by exact_mod_cast positive
  have step := ten_zpow_pos exponent
  have larger : (10 : ℚ) ^ (exponent + 1) = 10 * 10 ^ exponent := by
    rw [zpow_add_one₀ (by norm_num), mul_comm]
  rw [natCast_div num positive]
  generalize whole : num / den = q at *
  cases exact : num % den == 0 with
  | true =>
      rw [if_pos rfl, beq_iff_eq.mp exact]
      push_cast
      simp
  | false =>
      have left : 0 < num % den := Nat.pos_of_ne_zero (beq_eq_false_iff_ne.mp exact)
      have part : 0 < ((num % den : ℕ) : ℚ) / den := div_pos (by exact_mod_cast left) scale
      have proper : ((num % den : ℕ) : ℚ) / den < 1 := by
        rw [div_lt_one scale]
        exact_mod_cast Nat.mod_lt num positive
      generalize ((num % den : ℕ) : ℚ) / den = f at part proper ⊢
      -- The one digit and the rest of the division lie between the same two digits.
      have cell : SameCell (10 ^ (exponent + 1)) (q * 10 ^ (exponent + 1) + 10 ^ exponent)
          (q * 10 ^ (exponent + 1) + 10 * f * 10 ^ exponent) := by
        refine sameCell_add (n := q) (by push_cast; rfl) ?_ ?_ (by positivity)
        · rw [abs_of_pos step, larger]
          linarith
        · rw [abs_of_pos (by positivity), larger]
          exact mul_lt_mul_of_pos_right (by linarith) step
      have large : (10 : ℚ) ^ (exponent + 1 + 28) ≤
          |(q : ℚ) * 10 ^ (exponent + 1) + 10 ^ exponent| := by
        have digits : (10 : ℚ) ^ (28 : ℤ) ≤ q := by
          exact_mod_cast whole ▸ (Nat.le_div_iff_mul_le positive).mpr long
        rw [abs_of_pos (by positivity), add_comm _ (28 : ℤ), zpow_add₀ (by norm_num)]
        have scaled := mul_le_mul_of_nonneg_right digits (ten_zpow_pos (exponent + 1)).le
        exact scaled.trans (le_add_of_nonneg_right step.le)
      have same := rounded_eq_of_sameCell (cell.coarser 5 rfl) large
      rw [if_neg Bool.false_ne_true]
      convert same using 2
      · push_cast
        rw [larger]
        ring
      · rw [larger]
        ring

theorem quotient_long {num : ℕ} (den : ℕ) (some : num ≠ 0) {up down : ℕ}
    (scaled : up + digitCount num = down + digitCount den + 29) :
    10 ^ 28 * (den * pow10 down) ≤ num * pow10 up := by
  have count := digitCount_pos num
  calc 10 ^ 28 * (den * pow10 down)
    _ ≤ 10 ^ 28 * (10 ^ digitCount den * 10 ^ down) :=
      Nat.mul_le_mul_left _ (Nat.mul_le_mul_right _ (lt_ten_pow_digitCount den).le)
    _ = 10 ^ (28 + (digitCount den + down)) := by rw [Nat.pow_add, Nat.pow_add]
    _ = 10 ^ (digitCount num - 1 + up) := congrArg _ (by omega)
    _ = 10 ^ (digitCount num - 1) * 10 ^ up := Nat.pow_add _ _ _
    _ ≤ num * pow10 up := Nat.mul_le_mul_right _ (ten_pow_le_of_digitCount some)

theorem pow10_ne_zero (n : ℕ) : (pow10 n : ℚ) ≠ 0 := by
  exact_mod_cast (Nat.pow_pos (by decide) : 0 < pow10 n).ne'

theorem pow10_div_pow10 (shift : ℤ) :
    (pow10 shift.toNat : ℚ) / pow10 (-shift).toNat = 10 ^ shift := by
  rw [pow10_eq, pow10_eq]
  push_cast
  rw [← zpow_natCast, ← zpow_natCast, ← zpow_sub₀ (by norm_num)]
  congr 1
  omega

theorem value_div_value (a b : Decimal) :
    a.value / b.value = if a.negative != b.negative then -(|a.value| / |b.value|)
      else |a.value| / |b.value| := by
  rw [abs_value, abs_value]
  obtain ⟨negative, coefficient, exponent⟩ := a
  obtain ⟨negativeOther, coefficientOther, exponentOther⟩ := b
  simp only [value_mk]
  cases negative <;> cases negativeOther <;> simp [neg_div, div_neg]

theorem div_eq (a : Decimal) {b : Decimal} (some : b.isZero = false) :
    ∃ quotient : Decimal, a.div b = quotient.finish ∧
      rounded quotient.value = rounded (a.value / b.value) := by
  have nonzero : b.coefficient ≠ 0 := beq_eq_false_iff_ne.mp some
  unfold div
  dsimp only
  split
  · next zero =>
      refine ⟨_, rfl, ?_⟩
      rw [value_eq_zero_iff.mpr zero, zero_div, value_mk]
      simp
  next other =>
    have nonzeroA : a.coefficient ≠ 0 := fun zero => other (isZero_iff.mpr zero)
    refine ⟨_, rfl, ?_⟩
    generalize scale : (digitCount b.coefficient : ℤ) - digitCount a.coefficient + precision + 1 =
      shift
    unfold precision at scale
    -- The shift leaves the quotient a digit more than the precision, so the rest of the division
    -- only has to tell on which side of a tie the value lies.
    have long := quotient_long b.coefficient nonzeroA
      (show shift.toNat + _ = (-shift).toNat + _ + 29 by omega)
    have positive : 0 < b.coefficient * pow10 (-shift).toNat :=
      Nat.mul_pos (Nat.pos_of_ne_zero nonzero) (Nat.pow_pos (by decide))
    have magnitude := rounded_quotient positive long (a.exponent - b.exponent - shift - 1)
    have exact : 10 * (((a.coefficient * pow10 shift.toNat : ℕ) : ℚ) /
        (b.coefficient * pow10 (-shift).toNat : ℕ)) * 10 ^ (a.exponent - b.exponent - shift - 1) =
        |a.value| / |b.value| := by
      have ten : (10 : ℚ) ≠ 0 := by norm_num
      have up := pow10_ne_zero shift.toNat
      have down := pow10_ne_zero (-shift).toNat
      have denominator : (b.coefficient : ℚ) ≠ 0 := by exact_mod_cast nonzero
      rw [abs_value, abs_value, zpow_sub₀ ten, zpow_sub₀ ten, zpow_sub₀ ten, zpow_one,
        ← pow10_div_pow10 shift]
      push_cast
      field_simp
    rw [exact] at magnitude
    rw [value_mk, value_div_value]
    cases a.negative != b.negative with
    | false => exact magnitude
    | true => exact (rounded_neg _).trans ((congrArg _ magnitude).trans (rounded_neg _).symm)

/-! ## Places -/

theorem placesExponent?_bounds {places : ℕ} {exponent : ℤ}
    (found : placesExponent? places = some exponent) : tiny ≤ exponent ∧ exponent ≤ 0 := by
  unfold placesExponent? tiny at found
  unfold tiny
  split_ifs at found <;> cases found <;> omega

theorem settled_of_places {negative : Bool} {coefficient : ℕ} {exponent : ℤ}
    (short : coefficient < 10 ^ precision) (least : tiny ≤ exponent) (most : exponent ≤ 0) :
    (⟨negative, coefficient, exponent⟩ : Decimal).Settled := by
  refine ⟨short, fun _ => least, fun some => ?_⟩
  have leading := ten_pow_le_of_digitCount (beq_eq_false_iff_ne.mp some)
  have count := (Nat.pow_lt_pow_iff_right (by decide)).mp (leading.trans_lt short)
  unfold adjusted maxExponent
  unfold precision at count
  dsimp only at count ⊢
  omega

theorem settled_of_roundTo {d r : Decimal} {places : ℕ} (done : d.roundTo places = .ok r) :
    r.Settled := by
  unfold roundTo at done
  -- In the order in which the request is examined.
  split at done
  · cases done
  next exponent found =>
    obtain ⟨least, most⟩ := placesExponent?_bounds found
    split at done
    · next zero =>
        cases done
        exact settled_of_places (isZero_iff.mp zero ▸ Nat.pow_pos (by decide)) least most
    split at done
    · cases done
    extract_lets coefficient at done
    split at done
    · cases done
    next few =>
      cases done
      exact settled_of_places (not_le.mp few) least most

end Decimal

end LineScript.Number
