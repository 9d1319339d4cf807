import LineScript.Number.Decimal
import LineScript.Proofs.Number.Digits
import LineScript.Proofs.Number.Rounding

/-!
Decimals as rational numbers. Finishing a result rounds its exact value once: to the precision, or
to the smallest place that there is, whichever is coarser. What has been finished fits the precision
and the range, and finishing it again does not change its value.
-/

namespace LineScript.Number

def lastPlace (x : ℚ) : ℤ :=
  max (Int.log 10 |x| - (Decimal.precision - 1)) Decimal.tiny

def rounded (x : ℚ) : ℚ :=
  roundAt (lastPlace x) x

def Overflows (x : ℚ) : Prop :=
  10 ^ (Decimal.maxExponent + 1) ≤ |x|

instance (x : ℚ) : Decidable (Overflows x) :=
  inferInstanceAs (Decidable (_ ≤ _))

/-- The value is zero, or its leading digit is in the range in which results keep all digits. -/
def InRange (x : ℚ) : Prop :=
  x = 0 ∨ -999999 ≤ Int.log 10 |x| ∧ Int.log 10 |x| ≤ 999999

/-! ## Rounding to the precision and the range -/

section Rounded

variable {x y : ℚ} {k : ℤ}

theorem lastPlace_le (order : Decimal.tiny ≤ k) (below : Int.log 10 |x| ≤ k + 27) :
    lastPlace x ≤ k := by
  unfold lastPlace Decimal.precision
  omega

theorem rounded_neg (x : ℚ) : rounded (-x) = -rounded x := by
  unfold rounded lastPlace
  rw [abs_neg, roundAt_neg]

@[simp]
theorem rounded_zero : rounded 0 = 0 :=
  roundAt_zero _

theorem rounded_of_fits {m : ℤ} (fits : |m| < 10 ^ Decimal.precision) (order : Decimal.tiny ≤ k)
    (written : x = m * 10 ^ k) : rounded x = x := by
  by_cases zero : x = 0
  · rw [zero, rounded_zero]
  refine roundAt_of_multiple (lastPlace_le order ?_) written
  have magnitude : |x| < 10 ^ (k + 28) := by
    rw [written, abs_mul, abs_of_pos (ten_zpow_pos k), add_comm, zpow_add₀ (by norm_num)]
    exact mul_lt_mul_of_pos_right (by exact_mod_cast fits) (ten_zpow_pos k)
  have := (log_lt_iff zero).mpr magnitude
  omega

theorem rounded_eq_significant
    (least : -999999 ≤ Int.log 10 |significant Decimal.precision x|) :
    rounded x = significant Decimal.precision x := by
  by_cases zero : x = 0
  · rw [zero, rounded_zero, significant_zero]
  have nonzero : significant Decimal.precision x ≠ 0 :=
    fun vanishes => zero ((significant_eq_zero_iff (by decide)).mp vanishes)
  unfold rounded
  by_cases normal : -999999 ≤ Int.log 10 |x|
  · have same : lastPlace x = Int.log 10 |x| - (Decimal.precision - 1) := by
      unfold lastPlace Decimal.precision Decimal.tiny
      omega
    rw [same]
    rfl
  -- The number is rounded up to the power of ten above it, and so it is at the smallest place.
  have reached : 10 ^ (-999999 : ℤ) ≤ |significant Decimal.precision x| :=
    (le_log_iff nonzero).mp least
  have bounded : |significant Decimal.precision x| ≤ 10 ^ (Int.log 10 |x| + 1) :=
    significant_le (by decide) zero
  have leading : Int.log 10 |x| = -1000000 := by
    have := ten_zpow_le_iff.mp (reached.trans bounded)
    omega
  have place : lastPlace x = Decimal.tiny := by
    unfold lastPlace Decimal.precision Decimal.tiny
    omega
  rw [place]
  refine roundAt_of_carry ?_ (by decide) ((log_lt_iff zero).mp (by omega)) reached
  unfold Decimal.precision Decimal.tiny
  omega

theorem not_overflows_zero : ¬ Overflows 0 := by
  rw [Overflows, abs_zero, not_le]
  exact ten_zpow_pos _

theorem Overflows.ne_zero (beyond : Overflows x) : x ≠ 0 :=
  fun zero => not_overflows_zero (zero ▸ beyond)

theorem overflows_iff : Overflows x ↔ Decimal.maxExponent < Int.log 10 |x| := by
  by_cases zero : x = 0
  · rw [zero, iff_false_left not_overflows_zero, abs_zero, Int.log_zero_right]
    decide
  · rw [Overflows, ← le_log_iff zero, Int.add_one_le_iff]

theorem InRange.least (range : InRange x) : -999999 ≤ Int.log 10 |x| := by
  rcases range with rfl | ⟨least, -⟩
  · rw [abs_zero, Int.log_zero_right]
    decide
  · exact least

theorem InRange.not_overflows (range : InRange x) : ¬ Overflows x := by
  rcases range with rfl | ⟨-, most⟩
  · exact not_overflows_zero
  · rwa [overflows_iff, not_lt]

theorem Overflows.rounded (beyond : Overflows x) : Overflows (rounded x) := by
  have nonzero := beyond.ne_zero
  have leading := (le_log_iff nonzero).mpr beyond
  have order : lastPlace x ≤ Int.log 10 |x| := lastPlace_le (by
    unfold Decimal.tiny Decimal.maxExponent at *
    omega) (by omega)
  exact (ten_zpow_le_iff.mpr leading).trans
    (ten_zpow_le_abs_roundAt order (ten_zpow_log_le nonzero))

theorem rounded_eq_zero_iff : rounded x = 0 ↔ 2 * |x| ≤ 10 ^ Decimal.tiny := by
  by_cases zero : x = 0
  · simp only [zero, rounded_zero, abs_zero, mul_zero, true_iff]
    exact (ten_zpow_pos _).le
  have positive := ten_zpow_pos (lastPlace x)
  have halved : rounded x = 0 ↔ 2 * |x| ≤ 10 ^ lastPlace x := by
    rw [rounded, roundAt, mul_eq_zero, or_iff_left positive.ne', Int.cast_eq_zero,
      roundEven_eq_zero_iff, abs_div, abs_of_pos positive, div_le_iff₀ positive]
    constructor <;> (intro small; linarith)
  rw [halved]
  rcases le_total (Int.log 10 |x| - (Decimal.precision - 1)) Decimal.tiny with low | high
  · rw [lastPlace, max_eq_right low]
  -- A number with digits above the smallest place is not half of the place that it is rounded to.
  · have leading := ten_zpow_log_le zero
    have place : lastPlace x ≤ Int.log 10 |x| := by
      rw [lastPlace, max_eq_left high]
      unfold Decimal.precision
      omega
    have coarse := ten_zpow_le_iff.mpr place
    have fine : (10 : ℚ) ^ Decimal.tiny ≤ 10 ^ lastPlace x :=
      ten_zpow_le_iff.mpr (le_max_right _ _)
    constructor <;> (intro small; linarith)

def Sinks (x : ℚ) : Prop :=
  x < 0 ∧ -(10 ^ Decimal.tiny) ≤ 2 * x

theorem sinks_iff : Sinks x ↔ x < 0 ∧ rounded x = 0 := by
  rw [rounded_eq_zero_iff, Sinks]
  refine and_congr_right fun negative => ?_
  rw [abs_of_neg negative]
  constructor <;> (intro small; linarith)

end Rounded

namespace Decimal

variable {d : Decimal}

/-! ## The number that a decimal denotes -/

def value (d : Decimal) : ℚ :=
  d.signed * 10 ^ d.exponent

/-- The number has no more digits than are kept, and it lies in the range of results. -/
structure Settled (d : Decimal) : Prop where
  short : d.coefficient < 10 ^ precision
  least : d.isZero = false → tiny ≤ d.exponent
  most : d.isZero = false → d.adjusted ≤ maxExponent

theorem isZero_iff : d.isZero = true ↔ d.coefficient = 0 :=
  beq_iff_eq

theorem abs_signed (d : Decimal) : |d.signed| = d.coefficient := by
  unfold signed
  split <;> simp

theorem value_mk (negative : Bool) (coefficient : ℕ) (exponent : ℤ) :
    (⟨negative, coefficient, exponent⟩ : Decimal).value =
      if negative then -((coefficient : ℚ) * 10 ^ exponent)
      else (coefficient : ℚ) * 10 ^ exponent := by
  cases negative <;> simp [value, signed]

theorem value_shift (negative : Bool) (coefficient k : ℕ) (exponent : ℤ) :
    (⟨negative, coefficient * 10 ^ k, exponent⟩ : Decimal).value =
      (⟨negative, coefficient, exponent + k⟩ : Decimal).value := by
  have scaled : ((coefficient * 10 ^ k : ℕ) : ℚ) * 10 ^ exponent =
      coefficient * 10 ^ (exponent + k) := by
    rw [zpow_add₀ (by norm_num), zpow_natCast]
    push_cast
    ring
  rw [value_mk, value_mk, scaled]

theorem abs_value (d : Decimal) : |d.value| = d.coefficient * 10 ^ d.exponent := by
  rw [value, abs_mul, abs_of_pos (ten_zpow_pos _), ← Int.cast_abs, abs_signed, Int.cast_natCast]

theorem value_eq_zero_iff : d.value = 0 ↔ d.isZero = true := by
  rw [← abs_eq_zero, abs_value, mul_eq_zero, or_iff_left (ten_zpow_pos _).ne', Nat.cast_eq_zero,
    isZero_iff]

theorem value_ne_zero (nonzero : d.isZero = false) : d.value ≠ 0 := by
  rw [Ne, value_eq_zero_iff, nonzero]
  exact Bool.false_ne_true

theorem isZero_of_rounded_ne_zero (some : rounded d.value ≠ 0) : d.isZero = false := by
  by_contra zero
  rw [Bool.not_eq_false, ← value_eq_zero_iff] at zero
  exact some (by rw [zero, rounded_zero])

theorem value_neg (d : Decimal) : d.neg.value = -d.value := by
  obtain ⟨negative, coefficient, exponent⟩ := d
  cases negative <;> simp [value, signed, neg]

theorem value_nonneg (positive : d.negative = false) : 0 ≤ d.value := by
  unfold value signed
  rw [positive, if_neg Bool.false_ne_true, Int.cast_natCast]
  exact mul_nonneg (Nat.cast_nonneg _) (ten_zpow_pos _).le

theorem value_nonpos (negative : d.negative = true) : d.value ≤ 0 := by
  have := value_nonneg (d := d.neg) (by simp [neg, negative])
  rw [value_neg] at this
  linarith

theorem log_value (nonzero : d.isZero = false) : Int.log 10 |d.value| = d.adjusted := by
  have some : d.coefficient ≠ 0 := fun zero => by simp [isZero, zero] at nonzero
  have positive := ten_zpow_pos d.exponent
  have count : 0 < digitCount d.coefficient := by
    rw [digitCount_eq]
    exact Nat.succ_pos _
  have different := value_ne_zero nonzero
  unfold adjusted
  apply le_antisymm
  · apply Int.lt_add_one_iff.mp
    rw [log_lt_iff different, abs_value, sub_add_cancel, add_comm, zpow_add₀ (by norm_num),
      zpow_natCast]
    exact mul_lt_mul_of_pos_right (by exact_mod_cast lt_ten_pow_digitCount _) positive
  · have split : d.exponent + digitCount d.coefficient - 1 =
        ((digitCount d.coefficient - 1 : ℕ) : ℤ) + d.exponent := by omega
    rw [le_log_iff different, abs_value, split, zpow_add₀ (by norm_num), zpow_natCast]
    exact mul_le_mul_of_nonneg_right (by exact_mod_cast ten_pow_le_of_digitCount some) positive.le

theorem overflows_value_iff (nonzero : d.isZero = false) :
    Overflows d.value ↔ maxExponent < d.adjusted := by
  rw [overflows_iff, log_value nonzero]

/-! ## Finishing a result -/

/-- The digits of a number that are kept: at least at the last place, and with a carry into one
digit more brought back to the precision. -/
def cut (d : Decimal) : Decimal :=
  let exponent := Max.max d.exponent (lastPlace d.value)
  let shift := (exponent - d.exponent).toNat
  let coefficient := halfEven d.coefficient (pow10 shift)
  if coefficient = pow10 precision then ⟨d.negative, pow10 (precision - 1), exponent + 1⟩
  else ⟨d.negative, coefficient, exponent⟩

theorem halfEven_eq_zero {num den : ℕ} (small : 2 * num < den) : halfEven num den = 0 := by
  have less : num < den := by omega
  unfold halfEven
  dsimp only
  rw [Nat.div_eq_of_lt less, Nat.mod_eq_of_lt less, if_pos small]

/-- A number below half of what is kept is cut off without dividing. -/
theorem halfEven_of_digitCount {n shift : ℕ} :
    (if shift > digitCount n then 0 else halfEven n (pow10 shift)) = halfEven n (pow10 shift) := by
  split
  · next beyond =>
      refine (halfEven_eq_zero ?_).symm
      calc 2 * n
        _ < 2 * 10 ^ digitCount n := by
          have := lt_ten_pow_digitCount n
          omega
        _ ≤ 10 ^ (digitCount n + 1) := by
          rw [Nat.pow_succ]
          omega
        _ ≤ pow10 shift := Nat.pow_le_pow_right (by decide) beyond
  · rfl

theorem finish_eq (nonzero : d.isZero = false) :
    d.finish = if d.adjusted > maxExponent then .error .overflow
      else if d.cut.coefficient != 0 && d.cut.adjusted > maxExponent then .error .overflow
      else .ok d.cut := by
  have place : Max.max (d.adjusted - (precision - 1)) tiny = lastPlace d.value := by
    rw [lastPlace, log_value nonzero]
  unfold finish
  rw [nonzero, if_neg Bool.false_ne_true]
  dsimp only
  rw [place, halfEven_of_digitCount]
  simp only [beq_iff_eq]
  rfl

theorem value_halfEven {place : ℤ} (order : d.exponent ≤ place) :
    (⟨d.negative, halfEven d.coefficient (pow10 (place - d.exponent).toNat), place⟩ :
      Decimal).value = roundAt place d.value := by
  obtain ⟨negative, coefficient, exponent⟩ := d
  dsimp only at order ⊢
  have positive := ten_zpow_pos exponent
  have units : (coefficient : ℚ) * 10 ^ exponent / 10 ^ place =
      coefficient / (pow10 (place - exponent).toNat : ℕ) := by
    rw [ten_zpow_split order, mul_div_mul_right _ _ positive.ne', pow10_eq]
    push_cast
    rfl
  have magnitude : roundEven ((coefficient : ℚ) * 10 ^ exponent / 10 ^ place) =
      halfEven coefficient (pow10 (place - exponent).toNat) := by
    have divides : 0 < pow10 (place - exponent).toNat := Nat.pow_pos (by decide)
    rw [units, roundEven_div coefficient divides]
  cases negative with
  | false => simp [value, signed, roundAt, magnitude]
  | true => simp [value, signed, roundAt, neg_div, roundEven_neg, magnitude]

theorem value_carry (negative : Bool) (coefficient : ℕ) (exponent : ℤ) :
    (if coefficient = pow10 precision then ⟨negative, pow10 (precision - 1), exponent + 1⟩
      else ⟨negative, coefficient, exponent⟩ : Decimal).value =
      (⟨negative, coefficient, exponent⟩ : Decimal).value := by
  split
  · next carried =>
      have larger : pow10 precision = pow10 (precision - 1) * 10 ^ 1 := (Nat.pow_succ ..).symm
      rw [carried, larger, value_shift]
      rfl
  · rfl

theorem value_cut (d : Decimal) : d.cut.value = rounded d.value := by
  unfold cut
  dsimp only
  rw [value_carry, value_halfEven (le_max_left _ _)]
  rcases le_total d.exponent (lastPlace d.value) with coarser | finer
  · rw [max_eq_right coarser]
    rfl
  -- All digits are kept.
  · have whole : d.value = d.signed * 10 ^ d.exponent := rfl
    rw [max_eq_left finer, roundAt_of_multiple le_rfl whole]
    exact (roundAt_of_multiple finer whole).symm

theorem cut_short (nonzero : d.isZero = false) : d.cut.coefficient < 10 ^ precision := by
  have below : |d.value| ≤ 10 ^ (Max.max d.exponent (lastPlace d.value) + 28) := by
    refine (lt_ten_zpow_log (value_ne_zero nonzero)).le.trans (ten_zpow_le_iff.mpr ?_)
    have : Int.log 10 |d.value| - 27 ≤ lastPlace d.value := by
      unfold lastPlace precision
      omega
    omega
  have bounded := abs_roundAt_le_ten_zpow (Int.le_add_of_nonneg_right (by decide)) below
  rw [← value_halfEven (le_max_left _ _), abs_value, add_comm, zpow_add₀ (by norm_num),
    mul_le_mul_iff_left₀ (ten_zpow_pos _)] at bounded
  unfold cut
  dsimp only
  split
  · exact Nat.pow_lt_pow_right (by decide) (by decide)
  · next different =>
      have : halfEven d.coefficient
          (pow10 (Max.max d.exponent (lastPlace d.value) - d.exponent).toNat) ≤ 10 ^ precision := by
        exact_mod_cast bounded
      exact lt_of_le_of_ne this different

theorem tiny_le_cut (d : Decimal) : tiny ≤ d.cut.exponent := by
  have least : tiny ≤ lastPlace d.value := le_max_right _ _
  have kept : tiny ≤ Max.max d.exponent (lastPlace d.value) := least.trans (le_max_right _ _)
  unfold cut
  dsimp only
  split
  · exact kept.trans (by simp)
  · exact kept

theorem finish_cut (nonzero : d.isZero = false) :
    d.finish = if Overflows (rounded d.value) then .error .overflow else .ok d.cut := by
  rw [finish_eq nonzero]
  by_cases beyond : d.adjusted > maxExponent
  · have overflows := ((overflows_value_iff nonzero).mpr beyond).rounded
    rw [if_pos beyond, if_pos overflows]
  rw [if_neg beyond, ← value_cut]
  cases zero : d.cut.isZero with
  | true =>
      have vanishes := value_eq_zero_iff.mpr zero
      simp [isZero_iff.mp zero, vanishes, not_overflows_zero]
  | false =>
      have some : (d.cut.coefficient != 0) = true := by simpa [isZero] using zero
      simp only [some, Bool.true_and, overflows_value_iff zero, decide_eq_true_eq, gt_iff_lt]

theorem finish_of_overflows (beyond : Overflows (rounded d.value)) :
    d.finish = .error .overflow := by
  rw [finish_cut (isZero_of_rounded_ne_zero beyond.ne_zero), if_pos beyond]

theorem finish_of_not_overflows (within : ¬ Overflows (rounded d.value)) :
    ∃ r, d.finish = .ok r ∧ r.value = rounded d.value ∧ r.Settled := by
  cases zero : d.isZero with
  | true =>
      refine ⟨_, if_pos zero, ?_, ?_⟩
      · rw [value_eq_zero_iff.mpr zero, rounded_zero]
        exact value_eq_zero_iff.mpr zero
      · refine ⟨?_, fun other => absurd zero ?_, fun other => absurd zero ?_⟩
        · exact (isZero_iff.mp zero).trans_lt (Nat.pow_pos (by decide))
        all_goals exact Bool.eq_false_iff.mp other
  | false =>
      refine ⟨d.cut, by rw [finish_cut zero, if_neg within], value_cut d, cut_short zero,
        fun _ => tiny_le_cut d, fun some => not_lt.mp fun beyond => within ?_⟩
      rw [← value_cut]
      exact (overflows_value_iff some).mpr beyond

theorem finish_cases (d : Decimal) :
    (Overflows (rounded d.value) ∧ d.finish = .error .overflow) ∨
      ∃ r, d.finish = .ok r ∧ r.value = rounded d.value ∧ r.Settled := by
  by_cases beyond : Overflows (rounded d.value)
  · exact .inl ⟨beyond, finish_of_overflows beyond⟩
  · exact .inr (finish_of_not_overflows beyond)

theorem settled_of_finish {r : Decimal} (finished : d.finish = .ok r) : r.Settled := by
  rcases d.finish_cases with ⟨-, failed⟩ | ⟨other, same, -, settled⟩
  · cases failed.symm.trans finished
  · cases same.symm.trans finished
    exact settled

theorem Settled.rounded_value (settled : d.Settled) : rounded d.value = d.value := by
  cases zero : d.isZero with
  | true => rw [value_eq_zero_iff.mpr zero, rounded_zero]
  | false =>
      refine rounded_of_fits (m := d.signed) ?_ (settled.least zero) rfl
      rw [abs_signed]
      exact_mod_cast settled.short

theorem Settled.not_overflows (settled : d.Settled) : ¬ Overflows d.value := by
  cases zero : d.isZero with
  | true =>
      rw [value_eq_zero_iff.mpr zero]
      exact not_overflows_zero
  | false =>
      rw [overflows_value_iff zero, not_lt]
      exact settled.most zero

end Decimal

end LineScript.Number
