import LineScript.Number.Rounding
import Mathlib.Algebra.Order.Field.Power
import Mathlib.Algebra.Order.Floor.Ring
import Mathlib.Data.Int.Log
import Mathlib.Data.Rat.Floor
import Mathlib.Tactic.FieldSimp
import Mathlib.Tactic.Linarith
import Mathlib.Tactic.Ring

/-!
Rounding of rational numbers: to the nearest integer, to a decimal place and to a number of
significant digits, with ties to the even neighbour. Two numbers round alike when no multiple of a
small enough unit lies between them.
-/

namespace LineScript.Number

/-- The integer nearest to a number; a tie goes to the even neighbour. -/
def roundEven (x : ℚ) : ℤ :=
  let below := ⌊x⌋
  if x - below < 1 / 2 then below
  else if 1 / 2 < x - below then below + 1
  else below + below % 2

/-- No integer is nearer, and of two that are equally near this is the even one. -/
structure Nearest (x : ℚ) (n : ℤ) : Prop where
  close : |x - n| ≤ 1 / 2
  even : |x - n| = 1 / 2 → Even n

def roundAt (place : ℤ) (x : ℚ) : ℚ :=
  roundEven (x / 10 ^ place) * 10 ^ place

def significant (digits : ℕ) (x : ℚ) : ℚ :=
  roundAt (Int.log 10 |x| - (digits - 1)) x

variable {x y : ℚ} {n m : ℤ} {place k : ℤ}

/-! ## The nearest integer -/

theorem Nearest.unique (first : Nearest x n) (second : Nearest x m) : n = m := by
  wlog order : n < m generalizing n m
  · rcases lt_trichotomy n m with less | same | greater
    · exact this first second less
    · exact same
    · exact (this second first greater).symm
  exfalso
  have above : (n : ℚ) + 1 ≤ m := by exact_mod_cast order
  have fromLeft := abs_le.mp first.close
  have fromRight := abs_le.mp second.close
  -- Both are half away, so both are even, but they are neighbours.
  have half : x - n = 1 / 2 := by linarith
  have next : m = n + 1 := by
    have : (m : ℚ) = n + 1 := by linarith
    exact_mod_cast this
  have evenLeft := first.even (by rw [half]; norm_num)
  have evenRight := second.even (by rw [next]; push_cast; rw [abs_of_nonpos] <;> linarith)
  rw [next] at evenRight
  exact (Int.even_add_one.mp evenRight) evenLeft

theorem nearest_roundEven (x : ℚ) : Nearest x (roundEven x) := by
  have lower := Int.floor_le x
  have upper := Int.lt_floor_add_one x
  unfold roundEven
  dsimp only
  split_ifs with near far
  · refine ⟨?_, fun tie => ?_⟩
    · rw [abs_of_nonneg (by linarith)]
      exact near.le
    · rw [abs_of_nonneg (by linarith)] at tie
      linarith
  · have side : x - (⌊x⌋ + 1 : ℤ) ≤ 0 := by push_cast; linarith
    refine ⟨?_, fun tie => ?_⟩
    · rw [abs_of_nonpos side]
      push_cast
      linarith
    · rw [abs_of_nonpos side] at tie
      push_cast at tie
      linarith
  · have half : x - ⌊x⌋ = 1 / 2 := by linarith
    rcases Int.emod_two_eq_zero_or_one ⌊x⌋ with even | odd
    · rw [even, add_zero]
      exact ⟨by rw [half]; norm_num, fun _ => Int.even_iff.mpr even⟩
    · rw [odd]
      refine ⟨?_, fun _ => Int.even_iff.mpr (by omega)⟩
      push_cast
      rw [abs_of_nonpos] <;> linarith

theorem Nearest.eq (nearest : Nearest x n) : roundEven x = n :=
  (nearest_roundEven x).unique nearest

theorem Nearest.neg (nearest : Nearest x n) : Nearest (-x) (-n) := by
  have same : |-x - ((-n : ℤ) : ℚ)| = |x - n| := by
    push_cast
    rw [← abs_neg]
    congr 1
    ring
  exact ⟨same ▸ nearest.close, fun tie => even_neg.mpr (nearest.even (same ▸ tie))⟩

theorem roundEven_neg (x : ℚ) : roundEven (-x) = -roundEven x :=
  (nearest_roundEven x).neg.eq

@[simp]
theorem roundEven_intCast (n : ℤ) : roundEven n = n :=
  Nearest.eq ⟨by simp, fun tie => absurd tie (by norm_num)⟩

theorem roundEven_eq_zero_iff : roundEven x = 0 ↔ |x| ≤ 1 / 2 := by
  have nearest := nearest_roundEven x
  constructor
  · intro zero
    simpa [zero] using nearest.close
  · intro small
    exact Nearest.eq ⟨by simpa using small, fun _ => Even.zero⟩

theorem le_roundEven (below : (n : ℚ) ≤ x) : n ≤ roundEven x := by
  by_contra less
  have close := abs_le.mp (nearest_roundEven x).close
  have gap : (roundEven x : ℚ) + 1 ≤ n := by exact_mod_cast not_le.mp less
  linarith

theorem roundEven_le (above : x ≤ n) : roundEven x ≤ n := by
  have mirrored : ((-n : ℤ) : ℚ) ≤ -x := by
    push_cast
    linarith
  have := le_roundEven mirrored
  rw [roundEven_neg] at this
  omega

theorem natCast_div (num : ℕ) {den : ℕ} (positive : 0 < den) :
    (num : ℚ) / den = (num / den : ℕ) + ((num % den : ℕ) : ℚ) / den := by
  have scale : (den : ℚ) ≠ 0 := by exact_mod_cast positive.ne'
  have division : (num : ℚ) = den * (num / den : ℕ) + (num % den : ℕ) := by
    exact_mod_cast (Nat.div_add_mod num den).symm
  calc (num : ℚ) / den
    _ = (den * (num / den : ℕ) + (num % den : ℕ)) / den := by rw [← division]
    _ = (num / den : ℕ) + ((num % den : ℕ) : ℚ) / den := by
      rw [add_div, mul_div_cancel_left₀ _ scale]

theorem roundEven_div (num : ℕ) {den : ℕ} (positive : 0 < den) :
    roundEven ((num : ℚ) / den) = halfEven num den := by
  have scale : (0 : ℚ) < den := by exact_mod_cast positive
  have floor : ⌊(num : ℚ) / den⌋ = ((num / den : ℕ) : ℤ) := Rat.floor_natCast_div_natCast num den
  have rest : (num : ℚ) / den - ((num / den : ℕ) : ℤ) = (num % den : ℕ) / den := by
    rw [Int.cast_natCast, natCast_div num positive, add_sub_cancel_left]
  have less : (num : ℚ) / den - ((num / den : ℕ) : ℤ) < 1 / 2 ↔ 2 * (num % den) < den := by
    rw [rest, div_lt_div_iff₀ scale two_pos, one_mul, mul_comm]
    exact_mod_cast Iff.rfl
  have more : 1 / 2 < (num : ℚ) / den - ((num / den : ℕ) : ℤ) ↔ den < 2 * (num % den) := by
    rw [rest, div_lt_div_iff₀ two_pos scale, one_mul, mul_comm _ (2 : ℚ)]
    exact_mod_cast Iff.rfl
  unfold roundEven halfEven
  dsimp only
  rw [floor]
  simp only [less, more]
  split_ifs <;> push_cast <;> rfl

/-! ## Rounding at a place -/

theorem ten_zpow_pos (k : ℤ) : (0 : ℚ) < 10 ^ k := by
  positivity

theorem ten_zpow_le_iff {j k : ℤ} : (10 : ℚ) ^ j ≤ 10 ^ k ↔ j ≤ k :=
  zpow_le_zpow_iff_right₀ (by norm_num)

theorem ten_zpow_lt_iff {j k : ℤ} : (10 : ℚ) ^ j < 10 ^ k ↔ j < k :=
  zpow_lt_zpow_iff_right₀ (by norm_num)

theorem ten_zpow_split (order : place ≤ k) :
    (10 : ℚ) ^ k = ((10 ^ (k - place).toNat : ℤ) : ℚ) * 10 ^ place := by
  push_cast
  rw [← zpow_natCast, ← zpow_add₀ (by norm_num)]
  congr 1
  omega

theorem roundAt_neg (place : ℤ) (x : ℚ) : roundAt place (-x) = -roundAt place x := by
  unfold roundAt
  rw [neg_div, roundEven_neg]
  push_cast
  ring

@[simp]
theorem roundAt_zero (place : ℤ) : roundAt place 0 = 0 := by
  have zero : roundEven 0 = 0 := by exact_mod_cast roundEven_intCast 0
  simp [roundAt, zero]

theorem roundAt_of_multiple (order : place ≤ k) (multiple : x = n * 10 ^ k) :
    roundAt place x = x := by
  have units : x / 10 ^ place = ((n * 10 ^ (k - place).toNat : ℤ) : ℚ) := by
    rw [div_eq_iff (ten_zpow_pos place).ne', multiple, ten_zpow_split order]
    push_cast
    ring
  unfold roundAt
  rw [units, roundEven_intCast, ← units, div_mul_cancel₀ _ (ten_zpow_pos place).ne']

theorem le_roundAt (below : n * 10 ^ place ≤ x) : n * 10 ^ place ≤ roundAt place x := by
  have scaled : (n : ℚ) ≤ x / 10 ^ place := (le_div_iff₀ (ten_zpow_pos place)).mpr below
  exact mul_le_mul_of_nonneg_right (by exact_mod_cast le_roundEven scaled) (ten_zpow_pos place).le

theorem roundAt_le (above : x ≤ n * 10 ^ place) : roundAt place x ≤ n * 10 ^ place := by
  have scaled : x / 10 ^ place ≤ n := (div_le_iff₀ (ten_zpow_pos place)).mpr above
  exact mul_le_mul_of_nonneg_right (by exact_mod_cast roundEven_le scaled) (ten_zpow_pos place).le

theorem roundAt_nonneg (place : ℤ) (nonneg : 0 ≤ x) : 0 ≤ roundAt place x := by
  have := @le_roundAt x 0 place (by simpa using nonneg)
  simpa using this

theorem abs_roundAt (place : ℤ) (x : ℚ) : |roundAt place x| = roundAt place |x| := by
  rcases le_total 0 x with nonneg | nonpos
  · rw [abs_of_nonneg nonneg, abs_of_nonneg (roundAt_nonneg place nonneg)]
  · rw [abs_of_nonpos nonpos, ← abs_neg, ← roundAt_neg]
    exact abs_of_nonneg (roundAt_nonneg place (neg_nonneg.mpr nonpos))

theorem ten_zpow_le_abs_roundAt (order : place ≤ k) (below : 10 ^ k ≤ |x|) :
    10 ^ k ≤ |roundAt place x| := by
  rw [abs_roundAt, ten_zpow_split order] at *
  exact le_roundAt below

theorem abs_roundAt_le_ten_zpow (order : place ≤ k) (above : |x| ≤ 10 ^ k) :
    |roundAt place x| ≤ 10 ^ k := by
  rw [abs_roundAt, ten_zpow_split order] at *
  exact roundAt_le above

/-- A number that is rounded up to the power of ten above it is rounded up to it at coarser places
too. -/
theorem roundAt_of_carry {coarse : ℤ} (finer : place < coarse) (order : coarse ≤ k)
    (below : |x| < 10 ^ k) (reached : 10 ^ k ≤ |roundAt place x|) :
    roundAt coarse x = roundAt place x := by
  wlog nonneg : 0 ≤ x generalizing x
  · have mirrored := this (x := -x) (by rwa [abs_neg]) (by rwa [roundAt_neg, abs_neg]) (by linarith)
    rw [roundAt_neg, roundAt_neg] at mirrored
    exact neg_injective mirrored
  -- The finer rounding has carried to the power itself, so the value is within half a unit of it,
  -- much less than half a coarser unit.
  have carried : |roundAt place x| = 10 ^ k :=
    le_antisymm (abs_roundAt_le_ten_zpow (finer.le.trans order) below.le) reached
  rw [abs_of_nonneg nonneg] at below
  rw [abs_of_nonneg (roundAt_nonneg place nonneg)] at carried
  have less := ten_zpow_lt_iff.mpr finer
  have positive := ten_zpow_pos coarse
  have close := abs_le.mp (nearest_roundEven (x / 10 ^ place)).close
  have gap : 10 ^ k - x ≤ 1 / 2 * 10 ^ place := by
    have scaled := mul_le_mul_of_nonneg_right (neg_le_neg close.1) (ten_zpow_pos place).le
    rw [neg_sub, sub_mul, div_mul_cancel₀ _ (ten_zpow_pos place).ne', neg_neg] at scaled
    exact carried ▸ scaled
  have nearest : Nearest (x / 10 ^ coarse) (10 ^ (k - coarse).toNat) := by
    have units : x / 10 ^ coarse - ((10 ^ (k - coarse).toNat : ℤ) : ℚ) =
        -((10 ^ k - x) / 10 ^ coarse) := by
      rw [ten_zpow_split order, sub_div, mul_div_cancel_right₀ _ positive.ne']
      ring
    have inside : |x / 10 ^ coarse - ((10 ^ (k - coarse).toNat : ℤ) : ℚ)| < 1 / 2 := by
      rw [units, abs_neg, abs_of_nonneg (div_nonneg (by linarith) positive.le),
        div_lt_iff₀ positive]
      linarith
    exact ⟨inside.le, fun tie => absurd tie inside.ne⟩
  rw [roundAt, nearest.eq, ← ten_zpow_split order, carried]

/-! ## Numbers that round alike -/

def SameCell (unit x y : ℚ) : Prop :=
  ∀ m : ℤ, (m * unit ≤ x → m * unit < y) ∧ (m * unit ≤ y → m * unit < x)

theorem SameCell.neg {unit : ℚ} (same : SameCell unit x y) : SameCell unit (-x) (-y) := by
  have mirror (m : ℤ) : ((-m : ℤ) : ℚ) * unit = -(m * unit) := by
    push_cast
    ring
  intro m
  have cell := same (-m)
  rw [mirror] at cell
  constructor
  · intro below
    by_contra beyond
    have := cell.2 (by linarith)
    linarith
  · intro below
    by_contra beyond
    have := cell.1 (by linarith)
    linarith

theorem SameCell.coarser {unit larger : ℚ} (same : SameCell unit x y) (factor : ℤ)
    (multiple : larger = factor * unit) : SameCell larger x y := by
  intro m
  have cell := same (m * factor)
  rw [multiple, ← mul_assoc]
  exact_mod_cast cell

theorem sameCell_of_between {unit : ℚ} (positive : 0 < unit) (lowX : n * unit < x)
    (highX : x < (n + 1) * unit) (lowY : n * unit < y) (highY : y < (n + 1) * unit) :
    SameCell unit x y := by
  have least {z : ℚ} (high : z < (n + 1) * unit) (m : ℤ) (below : m * unit ≤ z) :
      (m : ℚ) * unit ≤ n * unit := by
    have less : (m : ℚ) < n + 1 := lt_of_mul_lt_mul_right (below.trans_lt high) positive.le
    have : m ≤ n := by
      have : m < n + 1 := by exact_mod_cast less
      omega
    exact mul_le_mul_of_nonneg_right (by exact_mod_cast this) positive.le
  intro m
  exact ⟨fun below => (least highX m below).trans_lt lowY,
    fun below => (least highY m below).trans_lt lowX⟩

/-- Where the halves of a place are multiples of the unit, numbers of one cell are rounded alike. -/
theorem SameCell.roundAt_eq (same : SameCell (5 * 10 ^ k) x y) (order : k < place) :
    roundAt place x = roundAt place y := by
  have positive := ten_zpow_pos place
  -- The points at which a rounding turns over are multiples of the cell's side.
  have halves (n : ℤ) : ((n : ℚ) - 1 / 2) * 10 ^ place =
      (((2 * n - 1) * 10 ^ (place - 1 - k).toNat : ℤ) : ℚ) * (5 * 10 ^ k) := by
    have split : (10 : ℚ) ^ place = 10 * ((10 ^ (place - 1 - k).toNat : ℤ) * 10 ^ k) := by
      rw [← ten_zpow_split (by omega), ← zpow_one_add₀ (by norm_num)]
      congr 1
      omega
    rw [split]
    push_cast
    ring
  have nearest := nearest_roundEven (x / 10 ^ place)
  have close := abs_le.mp nearest.close
  generalize roundEven (x / 10 ^ place) = r at nearest close
  have low : ((r : ℚ) - 1 / 2) * 10 ^ place < y := by
    rw [halves]
    apply (same _).1
    rw [← halves, ← le_div_iff₀ positive]
    linarith
  have high : y < ((r : ℚ) + 1 / 2) * 10 ^ place := by
    have next : ((r : ℚ) + 1 / 2) = ((r + 1 : ℤ) : ℚ) - 1 / 2 := by
      push_cast
      ring
    rw [next]
    by_contra beyond
    rw [not_lt, halves] at beyond
    have reached := (same _).2 beyond
    rw [← halves, ← next, ← lt_div_iff₀ positive] at reached
    linarith
  rw [← lt_div_iff₀ positive] at low
  rw [← div_lt_iff₀ positive] at high
  have nearestY : Nearest (y / 10 ^ place) r := by
    have inside : |y / 10 ^ place - r| < 1 / 2 := abs_lt.mpr ⟨by linarith, by linarith⟩
    exact ⟨inside.le, fun tie => absurd tie inside.ne⟩
  unfold roundAt
  rw [nearestY.eq, nearest.eq]

/-! ## The leading digit -/

theorem le_log_iff (nonzero : x ≠ 0) : k ≤ Int.log 10 |x| ↔ 10 ^ k ≤ |x| := by
  have base : (1 : ℕ) < 10 := by decide
  exact_mod_cast (Int.zpow_le_iff_le_log base (x := k) (abs_pos.mpr nonzero)).symm

theorem log_lt_iff (nonzero : x ≠ 0) : Int.log 10 |x| < k ↔ |x| < 10 ^ k := by
  rw [← not_le, ← not_le, le_log_iff nonzero]

theorem ten_zpow_log_le (nonzero : x ≠ 0) : 10 ^ Int.log 10 |x| ≤ |x| :=
  (le_log_iff nonzero).mp le_rfl

theorem lt_ten_zpow_log (nonzero : x ≠ 0) : |x| < 10 ^ (Int.log 10 |x| + 1) :=
  (log_lt_iff nonzero).mp (Int.lt_add_one_of_le le_rfl)

theorem SameCell.log_eq (same : SameCell (5 * 10 ^ k) x y) (large : 10 ^ (k + 1) ≤ |x|) :
    Int.log 10 |x| = Int.log 10 |y| := by
  wlog nonneg : 0 ≤ x generalizing x y
  · have mirrored := this same.neg (by rwa [abs_neg]) (by linarith)
    rwa [abs_neg, abs_neg] at mirrored
  have powers {j : ℤ} (order : k + 1 ≤ j) :
      (10 : ℚ) ^ j = ((2 * 10 ^ (j - (k + 1)).toNat : ℤ) : ℚ) * (5 * 10 ^ k) := by
    rw [ten_zpow_split order, zpow_add_one₀ (by norm_num)]
    push_cast
    ring
  have positive : 0 < y := by simpa using (same 0).1 (by simpa using nonneg)
  have nonzero : x ≠ 0 := abs_pos.mp ((ten_zpow_pos _).trans_le large)
  have order : k + 1 ≤ Int.log 10 |x| := (le_log_iff nonzero).mpr large
  have lower := ten_zpow_log_le nonzero
  have upper := lt_ten_zpow_log nonzero
  rw [abs_of_nonneg nonneg] at order lower upper ⊢
  refine le_antisymm ((le_log_iff positive.ne').mpr ?_) (Int.lt_add_one_iff.mp ?_)
  · rw [abs_of_pos positive, powers order]
    exact ((same _).1 (by rwa [← powers order])).le
  · rw [log_lt_iff positive.ne', abs_of_pos positive]
    by_contra beyond
    rw [not_lt, powers (by omega)] at beyond
    have reached := (same _).2 beyond
    rw [← powers (by omega)] at reached
    exact lt_asymm upper reached

/-! ## Significant digits -/

variable {digits : ℕ}

@[simp]
theorem significant_zero (digits : ℕ) : significant digits 0 = 0 :=
  roundAt_zero _

theorem significant_of_fits (fits : |m| < 10 ^ digits) (written : x = m * 10 ^ k) :
    significant digits x = x := by
  by_cases zero : x = 0
  · rw [zero, significant_zero]
  refine roundAt_of_multiple (k := k) ?_ written
  have magnitude : |x| < 10 ^ ((digits : ℤ) + k) := by
    rw [written, abs_mul, abs_of_pos (ten_zpow_pos k), zpow_add₀ (by norm_num), zpow_natCast]
    exact mul_lt_mul_of_pos_right (by exact_mod_cast fits) (ten_zpow_pos k)
  have := (log_lt_iff zero).mpr magnitude
  omega

theorem ten_zpow_log_le_significant (some : 0 < digits) (nonzero : x ≠ 0) :
    10 ^ Int.log 10 |x| ≤ |significant digits x| :=
  ten_zpow_le_abs_roundAt (by omega) (ten_zpow_log_le nonzero)

theorem significant_le (some : 0 < digits) (nonzero : x ≠ 0) :
    |significant digits x| ≤ 10 ^ (Int.log 10 |x| + 1) :=
  abs_roundAt_le_ten_zpow (by omega) (lt_ten_zpow_log nonzero).le

theorem significant_eq_zero_iff (some : 0 < digits) : significant digits x = 0 ↔ x = 0 := by
  refine ⟨fun vanishes => ?_, fun zero => zero ▸ significant_zero digits⟩
  by_contra nonzero
  have least := ten_zpow_log_le_significant some nonzero
  rw [vanishes, abs_zero] at least
  exact absurd (ten_zpow_pos _) (not_lt.mpr least)

end LineScript.Number
