import LineScript.Number.Literal
import Mathlib.Data.List.Induction
import Mathlib.Data.Nat.Log
import Mathlib.Tactic.Ring

/-!
Digits: how many of them a number has, and which number they denote. The count and the value are
computed in ways that are fast for long numbers; here they are the logarithm and the fold.
-/

namespace LineScript.Number

theorem pow10_eq (exponent : Nat) : pow10 exponent = 10 ^ exponent := rfl

/-! ## How many digits a number has -/

theorem digitCountFrom_eq {n fuel k : Nat} (positive : 0 < k) (least : 1 < k → 10 ^ (k - 1) ≤ n)
    (enough : n < 10 ^ (k + fuel)) : digitCountFrom n fuel k = Nat.log 10 n + 1 := by
  have found {k : Nat} (positive : 0 < k) (least : 1 < k → 10 ^ (k - 1) ≤ n)
      (above : n < 10 ^ k) : k = Nat.log 10 n + 1 := by
    have upper : Nat.log 10 n < k := Nat.log_lt_of_lt_pow' (by omega) above
    by_cases one : k = 1
    · omega
    · have lower : k - 1 ≤ Nat.log 10 n := Nat.le_log_of_pow_le (by decide) (least (by omega))
      omega
  induction fuel generalizing k with
  | zero => exact found positive least enough
  | succ fuel ih =>
      unfold digitCountFrom
      rw [pow10_eq]
      split
      · next above => exact found positive least above
      · next beyond =>
          refine ih (Nat.succ_pos k) (fun _ => Nat.le_of_not_lt beyond) ?_
          rwa [Nat.add_right_comm]

/-- From one pair of powers, a bound for all: `n` doublings give at least so many digits. -/
theorem ten_pow_le_two_pow {a b : Nat} (positive : 0 < b) (powers : pow10 a ≤ pow2 b) (n : Nat) :
    10 ^ (n * a / b) ≤ 2 ^ n := by
  refine (Nat.pow_le_pow_iff_left positive.ne').mp ?_
  calc (10 ^ (n * a / b)) ^ b
    _ = 10 ^ (n * a / b * b) := (Nat.pow_mul _ _ _).symm
    _ ≤ 10 ^ (a * n) :=
      Nat.pow_le_pow_right (by decide) (Nat.mul_comm n a ▸ Nat.div_mul_le_self (n * a) b)
    _ = (10 ^ a) ^ n := Nat.pow_mul _ _ _
    _ ≤ (2 ^ b) ^ n := Nat.pow_le_pow_left powers n
    _ = (2 ^ n) ^ b := by rw [← Nat.pow_mul, ← Nat.pow_mul, Nat.mul_comm]

theorem ten_pow_le_of_log2 {n : Nat} (nonzero : n ≠ 0) : 10 ^ (n.log2 * 643 / 2136) ≤ n :=
  (ten_pow_le_two_pow (by decide) (by decide +kernel) n.log2).trans (Nat.log2_self_le nonzero)

theorem digitCount_eq (n : Nat) : digitCount n = Nat.log 10 n + 1 := by
  refine digitCountFrom_eq (by omega) (fun more => ?_) ?_
  · have nonzero : n ≠ 0 := by
      rintro rfl
      exact absurd more (by decide)
    exact (Nat.pow_le_pow_right (by decide) (by omega)).trans (ten_pow_le_of_log2 nonzero)
  · calc n
      _ < 2 ^ (n.log2 + 1) := Nat.lt_log2_self
      _ ≤ 10 ^ (n.log2 + 1) := Nat.pow_le_pow_left (by decide) _
      _ ≤ 10 ^ (max 1 (n.log2 * 643 / 2136) + (n.log2 + 1)) :=
        Nat.pow_le_pow_right (by decide) (Nat.le_add_left _ _)

theorem lt_ten_pow_digitCount (n : Nat) : n < 10 ^ digitCount n := by
  rw [digitCount_eq]
  exact Nat.lt_pow_succ_log_self (by decide) n

theorem ten_pow_le_of_digitCount {n : Nat} (nonzero : n ≠ 0) : 10 ^ (digitCount n - 1) ≤ n := by
  rw [digitCount_eq]
  exact Nat.pow_log_le_self 10 nonzero

/-! ## Which number digits denote -/

theorem ofDigits_eq_foldl (digits : List Nat) :
    ofDigits digits = digits.foldl (fun n d => 10 * n + d) 0 := by
  have shifted (front back : List Nat) :
      (front ++ back).foldl (fun n d => 10 * n + d) 0 =
        front.foldl (fun n d => 10 * n + d) 0 * 10 ^ back.length +
          back.foldl (fun n d => 10 * n + d) 0 := by
    induction back using List.reverseRecOn with
    | nil => simp
    | append_singleton back d ih =>
        rw [← List.append_assoc, List.foldl_append, ih, List.foldl_append, List.length_append]
        simp only [List.foldl_cons, List.foldl_nil, List.length_cons, List.length_nil, pow_succ]
        ring
  fun_induction ofDigits digits with
  | case1 digits short => rfl
  | case2 digits long half ihFront ihBack =>
      rw [ihFront, ihBack, pow10_eq, ← List.length_drop, ← shifted, List.take_append_drop]

end LineScript.Number
