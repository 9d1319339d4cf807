import LineScript.Number.Power

/-!
Rounding of quotients to the nearest integer with ties to the even one, rounding to a number of
significant bits, and the number of decimal digits of a natural number.
-/

namespace LineScript.Number

/-- The integer nearest to `num / den`; a tie goes to the even neighbour. -/
def halfEven (num den : Nat) : Nat :=
  let quotient := num / den
  let rest := num % den
  if 2 * rest < den then quotient
  else if den < 2 * rest then quotient + 1
  else quotient + quotient % 2

/-- The number nearest to `n` with at most so many significant bits; a tie goes to the even one. -/
def toPrecision (bits n : Nat) : Nat :=
  let shift := n.log2 + 1 - bits
  halfEven n (pow2 shift) * pow2 shift

def digitCountFrom (n : Nat) : (fuel : Nat) → (k : Nat) → Nat
  | 0, k => k
  | fuel + 1, k => if n < pow10 k then k else digitCountFrom n fuel (k + 1)

/-- The number of decimal digits of `n`; zero has one. The count starts from a lower bound that
follows from `10 ^ 643 ≤ 2 ^ 2136`. -/
def digitCount (n : Nat) : Nat :=
  digitCountFrom n (n.log2 + 1) (max 1 (n.log2 * 643 / 2136))

/-- The number that a list of decimal digits denotes, most significant digit first. Long lists
are halved, which keeps the products balanced. -/
def ofDigits (digits : List Nat) : Nat :=
  if digits.length ≤ 64 then digits.foldl (fun n d => 10 * n + d) 0
  else
    let half := digits.length / 2
    ofDigits (digits.take half) * pow10 (digits.length - half) + ofDigits (digits.drop half)
termination_by digits.length
decreasing_by all_goals simp; omega

end LineScript.Number
