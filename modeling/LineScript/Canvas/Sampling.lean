import LineScript.Number.Rounding

/-!
Evenly spaced points between two integers, computed in floating point with 53 significant bits and
then rounded to integers. On a constant stretch and on one that moves by one unit per point the
points are exact; on others each of the three operations rounds.
-/

namespace LineScript.Sampling

structure Dyadic where
  value : Int
  exponent : Int
deriving DecidableEq, Repr

def precision : Nat := 53

/-- The quotient `num / den` rounded to the precision, ties to even; `den` is positive. -/
def quotient (num : Int) (den : Nat) : Dyadic :=
  if num == 0 then ⟨0, 0⟩
  else
    let size := num.natAbs
    let guess : Int := (size.log2 : Int) - den.log2 - (precision - 1)
    let top := guess + (precision - 1)
    let least := den * Number.pow2 top.toNat ≤ size * Number.pow2 (-top).toNat
    let exponent := if least then guess else guess - 1
    let mantissa : Int :=
      Number.halfEven (size * Number.pow2 (-exponent).toNat) (den * Number.pow2 exponent.toNat)
    ⟨if num < 0 then -mantissa else mantissa, exponent⟩

def Dyadic.round (x : Dyadic) : Dyadic :=
  let size := x.value.natAbs
  if size < Number.pow2 precision then x
  else
    let shift := size.log2 + 1 - precision
    let mantissa : Int := Number.halfEven size (Number.pow2 shift)
    ⟨if x.value < 0 then -mantissa else mantissa, x.exponent + shift⟩

def Dyadic.times (x : Dyadic) (n : Int) : Dyadic :=
  Dyadic.round ⟨x.value * n, x.exponent⟩

def Dyadic.plus (x : Dyadic) (n : Int) : Dyadic :=
  if x.exponent ≤ 0 then Dyadic.round ⟨x.value + n * Number.pow2 (-x.exponent).toNat, x.exponent⟩
  else Dyadic.round ⟨x.value * Number.pow2 x.exponent.toNat + n, 0⟩

def Dyadic.nearest (x : Dyadic) : Int :=
  let size :=
    Number.halfEven (x.value.natAbs * Number.pow2 x.exponent.toNat)
      (Number.pow2 (-x.exponent).toNat)
  if x.value < 0 then -size else size

/-- Evenly spaced points from `start` to `stop`, both included, with `gaps` gaps between them. -/
structure Stretch where
  start : Int
  stop : Int
  gaps : Nat
  step : Dyadic
deriving DecidableEq, Repr

def Stretch.between (start stop : Int) (gaps : Nat) : Stretch :=
  ⟨start, stop, gaps, quotient (stop - start) gaps⟩

/-- The point with index `i`. A stretch that stands still or moves by one unit per point needs no
rounding, and the last point of any other one is `stop` itself. -/
def Stretch.point (stretch : Stretch) (i : Nat) : Int :=
  if stretch.stop = stretch.start then stretch.start
  else if stretch.stop - stretch.start = stretch.gaps then stretch.start + i
  else if stretch.start - stretch.stop = stretch.gaps then stretch.start - i
  else if i = stretch.gaps then stretch.stop
  else ((stretch.step.times i).plus stretch.start).nearest

end LineScript.Sampling
