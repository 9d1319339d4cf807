import LineScript.Number.Literal

/-!
Decimal numbers and their arithmetic. Numbers are read exactly; every operation gives the exact
result rounded once to 28 significant digits, ties to even, with exponents between -999999 and
999999. A result above the range is an error; one below it is rounded to the nearest multiple of
the smallest representable number.
-/

namespace LineScript.Number

/-- The number `± coefficient · 10 ^ exponent`. Trailing zeros of the coefficient are kept. -/
structure Decimal where
  negative : Bool
  coefficient : Nat
  exponent : Int
deriving DecidableEq, Repr

inductive DecimalFault where
  | overflow
  | invalidOperation
deriving DecidableEq, Repr

namespace DecimalFault

def name : DecimalFault → String
  | overflow => "Overflow"
  | invalidOperation => "InvalidOperation"

end DecimalFault

namespace Decimal

def precision : Nat := 28

def maxExponent : Int := 999999

def tiny : Int := -1000026

def readLimit : Int := 999999999999999999

def readTiny : Int := -1999999999999999997

def zero : Decimal := ⟨false, 0, 0⟩

def isZero (d : Decimal) : Bool :=
  d.coefficient == 0

def adjusted (d : Decimal) : Int :=
  d.exponent + digitCount d.coefficient - 1

def parse? (text : String) : Option Decimal :=
  (clean? text).bind fun chars =>
    (Literal.parse? chars).bind fun literal =>
      let d : Decimal := ⟨literal.negative, literal.coefficient, literal.scale⟩
      let top := if d.isZero then d.exponent else d.adjusted
      if readTiny ≤ d.exponent && top ≤ readLimit then some d else none

def finish (d : Decimal) : Except DecimalFault Decimal :=
  if d.isZero then .ok { d with exponent := min maxExponent (max tiny d.exponent) }
  else if d.adjusted > maxExponent then .error .overflow
  else
    let exponent := max d.exponent (max (d.adjusted - (precision - 1)) tiny)
    let shift := (exponent - d.exponent).toNat
    let coefficient :=
      if shift > digitCount d.coefficient then 0 else halfEven d.coefficient (pow10 shift)
    let rounded : Decimal :=
      if coefficient == pow10 precision then ⟨d.negative, pow10 (precision - 1), exponent + 1⟩
      else ⟨d.negative, coefficient, exponent⟩
    if rounded.coefficient != 0 && rounded.adjusted > maxExponent then .error .overflow
    else .ok rounded

def neg (d : Decimal) : Decimal :=
  { d with negative := !d.negative }

def signed (d : Decimal) : Int :=
  if d.negative then -(d.coefficient : Int) else d.coefficient

def ofSigned (value exponent : Int) : Decimal :=
  ⟨value < 0, value.natAbs, exponent⟩

/-- The second summand as far as it matters for a rounded sum: a number that lies below every
digit the sum can keep is replaced by one unit at a place below those digits. -/
def relevant (large small : Decimal) : Decimal :=
  let place := large.exponent + min (-1) ((digitCount large.coefficient : Int) - precision - 2)
  if small.isZero || large.isZero then small
  else if small.adjusted < place then ⟨small.negative, 1, place⟩ else small

/-- The sum of two numbers of which the first has the greater exponent, without rounding. -/
def sumOrdered (large small : Decimal) : Decimal :=
  if large.isZero then small
  else if small.isZero then large
  else
    let small := relevant large small
    let shift := (large.exponent - small.exponent).toNat
    ofSigned (large.signed * pow10 shift + small.signed) small.exponent

def add (a b : Decimal) : Except DecimalFault Decimal :=
  finish (if b.exponent ≤ a.exponent then sumOrdered a b else sumOrdered b a)

def sub (a b : Decimal) : Except DecimalFault Decimal :=
  add a b.neg

def mul (a b : Decimal) : Except DecimalFault Decimal :=
  finish ⟨a.negative != b.negative, a.coefficient * b.coefficient, a.exponent + b.exponent⟩

/-- The rounded quotient by a number other than zero. The quotient is computed to more digits than
are kept, and a remainder that is left shows in one further digit. -/
def div (a b : Decimal) : Except DecimalFault Decimal :=
  let negative := a.negative != b.negative
  if a.isZero then finish ⟨negative, 0, a.exponent - b.exponent⟩
  else
    let shift : Int :=
      (digitCount b.coefficient : Int) - (digitCount a.coefficient : Int) + precision + 1
    let num := a.coefficient * pow10 shift.toNat
    let den := b.coefficient * pow10 (-shift).toNat
    let rest := if num % den == 0 then 0 else 1
    finish ⟨negative, 10 * (num / den) + rest, a.exponent - b.exponent - shift - 1⟩

def abs (d : Decimal) : Except DecimalFault Decimal :=
  finish { d with negative := false }

def compareMagnitude (a b : Decimal) : Ordering :=
  if a.isZero || b.isZero then compare a.coefficient b.coefficient
  else if a.adjusted != b.adjusted then compare a.adjusted b.adjusted
  else
    let low := min a.exponent b.exponent
    compare (a.coefficient * pow10 (a.exponent - low).toNat)
      (b.coefficient * pow10 (b.exponent - low).toNat)

def lt (a b : Decimal) : Bool :=
  match a.negative && !a.isZero, b.negative && !b.isZero with
  | true, true => compareMagnitude a b == .gt
  | true, false => true
  | false, true => false
  | false, false => compareMagnitude a b == .lt

def min (a b : Decimal) : Decimal :=
  if b.lt a then b else a

def max (a b : Decimal) : Decimal :=
  if a.lt b then b else a

/-- The exponent of the last digit kept when rounding to so many places: beyond the smallest
representable number there are no places, and far beyond it the request is refused. -/
def placesExponent? (places : Nat) : Option Int :=
  if (places : Int) ≤ -tiny then some (-places)
  else if places ≤ 2 * (maxExponent.toNat + precision) then some tiny
  else none

/-- The number rounded to a multiple of `10 ^ -places`, ties to even, if that multiple has at most
`precision` digits. -/
def roundTo (d : Decimal) (places : Nat) : Except DecimalFault Decimal :=
  match placesExponent? places with
  | none => .error .invalidOperation
  | some exponent =>
      if d.isZero then .ok { d with exponent := exponent }
      else if d.adjusted ≥ exponent + precision then .error .invalidOperation
      else
        let coefficient :=
          if exponent ≤ d.exponent then d.coefficient * pow10 (d.exponent - exponent).toNat
          else
            let shift := (exponent - d.exponent).toNat
            if shift > digitCount d.coefficient then 0
            else halfEven d.coefficient (pow10 shift)
        if coefficient ≥ pow10 precision then .error .invalidOperation
        else .ok ⟨d.negative, coefficient, exponent⟩

/-- Divides trailing zeros out of a coefficient, raising the exponent at most to `limit`. -/
def stripZeros (limit : Int) : (fuel : Nat) → Nat → Int → Nat × Int
  | 0, coefficient, exponent => (coefficient, exponent)
  | fuel + 1, coefficient, exponent =>
      if coefficient % 10 == 0 && exponent < limit then
        stripZeros limit fuel (coefficient / 10) (exponent + 1)
      else (coefficient, exponent)

def normalize (d : Decimal) : Except DecimalFault Decimal :=
  (finish d).map fun r =>
    if r.isZero then { r with exponent := 0 }
    else
      let (coefficient, exponent) := stripZeros maxExponent precision r.coefficient r.exponent
      ⟨r.negative, coefficient, exponent⟩

end Decimal

end LineScript.Number
