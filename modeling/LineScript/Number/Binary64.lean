import LineScript.Number.Literal

/-!
Binary floating-point numbers of double precision, as exact values. Reading rounds to nearest with
ties to even; the text of a number has at most fifteen significant digits.
-/

namespace LineScript.Number

/-- A double: a finite one is `± mantissa · 2 ^ exponent`. -/
inductive Binary64 where
  | nan
  | infinite (negative : Bool)
  | finite (negative : Bool) (mantissa : Nat) (exponent : Int)
deriving DecidableEq, Repr

namespace Binary64

def zero : Binary64 := finite false 0 0

def minExponent : Int := -1074

def maxExponent : Int := 971

def ofRatio (negative : Bool) (num den : Nat) : Binary64 :=
  if num == 0 then finite negative 0 0
  else
    let guess : Int := (num.log2 : Int) - den.log2 - 52
    let least (e : Int) : Bool := den * pow2 (52 + e).toNat ≤ num * pow2 (-(52 + e)).toNat
    let exponent := max minExponent (if least guess then guess else guess - 1)
    let mantissa := halfEven (num * pow2 (-exponent).toNat) (den * pow2 exponent.toNat)
    let (mantissa, exponent) :=
      if mantissa == pow2 53 then (pow2 52, exponent + 1) else (mantissa, exponent)
    if exponent > maxExponent then infinite negative else finite negative mantissa exponent

/-- The double nearest to `coefficient · 10 ^ scale`. Powers far outside the range of doubles are
decided without being computed. -/
def ofDecimal (negative : Bool) (coefficient : Nat) (scale : Int) : Binary64 :=
  if coefficient == 0 then finite negative 0 0
  else
    let top : Int := scale + digitCount coefficient
    if top > 400 then infinite negative
    else if top < -400 then finite negative 0 0
    else ofRatio negative (coefficient * pow10 scale.toNat) (pow10 (-scale).toNat)

def lowerAscii (c : Char) : Char :=
  if 'A' ≤ c && c ≤ 'Z' then Char.ofNat (c.toNat + 32) else c

def special? (chars : List Char) : Option Binary64 :=
  let (negative, rest) := readSign chars
  let word := String.ofList (rest.map lowerAscii)
  if word == "inf" || word == "infinity" then some (infinite negative)
  else if word == "nan" then some nan
  else none

def parse? (text : String) : Option Binary64 :=
  (clean? text).bind fun chars =>
    match Literal.parse? chars with
    | some literal => some (ofDecimal literal.negative literal.coefficient literal.scale)
    | none => special? chars

def ofBits (bits : UInt64) : Binary64 :=
  let bits := bits.toNat
  let negative := bits / pow2 63 == 1
  let biased : Nat := bits / pow2 52 % pow2 11
  let fraction := bits % pow2 52
  if biased == 2047 then if fraction == 0 then infinite negative else nan
  else if biased == 0 then finite negative fraction minExponent
  else finite negative (pow2 52 + fraction) ((biased : Int) - 1075)

def toBits : Binary64 → UInt64
  | nan => 0x7FF8000000000000
  | infinite negative => if negative then 0xFFF0000000000000 else 0x7FF0000000000000
  | finite negative mantissa exponent =>
      let sign : Nat := if negative then pow2 63 else 0
      let magnitude : Nat :=
        if mantissa < pow2 52 then mantissa
        else (exponent + 1075).toNat * pow2 52 + (mantissa - pow2 52)
      (sign + magnitude).toUInt64

def toFloat (x : Binary64) : Float :=
  Float.ofBits x.toBits

def ofFloat (x : Float) : Binary64 :=
  ofBits x.toBits

def scaled : Binary64 → Int
  | finite negative mantissa exponent =>
      let size : Int := mantissa * pow2 (exponent - minExponent).toNat
      if negative then -size else size
  | _ => 0

/-- Whether the first number is below the second; never so with a number that is not one. -/
def lt : Binary64 → Binary64 → Bool
  | nan, _ => false
  | _, nan => false
  | infinite a, infinite b => a && !b
  | infinite a, finite .. => a
  | finite .., infinite b => !b
  | a, b => a.scaled < b.scaled

/-- Whether the first number is at most the second; never so with a number that is not one. -/
def le : Binary64 → Binary64 → Bool
  | nan, _ => false
  | _, nan => false
  | a, b => !b.lt a

def textDigits : Nat := 15

def dropTrailingZeros (digits : List Char) : List Char :=
  (digits.reverse.dropWhile (· == '0')).reverse

/-- The decimal of `textDigits` digits nearest to `num / den`, a positive number: its digits as an
integer and the exponent of the first of them. -/
def nearestDecimal (num den : Nat) : Nat × Int :=
  let guess : Int := (digitCount num : Int) - digitCount den
  let least (e : Int) : Bool := den * pow10 e.toNat ≤ num * pow10 (-e).toNat
  let top := if least guess then guess else guess - 1
  let shift : Int := textDigits - 1 - top
  let digits := halfEven (num * pow10 shift.toNat) (den * pow10 (-shift).toNat)
  if digits == pow10 textDigits then (pow10 (textDigits - 1), top + 1) else (digits, top)

/-- The text of a row of digits whose first has the given exponent: positional from `1e-4` up to
the number of digits, scientific with at least two exponent digits otherwise. -/
def digitsText (digits : List Char) (top : Int) : List Char :=
  if -4 ≤ top && top < textDigits then
    if top < 0 then
      '0' :: '.' :: List.replicate (-top - 1).toNat '0' ++ dropTrailingZeros digits
    else
      let whole := digits.take (top.toNat + 1)
      let fraction := dropTrailingZeros (digits.drop (top.toNat + 1))
      if fraction.isEmpty then whole else whole ++ '.' :: fraction
  else
    let mantissa :=
      match dropTrailingZeros digits with
      | first :: rest => if rest.isEmpty then [first] else first :: '.' :: rest
      | [] => []
    let exponent := Nat.toDigits 10 top.natAbs
    let exponent := if exponent.length < 2 then '0' :: exponent else exponent
    mantissa ++ 'E' :: (if top < 0 then '-' else '+') :: exponent

def format : Binary64 → String
  | nan => "NaN"
  | infinite negative => if negative then "-Infinity" else "Infinity"
  | finite negative mantissa exponent =>
      if mantissa == 0 then "0"
      else
        let (digits, top) :=
          nearestDecimal (mantissa * pow2 exponent.toNat) (pow2 (-exponent).toNat)
        let text := digitsText (Nat.toDigits 10 digits) top
        String.ofList (if negative then '-' :: text else text)

end Binary64

end LineScript.Number
