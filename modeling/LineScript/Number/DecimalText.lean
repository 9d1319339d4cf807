import LineScript.Number.Decimal

/-!
The texts of decimals: in positional notation without superfluous zeros, which is how a script
stores them, and in the notation that keeps coefficient and exponent.
-/

namespace LineScript.Number.Decimal

def digits (n : Nat) : List Char :=
  Nat.toDigits 10 n

def signChars (negative : Bool) : List Char :=
  if negative then ['-'] else []

def zeros (n : Nat) : List Char :=
  List.replicate n '0'

/-- The digits with a point before the last `places` of them, and at least one digit before the
point. -/
def withPoint (digits : List Char) (places : Nat) : List Char :=
  let digits := zeros (places + 1 - digits.length) ++ digits
  let whole := digits.length - places
  digits.take whole ++ '.' :: digits.drop whole

def fixed (d : Decimal) : String :=
  let magnitude :=
    if d.exponent ≥ 0 then digits d.coefficient ++ zeros d.exponent.toNat
    else withPoint (digits d.coefficient) (-d.exponent).toNat
  String.ofList (signChars d.negative ++ magnitude)

/-- The text that a script stores for a number: positional notation, rounded, without trailing
zeros. -/
def format (d : Decimal) : Except DecimalFault String :=
  if d.isZero then .ok "0" else d.normalize.map fixed

/-- The text that keeps coefficient and exponent: positional when the exponent is not positive and
at most six places follow the point before the first digit, scientific otherwise. -/
def scientific (d : Decimal) : String :=
  let shown := digits d.coefficient
  let top : Int := d.exponent + shown.length - 1
  let magnitude :=
    if d.exponent ≤ 0 && top ≥ -6 then
      if d.exponent == 0 then shown else withPoint shown (-d.exponent).toNat
    else
      let mantissa :=
        match shown with
        | first :: rest => if rest.isEmpty then [first] else first :: '.' :: rest
        | [] => []
      mantissa ++ 'E' :: (if top < 0 then '-' else '+') :: digits top.natAbs
  String.ofList (signChars d.negative ++ magnitude)

end LineScript.Number.Decimal
