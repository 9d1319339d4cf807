import LineScript.Number.Power
import LineScript.Text.Blank

/-!
Binary numerals of 32-bit words. A negative number is written in two's complement, and a numeral
of 32 digits that starts with a one is read as negative.
-/

namespace LineScript.Number

def binaryDigits (n : Nat) : List Char :=
  if n < 2 then [if n == 1 then '1' else '0']
  else binaryDigits (n / 2) ++ [if n % 2 == 1 then '1' else '0']

/-- The binary numeral of a number; a negative one is reduced modulo `2 ^ 32` first. -/
def toBinary (value : Int) : String :=
  String.ofList (binaryDigits (if value < 0 then value % pow2 32 else value).toNat)

def ofBinaryDigits (digits : List Char) : Nat :=
  digits.foldl (fun n c => 2 * n + if c == '1' then 1 else 0) 0

def ofBinary? (text : String) : Option Int :=
  let digits := Text.stripChars text.toList
  if digits.isEmpty || digits.length > 32 || !digits.all (fun c => c == '0' || c == '1') then none
  else
    let value : Int := ofBinaryDigits digits
    some (if digits.length == 32 && value ≥ pow2 31 then value - pow2 32 else value)

end LineScript.Number
