import LineScript.Number.Rounding
import LineScript.Text.Blank
import LineScript.Text.Digit

/-!
The written forms of numbers: a sign, decimal digits of any script, and for numbers that are not
integers a point and an exponent. Blanks around a number do not count and an underscore is never
part of one.
-/

namespace LineScript.Number

/-- The characters of a number text without the blanks around it; `none` when nothing is left or
an underscore is. -/
def clean? (text : String) : Option (List Char) :=
  let chars := Text.stripChars text.toList
  if chars.isEmpty || chars.contains '_' then none else some chars

def readSign : List Char → Bool × List Char
  | '-' :: rest => (true, rest)
  | '+' :: rest => (false, rest)
  | rest => (false, rest)

/-- The values of the leading digits, and the characters after them. -/
def readDigits : List Char → List Nat × List Char
  | [] => ([], [])
  | c :: rest =>
      match Text.digitValue? c with
      | some d =>
          let (digits, after) := readDigits rest
          (d :: digits, after)
      | none => ([], c :: rest)

/-- A number in positional notation with an optional power of ten. -/
structure Literal where
  negative : Bool
  whole : List Nat
  fraction : List Nat
  exponent : Int

namespace Literal

/-- The exponent part of a number text: nothing, or `e` with a signed row of digits. -/
def readExponent? : List Char → Option Int
  | [] => some 0
  | c :: rest =>
      if c == 'e' || c == 'E' then
        let (negative, rest) := readSign rest
        match readDigits rest with
        | ([], _) => none
        | (digits, []) =>
            let size : Int := ofDigits digits
            some (if negative then -size else size)
        | (_, _ :: _) => none
      else none

/-- The digits after the point, if there is a point, and the characters after them. -/
def readFraction : List Char → List Nat × List Char
  | '.' :: rest => readDigits rest
  | rest => ([], rest)

def parse? (chars : List Char) : Option Literal :=
  let (negative, rest) := readSign chars
  let (whole, rest) := readDigits rest
  let (fraction, rest) := readFraction rest
  if whole.isEmpty && fraction.isEmpty then none
  else (readExponent? rest).map fun exponent => ⟨negative, whole, fraction, exponent⟩

def coefficient (literal : Literal) : Nat :=
  ofDigits (literal.whole ++ literal.fraction)

def scale (literal : Literal) : Int :=
  literal.exponent - literal.fraction.length

end Literal

end LineScript.Number
