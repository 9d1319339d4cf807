import LineScript.Text.Blank
import LineScript.Text.Quote

/-!
Colours of three components, and their hexadecimal texts.
-/

namespace LineScript

structure Color where
  red : UInt8
  green : UInt8
  blue : UInt8
deriving DecidableEq, Repr, Inhabited

namespace Color

def black : Color := ⟨0, 0, 0⟩

def white : Color := ⟨255, 255, 255⟩

def upperHexDigit (n : Nat) : Char :=
  if n < 10 then Char.ofNat (48 + n) else Char.ofNat (55 + n)

def hexNumeral (n : Nat) : List Char :=
  if n < 16 then [upperHexDigit n] else hexNumeral (n / 16) ++ [upperHexDigit (n % 16)]

/-- A number to base sixteen with a sign and padded with zeros to at least two characters. -/
def hexComponent (value : Int) : List Char :=
  let sign := if value < 0 then ['-'] else []
  let digits := hexNumeral value.natAbs
  sign ++ List.replicate (2 - sign.length - digits.length) '0' ++ digits

def hexText (red green blue : Int) : String :=
  String.ofList (hexComponent red ++ hexComponent green ++ hexComponent blue)

def toHex (color : Color) : String :=
  hexText color.red.toNat color.green.toNat color.blue.toNat

def hexValue? (c : Char) : Option Nat :=
  if '0' ≤ c && c ≤ '9' then some (c.toNat - 48)
  else if 'a' ≤ c && c ≤ 'f' then some (c.toNat - 87)
  else if 'A' ≤ c && c ≤ 'F' then some (c.toNat - 55)
  else none

def dropHexMark : List Char → List Char
  | '0' :: 'x' :: rest => rest
  | '0' :: 'X' :: rest => rest
  | rest => rest

def dropColorMark : List Char → List Char
  | '#' :: rest => rest
  | rest => rest

def ofHexDigits? : List Char → Option Color
  | [a, b, c, d, e, f] => do
      let a ← hexValue? a
      let b ← hexValue? b
      let c ← hexValue? c
      let d ← hexValue? d
      let e ← hexValue? e
      let f ← hexValue? f
      return ⟨(16 * a + b).toUInt8, (16 * c + d).toUInt8, (16 * e + f).toUInt8⟩
  | _ => none

/-- Reads a colour of six hexadecimal digits, or of three that stand for two each, after the
optional marks `0x` and `#`. -/
def ofHex? (text : String) : Option Color :=
  match dropColorMark (dropHexMark (Text.stripChars text.toList)) with
  | [r, g, b] => ofHexDigits? [r, r, g, g, b, b]
  | digits => ofHexDigits? digits

end Color

end LineScript
