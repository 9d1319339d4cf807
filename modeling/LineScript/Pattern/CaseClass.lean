import LineScript.Text.Lower
import LineScript.Text.Upper

/-!
Letters that count as equal when case is ignored. Two letters are equal if they have the same lower
case; beyond that, lower-case letters with the same upper case form the classes listed here. Code
points are compared as numbers, so that those which no character has can be asked about too.
-/

namespace LineScript.Pattern

def lowerClasses : Array (List Nat) := #[
  [105, 305], [115, 383], [181, 956], [837, 953, 8126], [912, 8147], [944, 8163], [946, 976],
  [949, 1013], [952, 977], [954, 1008], [960, 982], [961, 1009], [962, 963], [966, 981],
  [1074, 7296], [1076, 7297], [1086, 7298], [1089, 7299], [1090, 7300, 7301], [1098, 7302],
  [1123, 7303], [7304, 42571], [7777, 7835], [64261, 64262]]

def isAsciiCapital (code : Nat) : Bool := 65 ≤ code && code ≤ 90

def isAsciiSmall (code : Nat) : Bool := 97 ≤ code && code ≤ 122

/-- The lower case of an ASCII letter, and any other code point as it is. -/
def asciiLower (code : Nat) : Nat :=
  if isAsciiCapital code then code + 32 else code

def simpleLower (code : Nat) : Nat :=
  if code < 128 then asciiLower code
  else if code == 304 then 105
  else
    match Text.lowerRuns.find? fun run => run.contains code with
    | some run => run.partner code
    | none => code

def simpleUpper (code : Nat) : Nat :=
  if code < 128 then if isAsciiSmall code then code - 32 else code
  else
    match Text.upperExpansions.find? fun entry => entry.1 == code with
    | some entry => entry.2.headD code
    | none =>
        match Text.upperRuns.find? fun run => run.contains code with
        | some run => run.partner code
        | none => code

def runMeets (low high : Nat) (run : Text.CaseRun) : Bool :=
  let first :=
    if low ≤ run.first then run.first
    else run.first + (low - run.first + run.step - 1) / run.step * run.step
  first ≤ high && first ≤ run.last

/-- Which letters have a case that can be ignored: those of the ASCII range or those of all
scripts. -/
inductive Fold where
  | ascii
  | unicode
deriving DecidableEq, Repr

namespace Fold

def lower : Fold → Nat → Nat
  | ascii, code => asciiLower code
  | unicode, code => simpleLower code

def isCased : Fold → Nat → Bool
  | ascii, code => isAsciiCapital code || isAsciiSmall code
  | unicode, code => simpleLower code != code || simpleUpper code != code

def meetsCased (fold : Fold) (low high : Nat) : Bool :=
  let overlaps (a b : Nat) : Bool := low ≤ b && a ≤ high
  overlaps 65 90 || overlaps 97 122 ||
    match fold with
    | ascii => false
    | unicode =>
        overlaps 304 304 || Text.lowerRuns.any (runMeets low high) ||
          Text.upperRuns.any (runMeets low high) ||
          Text.upperExpansions.any fun entry => low ≤ entry.1 && entry.1 ≤ high

def partners : Fold → Nat → List Nat
  | ascii, _ => []
  | unicode, code =>
      match lowerClasses.find? fun letters => letters.contains code with
      | some letters => letters.filter (· != code)
      | none => []

def sources : Fold → Nat → List Nat
  | ascii, code =>
      if isAsciiSmall code then [code, code - 32]
      else if isAsciiCapital code then [] else [code]
  | unicode, code =>
      let itself := if simpleLower code == code then [code] else []
      let fromAscii := if isAsciiSmall code then [code - 32] else []
      let fromDotted := if code == 105 then [304] else []
      let fromRuns := Text.lowerRuns.toList.filterMap fun run => run.source? code
      itself ++ fromAscii ++ fromDotted ++ fromRuns

end Fold

end LineScript.Pattern
