import LineScript.Number.Binary64
import LineScript.Text.Lower
import LineScript.Text.Upper

/-!
Comparisons of values: as texts, as numbers and as truth values.
-/

namespace LineScript

def isTruthy (text : String) : Bool :=
  let word := Text.lower (Text.strip text)
  word == "true" || word == "1" || word == "1.0"

def boolText (value : Bool) : String :=
  if value then "true" else "false"

inductive Comparison where
  | equal
  | notEqual
  | greater
  | notGreater
  | greaterOrEqual
  | notGreaterOrEqual
  | less
  | notLess
  | lessOrEqual
  | notLessOrEqual
  | or
  | and
  | xor
  | xnor
  | nor
  | nand
deriving DecidableEq, Repr

namespace Comparison

def named : List (String × Comparison) :=
  [("EQL", equal), ("E", equal), ("NEQL", notEqual), ("NE", notEqual), ("G", greater),
    ("NG", notGreater), ("GE", greaterOrEqual), ("NGE", notGreaterOrEqual), ("L", less),
    ("NL", notLess), ("LE", lessOrEqual), ("NLE", notLessOrEqual), ("OR", or), ("AND", and),
    ("XOR", xor), ("XNOR", xnor), ("NOR", nor), ("NAND", nand)]

def ofName? (name : String) : Option Comparison :=
  named.lookup (Text.upper name)

/-- The number that a value denotes; a value that denotes none counts as zero. -/
def number (text : String) : Number.Binary64 :=
  (Number.Binary64.parse? text).getD Number.Binary64.zero

def eval (comparison : Comparison) (left right : String) : Bool :=
  match comparison with
  | equal => left == right
  | notEqual => left != right
  | greater => (number right).lt (number left)
  | notGreater => !(number right).lt (number left)
  | greaterOrEqual => (number right).le (number left)
  | notGreaterOrEqual => !(number right).le (number left)
  | less => (number left).lt (number right)
  | notLess => !(number left).lt (number right)
  | lessOrEqual => (number left).le (number right)
  | notLessOrEqual => !(number left).le (number right)
  | or => isTruthy left || isTruthy right
  | and => isTruthy left && isTruthy right
  | xor => isTruthy left != isTruthy right
  | xnor => isTruthy left == isTruthy right
  | nor => !(isTruthy left || isTruthy right)
  | nand => !(isTruthy left && isTruthy right)

end Comparison

/-- Compares two values by a named comparison; `none` if there is no such comparison. -/
def compareValues (name left right : String) : Option Bool :=
  (Comparison.ofName? name).map fun comparison => comparison.eval left right

end LineScript
