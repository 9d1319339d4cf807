/-!
Sets of characters given by stretches of code points, and stretches of code points whose case
partners all lie the same distance away. The tables of the neighbouring modules are values of
these two kinds.
-/

namespace LineScript.Text

/-- Whether a code point lies in one of the stretches `(first, last)`, both ends included. -/
def inSpans (spans : Array (Nat × Nat)) (code : Nat) : Bool :=
  spans.any fun span => span.1 ≤ code && code ≤ span.2

/-- The code points `first, first + step, …, last`, each of which has its partner `shift` away. -/
structure CaseRun where
  first : Nat
  last : Nat
  step : Nat
  shift : Int

namespace CaseRun

def contains (run : CaseRun) (code : Nat) : Bool :=
  run.first ≤ code && code ≤ run.last && (code - run.first) % run.step == 0

def partner (run : CaseRun) (code : Nat) : Nat :=
  (code + run.shift).toNat

def source? (run : CaseRun) (code : Nat) : Option Nat :=
  let candidate := (code - run.shift).toNat
  if run.contains candidate && run.partner candidate == code then some candidate else none

end CaseRun

end LineScript.Text
