/-!
Powers of the two bases in which numbers are written.
-/

namespace LineScript.Number

def pow2 (exponent : Nat) : Nat :=
  Nat.pow 2 exponent

def pow10 (exponent : Nat) : Nat :=
  Nat.pow 10 exponent

end LineScript.Number
