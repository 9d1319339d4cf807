import LineScript.Number.Power

/-!
The integers that fit into a machine word of 64 bits.
-/

namespace LineScript.Number

def isWord (n : Int) : Bool :=
  -(pow2 63 : Int) ≤ n && n < pow2 63

def isAnyWord (n : Int) : Bool :=
  -(pow2 63 : Int) ≤ n && n < pow2 64

end LineScript.Number
