import LineScript.Number.Binary64

/-!
The text of a double with the fewest digits that read back as the same double; of several such
texts the nearest to the number.
-/

namespace LineScript.Number.Binary64

def readsBack (x : Binary64) (digits : Nat) (scale : Int) : Bool :=
  match x with
  | finite negative _ _ => ofDecimal negative digits scale == x
  | _ => false

/-- The two neighbours of `num / den` on the grid of multiples of `10 ^ scale`, those that read
back only, the nearer one first. -/
def gridNeighbours (x : Binary64) (num den : Nat) (scale : Int) : List Nat :=
  let num := num * pow10 (-scale).toNat
  let den := den * pow10 scale.toNat
  let below := num / den
  let ordered :=
    if 2 * (num % den) ≤ den then [below, below + 1] else [below + 1, below]
  ordered.filter fun digits => readsBack x digits scale

/-- The first grid, from the given number of digits on, with a neighbour that reads back: the
digits and the power of ten of the last one. -/
def shortestFrom (x : Binary64) (num den : Nat) (top : Int) :
    (fuel : Nat) → (count : Nat) → Nat × Int
  | 0, _ => (0, 0)
  | fuel + 1, count =>
      let scale := top - count + 1
      match gridNeighbours x num den scale with
      | digits :: _ => (digits, scale)
      | [] => shortestFrom x num den top fuel (count + 1)

/-- The text of a row of digits: positional from `1e-4` up to sixteen places before the point,
scientific otherwise. -/
def shortestText (digits : List Char) (scale : Int) : List Char :=
  let significant := dropTrailingZeros digits
  let top : Int := scale + digits.length - 1
  if -4 ≤ top && top < 16 then
    if top < 0 then '0' :: '.' :: List.replicate (-top - 1).toNat '0' ++ significant
    else
      let whole := significant.take (top.toNat + 1)
      let fraction := significant.drop (top.toNat + 1)
      whole ++ List.replicate (top.toNat + 1 - whole.length) '0' ++
        '.' :: (if fraction.isEmpty then ['0'] else fraction)
  else
    let mantissa :=
      match significant with
      | first :: rest => if rest.isEmpty then [first] else first :: '.' :: rest
      | [] => []
    let exponent := Nat.toDigits 10 top.natAbs
    let exponent := if exponent.length < 2 then '0' :: exponent else exponent
    mantissa ++ 'e' :: (if top < 0 then '-' else '+') :: exponent

def shortest : Binary64 → String
  | nan => "nan"
  | infinite negative => if negative then "-inf" else "inf"
  | finite negative mantissa exponent =>
      let sign := if negative then ['-'] else []
      if mantissa == 0 then String.ofList (sign ++ "0.0".toList)
      else
        let num := mantissa * pow2 exponent.toNat
        let den := pow2 (-exponent).toNat
        let (_, top) := nearestDecimal num den
        let (digits, scale) := shortestFrom (finite negative mantissa exponent) num den top 20 1
        String.ofList (sign ++ shortestText (Nat.toDigits 10 digits) scale)

end LineScript.Number.Binary64
