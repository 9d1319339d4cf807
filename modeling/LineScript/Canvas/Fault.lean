import LineScript.Number.Rounding

/-!
What a canvas refuses: sizes that no row of pixels can have, lines whose points cannot be laid out,
and components that are none of a colour. The pixels and the points of a line are kept in arrays,
and the wording speaks of those.
-/

namespace LineScript

inductive ArrayItem where
  | component
  | coordinate
deriving DecidableEq, Repr

namespace ArrayItem

def bytes : ArrayItem → Nat
  | component => 1
  | coordinate => 8

def name : ArrayItem → String
  | component => "uint8"
  | coordinate => "float64"

end ArrayItem

/-- The shape of an array: how many items it has in each direction, and what they are. -/
structure ArrayShape where
  lengths : List Nat
  item : ArrayItem
deriving DecidableEq, Repr

namespace ArrayShape

def bytes (shape : ArrayShape) : Nat :=
  shape.lengths.foldl (· * ·) shape.item.bytes

def reserved (shape : ArrayShape) : Nat :=
  (shape.lengths.filter (· != 0)).foldl (· * ·) shape.item.bytes

/-- The lengths between brackets; a single one has a comma after it. -/
def lengthsText (shape : ArrayShape) : String :=
  match shape.lengths with
  | [length] => s!"({length},)"
  | lengths => "(" ++ ", ".intercalate (lengths.map toString) ++ ")"

end ArrayShape

namespace Bytes

def units : List String := ["bytes", "KiB", "MiB", "GiB", "TiB", "PiB", "EiB"]

/-- An amount of memory in the unit with the given index, as a fraction of which the numerator has
at most 53 significant bits. -/
structure Amount where
  numerator : Nat
  unit : Nat
deriving DecidableEq, Repr

namespace Amount

def divisor (amount : Amount) : Nat := Number.pow2 (10 * amount.unit)

/-- The number of units times a factor, to the nearest integer; a tie goes to the even one. -/
def nearest (amount : Amount) (factor : Nat) : Nat :=
  Number.halfEven (amount.numerator * factor) amount.divisor

def ofBytes (bytes : Nat) : Amount :=
  let amount : Amount := ⟨Number.toPrecision 53 bytes, max bytes.log2 1 / 10⟩
  if amount.nearest 1 == 1024 then { amount with unit := amount.unit + 1 } else amount

def pointed (digits value : Nat) : String :=
  let fraction := toString (value % Number.pow10 digits)
  let zeros := String.ofList (List.replicate (digits - fraction.length) '0')
  toString (value / Number.pow10 digits) ++ "." ++ (if digits == 0 then "" else zeros ++ fraction)

/-- The number of units: whole bytes without a point, anything else with three digits at least. -/
def count (amount : Amount) : String :=
  if amount.unit == 0 then toString (amount.nearest 1)
  else if amount.nearest 100 < 1000 then pointed 2 (amount.nearest 100)
  else if amount.nearest 10 < 1000 then pointed 1 (amount.nearest 10)
  else pointed 0 (amount.nearest 1)

end Amount

def text (bytes : Nat) : String :=
  let amount := Amount.ofBytes bytes
  amount.count ++ " " ++ units.getD amount.unit ""

/-- A size of an array that is beyond the memory of a usual host: 64 gigabytes. -/
def limit : Nat := Number.pow2 36

end Bytes

inductive CanvasFault where
  | negativeSize
  | wideSize
  | arrayTooBig
  | outOfMemory (shape : ArrayShape)
  | farStop
  | farStart
  | tooManyPoints
  /-- The number of points of a line is the first that does not fit into a word, so that it counts
  as negative and there is no last point. -/
  | noLastPoint
  | component (value : Int)
  | wideComponent
deriving DecidableEq, Repr

namespace CanvasFault

def message : CanvasFault → String
  | negativeSize => "negative dimensions are not allowed"
  | wideSize => "Maximum allowed dimension exceeded"
  | arrayTooBig =>
      "array is too big; `arr.size * arr.dtype.itemsize` is larger than the maximum possible size."
  | outOfMemory shape =>
      "Unable to allocate " ++ Bytes.text shape.bytes ++ " for an array with shape " ++
        shape.lengthsText ++ " and data type " ++ shape.item.name
  | farStop => farText 0
  | farStart => farText 1
  | tooManyPoints => "Maximum allowed size exceeded"
  | noLastPoint => "index -1 is out of bounds for axis 0 with size 0"
  | component value => s!"Python integer {value} out of bounds for uint8"
  | wideComponent => "Python int too large to convert to C long"
where
  farText (operand : Nat) : String :=
    s!"Cannot cast ufunc 'subtract' input {operand} from dtype('O') to dtype('float64') " ++
      "with casting rule 'same_kind'"

end CanvasFault

namespace ArrayShape

/-- Why there is no room for an array, if there is none: its size does not fit into a word, or the
host does not grant so many bytes. -/
def check (shape : ArrayShape) (room : Nat) : Option CanvasFault :=
  if shape.reserved ≥ Number.pow2 63 then some .arrayTooBig
  else if shape.reserved ≥ room then some (.outOfMemory shape)
  else none

end ArrayShape

end LineScript
