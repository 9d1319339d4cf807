import LineScript.Number.Word

/-!
Memory: a row of text cells that grows and shrinks at its end.
-/

namespace LineScript

structure Memory where
  cells : Array String
deriving DecidableEq, Repr, Inhabited

inductive MemoryFault where
  | missingSource
  | missingTarget
  | wideIndex
  | wideAmount
  | exhausted
deriving DecidableEq, Repr

namespace MemoryFault

def message : MemoryFault → String
  | missingSource => "list index out of range"
  | missingTarget => "list assignment index out of range"
  | wideIndex => "cannot fit 'int' into an index-sized integer"
  | wideAmount => "cannot fit 'int' into an index-sized integer"
  | exhausted => ""

end MemoryFault

namespace Memory

def empty : Memory := ⟨#[]⟩

def size (memory : Memory) : Nat :=
  memory.cells.size

/-- Adds cells with the given content; a negative amount adds none. -/
def allocate (memory : Memory) (amount : Int) (fill : String) : Memory :=
  ⟨memory.cells ++ Array.replicate amount.toNat fill⟩

def releasable (memory : Memory) (amount : Int) : Int :=
  min amount memory.size

def release (memory : Memory) (amount : Int) : Memory :=
  ⟨memory.cells.take (memory.size - (memory.releasable amount).toNat)⟩

def exists? (memory : Memory) (index : Int) : Bool :=
  0 ≤ index && index < memory.size

def position? (memory : Memory) (index : Int) : Option Nat :=
  let position := if index < 0 then index + memory.size else index
  if memory.exists? position then some position.toNat else none

def get? (memory : Memory) (index : Int) : Option String :=
  (memory.position? index).bind (memory.cells[·]?)

def set? (memory : Memory) (index : Int) (value : String) : Option Memory :=
  (memory.position? index).map fun position => ⟨memory.cells.setIfInBounds position value⟩

/-- A number of cells that is beyond the memory of a usual host: with eight bytes for each of them
they take 80 gigabytes. -/
def cellLimit : Int := Number.pow10 10

/-- Adds as many cells as are asked for, or none if the number cannot be met by a host that grants
at most so many. -/
def reserve (memory : Memory) (amount : Int) (fill : String) (limit : Int := cellLimit) :
    Except MemoryFault Memory :=
  if !Number.isWord amount then .error .wideAmount
  else if amount > limit then .error .exhausted
  else .ok (memory.allocate amount fill)

def read (memory : Memory) (index : Int) : Except MemoryFault String :=
  if !Number.isWord index then .error .wideIndex
  else
    match memory.get? index with
    | some value => .ok value
    | none => .error .missingSource

/-- Changes the content of the cell with an index, or tells why there is none. -/
def write (memory : Memory) (index : Int) (value : String) : Except MemoryFault Memory :=
  if !Number.isWord index then .error .wideIndex
  else
    match memory.set? index value with
    | some memory => .ok memory
    | none => .error .missingTarget

end Memory

end LineScript
