import LineScript.Canvas.Ink

/-!
A canvas: a rectangle of pixels, a pen and the position of the pointer.
-/

namespace LineScript

/-- Where the pointer is and whether its button is down. -/
structure Pointer where
  x : Int
  y : Int
  down : Bool
deriving DecidableEq, Repr, Inhabited

/-- The pixels of a rectangle, row by row from the top, with a pen and a pointer. -/
structure Canvas where
  width : Nat
  height : Nat
  pixels : Array Color
  size_eq : pixels.size = width * height
  pen : Ink
  pointer : Pointer

namespace Canvas

def blank (width height : Nat) : Canvas where
  width
  height
  pixels := Array.replicate (width * height) Color.black
  size_eq := by simp
  pen := .ofColor Color.white
  pointer := ⟨0, 0, false⟩

def defaultWidth : Nat := 480

def defaultHeight : Nat := 360

def maxPixels : Nat := 16000000

instance : Inhabited Canvas := ⟨blank 0 0⟩

/-- The shape of the pixels of a canvas: rows of columns of components. -/
def shape (width height : Nat) : ArrayShape :=
  ⟨[height, width, 3], .component⟩

def sizeFault? (width height : Int) : Option CanvasFault :=
  if !Number.isWord width || !Number.isWord height then some .wideSize
  else if width < 0 || height < 0 then some .negativeSize
  else (shape width.toNat height.toNat).check Bytes.limit

def create (width height : Int) : Except CanvasFault Canvas :=
  match sizeFault? width height with
  | some fault => .error fault
  | none => .ok (blank width.toNat height.toNat)

def pixel? (canvas : Canvas) (x y : Nat) : Option Color :=
  if x < canvas.width && y < canvas.height then canvas.pixels[y * canvas.width + x]? else none

def paint (canvas : Canvas) (color : Color) (x y : Int) : Canvas :=
  if 0 ≤ x && x < canvas.width && 0 ≤ y && y < canvas.height then
    match canvas with
    | ⟨width, height, pixels, size_eq, pen, pointer⟩ =>
        { width, height, pen, pointer
          pixels := pixels.setIfInBounds (y.toNat * width + x.toNat) color
          size_eq := by simpa using size_eq }
  else canvas

def fill (canvas : Canvas) (color : Color) : Canvas :=
  { canvas with
    pixels := Array.replicate (canvas.width * canvas.height) color
    size_eq := by simp }

def fillWith (canvas : Canvas) (ink : Ink) : Except CanvasFault Canvas :=
  ink.color.map canvas.fill

/-- Changes the size. Pixels inside both the old and the new rectangle stay, the others are
black. -/
def resize (canvas : Canvas) (width height : Nat) : Canvas :=
  { canvas with
    width
    height
    pixels := Array.ofFn fun i : Fin (width * height) =>
      (canvas.pixel? (i.val % width) (i.val / width)).getD Color.black
    size_eq := by simp }

def resizeTo (canvas : Canvas) (width height : Int) : Except CanvasFault Canvas :=
  match sizeFault? width height with
  | some fault => .error fault
  | none => .ok (canvas.resize width.toNat height.toNat)

def withPen (canvas : Canvas) (pen : Ink) : Canvas :=
  { canvas with pen }

def movePointer (canvas : Canvas) (pointer : Pointer) : Canvas :=
  { canvas with pointer }

/-- The pixels, row by row, as runs of one colour with their lengths; `run` is the run being
read. -/
def runsFrom (run : Color × Nat) : List Color → List (Color × Nat)
  | [] => [run]
  | color :: rest =>
      if color == run.1 then runsFrom (color, run.2 + 1) rest else run :: runsFrom (color, 1) rest

def runs (canvas : Canvas) : List (Color × Nat) :=
  match canvas.pixels.toList with
  | [] => []
  | color :: rest => runsFrom (color, 1) rest

end Canvas

end LineScript
