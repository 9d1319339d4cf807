import LineScript.Canvas.Basic
import LineScript.Canvas.Sampling

/-!
Lines and rectangles. A line has one point for each step along its longer axis; points outside the
canvas are left out. A line whose points cannot be laid out stops the drawing, and what was drawn
before it stays.
-/

namespace LineScript.Canvas

def lineGaps (x y x1 y1 : Int) : Nat :=
  max (x1 - x).natAbs (y1 - y).natAbs

/-- The indexes of the points of a stretch, one unit per point, that lie from 0 up to `bound`: the
first one and how many there are. -/
def insideRange (start stop : Int) (bound : Nat) : Nat × Nat :=
  let low := min start stop
  let first := max low 0
  let last := min (max start stop) (bound - 1)
  let count := (last - first + 1).toNat
  if start ≤ stop then ((first - start).toNat, count) else ((start - last).toNat, count)

/-- The indexes of the points of a line that can lie on the canvas, judged by its longer axis. -/
def visibleRange (canvas : Canvas) (x y x1 y1 : Int) : Nat × Nat :=
  if (y1 - y).natAbs ≤ (x1 - x).natAbs then insideRange x x1 canvas.width
  else insideRange y y1 canvas.height

def drawPoints (color : Color) (xs ys : Sampling.Stretch) (first : Nat) :
    (count : Nat) → Canvas → Canvas
  | 0, canvas => canvas
  | count + 1, canvas =>
      drawPoints color xs ys (first + 1) count
        (canvas.paint color (xs.point first) (ys.point first))

def strokeLine (canvas : Canvas) (color : Color) (x y x1 y1 : Int) : Canvas :=
  let gaps := lineGaps x y x1 y1
  let (first, count) := canvas.visibleRange x y x1 y1
  drawPoints color (.between x x1 gaps) (.between y y1 gaps) first count canvas

def endsFault? (start stop : Int) : Option CanvasFault :=
  if !Number.isAnyWord stop then some .farStop
  else if !Number.isAnyWord start then some .farStart
  else none

/-- Why a line cannot have so many points, if it cannot. The number is rounded to the precision of
a coordinate first. -/
def pointsFault? (count room : Nat) : Option CanvasFault :=
  let count := Number.toPrecision Sampling.precision count
  if count > Number.pow2 63 then some .tooManyPoints
  else if count == Number.pow2 63 then some .noLastPoint
  else ArrayShape.check ⟨[count], .coordinate⟩ room

/-- Why a line cannot be laid out, if it cannot: its horizontal ends count first, then the number
of its points, then its vertical ends. -/
def lineFault? (x y x1 y1 : Int) (room : Nat) : Option CanvasFault :=
  endsFault? x x1 <|> pointsFault? (lineGaps x y x1 y1 + 1) room <|> endsFault? y y1

/-- What drawing gives: the canvas as far as it was drawn, and what stopped the drawing. -/
structure Drawn where
  canvas : Canvas
  fault : Option CanvasFault

def Drawn.andThen (drawn : Drawn) (next : Canvas → Drawn) : Drawn :=
  match drawn.fault with
  | some _ => drawn
  | none => next drawn.canvas

/-- Draws a line between two points, both included. The ink is judged even where no point of the
line lies on the canvas. The points take up `room` bytes at most. -/
def drawLine (canvas : Canvas) (ink : Ink) (x y x1 y1 : Int) (room : Nat := Bytes.limit) :
    Drawn :=
  match lineFault? x y x1 y1 room, ink.color with
  | some fault, _ => ⟨canvas, some fault⟩
  | none, .error fault => ⟨canvas, some fault⟩
  | none, .ok color => ⟨canvas.strokeLine color x y x1 y1, none⟩

/-- Draws the outline of a rectangle, line by line; one without extent has none. -/
def drawRect (canvas : Canvas) (ink : Ink) (x y width height : Int)
    (room : Nat := Bytes.limit) : Drawn :=
  if width ≤ 0 || height ≤ 0 then ⟨canvas, none⟩
  else
    let right := x + width - 1
    let bottom := y + height - 1
    (((canvas.drawLine ink x y right y room).andThen
      (·.drawLine ink x bottom right bottom room)).andThen
      (·.drawLine ink x y x bottom room)).andThen
      (·.drawLine ink right y right bottom room)

end LineScript.Canvas
