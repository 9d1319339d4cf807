import LineScript.Canvas.Basic

/-!
The canvas as an image file: a header with the size in decimal digits, then three bytes per pixel,
row by row.
-/

namespace LineScript.Canvas

def colorBytes (color : Color) : List UInt8 :=
  [color.red, color.green, color.blue]

def imageHeader (width height : Nat) : String :=
  s!"P6\n{width} {height}\n255\n"

def asciiBytes (text : String) : List UInt8 :=
  text.toList.map fun c => c.toNat.toUInt8

def toImage (canvas : Canvas) : ByteArray :=
  canvas.pixels.foldl
    (fun bytes color => ((bytes.push color.red).push color.green).push color.blue)
    ⟨(asciiBytes (imageHeader canvas.width canvas.height)).toArray⟩

end LineScript.Canvas
