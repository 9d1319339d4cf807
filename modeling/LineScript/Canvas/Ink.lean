import LineScript.Canvas.Fault
import LineScript.Color
import LineScript.Number.Word

/-!
Inks: colours as they are asked for. A canvas takes an ink of any components, and refuses it only
when it is to colour pixels.
-/

namespace LineScript

/-- A colour as it is asked for, with components of any size. -/
structure Ink where
  red : Int
  green : Int
  blue : Int
deriving DecidableEq, Repr, Inhabited

namespace Ink

def ofColor (color : Color) : Ink :=
  ⟨color.red.toNat, color.green.toNat, color.blue.toNat⟩

def component (value : Int) : Except CanvasFault UInt8 :=
  if 0 ≤ value && value ≤ 255 then .ok value.toNat.toUInt8
  else if Number.isWord value then .error (.component value)
  else .error .wideComponent

/-- The colour of an ink; the first component that is none of a colour is refused. -/
def color (ink : Ink) : Except CanvasFault Color := do
  return ⟨← component ink.red, ← component ink.green, ← component ink.blue⟩

theorem component_toNat (value : UInt8) : component value.toNat = .ok value := by
  have below : value.toNat < 256 := value.toNat_lt
  rw [component, if_pos (by simp; omega)]
  simp

@[simp]
theorem color_ofColor (color : Color) : (ofColor color).color = .ok color := by
  simp only [Ink.color, ofColor, component_toNat]
  rfl

end Ink

end LineScript
