import LineScript.Script.Source

/-!
A reader that moves forward over the lines of a script.
-/

namespace LineScript

/-- The last line read: its number, zero before the first, and its text. -/
structure Cursor where
  line : Nat
  text : Option String
deriving DecidableEq, Repr

/-- A cursor was sent to a line before the one it stands at. -/
structure BackwardMove where
  line : Nat
  target : Int
deriving DecidableEq, Repr

namespace BackwardMove

def message (fault : BackwardMove) : String :=
  s!"Cursor at line {fault.line} cannot move back to line {fault.target}"

end BackwardMove

namespace Cursor

def start : Cursor := ⟨0, none⟩

/-- Reads the next line; at the end of the script there is no text. -/
def read (script : Script) (cursor : Cursor) : Cursor :=
  if cursor.line < script.lineCount then
    ⟨cursor.line + 1, script.line? (cursor.line + 1)⟩
  else { cursor with text := none }

/-- Reads up to the target line, or to the end of the script if that comes first. -/
def advance (script : Script) (cursor : Cursor) (target : Nat) : Cursor :=
  if target ≤ cursor.line then cursor
  else if target ≤ script.lineCount then ⟨target, script.line? target⟩
  else ⟨max cursor.line script.lineCount, none⟩

def advanceTo (script : Script) (cursor : Cursor) (target : Int) : Except BackwardMove Cursor :=
  if target < cursor.line then .error ⟨cursor.line, target⟩
  else .ok (cursor.advance script target.toNat)

/-- Moves so that the next line read is the given one, from the beginning if need be. -/
def reposition (script : Script) (cursor : Cursor) (next : Int) : Cursor × Option BackwardMove :=
  let cursor := if next - 1 < cursor.line then start else cursor
  match cursor.advanceTo script (next - 1) with
  | .ok moved => (moved, none)
  | .error fault => (cursor, some fault)

end Cursor

end LineScript
