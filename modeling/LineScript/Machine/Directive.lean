import LineScript.Machine.Basic

/-!
Directives: lines in brackets that switch the modes of the machine.
-/

namespace LineScript

inductive Directive where
  | extended (enabled : Bool)
  | graphics (enabled : Bool)
  | unknown
deriving DecidableEq, Repr

namespace Directive

def isBracket (c : Char) : Bool :=
  c == '[' || c == ']'

def words (text : String) : List String :=
  let inner := ((Text.stripChars text.toList).dropWhile isBracket).reverse.dropWhile isBracket
  (Text.words (String.ofList inner.reverse)).map Text.lower

/-- What a line in brackets asks for; words after the second do not matter. -/
def ofText (text : String) : Directive :=
  match words text with
  | "mode" :: "extended" :: _ => extended true
  | "mode" :: "mrt" :: _ => extended true
  | "mode" :: "vsb" :: _ => extended false
  | "graphics" :: "enable" :: _ => graphics true
  | "graphics" :: "disable" :: _ => graphics false
  | _ => unknown

def apply (machine : Machine) (line : Int) (text : String) : Machine :=
  match ofText text with
  | extended true =>
      (machine.setExtended true).report line ⟨.info, "Using extended mode", .ok⟩
  | extended false =>
      (machine.setExtended false).report line ⟨.info, "Using compat mode", .ok⟩
  | graphics true => (machine.setGraphics true).report line ⟨.info, "Graphics enabled", .ok⟩
  | graphics false => (machine.setGraphics false).report line ⟨.info, "Graphics disabled", .ok⟩
  | unknown =>
      machine.report line
        ⟨.warning, s!"Unrecognized directive {Text.strip text}", .unknownDirective⟩

def applyLines (machine : Machine) (number : Nat) : List String → Machine
  | [] => machine
  | text :: rest =>
      let machine := if isDirective text then apply machine number text else machine
      applyLines machine (number + 1) rest

def applyAbove (machine : Machine) (script : Script) (line : Nat) : Machine :=
  applyLines machine 1 (script.lines.toList.take (line - 1))

end Directive

end LineScript
