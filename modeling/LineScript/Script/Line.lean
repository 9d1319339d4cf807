import LineScript.Text.Blank
import LineScript.Text.Upper

/-!
One line of a script: what kind of line it is, and its division at single spaces. Runs of spaces
leave empty tokens, so that joining the tokens gives the line back.
-/

namespace LineScript

def isSkippable (text : String) : Bool :=
  match Text.stripChars text.toList with
  | [] => true
  | c :: _ => c == ';'

def isDirective (text : String) : Bool :=
  match Text.stripChars text.toList with
  | [] => false
  | c :: _ => c == '['

/-- The parts of a line between single spaces; a blank line has none. -/
def tokenize (text : String) : List String :=
  match Text.stripChars text.toList with
  | [] => []
  | chars => (chars.splitOn ' ').map String.ofList

structure Line where
  number : Nat
  text : String
  tokens : List String
deriving DecidableEq, Repr

namespace Line

def ofText (number : Nat) (text : String) : Line :=
  ⟨number, text, tokenize text⟩

def keywordOf (tokens : List String) : String :=
  match tokens with
  | [] => ""
  | token :: _ => Text.upper token

def keyword (line : Line) : String :=
  keywordOf line.tokens

def statement (line : Line) : String :=
  Text.strip line.text

end Line

end LineScript
