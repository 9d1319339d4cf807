/-!
Rows of neighbouring characters with their names. Every name of a row starts with a small letter
that says how much of the name before it is kept: `a` for nothing, `b` for one character, and so on.
The rest of the name follows in capitals.
-/

namespace LineScript.Text

structure NameBlock where
  first : Nat
  /-- The names, each after the letter for what it shares with the one before it, in lines. -/
  lines : List String

def keptChars (letter : Char) : Nat :=
  letter.toNat - 97

/-- Looks for a name in what is left of a row; `name` holds what has been read of the name of the
character `code`. -/
def findName? (wanted : Array Char) (code : Nat) (name : Array Char) : List Char → Option Nat
  | [] => if name == wanted then some code else none
  | c :: rest =>
      if 'a' ≤ c then
        if name == wanted then some code
        else findName? wanted (code + 1) (name.take (keptChars c)) rest
      else findName? wanted code (name.push c) rest

namespace NameBlock

def find? (block : NameBlock) (wanted : Array Char) : Option Nat :=
  findName? wanted block.first #[] ((block.lines.flatMap String.toList).drop 1)

end NameBlock

end LineScript.Text
