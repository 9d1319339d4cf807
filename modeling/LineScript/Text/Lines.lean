/-!
Lines of a text. A line ends at any of the characters that Unicode calls line boundaries; a
carriage return with the line feed after it is one boundary. A text that ends with a boundary has
no further, empty line.
-/

namespace LineScript.Text

def isLineEnd (c : Char) : Bool :=
  (10 ≤ c.toNat && c.toNat ≤ 13) || (28 ≤ c.toNat && c.toNat ≤ 30) ||
    c.toNat == 133 || c.toNat == 8232 || c.toNat == 8233

/-- The lines of the characters; `line` holds, in reverse, the line read so far. -/
def linesFrom (line : List Char) : List Char → List (List Char)
  | [] => if line.isEmpty then [] else [line.reverse]
  | '\r' :: '\n' :: rest => line.reverse :: linesFrom [] rest
  | c :: rest =>
      if isLineEnd c then line.reverse :: linesFrom [] rest else linesFrom (c :: line) rest

def lines (text : String) : List String :=
  (linesFrom [] text.toList).map String.ofList

def unifyLineEnds : List Char → List Char
  | [] => []
  | '\r' :: '\n' :: rest => '\n' :: unifyLineEnds rest
  | c :: rest => (if c == '\r' then '\n' else c) :: unifyLineEnds rest

end LineScript.Text
