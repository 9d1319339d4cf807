import LineScript.Script.Line

/-!
The arguments of a line. What follows the first token is read character by character: a space ends
an argument, a double quote at the start of an argument opens a text that runs to the next quote,
and a backslash before a quote makes the quote a plain character.
-/

namespace LineScript

structure Piece where
  text : String
  quoted : Bool
deriving DecidableEq, Repr

namespace Piece

/-- The characters of a quoted text with its quotes and with a backslash before each quote
inside. -/
def quoteChars (chars : List Char) : List Char :=
  '"' :: chars.flatMap (fun c => if c == '"' then ['\\', '"'] else [c]) ++ ['"']

/-- The argument as it is written on a line: a quoted text in quotes again, anything else as it
is. -/
def written (piece : Piece) : String :=
  if piece.quoted then String.ofList (quoteChars piece.text.toList) else piece.text

/-- The value of an argument: a quoted text as it is, anything else as it resolves. -/
def value (resolve : String → String) (piece : Piece) : String :=
  if piece.quoted then piece.text else resolve piece.text

end Piece

structure Scan where
  pieces : List Piece
  current : List Char
  inQuotes : Bool
  /-- Whether the character before is a backslash that can escape a quote. -/
  escaping : Bool
  /-- Whether an argument may start here: at the beginning or after a space. -/
  atStart : Bool
deriving DecidableEq, Repr

namespace Scan

def initial : Scan := ⟨[], [], false, false, true⟩

def close (scan : Scan) (quoted : Bool) : List Piece :=
  ⟨String.ofList scan.current.reverse, quoted⟩ :: scan.pieces

/-- Reads one character that is no quote, or a quote that counts as any other character. -/
def plain (scan : Scan) (c : Char) : Scan :=
  if !scan.inQuotes && c == ' ' then
    { pieces := if scan.current.isEmpty then scan.pieces else scan.close false
      current := [], inQuotes := false, escaping := false, atStart := true }
  else
    { scan with current := c :: scan.current, escaping := c == '\\', atStart := c == ' ' }

def step (scan : Scan) (c : Char) : Scan :=
  if c != '"' then scan.plain c
  else if scan.escaping then
    { scan with current := '"' :: scan.current.tail, escaping := false, atStart := false }
  else if scan.inQuotes then
    { pieces := scan.close true
      current := [], inQuotes := false, escaping := false, atStart := false }
  else if scan.atStart then
    { scan with inQuotes := true, escaping := false, atStart := false }
  else scan.plain c

/-- The arguments, first one first; a quoted text that is still open keeps what it has. -/
def finish (scan : Scan) : List Piece :=
  (if !scan.current.isEmpty || scan.inQuotes then scan.close scan.inQuotes
    else scan.pieces).reverse

end Scan

def argumentText (tokens : List String) : List Char :=
  (" ".intercalate tokens.tail).toList

def piecesOf (tokens : List String) : List Piece :=
  ((argumentText tokens).foldl Scan.step Scan.initial).finish

structure TooManyArguments where
  limit : Int
deriving DecidableEq, Repr

namespace TooManyArguments

def message (fault : TooManyArguments) : String :=
  s!"Too many arguments (at most {fault.limit} are allowed)"

end TooManyArguments

def pieces? (limit : Int) (tokens : List String) : Except TooManyArguments (List Piece) :=
  let pieces := piecesOf tokens
  if !pieces.isEmpty && (pieces.length : Int) > limit then .error ⟨limit⟩ else .ok pieces

def extract (limit : Int) (resolve : String → String) (tokens : List String) :
    Except TooManyArguments (List String) :=
  (pieces? limit tokens).map (·.map (Piece.value resolve))

def extractWritten (limit : Int) (tokens : List String) :
    Except TooManyArguments (List String) :=
  (pieces? limit tokens).map (·.map Piece.written)

/-- The number of arguments of a line, or -1 when there are more than are allowed. -/
def argumentCount (limit : Int) (tokens : List String) : Int :=
  match pieces? limit tokens with
  | .ok pieces => pieces.length
  | .error _ => -1

end LineScript
