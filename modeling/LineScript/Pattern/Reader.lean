import LineScript.Pattern.Width

/-!
Reading a pattern text piece by piece. A piece is one character, or a backslash with the character
after it. One piece is always looked at in advance, so a lone backslash at the end is noticed when
the piece before it is taken.
-/

namespace LineScript.Pattern

inductive Piece where
  | plain (c : Char)
  | escaped (c : Char)
deriving DecidableEq, Repr

namespace Piece

def chars : Piece → List Char
  | plain c => [c]
  | escaped c => ['\\', c]

def text (piece : Piece) : String :=
  String.ofList piece.chars

def length : Piece → Nat
  | plain _ => 1
  | escaped _ => 2

end Piece

structure Reader where
  chars : List Char
  rest : List Char
  next : Option Piece
  index : Nat
  flags : Flags
  /-- The widths of the groups that are closed; the whole pattern counts as group zero. -/
  groups : Array (Option Width)
  names : List (String × Nat)
  /-- The number of groups when the outermost pattern that looks behind began. -/
  lookbehind : Option Nat
  /-- The groups that conditions name by number, with the position of the first mention. -/
  mentions : List (Nat × Nat)

abbrev Read := StateT Reader (Except Fault)

namespace Read

def position : Read Nat := do
  let reader ← get
  return reader.index - (reader.next.map Piece.length).getD 0

def fail {α : Type} (text : String) (back : Nat) : Read α := do
  throw (.malformed text (some ((← position) - back)))

def advance : Read Unit := do
  let reader ← get
  match reader.rest with
  | [] => set { reader with next := none }
  | [c] =>
      if c == '\\' then
        throw (.malformed "bad escape (end of pattern)" (some (reader.chars.length - 1)))
      else set { reader with rest := [], next := some (.plain c), index := reader.index + 1 }
  | c :: d :: rest =>
      if c == '\\' then
        set { reader with rest, next := some (.escaped d), index := reader.index + 2 }
      else set { reader with rest := d :: rest, next := some (.plain c), index := reader.index + 1 }

def peek : Read (Option Piece) := do
  return (← get).next

def take : Read (Option Piece) := do
  let piece ← peek
  advance
  return piece

def accept (c : Char) : Read Bool := do
  if (← peek) == some (.plain c) then
    advance
    return true
  else return false

def seek (index : Nat) : Read Unit := do
  modify fun reader => { reader with rest := reader.chars.drop index, index }
  advance

def takeWhile (accepts : Char → Bool) : (count : Nat) → Read (List Char)
  | 0 => return []
  | count + 1 => do
      match ← peek with
      | some (.plain c) =>
          if accepts c then
            advance
            return c :: (← takeWhile accepts count)
          else return []
      | _ => return []

/-- Takes pieces up to a closing character; `taken` holds the characters taken so far. -/
def takeUntil (closing : Char) (name : String) (taken : List Char) :
    (fuel : Nat) → Read (List Char)
  | 0 => return taken
  | fuel + 1 => do
      match ← take with
      | none =>
          if taken.isEmpty then fail s!"missing {name}" 0
          else fail s!"missing {closing}, unterminated name" taken.length
      | some piece =>
          if piece == .plain closing then
            if taken.isEmpty then fail s!"missing {name}" 1 else return taken
          else takeUntil closing name (taken ++ piece.chars) fuel

def budget : Read Nat := do
  return (← get).chars.length + 1

def name (closing : Char) (what : String) : Read (List Char) := do
  takeUntil closing what [] (← budget)

end Read

end LineScript.Pattern
