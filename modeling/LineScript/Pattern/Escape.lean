import LineScript.Color
import LineScript.Pattern.Reader
import LineScript.Text.CharacterName
import LineScript.Text.Quote

/-!
Escapes in patterns: a backslash with a letter for a class of characters, a place or a control
character; with digits for a character code or a group; with any other character for itself.
-/

namespace LineScript.Pattern

def isDecimal (c : Char) : Bool := '0' ≤ c && c ≤ '9'

def isOctal (c : Char) : Bool := '0' ≤ c && c ≤ '7'

def isHex (c : Char) : Bool := (Color.hexValue? c).isSome

def isAsciiLetter (c : Char) : Bool := ('A' ≤ c && c ≤ 'Z') || ('a' ≤ c && c ≤ 'z')

def digitsValue (base : Nat) (digits : List Char) : Nat :=
  digits.foldl (fun n c => base * n + (Color.hexValue? c).getD 0) 0

def controlCode? (c : Char) : Option Nat :=
  if c == 'a' then some 7
  else if c == 'b' then some 8
  else if c == 'f' then some 12
  else if c == 'n' then some 10
  else if c == 'r' then some 13
  else if c == 't' then some 9
  else if c == 'v' then some 11
  else if c == '\\' then some 92
  else none

def category? (c : Char) : Option SetItem :=
  if c == 'd' then some (.category .digit false)
  else if c == 'D' then some (.category .digit true)
  else if c == 's' then some (.category .space false)
  else if c == 'S' then some (.category .space true)
  else if c == 'w' then some (.category .word false)
  else if c == 'W' then some (.category .word true)
  else none

def anchor? (c : Char) : Option Anchor :=
  if c == 'A' then some .textStart
  else if c == 'b' then some .boundary
  else if c == 'B' then some .noBoundary
  else if c == 'Z' then some .textEnd
  else none

namespace Read

def failEscape {α : Type} (what : String) (chars : List Char) (after : String) : Read α :=
  fail (what ++ String.ofList ('\\' :: chars) ++ after) (chars.length + 1)

def hexEscape (letter : Char) (count : Nat) : Read Nat := do
  let digits ← takeWhile isHex count
  if digits.length != count then failEscape "incomplete escape " (letter :: digits) ""
  let code := digitsValue 16 digits
  if code > 0x10FFFF then failEscape "bad escape " (letter :: digits) ""
  return code

def namedEscape : Read Nat := do
  if !(← accept '\x7b') then fail "missing \x7b" 0
  let given ← name '\x7d' "character name"
  match Text.codeOfName? given with
  | some code => return code
  | none =>
      fail s!"undefined character name {Text.quoted (String.ofList given)}" (given.length + 4)

def codeEscape? (c : Char) : Read (Option Nat) := do
  if c == 'x' then return some (← hexEscape c 2)
  else if c == 'u' then return some (← hexEscape c 4)
  else if c == 'U' then return some (← hexEscape c 8)
  else if c == 'N' then return some (← namedEscape)
  else return none

def plainEscape (c : Char) : Read Nat := do
  if isAsciiLetter c || isDecimal c then failEscape "bad escape " [c] ""
  return c.toNat

def octalCode (digits : List Char) : Read Nat := do
  let code := digitsValue 8 digits
  if code > 255 then failEscape "octal escape value " digits " outside of range 0-0o377"
  return code

def setEscape (c : Char) : Read SetItem := do
  match controlCode? c, category? c with
  | some code, _ => return .char code
  | none, some item => return item
  | none, none =>
      match ← codeEscape? c with
      | some code => return .char code
      | none =>
          if isOctal c then
            let more ← takeWhile isOctal 2
            return .char (← octalCode (c :: more))
          else return .char (← plainEscape c)

def isClosed (index : Nat) : Read Bool := do
  return ((← get).groups.getD index none).isSome

/-- Inside a pattern that looks behind only groups from outside may be mentioned. -/
def checkLookbehind (index : Nat) : Read Unit := do
  match (← get).lookbehind with
  | none => return ()
  | some outside =>
      if !(← isClosed index) then fail "cannot refer to an open group" 0
      if index ≥ outside then
        fail "cannot refer to group defined in the same lookbehind subpattern" 0

def groupMention (index length : Nat) : Read Node := do
  if index < (← get).groups.size then
    if !(← isClosed index) then fail "cannot refer to an open group" length
    checkLookbehind index
    return .backref index
  else fail s!"invalid group reference {index}" (length - 1)

/-- An escape that starts with a digit other than zero: three octal digits are a character code,
anything else is the number of a group. -/
def digitEscape (c : Char) : Read Node := do
  match ← peek with
  | some (.plain d) =>
      if isDecimal d then
        advance
        match ← peek with
        | some (.plain e) =>
            if isOctal c && isOctal d && isOctal e then
              advance
              return .char (← octalCode [c, d, e])
            else groupMention (digitsValue 10 [c, d]) 3
        | _ => groupMention (digitsValue 10 [c, d]) 3
      else groupMention (digitsValue 10 [c]) 2
  | _ => groupMention (digitsValue 10 [c]) 2

def escape (c : Char) : Read Node := do
  match anchor? c, category? c, controlCode? c with
  | some anchor, _, _ => return .anchor anchor
  | none, some item, _ => return .set false [item]
  | none, none, some code => return .char code
  | none, none, none =>
      match ← codeEscape? c with
      | some code => return .char code
      | none =>
          if c == '0' then
            let more ← takeWhile isOctal 2
            return .char (digitsValue 8 (c :: more))
          else if isDecimal c then digitEscape c
          else return .char (← plainEscape c)

end Read

end LineScript.Pattern
