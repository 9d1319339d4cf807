/-!
Looking for one text inside another, and replacing it.
-/

namespace LineScript.Text

def indexOf? (needle : List Char) : List Char → Option Nat
  | [] => if needle.isEmpty then some 0 else none
  | c :: rest =>
      if needle.isPrefixOf (c :: rest) then some 0 else (indexOf? needle rest).map (· + 1)

/-- Replaces the occurrences of a text, from the left and without overlap; `skip` characters
belong to the occurrence last replaced. -/
def replaceFrom (old new : List Char) (skip : Nat) : List Char → List Char
  | [] => []
  | c :: rest =>
      match skip with
      | n + 1 => replaceFrom old new n rest
      | 0 =>
          if old.isPrefixOf (c :: rest) then
            new ++ replaceFrom old new (old.length - 1) rest
          else c :: replaceFrom old new 0 rest

def replace (text old new : String) : String :=
  String.ofList (replaceFrom old.toList new.toList 0 text.toList)

/-- What stands before the first `mark`, and what stands after it if there is one. -/
def cut (mark : Char) : List Char → List Char × Option (List Char)
  | [] => ([], none)
  | c :: rest =>
      if c == mark then ([], some rest)
      else
        let (before, after) := cut mark rest
        (c :: before, after)

end LineScript.Text
