import LineScript.Script.Argument
import LineScript.Text.Lines

/-!
A script: its lines, the statements among them, and the definitions that can be entered.
-/

namespace LineScript

/-- A line that is executed: its number, its instruction name and the number of its arguments. -/
structure Statement where
  number : Nat
  keyword : String
  argc : Nat
deriving DecidableEq, Repr

namespace Statement

def ofLine? (number : Nat) (text : String) : Option Statement :=
  if isSkippable text || isDirective text then none
  else
    let tokens := tokenize text
    some ⟨number, Line.keywordOf tokens, (piecesOf tokens).length⟩

end Statement

def statementsFrom (number : Nat) : List String → List Statement
  | [] => []
  | text :: rest =>
      match Statement.ofLine? number text with
      | some statement => statement :: statementsFrom (number + 1) rest
      | none => statementsFrom (number + 1) rest

def definedName? (text : String) : Option String :=
  match tokenize text with
  | keyword :: name :: _ => if Text.upper keyword == "DEF" then some name else none
  | _ => none

def addEntry (entries : List (String × Nat)) (name : String) (number : Nat) :
    List (String × Nat) :=
  if entries.any (·.1 == name) then entries else entries ++ [(name, number)]

/-- The names that the lines define, each with its first line, in the order of the lines. -/
def entriesFrom (entries : List (String × Nat)) (number : Nat) :
    List String → List (String × Nat)
  | [] => entries
  | text :: rest =>
      match definedName? text with
      | some name => entriesFrom (addEntry entries name number) (number + 1) rest
      | none => entriesFrom entries (number + 1) rest

/-- A script with an index of its statements and of its definitions. -/
structure Script where
  file : String
  lines : Array String
  statements : List Statement
  entries : List (String × Nat)
  statements_eq : statements = statementsFrom 1 lines.toList
  entries_eq : entries = entriesFrom [] 1 lines.toList

namespace Script

def ofLines (file : String) (lines : List String) : Script where
  file
  lines := lines.toArray
  statements := statementsFrom 1 lines
  entries := entriesFrom [] 1 lines
  statements_eq := by simp
  entries_eq := by simp

def ofText (file text : String) : Script :=
  ofLines file (Text.lines text)

def lineCount (script : Script) : Nat :=
  script.lines.size

def line? (script : Script) (number : Nat) : Option String :=
  if number == 0 then none else script.lines[number - 1]?

def entryLine? (script : Script) (name : String) : Option Nat :=
  script.entries.lookup name

end Script

end LineScript
