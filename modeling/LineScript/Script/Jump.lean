import LineScript.Script.Source

/-!
Finding the end of a block. The statements after a line are scanned with a nesting depth that goes
up at openers and down at closers; the first closer or alternate at depth zero is the target. What
was found once need not be searched again.
-/

namespace LineScript

/-- A keyword that opens a block, possibly only with a certain number of arguments. -/
structure BlockMarker where
  keyword : String
  argc : Option Int
deriving DecidableEq, Repr

namespace BlockMarker

def opens (marker : BlockMarker) (statement : Statement) : Bool :=
  statement.keyword == marker.keyword &&
    match marker.argc with
    | none => true
    | some argc => (statement.argc : Int) == argc

end BlockMarker

def findClosing (opener : BlockMarker) (closer : String) (alternates : List String) :
    (depth : Int) → List Statement → Option Nat
  | _, [] => none
  | depth, statement :: rest =>
      if depth == 0 && (statement.keyword == closer || alternates.contains statement.keyword) then
        some statement.number
      else if opener.opens statement then findClosing opener closer alternates (depth + 1) rest
      else if statement.keyword == closer then
        findClosing opener closer alternates (depth - 1) rest
      else findClosing opener closer alternates depth rest

namespace Script

/-- The line that closes the block around the given line, or the first alternate on its level. -/
def blockEnd? (script : Script) (fromLine : Int) (opener : BlockMarker) (closer : String)
    (alternates : List String) : Option Nat :=
  findClosing opener closer alternates 0
    (script.statements.filter fun statement => (statement.number : Int) > fromLine)

end Script

structure JumpQuery where
  fromLine : Int
  opener : BlockMarker
  closer : String
  alternates : List String
deriving DecidableEq, Repr

namespace JumpQuery

def search (query : JumpQuery) (script : Script) : Option Nat :=
  script.blockEnd? query.fromLine query.opener query.closer query.alternates

end JumpQuery

/-- Questions about one script with the answers found for them, the last one first. -/
structure JumpCache where
  entries : List (JumpQuery × Option Nat)
deriving DecidableEq, Repr

namespace JumpCache

def empty : JumpCache := ⟨[]⟩

/-- Answers a question as it was answered before, or else by a search whose answer is kept. -/
def resolve (script : Script) (cache : JumpCache) (query : JumpQuery) : Option Nat × JumpCache :=
  match cache.entries.lookup query with
  | some answer => (answer, cache)
  | none =>
      let answer := query.search script
      (answer, ⟨(query, answer) :: cache.entries⟩)

def resolveAll (script : Script) (cache : JumpCache) :
    List JumpQuery → List (Option Nat) × JumpCache
  | [] => ([], cache)
  | query :: rest =>
      let (answer, cache) := cache.resolve script query
      let (answers, cache) := cache.resolveAll script rest
      (answer :: answers, cache)

end JumpCache

end LineScript
