/-!
How the execution of a definition or of the body of a loop ends.
-/

namespace LineScript

/-- What a frame hands to the one that started it. -/
inductive Signal where
  | returned (value : String)
  | broken (value : String)
  | continued (value : String)
  /-- The body of a loop has come to its end marker on the given line. -/
  | resume (line : Nat) (value : String)
deriving DecidableEq, Repr

namespace Signal

def value : Signal → String
  | returned value => value
  | broken value => value
  | continued value => value
  | resume _ value => value

def name : Signal → String
  | returned _ => "Returned"
  | broken _ => "Break"
  | continued _ => "Continue"
  | resume _ _ => "Resume"

def closeValue : String := "5"

def haltCode : String := "2"

def abnormalCode : String := "-1"

end Signal

end LineScript
