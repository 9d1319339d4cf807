import LineScript.Clock
import LineScript.Text.Blank
import LineScript.Text.Lower

/-!
What reaches a running program from outside: the answers of the person at the keyboard, given in
advance, with a record of the questions, and the moments at which the program looks at the clock or
at the terminal.
-/

namespace LineScript

/-- Why a question has no answer: the person at the keyboard interrupted the program, or typed what
is no text, which is told with the given message. -/
inductive Interrupted where
  | keyboard
  | undecodable (text : String)
deriving DecidableEq, Repr

inductive Reply where
  | line (text : String)
  | endOfFile
  | broken (cause : Interrupted)
deriving DecidableEq, Repr

namespace Reply

@[match_pattern]
def interrupt : Reply := broken .keyboard

end Reply

/-- The replies to come, the prompts shown, the last one first, and the moments to come. -/
structure Console where
  replies : List Reply
  shown : List String
  moments : Moments

namespace Console

def ofReplies (replies : List Reply) : Console :=
  ⟨replies, [], Clock.ofSeconds 0 0⟩

def prompts (console : Console) : List String :=
  console.shown.reverse

/-- Shows a prompt and reads a line; an end of file reads as an empty line, and so does every
prompt after the replies have run out. -/
def readLine (console : Console) (prompt : String) : Except Interrupted String × Console :=
  let shown := prompt :: console.shown
  match console.replies with
  | [] => (.ok "", { console with replies := [], shown })
  | .line text :: rest => (.ok text, { console with replies := rest, shown })
  | .endOfFile :: rest => (.ok "", { console with replies := rest, shown })
  | .broken cause :: rest => (.error cause, { console with replies := rest, shown })

def isYes (answer : String) : Bool :=
  let word := Text.lower (Text.strip answer)
  word == "y" || word == "yes"

def confirm (console : Console) (question : String) : Except Interrupted Bool × Console :=
  let (answer, console) := console.readLine (question ++ " [y/n] ")
  (answer.map isYes, console)

/-- The console after so many looks outside. -/
def after (console : Console) (looks : Nat) : Console :=
  { console with moments := console.moments.after looks }

end Console

end LineScript
