import LineScript.Canvas.Fault
import LineScript.Console
import LineScript.Message
import LineScript.Script.Cursor
import LineScript.Store.Memory

/-!
What can end a run early: a failure with a place in the script, a halt, an interruption at the
keyboard, or an exception that nothing foresaw. An exception becomes a failure of the instruction
in which it arises.
-/

namespace LineScript

inductive FailureKind where
  | general
  | jumpNotFound
  | entryPointNotFound
  | unrecognizedInstruction
deriving DecidableEq, Repr

namespace FailureKind

def name : FailureKind → String
  | general => "MRTRuntimeError"
  | jumpNotFound => "JumpNotFoundError"
  | entryPointNotFound => "EntryPointError"
  | unrecognizedInstruction => "UnrecognizedInstructionError"

end FailureKind

/-- A structural fault of a script, with its place if that is known. -/
structure Failure where
  kind : FailureKind
  message : String
  code : Int
  line : Option Nat
  entry : Option String
deriving DecidableEq, Repr

/-- What the code of an instruction or of a variable did not foresee. -/
inductive Exception where
  | refusedValue (text : String)
  | missingArgument
  | backwardMove (move : BackwardMove)
  | incomparable
  | memory (fault : MemoryFault)
  | canvas (fault : CanvasFault)
  | limit (text : String)
deriving DecidableEq, Repr

namespace Exception

def message : Exception → String
  | refusedValue text => text
  | missingArgument => "list index out of range"
  | backwardMove move => move.message
  | incomparable => "'>=' not supported between instances of 'int' and 'list'"
  | memory fault => fault.message
  | canvas fault => fault.message
  | limit text => text

/-- More marks are nested than the host can follow. -/
def tooManyMarks : Exception := limit "maximum recursion depth exceeded"

end Exception

inductive Fault where
  | failure (failure : Failure)
  | halt (code : String)
  | unreadable (text : String)
  | exception (exception : Exception)
  | interrupted
deriving DecidableEq, Repr

namespace Fault

/-- A question without an answer: what is no text is refused like any other value. -/
def ofInterrupted : Interrupted → Fault
  | .keyboard => interrupted
  | .undecodable text => exception (.refusedValue text)

end Fault

end LineScript
