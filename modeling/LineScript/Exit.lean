import LineScript.Number.Integer
import LineScript.Signal
import LineScript.Text.Quote

/-!
The end of a process: the value with which it closes, the sentence that describes the value, and
the limit on nesting that can be asked for.
-/

namespace LineScript

namespace Exit

def valueOf : Signal → String
  | .broken _ => "3"
  | .continued _ => "4"
  | signal => signal.value

def sentences : List (String × String) :=
  [("-1", "Process closed incorrectly."),
    ("0", "Process successfully closed."),
    ("1", "Process closed due to an internal thread."),
    ("2", "Process was manually halted."),
    ("3", "Process was closed due to a break statement."),
    ("4", "Process was closed due to a continue statement."),
    ("5", "Process successfully closed. (RET)")]

def describe (value : String) : String :=
  match sentences.lookup value with
  | some sentence => s!"{sentence} (code {value})"
  | none => s!"Process closed with value {value}."

end Exit

inductive DepthFault where
  | invalid (text : String)
  | outOfRange
deriving DecidableEq, Repr

namespace DepthFault

def ceiling : Int := 141

def message : DepthFault → String
  | invalid text => s!"invalid depth: {Text.quoted text}"
  | outOfRange => s!"depth must be between 1 and {ceiling}"

end DepthFault

def depthLimit (text : String) : Except DepthFault Int :=
  match Number.readInt? text with
  | none => .error (.invalid text)
  | some value =>
      if 1 ≤ value && value ≤ DepthFault.ceiling then .ok value else .error .outOfRange

end LineScript
