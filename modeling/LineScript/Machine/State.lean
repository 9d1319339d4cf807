import LineScript.Machine.Flow

/-!
The state of a run: the innermost frame with the machine, and the frames that wait for it. The body
of an inline loop has the definition, the arguments and the variables of the frame that owns the
loop, so only the line of the owner is kept aside.
-/

namespace LineScript

/-- What a frame waits for that has started another definition. -/
inductive Wait where
  | call (keyword : String)
  | pass (loop : ExternalLoop)
deriving DecidableEq, Repr

namespace Wait

def keyword : Wait → String
  | call keyword => keyword
  | pass loop => loop.kind.keyword

end Wait

inductive Suspended where
  | caller (frame : Frame) (wait : Wait)
  | owner (cursor : Cursor) (loop : InlineLoop)
deriving DecidableEq, Repr

namespace Suspended

def frame (above : Frame) : Suspended → Frame
  | caller frame _ => frame
  | owner cursor _ => { above with cursor }

def keyword : Suspended → String
  | caller _ wait => wait.keyword
  | owner _ loop => loop.kind.keyword

def startsBody : Suspended → Bool
  | caller _ _ => false
  | owner _ _ => true

end Suspended

inductive Control where
  | running
  | leaving (signal : Signal)
deriving DecidableEq, Repr

structure State where
  scope : Scope
  suspended : List Suspended
  control : Control
  floor : Floor
  /-- Whether the outermost frame executes a single line and does not count as active. -/
  oneLine : Bool

namespace State

def activationsFrom (frame : Frame) : List Suspended → List Activation
  | [] => [⟨frame, false⟩]
  | waiting :: rest => ⟨frame, waiting.startsBody⟩ :: activationsFrom (waiting.frame frame) rest

def activations (state : State) : List Activation :=
  (activationsFrom state.scope.frame state.suspended).reverse

def active (state : State) : List Activation :=
  if state.oneLine then state.activations.drop 1 else state.activations

def outermost (state : State) : Frame :=
  state.suspended.foldl (fun frame waiting => waiting.frame frame) state.scope.frame

def depth (state : State) : Nat :=
  state.floor.depth + state.suspended.length + if state.oneLine then 0 else 1

def currentLine (state : State) : Nat :=
  if state.oneLine && state.suspended.isEmpty then state.floor.line
  else state.scope.frame.cursor.line

def inBody (state : State) : Bool :=
  match state.suspended with
  | [] => false
  | waiting :: _ => waiting.startsBody

def onMachine (state : State) (change : Machine → Machine) : State :=
  { state with scope := { state.scope with machine := change state.scope.machine } }

def moveTo (state : State) (cursor : Cursor) : State :=
  { state with scope := { state.scope with frame := { state.scope.frame with cursor } } }

def report (state : State) (level : Level) (text : String) (code : Code) : State :=
  { state with scope := state.scope.report ⟨level, text, code⟩ }

def keepReturned (state : State) (value : String) : State :=
  state.onMachine fun machine => { machine with returned := value }

def runIn (state : State) (scope : Scope) : State :=
  { state with scope, control := .running }

end State

end LineScript
