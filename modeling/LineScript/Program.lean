import LineScript.Machine.Step

/-!
Programs: a script is run from one of its definitions, and hooks are told about the beginning and
the end.
-/

namespace LineScript

structure ProgramRun where
  result : Except Fault Signal
  machine : Machine
  /-- The frames that were active when a fault ended the run, the outermost one first. -/
  left : List Activation
  /-- The variables of the outermost frame, if the program was started. -/
  locals : Option Locals

inductive ProgramStart where
  | running (state : State)
  | ended (run : ProgramRun)

namespace Program

/-- Announces the end of a program after a fault; a hook can replace the fault. The frames that were
active stay with the machine. -/
def closeFault (machine : Machine) (left : List Activation) (locals : Locals) (fault : Fault) :
    ProgramRun :=
  let line := (Floor.under left).line
  let (machine, other) :=
    match fault with
    | .failure failure => machine.announce line (.failure failure)
    | .halt code => machine.announce line (.finish code)
    | _ => (machine, none)
  ⟨.error (other.getD fault), { machine with frames := left }, left, some locals⟩

def closeSignal (machine : Machine) (locals : Locals) (signal : Signal) : ProgramRun :=
  match machine.announce 0 (.finish signal.value) with
  | (machine, none) => ⟨.ok signal, machine, [], some locals⟩
  | (machine, some fault) => ⟨.error fault, machine, [], some locals⟩

/-- Begins a program: the frames of an earlier one are forgotten, the definition is opened, the
beginning is announced, and the first frame starts unless no frame may be active. -/
def start (script : Script) (entry : String) (machine : Machine) : ProgramStart :=
  let machine := { machine with frames := [] }
  let floor := Floor.under machine.frames
  match Effect.openDefinition script ⟨machine, ⟨entry, [], .empty, .start⟩⟩ with
  | .error fault scope => .ended ⟨.error fault, scope.machine, [], none⟩
  | .ok _ scope =>
      match scope.machine.announce floor.line (.start entry) with
      | (machine, some fault) => .ended ⟨.error fault, machine, [], some .empty⟩
      | (machine, none) =>
          match machine.checkDepth floor.depth floor.line with
          | some (fault, machine) => .ended (closeFault machine [] .empty fault)
          | none => .running ⟨{ scope with machine }, [], .running, floor, false⟩

def close (ending : Ending) (state : State) : ProgramRun :=
  let locals := state.outermost.locals
  match ending with
  | .finished signal =>
      closeSignal state.scope.machine locals (signal.getD (.returned nullText))
  | .failed fault => closeFault state.scope.machine state.active locals fault

end Program

namespace ProgramStart

def finish (start : ProgramStart) (script : Script) (fuel : Nat) : Option ProgramRun :=
  match start with
  | ended run => some run
  | running state =>
      (state.run script fuel).map fun (ending, state) => Program.close ending state

end ProgramStart

namespace Program

def run (script : Script) (entry : String) (machine : Machine) (fuel : Nat) :
    Option ProgramRun :=
  (start script entry machine).finish script fuel

end Program

end LineScript
