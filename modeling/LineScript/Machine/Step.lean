import LineScript.Machine.State

/-!
Execution, one line at a time. A step reads a line and carries it out, or hands the signal of the
innermost frame to the frame that waits for it.
-/

namespace LineScript

/-- How a run ends. A single line may end without a signal. -/
inductive Ending where
  | finished (signal : Option Signal)
  | failed (fault : Fault)
deriving DecidableEq, Repr

inductive Step where
  | next (state : State)
  | stop (ending : Ending) (state : State)

namespace State

def abort (state : State) (fault : Fault) : Step :=
  .stop (.failed fault) state

/-- An exception in an instruction of the innermost frame is a failure of that instruction, and
arguments that cannot be read are reported; any other fault ends the run. -/
def instructionFault (state : State) (name : String) (code : Code) : Fault → Step
  | .exception exception =>
      let message := s!"{name} failed: {exception.message}"
      let scope := state.scope.reportFailure message code
      { state with scope }.abort (.failure (scope.failure .general message code))
  | .unreadable text => .next (state.runIn (state.report .error text .argumentCapacity).scope)
  | fault => state.abort fault

/-- An exception before the instruction of a line is known leaves the innermost frame, so that the
instruction fails that has started the frame. -/
def lineFault (state : State) : Fault → Step
  | .exception exception =>
      match state.suspended with
      | [] => state.abort (.exception exception)
      | waiting :: _ =>
          let message := s!"{waiting.keyword} failed: {exception.message}"
          let scope : Scope := ⟨state.scope.machine, waiting.frame state.scope.frame⟩
          (state.onMachine fun _ => (scope.reportFailure message .internal).machine).abort
            (.failure (scope.failure .general message .internal))
  | fault => state.abort fault

/-- Starts a frame above the innermost one unless too many are active. -/
def enter (state : State) (frame : Frame) (waiting : Suspended) : Step :=
  match state.scope.machine.checkDepth state.depth state.currentLine with
  | some (fault, machine) => (state.onMachine fun _ => machine).abort fault
  | none =>
      .next { state with
        scope := { state.scope with frame }
        suspended := waiting :: state.suspended
        control := .running }

/-- Reports that there is no definition of a name; no line is at fault. -/
def reportMissing (state : State) (entry : String) : State :=
  state.onMachine (·.report 0 ⟨.error, Effect.entryMissing entry, .entryPointNotFound⟩)

def definitionFrame (script : Script) (entry : String) (args : List String) (line : Nat) :
    Frame :=
  ⟨entry, args, .empty, Cursor.start.advance script line⟩

/-- Calls a definition. If there is none, the call has no effect but that its value is lost. -/
def call (script : Script) (keyword entry : String) (args : List String) (state : State) : Step :=
  match script.entryLine? entry with
  | none => .next ((state.reportMissing entry).keepReturned nullText)
  | some line =>
      state.enter (definitionFrame script entry args line)
        (.caller state.scope.frame (.call keyword))

/-- Starts a pass of a loop whose body is a definition; without the definition the loop ends. -/
def startPass (script : Script) (loop : ExternalLoop) (state : State) : Step :=
  match script.entryLine? loop.body with
  | none =>
      .next ((state.reportMissing loop.body).report .error
        s!"{loop.kind.keyword} statement failed to execute." .loop)
  | some line =>
      state.enter (definitionFrame script loop.body [] line)
        (.caller state.scope.frame (.pass loop))

/-- Goes on with a loop whose body is a definition: another pass, or the end of the loop. -/
def continueExternal (script : Script) (loop : ExternalLoop) (state : State) : Step :=
  match loop.plan with
  | .count 0 => .next state
  | .count (left + 1) => state.startPass script { loop with plan := .count left }
  | .condition header =>
      match loop.kind.condition true header state.scope with
      | .ok true scope => { state with scope }.startPass script loop
      | .ok false scope => .next { state with scope }
      | .error fault scope => { state with scope }.instructionFault loop.kind.keyword .internal fault

def startBody (script : Script) (loop : InlineLoop) (state : State) : Step :=
  state.enter { state.scope.frame with cursor := Cursor.start.advance script loop.header }
    (.owner state.scope.frame.cursor loop)

def leaveLoop (script : Script) (loop : InlineLoop) (endLine : Option Nat) (state : State) :
    Step :=
  let jump : Action Unit :=
    match endLine with
    | some line => Effect.jumpTo script line
    | none => do let _ ← Effect.jumpOut script loop.kind.marker loop.kind.closer []
  match jump state.scope with
  | .ok _ scope => .next { state with scope }
  | .error fault scope => { state with scope }.instructionFault loop.kind.keyword .internal fault

/-- Goes on with an inline loop: another pass, or the end of the loop. -/
def continueInline (script : Script) (loop : InlineLoop) (state : State) : Step :=
  match loop.plan with
  | .count 0 => state.leaveLoop script loop loop.endLine
  | .count (left + 1) => state.startBody script { loop with plan := .count left }
  | .condition header =>
      match loop.kind.condition false header state.scope with
      | .ok true scope => { state with scope }.startBody script loop
      | .ok false scope => { state with scope }.leaveLoop script loop loop.endLine
      | .error fault scope => { state with scope }.instructionFault loop.kind.keyword .internal fault

def openInline (script : Script) (loop : InlineLoop) (entered : Bool) (state : State) : Step :=
  let entry := state.scope.frame.entry
  match script.entryLine? entry with
  | none =>
      (state.reportMissing entry).abort (.failure
        ⟨.entryPointNotFound, Effect.entryMissing entry, Code.entryPointNotFound.number, some 0,
          some entry⟩)
  | some _ => if entered then state.startBody script loop else state.continueInline script loop

def follow (script : Script) (keyword : String) (flow : Flow) (state : State) : Step :=
  match flow with
  | .next => .next state
  | .leave signal => .next { state with control := .leaving signal }
  | .call entry args => state.call script keyword entry args
  | .external loop entered =>
      if entered then state.startPass script loop else state.continueExternal script loop
  | .inline loop entered => state.openInline script loop entered

def dispatch (script : Script) (line : Line) (pieces : List Piece) (args : List String)
    (state : State) : Step :=
  match state.scope.machine.lookup? line.keyword with
  | none =>
      match line.tokens with
      | [] => state.lineFault (.exception .missingArgument)
      | name :: _ =>
          let message := s!"Instruction {name} is not recognized."
          let scope := state.scope.reportFailure message .unrecognizedInstruction
          { state with scope }.abort (.failure
            (scope.failure .unrecognizedInstruction message .unrecognizedInstruction))
  | some spec =>
      match spec.arityProblem? args.length with
      | some problem => .next (state.report .error problem .missingArguments)
      | none =>
          match spec.action.perform script state.inBody line.number pieces args state.scope with
          | .ok flow scope => { state with scope }.follow script spec.name flow
          | .error fault scope =>
              { state with scope }.instructionFault spec.name (Meaning.exceptionCode spec.origin)
                fault

def executePieces (script : Script) (line : Line) (pieces : List Piece) (state : State) : Step :=
  match Reference.resolveAll pieces state.scope with
  | .ok args scope => { state with scope }.dispatch script line pieces args
  | .error fault scope => { state with scope }.lineFault fault

/-- Executes a line: its arguments are read, then its instruction is carried out. A line with too
many arguments is reported and nothing else happens. -/
def execute (script : Script) (line : Line) (state : State) : Step :=
  match state.scope.machine.settings.maxArgs with
  | none =>
      if (piecesOf line.tokens).isEmpty then state.executePieces script line []
      else state.lineFault (.exception .incomparable)
  | some limit =>
      match pieces? limit line.tokens with
      | .error fault => .next (state.report .error fault.message .argumentCapacity)
      | .ok pieces => state.executePieces script line pieces

def record (line : Line) (state : State) : State :=
  let machine := state.scope.machine
  if machine.settings.tracing then
    state.onMachine fun machine =>
      { machine with
        trace := ⟨state.depth, state.scope.frame.entry, line.number, machine.compareFlag,
          machine.returned⟩ :: machine.trace }
  else state

/-- Reads the next line and executes it; at the end of the script the frame ends. -/
def advance (script : Script) (state : State) : Step :=
  let cursor := state.scope.frame.cursor.read script
  let state := state.moveTo cursor
  match cursor.text with
  | none => .next { state with control := .leaving (.returned nullText) }
  | some text =>
      if isSkippable text then .next state
      else if isDirective text then
        .next (state.onMachine fun machine => Directive.apply machine cursor.line text)
      else
        let line := Line.ofText cursor.line text
        let state := state.record line
        let (machine, fault) := state.scope.machine.announce state.currentLine
          (.line line.number line.keyword line.statement)
        let state := state.onMachine fun _ => machine
        match fault with
        | some fault => state.abort fault
        | none => state.execute script line

def afterPass (script : Script) (loop : ExternalLoop) (signal : Signal) (state : State) : Step :=
  match signal with
  | .broken _ => .next (state.report .info "Break statement" .loop)
  | .continued _ =>
      (state.report .info "Continue statement" .loop).continueExternal script loop
  | _ => state.continueExternal script loop

def afterBody (script : Script) (loop : InlineLoop) (signal : Signal) (state : State) : Step :=
  match signal with
  | .resume line value =>
      (state.keepReturned value).continueInline script { loop with endLine := some line }
  | .continued value =>
      ((state.report .info "Continue statement" .loop).keepReturned value).continueInline
        script loop
  | .returned _ =>
      .next { state.report .info "Return statement" .loop with control := .leaving signal }
  | .broken value =>
      ((state.report .info "Break statement" .loop).keepReturned value).leaveLoop script loop none

def handOver (script : Script) (signal : Signal) (state : State) : Step :=
  match state.suspended with
  | [] => .stop (.finished (some signal)) state
  | waiting :: rest =>
      let frame := waiting.frame state.scope.frame
      let below : State :=
        { state with
          scope := { state.scope with frame }
          suspended := rest
          control := .running }
      match waiting with
      | .caller _ (.call _) => .next (below.keepReturned signal.value)
      | .caller _ (.pass loop) => (below.keepReturned signal.value).afterPass script loop signal
      | .owner _ loop => below.afterBody script loop signal

def step (script : Script) (state : State) : Step :=
  match state.control with
  | .leaving signal => state.handOver script signal
  | .running =>
      if state.oneLine && state.suspended.isEmpty then .stop (.finished none) state
      else state.advance script

/-- Runs for at most so many steps; `none` if the run has not ended by then. -/
def run (script : Script) : (fuel : Nat) → State → Option (Ending × State)
  | 0, _ => none
  | fuel + 1, state =>
      match state.step script with
      | .next state => run script fuel state
      | .stop ending state => some (ending, state)

end State

end LineScript
