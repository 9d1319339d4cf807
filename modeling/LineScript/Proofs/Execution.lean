import LineScript.Machine.Step
import LineScript.Proofs.Argument.Count
import LineScript.Proofs.Block.Syntax
import LineScript.Proofs.Instruction

/-!
What the functions that make up a step come to, said once for each of them. A step reads the next
line or hands a signal over; a line is refused, or its instruction is carried out or fails; a loop is
left for a line below, or there is none; a frame is refused when too many are active. What holds along
a run is derived from these cases alone.
-/

namespace LineScript

open LineScript.Action

/-! ## Frames and handlers -/

namespace Machine

variable {first second : Machine}

theorem kept_report (machine : Machine) (line : Int) (note : Note) :
    machine.Kept (machine.report line note) :=
  ⟨rfl, rfl, rfl, rfl, rfl, rfl, rfl, List.suffix_rfl⟩

inductive RefusesFrame (machine : Machine) (depth line : Nat) : Fault → Machine → Prop where
  | unlimited (unset : machine.settings.maxDepth = none) :
      RefusesFrame machine depth line (.exception .incomparable) machine
  | deep {limit : Int} (limited : machine.settings.maxDepth = some limit) (deep : limit ≤ depth) :
      RefusesFrame machine depth line (.halt Signal.abnormalCode)
        (machine.report line
          ⟨.error, s!"Maximum nesting depth of {limit} exceeded.", .depthExceeded⟩)

theorem checkDepth_some {machine after : Machine} {depth line : Nat} {fault : Fault}
    (refused : machine.checkDepth depth line = some (fault, after)) :
    machine.RefusesFrame depth line fault after := by
  unfold checkDepth at refused
  split at refused
  · next unset =>
      cases refused
      exact .unlimited unset
  · next limited =>
      split at refused
      · next deep =>
          cases refused
          exact .deep limited deep
      · cases refused

theorem checkDepth_none {machine : Machine} {depth line : Nat}
    (free : machine.checkDepth depth line = none) :
    ∃ limit : Int, machine.settings.maxDepth = some limit ∧ (depth : Int) < limit := by
  unfold checkDepth at free
  split at free
  · cases free
  · next limit limited =>
      split at free
      · cases free
      · next room => exact ⟨limit, limited, Int.lt_of_not_ge room⟩

theorem kept_checkDepth {machine after : Machine} {depth line : Nat} {fault : Fault}
    (refused : machine.checkDepth depth line = some (fault, after)) : machine.Kept after := by
  cases checkDepth_some refused with
  | unlimited unset => exact .refl machine
  | deep limited deep => exact machine.kept_report _ _

/-- Handlers of an event change nothing of the machine but what they have recorded, and they look
outside. -/
theorem callHandlers_events (machine : Machine) (line : Nat) (detail : EventDetail)
    (handlers : List (Handler HookBehavior)) :
    ∃ looks events, (machine.callHandlers line detail handlers).1 =
      { machine with console := machine.console.after looks, events } := by
  induction handlers generalizing machine with
  | nil => exact ⟨0, _, rfl⟩
  | cons handler rest ih =>
      unfold callHandlers
      dsimp only
      split
      · obtain ⟨looks, events, same⟩ := ih (machine.looked.recorded detail
          (handler.action.hear machine.sight).1)
        exact ⟨looks + 1, events, same⟩
      · exact ⟨1, _, rfl⟩

theorem kept_events (machine : Machine) (looks : Nat) (events : List EventRecord) :
    machine.Kept { machine with console := machine.console.after looks, events } :=
  ⟨rfl, rfl, rfl, rfl, rfl, rfl, rfl, List.suffix_rfl⟩

theorem kept_trace (machine : Machine) (trace : List LineRecord) :
    machine.Kept { machine with trace } :=
  ⟨rfl, rfl, rfl, rfl, rfl, rfl, rfl, List.suffix_rfl⟩

theorem kept_callHandlers (machine : Machine) (line : Nat) (detail : EventDetail)
    (handlers : List (Handler HookBehavior)) :
    machine.Kept (machine.callHandlers line detail handlers).1 := by
  obtain ⟨looks, events, same⟩ := machine.callHandlers_events line detail handlers
  rw [same]
  exact machine.kept_events looks events

theorem announce_plain {machine : Machine} (silent : machine.services = .empty) (line : Nat)
    (detail : EventDetail) : machine.announce line detail = (machine, none) := by
  rw [announce, silent]
  rfl

theorem Kept.lookup? (kept : first.Kept second) (keyword : String) :
    second.lookup? keyword = first.lookup? keyword := by
  unfold Machine.lookup?
  rw [kept.extended, kept.graphics, kept.services]

end Machine

/-- What no directive ends holds after those on some lines. -/
theorem Directive.applyLines_keeps (property : Machine → Prop)
    (keeps : ∀ {machine : Machine} (line : Nat) (text : String), property machine →
      property (apply machine line text))
    {machine : Machine} (holds : property machine) (number : Nat) (texts : List String) :
    property (applyLines machine number texts) := by
  induction texts generalizing machine number with
  | nil => exact holds
  | cons text rest ih =>
      unfold applyLines
      split
      · exact ih (keeps _ _ holds) _
      · exact ih holds _

/-! ## Leaving a loop -/

/-- The action with which an inline loop is left for the line of its end marker. -/
def InlineLoop.exit (script : Script) (loop : InlineLoop) : Option Nat → Action Unit
  | some line => Effect.jumpTo script line
  | none => do let _ ← Effect.jumpOut script loop.kind.marker loop.kind.closer []

theorem State.leaveLoop_eq (script : Script) (loop : InlineLoop) (endLine : Option Nat)
    (state : State) : state.leaveLoop script loop endLine =
      match loop.exit script endLine state.scope with
      | .ok _ scope => .next { state with scope }
      | .error fault scope =>
          State.instructionFault { state with scope } loop.kind.keyword .internal fault := by
  cases endLine <;> rfl

namespace State

variable {script : Script} {now : State}

/-- How the owner of an inline loop leaves it: it moves to a line, or cannot. -/
inductive LeavesLoop (script : Script) (now : State) (loop : InlineLoop) (endLine : Option Nat) :
    Prop where
  | moves {target : Nat} (forward : now.scope.frame.cursor.line ≤ target)
      (place : endLine = some target ∨ endLine = none ∧
        script.blockEnd? now.scope.frame.cursor.line loop.kind.marker loop.kind.closer [] =
          some target)
      (left : now.leaveLoop script loop endLine = .next { now with
        scope := now.scope.movedTo (now.scope.frame.cursor.advance script target) })
  | backward {target : Nat} (place : endLine = some target)
      (above : target < now.scope.frame.cursor.line)
      (left : now.leaveLoop script loop endLine =
        State.instructionFault { now with scope := now.scope } loop.kind.keyword .internal
          (.exception (.backwardMove ⟨now.scope.frame.cursor.line, target⟩)))
  | lost (place : endLine = none)
      (missing : script.blockEnd? now.scope.frame.cursor.line loop.kind.marker loop.kind.closer
        [] = none)
      (left : now.leaveLoop script loop endLine =
        State.instructionFault { now with
          scope := now.scope.reportFailure s!"Could not find {loop.kind.closer} to jump to."
            .jumpNotFound } loop.kind.keyword .internal
          (.failure (Effect.jumpFailure now.scope loop.kind.closer)))

theorem leavesLoop (script : Script) (now : State) (loop : InlineLoop) (endLine : Option Nat) :
    now.LeavesLoop script loop endLine := by
  cases endLine with
  | some target =>
      by_cases forward : now.scope.frame.cursor.line ≤ target
      · refine .moves forward (.inl rfl) ?_
        rw [leaveLoop_eq, InlineLoop.exit, Effect.jumpTo_forward forward]
      · have above := Nat.lt_of_not_le forward
        refine .backward rfl above ?_
        rw [leaveLoop_eq, InlineLoop.exit, Effect.jumpTo_backward above]
  | none =>
      cases found : script.blockEnd? now.scope.frame.cursor.line loop.kind.marker loop.kind.closer
          [] with
      | some target =>
          refine .moves (Nat.le_of_lt (Script.blockEnd?_bounds found).1) (.inr ⟨rfl, found⟩) ?_
          rw [leaveLoop_eq, InlineLoop.exit, Effect.jumpOut_bind_found found]
          rfl
      | none =>
          refine .lost rfl found ?_
          rw [leaveLoop_eq, InlineLoop.exit, Effect.jumpOut_bind_lost found]

end State

/-! ## A line -/

def Settings.Allows (settings : Settings) (tokens : List String) : Prop :=
  ((piecesOf tokens).length : Int) ≤ max (settings.maxArgs.getD 0) 0

instance (settings : Settings) (tokens : List String) : Decidable (settings.Allows tokens) :=
  inferInstanceAs (Decidable (_ ≤ _))

theorem Settings.Allows.fits {settings : Settings} {tokens : List String} {limit : Int}
    (allowed : settings.Allows tokens) (limited : settings.maxArgs = some limit) :
    pieces? limit tokens = .ok (piecesOf tokens) := by
  unfold Settings.Allows at allowed
  rw [limited] at allowed
  exact pieces?_of_le allowed

theorem Settings.Allows.limited {settings : Settings} {tokens : List String}
    (allowed : settings.Allows tokens) (given : piecesOf tokens ≠ []) :
    ∃ limit, settings.maxArgs = some limit := by
  cases limited : settings.maxArgs with
  | some limit => exact ⟨limit, rfl⟩
  | none =>
      unfold Settings.Allows at allowed
      rw [limited, Option.getD_none] at allowed
      exact absurd (List.eq_nil_of_length_eq_zero (by omega)) given

theorem Settings.Allows.limited_of_error {settings : Settings} {tokens : List String}
    {scope last : Scope} {fault : Fault} (allowed : settings.Allows tokens)
    (unread : Reference.resolveAll (piecesOf tokens) scope = .error fault last) :
    ∃ limit, settings.maxArgs = some limit := by
  refine allowed.limited fun none => ?_
  rw [none] at unread
  cases unread

theorem Settings.allows_of_fits {settings : Settings} {tokens : List String} {limit : Int}
    {pieces : List Piece} (limited : settings.maxArgs = some limit)
    (fits : pieces? limit tokens = .ok pieces) : settings.Allows tokens := by
  unfold Settings.Allows
  rw [limited]
  rw [pieces?_eq] at fits
  split_ifs at fits with beyond
  exact Int.not_lt.mp beyond

namespace State

variable {script : Script} {line : Line} {now : State} {spec : Spec Meaning} {args : List String}
  {scope : Scope}

/-- A line comes to the instruction of its keyword: its arguments are read, which leaves the given
scope, and the instruction takes so many of them. -/
structure Meets (now : State) (line : Line) (spec : Spec Meaning) (args : List String)
    (scope : Scope) : Prop where
  allowed : now.scope.machine.settings.Allows line.tokens
  resolved : Reference.resolveAll (piecesOf line.tokens) now.scope = .ok args scope
  found : scope.machine.lookup? line.keyword = some spec
  supplied : spec.arityProblem? args.length = none

def performed (script : Script) (now : State) (line : Line) (spec : Spec Meaning)
    (args : List String) (scope : Scope) : EStateM.Result Fault Scope Flow :=
  spec.action.perform script now.inBody line.number (piecesOf line.tokens) args scope

def settle (script : Script) (now : State) (spec : Spec Meaning) :
    EStateM.Result Fault Scope Flow → Step
  | .ok flow scope => State.follow script spec.name flow { now with scope }
  | .error fault scope =>
      State.instructionFault { now with scope } spec.name (Meaning.exceptionCode spec.origin) fault

theorem execute_allowed (allowed : now.scope.machine.settings.Allows line.tokens) :
    now.execute script line = now.executePieces script line (piecesOf line.tokens) := by
  unfold execute
  cases limited : now.scope.machine.settings.maxArgs with
  | none =>
      have none : piecesOf line.tokens = [] := by
        by_contra given
        obtain ⟨limit, known⟩ := Settings.Allows.limited allowed given
        cases limited.symm.trans known
      simp only [none, List.isEmpty_nil, if_true]
  | some limit =>
      dsimp only
      rw [Settings.Allows.fits allowed limited]

theorem Meets.execute (met : now.Meets line spec args scope) :
    now.execute script line =
      now.settle script spec (now.performed script line spec args scope) := by
  rw [execute_allowed met.allowed, executePieces, met.resolved]
  dsimp only
  unfold dispatch
  rw [met.found]
  dsimp only
  rw [met.supplied]
  dsimp only
  change (match now.performed script line spec args scope with
    | .ok flow scope => _
    | .error fault scope => _) = _
  cases now.performed script line spec args scope <;> rfl

theorem execute_read (allowed : now.scope.machine.settings.Allows line.tokens)
    (resolved : Reference.resolveAll (piecesOf line.tokens) now.scope = .ok args scope) :
    now.execute script line =
      State.dispatch script line (piecesOf line.tokens) args { now with scope } := by
  rw [execute_allowed allowed, executePieces, resolved]

/-- What becomes of a line. It has too many arguments, or they cannot be counted; one of them cannot
be read; it has no instruction that takes so many; or its instruction is carried out or fails. -/
inductive Execution (script : Script) (now : State) (line : Line) : Prop where
  | unlimited (unset : now.scope.machine.settings.maxArgs = none)
      (execute : now.execute script line = now.lineFault (.exception .incomparable))
  | excess {limit : Int} (limited : now.scope.machine.settings.maxArgs = some limit)
      (execute : now.execute script line =
        .next (now.report .error (TooManyArguments.message ⟨limit⟩) .argumentCapacity))
  | unread {fault : Fault} {scope : Scope}
      (allowed : now.scope.machine.settings.Allows line.tokens)
      (resolved : Reference.resolveAll (piecesOf line.tokens) now.scope = .error fault scope)
      (execute : now.execute script line = State.lineFault { now with scope } fault)
  | unnamed {args : List String} {scope : Scope}
      (allowed : now.scope.machine.settings.Allows line.tokens)
      (resolved : Reference.resolveAll (piecesOf line.tokens) now.scope = .ok args scope)
      (tokens : line.tokens = [])
      (execute : now.execute script line =
        State.lineFault { now with scope } (.exception .missingArgument))
  | unknown {args : List String} {scope : Scope} {name : String}
      (allowed : now.scope.machine.settings.Allows line.tokens)
      (resolved : Reference.resolveAll (piecesOf line.tokens) now.scope = .ok args scope)
      (unknown : scope.machine.lookup? line.keyword = none)
      (execute : now.execute script line =
        let message := s!"Instruction {name} is not recognized."
        let after := scope.reportFailure message .unrecognizedInstruction
        State.abort { now with scope := after } (.failure
          (after.failure .unrecognizedInstruction message .unrecognizedInstruction)))
  | unsupplied {args : List String} {scope : Scope} {spec : Spec Meaning} {problem : String}
      (allowed : now.scope.machine.settings.Allows line.tokens)
      (resolved : Reference.resolveAll (piecesOf line.tokens) now.scope = .ok args scope)
      (found : scope.machine.lookup? line.keyword = some spec)
      (refused : spec.arityProblem? args.length = some problem)
      (execute : now.execute script line =
        .next (State.report { now with scope } .error problem .missingArguments))
  | performs {args : List String} {scope after : Scope} {spec : Spec Meaning} {flow : Flow}
      (met : now.Meets line spec args scope)
      (performed : now.performed script line spec args scope = .ok flow after)
      (execute : now.execute script line =
        State.follow script spec.name flow { now with scope := after })
  | fails {args : List String} {scope after : Scope} {spec : Spec Meaning} {fault : Fault}
      (met : now.Meets line spec args scope)
      (performed : now.performed script line spec args scope = .error fault after)
      (execute : now.execute script line =
        State.instructionFault { now with scope := after } spec.name
          (Meaning.exceptionCode spec.origin) fault)

theorem execution (script : Script) (now : State) (line : Line) : now.Execution script line := by
  by_cases allowed : now.scope.machine.settings.Allows line.tokens
  · cases resolved : Reference.resolveAll (piecesOf line.tokens) now.scope with
    | error fault scope =>
        refine .unread allowed resolved ?_
        rw [execute_allowed allowed, executePieces, resolved]
    | ok args scope =>
        have reads : now.execute script line = _ := execute_read allowed resolved
        cases found : scope.machine.lookup? line.keyword with
        | none =>
            cases tokens : line.tokens with
            | nil =>
                refine .unnamed allowed resolved tokens (reads.trans ?_)
                simp only [dispatch, found, tokens]
            | cons name rest =>
                refine @Execution.unknown _ _ _ args scope name allowed resolved found (reads.trans ?_)
                simp only [dispatch, found, tokens]
        | some spec =>
            cases supplied : spec.arityProblem? args.length with
            | some problem =>
                refine .unsupplied allowed resolved found supplied (reads.trans ?_)
                simp only [dispatch, found, supplied]
            | none =>
                have met : now.Meets line spec args scope := ⟨allowed, resolved, found, supplied⟩
                have settles : now.execute script line = _ := met.execute
                cases performed : now.performed script line spec args scope with
                | ok flow after =>
                    rw [performed] at settles
                    exact .performs met performed settles
                | error fault after =>
                    rw [performed] at settles
                    exact .fails met performed settles
  · unfold Settings.Allows at allowed
    cases limited : now.scope.machine.settings.maxArgs with
    | none =>
        have given : (piecesOf line.tokens).isEmpty = false := by
          cases all : piecesOf line.tokens with
          | nil => simp [limited, all] at allowed
          | cons piece rest => rfl
        refine .unlimited limited ?_
        simp only [execute, limited, given, if_neg Bool.false_ne_true]
    | some limit =>
        rw [limited] at allowed
        have beyond : max limit 0 < ((piecesOf line.tokens).length : Int) := Int.not_le.mp allowed
        refine .excess limited ?_
        simp only [execute, limited, pieces?_eq, if_pos beyond]

end State

/-! ## The next line -/

/-- What hooks are told of a line that is about to be executed. -/
def Line.detail (line : Line) : EventDetail :=
  .line line.number line.keyword line.statement

namespace State

variable {script : Script} {state : State}

theorem record_eq (line : Line) :
    ∃ machine, state.scope.machine.Kept machine ∧
      state.record line = state.onMachine fun _ => machine := by
  unfold record
  dsimp only
  split
  · exact ⟨_, state.scope.machine.kept_trace _, rfl⟩
  · exact ⟨state.scope.machine, .refl _, rfl⟩

theorem services_record (state : State) (line : Line) :
    (state.record line).scope.machine.services = state.scope.machine.services := by
  obtain ⟨machine, kept, recorded⟩ := state.record_eq line
  rw [recorded]
  exact kept.services

def onLine (state : State) (text : String) : State :=
  state.moveTo ⟨state.scope.frame.cursor.line + 1, some text⟩

theorem read_line {text : String}
    (found : script.line? (state.scope.frame.cursor.line + 1) = some text) :
    state.scope.frame.cursor.read script = ⟨state.scope.frame.cursor.line + 1, some text⟩ := by
  rw [Cursor.read, if_pos (Script.line?_lt found), found]

theorem read_end (last : script.lineCount ≤ state.scope.frame.cursor.line) :
    state.scope.frame.cursor.read script = ⟨state.scope.frame.cursor.line, none⟩ := by
  rw [Cursor.read, if_neg (by omega)]

theorem advance_end (last : script.lineCount ≤ state.scope.frame.cursor.line) :
    state.advance script = .next { state.moveTo ⟨state.scope.frame.cursor.line, none⟩ with
      control := .leaving (.returned nullText) } := by
  unfold advance
  rw [read_end last]

theorem advance_blank {text : String}
    (found : script.line? (state.scope.frame.cursor.line + 1) = some text)
    (blank : isSkippable text = true) : state.advance script = .next (state.onLine text) := by
  unfold advance
  rw [read_line found]
  dsimp only
  rw [if_pos blank]
  rfl

theorem advance_directive {text : String}
    (found : script.line? (state.scope.frame.cursor.line + 1) = some text)
    (filled : isSkippable text = false) (directive : isDirective text = true) :
    state.advance script = .next ((state.onLine text).onMachine fun machine =>
      Directive.apply machine ((state.scope.frame.cursor.line + 1 : Nat)) text) := by
  unfold advance
  rw [read_line found]
  dsimp only
  rw [if_neg (by simp [filled]), if_pos directive]
  rfl

def recorded (state : State) (text : String) : State :=
  (state.onLine text).record (Line.ofText (state.scope.frame.cursor.line + 1) text)

def announced (state : State) (text : String) : Machine × Option Fault :=
  (state.recorded text).scope.machine.announce (state.recorded text).currentLine
    (Line.ofText (state.scope.frame.cursor.line + 1) text).detail

theorem advance_instruction {text : String}
    (found : script.line? (state.scope.frame.cursor.line + 1) = some text)
    (instruction : LineText.isInstruction text = true) :
    state.advance script =
      let ready := (state.recorded text).onMachine fun _ => (state.announced text).1
      match (state.announced text).2 with
      | some fault => ready.abort fault
      | none => ready.execute script (Line.ofText (state.scope.frame.cursor.line + 1) text) := by
  simp only [LineText.isInstruction, Bool.not_eq_true', Bool.or_eq_false_iff] at instruction
  unfold advance
  rw [read_line found]
  dsimp only
  rw [if_neg (by simp [instruction.1]), if_neg (by simp [instruction.2])]
  rfl

/-- The state in which the instruction of the next line is carried out. -/
def told (state : State) (text : String) : State :=
  (state.recorded text).onMachine fun _ => (state.announced text).1

theorem advance_refused {text : String} {fault : Fault}
    (found : script.line? (state.scope.frame.cursor.line + 1) = some text)
    (instruction : LineText.isInstruction text = true)
    (heard : (state.announced text).2 = some fault) :
    state.advance script = (state.told text).abort fault := by
  rw [advance_instruction found instruction, heard]
  rfl

theorem advance_told {text : String}
    (found : script.line? (state.scope.frame.cursor.line + 1) = some text)
    (instruction : LineText.isInstruction text = true)
    (silent : (state.announced text).2 = none) :
    state.advance script = (state.told text).execute script
      (Line.ofText (state.scope.frame.cursor.line + 1) text) := by
  rw [advance_instruction found instruction, silent]
  rfl

theorem told_eq (state : State) (text : String) :
    state.told text = (state.onLine text).onMachine fun _ => (state.announced text).1 := by
  obtain ⟨machine, -, recorded⟩ :=
    (state.onLine text).record_eq (Line.ofText (state.scope.frame.cursor.line + 1) text)
  unfold told State.recorded
  rw [recorded]
  rfl

theorem kept_announced (state : State) (text : String) :
    (state.onLine text).scope.machine.Kept (state.announced text).1 := by
  obtain ⟨machine, kept, recorded⟩ :=
    (state.onLine text).record_eq (Line.ofText (state.scope.frame.cursor.line + 1) text)
  have heard : (state.recorded text).scope.machine.Kept (state.announced text).1 :=
    Machine.kept_callHandlers _ _ _ _
  unfold State.recorded at heard
  rw [recorded] at heard
  exact kept.trans heard

theorem announced_plain (plain : state.scope.machine.Plain) (text : String) :
    (state.announced text).2 = none := by
  obtain ⟨machine, kept, recorded⟩ :=
    (state.onLine text).record_eq (Line.ofText (state.scope.frame.cursor.line + 1) text)
  unfold announced State.recorded
  rw [recorded]
  dsimp only [onMachine]
  rw [Machine.announce_plain (kept.plain plain).services]

/-- What there is to do in a frame that goes on: the script is at its end, or the next line is blank, a
directive or an instruction. -/
inductive Advances (script : Script) (state : State) : Prop where
  | ends (last : script.lineCount ≤ state.scope.frame.cursor.line)
      (advance : state.advance script = .next
        { state.moveTo ⟨state.scope.frame.cursor.line, none⟩ with
          control := .leaving (.returned nullText) })
  | skips {text : String} (found : script.line? (state.scope.frame.cursor.line + 1) = some text)
      (other : LineText.isInstruction text = false)
      (advance : state.advance script = .next (state.onLine text))
  | directs {text : String} (found : script.line? (state.scope.frame.cursor.line + 1) = some text)
      (other : LineText.isInstruction text = false) (filled : isSkippable text = false)
      (directive : isDirective text = true)
      (advance : state.advance script = .next ((state.onLine text).onMachine fun machine =>
        Directive.apply machine ((state.scope.frame.cursor.line + 1 : Nat)) text))
  | executes {text : String} (found : script.line? (state.scope.frame.cursor.line + 1) = some text)
      (executed : LineText.isInstruction text = true)

theorem advances (script : Script) (state : State) : state.Advances script := by
  by_cases last : script.lineCount ≤ state.scope.frame.cursor.line
  · exact .ends last (advance_end last)
  obtain ⟨text, found⟩ := Script.line?_isSome (Nat.lt_of_not_le last)
  cases executed : LineText.isInstruction text with
  | true => exact .executes found executed
  | false =>
      cases blank : isSkippable text with
      | true => exact .skips found executed (advance_blank found blank)
      | false =>
          have directive : isDirective text = true := by
            simpa [LineText.isInstruction, blank] using executed
          exact .directs found executed blank directive (advance_directive found blank directive)

/-! ## A step -/

def below (state : State) (waiting : Suspended) (rest : List Suspended) : State :=
  { state with
    scope := { state.scope with frame := waiting.frame state.scope.frame }
    suspended := rest
    control := .running }

theorem step_running (running : state.control = .running) (whole : state.oneLine = false) :
    state.step script = state.advance script := by
  unfold step
  rw [running, whole]
  rfl

theorem step_leaving {signal : Signal} (leaving : state.control = .leaving signal) :
    state.step script = state.handOver script signal := by
  unfold step
  rw [leaving]

/-- A step goes to the next line or hands a signal over, unless a line on its own is over. -/
inductive Steps (script : Script) (state : State) : Prop where
  | rests (running : state.control = .running) (alone : state.suspended = [])
      (step : state.step script = .stop (.finished none) state)
  | advances (running : state.control = .running) (step : state.step script = state.advance script)
  | leaves {signal : Signal} (leaving : state.control = .leaving signal)
      (step : state.step script = state.handOver script signal)

theorem steps (script : Script) (state : State) : state.Steps script := by
  cases control : state.control with
  | leaving signal => exact .leaves control (step_leaving control)
  | running =>
      by_cases alone : (state.oneLine && state.suspended.isEmpty) = true
      · have last : state.suspended = [] := by simp_all
        refine .rests control last ?_
        unfold step
        rw [control]
        exact if_pos alone
      · refine .advances control ?_
        unfold step
        rw [control]
        exact if_neg alone

theorem handOver_alone (alone : state.suspended = []) (signal : Signal) :
    state.handOver script signal = .stop (.finished (some signal)) state := by
  unfold handOver
  rw [alone]

theorem handOver_call {signal : Signal} {frame : Frame} {keyword : String}
    {rest : List Suspended} (waits : state.suspended = .caller frame (.call keyword) :: rest) :
    state.handOver script signal =
      .next ((state.below (.caller frame (.call keyword)) rest).keepReturned signal.value) := by
  unfold handOver
  rw [waits]
  rfl

theorem handOver_pass {signal : Signal} {frame : Frame} {loop : ExternalLoop}
    {rest : List Suspended} (waits : state.suspended = .caller frame (.pass loop) :: rest) :
    state.handOver script signal =
      ((state.below (.caller frame (.pass loop)) rest).keepReturned signal.value).afterPass script
        loop signal := by
  unfold handOver
  rw [waits]
  rfl

theorem handOver_body {signal : Signal} {cursor : Cursor} {loop : InlineLoop}
    {rest : List Suspended} (waits : state.suspended = .owner cursor loop :: rest) :
    state.handOver script signal =
      (state.below (.owner cursor loop) rest).afterBody script loop signal := by
  unfold handOver
  rw [waits]
  rfl

end State

end LineScript
