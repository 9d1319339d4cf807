import LineScript.Proofs.Duality.Alike
import LineScript.Proofs.Header
import Mathlib.Data.List.Forall2

/-!
Two runs in step. Two scripts mirror each other under a numbering of lines if definitions begin at
corresponding lines. States are in step when they are alike and every frame is at the line that
corresponds to the line of the other one; a loop is left at corresponding lines if the searches for
its end marker agree.
-/

namespace LineScript

open LineScript.Action

/-- What a line can ask for when it is executed: the end of a block of the kind, or an alternate. -/
inductive LineText.Seeks (text : String) : BlockKind → List String → Prop where
  | branch (header : keyword text = ifMarker.keyword) : Seeks text .conditional ["ELSE"]
  | divider (divides : keyword text = BlockKind.divider) : Seeks text .conditional []
  | loop (kind : LoopKind) (opened : (BlockKind.loop kind).OpenedBy text) :
      Seeks text (.loop kind) []

/-- Two scripts in which the definitions begin at lines with corresponding numbers. -/
structure Mirror where
  first : Script
  second : Script
  /-- The line of the second script that corresponds to a line of the first one. -/
  line : Nat → Nat
  inside : ∀ {place : Nat}, place ≤ first.lineCount → line place ≤ second.lineCount
  entryLine? : ∀ name, second.entryLine? name = (first.entryLine? name).map line

namespace Mirror

variable (mirror : Mirror)

/-! ## States in step -/

def Jumps (place : Nat) (kind : BlockKind) (alternates : List String) : Prop :=
  mirror.second.blockEnd? (mirror.line place) kind.marker kind.closer alternates =
    (mirror.first.blockEnd? place kind.marker kind.closer alternates).map mirror.line

def signal : Signal → Signal
  | .resume place value => .resume (mirror.line place) value
  | signal => signal

def control : Control → Control
  | .running => .running
  | .leaving signal => .leaving (mirror.signal signal)

def loop (loop : InlineLoop) : InlineLoop :=
  { loop with header := mirror.line loop.header, endLine := loop.endLine.map mirror.line }

def flow : Flow → Flow
  | .leave signal => .leave (mirror.signal signal)
  | .inline loop entered => .inline (mirror.loop loop) entered
  | flow => flow

inductive Waits : Suspended → Suspended → Prop where
  | caller {frame other : Frame} (wait : Wait) (alike : frame.unplaced = other.unplaced)
      (line : other.cursor.line = mirror.line frame.cursor.line) :
      Waits (.caller frame wait) (.caller other wait)
  | owner {cursor other : Cursor} (loop : InlineLoop) (line : other.line = mirror.line cursor.line)
      (jumps : mirror.Jumps cursor.line (.loop loop.kind) []) :
      Waits (.owner cursor loop) (.owner other (mirror.loop loop))

/-- The states are alike, and the frames that wait are at corresponding lines. -/
structure Alike (state other : State) : Prop where
  scope : state.scope.unplaced = other.scope.unplaced
  suspended : List.Forall₂ mirror.Waits state.suspended other.suspended
  control : other.control = mirror.control state.control
  floor : other.floor = state.floor
  whole : state.oneLine = false
  wholeOther : other.oneLine = false

/-- The states are alike, and all frames are at corresponding lines. -/
structure InStep (state other : State) : Prop extends mirror.Alike state other where
  line : other.scope.frame.cursor.line = mirror.line state.scope.frame.cursor.line

/-- Both steps lead to states in step, or they stop in the same way. -/
inductive Agree : Step → Step → Prop where
  | next {state other : State} (inStep : mirror.InStep state other) :
      Agree (.next state) (.next other)
  | finished {state other : State} (signal : Signal) (alike : mirror.Alike state other) :
      Agree (.stop (.finished (some signal)) state)
        (.stop (.finished (some (mirror.signal signal))) other)
  | failed {state other : State} {fault given : Fault} (faults : fault.unplaced = given.unplaced)
      (alike : mirror.Alike state other) :
      Agree (.stop (.failed fault) state) (.stop (.failed given) other)

variable {mirror} {state other : State} {scope last : Scope}

namespace Alike

theorem machine (alike : mirror.Alike state other) :
    state.scope.machine.unplaced = other.scope.machine.unplaced :=
  Scope.unplaced_machine alike.scope

theorem frame (alike : mirror.Alike state other) :
    state.scope.frame.unplaced = other.scope.frame.unplaced :=
  Scope.unplaced_frame alike.scope

theorem entry (alike : mirror.Alike state other) :
    state.scope.frame.entry = other.scope.frame.entry := by
  have same : state.scope.frame.unplaced.entry = other.scope.frame.unplaced.entry := by
    rw [alike.frame]
  exact same

theorem depth (alike : mirror.Alike state other) : state.depth = other.depth := by
  unfold State.depth
  rw [alike.floor, alike.whole, alike.wholeOther, alike.suspended.length_eq]

theorem inBody (alike : mirror.Alike state other) : state.inBody = other.inBody := by
  have suspended := alike.suspended
  unfold State.inBody
  cases waits : state.suspended with
  | nil =>
      rw [waits] at suspended
      rw [List.forall₂_nil_left_iff.mp suspended]
  | cons waiting rest =>
      rw [waits] at suspended
      obtain ⟨awaiting, below, corresponds, -, same⟩ := List.forall₂_cons_left_iff.mp suspended
      rw [same]
      cases corresponds <;> rfl

theorem inScope (alike : mirror.Alike state other) (scopes : scope.unplaced = last.unplaced) :
    mirror.Alike { state with scope } { other with scope := last } :=
  ⟨scopes, alike.suspended, alike.control, alike.floor, alike.whole, alike.wholeOther⟩

theorem onMachine (alike : mirror.Alike state other) {change others : Machine → Machine}
    (machines : (change state.scope.machine).unplaced = (others other.scope.machine).unplaced) :
    mirror.Alike (state.onMachine change) (other.onMachine others) :=
  alike.inScope (Scope.unplaced_mk machines alike.frame)

theorem abort (alike : mirror.Alike state other) {fault given : Fault}
    (faults : fault.unplaced = given.unplaced) :
    mirror.Agree (state.abort fault) (other.abort given) :=
  .failed faults alike

theorem abort_failure (alike : mirror.Alike state other) (scopes : scope.unplaced = last.unplaced)
    (kind : FailureKind) (message : String) (code : Code) :
    mirror.Agree
      (State.abort { state with scope := scope.reportFailure message code }
        (.failure ((scope.reportFailure message code).failure kind message code)))
      (State.abort { other with scope := last.reportFailure message code }
        (.failure ((last.reportFailure message code).failure kind message code))) := by
  have reported := Scope.unplaced_report scopes ⟨.error, message, code⟩
  exact (alike.inScope reported).abort (Scope.unplaced_failure reported kind message code)

end Alike

namespace InStep

theorem inScope (inStep : mirror.InStep state other) (scopes : scope.unplaced = last.unplaced)
    (line : last.frame.cursor.line = mirror.line scope.frame.cursor.line) :
    mirror.InStep { state with scope } { other with scope := last } :=
  ⟨inStep.toAlike.inScope scopes, line⟩

theorem kept (inStep : mirror.InStep state other) (scopes : scope.unplaced = last.unplaced)
    (kept : state.scope.Kept scope) (keptOther : other.scope.Kept last) :
    mirror.InStep { state with scope } { other with scope := last } :=
  inStep.inScope scopes (by rw [keptOther.cursor, kept.cursor, inStep.line])

theorem onMachine (inStep : mirror.InStep state other) {change others : Machine → Machine}
    (machines : (change state.scope.machine).unplaced = (others other.scope.machine).unplaced) :
    mirror.InStep (state.onMachine change) (other.onMachine others) :=
  ⟨inStep.toAlike.onMachine machines, inStep.line⟩

theorem report (inStep : mirror.InStep state other) (level : Level) (text : String) (code : Code) :
    mirror.InStep (state.report level text code) (other.report level text code) :=
  inStep.inScope (Scope.unplaced_report inStep.scope _) inStep.line

theorem reportMissing (inStep : mirror.InStep state other) (entry : String) :
    mirror.InStep (state.reportMissing entry) (other.reportMissing entry) :=
  inStep.onMachine (Machine.unplaced_report inStep.machine _ _ _)

theorem keepReturned (inStep : mirror.InStep state other) (value : String) :
    mirror.InStep (state.keepReturned value) (other.keepReturned value) :=
  inStep.onMachine (congrArg (fun machine => { machine with returned := value }) inStep.machine)

theorem leaving (inStep : mirror.InStep state other) (signal : Signal) :
    mirror.InStep { state with control := .leaving signal }
      { other with control := .leaving (mirror.signal signal) } :=
  ⟨⟨inStep.scope, inStep.suspended, rfl, inStep.floor, inStep.whole, inStep.wholeOther⟩, inStep.line⟩

theorem runIn (inStep : mirror.InStep state other) :
    mirror.InStep (state.runIn state.scope) (other.runIn other.scope) :=
  ⟨⟨inStep.scope, inStep.suspended, rfl, inStep.floor, inStep.whole, inStep.wholeOther⟩, inStep.line⟩

end InStep

theorem Waits.keyword {waiting awaiting : Suspended} (waits : mirror.Waits waiting awaiting) :
    waiting.keyword = awaiting.keyword := by
  cases waits <;> rfl

theorem Waits.frame {waiting awaiting : Suspended} (waits : mirror.Waits waiting awaiting)
    {frame later : Frame} (alike : frame.unplaced = later.unplaced) :
    (waiting.frame frame).unplaced = (awaiting.frame later).unplaced ∧
      (awaiting.frame later).cursor.line = mirror.line (waiting.frame frame).cursor.line := by
  cases waits with
  | caller wait frames line => exact ⟨frames, line⟩
  | owner loop line jumps => exact ⟨alike, line⟩

/-! ## Faults -/

theorem faults_cases {fault given : Fault} (faults : fault.unplaced = given.unplaced) :
    (∃ failure other, fault = .failure failure ∧ given = .failure other) ∨ given = fault := by
  cases fault <;> cases given <;> first
    | exact .inl ⟨_, _, rfl, rfl⟩
    | exact .inr faults.symm
    | cases faults

theorem agree_instructionFault (inStep : mirror.InStep state other) (name : String) (code : Code)
    {fault given : Fault} (faults : fault.unplaced = given.unplaced) :
    mirror.Agree (state.instructionFault name code fault)
      (other.instructionFault name code given) := by
  rcases faults_cases faults with ⟨failure, failureOther, rfl, rfl⟩ | rfl
  · exact inStep.abort faults
  cases given with
  | failure failure => exact inStep.abort rfl
  | halt code => exact inStep.abort rfl
  | unreadable text => exact .next (inStep.report _ _ _).runIn
  | exception exception => exact inStep.abort_failure inStep.scope _ _ _
  | interrupted => exact inStep.abort rfl

theorem agree_lineFault (alike : mirror.Alike state other) {fault given : Fault}
    (faults : fault.unplaced = given.unplaced) :
    mirror.Agree (state.lineFault fault) (other.lineFault given) := by
  rcases faults_cases faults with ⟨failure, failureOther, rfl, rfl⟩ | rfl
  · exact alike.abort faults
  cases given with
  | exception exception =>
      have suspended := alike.suspended
      unfold State.lineFault
      cases waits : state.suspended with
      | nil =>
          rw [waits] at suspended
          rw [List.forall₂_nil_left_iff.mp suspended]
          exact alike.abort rfl
      | cons waiting rest =>
          rw [waits] at suspended
          obtain ⟨awaiting, below, corresponds, -, same⟩ := List.forall₂_cons_left_iff.mp suspended
          rw [same]
          dsimp only
          rw [← corresponds.keyword]
          have scopes := Scope.unplaced_mk alike.machine (corresponds.frame alike.frame).1
          have reported := Scope.unplaced_report scopes
            ⟨.error, s!"{waiting.keyword} failed: {exception.message}", .internal⟩
          exact (alike.onMachine (Scope.unplaced_machine reported)).abort
            (Scope.unplaced_failure scopes _ _ _)
  | _ => exact alike.abort rfl

end Mirror

end LineScript
