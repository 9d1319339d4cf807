import LineScript.Proofs.Duality.Choice
import LineScript.Proofs.View.Program

/-!
Runs of the two ways to write a choice. A program begins alike in both scripts if every name is
defined at corresponding lines and the same directives stand above the definition that is run; it
then goes on in step and ends alike.
-/

namespace LineScript

open LineScript.Action

/-! ## Frames of states that are alike -/

namespace Mirror

variable {mirror : Mirror} {state other : State}

theorem unplaced_foldl_frame {waits awaits : List Suspended}
    (alike : List.Forall₂ mirror.Waits waits awaits) {frame later : Frame}
    (frames : frame.unplaced = later.unplaced) :
    (waits.foldl (fun frame waiting => waiting.frame frame) frame).unplaced =
      (awaits.foldl (fun frame waiting => waiting.frame frame) later).unplaced := by
  induction alike generalizing frame later with
  | nil => exact frames
  | cons waits _ ih => exact ih (waits.frame frames).1

theorem Alike.outermost (alike : mirror.Alike state other) :
    state.outermost.locals = other.outermost.locals := by
  have frames : state.outermost.unplaced = other.outermost.unplaced :=
    unplaced_foldl_frame alike.suspended alike.frame
  have same : state.outermost.unplaced.locals = other.outermost.unplaced.locals := by rw [frames]
  exact same

theorem unplaced_activationsFrom {waits awaits : List Suspended}
    (alike : List.Forall₂ mirror.Waits waits awaits) {frame later : Frame}
    (frames : frame.unplaced = later.unplaced) :
    (State.activationsFrom frame waits).map Activation.unplaced =
      (State.activationsFrom later awaits).map Activation.unplaced := by
  induction alike generalizing frame later with
  | nil => simpa [State.activationsFrom, Activation.unplaced] using frames
  | @cons waiting awaiting _ _ waits _ ih =>
      have body : waiting.startsBody = awaiting.startsBody := by cases waits <;> rfl
      simp only [State.activationsFrom, List.map_cons, Activation.unplaced, frames, body]
      exact congrArg _ (ih (waits.frame frames).1)

theorem Alike.active (alike : mirror.Alike state other) :
    state.active.map Activation.unplaced = other.active.map Activation.unplaced := by
  have frames := unplaced_activationsFrom alike.suspended alike.frame
  unfold State.active State.activations
  rw [alike.whole, alike.wholeOther]
  simpa using frames

end Mirror

/-! ## The end of a program -/

namespace Program

variable {machine other : Machine}

theorem unplaced_replaced {answer told : Machine × Option Fault} (heard : Machine.Heard answer told)
    {left leftOther : List Activation}
    (lefts : left.map Activation.unplaced = leftOther.map Activation.unplaced)
    (locals : Option Locals) {fault given : Fault} (faults : fault.unplaced = given.unplaced) :
    ProgramRun.unplaced ⟨.error (answer.2.getD fault), { answer.1 with frames := left }, left,
        locals⟩ =
      ProgramRun.unplaced ⟨.error (told.2.getD given), { told.1 with frames := leftOther },
        leftOther, locals⟩ := by
  have replaced : (answer.2.getD fault).unplaced = (told.2.getD given).unplaced := by
    rw [← Option.getD_map Fault.unplaced, ← Option.getD_map Fault.unplaced, heard.fault, faults]
  have machines : Machine.unplaced { answer.1 with frames := left } =
      Machine.unplaced { told.1 with frames := leftOther } := by
    change { answer.1.unplaced with frames := left.map Activation.unplaced } =
      { told.1.unplaced with frames := leftOther.map Activation.unplaced }
    rw [heard.machine, lefts]
  unfold ProgramRun.unplaced
  simp only [Except.mapError, replaced, machines, lefts]

theorem unplaced_closeFault (machines : machine.unplaced = other.unplaced)
    {left leftOther : List Activation}
    (lefts : left.map Activation.unplaced = leftOther.map Activation.unplaced) (locals : Locals)
    {fault given : Fault} (faults : fault.unplaced = given.unplaced) :
    (closeFault machine left locals fault).unplaced =
      (closeFault other leftOther locals given).unplaced := by
  have failed (failure given : Failure) (line place : Nat) :
      Machine.Heard (machine.announce line (.failure failure))
        (other.announce place (.failure given)) :=
    Machine.heard_announce machines _ _ rfl
  rcases Mirror.faults_cases faults with ⟨failure, failureOther, rfl, rfl⟩ | rfl
  · exact unplaced_replaced (failed failure failureOther _ _) lefts _ faults
  cases given with
  | failure failure => exact unplaced_replaced (failed failure failure _ _) lefts _ faults
  | halt code =>
      have halted (line place : Nat) : Machine.Heard (machine.announce line (.finish code))
          (other.announce place (.finish code)) :=
        Machine.heard_announce machines _ _ rfl
      exact unplaced_replaced (halted _ _) lefts _ faults
  | _ =>
      have silent : Machine.Heard (machine, none) (other, none) := ⟨machines, rfl⟩
      exact unplaced_replaced silent lefts _ faults

theorem unplaced_closeSignal (machines : machine.unplaced = other.unplaced) (locals : Locals)
    (signal : Signal) :
    (closeSignal machine locals signal).unplaced = (closeSignal other locals signal).unplaced := by
  have heard : Machine.Heard (machine.announce 0 (.finish signal.value))
      (other.announce 0 (.finish signal.value)) := Machine.heard_announce machines _ _ rfl
  unfold closeSignal
  generalize machine.announce 0 (.finish signal.value) = answer at heard ⊢
  generalize other.announce 0 (.finish signal.value) = told at heard ⊢
  obtain ⟨after, fault⟩ := answer
  obtain ⟨last, given⟩ := told
  unfold ProgramRun.unplaced
  rcases heard.cases with ⟨rfl, rfl⟩ | ⟨fault, given, rfl, rfl, same⟩
  · simp only [heard.machine]
  · simp only [heard.machine, Except.mapError, same]

theorem unplaced_close {mirror : Mirror} {state last : State} {ending given : Ending}
    (agree : mirror.Agree (.stop ending state) (.stop given last))
    (outside : ∀ line value, ending ≠ .finished (some (.resume line value))) :
    (close ending state).unplaced = (close given last).unplaced := by
  cases agree with
  | finished signal alike =>
      have same : mirror.signal signal = signal := by
        cases signal with
        | resume place value => exact absurd rfl (outside place value)
        | _ => rfl
      unfold close
      dsimp only
      rw [same, alike.outermost]
      exact unplaced_closeSignal alike.machine _ _
  | failed faults alike =>
      unfold close
      dsimp only
      rw [alike.outermost]
      exact unplaced_closeFault alike.machine alike.active _ faults

end Program

/-! ## Definitions and directives -/

theorem Fork.entryLine?_script (fork : Fork) (name : String) :
    fork.script.entryLine? name =
      (firstDefined name 1 fork.above).or
        (((firstDefined name 1 fork.first.lines).map (· + (fork.head + 1))).or
          (((firstDefined name 1 fork.second.lines).map (· + (fork.divider + 1))).or
            ((firstDefined name 1 fork.below).map (· + (fork.close + 1))))) := by
  have header : definedName? fork.header = none :=
    LineText.definedName?_eq_none (by rw [fork.opened.keyword]; decide)
  have divider : definedName? "ELSE" = none := by decide
  have closer : definedName? "ENDIF" = none := by decide
  have first : 1 + fork.above.length + 1 = 1 + (fork.head + 1) := rfl
  have second : 1 + (fork.head + 1) + fork.first.lines.length + 1 = 1 + (fork.divider + 1) := by
    unfold Fork.divider Block.size
    omega
  have below : 1 + (fork.divider + 1) + fork.second.lines.length + 1 = 1 + (fork.close + 1) := by
    unfold Fork.close Block.size
    omega
  rw [Script.entryLine?_eq, lines_script, block, Block.lines, Block.lines]
  simp only [List.cons_append, List.append_assoc, firstDefined_append, firstDefined, header, divider,
    closer, List.nil_append, reduceCtorEq, if_false, first, second, below, ← firstDefined_add]

def Block.Defines (block : Block) (name : String) : Prop :=
  ∃ text ∈ block.lines, definedName? text = some name

def Script.directivesOf (script : Script) (entry : String) : List String :=
  match script.entryLine? entry with
  | some line => (script.lines.toList.take (line - 1)).filter isDirective
  | none => []

namespace Choice

variable {choice : Choice}

/-- Exchanging the branches moves the definitions with their branches if no name is defined first in
both of them. -/
theorem corresponds_of_defined
    (defined : ∀ name, choice.otherwise.Defines name → choice.holding.Defines name →
      ∃ text ∈ choice.above, definedName? text = some name) : choice.Corresponds := by
  intro name
  rw [Fork.entryLine?_script, Fork.entryLine?_script]
  change (firstDefined name 1 choice.above).or
      (((firstDefined name 1 choice.holding.lines).map (· + (choice.negated.head + 1))).or
        (((firstDefined name 1 choice.otherwise.lines).map (· + (choice.plain.divider + 1))).or
          ((firstDefined name 1 choice.below).map (· + (choice.plain.close + 1))))) =
    ((firstDefined name 1 choice.above).or
      (((firstDefined name 1 choice.otherwise.lines).map (· + (choice.negated.head + 1))).or
        (((firstDefined name 1 choice.holding.lines).map (· + (choice.negated.divider + 1))).or
          ((firstDefined name 1 choice.below).map (· + (choice.negated.close + 1)))))).map
      choice.negated.line
  cases upper : firstDefined name 1 choice.above with
  | some line =>
      have early : line ≤ choice.negated.head := by
        have bounds := firstDefined_bounds upper
        change line ≤ choice.above.length
        omega
      simp [Fork.line_upper early]
  | none =>
      have absent : ¬ ∃ text ∈ choice.above, definedName? text = some name := by
        rw [← firstDefined_isSome, upper]
        simp
      cases one : firstDefined name 1 choice.otherwise.lines with
      | some line =>
          -- The definition is in one branch only, and moves with it.
          have other : firstDefined name 1 choice.holding.lines = none := by
            rw [Option.eq_none_iff_forall_ne_some]
            refine fun place found => absent (defined name ?_ ?_)
            · exact firstDefined_isSome.mp (Option.isSome_of_mem one)
            · exact firstDefined_isSome.mp (Option.isSome_of_mem found)
          have bounds := firstDefined_bounds one
          have within : line ≤ choice.negated.first.size := by
            change line ≤ choice.otherwise.lines.length
            omega
          have moved := choice.negated.line_first within
          rw [other]
          simp only [Option.map_none, Option.map_some, Option.none_or, Option.some_or]
          rw [Nat.add_comm line, Nat.add_comm line, moved]
          rfl
      | none =>
          cases two : firstDefined name 1 choice.holding.lines with
          | some line =>
              have bounds := firstDefined_bounds two
              have within : line ≤ choice.negated.second.size := by
                change line ≤ choice.holding.lines.length
                omega
              have moved := choice.negated.line_second within
              simp only [Option.map_none, Option.map_some, Option.none_or, Option.some_or]
              rw [Nat.add_comm line, Nat.add_comm line, moved]
          | none =>
              have close : choice.plain.close = choice.negated.close := Fork.close_swapped
              rw [close]
              cases firstDefined name 1 choice.below with
              | none => rfl
              | some line =>
                  have lower : choice.negated.close < line + (choice.negated.close + 1) := by omega
                  simp [Fork.line_lower lower]

end Choice

/-! ## Runs -/

namespace Mirror

/-- Both programs start to run in states that are in step, or they end alike before. -/
inductive Begins (mirror : Mirror) : ProgramStart → ProgramStart → Prop where
  | running {state other : State} (inStep : mirror.InStep state other) :
      Begins mirror (.running state) (.running other)
  | ended {run given : ProgramRun} (same : run.unplaced = given.unplaced) :
      Begins mirror (.ended run) (.ended given)

theorem begins (mirror : Mirror) {entry : String}
    (directives : mirror.first.directivesOf entry = mirror.second.directivesOf entry)
    (machine : Machine) :
    mirror.Begins (Program.start mirror.first entry machine)
      (Program.start mirror.second entry machine) := by
  have foundOther := mirror.entryLine? entry
  cases found : mirror.first.entryLine? entry with
  | none =>
      rw [found] at foundOther
      rw [Program.start_missing found, Program.start_missing foundOther]
      exact .ended rfl
  | some place =>
      rw [found] at foundOther
      have within := (Script.entryLine?_bounds found).2
      have above : (machine.opened mirror.first place).unplaced =
          (machine.opened mirror.second (mirror.line place)).unplaced := by
        unfold Script.directivesOf at directives
        rw [found, foundOther] at directives
        dsimp only [Option.map_some] at directives
        rw [Machine.opened, Machine.opened, Directive.applyAbove, Directive.applyAbove,
          Directive.unplaced_applyLines, Directive.unplaced_applyLines, directives]
      have heard : Machine.Heard
          ((machine.opened mirror.first place).announce 0 (.start entry))
          ((machine.opened mirror.second (mirror.line place)).announce 0 (.start entry)) :=
        Machine.heard_announce above _ _ rfl
      rw [Program.start_found found, Program.start_found foundOther]
      -- Where the entry stands is all that the two announcements differ in.
      generalize (machine.opened mirror.first place).announce 0 (.start entry) = answer at heard ⊢
      generalize (machine.opened mirror.second (mirror.line place)).announce 0
        (.start entry) = told at heard ⊢
      obtain ⟨after, fault⟩ := answer
      obtain ⟨last, given⟩ := told
      have machines : after.unplaced = last.unplaced := heard.machine
      rcases heard.cases with ⟨rfl, rfl⟩ | ⟨fault, given, rfl, rfl, same⟩
      · dsimp only
        rcases Machine.unplaced_checkDepth machines 0 0 0 with
          ⟨free, freeOther⟩ | ⟨fault, refused, stopped, left, leftOther, same⟩
        · rw [free, freeOther]
          exact .running ⟨⟨Scope.unplaced_mk machines rfl, .nil, rfl, rfl, rfl, rfl⟩,
            line_definitionFrame [] found⟩
        · rw [left, leftOther]
          exact .ended (Program.unplaced_closeFault same rfl _ rfl)
      · refine .ended ?_
        unfold ProgramRun.unplaced
        simp only [Except.mapError, machines, same]

end Mirror

namespace Choice

variable {choice : Choice} {corresponds : choice.Corresponds} {state other : State} {entry : String}
  {machine : Machine}

theorem advance (inStep : corresponds.mirror.InStep state other)
    (room : ∀ limit ∈ state.scope.machine.settings.maxArgs, 2 ≤ limit) :
    corresponds.mirror.Agree (state.advance choice.negated.script)
      (other.advance choice.plain.script) := by
  by_cases head : state.scope.frame.cursor.line = choice.negated.head
  · exact advance_header inStep room head
  by_cases divider : state.scope.frame.cursor.line = choice.negated.divider
  · exact advance_divider inStep divider
  by_cases close : state.scope.frame.cursor.line = choice.negated.close
  · exact advance_close inStep close
  exact inStep.advance (Fork.twin head divider close)

theorem step (reached : Program.Reaches choice.negated.script entry machine state)
    (reachedOther : Program.Reaches choice.plain.script entry machine other)
    (inStep : corresponds.mirror.InStep state other)
    (room : ∀ limit ∈ machine.settings.maxArgs, 2 ≤ limit) :
    corresponds.mirror.Agree (state.step choice.negated.script)
      (other.step choice.plain.script) := by
  cases control : state.control with
  | running =>
      have running : other.control = .running := by rw [inStep.control, control]; rfl
      rw [State.step_running control inStep.whole, State.step_running running inStep.wholeOther]
      refine advance inStep ?_
      rwa [reached.follows.settings]
  | leaving signal =>
      have leaving : other.control = .leaving (corresponds.mirror.signal signal) := by
        rw [inStep.control, control]
        rfl
      rw [State.step_leaving control, State.step_leaving leaving]
      exact inStep.toAlike.handOver reached.inPlace reachedOther.inPlace control

theorem run_inStep (reached : Program.Reaches choice.negated.script entry machine state)
    (reachedOther : Program.Reaches choice.plain.script entry machine other)
    (inStep : corresponds.mirror.InStep state other)
    (room : ∀ limit ∈ machine.settings.maxArgs, 2 ≤ limit) (fuel : Nat) :
    ((state.run choice.negated.script fuel).map fun (ending, last) =>
        (Program.close ending last).unplaced) =
      (other.run choice.plain.script fuel).map fun (ending, last) =>
        (Program.close ending last).unplaced := by
  -- Every step of the one program is a step of the other, so that the fuel runs out at once.
  induction fuel generalizing state other with
  | zero => rfl
  | succ fuel ih =>
      have agree := step reached reachedOther inStep room
      cases stepped : state.step choice.negated.script with
      | next after =>
          rw [stepped] at agree
          cases steppedOther : other.step choice.plain.script with
          | next later =>
              rw [steppedOther] at agree
              rw [State.run_next stepped, State.run_next steppedOther]
              cases agree with
              | next inStep => exact ih (reached.step stepped) (reachedOther.step steppedOther) inStep
          | stop given last =>
              rw [steppedOther] at agree
              cases agree
      | stop ending last =>
          rw [stepped] at agree
          cases steppedOther : other.step choice.plain.script with
          | next later =>
              rw [steppedOther] at agree
              cases agree
          | stop given final =>
              rw [steppedOther] at agree
              rw [State.run_stop stepped, State.run_stop steppedOther]
              exact congrArg some (Program.unplaced_close agree (reached.stop stepped).2)

/-- Nothing is defined first in both branches, and the same directives stand above the definition
that is run. -/
structure Steady (choice : Choice) (entry : String) : Prop where
  defined : ∀ name, choice.otherwise.Defines name → choice.holding.Defines name →
    ∃ text ∈ choice.above, definedName? text = some name
  directives : choice.negated.script.directivesOf entry = choice.plain.script.directivesOf entry

/-- A choice that is written with the negated condition runs like the one that is written with the
condition itself and the branches exchanged, but for the lines that are named. -/
theorem run_negated (choice : Choice) {entry : String} (steady : choice.Steady entry)
    (machine : Machine) (room : ∀ limit ∈ machine.settings.maxArgs, 2 ≤ limit) (fuel : Nat) :
    (Program.run choice.negated.script entry machine fuel).map ProgramRun.unplaced =
      (Program.run choice.plain.script entry machine fuel).map ProgramRun.unplaced := by
  have corresponds := corresponds_of_defined steady.defined
  have begins : corresponds.mirror.Begins (Program.start choice.negated.script entry machine)
      (Program.start choice.plain.script entry machine) :=
    corresponds.mirror.begins steady.directives machine
  unfold Program.run
  generalize started : Program.start choice.negated.script entry machine = early at begins ⊢
  generalize startedOther : Program.start choice.plain.script entry machine = late at begins ⊢
  cases begins with
  | ended same => exact congrArg some same
  | running inStep =>
      unfold ProgramStart.finish
      dsimp only
      rw [Option.map_map, Option.map_map]
      exact run_inStep (.start started) (.start startedOther) inStep room fuel

def nestedExample : Choice where
  file := ""
  above := ["DEF main"]
  condition := "NOT"
  otherwise := .loop .forLoop "FOR 2" (.line "PRINT A" .done) "ENDF" .done
  holding := .branch "IF" (.line "PRINT B" .done) "ENDIF" (.line "PRINT C" .done)
  below := ["ENDDEF"]
  piece := ⟨"NOT", false⟩
  single := by decide
  nestedOtherwise := by decide +kernel
  nestedHolding := by decide +kernel

theorem run_negated_nestedExample :
    nestedExample.Steady "main" ∧
      (∀ limit ∈ Machine.plainExample.settings.maxArgs, 2 ≤ limit) ∧
      (Program.run nestedExample.negated.script "main" Machine.plainExample 20).map
          (·.machine.output) = some "A\nA\n" ∧
      (Program.run nestedExample.negated.script "main" Machine.plainExample 20).map
          ProgramRun.unplaced =
        (Program.run nestedExample.plain.script "main" Machine.plainExample 20).map
          ProgramRun.unplaced := by
  have steady : nestedExample.Steady "main" := by
    refine ⟨fun name ⟨text, member, defined⟩ _ => ?_, by decide +kernel⟩
    have nothing : ∀ text ∈ nestedExample.otherwise.lines, definedName? text = none := by
      decide +kernel
    rw [nothing text member] at defined
    cases defined
  have room : ∀ limit ∈ Machine.plainExample.settings.maxArgs, 2 ≤ limit := by decide +kernel
  exact ⟨steady, room, by decide +kernel, run_negated nestedExample steady _ room 20⟩

def ofBranches (above : List String) (otherwise holding : Block) (below : List String)
    (nestedOtherwise : otherwise.Nested) (nestedHolding : holding.Nested) : Choice where
  file := ""
  above
  condition := "1"
  otherwise
  holding
  below
  piece := ⟨"1", false⟩
  single := by decide
  nestedOtherwise
  nestedHolding

def printExample : Choice :=
  ofBranches ["DEF main"] (.line "PRINT A" .done) (.line "PRINT B" .done) ["ENDDEF"]
    (by decide +kernel) (by decide +kernel)

def redefinedExample : Choice :=
  ofBranches ["DEF main", "CALL f"] (.line "ENDDEF" (.line "DEF f" (.line "PRINT A" .done)))
    (.line "ENDDEF" (.line "DEF f" (.line "PRINT B" .done))) ["ENDDEF"]
    (by decide +kernel) (by decide +kernel)

def directiveExample : Choice :=
  ofBranches ["DEF f"] (.blank "[MODE extended]" .done) (.blank "[MODE vsb]" .done)
    ["ENDDEF", "DEF main", "PRINT !1", "CALL f", "ENDDEF"] (by decide +kernel) (by decide +kernel)

theorem unplaced_ne {run other : Option ProgramRun}
    (outputs : run.map (·.machine.output) ≠ other.map (·.machine.output)) :
    run.map ProgramRun.unplaced ≠ other.map ProgramRun.unplaced := by
  intro same
  have equal := congrArg (Option.map (·.machine.output)) same
  rw [Option.map_map, Option.map_map] at equal
  exact outputs equal

/-- The two ways to write a choice differ if the negated header has more arguments than are allowed,
if both branches define a name, or if their directives stand in another order. -/
theorem run_negated_ne :
    (Program.run printExample.negated.script "main"
          { Machine.plainExample with settings := ⟨some 100, some 1, false, false⟩ } 20).map
          ProgramRun.unplaced ≠
        (Program.run printExample.plain.script "main"
          { Machine.plainExample with settings := ⟨some 100, some 1, false, false⟩ } 20).map
          ProgramRun.unplaced ∧
      (Program.run redefinedExample.negated.script "main" Machine.plainExample 20).map
          ProgramRun.unplaced ≠
        (Program.run redefinedExample.plain.script "main" Machine.plainExample 20).map
          ProgramRun.unplaced ∧
      (Program.run directiveExample.negated.script "main" Machine.plainExample 20).map
          ProgramRun.unplaced ≠
        (Program.run directiveExample.plain.script "main" Machine.plainExample 20).map
          ProgramRun.unplaced :=
  ⟨unplaced_ne (by decide +kernel), unplaced_ne (by decide +kernel),
    unplaced_ne (by decide +kernel)⟩

end Choice

end LineScript
