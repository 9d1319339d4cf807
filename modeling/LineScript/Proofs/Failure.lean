import LineScript.Proofs.Reaches

/-!
How a program can end without extensions. Every frame of a run stands inside a definition that
exists, and the body of an inline loop is never above the header of the loop; so the only faults are
halts, jumps that find no end of their block, unknown instructions, and a program whose own
definition is missing.
-/

namespace LineScript

/-! ## States without extensions -/

/-- The frames of the state are in place, and no extension has a say. -/
structure State.Sound (script : Script) (state : State) : Prop extends state.InPlace script where
  regular : state.Regular

theorem State.Sound.placed {script : Script} {state : State} (sound : state.Sound script)
    (harmless : ∀ instruction, state.instruction? script = some instruction →
      instruction.isRisky = false) : state.Placed script :=
  ⟨sound.regular, sound.grounded.proper.defined,
    fun _ _ _ _ leaving waits line ends => Nat.le_of_lt (sound.ends leaving waits line ends).1,
    harmless⟩

/-! ## Runs -/

namespace Program

variable {script : Script} {entry : String} {machine : Machine}

def Executes (script : Script) (entry : String) (machine : Machine) (instruction : Instruction) :
    Prop :=
  ∃ state, Reaches script entry machine state ∧ state.instruction? script = some instruction

theorem Reaches.sound (regular : machine.Regular) {state : State}
    (reached : Reaches script entry machine state) : state.Sound script :=
  ⟨reached.inPlace, reached.follows.regular regular⟩

inductive Ends (script : Script) (entry : String) : Except Fault Signal → Prop where
  | returned (value : String) : Ends script entry (.ok (.returned value))
  | broken (value : String) : Ends script entry (.ok (.broken value))
  | continued (value : String) : Ends script entry (.ok (.continued value))
  | entryMissing (missing : script.entryLine? entry = none) :
      Ends script entry (.error (.failure ⟨.entryPointNotFound, Effect.entryMissing entry,
        Code.entryPointNotFound.number, some 0, some entry⟩))
  | fault {fault : Fault} (foreseen : Foreseen fault) : Ends script entry (.error fault)

theorem close_ends {state last : State} {ending : Ending} (sound : state.Sound script)
    (harmless : ∀ instruction, state.instruction? script = some instruction →
      instruction.isRisky = false)
    (stepped : state.step script = .stop ending last) :
    Ends script entry (close ending last).result := by
  have transits := State.transits_step script sound.whole
  rw [stepped] at transits
  obtain ⟨follows, ended, foreseen⟩ := transits
  have silent := (follows.machine.plain sound.regular.plain).services
  cases ended with
  | @finished signal leaving alone =>
      change Ends script entry (closeSignal _ _ signal).result
      rw [closeSignal_silent silent]
      cases signal with
      | returned value => exact .returned value
      | broken value => exact .broken value
      | continued value => exact .continued value
      | resume line value =>
          obtain ⟨cursor, loop, rest, waits, -⟩ := sound.resumes line value leaving
          rw [alone] at waits
          cases waits
  | @reading fault _ running same frame =>
      change Ends script entry (closeFault _ _ _ fault).result
      rw [closeFault_silent silent]
      exact .fault (foreseen (sound.placed harmless) fault rfl)
  | @returning fault _ signal waiting leaving waits frame =>
      change Ends script entry (closeFault _ _ _ fault).result
      rw [closeFault_silent silent]
      exact .fault (foreseen (sound.placed harmless) fault rfl)

theorem start_ends (regular : machine.Regular) {run : ProgramRun}
    (started : start script entry machine = .ended run) : Ends script entry run.result := by
  have begins := begins script entry machine
  rw [started] at begins
  have silent (line : Nat) : (machine.opened script line).services = .empty :=
    (machine.follows_opened script line).services.trans regular.plain.services
  cases begins with
  | missing absent => exact .entryMissing absent
  | @refused line _ _ found heard =>
      rw [Machine.announce_plain (silent line)] at heard
      cases heard
  | @tooDeep line _ _ _ found heard deep =>
      rw [Machine.announce_plain (silent line)] at heard
      cases heard
      rw [closeFault_silent ((Machine.kept_checkDepth deep).services.trans (silent line))]
      cases Machine.checkDepth_some deep with
      | unlimited unset =>
          rw [(machine.follows_opened script line).settings] at unset
          exact absurd unset regular.maxDepth
      | deep limited deep => exact .fault .tooDeep

end Program

/-! ## Scripts without the instructions that rest on the machine -/

def Instruction.riskyNames : List String :=
  ["ALOC", "LINE", "RECT", "SLEEP", "SAVEIMG", "COUNT"]

theorem Instruction.mem_riskyNames : ∀ entry ∈ allEntries,
    entry.instruction.isRisky = true → entry.name ∈ riskyNames := by
  decide +kernel

theorem State.instruction?_inv {script : Script} {state : State} {instruction : Instruction}
    (carried : state.instruction? script = some instruction) :
    ∃ text spec, script.line? (state.scope.frame.cursor.line + 1) = some text ∧
      LineText.isInstruction text = true ∧
      state.scope.machine.lookup? (LineText.keyword text) = some spec ∧
      spec.action = .builtin instruction := by
  unfold State.instruction? at carried
  split at carried
  · next limit control limited =>
      obtain ⟨text, read, carried⟩ := Option.bind_eq_some_iff.mp carried
      have found : script.line? (state.scope.frame.cursor.line + 1) = some text := by
        unfold Cursor.read at read
        split at read
        · exact read
        · cases read
      split at carried
      · next executed =>
          split at carried
          · obtain ⟨spec, known, carried⟩ := Option.bind_eq_some_iff.mp carried
            split at carried
            · next same fits =>
                cases carried
                exact ⟨text, spec, found, executed, known, same⟩
            · cases carried
          · cases carried
      · cases carried
  · cases carried

theorem Program.Executes.harmless {script : Script} {entry : String} {machine : Machine}
    (absent : ∀ statement ∈ script.statements, statement.keyword ∉ Instruction.riskyNames)
    {instruction : Instruction} (executes : Executes script entry machine instruction) :
    instruction.isRisky = false := by
  obtain ⟨state, -, carried⟩ := executes
  obtain ⟨text, spec, found, executed, known, same⟩ := state.instruction?_inv carried
  rw [Bool.eq_false_iff]
  intro risky
  rcases Machine.lookup?_cases known with ⟨listed, member, origin, -, name, rfl⟩ | ⟨_, -, rfl⟩
  · cases Meaning.builtin.inj same
    have named := Instruction.mem_riskyNames listed member risky
    rw [name] at named
    refine absent _ (Script.mem_statements found executed) ?_
    rwa [LineText.keyword, Line.upper_keywordOf] at named
  · cases same

/-! ## Main statement -/

/-- A program that ends, and that does not rest on the machine outside the language, ends with a
signal, a halt, a jump without a target, an unknown instruction, or because its own definition is
missing. -/
theorem Program.result_foreseen {script : Script} {entry : String} {machine : Machine}
    (regular : machine.Regular)
    (harmless : ∀ instruction, Executes script entry machine instruction →
      instruction.isRisky = false)
    {fuel : Nat} {run : ProgramRun} (ended : Program.run script entry machine fuel = some run) :
    Ends script entry run.result := by
  cases concludes_of_run ended with
  | early started => exact start_ends regular started
  | @late state last ending reached stopped =>
      exact close_ends (reached.sound regular)
        (fun instruction found => harmless instruction ⟨state, reached, found⟩) stopped

def haltExample : Script :=
  .ofLines "" ["DEF main", "NEW name,$_ask", "FOR 2", "IF NOT $name", "ELSE", "HLT", "ENDIF", "ENDF"]

theorem Program.result_foreseen_haltExample :
    ∃ run, Program.run haltExample "main" .plainExample 20 = some run ∧
      Ends haltExample "main" run.result := by
  have absent : ∀ statement ∈ haltExample.statements,
      statement.keyword ∉ Instruction.riskyNames := by
    decide +kernel
  have ends : (Program.run haltExample "main" .plainExample 20).isSome = true := by
    decide +kernel
  obtain ⟨run, ended⟩ := Option.isSome_iff_exists.mp ends
  exact ⟨run, ended, Program.result_foreseen
    ⟨Machine.plain_plainExample, by simp [Machine.plainExample, Machine.setExtended],
      by simp [Machine.plainExample, Machine.setExtended]⟩
    (fun _ executes => executes.harmless absent) ended⟩

end LineScript
