import LineScript.Proofs.Duality.Condition
import LineScript.Proofs.Duality.Fork

/-!
A choice between two branches, written with the negated condition or with the condition itself and
the branches exchanged. At the header, at the line between the branches and at the end marker the
two scripts have different lines; they lead to states in step nevertheless.
-/

namespace LineScript

open LineScript.Action

/-! ## Lines of blocks -/

namespace State

variable {script : Script} {state : State} {number : Nat} {text : String} {scope : Scope}

theorem execute_divider {target : Nat}
    (skip : script.blockEnd? state.scope.frame.cursor.line ifMarker "ENDIF" [] = some target) :
    state.execute script (Line.ofText number "ELSE") =
      .next { state with
        scope := state.scope.movedTo (state.scope.frame.cursor.advance script target) } := by
  have nothing : LineText.pieces "ELSE" = [] := by decide
  have resolved : Reference.resolveAll (LineText.pieces "ELSE") state.scope =
      .ok [] state.scope := by
    rw [nothing]
    rfl
  have known : state.scope.machine.Knows (LineText.keyword "ELSE") 0 none .elseBlock :=
    Machine.knows_divider
  exact execute_word (.inl nothing) resolved known le_rfl (by simp)
    (Instruction.perform_elseBlock_found skip)

theorem execute_endIf : state.execute script (Line.ofText number "ENDIF") = .next state := by
  have nothing : LineText.pieces "ENDIF" = [] := by decide
  have resolved : Reference.resolveAll (LineText.pieces "ENDIF") state.scope =
      .ok [] state.scope := by
    rw [nothing]
    rfl
  have known : state.scope.machine.Knows (LineText.keyword "ENDIF") 0 none .endIf :=
    Machine.knows_endIf
  exact execute_word (.inl nothing) resolved known le_rfl (by simp) rfl

theorem execute_branch (fits : LineText.Fits state.scope.machine.settings text)
    (header : LineText.keyword text = "IF") {args : List String}
    (resolved : Reference.resolveAll (LineText.pieces text) state.scope = .ok args scope)
    (few : args.length ≤ 2) {target : Nat}
    (skip : script.blockEnd? scope.frame.cursor.line ifMarker "ENDIF" ["ELSE"] = some target) :
    state.execute script (Line.ofText number text) =
      .next { state with
        scope := if Effect.branchTaken scope args = true then scope
          else scope.movedTo (scope.frame.cursor.advance script target) } := by
  have known : scope.machine.Knows (LineText.keyword text) 0 (some 2) .ifBlock :=
    header ▸ Machine.knows_conditional
  have high : ∀ limit ∈ some (2 : Int), (args.length : Int) ≤ limit := by
    simp only [Option.mem_def, Option.some.injEq, forall_eq']
    omega
  refine execute_word fits resolved known (Int.natCast_nonneg _) high ?_
  split_ifs with taken
  · exact Instruction.perform_ifBlock_taken taken
  · exact Instruction.perform_ifBlock_found (by simpa using taken) skip

end State

/-! ## The two ways to write a choice -/

/-- A choice between two branches in a script: the first one is for the case that the condition does
not hold. -/
structure Choice where
  file : String
  above : List String
  condition : String
  otherwise : Block
  holding : Block
  below : List String
  piece : Piece
  single : LineText.pieces (conditionHeader condition) = [piece]
  nestedOtherwise : otherwise.Nested
  nestedHolding : holding.Nested

namespace Choice

variable (choice : Choice)

/-- The condition is negated, and the branch for the case that it does not hold stands first. -/
def negated : Fork where
  file := choice.file
  above := choice.above
  header := negatedHeader choice.condition
  first := choice.otherwise
  second := choice.holding
  below := choice.below
  opened := (LineText.openedBy_header choice.single).2
  nestedFirst := choice.nestedOtherwise
  nestedSecond := choice.nestedHolding

def plain : Fork :=
  choice.negated.swapped (conditionHeader choice.condition)
    (LineText.openedBy_header choice.single).1

def Corresponds : Prop :=
  ∀ name, choice.plain.script.entryLine? name =
    (choice.negated.script.entryLine? name).map choice.negated.line

variable {choice}

def Corresponds.mirror (corresponds : choice.Corresponds) : Mirror :=
  choice.negated.mirror _ _ corresponds

variable {corresponds : choice.Corresponds} {state other : State}

theorem line_divider : choice.negated.line choice.negated.divider = choice.plain.close :=
  Fork.line_first (le_refl choice.negated.first.size)

theorem line_close : choice.negated.line choice.negated.close = choice.plain.divider :=
  choice.negated.line_second (le_refl choice.holding.size)

theorem line_below : choice.negated.line (choice.negated.close + 1) = choice.plain.close + 1 := by
  rw [Fork.line_lower (Nat.lt_succ_self _)]
  exact congrArg (· + 1) Fork.close_swapped.symm

theorem advance_divider (inStep : corresponds.mirror.InStep state other)
    (here : state.scope.frame.cursor.line = choice.negated.divider) :
    corresponds.mirror.Agree (state.advance choice.negated.script)
      (other.advance choice.plain.script) := by
  have there : other.scope.frame.cursor.line = choice.plain.close := by
    rw [inStep.line, here]
    exact line_divider
  obtain ⟨-, -, divides, -, -⟩ := choice.negated.hasLines_parts
  obtain ⟨-, -, -, -, closes⟩ := choice.plain.hasLines_parts
  refine inStep.toAlike.advance_instruction (by rw [here]; exact divides)
    (by rw [there]; exact closes) (by decide) (by decide) fun told => ?_
  have skip := choice.negated.blockEnd?_own.2
  rw [← here, ← state.line_told "ELSE"] at skip
  obtain ⟨forward, inside⟩ := Script.blockEnd?_bounds skip
  change corresponds.mirror.Agree ((state.told "ELSE").execute choice.negated.script _)
    ((other.told "ENDIF").execute choice.plain.script _)
  rw [State.execute_divider skip, State.execute_endIf]
  refine .next ⟨⟨told.scope, told.suspended, told.control, told.floor, told.whole,
    told.wholeOther⟩, ?_⟩
  change _ = choice.negated.line (Cursor.advance _ _ _).line
  rw [Cursor.line_advance (Nat.le_of_lt forward) inside, other.line_told, there, line_below]

theorem advance_close (inStep : corresponds.mirror.InStep state other)
    (here : state.scope.frame.cursor.line = choice.negated.close) :
    corresponds.mirror.Agree (state.advance choice.negated.script)
      (other.advance choice.plain.script) := by
  have there : other.scope.frame.cursor.line = choice.plain.divider := by
    rw [inStep.line, here]
    exact line_close
  obtain ⟨-, -, -, -, closes⟩ := choice.negated.hasLines_parts
  obtain ⟨-, -, divides, -, -⟩ := choice.plain.hasLines_parts
  refine inStep.toAlike.advance_instruction (by rw [here]; exact closes)
    (by rw [there]; exact divides) (by decide) (by decide) fun told => ?_
  have skip := choice.plain.blockEnd?_own.2
  rw [← there, ← other.line_told "ELSE"] at skip
  obtain ⟨forward, inside⟩ := Script.blockEnd?_bounds skip
  change corresponds.mirror.Agree ((state.told "ENDIF").execute choice.negated.script _)
    ((other.told "ELSE").execute choice.plain.script _)
  rw [State.execute_divider skip, State.execute_endIf]
  refine .next ⟨⟨told.scope, told.suspended, told.control, told.floor, told.whole,
    told.wholeOther⟩, ?_⟩
  change (Cursor.advance _ _ _).line = choice.negated.line _
  rw [Cursor.line_advance (Nat.le_of_lt forward) inside, state.line_told, here, line_below]

/-- Where the condition is true the first script skips a branch and the second one goes on with its
first branch, and the other way round. -/
theorem agree_branches (alike : corresponds.mirror.Alike state other) {scope last : Scope}
    (scopes : scope.unplaced = last.unplaced)
    (here : scope.frame.cursor.line = choice.negated.head + 1)
    (there : last.frame.cursor.line = choice.plain.head + 1) (value : String) :
    corresponds.mirror.Agree
      (.next { state with
        scope := if Effect.branchTaken scope ["NOT", value] = true then scope
          else scope.movedTo
            (scope.frame.cursor.advance choice.negated.script (choice.negated.divider + 1)) })
      (.next { other with
        scope := if Effect.branchTaken last [value] = true then last
          else last.movedTo
            (last.frame.cursor.advance choice.plain.script (choice.plain.divider + 1)) }) := by
  have lands {scope last : Scope} (scopes : scope.unplaced = last.unplaced)
      (line : last.frame.cursor.line = choice.negated.line scope.frame.cursor.line) :
      corresponds.mirror.Agree (.next { state with scope }) (.next { other with scope := last }) :=
    .next ⟨alike.inScope scopes, line⟩
  obtain ⟨forward, inside⟩ := Script.blockEnd?_bounds choice.negated.blockEnd?_own.1
  obtain ⟨forwardOther, insideOther⟩ := Script.blockEnd?_bounds choice.plain.blockEnd?_own.1
  rw [Effect.branchTaken_not, Scope.unplaced_branchTaken scopes]
  cases Effect.branchTaken last [value] with
  | true =>
      refine lands scopes ?_
      change last.frame.cursor.line = choice.negated.line (Cursor.advance _ _ _).line
      rw [there, Cursor.line_advance (by omega) inside]
      exact (choice.negated.line_second (Nat.zero_le _)).symm
  | false =>
      refine lands scopes ?_
      change (Cursor.advance _ _ _).line = choice.negated.line scope.frame.cursor.line
      rw [here, Cursor.line_advance (by omega) insideOther]
      exact (choice.negated.line_first (Nat.zero_le _)).symm

theorem agree_execute_header (alike : corresponds.mirror.Alike state other)
    (room : ∀ limit ∈ state.scope.machine.settings.maxArgs, 2 ≤ limit)
    (here : state.scope.frame.cursor.line = choice.negated.head + 1)
    (there : other.scope.frame.cursor.line = choice.plain.head + 1) (number numberOther : Nat) :
    corresponds.mirror.Agree
      (state.execute choice.negated.script
        (Line.ofText number (negatedHeader choice.condition)))
      (other.execute choice.plain.script
        (Line.ofText numberOther (conditionHeader choice.condition))) := by
  have single := choice.single
  have pieces := LineText.pieces_negatedHeader single
  have settings := Machine.unplaced_settings alike.machine
  cases capacity : state.scope.machine.settings.maxArgs with
  | none =>
      rw [State.execute_unlimited capacity (by rw [pieces]; simp),
        State.execute_unlimited (settings ▸ capacity) (by rw [single]; simp)]
      exact Mirror.agree_lineFault alike rfl
  | some limit =>
      have enough := room limit capacity
      have fits : LineText.Fits state.scope.machine.settings (negatedHeader choice.condition) :=
        .inr ⟨limit, capacity, by rw [pieces]; exact enough⟩
      have fitsOther : LineText.Fits other.scope.machine.settings
          (conditionHeader choice.condition) :=
        .inr ⟨limit, settings ▸ capacity, by rw [single]; simp; omega⟩
      -- The word that negates is read without an effect: both headers read the same argument.
      have keeps : Keeps (fun _ => True) (Reference.resolveAll [choice.piece]) :=
        Reference.keeps_resolveAll _
      have both := agree_of_uniform (Reference.uniform_resolveAll [choice.piece]) alike.scope
      have read := Reference.resolveAll_not [choice.piece] state.scope
      rw [← pieces, bind_apply] at read
      generalize resolved : Reference.resolveAll [choice.piece] state.scope = result at both read
      generalize resolvedOther : Reference.resolveAll [choice.piece] other.scope = answer at both
      have readOther := resolvedOther
      rw [← single] at readOther
      cases both with
      | error faults scopes =>
          rw [State.execute_fault fits read, State.execute_fault fitsOther readOther]
          exact Mirror.agree_lineFault (alike.inScope scopes) faults
      | @ok args values scope last same scopes =>
          subst same
          obtain ⟨value, rfl⟩ := List.length_eq_one_iff.mp (Reference.length_resolveAll resolved)
          have cursor := (congrArg Cursor.line (keeps.ok resolved).cursor).trans here
          have cursorOther := (congrArg Cursor.line (keeps.ok resolvedOther).cursor).trans there
          have skip := choice.negated.blockEnd?_own.1
          have skipOther := choice.plain.blockEnd?_own.1
          rw [← cursor] at skip
          rw [← cursorOther] at skipOther
          rw [State.execute_branch fits choice.negated.opened.keyword read (le_refl 2) skip,
            State.execute_branch fitsOther choice.plain.opened.keyword readOther (by simp)
              skipOther]
          exact agree_branches alike scopes cursor cursorOther value

theorem advance_header (inStep : corresponds.mirror.InStep state other)
    (room : ∀ limit ∈ state.scope.machine.settings.maxArgs, 2 ≤ limit)
    (here : state.scope.frame.cursor.line = choice.negated.head) :
    corresponds.mirror.Agree (state.advance choice.negated.script)
      (other.advance choice.plain.script) := by
  have there : other.scope.frame.cursor.line = choice.plain.head := by
    rw [inStep.line, here]
    exact Fork.line_upper (le_refl _)
  obtain ⟨opens, opensNot⟩ := LineText.openedBy_header choice.single
  refine inStep.toAlike.advance_instruction (by rw [here]; exact choice.negated.hasLines_parts.1)
    (by rw [there]; exact choice.plain.hasLines_parts.1) opensNot.1 opens.1 fun told => ?_
  have settings := (state.same_told (negatedHeader choice.condition)).machine.settings
  exact agree_execute_header told (by rwa [settings]) (by rw [state.line_told, here])
    (by rw [other.line_told, there]) _ _

end Choice

end LineScript
