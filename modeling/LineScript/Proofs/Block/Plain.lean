import LineScript.Proofs.Block.Line

/-!
Lines that belong to no block. Their instructions do not look at the script, so that they do the same
on every one; what they ask for is done next.
-/

namespace LineScript

open LineScript.Action

namespace Instruction

def isStructural : Instruction → Bool
  | ifBlock => true
  | elseBlock => true
  | endLoop _ => true
  | _ => false

theorem names_of_structural : ∀ entry ∈ allEntries, entry.instruction.isStructural = true →
    entry.name = "IF" ∨ entry.name = BlockKind.divider ∨
      ∃ kind ∈ BlockKind.all, entry.name = kind.closer := by
  decide +kernel

variable {instruction : Instruction} {args : List String}

theorem minArgs_of_loop : ∀ entry ∈ allEntries,
    ∀ kind ∈ [LoopKind.forLoop, .whileLoop, .doWhileLoop],
    entry.instruction = .loop kind → entry.minArgs = kind.inlineArity := by
  decide +kernel

theorem perform_elsewhere (free : instruction.isStructural = false)
    (supplied : instruction.needed ≤ args.length) (script other : Script) (inBody within : Bool)
    (number : Nat) (pieces : List Piece) :
    instruction.perform script inBody number pieces args =
      instruction.perform other within number pieces args := by
  by_cases ordinary : instruction.isOrdinary = true
  · obtain ⟨effect, -, same⟩ := perform_ordinary ordinary supplied
    rw [same, same]
  · cases given supplied with
    | ret => rfl
    | endDefinition => rfl
    | call entry => rfl
    | halt => rfl
    | loop kind => rfl
    | breakLoop => rfl
    | continueLoop => rfl
    | ifBlock => cases free
    | elseBlock => cases free
    | endLoop kind => cases free
    | _ => exact absurd rfl ordinary

end Instruction

/-- What a line that belongs to no block asks for: no inline loop, and no end of one. -/
def Flow.Simple (flow : Flow) : Prop :=
  (∀ loop entered, flow ≠ .inline loop entered) ∧
    ∀ line value, flow ≠ .leave (.resume line value)

theorem BlockKind.Inert.free {text : String} (inert : BlockKind.Inert text) {entry : Instruction.Entry}
    (listed : entry ∈ Instruction.allEntries) (name : entry.name = LineText.keyword text) :
    entry.instruction.isStructural = false := by
  rw [Bool.eq_false_iff]
  intro structural
  rcases Instruction.names_of_structural entry listed structural with
    header | divider | ⟨kind, -, closer⟩
  · refine (inert.2.2 .conditional).2 ⟨inert.1, fun number => ?_⟩
    rw [← name, header]
    rfl
  · exact inert.2.1 (name.symm.trans divider)
  · exact (inert.2.2 kind).1 (name.symm.trans closer)

theorem BlockKind.Inert.simple {text : String} (inert : BlockKind.Inert text) {kind : LoopKind}
    (header : LineText.keyword text = kind.keyword) :
    (LineText.pieces text).length ≠ kind.inlineArity := by
  intro few
  refine (inert.2.2 (.loop kind)).2 ⟨inert.1, fun number => ?_⟩
  simp [BlockMarker.opens, BlockKind.marker, LoopKind.marker, header, few]

theorem BlockKind.Inert.flow {text : String} (inert : BlockKind.Inert text)
    {entry : Instruction.Entry} (listed : entry ∈ Instruction.allEntries)
    (name : entry.name = LineText.keyword text) {args : List String}
    (length : args.length = (LineText.pieces text).length) (least : entry.minArgs ≤ args.length)
    {script : Script} {number : Nat} {scope after : Scope} {flow : Flow}
    (performed : entry.instruction.perform script false number (LineText.pieces text) args scope =
      .ok flow after) : flow.Simple := by
  have enough : entry.instruction.needed ≤ args.length :=
    Int.ofNat_le.mp (Int.le_trans (Instruction.needed_le_minArgs entry listed) least)
  have asks := Instruction.asks_perform enough performed
  generalize same : Meaning.builtin entry.instruction = meaning at asks
  cases asks with
  | next => exact ⟨nofun, nofun⟩
  | leave _ other => exact ⟨nofun, fun line value same => other line value (Flow.leave.inj same)⟩
  | resume kind value inside => cases inside
  | call => exact ⟨nofun, nofun⟩
  | external => exact ⟨nofun, nofun⟩
  | inline kind planned =>
      have loop := Meaning.builtin.inj same
      have member : kind ∈ [LoopKind.forLoop, .whileLoop, .doWhileLoop] := by cases kind <;> decide
      have header := Instruction.name_of_loop entry listed kind member loop
      have few := inert.simple (name.symm.trans header)
      have arity := Instruction.minArgs_of_loop entry listed kind member loop
      rw [loop] at performed
      obtain ⟨plan, body, impossible⟩ := LoopKind.start_external (by omega) performed
      cases impossible

section CarryOut

variable {number : Nat} {text : String} {args : List String} {scope : Scope}

theorem Action.fail_apply {α : Type} (kind : FailureKind) (message : String) (code : Code)
    (scope : Scope) :
    (Action.fail kind message code : Action α) scope =
      .error (.failure ((scope.reportFailure message code).failure kind message code))
        (scope.reportFailure message code) :=
  rfl

theorem Action.get_apply (scope : Scope) : (get : Action Scope) scope = .ok scope scope :=
  rfl

theorem LineText.carryOut_unknown (unknown : scope.machine.lookup? (keyword text) = none) :
    carryOut number text args scope =
      let name := (tokenize text).headD ""
      Action.fail .unrecognizedInstruction s!"Instruction {name} is not recognized."
        .unrecognizedInstruction scope := by
  simp only [carryOut, bind_apply, get_apply, unknown]

theorem LineText.carryOut_refused {spec : Spec Meaning} {problem : String}
    (known : scope.machine.lookup? (keyword text) = some spec)
    (refused : spec.arityProblem? args.length = some problem) :
    carryOut number text args scope =
      .ok .next (scope.report ⟨.error, problem, .missingArguments⟩) := by
  simp only [carryOut, bind_apply, get_apply, known, refused]
  rfl

theorem LineText.carryOut_performed {spec : Spec Meaning}
    (known : scope.machine.lookup? (keyword text) = some spec)
    (supplied : spec.arityProblem? args.length = none) :
    carryOut number text args scope =
      match spec.action.perform (.ofLines "" []) false number (pieces text) args scope with
      | .ok flow after => .ok flow after
      | .error fault after =>
          failed spec.name (Meaning.exceptionCode spec.origin) fault after := by
  simp only [carryOut, bind_apply, get_apply, known, supplied]
  change EStateM.tryCatch _ _ scope = _
  unfold EStateM.tryCatch
  cases spec.action.perform (.ofLines "" []) false number (pieces text) args scope <;> rfl

theorem LineText.failed_apply {α : Type} (name : String) (code : Code) (fault : Fault)
    (scope : Scope) :
    ∃ other after, (failed name code fault : Action α) scope = .error other after ∧
      scope.Kept after ∧ ∀ state : State, state.scope = scope →
        (∀ text, fault ≠ .unreadable text) →
        state.instructionFault name code fault =
          .stop (.failed other) { state with scope := after } := by
  cases fault with
  | exception exception =>
      refine ⟨_, _, rfl, scope.kept_report _, ?_⟩
      rintro state rfl -
      rfl
  | unreadable text => exact ⟨_, _, rfl, .refl scope, fun _ _ readable => absurd rfl (readable text)⟩
  | failure failure =>
      refine ⟨_, _, rfl, .refl scope, ?_⟩
      rintro state rfl -
      rfl
  | halt code =>
      refine ⟨_, _, rfl, .refl scope, ?_⟩
      rintro state rfl -
      rfl
  | interrupted =>
      refine ⟨_, _, rfl, .refl scope, ?_⟩
      rintro state rfl -
      rfl

theorem Instruction.still_of_free {instruction : Instruction}
    (free : instruction.isStructural = false) : instruction.isJump = false := by
  cases instruction with
  | ifBlock => cases free
  | elseBlock => cases free
  | _ => rfl

theorem Instruction.readable_of_perform {instruction : Instruction} {script : Script}
    {inBody : Bool} {pieces : List Piece} {fault : Fault} {after : Scope}
    (free : instruction.isStructural = false) (supplied : instruction.needed ≤ args.length)
    (bare : scope.machine.Bare)
    (performed : instruction.perform script inBody number pieces args scope = .error fault after) :
    scope.Kept after ∧ ∀ text, fault ≠ .unreadable text := by
  obtain ⟨kept, expected⟩ := (keeps_perform (still_of_free free) supplied).fault performed
  refine ⟨kept, fun text same => ?_⟩
  rcases expected bare with (⟨-, exception, raised⟩ | ⟨-, halted⟩) | ⟨interrupted, -⟩
  · rw [same] at raised
    cases raised
  · rw [same] at halted
    cases halted
  · rw [same] at interrupted
    cases interrupted

end CarryOut

namespace Seat

variable {script : Script} {seat : Seat} {settings : Settings} {store : Store} {cursor : Cursor}
  {text : String} {bound : Nat}

def Follows (seat : Seat) (script : Script) (number : Nat) (text : String) (flow : Flow)
    (store : Store) (last : Step) : Prop :=
  flow.Simple ∧
    ∃ keyword, last = (seat.state ⟨number, some text⟩ store).follow script keyword flow

variable {number : Nat} {args : List String} {middle : Store}

theorem answers_unknown (inert : BlockKind.Inert text)
    (unknown : (seat.activity.scope number text middle).machine.lookup? (LineText.keyword text) =
      none) :
    seat.Answers number text (seat.Follows script number text) middle
      ((seat.state ⟨number, some text⟩ middle).dispatch script (Line.ofText number text)
        (LineText.pieces text) args)
      (LineText.carryOut number text args (seat.activity.scope number text middle)) := by
  rw [LineText.carryOut_unknown unknown, fail_apply]
  rw [← scope_state, ← Line.keyword_ofText number] at unknown
  cases tokens : tokenize text with
  | nil => exact (LineText.tokenize_ne_nil inert.1 tokens).elim
  | cons first others =>
      have split : (Line.ofText number text).tokens = first :: others := by
        rw [Line.ofText, tokens]
      have kept := (seat.activity.scope number text middle).kept_report
        ⟨.error, s!"Instruction {first} is not recognized.", .unrecognizedInstruction⟩
      rw [List.headD_cons, State.dispatch_unknown unknown split]
      exact .error kept rfl

theorem answers_refused {spec : Spec Meaning} {problem : String}
    (known : (seat.activity.scope number text middle).machine.lookup? (LineText.keyword text) =
      some spec)
    (refused : spec.arityProblem? args.length = some problem) :
    seat.Answers number text (seat.Follows script number text) middle
      ((seat.state ⟨number, some text⟩ middle).dispatch script (Line.ofText number text)
        (LineText.pieces text) args)
      (LineText.carryOut number text args (seat.activity.scope number text middle)) := by
  rw [LineText.carryOut_refused known refused]
  rw [← scope_state, ← Line.keyword_ofText number] at known
  rw [State.dispatch_refused known refused]
  exact .ok (Scope.kept_report _ _) ⟨⟨nofun, nofun⟩, "", rfl⟩

theorem answers_performed (inert : BlockKind.Inert text)
    (bare : (seat.activity.scope number text middle).machine.Bare)
    (length : args.length = (LineText.pieces text).length) {entry : Instruction.Entry}
    (listed : entry ∈ Instruction.allEntries) {origin : String}
    (name : entry.name = LineText.keyword text)
    (known : (seat.activity.scope number text middle).machine.lookup? (LineText.keyword text) =
      some ⟨entry.name, entry.minArgs, entry.maxArgs, .builtin entry.instruction, "", origin⟩)
    (supplied : (⟨entry.name, entry.minArgs, entry.maxArgs, .builtin entry.instruction, "", origin⟩
      : Spec Meaning).arityProblem? args.length = none) :
    seat.Answers number text (seat.Follows script number text) middle
      ((seat.state ⟨number, some text⟩ middle).dispatch script (Line.ofText number text)
        (LineText.pieces text) args)
      (LineText.carryOut number text args (seat.activity.scope number text middle)) := by
  have free := inert.free listed name
  have enough : entry.instruction.needed ≤ args.length :=
    Machine.lookup?_supplied known supplied _ rfl
  -- An inert line never reads the script, so carrying it out may use an empty one.
  have elsewhere := Instruction.perform_elsewhere free enough script (.ofLines "" [])
    (seat.state ⟨number, some text⟩ middle).inBody false number (LineText.pieces text)
  rw [LineText.carryOut_performed known supplied]
  rw [← scope_state, ← Line.keyword_ofText number] at known
  dsimp only [Meaning.perform]
  cases performed : entry.instruction.perform (.ofLines "" []) false number (LineText.pieces text)
      args (seat.activity.scope number text middle) with
  | ok flow after =>
      have simple := inert.flow listed name length (Spec.le_of_arityProblem? supplied) performed
      have kept := (Instruction.keeps_perform (Instruction.still_of_free free) enough).ok performed
      rw [← elsewhere] at performed
      rw [State.dispatch_ok known supplied performed, state_of_kept kept]
      exact .ok kept ⟨simple, entry.name, rfl⟩
  | error fault after =>
      obtain ⟨kept, readable⟩ := Instruction.readable_of_perform free enough bare performed
      obtain ⟨other, final, failed, keptLate, stops⟩ := LineText.failed_apply (α := Flow) entry.name
        (Meaning.exceptionCode origin) fault after
      rw [← elsewhere] at performed
      rw [State.dispatch_error known supplied performed, state_of_kept kept]
      dsimp only
      rw [failed, stops _ (scope_of_kept kept) readable]
      have keptStored : (seat.activity.scope number text after.store).Kept final := by
        rw [scope_of_kept kept]
        exact keptLate
      exact .error (kept.trans keptLate) (congrArg _ (state_of_kept keptStored))

theorem answers_carryOut (inert : BlockKind.Inert text)
    (bare : (seat.activity.scope number text middle).machine.Bare)
    (length : args.length = (LineText.pieces text).length) :
    seat.Answers number text (seat.Follows script number text) middle
      ((seat.state ⟨number, some text⟩ middle).dispatch script (Line.ofText number text)
        (LineText.pieces text) args)
      (LineText.carryOut number text args (seat.activity.scope number text middle)) := by
  cases known : (seat.activity.scope number text middle).machine.lookup? (LineText.keyword text) with
  | none => exact answers_unknown inert known
  | some spec =>
      cases supplied : spec.arityProblem? args.length with
      | some problem => exact answers_refused known supplied
      | none =>
          obtain ⟨entry, listed, origin, -, name, rfl⟩ := bare.lookup? known
          rw [LineText.keyword, Line.upper_keywordOf] at name
          exact answers_performed inert bare length listed name known supplied

theorem agrees_simple (ready : store.machine.Ready settings)
    (found : script.line? (cursor.line + 1) = some text) (inert : BlockKind.Inert text)
    (fits : LineText.Fits settings text) :
    seat.Agrees script bound 1 (seat.Follows script (cursor.line + 1) text)
        (.next (seat.state cursor store)) store
      (seat.activity.line (cursor.line + 1) text (LineText.carryOut (cursor.line + 1) text)  store) :=
  agrees_line ready found inert.1 fits fun _ _ _ _ resolved ready =>
    answers_carryOut inert ready.bare (Reference.length_resolveAll resolved)

end Seat

end LineScript
