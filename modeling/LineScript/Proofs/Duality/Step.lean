import LineScript.Proofs.Duality.Mirror
import LineScript.Proofs.Block.Line
import LineScript.Proofs.Block.Listing
import LineScript.Proofs.Settling

/-!
Steps of mirrored scripts. What an instruction asks for leads from states in step to states in step;
so does a line that stands in both scripts, if the searches that it can ask for agree, and so does
the end of a frame.
-/

namespace LineScript

open LineScript.Action

namespace Mirror

variable {mirror : Mirror} {state other : State}

/-! ## Starting frames -/

theorem Alike.enter (alike : mirror.Alike state other) {frame later : Frame}
    (frames : frame.unplaced = later.unplaced)
    (line : later.cursor.line = mirror.line frame.cursor.line) {waiting awaiting : Suspended}
    (waits : mirror.Waits waiting awaiting) :
    mirror.Agree (state.enter frame waiting) (other.enter later awaiting) := by
  unfold State.enter
  rw [← alike.depth]
  rcases Machine.unplaced_checkDepth alike.machine state.depth state.currentLine
    other.currentLine with ⟨free, freeOther⟩ | ⟨fault, after, last, refused, refusedOther, same⟩
  · rw [free, freeOther]
    exact .next ⟨⟨Scope.unplaced_mk alike.machine frames, .cons waits alike.suspended, rfl,
      alike.floor, alike.whole, alike.wholeOther⟩, line⟩
  · rw [refused, refusedOther]
    exact (alike.onMachine same).abort rfl

theorem line_definitionFrame {entry : String} (args : List String) {place : Nat}
    (found : mirror.first.entryLine? entry = some place) :
    (State.definitionFrame mirror.second entry args (mirror.line place)).cursor.line =
      mirror.line (State.definitionFrame mirror.first entry args place).cursor.line := by
  have inside := (Script.entryLine?_bounds found).2
  unfold State.definitionFrame
  dsimp only
  rw [Cursor.line_advance (Nat.zero_le _) (mirror.inside inside),
    Cursor.line_advance (Nat.zero_le _) inside]

theorem Alike.enter_definition (alike : mirror.Alike state other) {entry : String}
    (args : List String) {place : Nat} (found : mirror.first.entryLine? entry = some place)
    {waiting awaiting : Suspended} (waits : mirror.Waits waiting awaiting) :
    mirror.Agree (state.enter (State.definitionFrame mirror.first entry args place) waiting)
      (other.enter (State.definitionFrame mirror.second entry args (mirror.line place))
        awaiting) := by
  have frames : (State.definitionFrame mirror.first entry args place).unplaced =
      (State.definitionFrame mirror.second entry args (mirror.line place)).unplaced := rfl
  exact alike.enter frames (line_definitionFrame args found) waits

theorem InStep.waits (inStep : mirror.InStep state other) (wait : Wait) :
    mirror.Waits (.caller state.scope.frame wait) (.caller other.scope.frame wait) :=
  .caller wait inStep.frame inStep.line

theorem InStep.call (inStep : mirror.InStep state other) (keyword entry : String)
    (args : List String) :
    mirror.Agree (state.call mirror.first keyword entry args)
      (other.call mirror.second keyword entry args) := by
  unfold State.call
  rw [mirror.entryLine?]
  cases found : mirror.first.entryLine? entry with
  | none => exact .next ((inStep.reportMissing entry).keepReturned nullText)
  | some place => exact inStep.enter_definition args found (inStep.waits _)

theorem InStep.startPass (inStep : mirror.InStep state other) (loop : ExternalLoop) :
    mirror.Agree (state.startPass mirror.first loop) (other.startPass mirror.second loop) := by
  unfold State.startPass
  rw [mirror.entryLine?]
  cases found : mirror.first.entryLine? loop.body with
  | none => exact .next ((inStep.reportMissing loop.body).report _ _ _)
  | some place => exact inStep.enter_definition [] found (inStep.waits _)

/-! ## Loops -/

/-- Both runs come from an action to states in step, or it fails in both of them. -/
inductive Both {α : Type} (mirror : Mirror) (state other : State) (change : α → α) :
    EStateM.Result Fault Scope α → EStateM.Result Fault Scope α → Prop where
  | ok {scope last : Scope} (value : α)
      (inStep : mirror.InStep { state with scope } { other with scope := last }) :
      Both mirror state other change (.ok value scope) (.ok (change value) last)
  | error {fault given : Fault} {scope last : Scope} (faults : fault.unplaced = given.unplaced)
      (inStep : mirror.InStep { state with scope } { other with scope := last }) :
      Both mirror state other change (.error fault scope) (.error given last)

theorem InStep.act {α : Type} {action : Action α} (inStep : mirror.InStep state other)
    (uniform : Guise.unplaced.Uniform action) {faults : Fault → Prop} (keeps : Keeps faults action) :
    mirror.Both state other id (action state.scope) (action other.scope) := by
  have both := agree_of_uniform uniform inStep.scope
  generalize ended : action state.scope = result at both ⊢
  generalize endedOther : action other.scope = answer at both ⊢
  cases both with
  | ok values scopes =>
      cases values
      exact .ok _ (inStep.kept scopes (keeps.ok ended) (keeps.ok endedOther))
  | error faults scopes =>
      exact .error faults (inStep.kept scopes (keeps.raised ended).1 (keeps.raised endedOther).1)

theorem InStep.continueExternal (inStep : mirror.InStep state other) (loop : ExternalLoop) :
    mirror.Agree (state.continueExternal mirror.first loop)
      (other.continueExternal mirror.second loop) := by
  unfold State.continueExternal
  cases loop.plan with
  | count left =>
      cases left with
      | zero => exact .next inStep
      | succ left => exact inStep.startPass _
  | condition header =>
      have keeps : Keeps (fun _ => True) (loop.kind.condition true header) :=
        LoopKind.keeps_condition true header
      have both := inStep.act (LoopKind.uniform_condition true header) keeps
      dsimp only
      generalize loop.kind.condition true header state.scope = result at both ⊢
      generalize loop.kind.condition true header other.scope = answer at both ⊢
      cases both with
      | ok holds after =>
          cases holds with
          | true => exact after.startPass loop
          | false => exact .next after
      | error faults after => exact agree_instructionFault after _ _ faults

/-- The loop stands at the line of the frame and ends below it, in both scripts, and searches for its
end marker agree. -/
structure Fits (mirror : Mirror) (loop : InlineLoop) (place : Nat) : Prop where
  header : loop.header = place
  within : place ≤ mirror.first.lineCount
  jumps : mirror.Jumps place (.loop loop.kind) []
  ends : ∀ line ∈ loop.endLine, mirror.first.IsBelow place line ∧
    mirror.second.IsBelow (mirror.line place) (mirror.line line)

theorem InStep.startBody (inStep : mirror.InStep state other) {loop : InlineLoop}
    (fits : mirror.Fits loop state.scope.frame.cursor.line) :
    mirror.Agree (state.startBody mirror.first loop)
      (other.startBody mirror.second (mirror.loop loop)) := by
  have inside : loop.header ≤ mirror.first.lineCount := fits.header ▸ fits.within
  have frames (cursor place : Cursor) : ({ state.scope.frame with cursor } : Frame).unplaced =
      ({ other.scope.frame with cursor := place } : Frame).unplaced := inStep.frame
  refine Alike.enter inStep.toAlike (frames _ _) ?_ (.owner loop inStep.line fits.jumps)
  change (Cursor.start.advance mirror.second (mirror.line loop.header)).line =
    mirror.line (Cursor.start.advance mirror.first loop.header).line
  rw [Cursor.line_advance (Nat.zero_le _) (mirror.inside inside),
    Cursor.line_advance (Nat.zero_le _) inside]

theorem InStep.moved (inStep : mirror.InStep state other) {place : Nat}
    (below : mirror.first.IsBelow state.scope.frame.cursor.line place)
    (belowOther : mirror.second.IsBelow other.scope.frame.cursor.line (mirror.line place)) :
    mirror.InStep
      { state with
        scope := state.scope.movedTo (state.scope.frame.cursor.advance mirror.first place) }
      { other with
        scope := other.scope.movedTo
          (other.scope.frame.cursor.advance mirror.second (mirror.line place)) } := by
  refine inStep.inScope inStep.scope ?_
  change (Cursor.advance _ _ _).line = mirror.line (Cursor.advance _ _ _).line
  rw [Cursor.line_advance (Nat.le_of_lt below.1) below.2,
    Cursor.line_advance (Nat.le_of_lt belowOther.1) belowOther.2]

theorem InStep.jumpOut {α : Type} (inStep : mirror.InStep state other) {kind : BlockKind}
    {alternates : List String}
    (jumps : mirror.Jumps state.scope.frame.cursor.line kind alternates) {change : α → α} {value : α}
    (fixed : change value = value) :
    mirror.Both state other change
      ((Effect.jumpOut mirror.first kind.marker kind.closer alternates >>= fun _ => pure value :
        Action α) state.scope)
      ((Effect.jumpOut mirror.second kind.marker kind.closer alternates >>= fun _ => pure value :
        Action α) other.scope) := by
  unfold Jumps at jumps
  rw [← inStep.line] at jumps
  cases found : mirror.first.blockEnd? state.scope.frame.cursor.line kind.marker kind.closer
      alternates with
  | none =>
      rw [found] at jumps
      rw [Effect.jumpOut_bind_lost found, Effect.jumpOut_bind_lost jumps]
      exact .error (Scope.unplaced_failure inStep.scope _ _ _)
        (inStep.inScope (Scope.unplaced_report inStep.scope _) inStep.line)
  | some target =>
      rw [found] at jumps
      rw [Effect.jumpOut_bind_found found, Effect.jumpOut_bind_found jumps]
      have moved := inStep.moved (Script.blockEnd?_bounds found) (Script.blockEnd?_bounds jumps)
      have both : mirror.Both state other change (.ok value _) (.ok (change value) _) :=
        .ok value moved
      rwa [fixed] at both

theorem InStep.leaveLoop (inStep : mirror.InStep state other) {loop : InlineLoop}
    (fits : mirror.Fits loop state.scope.frame.cursor.line) (endLine : Option Nat)
    (known : ∀ line ∈ endLine, line ∈ loop.endLine) :
    mirror.Agree (state.leaveLoop mirror.first loop endLine)
      (other.leaveLoop mirror.second (mirror.loop loop) (endLine.map mirror.line)) := by
  unfold State.leaveLoop
  cases endLine with
  | some line =>
      obtain ⟨below, belowOther⟩ := fits.ends line (known line rfl)
      rw [← inStep.line] at belowOther
      dsimp only [Option.map_some]
      rw [Effect.jumpTo_forward (Nat.le_of_lt below.1),
        Effect.jumpTo_forward (Nat.le_of_lt belowOther.1)]
      exact .next (inStep.moved below belowOther)
  | none =>
      have both : mirror.Both state other id
          ((Effect.jumpOut mirror.first loop.kind.marker loop.kind.closer [] >>= fun _ => pure () :
            Action Unit) state.scope)
          ((Effect.jumpOut mirror.second (mirror.loop loop).kind.marker
            (mirror.loop loop).kind.closer [] >>= fun _ => pure () : Action Unit) other.scope) :=
        inStep.jumpOut fits.jumps rfl
      dsimp only [Option.map_none]
      revert both
      generalize (Effect.jumpOut mirror.first loop.kind.marker loop.kind.closer [] >>=
        fun _ => pure () : Action Unit) state.scope = result
      generalize (Effect.jumpOut mirror.second (mirror.loop loop).kind.marker
        (mirror.loop loop).kind.closer [] >>= fun _ => pure () : Action Unit) other.scope = answer
      intro both
      cases both with
      | ok _ after => exact .next after
      | error faults after => exact agree_instructionFault after _ _ faults

theorem InStep.continueInline (inStep : mirror.InStep state other) {loop : InlineLoop}
    (fits : mirror.Fits loop state.scope.frame.cursor.line) :
    mirror.Agree (state.continueInline mirror.first loop)
      (other.continueInline mirror.second (mirror.loop loop)) := by
  obtain ⟨kind, plan, header, endLine⟩ := loop
  unfold State.continueInline Mirror.loop
  dsimp only
  cases plan with
  | count left =>
      cases left with
      | zero => exact inStep.leaveLoop fits _ fun _ => id
      | succ left =>
          have again : mirror.Fits ⟨kind, .count left, header, endLine⟩
              state.scope.frame.cursor.line := ⟨fits.header, fits.within, fits.jumps, fits.ends⟩
          exact inStep.startBody again
  | condition pieces =>
      have keeps : Keeps (fun _ => True) (kind.condition false pieces) :=
        LoopKind.keeps_condition false pieces
      have both := inStep.act (LoopKind.uniform_condition false pieces) keeps
      dsimp only
      generalize checked : kind.condition false pieces state.scope = result at both ⊢
      generalize kind.condition false pieces other.scope = answer at both ⊢
      cases both with
      | @ok scope last holds after =>
          have still : mirror.Fits ⟨kind, .condition pieces, header, endLine⟩
              scope.frame.cursor.line := (keeps.ok checked).cursor ▸ fits
          cases holds with
          | true => exact after.startBody still
          | false => exact after.leaveLoop still _ fun _ => id
      | error faults after => exact agree_instructionFault after _ _ faults

theorem InStep.openInline (inStep : mirror.InStep state other) {loop : InlineLoop}
    (fits : mirror.Fits loop state.scope.frame.cursor.line) (entered : Bool) :
    mirror.Agree (state.openInline mirror.first loop entered)
      (other.openInline mirror.second (mirror.loop loop) entered) := by
  unfold State.openInline
  dsimp only
  rw [← inStep.entry, mirror.entryLine?]
  cases mirror.first.entryLine? state.scope.frame.entry with
  | none => exact (inStep.reportMissing _).abort rfl
  | some place =>
      cases entered with
      | true => exact inStep.startBody fits
      | false => exact inStep.continueInline fits

theorem InStep.follow (inStep : mirror.InStep state other) (keyword : String) {flow : Flow}
    (fits : ∀ loop entered, flow = .inline loop entered →
      mirror.Fits loop state.scope.frame.cursor.line) :
    mirror.Agree (state.follow mirror.first keyword flow)
      (other.follow mirror.second keyword (mirror.flow flow)) := by
  cases flow with
  | next => exact .next inStep
  | leave signal => exact .next (inStep.leaving signal)
  | call entry args => exact inStep.call keyword entry args
  | external loop entered =>
      cases entered with
      | true => exact inStep.startPass loop
      | false => exact inStep.continueExternal loop
  | inline loop entered => exact inStep.openInline (fits loop entered rfl) entered

/-! ## The end of a frame -/

theorem InStep.afterPass (inStep : mirror.InStep state other) (loop : ExternalLoop)
    (signal : Signal) :
    mirror.Agree (state.afterPass mirror.first loop signal)
      (other.afterPass mirror.second loop (mirror.signal signal)) := by
  cases signal with
  | broken value => exact .next (inStep.report _ _ _)
  | continued value => exact (inStep.report _ _ _).continueExternal loop
  | returned value => exact inStep.continueExternal loop
  | resume place value => exact inStep.continueExternal loop

theorem InStep.afterBody (inStep : mirror.InStep state other) {loop : InlineLoop} {signal : Signal}
    (fits : mirror.Fits (loop.after signal) state.scope.frame.cursor.line) :
    mirror.Agree (state.afterBody mirror.first loop signal)
      (other.afterBody mirror.second (mirror.loop loop) (mirror.signal signal)) := by
  cases signal with
  | resume place value => exact (inStep.keepReturned value).continueInline fits
  | continued value =>
      exact ((inStep.report _ _ _).keepReturned value).continueInline fits
  | returned value => exact .next ((inStep.report _ _ _).leaving (.returned value))
  | broken value => exact ((inStep.report _ _ _).keepReturned value).leaveLoop fits none nofun

theorem Alike.below (alike : mirror.Alike state other) {waiting awaiting : Suspended}
    {rest restOther : List Suspended} (waits : mirror.Waits waiting awaiting)
    (below : List.Forall₂ mirror.Waits rest restOther) :
    mirror.InStep (state.below waiting rest) (other.below awaiting restOther) := by
  obtain ⟨frames, line⟩ := waits.frame alike.frame
  exact ⟨⟨Scope.unplaced_mk alike.machine frames, below, rfl, alike.floor, alike.whole,
    alike.wholeOther⟩, line⟩

theorem Alike.handOver (alike : mirror.Alike state other) (inPlace : state.InPlace mirror.first)
    (inPlaceOther : other.InPlace mirror.second) {signal : Signal}
    (leaving : state.control = .leaving signal) :
    mirror.Agree (state.handOver mirror.first signal)
      (other.handOver mirror.second (mirror.signal signal)) := by
  -- Whatever waits on one side has its counterpart waiting on the other, in the same place.
  have leavingOther : other.control = .leaving (mirror.signal signal) := by
    rw [alike.control, leaving]
    rfl
  have suspended := alike.suspended
  cases waits : state.suspended with
  | nil =>
      rw [waits] at suspended
      have alone := List.forall₂_nil_left_iff.mp suspended
      rw [State.handOver_alone waits, State.handOver_alone alone]
      exact .finished signal alike
  | cons waiting rest =>
      rw [waits] at suspended
      obtain ⟨awaiting, restOther, corresponds, below, waitsOther⟩ :=
        List.forall₂_cons_left_iff.mp suspended
      have inStep := alike.below corresponds below
      have values : (mirror.signal signal).value = signal.value := by cases signal <;> rfl
      cases corresponds with
      | caller wait frames line =>
          cases wait with
          | call keyword =>
              rw [State.handOver_call waits, State.handOver_call waitsOther, values]
              exact .next (inStep.keepReturned _)
          | pass loop =>
              rw [State.handOver_pass waits, State.handOver_pass waitsOther, values]
              exact (inStep.keepReturned _).afterPass loop signal
      -- The loop may come away with an end marker, which lies below its header on both sides.
      | @owner cursor place loop line jumps =>
          rw [State.handOver_body waits, State.handOver_body waitsOther]
          have grounded := inPlace.grounded
          rw [waits] at grounded
          refine inStep.afterBody ⟨?_, grounded.2.2.proper.inside, ?_, ?_⟩
          · cases signal <;> exact grounded.2.1.1
          · cases signal <;> exact jumps
          · intro last ends
            refine ⟨inPlace.ends leaving waits last ends, ?_⟩
            have endsOther := inPlaceOther.ends leavingOther waitsOther (mirror.line last) (by
              cases signal <;> exact Option.mem_map_of_mem _ ends)
            rwa [line] at endsOther

/-! ## Lines that stand in both scripts -/

end Mirror

theorem Instruction.name_of_jump : ∀ entry ∈ allEntries,
    (entry.instruction = .ifBlock → entry.name = ifMarker.keyword) ∧
      (entry.instruction = .elseBlock → entry.name = BlockKind.divider) := by
  decide +kernel

theorem Meaning.keeps_perform {meaning : Meaning} {script : Script} {inBody : Bool} {number : Nat}
    {pieces : List Piece} {args : List String} (supplied : meaning.Supplied args)
    (stays : meaning ≠ .builtin .ifBlock) (remains : meaning ≠ .builtin .elseBlock) :
    Keeps (fun _ => True) (meaning.perform script inBody number pieces args) := by
  cases meaning with
  | added behavior => exact Effect.keeps_extend.weaken fun _ _ => trivial
  | builtin instruction =>
      have still : instruction.isJump = false := by
        cases instruction with
        | ifBlock => exact absurd rfl stays
        | elseBlock => exact absurd rfl remains
        | _ => rfl
      exact (Instruction.keeps_perform still (supplied instruction rfl)).weaken fun _ _ => trivial

namespace Mirror

variable {mirror : Mirror} {state other : State}

theorem flow_of_asks {inBody : Bool} {place : Nat} {pieces : List Piece} {meaning : Meaning}
    {flow given : Flow} (asks : Asks inBody place pieces meaning flow)
    (asksOther : Asks inBody (mirror.line place) pieces meaning given)
    (same : Guise.unplaced.flow flow = Guise.unplaced.flow given) : given = mirror.flow flow := by
  cases asks with
  | next => cases asksOther <;> first | rfl | cases same
  | @leave _ signal other =>
      cases asksOther with
      | @leave _ given otherGiven =>
          have signals := Flow.leave.inj same
          cases signal <;> cases given <;> first
            | exact congrArg Flow.leave signals.symm
            | exact absurd rfl (other _ _)
            | exact absurd rfl (otherGiven _ _)
      | resume kind value inside =>
          cases signal <;> first | exact absurd rfl (other _ _) | cases same
      | _ => cases same
  | resume kind value inside =>
      cases asksOther with
      | @leave _ given otherGiven =>
          cases given <;> first | exact absurd rfl (otherGiven _ _) | cases same
      | resume => cases same; rfl
      | _ => cases same
  | call entry args => cases asksOther <;> first | exact same.symm | cases same
  | external kind body planned => cases asksOther <;> first | exact same.symm | cases same
  | inline kind planned => cases asksOther <;> first | cases same; rfl | cases same

theorem opened_of_asks {machine : Machine} {script : Script} {inBody : Bool} {place : Nat}
    {text : String} {spec : Spec Meaning} {args : List String} {scope after : Scope}
    {loop : InlineLoop} {entered : Bool} (executed : LineText.isInstruction text = true)
    (found : machine.lookup? (LineText.keyword text) = some spec)
    (supplied : spec.arityProblem? args.length = none)
    (length : args.length = (LineText.pieces text).length)
    (performed : spec.action.perform script inBody place (LineText.pieces text) args scope =
      .ok (.inline loop entered) after) :
    (BlockKind.loop loop.kind).OpenedBy text ∧ loop.header = place ∧ loop.endLine = none := by
  have asks := (Meaning.perform_ok (Machine.lookup?_supplied found supplied) performed).1
  obtain ⟨kind, same⟩ : ∃ kind, spec.action = .builtin (.loop kind) := by
    generalize spec.action = meaning at asks
    cases asks
    exact ⟨_, rfl⟩
  rw [same] at performed
  have forms : State.Forms kind (Line.ofText place text) (.inline loop entered) :=
    State.forms_start length (Machine.arity_loop found same supplied) performed
  have written := Line.pieces_ofText place text
  have number : (Line.ofText place text).number = place := rfl
  generalize Line.ofText place text = line at forms written number
  cases forms with
  | inline exactly planned =>
      rw [written] at exactly
      have header : LineText.keyword text = kind.keyword := by
        rw [← Machine.lookup?_loop found same, LineText.keyword, Line.upper_keywordOf]
      have opens (number : Nat) : kind.marker.opens
          ⟨number, LineText.keyword text, (LineText.pieces text).length⟩ = true := by
        generalize (LineText.pieces text).length = argc at exactly ⊢
        exact (LoopKind.opens_iff _ header).mpr exactly
      exact ⟨⟨executed, opens⟩, number, rfl⟩

theorem seeks_of_jump {machine : Machine} {text : String} {spec : Spec Meaning}
    (found : machine.lookup? (LineText.keyword text) = some spec) :
    (spec.action = .builtin .ifBlock → LineText.Seeks text .conditional ["ELSE"]) ∧
      (spec.action = .builtin .elseBlock → LineText.Seeks text .conditional []) := by
  have upper : Text.upper (LineText.keyword text) = LineText.keyword text :=
    Line.upper_keywordOf _
  rcases Machine.lookup?_cases found with ⟨entry, listed, origin, -, name, rfl⟩ | ⟨added, -, rfl⟩
  · rw [upper] at name
    obtain ⟨header, divider⟩ := Instruction.name_of_jump entry listed
    exact ⟨fun same => .branch (name ▸ header (Meaning.builtin.inj same)),
      fun same => .divider (name ▸ divider (Meaning.builtin.inj same))⟩
  · exact ⟨nofun, nofun⟩

theorem InStep.perform (inStep : mirror.InStep state other) {place : Nat} {text : String}
    (here : state.scope.frame.cursor.line = place)
    (jumps : ∀ kind alternates, LineText.Seeks text kind alternates →
      mirror.Jumps place kind alternates)
    {args : List String} {spec : Spec Meaning}
    (found : state.scope.machine.lookup? (LineText.keyword text) = some spec)
    (supplied : spec.arityProblem? args.length = none) :
    mirror.Both state other mirror.flow
      (spec.action.perform mirror.first state.inBody place (LineText.pieces text) args state.scope)
      (spec.action.perform mirror.second other.inBody (mirror.line place) (LineText.pieces text)
        args other.scope) := by
  have enough := Machine.lookup?_supplied found supplied
  have seeks := seeks_of_jump found
  rw [← inStep.toAlike.inBody]
  by_cases branches : spec.action = .builtin .ifBlock
  · have taken := Scope.unplaced_branchTaken inStep.scope args
    rw [branches]
    dsimp only [Meaning.perform]
    cases decided : Effect.branchTaken state.scope args with
    | true =>
        rw [decided] at taken
        rw [Instruction.perform_ifBlock_taken decided, Instruction.perform_ifBlock_taken taken.symm]
        exact .ok Flow.next inStep
    | false =>
        rw [decided] at taken
        rw [Instruction.perform_ifBlock_skipped decided,
          Instruction.perform_ifBlock_skipped taken.symm]
        have skips : mirror.Jumps state.scope.frame.cursor.line .conditional ["ELSE"] :=
          here ▸ jumps _ _ (seeks.1 branches)
        exact inStep.jumpOut skips rfl
  by_cases divides : spec.action = .builtin .elseBlock
  · rw [divides]
    have skips : mirror.Jumps state.scope.frame.cursor.line .conditional [] :=
      here ▸ jumps _ _ (seeks.2 divides)
    exact inStep.jumpOut skips rfl
  -- Any other instruction stays at its line and does the same whatever the script is.
  have same (script : Script) (number : Nat) : Guise.unplaced.Carries Guise.unplaced.flow
      (spec.action.perform script state.inBody number (LineText.pieces text) args)
      (spec.action.perform mirror.first state.inBody 0 (LineText.pieces text) args) :=
    Meaning.carries_perform enough branches divides
  have keeps (script : Script) (number : Nat) : Keeps (fun _ => True)
      (spec.action.perform script state.inBody number (LineText.pieces text) args) :=
    Meaning.keeps_perform enough branches divides
  have both := agree_of_carries (same mirror.first place) (same mirror.second (mirror.line place))
    inStep.scope
  generalize ended : spec.action.perform mirror.first state.inBody place (LineText.pieces text) args
    state.scope = result at both ⊢
  generalize endedOther : spec.action.perform mirror.second state.inBody (mirror.line place)
    (LineText.pieces text) args other.scope = answer at both ⊢
  cases both with
  | ok flows scopes =>
      have corresponds := flow_of_asks (Meaning.perform_ok enough ended).1
        (Meaning.perform_ok enough endedOther).1 flows
      rw [corresponds]
      exact .ok _ (inStep.kept scopes ((keeps _ _).ok ended) ((keeps _ _).ok endedOther))
  | error faults scopes =>
      exact .error faults
        (inStep.kept scopes ((keeps _ _).raised ended).1 ((keeps _ _).raised endedOther).1)

theorem InStep.dispatch (inStep : mirror.InStep state other) {place : Nat} {text : String}
    (here : state.scope.frame.cursor.line = place) (executed : LineText.isInstruction text = true)
    (within : place ≤ mirror.first.lineCount)
    (jumps : ∀ kind alternates, LineText.Seeks text kind alternates →
      mirror.Jumps place kind alternates)
    {args : List String} (length : args.length = (LineText.pieces text).length) :
    mirror.Agree
      (state.dispatch mirror.first (Line.ofText place text) (LineText.pieces text) args)
      (other.dispatch mirror.second (Line.ofText (mirror.line place) text) (LineText.pieces text)
        args) := by
  have lookups := Machine.unplaced_lookup? inStep.machine (LineText.keyword text)
  have keyword (number : Nat) := Line.keyword_ofText number text
  cases found : state.scope.machine.lookup? (LineText.keyword text) with
  | none =>
      obtain ⟨name, others, tokens⟩ := List.exists_cons_of_ne_nil (LineText.tokenize_ne_nil executed)
      rw [State.dispatch_unknown (by rw [keyword, found]) tokens,
        State.dispatch_unknown (by rw [keyword, ← lookups, found]) tokens]
      exact inStep.abort_failure inStep.scope _ _ _
  | some spec =>
      have foundOther := lookups.symm.trans found
      rw [← keyword place] at found
      rw [← keyword (mirror.line place)] at foundOther
      cases supplied : spec.arityProblem? args.length with
      | some problem =>
          rw [State.dispatch_refused found supplied, State.dispatch_refused foundOther supplied]
          exact .next (inStep.report _ _ _)
      | none =>
          rw [keyword] at found
          have both := inStep.perform here jumps found supplied
          generalize ended : spec.action.perform mirror.first state.inBody place
            (LineText.pieces text) args state.scope = result at both
          generalize endedOther : spec.action.perform mirror.second other.inBody
            (mirror.line place) (LineText.pieces text) args other.scope = answer at both
          rw [← keyword place] at found
          cases both with
          | error faults after =>
              rw [State.dispatch_error found supplied ended,
                State.dispatch_error foundOther supplied endedOther]
              exact agree_instructionFault after _ _ faults
          | @ok scope last flow after =>
              rw [State.dispatch_ok found supplied ended,
                State.dispatch_ok foundOther supplied endedOther]
              -- A loop is opened by the line it stands on, and has no end marker yet.
              refine after.follow _ fun loop entered same => ?_
              subst same
              rw [keyword] at found
              obtain ⟨opened, header, unended⟩ :=
                opened_of_asks executed found supplied length ended
              have still : scope.frame.cursor.line = place := by
                rcases (Meaning.perform_ok (Machine.lookup?_supplied found supplied) ended).2 with
                  kept | ⟨same, -⟩
                · exact (congrArg Cursor.line kept.cursor).trans here
                · cases same
              change mirror.Fits loop scope.frame.cursor.line
              rw [still]
              refine ⟨header, within, jumps _ _ (.loop _ opened), fun line ends => ?_⟩
              rw [unended] at ends
              cases ends

theorem InStep.resolve (inStep : mirror.InStep state other) (pieces : List Piece) :
    mirror.Both state other id (Reference.resolveAll pieces state.scope)
      (Reference.resolveAll pieces other.scope) := by
  have keeps : Keeps (fun _ => True) (Reference.resolveAll pieces) := Reference.keeps_resolveAll _
  exact inStep.act (Reference.uniform_resolveAll pieces) keeps

theorem InStep.executePieces (inStep : mirror.InStep state other) {place : Nat} {text : String}
    (here : state.scope.frame.cursor.line = place) (executed : LineText.isInstruction text = true)
    (within : place ≤ mirror.first.lineCount)
    (jumps : ∀ kind alternates, LineText.Seeks text kind alternates →
      mirror.Jumps place kind alternates) :
    mirror.Agree
      (state.executePieces mirror.first (Line.ofText place text) (LineText.pieces text))
      (other.executePieces mirror.second (Line.ofText (mirror.line place) text)
        (LineText.pieces text)) := by
  have keeps : Keeps (fun _ => True) (Reference.resolveAll (LineText.pieces text)) :=
    Reference.keeps_resolveAll _
  have both := inStep.resolve (LineText.pieces text)
  unfold State.executePieces
  generalize resolved : Reference.resolveAll (LineText.pieces text) state.scope = result at both ⊢
  generalize Reference.resolveAll (LineText.pieces text) other.scope = answer at both ⊢
  cases both with
  | error faults after => exact agree_lineFault after.toAlike faults
  | ok args after =>
      exact after.dispatch ((congrArg Cursor.line (keeps.ok resolved).cursor).trans here) executed
        within jumps (Reference.length_resolveAll resolved)

theorem InStep.execute (inStep : mirror.InStep state other) {place : Nat} {text : String}
    (here : state.scope.frame.cursor.line = place) (executed : LineText.isInstruction text = true)
    (within : place ≤ mirror.first.lineCount)
    (jumps : ∀ kind alternates, LineText.Seeks text kind alternates →
      mirror.Jumps place kind alternates) :
    mirror.Agree (state.execute mirror.first (Line.ofText place text))
      (other.execute mirror.second (Line.ofText (mirror.line place) text)) := by
  have pieces := inStep.executePieces here executed within jumps
  have tokens (number : Nat) : (Line.ofText number text).tokens = tokenize text := by
    unfold Line.ofText
    rfl
  unfold State.execute
  rw [Machine.unplaced_settings inStep.machine, Line.pieces_ofText, Line.pieces_ofText]
  cases other.scope.machine.settings.maxArgs with
  | none =>
      cases written : LineText.pieces text with
      | nil =>
          rw [written] at pieces
          rw [if_pos List.isEmpty_nil, if_pos List.isEmpty_nil]
          exact pieces
      | cons first rest =>
          rw [if_neg (by simp), if_neg (by simp)]
          exact agree_lineFault inStep.toAlike rfl
  | some limit =>
      dsimp only
      rw [tokens, tokens]
      cases fits : pieces? limit (tokenize text) with
      | error fault => exact .next (inStep.report _ _ _)
      | ok found =>
          have written : found = LineText.pieces text := eq_piecesOf_of_pieces? fits
          rw [written]
          exact pieces

/-- The line is the same in both scripts, and so is what it can ask for. -/
structure Twin (mirror : Mirror) (place : Nat) : Prop where
  next : mirror.line (place + 1) = mirror.line place + 1
  line? : mirror.second.line? (mirror.line place + 1) = mirror.first.line? (place + 1)
  jumps : ∀ text, mirror.first.line? (place + 1) = some text →
    LineText.isInstruction text = true → ∀ kind alternates,
      LineText.Seeks text kind alternates → mirror.Jumps (place + 1) kind alternates

theorem InStep.onLine (inStep : mirror.InStep state other)
    (next : mirror.line (state.scope.frame.cursor.line + 1) =
      mirror.line state.scope.frame.cursor.line + 1) (text : String) :
    mirror.InStep (state.onLine text) (other.onLine text) := by
  refine ⟨⟨inStep.scope, inStep.suspended, inStep.control, inStep.floor, inStep.whole,
    inStep.wholeOther⟩, ?_⟩
  change other.scope.frame.cursor.line + 1 = mirror.line (state.scope.frame.cursor.line + 1)
  rw [next, inStep.line]

end Mirror

theorem State.line_told (state : State) (text : String) :
    (state.told text).scope.frame.cursor.line = state.scope.frame.cursor.line + 1 := by
  rw [(state.same_told text).frame]
  rfl

namespace Mirror

variable {mirror : Mirror} {state other : State}

theorem unplaced_record (state : State) (line : Line) :
    (state.record line).scope.unplaced = state.scope.unplaced := by
  unfold State.record
  dsimp only
  split <;> rfl

theorem Alike.told (alike : mirror.Alike state other) (text given : String) :
    mirror.Alike (state.told text) (other.told given) ∧
      Machine.Heard (state.announced text) (other.announced given) := by
  have recorded : (state.recorded text).scope.unplaced = (other.recorded given).scope.unplaced := by
    unfold State.recorded
    rw [unplaced_record, unplaced_record]
    exact alike.scope
  have heard : Machine.Heard (state.announced text) (other.announced given) := by
    unfold State.announced
    exact Machine.heard_announce (Scope.unplaced_machine recorded) _ _ rfl
  obtain ⟨machine, -, recordedHere⟩ := (state.onLine text).record_eq
    (Line.ofText (state.scope.frame.cursor.line + 1) text)
  obtain ⟨machineOther, -, recordedThere⟩ := (other.onLine given).record_eq
    (Line.ofText (other.scope.frame.cursor.line + 1) given)
  unfold State.told
  unfold State.recorded at recorded ⊢
  rw [recordedHere, recordedThere] at recorded ⊢
  exact ⟨⟨Scope.unplaced_mk heard.machine (Scope.unplaced_frame recorded), alike.suspended,
    alike.control, alike.floor, alike.whole, alike.wholeOther⟩, heard⟩

theorem Alike.advance_instruction (alike : mirror.Alike state other) {text given : String}
    (found : mirror.first.line? (state.scope.frame.cursor.line + 1) = some text)
    (foundOther : mirror.second.line? (other.scope.frame.cursor.line + 1) = some given)
    (executed : LineText.isInstruction text = true)
    (executedOther : LineText.isInstruction given = true)
    (executes : mirror.Alike (state.told text) (other.told given) →
      mirror.Agree
        ((state.told text).execute mirror.first
          (Line.ofText (state.scope.frame.cursor.line + 1) text))
        ((other.told given).execute mirror.second
          (Line.ofText (other.scope.frame.cursor.line + 1) given))) :
    mirror.Agree (state.advance mirror.first) (other.advance mirror.second) := by
  obtain ⟨told, heard⟩ := alike.told text given
  rw [State.advance_instruction found executed, State.advance_instruction foundOther executedOther]
  rcases heard.cases with ⟨silent, silentOther⟩ | ⟨fault, replaced, answered, answeredOther, same⟩
  · rw [silent, silentOther]
    exact executes told
  · rw [answered, answeredOther]
    exact told.abort same

theorem InStep.advance (inStep : mirror.InStep state other)
    (twin : mirror.Twin state.scope.frame.cursor.line) :
    mirror.Agree (state.advance mirror.first) (other.advance mirror.second) := by
  have found := twin.line?
  rw [← inStep.line] at found
  cases read : mirror.first.line? (state.scope.frame.cursor.line + 1) with
  | none =>
      rw [read] at found
      have last (script : Script) (place : Nat) (none : script.line? (place + 1) = none) :
          script.lineCount ≤ place := by
        rw [Script.line?_succ, List.getElem?_eq_none_iff] at none
        simpa [Script.lineCount] using none
      rw [State.advance_end (last _ _ read), State.advance_end (last _ _ found)]
      exact .next ⟨⟨inStep.scope, inStep.suspended, rfl, inStep.floor, inStep.whole,
        inStep.wholeOther⟩, inStep.line⟩
  | some text =>
      rw [read] at found
      have onLine := inStep.onLine twin.next text
      cases executed : LineText.isInstruction text with
      | true =>
          refine inStep.toAlike.advance_instruction read found executed executed fun told => ?_
          have here := state.line_told text
          have there := other.line_told text
          have corresponds : other.scope.frame.cursor.line + 1 =
              mirror.line (state.scope.frame.cursor.line + 1) := by
            rw [twin.next, inStep.line]
          rw [corresponds] at there ⊢
          have toldInStep : mirror.InStep (state.told text) (other.told text) :=
            ⟨told, by rw [here, there]⟩
          exact toldInStep.execute here executed (Script.line?_lt read) (twin.jumps text read executed)
      | false =>
          cases blank : isSkippable text with
          | true =>
              rw [State.advance_blank read blank, State.advance_blank found blank]
              exact .next onLine
          | false =>
              have directive : isDirective text = true := by
                simpa [LineText.isInstruction, blank] using executed
              rw [State.advance_directive read blank directive,
                State.advance_directive found blank directive]
              refine .next (onLine.onMachine ?_)
              rw [Directive.unplaced_apply, Directive.unplaced_apply, onLine.machine]

end Mirror

end LineScript
