import LineScript.Proofs.Block.Seat
import LineScript.Proofs.Jump

/-!
The lines of a block one by one: what a step does at a line is what the line means. The arguments of
a line are read first; then its instruction goes on to the next line, jumps over a branch, starts a
loop or ends the frame.
-/

namespace LineScript

open LineScript.Action

/-! ## Reading a line -/

theorem Line.keyword_ofText (number : Nat) (text : String) :
    (Line.ofText number text).keyword = LineText.keyword text := by
  unfold Line.keyword Line.ofText LineText.keyword
  rfl

theorem Line.pieces_ofText (number : Nat) (text : String) :
    piecesOf (Line.ofText number text).tokens = LineText.pieces text := by
  unfold Line.ofText LineText.pieces
  rfl

theorem LineText.Fits.allows {settings : Settings} {text : String} (fits : Fits settings text)
    (number : Nat) : settings.Allows (Line.ofText number text).tokens := by
  unfold Settings.Allows
  rw [Line.pieces_ofText]
  rcases fits with empty | ⟨limit, member, least⟩
  · rw [empty]
    exact Int.le_max_right _ _
  · rw [Option.mem_def.mp member]
    exact Int.le_trans least (Int.le_max_left _ _)

theorem State.execute_fits {script : Script} {state : State} {number : Nat} {text : String}
    (fits : LineText.Fits state.scope.machine.settings text) :
    state.execute script (Line.ofText number text) =
      state.executePieces script (Line.ofText number text) (LineText.pieces text) := by
  rw [execute_allowed (fits.allows number), Line.pieces_ofText]

namespace Seat

variable {script : Script} {seat : Seat} {settings : Settings} {store : Store} {cursor : Cursor}
  {number bound : Nat} {text : String} {α : Type} {finish : α → Store → Step → Prop}

def recorded (seat : Seat) (number : Nat) (store : Store) : Store :=
  { store with
    machine :=
      if store.machine.settings.tracing then
        { store.machine with
          trace := ⟨seat.activity.depth, seat.entry, number, store.machine.compareFlag,
            store.machine.returned⟩ :: store.machine.trace }
      else store.machine }

theorem kept_recorded (seat : Seat) (number : Nat) (store : Store) :
    store.machine.Kept (seat.recorded number store).machine := by
  unfold recorded
  dsimp only
  split
  · exact ⟨rfl, rfl, rfl, rfl, rfl, rfl, rfl, List.suffix_rfl⟩
  · exact .refl _

theorem record_apply (number : Nat) (text : String) (store : Store) :
    seat.activity.record number (seat.activity.scope number text store) =
      .ok () (seat.activity.scope number text (seat.recorded number store)) :=
  rfl

theorem scope_state (number : Nat) (text : String) (store : Store) :
    (seat.state ⟨number, some text⟩ store).scope = seat.activity.scope number text store :=
  rfl

theorem step_instruction (ready : store.machine.Ready settings)
    (found : script.line? (cursor.line + 1) = some text)
    (instruction : LineText.isInstruction text = true) (fits : LineText.Fits settings text) :
    (seat.state cursor store).step script =
      (seat.state ⟨cursor.line + 1, some text⟩ (seat.recorded (cursor.line + 1) store)).executePieces
        script (Line.ofText (cursor.line + 1) text) (LineText.pieces text) := by
  have read : (seat.state cursor store).recorded text =
      seat.state ⟨cursor.line + 1, some text⟩ (seat.recorded (cursor.line + 1) store) := by
    change (seat.state ⟨cursor.line + 1, some text⟩ store).record
      (Line.ofText (cursor.line + 1) text) = _
    unfold State.record recorded
    dsimp only
    rw [depth_state]
    change (if store.machine.settings.tracing = true then _ else _) = _
    split
    · rfl
    · rfl
  have kept := kept_recorded seat (cursor.line + 1) store
  have silent : (seat.state cursor store).announced text =
      ((seat.recorded (cursor.line + 1) store).machine, none) := by
    unfold State.announced
    rw [read]
    exact Machine.announce_plain (kept.bare ready.bare).services _ _
  change (seat.state cursor store).advance script = _
  rw [State.advance_instruction found instruction, silent, read]
  refine State.execute_fits ?_
  change LineText.Fits (seat.recorded (cursor.line + 1) store).machine.settings text
  rw [(kept.ready ready).settings]
  exact fits

inductive Answers (seat : Seat) (number : Nat) (text : String) (finish : α → Store → Step → Prop)
    (store : Store) (last : Step) : EStateM.Result Fault Scope α → Prop where
  | ok {value : α} {scope : Scope} (kept : (seat.activity.scope number text store).Kept scope)
      (done : finish value scope.store last) : Answers seat number text finish store last
        (.ok value scope)
  | error {fault : Fault} {scope : Scope}
      (kept : (seat.activity.scope number text store).Kept scope)
      (stops : last = .stop (.failed fault) (seat.state ⟨number, some text⟩ scope.store)) :
      Answers seat number text finish store last (.error fault scope)

theorem agrees_act {action : Action α} {last : Step}
    (answers : seat.Answers number text finish store last
      (action (seat.activity.scope number text store))) :
    seat.Agrees script bound 0 finish last store
      (seat.activity.act number text action store) := by
  unfold Activity.act
  generalize action (seat.activity.scope number text store) = done at answers
  cases answers with
  | ok kept done => exact agrees_now kept.machine done
  | error kept stops => exact agrees_now kept.machine ⟨_, stops, rfl, State.locals_outermost _⟩

theorem agrees_line {action : List String → Action α} (ready : store.machine.Ready settings)
    (found : script.line? (cursor.line + 1) = some text)
    (instruction : LineText.isInstruction text = true) (fits : LineText.Fits settings text)
    (answers : ∀ args early middle, early.machine.Ready settings →
      Reference.resolveAll (LineText.pieces text) early =
        .ok args (seat.activity.scope (cursor.line + 1) text middle) →
      middle.machine.Ready settings →
      seat.Answers (cursor.line + 1) text finish middle
        ((seat.state ⟨cursor.line + 1, some text⟩ middle).dispatch script
          (Line.ofText (cursor.line + 1) text) (LineText.pieces text) args)
        (action args (seat.activity.scope (cursor.line + 1) text middle))) :
    seat.Agrees script bound 1 finish (.next (seat.state cursor store)) store
      (seat.activity.line (cursor.line + 1) text action store) := by
  have kept := kept_recorded seat (cursor.line + 1) store
  have keeps : Keeps (fun _ => False) (Reference.resolveAll (LineText.pieces text)) :=
    Reference.keeps_resolveAll _
  have step : Step.Leads script 1 (.next (seat.state cursor store)) _ := .next (.refl _)
  rw [step_instruction ready found instruction fits, State.executePieces, scope_state] at step
  rw [Activity.line, Activity.act, bind_apply, record_apply]
  dsimp only
  rw [bind_apply]
  cases resolved : Reference.resolveAll (LineText.pieces text)
      (seat.activity.scope (cursor.line + 1) text (seat.recorded (cursor.line + 1) store)) with
  | error fault scope =>
      obtain ⟨same, expected⟩ := keeps.fault resolved
      -- Without extensions no variable refuses to be read, so only an interruption is left.
      have interrupted : fault = .interrupted := by
        rcases expected (kept.bare ready.bare) with impossible | ⟨interrupted, -⟩
        · exact impossible.elim
        · exact interrupted
      rw [resolved] at step
      dsimp only at step
      rw [state_of_kept same, interrupted] at step
      refine Agrees.after (agrees_now (.refl _) ?_) (kept.trans same.machine) step
      rw [interrupted]
      exact ⟨_, rfl, rfl, State.locals_outermost _⟩
  | ok args scope =>
      have same := keeps.ok resolved
      rw [resolved] at step
      dsimp only at step
      rw [state_of_kept same] at step
      have answer := answers args _ scope.store (kept.ready ready)
        (by rw [resolved, scope_of_kept same]) ((kept.trans same.machine).ready ready)
      have agrees : seat.Agrees script (bound - 1) 0 finish _ _ _ := agrees_act answer
      rw [Activity.act, scope_of_kept same] at agrees
      exact agrees.after (kept.trans same.machine) step

end Seat

/-! ## The lines around blocks -/

theorem Piece.resolve_names {piece : Piece} {name : String} (names : piece.Names name)
    {scope : Scope} (extended : scope.machine.extended = true) :
    Reference.resolveAll [piece] scope = .ok [name] scope := by
  have one : Reference.resolvePiece piece scope = .ok name scope := by
    unfold Piece.Names at names
    unfold Reference.resolvePiece
    split at names
    · next quoted =>
        rw [if_pos quoted, names]
        rfl
    · next plain =>
        rw [if_neg plain]
        change ((Reference.ofChars scope.machine.extended piece.text.toList).within
          scope.machine.host).eval scope = _
        rw [extended, names]
        unfold Reference.within
        cases scope.machine.host.marks <;> rfl
  rw [Reference.resolveAll, List.mapM_cons, bind_apply, one]
  rfl

theorem Spec.arityProblem?_eq_none {α : Type} {spec : Spec α} {supplied : Int}
    (least : spec.minArgs ≤ supplied) (most : ∀ limit ∈ spec.maxArgs, supplied ≤ limit) :
    spec.arityProblem? supplied = none := by
  unfold arityProblem?
  rw [if_neg (by omega)]
  cases limited : spec.maxArgs with
  | none => rfl
  | some limit =>
      have bound := most limit limited
      exact if_neg (by omega)

section Dispatch

variable {script : Script} {state : State} {line : Line} {pieces : List Piece}
  {args : List String} {flow : Flow} {fault : Fault} {scope : Scope}

theorem State.dispatch_ok {spec : Spec Meaning}
    (known : state.scope.machine.lookup? line.keyword = some spec)
    (supplied : spec.arityProblem? args.length = none)
    (performed : spec.action.perform script state.inBody line.number pieces args state.scope =
      .ok flow scope) :
    state.dispatch script line pieces args = { state with scope }.follow script spec.name flow := by
  unfold dispatch
  simp only [known, supplied, performed]

theorem State.dispatch_error {spec : Spec Meaning}
    (known : state.scope.machine.lookup? line.keyword = some spec)
    (supplied : spec.arityProblem? args.length = none)
    (performed : spec.action.perform script state.inBody line.number pieces args state.scope =
      .error fault scope) :
    state.dispatch script line pieces args =
      { state with scope }.instructionFault spec.name (Meaning.exceptionCode spec.origin)
        fault := by
  unfold dispatch
  simp only [known, supplied, performed]

theorem State.dispatch_refused {spec : Spec Meaning} {problem : String}
    (known : state.scope.machine.lookup? line.keyword = some spec)
    (refused : spec.arityProblem? args.length = some problem) :
    state.dispatch script line pieces args =
      .next (state.report .error problem .missingArguments) := by
  unfold dispatch
  simp only [known, refused]

theorem State.dispatch_unknown {name : String} {others : List String}
    (unknown : state.scope.machine.lookup? line.keyword = none)
    (tokens : line.tokens = name :: others) :
    state.dispatch script line pieces args =
      let message := s!"Instruction {name} is not recognized."
      let scope := state.scope.reportFailure message .unrecognizedInstruction
      .stop (.failed (.failure (scope.failure .unrecognizedInstruction message
        .unrecognizedInstruction))) { state with scope } := by
  unfold dispatch
  simp only [unknown, tokens]
  rfl

def Machine.Knows (machine : Machine) (keyword : String) (least : Int) (most : Option Int)
    (instruction : Instruction) : Prop :=
  ∃ origin, machine.lookup? keyword = some ⟨keyword, least, most, .builtin instruction, "", origin⟩

end Dispatch

namespace Machine

variable {machine : Machine}

theorem knows_conditional : machine.Knows "IF" 0 (some 2) .ifBlock :=
  ⟨"core", lookup?_core (by rfl : Instruction.core.get? "IF" = some ⟨_, _, _, _, _, _⟩)⟩

theorem knows_divider : machine.Knows "ELSE" 0 none .elseBlock :=
  ⟨"core", lookup?_core (by rfl : Instruction.core.get? "ELSE" = some ⟨_, _, _, _, _, _⟩)⟩

theorem knows_endIf : machine.Knows "ENDIF" 0 none .endIf :=
  ⟨"core", lookup?_core (by rfl : Instruction.core.get? "ENDIF" = some ⟨_, _, _, _, _, _⟩)⟩

theorem knows_endDefinition {keyword : String} (member : keyword ∈ ["ENDDEF", "EDEF"]) :
    machine.Knows keyword 0 (some 1) .endDefinition := by
  simp only [List.mem_cons, List.not_mem_nil, or_false] at member
  rcases member with rfl | rfl
  · exact ⟨"core", lookup?_core (by rfl : Instruction.core.get? "ENDDEF" = some ⟨_, _, _, _, _, _⟩)⟩
  · exact ⟨"core", lookup?_core (by rfl : Instruction.core.get? "EDEF" = some ⟨_, _, _, _, _, _⟩)⟩

theorem knows_loop (extended : machine.extended = true) (kind : LoopKind) :
    machine.Knows kind.keyword kind.inlineArity (some (kind.inlineArity + 1)) (.loop kind) := by
  have absent : Instruction.core.get? kind.keyword = none := by cases kind <;> rfl
  have found : Instruction.extended.get? kind.keyword = some ⟨kind.keyword, kind.inlineArity,
      some (kind.inlineArity + 1), .loop kind, "", "extended"⟩ := by cases kind <;> rfl
  exact ⟨"extended", lookup?_extended extended absent found⟩

theorem knows_endLoop (extended : machine.extended = true) (kind : LoopKind) :
    machine.Knows kind.closer 0 none (.endLoop kind) := by
  have absent : Instruction.core.get? kind.closer = none := by cases kind <;> rfl
  have found : Instruction.extended.get? kind.closer = some ⟨kind.closer, 0, none,
      .endLoop kind, "", "extended"⟩ := by cases kind <;> rfl
  exact ⟨"extended", lookup?_extended extended absent found⟩

end Machine

namespace State

variable {script : Script} {state : State} {number : Nat} {text : String} {scope : Scope}

theorem execute_word {least : Int} {most : Option Int} {instruction : Instruction}
    (fits : LineText.Fits state.scope.machine.settings text) {args : List String}
    (resolved : Reference.resolveAll (LineText.pieces text) state.scope = .ok args scope)
    (known : scope.machine.Knows (LineText.keyword text) least most instruction)
    (low : least ≤ args.length) (high : ∀ limit ∈ most, (args.length : Int) ≤ limit)
    {after : Scope}
    (performed : instruction.perform script state.inBody number (LineText.pieces text) args scope =
      .ok .next after) :
    state.execute script (Line.ofText number text) = .next { state with scope := after } := by
  obtain ⟨origin, known⟩ := known
  rw [execute_fits fits, executePieces, resolved]
  dsimp only
  rw [dispatch_ok (by rw [Line.keyword_ofText]; exact known) (Spec.arityProblem?_eq_none low high)
    (by exact performed)]
  rfl

theorem execute_fault (fits : LineText.Fits state.scope.machine.settings text) {fault : Fault}
    (unresolved : Reference.resolveAll (LineText.pieces text) state.scope = .error fault scope) :
    state.execute script (Line.ofText number text) = { state with scope }.lineFault fault := by
  rw [execute_fits fits, executePieces, unresolved]

theorem execute_unlimited (unlimited : state.scope.machine.settings.maxArgs = none)
    (some : LineText.pieces text ≠ []) :
    state.execute script (Line.ofText number text) =
      state.lineFault (.exception .incomparable) := by
  rw [execute, unlimited]
  dsimp only
  rw [Line.pieces_ofText, if_neg (by simpa using some)]

end State

namespace Seat

variable {script : Script} {seat : Seat} {settings : Settings} {store : Store} {cursor : Cursor}
  {text : String} {bound : Nat}

theorem dispatch_word {number : Nat} {pieces : List Piece} {args : List String} {least : Int}
    {most : Option Int} {instruction : Instruction} {flow : Flow} {scope : Scope}
    (known : store.machine.Knows (LineText.keyword text) least most instruction)
    (low : least ≤ args.length) (high : ∀ limit ∈ most, (args.length : Int) ≤ limit)
    (performed : instruction.perform script (seat.state ⟨number, some text⟩ store).inBody number
      pieces args (seat.activity.scope number text store) = .ok flow scope) :
    (seat.state ⟨number, some text⟩ store).dispatch script (Line.ofText number text) pieces args =
      { seat.state ⟨number, some text⟩ store with scope }.follow script (LineText.keyword text)
        flow := by
  obtain ⟨origin, known⟩ := known
  have supplied : (⟨LineText.keyword text, least, most, .builtin instruction, "", origin⟩ :
      Spec Meaning).arityProblem? args.length = none := Spec.arityProblem?_eq_none low high
  have found : (seat.state ⟨number, some text⟩ store).scope.machine.lookup?
      (Line.ofText number text).keyword = _ := (Line.keyword_ofText number text).symm ▸ known
  exact State.dispatch_ok found supplied performed

theorem atLine_advance {number target : Nat} {after : Store} (later : number < target)
    (bound : target ≤ script.lineCount) :
    seat.AtLine target () after
      (.next (seat.state ((⟨number, some text⟩ : Cursor).advance script target) after)) := by
  rw [Cursor.advance_forward later bound]
  exact ⟨_, rfl⟩

theorem agrees_condition (ready : store.machine.Ready settings)
    (found : script.line? (cursor.line + 1) = some text)
    (opened : BlockKind.conditional.OpenedBy text) (inside : LineText.Inside settings text)
    {target : Nat}
    (skip : script.blockEnd? (cursor.line + 1 : Nat) ifMarker "ENDIF" ["ELSE"] = some target) :
    seat.Agrees script bound 1
        (fun taken => seat.AtLine (if taken = true then cursor.line + 1 else target) ())
        (.next (seat.state cursor store)) store
      (seat.activity.line (cursor.line + 1) text
        (fun args => do return Effect.branchTaken (← get) args) store) := by
  refine agrees_line ready found opened.1 inside.fits ?_
  intro args early middle _ resolved _
  refine .ok (.refl _) ?_
  have length := Reference.length_resolveAll resolved
  have few := inside.condition opened.keyword
  have known : middle.machine.Knows (LineText.keyword text) 0 (some 2) .ifBlock := by
    rw [opened.keyword]
    exact Machine.knows_conditional
  have high : ∀ limit ∈ some (2 : Int), (args.length : Int) ≤ limit := by
    simp only [Option.mem_def, Option.some.injEq, forall_eq']
    omega
  cases taken : Effect.branchTaken (seat.activity.scope (cursor.line + 1) text middle) args with
  | true =>
      rw [dispatch_word known (Int.natCast_nonneg _) high
        (Instruction.perform_ifBlock_taken taken)]
      exact ⟨_, rfl⟩
  | false =>
      obtain ⟨later, bound⟩ := Script.blockEnd?_bounds skip
      rw [dispatch_word known (Int.natCast_nonneg _) high
        (Instruction.perform_ifBlock_found taken skip)]
      exact atLine_advance later bound

theorem agrees_divider (ready : store.machine.Ready settings)
    (found : script.line? (cursor.line + 1) = some text) (divided : BlockKind.DividedBy text)
    (fits : LineText.Fits settings text) {target : Nat}
    (skip : script.blockEnd? (cursor.line + 1 : Nat) ifMarker "ENDIF" [] = some target) :
    seat.Agrees script bound 1 (seat.AtLine target) (.next (seat.state cursor store)) store
      (seat.activity.line (cursor.line + 1) text (fun _ => pure ()) store) := by
  refine agrees_line ready found divided.1 fits ?_
  intro args early middle _ _ _
  have known : middle.machine.Knows (LineText.keyword text) 0 none .elseBlock := by
    rw [divided.2]
    exact Machine.knows_divider
  obtain ⟨later, bound⟩ := Script.blockEnd?_bounds skip
  rw [dispatch_word known (Int.natCast_nonneg _) (by simp)
    (Instruction.perform_elseBlock_found skip)]
  exact .ok (.refl _) (atLine_advance later bound)

theorem agrees_endIf (ready : store.machine.Ready settings)
    (found : script.line? (cursor.line + 1) = some text)
    (closed : BlockKind.conditional.ClosedBy text) (fits : LineText.Fits settings text) :
    seat.Agrees script bound 1 (seat.AtLine (cursor.line + 1)) (.next (seat.state cursor store)) store
      (seat.activity.line (cursor.line + 1) text (fun _ => pure ()) store) := by
  refine agrees_line ready found closed.1 fits ?_
  intro args early middle _ _ _
  have known : middle.machine.Knows (LineText.keyword text) 0 none .endIf := by
    rw [closed.2]
    exact Machine.knows_endIf
  rw [dispatch_word known (Int.natCast_nonneg _) (by simp) rfl]
  exact .ok (.refl _) ⟨_, rfl⟩

theorem agrees_endLoop {kind : LoopKind} {waits : List Suspended} {place : Cursor}
    {loop : InlineLoop} (inBody : seat.suspended = .owner place loop :: waits)
    (ready : store.machine.Ready settings) (found : script.line? (cursor.line + 1) = some text)
    (closed : (BlockKind.loop kind).ClosedBy text) (fits : LineText.Fits settings text) :
    seat.Agrees script bound 1
        (fun _ after last => ∃ final, last =
          .next (seat.leaving final after (.resume (cursor.line + 1) after.machine.returned)))
        (.next (seat.state cursor store)) store
      (seat.activity.line (cursor.line + 1) text (fun _ => pure ()) store) := by
  refine agrees_line ready found closed.1 fits ?_
  intro args early middle _ _ ready
  have known : middle.machine.Knows (LineText.keyword text) 0 none (.endLoop kind) := by
    rw [closed.2]
    exact Machine.knows_endLoop ready.extended kind
  have inside : (seat.state ⟨cursor.line + 1, some text⟩ middle).inBody = true := by
    unfold State.inBody state
    dsimp only
    rw [inBody]
    rfl
  have performed : (Instruction.endLoop kind).perform script
      (seat.state ⟨cursor.line + 1, some text⟩ middle).inBody (cursor.line + 1)
      (LineText.pieces text) args (seat.activity.scope (cursor.line + 1) text middle) =
      .ok (.leave (.resume (cursor.line + 1) middle.machine.returned))
        (seat.activity.scope (cursor.line + 1) text middle) := by
    rw [inside]
    rfl
  rw [dispatch_word known (Int.natCast_nonneg _) (by simp) performed]
  exact .ok (.refl _) ⟨_, rfl⟩

theorem agrees_endDefinition (ready : store.machine.Ready settings)
    (found : script.line? (cursor.line + 1) = some text)
    (closed : Definition.ClosedBy settings seat.entry text) :
    seat.Agrees script bound 1
        (fun _ after last => ∃ final, last =
          .next (seat.leaving final after (.returned nullText)))
        (.next (seat.state cursor store)) store
      (seat.activity.line (cursor.line + 1) text
        (fun _ => Action.report .info "End of definition" .ok) store) := by
  refine agrees_line ready found closed.instruction closed.fits ?_
  intro args early middle earlyReady resolved _
  have known : middle.machine.Knows (LineText.keyword text) 0 (some 1) .endDefinition :=
    Machine.knows_endDefinition closed.keyword
  have own : args.length ≤ 1 ∧ ∀ name ∈ args.head?, name = seat.entry := by
    rcases closed.names with none | ⟨piece, one, names⟩
    · rw [none] at resolved
      cases resolved
      simp
    · rw [one, Piece.resolve_names names earlyReady.extended] at resolved
      cases resolved
      simp
  have high : ∀ limit ∈ some (1 : Int), (args.length : Int) ≤ limit := by
    simp only [Option.mem_def, Option.some.injEq, forall_eq']
    omega
  rw [dispatch_word known (Int.natCast_nonneg _) high (Instruction.endOfDefinition_closes own.2)]
  exact .ok (Scope.kept_report _ _) ⟨_, rfl⟩

end Seat

/-! ## Headers of loops -/

theorem BlockKind.OpenedBy.argc {kind : LoopKind} {text : String}
    (opened : (BlockKind.loop kind).OpenedBy text) :
    (LineText.pieces text).length = kind.inlineArity := by
  have opens := opened.2 0
  simp only [BlockMarker.opens, BlockKind.marker, LoopKind.marker, Bool.and_eq_true,
    beq_iff_eq] at opens
  exact Int.ofNat.inj opens.2

namespace LoopKind

variable {kind : LoopKind} {line : Nat} {header : List Piece} {args : List String}

theorem start_inline (few : args.length = kind.inlineArity) :
    kind.start line header args = (do
      let plan ← kind.plan (args.headD "") header
      return .inline ⟨kind, plan, line, none⟩ kind.entersFirst) := by
  cases args with
  | nil => cases kind <;> cases few
  | cons body rest =>
      unfold start
      dsimp only
      rw [if_neg (by omega)]
      rfl

theorem start_external (more : kind.inlineArity < args.length) {scope after : Scope} {flow : Flow}
    (started : kind.start line header args scope = .ok flow after) :
    ∃ plan body, flow = .external ⟨kind, plan, body⟩ kind.entersFirst := by
  cases args with
  | nil => cases kind <;> cases more
  | cons body rest =>
      unfold start at started
      dsimp only at started
      rw [if_pos more] at started
      obtain ⟨plan, middle, -, late⟩ := bind_ok started
      cases late
      exact ⟨plan, body, rfl⟩

theorem plan_ok (kind : LoopKind) (amount : String) (header : List Piece) (scope : Scope) :
    ∃ plan after, kind.plan amount header scope = .ok plan after := by
  cases kind <;> exact ⟨_, _, rfl⟩

end LoopKind

def State.inlinePasses (script : Script) (loop : InlineLoop) (entered : Bool) (state : State) :
    Step :=
  if entered then state.startBody script loop else state.continueInline script loop

theorem State.openInline_defined {script : Script} {state : State}
    (defined : script.entryLine? state.scope.frame.entry ≠ none) (loop : InlineLoop)
    (entered : Bool) :
    state.openInline script loop entered = state.inlinePasses script loop entered := by
  obtain ⟨line, found⟩ := Option.ne_none_iff_exists'.mp defined
  unfold openInline
  dsimp only
  rw [found]
  rfl

/-- Goes on with a loop whose body is a definition, with a pass before anything is checked if
`entered` is set. -/
def State.externalPasses (script : Script) (loop : ExternalLoop) (entered : Bool) (state : State) :
    Step :=
  if entered then state.startPass script loop else state.continueExternal script loop

namespace Seat

variable {script : Script} {seat : Seat} {settings : Settings} {store : Store} {cursor : Cursor}
  {text : String} {bound : Nat}

/-- The header of a loop: its passes begin. -/
theorem agrees_header {kind : LoopKind} (defined : script.entryLine? seat.entry ≠ none)
    (ready : store.machine.Ready settings) (found : script.line? (cursor.line + 1) = some text)
    (opened : (BlockKind.loop kind).OpenedBy text) (fits : LineText.Fits settings text) :
    seat.Agrees script bound 1
        (fun plan after last => last =
          (seat.state ⟨cursor.line + 1, some text⟩ after).inlinePasses script
            ⟨kind, plan, cursor.line + 1, none⟩ kind.entersFirst)
        (.next (seat.state cursor store)) store
      (seat.activity.line (cursor.line + 1) text
        (fun args => kind.plan (args.headD "") (LineText.pieces text)) store) := by
  refine agrees_line ready found opened.1 fits ?_
  intro args early middle _ resolved ready
  have known : middle.machine.Knows (LineText.keyword text) kind.inlineArity
      (some (kind.inlineArity + 1)) (.loop kind) := by
    rw [opened.keyword]
    exact Machine.knows_loop ready.extended kind
  have length : args.length = kind.inlineArity := by
    rw [Reference.length_resolveAll resolved, opened.argc]
  -- An inline loop leaves out the body, the one argument more that an external loop has.
  have high : ∀ limit ∈ some ((kind.inlineArity : Int) + 1), (args.length : Int) ≤ limit := by
    simp only [Option.mem_def, Option.some.injEq, forall_eq']
    omega
  obtain ⟨plan, after, planned⟩ := kind.plan_ok (args.headD "") (LineText.pieces text)
    (seat.activity.scope (cursor.line + 1) text middle)
  have keeps : Keeps (fun _ => False) (kind.plan (args.headD "") (LineText.pieces text)) :=
    LoopKind.keeps_plan _ _
  have kept := keeps.ok planned
  have performed : (Instruction.loop kind).perform script
      (seat.state ⟨cursor.line + 1, some text⟩ middle).inBody (cursor.line + 1)
      (LineText.pieces text) args (seat.activity.scope (cursor.line + 1) text middle) =
      .ok (.inline ⟨kind, plan, cursor.line + 1, none⟩ kind.entersFirst) after := by
    change kind.start (cursor.line + 1) (LineText.pieces text) args _ = _
    rw [LoopKind.start_inline length, bind_apply, planned]
    rfl
  rw [planned, dispatch_word known (by omega) high performed, state_of_kept kept]
  refine .ok kept ?_
  exact State.openInline_defined (by exact defined) _ _

end Seat

end LineScript
