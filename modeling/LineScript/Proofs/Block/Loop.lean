import LineScript.Proofs.Block.Plain

/-!
Inline loops. The body of a loop is a frame of its own above the owner of the loop; what it ends with
goes to the owner, which starts another pass or goes on below the end marker. The evaluations of the
blocks inside are taken as they come: it is enough that they agree with the run.
-/

namespace LineScript

open LineScript.Action

theorem Activity.kept_keepReturned (value : String) (scope : Scope) :
    scope.Kept { scope with machine := { scope.machine with returned := value } } :=
  .ofMachine ⟨rfl, rfl, rfl, rfl, rfl, rfl, rfl, List.suffix_rfl⟩

namespace Seat

variable {script : Script} {seat : Seat} {settings : Settings} {bound least : Nat}
  {α β : Type} {finish : α → Store → Step → Prop} {start : Step} {store : Store}
  {evaluated : Option (Except Exit α × Store)}

/-! ## Frames above others -/

theorem Agrees.recast {γ : Type} {raw : Option γ} {read : γ → Except Exit α × Store} {other : Seat}
    {outcome : β → Store → Step → Prop} {before : Store} {again : γ → Except Exit β × Store}
    (agrees : seat.Agrees script bound least finish start store (raw.map read))
    (seen : ∀ result last, store.machine.Kept (read result).2.machine →
      seat.Ends finish (read result) last →
      before.machine.Kept (again result).2.machine ∧ other.Ends outcome (again result) last) :
    other.Agrees script bound least outcome start before (raw.map again) := by
  refine ⟨fun result same => ?_, fun fuel small stops => ?_⟩
  · obtain ⟨inner, evaluated, rfl⟩ := Option.map_eq_some_iff.mp same
    obtain ⟨kept, count, last, enough, leads, ends⟩ :=
      agrees.sound (read inner) (by rw [evaluated, Option.map_some])
    obtain ⟨keptOuter, endsOuter⟩ := seen inner last kept ends
    exact ⟨keptOuter, count, last, enough, leads, endsOuter⟩
  · obtain ⟨_, same⟩ := agrees.complete fuel small stops
    obtain ⟨inner, evaluated, -⟩ := Option.map_eq_some_iff.mp same
    exact ⟨again inner, by rw [evaluated, Option.map_some]⟩

theorem Agrees.map {other : Seat} {outcome : β → Store → Step → Prop} {before : Store}
    {change : Except Exit α × Store → Except Exit β × Store}
    (agrees : seat.Agrees script bound least finish start store evaluated)
    (seen : ∀ result last, store.machine.Kept result.2.machine → seat.Ends finish result last →
      before.machine.Kept (change result).2.machine ∧ other.Ends outcome (change result) last) :
    other.Agrees script bound least outcome start before (evaluated.map change) := by
  have same : seat.Agrees script bound least finish start store (evaluated.map id) := by
    rwa [Option.map_id]
  exact same.recast seen

/-- Where lines come to whose signals are caught: to their end, or to a signal of their frame. -/
def Catches (seat : Seat) (finish : Unit → Store → Step → Prop) :
    Option Signal → Store → Step → Prop
  | none => finish ()
  | some signal => seat.Leaves signal

theorem ends_caught {finish : Unit → Store → Step → Prop} {result : Except Exit Unit × Store}
    {last : Step} (ends : seat.Ends finish result last) :
    seat.Ends (seat.Catches finish) (Exit.rethrown (Exit.caught result.1), result.2) last := by
  obtain ⟨ending, after⟩ := result
  match ending with
  | .ok _ => exact ends
  | .error (.leaves signal) => exact ends
  | .error (.fails fault) => exact ends

/-- The lines of a well-formed block stand below so many others, in a definition that exists. -/
structure Has (script : Script) (settings : Settings) (seat : Seat) (above : Nat) (block : Block) :
    Prop where
  defined : script.entryLine? seat.entry ≠ none
  formed : block.WellFormed settings
  lines : script.HasLines above block.lines

/-- The condition of a loop is read, and what follows from its answer is left to the loop. -/
theorem answers_condition {number : Nat} {text : String} {kind : LoopKind} {external : Bool}
    {header : List Piece} {finish : Option LoopPlan → Store → Step → Prop}
    {again past : State → Step} (ready : store.machine.Ready settings)
    (holds : ∀ after,
      finish (some (.condition header)) after (again (seat.state ⟨number, some text⟩ after)))
    (fails : ∀ after, finish none after (past (seat.state ⟨number, some text⟩ after))) :
    seat.Answers number text finish store
      (match kind.condition external header (seat.activity.scope number text store) with
        | .ok true scope => again { seat.state ⟨number, some text⟩ store with scope }
        | .ok false scope => past { seat.state ⟨number, some text⟩ store with scope }
        | .error fault scope =>
            State.instructionFault { seat.state ⟨number, some text⟩ store with scope }
              kind.keyword .internal fault)
      (kind.nextPlan external (.condition header) (seat.activity.scope number text store)) := by
  have keeps : Keeps (fun _ => False) (kind.condition external header) :=
    LoopKind.keeps_condition external header
  unfold LoopKind.nextPlan
  dsimp only
  rw [bind_apply]
  cases checked : kind.condition external header (seat.activity.scope number text store) with
  | ok answer scope =>
      have kept := keeps.ok checked
      cases answer with
      | true =>
          dsimp only
          rw [Seat.state_of_kept kept]
          exact .ok kept (holds scope.store)
      | false =>
          dsimp only
          rw [Seat.state_of_kept kept]
          exact .ok kept (fails scope.store)
  | error fault scope =>
      obtain ⟨kept, expected⟩ := keeps.fault checked
      rcases expected ready.bare with impossible | ⟨rfl, -⟩
      · exact impossible.elim
      · dsimp only
        rw [Seat.state_of_kept kept]
        exact .error kept rfl

theorem agrees_deepen {number : Nat} {text : String} (frame : Frame) (waiting : Suspended) :
    seat.Agrees script bound 0
        (fun _ after last => after = store ∧ last = .next
          ⟨⟨store.machine, frame⟩, waiting :: seat.suspended, .running, .ground, false⟩)
        ((seat.state ⟨number, some text⟩ store).enter frame waiting) store
      (seat.activity.deepen number store) := by
  have same : (seat.state ⟨number, some text⟩ store).scope.machine.checkDepth seat.activity.depth
      (seat.state ⟨number, some text⟩ store).currentLine =
        store.machine.checkDepth seat.activity.depth number := rfl
  unfold State.enter Activity.deepen
  rw [depth_state, same]
  cases deep : store.machine.checkDepth seat.activity.depth number with
  | none => exact agrees_now (.refl _) ⟨rfl, rfl⟩
  | some answer =>
      exact agrees_now (Machine.kept_checkDepth deep) ⟨_, rfl, rfl, State.locals_outermost _⟩

end Seat

/-! ## Blocks and the lines below them -/

section Tasks

variable (script : Script) (settings : Settings) (bound : Nat)

inductive BlockTask : Activity → Nat → Block → Store → Seat.Task Unit → Prop where
  | stands (seat : Seat) (cursor : Cursor) {block : Block} {store : Store}
      (ready : store.machine.Ready settings) (has : seat.Has script settings cursor.line block) :
      BlockTask seat.activity cursor.line block store
        ⟨seat, seat.AtLine (cursor.line + block.size), .next (seat.state cursor store), store⟩

/-- A frame is above the lines of a block, with a line below them on which it comes to its end. -/
inductive ThroughTask :
    Activity → Nat → Block → String → Action Unit → Store → Seat.Task Unit → Prop where
  | stands (seat : Seat) (cursor : Cursor) {block : Block} {text : String} {action : Action Unit}
      {store : Store} {finish : Unit → Store → Step → Prop}
      (ready : store.machine.Ready settings) (has : seat.Has script settings cursor.line block)
      (below : ∀ place after, place.line = cursor.line + block.size →
        after.machine.Ready settings →
        seat.Agrees script bound 1 finish (.next (seat.state place after)) after
          (seat.activity.line (place.line + 1) text (fun _ => action) after)) :
      ThroughTask seat.activity cursor.line block text action store
        ⟨seat, finish, .next (seat.state cursor store), store⟩

def BlocksAgree (eval : Activity → Nat → Block → Store → Option (Except Exit Unit × Store)) :
    Prop :=
  ∀ activity above block store,
    Seat.Meets script bound (BlockTask script settings activity above block store)
      (eval activity above block store)

def ThroughAgrees (evalThrough : Activity → Nat → Block → String → Action Unit → Store →
    Option (Except Exit Unit × Store)) : Prop :=
  ∀ activity above block text action store,
    Seat.Meets script bound (ThroughTask script settings bound activity above block text action store)
      (evalThrough activity above block text action store)

variable {script settings bound}

theorem throughAgrees
    {eval : Activity → Nat → Block → Store → Option (Except Exit Unit × Store)}
    (blocks : BlocksAgree script settings bound eval) :
    ThroughAgrees script settings bound fun activity above block text action => (do
      (eval activity above block : Eval Unit)
      activity.line (above + block.size + 1) text fun _ => action : Eval Unit) := by
  rintro _ _ block text action store _ ⟨seat, cursor, ready, has, below⟩
  dsimp only
  refine (blocks _ _ _ _ _ (.stands seat cursor ready has)).bind ?_
  rintro _ after _ kept ⟨place, rfl⟩
  exact (below _ after rfl (kept.ready ready)).weaken

end Tasks

/-! ## Passes -/

def LoopBlock.inline (loop : LoopBlock) (plan : LoopPlan) (endLine : Option Nat) : InlineLoop :=
  ⟨loop.kind, plan, loop.number, endLine⟩

/-- The body of the loop and its end marker stand below the header. -/
structure LoopBlock.StandsIn (script : Script) (settings : Settings) (seat : Seat)
    (loop : LoopBlock) : Prop where
  defined : script.entryLine? seat.entry ≠ none
  formed : loop.body.WellFormed settings
  lines : script.HasLines loop.number (loop.body.lines ++ [loop.closer])
  closed : (BlockKind.loop loop.kind).ClosedBy loop.closer
  fits : LineText.Fits settings loop.closer

def LoopBlock.MayEnd (loop : LoopBlock) (endLine : Option Nat) : Prop :=
  ∀ line ∈ endLine, line = loop.close

section Tasks

variable (script : Script) (settings : Settings) (bound : Nat)

inductive PassesTask : Activity → LoopBlock → LoopPlan → Bool → Store → Seat.Task Unit → Prop where
  | stands (seat : Seat) (endLine : Option Nat) {loop : LoopBlock} {plan : LoopPlan}
      {entered : Bool} {store : Store} (ready : store.machine.Ready settings)
      (stands : loop.StandsIn script settings seat) (ends : loop.MayEnd endLine) :
      PassesTask seat.activity loop plan entered store
        ⟨seat, seat.AtLine loop.close,
          (seat.state ⟨loop.number, some loop.header⟩ store).inlinePasses script
            (loop.inline plan endLine) entered, store⟩

inductive PassTask : Activity → LoopBlock → LoopPlan → Store → Seat.Task Unit → Prop where
  | stands (seat : Seat) (endLine : Option Nat) {loop : LoopBlock} {plan : LoopPlan} {store : Store}
      (ready : store.machine.Ready settings) (stands : loop.StandsIn script settings seat)
      (ends : loop.MayEnd endLine) :
      PassTask seat.activity loop plan store
        ⟨seat, seat.AtLine loop.close,
          (seat.state ⟨loop.number, some loop.header⟩ store).startBody script
            (loop.inline plan endLine), store⟩

def PassesAgree (evalPasses : Activity → LoopBlock → LoopPlan → Bool → Store →
    Option (Except Exit Unit × Store)) : Prop :=
  ∀ activity loop plan entered store,
    Seat.Meets script bound (PassesTask script settings activity loop plan entered store)
      (evalPasses activity loop plan entered store)

def PassAgrees (evalPass : Activity → LoopBlock → LoopPlan → Store →
    Option (Except Exit Unit × Store)) : Prop :=
  ∀ activity loop plan store,
    Seat.Meets script bound (PassTask script settings activity loop plan store)
      (evalPass activity loop plan store)

end Tasks

namespace LoopBlock

variable {script : Script} {settings : Settings} {seat : Seat} {loop : LoopBlock} {store : Store}
  {plan : LoopPlan} {endLine : Option Nat} {bound : Nat}

theorem StandsIn.bounds (stands : loop.StandsIn script settings seat) :
    loop.number < loop.close ∧ loop.close ≤ script.lineCount := by
  have inside := stands.lines.le_lineCount (by simp)
  rw [List.length_append, List.length_singleton] at inside
  unfold close Block.size
  omega

/-- A loop is left for its own end marker, whether that is known or has to be found. -/
theorem StandsIn.leave (stands : loop.StandsIn script settings seat) {known : Option Nat}
    (ends : loop.MayEnd known) :
    seat.AtLine loop.close () store
      ((seat.state ⟨loop.number, some loop.header⟩ store).leaveLoop script
        (loop.inline plan endLine) known) := by
  obtain ⟨below, inside⟩ := stands.bounds
  unfold State.leaveLoop
  cases known with
  | some line =>
      rw [ends line rfl]
      dsimp only
      rw [Effect.jumpTo_forward (Nat.le_of_lt below)]
      exact Seat.atLine_advance below inside
  | none =>
      have found : script.blockEnd? loop.number loop.kind.marker loop.kind.closer [] =
          some loop.close :=
        Block.blockEnd?_nested (.loop loop.kind) (.inl rfl) stands.formed.nested stands.lines
          stands.closed.1 (.inl stands.closed.2)
      dsimp only
      rw [Effect.jumpOut_bind_found found]
      exact Seat.atLine_advance below inside

def Checked (script : Script) (seat : Seat) (loop : LoopBlock) (endLine : Option Nat) :
    Option LoopPlan → Store → Step → Prop
  | none, after, last => seat.AtLine loop.close () after last
  | some plan, after, last => last =
      (seat.state ⟨loop.number, some loop.header⟩ after).startBody script (loop.inline plan endLine)

theorem answers_nextPlan (ready : store.machine.Ready settings)
    (stands : loop.StandsIn script settings seat) (ends : loop.MayEnd endLine) :
    seat.Answers loop.number loop.header (loop.Checked script seat endLine) store
      ((seat.state ⟨loop.number, some loop.header⟩ store).continueInline script
        (loop.inline plan endLine))
      (loop.kind.nextPlan false plan (seat.activity.scope loop.number loop.header store)) := by
  match plan with
  | .count 0 => exact .ok (.refl _) (stands.leave ends)
  | .count (left + 1) => exact .ok (.refl _) rfl
  | .condition header => exact Seat.answers_condition ready (fun _ => rfl) fun _ => stands.leave ends

theorem passesAgree
    {evalPass : Activity → LoopBlock → LoopPlan → Store → Option (Except Exit Unit × Store)}
    (pass : PassAgrees script settings bound evalPass) :
    PassesAgree script settings bound fun activity loop plan entered => (do
      match ← activity.pass loop.number loop.header loop.kind false plan entered with
      | none => pure ()
      | some plan => evalPass activity loop plan : Eval Unit) := by
  rintro _ loop plan entered store _ ⟨seat, endLine, ready, stands, ends⟩
  dsimp only
  have checked : seat.Agrees script bound 0 (loop.Checked script seat endLine)
      ((seat.state ⟨loop.number, some loop.header⟩ store).inlinePasses script
        (loop.inline plan endLine) entered) store
      (seat.activity.pass loop.number loop.header loop.kind false plan entered store) := by
    cases entered with
    | true => exact Seat.agrees_now (.refl _) rfl
    | false => exact Seat.agrees_act (answers_nextPlan ready stands ends)
  refine checked.bind ?_
  rintro (_ | plan) after last kept goal
  · exact Seat.agrees_now (.refl _) goal
  · rw [show last = _ from goal]
    exact pass _ loop plan after _ (.stands seat endLine (kept.ready ready) stands ends)

/-! ## One pass -/

def bodySeat (loop : LoopBlock) (seat : Seat) (plan : LoopPlan) (endLine : Option Nat) : Seat :=
  ⟨seat.entry, seat.args,
    .owner ⟨loop.number, some loop.header⟩ (loop.inline plan endLine) :: seat.suspended⟩

def Resumes (loop : LoopBlock) (body : Seat) : Unit → Store → Step → Prop :=
  fun _ after last => ∃ cursor, last =
    .next (body.leaving cursor after (.resume loop.close after.machine.returned))

theorem leads_bodySeat {cursor : Cursor} {signal : Signal} :
    Step.Leads script 1 (.next ((loop.bodySeat seat plan endLine).leaving cursor store signal))
      ((seat.state ⟨loop.number, some loop.header⟩ store).afterBody script
        (loop.inline plan endLine) signal) := by
  refine .next ?_
  rw [State.step_leaving rfl, State.handOver_body rfl]
  exact .refl _

theorem agrees_body
    {evalThrough : Activity → Nat → Block → String → Action Unit → Store →
      Option (Except Exit Unit × Store)}
    (through : ThroughAgrees script settings bound evalThrough)
    (ready : store.machine.Ready settings) (stands : loop.StandsIn script settings seat) :
    seat.Agrees script bound 0
      ((loop.bodySeat seat plan endLine).Catches
        (loop.Resumes (loop.bodySeat seat plan endLine)))
      (.next ((loop.bodySeat seat plan endLine).state (Cursor.start.advance script loop.number)
        store)) store
      (do
        let (ending, after) ← evalThrough seat.activity.inside loop.number loop.body loop.closer
          (pure ()) store
        some (Exit.rethrown (Exit.caught ending), after)) := by
  have mapped (evaluated : Option (Except Exit Unit × Store)) :
      (do
        let (ending, after) ← evaluated
        some (Exit.rethrown (Exit.caught ending), after)) =
      evaluated.map fun result => (Exit.rethrown (Exit.caught result.1), result.2) := by
    cases evaluated <;> rfl
  rw [mapped]
  obtain ⟨below, inside⟩ := stands.bounds
  generalize body : loop.bodySeat seat plan endLine = inner
  have line : (Cursor.start.advance script loop.number).line = loop.number :=
    Cursor.line_advance (Nat.zero_le _) (by omega)
  have activity : seat.activity.inside = inner.activity := by rw [← body]; rfl
  obtain ⟨lines, last⟩ := Script.hasLines_append.mp stands.lines
  have closer := (Script.hasLines_cons.mp last).1
  have agrees : inner.Agrees script bound 0 (loop.Resumes inner)
      (.next (inner.state (Cursor.start.advance script loop.number) store)) store
      (evalThrough inner.activity (Cursor.start.advance script loop.number).line loop.body
        loop.closer (pure ()) store) := by
    refine through _ _ _ _ _ _ _ (.stands inner _ ready ⟨?_, stands.formed, ?_⟩ ?_)
    · rw [← body]
      exact stands.defined
    · rwa [line]
    · intro place after here readyAfter
      rw [line] at here
      have ends : place.line + 1 = loop.close := by rw [here]; rfl
      have owner : inner.suspended = .owner ⟨loop.number, some loop.header⟩
          (loop.inline plan endLine) :: seat.suspended := by rw [← body]; rfl
      have found : script.line? (place.line + 1) = some loop.closer := by rw [here]; exact closer
      rw [← ends]
      exact Seat.agrees_endLoop owner readyAfter found stands.closed stands.fits
  rw [line, ← activity] at agrees
  refine agrees.map fun result last kept ends => ⟨kept, ?_⟩
  -- The frame below the body has the same variables, so that a fault leaves the same ones.
  have caught := Seat.ends_caught ends
  obtain ⟨ending, after⟩ := result
  match ending with
  | .ok _ => exact caught
  | .error (.leaves signal) => exact caught
  | .error (.fails fault) =>
      obtain ⟨state, stopped, machine, locals⟩ := caught
      refine ⟨state, stopped, machine, ?_⟩
      rw [locals, ← body]
      rfl

theorem passAgrees
    {evalPasses : Activity → LoopBlock → LoopPlan → Bool → Store →
      Option (Except Exit Unit × Store)}
    {evalThrough : Activity → Nat → Block → String → Action Unit → Store →
      Option (Except Exit Unit × Store)}
    (through : ThroughAgrees script settings bound evalThrough)
    (passes : PassesAgree script settings (bound - 1) evalPasses) :
    PassAgrees script settings bound fun activity loop plan => (do
      activity.deepen loop.number
      let left ← fun store => do
        let (ending, store) ← evalThrough activity.inside loop.number loop.body loop.closer (pure ())
          store
        some (Exit.rethrown (Exit.caught ending), store)
      match left with
      | none => evalPasses activity loop plan false
      | some (.continued value) => do
          activity.act loop.number loop.header do
            Action.report .info "Continue statement" .loop
            Activity.keepReturned value
          (evalPasses activity loop plan false : Eval Unit)
      | some (.broken value) =>
          activity.act loop.number loop.header do
            Action.report .info "Break statement" .loop
            Activity.keepReturned value
      | some signal => do
          activity.act loop.number loop.header (Action.report .info "Return statement" .loop)
          throw (.leaves signal) : Eval Unit) := by
  rintro _ loop plan store _ ⟨seat, endLine, ready, stands, ends⟩
  dsimp only
  refine (Seat.agrees_deepen _ _).bind ?_
  rintro _ _ _ - ⟨rfl, rfl⟩
  refine (agrees_body through ready stands).bind fun left after last kept caught => ?_
  have readyAfter := kept.ready ready
  have keptReport (text : String) := Scope.kept_report
    (seat.activity.scope loop.number loop.header after) ⟨.info, text, .loop⟩
  match left with
  | none =>
      obtain ⟨cursor, rfl⟩ := caught
      refine (Seat.Agrees.after ?_ (.refl _) leads_bodySeat).weaken
      exact passes _ loop plan false after _
        (.stands seat (some loop.close) readyAfter stands (by simp [MayEnd]))
  | some (.resume line value) => exact absurd rfl (caught.1 line value)
  | some (.continued value) =>
      obtain ⟨-, cursor, rfl⟩ := caught
      refine (Seat.Agrees.after ?_ (.refl _) leads_bodySeat).weaken
      have reported : seat.Agrees script (bound - 1) 0
          (fun _ later last => last = (seat.state ⟨loop.number, some loop.header⟩ later).inlinePasses
            script (loop.inline plan endLine) false)
          ((seat.state ⟨loop.number, some loop.header⟩ after).afterBody script
            (loop.inline plan endLine) (.continued value)) after
          (seat.activity.act loop.number loop.header (do
            Action.report .info "Continue statement" .loop
            Activity.keepReturned value) after) :=
        Seat.agrees_act (.ok ((keptReport _).trans (Activity.kept_keepReturned value _)) rfl)
      refine reported.bind ?_
      rintro _ later _ keptLater rfl
      exact passes _ loop plan false later _
        (.stands seat endLine (keptLater.ready readyAfter) stands ends)
  -- The loop has kept no end marker here, so a break has to search for the end of the block.
  | some (.broken value) =>
      obtain ⟨-, cursor, rfl⟩ := caught
      refine (Seat.Agrees.after ?_ (.refl _) leads_bodySeat).weaken
      have unknown : loop.MayEnd none := by simp [MayEnd]
      exact Seat.agrees_act (.ok ((keptReport _).trans (Activity.kept_keepReturned value _))
        (stands.leave unknown))
  | some (.returned value) =>
      obtain ⟨-, cursor, rfl⟩ := caught
      refine (Seat.Agrees.after ?_ (.refl _) leads_bodySeat).weaken
      exact Seat.agrees_now (keptReport _).machine ⟨nofun, _, rfl⟩

end LoopBlock

end LineScript
