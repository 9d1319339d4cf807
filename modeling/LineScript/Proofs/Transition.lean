import LineScript.Proofs.Execution

/-!
What one step of a run can do. The innermost frame reads a line and goes on, ends, or starts another
frame; or it has ended, and the frame below takes over. Frames only move forward, a loop only loses
passes, and without extensions a step stops the run only in a few ways.
-/

namespace LineScript

open LineScript.Action

/-! ## Machines along a run -/

/-- What a later machine of a run has in common with an earlier one. -/
structure Machine.Follows (before after : Machine) : Prop where
  settings : after.settings = before.settings
  services : after.services = before.services
  plain : before.Plain → after.Plain

/-- No extension has a say, nobody interrupts, and the limits are numbers. -/
structure Machine.Regular (machine : Machine) : Prop where
  plain : machine.Plain
  maxDepth : machine.settings.maxDepth ≠ none
  maxArgs : machine.settings.maxArgs ≠ none

namespace Machine

variable {first second third : Machine}

theorem Follows.regular (follows : first.Follows second) (regular : first.Regular) :
    second.Regular :=
  ⟨follows.plain regular.plain, follows.settings ▸ regular.maxDepth,
    follows.settings ▸ regular.maxArgs⟩

theorem Kept.follows (kept : first.Kept second) : first.Follows second :=
  ⟨kept.settings, kept.services, kept.plain⟩

theorem Follows.refl (machine : Machine) : machine.Follows machine :=
  ⟨rfl, rfl, id⟩

theorem Follows.trans (early : first.Follows second) (late : second.Follows third) :
    first.Follows third :=
  ⟨late.settings.trans early.settings, late.services.trans early.services,
    fun plain => late.plain (early.plain plain)⟩

theorem Bare.layer {machine : Machine} (bare : machine.Bare) (name : String)
    {names : List (String × Predefined)}
    (builtin : ∀ entry ∈ names, ∀ behavior, entry.2 ≠ .computed behavior) (enabled : Bool) :
    ∀ layer ∈ (if enabled then machine.predefined.push name names
      else machine.predefined.drop name).layers,
      ∀ entry ∈ layer.2, ∀ behavior, entry.2 ≠ .computed behavior := by
  intro layer member
  have dropped : layer ∈ (machine.predefined.drop name).layers →
      ∀ entry ∈ layer.2, ∀ behavior, entry.2 ≠ .computed behavior :=
    fun kept => bare.predefined layer (List.mem_filter.mp kept).1
  cases enabled with
  | false => exact dropped member
  | true =>
      rcases List.mem_append.mp member with kept | added
      · exact dropped kept
      · rw [List.mem_singleton.mp added]
        exact builtin

theorem follows_setExtended (machine : Machine) (enabled : Bool) :
    machine.Follows (machine.setExtended enabled) :=
  ⟨rfl, rfl, fun plain =>
    ⟨⟨plain.services, plain.layer _ (by simp [Predefined.extended]) enabled, plain.marks,
      plain.typed⟩, plain.replies⟩⟩

theorem follows_setGraphics (machine : Machine) (enabled : Bool) :
    machine.Follows (machine.setGraphics enabled) :=
  ⟨rfl, rfl, fun plain =>
    ⟨⟨plain.services, plain.layer _ (by simp [Predefined.graphics]) enabled, plain.marks,
      plain.typed⟩, plain.replies⟩⟩

end Machine

theorem Directive.follows_apply (machine : Machine) (line : Int) (text : String) :
    machine.Follows (Directive.apply machine line text) := by
  unfold Directive.apply
  split
  · exact (machine.follows_setExtended true).trans (Machine.kept_report _ _ _).follows
  · exact (machine.follows_setExtended false).trans (Machine.kept_report _ _ _).follows
  · exact (machine.follows_setGraphics true).trans (Machine.kept_report _ _ _).follows
  · exact (machine.follows_setGraphics false).trans (Machine.kept_report _ _ _).follows
  · exact (Machine.kept_report _ _ _).follows

theorem Directive.follows_applyLines (machine : Machine) (number : Nat) (texts : List String) :
    machine.Follows (Directive.applyLines machine number texts) :=
  applyLines_keeps machine.Follows (fun line text follows => follows.trans (follows_apply _ line text))
    (.refl machine) number texts

/-! ## Loops and the frames they start -/

/-- The plan after one more pass has begun. -/
inductive LoopPlan.Next : LoopPlan → LoopPlan → Prop where
  | counted (left : Nat) : Next (.count (left + 1)) (.count left)
  | checked (header : List Piece) : Next (.condition header) (.condition header)

def ExternalLoop.Next (loop again : ExternalLoop) : Prop :=
  again.kind = loop.kind ∧ loop.plan.Next again.plan

def InlineLoop.Next (loop again : InlineLoop) : Prop :=
  again.kind = loop.kind ∧ loop.plan.Next again.plan ∧ again.header = loop.header ∧
    again.endLine = loop.endLine

def Script.StandsOn (script : Script) (line : Nat) (keyword : String) : Prop :=
  ∃ statement ∈ script.statements, statement.number = line ∧ statement.keyword = keyword

/-- A signal that a statement on the line can give: the end of a pass only in the body of a loop. -/
def Signal.ArisesOn (inBody : Bool) (line : Nat) : Signal → Prop
  | .resume place _ => inBody = true ∧ place = line
  | _ => True

def Suspended.Starts (script : Script) (frame : Frame) : Suspended → Prop
  | caller _ _ => ∃ entry args line, script.entryLine? entry = some line ∧
      frame = State.definitionFrame script entry args line
  | owner _ loop => frame.cursor = Cursor.start.advance script loop.header

namespace State

structure Follows (before after : State) : Prop where
  machine : before.scope.machine.Follows after.scope.machine
  floor : after.floor = before.floor
  oneLine : after.oneLine = before.oneLine

structure Onward (script : Script) (before after : State) : Prop where
  scope : before.scope.Onward script after.scope
  suspended : after.suspended = before.suspended
  control : after.control = before.control
  floor : after.floor = before.floor
  oneLine : after.oneLine = before.oneLine

/-- The same frames are active, and the innermost one has not moved back. -/
structure SameFrames (script : Script) (before after : State) : Prop where
  follows : before.Follows after
  suspended : after.suspended = before.suspended
  frame : before.scope.frame.Onward script after.scope.frame

def Regular (state : State) : Prop :=
  state.scope.machine.Regular

variable {first second third : State}

theorem Follows.trans (early : first.Follows second) (late : second.Follows third) :
    first.Follows third :=
  ⟨early.machine.trans late.machine, late.floor.trans early.floor,
    late.oneLine.trans early.oneLine⟩

theorem Onward.follows {script : Script} (onward : first.Onward script second) :
    first.Follows second :=
  ⟨onward.scope.machine.follows, onward.floor, onward.oneLine⟩

theorem onward_scope {script : Script} {state : State} {scope : Scope}
    (onward : state.scope.Onward script scope) : state.Onward script { state with scope } :=
  ⟨onward, rfl, rfl, rfl, rfl⟩

theorem onward_kept {script : Script} {state : State} {scope : Scope}
    (kept : state.scope.Kept scope) : state.Onward script { state with scope } :=
  onward_scope kept.onward

theorem onward_machine {script : Script} {state : State} {change : Machine → Machine}
    (kept : state.scope.machine.Kept (change state.scope.machine)) :
    state.Onward script (state.onMachine change) :=
  onward_kept (.ofMachine kept)

theorem Onward.trans {script : Script} (early : first.Onward script second)
    (late : second.Onward script third) : first.Onward script third :=
  ⟨early.scope.trans late.scope, late.suspended.trans early.suspended,
    late.control.trans early.control, late.floor.trans early.floor,
    late.oneLine.trans early.oneLine⟩

theorem Onward.sameFrames {script : Script} (onward : first.Onward script second) :
    first.SameFrames script second :=
  ⟨onward.follows, onward.suspended, onward.scope.frame⟩

theorem SameFrames.trans {script : Script} (early : first.SameFrames script second)
    (late : second.SameFrames script third) : first.SameFrames script third :=
  ⟨early.follows.trans late.follows, late.suspended.trans early.suspended,
    early.frame.trans late.frame⟩

theorem sameFrames_machine {script : Script} {state : State} {change : Machine → Machine}
    (follows : state.scope.machine.Follows (change state.scope.machine)) :
    state.SameFrames script (state.onMachine change) :=
  ⟨⟨follows, rfl, rfl⟩, rfl, .refl _⟩

theorem Follows.regular (follows : first.Follows second) (regular : first.Regular) :
    second.Regular :=
  follows.machine.regular regular

end State

/-- What a running frame can come to: it stays the innermost one, it ends, or it starts another
one. The frames that may be started are described by what waits for them. -/
inductive Outcome (script : Script) (fresh : Suspended → Prop) (exits : Signal → Prop)
    (now after : State) : Prop where
  | stays (control : after.control = now.control) (same : after.suspended = now.suspended)
      (frame : now.scope.frame.Onward script after.scope.frame)
  | leaves {signal : Signal} (control : after.control = .leaving signal) (known : exits signal)
      (same : after.suspended = now.suspended)
      (frame : now.scope.frame.Onward script after.scope.frame)
  | enters {waiting : Suspended} (control : after.control = .running) (known : fresh waiting)
      (pushed : after.suspended = waiting :: now.suspended)
      (frame : now.scope.frame.Onward script (waiting.frame after.scope.frame))
      (starts : waiting.Starts script after.scope.frame)
      (room : ∃ limit, after.scope.machine.settings.maxDepth = some limit ∧
        (after.depth : Int) ≤ limit)

/-- The faults that stop a run of a script that only uses the language itself. -/
inductive Foreseen : Fault → Prop where
  | halted : Foreseen (.halt Signal.haltCode)
  | tooDeep : Foreseen (.halt Signal.abnormalCode)
  | jumpLost (kind : BlockKind) (line : Nat) (entry : String) :
      Foreseen (.failure ⟨.jumpNotFound, s!"Could not find {kind.closer} to jump to.",
        Code.jumpNotFound.number, some line, some entry⟩)
  | unrecognized (name : String) (line : Nat) (entry : String) :
      Foreseen (.failure ⟨.unrecognizedInstruction, s!"Instruction {name} is not recognized.",
        Code.unrecognizedInstruction.number, some line, some entry⟩)

namespace Step

variable {script : Script} {fresh : Suspended → Prop} {exits : Signal → Prop} {premise : Prop}
  {now later : State} {step : Step}

def Goes (script : Script) (fresh : Suspended → Prop) (exits : Signal → Prop) (premise : Prop)
    (now : State) : Step → Prop
  | next after => now.Follows after ∧ Outcome script fresh exits now after
  | stop ending last => now.SameFrames script last ∧
      ∃ fault, ending = .failed fault ∧ (premise → Foreseen fault)

theorem Goes.after (goes : step.Goes script fresh exits premise later)
    (onward : now.Onward script later) : step.Goes script fresh exits premise now := by
  cases step with
  | stop ending last => exact ⟨onward.sameFrames.trans goes.1, goes.2⟩
  | next after =>
      refine ⟨onward.follows.trans goes.1, ?_⟩
      cases goes.2 with
      | stays control same frame =>
          exact .stays (control.trans onward.control) (same.trans onward.suspended)
            (onward.scope.frame.trans frame)
      | leaves control known same frame =>
          exact .leaves control known (same.trans onward.suspended) (onward.scope.frame.trans frame)
      | enters control known pushed frame starts room =>
          exact .enters control known (onward.suspended ▸ pushed)
            (onward.scope.frame.trans frame) starts room

theorem goes_next {after : State} (onward : now.Onward script after) :
    (Step.next after).Goes script fresh exits premise now :=
  ⟨onward.follows, .stays onward.control onward.suspended onward.scope.frame⟩

theorem goes_machine {change : Machine → Machine}
    (follows : now.scope.machine.Follows (change now.scope.machine)) :
    (Step.next (now.onMachine change)).Goes script fresh exits premise now :=
  ⟨⟨follows, rfl, rfl⟩, .stays rfl rfl (.refl _)⟩

theorem goes_abort {fault : Fault} {last : State} (same : now.SameFrames script last)
    (foreseen : premise → Foreseen fault) :
    (last.abort fault).Goes script fresh exits premise now :=
  ⟨same, fault, rfl, foreseen⟩

end Step

/-! ## Starting frames and going on with loops -/

namespace State

variable {script : Script} {fresh : Suspended → Prop} {exits : Signal → Prop} {premise : Prop}
  {now : State}

theorem onward_report (level : Level) (text : String) (code : Code) :
    now.Onward script (now.report level text code) :=
  onward_kept (now.scope.kept_report _)

theorem onward_reportMissing (entry : String) :
    now.Onward script (now.reportMissing entry) :=
  onward_machine (Machine.kept_report _ _ _)

theorem onward_keepReturned (value : String) : now.Onward script (now.keepReturned value) :=
  onward_machine ⟨rfl, rfl, rfl, rfl, rfl, rfl, rfl, List.suffix_rfl⟩

theorem goes_enter {frame : Frame} {waiting : Suspended} (regular : premise → now.Regular)
    (known : fresh waiting) (onward : now.scope.frame.Onward script (waiting.frame frame))
    (starts : waiting.Starts script frame) :
    (now.enter frame waiting).Goes script fresh exits premise now := by
  unfold enter
  cases refused : now.scope.machine.checkDepth now.depth now.currentLine with
  | some refusal =>
      obtain ⟨fault, machine⟩ := refusal
      refine Step.goes_abort (sameFrames_machine (Machine.kept_checkDepth refused).follows)
        fun given => ?_
      cases Machine.checkDepth_some refused with
      | unlimited unset => exact absurd unset (regular given).maxDepth
      | deep limited deep => exact .tooDeep
  | none =>
      obtain ⟨limit, limited, room⟩ := Machine.checkDepth_none refused
      refine ⟨⟨.refl _, rfl, rfl⟩, .enters rfl known rfl onward starts ⟨limit, limited, ?_⟩⟩
      simp only [depth, List.length_cons] at room ⊢
      omega

theorem goes_call (regular : premise → now.Regular) (keyword entry : String) (args : List String)
    (known : fresh (.caller now.scope.frame (.call keyword))) :
    (now.call script keyword entry args).Goes script fresh exits premise now := by
  unfold call
  cases found : script.entryLine? entry with
  | none =>
      exact Step.goes_next ((onward_reportMissing entry).trans (onward_keepReturned nullText))
  | some line => exact goes_enter regular known (.refl _) ⟨entry, args, line, found, rfl⟩

theorem goes_startPass {loop : ExternalLoop} (regular : premise → now.Regular)
    (known : fresh (.caller now.scope.frame (.pass loop))) :
    (now.startPass script loop).Goes script fresh exits premise now := by
  unfold startPass
  cases found : script.entryLine? loop.body with
  | none =>
      exact Step.goes_next ((onward_reportMissing loop.body).trans (onward_report _ _ _))
  | some line => exact goes_enter regular known (.refl _) ⟨loop.body, [], line, found, rfl⟩

theorem goes_instructionFault {scope : Scope} {name : String} {code : Code} {fault : Fault}
    (running : now.control = .running) (kept : now.scope.Kept scope)
    (foreseen : premise → Foreseen fault) :
    (instructionFault { now with scope } name code fault).Goes script fresh exits premise now := by
  cases fault with
  | exception exception =>
      exact Step.goes_abort (onward_kept (kept.trans (scope.kept_report _))).sameFrames
        fun given => nomatch foreseen given
  | unreadable text =>
      have reported := kept.trans (scope.kept_report ⟨.error, text, .argumentCapacity⟩)
      exact Step.goes_next ⟨reported.onward, rfl, running.symm, rfl, rfl⟩
  | failure failure => exact Step.goes_abort (onward_kept kept).sameFrames foreseen
  | halt code => exact Step.goes_abort (onward_kept kept).sameFrames foreseen
  | interrupted => exact Step.goes_abort (onward_kept kept).sameFrames foreseen

theorem goes_continueExternal {loop : ExternalLoop} (regular : premise → now.Regular)
    (running : now.control = .running)
    (known : ∀ frame again, frame.cursor = now.scope.frame.cursor → loop.Next again →
      fresh (.caller frame (.pass again))) :
    (now.continueExternal script loop).Goes script fresh exits premise now := by
  unfold continueExternal
  split
  · exact Step.goes_next (onward_kept (.refl _))
  · next left planned =>
      exact goes_startPass regular (known _ _ rfl ⟨rfl, planned ▸ .counted left⟩)
  · next header planned =>
      have keeps : Keeps Foreseen (loop.kind.condition true header) :=
        LoopKind.keeps_condition true header
      split
      · next scope checked =>
          have kept := keeps.ok checked
          have onward : now.Onward script { now with scope } := onward_kept kept
          refine (goes_startPass (fun given => onward.follows.regular (regular given)) ?_).after onward
          exact known _ loop kept.cursor ⟨rfl, planned ▸ .checked header⟩
      · next scope checked => exact Step.goes_next (onward_kept (keeps.ok checked))
      · next fault scope failed =>
          obtain ⟨kept, foreseen⟩ := keeps.error failed
          exact goes_instructionFault running kept fun given => foreseen (regular given).plain

theorem goes_startBody {loop : InlineLoop} (regular : premise → now.Regular)
    (known : fresh (.owner now.scope.frame.cursor loop)) :
    (now.startBody script loop).Goes script fresh exits premise now :=
  goes_enter regular known (.refl _) rfl

theorem goes_leaveLoop {loop : InlineLoop} {endLine : Option Nat}
    (running : now.control = .running)
    (forward : premise → ∀ line ∈ endLine, now.scope.frame.cursor.line ≤ line) :
    (now.leaveLoop script loop endLine).Goes script fresh exits premise now := by
  cases leavesLoop script now loop endLine with
  | @moves target forward place left =>
      rw [left]
      exact Step.goes_next (onward_scope (now.scope.onward_movedTo target))
  | backward place above left =>
      rw [left]
      exact goes_instructionFault running (.refl _) fun given =>
        absurd (forward given _ place) (Nat.not_le_of_lt above)
  | lost place missing left =>
      rw [left]
      exact goes_instructionFault running (now.scope.kept_report _) fun _ =>
        .jumpLost (.loop loop.kind) _ _

theorem goes_continueInline {loop : InlineLoop} (regular : premise → now.Regular)
    (running : now.control = .running)
    (known : ∀ again, loop.Next again → fresh (.owner now.scope.frame.cursor again))
    (forward : premise → ∀ line ∈ loop.endLine, now.scope.frame.cursor.line ≤ line) :
    (now.continueInline script loop).Goes script fresh exits premise now := by
  unfold continueInline
  split
  · exact goes_leaveLoop running forward
  · next left planned =>
      exact goes_startBody regular (known _ ⟨rfl, planned ▸ .counted left, rfl, rfl⟩)
  · next header planned =>
      have keeps : Keeps Foreseen (loop.kind.condition false header) :=
        LoopKind.keeps_condition false header
      split
      · next scope checked =>
          have kept := keeps.ok checked
          have onward : now.Onward script { now with scope } := onward_kept kept
          refine (goes_startBody (fun given => onward.follows.regular (regular given)) ?_).after onward
          -- Reading the condition leaves the frame at the header.
          rw [kept.cursor]
          exact known loop ⟨rfl, planned ▸ .checked header, rfl, rfl⟩
      · next scope checked =>
          have kept := keeps.ok checked
          refine Step.Goes.after (goes_leaveLoop running ?_) (onward_kept kept)
          rw [kept.cursor]
          exact forward
      · next fault scope failed =>
          obtain ⟨kept, foreseen⟩ := keeps.error failed
          exact goes_instructionFault running kept fun given => foreseen (regular given).plain

theorem goes_openInline {loop : InlineLoop} {entered : Bool} (regular : premise → now.Regular)
    (running : now.control = .running)
    (known : ∀ again, again = loop ∨ loop.Next again →
      fresh (.owner now.scope.frame.cursor again))
    (unended : loop.endLine = none)
    (defined : premise → script.entryLine? now.scope.frame.entry ≠ none) :
    (now.openInline script loop entered).Goes script fresh exits premise now := by
  unfold openInline
  dsimp only
  cases found : script.entryLine? now.scope.frame.entry with
  | none =>
      exact Step.goes_abort (onward_reportMissing _).sameFrames
        fun given => absurd found (defined given)
  | some line =>
      dsimp only
      split
      · exact goes_startBody regular (known loop (.inl rfl))
      · refine goes_continueInline regular running (fun again next => known again (.inr next)) ?_
        simp [unended]

end State

/-! ## Carrying out a line -/

def LoopKind.Runs (script : Script) (line : Nat) (kind : LoopKind) (plan : LoopPlan) : Prop :=
  script.StandsOn line kind.keyword ∧ ∃ header, kind.Plans header plan

/-- The frame stands at a statement that has just started another one: a call or a loop. -/
def Suspended.Begun (script : Script) (services : Services) : Suspended → Prop
  | caller frame (.call keyword) =>
      script.StandsOn frame.cursor.line (Text.upper keyword) ∧ services.MayCall keyword
  | caller frame (.pass loop) => loop.kind.Runs script frame.cursor.line loop.plan
  | owner cursor loop => loop.kind.Runs script cursor.line loop.plan ∧
      loop.header = cursor.line ∧ loop.endLine = none

theorem LoopKind.Plans.next {kind : LoopKind} {header : List Piece} {plan again : LoopPlan}
    (planned : kind.Plans header plan) (next : plan.Next again) : kind.Plans header again := by
  cases next with
  | checked header => exact planned
  | counted left =>
      cases kind with
      | forLoop => exact ⟨left, rfl⟩
      | whileLoop => cases planned
      | doWhileLoop => cases planned

theorem LoopKind.Runs.next {script : Script} {line : Nat} {kind : LoopKind} {plan again : LoopPlan}
    (runs : kind.Runs script line plan) (next : plan.Next again) :
    kind.Runs script line again := by
  obtain ⟨stands, header, planned⟩ := runs
  exact ⟨stands, header, planned.next next⟩

namespace State

variable {script : Script} {services : Services} {exits : Signal → Prop} {premise : Prop}
  {now : State}

theorem goes_follow {keyword : String} {meaning : Meaning} {pieces : List Piece} {flow : Flow}
    (regular : premise → now.Regular) (running : now.control = .running)
    (asks : Asks now.inBody now.scope.frame.cursor.line pieces meaning flow)
    (calls : meaning.Calls → script.StandsOn now.scope.frame.cursor.line (Text.upper keyword) ∧
      services.MayCall keyword)
    (loops : ∀ kind, meaning = .builtin (.loop kind) →
      script.StandsOn now.scope.frame.cursor.line kind.keyword)
    (arises : ∀ signal : Signal,
      signal.ArisesOn now.inBody now.scope.frame.cursor.line → exits signal)
    (defined : premise → script.entryLine? now.scope.frame.entry ≠ none) :
    (now.follow script keyword flow).Goes script (Suspended.Begun script services) exits premise
      now := by
  cases asks with
  | next => exact Step.goes_next (onward_kept (.refl _))
  | @leave _ signal other =>
      refine ⟨⟨.refl _, rfl, rfl⟩, .leaves rfl (arises signal ?_) rfl (.refl _)⟩
      cases signal with
      | resume line value => exact absurd rfl (other line value)
      | _ => trivial
  | resume kind value inside =>
      exact ⟨⟨.refl _, rfl, rfl⟩, .leaves rfl (arises _ ⟨inside, rfl⟩) rfl (.refl _)⟩
  | call meaning asked entry args => exact goes_call regular keyword entry args (calls asked)
  | @external kind plan body planned =>
      have runs : kind.Runs script now.scope.frame.cursor.line plan := ⟨loops kind rfl, pieces, planned⟩
      change (if kind.entersFirst then _ else _ : Step).Goes _ _ _ _ _
      split
      · exact goes_startPass regular runs
      · refine goes_continueExternal regular running fun frame again place next => ?_
        change again.kind.Runs script frame.cursor.line again.plan
        -- What is left of the plan is a plan of the same line.
        rw [next.1, place]
        exact runs.next next.2
  | @inline kind plan planned =>
      have runs : kind.Runs script now.scope.frame.cursor.line plan := ⟨loops kind rfl, pieces, planned⟩
      refine goes_openInline regular running (fun again next => ?_) rfl defined
      rcases next with rfl | ⟨sameKind, plan, header, endLine⟩
      · exact ⟨runs, rfl, rfl⟩
      · exact ⟨sameKind ▸ runs.next plan, header, endLine⟩

structure Reads (script : Script) (now : State) (line : Line) : Prop where
  number : line.number = now.scope.frame.cursor.line
  tokens : line.tokens ≠ []
  stands : script.StandsOn now.scope.frame.cursor.line line.keyword

theorem goes_performed {line : Line} {pieces : List Piece} {args : List String}
    {spec : Spec Meaning} {flow : Flow} {scope : Scope}
    (served : now.scope.machine.services = services)
    (regular : premise → now.Regular) (running : now.control = .running)
    (reads : now.Reads script line)
    (arises : ∀ signal : Signal,
      signal.ArisesOn now.inBody now.scope.frame.cursor.line → exits signal)
    (defined : premise → script.entryLine? now.scope.frame.entry ≠ none)
    (found : now.scope.machine.lookup? line.keyword = some spec)
    (supplied : spec.action.Supplied args)
    (performed : spec.action.perform script now.inBody line.number pieces args now.scope =
      .ok flow scope) :
    (follow script spec.name flow { now with scope }).Goes script (Suspended.Begun script services)
      exits premise now := by
  obtain ⟨asks, kept | ⟨rfl, onward⟩⟩ := Meaning.perform_ok supplied performed
  · have onward : now.Onward script { now with scope } := onward_kept kept
    -- The frame stands where it stood, so what holds of the line holds after the instruction.
    rw [reads.number, ← kept.cursor] at asks
    have stands := reads.stands
    rw [Line.keyword, ← Line.upper_keywordOf, ← kept.cursor] at stands
    have calls (asked : spec.action.Calls) :
        script.StandsOn scope.frame.cursor.line (Text.upper spec.name) ∧
          services.MayCall spec.name := by
      rw [Machine.lookup?_upper found]
      exact ⟨stands, served ▸ Machine.lookup?_calls found asked⟩
    have loops (kind : LoopKind) (same : spec.action = .builtin (.loop kind)) :
        script.StandsOn scope.frame.cursor.line kind.keyword := by
      rw [← Machine.lookup?_loop found same]
      exact stands
    rw [← kept.entry] at defined
    rw [← kept.cursor] at arises
    have goes : (follow script spec.name flow { now with scope }).Goes script
        (Suspended.Begun script services) exits premise { now with scope } :=
      goes_follow (fun given => onward.follows.regular (regular given)) running asks
        calls loops arises defined
    exact goes.after onward
  · exact Step.goes_next (onward_scope onward)

theorem goes_lineFault {fresh : Suspended → Prop} {state : State} {fault : Fault}
    (same : now.SameFrames script state) (foreseen : premise → Foreseen fault) :
    (state.lineFault fault).Goes script fresh exits premise now := by
  cases fault with
  | exception exception =>
      unfold lineFault
      dsimp only
      split
      · exact Step.goes_abort same fun given => nomatch foreseen given
      · exact Step.goes_abort
          (same.trans (sameFrames_machine (Machine.kept_report _ _ _).follows))
          fun given => nomatch foreseen given
  | failure failure => exact Step.goes_abort same foreseen
  | halt code => exact Step.goes_abort same foreseen
  | unreadable text => exact Step.goes_abort same foreseen
  | interrupted => exact Step.goes_abort same foreseen

theorem goes_execute {line : Line} (served : now.scope.machine.services = services)
    (regular : premise → now.Regular)
    (running : now.control = .running) (reads : now.Reads script line)
    (arises : ∀ signal : Signal,
      signal.ArisesOn now.inBody now.scope.frame.cursor.line → exits signal)
    (defined : premise → script.entryLine? now.scope.frame.entry ≠ none)
    (harmless : premise → ∀ limit pieces spec instruction,
      now.scope.machine.settings.maxArgs = some limit → pieces? limit line.tokens = .ok pieces →
      now.scope.machine.lookup? line.keyword = some spec → spec.action = .builtin instruction →
      spec.arityProblem? pieces.length = none → instruction.isRisky = false) :
    (now.execute script line).Goes script (Suspended.Begun script services) exits premise
      now := by
  have keeps : Keeps Foreseen (Reference.resolveAll (piecesOf line.tokens)) :=
    Reference.keeps_resolveAll _
  cases now.execution script line with
  | unlimited unset execute =>
      rw [execute]
      exact goes_lineFault (onward_kept (.refl _)).sameFrames
        fun given => absurd unset (regular given).maxArgs
  | excess limited execute =>
      rw [execute]
      exact Step.goes_next (onward_report _ _ _)
  | unread allowed resolved execute =>
      obtain ⟨kept, foreseen⟩ := keeps.error resolved
      rw [execute]
      exact goes_lineFault (onward_kept kept).sameFrames
        fun given => foreseen (regular given).plain
  | unnamed allowed resolved tokens execute => exact absurd tokens reads.tokens
  | @unknown args scope name allowed resolved unknown execute =>
      rw [execute]
      exact Step.goes_abort (onward_kept ((keeps.ok resolved).trans (scope.kept_report _))).sameFrames
        fun _ => .unrecognized _ _ _
  | unsupplied allowed resolved found refused execute =>
      rw [execute]
      exact Step.goes_next ((onward_kept (keeps.ok resolved)).trans (onward_report _ _ _))
  | @performs args scope after spec flow met performed execute =>
      have kept := keeps.ok met.resolved
      have onward : now.Onward script { now with scope } := onward_kept kept
      rw [← kept.entry] at defined
      rw [← kept.cursor] at arises
      rw [execute]
      have goes : (follow script spec.name flow { now with scope := after }).Goes script
          (Suspended.Begun script services) exits premise { now with scope } :=
        goes_performed (kept.machine.services.trans served)
          (fun given => onward.follows.regular (regular given)) running
          ⟨reads.number.trans (congrArg _ kept.cursor.symm), reads.tokens,
            kept.cursor.symm ▸ reads.stands⟩
          arises defined met.found (Machine.lookup?_supplied met.found met.supplied) performed
      exact goes.after onward
  | @fails args scope after spec fault met performed execute =>
      have read := keeps.ok met.resolved
      obtain ⟨kept, fails⟩ :=
        Meaning.perform_error (Machine.lookup?_supplied met.found met.supplied) performed
      rw [execute]
      refine goes_instructionFault running (read.trans kept) fun given => ?_
      have plain := read.machine.plain (regular given).plain
      obtain ⟨entry, -, origin, -, -, rfl⟩ := plain.lookup? met.found
      obtain ⟨limit, limited⟩ := Option.ne_none_iff_exists'.mp (regular given).maxArgs
      have calm := harmless given limit _ _ _ limited (met.allowed.fits limited)
        ((read.machine.lookup? _).symm.trans met.found) rfl
        (Reference.length_resolveAll met.resolved ▸ met.supplied)
      rcases fails _ rfl plain with (⟨risky, -⟩ | ⟨-, rfl⟩) | ⟨-, rfl⟩
      · exact absurd risky (by simp [calm])
      · exact .halted
      · exact .jumpLost .conditional _ _

end State

/-! ## One step -/

/-- The instruction that a name stands for, provided that it takes so many arguments. -/
def Machine.builtin? (machine : Machine) (keyword : String) (supplied : Nat) :
    Option Instruction :=
  (machine.lookup? keyword).bind fun spec =>
    match spec.action, spec.arityProblem? supplied with
    | .builtin instruction, none => some instruction
    | _, _ => none

def InlineLoop.after (loop : InlineLoop) : Signal → InlineLoop
  | .resume line _ => { loop with endLine := some line }
  | _ => loop

def Suspended.Repeats (signal : Signal) : Suspended → Suspended → Prop
  | caller frame (.pass loop), caller other (.pass again) =>
      other.cursor = frame.cursor ∧ loop.Next again
  | owner cursor loop, owner place again => place = cursor ∧ (loop.after signal).Next again
  | _, _ => False

/-- The signal with which a frame ends because the one above it has: only a return from the body of
a loop is passed on. -/
def Suspended.PassesOn (signal : Signal) (waiting : Suspended) (other : Signal) : Prop :=
  waiting.startsBody = true ∧ other = signal ∧ ∃ value, signal = .returned value

namespace State

def instruction? (script : Script) (state : State) : Option Instruction :=
  match state.control, state.scope.machine.settings.maxArgs with
  | .running, some limit =>
      (state.scope.frame.cursor.read script).text.bind fun text =>
        if LineText.isInstruction text then
          match pieces? limit (tokenize text) with
          | .ok pieces => state.scope.machine.builtin? (LineText.keyword text) pieces.length
          | .error _ => none
        else none
  | _, _ => none

/-- The next step finds what it needs: the definition that it is in, and for a loop that ends a
line that is not above its header. -/
structure Placed (script : Script) (state : State) : Prop where
  regular : state.Regular
  defined : script.entryLine? state.scope.frame.entry ≠ none
  ends : ∀ signal cursor loop rest, state.control = .leaving signal →
    state.suspended = .owner cursor loop :: rest →
    ∀ line ∈ (loop.after signal).endLine, cursor.line ≤ line
  harmless : ∀ instruction, state.instruction? script = some instruction →
    instruction.isRisky = false

end State

inductive Transition (script : Script) (before after : State) : Prop where
  | reads {now : State} (running : before.control = .running) (ready : now.control = .running)
      (same : now.suspended = before.suspended)
      (frame : before.scope.frame.Onward script now.scope.frame)
      (below : before.scope.frame.cursor.line < now.scope.frame.cursor.line)
      (outcome : Outcome script (Suspended.Begun script before.scope.machine.services)
        (Signal.ArisesOn now.inBody now.scope.frame.cursor.line) now after)
  | finishes (running : before.control = .running)
      (control : after.control = .leaving (.returned nullText))
      (same : after.suspended = before.suspended)
      (frame : before.scope.frame.Onward script after.scope.frame)
  /-- The innermost frame has ended, and the one that waits for it takes over. -/
  | returns {now : State} {signal : Signal} {waiting : Suspended}
      (leaving : before.control = .leaving signal)
      (waits : before.suspended = waiting :: now.suspended) (ready : now.control = .running)
      (frame : now.scope.frame = waiting.frame before.scope.frame)
      (outcome : Outcome script (waiting.Repeats signal) (waiting.PassesOn signal) now after)

inductive Standstill (script : Script) (before : State) : Ending → State → Prop where
  | finished {signal : Signal} (leaving : before.control = .leaving signal)
      (alone : before.suspended = []) : Standstill script before (.finished (some signal)) before
  | reading {fault : Fault} {last : State} (running : before.control = .running)
      (same : last.suspended = before.suspended)
      (frame : before.scope.frame.Onward script last.scope.frame) :
      Standstill script before (.failed fault) last
  | returning {fault : Fault} {last : State} {signal : Signal} {waiting : Suspended}
      (leaving : before.control = .leaving signal)
      (waits : before.suspended = waiting :: last.suspended)
      (frame : (waiting.frame before.scope.frame).Onward script last.scope.frame) :
      Standstill script before (.failed fault) last

def Step.Transits (script : Script) (before : State) : Step → Prop
  | .next after => before.Follows after ∧ Transition script before after
  | .stop ending last => before.Follows last ∧ Standstill script before ending last ∧
      (before.Placed script → ∀ fault, ending = .failed fault → Foreseen fault)

namespace State

variable {script : Script} {state : State}

theorem instruction?_eq (running : state.control = .running) {limit : Int} {text : String}
    {pieces : List Piece} {spec : Spec Meaning} {instruction : Instruction}
    (limited : state.scope.machine.settings.maxArgs = some limit)
    (found : script.line? (state.scope.frame.cursor.line + 1) = some text)
    (executed : LineText.isInstruction text = true)
    (fits : pieces? limit (tokenize text) = .ok pieces)
    (known : state.scope.machine.lookup? (LineText.keyword text) = some spec)
    (same : spec.action = .builtin instruction)
    (supplied : spec.arityProblem? pieces.length = none) :
    state.instruction? script = some instruction := by
  unfold instruction?
  rw [running, limited, read_line found]
  simp only [Option.bind_some, executed, if_true, fits, Machine.builtin?, known, same, supplied]

theorem goes_instruction (running : state.control = .running) {text : String}
    (found : script.line? (state.scope.frame.cursor.line + 1) = some text)
    (executed : LineText.isInstruction text = true) :
    (state.advance script).Goes script (Suspended.Begun script state.scope.machine.services)
      (Signal.ArisesOn (state.onLine text).inBody (state.onLine text).scope.frame.cursor.line)
      (state.Placed script) (state.onLine text) := by
  have kept : (state.onLine text).scope.machine.Kept (state.announced text).1 :=
    state.kept_announced text
  have onward : (state.onLine text).Onward script (state.told text) := by
    rw [told_eq]
    exact onward_machine kept
  cases heard : (state.announced text).2 with
  | some fault =>
      rw [advance_refused found executed heard]
      -- Nobody listens on a plain machine, so the line is not refused there.
      exact Step.goes_abort onward.sameFrames fun given => by
        cases (announced_plain given.regular.plain text).symm.trans heard
  | none =>
      rw [advance_told found executed heard, told_eq]
      rw [told_eq] at onward
      refine Step.Goes.after
        (goes_execute kept.services ?_ running ⟨rfl, ?_, ?_⟩ (fun _ => id) ?_ ?_) onward
      · exact fun given => onward.follows.regular
          ⟨given.regular.plain, given.regular.maxDepth, given.regular.maxArgs⟩
      · exact LineText.tokenize_ne_nil executed
      · exact ⟨_, Script.mem_statements found executed, rfl, rfl⟩
      · exact fun given => given.defined
      · intro given limit pieces spec instruction limited fits known same supplied
        refine given.harmless instruction (instruction?_eq running ?_ found executed fits ?_ same
          supplied)
        · rw [← limited]
          exact congrArg _ kept.settings.symm
        · exact (kept.lookup? _).symm.trans known

theorem transits_onLine (running : state.control = .running) {text : String}
    (found : script.line? (state.scope.frame.cursor.line + 1) = some text) {step : Step}
    (goes : step.Goes script (Suspended.Begun script state.scope.machine.services)
      (Signal.ArisesOn (state.onLine text).inBody (state.onLine text).scope.frame.cursor.line)
      (state.Placed script) (state.onLine text)) :
    step.Transits script state := by
  have frame : state.scope.frame.Onward script (state.onLine text).scope.frame :=
    ⟨rfl, rfl, Nat.le_succ _, fun _ => Script.line?_lt found⟩
  cases step with
  | stop ending last =>
      obtain ⟨same, fault, rfl, foreseen⟩ := goes
      refine ⟨⟨same.follows.machine, same.follows.floor, same.follows.oneLine⟩,
        .reading running same.suspended (frame.trans same.frame), fun placed other equal => ?_⟩
      cases equal
      exact foreseen placed
  | next after =>
      have below : state.scope.frame.cursor.line < (state.onLine text).scope.frame.cursor.line :=
        Nat.lt_succ_self _
      have ready : (state.onLine text).control = .running := running
      exact ⟨⟨goes.1.machine, goes.1.floor, goes.1.oneLine⟩,
        .reads running ready rfl frame below goes.2⟩

theorem transits_advance (running : state.control = .running) :
    (state.advance script).Transits script state := by
  cases state.advances script with
  | ends last advance =>
      rw [advance]
      have frame : state.scope.frame.Onward script
          (state.moveTo ⟨state.scope.frame.cursor.line, none⟩).scope.frame :=
        ⟨rfl, rfl, Nat.le_refl _, id⟩
      exact ⟨⟨.refl _, rfl, rfl⟩, .finishes running rfl rfl frame⟩
  | executes found executed =>
      exact transits_onLine running found (goes_instruction running found executed)
  | skips found other advance =>
      refine transits_onLine running found ?_
      rw [advance]
      exact Step.goes_next (onward_kept (.refl _))
  | directs found other filled directive advance =>
      refine transits_onLine running found ?_
      rw [advance]
      exact Step.goes_machine (Directive.follows_apply _ _ _)

theorem transits_returns {now : State} {signal : Signal} {waiting : Suspended}
    (leaving : state.control = .leaving signal)
    (waits : state.suspended = waiting :: now.suspended) (ready : now.control = .running)
    (frame : now.scope.frame = waiting.frame state.scope.frame) (follows : state.Follows now)
    {step : Step} (goes : step.Goes script (waiting.Repeats signal) (waiting.PassesOn signal)
      (state.Placed script) now) :
    step.Transits script state := by
  cases step with
  | stop ending last =>
      obtain ⟨same, fault, rfl, foreseen⟩ := goes
      refine ⟨follows.trans same.follows,
        .returning leaving (same.suspended ▸ waits) (frame ▸ same.frame), fun placed other equal => ?_⟩
      cases equal
      exact foreseen placed
  | next after => exact ⟨follows.trans goes.1, .returns leaving waits ready frame goes.2⟩

theorem goes_afterPass {loop : ExternalLoop} {frame : Frame} {signal : Signal} {premise : Prop}
    {now : State} (regular : premise → now.Regular) (running : now.control = .running)
    (here : now.scope.frame.cursor = frame.cursor) :
    (now.afterPass script loop signal).Goes script
      ((Suspended.caller frame (.pass loop)).Repeats signal)
      ((Suspended.caller frame (.pass loop)).PassesOn signal) premise now := by
  have known (other : Frame) (again : ExternalLoop) (place : other.cursor = now.scope.frame.cursor)
      (next : loop.Next again) : (Suspended.caller frame (.pass loop)).Repeats signal
        (.caller other (.pass again)) := ⟨place.trans here, next⟩
  unfold afterPass
  split
  · exact Step.goes_next (onward_report _ _ _)
  · have onward : now.Onward script (now.report .info "Continue statement" .loop) :=
      onward_report _ _ _
    refine Step.Goes.after (goes_continueExternal ?_ running known) onward
    exact fun given => onward.follows.regular (regular given)
  · exact goes_continueExternal regular running known

theorem goes_afterBody {loop : InlineLoop} {cursor : Cursor} {signal : Signal} {premise : Prop}
    {now : State} (regular : premise → now.Regular) (running : now.control = .running)
    (here : now.scope.frame.cursor = cursor)
    (ends : premise → ∀ line ∈ (loop.after signal).endLine, cursor.line ≤ line) :
    (now.afterBody script loop signal).Goes script
      ((Suspended.owner cursor loop).Repeats signal)
      ((Suspended.owner cursor loop).PassesOn signal) premise now := by
  cases signal with
  | resume line value =>
      have onward : now.Onward script (now.keepReturned value) := onward_keepReturned _
      refine Step.Goes.after (goes_continueInline ?_ running (fun again next => ?_) ?_) onward
      · exact fun given => onward.follows.regular (regular given)
      · exact ⟨here, next⟩
      · exact here ▸ ends
  | continued value =>
      have onward : now.Onward script
          ((now.report .info "Continue statement" .loop).keepReturned value) :=
        (onward_report _ _ _).trans (onward_keepReturned _)
      refine Step.Goes.after (goes_continueInline ?_ running (fun again next => ?_) ?_) onward
      · exact fun given => onward.follows.regular (regular given)
      · exact ⟨here, next⟩
      · exact here ▸ ends
  | returned value =>
      have onward : now.Onward script (now.report .info "Return statement" .loop) :=
        onward_report _ _ _
      exact ⟨⟨onward.follows.machine, rfl, rfl⟩,
        .leaves rfl ⟨rfl, rfl, value, rfl⟩ rfl onward.scope.frame⟩
  | broken value =>
      have onward : now.Onward script
          ((now.report .info "Break statement" .loop).keepReturned value) :=
        (onward_report _ _ _).trans (onward_keepReturned _)
      -- The end marker of the block is searched for, wherever the passes have ended.
      have ready := onward.control.trans running
      unfold afterBody
      exact Step.Goes.after (goes_leaveLoop ready fun _ => by simp) onward

theorem transits_handOver {signal : Signal} (leaving : state.control = .leaving signal) :
    (state.handOver script signal).Transits script state := by
  cases waits : state.suspended with
  | nil =>
      rw [handOver_alone waits]
      exact ⟨⟨.refl _, rfl, rfl⟩, .finished leaving waits, fun _ _ failed => nomatch failed⟩
  | cons waiting rest =>
      have follows : state.Follows (state.below waiting rest) := ⟨.refl _, rfl, rfl⟩
      have onward (value : String) : (state.below waiting rest).Onward script
          ((state.below waiting rest).keepReturned value) := onward_keepReturned value
      cases waiting with
      | caller frame wait =>
          cases wait with
          | call keyword =>
              rw [handOver_call waits]
              exact transits_returns leaving waits rfl rfl follows (Step.goes_next (onward _))
          | pass loop =>
              rw [handOver_pass waits]
              refine transits_returns leaving waits rfl rfl follows
                (Step.Goes.after (goes_afterPass ?_ rfl rfl) (onward _))
              exact fun given => (follows.trans (onward _).follows).regular given.regular
      | owner cursor loop =>
          rw [handOver_body waits]
          refine transits_returns leaving waits rfl rfl follows (goes_afterBody ?_ rfl rfl ?_)
          · exact fun given => follows.regular given.regular
          · exact fun given => given.ends signal cursor loop rest leaving waits

/-- One step, whatever the state. -/
theorem transits_step (script : Script) (whole : state.oneLine = false) :
    (state.step script).Transits script state := by
  unfold step
  cases control : state.control with
  | leaving signal => exact transits_handOver control
  | running =>
      rw [whole]
      exact transits_advance control

end State

end LineScript
