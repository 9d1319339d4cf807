import LineScript.Proofs.Footprint
import LineScript.Proofs.Header

/-!
The way from a line to its instruction. A line that does not come to its instruction does no more
than read its arguments and report, and beside the instruction that it carries out a step leaves
alone what instructions work on: the stores, the canvas, the generator, the files and the output.
-/

namespace LineScript

open LineScript.Action

namespace State

variable {script : Script} {line : Line} {now : State} {spec : Spec Meaning} {args : List String}
  {scope : Scope}

/-- Nothing happens but that lines are read and messages are added. -/
structure OnlyReads (before after : State) : Prop where
  scope : before.scope.Alters [.console, .log] after.scope
  suspended : after.suspended = before.suspended
  control : after.control = before.control
  floor : after.floor = before.floor
  oneLine : after.oneLine = before.oneLine

/-! ## One line -/

theorem Meets.alters (met : now.Meets line spec args scope) :
    now.scope.Alters [.console, .log] scope :=
  Respects.ok (Reference.alters_resolveAll _) met.resolved

theorem onlyReads_scope (alters : now.scope.Alters [.console, .log] scope) :
    now.OnlyReads { now with scope } :=
  ⟨alters, rfl, rfl, rfl, rfl⟩

theorem onlyReads_report (now : State) (note : Note) :
    now.OnlyReads { now with scope := now.scope.report note } :=
  onlyReads_scope (now.scope.alters_report note (by simp))

theorem OnlyReads.trans {first second third : State} (early : first.OnlyReads second)
    (late : second.OnlyReads third) : first.OnlyReads third :=
  ⟨early.scope.trans late.scope, late.suspended.trans early.suspended,
    late.control.trans early.control, late.floor.trans early.floor,
    late.oneLine.trans early.oneLine⟩

theorem onlyReads_lineFault (now : State) (fault : Fault) :
    now.OnlyReads (now.lineFault fault).state := by
  have same : now.OnlyReads now := onlyReads_scope (.refl _)
  cases fault with
  | exception exception =>
      unfold lineFault
      dsimp only
      split
      · exact same
      · exact onlyReads_scope (now.scope.alters_log _ (by simp))
  | _ => exact same

theorem meets_or_onlyReads (script : Script) (now : State) (line : Line) :
    (∃ spec args scope, now.Meets line spec args scope) ∨
      now.OnlyReads (now.execute script line).state := by
  have alters : Alters [.console, .log] (Reference.resolveAll (piecesOf line.tokens)) :=
    Reference.alters_resolveAll _
  cases now.execution script line with
  | performs met performed execute => exact .inl ⟨_, _, _, met⟩
  | fails met performed execute => exact .inl ⟨_, _, _, met⟩
  | unlimited unset execute => exact .inr (execute ▸ onlyReads_lineFault now _)
  | excess limited execute => exact .inr (execute ▸ onlyReads_report now _)
  | unread allowed resolved execute =>
      exact .inr (execute ▸
        (onlyReads_scope (alters.error resolved)).trans (onlyReads_lineFault _ _))
  | unnamed allowed resolved tokens execute =>
      exact .inr (execute ▸ (onlyReads_scope (alters.ok resolved)).trans (onlyReads_lineFault _ _))
  | unknown allowed resolved unknown execute =>
      exact .inr (execute ▸ (onlyReads_scope (alters.ok resolved)).trans (onlyReads_report _ _))
  | unsupplied allowed resolved found refused execute =>
      exact .inr (execute ▸ (onlyReads_scope (alters.ok resolved)).trans (onlyReads_report _ _))

end State

/-! ## Beside the instruction -/

/-- What instructions work on is the same of both machines, and so are the settings. -/
structure Machine.Idle (before after : Machine) : Prop where
  settings : after.settings = before.settings
  services : after.services = before.services
  memory : after.memory = before.memory
  stack : after.stack = before.stack
  queue : after.queue = before.queue
  canvas : after.canvas = before.canvas
  generator : after.generator = before.generator
  host : after.host = before.host
  wakes : after.wakes = before.wakes
  files : after.files = before.files
  output : after.output = before.output

namespace Machine

variable {first second third machine : Machine}

theorem Idle.refl (machine : Machine) : machine.Idle machine := by
  constructor <;> rfl

theorem Idle.trans (early : first.Idle second) (late : second.Idle third) : first.Idle third where
  settings := late.settings.trans early.settings
  services := late.services.trans early.services
  memory := late.memory.trans early.memory
  stack := late.stack.trans early.stack
  queue := late.queue.trans early.queue
  canvas := late.canvas.trans early.canvas
  generator := late.generator.trans early.generator
  host := late.host.trans early.host
  wakes := late.wakes.trans early.wakes
  files := late.files.trans early.files
  output := late.output.trans early.output

/-- Without an instruction nothing is done of what instructions do. -/
theorem outlasts_idle (machine : Machine) : Outlasts machine.Idle where
  report line note idle := idle.trans (by constructor <;> rfl)
  events looks events idle := idle.trans (by constructor <;> rfl)
  trace trace idle := idle.trans (by constructor <;> rfl)
  directive line text idle := idle.trans <| by
    unfold Directive.apply
    split <;> constructor <;> rfl
  frames frames idle := idle.trans (by constructor <;> rfl)

theorem idle_report (machine : Machine) (line : Int) (note : Note) :
    machine.Idle (machine.report line note) :=
  machine.outlasts_idle.report line note (.refl machine)

end Machine

def Part.idle : List Part := [.locals, .cursor, .compareFlag, .console, .log]

theorem Scope.Alters.idle {parts : List Part} {before after : Scope}
    (alters : before.Alters parts after) (included : parts ⊆ Part.idle) :
    before.machine.Idle after.machine := by
  have others (part : Part) (work : part ∉ Part.idle) : part.Same before after :=
    alters.others part fun listed => work (included listed)
  exact ⟨alters.steady.settings, alters.steady.services, others .memory (by decide),
    others .stack (by decide), others .queue (by decide), others .canvas (by decide),
    others .generator (by decide), alters.steady.host, alters.steady.wakes,
    others .files (by decide), others .output (by decide)⟩

theorem InlineLoop.alters_exit (loop : InlineLoop) (script : Script) (endLine : Option Nat) :
    Alters [.cursor, .log] (loop.exit script endLine) := by
  cases endLine with
  | some line => exact (Effect.alters_jumpTo script line).weaken (by simp)
  | none => exact alters_bind (Effect.alters_jumpOut _ _ _ _) fun _ => alters_pure _

def Step.Idle (now : State) (step : Step) : Prop :=
  now.scope.machine.Idle step.state.scope.machine

theorem Step.Idle.after {now later : State} {step : Step} (idle : step.Idle later)
    (early : now.scope.machine.Idle later.scope.machine) : step.Idle now :=
  Machine.Idle.trans early idle

namespace State

variable {script : Script} {line : Line} {now state : State} {spec : Spec Meaning}
  {args : List String} {scope : Scope}

theorem OnlyReads.idle {before after : State} (reads : before.OnlyReads after) :
    before.scope.machine.Idle after.scope.machine :=
  reads.scope.idle (by decide)

theorem idle_enter (frame : Frame) (waiting : Suspended) :
    (now.enter frame waiting).Idle now := by
  unfold enter
  split
  · next fault machine refused => exact (Machine.outlasts_idle _).checkDepth (.refl _) refused
  · exact .refl _

theorem idle_onMachine {change : Machine → Machine}
    (idle : now.scope.machine.Idle (change now.scope.machine)) :
    (Step.next (now.onMachine change)).Idle now :=
  idle

theorem idle_keepReturned (now : State) (value : String) :
    now.scope.machine.Idle (now.keepReturned value).scope.machine := by
  constructor <;> rfl

theorem idle_note (now : State) (note : Note) :
    now.scope.machine.Idle (now.scope.report note).machine :=
  (now.onlyReads_report note).idle

theorem idle_call (keyword entry : String) (args : List String) :
    (now.call script keyword entry args).Idle now := by
  unfold call
  split
  · exact (now.scope.machine.idle_report _ _).trans
      (idle_keepReturned (now.reportMissing entry) nullText)
  · exact idle_enter _ _

theorem idle_startPass (loop : ExternalLoop) : (now.startPass script loop).Idle now := by
  unfold startPass
  split
  · exact (now.scope.machine.idle_report _ _).trans (idle_note (now.reportMissing loop.body) _)
  · exact idle_enter _ _

theorem idle_instructionFault (name : String) (code : Code) (fault : Fault) :
    (now.instructionFault name code fault).Idle now := by
  cases fault with
  | exception exception => exact idle_note now _
  | unreadable text => exact idle_note now _
  | _ => exact .refl _

theorem idle_continueExternal (loop : ExternalLoop) :
    (now.continueExternal script loop).Idle now := by
  unfold continueExternal
  split
  · exact .refl _
  · exact idle_startPass _
  · next header _ =>
      have alters : Alters [.compareFlag, .console, .log] (loop.kind.condition true header) :=
        LoopKind.alters_condition true header
      split
      · next checked => exact (idle_startPass _).after ((alters.ok checked).idle (by decide))
      · next checked => exact (alters.ok checked).idle (by decide)
      · next failed =>
          exact (idle_instructionFault _ _ _).after ((alters.error failed).idle (by decide))

theorem idle_leaveLoop (loop : InlineLoop) (endLine : Option Nat) :
    (now.leaveLoop script loop endLine).Idle now := by
  have alters := loop.alters_exit script endLine
  rw [leaveLoop_eq]
  split
  · next left => exact (alters.ok left).idle (by decide)
  · next failed =>
      exact (idle_instructionFault _ _ _).after ((alters.error failed).idle (by decide))

theorem idle_startBody (loop : InlineLoop) : (now.startBody script loop).Idle now :=
  idle_enter _ _

theorem idle_continueInline (loop : InlineLoop) : (now.continueInline script loop).Idle now := by
  unfold continueInline
  split
  · exact idle_leaveLoop loop _
  · exact idle_startBody _
  · next header _ =>
      have alters : Alters [.compareFlag, .console, .log] (loop.kind.condition false header) :=
        LoopKind.alters_condition false header
      split
      · next checked => exact (idle_startBody _).after ((alters.ok checked).idle (by decide))
      · next checked => exact (idle_leaveLoop _ _).after ((alters.ok checked).idle (by decide))
      · next failed =>
          exact (idle_instructionFault _ _ _).after ((alters.error failed).idle (by decide))

theorem idle_openInline (loop : InlineLoop) (entered : Bool) :
    (now.openInline script loop entered).Idle now := by
  unfold openInline
  dsimp only
  split
  · exact now.scope.machine.idle_report _ _
  · split
    · exact idle_startBody loop
    · exact idle_continueInline loop

theorem idle_follow (keyword : String) (flow : Flow) :
    (now.follow script keyword flow).Idle now := by
  unfold follow
  split
  · exact .refl _
  · exact .refl _
  · exact idle_call _ _ _
  · split
    · exact idle_startPass _
    · exact idle_continueExternal _
  · exact idle_openInline _ _

theorem idle_settle (result : EStateM.Result Fault Scope Flow) :
    (lastScope result).machine.Idle (now.settle script spec result).state.scope.machine := by
  cases result with
  | ok flow scope =>
      have idle : (follow script spec.name flow { now with scope }).Idle { now with scope } :=
        idle_follow _ _
      exact idle
  | error fault scope =>
      have idle : (instructionFault { now with scope } spec.name
          (Meaning.exceptionCode spec.origin) fault).Idle { now with scope } :=
        idle_instructionFault _ _ _
      exact idle

theorem idle_afterPass (loop : ExternalLoop) (signal : Signal) :
    (now.afterPass script loop signal).Idle now := by
  unfold afterPass
  split
  · exact idle_note now _
  · exact (idle_continueExternal loop).after (idle_note now _)
  · exact idle_continueExternal loop

theorem idle_afterBody (loop : InlineLoop) (signal : Signal) :
    (now.afterBody script loop signal).Idle now := by
  have taken (value text : String) : now.scope.machine.Idle
      ((now.report .info text .loop).keepReturned value).scope.machine :=
    (idle_note now _).trans (idle_keepReturned (now.report .info text .loop) value)
  cases signal with
  | resume line value => exact (idle_continueInline _).after (idle_keepReturned _ _)
  | continued value => exact (idle_continueInline _).after (taken _ _)
  | returned value => exact idle_note now _
  | broken value => exact Step.Idle.after (idle_leaveLoop loop none) (taken value "Break statement")

theorem idle_handOver (signal : Signal) : (now.handOver script signal).Idle now := by
  match waits : now.suspended with
  | [] =>
      rw [handOver_alone waits]
      exact .refl _
  | .caller frame (.call keyword) :: rest =>
      rw [handOver_call waits]
      exact idle_keepReturned _ _
  | .caller frame (.pass loop) :: rest =>
      rw [handOver_pass waits]
      exact (idle_afterPass loop signal).after
        (idle_keepReturned (now.below (.caller frame (.pass loop)) rest) _)
  | .owner cursor loop :: rest =>
      rw [handOver_body waits]
      have idle : ((now.below (.owner cursor loop) rest).afterBody script loop signal).Idle
        (now.below (.owner cursor loop) rest) := idle_afterBody loop signal
      exact idle

theorem idle_told (state : State) (text : String) :
    state.scope.machine.Idle (state.told text).scope.machine :=
  state.told_outlasts state.scope.machine.outlasts_idle (.refl _) text

/-- The step carries out the instruction of the next line. -/
structure Carries (script : Script) (state : State) (line : Line) (spec : Spec Meaning)
    (args : List String) (scope : Scope) : Prop where
  next : state.nextLine? script = some line
  steps : state.step script = (state.told line.text).execute script line
  met : (state.told line.text).Meets line spec args scope

theorem Carries.before (carries : state.Carries script line spec args scope) :
    state.scope.machine.Idle scope.machine :=
  (state.idle_told line.text).trans (carries.met.alters.idle (by decide))

theorem Carries.after (carries : state.Carries script line spec args scope) :
    (lastScope ((state.told line.text).performed script line spec args scope)).machine.Idle
      (state.step script).state.scope.machine := by
  rw [carries.steps, carries.met.execute]
  exact idle_settle _

theorem carries_or_idle (script : Script) (state : State) :
    (∃ line spec args scope, state.Carries script line spec args scope) ∨
      (state.step script).Idle state := by
  cases state.steps script with
  | leaves leaving steps =>
      rw [steps]
      exact .inr (idle_handOver _)
  | rests running alone steps =>
      rw [steps]
      exact .inr (.refl _)
  | advances running steps =>
      rw [steps]
      cases state.advances script with
      | ends last advance =>
          rw [advance]
          exact .inr (.refl _)
      | skips found other advance =>
          rw [advance]
          exact .inr (.refl _)
      | @directs text found other filled directive advance =>
          have applied : (Step.next ((state.onLine text).onMachine fun machine =>
              Directive.apply machine ((state.scope.frame.cursor.line + 1 : Nat)) text)).Idle
                (state.onLine text) :=
            idle_onMachine ((Machine.outlasts_idle _).directive _ text (.refl _))
          rw [advance]
          exact .inr (applied.after (.refl _))
      | @executes text found executed =>
          cases heard : (state.announced text).2 with
          | some fault =>
              rw [advance_refused found executed heard]
              exact .inr (state.idle_told text)
          | none =>
              have told := advance_told found executed heard
              rw [told]
              let line := Line.ofText (state.scope.frame.cursor.line + 1) text
              rcases meets_or_onlyReads script (state.told text) line with
                ⟨spec, args, scope, met⟩ | reads
              · exact .inl ⟨line, spec, args, scope, nextLine?_instruction running found executed,
                  steps.trans told, met⟩
              · exact .inr ((state.idle_told text).trans reads.idle)

end State

end LineScript
