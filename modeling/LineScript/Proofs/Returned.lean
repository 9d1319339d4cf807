import LineScript.Proofs.Dispatch
import LineScript.Proofs.Scoping

/-!
The value that the last definition has returned. A loop puts this value into each of its signals,
and whoever receives such a signal keeps its value, so that nothing comes of it. The value changes
only when a call is over, or when a pass of a loop whose body is a definition ends with a return.
-/

namespace LineScript

open LineScript.Action

/-! ## Signals -/

def Signal.Carries (value : String) (signal : Signal) : Prop :=
  (∃ given, signal = .returned given) ∨ signal.value = value

def Machine.Native (machine : Machine) : Prop :=
  ∀ keyword, machine.services.instructions.get? keyword = none

theorem Machine.Native.lookup? {machine : Machine} (native : machine.Native) {keyword : String}
    {spec : Spec Meaning} (found : machine.lookup? keyword = some spec) :
    ∃ instruction, spec.action = .builtin instruction := by
  rcases lookup?_cases found with ⟨entry, -, origin, -, -, rfl⟩ | ⟨added, listed, -⟩
  · exact ⟨entry.instruction, rfl⟩
  · rw [native keyword] at listed
    cases listed

theorem Instruction.leave_value {instruction : Instruction} {script : Script} {inBody : Bool}
    {number : Nat} {pieces : List Piece} {args : List String} {scope after : Scope}
    {signal : Signal} (supplied : instruction.needed ≤ args.length)
    (result : instruction.perform script inBody number pieces args scope =
      .ok (.leave signal) after) : signal.Carries after.machine.returned := by
  by_cases onward : instruction.isOrdinary = true ∨ instruction.isJump = true
  · cases perform_next onward supplied result
  -- The instructions of loops put the value that is there into their signals.
  cases given supplied with
  | ret =>
      cases result
      exact .inl ⟨_, rfl⟩
  | endDefinition =>
      obtain ⟨flow, note, asked, closed⟩ := endOfDefinition_cases args scope
      cases closed.symm.trans result
      rcases asked with impossible | returned
      · cases impossible
      · exact .inl ⟨_, Flow.leave.inj returned⟩
  | call entry => cases result
  | halt => cases result
  | @loop rest kind first =>
      change (if (first :: rest).length > kind.inlineArity then _ else _ : Action Flow) scope = _
        at result
      split at result
      · obtain ⟨plan, middle, -, last⟩ := bind_ok result
        cases last
      · obtain ⟨plan, middle, -, last⟩ := bind_ok result
        cases last
  | endLoop kind =>
      change (if inBody = true then _ else _ : Action Flow) scope = _ at result
      split at result <;> cases result
      exact .inr rfl
  | breakLoop =>
      cases result
      exact .inr rfl
  | continueLoop =>
      cases result
      exact .inr rfl
  | ifBlock => exact absurd (.inr rfl) onward
  | elseBlock => exact absurd (.inr rfl) onward
  | _ => exact absurd (.inl rfl) onward

/-! ## Machines that keep the value -/

/-- The later machine has the instructions of the earlier one, and holds the same value. -/
structure Machine.Retains (before after : Machine) : Prop where
  services : after.services = before.services
  returned : after.returned = before.returned

namespace Machine

variable {first second third machine : Machine}

theorem Retains.refl (machine : Machine) : machine.Retains machine :=
  ⟨rfl, rfl⟩

theorem Retains.trans (early : first.Retains second) (late : second.Retains third) :
    first.Retains third :=
  ⟨late.services.trans early.services, late.returned.trans early.returned⟩

theorem Retains.native (retains : first.Retains second) (native : first.Native) :
    second.Native :=
  fun keyword => retains.services ▸ native keyword

theorem outlasts_retains (machine : Machine) : Outlasts machine.Retains where
  report line note retains := retains.trans ⟨rfl, rfl⟩
  events looks events retains := retains.trans ⟨rfl, rfl⟩
  trace trace retains := retains.trans ⟨rfl, rfl⟩
  directive line text retains := retains.trans <| by
    unfold Directive.apply
    split <;> exact ⟨rfl, rfl⟩
  frames frames retains := retains.trans ⟨rfl, rfl⟩

end Machine

theorem Scope.Steady.retains {before after : Scope} (steady : before.Steady after) :
    before.machine.Retains after.machine :=
  ⟨steady.services, steady.returned⟩

/-! ## Steps that keep the value -/

namespace State

def Loyal (state : State) : Prop :=
  ∀ signal, state.control = .leaving signal → signal.Carries state.scope.machine.returned

/-- A value becomes the one that the last definition has returned. -/
inductive Delivers (script : Script) (state : State) : String → Prop where
  | called {signal : Signal} {frame : Frame} {keyword : String} {rest : List Suspended}
      (leaving : state.control = .leaving signal)
      (waits : state.suspended = .caller frame (.call keyword) :: rest) :
      Delivers script state signal.value
  /-- A pass of a loop whose body is a definition has ended with a return. -/
  | passed {value : String} {frame : Frame} {loop : ExternalLoop} {rest : List Suspended}
      (leaving : state.control = .leaving (.returned value))
      (waits : state.suspended = .caller frame (.pass loop) :: rest) : Delivers script state value
  | missing {line : Line} {spec : Spec Meaning} {entry : String} {args : List String}
      {after : Scope} (next : state.nextLine? script = some line)
      (executes : state.step script = (state.told line.text).execute script line)
      (asked : (state.told line.text).Asked script line spec (.call entry args) after)
      (absent : script.entryLine? entry = none) : Delivers script state nullText

end State

def Step.Retains (now : State) : Step → Prop
  | .next after => now.scope.machine.Retains after.scope.machine ∧ after.Loyal
  | .stop _ last => now.scope.machine.Retains last.scope.machine

theorem Step.Retains.after {now later : State} {step : Step} (retains : step.Retains later)
    (early : now.scope.machine.Retains later.scope.machine) : step.Retains now := by
  cases step with
  | next after => exact ⟨early.trans retains.1, retains.2⟩
  | stop ending last => exact early.trans retains

theorem Step.Retains.returned {now : State} {step : Step} (retains : step.Retains now) :
    step.state.scope.machine.returned = now.scope.machine.returned := by
  cases step with
  | next after => exact retains.1.returned
  | stop ending last => exact Machine.Retains.returned retains

theorem Step.Retains.inScope {now : State} {scope : Scope} {step : Step}
    (retains : step.Retains { now with scope }) (steady : now.scope.Steady scope) :
    step.Retains now :=
  retains.after steady.retains

namespace State

variable {script : Script} {now state : State}

theorem loyal_of_running (running : state.control = .running) : state.Loyal := by
  intro signal leaving
  cases running.symm.trans leaving

theorem retains_next {after : State} (running : after.control = .running)
    (retains : now.scope.machine.Retains after.scope.machine) : (Step.next after).Retains now :=
  ⟨retains, loyal_of_running running⟩

theorem retains_machine {change : Machine → Machine} (running : now.control = .running)
    (retains : now.scope.machine.Retains (change now.scope.machine)) :
    (Step.next (now.onMachine change)).Retains now :=
  retains_next running retains

theorem retains_enter (frame : Frame) (waiting : Suspended) :
    (now.enter frame waiting).Retains now := by
  unfold enter
  split
  · next fault machine refused => exact (Machine.outlasts_retains _).checkDepth (.refl _) refused
  · exact retains_next rfl (.refl _)

theorem retains_call {entry : String} (found : script.entryLine? entry ≠ none) (keyword : String)
    (args : List String) : (now.call script keyword entry args).Retains now := by
  obtain ⟨line, found⟩ := Option.ne_none_iff_exists'.mp found
  unfold call
  rw [found]
  exact retains_enter _ _

theorem retains_startPass (running : now.control = .running) (loop : ExternalLoop) :
    (now.startPass script loop).Retains now := by
  unfold startPass
  split
  · exact retains_next running ⟨rfl, rfl⟩
  · exact retains_enter _ _

theorem retains_instructionFault (name : String) (code : Code) (fault : Fault) :
    (now.instructionFault name code fault).Retains now := by
  cases fault with
  | unreadable text => exact retains_next rfl ⟨rfl, rfl⟩
  | _ => exact ⟨rfl, rfl⟩

theorem retains_lineFault (fault : Fault) : (now.lineFault fault).Retains now := by
  cases fault with
  | exception exception =>
      unfold lineFault
      dsimp only
      split <;> exact ⟨rfl, rfl⟩
  | _ => exact ⟨rfl, rfl⟩

theorem retains_continueExternal (running : now.control = .running) (loop : ExternalLoop) :
    (now.continueExternal script loop).Retains now := by
  unfold continueExternal
  split
  · exact retains_next running (.refl _)
  · exact retains_startPass running _
  · next header _ =>
      have alters : Alters [.compareFlag, .console, .log] (loop.kind.condition true header) :=
        LoopKind.alters_condition true header
      split
      · next scope checked =>
          exact (retains_startPass (by exact running) loop).inScope (alters.ok checked).steady
      · next scope checked => exact retains_next running (alters.ok checked).steady.retains
      · next fault scope failed =>
          exact (retains_instructionFault _ _ fault).inScope
            (alters.error failed).steady

theorem retains_leaveLoop (running : now.control = .running) (loop : InlineLoop)
    (endLine : Option Nat) : (now.leaveLoop script loop endLine).Retains now := by
  have alters := loop.alters_exit script endLine
  rw [leaveLoop_eq]
  split
  · next scope left => exact retains_next running (alters.ok left).steady.retains
  · next fault scope failed =>
      exact (retains_instructionFault _ _ fault).inScope
        (alters.error failed).steady

theorem retains_startBody (loop : InlineLoop) : (now.startBody script loop).Retains now :=
  retains_enter _ _

theorem retains_continueInline (running : now.control = .running) (loop : InlineLoop) :
    (now.continueInline script loop).Retains now := by
  unfold continueInline
  split
  · exact retains_leaveLoop running loop _
  · exact retains_startBody _
  · next header _ =>
      have alters : Alters [.compareFlag, .console, .log] (loop.kind.condition false header) :=
        LoopKind.alters_condition false header
      split
      · next scope checked =>
          exact (retains_startBody loop).inScope (alters.ok checked).steady
      · next scope checked =>
          exact (retains_leaveLoop (by exact running) loop _).inScope (alters.ok checked).steady
      · next fault scope failed =>
          exact (retains_instructionFault _ _ fault).inScope
            (alters.error failed).steady

theorem retains_openInline (running : now.control = .running) (loop : InlineLoop)
    (entered : Bool) : (now.openInline script loop entered).Retains now := by
  unfold openInline
  dsimp only
  split
  · exact ⟨rfl, rfl⟩
  · split
    · exact retains_startBody loop
    · exact retains_continueInline running loop

theorem retains_follow (running : now.control = .running) (keyword : String) {flow : Flow}
    (carries : ∀ signal, flow = .leave signal → signal.Carries now.scope.machine.returned)
    (defined : ∀ entry args, flow = .call entry args → script.entryLine? entry ≠ none) :
    (now.follow script keyword flow).Retains now := by
  cases flow with
  | next => exact retains_next running (.refl _)
  | leave signal =>
      refine ⟨.refl _, fun other leaving => ?_⟩
      cases leaving
      exact carries signal rfl
  | call entry args => exact retains_call (defined entry args rfl) keyword args
  | external loop entered =>
      unfold follow
      dsimp only
      split
      · exact retains_startPass running loop
      · exact retains_continueExternal running loop
  | inline loop entered => exact retains_openInline running loop entered

/-! ## Carrying out a line -/

theorem Meets.asked_call {line : Line} {spec : Spec Meaning} {args others : List String}
    {scope after : Scope} {entry : String} (met : now.Meets line spec args scope)
    (native : now.scope.machine.Native)
    (performed : now.performed script line spec args scope = .ok (.call entry others) after) :
    now.Asked script line spec (.call entry others) after := by
  have supplied := Machine.lookup?_supplied met.found met.supplied
  have asks := (Meaning.perform_ok supplied performed).1
  -- Without arguments there is no call, so their number has been compared with a limit.
  have given : piecesOf line.tokens ≠ [] := by
    intro none
    have empty := Reference.length_resolveAll met.resolved
    rw [none] at empty
    obtain ⟨instruction, same⟩ := (met.alters.steady.retains.native native).lookup? met.found
    rw [same] at asks supplied
    cases asks with
    | call meaning calls =>
        obtain rfl : instruction = .call := calls
        have needed : 1 ≤ args.length := supplied .call rfl
        rw [empty] at needed
        cases needed
  obtain ⟨limit, limited⟩ := met.allowed.limited given
  exact ⟨limited, met.allowed.fits limited, met.resolved, met.found, met.supplied, performed⟩

theorem retains_execute (running : now.control = .running) (native : now.scope.machine.Native)
    (line : Line) (defined : ∀ spec entry args after,
      now.Asked script line spec (.call entry args) after → script.entryLine? entry ≠ none) :
    (now.execute script line).Retains now := by
  have reads : Alters _ (Reference.resolveAll (piecesOf line.tokens)) :=
    Reference.alters_resolveAll _
  cases now.execution script line with
  | unlimited unset execute =>
      rw [execute]
      exact retains_lineFault _
  | excess limited execute =>
      rw [execute]
      exact retains_next running ⟨rfl, rfl⟩
  | unread allowed resolved execute =>
      rw [execute]
      exact (retains_lineFault _).inScope (reads.error resolved).steady
  | unnamed allowed resolved tokens execute =>
      rw [execute]
      exact (retains_lineFault _).inScope (reads.ok resolved).steady
  | unknown allowed resolved unknown execute =>
      rw [execute]
      exact (reads.ok resolved).steady.retains.trans ⟨rfl, rfl⟩
  | unsupplied allowed resolved found refused execute =>
      rw [execute]
      exact retains_next running ((reads.ok resolved).steady.retains.trans ⟨rfl, rfl⟩)
  | @performs args scope after spec flow met performed execute =>
      have steady := (reads.ok met.resolved).steady
      have performs : scope.Steady after := Respects.ok Meaning.steady_perform performed
      rw [execute]
      refine Step.Retains.inScope ?_ (steady.trans performs)
      refine retains_follow (by exact running) spec.name (fun signal leaves => ?_)
        fun entry others calls => ?_
      · obtain ⟨instruction, same⟩ := (steady.retains.native native).lookup? met.found
        have supplied := Machine.lookup?_supplied met.found met.supplied instruction same
        unfold State.performed at performed
        rw [same, leaves] at performed
        exact Instruction.leave_value supplied performed
      · rw [calls] at performed
        exact defined spec entry others after (met.asked_call native performed)
  | @fails args scope after spec fault met performed execute =>
      have steady := (reads.ok met.resolved).steady
      have performs : scope.Steady after := Respects.error Meaning.steady_perform performed
      rw [execute]
      exact (retains_instructionFault _ _ fault).inScope (steady.trans performs)

theorem Asked.steady {line : Line} {spec : Spec Meaning} {flow : Flow} {after : Scope}
    (asked : now.Asked script line spec flow after) : now.scope.Steady after := by
  obtain ⟨args, scope, met, performed⟩ := asked.meets
  have performs : scope.Steady after := Respects.ok Meaning.steady_perform performed
  exact met.alters.steady.trans performs

theorem retains_execute_missing (running : now.control = .running) {line : Line}
    {spec : Spec Meaning} {entry : String} {args : List String} {after : Scope}
    (asked : now.Asked script line spec (.call entry args) after)
    (absent : script.entryLine? entry = none) :
    (now.execute script line).Retains (now.keepReturned nullText) := by
  rw [asked.execute]
  unfold follow call
  dsimp only
  rw [absent]
  exact retains_next running ⟨asked.steady.services, rfl⟩

/-! ## One step -/

theorem retains_told (state : State) (text : String) :
    state.scope.machine.Retains (state.told text).scope.machine :=
  state.told_outlasts state.scope.machine.outlasts_retains (.refl _) text

theorem retains_advance (running : state.control = .running) (native : state.scope.machine.Native)
    (defined : ∀ line spec entry args after, state.nextLine? script = some line →
      state.advance script = (state.told line.text).execute script line →
      (state.told line.text).Asked script line spec (.call entry args) after →
      script.entryLine? entry ≠ none) :
    (state.advance script).Retains state := by
  cases state.advances script with
  | ends last advance =>
      rw [advance]
      refine ⟨.refl _, fun signal leaving => ?_⟩
      cases leaving
      exact .inl ⟨_, rfl⟩
  | skips found other advance =>
      rw [advance]
      exact retains_next running (.refl _)
  | @directs text found other filled directive advance =>
      have ready : (state.onLine text).control = .running := running
      have applied : (Step.next ((state.onLine text).onMachine fun machine =>
          Directive.apply machine ((state.scope.frame.cursor.line + 1 : Nat)) text)).Retains
            (state.onLine text) := retains_machine ready
              ((Machine.outlasts_retains _).directive _ text (.refl _))
      rw [advance]
      exact applied.after (.refl _)
  | @executes text found executed =>
      have told := state.retains_told text
      have ready : (state.told text).control = .running :=
        (state.same_told text).control.trans running
      cases heard : (state.announced text).2 with
      | some fault =>
          rw [advance_refused found executed heard]
          exact told
      | none =>
          have advance := advance_told found executed heard
          have next := nextLine?_instruction running found executed
          have executes : ((state.told text).execute script
              (.ofText (state.scope.frame.cursor.line + 1) text)).Retains (state.told text) :=
            retains_execute ready (told.native native) _ fun spec entry args after asked =>
              defined _ spec entry args after next advance asked
          rw [advance]
          exact executes.after told

theorem retains_afterPass (running : now.control = .running) (loop : ExternalLoop)
    (signal : Signal) : (now.afterPass script loop signal).Retains now := by
  unfold afterPass
  split
  · exact retains_next running ⟨rfl, rfl⟩
  · exact Step.Retains.after (retains_continueExternal (by exact running) loop) ⟨rfl, rfl⟩
  · exact retains_continueExternal running loop

theorem retains_afterBody (running : now.control = .running) (loop : InlineLoop) {signal : Signal}
    (carries : signal.Carries now.scope.machine.returned) :
    (now.afterBody script loop signal).Retains now := by
  have same {value : String} (other : signal.value = value)
      (loops : ∀ given, signal ≠ .returned given) : value = now.scope.machine.returned := by
    rcases carries with ⟨given, returned⟩ | carries
    · exact absurd returned (loops given)
    · exact other.symm.trans carries
  cases signal with
  | resume line value =>
      exact Step.Retains.after (retains_continueInline (by exact running) _)
        ⟨rfl, same rfl nofun⟩
  | continued value =>
      exact Step.Retains.after (retains_continueInline (by exact running) loop)
        ⟨rfl, same rfl nofun⟩
  | broken value =>
      exact Step.Retains.after (retains_leaveLoop (by exact running) loop none)
        ⟨rfl, same rfl nofun⟩
  | returned value =>
      refine ⟨⟨rfl, rfl⟩, fun other leaving => ?_⟩
      cases leaving
      exact .inl ⟨_, rfl⟩

theorem Delivers.retains {value : String} (delivers : state.Delivers script value) :
    (state.step script).Retains (state.keepReturned value) := by
  cases delivers with
  | called leaving waits =>
      rw [step_leaving leaving, handOver_call waits]
      exact retains_next rfl (.refl _)
  | passed leaving waits =>
      rw [step_leaving leaving, handOver_pass waits]
      exact Step.Retains.after (retains_afterPass (by rfl) _ _) (.refl _)
  | @missing line spec entry args after next executes asked absent =>
      obtain ⟨running, text, rfl, found, executed⟩ := isInstruction_of_nextLine? next
      have told := state.retains_told text
      rw [executes]
      have ready : (state.told text).control = .running :=
        (state.same_told text).control.trans running
      exact (retains_execute_missing ready asked absent).after ⟨told.services, rfl⟩

theorem Loyal.retains (loyal : state.Loyal) (native : state.scope.machine.Native)
    (nothing : ∀ value, ¬ state.Delivers script value) : (state.step script).Retains state := by
  cases state.steps script with
  | rests running alone steps =>
      rw [steps]
      exact .refl _
  | advances running steps =>
      rw [steps]
      refine retains_advance running native ?_
      intro line spec entry args after next executes asked absent
      exact nothing _ (.missing next (steps.trans executes) asked absent)
  | @leaves signal leaving steps =>
      have carries := loyal signal leaving
      rw [steps]
      match waits : state.suspended with
      | [] =>
          rw [handOver_alone waits]
          exact .refl _
      | .caller frame (.call keyword) :: rest => exact absurd (.called leaving waits) (nothing _)
      | .caller frame (.pass loop) :: rest =>
          rw [handOver_pass waits]
          -- The value is kept once more, and it is the one that is there unless it was returned.
          refine Step.Retains.after (retains_afterPass (by rfl) loop signal) ⟨rfl, ?_⟩
          rcases carries with ⟨given, rfl⟩ | carries
          · exact absurd (.passed leaving waits) (nothing _)
          · exact carries
      | .owner cursor loop :: rest =>
          rw [handOver_body waits]
          let taken := state.below (.owner cursor loop) rest
          have kept : (taken.afterBody script loop signal).Retains taken :=
            retains_afterBody rfl loop carries
          exact kept.after (.refl _)

/-! ## Runs -/

/-- The run leads from the one state to the other and delivers the values on its way, the last one
first. -/
inductive Delivered (script : Script) (first : State) : List String → State → Prop where
  | refl : Delivered script first [] first
  | value {values : List String} {value : String} {state after : State}
      (early : Delivered script first values state) (delivers : state.Delivers script value)
      (stepped : state.step script = .next after) : Delivered script first (value :: values) after
  | nothing {values : List String} {state after : State}
      (early : Delivered script first values state)
      (nothing : ∀ value, ¬ state.Delivers script value)
      (stepped : state.step script = .next after) : Delivered script first values after

variable {first after : State} {values : List String}

theorem Stays.delivered {kept : List Suspended} (stays : first.Stays script kept state) :
    ∃ values, first.Delivered script values state := by
  induction stays with
  | refl => exact ⟨[], .refl⟩
  | @step state after stays room stepped ih =>
      obtain ⟨values, early⟩ := ih
      by_cases delivers : ∃ value, state.Delivers script value
      · obtain ⟨value, delivers⟩ := delivers
        exact ⟨value :: values, early.value delivers stepped⟩
      · exact ⟨values, early.nothing (not_exists.mp delivers) stepped⟩

theorem Delivered.retains (delivered : first.Delivered script values state) (loyal : first.Loyal)
    (native : first.scope.machine.Native) :
    (first.keepReturned (values.headD first.scope.machine.returned)).scope.machine.Retains
      state.scope.machine ∧ state.Loyal := by
  induction delivered with
  | refl => exact ⟨.refl _, loyal⟩
  | value early delivers stepped ih =>
      have retains := delivers.retains
      rw [stepped] at retains
      exact ⟨⟨retains.1.services.trans ih.1.services, retains.1.returned⟩, retains.2⟩
  | nothing early nothing stepped ih =>
      have retains := ih.2.retains (ih.1.native native) nothing
      rw [stepped] at retains
      exact ⟨ih.1.trans retains.1, retains.2⟩

/-- What becomes, in a run from the state, of the value that the last definition has returned. -/
structure KeepsReturned (script : Script) (first : State) : Prop where
  signals : ∀ state, first.Stays script [] state → ∀ signal, state.control = .leaving signal →
    (∃ value, signal = .returned value) ∨ signal.value = state.scope.machine.returned
  delivered : ∀ state value, first.Stays script [] state → state.Delivers script value →
    (state.step script).state.scope.machine.returned = value
  kept : ∀ state, first.Stays script [] state → (∀ value, ¬ state.Delivers script value) →
    (state.step script).state.scope.machine.returned = state.scope.machine.returned
  last : ∀ state, first.Stays script [] state → ∃ values, first.Delivered script values state ∧
    state.scope.machine.returned = values.headD first.scope.machine.returned

theorem keepsReturned (running : first.control = .running)
    (native : first.scope.machine.Native) : first.KeepsReturned script := by
  have holds (state : State) (stays : first.Stays script [] state) : ∃ values,
      first.Delivered script values state ∧ state.Loyal ∧ state.scope.machine.Native ∧
        state.scope.machine.returned = values.headD first.scope.machine.returned := by
    obtain ⟨values, delivered⟩ := stays.delivered
    obtain ⟨retains, loyal⟩ := delivered.retains (loyal_of_running running) native
    exact ⟨values, delivered, loyal, retains.native native, retains.returned⟩
  refine ⟨fun state stays => ?_, fun state value _ delivers => delivers.retains.returned,
    fun state stays nothing => ?_, fun state stays => ?_⟩
  · obtain ⟨_, -, loyal, -⟩ := holds state stays
    exact loyal
  · obtain ⟨_, -, loyal, native, -⟩ := holds state stays
    exact (loyal.retains native nothing).returned
  · obtain ⟨values, delivered, -, -, returned⟩ := holds state stays
    exact ⟨values, delivered, returned⟩

/-! ## Whole lines -/

/-- What starts from a line shares the frame of the line. -/
def SharesFrame (script : Script) (state : State) : Prop :=
  state.offspring script = .none ∨ state.offspring script = .shared

/-- The line of the frame, and whatever it has led to, is no call and no loop whose body is a
definition. -/
structure StartsNone (script : Script) (origin : State) : Prop where
  line : origin.SharesFrame script
  later : ∀ state, origin.Underway script state →
    origin.suspended.length < state.suspended.length → state.SharesFrame script

theorem Asked.offspring {line : Line} {spec : Spec Meaning} {entry : String} {args : List String}
    {after : Scope} (asked : now.Asked script line spec (.call entry args) after) :
    now.scope.machine.offspring line.keyword (piecesOf line.tokens).length = .own ∨
      now.scope.machine.offspring line.keyword (piecesOf line.tokens).length = .foreign := by
  have asks := asked.asks
  obtain ⟨_, _, met, -⟩ := asked.meets
  rw [met.offspring]
  generalize spec.action = meaning at asks
  cases asks with
  | call meaning calls => exact Meaning.offspring_of_calls calls _

theorem Delivers.starts {value : String} (delivers : state.Delivers script value) :
    (∃ frame wait rest, state.suspended = .caller frame wait :: rest) ∧
        (∃ signal, state.control = .leaving signal) ∨ ¬ state.SharesFrame script := by
  cases delivers with
  | called leaving waits => exact .inl ⟨⟨_, _, _, waits⟩, _, leaving⟩
  | passed leaving waits => exact .inl ⟨⟨_, _, _, waits⟩, _, leaving⟩
  | @missing line spec entry args after next executes asked absent =>
      obtain ⟨running, text, rfl, found, executed⟩ := isInstruction_of_nextLine? next
      right
      have starts := asked.offspring
      have same : (state.told text).scope.machine.offspring (LineText.keyword text)
          (LineText.pieces text).length = state.offspring script :=
        ((state.same_told text).machine.offspring _ _).trans
          (offspring_line running found executed).symm
      change (state.told text).scope.machine.offspring (LineText.keyword text)
          (LineText.pieces text).length = .own ∨
        (state.told text).scope.machine.offspring (LineText.keyword text)
          (LineText.pieces text).length = .foreign at starts
      rw [same] at starts
      rintro (quiet | shares)
      · simp [quiet] at starts
      · simp [shares] at starts

variable {origin : State} {entry : String} {machine : Machine}

theorem extends_step (reached : Program.Reaches script entry machine state)
    (shares : state.SharesFrame script)
    (bodies : ∀ signal waiting rest, state.control = .leaving signal →
      state.suspended = waiting :: rest → waiting.startsBody = true)
    (stepped : state.step script = .next after) :
    after.suspended = state.waiting ∨
      ∃ cursor loop, after.suspended = .owner cursor loop :: state.waiting := by
  cases control : state.control with
  | running =>
      rw [waiting_of_running control]
      rcases shares with quiet | starts
      · exact .inl (reached.suspended_line control quiet stepped)
      · have turns := reached.turns_line (.inr starts) stepped
        rw [starts] at turns
        rcases turns.shared.2 with same | ⟨loop, pushed⟩
        · exact .inl same
        · exact .inr ⟨_, loop, pushed⟩
  | leaving signal =>
      rw [waiting, control]
      cases waits : state.suspended with
      | nil =>
          rw [step_leaving control, handOver, waits] at stepped
          cases stepped
      | cons waiting rest =>
          have body := bodies signal waiting rest control waits
          have turns := reached.turns_end control waits stepped
          cases waiting with
          | caller frame wait => cases body
          | owner cursor loop =>
              rcases turns.shared.2 with same | ⟨loop, pushed⟩
              · exact .inl same
              · exact .inr ⟨_, loop, pushed⟩

theorem Underway.bodies (underway : origin.Underway script state)
    (reached : Program.Reaches script entry machine origin) (running : origin.control = .running)
    (quiet : origin.StartsNone script) : ∃ above, state.suspended = above ++ origin.suspended ∧
      ∀ waiting ∈ above, waiting.startsBody = true := by
  induction underway with
  | begins stepped =>
      have extended := extends_step reached quiet.line
        (fun signal waiting rest leaving => nomatch running.symm.trans leaving) stepped
      rw [waiting_of_running running] at extended
      rcases extended with same | ⟨cursor, loop, pushed⟩
      · exact ⟨[], same, by simp⟩
      · exact ⟨[.owner cursor loop], pushed, by simp [Suspended.startsBody]⟩
  | @goesOn state after underway deeper stepped ih =>
      obtain ⟨above, split, bodies⟩ := ih
      obtain ⟨first, lower, rfl⟩ : ∃ first lower, above = first :: lower := by
        cases above with
        | nil =>
            rw [split] at deeper
            exact absurd deeper (Nat.lt_irrefl _)
        | cons first lower => exact ⟨first, lower, rfl⟩
      have below : ∀ waiting ∈ lower, waiting.startsBody = true := fun waiting member =>
        bodies waiting (List.mem_cons_of_mem _ member)
      -- A signal takes the uppermost frame away, and what waits is what is left above the origin.
      obtain ⟨still, waits, known⟩ : ∃ still, state.waiting = still ++ origin.suspended ∧
          ∀ waiting ∈ still, waiting.startsBody = true := by
        unfold waiting
        split
        · exact ⟨first :: lower, split, bodies⟩
        · exact ⟨lower, by rw [split]; rfl, below⟩
      have extended := extends_step (underway.reaches reached) (quiet.later state underway deeper)
        (fun signal waiting rest leaving waits => by
          rw [split] at waits
          exact bodies waiting ((List.cons.inj waits).1 ▸ List.mem_cons_self)) stepped
      rw [waits] at extended
      rcases extended with same | ⟨cursor, loop, pushed⟩
      · exact ⟨still, same, known⟩
      · refine ⟨.owner cursor loop :: still, pushed, ?_⟩
        exact List.forall_mem_cons.mpr ⟨rfl, known⟩

theorem Underway.nothing (underway : origin.Underway script state)
    (reached : Program.Reaches script entry machine origin) (running : origin.control = .running)
    (quiet : origin.StartsNone script) (deeper : origin.suspended.length < state.suspended.length)
    (value : String) : ¬ state.Delivers script value := by
  intro delivers
  obtain ⟨above, split, bodies⟩ := underway.bodies reached running quiet
  rcases delivers.starts with ⟨⟨frame, wait, rest, waits⟩, -⟩ | own
  · cases above with
    | nil =>
        rw [split] at deeper
        exact absurd deeper (Nat.lt_irrefl _)
    | cons first lower =>
        rw [split] at waits
        cases (List.cons.inj waits).1
        cases bodies _ List.mem_cons_self
  · exact own (quiet.later state underway deeper)

end State

namespace Program

variable {script : Script} {entry : String} {machine : Machine} {state after : State}

theorem Reaches.native (native : machine.Native) (reached : Reaches script entry machine state) :
    state.scope.machine.Native :=
  fun keyword => reached.follows.services ▸ native keyword

theorem Reaches.loyal (native : machine.Native) (reached : Reaches script entry machine state) :
    state.Loyal := by
  obtain ⟨first, started, stays⟩ := reached.bottom
  have running := (starts_of_running started).control
  have kept : first.KeepsReturned script :=
    State.keepsReturned running ((Reaches.start started).native native)
  exact kept.signals state stays

theorem Reaches.retains (native : machine.Native) (reached : Reaches script entry machine state)
    (nothing : ∀ value, ¬ state.Delivers script value)
    (stepped : state.step script = .next after) :
    after.scope.machine.returned = state.scope.machine.returned := by
  have retains := (reached.loyal native).retains (reached.native native) nothing
  rw [stepped] at retains
  exact retains.1.returned

theorem Reaches.returned_underway {origin : State} (native : machine.Native)
    (reached : Reaches script entry machine origin) (running : origin.control = .running)
    (quiet : origin.StartsNone script) (underway : origin.Underway script state) :
    state.scope.machine.returned = origin.scope.machine.returned := by
  induction underway with
  | begins stepped =>
      refine reached.retains native (fun value delivers => ?_) stepped
      rcases delivers.starts with ⟨-, signal, leaving⟩ | own
      · cases running.symm.trans leaving
      · exact own quiet.line
  | goesOn underway deeper stepped ih =>
      have nothing := underway.nothing reached running quiet deeper
      exact ((underway.reaches reached).retains native nothing stepped).trans ih

/-- What becomes of the value that the last definition has returned. -/
structure KeepsReturned (script : Script) (machine : Machine) : Prop where
  begins : ∀ entry, match start script entry machine with
    | .running first => first.scope.machine.returned = machine.returned
    | .ended run => run.machine.returned = machine.returned
  ends : ∀ ending last, (close ending last).machine.returned = last.scope.machine.returned
  /-- In between it is what has been delivered last, wherever the run begins. -/
  runs : ∀ first : State, first.control = .running →
    first.scope.machine.services = machine.services → first.KeepsReturned script
  /-- A line that makes no call and starts no definition leaves it as it is, even if the line is the
  header of a loop that makes many passes. -/
  lines : ∀ entry origin after, Reaches script entry machine origin →
    origin.Completes script after → origin.StartsNone script →
    after.scope.machine.returned = origin.scope.machine.returned

/-- Loops do not change what the last definition has returned: only the end of a call does, a call
of a definition that there is not, and the return from a pass of a loop whose body is a
definition. -/
theorem returned_delivered (script : Script) (machine : Machine)
    (native : ∀ keyword, machine.services.instructions.get? keyword = none) :
    KeepsReturned script machine where
  begins entry := by
    have retains := machine.outlasts_retains.start (.refl machine) script entry
    split <;> next started =>
      rw [started] at retains
      exact retains.returned
  ends ending last := (last.scope.machine.outlasts_retains.close (.refl _) ending).returned
  runs first running same := State.keepsReturned running fun keyword => same ▸ native keyword
  lines entry origin after reached completes quiet :=
    reached.returned_underway native completes.running quiet completes.underway

def loopsExample : Script :=
  .ofLines "" ["DEF main", "CALL f", "FOR 3", "CONTINUE", "ENDF", "FOR g 2", "PRINT $_ret",
    "ENDDEF", "DEF f", "RET 7", "ENDDEF", "DEF g", "BREAK", "ENDDEF"]

theorem returned_delivered_loopsExample :
    (∀ keyword, Machine.plainExample.services.instructions.get? keyword = none) ∧
      (run loopsExample "main" .plainExample 40).map (·.machine.output) = some "7\n" ∧
      KeepsReturned loopsExample .plainExample :=
  ⟨fun _ => rfl, by decide +kernel, returned_delivered loopsExample .plainExample fun _ => rfl⟩

end Program

end LineScript
