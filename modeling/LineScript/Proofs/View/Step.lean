import LineScript.Proofs.Reaches
import LineScript.Proofs.View.Instruction

/-!
Steps in a view. A step of the second script leads to what the first one leads to, seen in the view,
as soon as both read the same line; where the limits of the view are greater, the step must not come
to a limit.
-/

namespace LineScript

/-! ## States and steps in a view -/

namespace View

variable (view : View)

def suspended : Suspended → Suspended
  | .caller frame wait => .caller (view.frame frame) wait
  | .owner cursor loop => .owner (view.cursor cursor) (view.loop loop)

def control : Control → Control
  | .running => .running
  | .leaving signal => .leaving (view.signal signal)

def state (state : State) : State where
  scope := view.scope state.scope
  suspended := state.suspended.map view.suspended
  control := view.control state.control
  floor := ⟨state.floor.depth, view.line state.floor.line⟩
  oneLine := state.oneLine

def ending : Ending → Ending
  | .finished signal => .finished (signal.map view.signal)
  | .failed fault => .failed (view.fault fault)

def step : Step → Step
  | .next state => .next (view.state state)
  | .stop ending state => .stop (view.ending ending) (view.state state)

@[simp]
theorem frame_suspended (waiting : Suspended) (above : Frame) :
    (view.suspended waiting).frame (view.frame above) = view.frame (waiting.frame above) := by
  cases waiting <;> rfl

@[simp]
theorem keyword_suspended (waiting : Suspended) :
    (view.suspended waiting).keyword = waiting.keyword := by
  cases waiting <;> rfl

@[simp]
theorem startsBody_suspended (waiting : Suspended) :
    (view.suspended waiting).startsBody = waiting.startsBody := by
  cases waiting <;> rfl

theorem machine_state (state : State) :
    (view.state state).scope.machine = view.machine state.scope.machine :=
  rfl

theorem depth_state (state : State) : (view.state state).depth = state.depth := by
  simp only [State.depth, View.state, List.length_map]
  rfl

theorem inBody_state (state : State) : (view.state state).inBody = state.inBody := by
  cases waits : state.suspended <;> simp [State.inBody, View.state, waits]

theorem currentLine_state (state : State) :
    (view.state state).currentLine = view.line state.currentLine := by
  unfold State.currentLine
  simp only [View.state, List.isEmpty_map]
  split <;> rfl

theorem onMachine_state {state : State} {change other : Machine → Machine}
    (same : other (view.machine state.scope.machine) = view.machine (change state.scope.machine)) :
    (view.state state).onMachine other = view.state (state.onMachine change) :=
  congrArg (fun machine => (view.state state).onMachine fun _ => machine) same

theorem reportMissing_state (state : State) (entry : String) :
    (view.state state).reportMissing entry = view.state (state.reportMissing entry) := by
  have report := view.machine_report state.scope.machine 0
    ⟨.error, Effect.entryMissing entry, .entryPointNotFound⟩
  rw [view.line_zero] at report
  exact view.onMachine_state report

theorem instructionFault_state (state : State) (name : String) (code : Code) (fault : Fault) :
    (view.state state).instructionFault name code (view.fault fault) =
      view.step (state.instructionFault name code fault) := by
  cases fault <;> rfl

theorem lineFault_state (state : State) (fault : Fault) :
    (view.state state).lineFault (view.fault fault) = view.step (state.lineFault fault) := by
  cases fault with
  | exception exception =>
      have same : (view.state state).suspended = state.suspended.map view.suspended := rfl
      have frame : (view.state state).scope.frame = view.frame state.scope.frame := rfl
      unfold State.lineFault View.fault
      dsimp only
      rw [same, frame]
      cases state.suspended with
      | nil => rfl
      | cons waiting rest =>
          simp only [List.map_cons, keyword_suspended, frame_suspended]
          rfl
  | _ => rfl

theorem record_state (state : State) (line : Line) :
    (view.state state).record { line with number := view.line line.number } =
      view.state (state.record line) := by
  unfold State.record
  rw [depth_state]
  change (if state.scope.machine.settings.tracing = true then _ else _) = _
  dsimp only
  split <;> rfl

theorem machine_apply (machine : Machine) (line : Nat) (text : String) :
    Directive.apply (view.machine machine) (view.line line) text =
      view.machine (Directive.apply machine line text) := by
  unfold Directive.apply
  split <;> rfl

/-! ## Limits -/

theorem maxDepth_machine (machine : Machine) :
    (view.machine machine).settings.maxDepth =
      machine.settings.maxDepth.map (· + (view.deeper : Int)) :=
  rfl

theorem maxArgs_machine (machine : Machine) :
    (view.machine machine).settings.maxArgs =
      machine.settings.maxArgs.map (· + (view.wider : Int)) :=
  rfl

theorem checkDepth_none {machine : Machine} {depth line : Nat}
    (free : machine.checkDepth depth line = none) :
    (view.machine machine).checkDepth depth (view.line line) = none := by
  unfold Machine.checkDepth at free ⊢
  rw [view.maxDepth_machine]
  cases limited : machine.settings.maxDepth with
  | none => simp [limited] at free
  | some limit =>
      have room : ¬ limit ≤ (depth : Int) := by simpa [limited] using free
      dsimp only [Option.map_some]
      rw [if_neg (by omega)]

variable {view} in
theorem checkDepth_some {machine after : Machine} {depth line : Nat} {fault : Fault}
    (refused : machine.checkDepth depth line = some (fault, after))
    (same : fault = .halt Signal.abnormalCode → view.deeper = 0) :
    (view.machine machine).checkDepth depth (view.line line) =
      some (view.fault fault, view.machine after) := by
  unfold Machine.checkDepth at refused ⊢
  rw [view.maxDepth_machine]
  cases limited : machine.settings.maxDepth with
  | none =>
      rw [limited] at refused
      cases refused
      rfl
  | some limit =>
      rw [limited] at refused
      dsimp only at refused
      by_cases deep : limit ≤ (depth : Int)
      · rw [if_pos deep] at refused
        cases refused
        rw [same rfl]
        dsimp only [Option.map_some]
        rw [Int.natCast_zero, Int.add_zero, if_pos deep]
        rfl
      · rw [if_neg deep] at refused
        cases refused

end View

theorem pieces?_wider {limit : Int} {tokens : List String} {pieces : List Piece}
    (counted : pieces? limit tokens = .ok pieces) (more : Nat) :
    pieces? (limit + more) tokens = .ok pieces := by
  unfold pieces? at counted ⊢
  dsimp only at counted ⊢
  split at counted
  · cases counted
  · next few =>
      rw [if_neg ?_]
      · exact counted
      · simp only [Bool.and_eq_true, decide_eq_true_eq, not_and] at few ⊢
        intro some
        have := few some
        omega

/-- The step does not come to a limit: no frame is refused, and no line so far had too many
arguments. -/
def Step.Unhindered : Step → Prop
  | next state => ∀ message ∈ state.scope.machine.log.newest,
      message.code ≠ Code.argumentCapacity.number
  | stop ending _ => ending ≠ .failed (.halt Signal.abnormalCode)

theorem Asks.opened {inBody : Bool} {line : Nat} {pieces : List Piece} {meaning : Meaning}
    {loop : InlineLoop} {entered : Bool}
    (asks : Asks inBody line pieces meaning (.inline loop entered)) :
    loop.header = line ∧ loop.endLine = none := by
  cases asks
  exact ⟨rfl, rfl⟩

theorem Cursor.read_within {script : Script} {cursor : Cursor}
    (within : cursor.line ≤ script.lineCount) :
    (cursor.read script).line ≤ script.lineCount := by
  unfold Cursor.read
  split
  · assumption
  · exact within

namespace State

def onRead (script : Script) (state : State) : Step :=
  match state.scope.frame.cursor.text with
  | none => .next { state with control := .leaving (.returned nullText) }
  | some text =>
      if isSkippable text then .next state
      else if isDirective text then
        .next (state.onMachine fun machine =>
          Directive.apply machine state.scope.frame.cursor.line text)
      else
        let line := Line.ofText state.scope.frame.cursor.line text
        let state := state.record line
        let (machine, fault) := state.scope.machine.announce state.currentLine
          (.line line.number line.keyword line.statement)
        let state := state.onMachine fun _ => machine
        match fault with
        | some fault => state.abort fault
        | none => state.execute script line

theorem advance_eq (script : Script) (state : State) :
    state.advance script =
      (state.moveTo (state.scope.frame.cursor.read script)).onRead script :=
  rfl

theorem onRead_end {script : Script} {state : State}
    (read : state.scope.frame.cursor.text = none) :
    state.onRead script = .next { state with control := .leaving (.returned nullText) } := by
  unfold onRead
  rw [read]

theorem onRead_blank {script : Script} {state : State} {text : String}
    (read : state.scope.frame.cursor.text = some text) (blank : isSkippable text = true) :
    state.onRead script = .next state := by
  unfold onRead
  rw [read]
  exact if_pos blank

theorem onRead_directive {script : Script} {state : State} {text : String}
    (read : state.scope.frame.cursor.text = some text) (filled : isSkippable text = false)
    (directive : isDirective text = true) :
    state.onRead script = .next (state.onMachine fun machine =>
      Directive.apply machine state.scope.frame.cursor.line text) := by
  unfold onRead
  rw [read]
  dsimp only
  rw [if_neg (by simp [filled]), if_pos directive]

theorem onRead_instruction {script : Script} {state : State} {text : String}
    (read : state.scope.frame.cursor.text = some text) (filled : isSkippable text = false)
    (plain : isDirective text = false) (silent : state.scope.machine.services = .empty) :
    state.onRead script =
      (state.record (Line.ofText state.scope.frame.cursor.line text)).execute script
        (Line.ofText state.scope.frame.cursor.line text) := by
  unfold onRead
  rw [read]
  dsimp only
  rw [if_neg (by simp [filled]), if_neg (by simp [plain]),
    Machine.announce_plain ((services_record _ _).trans silent)]
  rfl

end State

namespace View

variable {view : View} {first second : Script}

def Admits (view : View) (step : Step) : Prop :=
  (view.deeper = 0 ∧ view.wider = 0) ∨ step.Unhindered

theorem enter_state {state : State} {frame : Frame} {waiting : Suspended}
    (admits : view.Admits (state.enter frame waiting)) :
    (view.state state).enter (view.frame frame) (view.suspended waiting) =
      view.step (state.enter frame waiting) := by
  unfold State.enter at admits ⊢
  rw [depth_state, currentLine_state, machine_state]
  cases refused : state.scope.machine.checkDepth state.depth state.currentLine with
  | none =>
      rw [view.checkDepth_none refused]
      rfl
  | some answer =>
      obtain ⟨fault, after⟩ := answer
      rw [refused] at admits
      have same : fault = .halt Signal.abnormalCode → view.deeper = 0 := by
        rintro rfl
        exact admits.elim (·.1) fun unhindered => absurd rfl unhindered
      rw [checkDepth_some refused same]
      rfl

def onLine (view : View) (line : Line) : Line :=
  { line with number := view.line line.number }

namespace Corresponds

variable (state : State)

theorem definitionFrame (corresponds : view.Corresponds first second) (entry : String)
    (args : List String) {line : Nat} (inside : line ≤ first.lineCount) :
    State.definitionFrame second entry args (view.line line) =
      view.frame (State.definitionFrame first entry args line) := by
  unfold State.definitionFrame
  rw [corresponds.start inside]
  rfl

theorem call (corresponds : view.Corresponds first second) {keyword entry : String}
    {args : List String} (admits : view.Admits (state.call first keyword entry args)) :
    (view.state state).call second keyword entry args =
      view.step (state.call first keyword entry args) := by
  unfold State.call at admits ⊢
  rw [corresponds.entryLine?]
  cases found : first.entryLine? entry with
  | none =>
      simp only [Option.map_none, reportMissing_state]
      rfl
  | some line =>
      rw [found] at admits
      simp only [Option.map_some]
      rw [corresponds.definitionFrame entry args (corresponds.entryInside entry line found)]
      exact enter_state admits

theorem startPass (corresponds : view.Corresponds first second) {loop : ExternalLoop}
    (admits : view.Admits (state.startPass first loop)) :
    (view.state state).startPass second loop = view.step (state.startPass first loop) := by
  unfold State.startPass at admits ⊢
  rw [corresponds.entryLine?]
  cases found : first.entryLine? loop.body with
  | none =>
      simp only [Option.map_none, reportMissing_state]
      rfl
  | some line =>
      rw [found] at admits
      simp only [Option.map_some]
      rw [corresponds.definitionFrame _ _ (corresponds.entryInside loop.body line found)]
      exact enter_state admits

theorem continueExternal (corresponds : view.Corresponds first second) {loop : ExternalLoop}
    (admits : view.Admits (state.continueExternal first loop)) :
    (view.state state).continueExternal second loop =
      view.step (state.continueExternal first loop) := by
  unfold State.continueExternal at admits ⊢
  cases planned : loop.plan with
  | count left =>
      rw [planned] at admits
      cases left with
      | zero => rfl
      | succ left => exact corresponds.startPass state admits
  | condition header =>
      rw [planned] at admits
      dsimp only at admits ⊢
      rw [show loop.kind.condition true header (view.state state).scope =
        view.result id (loop.kind.condition true header state.scope) from
          View.uniform_condition true header state.scope]
      cases checked : loop.kind.condition true header state.scope with
      | error fault scope => exact instructionFault_state view { state with scope } _ _ _
      | ok holds scope =>
          rw [checked] at admits
          cases holds with
          | true => exact corresponds.startPass { state with scope } admits
          | false => rfl

theorem startBody (corresponds : view.Corresponds first second) {loop : InlineLoop}
    (inside : loop.header ≤ first.lineCount) (admits : view.Admits (state.startBody first loop)) :
    (view.state state).startBody second (view.loop loop) =
      view.step (state.startBody first loop) := by
  unfold State.startBody at admits ⊢
  rw [← enter_state admits]
  change (view.state state).enter { view.frame state.scope.frame with
    cursor := Cursor.start.advance second (view.line loop.header) } _ = _
  rw [corresponds.start inside]
  rfl

theorem left_state (keyword : String) {jump other : Action Unit}
    (same : other (view.state state).scope = view.result id (jump state.scope)) :
    (match other (view.state state).scope with
      | .ok _ scope => Step.next { view.state state with scope }
      | .error fault scope =>
          { view.state state with scope }.instructionFault keyword .internal fault) =
      view.step (match jump state.scope with
      | .ok _ scope => .next { state with scope }
      | .error fault scope => { state with scope }.instructionFault keyword .internal fault) := by
  rw [same]
  cases jump state.scope with
  | ok value scope => rfl
  | error fault scope => exact instructionFault_state view { state with scope } _ _ _

theorem leaveLoop (corresponds : view.Corresponds first second) {loop : InlineLoop}
    {endLine : Option Nat}
    (below : ∀ line ∈ endLine, first.IsBelow state.scope.frame.cursor.line line) :
    (view.state state).leaveLoop second (view.loop loop) (endLine.map view.line) =
      view.step (state.leaveLoop first loop endLine) := by
  cases endLine with
  | some line =>
      obtain ⟨later, inside⟩ := below line rfl
      exact left_state state _ (corresponds.jumpTo (Nat.le_of_lt later) inside)
  | none =>
      have jumps : view.Carries id
          (do let _ ← Effect.jumpOut first loop.kind.marker loop.kind.closer [])
          (do let _ ← Effect.jumpOut second loop.kind.marker loop.kind.closer []) :=
        carries_bind (corresponds.jumpOut _ _ _) fun _ => carries_pure ()
      exact left_state state _ (jumps state.scope)

theorem continueInline (corresponds : view.Corresponds first second) (loop : InlineLoop)
    (inside : loop.header ≤ first.lineCount)
    (below : ∀ line ∈ loop.endLine, first.IsBelow state.scope.frame.cursor.line line)
    (admits : view.Admits (state.continueInline first loop)) :
    (view.state state).continueInline second (view.loop loop) =
      view.step (state.continueInline first loop) := by
  unfold State.continueInline at admits ⊢
  rw [show (view.loop loop).plan = loop.plan from rfl]
  cases planned : loop.plan with
  | count left =>
      rw [planned] at admits
      cases left with
      | zero => exact corresponds.leaveLoop state below
      | succ left =>
          have within : InlineLoop.header { loop with plan := .count left } ≤ first.lineCount :=
            inside
          exact corresponds.startBody state within admits
  | condition header =>
      rw [planned] at admits
      dsimp only at admits ⊢
      rw [show (view.loop loop).kind.condition false header (view.state state).scope =
        view.result id (loop.kind.condition false header state.scope) from
          View.uniform_condition false header state.scope]
      cases checked : loop.kind.condition false header state.scope with
      | error fault scope => exact instructionFault_state view { state with scope } _ _ _
      | ok holds scope =>
          rw [checked] at admits
          have kept : state.scope.Kept scope := by
            have keeps : Action.Keeps (fun _ => True) (loop.kind.condition false header) :=
              LoopKind.keeps_condition false header
            exact keeps.ok checked
          cases holds with
          | true => exact corresponds.startBody { state with scope } inside admits
          | false =>
              refine corresponds.leaveLoop { state with scope } fun line ends => ?_
              exact kept.cursor ▸ below line ends

theorem openInline (corresponds : view.Corresponds first second) {loop : InlineLoop}
    {entered : Bool} (inside : loop.header ≤ first.lineCount) (fresh : loop.endLine = none)
    (admits : view.Admits (state.openInline first loop entered)) :
    (view.state state).openInline second (view.loop loop) entered =
      view.step (state.openInline first loop entered) := by
  unfold State.openInline at admits ⊢
  dsimp only at admits ⊢
  rw [show second.entryLine? (view.state state).scope.frame.entry =
    (first.entryLine? state.scope.frame.entry).map view.line from corresponds.entryLine? _]
  cases found : first.entryLine? state.scope.frame.entry with
  | none =>
      simp only [Option.map_none, reportMissing_state]
      refine congrArg (fun line : Nat => Step.stop (.failed (.failure ⟨.entryPointNotFound,
        Effect.entryMissing state.scope.frame.entry, Code.entryPointNotFound.number, some line,
        some state.scope.frame.entry⟩)) _) view.line_zero.symm
  | some line =>
      rw [found] at admits
      simp only [Option.map_some]
      cases entered with
      | true => exact corresponds.startBody state inside admits
      | false => exact corresponds.continueInline state loop inside (by simp [fresh]) admits

theorem follow (corresponds : view.Corresponds first second) {keyword : String} {flow : Flow}
    (opens : ∀ loop entered, flow = .inline loop entered →
      loop.header ≤ first.lineCount ∧ loop.endLine = none)
    (admits : view.Admits (state.follow first keyword flow)) :
    (view.state state).follow second keyword (view.flow flow) =
      view.step (state.follow first keyword flow) := by
  cases flow with
  | next => rfl
  | leave signal => rfl
  | call entry args => exact corresponds.call state admits
  | external loop entered =>
      cases entered with
      | true => exact corresponds.startPass state admits
      | false => exact corresponds.continueExternal state admits
  | inline loop entered =>
      obtain ⟨inside, fresh⟩ := opens loop entered rfl
      exact corresponds.openInline state inside fresh admits

/-! ## Reading a line -/

theorem dispatch (corresponds : view.Corresponds first second) {line : Line} {pieces : List Piece}
    {args : List String} (inside : line.number ≤ first.lineCount)
    (admits : view.Admits (state.dispatch first line pieces args)) :
    (view.state state).dispatch second (view.onLine line) pieces args =
      view.step (state.dispatch first line pieces args) := by
  unfold State.dispatch at admits ⊢
  rw [show (view.state state).scope.machine.lookup? (view.onLine line).keyword =
    state.scope.machine.lookup? line.keyword from rfl]
  cases found : state.scope.machine.lookup? line.keyword with
  | none =>
      cases tokens : line.tokens with
      | nil =>
          rw [show (view.onLine line).tokens = [] from tokens]
          exact lineFault_state view state (.exception .missingArgument)
      | cons name rest =>
          rw [show (view.onLine line).tokens = name :: rest from tokens]
          rfl
  | some spec =>
      rw [found] at admits
      dsimp only at admits ⊢
      cases fits : spec.arityProblem? args.length with
      | some problem => rfl
      | none =>
          rw [fits] at admits
          have supplied := Machine.lookup?_supplied found fits
          dsimp only at admits ⊢
          rw [inBody_state, show spec.action.perform second state.inBody (view.onLine line).number
            pieces args (view.state state).scope = _ from
              View.carries_perform corresponds supplied state.scope]
          cases performed : spec.action.perform first state.inBody line.number pieces args
            state.scope with
          | error fault scope => exact instructionFault_state view { state with scope } _ _ _
          | ok flow scope =>
              rw [performed] at admits
              -- A loop just opened has this line as its header and no end marker to be moved.
              refine corresponds.follow { state with scope } ?_ admits
              intro loop entered asked
              have asks := (Meaning.perform_ok supplied performed).1
              obtain ⟨here, fresh⟩ := (asked ▸ asks).opened
              exact ⟨here ▸ inside, fresh⟩

theorem executePieces (corresponds : view.Corresponds first second) {line : Line}
    {pieces : List Piece} (inside : line.number ≤ first.lineCount)
    (admits : view.Admits (state.executePieces first line pieces)) :
    (view.state state).executePieces second (view.onLine line) pieces =
      view.step (state.executePieces first line pieces) := by
  unfold State.executePieces at admits ⊢
  rw [show Reference.resolveAll pieces (view.state state).scope = _ from
    View.uniform_resolveAll pieces state.scope]
  cases resolved : Reference.resolveAll pieces state.scope with
  | error fault scope => exact lineFault_state view { state with scope } fault
  | ok args scope =>
      rw [resolved] at admits
      exact corresponds.dispatch { state with scope } inside admits

theorem execute (corresponds : view.Corresponds first second) {line : Line}
    (inside : line.number ≤ first.lineCount) (admits : view.Admits (state.execute first line)) :
    (view.state state).execute second (view.onLine line) =
      view.step (state.execute first line) := by
  unfold State.execute at admits ⊢
  rw [machine_state, maxArgs_machine]
  cases limited : state.scope.machine.settings.maxArgs with
  | none =>
      rw [limited] at admits
      dsimp only [Option.map_none] at admits ⊢
      change (if (piecesOf line.tokens).isEmpty = true then _ else _) = _
      split
      · exact corresponds.executePieces state inside (by rwa [if_pos ‹_›] at admits)
      · exact lineFault_state view state (.exception .incomparable)
  | some limit =>
      rw [limited] at admits
      dsimp only [Option.map_some] at admits ⊢
      rw [show (view.onLine line).tokens = line.tokens from rfl]
      cases counted : pieces? limit line.tokens with
      | ok pieces =>
          rw [counted] at admits
          rw [pieces?_wider counted view.wider]
          exact corresponds.executePieces state inside admits
      | error fault =>
          rw [counted] at admits
          rcases admits with ⟨-, exact⟩ | unhindered
          · rw [exact, Int.natCast_zero, Int.add_zero, counted]
            rfl
          · exact absurd rfl (unhindered _ List.mem_cons_self)

theorem onRead (corresponds : view.Corresponds first second)
    (silent : state.scope.machine.services = .empty)
    (inside : state.scope.frame.cursor.line ≤ first.lineCount)
    (admits : view.Admits (state.onRead first)) :
    (view.state state).onRead second = view.step (state.onRead first) := by
  cases read : state.scope.frame.cursor.text with
  | none =>
      have seen : (view.state state).scope.frame.cursor.text = none := read
      rw [State.onRead_end read, State.onRead_end seen]
      rfl
  | some text =>
      have seen : (view.state state).scope.frame.cursor.text = some text := read
      by_cases blank : isSkippable text = true
      · rw [State.onRead_blank read blank, State.onRead_blank seen blank]
        rfl
      have filled : isSkippable text = false := by simpa using blank
      by_cases directive : isDirective text = true
      · rw [State.onRead_directive read filled directive,
          State.onRead_directive seen filled directive]
        exact congrArg Step.next (view.onMachine_state (view.machine_apply _ _ text))
      · have plain : isDirective text = false := by simpa using directive
        rw [State.onRead_instruction read filled plain silent] at admits ⊢
        rw [State.onRead_instruction seen filled plain silent]
        change ((view.state state).record (view.onLine (Line.ofText _ text))).execute second
          (view.onLine (Line.ofText _ text)) = _
        rw [show (view.state state).record (view.onLine (Line.ofText _ text)) = _ from
          view.record_state state (Line.ofText _ text)]
        exact corresponds.execute _ inside admits

/-! ## Handing a signal over -/

theorem afterPass (corresponds : view.Corresponds first second) {loop : ExternalLoop}
    {signal : Signal} (admits : view.Admits (state.afterPass first loop signal)) :
    (view.state state).afterPass second loop (view.signal signal) =
      view.step (state.afterPass first loop signal) := by
  cases signal with
  | broken value => rfl
  | continued value =>
      exact corresponds.continueExternal (state.report .info "Continue statement" .loop) admits
  | returned value => exact corresponds.continueExternal state admits
  | resume line value => exact corresponds.continueExternal state admits

theorem afterBody (corresponds : view.Corresponds first second) {loop : InlineLoop}
    {signal : Signal} (inside : loop.header ≤ first.lineCount)
    (below : ∀ line ∈ (loop.after signal).endLine,
      first.IsBelow state.scope.frame.cursor.line line)
    (admits : view.Admits (state.afterBody first loop signal)) :
    (view.state state).afterBody second (view.loop loop) (view.signal signal) =
      view.step (state.afterBody first loop signal) := by
  cases signal with
  | resume line value =>
      exact corresponds.continueInline (state.keepReturned value)
        { loop with endLine := some line } inside below admits
  | continued value =>
      exact corresponds.continueInline
        ((state.report .info "Continue statement" .loop).keepReturned value) loop inside below
        admits
  | returned value => rfl
  | broken value =>
      have nowhere : ∀ line ∈ (none : Option Nat), first.IsBelow state.scope.frame.cursor.line line :=
        by simp
      exact corresponds.leaveLoop
        ((state.report .info "Break statement" .loop).keepReturned value) nowhere

theorem handOver (corresponds : view.Corresponds first second) (inPlace : state.InPlace first)
    {signal : Signal} (leaving : state.control = .leaving signal)
    (admits : view.Admits (state.handOver first signal)) :
    (view.state state).handOver second (view.signal signal) =
      view.step (state.handOver first signal) := by
  have value : (view.signal signal).value = signal.value := by cases signal <;> rfl
  cases waits : state.suspended with
  | nil =>
      rw [State.handOver_alone waits, State.handOver_alone (congrArg (List.map _) waits)]
      rfl
  | cons waiting rest =>
      have seen : (view.state state).suspended =
          view.suspended waiting :: rest.map view.suspended :=
        congrArg (List.map view.suspended) waits
      cases waiting with
      | caller frame wait =>
          cases wait with
          | call keyword =>
              rw [State.handOver_call waits, State.handOver_call seen, value]
              rfl
          | pass loop =>
              rw [State.handOver_pass waits] at admits ⊢
              rw [State.handOver_pass seen, value]
              exact corresponds.afterPass
                ((state.below (.caller frame (.pass loop)) rest).keepReturned signal.value) admits
      | owner cursor loop =>
          have grounded := inPlace.grounded
          rw [waits] at grounded
          have inside : loop.header ≤ first.lineCount :=
            grounded.2.1.1 ▸ grounded.2.2.proper.inside
          rw [State.handOver_body waits] at admits ⊢
          rw [State.handOver_body seen]
          exact corresponds.afterBody (state.below (.owner cursor loop) rest) inside
            (inPlace.ends leaving waits) admits

theorem step_state (corresponds : view.Corresponds first second)
    (silent : state.scope.machine.services = .empty) (inPlace : state.InPlace first)
    (reads : state.control = .running →
      (view.cursor state.scope.frame.cursor).read second =
        view.cursor (state.scope.frame.cursor.read first))
    (admits : view.Admits (state.step first)) :
    (view.state state).step second = view.step (state.step first) := by
  cases control : state.control with
  | leaving signal =>
      have seen : (view.state state).control = .leaving (view.signal signal) :=
        congrArg view.control control
      rw [State.step_leaving control] at admits ⊢
      rw [State.step_leaving seen]
      exact corresponds.handOver state inPlace control admits
  | running =>
      have seen : (view.state state).control = .running := congrArg view.control control
      rw [State.step_running control inPlace.whole] at admits ⊢
      rw [State.step_running seen inPlace.whole, State.advance_eq,
        show (view.state state).scope.frame.cursor.read second = _ from reads control]
      exact corresponds.onRead (state.moveTo (state.scope.frame.cursor.read first)) silent
        (Cursor.read_within inPlace.grounded.proper.inside) admits

end Corresponds

end View

end LineScript
