import LineScript.Proofs.Diagnosis

/-!
What hooks are told about a program. When they only log, they hear of its beginning, of every line
right before it is executed, and of its end, in this order and once each. The end of a program that
is interrupted at a prompt is not announced.
-/

namespace LineScript

/-! ## Replies to come -/

theorem Machine.lasts_replies (replies : List Reply) :
    Lasts fun machine => machine.console.replies <:+ replies where
  kept kept suffix := kept.replies.trans suffix
  directive line text suffix := by
    unfold Directive.apply
    split <;> exact suffix
  frames _ suffix := suffix

theorem Directive.events_applyLines (script : Script) (machine : Machine) (number : Nat)
    (texts : List String) :
    (Directive.applyLines machine number texts).events = machine.events :=
  applyLines_keeps (fun later => later.events = machine.events)
    (fun line text same => (tells_apply script _ line text).events.trans same) rfl number texts

/-! ## One step -/

namespace State

variable {script : Script} {state : State}

/-- What a step tells hooks that only log: a line that is executed is announced when the frame has
moved to it and nothing else has happened, and after that they hear nothing more. -/
inductive Announces (script : Script) (state : State) : Prop where
  | line {line : Line} {trace : List LineRecord} (next : state.nextLine? script = some line)
      (executes : state.step script = State.execute script line
        ((state.moveTo (state.scope.frame.cursor.read script)).onMachine fun machine =>
          { machine with trace }.recording (machine.records line.detail)))
      (events : (state.step script).state.scope.machine.events =
        (state.scope.machine.records line.detail).reverse ++ state.scope.machine.events)
  | silent (other : state.nextLine? script = none)
      (events : (state.step script).state.scope.machine.events = state.scope.machine.events)

theorem told_tame (tame : state.scope.machine.Tame) {text : String}
    (found : script.line? (state.scope.frame.cursor.line + 1) = some text) :
    ∃ trace, state.told text =
      (state.moveTo (state.scope.frame.cursor.read script)).onMachine fun machine =>
        { machine with trace }.recording (machine.records
          (Line.ofText (state.scope.frame.cursor.line + 1) text).detail) := by
  obtain ⟨trace, heard⟩ := announced_tame tame text
  obtain ⟨machine, -, recorded⟩ :=
    (state.onLine text).record_eq (Line.ofText (state.scope.frame.cursor.line + 1) text)
  refine ⟨trace, ?_⟩
  unfold told State.recorded
  rw [heard, recorded, read_line found]
  rfl

theorem isInstruction_of_nextLine? {line : Line} (next : state.nextLine? script = some line) :
    state.control = .running ∧ ∃ text, line = .ofText (state.scope.frame.cursor.line + 1) text ∧
      script.line? (state.scope.frame.cursor.line + 1) = some text ∧
      LineText.isInstruction text = true := by
  cases control : state.control with
  | leaving signal =>
      rw [nextLine?_leaving control] at next
      cases next
  | running =>
      by_cases last : script.lineCount ≤ state.scope.frame.cursor.line
      · rw [nextLine?_end last] at next
        cases next
      obtain ⟨text, found⟩ := Script.line?_isSome (Nat.lt_of_not_le last)
      by_cases executed : LineText.isInstruction text = true
      · rw [nextLine?_instruction control found executed] at next
        cases next
        exact ⟨rfl, text, rfl, found, executed⟩
      · rw [nextLine?_other control found (by simpa using executed)] at next
        cases next

end State

namespace Program

variable {script : Script} {entry : String} {machine : Machine} {state : State}

theorem Reaches.events_step (tame : machine.Tame) (reached : Reaches script entry machine state) :
    (state.step script).state.scope.machine.events =
      ((state.nextLine? script).toList.flatMap fun line =>
        machine.records line.detail).reverse ++ state.scope.machine.events := by
  have records := tame.records reached.follows.services
  rcases state.step_ready (reached.tame tame) reached.inPlace.whole with
    ⟨signal, leaving, stopped⟩ | ⟨ready, prepared, tells⟩
  · rw [stopped, State.nextLine?_leaving leaving]
    rfl
  have before := prepared.events
  rw [records] at before
  cases stepped : state.step script with
  | next after =>
      rw [stepped] at tells
      exact tells.events.trans before
  | stop ending last =>
      rw [stepped] at tells
      obtain ⟨fault, -, stops⟩ := tells
      cases reached.stops tame prepared stops with
      | halted code said => exact said.events.trans before
      | interrupted said => exact said.events.trans before
      | reported kind message grave said report line =>
          have events := congrArg Machine.events report
          exact events.trans (said.events.trans before)

theorem Reaches.announces (tame : machine.Tame) (reached : Reaches script entry machine state) :
    state.Announces script := by
  have records := tame.records reached.follows.services
  have events := reached.events_step tame
  cases next : state.nextLine? script with
  | none =>
      rw [next] at events
      exact .silent next events
  | some line =>
      obtain ⟨running, text, rfl, found, executed⟩ := State.isInstruction_of_nextLine? next
      have quiet := (State.ready_told (reached.tame tame) running found executed).1
      obtain ⟨trace, told⟩ := State.told_tame (reached.tame tame) found
      have steps := State.step_told running reached.inPlace.whole found executed quiet
      rw [next, Option.toList_some, List.flatMap_cons, List.flatMap_nil, List.append_nil,
        ← records] at events
      exact .line next (told ▸ steps) events

end Program

/-! ## Whole runs -/

namespace State

def executed (script : Script) : (fuel : Nat) → State → List Line
  | 0, _ => []
  | fuel + 1, state =>
      (state.nextLine? script).toList ++
        match state.step script with
        | .next after => executed script fuel after
        | .stop _ _ => []

variable {script : Script} {state : State}

theorem isInstruction_executed {fuel : Nat} {line : Line}
    (member : line ∈ state.executed script fuel) :
    ∃ text, line = .ofText line.number text ∧ script.line? line.number = some text ∧
      LineText.isInstruction text = true := by
  induction fuel generalizing state with
  | zero => cases member
  | succ fuel ih =>
      rw [executed] at member
      rcases List.mem_append.mp member with next | later
      · obtain ⟨-, text, rfl, found, executed⟩ :=
          isInstruction_of_nextLine? (Option.mem_toList.mp next)
        exact ⟨text, rfl, found, executed⟩
      · cases stepped : state.step script with
        | stop ending last =>
            rw [stepped] at later
            cases later
        | next after =>
            rw [stepped] at later
            exact ih later

end State

namespace Program

variable {script : Script} {entry : String} {machine : Machine} {state : State}

def executed (script : Script) (entry : String) (machine : Machine) (fuel : Nat) : List Line :=
  match start script entry machine with
  | .running state => state.executed script fuel
  | .ended _ => []

theorem Reaches.events_run (tame : machine.Tame) (reached : Reaches script entry machine state)
    {fuel : Nat} {ending : Ending} {last : State}
    (ran : state.run script fuel = some (ending, last)) :
    last.scope.machine.events =
      ((state.executed script fuel).flatMap fun line =>
        machine.records line.detail).reverse ++ state.scope.machine.events := by
  induction fuel generalizing state with
  | zero => cases ran
  | succ fuel ih =>
      have events := reached.events_step tame
      rw [State.executed]
      cases stepped : state.step script with
      | stop other final =>
          rw [State.run_stop stepped] at ran
          cases ran
          rw [stepped] at events
          rw [List.append_nil]
          exact events
      | next after =>
          rw [State.run_next stepped] at ran
          rw [stepped] at events
          rw [ih (reached.step stepped) ran, List.flatMap_append, List.reverse_append,
            List.append_assoc]
          exact congrArg _ events

def Closed (machine : Machine) (result : Except Fault Signal) : Prop :=
  (∃ detail, closing result = [detail]) ∨
    result = .error .interrupted ∧ .interrupt ∈ machine.console.replies

/-- What hooks that only log have heard of a program that has ended. -/
structure Traced (script : Script) (entry : String) (machine : Machine) (fuel : Nat)
    (run : ProgramRun) : Prop where
  records : run.machine.events.reverse = machine.events.reverse ++
    (.start entry :: ((executed script entry machine fuel).map Line.detail ++
      closing run.result)).flatMap machine.records
  lines : ∀ line ∈ executed script entry machine fuel, ∃ text, line = .ofText line.number text ∧
    script.line? line.number = some text ∧ LineText.isInstruction text = true
  announced : ∀ state, Reaches script entry machine state → state.Announces script
  /-- There is one end, unless the program is interrupted. -/
  closed : Closed machine run.result

theorem Reaches.closed (tame : machine.Tame) (reached : Reaches script entry machine state)
    {ending : Ending} {last : State} (stopped : state.step script = .stop ending last) :
    Closed machine (close ending last).result ∧
      ∃ frames, (close ending last).machine = { last.scope.machine.recording
        ((closing (close ending last).result).flatMap machine.records) with frames } := by
  have tameLast := reached.tame_stop tame stopped
  have records := tame.records
    ((reached.kept_stop stopped).services.trans reached.follows.services)
  cases ending with
  | finished signal =>
      rw [close, closeSignal_tame tameLast, records]
      exact ⟨.inl ⟨_, rfl⟩, _, rfl⟩
  | failed fault =>
      rw [close, closeFault_tame tameLast, records]
      refine ⟨?_, _, rfl⟩
      rcases state.step_ready (reached.tame tame) reached.inPlace.whole with
        ⟨signal, -, other⟩ | ⟨ready, prepared, tells⟩
      · cases other.symm.trans stopped
      rw [stopped] at tells
      obtain ⟨same, failed, stops⟩ := tells
      cases failed
      cases reached.stops tame prepared stops with
      | reported kind message => exact .inl ⟨_, rfl⟩
      | halted code => exact .inl ⟨_, rfl⟩
      | interrupted said interrupt =>
          have replies := (Machine.lasts_replies machine.console.replies).reaches
            List.suffix_rfl reached
          exact .inr ⟨rfl, replies.subset interrupt⟩

theorem events_opened (machine : Machine) (script : Script) (entry : String) (line : Nat) :
    ((machine.opened script line).recording (machine.records (.start entry))).events =
      (machine.records (.start entry)).reverse ++ machine.events :=
  congrArg _ (Directive.events_applyLines script machine.unwound 1 _)

theorem events_of_running (tame : machine.Tame)
    (started : start script entry machine = .running state) :
    state.scope.machine.events =
      (machine.records (.start entry)).reverse ++ machine.events := by
  obtain ⟨line, found, -⟩ := (starts_of_running started).found
  rw [(start_tame tame found).2] at started
  split at started
  · cases started
  · cases started
    exact events_opened machine script entry line

theorem traced_of_running (tame : machine.Tame)
    (started : start script entry machine = .running state) {fuel : Nat} {ending : Ending}
    {last : State} (ran : state.run script fuel = some (ending, last)) :
    Traced script entry machine fuel (close ending last) := by
  have reached := Reaches.start started
  obtain ⟨final, reachedFinal, stopped⟩ := reached.stopped ran
  obtain ⟨closed, frames, machineLast⟩ := reachedFinal.closed tame stopped
  have executes : executed script entry machine fuel = state.executed script fuel := by
    rw [executed, started]
  refine {
    records := ?_
    lines := fun line member => State.isInstruction_executed (executes ▸ member)
    announced := fun state reached => reached.announces tame
    closed := closed }
  rw [machineLast, Machine.recording, executes]
  dsimp only
  rw [reached.events_run tame ran, events_of_running tame started]
  simp [List.flatMap_map]

theorem traced_of_ended (tame : machine.Tame) (defined : script.entryLine? entry ≠ none)
    {early : ProgramRun} (started : start script entry machine = .ended early) (fuel : Nat) :
    Traced script entry machine fuel early := by
  obtain ⟨line, found⟩ := Option.ne_none_iff_exists'.mp defined
  obtain ⟨tameOpened, starts⟩ := start_tame tame found
  have executes : executed script entry machine fuel = [] := by
    rw [executed, started]
  rw [starts] at started
  split at started
  · next fault final deep =>
      obtain ⟨halts, events⟩ := tameOpened.halt_of_checkDepth deep
      have kept := Machine.kept_checkDepth deep
      have records := tame.records
        (kept.services.trans (machine.follows_opened script line).services)
      rw [closeFault_tame (kept.tame tameOpened), halts] at started
      cases started
      refine {
        records := ?_
        lines := by simp [executes]
        announced := fun state reached => reached.announces tame
        closed := .inl ⟨_, rfl⟩ }
      rw [executes, Machine.recording, records]
      dsimp only
      rw [events, events_opened]
      simp
  · cases started

def loggingExample (replies : List Reply) : Machine.Setup :=
  let log (event : String) : String × List (Handler HookBehavior) :=
    (event, [⟨0, .log "seen", "log"⟩])
  { settings := ⟨some Settings.defaultDepth, some Settings.defaultArgs, false, false⟩
    services := ⟨.empty, [], [],
      ⟨[log "program_start", log "before_line", log "on_error", log "program_end"]⟩⟩
    extended := false
    graphics := false
    seed := 0
    clock := Clock.ofSeconds 0 0
    wakes := false
    replies
    files := .ofDirectory "/" }

theorem tame_loggingExample {replies : List Reply}
    (built : Machine.ofSetup (loggingExample replies) = .ok machine)
    (typed : ∀ text, .broken (.undecodable text) ∉ replies) : machine.Tame :=
  Machine.tame_ofSetup built (by simp [loggingExample]) (by simp [loggingExample])
    (by simp [loggingExample]) (by simp [loggingExample])
    (by simp [loggingExample, InstructionTable.empty]) rfl typed

def haltingExample : Script :=
  .ofLines "" ["[mode extended]", "DEF main", "; a loop", "FOR 2", "CALL inner", "ENDF", "ENDDEF",
    "DEF inner", "", "HLT"]

def askingExample : Script :=
  .ofLines "" ["DEF main", "PRINT $_ask", "ENDDEF"]

end Program

end LineScript
