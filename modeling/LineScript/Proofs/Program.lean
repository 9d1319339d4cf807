import LineScript.Program
import LineScript.Proofs.Transition

/-!
How a program begins and goes on. A program whose definition is missing ends at once; otherwise its
first frame is at the head of the definition, after the directives above it have been carried out.
-/

namespace LineScript

/-! ## Steps one after another -/

namespace State

variable {script : Script} {state : State}

theorem run_stop {ending : Ending} {last : State}
    (stepped : state.step script = .stop ending last) (fuel : Nat) :
    state.run script (fuel + 1) = some (ending, last) := by
  rw [run, stepped]

theorem run_next {after : State} (stepped : state.step script = .next after) (fuel : Nat) :
    state.run script (fuel + 1) = after.run script fuel := by
  rw [run, stepped]

/-- However long a run may go on, it ends in one way. -/
theorem run_unique {fuel other : Nat} {ended again : Ending × State}
    (ran : state.run script fuel = some ended) (ranAgain : state.run script other = some again) :
    ended = again := by
  induction fuel generalizing state other with
  | zero => cases ran
  | succ fuel ih =>
      cases other with
      | zero => cases ranAgain
      | succ other =>
          cases stepped : state.step script with
          | next after =>
              rw [run_next stepped] at ran ranAgain
              exact ih ran ranAgain
          | stop ending last =>
              rw [run_stop stepped] at ran ranAgain
              exact Option.some.inj (ran.symm.trans ranAgain)

end State

namespace Step

variable {script : Script} {first second third : Step} {count other fuel : Nat}

def state : Step → State
  | next state => state
  | stop _ state => state

def run (script : Script) (fuel : Nat) : Step → Option (Ending × State)
  | next state => state.run script fuel
  | stop ending state => some (ending, state)

/-- So many steps lead from the one to the other. -/
inductive Leads (script : Script) : Nat → Step → Step → Prop where
  | refl (step : Step) : Leads script 0 step step
  | next {count : Nat} {state : State} {last : Step}
      (later : Leads script count (state.step script) last) :
      Leads script (count + 1) (.next state) last

theorem run_next (state : State) (fuel : Nat) :
    (next state).run script (fuel + 1) = (state.step script).run script fuel := by
  change state.run script (fuel + 1) = _
  rw [State.run]
  cases state.step script <;> rfl

theorem Leads.trans (early : Leads script count first second)
    (late : Leads script other second third) : Leads script (count + other) first third := by
  induction early with
  | refl step => rwa [Nat.zero_add]
  | next later ih =>
      rw [Nat.add_right_comm]
      exact .next (ih late)

theorem Leads.run (leads : Leads script count first second) (fuel : Nat) :
    first.run script (count + fuel) = second.run script fuel := by
  induction leads with
  | refl step => rw [Nat.zero_add]
  | next later ih => rw [Nat.add_right_comm, run_next, ih]

/-- A run that comes to an end does so from wherever its steps lead. -/
theorem Leads.stops (leads : Leads script count first second)
    (stops : first.run script fuel ≠ none) :
    count ≤ fuel ∧ second.run script (fuel - count) ≠ none := by
  induction leads generalizing fuel with
  | refl step => exact ⟨Nat.zero_le fuel, stops⟩
  | next later ih =>
      cases fuel with
      | zero => exact absurd rfl stops
      | succ fuel =>
          rw [run_next] at stops
          obtain ⟨within, ends⟩ := ih stops
          rw [Nat.add_sub_add_right]
          exact ⟨Nat.succ_le_succ within, ends⟩

end Step

/-! ## The beginning of a program -/

theorem Effect.openDefinition_missing {script : Script} {scope : Scope}
    (missing : script.entryLine? scope.frame.entry = none) :
    openDefinition script scope =
      .error (.failure (scope.failure .entryPointNotFound (entryMissing scope.frame.entry)
        .entryPointNotFound))
        (scope.reportFailure (entryMissing scope.frame.entry) .entryPointNotFound) := by
  unfold openDefinition
  rw [Action.get_bind, missing]
  rfl

theorem Effect.openDefinition_found {script : Script} {scope : Scope} {line : Nat}
    (found : script.entryLine? scope.frame.entry = some line)
    (forward : scope.frame.cursor.line ≤ line) :
    openDefinition script scope =
      .ok () ⟨Directive.applyAbove scope.machine script line,
        { scope.frame with cursor := scope.frame.cursor.advance script line }⟩ := by
  unfold openDefinition
  rw [Action.get_bind, found]
  change jumpTo script line ⟨Directive.applyAbove scope.machine script line, scope.frame⟩ = _
  rw [jumpTo_forward (by exact forward)]
  rfl

/-- The machine when a program begins: the frames of an earlier one are forgotten. -/
def Machine.unwound (machine : Machine) : Machine :=
  { machine with frames := [] }

theorem Machine.unwound_eq {machine : Machine} (alone : machine.frames = []) :
    machine.unwound = machine := by
  rw [Machine.unwound, ← alone]

theorem Machine.Bare.unwound {machine : Machine} (bare : machine.Bare) : machine.unwound.Bare :=
  ⟨bare.services, bare.predefined, bare.marks, bare.typed⟩

theorem Machine.follows_frames (machine : Machine) (frames : List Activation) :
    machine.Follows { machine with frames } :=
  ⟨rfl, rfl, fun plain =>
    ⟨⟨plain.services, plain.predefined, plain.marks, plain.typed⟩, plain.replies⟩⟩

/-- The machine after the directives above the definition that is run. -/
def Machine.opened (machine : Machine) (script : Script) (line : Nat) : Machine :=
  Directive.applyAbove machine.unwound script line

theorem Machine.follows_opened (machine : Machine) (script : Script) (line : Nat) :
    machine.Follows (machine.opened script line) :=
  (machine.follows_frames []).trans (Directive.follows_applyLines _ _ _)

namespace Program

variable {script : Script} {entry : String} {machine : Machine}

theorem start_missing (missing : script.entryLine? entry = none) :
    start script entry machine =
      .ended ⟨.error (.failure ⟨.entryPointNotFound, Effect.entryMissing entry,
        Code.entryPointNotFound.number, some 0, some entry⟩),
        machine.unwound.report (0 : Nat) ⟨.error, Effect.entryMissing entry, .entryPointNotFound⟩,
        [], none⟩ := by
  unfold start
  dsimp only
  rw [Effect.openDefinition_missing missing]
  rfl

theorem start_found {line : Nat} (found : script.entryLine? entry = some line) :
    start script entry machine =
      match (machine.opened script line).announce 0 (.start entry) with
      | (machine, some fault) => .ended ⟨.error fault, machine, [], some .empty⟩
      | (machine, none) =>
          match machine.checkDepth 0 0 with
          | some (fault, machine) => .ended (closeFault machine [] .empty fault)
          | none => .running ⟨⟨machine, State.definitionFrame script entry [] line⟩, [], .running,
              .ground, false⟩ := by
  unfold start
  dsimp only
  rw [Effect.openDefinition_found found (Nat.zero_le _)]
  rfl

/-- What can become of a program before its first line: its definition is missing, a hook refuses
the beginning, no frame may be active, or the first frame is there. -/
inductive Begins (script : Script) (entry : String) (machine : Machine) : ProgramStart → Prop where
  | missing (absent : script.entryLine? entry = none) :
      Begins script entry machine (.ended ⟨.error (.failure ⟨.entryPointNotFound,
        Effect.entryMissing entry, Code.entryPointNotFound.number, some 0, some entry⟩),
        machine.unwound.report (0 : Nat) ⟨.error, Effect.entryMissing entry, .entryPointNotFound⟩,
        [], none⟩)
  | refused {line : Nat} {told : Machine} {fault : Fault}
      (found : script.entryLine? entry = some line)
      (heard : (machine.opened script line).announce 0 (.start entry) =
        (told, some fault)) :
      Begins script entry machine (.ended ⟨.error fault, told, [], some .empty⟩)
  | tooDeep {line : Nat} {told after : Machine} {fault : Fault}
      (found : script.entryLine? entry = some line)
      (heard : (machine.opened script line).announce 0 (.start entry) = (told, none))
      (deep : told.checkDepth 0 0 = some (fault, after)) :
      Begins script entry machine (.ended (closeFault after [] .empty fault))
  | runs {line : Nat} {told : Machine} (found : script.entryLine? entry = some line)
      (heard : (machine.opened script line).announce 0 (.start entry) = (told, none))
      (room : told.checkDepth 0 0 = none) :
      Begins script entry machine (.running ⟨⟨told, State.definitionFrame script entry [] line⟩, [],
        .running, .ground, false⟩)

theorem begins (script : Script) (entry : String) (machine : Machine) :
    Begins script entry machine (start script entry machine) := by
  cases found : script.entryLine? entry with
  | none =>
      rw [start_missing found]
      exact .missing found
  | some line =>
      rw [start_found found]
      split
      · next heard => exact .refused found heard
      · next heard =>
          split
          · next deep => exact .tooDeep found heard deep
          · next room => exact .runs found heard room

theorem left_of_ended {run : ProgramRun} (started : start script entry machine = .ended run) :
    run.left = [] ∧ ∀ signal, run.result ≠ .ok signal := by
  have begins := begins script entry machine
  rw [started] at begins
  cases begins with
  | missing absent => exact ⟨rfl, nofun⟩
  | refused found heard => exact ⟨rfl, nofun⟩
  | tooDeep found heard deep => exact ⟨rfl, nofun⟩

structure Starts (script : Script) (entry : String) (machine : Machine) (state : State) : Prop where
  found : ∃ line, script.entryLine? entry = some line ∧
    state.scope.frame = State.definitionFrame script entry [] line
  follows : machine.Follows state.scope.machine
  suspended : state.suspended = []
  control : state.control = .running
  whole : state.oneLine = false
  alone : state.floor = .ground
  room : ∃ limit : Int, state.scope.machine.settings.maxDepth = some limit ∧ 0 < limit

theorem starts_of_running {state : State} (started : start script entry machine = .running state) :
    Starts script entry machine state := by
  have begins := begins script entry machine
  rw [started] at begins
  cases begins with
  | @runs line told found heard room =>
      have kept : (machine.opened script line).Kept
          ((machine.opened script line).announce 0 (.start entry)).1 :=
        Machine.kept_callHandlers _ _ _ _
      rw [heard] at kept
      exact ⟨⟨line, found, rfl⟩, (machine.follows_opened script line).trans kept.follows, rfl, rfl,
        rfl, rfl, Machine.checkDepth_none room⟩

/-! ## The end of a program -/

/-- What hooks are told of the end of a run. Of an interruption they are told nothing. -/
def closing : Except Fault Signal → List EventDetail
  | .ok signal => [.finish signal.value]
  | .error (.halt code) => [.finish code]
  | .error (.failure failure) => [.failure failure]
  | .error _ => []

theorem closeFault_silent (silent : machine.services = .empty) (left : List Activation)
    (locals : Locals) (fault : Fault) :
    closeFault machine left locals fault =
      ⟨.error fault, { machine with frames := left }, left, some locals⟩ := by
  unfold closeFault
  cases fault <;> simp [Machine.announce_plain silent]

theorem closeSignal_silent (silent : machine.services = .empty) (locals : Locals)
    (signal : Signal) :
    closeSignal machine locals signal = ⟨.ok signal, machine, [], some locals⟩ := by
  unfold closeSignal
  rw [Machine.announce_plain silent]

theorem machine_close {ending : Ending} {state : State}
    (silent : state.scope.machine.services = .empty) :
    ∃ frames, (close ending state).machine = { state.scope.machine with frames } := by
  cases ending with
  | finished signal =>
      rw [close, closeSignal_silent silent]
      exact ⟨_, rfl⟩
  | failed fault =>
      rw [close, closeFault_silent silent]
      exact ⟨_, rfl⟩

end Program

/-! ## What the beginning and the end keep -/

def ProgramStart.machine : ProgramStart → Machine
  | running state => state.scope.machine
  | ended run => run.machine

/-- The property of machines stays whatever is done besides instructions: reports, records of events
and of lines, and directives, and frames that are forgotten or left. -/
structure Machine.Outlasts (property : Machine → Prop) : Prop where
  report : ∀ {machine : Machine} (line : Int) (note : Note), property machine →
    property (machine.report line note)
  events : ∀ {machine : Machine} (looks : Nat) (events : List EventRecord), property machine →
    property { machine with console := machine.console.after looks, events }
  trace : ∀ {machine : Machine} (trace : List LineRecord), property machine →
    property { machine with trace }
  directive : ∀ {machine : Machine} (line : Int) (text : String), property machine →
    property (Directive.apply machine line text)
  frames : ∀ {machine : Machine} (frames : List Activation), property machine →
    property { machine with frames }

namespace Machine.Outlasts

variable {property : Machine → Prop} {machine : Machine}

theorem announce (outlasts : Outlasts property) (holds : property machine) (line : Nat)
    (detail : EventDetail) : property (machine.announce line detail).1 := by
  obtain ⟨looks, events, same⟩ :=
    machine.callHandlers_events line detail (machine.services.hooks.handlers detail.event)
  exact same ▸ outlasts.events looks events holds

theorem checkDepth (outlasts : Outlasts property) (holds : property machine) {after : Machine}
    {depth line : Nat} {fault : Fault}
    (refused : machine.checkDepth depth line = some (fault, after)) : property after := by
  cases checkDepth_some refused with
  | unlimited unset => exact holds
  | deep limited deep => exact outlasts.report _ _ holds

theorem applyAbove (outlasts : Outlasts property) (holds : property machine) (script : Script)
    (line : Nat) : property (Directive.applyAbove machine script line) :=
  Directive.applyLines_keeps property (fun line text => outlasts.directive line text) holds _ _

theorem closeFault (outlasts : Outlasts property) (holds : property machine)
    (left : List Activation) (locals : Locals) (fault : Fault) :
    property (Program.closeFault machine left locals fault).machine := by
  cases fault with
  | failure failure => exact outlasts.frames _ (outlasts.announce holds _ _)
  | halt code => exact outlasts.frames _ (outlasts.announce holds _ _)
  | _ => exact outlasts.frames _ holds

theorem closeSignal (outlasts : Outlasts property) (holds : property machine) (locals : Locals)
    (signal : Signal) : property (Program.closeSignal machine locals signal).machine := by
  have told := outlasts.announce holds 0 (.finish signal.value)
  unfold Program.closeSignal
  split
  · next heard => rwa [heard] at told
  · next heard => rwa [heard] at told

theorem close (outlasts : Outlasts property) {state : State}
    (holds : property state.scope.machine) (ending : Ending) :
    property (Program.close ending state).machine := by
  cases ending with
  | finished signal => exact outlasts.closeSignal holds _ _
  | failed fault => exact outlasts.closeFault holds _ _ _

theorem start (outlasts : Outlasts property) (holds : property machine) (script : Script)
    (entry : String) : property (Program.start script entry machine).machine := by
  have told (line : Nat) : property
      ((machine.opened script line).announce 0 (.start entry)).1 :=
    outlasts.announce (outlasts.applyAbove (outlasts.frames [] holds) script line) _ _
  have begins := Program.begins script entry machine
  generalize Program.start script entry machine = started at begins ⊢
  cases begins with
  | missing absent => exact outlasts.report _ _ (outlasts.frames [] holds)
  | @refused line _ _ found heard =>
      have opened := told line
      rwa [heard] at opened
  | @runs line _ found heard room =>
      have opened := told line
      rwa [heard] at opened
  | @tooDeep line _ _ _ found heard deep =>
      have opened := told line
      rw [heard] at opened
      exact outlasts.closeFault (outlasts.checkDepth opened deep) _ _ _

end Machine.Outlasts

/-! ## Machines that are built -/

structure Machine.IsFresh (setup : Setup) (machine : Machine) : Prop where
  settings : machine.settings = setup.settings
  host : machine.host = setup.host
  services : machine.services = setup.services
  predefined : machine.predefined = initialPredefined setup.services
  extended : machine.extended = false
  graphics : machine.graphics = false
  replies : machine.console.replies = setup.replies
  canvas : machine.canvas = .blank Canvas.defaultWidth Canvas.defaultHeight

theorem Machine.ofSetup_ok {setup : Setup} {machine : Machine}
    (built : ofSetup setup = .ok machine) :
    conflict? setup.services = none ∧ ∃ fresh : Machine, fresh.IsFresh setup ∧
      machine = (fresh.setExtended setup.extended).setGraphics setup.graphics := by
  unfold ofSetup at built
  split at built
  · cases built
  · next accepted =>
      cases built
      exact ⟨accepted, _, ⟨rfl, rfl, rfl, rfl, rfl, rfl, rfl, rfl⟩, rfl⟩

/-! ## Machines without extensions -/

theorem Machine.plain_initialPredefined : ∀ layer ∈ (initialPredefined .empty).layers,
    ∀ entry ∈ layer.2, ∀ behavior, entry.2 ≠ .computed behavior := by
  intro layer member
  rw [List.mem_singleton.mp member]
  simp [Predefined.base]

def Machine.plainExample : Machine :=
  let machine : Machine :=
    { settings := ⟨some Settings.defaultDepth, some Settings.defaultArgs, false, false⟩
      host := .usual
      services := .empty
      predefined := initialPredefined .empty
      extended := false
      graphics := false
      memory := .empty
      stack := .empty
      queue := .empty
      compareFlag := false
      returned := nullText
      canvas := .blank Canvas.defaultWidth Canvas.defaultHeight
      generator := .ofSeed 0
      wakes := false
      console := .ofReplies [.line "1", .endOfFile]
      files := .ofDirectory "/"
      log := .empty
      output := ""
      events := []
      trace := []
      frames := [] }
  machine.setExtended true

theorem Machine.plain_plainExample : plainExample.Plain :=
  (follows_setExtended _ true).plain
    ⟨⟨rfl, plain_initialPredefined, rfl, by simp [Console.ofReplies]⟩, by decide⟩

end LineScript
