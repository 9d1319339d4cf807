import LineScript.Proofs.Block.Listing
import LineScript.Proofs.View.Step

/-!
Programs in a view. A program that reads the same lines in a view runs there step by step as it does
otherwise. In particular the messages of a run do not depend on those that came before, and a run
only adds to them.
-/

namespace LineScript

/-! ## Beginning and end -/

namespace View

variable (view : View)

def run (run : ProgramRun) : ProgramRun where
  result := run.result.mapError view.fault
  machine := view.machine run.machine
  left := run.left.map view.activation
  locals := run.locals

def start : ProgramStart → ProgramStart
  | .running state => .running (view.state state)
  | .ended run => .ended (view.run run)

theorem activationsFrom_state (frame : Frame) (suspended : List Suspended) :
    State.activationsFrom (view.frame frame) (suspended.map view.suspended) =
      (State.activationsFrom frame suspended).map view.activation := by
  induction suspended generalizing frame with
  | nil => rfl
  | cons waiting rest ih =>
      simp only [List.map_cons, State.activationsFrom, frame_suspended, startsBody_suspended, ih]
      rfl

theorem active_state (state : State) :
    (view.state state).active = state.active.map view.activation := by
  have all : (view.state state).activations = state.activations.map view.activation := by
    unfold State.activations
    rw [List.map_reverse]
    exact congrArg List.reverse (view.activationsFrom_state _ _)
  unfold State.active
  rw [all]
  change (if state.oneLine = true then _ else _) = _
  split
  · rw [List.map_drop]
  · rfl

theorem outermost_state (state : State) :
    (view.state state).outermost = view.frame state.outermost := by
  unfold State.outermost
  change (state.suspended.map view.suspended).foldl _ (view.frame state.scope.frame) = _
  generalize state.scope.frame = frame
  induction state.suspended generalizing frame with
  | nil => rfl
  | cons waiting rest ih =>
      simp only [List.map_cons, List.foldl_cons, frame_suspended]
      exact ih (waiting.frame frame)

end View

namespace Program

variable {view : View} {first second script : Script} {entry : String} {machine : Machine}

/-- The end of a program in a view. The body of a loop is never the outermost frame, so that no
program ends at the end marker of a loop. -/
theorem close_state {ending : Ending} {state : State}
    (silent : state.scope.machine.services = .empty)
    (outside : ∀ line value, ending ≠ .finished (some (.resume line value))) :
    close (view.ending ending) (view.state state) = view.run (close ending state) := by
  have silentSeen : (view.state state).scope.machine.services = .empty := silent
  cases ending with
  | finished signal =>
      unfold close View.ending
      dsimp only
      rw [closeSignal_silent silent, closeSignal_silent silentSeen, view.outermost_state]
      cases signal with
      | none => rfl
      | some signal =>
          cases signal with
          | resume line value => exact absurd rfl (outside line value)
          | _ => rfl
  | failed fault =>
      unfold close View.ending
      dsimp only
      rw [closeFault_silent silent, closeFault_silent silentSeen, view.outermost_state,
        view.active_state]
      rfl

theorem Reaches.stop {state last : State} {ending : Ending}
    (reached : Reaches script entry machine state)
    (stepped : state.step script = .stop ending last) :
    state.Follows last ∧ ∀ line value, ending ≠ .finished (some (.resume line value)) := by
  have transits := reached.transits
  rw [stepped] at transits
  refine ⟨transits.1, fun line value same => ?_⟩
  subst same
  cases transits.2.1 with
  | finished leaving alone =>
      obtain ⟨cursor, loop, rest, waits, -⟩ := reached.inPlace.resumes line value leaving
      rw [alone] at waits
      cases waits

def Opens (script : Script) (entry : String) (machine : Machine) : Prop :=
  ∀ run, Program.start script entry machine = .ended run →
    run.result ≠ .error (.halt Signal.abnormalCode)

theorem start_view (corresponds : view.Corresponds first second)
    (silent : machine.services = .empty)
    (admits : view.deeper = 0 ∨ Opens first entry machine) :
    start second entry (view.machine machine) = view.start (start first entry machine) := by
  cases found : first.entryLine? entry with
  | none =>
      have seen : second.entryLine? entry = none := by rw [corresponds.entryLine?, found]; rfl
      rw [start_missing found, start_missing seen]
      have report : (view.machine machine).unwound.report (0 : Nat) _ = _ :=
        view.line_zero ▸ view.machine_report machine.unwound 0
          ⟨.error, Effect.entryMissing entry, .entryPointNotFound⟩
      rw [report]
      refine congrArg (fun line : Nat => ProgramStart.ended ⟨.error (.failure
        ⟨.entryPointNotFound, Effect.entryMissing entry, Code.entryPointNotFound.number, some line,
          some entry⟩), _, [], none⟩) view.line_zero.symm
  | some line =>
      have seen : second.entryLine? entry = some (view.line line) := by
        rw [corresponds.entryLine?, found]
        rfl
      have silentOpened : (machine.opened first line).services = .empty :=
        (machine.follows_opened first line).services.trans silent
      have opened : (view.machine machine).opened second (view.line line) =
          view.machine (machine.opened first line) :=
        corresponds.directives entry line machine.unwound found
      unfold Opens at admits
      rw [start_found found, Machine.announce_plain silentOpened] at admits ⊢
      rw [start_found seen, opened, Machine.announce_plain (by exact silentOpened),
        corresponds.definitionFrame entry [] (corresponds.entryInside entry line found)]
      dsimp only at admits ⊢
      cases refused : (machine.opened first line).checkDepth 0 0 with
      | none =>
          have free := view.checkDepth_none refused
          rw [view.line_zero] at free
          rw [free]
          change _ = ProgramStart.running (view.state _)
          rw [View.state, show view.line Floor.ground.line = 0 from view.line_zero]
          rfl
      | some answer =>
          obtain ⟨fault, after⟩ := answer
          rw [refused] at admits
          have silentAfter := (Machine.kept_checkDepth refused).services.trans silentOpened
          -- The depth limit does not halt a program that opens, so that halt is met by a view
          -- that goes no deeper.
          have same : fault = .halt Signal.abnormalCode → view.deeper = 0 := by
            rintro rfl
            refine admits.elim id fun opens => absurd ?_ (opens _ rfl)
            rw [closeFault_silent silentAfter]
          have refusedSeen := View.checkDepth_some refused same
          rw [view.line_zero] at refusedSeen
          rw [refusedSeen]
          dsimp only
          rw [closeFault_silent silentAfter, closeFault_silent (by exact silentAfter)]
          rfl

/-! ## Runs -/

/-- The program reads the same lines in the view, and it does not come to a limit that is greater
there. -/
structure Seen (view : View) (first second : Script) (entry : String) (machine : Machine) :
    Prop where
  corresponds : view.Corresponds first second
  silent : machine.services = .empty
  reads : ∀ cursor : Cursor, cursor.line ≤ first.lineCount →
    (view.cursor cursor).read second = view.cursor (cursor.read first)
  opens : view.deeper = 0 ∨ Opens first entry machine
  admits : ∀ state, Reaches first entry machine state → view.Admits (state.step first)

namespace Seen

variable {state : State}

theorem step (seen : Seen view first second entry machine)
    (reached : Reaches first entry machine state) :
    (view.state state).step second = view.step (state.step first) :=
  seen.corresponds.step_state state (reached.follows.services.trans seen.silent) reached.inPlace
    (fun _ => seen.reads _ reached.inPlace.grounded.proper.inside) (seen.admits state reached)

theorem start (seen : Seen view first second entry machine) :
    Program.start second entry (view.machine machine) =
      view.start (Program.start first entry machine) :=
  start_view seen.corresponds seen.silent seen.opens

theorem reaches (seen : Seen view first second entry machine)
    (reached : Reaches first entry machine state) :
    Reaches second entry (view.machine machine) (view.state state) := by
  induction reached with
  | start started =>
      refine .start ?_
      rw [seen.start, started]
      rfl
  | step reached stepped ih =>
      refine .step ih ?_
      rw [seen.step reached, stepped]
      rfl

theorem runState (seen : Seen view first second entry machine)
    (reached : Reaches first entry machine state) (fuel : Nat) :
    ((view.state state).run second fuel).map (fun (ending, last) => close ending last) =
      ((state.run first fuel).map fun (ending, last) => close ending last).map view.run := by
  induction fuel generalizing state with
  | zero => rfl
  | succ fuel ih =>
      have stepSeen := seen.step reached
      cases stepped : state.step first with
      | next after =>
          rw [stepped] at stepSeen
          rw [State.run_next stepped, State.run_next stepSeen]
          exact ih (reached.step stepped)
      | stop ending last =>
          rw [stepped] at stepSeen
          rw [State.run_stop stepped, State.run_stop stepSeen]
          have follows := (reached.stop stepped).1.machine
          have silent := follows.services.trans (reached.follows.services.trans seen.silent)
          exact congrArg some (close_state silent (reached.stop stepped).2)

theorem run (seen : Seen view first second entry machine) (fuel : Nat) :
    Program.run second entry (view.machine machine) fuel =
      (Program.run first entry machine fuel).map view.run := by
  unfold Program.run
  rw [seen.start]
  cases started : Program.start first entry machine with
  | ended run => rfl
  | running state => exact seen.runState (.start started) fuel

end Seen

end Program

/-! ## Lines that keep their numbers -/

theorem View.applyLines_view {view : View} {number other : Nat} {texts : List String}
    (agrees : ∀ index < texts.length, view.line (number + index) = other + index)
    (machine : Machine) :
    Directive.applyLines (view.machine machine) other texts =
      view.machine (Directive.applyLines machine number texts) := by
  induction texts generalizing number other machine with
  | nil => rfl
  | cons text rest ih =>
      have here : view.line number = other := agrees 0 (Nat.succ_pos _)
      have later (index : Nat) (bound : index < rest.length) :
          view.line (number + 1 + index) = other + 1 + index := by
        have next := agrees (index + 1) (Nat.succ_lt_succ bound)
        rwa [← Nat.add_assoc, Nat.add_right_comm, ← Nat.add_assoc, Nat.add_right_comm other] at next
      unfold Directive.applyLines
      split
      · rw [← here, view.machine_apply, here]
        exact ih later _
      · exact ih later machine

namespace View

variable {view : View}

def Numbers (view : View) : Prop :=
  ∀ line, view.line line = line

namespace Numbers

theorem cursor (same : view.Numbers) (cursor : Cursor) : view.cursor cursor = cursor := by
  rw [View.cursor, same]

theorem frame (same : view.Numbers) (frame : Frame) : view.frame frame = frame := by
  rw [View.frame, same.cursor]

theorem loop (same : view.Numbers) (loop : InlineLoop) : view.loop loop = loop := by
  obtain ⟨kind, plan, header, endLine⟩ := loop
  rw [View.loop, same]
  cases endLine with
  | none => rfl
  | some line => simp [same line]

theorem signal (same : view.Numbers) (signal : Signal) : view.signal signal = signal := by
  cases signal with
  | resume line value => rw [View.signal, same]
  | _ => rfl

theorem suspended (same : view.Numbers) (waiting : Suspended) :
    view.suspended waiting = waiting := by
  cases waiting with
  | caller frame wait => rw [View.suspended, same.frame]
  | owner cursor loop => rw [View.suspended, same.cursor, same.loop]

theorem state (same : view.Numbers) (state : State) :
    view.state state = state.onMachine fun _ => view.machine state.scope.machine := by
  have waiting : state.suspended.map view.suspended = state.suspended := by
    rw [List.map_congr_left fun waiting _ => same.suspended waiting, List.map_id']
  have control : view.control state.control = state.control := by
    cases state.control with
    | running => rfl
    | leaving signal => rw [View.control, same.signal]
  rw [View.state, View.scope, waiting, control, same.frame, same]
  rfl

theorem fault (same : view.Numbers) (fault : Fault) : view.fault fault = fault := by
  cases fault with
  | failure failure =>
      obtain ⟨kind, message, code, line, entry⟩ := failure
      cases line with
      | none => rfl
      | some line => simp [View.fault, View.failure, same line]
  | _ => rfl

theorem message (same : view.Numbers) (message : Message) : view.message message = message := by
  obtain ⟨level, line, text, code⟩ := message
  cases line with
  | ofNat line => simp [View.message, View.place, same line]
  | negSucc line => rfl

theorem record (same : view.Numbers) (record : LineRecord) : view.record record = record := by
  rw [View.record, same]

theorem activations (same : view.Numbers) (activations : List Activation) :
    activations.map view.activation = activations := by
  rw [List.map_congr_left fun activation _ => show view.activation activation = activation by
    rw [View.activation, same.frame], List.map_id']

theorem machine (same : view.Numbers) (machine : Machine) :
    view.machine machine =
      { machine with
        settings := view.settings machine.settings
        log := ⟨machine.log.newest ++ view.messages⟩
        trace := machine.trace ++ view.trace } := by
  rw [View.machine, List.map_congr_left fun message _ => same.message message,
    List.map_congr_left fun record _ => same.record record, List.map_id', List.map_id',
    same.activations]

theorem run (same : view.Numbers) (run : ProgramRun) :
    view.run run = { run with machine := view.machine run.machine } := by
  have result : run.result.mapError view.fault = run.result := by
    cases run.result with
    | ok signal => rfl
    | error fault => rw [Except.mapError, same.fault]
  rw [View.run, result, same.activations]

theorem corresponds (same : view.Numbers) (script : Script) : view.Corresponds script script where
  increasing := by
    intro first second less
    rwa [same, same]
  line? line _ := by rw [same]
  lineCount line inside := by rwa [same]
  entryLine? name := by
    cases found : script.entryLine? name with
    | none => rfl
    | some line => simp [same line]
  entryInside name line found := (Script.entryLine?_bounds found).2
  blockEnd? line opener closer alternates := by
    rw [same]
    cases found : script.blockEnd? line opener closer alternates with
    | none => rfl
    | some target => simp [same target]
  directives name line machine _ := by
    rw [same]
    exact View.applyLines_view (fun index _ => same _) machine

end Numbers

end View

namespace Program

variable {view : View} {script : Script} {entry : String} {machine : Machine}

/-- A program is seen in a view of the same lines if it does not come to a limit that is greater
there. -/
theorem seen_self (same : view.Numbers) (silent : machine.services = .empty)
    (opens : view.deeper = 0 ∨ Opens script entry machine)
    (admits : ∀ state, Reaches script entry machine state → view.Admits (state.step script)) :
    Seen view script script entry machine where
  corresponds := same.corresponds script
  silent := silent
  reads cursor _ := by rw [same.cursor, same.cursor]
  opens := opens
  admits := admits

end Program

/-! ## What came before -/

def Machine.cleared (machine : Machine) : Machine :=
  { machine with log := .empty, trace := [] }

def View.since (machine : Machine) (deeper wider : Nat) : View where
  line := id
  line_zero := rfl
  deeper := deeper
  wider := wider
  messages := machine.log.newest
  trace := machine.trace

theorem View.numbers_since (machine : Machine) (deeper wider : Nat) :
    (View.since machine deeper wider).Numbers :=
  fun _ => rfl

theorem View.machine_cleared {view : View} {machine : Machine}
    (limits : view.deeper = 0 ∧ view.wider = 0) (messages : view.messages = machine.log.newest)
    (trace : view.trace = machine.trace)
    (frames : machine.frames.map view.activation = machine.frames) :
    view.machine machine.cleared = machine := by
  have settings : view.settings machine.settings = machine.settings := by
    obtain ⟨maxDepth, maxArgs, verbose, tracing⟩ := machine.settings
    simp [View.settings, limits]
  rw [View.machine, show machine.cleared.settings = machine.settings from rfl, settings, messages,
    trace, show machine.cleared.frames = machine.frames from rfl, frames]
  rfl

theorem View.machine_since (machine : Machine) :
    (View.since machine 0 0).machine machine.cleared = machine :=
  machine_cleared ⟨rfl, rfl⟩ rfl rfl ((numbers_since machine 0 0).activations _)

/-- The messages that came after those of an earlier log, the last one first. -/
def Log.after (log earlier : Log) : List Message :=
  log.newest.take (log.newest.length - earlier.newest.length)

theorem Log.after_append (messages : List Message) (earlier : Log) :
    Log.after ⟨messages ++ earlier.newest⟩ earlier = messages := by
  simp [Log.after]

theorem Log.mem_after_of_suffix {early log later : Log} (suffix : log.newest <:+ later.newest)
    {message : Message} (new : message ∈ log.after early) : message ∈ later.after early := by
  obtain ⟨added, split⟩ := suffix
  unfold Log.after at new ⊢
  by_cases fewer : log.newest.length ≤ early.newest.length
  · rw [Nat.sub_eq_zero_of_le fewer] at new
    cases new
  · rw [← split, List.length_append, Nat.add_sub_assoc (by omega), List.take_length_add_append]
    exact List.mem_append_right added new

namespace State

variable {script : Script} {state : State}

theorem step_since (silent : state.scope.machine.services = .empty)
    (inPlace : state.InPlace script) :
    state.step script = (View.since state.scope.machine 0 0).step
      ((state.onMachine Machine.cleared).step script) := by
  have same := View.numbers_since state.scope.machine 0 0
  have cleared : (View.since state.scope.machine 0 0).state (state.onMachine Machine.cleared) =
      state := by
    rw [same.state]
    exact congrArg (fun machine => state.onMachine fun _ => machine)
      (View.machine_since state.scope.machine)
  have stepped := (same.corresponds script).step_state (state.onMachine Machine.cleared) silent
    ⟨inPlace.whole, inPlace.alone, inPlace.grounded, inPlace.resumes⟩
    (fun _ => by rw [same.cursor, same.cursor]) (.inl ⟨rfl, rfl⟩)
  rwa [cleared] at stepped

theorem log_suffix (silent : state.scope.machine.services = .empty)
    (inPlace : state.InPlace script) :
    state.scope.machine.log.newest <:+ (state.step script).state.scope.machine.log.newest := by
  rw [step_since silent inPlace]
  cases (state.onMachine Machine.cleared).step script <;> exact List.suffix_append _ _

end State

namespace Program

variable {script : Script} {entry : String} {machine : Machine}

theorem seen_since (silent : machine.services = .empty) :
    Seen (View.since machine 0 0) script script entry machine.cleared :=
  seen_self (View.numbers_since machine 0 0) silent (.inl rfl) fun _ _ => .inl ⟨rfl, rfl⟩

/-- What a program does that starts with nothing reported is what it does otherwise. -/
theorem run_since (silent : machine.services = .empty) (fuel : Nat) :
    run script entry machine fuel =
      (run script entry machine.cleared fuel).map (View.since machine 0 0).run := by
  have seen : Seen (View.since machine 0 0) script script entry machine.cleared := seen_since silent
  have ran := seen.run fuel
  rwa [View.machine_since] at ran

theorem Reaches.log_suffix {state : State} (reached : Reaches script entry machine state)
    (silent : machine.services = .empty) {fuel : Nat} {ending : Ending} {last : State}
    (ran : state.run script fuel = some (ending, last)) :
    state.scope.machine.log.newest <:+ last.scope.machine.log.newest := by
  induction fuel generalizing state with
  | zero => cases ran
  | succ fuel ih =>
      have here := State.log_suffix (reached.follows.services.trans silent) reached.inPlace
      cases stepped : state.step script with
      | next after =>
          rw [stepped] at here
          rw [State.run_next stepped] at ran
          exact here.trans (ih (reached.step stepped) ran)
      | stop other final =>
          rw [stepped] at here
          rw [State.run_stop stepped] at ran
          cases ran
          exact here

theorem run_unique {fuel other : Nat} {run again : ProgramRun}
    (ran : Program.run script entry machine fuel = some run)
    (ranAgain : Program.run script entry machine other = some again) : run = again := by
  unfold Program.run at ran ranAgain
  cases started : Program.start script entry machine with
  | ended given =>
      rw [started] at ran ranAgain
      exact Option.some.inj (ran.symm.trans ranAgain)
  | running state =>
      rw [started] at ran ranAgain
      obtain ⟨ending, ended, rfl⟩ := Option.map_eq_some_iff.mp ran
      obtain ⟨endingAgain, endedAgain, rfl⟩ := Option.map_eq_some_iff.mp ranAgain
      rw [State.run_unique ended endedAgain]

theorem Reaches.runs {state : State} (reached : Reaches script entry machine state) {fuel : Nat}
    {run : ProgramRun} (ran : Program.run script entry machine fuel = some run) :
    ∃ left ending last, state.run script left = some (ending, last) ∧ run = close ending last := by
  induction reached with
  | start started =>
      rw [Program.run, started] at ran
      obtain ⟨⟨ending, last⟩, ended, rfl⟩ := Option.map_eq_some_iff.mp ran
      exact ⟨fuel, ending, last, ended, rfl⟩
  | step reached stepped ih =>
      obtain ⟨left, ending, last, ended, same⟩ := ih
      cases left with
      | zero => cases ended
      | succ left =>
          rw [State.run_next stepped] at ended
          exact ⟨left, ending, last, ended, same⟩

end Program

end LineScript
