import LineScript.Proofs.Settling

/-!
What becomes of the exceptions of extensions. An instruction of an extension and a hook that raise
them are failures of the program; so are variables of extensions that raise them while an
instruction reads them. Only an exception that arises while the arguments of a line are read is not
caught where the line is: the instruction fails that has started the frame, and in the outermost
frame, which no instruction has started, the exception ends the run as it is.
-/

namespace LineScript

open LineScript.Action

theorem Meaning.number_exceptionCode (origin : String) :
    (exceptionCode origin).number = if origin ∈ builtinOrigins then 33 else 32 := by
  unfold exceptionCode
  by_cases builtin : origin ∈ builtinOrigins
  · rw [if_pos (List.contains_iff_mem.mpr builtin), if_pos builtin]
    rfl
  · rw [if_neg (mt List.contains_iff_mem.mp builtin), if_neg builtin]
    rfl

/-! ## Hooks -/

namespace Machine

/-- When handlers are called one after another, one of them raises an exception, and there is no
trouble with those before it. -/
inductive HandlersRaise (detail : EventDetail) (text : String) :
    Machine → List (Handler HookBehavior) → Prop where
  | here {machine : Machine} {handler : Handler HookBehavior} {rest : List (Handler HookBehavior)}
      (raises : (handler.action.hear machine.sight).2 = some (.exception text)) :
      HandlersRaise detail text machine (handler :: rest)
  | later {machine : Machine} {handler : Handler HookBehavior} {rest : List (Handler HookBehavior)}
      (calm : (handler.action.hear machine.sight).2 = none)
      (raise : HandlersRaise detail text
        (machine.looked.recorded detail (handler.action.hear machine.sight).1) rest) :
      HandlersRaise detail text machine (handler :: rest)

/-- A hook that is told of an event raises an exception. -/
def HookRaises (machine : Machine) (detail : EventDetail) (text : String) : Prop :=
  machine.HandlersRaise detail text (machine.services.hooks.handlers detail.event)

def hookFailure (line : Nat) (detail : EventDetail) (text : String) : Failure :=
  ⟨.general, s!"Extension hook '{detail.event}' failed: {text}", 32, some line, none⟩

variable {machine : Machine} {detail : EventDetail} {text : String}

theorem HandlersRaise.fault {handlers : List (Handler HookBehavior)}
    (raise : machine.HandlersRaise detail text handlers) (line : Nat) :
    (machine.callHandlers line detail handlers).2 =
      some (.failure (hookFailure line detail text)) := by
  induction raise with
  | here raises =>
      unfold callHandlers
      dsimp only
      rw [raises]
      rfl
  | later calm raise ih =>
      unfold callHandlers
      dsimp only
      rw [calm]
      exact ih

theorem HookRaises.fault (raises : machine.HookRaises detail text) (line : Nat) :
    (machine.announce line detail).2 = some (.failure (hookFailure line detail text)) :=
  HandlersRaise.fault raises line

end Machine

/-! ## Lines -/

namespace State

variable {script : Script} {state : State} {source : String} {exception : Exception}

/-- The next step ends the run with a failure that has this code and this message. -/
def FailsNext (script : Script) (state : State) (code : Int) (message : String) : Prop :=
  ∃ failure last, state.step script = .stop (.failed (.failure failure)) last ∧
    failure.code = code ∧ failure.message = message

/-- The instruction of the next line ends with an exception. -/
structure Raises (script : Script) (state : State) (source : String) (spec : Spec Meaning)
    (exception : Exception) : Prop extends Executes script state source where
  known : state.scope.machine.lookup? (LineText.keyword source) = some spec
  supplied : spec.arityProblem? (LineText.pieces source).length = none
  raised : ∃ args scope last,
    Reference.resolveAll (LineText.pieces source) (state.told source).scope = .ok args scope ∧
      spec.action.perform script state.inBody (state.scope.frame.cursor.line + 1)
        (LineText.pieces source) args scope = .error (.exception exception) last

theorem Executes.step (executes : state.Executes script source) (whole : state.oneLine = false) :
    state.step script = (state.told source).executePieces script
      (Line.ofText (state.scope.frame.cursor.line + 1) source) (LineText.pieces source) := by
  obtain ⟨limit, limited, fits⟩ := executes.fits
  have kept : state.scope.machine.Kept (state.told source).scope.machine :=
    (state.same_told source).machine
  rw [step_running executes.running whole,
    advance_told executes.found executes.executed executes.silent]
  generalize lined : Line.ofText (state.scope.frame.cursor.line + 1) source = line
  have tokens : line.tokens = tokenize source := by rw [← lined, Line.ofText]
  rw [← tokens] at fits
  rw [execute_allowed (Settings.allows_of_fits (kept.settings ▸ limited) fits), tokens]
  rfl

theorem RefusesArgument.denies (refuses : state.RefusesArgument script source exception) :
    state.scope.machine.Denies exception := by
  obtain ⟨last, refused⟩ := refuses.refused
  have keeps : Keeps (fun _ => False) (Reference.resolveAll (LineText.pieces source)) :=
    Reference.keeps_resolveAll _
  have kept : state.scope.machine.Kept (state.told source).scope.machine :=
    (state.same_told source).machine
  cases (keeps.raised refused).2.unread.resolve_left id with
  | own own => exact own.elim
  | exception denies => exact kept.denies denies

theorem RefusesArgument.step (refuses : state.RefusesArgument script source exception)
    (whole : state.oneLine = false) : ∃ last,
    state.step script = ({ state.told source with scope := last }).lineFault
      (.exception exception) := by
  obtain ⟨last, refused⟩ := refuses.refused
  refine ⟨last, ?_⟩
  rw [refuses.toExecutes.step whole, executePieces, refused]

theorem suspended_told (state : State) (source : String) :
    (state.told source).suspended = state.suspended :=
  (state.same_told source).suspended

theorem RefusesArgument.step_alone (refuses : state.RefusesArgument script source exception)
    (whole : state.oneLine = false) (alone : state.suspended = []) :
    ∃ last, state.step script = .stop (.failed (.exception exception)) last := by
  obtain ⟨last, stepped⟩ := refuses.step whole
  have aloneTold := (state.suspended_told source).trans alone
  exact ⟨_, stepped.trans (lineFault_alone aloneTold)⟩

theorem RefusesArgument.step_waits (refuses : state.RefusesArgument script source exception)
    (whole : state.oneLine = false) {waiting : Suspended} {rest : List Suspended}
    (waits : state.suspended = waiting :: rest) :
    state.FailsNext script 33 s!"{waiting.keyword} failed: {exception.message}" := by
  obtain ⟨last, stepped⟩ := refuses.step whole
  have waitsLast : ({ state.told source with scope := last }).suspended = waiting :: rest :=
    (state.suspended_told source).trans waits
  obtain ⟨line, note, failed⟩ := lineFault_waits waitsLast
  exact ⟨_, _, stepped.trans failed, rfl, rfl⟩

theorem Raises.step {spec : Spec Meaning} (raises : state.Raises script source spec exception)
    (whole : state.oneLine = false) :
    state.FailsNext script (if spec.origin ∈ Meaning.builtinOrigins then 33 else 32)
      s!"{spec.name} failed: {exception.message}" := by
  obtain ⟨args, scope, last, resolved, performed⟩ := raises.raised
  have keeps : Keeps (fun _ => False) (Reference.resolveAll (LineText.pieces source)) :=
    Reference.keeps_resolveAll _
  have kept : state.scope.machine.Kept scope.machine :=
    Machine.Kept.trans (state.same_told source).machine
      (keeps.ok resolved).machine
  -- Reading the arguments may change the machine, but not what its names stand for.
  have known : scope.machine.lookup? (LineText.keyword source) = some spec := by
    rw [kept.lookup?, raises.known]
  have supplied : spec.arityProblem? args.length = none := by
    rw [Reference.length_resolveAll resolved, raises.supplied]
  have inside : ({ state.told source with scope }).inBody = state.inBody := by
    unfold inBody
    dsimp only
    rw [suspended_told]
  have dispatched : state.step script = ({ state.told source with scope := last }).instructionFault
      spec.name (Meaning.exceptionCode spec.origin) (.exception exception) := by
    rw [raises.toExecutes.step whole, executePieces, resolved]
    dsimp only
    generalize lined : Line.ofText (state.scope.frame.cursor.line + 1) source = line
    have keyword : line.keyword = LineText.keyword source := by rw [← lined]; rfl
    have number : line.number = state.scope.frame.cursor.line + 1 := by rw [← lined, Line.ofText]
    unfold dispatch
    dsimp only
    rw [keyword, known]
    dsimp only
    rw [supplied, inside, number, performed]
  refine ⟨_, _, dispatched, ?_, rfl⟩
  exact Meaning.number_exceptionCode spec.origin

/-- The next step goes on with a loop, and an exception arises when its header is read again. -/
inductive Rechecks (script : Script) (state : State) (exception : Exception) : LoopKind → Prop where
  | external {now : State} {loop : ExternalLoop} {header : List Piece} {last : Scope}
      (goesOn : state.step script = now.continueExternal script loop)
      (planned : loop.plan = .condition header)
      (raised : loop.kind.condition true header now.scope = .error (.exception exception) last) :
      Rechecks script state exception loop.kind
  | inline {now : State} {loop : InlineLoop} {header : List Piece} {last : Scope}
      (goesOn : state.step script = now.continueInline script loop)
      (planned : loop.plan = .condition header)
      (raised : loop.kind.condition false header now.scope = .error (.exception exception) last) :
      Rechecks script state exception loop.kind

theorem Rechecks.step {kind : LoopKind} (rechecks : state.Rechecks script exception kind) :
    state.FailsNext script 33 s!"{kind.keyword} failed: {exception.message}" := by
  cases rechecks with
  | external goesOn planned raised =>
      rw [continueExternal, planned] at goesOn
      dsimp only at goesOn
      rw [raised] at goesOn
      exact ⟨_, _, goesOn, rfl, rfl⟩
  | inline goesOn planned raised =>
      rw [continueInline, planned] at goesOn
      dsimp only at goesOn
      rw [raised] at goesOn
      exact ⟨_, _, goesOn, rfl, rfl⟩

/-- A hook raises an exception before the next line is executed. -/
structure Interferes (script : Script) (state : State) (source text : String) : Prop where
  running : state.control = .running
  found : script.line? (state.scope.frame.cursor.line + 1) = some source
  executed : LineText.isInstruction source = true
  raises : (state.recorded source).scope.machine.HookRaises
    (Line.ofText (state.scope.frame.cursor.line + 1) source).detail text

theorem Interferes.step {text : String} (interferes : state.Interferes script source text)
    (whole : state.oneLine = false) :
    state.FailsNext script 32 s!"Extension hook 'before_line' failed: {text}" := by
  obtain ⟨running, found, executed, raises⟩ := interferes
  have heard : (state.announced source).2 = _ := raises.fault (state.recorded source).currentLine
  exact ⟨_, _, (step_running running whole).trans (advance_refused found executed heard), rfl, rfl⟩

end State

/-! ## Programs -/

theorem Machine.lasts_orderly : Lasts Orderly where
  kept kept orderly := kept.orderly orderly
  directive line text orderly := by
    unfold Directive.apply
    split <;> exact ⟨orderly.maxDepth, orderly.maxArgs, orderly.replies⟩
  frames frames orderly := ⟨orderly.maxDepth, orderly.maxArgs, orderly.replies⟩

theorem Machine.orderly_ofSetup {setup : Setup} {machine : Machine}
    (built : ofSetup setup = .ok machine) (depth : setup.settings.maxDepth ≠ none)
    (args : setup.settings.maxArgs ≠ none) (replies : .interrupt ∉ setup.replies) :
    machine.Orderly := by
  obtain ⟨-, fresh, starts, rfl⟩ := ofSetup_ok built
  exact ⟨starts.settings ▸ depth, starts.settings ▸ args, starts.replies ▸ replies⟩

namespace ProgramRun

def Contained (run : ProgramRun) : Prop :=
  ∀ fault, run.result = .error fault → fault.IsOwn

def FailsWith (run : ProgramRun) (code : Int) (message : String) : Prop :=
  ∃ failure, run.result = .error (.failure failure) ∧ failure.code = code ∧
    failure.message = message

end ProgramRun

def Ending.result : Ending → Except Fault Signal
  | finished signal => .ok (signal.getD (.returned nullText))
  | failed fault => .error fault

namespace Program

variable {script : Script} {entry : String} {machine : Machine} {state : State}

theorem contained_closeFault (machine : Machine) (left : List Activation) (locals : Locals)
    {fault : Fault} (own : fault.IsOwn) : (closeFault machine left locals fault).Contained := by
  -- A hook that is told of the end can only put another failure or halt in its place.
  have told {line : Nat} {detail : EventDetail} :
      ((machine.announce line detail).2.getD fault).IsOwn := by
    cases heard : (machine.announce line detail).2 with
    | none => exact own
    | some other => exact Machine.isOwn_callHandlers heard
  intro last ended
  cases fault with
  | failure failure =>
      cases ended
      exact told
  | halt code =>
      cases ended
      exact told
  | _ => exact own.elim

theorem contained_closeSignal (machine : Machine) (locals : Locals) (signal : Signal) :
    (closeSignal machine locals signal).Contained := by
  intro last ended
  unfold closeSignal at ended
  split at ended
  · cases ended
  · next heard =>
      cases ended
      exact Machine.isOwn_callHandlers (congrArg Prod.snd heard)

theorem ended_cases {run : ProgramRun} (started : start script entry machine = .ended run) :
    run.Contained ∨
      machine.settings.maxDepth = none ∧ run.result = .error (.exception .incomparable) := by
  have begins := begins script entry machine
  rw [started] at begins
  cases begins with
  | missing absent =>
      left
      intro fault ended
      cases ended
      trivial
  | refused found heard =>
      left
      intro fault ended
      cases ended
      exact Machine.isOwn_callHandlers (congrArg Prod.snd heard)
  | @tooDeep line _ _ _ found heard deep =>
      have kept : (machine.opened script line).Kept
          ((machine.opened script line).announce 0 (.start entry)).1 :=
        Machine.kept_callHandlers _ _ _ _
      rw [heard] at kept
      have settings := kept.settings.trans (machine.follows_opened script line).settings
      rcases Machine.checkDepth_cases deep with own | ⟨unlimited, rfl⟩
      · exact .inl (contained_closeFault _ _ _ own)
      · exact .inr ⟨settings ▸ unlimited, rfl⟩

theorem contained_ended (orderly : machine.Orderly) {run : ProgramRun}
    (started : start script entry machine = .ended run) : run.Contained :=
  (ended_cases started).resolve_right fun unlimited => orderly.maxDepth unlimited.1

/-! ## Hooks at the beginning and at the end -/

section

variable {result : Except Fault Signal} {detail : EventDetail} {text : String}

theorem closeFault_raises {fault : Fault} (left : List Activation) (locals : Locals)
    (told : detail ∈ closing (.error fault)) (raises : machine.HookRaises detail text) :
    (closeFault machine left locals fault).FailsWith 32
      s!"Extension hook '{detail.event}' failed: {text}" := by
  have heard := raises.fault (Floor.under left).line
  unfold closeFault
  cases fault with
  | failure failure =>
      cases List.mem_singleton.mp told
      exact ⟨_, congrArg (Except.error <| Option.getD · _) heard, rfl, rfl⟩
  | halt code =>
      cases List.mem_singleton.mp told
      exact ⟨_, congrArg (Except.error <| Option.getD · _) heard, rfl, rfl⟩
  | _ => cases told

theorem closeSignal_raises {signal : Signal} (locals : Locals)
    (told : detail ∈ closing (.ok signal)) (raises : machine.HookRaises detail text) :
    (closeSignal machine locals signal).FailsWith 32
      s!"Extension hook '{detail.event}' failed: {text}" := by
  cases List.mem_singleton.mp told
  have heard := raises.fault 0
  unfold closeSignal
  split
  · next silent =>
      rw [silent] at heard
      cases heard
  · next failed =>
      rw [failed] at heard
      cases heard
      exact ⟨_, rfl, rfl, rfl⟩

/-- The program comes to its end with the result, which the hooks have not been told of: no frame
may be active, or a step has ended the run. -/
inductive Closes (script : Script) (entry : String) (machine : Machine) :
    Except Fault Signal → Machine → Prop where
  | early {line : Nat} {told before : Machine} {fault : Fault}
      (found : script.entryLine? entry = some line)
      (heard : (machine.opened script line).announce 0 (.start entry) = (told, none))
      (deep : told.checkDepth 0 0 = some (fault, before)) :
      Closes script entry machine (.error fault) before
  | late {state last : State} {ending : Ending} (reached : Reaches script entry machine state)
      (stopped : state.step script = .stop ending last) :
      Closes script entry machine ending.result last.scope.machine

theorem Closes.raises {before : Machine} (closes : Closes script entry machine result before)
    (told : detail ∈ closing result) (raises : before.HookRaises detail text) :
    ∃ fuel run, Program.run script entry machine fuel = some run ∧
      run.FailsWith 32 s!"Extension hook '{detail.event}' failed: {text}" := by
  cases closes with
  | early found heard deep =>
      refine ⟨0, _, ?_, closeFault_raises [] .empty told raises⟩
      rw [Program.run, start_found found, heard]
      dsimp only
      rw [deep]
      rfl
  | @late state last ending reached stopped =>
      obtain ⟨fuel, ran⟩ := reached.ended stopped
      refine ⟨fuel, _, ran, ?_⟩
      cases ending with
      | failed fault => exact closeFault_raises _ _ told raises
      | finished signal => exact closeSignal_raises _ told raises

theorem run_refused {line : Nat} (found : script.entryLine? entry = some line)
    (raises : (machine.opened script line).HookRaises (.start entry) text) (fuel : Nat) :
    ∃ run, Program.run script entry machine fuel = some run ∧
      run.FailsWith 32 s!"Extension hook 'program_start' failed: {text}" := by
  have heard := raises.fault 0
  cases told : (machine.opened script line).announce 0 (.start entry) with
  | mk after fault =>
      rw [told] at heard
      cases heard
      let failure := Machine.hookFailure 0 (.start entry) text
      refine ⟨⟨.error (.failure failure), after, [], some .empty⟩, ?_, failure, rfl, rfl, rfl⟩
      rw [Program.run, start_found found, told]
      rfl

end

/-! ## Main statement -/

/-- How a program ends when extensions fail. -/
structure Containment (script : Script) (entry : String) (machine : Machine) : Prop where
  /-- In one case only is the end neither a signal nor a halt nor a failure: in the outermost frame
  an argument cannot be read. -/
  ends : ∀ fuel run, Program.run script entry machine fuel = some run → run.Contained ∨
    ∃ state source exception, Reaches script entry machine state ∧ state.suspended = [] ∧
      state.RefusesArgument script source exception ∧ state.scope.machine.Denies exception ∧
      run.result = .error (.exception exception)
  escapes : ∀ state source exception, Reaches script entry machine state → state.suspended = [] →
    state.RefusesArgument script source exception → ∃ fuel run,
      Program.run script entry machine fuel = some run ∧
        run.result = .error (.exception exception)
  /-- In another frame it is a failure of the call or the loop that has started the frame. -/
  enclosed : ∀ state source exception waiting rest, Reaches script entry machine state →
    state.suspended = waiting :: rest → state.RefusesArgument script source exception →
    state.FailsNext script 33 s!"{waiting.keyword} failed: {exception.message}"
  /-- An exception inside an instruction is a failure of that instruction. -/
  raised : ∀ state source spec exception, Reaches script entry machine state →
    state.Raises script source spec exception →
    state.FailsNext script (if spec.origin ∈ Meaning.builtinOrigins then 33 else 32)
      s!"{spec.name} failed: {exception.message}"
  rechecked : ∀ state exception kind, Reaches script entry machine state →
    state.Rechecks script exception kind →
    state.FailsNext script 33 s!"{kind.keyword} failed: {exception.message}"
  /-- An exception of a hook is a failure of the hook, at the beginning, before a line and at the
  end. -/
  refused : ∀ line text, script.entryLine? entry = some line →
    (machine.opened script line).HookRaises (.start entry) text → ∀ fuel, ∃ run,
      Program.run script entry machine fuel = some run ∧
        run.FailsWith 32 s!"Extension hook 'program_start' failed: {text}"
  interfered : ∀ state source text, Reaches script entry machine state →
    state.Interferes script source text →
    state.FailsNext script 32 s!"Extension hook 'before_line' failed: {text}"
  closed : ∀ result before detail text, Closes script entry machine result before →
    detail ∈ closing result → before.HookRaises detail text → ∃ fuel run,
      Program.run script entry machine fuel = some run ∧
        run.FailsWith 32 s!"Extension hook '{detail.event}' failed: {text}"

theorem Reaches.contained_or_escapes (orderly : machine.Orderly)
    (reached : Reaches script entry machine state) {ending : Ending} {last : State}
    (stopped : state.step script = .stop ending last) : (close ending last).Contained ∨
      ∃ source exception, state.suspended = [] ∧ state.RefusesArgument script source exception ∧
        (close ending last).result = .error (.exception exception) := by
  have passes := State.passes_step script reached.inPlace.whole
  rw [stopped] at passes
  cases passes.2 (Machine.lasts_orderly.reaches orderly reached) with
  | finished leaving alone => exact .inl (contained_closeSignal _ _ _)
  | own own => exact .inl (contained_closeFault _ _ _ own)
  | @escapes source exception alone refuses => exact .inr ⟨source, exception, alone, refuses, rfl⟩

def refusalExample : Machine.Setup :=
  { settings := ⟨some Settings.defaultDepth, some Settings.defaultArgs, false, false⟩
    services := ⟨.empty, [("boom", .fail "no")], [], .empty⟩
    extended := false
    graphics := false
    seed := 0
    clock := Clock.ofSeconds 0 0
    wakes := false
    replies := []
    files := .ofDirectory "/" }

end Program

end LineScript
