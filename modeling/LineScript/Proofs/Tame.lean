import LineScript.Proofs.Telling

/-!
Machines on which nothing outside the program gets in its way: hooks of extensions only log, their
variables can be read, no code of theirs makes up failures, what is typed is text, and the host can
follow any number of marks. A program cannot change that. On such a machine a line is announced
right before it is executed, and then every step goes on, is interrupted, halts, or reports the
failure with which it stops.
-/

namespace LineScript

open LineScript.Action

/-! ## Hooks that only log -/

/-- What the hooks record of an event that they are told of now. -/
def Machine.records (machine : Machine) (detail : EventDetail) : List EventRecord :=
  (machine.services.hooks.handlers detail.event).flatMap fun handler =>
    (handler.action.hear machine.sight).1.map (⟨·, detail⟩)

theorem Machine.detail_of_mem_records {machine : Machine} {detail : EventDetail}
    {record : EventRecord} (member : record ∈ machine.records detail) : record.detail = detail := by
  obtain ⟨handler, -, recorded⟩ := List.mem_flatMap.mp member
  obtain ⟨text, -, rfl⟩ := List.mem_map.mp recorded
  rfl

/-- The variable can always be read. -/
def Predefined.IsReadable (meaning : Predefined) : Prop :=
  ∀ behavior, meaning = .computed behavior → ∀ sight, ∃ text, behavior.answer sight = .ok text

/-- The limits are numbers, and nothing outside the program gets in its way. -/
structure Machine.Tame (machine : Machine) : Prop where
  maxDepth : machine.settings.maxDepth ≠ none
  maxArgs : machine.settings.maxArgs ≠ none
  hooks : ∀ event, ∀ handler ∈ machine.services.hooks.handlers event,
    ∃ text, handler.action = .log text
  readable : ∀ layer ∈ machine.predefined.layers, ∀ entry ∈ layer.2, entry.2.IsReadable
  honest : ¬ machine.services.MakesFailures
  marks : machine.host.marks = none
  typed : ∀ text, .broken (.undecodable text) ∉ machine.console.replies

/-- The machine after hooks that only log have made the records, one of them each. -/
def Machine.recording (machine : Machine) (records : List EventRecord) : Machine :=
  { machine with
    events := records.reverse ++ machine.events
    console := machine.console.after records.length }

namespace Machine

variable {machine other : Machine}

theorem recording_nil (machine : Machine) : machine.recording [] = machine :=
  rfl

theorem recording_cons (machine : Machine) (detail : EventDetail) (text : String)
    (records : List EventRecord) :
    (machine.looked.recorded detail [text]).recording records =
      machine.recording (⟨text, detail⟩ :: records) := by
  simp only [recording, recorded, looked, List.map_cons, List.map_nil, List.reverse_cons,
    List.reverse_nil, List.nil_append, List.append_assoc]
  rfl

theorem callHandlers_log {handlers : List (Handler HookBehavior)}
    (calm : ∀ handler ∈ handlers, ∃ text, handler.action = .log text) (line : Nat)
    (detail : EventDetail) (sight : Sight) :
    machine.callHandlers line detail handlers =
      (machine.recording (handlers.flatMap fun handler =>
        (handler.action.hear sight).1.map (⟨·, detail⟩)), none) := by
  induction handlers generalizing machine with
  | nil => rfl
  | cons handler rest ih =>
      obtain ⟨text, logs⟩ := calm handler List.mem_cons_self
      have later := fun other member => calm other (List.mem_cons_of_mem handler member)
      rw [callHandlers, logs, List.flatMap_cons, logs]
      change callHandlers (machine.looked.recorded detail [text]) line detail rest = _
      rw [ih later, recording_cons]
      rfl

theorem Tame.announce (tame : machine.Tame) (line : Nat) (detail : EventDetail) :
    machine.announce line detail = (machine.recording (machine.records detail), none) :=
  callHandlers_log (tame.hooks detail.event) line detail machine.sight

/-- Hooks that only log do not look at the machine. -/
theorem Tame.records (tame : machine.Tame) (services : other.services = machine.services) :
    other.records = machine.records := by
  funext detail
  unfold Machine.records
  rw [services]
  refine List.flatMap_congr fun handler member => ?_
  obtain ⟨text, logs⟩ := tame.hooks detail.event handler member
  rw [logs]
  rfl

theorem Tame.halt_of_checkDepth (tame : machine.Tame) {depth line : Nat} {fault : Fault}
    {after : Machine} (refused : machine.checkDepth depth line = some (fault, after)) :
    fault = .halt Signal.abnormalCode ∧ after.events = machine.events := by
  cases checkDepth_some refused with
  | unlimited unset => exact absurd unset tame.maxDepth
  | deep limited deep => exact ⟨rfl, rfl⟩

theorem kept_recording (machine : Machine) (records : List EventRecord) :
    machine.Kept (machine.recording records) :=
  ⟨rfl, rfl, rfl, rfl, rfl, rfl, rfl, List.suffix_rfl⟩

theorem Tame.answers (tame : machine.Tame) {name : String} {behavior : VariableBehavior}
    (found : machine.predefined.lookup? name = some (.computed behavior)) (sight : Sight) :
    ∃ text, behavior.answer sight = .ok text := by
  obtain ⟨layer, member, entry⟩ := Layers.mem_of_lookup? found
  exact tame.readable layer member _ entry behavior rfl sight

theorem Tame.not_makesFailures (tame : machine.Tame) : ¬ machine.MakesFailures := by
  rintro (makes | ⟨name, behavior, found, sight, message, code, refused⟩)
  · exact tame.honest makes
  · obtain ⟨text, answered⟩ := tame.answers found sight
    cases answered.symm.trans refused

theorem Tame.not_denies (tame : machine.Tame) {exception : Exception} :
    ¬ machine.Denies exception := by
  rintro (⟨found, refused⟩ | typed | bounded)
  · obtain ⟨text, answered⟩ := tame.answers found _
    cases answered.symm.trans refused
  · exact tame.typed _ typed
  · exact bounded tame.marks

theorem Bare.tame (bare : machine.Bare) (maxDepth : machine.settings.maxDepth ≠ none)
    (maxArgs : machine.settings.maxArgs ≠ none) : machine.Tame where
  maxDepth := maxDepth
  maxArgs := maxArgs
  hooks event handler member := by
    rw [bare.services] at member
    cases member
  readable layer member entry listed behavior same :=
    absurd same (bare.predefined layer member entry listed behavior)
  honest := by
    rintro ⟨keyword, spec, listed, -⟩
    rw [bare.services] at listed
    cases listed
  marks := bare.marks
  typed := bare.typed

theorem Kept.tame {after : Machine} (kept : machine.Kept after) (tame : machine.Tame) :
    after.Tame where
  maxDepth := kept.settings ▸ tame.maxDepth
  maxArgs := kept.settings ▸ tame.maxArgs
  hooks := kept.services ▸ tame.hooks
  readable := kept.predefined ▸ tame.readable
  honest := kept.services ▸ tame.honest
  marks := kept.host ▸ tame.marks
  typed text typed := tame.typed text (kept.replies.subset typed)

theorem Tame.layers (tame : machine.Tame) (name : String) {names : List (String × Predefined)}
    (builtin : ∀ entry ∈ names, ∀ behavior, entry.2 ≠ .computed behavior) (enabled : Bool) :
    ∀ layer ∈ (if enabled then machine.predefined.push name names
      else machine.predefined.drop name).layers, ∀ entry ∈ layer.2, entry.2.IsReadable := by
  intro layer member
  have dropped : layer ∈ (machine.predefined.drop name).layers →
      ∀ entry ∈ layer.2, entry.2.IsReadable :=
    fun kept => tame.readable layer (List.mem_filter.mp kept).1
  cases enabled with
  | false => exact dropped member
  | true =>
      rcases List.mem_append.mp member with kept | added
      · exact dropped kept
      · rw [List.mem_singleton.mp added]
        exact fun entry listed behavior same => absurd same (builtin entry listed behavior)

theorem Tame.setExtended (tame : machine.Tame) (enabled : Bool) :
    (machine.setExtended enabled).Tame :=
  ⟨tame.maxDepth, tame.maxArgs, tame.hooks,
    tame.layers extendedLayer (by simp [Predefined.extended]) enabled, tame.honest, tame.marks,
    tame.typed⟩

theorem Tame.setGraphics (tame : machine.Tame) (enabled : Bool) :
    (machine.setGraphics enabled).Tame :=
  ⟨tame.maxDepth, tame.maxArgs, tame.hooks,
    tame.layers graphicsLayer (by simp [Predefined.graphics]) enabled, tame.honest, tame.marks,
    tame.typed⟩

theorem readable_initialPredefined {services : Services}
    (readable : ∀ entry ∈ services.predefined, ∀ sight, ∃ text, entry.2.answer sight = .ok text) :
    ∀ layer ∈ (initialPredefined services).layers, ∀ entry ∈ layer.2, entry.2.IsReadable := by
  have base : ∀ entry ∈ Predefined.base, entry.2.IsReadable := by
    simp [Predefined.base, Predefined.IsReadable]
  have added : ∀ entry ∈ Predefined.added services, entry.2.IsReadable := by
    rintro entry member behavior same
    obtain ⟨original, listed, rfl⟩ := List.mem_map.mp member
    cases same
    exact readable original listed
  intro layer member
  unfold initialPredefined at member
  dsimp only at member
  split at member
  · rw [List.mem_singleton.mp member]
    exact base
  · rcases List.mem_append.mp member with kept | top
    · rw [List.mem_singleton.mp (List.mem_filter.mp kept).1]
      exact base
    · rw [List.mem_singleton.mp top]
      exact added

theorem tame_ofSetup {setup : Setup} (built : ofSetup setup = .ok machine)
    (maxDepth : setup.settings.maxDepth ≠ none) (maxArgs : setup.settings.maxArgs ≠ none)
    (hooks : ∀ entry ∈ setup.services.hooks.events, ∀ handler ∈ entry.2,
      ∃ text, handler.action = .log text)
    (readable : ∀ entry ∈ setup.services.predefined, ∀ sight, ∃ text,
      entry.2.answer sight = .ok text)
    (honest : ∀ entry ∈ setup.services.instructions.entries, ¬ entry.2.action.MakesFailures)
    (marks : setup.host.marks = none)
    (typed : ∀ text, .broken (.undecodable text) ∉ setup.replies) : machine.Tame := by
  obtain ⟨-, fresh, starts, rfl⟩ := ofSetup_ok built
  refine Tame.setGraphics (Tame.setExtended
    ⟨starts.settings ▸ maxDepth, starts.settings ▸ maxArgs, ?_, ?_, ?_, starts.host ▸ marks,
      starts.replies ▸ typed⟩ _) _
  · intro event handler member
    rw [starts.services] at member
    unfold HookRegistry.handlers at member
    cases listed : setup.services.hooks.events.lookup event with
    | none =>
        rw [listed] at member
        cases member
    | some handlers =>
        rw [listed] at member
        exact hooks _ (mem_of_lookup listed) handler member
  · rw [starts.predefined]
    exact readable_initialPredefined readable
  · rintro ⟨keyword, spec, listed, makes⟩
    rw [starts.services] at listed
    exact honest _ (mem_of_lookup listed) makes

theorem lasts_tame : Lasts Tame where
  kept kept tame := kept.tame tame
  directive line text tame := by
    have reported {switched : Machine} (tame : switched.Tame) (note : Note) :
        (switched.report line note).Tame := (kept_report _ _ _).tame tame
    unfold Directive.apply
    split
    · exact reported (tame.setExtended true) _
    · exact reported (tame.setExtended false) _
    · exact reported (tame.setGraphics true) _
    · exact reported (tame.setGraphics false) _
    · exact reported tame _
  frames _ tame := ⟨tame.maxDepth, tame.maxArgs, tame.hooks, tame.readable, tame.honest, tame.marks,
    tame.typed⟩

end Machine

/-! ## One step -/

namespace State

def nextLine? (script : Script) (state : State) : Option Line :=
  match state.control, (state.scope.frame.cursor.read script).text with
  | .running, some text =>
      if LineText.isInstruction text then
        some (.ofText (state.scope.frame.cursor.read script).line text)
      else none
  | _, _ => none

def workLine (script : Script) (state : State) : Nat :=
  match state.control with
  | .running => (state.scope.frame.cursor.read script).line
  | .leaving _ => state.acting.cursor.line

/-- The state with its acting frame at the line where it works, after the hooks have been told about
a line that is to be executed. -/
structure Ready (script : Script) (state ready : State) : Prop where
  kept : state.scope.machine.Kept ready.scope.machine
  log : ready.scope.machine.log = state.scope.machine.log
  events : ready.scope.machine.events =
    ((state.nextLine? script).toList.flatMap fun line =>
      state.scope.machine.records line.detail).reverse ++ state.scope.machine.events
  line : ready.scope.frame.cursor.line = state.workLine script
  entry : ready.scope.frame.entry = state.acting.entry
  suspended : ready.suspended = state.waiting

variable {script : Script} {state : State} {text : String}

theorem nextLine?_instruction (running : state.control = .running)
    (found : script.line? (state.scope.frame.cursor.line + 1) = some text)
    (executed : LineText.isInstruction text = true) :
    state.nextLine? script = some (.ofText (state.scope.frame.cursor.line + 1) text) := by
  unfold nextLine?
  rw [running, read_line found]
  exact if_pos executed

theorem nextLine?_other (running : state.control = .running)
    (found : script.line? (state.scope.frame.cursor.line + 1) = some text)
    (other : LineText.isInstruction text = false) : state.nextLine? script = none := by
  unfold nextLine?
  rw [running, read_line found]
  exact if_neg (by simp [other])

theorem nextLine?_end (last : script.lineCount ≤ state.scope.frame.cursor.line) :
    state.nextLine? script = none := by
  unfold nextLine?
  rw [read_end last]
  cases state.control <;> rfl

theorem nextLine?_leaving {signal : Signal} (leaving : state.control = .leaving signal) :
    state.nextLine? script = none := by
  unfold nextLine?
  rw [leaving]

theorem acting_running (running : state.control = .running) :
    state.acting = state.scope.frame := by
  rw [acting, running]

theorem ready_moveTo (running : state.control = .running)
    (quiet : state.nextLine? script = none) :
    state.Ready script (state.moveTo (state.scope.frame.cursor.read script)) where
  kept := .refl _
  log := rfl
  events := by
    rw [quiet]
    rfl
  line := by
    rw [workLine, running]
    rfl
  entry := by
    rw [acting_running running]
    rfl
  suspended := by
    rw [waiting, running]
    rfl

theorem ready_below {signal : Signal} (leaving : state.control = .leaving signal)
    {waiting : Suspended} {rest : List Suspended} (waits : state.suspended = waiting :: rest) :
    state.Ready script (state.below waiting rest) where
  kept := .refl _
  log := rfl
  events := by
    rw [nextLine?_leaving leaving]
    rfl
  line := by
    rw [workLine, acting, leaving, waits]
    rfl
  entry := by
    rw [acting, leaving, waits]
    rfl
  suspended := by
    rw [State.waiting, leaving, waits]
    rfl

theorem machine_recorded (state : State) (text : String) :
    ∃ trace, (state.recorded text).scope.machine = { state.scope.machine with trace } := by
  unfold recorded record
  dsimp only
  split
  · exact ⟨_, rfl⟩
  · exact ⟨_, rfl⟩

theorem announced_tame (tame : state.scope.machine.Tame) (text : String) :
    ∃ trace, state.announced text =
      ({ state.scope.machine with trace }.recording (state.scope.machine.records
        (Line.ofText (state.scope.frame.cursor.line + 1) text).detail), none) := by
  obtain ⟨trace, recorded⟩ := state.machine_recorded text
  have kept : state.scope.machine.Kept { state.scope.machine with trace } :=
    ⟨rfl, rfl, rfl, rfl, rfl, rfl, rfl, List.suffix_rfl⟩
  refine ⟨trace, ?_⟩
  unfold announced
  dsimp only
  rw [recorded, (kept.tame tame).announce]
  rfl

theorem ready_told (tame : state.scope.machine.Tame) (running : state.control = .running)
    (found : script.line? (state.scope.frame.cursor.line + 1) = some text)
    (executed : LineText.isInstruction text = true) :
    (state.announced text).2 = none ∧ state.Ready script (state.told text) := by
  obtain ⟨trace, heard⟩ := announced_tame tame text
  have same := state.same_told text
  have machine : (state.told text).scope.machine = (state.announced text).1 := rfl
  rw [heard] at machine ⊢
  refine ⟨rfl, same.machine, ?_, ?_, ?_, ?_, ?_⟩
  · rw [machine]
    rfl
  · rw [machine, nextLine?_instruction running found executed, Option.toList_some,
      List.flatMap_cons, List.flatMap_nil, List.append_nil]
    rfl
  · rw [same.frame, workLine, running, read_line found]
    rfl
  · rw [same.frame, acting_running running]
    rfl
  · rw [same.suspended, waiting, running]
    rfl

theorem Hinders.not_tame {source : String} {exception : Exception}
    (hinders : state.Hinders script source exception) : ¬ state.scope.machine.Tame := by
  intro tame
  rcases hinders with unlimited | refuses
  · exact tame.maxArgs unlimited
  · obtain ⟨last, refused⟩ := refuses.refused
    have keeps : Keeps (fun _ => False) (Reference.resolveAll (LineText.pieces source)) :=
      Reference.keeps_resolveAll _
    have kept : state.scope.machine.Kept (state.told source).scope.machine :=
      (state.same_told source).machine
    rcases (keeps.raised refused).2.unread with impossible | own | own | denies
    · exact impossible
    · exact own
    · exact (kept.tame tame).not_denies denies

theorem step_ready (tame : state.scope.machine.Tame) (whole : state.oneLine = false) :
    (∃ signal, state.control = .leaving signal ∧
      state.step script = .stop (.finished (some signal)) state) ∨
    ∃ ready, state.Ready script ready ∧
      (state.step script).Tells script (fun _ => False) ready := by
  cases control : state.control with
  | leaving signal =>
      cases waits : state.suspended with
      | nil => exact .inl ⟨signal, rfl, (step_leaving control).trans (handOver_alone waits signal)⟩
      | cons waiting rest =>
          exact .inr ⟨_, ready_below control waits, tells_below control whole waits⟩
  | running =>
      right
      have steps : state.step script = state.advance script := step_running control whole
      cases state.advances script with
      | ends last advance =>
          refine ⟨_, ready_moveTo control (nextLine?_end last), ?_⟩
          rw [steps, advance, read_end last]
          exact Machine.Tells.refl _
      | executes found executed =>
          obtain ⟨silent, ready⟩ := ready_told tame control found executed
          have tells := tells_told control whole found executed silent
          exact ⟨_, ready, tells.weaken fun _ hinders => hinders.not_tame tame⟩
      | skips found other advance =>
          refine ⟨_, ready_moveTo control (nextLine?_other control found other), ?_⟩
          rw [steps, advance, read_line found]
          exact Machine.Tells.refl _
      | @directs text found other filled directive advance =>
          refine ⟨_, ready_moveTo control (nextLine?_other control found other), ?_⟩
          have tells := Directive.tells_apply script state.scope.machine
            (state.scope.frame.cursor.line + 1) text
          rw [steps, advance, read_line found]
          dsimp only [Step.Tells, onMachine, onLine, moveTo]
          exact tells

end State

/-! ## The beginning and the end of a program -/

namespace Program

variable {script : Script} {entry : String} {machine : Machine}

theorem closeFault_tame (tame : machine.Tame) (left : List Activation) (locals : Locals)
    (fault : Fault) :
    closeFault machine left locals fault =
      ⟨.error fault, { machine.recording ((closing (.error fault)).flatMap machine.records) with
        frames := left }, left, some locals⟩ := by
  unfold closeFault
  cases fault <;> simp [tame.announce, closing, Machine.recording_nil]

theorem closeSignal_tame (tame : machine.Tame) (locals : Locals) (signal : Signal) :
    closeSignal machine locals signal =
      ⟨.ok signal, machine.recording ((closing (.ok signal)).flatMap machine.records), [],
        some locals⟩ := by
  unfold closeSignal
  simp [tame.announce, closing]

theorem start_tame (tame : machine.Tame) {line : Nat}
    (found : script.entryLine? entry = some line) :
    let told := (machine.opened script line).recording (machine.records (.start entry))
    told.Tame ∧ start script entry machine =
      match told.checkDepth 0 0 with
      | some (fault, machine) => .ended (closeFault machine [] .empty fault)
      | none => .running ⟨⟨told, State.definitionFrame script entry [] line⟩, [], .running,
          .ground, false⟩ := by
  have tameOpened : (machine.opened script line).Tame :=
    Machine.lasts_tame.opened (Machine.lasts_tame.frames [] tame) script line
  have starts : start script entry machine = _ := start_found found
  rw [tameOpened.announce, tame.records (machine.follows_opened script line).services] at starts
  exact ⟨(Machine.kept_recording _ _).tame tameOpened, starts⟩

theorem Reaches.tame (tame : machine.Tame) {state : State}
    (reached : Reaches script entry machine state) : state.scope.machine.Tame :=
  Machine.lasts_tame.reaches tame reached

theorem Reaches.kept_stop {state last : State} (reached : Reaches script entry machine state)
    {ending : Ending} (stopped : state.step script = .stop ending last) :
    state.scope.machine.Kept last.scope.machine := by
  have passes := State.passes_step script reached.inPlace.whole
  rw [stopped] at passes
  exact passes.1

theorem Reaches.tame_stop (tame : machine.Tame) {state last : State}
    (reached : Reaches script entry machine state) {ending : Ending}
    (stopped : state.step script = .stop ending last) : last.scope.machine.Tame :=
  (reached.kept_stop stopped).tame (reached.tame tame)

theorem Reaches.defined {state : State} (reached : Reaches script entry machine state) :
    script.entryLine? state.acting.entry ≠ none := by
  have grounded := reached.inPlace.grounded
  unfold State.acting
  split
  · next waits =>
      rw [waits] at grounded
      exact grounded.2.2.proper.defined
  · exact grounded.proper.defined

/-- How a step stops on a tame machine, seen from the state that is ready for it. -/
inductive StopsTame (script : Script) (state ready last : State) : Fault → Prop where
  | reported (kind : FailureKind) (message : String) {code : Code} {before : Machine}
      (grave : code.endsRun = true)
      (said : ready.scope.machine.Tells script (state.workLine script) before)
      (report : last.scope.machine =
        before.report (state.workLine script) ⟨.error, message, code⟩)
      (line : last.scope.frame.cursor.line = state.workLine script) :
      StopsTame script state ready last (.failure (last.scope.failure kind message code))
  | halted (code : String)
      (said : ready.scope.machine.Tells script (state.workLine script) last.scope.machine) :
      StopsTame script state ready last (.halt code)
  | interrupted
      (said : ready.scope.machine.Tells script (state.workLine script) last.scope.machine)
      (interrupt : .interrupt ∈ state.scope.machine.console.replies) :
      StopsTame script state ready last .interrupted

theorem Reaches.stops (tame : machine.Tame) {state : State}
    (reached : Reaches script entry machine state) {ready last : State} {fault : Fault}
    (prepared : state.Ready script ready) (stops : ready.Stops script (fun _ => False) last fault) :
    StopsTame script state ready last fault := by
  have tameReady := prepared.kept.tame (reached.tame tame)
  cases stops with
  | reported kind message grave said report cursor =>
      rw [prepared.line] at said report
      have line := congrArg Cursor.line cursor
      exact .reported kind message grave said report (line.trans prepared.line)
  | early arises place => exact arises.elim
  | silent said unreported =>
      rw [prepared.line] at said
      cases unreported with
      | halted code => exact .halted code said
      | interrupted interrupt => exact .interrupted said (prepared.kept.replies.subset interrupt)
      | unlimited maxDepth => exact absurd maxDepth tameReady.maxDepth
      | foreign failure makes => exact absurd makes tameReady.not_makesFailures
      | undefined failure missing => exact absurd (prepared.entry ▸ missing) reached.defined

end Program

end LineScript
