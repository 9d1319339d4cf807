import Mathlib.Logic.Relation
import LineScript.CommandLine.Run
import LineScript.Proofs.Containment
import LineScript.Proofs.Telling

/-!
What becomes of a command line that is understood. It ends with a status of zero or one whatever the
program does, unless the script cannot be asked for or is no text, an extension fails before there
is a machine, an option has the separator in the place of its value, or an argument in the outermost
frame cannot be read.
-/

namespace LineScript

open LineScript.Action

/-! ## Faults that leave a program -/

namespace Program

variable {script : Script} {entry : String} {machine : Machine} {state : State}

/-- The faults with which a program can end. An exception needs a limit that is no number, or an
argument in the outermost frame that cannot be read. -/
inductive Leaves (script : Script) (entry : String) (machine : Machine) : Fault → Prop where
  | own {fault : Fault} (own : fault.IsOwn) : Leaves script entry machine fault
  | interrupted : Leaves script entry machine .interrupted
  | unlimited {exception : Exception} (unset : machine.settings.maxDepth = none ∨
      machine.settings.maxArgs = none) : Leaves script entry machine (.exception exception)
  | refused {state : State} {source : String} {exception : Exception}
      (reached : Reaches script entry machine state) (alone : state.suspended = [])
      (refuses : state.RefusesArgument script source exception) :
      Leaves script entry machine (.exception exception)

theorem leaves_of_stops {early : Exception → Prop} {now last : State} {fault : Fault}
    (stops : now.Stops script early last fault)
    (settings : now.scope.machine.settings = machine.settings)
    (arises : ∀ exception, early exception → now.suspended = [] →
      Leaves script entry machine (.exception exception)) : Leaves script entry machine fault := by
  cases stops with
  | reported kind message => exact .own trivial
  | silent said unreported =>
      cases unreported with
      | halted code => exact .own trivial
      | interrupted interrupt => exact .interrupted
      | unlimited maxDepth => exact .unlimited (.inl (settings ▸ maxDepth))
      | foreign failure makes => exact .own trivial
      | undefined failure missing => exact .own trivial
  | early known place =>
      rcases place with ⟨alone, rfl⟩ | ⟨failure, rfl⟩
      · exact arises _ known alone
      · exact .own trivial

theorem Reaches.leaves_of_hinders (reached : Reaches script entry machine state) {source : String}
    {exception : Exception} (hinders : state.Hinders script source exception)
    (alone : state.suspended = []) : Leaves script entry machine (.exception exception) := by
  rcases hinders with unlimited | refuses
  · exact .unlimited (.inr (reached.follows.settings ▸ unlimited))
  · exact .refused reached alone refuses

theorem Reaches.leaves (reached : Reaches script entry machine state) {fault : Fault} {last : State}
    (stopped : state.step script = .stop (.failed fault) last) :
    Leaves script entry machine fault := by
  have settings := reached.follows.settings
  have whole := reached.inPlace.whole
  cases control : state.control with
  | leaving signal =>
      cases waits : state.suspended with
      | nil =>
          rw [State.step_leaving control, State.handOver, waits] at stopped
          cases stopped
      | cons waiting rest =>
          have tells : (state.step script).Tells script (fun _ => False)
              (state.below waiting rest) := State.tells_below control whole waits
          rw [stopped] at tells
          obtain ⟨same, failed, stops⟩ := tells
          cases failed
          exact leaves_of_stops stops settings fun exception impossible => impossible.elim
  | running =>
      have steps : state.step script = state.advance script := State.step_running control whole
      cases state.advances script with
      | ends last advance => cases (steps.trans advance).symm.trans stopped
      | skips found other advance => cases (steps.trans advance).symm.trans stopped
      | directs found other filled directive advance =>
          cases (steps.trans advance).symm.trans stopped
      | @executes text found executed =>
          cases heard : (state.announced text).2 with
          | some other =>
              rw [steps, State.advance_refused found executed heard] at stopped
              cases stopped
              exact .own (Machine.isOwn_callHandlers heard)
          | none =>
              have tells := State.tells_told control whole found executed heard
              rw [stopped] at tells
              obtain ⟨same, failed, stops⟩ := tells
              cases failed
              have told := state.same_told text
              exact leaves_of_stops stops (told.machine.settings.trans settings)
                fun exception hinders alone =>
                  reached.leaves_of_hinders hinders (told.suspended.symm.trans alone)

theorem leaves_closeFault {final : Machine} {left : List Activation} {locals : Locals}
    {fault other : Fault} (leaves : Leaves script entry machine fault)
    (failed : (closeFault final left locals fault).result = .error other) :
    Leaves script entry machine other := by
  cases leaves with
  | own own => exact .own (contained_closeFault final left locals own _ failed)
  | interrupted =>
      cases failed
      exact .interrupted
  | unlimited unset =>
      cases failed
      exact .unlimited unset
  | refused reached alone refuses =>
      cases failed
      exact .refused reached alone refuses

theorem leaves_run {fuel : Nat} {run : ProgramRun} {fault : Fault}
    (ended : Program.run script entry machine fuel = some run) (failed : run.result = .error fault) :
    Leaves script entry machine fault := by
  cases concludes_of_run ended with
  | early started =>
      rcases ended_cases started with contained | ⟨unlimited, result⟩
      · exact .own (contained _ failed)
      · cases result.symm.trans failed
        exact .unlimited (.inl unlimited)
  | @late state last ending reached stopped =>
      cases ending with
      | finished signal => exact .own (contained_closeSignal _ _ _ _ failed)
      | failed other => exact leaves_closeFault (reached.leaves stopped) failed

end Program

/-! ## Loading extensions -/

theorem error_of_bind {ε α β : Type} {first : Except ε α} {next : α → Except ε β} {fault : ε}
    (failed : first >>= next = .error fault) :
    first = .error fault ∨ ∃ value, first = .ok value ∧ next value = .error fault := by
  cases first with
  | error other =>
      cases failed
      exact .inl rfl
  | ok value => exact .inr ⟨value, rfl, failed⟩

theorem ok_of_bind {ε α β : Type} {first : Except ε α} {next : α → Except ε β} {result : β}
    (done : first >>= next = .ok result) :
    ∃ value, first = .ok value ∧ next value = .ok result := by
  cases first with
  | error fault => cases done
  | ok value => exact ⟨value, rfl, done⟩

theorem error_of_mapError {ε δ α : Type} {value : Except ε α} {wrap : ε → δ} {fault : δ}
    (failed : value.mapError wrap = .error fault) :
    ∃ inner, value = .error inner ∧ fault = wrap inner := by
  cases value with
  | error inner =>
      cases failed
      exact ⟨inner, rfl, rfl⟩
  | ok value => cases failed

theorem error_of_foldlM {ε α β : Type} {next : β → α → Except ε β} {items : List α} {start : β}
    {fault : ε} (failed : items.foldlM next start = .error fault) :
    ∃ item ∈ items, ∃ before, next before item = .error fault := by
  induction items generalizing start with
  | nil => cases failed
  | cons item rest ih =>
      rw [List.foldlM_cons] at failed
      rcases error_of_bind failed with first | ⟨after, -, later⟩
      · exact ⟨item, List.mem_cons_self, start, first⟩
      · obtain ⟨other, member, raised⟩ := ih later
        exact ⟨other, List.mem_cons_of_mem item member, raised⟩

namespace Loading

variable {tree : FileTree} {fault : LoadFault}

theorem read_of_isFile {path : String} (file : tree.isFile path = true) :
    ∃ bytes, tree.read path = .ok bytes := by
  unfold FileTree.isFile at file
  split at file
  · cases file
  · split at file
    · next bytes found =>
        refine ⟨bytes, ?_⟩
        rw [FileTree.read, found]
        rfl
    · next content found =>
        refine ⟨ByteArray.empty, ?_⟩
        rw [FileTree.read, found]
        rfl
    · cases file

def Garbles (tree : FileTree) (path : String) (fault : Text.DecodeFault) : Prop :=
  ∃ bytes, tree.read path = .ok bytes ∧ Text.decodePortions bytes.data.toList = .error fault

/-- The file is a module that ends with an exception when it is imported or registered. -/
def Raises (tree : FileTree) (path text : String) : Prop :=
  tree.isFile path = true ∧ ((importFile tree path).failure = some text ∨
    ∃ steps, (importFile tree path).registrar = .registrations steps ∧ .failure text ∈ steps)

theorem readPointer_error {path : String} (failed : readPointer tree path = .error fault) :
    (∃ refusal, fault = .refused refusal) ∨
      ∃ reason, fault = .undecodable reason ∧ Garbles tree path reason := by
  unfold readPointer at failed
  by_cases file : tree.isFile path = true
  · obtain ⟨bytes, read⟩ := read_of_isFile file
    simp only [file, read] at failed
    rcases error_of_bind failed with garbled | ⟨chars, -, listed⟩
    · obtain ⟨reason, unclear, rfl⟩ := error_of_mapError garbled
      cases decoded : Text.decodePortions bytes.data.toList with
      | error other =>
          rw [Except.toOption, Option.getD_some, decoded] at unclear
          cases unclear
          exact .inr ⟨reason, rfl, bytes, read, decoded⟩
      | ok chars =>
          rw [Except.toOption, Option.getD_some, decoded] at unclear
          cases unclear
    · cases listed
  · simp only [file] at failed
    cases failed
    exact .inl ⟨_, rfl⟩

theorem gather_error {paths : List String} (failed : gather tree paths = .error fault) :
    (∃ refusal, fault = .refused refusal) ∨
      ∃ path ∈ paths, ∃ reason, fault = .undecodable reason ∧ Garbles tree path reason := by
  induction paths with
  | nil => cases failed
  | cons path rest ih =>
      have onward {first : List String}
          (failed : (do return first ++ (← gather tree rest)) = Except.error fault) :
          (∃ refusal, fault = .refused refusal) ∨ ∃ other ∈ path :: rest, ∃ reason,
            fault = .undecodable reason ∧ Garbles tree other reason := by
        rcases error_of_bind failed with later | ⟨more, -, done⟩
        · refine (ih later).imp_right ?_
          rintro ⟨other, member, garbles⟩
          exact ⟨other, List.mem_cons_of_mem path member, garbles⟩
        · cases done
      unfold gather at failed
      split at failed
      · rcases error_of_bind failed with first | ⟨paths, -, others⟩
        · refine (readPointer_error first).imp_right fun garbles => ?_
          exact ⟨path, List.mem_cons_self, garbles⟩
        · exact onward others
      · exact onward failed

theorem findModule_cases (tree : FileTree) (path : String) :
    (∃ refusal, findModule tree path = .error (.refused refusal)) ∨
      tree.isFile path = true ∧ findModule tree path =
        (importFile tree path).failure.elim (.ok (importFile tree path)) (.error <| .failed ·) := by
  unfold findModule
  by_cases file : tree.isFile path = true
  · by_cases loadable : Path.hasSuffix path moduleSuffix = true
    · refine .inr ⟨file, ?_⟩
      simp only [file, loadable]
      cases (importFile tree path).failure <;> rfl
    · simp only [file, loadable]
      exact .inl ⟨_, rfl⟩
  · simp only [file]
    exact .inl ⟨_, rfl⟩

theorem findModule_error {path : String} (failed : findModule tree path = .error fault) :
    (∃ refusal, fault = .refused refusal) ∨
      ∃ text, fault = .failed text ∧ Raises tree path text := by
  rcases findModule_cases tree path with ⟨refusal, refused⟩ | ⟨file, found⟩
  · cases refused.symm.trans failed
    exact .inl ⟨refusal, rfl⟩
  · rw [found] at failed
    cases raised : (importFile tree path).failure with
    | none =>
        rw [raised] at failed
        cases failed
    | some text =>
        rw [raised] at failed
        cases failed
        exact .inr ⟨text, rfl, file, .inl raised⟩

theorem importFile_of_findModule {path : String} {content : ModuleFile}
    (found : findModule tree path = .ok content) :
    tree.isFile path = true ∧ importFile tree path = content := by
  rcases findModule_cases tree path with ⟨refusal, refused⟩ | ⟨file, same⟩
  · cases refused.symm.trans found
  · rw [same] at found
    cases raised : (importFile tree path).failure with
    | none =>
        rw [raised] at found
        cases found
        exact ⟨file, rfl⟩
    | some text =>
        rw [raised] at found
        cases found

theorem failure_of_registerAll {services : Services} {extension text : String} {allowed : Bool}
    {steps : List Registration}
    (failed : services.registerAll extension allowed steps = .error (.failed text)) :
    .failure text ∈ steps := by
  obtain ⟨step, member, before, raised⟩ := error_of_foldlM failed
  cases step with
  | failure other =>
      cases raised
      exact member
  | metadata metadata => cases raised
  | «instruction» name minArgs maxArgs behavior doc =>
      obtain ⟨refusal, -, same⟩ := error_of_mapError raised
      cases same
  | «variable» name behavior =>
      obtain ⟨refusal, -, same⟩ := error_of_mapError raised
      cases same
  | hook event priority behavior =>
      obtain ⟨refusal, -, same⟩ := error_of_mapError raised
      cases same

theorem registerModule_error {services : Services} {path : String} {content : ModuleFile}
    (failed : registerModule services path content = .error fault) :
    (∃ refusal, fault = .refused refusal) ∨ ∃ text steps, fault = .failed text ∧
      content.registrar = .registrations steps ∧ .failure text ∈ steps := by
  unfold registerModule at failed
  dsimp only at failed
  cases registrar : content.registrar with
  | registrations steps =>
      rw [registrar] at failed
      -- Both ways to register end in the same list of steps.
      have registers {name : String}
          (failed : (services.registerAll name true steps).mapError LoadFault.ofRegistration =
            .error fault) : (∃ refusal, fault = .refused refusal) ∨ ∃ text others,
            fault = .failed text ∧ Registrar.registrations steps = .registrations others ∧
              .failure text ∈ others := by
        obtain ⟨inner, raised, rfl⟩ := error_of_mapError failed
        cases inner with
        | refused refusal => exact .inl ⟨refusal, rfl⟩
        | failed text => exact .inr ⟨text, steps, rfl, rfl, failure_of_registerAll raised⟩
      split at failed
      · split at failed
        · cases failed
          exact .inl ⟨_, rfl⟩
        · exact registers failed
      · exact registers failed
  | _ =>
      rw [registrar] at failed
      left
      split at failed
      · split at failed
        · cases failed
          exact ⟨_, rfl⟩
        · cases failed
          exact ⟨_, rfl⟩
      · cases failed
        exact ⟨_, rfl⟩

/-- Why extensions cannot be loaded, unless they are refused. -/
inductive Fails (tree : FileTree) (paths : List String) : LoadFault → Prop where
  | garbled {path : String} {reason : Text.DecodeFault} (listed : path ∈ paths)
      (garbles : Garbles tree path reason) : Fails tree paths (.undecodable reason)
  | raised {modules : List String} {path text : String}
      (gathered : gather tree paths = .ok modules) (listed : path ∈ modules)
      (raises : Raises tree path text) : Fails tree paths (.failed text)

theorem fails_of_gather {paths : List String} (failed : gather tree paths = .error fault) :
    (∃ refusal, fault = .refused refusal) ∨ Fails tree paths fault := by
  refine (gather_error failed).imp_right ?_
  rintro ⟨path, listed, reason, rfl, garbles⟩
  exact .garbled listed garbles

theorem fails_of_load {paths : List String} (failed : load tree paths = .error fault) :
    (∃ refusal, fault = .refused refusal) ∨ Fails tree paths fault := by
  unfold load at failed
  rcases error_of_bind failed with unlisted | ⟨modules, gathered, loaded⟩
  · exact fails_of_gather unlisted
  obtain ⟨path, listed, services, raised⟩ := error_of_foldlM loaded
  rcases error_of_bind raised with unfound | ⟨content, found, unregistered⟩
  · refine (findModule_error unfound).imp_right ?_
    rintro ⟨text, rfl, raises⟩
    exact .raised gathered listed raises
  · refine (registerModule_error unregistered).imp_right ?_
    rintro ⟨text, steps, rfl, registrar, member⟩
    obtain ⟨file, rfl⟩ := importFile_of_findModule found
    exact .raised gathered listed ⟨file, .inr ⟨steps, registrar, member⟩⟩

end Loading

/-! ## Command lines -/

namespace CommandLine

/-- An option has the separator in the place of a value that the program needs. -/
def Arguments.Lacks (arguments : Arguments) : Flag → Prop
  | .entry => arguments.entry = none
  | .logLevel => arguments.logLevel = none
  | .maxDepth => arguments.maxDepth = none
  | .maxArgs => arguments.maxArgs = none
  | .seed => arguments.seed = some none
  | .extension => none ∈ arguments.extensions
  | _ => False

/-- The script file that is given, or that a person names when asked for one. -/
def Arguments.Names (arguments : Arguments) (replies : List Reply) (path : String) : Prop :=
  arguments.sourceMode = false ∧ (arguments.program = some path ∨
    arguments.program = none ∧ ∃ text, replies.head? = some (.line text) ∧ Text.strip text = path)

def Job.Repeats (job : Job) (machine after : Machine) : Prop :=
  ∃ entry fuel run, job.arguments.entry = some entry ∧
    Program.run job.script entry machine fuel = some run ∧ job.conclude run = .ok after

/-- What keeps a command line from ending with a status. -/
inductive Escapes (texts : List String) (arguments : Arguments) (surroundings : Site) :
    Escape → Prop where
  | interrupted (asked : arguments.program = none) (mode : arguments.sourceMode = false)
      (interrupt : surroundings.console.replies.head? = some .interrupt) :
      Escapes texts arguments surroundings .interrupted
  /-- What a person types when asked for a script file is no text. -/
  | mistyped {text : String} (asked : arguments.program = none)
      (mode : arguments.sourceMode = false)
      (typed : surroundings.console.replies.head? = some (.broken (.undecodable text))) :
      Escapes texts arguments surroundings (.running (.exception (.refusedValue text)))
  | nullByte {path : String} (names : arguments.Names surroundings.console.replies path)
      (null : Path.hasNull path = true) : Escapes texts arguments surroundings .nullByte
  | undecodable {path : String} {bytes : ByteArray} {fault : Text.DecodeFault}
      (names : arguments.Names surroundings.console.replies path)
      (read : surroundings.files.read path = .ok bytes)
      (garbled : Text.decodeUtf8 bytes.data.toList = .error fault) :
      Escapes texts arguments surroundings (.undecodable fault)
  | loading {paths : List String} {fault : LoadFault}
      (listed : ∀ path ∈ paths, some path ∈ arguments.extensions)
      (fails : Loading.Fails surroundings.files paths fault) :
      Escapes texts arguments surroundings (.loading fault)
  | valueless {flag : Flag} (lacks : arguments.Lacks flag) :
      Escapes texts arguments surroundings (.valueless flag)
  | unlimited {exception : Exception}
      (lacks : arguments.Lacks .maxDepth ∨ arguments.Lacks .maxArgs) :
      Escapes texts arguments surroundings (.running (.exception exception))
  /-- An argument in the outermost frame cannot be read: a variable of an extension raises an
  exception, what is typed is no text, or the host cannot follow that many marks. -/
  | refused {job : Job} {first machine : Machine} {entry source : String} {exception : Exception}
      {state : State} (prepared : prepare texts surroundings = .ready job first)
      (repeated : Relation.ReflTransGen job.Repeats first machine)
      (named : arguments.entry = some entry)
      (reached : Program.Reaches job.script entry machine state) (alone : state.suspended = [])
      (refuses : state.RefusesArgument job.script source exception)
      (denies : state.scope.machine.Denies exception) :
      Escapes texts arguments surroundings (.running (.exception exception))

/-- The command line ends with a status of zero or one, or something keeps it from that. -/
def Concludes (texts : List String) (arguments : Arguments) (surroundings : Site)
    (outcome : Outcome) : Prop :=
  outcome = .exited 0 ∨ outcome = .exited 1 ∨
    ∃ cause, outcome = .escaped cause ∧ Escapes texts arguments surroundings cause

variable {texts : List String} {arguments : Arguments} {surroundings later : Site}

/-! ### Before the program runs -/

theorem eq_map_of_mapM {paths : List (Option String)} {all : List String}
    (given : paths.mapM id = some all) : paths = all.map some := by
  induction paths generalizing all with
  | nil =>
      cases given
      rfl
  | cons first rest ih =>
      rw [List.mapM_cons] at given
      cases first with
      | none => cases given
      | some path =>
          cases others : rest.mapM id with
          | none =>
              simp [others] at given
          | some later =>
              simp [others] at given
              rw [← given, List.map_cons, ih others]

theorem none_mem_of_mapM {paths : List (Option String)} (missing : paths.mapM id = none) :
    none ∈ paths := by
  induction paths with
  | nil => cases missing
  | cons first rest ih =>
      rw [List.mapM_cons] at missing
      cases first with
      | none => exact List.mem_cons_self
      | some path =>
          cases others : rest.mapM id with
          | none => exact List.mem_cons_of_mem _ (ih others)
          | some later => simp [others] at missing

theorem escapes_loadExtensions {cause : Escape}
    (failed : loadExtensions surroundings.files arguments.extensions = .error cause) :
    (∃ refusal, cause = .loading (.refused refusal)) ∨
      Escapes texts arguments surroundings cause := by
  unfold loadExtensions at failed
  split at failed
  · next paths given =>
      obtain ⟨fault, unloaded, rfl⟩ := error_of_mapError failed
      rcases Loading.fails_of_load unloaded with ⟨refusal, rfl⟩ | fails
      · exact .inl ⟨refusal, rfl⟩
      · have listed : ∀ path ∈ paths, some path ∈ arguments.extensions := by
          simp [eq_map_of_mapM given]
        exact .inr (.loading listed fails)
  · next missing =>
      rcases error_of_bind failed with unlisted | ⟨-, -, valueless⟩
      · obtain ⟨fault, ungathered, rfl⟩ := error_of_mapError unlisted
        rcases Loading.fails_of_gather ungathered with ⟨refusal, rfl⟩ | fails
        · exact .inl ⟨refusal, rfl⟩
        · refine .inr (.loading (fun path member => ?_) fails)
          obtain ⟨item, before, same⟩ := List.mem_filterMap.mp member
          cases same
          exact (List.takeWhile_prefix _).subset before
      · cases valueless
        exact .inr (.valueless (none_mem_of_mapM missing))

theorem escapes_buildMachine {cause : Escape} (files : later.files = surroundings.files)
    (failed : buildMachine arguments later = .error cause) :
    (∃ refusal, cause = .loading (.refused refusal)) ∨
      Escapes texts arguments surroundings cause := by
  unfold buildMachine at failed
  rw [files] at failed
  rcases error_of_bind failed with unloaded | ⟨services, -, built⟩
  · exact escapes_loadExtensions unloaded
  cases level : arguments.logLevel with
  | none =>
      simp only [level] at built
      cases built
      have lacks : arguments.Lacks .logLevel := level
      exact .inr (.valueless lacks)
  | some rank =>
      simp only [level] at built
      rcases error_of_bind built with seedless | ⟨seed, -, seeded⟩
      · right
        unfold seedOf at seedless
        split at seedless
        · cases seedless
        · cases seedless
        · next unset =>
            cases seedless
            have lacks : arguments.Lacks .seed := unset
            exact .valueless lacks
      · rcases error_of_bind seeded with refused | ⟨machine, -, done⟩
        · obtain ⟨refusal, -, rfl⟩ := error_of_mapError refused
          exact .inl ⟨refusal, rfl⟩
        · cases done

theorem settings_ofSetup {setup : Machine.Setup} {machine : Machine}
    (built : Machine.ofSetup setup = .ok machine) : machine.settings = setup.settings := by
  obtain ⟨-, fresh, starts, rfl⟩ := Machine.ofSetup_ok built
  exact starts.settings

theorem settings_buildMachine {machine : Machine}
    (built : buildMachine arguments surroundings = .ok machine) :
    machine.settings = settingsOf arguments := by
  unfold buildMachine at built
  obtain ⟨services, -, built⟩ := ok_of_bind built
  cases level : arguments.logLevel with
  | none =>
      simp only [level] at built
      cases built
  | some rank =>
      simp only [level] at built
      obtain ⟨seed, -, built⟩ := ok_of_bind built
      obtain ⟨plain, made, done⟩ := ok_of_bind built
      cases done
      cases setup : Machine.ofSetup _ with
      | error refusal =>
          rw [setup] at made
          cases made
      | ok machine =>
          rw [setup] at made
          cases made
          exact settings_ofSetup setup

def Prepares (texts : List String) (arguments : Arguments) (surroundings : Site) :
    Preparation → Prop
  | .ready job machine => job.arguments = arguments ∧ machine.settings = settingsOf arguments
  | .ended result => Concludes texts arguments surroundings result.outcome

theorem prepares_prepareMachine (files : later.files = surroundings.files) (script : Script) :
    Prepares texts arguments surroundings (prepareMachine arguments script later) := by
  unfold prepareMachine
  split
  · next machine built => exact ⟨rfl, settings_buildMachine built⟩
  · exact .inr (.inl rfl)
  · next cause refuses failed =>
      rcases escapes_buildMachine files failed with ⟨refusal, rfl⟩ | escapes
      · exact absurd rfl (refuses refusal)
      · exact .inr (.inr ⟨cause, rfl, escapes⟩)

theorem escapes_readScript {path : String} {cause : Escape}
    (names : arguments.Names surroundings.console.replies path)
    (failed : readScript surroundings.files path = .error (.escaped cause)) :
    Escapes texts arguments surroundings cause := by
  unfold readScript at failed
  split at failed
  · next null =>
      cases failed
      exact .nullByte names null
  · split at failed
    · cases failed
    · next bytes read =>
        split at failed
        · next garbled =>
            cases failed
            exact .undecodable names read garbled
        · cases failed

theorem prepares_prepareScript (files : later.files = surroundings.files) {program : String}
    (names : arguments.sourceMode = false →
      arguments.Names surroundings.console.replies program) :
    Prepares texts arguments surroundings (prepareScript arguments program later) := by
  unfold prepareScript
  by_cases mode : arguments.sourceMode = true
  · rw [if_pos mode]
    exact prepares_prepareMachine files _
  · rw [if_neg mode, files]
    have named := names (by simpa using mode)
    split
    · exact prepares_prepareMachine files _
    · exact .inr (.inl rfl)
    · next cause failed => exact .inr (.inr ⟨cause, rfl, escapes_readScript named failed⟩)

theorem prepares_prepare (accepted : Arguments.ofTexts texts = .ok arguments) :
    Prepares texts arguments surroundings (prepare texts surroundings) := by
  unfold prepare
  rw [accepted]
  dsimp only
  cases given : arguments.program with
  | some program => exact prepares_prepareScript rfl fun mode => ⟨mode, .inl given⟩
  | none =>
      dsimp only
      by_cases mode : arguments.sourceMode = true
      · rw [if_pos mode]
        exact .inr (.inl rfl)
      · rw [if_neg mode]
        have file : arguments.sourceMode = false := by simpa using mode
        unfold Console.readLine
        rcases replies : surroundings.console.replies with _ | ⟨text | _ | cause, rest⟩
        · exact .inl rfl
        · dsimp only [Except.map]
          split
          · exact .inl rfl
          · have named : surroundings.console.replies.head? = some (.line text) := by
              rw [replies, List.head?_cons]
            exact prepares_prepareScript (by rfl) fun mode => ⟨mode, .inr ⟨given, text, named, rfl⟩⟩
        · exact .inl rfl
        · have broken : surroundings.console.replies.head? = some (.broken cause) := by
            rw [replies, List.head?_cons]
          cases cause with
          | keyboard => exact .inr (.inr ⟨_, rfl, .interrupted given file broken⟩)
          | undecodable text => exact .inr (.inr ⟨_, rfl, .mistyped given file broken⟩)

/-! ### Rounds -/

theorem concludes_exit (job : Job) (machine : Machine) (value details : String) :
    Concludes texts arguments surroundings (job.exit machine value details).outcome := by
  unfold Job.exit Job.finish
  dsimp only
  split
  · exact .inr (.inl rfl)
  · exact .inl rfl

theorem concludes_conclude {job : Job} {run : ProgramRun} {result : Result}
    (ended : job.conclude run = .error result)
    (leaves : ∀ fault, run.result = .error fault → fault.IsOwn ∨ fault = .interrupted ∨
      Escapes texts arguments surroundings (.running fault)) :
    Concludes texts arguments surroundings result.outcome := by
  unfold Job.conclude at ended
  cases failed : run.result with
  | ok signal =>
      simp only [failed] at ended
      split at ended
      · cases ended
      · cases ended
        exact concludes_exit _ _ _ _
  | error fault =>
      have escapes (foreign : ¬ fault.IsOwn) (awake : fault ≠ .interrupted) :
          Escapes texts arguments surroundings (.running fault) :=
        ((leaves fault failed).resolve_left foreign).resolve_left awake
      simp only [failed] at ended
      cases fault with
      | halt code =>
          cases ended
          exact concludes_exit _ _ _ _
      | interrupted =>
          cases ended
          exact concludes_exit _ _ _ _
      | failure failure =>
          cases ended
          exact concludes_exit _ _ _ _
      | exception exception =>
          cases ended
          exact .inr (.inr ⟨_, rfl, escapes id nofun⟩)
      | unreadable text =>
          cases ended
          exact .inr (.inr ⟨_, rfl, escapes id nofun⟩)

theorem machine_conclude {job : Job} {run : ProgramRun} {after : Machine}
    (again : job.conclude run = .ok after) :
    after = run.machine ∧ job.arguments.loopMain = true := by
  unfold Job.conclude at again
  dsimp only at again
  split at again
  · next signal finished =>
      split at again
      · next repeats =>
          cases again
          refine ⟨rfl, ?_⟩
          unfold Job.repeats at repeats
          split at repeats
          · cases repeats
          · simp only [Bool.and_eq_true] at repeats
            exact repeats.1.1
      · cases again
  all_goals cases again

theorem settings_repeats {job : Job} {machine after : Machine}
    (again : job.Repeats machine after) : after.settings = machine.settings := by
  obtain ⟨entry, fuel, run, -, ended, concluded⟩ := again
  rw [(machine_conclude concluded).1]
  exact (Machine.lasts_settings machine.settings).run rfl ended

theorem settings_repeated {job : Job} {first machine : Machine}
    (repeated : Relation.ReflTransGen job.Repeats first machine) :
    machine.settings = first.settings := by
  induction repeated with
  | refl => rfl
  | tail repeated again ih => exact (settings_repeats again).trans ih

theorem rounds_unnamed {job : Job} (named : job.arguments.entry = none) (fuel count : Nat)
    (machine : Machine) : job.rounds fuel (count + 1) machine =
      some (job.finish machine (.escaped (.valueless .entry)) "" "") := by
  rw [Job.rounds, Job.begin, named]

theorem rounds_named {job : Job} {entry : String} (named : job.arguments.entry = some entry)
    (fuel count : Nat) (machine : Machine) : job.rounds fuel (count + 1) machine =
      (Program.run job.script entry machine fuel).bind fun run =>
        match job.conclude run with
        | .ok machine => job.rounds fuel count machine
        | .error result => some result := by
  rw [Job.rounds, Job.begin, named]
  dsimp only
  rw [Program.run]
  cases (Program.start job.script entry machine).finish job.script fuel <;> rfl

theorem escapes_round {job : Job} {first machine : Machine} {entry : String} {fuel : Nat}
    {run : ProgramRun} (prepared : prepare texts surroundings = .ready job first)
    (settings : first.settings = settingsOf arguments)
    (repeated : Relation.ReflTransGen job.Repeats first machine)
    (named : arguments.entry = some entry)
    (ran : Program.run job.script entry machine fuel = some run) {fault : Fault}
    (failed : run.result = .error fault) : fault.IsOwn ∨ fault = .interrupted ∨
      Escapes texts arguments surroundings (.running fault) := by
  cases Program.leaves_run ran failed with
  | own own => exact .inl own
  | interrupted => exact .inr (.inl rfl)
  | unlimited unset =>
      rw [(settings_repeated repeated).trans settings] at unset
      exact .inr (.inr (.unlimited unset))
  | refused reached alone refuses =>
      exact .inr (.inr (.refused prepared repeated named reached alone refuses refuses.denies))

theorem concludes_rounds {job : Job} {first machine : Machine} {fuel count : Nat} {result : Result}
    (prepared : prepare texts surroundings = .ready job first)
    (asked : job.arguments = arguments) (settings : first.settings = settingsOf arguments)
    (repeated : Relation.ReflTransGen job.Repeats first machine)
    (ended : job.rounds fuel count machine = some result) :
    Concludes texts arguments surroundings result.outcome := by
  induction count generalizing machine with
  | zero => cases ended
  | succ count ih =>
      cases named : job.arguments.entry with
      | none =>
          rw [rounds_unnamed named] at ended
          cases ended
          have lacks : arguments.Lacks .entry := asked ▸ named
          exact .inr (.inr ⟨_, rfl, .valueless lacks⟩)
      | some entry =>
          rw [rounds_named named] at ended
          obtain ⟨run, ran, rest⟩ := Option.bind_eq_some_iff.mp ended
          cases concluded : job.conclude run with
          | ok after =>
              rw [concluded] at rest
              exact ih (repeated.tail ⟨entry, fuel, run, named, ran, concluded⟩) rest
          | error last =>
              rw [concluded] at rest
              cases rest
              exact concludes_conclude concluded fun fault failed =>
                escapes_round prepared settings repeated (asked ▸ named) ran failed

theorem loops_of_rounds {job : Job} {machine : Machine} {fuel count : Nat}
    (endless : job.rounds fuel (count + 1) machine = none) :
    ∃ entry, job.arguments.entry = some entry ∧
      (job.arguments.loopMain = true ∨ Program.run job.script entry machine fuel = none) := by
  cases named : job.arguments.entry with
  | none =>
      rw [rounds_unnamed named] at endless
      cases endless
  | some entry =>
      refine ⟨entry, rfl, ?_⟩
      rw [rounds_named named] at endless
      cases ran : Program.run job.script entry machine fuel with
      | none => exact .inr rfl
      | some run =>
          rw [ran, Option.bind_some] at endless
          cases concluded : job.conclude run with
          | ok after => exact .inl (machine_conclude concluded).2
          | error last =>
              rw [concluded] at endless
              cases endless

/-! ### The whole command line -/

/-- What is known of a command line that has taken so many steps: it has ended with a status, or
something has kept it from that, or its program goes on. -/
inductive Reports (texts : List String) (arguments : Arguments) (surroundings : Site)
    (fuel : Nat) : Option Result → Prop where
  | ended {result : Result} (concludes : Concludes texts arguments surroundings result.outcome) :
      Reports texts arguments surroundings fuel (some result)
  | goesOn {job : Job} {machine : Machine} {entry : String}
      (prepared : prepare texts surroundings = .ready job machine)
      (named : arguments.entry = some entry)
      (endless : arguments.loopMain = true ∨ Program.run job.script entry machine fuel = none) :
      Reports texts arguments surroundings fuel none

def surroundingsExample : Site where
  files := (FileTree.ofDirectory "/home").put ["home", "a.mrt"] (.file ⟨#[255]⟩)
  console := .ofReplies [.interrupt]
  clock := Clock.ofSeconds 0 0
  seed := 0
  host := .usual

def askingExample : List String :=
  ["-source", "DEF main\nPRINT $_ask\nENDDEF"]

/-- A file that importing does not come through leaves no status either. -/
example :
    let tree := (FileTree.ofDirectory "/home").put ["home", "a.py"] (.file ⟨#[40]⟩)
    let imports (_ : String) (_ : ByteArray) : ModuleFile :=
      { ModuleFile.bare with failure := some "'(' was never closed" }
    (run ["-source", "DEF main", "--ext", "a.py"]
      { surroundingsExample with files := { tree with imports } } 1).map (·.outcome) =
        some (.escaped (.loading (.failed "'(' was never closed"))) := by
  decide +kernel

end CommandLine

end LineScript
