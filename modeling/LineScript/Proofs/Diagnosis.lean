import LineScript.Proofs.Names
import LineScript.Proofs.Tame

/-!
Where messages come from. A message says on which line the frame is that acts, except for one kind:
that a definition is missing is said without a line. A failure is reported once, as the last thing
that happens in a run, and the frames that it leaves show where it arose.
-/

namespace LineScript

open LineScript.Action

/-! ## The lines of messages -/

namespace Program

variable {script : Script} {entry : String} {machine : Machine} {state : State}

/-- A message of a step is about the line of the acting frame, or it is about a definition that is
missing and names no line. -/
def Located (script : Script) (state : State) (message : Message) : Prop :=
  message.line = state.workLine script ∨ message.Misses script

theorem located_of_tells {ready : State} {after : Machine} (prepared : state.Ready script ready)
    (said : ready.scope.machine.Tells script (state.workLine script) after) :
    state.scope.machine.log.Gains (Located script state) after.log := by
  have gains := said.log
  rw [prepared.log] at gains
  refine gains.weaken fun message known => known.imp_left ?_
  rintro ⟨note, -, rfl⟩
  rfl

/-- As long as extensions keep out of the way, every message is about the line that the innermost
frame is executing, but for those that say that a definition is missing. -/
theorem messages_located (tame : machine.Tame) (reached : Reaches script entry machine state) :
    state.scope.machine.log.Gains (Located script state)
      (state.step script).state.scope.machine.log := by
  rcases state.step_ready (reached.tame tame) reached.inPlace.whole with
    ⟨signal, -, stopped⟩ | ⟨ready, prepared, tells⟩
  · rw [stopped]
    exact .refl _
  cases stepped : state.step script with
  | next after =>
      rw [stepped] at tells
      exact located_of_tells prepared (prepared.line ▸ tells)
  | stop ending last =>
      rw [stepped] at tells
      obtain ⟨fault, -, stops⟩ := tells
      cases reached.stops tame prepared stops with
      | halted code said => exact located_of_tells prepared said
      | interrupted said => exact located_of_tells prepared said
      | reported kind message grave said report line =>
          refine (located_of_tells prepared said).trans ?_
          change Log.Gains _ _ last.scope.machine.log
          rw [report]
          exact .emit (.inl rfl)

def missingExample : Script :=
  .ofLines "" ["DEF main", "CALL nowhere", "ENDDEF"]

theorem tame_plainExample : Machine.plainExample.Tame :=
  Machine.plain_plainExample.toBare.tame (by simp [Machine.plainExample, Machine.setExtended])
    (by simp [Machine.plainExample, Machine.setExtended])

theorem messages_located_missingExample :
    ∃ state, Reaches missingExample "main" .plainExample state ∧
      state.scope.machine.log.Gains (Located missingExample state)
        (state.step missingExample).state.scope.machine.log := by
  have begun : (stateAfter? missingExample "main" .plainExample 0).isSome = true := by
    decide +kernel
  obtain ⟨state, found⟩ := Option.isSome_iff_exists.mp begun
  have reached := reaches_of_stateAfter? found
  exact ⟨state, reached, messages_located tame_plainExample reached⟩

/-- The call on the second line is reported on line zero. -/
theorem unlocated_missingExample :
    ¬ ∀ state, Reaches missingExample "main" .plainExample state →
      state.scope.machine.log.Gains (fun message => message.line = state.workLine missingExample)
        (state.step missingExample).state.scope.machine.log := by
  intro located
  have seen : (stateAfter? missingExample "main" .plainExample 0).map (fun state =>
      (state.workLine missingExample, state.scope.machine.log.newest,
        (state.step missingExample).state.scope.machine.log.newest)) =
      some (2, [], [⟨.error, 0, "Entry point 'nowhere' was not found.", 21⟩]) := by
    decide +kernel
  obtain ⟨state, found, same⟩ := Option.map_eq_some_iff.mp seen
  obtain ⟨line, before, after⟩ : _ ∧ _ ∧ _ := by simpa only [Prod.mk.injEq] using same
  obtain ⟨messages, split, about⟩ := located state (reaches_of_stateAfter? found)
  rw [before, after, List.append_nil] at split
  have zero := about _ (split ▸ List.mem_singleton.mpr rfl)
  rw [line] at zero
  cases zero

/-! ## The report of a failure -/

end Program

/-- An instruction of an extension can report the message by itself. -/
def Services.Voices (services : Services) (message : Message) : Prop :=
  ∃ note line, services.Reports note ∧ message = note.onLine line

def Failure.report (failure : Failure) (line : Nat) : Message :=
  ⟨.error, line, failure.message, failure.code⟩

namespace Program

/-- A failure that has ended a program was reported on the line, when the machine was as given. -/
structure Reports (script : Script) (entry : String) (machine : Machine) (run : ProgramRun)
    (failure : Failure) (line : Nat) (before : Machine) : Prop where
  known : failure.line = some line
  /-- No message before has the code, unless an instruction of an extension reports it by itself. -/
  first : machine.log.Gains
    (fun message => message.code = failure.code → machine.services.Voices message) before.log
  /-- After the report nothing happens but that hooks are told of the failure. -/
  last : ∃ records, (∀ record ∈ records, record.detail = .failure failure) ∧
    run.machine = { (before.emit (failure.report line)).recording records with frames := run.left }
  /-- The report is the end of the step with which the run stops; or the program has no
  definition and no frame at all. -/
  arises : (∃ state final, Reaches script entry machine state ∧
      state.step script = .stop (.failed (.failure failure)) final ∧
      final.scope.machine = before.emit (failure.report line) ∧ run.left = final.active) ∨
    (script.entryLine? entry = none ∧ before = machine ∧ run.left = [])
  /-- The innermost of the frames that are left is where the failure says that it arose. -/
  top : ∀ innermost, run.left.getLast? = some innermost →
    innermost.frame.cursor.line = line ∧ failure.entry = some innermost.frame.entry

end Program

/-- The code of the message is not kept for failures, or an instruction of an extension reports it
by itself. -/
def Services.Allows (services : Services) (message : Message) : Prop :=
  (∃ code : Code, code.endsRun = false ∧ message.code = code.number) ∨ services.Voices message

theorem Services.Allows.voices {services : Services} {message : Message}
    (allows : services.Allows message) {code : Code} (grave : code.endsRun = true)
    (same : message.code = code.number) : services.Voices message := by
  rcases allows with ⟨other, calm, number⟩ | voices
  · exact absurd (number.symm.trans same) (Code.number_ne calm grave)
  · exact voices

theorem Message.Speaks.allows {services : Services} {line : Int} {message : Message}
    (speaks : message.Speaks services.Reports line) : services.Allows message := by
  obtain ⟨note, known, rfl⟩ := speaks
  cases grave : note.code.endsRun with
  | true => exact .inr ⟨note, line, known grave, rfl⟩
  | false => exact .inl ⟨note.code, grave, rfl⟩

theorem Machine.Tells.allows {script : Script} {line : Nat} {before after : Machine}
    (tells : before.Tells script line after) :
    before.log.Gains before.services.Allows after.log := by
  refine tells.log.weaken fun message known => ?_
  rcases known with speaks | ⟨entry, -, rfl⟩
  · exact speaks.allows
  · exact .inl ⟨.entryPointNotFound, rfl, rfl⟩

theorem Directive.allows_applyLines (script : Script) (machine : Machine) (number : Nat)
    (texts : List String) :
    machine.log.Gains machine.services.Allows
      (Directive.applyLines machine number texts).log := by
  have both := applyLines_keeps (fun later => later.services = machine.services ∧
      machine.log.Gains machine.services.Allows later.log)
    (fun {later} line text ⟨services, gains⟩ =>
      have tells := tells_apply script later line text
      ⟨tells.services.trans services, gains.trans (services ▸ tells.allows)⟩)
    ⟨rfl, .refl machine.log⟩ number texts
  exact both.2

namespace State

variable {state : State}

theorem getLast_active (whole : state.oneLine = false) {innermost : Activation}
    (found : state.active.getLast? = some innermost) : innermost.frame = state.scope.frame := by
  rw [active, whole] at found
  change state.activations.getLast? = _ at found
  rw [activations, List.getLast?_reverse] at found
  cases waits : state.suspended with
  | nil =>
      rw [waits] at found
      cases found
      rfl
  | cons waiting rest =>
      rw [waits] at found
      cases found
      rfl

end State

namespace Program

variable {script : Script} {entry : String} {machine : Machine} {state : State}

theorem allows_of_running (tame : machine.Tame)
    (started : start script entry machine = .running state) :
    machine.log.Gains machine.services.Allows state.scope.machine.log := by
  obtain ⟨line, found, -⟩ := (starts_of_running started).found
  have above := Directive.allows_applyLines script machine.unwound 1
    (script.lines.toList.take (line - 1))
  rw [(start_tame tame found).2] at started
  split at started
  · cases started
  · cases started
    exact above

/-- Until a run stops, only extensions use the codes that are kept for failures. -/
theorem Reaches.allows (tame : machine.Tame) (reached : Reaches script entry machine state) :
    machine.log.Gains machine.services.Allows state.scope.machine.log := by
  induction reached with
  | start started => exact allows_of_running tame started
  | @step state after reached stepped ih =>
      refine ih.trans ?_
      rcases state.step_ready (reached.tame tame) reached.inPlace.whole with
        ⟨signal, -, stopped⟩ | ⟨ready, prepared, tells⟩
      · cases stopped.symm.trans stepped
      · rw [stepped] at tells
        have services := prepared.kept.services.trans reached.follows.services
        exact services ▸ prepared.log ▸ tells.allows

theorem Reaches.reports (tame : machine.Tame) (reached : Reaches script entry machine state)
    {failure : Failure} {final : State}
    (stopped : state.step script = .stop (.failed (.failure failure)) final) :
    ∃ line before, Reports script entry machine (close (.failed (.failure failure)) final) failure
      line before := by
  have transits := reached.transits
  rw [stopped] at transits
  have whole := transits.1.oneLine.trans reached.inPlace.whole
  rw [close, closeFault_tame (reached.tame_stop tame stopped)]
  rcases state.step_ready (reached.tame tame) reached.inPlace.whole with
    ⟨signal, -, other⟩ | ⟨ready, prepared, tells⟩
  · cases other.symm.trans stopped
  rw [stopped] at tells
  obtain ⟨fault, same, stops⟩ := tells
  cases same
  generalize failed : Fault.failure failure = fault at stops
  cases reached.stops tame prepared stops with
  | halted code said => cases failed
  | interrupted said interrupt => cases failed
  | @reported kind message code before grave said report line =>
      cases failed
      have services := prepared.kept.services.trans reached.follows.services
      have gains := (reached.allows tame).trans (services ▸ prepared.log ▸ said.allows)
      refine ⟨state.workLine script, before, {
        known := congrArg some line
        first := gains.weaken fun message allows same => allows.voices grave same
        last := ⟨final.scope.machine.records (.failure _), fun record member =>
          Machine.detail_of_mem_records member, ?_⟩
        arises := .inl ⟨state, final, reached, stopped, report, rfl⟩
        top := fun innermost found => ?_ }⟩
      · simp only [closing, List.flatMap_cons, List.flatMap_nil, List.append_nil]
        exact congrArg (fun machine : Machine =>
          { machine.recording (final.scope.machine.records _) with frames := final.active }) report
      · rw [State.getLast_active whole found]
        exact ⟨line, rfl⟩

/-- A program that does not come to its first frame fails only because its definition is missing. -/
theorem reports_of_ended (tame : machine.Tame) {early : ProgramRun} {failure : Failure}
    (started : start script entry machine = .ended early)
    (failed : early.result = .error (.failure failure)) :
    ∃ line before, Reports script entry machine early failure line before := by
  cases found : script.entryLine? entry with
  | none =>
      rw [start_missing found] at started
      cases started
      cases failed
      refine ⟨0, machine, {
        known := rfl
        first := .refl _
        last := ⟨[], nofun, rfl⟩
        arises := .inr ⟨found, rfl, rfl⟩
        top := fun innermost impossible => ?_ }⟩
      cases impossible
  | some line =>
      obtain ⟨tameOpened, starts⟩ := start_tame tame found
      rw [starts] at started
      split at started
      · next deep =>
          have tameDeep := (Machine.kept_checkDepth deep).tame tameOpened
          rw [closeFault_tame tameDeep] at started
          cases started
          rw [(tameOpened.halt_of_checkDepth deep).1] at failed
          cases failed
      · cases started

def failingExample : Script :=
  .ofLines "" ["[mode extended]", "DEF main", "FOR 2", "CALL inner a", "ENDF", "ENDDEF",
    "DEF inner", "SET nothing 1", "BOOM", "ENDDEF"]

def boomExample : Machine.Setup :=
  { settings := ⟨some Settings.defaultDepth, some Settings.defaultArgs, false, false⟩
    services := ⟨⟨[("BOOM", ⟨"BOOM", 0, none, .fail "no", "", "boom"⟩)], by decide +kernel⟩, [], [],
      .empty⟩
    extended := false
    graphics := false
    seed := 0
    clock := Clock.ofSeconds 0 0
    wakes := false
    replies := []
    files := .ofDirectory "/" }

end Program

end LineScript
