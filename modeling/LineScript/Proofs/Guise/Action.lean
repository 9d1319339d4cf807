import LineScript.Proofs.Action

/-!
What no action looks at. A guise of a scope has other limits, another log, other records and events,
and its frame is at another line; what an action does in a guise is what it does otherwise, in that
guise.
-/

namespace LineScript

/-- What a scope looks like when its limits, its messages, what has been recorded and told, and the
place of its frame are other ones. -/
structure Guise where
  settings : Settings → Settings
  log : Log → Log
  trace : List LineRecord → List LineRecord
  events : List EventRecord → List EventRecord
  cursor : Cursor → Cursor
  line : Nat → Nat
  line_cursor : ∀ seen : Cursor, (cursor seen).line = line seen.line
  log_emit : ∀ (earlier : Log) (note : Note) (number : Nat),
    log (earlier.emit (note.onLine number)) = (log earlier).emit (note.onLine (line number))

namespace Guise

variable (guise : Guise)

def frame (frame : Frame) : Frame :=
  { frame with cursor := guise.cursor frame.cursor }

def activation (activation : Activation) : Activation :=
  { activation with frame := guise.frame activation.frame }

def machine (machine : Machine) : Machine :=
  { machine with
    settings := guise.settings machine.settings
    log := guise.log machine.log
    trace := guise.trace machine.trace
    events := guise.events machine.events
    frames := machine.frames.map guise.activation }

def scope (scope : Scope) : Scope :=
  ⟨guise.machine scope.machine, guise.frame scope.frame⟩

def failure (failure : Failure) : Failure :=
  { failure with line := failure.line.map guise.line }

/-- A move backward is named by its lines and stays as it is: no run comes to one. -/
def fault : Fault → Fault
  | .failure failure => .failure (guise.failure failure)
  | fault => fault

def result {α : Type} (change : α → α) : EStateM.Result Fault Scope α → EStateM.Result Fault Scope α
  | .ok value scope => .ok (change value) (guise.scope scope)
  | .error fault scope => .error (guise.fault fault) (guise.scope scope)

theorem fault_ofInterrupted (cause : Interrupted) :
    guise.fault (.ofInterrupted cause) = .ofInterrupted cause := by
  cases cause <;> rfl

theorem fault_trouble (trouble : Trouble) : guise.fault trouble.fault = trouble.fault := by
  cases trouble <;> rfl

theorem machine_report (machine : Machine) (line : Nat) (note : Note) :
    (guise.machine machine).report (guise.line line) note =
      guise.machine (machine.report line note) :=
  congrArg (fun log => { guise.machine machine with log }) (guise.log_emit _ _ _).symm

theorem scope_report (scope : Scope) (note : Note) :
    (guise.scope scope).report note = guise.scope (scope.report note) := by
  have place : (guise.scope scope).frame.cursor.line = guise.line scope.frame.cursor.line :=
    guise.line_cursor _
  unfold Scope.report
  rw [place]
  exact congrArg (Scope.mk · (guise.frame scope.frame)) (guise.machine_report _ _ _)

theorem scope_reportAll (scope : Scope) (notes : List Note) :
    (guise.scope scope).reportAll notes = guise.scope (scope.reportAll notes) := by
  induction notes generalizing scope with
  | nil => rfl
  | cons note rest ih =>
      change ((guise.scope scope).report note).reportAll rest = _
      rw [scope_report]
      exact ih (scope.report note)

theorem scope_getVariable (scope : Scope) (name : String) :
    (guise.scope scope).getVariable name =
      ((scope.getVariable name).1, guise.scope (scope.getVariable name).2) := by
  have same : (guise.scope scope).frame.locals.get? name = scope.frame.locals.get? name := rfl
  unfold Scope.getVariable
  rw [same]
  cases scope.frame.locals.get? name with
  | some value => rfl
  | none => exact congrArg (nullText, ·) (guise.scope_report _ _)

theorem scope_setVariable (scope : Scope) (name value : String) :
    (guise.scope scope).setVariable name value =
      ((scope.setVariable name value).1, guise.scope (scope.setVariable name value).2) := by
  unfold Scope.setVariable
  rw [guise.scope_report]
  change (if scope.frame.locals.has name = true then (true, guise.scope (scope.assign name value))
    else (false, guise.scope (scope.report (Scope.unknownVariable name)))) = _
  split <;> rfl

theorem scope_operands (scope : Scope) (destination : String) (rest : List String) (count : Nat) :
    (guise.scope scope).operands destination rest count =
      ((scope.operands destination rest count).1,
        guise.scope (scope.operands destination rest count).2) := by
  unfold Scope.operands
  split
  · rfl
  · rw [scope_getVariable]

/-! ## Actions that are the same in every guise -/

def Carries {α : Type} (change : α → α) (first second : Action α) : Prop :=
  ∀ scope, second (guise.scope scope) = guise.result change (first scope)

def Uniform {α : Type} (action : Action α) : Prop :=
  guise.Carries id action action

variable {guise} {α β : Type}

theorem carries_pure {change : α → α} (value : α) :
    guise.Carries change (pure value) (pure (change value)) :=
  fun _ => rfl

theorem carries_bind {changeFirst : α → α} {change : β → β} {first second : Action α}
    {next other : α → Action β} (carries : guise.Carries changeFirst first second)
    (carriesNext : ∀ value, guise.Carries change (next value) (other (changeFirst value))) :
    guise.Carries change (first >>= next) (second >>= other) := by
  intro scope
  rw [Action.bind_apply, Action.bind_apply, carries scope]
  cases first scope with
  | ok value after => exact carriesNext value after
  | error fault after => rfl

theorem carries_get {change : α → α} {next other : Scope → Action α}
    (same : ∀ scope, other (guise.scope scope) = other scope)
    (carries : ∀ scope, guise.Carries change (next scope) (other scope)) :
    guise.Carries change (get >>= next) (get >>= other) := by
  intro scope
  change other (guise.scope scope) (guise.scope scope) = _
  rw [same scope]
  exact carries scope scope

theorem uniform_pure (value : α) : guise.Uniform (pure value : Action α) :=
  carries_pure value

theorem uniform_bind {first : Action α} {next : α → Action β} (uniform : guise.Uniform first)
    (uniformNext : ∀ value, guise.Uniform (next value)) : guise.Uniform (first >>= next) :=
  carries_bind uniform uniformNext

theorem uniform_get {next : Scope → Action α} (same : ∀ scope, next (guise.scope scope) = next scope)
    (uniform : ∀ scope, guise.Uniform (next scope)) : guise.Uniform (get >>= next) :=
  carries_get same uniform

theorem carries_throw {change : α → α} {fault : Fault} (same : guise.fault fault = fault) :
    guise.Carries change (throw fault) (throw fault) := by
  intro scope
  change EStateM.Result.error fault (guise.scope scope) = .error (guise.fault fault) (guise.scope scope)
  rw [same]

theorem uniform_throw {fault : Fault} (same : guise.fault fault = fault) :
    guise.Uniform (throw fault : Action α) :=
  carries_throw same

theorem uniform_modify {change : Scope → Scope}
    (same : ∀ scope, change (guise.scope scope) = guise.scope (change scope)) :
    guise.Uniform (modify change : Action Unit) := by
  intro scope
  change EStateM.Result.ok () (change (guise.scope scope)) = .ok () (guise.scope (change scope))
  rw [same]

theorem uniform_onScope {change : Scope → α × Scope}
    (same : ∀ scope, change (guise.scope scope) = ((change scope).1, guise.scope (change scope).2)) :
    guise.Uniform (Action.onScope change) := by
  intro scope
  change (match change (guise.scope scope) with
    | (value, after) => EStateM.Result.ok value after) =
    .ok (change scope).1 (guise.scope (change scope).2)
  rw [same]

theorem uniform_onMachine {change : Machine → Machine}
    (same : ∀ machine, change (guise.machine machine) = guise.machine (change machine)) :
    guise.Uniform (Action.onMachine change) :=
  uniform_modify fun scope => congrArg (Scope.mk · (guise.frame scope.frame)) (same scope.machine)

theorem uniform_report (level : Level) (text : String) (code : Code) :
    guise.Uniform (Action.report level text code) :=
  uniform_modify fun scope => guise.scope_report scope _

theorem uniform_take (computed : Computed α) : guise.Uniform (Action.take computed) :=
  uniform_bind (uniform_modify fun scope => guise.scope_reportAll scope computed.notes) fun _ =>
    uniform_pure _

theorem uniform_getVariable (name : String) : guise.Uniform (Action.getVariable name) :=
  uniform_onScope fun scope => guise.scope_getVariable scope name

theorem uniform_setVariable (name value : String) : guise.Uniform (Action.setVariable name value) :=
  uniform_modify fun scope => congrArg Prod.snd (guise.scope_setVariable scope name value)

theorem carries_raise {change : α → α} (exception : Exception) :
    guise.Carries change (Action.raise exception) (Action.raise exception) :=
  carries_throw rfl

theorem uniform_raise (exception : Exception) :
    guise.Uniform (Action.raise exception : Action α) :=
  carries_raise exception

theorem uniform_forM {action : α → Action Unit} (uniform : ∀ value, guise.Uniform (action value))
    (values : List α) : guise.Uniform (values.forM action) := by
  induction values with
  | nil => exact uniform_pure ()
  | cons value rest ih => exact uniform_bind (uniform value) fun _ => ih

theorem uniform_mapM {action : α → Action β} (uniform : ∀ value, guise.Uniform (action value))
    (values : List α) : guise.Uniform (values.mapM action) := by
  induction values with
  | nil => exact uniform_pure []
  | cons value rest ih =>
      rw [List.mapM_cons]
      exact uniform_bind (uniform value) fun _ => uniform_bind ih fun _ => uniform_pure _

theorem uniform_observe : guise.Uniform Action.observe :=
  uniform_onScope fun _ => rfl

theorem uniform_readLine (prompt : String) : guise.Uniform (Action.readLine prompt) := by
  refine uniform_bind (uniform_onScope fun scope => rfl) fun answer => ?_
  cases answer with
  | ok text => exact uniform_pure text
  | error cause => exact uniform_throw (guise.fault_ofInterrupted cause)

theorem uniform_confirm (question : String) : guise.Uniform (Action.confirm question) := by
  refine uniform_bind (uniform_onScope fun scope => rfl) fun answer => ?_
  cases answer with
  | ok yes => exact uniform_pure yes
  | error cause => exact uniform_throw (guise.fault_ofInterrupted cause)

end Guise

/-! ## References -/

namespace Reference

open LineScript.Guise

variable {guise : Guise}

theorem uniform_evalPredefined (meaning : Predefined) : guise.Uniform (evalPredefined meaning) := by
  cases meaning with
  | computed behavior =>
      refine uniform_bind uniform_observe fun sight => ?_
      split
      · exact uniform_pure _
      · exact uniform_throw (guise.fault_trouble _)
  | ask => exact uniform_readLine ""
  | promptedAsk => exact uniform_readLine "> "
  | confirmation => exact uniform_bind (uniform_confirm _) fun _ => uniform_pure _
  | _ => exact fun _ => rfl

theorem uniform_indexOf (text : String) : guise.Uniform (indexOf text) := by
  unfold indexOf
  split
  · exact uniform_pure _
  · exact uniform_bind (uniform_report _ _ _) fun _ => uniform_pure _

theorem uniform_cellAt (index : Int) : guise.Uniform (cellAt index) := by
  refine uniform_get (fun _ => rfl) fun scope => ?_
  dsimp only
  split
  · exact uniform_pure _
  · exact uniform_bind (uniform_report _ _ _) fun _ => uniform_pure _

theorem uniform_characterAt (text : String) (index : Int) :
    guise.Uniform (characterAt text index) := by
  unfold characterAt
  split
  · exact uniform_pure _
  · exact uniform_bind (uniform_report _ _ _) fun _ => uniform_pure _

theorem uniform_argumentAt (index : Int) : guise.Uniform (argumentAt index) := by
  refine uniform_get (fun _ => rfl) fun scope => ?_
  dsimp only
  split
  · exact uniform_pure _
  · exact uniform_bind (uniform_report _ _ _) fun _ => uniform_pure _

theorem uniform_eval (reference : Reference) : guise.Uniform reference.eval := by
  induction reference with
  | literal text => exact uniform_pure text
  | predefined name =>
      refine uniform_get (fun _ => rfl) fun scope => ?_
      split
      · exact uniform_evalPredefined _
      · exact uniform_pure _
  | named name => exact uniform_getVariable name
  | cell index ih =>
      refine uniform_bind ih fun _ => uniform_bind (uniform_indexOf _) fun found => ?_
      cases found with
      | some index => exact uniform_cellAt index
      | none => exact uniform_pure _
  | character index target ihIndex ihTarget =>
      refine uniform_bind ihIndex fun _ => uniform_bind (uniform_indexOf _) fun found => ?_
      refine uniform_bind ihTarget fun text => ?_
      cases found with
      | some index => exact uniform_characterAt text index
      | none => exact uniform_pure _
  | pointless text => exact uniform_bind (uniform_report _ _ _) fun _ => uniform_pure _
  | negation reference ih => exact uniform_bind ih fun _ => uniform_pure _
  | argument index ih =>
      refine uniform_bind ih fun _ => uniform_bind (uniform_indexOf _) fun found => ?_
      cases found with
      | some index => exact uniform_argumentAt index
      | none => exact uniform_pure _
  | exhausted => exact uniform_raise _

theorem uniform_read (text : String) : guise.Uniform (read text) :=
  uniform_get (fun _ => rfl) fun _ => uniform_eval _

theorem uniform_resolveAll (pieces : List Piece) : guise.Uniform (resolveAll pieces) := by
  refine uniform_mapM (fun piece => ?_) pieces
  unfold resolvePiece
  split
  · exact uniform_pure _
  · exact uniform_read _

end Reference

end LineScript
