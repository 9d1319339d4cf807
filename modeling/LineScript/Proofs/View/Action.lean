import LineScript.Proofs.Guise.Action

/-!
A run seen in another way: the lines of its script have other numbers, its limits are greater, and
its messages come after others. What an instruction does is the same in every view, for it never
looks at the number of its line, at the limits or at the messages.
-/

namespace LineScript

structure View where
  line : Nat → Nat
  line_zero : line 0 = 0
  deeper : Nat
  wider : Nat
  messages : List Message
  trace : List LineRecord

namespace View

variable (view : View)

/-! ## What is seen -/

def settings (settings : Settings) : Settings :=
  { settings with
    maxDepth := settings.maxDepth.map (· + (view.deeper : Int))
    maxArgs := settings.maxArgs.map (· + (view.wider : Int)) }

/-- The line of a message; a number that is no line stays. -/
def place : Int → Int
  | .ofNat line => .ofNat (view.line line)
  | .negSucc line => .negSucc line

def message (message : Message) : Message :=
  { message with line := view.place message.line }

def record (record : LineRecord) : LineRecord :=
  { record with line := view.line record.line }

def cursor (cursor : Cursor) : Cursor :=
  { cursor with line := view.line cursor.line }

def frame (frame : Frame) : Frame :=
  { frame with cursor := view.cursor frame.cursor }

def activation (activation : Activation) : Activation :=
  { activation with frame := view.frame activation.frame }

def machine (machine : Machine) : Machine :=
  { machine with
    settings := view.settings machine.settings
    log := ⟨machine.log.newest.map view.message ++ view.messages⟩
    trace := machine.trace.map view.record ++ view.trace
    frames := machine.frames.map view.activation }

def scope (scope : Scope) : Scope :=
  ⟨view.machine scope.machine, view.frame scope.frame⟩

def failure (failure : Failure) : Failure :=
  { failure with line := failure.line.map view.line }

/-- A move backward is named by its lines and stays as it is: no run comes to one. -/
def fault : Fault → Fault
  | .failure failure => .failure (view.failure failure)
  | fault => fault

def result {α : Type} (change : α → α) : EStateM.Result Fault Scope α → EStateM.Result Fault Scope α
  | .ok value scope => .ok (change value) (view.scope scope)
  | .error fault scope => .error (view.fault fault) (view.scope scope)

theorem machine_report (machine : Machine) (line : Nat) (note : Note) :
    (view.machine machine).report (view.line line) note =
      view.machine (machine.report line note) :=
  rfl

/-! ## Actions that are the same in every view -/

def Carries {α : Type} (change : α → α) (first second : Action α) : Prop :=
  ∀ scope, second (view.scope scope) = view.result change (first scope)

def Uniform {α : Type} (action : Action α) : Prop :=
  view.Carries id action action

variable {view} {α β : Type}

theorem carries_pure {change : α → α} (value : α) :
    view.Carries change (pure value) (pure (change value)) :=
  fun _ => rfl

theorem carries_bind {changeFirst : α → α} {change : β → β} {first second : Action α}
    {next other : α → Action β} (carries : view.Carries changeFirst first second)
    (carriesNext : ∀ value, view.Carries change (next value) (other (changeFirst value))) :
    view.Carries change (first >>= next) (second >>= other) := by
  intro scope
  rw [Action.bind_apply, Action.bind_apply, carries scope]
  cases first scope with
  | ok value after => exact carriesNext value after
  | error fault after => rfl

/-! ## A view as a guise -/

variable (view) in
def guise : Guise where
  settings := view.settings
  log log := ⟨log.newest.map view.message ++ view.messages⟩
  trace trace := trace.map view.record ++ view.trace
  events := id
  cursor := view.cursor
  line := view.line
  line_cursor _ := rfl
  log_emit _ _ _ := rfl

variable (view) in
theorem result_guise (change : α → α) (result : EStateM.Result Fault Scope α) :
    view.guise.result change result = view.result change result := by
  cases result with
  | ok value scope => rfl
  | error fault scope => cases fault <;> rfl

theorem carries_of_guise {change : α → α} {first second : Action α}
    (carries : view.guise.Carries change first second) : view.Carries change first second :=
  fun scope => (carries scope).trans (view.result_guise change (first scope))

end View

end LineScript
