import LineScript.Machine.Basic

/-!
What an instruction sees and changes: the machine, and the frame in which it is executed. An
instruction that ends early keeps the changes made so far.
-/

namespace LineScript

structure Scope where
  machine : Machine
  frame : Frame

namespace Scope

def report (scope : Scope) (note : Note) : Scope :=
  { scope with machine := scope.machine.report scope.frame.cursor.line note }

def reportAll (scope : Scope) (notes : List Note) : Scope :=
  notes.foldl report scope

def unknownVariable (name : String) : Note :=
  ⟨.error, s!"The variable {name} does not exist.", .unknownVariable⟩

def getVariable (scope : Scope) (name : String) : String × Scope :=
  match scope.frame.locals.get? name with
  | some value => (value, scope)
  | none => (nullText, scope.report (unknownVariable name))

def assign (scope : Scope) (name value : String) : Scope :=
  { scope with frame := { scope.frame with locals := scope.frame.locals.insert name value } }

/-- Gives a variable a value; one that does not exist is reported. The flag says whether it
exists. -/
def setVariable (scope : Scope) (name value : String) : Bool × Scope :=
  if scope.frame.locals.has name then (true, scope.assign name value)
  else (false, scope.report (unknownVariable name))

/-- The inputs of an operation: the arguments after the destination, and if one is missing, the
value of the destination as the first one. -/
def operands (scope : Scope) (destination : String) (rest : List String) (count : Nat) :
    List String × Scope :=
  if count ≤ rest.length then (rest.take count, scope)
  else
    let (value, scope) := scope.getVariable destination
    (value :: rest.take (count - 1), scope)

def failure (scope : Scope) (kind : FailureKind) (message : String) (code : Code) : Failure :=
  ⟨kind, message, code.number, some scope.frame.cursor.line, some scope.frame.entry⟩

def reportFailure (scope : Scope) (message : String) (code : Code) : Scope :=
  scope.report ⟨.error, message, code⟩

end Scope

abbrev Action := EStateM Fault Scope

namespace Action

def onMachine (change : Machine → Machine) : Action Unit :=
  modify fun scope => { scope with machine := change scope.machine }

def onScope {α : Type} (change : Scope → α × Scope) : Action α :=
  modifyGet change

def report (level : Level) (text : String) (code : Code) : Action Unit :=
  modify fun scope => scope.report ⟨level, text, code⟩

def take {α : Type} (computed : Computed α) : Action α := do
  modify fun scope => scope.reportAll computed.notes
  return computed.value

def getVariable (name : String) : Action String :=
  onScope fun scope => scope.getVariable name

def setVariable (name value : String) : Action Unit :=
  modify fun scope => (scope.setVariable name value).2

def raise {α : Type} (exception : Exception) : Action α :=
  throw (.exception exception)

def fail {α : Type} (kind : FailureKind) (message : String) (code : Code) : Action α := do
  modify fun scope => scope.reportFailure message code
  throw (.failure ((← get).failure kind message code))

/-- Looks outside, and at the machine as far as code of extensions sees it. -/
def observe : Action Sight :=
  onScope fun scope => (scope.machine.sight, { scope with machine := scope.machine.looked })

def readLine (prompt : String) : Action String := do
  let answer ← onScope fun scope =>
    let (answer, machine) := scope.machine.readLine prompt
    (answer, { scope with machine })
  match answer with
  | .ok text => return text
  | .error cause => throw (.ofInterrupted cause)

def confirm (question : String) : Action Bool := do
  let answer ← onScope fun scope =>
    let (answer, machine) := scope.machine.confirm question
    (answer, { scope with machine })
  match answer with
  | .ok yes => return yes
  | .error cause => throw (.ofInterrupted cause)

end Action

end LineScript
