import LineScript.Clock
import LineScript.Extension.Hook
import LineScript.Extension.Table
import LineScript.Fault
import LineScript.Locals
import LineScript.Store.Queue
import LineScript.Store.Stack

/-!
What extensions add to the language: instructions, predefined variables, hooks and a description of
themselves. An extension is a list of registrations, carried out in order.

The code of an extension is not known. Whenever it is called it looks outside once, and it answers
as any function of what it sees; since nothing is known of the moments at which it looks, it can
answer in a different way each time. What it is trusted with is said by the types of the answers: it
leaves the script, the frames and the lines in them to the interpreter, and starts a frame only when
it asks for a call at its end; it neither switches modes nor declares variables, and touches neither
the memory nor the canvas; and only an instruction complains that its arguments are unreadable.
-/

namespace LineScript

/-- What code of an extension sees of a running program. Whatever else it goes by, such as a state
of its own or the event that a hook is told of, is part of the moment. -/
structure Sight where
  moment : Moment
  extended : Bool
  graphics : Bool
  compareFlag : Bool
  returned : String
  memory : Memory
  stack : Stack
  queue : Queue

/-- What code of an extension raises: an exception with its text, or one of the two exceptions with
which the interpreter itself ends a run. -/
inductive Trouble where
  | exception (text : String)
  | halt (code : String)
  | failure (message : String) (code : Int)
deriving DecidableEq, Repr

namespace Trouble

def fault : Trouble → Fault
  | exception text => .exception (.refusedValue text)
  | halt code => .halt code
  | failure message code => .failure ⟨.general, message, code, none, none⟩

end Trouble

/-- What an instruction of an extension does to the program that it is part of. -/
inductive Deed where
  | write (text : String)
  | report (note : Note)
  | assign (name value : String)
  | keepStack (stack : Stack)
  | keepQueue (queue : Queue)
  | keepFlag (compareFlag : Bool)

/-- How an instruction of an extension ends. Like an instruction of the language it may call a
definition when everything else is done. -/
inductive Verdict where
  | done
  | returned (value : String)
  | broken (value : String)
  | continued (value : String)
  | calls (entry : String) (args : List String)
  | unreadable (text : String)
  | troubled (trouble : Trouble)
deriving DecidableEq, Repr

/-- The code of an instruction: what it does and how it ends, given the variables of the frame and
the arguments. -/
structure InstructionBehavior where
  respond : Sight → Locals → List String → List Deed × Verdict

namespace InstructionBehavior

def ofVerdict (verdict : List String → Verdict) : InstructionBehavior :=
  ⟨fun _ _ args => ([], verdict args)⟩

def noop : InstructionBehavior := ofVerdict fun _ => .done

def echo (text : String) : InstructionBehavior :=
  ⟨fun _ _ args => ([.write (text ++ "|".intercalate args ++ "\n")], .done)⟩

def fail (text : String) : InstructionBehavior := ofVerdict fun _ => .troubled (.exception text)

def halt (text : String) : InstructionBehavior := ofVerdict fun _ => .troubled (.halt text)

def parseError (text : String) : InstructionBehavior := ofVerdict fun _ => .unreadable text

def runtimeError (text : String) : InstructionBehavior :=
  ofVerdict fun _ => .troubled (.failure text 77)

/-- Gives the variable that the first argument names a value. -/
def assign (text : String) : InstructionBehavior where
  respond
    | _, _, destination :: _ => ([.assign destination text], .done)
    | _, _, [] => ([], .troubled (.exception Exception.missingArgument.message))

def push (text : String) : InstructionBehavior :=
  ⟨fun sight _ _ => ([.keepStack (sight.stack.push text)], .done)⟩

def returned : InstructionBehavior := ofVerdict fun args => .returned (args.headD nullText)

def broken : InstructionBehavior := ofVerdict fun args => .broken (args.headD nullText)

def continued : InstructionBehavior := ofVerdict fun args => .continued (args.headD nullText)

end InstructionBehavior

/-- The code of a predefined variable: it gives a text, or there is trouble. -/
structure VariableBehavior where
  answer : Sight → Except Trouble String

namespace VariableBehavior

def const (text : String) : VariableBehavior := ⟨fun _ => .ok text⟩

def stackSize : VariableBehavior := ⟨fun sight => .ok (toString sight.stack.size)⟩

def fail (text : String) : VariableBehavior := ⟨fun _ => .error (.exception text)⟩

end VariableBehavior

/-- The code of a hook: what it records of an event, and the trouble if there is any. -/
structure HookBehavior where
  hear : Sight → List String × Option Trouble

namespace HookBehavior

def log (text : String) : HookBehavior := ⟨fun _ => ([text], none)⟩

def fail (text : String) : HookBehavior := ⟨fun _ => ([], some (.exception text))⟩

def halt (text : String) : HookBehavior := ⟨fun _ => ([], some (.halt text))⟩

def runtimeError (text : String) : HookBehavior := ⟨fun _ => ([], some (.failure text 77))⟩

end HookBehavior

structure Metadata where
  name : String
  version : String
  requiresApi : Int
deriving DecidableEq, Repr

/-- One step in the registration of an extension. -/
inductive Registration where
  | instruction (name : String) (minArgs : Int) (maxArgs : Option Int)
      (behavior : InstructionBehavior) (doc : String)
  | variable (name : String) (behavior : VariableBehavior)
  | hook (event : String) (priority : Int) (behavior : HookBehavior)
  | metadata (metadata : Metadata)
  | failure (text : String)

/-- Everything that the extensions of a run have registered. -/
structure Services where
  instructions : InstructionTable InstructionBehavior
  predefined : List (String × VariableBehavior)
  metadata : List Metadata
  hooks : HookRegistry HookBehavior
deriving Inhabited

/-- Why the registration of an extension ends early. -/
inductive RegistrationFault where
  | refused (fault : ExtensionFault)
  | failed (text : String)
deriving DecidableEq, Repr

namespace Services

def empty : Services := ⟨.empty, [], [], .empty⟩

def addInstruction (services : Services) (extension name : String) (minArgs : Int)
    (maxArgs : Option Int) (behavior : InstructionBehavior) (doc : String) :
    Except ExtensionFault Services :=
  if name.isEmpty then .error .emptyInstructionName
  else
    let spec : Spec InstructionBehavior :=
      ⟨Text.upper name, minArgs, maxArgs, behavior, doc, extension⟩
    (services.instructions.register spec false).map fun instructions =>
      { services with instructions }

def hasMark (name : String) : Bool :=
  match name.toList with
  | [] => true
  | c :: _ => c == '$' || c == '_'

def addVariable (services : Services) (name : String) (behavior : VariableBehavior) :
    Except ExtensionFault Services :=
  if hasMark name then .error .markedVariableName
  else if services.predefined.any (·.1 == name) then .error (.variableDefined name)
  else .ok { services with predefined := services.predefined ++ [(name, behavior)] }

def addHook (services : Services) (extension : String) (hooksAllowed : Bool) (event : String)
    (priority : Int) (behavior : HookBehavior) : Except ExtensionFault Services :=
  if !hooksAllowed then .error (.hooksRefused extension)
  else .ok { services with
    hooks := services.hooks.register event ⟨priority, behavior, extension⟩ }

def register (services : Services) (extension : String) (hooksAllowed : Bool) :
    Registration → Except RegistrationFault Services
  | .instruction name minArgs maxArgs behavior doc =>
      (services.addInstruction extension name minArgs maxArgs behavior doc).mapError .refused
  | .variable name behavior => (services.addVariable name behavior).mapError .refused
  | .hook event priority behavior =>
      (services.addHook extension hooksAllowed event priority behavior).mapError .refused
  | .metadata metadata => .ok { services with metadata := services.metadata ++ [metadata] }
  | .failure text => .error (.failed text)

def registerAll (services : Services) (extension : String) (hooksAllowed : Bool)
    (registrations : List Registration) : Except RegistrationFault Services :=
  registrations.foldlM (fun services step => services.register extension hooksAllowed step)
    services

end Services

end LineScript
