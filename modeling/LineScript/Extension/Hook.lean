/-!
Hooks: handlers that are called at events of a run, in the order of their priorities.
-/

namespace LineScript

/-- A handler of an event with its priority and the extension that registered it. -/
structure Handler (α : Type) where
  priority : Int
  action : α
  extension : String
deriving Repr

/-- The handlers of each event, in calling order; events in the order of their first handler. -/
structure HookRegistry (α : Type) where
  events : List (String × List (Handler α))
deriving Repr, Inhabited

namespace HookRegistry

variable {α : Type}

def empty : HookRegistry α := ⟨[]⟩

def insert (handler : Handler α) : List (Handler α) → List (Handler α)
  | [] => [handler]
  | first :: rest =>
      if handler.priority ≤ first.priority then first :: insert handler rest
      else handler :: first :: rest

def addTo (event : String) (handler : Handler α) :
    List (String × List (Handler α)) → List (String × List (Handler α))
  | [] => [(event, [handler])]
  | entry :: rest =>
      if entry.1 == event then (event, insert handler entry.2) :: rest
      else entry :: addTo event handler rest

def register (hooks : HookRegistry α) (event : String) (handler : Handler α) : HookRegistry α :=
  ⟨addTo event handler hooks.events⟩

def handlers (hooks : HookRegistry α) (event : String) : List (Handler α) :=
  (hooks.events.lookup event).getD []

end HookRegistry

end LineScript
