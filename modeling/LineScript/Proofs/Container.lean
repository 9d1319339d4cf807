import LineScript.Proofs.Block.Line
import LineScript.Proofs.Dispatch

/-!
Taking items from the stack and from the queue. The item is taken before anybody asks whether there
is a variable for it. So no item is lost as long as the variable exists; otherwise the item is
dropped, and all that remains of it is a message that the variable is unknown.
-/

namespace LineScript

open LineScript.Action

namespace Scope

variable {scope : Scope} {name : String}

theorem setVariable_declared (declared : scope.frame.locals.has name = true) (value : String) :
    scope.setVariable name value = (true, scope.assign name value) :=
  if_pos declared

theorem setVariable_undeclared (undeclared : scope.frame.locals.has name = false)
    (value : String) :
    scope.setVariable name value = (false, scope.report (unknownVariable name)) :=
  if_neg (Bool.eq_false_iff.mp undeclared)

end Scope

/-- What holds items that can be taken into a variable. -/
inductive Container where
  | stack
  | queue
deriving DecidableEq, Repr

namespace Container

def keyword : Container → String
  | stack => "POP"
  | queue => "QPOP"

def taking : Container → Instruction
  | stack => .pop
  | queue => .dequeue

def items (container : Container) (machine : Machine) : List String :=
  match container with
  | stack => machine.stack.items
  | queue => machine.queue.toList

def emptyNote : Container → Note
  | stack => ⟨.error, "Stack was empty and could not be popped from.", .emptyContainer⟩
  | queue => ⟨.error, "Queue was empty and could not be dequeued from.", .emptyContainer⟩

def takeInto (container : Container) (name : String) : Action Unit :=
  match container with
  | stack => Effect.pop name
  | queue => Effect.dequeue name

def take? (container : Container) (machine : Machine) : Option (String × Machine) :=
  match container with
  | stack => machine.stack.pop?.map fun popped => (popped.1, { machine with stack := popped.2 })
  | queue => machine.queue.pop?.map fun popped => (popped.1, { machine with queue := popped.2 })

variable {container : Container} {machine rest : Machine} {value name : String} {scope : Scope}

theorem items_of_take? (taken : container.take? machine = some (value, rest)) :
    container.items machine = value :: container.items rest := by
  cases container with
  | stack =>
      obtain ⟨⟨top, below⟩, popped, same⟩ := Option.map_eq_some_iff.mp taken
      cases same
      have order : machine.stack.items = top :: below.items := by
        simpa [Stack.toList] using congrArg List.reverse (Stack.toList_of_pop? popped)
      exact order
  | queue =>
      obtain ⟨⟨first, others⟩, popped, same⟩ := Option.map_eq_some_iff.mp taken
      cases same
      exact Queue.toList_of_pop? popped

theorem log_of_take? (taken : container.take? machine = some (value, rest)) :
    rest.log = machine.log := by
  cases container <;>
    · obtain ⟨popped, -, same⟩ := Option.map_eq_some_iff.mp taken
      cases same
      rfl

theorem items_of_take?_none (none : container.take? machine = none) :
    container.items machine = [] := by
  cases container with
  | stack =>
      have empty := Option.map_eq_none_iff.mp none
      unfold Stack.pop? at empty
      split at empty
      · assumption
      · cases empty
  | queue =>
      have empty := Option.map_eq_none_iff.mp none
      unfold Queue.pop? at empty
      split at empty
      · cases empty
      · next front =>
          split at empty
          · cases empty
          · next back => rw [items, Queue.toList, front, back, List.nil_append]

theorem items_idle {before after : Machine} (idle : before.Idle after) :
    container.items after = container.items before := by
  cases container with
  | stack => exact congrArg Stack.items idle.stack
  | queue => exact congrArg Queue.toList idle.queue

theorem items_setVariable (scope : Scope) (name value : String) :
    container.items (scope.setVariable name value).2.machine = container.items scope.machine := by
  unfold Scope.setVariable
  split <;> cases container <;> rfl

def taken (container : Container) (scope : Scope) (name : String) : Scope :=
  match container.take? scope.machine with
  | some (value, machine) => (({ scope with machine } : Scope).setVariable name value).2
  | none => ((scope.report container.emptyNote).setVariable name nullText).2

theorem takeInto_eq (container : Container) (name : String) (scope : Scope) :
    container.takeInto name scope = .ok () (container.taken scope name) := by
  cases container with
  | stack =>
      change Effect.pop name scope = _
      unfold Effect.pop taken take?
      rw [get_bind]
      cases scope.machine.stack.pop? <;> rfl
  | queue =>
      change Effect.dequeue name scope = _
      unfold Effect.dequeue taken take?
      rw [get_bind]
      cases scope.machine.queue.pop? <;> rfl

theorem perform_taking {script : Script} {inBody : Bool} {number : Nat} {pieces : List Piece}
    (container : Container) (name : String) (more : List String) :
    container.taking.perform script inBody number pieces (name :: more) =
      Instruction.done (container.takeInto name) := by
  cases container <;> rfl

theorem knows_taking (container : Container) (machine : Machine) :
    machine.Knows container.keyword 1 (some 1) container.taking := by
  cases container with
  | stack =>
      exact ⟨"core", Machine.lookup?_core (by rfl : Instruction.core.get? "POP" = some
        ⟨_, _, _, _, _, _⟩)⟩
  | queue =>
      exact ⟨"core", Machine.lookup?_core (by rfl : Instruction.core.get? "QPOP" = some
        ⟨_, _, _, _, _, _⟩)⟩

/-- What becomes of the items with a line that takes one. -/
inductive Pops (container : Container) (line : Line) (before after : State) : Prop where
  | leaves (same : container.items after.scope.machine = container.items before.scope.machine)
      (why : before.OnlyReads after ∨ container.items before.scope.machine = [])
  | stores {name value : String} {scope : Scope}
      (read : Reference.resolveAll (piecesOf line.tokens) before.scope = .ok [name] scope)
      (declared : before.scope.frame.locals.has name = true)
      (taken : container.items before.scope.machine = value :: container.items after.scope.machine)
      (stored : after.scope.frame.locals = before.scope.frame.locals.insert name value)
  | drops {name value : String} {scope : Scope}
      (read : Reference.resolveAll (piecesOf line.tokens) before.scope = .ok [name] scope)
      (undeclared : before.scope.frame.locals.has name = false)
      (taken : container.items before.scope.machine = value :: container.items after.scope.machine)
      (kept : after.scope.frame.locals = before.scope.frame.locals)
      (told : after.scope.machine.log.newest =
        ⟨.error, before.scope.frame.cursor.line, s!"The variable {name} does not exist.", 12⟩ ::
          scope.machine.log.newest)

section Meets

variable {line : Line} {now : State} {spec : Spec Meaning} {args : List String}

theorem meets_taking (keyword : line.keyword = container.keyword)
    (met : now.Meets line spec args scope) :
    spec.action = .builtin container.taking ∧ ∃ name, args = [name] := by
  obtain ⟨origin, known⟩ := container.knows_taking scope.machine
  obtain rfl := Option.some.inj ((keyword ▸ met.found).symm.trans known)
  refine ⟨rfl, List.length_eq_one_iff.mp ?_⟩
  have supplied := met.supplied
  unfold Spec.arityProblem? at supplied
  dsimp only at supplied
  split_ifs at supplied
  omega

theorem pops_taken (met : now.Meets line spec [name] scope)
    (taken : container.take? scope.machine = some (value, machine)) :
    container.Pops line now
      { now with scope := (({ scope with machine } : Scope).setVariable name value).2 } := by
  let kept : Scope := { scope with machine }
  have items : container.items scope.machine = container.items now.scope.machine :=
    items_idle (met.alters.idle (by decide))
  have locals : scope.frame.locals = now.scope.frame.locals :=
    met.alters.others .locals (by simp)
  have cursor : scope.frame.cursor = now.scope.frame.cursor :=
    met.alters.others .cursor (by simp)
  have first : container.items now.scope.machine =
      value :: container.items (kept.setVariable name value).2.machine := by
    rw [items_setVariable, ← items]
    exact items_of_take? taken
  cases declared : now.scope.frame.locals.has name with
  | true =>
      have here : kept.frame.locals.has name = true := locals ▸ declared
      refine .stores met.resolved declared first ?_
      change (kept.setVariable name value).2.frame.locals = _
      rw [Scope.setVariable_declared here]
      exact congrArg (·.insert name value) locals
  | false =>
      have here : kept.frame.locals.has name = false := locals ▸ declared
      have dropped := Scope.setVariable_undeclared here value
      refine .drops met.resolved declared first ?_ ?_
      · change (kept.setVariable name value).2.frame.locals = _
        rw [dropped]
        exact locals
      · change (kept.setVariable name value).2.machine.log.newest = _
        rw [dropped, ← log_of_take? taken, ← cursor]
        rfl

end Meets

end Container

/-- The item that a line takes from the stack or from the queue is stored, unless there is no
variable for it. -/
theorem State.execute_pops (container : Container) (script : Script) (line : Line) (now : State)
    (keyword : line.keyword = container.keyword) :
    container.Pops line now (now.execute script line).state := by
  rcases meets_or_onlyReads script now line with ⟨spec, args, scope, met⟩ | reads
  · obtain ⟨taking, name, rfl⟩ := Container.meets_taking keyword met
    have executed : (now.execute script line).state =
        { now with scope := container.taken scope name } := by
      rw [met.execute]
      unfold performed
      rw [taking, Meaning.perform, Container.perform_taking, Instruction.done, bind_apply,
        Container.takeInto_eq]
      rfl
    rw [executed]
    unfold Container.taken
    cases taken : container.take? scope.machine with
    | none =>
        have items : container.items scope.machine = container.items now.scope.machine :=
          Container.items_idle (met.alters.idle (by decide))
        have none := items.symm.trans (Container.items_of_take?_none taken)
        exact .leaves ((Container.items_setVariable _ _ _).trans items) (.inr none)
    | some found => exact Container.pops_taken met taken
  · exact .leaves (Container.items_idle reads.idle) (.inl reads)

def State.itemsExample : State :=
  { scope := ⟨{ Machine.plainExample with stack := ⟨["a"]⟩, queue := ⟨["b"], []⟩ },
      ⟨"main", [], .ofList [("x", "0")], .start⟩⟩
    suspended := []
    control := .running
    floor := .ground
    oneLine := false }

theorem State.execute_pops_queueExample :
    (Line.ofText 1 "qpop x").keyword = Container.queue.keyword ∧
      Container.queue.Pops (.ofText 1 "qpop x") itemsExample
        (itemsExample.execute (.ofLines "<string>" []) (.ofText 1 "qpop x")).state := by
  have keyword : (Line.ofText 1 "qpop x").keyword = Container.queue.keyword := by decide +kernel
  exact ⟨keyword, execute_pops .queue _ _ _ keyword⟩

/-- Without a variable for it, the item is neither stored nor left where it was. -/
theorem State.not_execute_stores :
    ¬ ∀ (container : Container) (script : Script) (line : Line) (now : State),
      line.keyword = container.keyword →
        (∃ name value scope,
          Reference.resolveAll (piecesOf line.tokens) now.scope = .ok [name] scope ∧
            container.items now.scope.machine =
              value :: container.items (now.execute script line).state.scope.machine ∧
            (now.execute script line).state.scope.frame.locals.get? name = some value) ∨
          container.items (now.execute script line).state.scope.machine =
            container.items now.scope.machine := by
  intro claimed
  let last := itemsExample.execute (.ofLines "<string>" []) (.ofText 1 "POP y")
  have locals : last.state.scope.frame.locals = .ofList [("x", "0")] := by decide +kernel
  have items : Container.stack.items last.state.scope.machine = [] := by decide +kernel
  rcases claimed .stack (.ofLines "<string>" []) (.ofText 1 "POP y") itemsExample
      (by decide +kernel) with ⟨name, value, scope, read, taken, stored⟩ | same
  · change last.state.scope.frame.locals.get? name = some value at stored
    rw [locals] at stored
    have entry : (name, value) ∈ [("x", "0")] := mem_of_lookup stored
    have old : value = "0" := (Prod.mk.inj (List.mem_singleton.mp entry)).2
    have top : "a" = value := (List.cons.inj taken).1
    exact absurd (top.trans old) (by decide)
  · exact absurd (items.symm.trans same) (by decide +kernel)

end LineScript
