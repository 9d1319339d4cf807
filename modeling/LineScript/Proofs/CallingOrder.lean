import LineScript.Machine.Basic
import Mathlib.Data.List.Pairwise

/-!
The order in which hooks are called. Of the handlers that are registered for an event each one is
called, by descending priority and those of one priority in the order of their registration. It
makes no difference whether the handlers are sorted after every registration or once at the end.
-/

namespace LineScript

variable {α : Type}

namespace Handler

/-! ## Orders -/

def before (first second : Handler α) : Bool :=
  second.priority ≤ first.priority

theorem before_trans (first second third : Handler α) (early : first.before second = true)
    (late : second.before third = true) : first.before third = true := by
  rw [before, decide_eq_true_iff] at *
  exact Int.le_trans late early

theorem before_total (first second : Handler α) :
    (first.before second || second.before first) = true := by
  unfold before
  rw [Bool.or_eq_true, decide_eq_true_iff, decide_eq_true_iff]
  exact Int.le_total _ _

def Descending (handlers : List (Handler α)) : Prop :=
  handlers.Pairwise fun first second => first.before second = true

def ofPriority (priority : Int) (handlers : List (Handler α)) : List (Handler α) :=
  handlers.filter (·.priority == priority)

/-- The order in which registered handlers are called: each once for each registration, by
descending priority, and those of one priority in the order of their registration. -/
structure Ordered (registered ordered : List (Handler α)) : Prop where
  each : ordered.Perm registered
  descending : Descending ordered
  ties : ∀ priority, ofPriority priority ordered = ofPriority priority registered

variable {handler first second : Handler α} {handlers one other rest : List (Handler α)}

theorem ofPriority_descending (priority : Int) (handlers : List (Handler α)) :
    Descending (ofPriority priority handlers) := by
  have same (handler : Handler α) (member : handler ∈ ofPriority priority handlers) :
      handler.priority = priority := beq_iff_eq.mp (List.mem_filter.mp member).2
  refine List.pairwise_of_forall_mem_list fun first member second memberAgain => ?_
  rw [before, same first member, same second memberAgain]
  exact decide_eq_true (Int.le_refl priority)

theorem mem_ofPriority : handler ∈ ofPriority handler.priority handlers ↔ handler ∈ handlers := by
  simp [ofPriority]

theorem Descending.le_head (descending : Descending (first :: rest))
    (member : handler ∈ first :: rest) : handler.priority ≤ first.priority := by
  rcases List.mem_cons.mp member with rfl | later
  · exact Int.le_refl _
  · exact of_decide_eq_true ((List.pairwise_cons.mp descending).1 handler later)

theorem Descending.eq_of_ties (one_desc : Descending one) (other_desc : Descending other)
    (ties : ∀ priority, ofPriority priority one = ofPriority priority other) : one = other := by
  induction one generalizing other with
  | nil =>
      cases other with
      | nil => rfl
      | cons second rest =>
          have member := mem_ofPriority.mpr (List.mem_cons_self : second ∈ second :: rest)
          rw [← ties] at member
          cases member
  | cons first more ih =>
      cases other with
      | nil =>
          have member := mem_ofPriority.mpr (List.mem_cons_self : first ∈ first :: more)
          rw [ties] at member
          cases member
      | cons second rest =>
          have there := mem_ofPriority.mpr (List.mem_cons_self : first ∈ first :: more)
          have here := mem_ofPriority.mpr (List.mem_cons_self : second ∈ second :: rest)
          rw [ties, mem_ofPriority] at there
          rw [← ties, mem_ofPriority] at here
          -- Each head is in the other list too, so neither of the two has the lower priority.
          have level : second.priority = first.priority :=
            Int.le_antisymm (one_desc.le_head here) (other_desc.le_head there)
          have heads := ties first.priority
          rw [ofPriority, ofPriority, List.filter_cons_of_pos (by simp),
            List.filter_cons_of_pos (by simp [level])] at heads
          obtain rfl := (List.cons.inj heads).1
          refine congrArg _ (ih one_desc.of_cons other_desc.of_cons fun priority => ?_)
          have both := ties priority
          unfold ofPriority at both ⊢
          rw [List.filter_cons, List.filter_cons] at both
          split at both
          · exact (List.cons.inj both).2
          · exact both

theorem Ordered.unique (one_ordered : Ordered handlers one)
    (other_ordered : Ordered handlers other) : one = other :=
  one_ordered.descending.eq_of_ties other_ordered.descending fun priority =>
    (one_ordered.ties priority).trans (other_ordered.ties priority).symm

/-! ## Sorting -/

def sorted (handlers : List (Handler α)) : List (Handler α) :=
  handlers.mergeSort before

def resorted (handlers : List (Handler α)) (handler : Handler α) : List (Handler α) :=
  sorted (handlers ++ [handler])

theorem ordered_sorted (handlers : List (Handler α)) : Ordered handlers (sorted handlers) where
  each := handlers.mergeSort_perm before
  descending := List.pairwise_mergeSort before_trans before_total handlers
  ties priority := by
    -- Handlers of one priority are sorted already, so sorting keeps them in their order.
    have kept := List.sublist_mergeSort before_trans before_total
      (ofPriority_descending priority handlers) List.filter_sublist
    have filtered := kept.filter (·.priority == priority)
    have level := (handlers.mergeSort_perm before).filter (·.priority == priority)
    rw [ofPriority, List.filter_filter] at filtered
    simp only [Bool.and_self] at filtered
    exact (filtered.eq_of_length level.length_eq.symm).symm

theorem Ordered.resorted (ordered : Ordered handlers rest) (handler : Handler α) :
    Ordered (handlers ++ [handler]) (resorted rest handler) where
  each := (ordered_sorted _).each.trans (ordered.each.append_right _)
  descending := (ordered_sorted _).descending
  ties priority := by
    rw [Handler.resorted, (ordered_sorted _).ties, ofPriority, ofPriority, List.filter_append,
      List.filter_append]
    exact congrArg (· ++ _) (ordered.ties priority)

theorem ordered_nil : Ordered ([] : List (Handler α)) [] :=
  ⟨.refl _, .nil, fun _ => rfl⟩

theorem ordered_foldl_resorted (registered ordered later : List (Handler α))
    (start : Ordered registered ordered) :
    Ordered (registered ++ later) (later.foldl Handler.resorted ordered) := by
  induction later generalizing registered ordered with
  | nil => rwa [List.append_nil]
  | cons handler rest ih =>
      have all := ih _ _ (start.resorted handler)
      rwa [List.append_assoc] at all

end Handler

/-! ## Registrations -/

namespace HookRegistry

open Handler

variable {handler : Handler α} {handlers registered rest : List (Handler α)}

theorem insert_perm (handler : Handler α) (handlers : List (Handler α)) :
    (insert handler handlers).Perm (handlers ++ [handler]) := by
  induction handlers with
  | nil => exact .refl _
  | cons first rest ih =>
      rw [insert]
      split
      · exact ih.cons first
      · exact (List.perm_append_singleton handler (first :: rest)).symm

theorem descending_insert (descending : Descending handlers) (handler : Handler α) :
    Descending (insert handler handlers) := by
  induction handlers with
  | nil => exact List.pairwise_singleton _ _
  | cons first rest ih =>
      rw [insert]
      split
      · next later =>
          refine List.pairwise_cons.mpr ⟨fun other member => ?_, ih descending.of_cons⟩
          rcases List.mem_append.mp ((insert_perm handler rest).mem_iff.mp member) with old | new
          · exact (List.pairwise_cons.mp descending).1 other old
          · rw [List.mem_singleton.mp new]
            exact decide_eq_true later
      · next earlier =>
          refine List.pairwise_cons.mpr ⟨fun other member => decide_eq_true ?_, descending⟩
          have least := descending.le_head member
          omega

theorem ofPriority_insert (descending : Descending handlers) (handler : Handler α)
    (priority : Int) :
    ofPriority priority (insert handler handlers) =
      ofPriority priority (handlers ++ [handler]) := by
  induction handlers with
  | nil => rfl
  | cons first rest ih =>
      rw [insert]
      split
      · have below := ih descending.of_cons
        unfold ofPriority at below ⊢
        rw [List.cons_append, List.filter_cons, List.filter_cons, below]
      · next earlier =>
          unfold ofPriority
          rw [List.filter_cons, List.filter_append]
          by_cases level : handler.priority = priority
          · -- Nothing that stands behind the handler has its priority.
            have none : (first :: rest).filter (·.priority == priority) = [] := by
              refine List.filter_eq_nil_iff.mpr fun other member same => ?_
              have least := descending.le_head member
              have equal := beq_iff_eq.mp same
              omega
            rw [none]
            simp [level]
          · simp [level]

/-- Putting a handler behind all that have at least its priority keeps the order. -/
theorem ordered_insert (ordered : Ordered registered rest) (handler : Handler α) :
    Ordered (registered ++ [handler]) (insert handler rest) where
  each := (insert_perm handler rest).trans (ordered.each.append_right _)
  descending := descending_insert ordered.descending handler
  ties priority := by
    rw [ofPriority_insert ordered.descending, ofPriority, ofPriority, List.filter_append,
      List.filter_append]
    exact congrArg (· ++ _) (ordered.ties priority)

theorem lookup_addTo (event other : String) (handler : Handler α)
    (events : List (String × List (Handler α))) :
    ((addTo event handler events).lookup other).getD [] =
      if other = event then insert handler ((events.lookup event).getD [])
      else (events.lookup other).getD [] := by
  induction events with
  | nil =>
      by_cases same : other = event
      · simp [addTo, same, insert]
      · simp [addTo, List.lookup_cons, same, beq_eq_false_iff_ne.mpr same]
  | cons entry rest ih =>
      obtain ⟨name, handlers⟩ := entry
      rw [addTo]
      by_cases here : name = event
      · subst here
        by_cases same : other = name
        · simp [same]
        · simp [List.lookup_cons, same, beq_eq_false_iff_ne.mpr same]
      · have apart : (name == event) = false := beq_eq_false_iff_ne.mpr here
        rw [apart, if_neg Bool.false_ne_true]
        simp only [List.lookup_cons]
        split
        · next found =>
            have here_other : other = name := beq_iff_eq.mp found
            rw [if_neg fun same => here (here_other.symm.trans same)]
        · rw [beq_eq_false_iff_ne.mpr (Ne.symm here)]
          exact ih

theorem handlers_register (hooks : HookRegistry α) (event other : String) (handler : Handler α) :
    (hooks.register event handler).handlers other =
      if other = event then insert handler (hooks.handlers event) else hooks.handlers other :=
  lookup_addTo event other handler hooks.events

end HookRegistry

/-- The handler that one step of an extension registers for an event, if it registers one. -/
def Registration.handler? (extension event : String) :
    Registration → Option (Handler HookBehavior)
  | .hook name priority behavior =>
      if name = event then some ⟨priority, behavior, extension⟩ else none
  | _ => none

namespace Services

variable {services after : Services} {extension event : String} {step : Registration}
  {steps : List (String × Registration)}

def registerEach (services : Services) (steps : List (String × Registration)) :
    Except RegistrationFault Services :=
  steps.foldlM (fun services step => services.register step.1 true step.2) services

/-- The handlers that are registered for an event, in the order of their registration. -/
def registered (event : String) (steps : List (String × Registration)) :
    List (Handler HookBehavior) :=
  steps.filterMap fun step => step.2.handler? step.1 event

theorem ok_of_mapError {ε δ : Type} {value : Except ε α} {wrap : ε → δ} {result : α}
    (done : value.mapError wrap = .ok result) : value = .ok result := by
  cases value with
  | error fault => cases done
  | ok value =>
      cases done
      rfl

theorem hooks_of_addInstruction {name doc : String} {minArgs : Int} {maxArgs : Option Int}
    {behavior : InstructionBehavior}
    (added : services.addInstruction extension name minArgs maxArgs behavior doc = .ok after) :
    after.hooks = services.hooks := by
  unfold addInstruction at added
  split at added
  · cases added
  · dsimp only at added
    generalize services.instructions.register _ false = table at added
    cases table with
    | error refusal => cases added
    | ok instructions =>
        cases added
        rfl

theorem hooks_of_addVariable {name : String} {behavior : VariableBehavior}
    (added : services.addVariable name behavior = .ok after) : after.hooks = services.hooks := by
  unfold addVariable at added
  split at added
  · cases added
  · split at added
    · cases added
    · cases added
      rfl

theorem handlers_of_register (done : services.register extension true step = .ok after)
    (event : String) :
    after.hooks.handlers event = (step.handler? extension event).elim
      (services.hooks.handlers event)
      (HookRegistry.insert · (services.hooks.handlers event)) := by
  cases step with
  | hook name priority behavior =>
      cases done
      rw [HookRegistry.handlers_register, Registration.handler?]
      by_cases same : event = name
      · rw [if_pos same, if_pos same.symm, same]
        rfl
      · rw [if_neg same, if_neg (Ne.symm same)]
        rfl
  | metadata metadata =>
      cases done
      rfl
  | failure text => cases done
  | «instruction» name minArgs maxArgs behavior doc =>
      rw [hooks_of_addInstruction (ok_of_mapError done)]
      rfl
  | «variable» name behavior =>
      rw [hooks_of_addVariable (ok_of_mapError done)]
      rfl

theorem registerEach_cons (step : String × Registration) (rest : List (String × Registration)) :
    services.registerEach (step :: rest) =
      (services.register step.1 true step.2).bind (·.registerEach rest) :=
  List.foldlM_cons

theorem registered_cons (event : String) (step : String × Registration)
    (rest : List (String × Registration)) :
    registered event (step :: rest) =
      (step.2.handler? step.1 event).toList ++ registered event rest := by
  rw [registered, List.filterMap_cons]
  cases step.2.handler? step.1 event <;> rfl

theorem ordered_registerEach {earlier : List (Handler HookBehavior)}
    (ordered : Handler.Ordered earlier (services.hooks.handlers event))
    (done : services.registerEach steps = .ok after) :
    Handler.Ordered (earlier ++ registered event steps) (after.hooks.handlers event) := by
  induction steps generalizing services earlier with
  | nil =>
      cases done
      rwa [registered, List.filterMap_nil, List.append_nil]
  | cons step rest ih =>
      rw [registerEach_cons] at done
      cases first : services.register step.1 true step.2 with
      | error refusal =>
          rw [first] at done
          cases done
      | ok middle =>
          rw [first] at done
          have turn := handlers_of_register first event
          rw [registered_cons, ← List.append_assoc]
          cases added : step.2.handler? step.1 event with
          | none =>
              rw [added] at turn
              rw [Option.toList_none, List.append_nil]
              exact ih (turn ▸ ordered) done
          | some handler =>
              rw [added] at turn
              exact ih (turn ▸ HookRegistry.ordered_insert ordered handler) done

theorem registerEach_hooks (services : Services)
    (hooks : ∀ step ∈ steps, ∃ event priority behavior, step.2 = .hook event priority behavior) :
    ∃ after, services.registerEach steps = .ok after := by
  induction steps generalizing services with
  | nil => exact ⟨services, rfl⟩
  | cons step rest ih =>
      obtain ⟨event, priority, behavior, hook⟩ := hooks step List.mem_cons_self
      rw [registerEach_cons, hook]
      exact ih _ fun other member => hooks other (List.mem_cons_of_mem _ member)

end Services

/-! ## Calls -/

namespace Machine

/-- Calls one more handler, unless one before it has ended early. -/
def callNext (line : ℕ) (detail : EventDetail) :
    Machine × Option Fault → Handler HookBehavior → Machine × Option Fault
  | (machine, none), handler => machine.callHandlers line detail [handler]
  | (machine, some fault), _ => (machine, some fault)

theorem foldl_callNext_fault (machine : Machine) (line : ℕ) (detail : EventDetail) (fault : Fault)
    (handlers : List (Handler HookBehavior)) :
    handlers.foldl (callNext line detail) (machine, some fault) = (machine, some fault) := by
  induction handlers with
  | nil => rfl
  | cons handler rest ih => exact ih

theorem callHandlers_eq_foldl (machine : Machine) (line : ℕ) (detail : EventDetail)
    (handlers : List (Handler HookBehavior)) :
    machine.callHandlers line detail handlers =
      handlers.foldl (callNext line detail) (machine, none) := by
  induction handlers generalizing machine with
  | nil => rfl
  | cons handler rest ih =>
      rw [List.foldl_cons, callNext, callHandlers, callHandlers]
      cases (handler.action.hear machine.sight).2 with
      | none => exact ih _
      | some trouble => exact (foldl_callNext_fault ..).symm

end Machine

/-- After registrations of any extensions, the handlers of each event are called one after another
until one ends early: each once for each registration, by descending priority, and those of one
priority in the order of their registration. They would be the same if they were sorted once at the
end, or again after each registration. -/
theorem Services.calls_in_order (steps : List (String × Registration)) :
    (∀ services, empty.registerEach steps = .ok services → ∀ event,
      Handler.Ordered (registered event steps) (services.hooks.handlers event) ∧
      services.hooks.handlers event = Handler.sorted (registered event steps) ∧
      services.hooks.handlers event = (registered event steps).foldl Handler.resorted [] ∧
      ∀ machine : Machine, machine.services = services → ∀ line detail, detail.event = event →
        machine.announce line detail =
          (Handler.sorted (registered event steps)).foldl (Machine.callNext line detail)
            (machine, none)) ∧
    ((∀ step ∈ steps, ∃ event priority behavior, step.2 = .hook event priority behavior) →
      ∃ services, empty.registerEach steps = .ok services) := by
  refine ⟨fun services done event => ?_, empty.registerEach_hooks⟩
  have ordered : Handler.Ordered (registered event steps) (services.hooks.handlers event) :=
    ordered_registerEach Handler.ordered_nil done
  have once := ordered.unique (Handler.ordered_sorted _)
  have again := ordered.unique (Handler.ordered_foldl_resorted [] [] _ Handler.ordered_nil)
  refine ⟨ordered, once, again, fun machine held line detail same => ?_⟩
  rw [← once, ← same, ← held]
  exact machine.callHandlers_eq_foldl line detail _

def Services.tiesExample : List (String × Registration) :=
  [("first", .hook "program_start" 0 (.log "1")), ("second", .hook "program_start" 5 (.log "2")),
    ("first", .hook "program_start" (-3) (.log "3")), ("second", .hook "program_end" 9 (.log "4")),
    ("second", .hook "program_start" 0 (.log "5")), ("first", .hook "program_start" 5 (.log "6")),
    ("first", .hook "program_start" 0 (.halt "7"))]

theorem Services.calls_in_order_tiesExample :
    ∃ (services : Services) (machine : Machine), empty.registerEach tiesExample = .ok services ∧
      (∀ step ∈ tiesExample, ∃ event priority behavior, step.2 = .hook event priority behavior) ∧
      (Handler.sorted (registered "program_start" tiesExample)).map (·.action) =
        [.log "2", .log "6", .log "1", .log "5", .halt "7", .log "3"] ∧
      machine.services = services ∧
      (machine.announce 0 (.start "main")).1.events.map (·.text) = ["5", "1", "6", "2"] ∧
      (machine.announce 0 (.start "main")).2 = some (.halt "7") := by
  have hooks : ∀ step ∈ tiesExample,
      ∃ event priority behavior, step.2 = .hook event priority behavior := by simp [tiesExample]
  obtain ⟨services, done⟩ := (calls_in_order tiesExample).2 hooks
  obtain ⟨-, once, -, calls⟩ := (calls_in_order tiesExample).1 services done "program_start"
  cases done
  let setup : Machine.Setup :=
    { settings := ⟨some Settings.defaultDepth, some Settings.defaultArgs, false, false⟩
      services := .empty
      extended := false
      graphics := false
      seed := 0
      clock := Clock.ofSeconds 0 0
      wakes := false
      replies := []
      files := .ofDirectory "/" }
  obtain ⟨bare, built⟩ : ∃ bare, Machine.ofSetup setup = .ok bare := ⟨_, rfl⟩
  refine ⟨_, { bare with services := _ }, rfl, hooks, ?_, rfl, ?_, ?_⟩
  · rw [← once]
    rfl
  · rw [calls _ rfl 0 (.start "main") rfl, ← once]
    cases built
    rfl
  · rw [calls _ rfl 0 (.start "main") rfl, ← once]
    rfl

end LineScript
