import LineScript.Proofs.Caller
import LineScript.Proofs.Container
import LineScript.Proofs.Remark

/-!
Destinations: the variables that an instruction is to change. Apart from declarations and removals
no instruction changes which variables there are, and at most its destinations get other values. A
destination that does not exist is reported, unless the instruction fails before it comes to it.
-/

namespace LineScript

open LineScript.Action

namespace Locals

variable {chosen : List String} {first second third locals : Locals} {name : String}

/-- These are the same variables in the same order, and at most those of certain names have other
values. -/
structure Sets (chosen : List String) (before after : Locals) : Prop where
  names : after.names = before.names
  others : ∀ name, name ∉ chosen → after.get? name = before.get? name

theorem Sets.refl (locals : Locals) : locals.Sets chosen locals :=
  ⟨rfl, fun _ _ => rfl⟩

theorem Sets.trans (early : first.Sets chosen second) (late : second.Sets chosen third) :
    first.Sets chosen third :=
  ⟨late.names.trans early.names, fun name other =>
    (late.others name other).trans (early.others name other)⟩

theorem has_iff : locals.has name = true ↔ name ∈ locals.names := by
  unfold has get? Locals.names
  rw [List.lookup_isSome_iff, List.mem_map]
  exact exists_congr fun entry => and_congr_right fun _ => by rw [beq_iff_eq, eq_comm]

theorem Sets.has (sets : first.Sets chosen second) (name : String) :
    second.has name = first.has name := by
  rw [Bool.eq_iff_iff, has_iff, has_iff, sets.names]

theorem names_insert (declared : locals.has name = true) (value : String) :
    (locals.insert name value).names = locals.names := by
  obtain ⟨entries⟩ := locals
  rw [has_iff] at declared
  change (put name value entries).map Prod.fst = entries.map Prod.fst
  induction entries with
  | nil => cases declared
  | cons entry rest ih =>
      unfold put
      split
      · next same =>
          rw [List.map_cons, List.map_cons, beq_iff_eq.mp same]
      · next other =>
          have below : name ∈ rest.map Prod.fst :=
            (List.mem_cons.mp declared).resolve_left fun same => other (beq_iff_eq.mpr same.symm)
          rw [List.map_cons, List.map_cons, ih below]

theorem sets_insert (declared : locals.has name = true) (listed : name ∈ chosen)
    (value : String) : locals.Sets chosen (locals.insert name value) := by
  refine ⟨names_insert declared value, fun other apart => ?_⟩
  have different : (other == name) = false :=
    beq_eq_false_iff_ne.mpr fun same => apart (same ▸ listed)
  rw [get?_insert, different, if_neg Bool.false_ne_true]

end Locals

/-! ## Scopes -/

namespace Scope

variable {chosen : List String} {name : String} {first second third : Scope}

/-- The frame is at the same line, at most the variables of certain names have other values, and
messages have been added. -/
structure Stores (chosen : List String) (before after : Scope) : Prop where
  locals : before.frame.locals.Sets chosen after.frame.locals
  cursor : after.frame.cursor = before.frame.cursor
  log : before.machine.log.Gains (fun _ => True) after.machine.log

def Misses (name : String) (before after : Scope) : Prop :=
  ∃ messages, after.machine.log.newest = messages ++ before.machine.log.newest ∧
    (unknownVariable name).onLine before.frame.cursor.line ∈ messages

theorem Stores.refl (scope : Scope) : scope.Stores chosen scope :=
  ⟨.refl _, rfl, .refl _⟩

theorem Stores.trans (early : first.Stores chosen second) (late : second.Stores chosen third) :
    first.Stores chosen third :=
  ⟨early.locals.trans late.locals, late.cursor.trans early.cursor, early.log.trans late.log⟩

theorem Misses.later (misses : first.Misses name second) (stores : second.Stores chosen third) :
    first.Misses name third := by
  obtain ⟨messages, split, told⟩ := misses
  obtain ⟨more, grown, -⟩ := stores.log
  exact ⟨more ++ messages, by rw [grown, split, List.append_assoc],
    List.mem_append_right more told⟩

theorem Stores.misses (stores : first.Stores chosen second) (misses : second.Misses name third) :
    first.Misses name third := by
  obtain ⟨messages, split, told⟩ := misses
  obtain ⟨before, grown, -⟩ := stores.log
  rw [stores.cursor] at told
  exact ⟨messages ++ before, by rw [split, grown, List.append_assoc],
    List.mem_append_left before told⟩

theorem stores_report (scope : Scope) (note : Note) : scope.Stores chosen (scope.report note) :=
  ⟨.refl _, rfl, .emit trivial⟩

theorem reportAll_append (scope : Scope) (first second : List Note) :
    scope.reportAll (first ++ second) = (scope.reportAll first).reportAll second :=
  List.foldl_append

theorem stores_reportAll (scope : Scope) (notes : List Note) :
    scope.Stores chosen (scope.reportAll notes) := by
  induction notes generalizing scope with
  | nil => exact .refl scope
  | cons note rest ih => exact (scope.stores_report note).trans (ih _)

theorem stores_operands (scope : Scope) (destination : String) (rest : List String)
    (count : Nat) : scope.Stores chosen (scope.operands destination rest count).2 := by
  unfold operands getVariable
  split
  · exact .refl scope
  · dsimp only
    split
    · exact .refl scope
    · exact scope.stores_report _

theorem stores_setVariable (scope : Scope) (value : String) (listed : name ∈ chosen) :
    scope.Stores chosen (scope.setVariable name value).2 := by
  cases declared : scope.frame.locals.has name with
  | true =>
      rw [setVariable_declared declared]
      exact ⟨Locals.sets_insert declared listed value, rfl, .refl _⟩
  | false =>
      rw [setVariable_undeclared declared]
      exact ⟨.refl _, rfl, .emit trivial⟩

theorem misses_setVariable {scope : Scope} (undeclared : scope.frame.locals.has name = false)
    (value : String) : scope.Misses name (scope.setVariable name value).2 := by
  rw [setVariable_undeclared undeclared]
  exact ⟨[_], rfl, List.mem_singleton_self _⟩

end Scope

/-! ## Actions -/

namespace Action

variable {α β : Type} {chosen : List String} {name : String} {faults : Fault → Prop}

/-- The action changes at most the variables of certain names, and it ends early only with certain
faults. -/
structure Confined (chosen : List String) (faults : Fault → Prop) (action : Action α) : Prop where
  stores : Respects (Scope.Stores chosen) action
  fails : ∀ scope fault after, action scope = .error fault after → faults fault

/-- Moreover it does not come to an end without reporting the name, if there is no variable of the
name. -/
structure Delivers (name : String) (chosen : List String) (faults : Fault → Prop)
    (action : Action α) : Prop extends Confined chosen faults action where
  tells : ∀ scope value after, scope.frame.locals.has name = false →
    action scope = .ok value after → scope.Misses name after

theorem confined_of_ok {action : Action α} (stores : Respects (Scope.Stores chosen) action)
    (ends : ∀ scope, ∃ value after, action scope = .ok value after) :
    Confined chosen faults action := by
  refine ⟨stores, fun scope fault after failed => ?_⟩
  obtain ⟨value, last, result⟩ := ends scope
  cases result.symm.trans failed

theorem confined_pure (value : α) : Confined chosen faults (pure value : Action α) :=
  confined_of_ok (fun scope => .refl scope) fun _ => ⟨_, _, rfl⟩

theorem confined_bind {first : Action α} {next : α → Action β}
    (confined : Confined chosen faults first)
    (confinedNext : ∀ value, Confined chosen faults (next value)) :
    Confined chosen faults (first >>= next) := by
  refine ⟨respects_bind (fun _ _ _ => .trans) confined.stores fun value =>
    (confinedNext value).stores, ?_⟩
  intro scope fault after failed
  rw [bind_apply] at failed
  cases started : first scope with
  | error early middle =>
      rw [started] at failed
      cases failed
      exact confined.fails scope fault after started
  | ok value middle =>
      rw [started] at failed
      exact (confinedNext value).fails middle fault after failed

theorem confined_get {next : Scope → Action α}
    (confined : ∀ scope, Confined chosen faults (next scope)) :
    Confined chosen faults (get >>= next) :=
  ⟨respects_get fun scope => (confined scope).stores, fun scope => (confined scope).fails scope⟩

theorem confined_onScope {change : Scope → α × Scope}
    (stores : ∀ scope : Scope, scope.Stores chosen (change scope).2) :
    Confined chosen faults (onScope change) :=
  confined_of_ok stores fun _ => ⟨_, _, rfl⟩

theorem confined_report (level : Level) (text : String) (code : Code) :
    Confined chosen faults (report level text code) :=
  confined_of_ok (fun scope => scope.stores_report _) fun _ => ⟨_, _, rfl⟩

theorem confined_take (computed : Computed α) : Confined chosen faults (take computed) :=
  confined_of_ok (fun scope => scope.stores_reportAll computed.notes) fun _ => ⟨_, _, rfl⟩

theorem delivers_setVariable (value : String) (listed : name ∈ chosen) :
    Delivers name chosen faults (setVariable name value) where
  toConfined := confined_onScope fun scope => scope.stores_setVariable value listed
  tells scope _ after undeclared result := by
    cases result
    exact Scope.misses_setVariable undeclared value

theorem delivers_throw {fault : Fault} (allowed : faults fault) :
    Delivers name chosen faults (throw fault : Action α) where
  stores scope := .refl scope
  fails scope _ after failed := by
    cases failed
    exact allowed
  tells scope value after _ ended := by cases ended

theorem delivers_first {first : Action α} {next : α → Action β}
    (delivers : Delivers name chosen faults first)
    (confined : ∀ value, Confined chosen faults (next value)) :
    Delivers name chosen faults (first >>= next) where
  toConfined := confined_bind delivers.toConfined confined
  tells scope value after undeclared result := by
    obtain ⟨early, middle, started, ended⟩ := bind_ok result
    exact (delivers.tells scope early middle undeclared started).later
      ((confined early).stores.ok ended)

theorem delivers_next {first : Action α} {next : α → Action β}
    (confined : Confined chosen faults first)
    (delivers : ∀ value, Delivers name chosen faults (next value)) :
    Delivers name chosen faults (first >>= next) where
  toConfined := confined_bind confined fun value => (delivers value).toConfined
  tells scope value after undeclared result := by
    obtain ⟨early, middle, started, ended⟩ := bind_ok result
    -- There is still no variable of the name: what came first has not declared one.
    have stores := confined.stores.ok started
    refine stores.misses ((delivers early).tells middle value after ?_ ended)
    rw [stores.locals.has, undeclared]

theorem delivers_get {next : Scope → Action α}
    (delivers : ∀ scope, Delivers name chosen faults (next scope)) :
    Delivers name chosen faults (get >>= next) where
  toConfined := confined_get fun scope => (delivers scope).toConfined
  tells scope := (delivers scope).tells scope

end Action

/-! ## Effects -/

def Operation.Unusable (operation : Operation) (fault : Fault) : Prop :=
  operation = .countMatches ∧ ∃ pattern text reason,
    Pattern.countMatches pattern text = .error (.unusable reason) ∧
      fault = .exception (.limit reason)

theorem Operation.unusable_of_eval {operation : Operation} {inputs : List String}
    {reason : String} (failed : operation.eval inputs = .error reason) :
    operation.Unusable (.exception (.limit reason)) := by
  by_cases counts : operation = .countMatches
  · subst counts
    refine ⟨rfl, ?_⟩
    unfold eval at failed
    split at failed <;> try cases failed
    next text pattern same =>
      unfold countIn at failed
      split at failed
      · cases failed
      · next unusable =>
          cases failed
          exact ⟨_, _, _, unusable, rfl⟩
      · cases failed
  · obtain ⟨computed, evaluated⟩ := eval_ok counts inputs
    cases evaluated.symm.trans failed

namespace Effect

variable {chosen : List String} {destination name : String} {faults : Fault → Prop}

theorem delivers_operate (operation : Operation) (rest : List String)
    (listed : destination ∈ chosen) :
    Delivers destination chosen operation.Unusable (operate operation destination rest) := by
  refine delivers_next (confined_onScope fun scope => scope.stores_operands _ _ _) fun inputs => ?_
  split
  · exact delivers_next (confined_take _) fun _ => delivers_setVariable _ listed
  · next failed => exact delivers_throw (Operation.unusable_of_eval failed)

theorem confined_draw (low high : Int) : Confined chosen faults (onScope fun scope =>
    let (value, generator) := scope.machine.generator.between low high
    (value, { scope with machine := { scope.machine with generator } })) :=
  confined_onScope fun _ => ⟨.refl _, rfl, .refl _⟩

theorem delivers_random (low high : String) (listed : destination ∈ chosen) :
    Delivers destination chosen faults (random destination low high) := by
  refine delivers_next (confined_take _) fun low => delivers_next (confined_take _) fun high => ?_
  split
  · exact delivers_next (confined_report _ _ _) fun _ => delivers_setVariable _ listed
  · exact delivers_next (confined_draw low high) fun _ => delivers_setVariable _ listed

theorem delivers_rgbToHex (red green blue : String) (listed : destination ∈ chosen) :
    Delivers destination chosen faults (rgbToHex destination red green blue) :=
  delivers_next (confined_take _) fun _ => delivers_next (confined_take _) fun _ =>
    delivers_next (confined_take _) fun _ => delivers_setVariable _ listed

theorem colorOf_some {scope : Scope} {text : String} {color : Color}
    (read : Color.ofHex? text = some color) : colorOf text scope = .ok (some color) scope := by
  rw [colorOf, read]
  rfl

theorem colorOf_none {scope : Scope} {text : String} (unread : Color.ofHex? text = none) :
    colorOf text scope =
      .ok none (scope.report ⟨.error, s!"Malformed color '{text}'.", .malformedValue⟩) := by
  rw [colorOf, unread]
  rfl

theorem confined_colorOf (text : String) : Confined chosen faults (colorOf text) := by
  unfold colorOf
  split
  · exact confined_pure _
  · exact confined_bind (confined_report _ _ _) fun _ => confined_pure _

theorem delivers_hexToRgb (red green blue text : String) (listed : name ∈ [red, green, blue]) :
    Delivers name [red, green, blue] faults (hexToRgb red green blue text) := by
  have sets {other : String} (value : String) (listed : other ∈ [red, green, blue]) :
      Delivers other [red, green, blue] faults (setVariable other value) :=
    delivers_setVariable value listed
  have setsRed (value : String) := sets value (List.mem_cons_self : red ∈ [red, green, blue])
  have setsGreen (value : String) := sets value (by simp : green ∈ [red, green, blue])
  have setsBlue (value : String) := sets value (by simp : blue ∈ [red, green, blue])
  refine delivers_next (confined_colorOf text) fun color => ?_
  simp only [List.mem_cons, List.not_mem_nil, or_false] at listed
  rcases listed with rfl | rfl | rfl
  · exact delivers_first (setsRed _) fun _ =>
      confined_bind (setsGreen _).toConfined fun _ => (setsBlue _).toConfined
  · exact delivers_next (setsRed _).toConfined fun _ =>
      delivers_first (setsGreen _) fun _ => (setsBlue _).toConfined
  · exact delivers_next (setsRed _).toConfined fun _ =>
      delivers_next (setsGreen _).toConfined fun _ => setsBlue _

theorem confined_cellIndex (text : String) : Confined chosen faults (cellIndex text) := by
  unfold cellIndex
  split
  · exact confined_bind (confined_report _ _ _) fun _ => confined_pure _
  refine confined_get fun scope => ?_
  dsimp only
  split
  · exact confined_pure _
  · exact confined_bind (confined_report _ _ _) fun _ => confined_pure _

theorem delivers_getMemory (address : String) (listed : destination ∈ chosen) :
    Delivers destination chosen faults (getMemory destination address) :=
  delivers_next (confined_cellIndex address) fun _ =>
    delivers_get fun _ => delivers_setVariable _ listed

end Effect

namespace Container

variable {container : Container} {name : String} {chosen : List String} {faults : Fault → Prop}

theorem delivers_takeInto (listed : name ∈ chosen) :
    Delivers name chosen faults (container.takeInto name) := by
  -- The item is gone before it is known whether there is a variable for it.
  have taken (scope : Scope) : ∃ before value, scope.Stores chosen before ∧
      container.taken scope name = (before.setVariable name value).2 := by
    unfold taken
    split
    · next value machine taken =>
        exact ⟨{ scope with machine }, value, ⟨.refl _, rfl, log_of_take? taken ▸ .refl _⟩, rfl⟩
    · exact ⟨scope.report container.emptyNote, nullText, scope.stores_report _, rfl⟩
  constructor
  · refine confined_of_ok (fun scope => ?_) fun scope => ⟨_, _, container.takeInto_eq name scope⟩
    obtain ⟨before, value, early, result⟩ := taken scope
    rw [takeInto_eq, result]
    exact early.trans (before.stores_setVariable value listed)
  · intro scope _ after undeclared ended
    obtain ⟨before, value, early, result⟩ := taken scope
    rw [takeInto_eq, result] at ended
    cases ended
    exact early.misses (Scope.misses_setVariable (early.locals.has name ▸ undeclared) value)

end Container

namespace Instruction

/-- The variables that an instruction is to change: its first argument, or its first three. -/
def destinations : Instruction → List String → List String
  | set, args | operation _, args | random, args | rgbToHex, args | getMemory, args | pop, args
  | dequeue, args => args.take 1
  | hexToRgb, args => args.take 3
  | _, _ => []

def declares : Instruction → Bool
  | new | delete => true
  | _ => false

def Unusable (instruction : Instruction) (fault : Fault) : Prop :=
  ∃ op, instruction = operation op ∧ op.Unusable fault

variable {instruction : Instruction} {script : Script} {inBody : Bool} {number : Nat}
  {pieces : List Piece} {args : List String} {destination : String} {effect : Action Unit}

/-- The instruction comes down to an effect that changes at most its destinations, tells of each
that does not exist, and fails only for its pattern. -/
structure Performs (instruction : Instruction) (args : List String) (effect : Action Unit) :
    Prop where
  performs : ∀ script inBody number pieces,
    instruction.perform script inBody number pieces args = done effect
  confined : Confined (instruction.destinations args) instruction.Unusable effect
  delivers : ∀ name ∈ instruction.destinations args,
    Delivers name (instruction.destinations args) instruction.Unusable effect

theorem performs_one (single : instruction.destinations args = [destination])
    (performs : ∀ script inBody number pieces,
      instruction.perform script inBody number pieces args = done effect)
    (delivers : Delivers destination [destination] instruction.Unusable effect) :
    instruction.Performs args effect where
  performs := performs
  confined := single ▸ delivers.toConfined
  delivers name listed := by
    rw [single] at listed ⊢
    exact List.mem_singleton.mp listed ▸ delivers

theorem performs_taking (container : Container) (name : String) (more : List String) :
    container.taking.Performs (name :: more) (container.takeInto name) :=
  performs_one (by cases container <;> rfl)
    (fun _ _ _ _ => container.perform_taking name more)
    (Container.delivers_takeInto List.mem_cons_self)

theorem exists_performs (changes : .locals ∈ instruction.parts)
    (keeps : instruction.declares = false) (supplied : instruction.needed ≤ args.length) :
    ∃ effect, instruction.Performs args effect := by
  cases given supplied with
  | set name value =>
      exact ⟨_, performs_one rfl (fun _ _ _ _ => rfl)
        (delivers_setVariable value List.mem_cons_self)⟩
  | @operation rest op destination =>
      have delivers : Delivers destination [destination] op.Unusable
          (Effect.operate op destination rest) :=
        Effect.delivers_operate op rest List.mem_cons_self
      exact ⟨_, performs_one rfl (fun _ _ _ _ => rfl)
        { delivers with fails := fun scope fault after failed =>
            ⟨op, rfl, delivers.fails scope fault after failed⟩ }⟩
  | random destination low high =>
      exact ⟨_, performs_one rfl (fun _ _ _ _ => rfl)
        (Effect.delivers_random low high List.mem_cons_self)⟩
  | rgbToHex destination red green blue =>
      exact ⟨_, performs_one rfl (fun _ _ _ _ => rfl)
        (Effect.delivers_rgbToHex red green blue List.mem_cons_self)⟩
  | hexToRgb red green blue text =>
      -- The one instruction with three destinations.
      have first : red ∈ [red, green, blue] := List.mem_cons_self
      exact ⟨_, fun _ _ _ _ => rfl, (Effect.delivers_hexToRgb red green blue text first).toConfined,
        fun name listed => Effect.delivers_hexToRgb red green blue text listed⟩
  | getMemory destination address =>
      exact ⟨_, performs_one rfl (fun _ _ _ _ => rfl)
        (Effect.delivers_getMemory address List.mem_cons_self)⟩
  | @pop rest destination => exact ⟨_, performs_taking .stack destination rest⟩
  | @dequeue rest destination => exact ⟨_, performs_taking .queue destination rest⟩
  | new | delete => cases keeps
  | _ => simp [parts] at changes

theorem sets_perform (keeps : instruction.declares = false)
    (supplied : instruction.needed ≤ args.length) (scope : Scope) :
    scope.frame.locals.Sets (instruction.destinations args)
      (lastScope (instruction.perform script inBody number pieces args scope)).frame.locals := by
  by_cases changes : .locals ∈ instruction.parts
  · obtain ⟨effect, performs⟩ := exists_performs changes keeps supplied
    rw [performs.performs]
    exact ((confined_bind performs.confined fun _ => confined_pure _).stores scope).locals
  · have same : (lastScope (instruction.perform script inBody number pieces args
        scope)).frame.locals = scope.frame.locals := (alters_perform scope).others .locals changes
    rw [same]
    exact .refl _

/-- An instruction with a destination that does not exist reports it and goes on with the next line,
or it is a count that fails. -/
theorem misses_perform {name : String} (listed : name ∈ instruction.destinations args)
    (supplied : instruction.needed ≤ args.length) {scope : Scope}
    (undeclared : scope.frame.locals.has name = false) :
    (∃ after, instruction.perform script inBody number pieces args scope = .ok .next after ∧
      scope.Misses name after) ∨
    ∃ fault after, instruction.perform script inBody number pieces args scope = .error fault after ∧
      instruction.Unusable fault := by
  have keeps : instruction.declares = false := by
    cases instruction <;> first | rfl | cases listed
  have changes : .locals ∈ instruction.parts := by
    cases instruction <;> first | (simp [parts]; done) | cases listed
  obtain ⟨effect, performs⟩ := exists_performs changes keeps supplied
  rw [performs.performs]
  unfold done
  rw [bind_apply]
  cases result : effect scope with
  | ok value after =>
      exact .inl ⟨after, rfl,
        (performs.delivers name listed).tells scope value after undeclared result⟩
  | error fault after =>
      exact .inr ⟨fault, after, rfl, performs.confined.fails scope fault after result⟩

theorem outer_perform (supplied : instruction.needed ≤ args.length)
    (outer : ∀ kind, instruction = .loop kind → kind.inlineArity < args.length)
    {scope after : Scope} {flow : Flow}
    (result : instruction.perform script inBody number pieces args scope = .ok flow after)
    (loop : InlineLoop) (entered : Bool) : flow ≠ .inline loop entered := by
  intro asked
  subst asked
  cases asks_perform supplied result with
  | inline kind planned =>
      have more := outer kind rfl
      obtain ⟨plan, body, external⟩ := LoopKind.start_external more result
      cases external

end Instruction

/-! ## Lines -/

namespace State

variable {script : Script} {line : Line} {now : State} {spec : Spec Meaning} {args : List String}
  {scope : Scope} {instruction : Instruction}

theorem hosts_settle {result : EStateM.Result Fault Scope Flow}
    (outer : ∀ flow after, result = .ok flow after → ∀ loop entered, flow ≠ .inline loop entered) :
    (now.settle script spec result).Hosts (lastScope result).frame now.suspended := by
  cases result with
  | ok flow after =>
      exact @hosts_follow script { now with scope := after } spec.name flow (outer flow after rfl)
  | error fault after => exact @hosts_instructionFault { now with scope := after } _ _ fault

/-- What a line does to the variables of its frame. -/
structure Assigns (script : Script) (now : State) (line : Line) (instruction : Instruction)
    (args : List String) (scope : Scope) : Prop where
  /-- Whatever definitions the line starts, the variables of its own frame are the same, and at most
  the destinations have other values. -/
  sets : ∀ step, Step.Unfolds script now.suspended (now.execute script line) step →
    ∃ above, step.state.suspended = above ++ now.suspended ∧
      now.scope.frame.locals.Sets (instruction.destinations args)
        (step.state.scope.frame.under above).locals
  /-- A destination that does not exist is reported, unless the pattern of a count cannot be used:
  then the line fails. -/
  tells : ∀ name ∈ instruction.destinations args, now.scope.frame.locals.has name = false →
    (∃ after, now.execute script line = .next { now with scope := after } ∧
      scope.Misses name after) ∨
    instruction = .operation .countMatches ∧ ∃ pattern text reason last,
      Pattern.countMatches pattern text = .error (.unusable reason) ∧
        now.execute script line = .stop (.failed (.failure ⟨.general, s!"COUNT failed: {reason}",
          33, some now.scope.frame.cursor.line, some now.scope.frame.entry⟩)) last

theorem Meets.count (met : now.Meets line spec args scope)
    (builtin : spec.action = .builtin (.operation .countMatches)) :
    spec.name = "COUNT" ∧ Meaning.exceptionCode spec.origin = .internal := by
  rcases Machine.lookup?_cases met.found with ⟨entry, listed, origin, known, -, rfl⟩ |
    ⟨added, -, rfl⟩
  · have counts : entry.instruction = .operation .countMatches := Meaning.builtin.inj builtin
    have names : ∀ entry ∈ Instruction.allEntries,
        entry.instruction = .operation .countMatches → entry.name = "COUNT" := by decide +kernel
    refine ⟨names entry listed counts, ?_⟩
    unfold Meaning.exceptionCode
    exact if_pos (List.contains_iff_mem.mpr known)
  · cases builtin

theorem Meets.executed (met : now.Meets line spec args scope)
    (builtin : spec.action = .builtin instruction) :
    now.execute script line = now.settle script spec (instruction.perform script now.inBody
      line.number (piecesOf line.tokens) args scope) := by
  rw [met.execute]
  unfold performed
  rw [builtin]
  rfl

theorem Meets.instruction_supplied (met : now.Meets line spec args scope)
    (builtin : spec.action = .builtin instruction) : instruction.needed ≤ args.length :=
  Machine.lookup?_supplied met.found met.supplied instruction builtin

theorem Meets.hosts (met : now.Meets line spec args scope)
    (builtin : spec.action = .builtin instruction)
    (outer : ∀ kind, instruction = .loop kind → kind.inlineArity < args.length) :
    (now.execute script line).Hosts (lastScope (instruction.perform script now.inBody line.number
      (piecesOf line.tokens) args scope)).frame now.suspended := by
  rw [met.executed builtin]
  exact hosts_settle fun _ _ =>
    Instruction.outer_perform (met.instruction_supplied builtin) outer

theorem Meets.count_fails (met : now.Meets line spec args scope)
    (builtin : spec.action = .builtin (.operation .countMatches)) {reason : String} {after : Scope}
    (failed : (Instruction.operation .countMatches).perform script now.inBody line.number
      (piecesOf line.tokens) args scope = .error (.exception (.limit reason)) after) :
    ∃ last, now.execute script line = .stop (.failed (.failure ⟨.general,
      s!"COUNT failed: {reason}", 33, some now.scope.frame.cursor.line,
      some now.scope.frame.entry⟩)) last := by
  obtain ⟨called, code⟩ := met.count builtin
  have alters := Respects.error Instruction.alters_perform failed
  have frame : scope.frame = now.scope.frame := met.alters.frame (by simp) (by simp)
  have entry : after.frame.entry = now.scope.frame.entry := frame ▸ alters.steady.entry
  have cursor : after.frame.cursor = now.scope.frame.cursor :=
    frame ▸ alters.others .cursor (by decide)
  rw [met.executed builtin, failed]
  refine ⟨{ now with scope := after.reportFailure s!"COUNT failed: {reason}" .internal }, ?_⟩
  rw [← entry, ← cursor]
  unfold settle
  rw [called, code]
  rfl

/-- Apart from declarations, removals and the headers of loops whose bodies follow them, a line
changes at most its destinations, and it reports those that do not exist. -/
theorem execute_assigns (met : now.Meets line spec args scope)
    (builtin : spec.action = .builtin instruction) (keeps : instruction.declares = false)
    (outer : ∀ kind, instruction = .loop kind → kind.inlineArity < args.length) :
    now.Assigns script line instruction args scope := by
  have supplied := met.instruction_supplied builtin
  have frame : scope.frame = now.scope.frame := met.alters.frame (by simp) (by simp)
  constructor
  · intro step unfolds
    obtain ⟨above, suspended, under⟩ := (hosts_unfolds unfolds (met.hosts builtin outer)).under
    refine ⟨above, suspended, ?_⟩
    rw [under, ← frame]
    exact Instruction.sets_perform keeps supplied scope
  · intro name listed undeclared
    rw [← frame] at undeclared
    rcases @Instruction.misses_perform instruction script now.inBody line.number
        (piecesOf line.tokens) args name listed supplied scope undeclared with
      ⟨after, performed, misses⟩ | ⟨fault, after, performed, op, rfl, unusable⟩
    · left
      rw [met.executed builtin, performed]
      exact ⟨after, rfl, misses⟩
    · right
      obtain ⟨rfl, pattern, text, reason, found, rfl⟩ := unusable
      obtain ⟨last, fails⟩ := met.count_fails builtin performed
      exact ⟨rfl, pattern, text, reason, last, found, fails⟩

theorem execute_assigns_cellExample :
    itemsExample.Meets (.ofText 1 "GETM y 1")
        ⟨"GETM", 2, some 2, .builtin .getMemory, "", "core"⟩ ["y", "1"] itemsExample.scope ∧
      itemsExample.Assigns (.ofLines "<string>" []) (.ofText 1 "GETM y 1") .getMemory ["y", "1"]
        itemsExample.scope := by
  have keyword : (Line.ofText 1 "GETM y 1").keyword = "GETM" := by decide +kernel
  have pieces : piecesOf (Line.ofText 1 "GETM y 1").tokens = [⟨"y", false⟩, ⟨"1", false⟩] := by
    decide +kernel
  have met : itemsExample.Meets (.ofText 1 "GETM y 1")
      ⟨"GETM", 2, some 2, .builtin .getMemory, "", "core"⟩ ["y", "1"] itemsExample.scope := by
    refine ⟨by decide +kernel, ?_, ?_, by decide +kernel⟩
    · rw [pieces]
      with_unfolding_all rfl
    · rw [keyword]
      exact Machine.lookup?_core (by rfl : Instruction.core.get? "GETM" = some
        ⟨_, _, _, _, _, _⟩)
  exact ⟨met, execute_assigns met rfl rfl nofun⟩

/-- A count fails for its pattern before it comes to its destination. -/
theorem not_execute_misses :
    ¬ ∀ (script : Script) (line : Line) (now : State) (spec : Spec Meaning)
        (instruction : Instruction) (args : List String) (scope : Scope),
      now.Meets line spec args scope → spec.action = .builtin instruction →
        instruction.declares = false → (∀ kind, instruction ≠ .loop kind) →
        ∀ name ∈ instruction.destinations args, now.scope.frame.locals.has name = false →
          scope.Misses name (now.execute script line).state.scope := by
  intro claimed
  let script : Script := .ofLines "<string>" []
  let line := Line.ofText 1 "COUNT y a \"a\x7b4294967295\x7d\""
  have keyword : line.keyword = "COUNT" := by decide +kernel
  have pieces : piecesOf line.tokens =
      [⟨"y", false⟩, ⟨"a", false⟩, ⟨"a\x7b4294967295\x7d", true⟩] := by decide +kernel
  have met : itemsExample.Meets line
      ⟨"COUNT", 2, some 3, .builtin (.operation .countMatches), "", "core"⟩
      ["y", "a", "a\x7b4294967295\x7d"] itemsExample.scope := by
    refine ⟨by decide +kernel, ?_, ?_, by decide +kernel⟩
    · rw [pieces]
      with_unfolding_all rfl
    · rw [keyword]
      exact Machine.lookup?_core (by rfl : Instruction.core.get? "COUNT" = some
        ⟨_, _, _, _, _, _⟩)
  have log : (itemsExample.execute script line).state.scope.machine.log.newest =
      [⟨.error, 0, "COUNT failed: the repetition number is too large", 33⟩] := by decide +kernel
  obtain ⟨messages, grown, told⟩ := claimed script line itemsExample _ _ _ _ met rfl rfl nofun "y"
    List.mem_cons_self (by decide +kernel)
  rw [log] at grown
  obtain rfl : messages = [⟨.error, 0, "COUNT failed: the repetition number is too large", 33⟩] :=
    (List.append_nil messages).symm.trans grown.symm
  exact absurd told (by decide +kernel)

end State

end LineScript
