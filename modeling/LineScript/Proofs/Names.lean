import LineScript.Proofs.Settling

/-!
Names of variables and names of predefined ones. Declaring a variable asks whether the name is
predefined at that moment, so it never makes the two overlap; but a directive that switches a mode
on does not ask which variables there are. The names of a program stay apart unless a directive
comes after the declaration of a variable of its mode, while the variable is there.
-/

namespace LineScript

def Directive.names : Directive → List String
  | extended true => Predefined.extended.map Prod.fst
  | graphics true => Predefined.graphics.map Prod.fst
  | _ => []

def State.Declares (state : State) (name : String) : Prop :=
  ∃ activation ∈ state.active, activation.frame.locals.has name = true

/-- The next line is a directive that makes the name of a variable predefined. -/
structure State.Overlaps (script : Script) (state : State) (name : String) : Prop where
  running : state.control = .running
  directive : ∃ text, script.line? (state.scope.frame.cursor.line + 1) = some text ∧
    isSkippable text = false ∧ isDirective text = true ∧ name ∈ (Directive.ofText text).names
  declared : state.Declares name

/-! ## Layers -/

namespace Layers

variable {α : Type} {layers : Layers α} {layer name : String} {names : List (String × α)}

theorem lookup_isSome_iff {entries : List (String × α)} :
    (entries.lookup name).isSome = true ↔ name ∈ entries.map Prod.fst := by
  induction entries with
  | nil => simp
  | cons entry rest ih =>
      rw [List.lookup_cons, List.map_cons, List.mem_cons, ← ih]
      by_cases here : name = entry.1
      · simp [here]
      · simp [here, beq_eq_false_iff_ne.mpr here]

theorem contains_iff :
    layers.contains name = true ↔ ∃ layer ∈ layers.layers, name ∈ layer.2.map Prod.fst := by
  unfold contains lookup?
  rw [List.findSome?_isSome_iff]
  simp only [List.mem_reverse, lookup_isSome_iff]

theorem contains_of_drop (found : (layers.drop layer).contains name = true) :
    layers.contains name = true := by
  rw [contains_iff] at found ⊢
  obtain ⟨other, member, listed⟩ := found
  exact ⟨other, List.mem_of_mem_filter member, listed⟩

theorem contains_of_push (found : (layers.push layer names).contains name = true) :
    layers.contains name = true ∨ name ∈ names.map Prod.fst := by
  obtain ⟨other, member, listed⟩ := contains_iff.mp found
  rcases List.mem_append.mp member with old | new
  · exact .inl (contains_of_drop (contains_iff.mpr ⟨other, old, listed⟩))
  · rw [List.mem_singleton.mp new] at listed
    exact .inr listed

theorem contains_push (listed : name ∈ names.map Prod.fst) :
    (layers.push layer names).contains name = true :=
  contains_iff.mpr ⟨(layer, names), List.mem_append_right _ List.mem_cons_self, listed⟩

end Layers

namespace Directive

variable {machine : Machine} {line : Int} {text name : String}

theorem contains_of_apply (found : (apply machine line text).predefined.contains name = true) :
    machine.predefined.contains name = true ∨ name ∈ (ofText text).names := by
  unfold apply at found
  cases directive : ofText text with
  | extended enabled =>
      rw [directive] at found
      cases enabled with
      | true => exact Layers.contains_of_push found
      | false => exact .inl (Layers.contains_of_drop found)
  | graphics enabled =>
      rw [directive] at found
      cases enabled with
      | true => exact Layers.contains_of_push found
      | false => exact .inl (Layers.contains_of_drop found)
  | unknown =>
      rw [directive] at found
      exact .inl found

theorem contains_apply (listed : name ∈ (ofText text).names) :
    (apply machine line text).predefined.contains name = true := by
  unfold apply
  cases directive : ofText text with
  | extended enabled =>
      rw [directive] at listed
      cases enabled with
      | true => exact Layers.contains_push listed
      | false => cases listed
  | graphics enabled =>
      rw [directive] at listed
      cases enabled with
      | true => exact Layers.contains_push listed
      | false => cases listed
  | unknown =>
      rw [directive] at listed
      cases listed

end Directive

/-! ## Variables -/

namespace State

variable {script : Script} {state before now after : State} {name : String}

/-- The innermost frame or a caller has a variable of the name. Owners of loops have the variables
of the bodies above them. -/
def Holds (state : State) (name : String) : Prop :=
  state.scope.frame.locals.has name = true ∨
    ∃ frame wait, .caller frame wait ∈ state.suspended ∧ frame.locals.has name = true

theorem exists_mem_activationsFrom (frame : Frame) (suspended : List Suspended) :
    (∃ activation ∈ activationsFrom frame suspended, activation.frame.locals.has name = true) ↔
      frame.locals.has name = true ∨
        ∃ caller wait, .caller caller wait ∈ suspended ∧ caller.locals.has name = true := by
  induction suspended generalizing frame with
  | nil => simp [activationsFrom]
  | cons waiting rest ih =>
      rw [activationsFrom, List.exists_mem_cons_iff, ih]
      cases waiting with
      | caller other wait => simp [Suspended.frame, or_and_right, exists_or]
      | owner cursor loop => simp [Suspended.frame]

theorem declares_iff (whole : state.oneLine = false) : state.Declares name ↔ state.Holds name := by
  unfold Declares Holds
  rw [active, whole]
  change (∃ activation ∈ state.activations, _) ↔ _
  rw [activations]
  simp only [List.mem_reverse]
  exact exists_mem_activationsFrom _ _

theorem Holds.of_settles {offspring : Offspring} (settles : now.Settles offspring after)
    (holds : after.Holds name) : now.Holds name := by
  unfold Holds at holds ⊢
  cases settles with
  | stays control suspended frame => rwa [frame, suspended] at holds
  | moves fitting suspended frame =>
      rw [frame, suspended] at holds
      exact holds
  | repeats fitting control suspended frame =>
      rw [frame, suspended] at holds
      simpa using holds
  | calls fitting control suspended fresh =>
      rw [fresh, suspended] at holds
      rcases holds with none | ⟨frame, wait, member, has⟩
      · cases none
      · rcases List.mem_cons.mp member with same | below
        · cases same
          exact .inl has
        · exact .inr ⟨frame, wait, below, has⟩

theorem Holds.of_passage (passage : Passage script before after) (holds : after.Holds name) :
    before.Holds name ∨ before.scope.machine.predefined.contains name = false := by
  cases passage with
  | idles running quiet machine suspended frame =>
      rw [Holds, frame, suspended] at holds
      exact .inl holds
  | directs running quiet found filled directive machine suspended frame =>
      rw [Holds, frame, suspended] at holds
      exact .inl holds
  | @returns now waiting signal leaving waits ready machine frame settles =>
      rcases holds.of_settles settles.2 with here | ⟨caller, wait, member, has⟩
      · rw [frame] at here
        refine .inl ?_
        match waiting with
        | .caller caller wait => exact .inr ⟨caller, wait, waits ▸ List.mem_cons_self, here⟩
        | .owner cursor loop => exact .inl here
      · exact .inl (.inr ⟨caller, wait, waits ▸ List.mem_cons_of_mem _ member, has⟩)
  | executes now running machine suspended frame carries =>
      obtain ⟨performed, performs, settles⟩ := carries
      rcases holds.of_settles settles.2 with here | ⟨caller, wait, member, has⟩
      · rcases performs.scope.declared name here with known | free
        · rw [frame] at known
          exact .inl (.inl known)
        · exact .inr (machine.predefined ▸ free)
      · rw [performs.suspended, suspended] at member
        exact .inl (.inr ⟨caller, wait, member, has⟩)

theorem overlaps_of_passage (passage : Passage script before after)
    (whole : before.oneLine = false)
    (apart : before.Declares name → before.scope.machine.predefined.contains name = false)
    (holds : after.Holds name) (present : after.scope.machine.predefined.contains name = true) :
    before.Overlaps script name := by
  -- The name was not predefined before, so the step is one that changes what is predefined.
  have free : before.scope.machine.predefined.contains name = false := by
    rcases holds.of_passage passage with known | free
    · exact apart ((declares_iff whole).mpr known)
    · exact free
  have changed (same : after.scope.machine.predefined = before.scope.machine.predefined) :
      before.Overlaps script name := by
    rw [same, free] at present
    cases present
  cases passage with
  | idles running quiet machine => exact changed (by rw [machine])
  | executes now running kept suspended frame carries =>
      obtain ⟨performed, performs, settles⟩ := carries
      exact changed ((kept.trans performs.scope.machine).trans settles.1).predefined
  | returns now leaving waits ready kept frame settles =>
      exact changed (kept.trans settles.1).predefined
  | @directs text running quiet found filled directive machine suspended frame =>
      rw [machine] at present
      have listed : name ∈ (Directive.ofText text).names := by
        rcases Directive.contains_of_apply present with old | listed
        · rw [free] at old
          cases old
        · exact listed
      rw [Holds, frame, suspended] at holds
      exact ⟨running, ⟨text, found, filled, directive, listed⟩, (declares_iff whole).mpr holds⟩

theorem declares_onLine (whole : state.oneLine = false) {text : String}
    (change : Machine → Machine) :
    ((state.onLine text).onMachine change).Declares name ↔ state.Declares name := by
  have wholeAfter : ((state.onLine text).onMachine change).oneLine = false := whole
  rw [declares_iff wholeAfter, declares_iff whole]
  exact Iff.rfl

theorem machine_onMachine (state : State) (change : Machine → Machine) :
    (state.onMachine change).scope.machine = change state.scope.machine :=
  rfl

theorem Overlaps.step (overlaps : state.Overlaps script name) (whole : state.oneLine = false) :
    ∃ after, state.step script = .next after ∧ after.Declares name ∧
      after.scope.machine.predefined.contains name = true := by
  obtain ⟨running, ⟨text, found, filled, directive, listed⟩, declared⟩ := overlaps
  have stepped : state.step script = .next ((state.onLine text).onMachine fun machine =>
      Directive.apply machine ((state.scope.frame.cursor.line + 1 : Nat)) text) := by
    rw [step_running running whole]
    exact advance_directive found filled directive
  refine ⟨_, stepped, (declares_onLine whole _).mpr declared, ?_⟩
  rw [machine_onMachine]
  exact Directive.contains_apply listed

end State

/-! ## Main statement -/

namespace Program

variable {script : Script} {entry : String} {machine : Machine} {state : State} {name : String}

theorem Reaches.apart (reached : Reaches script entry machine state)
    (quiet : ∀ state, Reaches script entry machine state → ¬ state.Overlaps script name) :
    state.Declares name → state.scope.machine.predefined.contains name = false := by
  induction reached with
  | @start state started =>
      intro declares
      have starts := starts_of_running started
      obtain ⟨line, -, frame⟩ := starts.found
      rw [State.declares_iff starts.whole, State.Holds, frame, starts.suspended] at declares
      rcases declares with none | ⟨caller, wait, none, has⟩ <;> cases none
  | @step state after reached stepped ih =>
      intro declares
      have whole := (reached.step stepped).inPlace.whole
      by_contra present
      exact quiet state reached (State.overlaps_of_passage (reached.passage stepped)
        reached.inPlace.whole ih ((State.declares_iff whole).mp declares) (by simpa using present))

/-- Whatever the script and the extensions, a name is never the name of a variable and predefined at
once, except after a directive that switches its mode on while the variable is there. -/
theorem namesApart_iff (script : Script) (entry : String) (machine : Machine) (name : String) :
    (∀ state, Reaches script entry machine state → state.Declares name →
      state.scope.machine.predefined.contains name = false) ↔
    ∀ state, Reaches script entry machine state → ¬ state.Overlaps script name := by
  constructor
  · intro apart state reached overlaps
    obtain ⟨after, stepped, declares, present⟩ := overlaps.step reached.inPlace.whole
    rw [apart after (reached.step stepped) declares] at present
    cases present
  · intro quiet state reached
    exact reached.apart quiet

def stateAfter? (script : Script) (entry : String) (machine : Machine) : Nat → Option State
  | 0 =>
      match start script entry machine with
      | .running state => some state
      | .ended _ => none
  | steps + 1 =>
      (stateAfter? script entry machine steps).bind fun state =>
        match state.step script with
        | .next after => some after
        | .stop _ _ => none

theorem reaches_of_stateAfter? {steps : Nat}
    (found : stateAfter? script entry machine steps = some state) :
    Reaches script entry machine state := by
  induction steps generalizing state with
  | zero =>
      unfold stateAfter? at found
      split at found
      · next first started =>
          cases found
          exact .start started
      · cases found
  | succ steps ih =>
      unfold stateAfter? at found
      obtain ⟨before, early, last⟩ := Option.bind_eq_some_iff.mp found
      split at last
      · next after stepped =>
          cases last
          exact (ih early).step stepped
      · cases last

def lateModeExample : Script :=
  .ofLines "" ["DEF main", "NEW pask", "[mode extended]", "ENDDEF"]

theorem overlap_lateModeExample :
    ¬ ∀ state, Reaches lateModeExample "main" (Machine.plainExample.setExtended false) state →
      ∀ name, state.Declares name → state.scope.machine.predefined.contains name = false := by
  intro apart
  have both : (stateAfter? lateModeExample "main" (Machine.plainExample.setExtended false) 2).map
      (fun state => (state.active.any (·.frame.locals.has "pask"),
        state.scope.machine.predefined.contains "pask")) = some (true, true) := by
    decide +kernel
  obtain ⟨state, found, same⟩ := Option.map_eq_some_iff.mp both
  obtain ⟨declared, present⟩ : _ ∧ _ := by simpa only [Prod.mk.injEq] using same
  have free := apart state (reaches_of_stateAfter? found) "pask" (List.any_eq_true.mp declared)
  rw [present] at free
  cases free

end Program

end LineScript
