import LineScript.Proofs.Settling
import Mathlib.Data.List.Perm.Basic

/-!
What names stand for depends on the modes alone. Switching a mode puts its layer of predefined
variables on top of the others or takes it away, so the order of the layers tells the history of the
switches; but no two layers above the base have a name in common, and extensions have no name of the
language, so nothing that is looked up can tell it.
-/

namespace LineScript

structure Modes where
  extended : Bool
  graphics : Bool
deriving DecidableEq, Repr

def Machine.modes (machine : Machine) : Modes :=
  ⟨machine.extended, machine.graphics⟩

namespace Modes

/-- What an instruction name stands for. An extension has a say only where the language has no such
name in any mode. -/
def instruction? (modes : Modes) (services : Services) (keyword : String) :
    Option (Spec Meaning) :=
  if Instruction.isReserved (Text.upper keyword) then
    (((Instruction.core.get? keyword).or
      (if modes.extended then Instruction.extended.get? keyword else none)).or
      (if modes.graphics then Instruction.graphics.get? keyword else none)).map
      (Machine.specWith .builtin)
  else (services.instructions.get? keyword).map (Machine.specWith .added)

/-- What the name of a predefined variable stands for. A variable of a mode that is off is the one
it would override, if there is one. -/
def predefined? (modes : Modes) (services : Services) (name : String) : Option Predefined :=
  if Predefined.isTaken name then
    ((if modes.extended then Predefined.extended.lookup name else none).or
      (if modes.graphics then Predefined.graphics.lookup name else none)).or
      (Predefined.base.lookup name)
  else (services.predefined.lookup name).map .computed

def layers (modes : Modes) (services : Services) : List (String × List (String × Predefined)) :=
  (if services.predefined.isEmpty then []
    else [(Machine.extensionLayer, Predefined.added services)]) ++
  ((if modes.extended then [(Machine.extendedLayer, Predefined.extended)] else []) ++
  (if modes.graphics then [(Machine.graphicsLayer, Predefined.graphics)] else []))

end Modes

/-! ## The layers -/

/-- The machine has the layers that its modes ask for, each once and the base at the bottom. -/
def Machine.Layered (services : Services) (machine : Machine) : Prop :=
  machine.services = services ∧
    ∃ upper, machine.predefined.layers = ("base", Predefined.base) :: upper ∧
      upper.Perm (machine.modes.layers services)

namespace Modes

variable (modes : Modes) (services : Services) (enabled : Bool)

theorem layers_extended :
    ((modes.layers services).filter (fun layer => layer.1 != Machine.extendedLayer) ++
      if enabled then [(Machine.extendedLayer, Predefined.extended)] else []).Perm
      ((Modes.mk enabled modes.graphics).layers services) := by
  have dropped : (modes.layers services).filter (fun layer => layer.1 != Machine.extendedLayer) =
      (if services.predefined.isEmpty then []
        else [(Machine.extensionLayer, Predefined.added services)]) ++
      if modes.graphics then [(Machine.graphicsLayer, Predefined.graphics)] else [] := by
    unfold layers
    cases services.predefined.isEmpty <;> cases modes.extended <;> cases modes.graphics <;> rfl
  rw [dropped, List.append_assoc]
  exact .append_left _ List.perm_append_comm

theorem layers_graphics :
    ((modes.layers services).filter (fun layer => layer.1 != Machine.graphicsLayer) ++
      if enabled then [(Machine.graphicsLayer, Predefined.graphics)] else []).Perm
      ((Modes.mk modes.extended enabled).layers services) := by
  have dropped : (modes.layers services).filter (fun layer => layer.1 != Machine.graphicsLayer) =
      (if services.predefined.isEmpty then []
        else [(Machine.extensionLayer, Predefined.added services)]) ++
      if modes.extended then [(Machine.extendedLayer, Predefined.extended)] else [] := by
    unfold layers
    cases services.predefined.isEmpty <;> cases modes.extended <;> cases modes.graphics <;> rfl
  rw [dropped, List.append_assoc]
  exact .refl _

end Modes

namespace Machine

variable {services : Services} {machine : Machine}

/-- Switching a mode leaves the base at the bottom and moves no other layer. -/
theorem layers_switch {name : String} (names : List (String × Predefined)) (enabled : Bool)
    (other : name ≠ "base") {upper : List (String × List (String × Predefined))}
    (split : machine.predefined.layers = ("base", Predefined.base) :: upper) :
    (if enabled then machine.predefined.push name names
      else machine.predefined.drop name).layers =
      ("base", Predefined.base) :: (upper.filter (fun layer => layer.1 != name) ++
        if enabled then [(name, names)] else []) := by
  have dropped : (machine.predefined.drop name).layers =
      ("base", Predefined.base) :: upper.filter fun layer => layer.1 != name := by
    unfold Layers.drop
    rw [split, List.filter_cons_of_pos (by simpa using other.symm)]
  cases enabled with
  | false => simpa using dropped
  | true =>
      change (machine.predefined.drop name).layers ++ [(name, names)] = _
      rw [dropped]
      rfl

theorem layered_setExtended (layered : machine.Layered services) (enabled : Bool) :
    (machine.setExtended enabled).Layered services := by
  obtain ⟨same, upper, split, perm⟩ := layered
  refine ⟨same, _, layers_switch Predefined.extended enabled (by decide) split, ?_⟩
  exact ((perm.filter _).append_right _).trans (machine.modes.layers_extended services enabled)

theorem layered_setGraphics (layered : machine.Layered services) (enabled : Bool) :
    (machine.setGraphics enabled).Layered services := by
  obtain ⟨same, upper, split, perm⟩ := layered
  refine ⟨same, _, layers_switch Predefined.graphics enabled (by decide) split, ?_⟩
  exact ((perm.filter _).append_right _).trans (machine.modes.layers_graphics services enabled)

theorem lasts_layered : Lasts (Layered services) where
  kept kept layered := by
    obtain ⟨same, upper, split, perm⟩ := layered
    refine ⟨kept.services.trans same, upper, kept.predefined ▸ split, ?_⟩
    unfold Machine.modes
    rw [kept.extended, kept.graphics]
    exact perm
  directive line text layered := by
    unfold Directive.apply
    split
    · exact layered_setExtended layered true
    · exact layered_setExtended layered false
    · exact layered_setGraphics layered true
    · exact layered_setGraphics layered false
    · exact layered
  frames frames layered := layered

theorem layered_ofSetup {setup : Setup} (built : ofSetup setup = .ok machine) :
    conflict? setup.services = none ∧ machine.Layered setup.services := by
  obtain ⟨accepted, fresh, starts, rfl⟩ := ofSetup_ok built
  refine ⟨accepted, layered_setGraphics (layered_setExtended ⟨starts.services, ?_⟩ _) _⟩
  rw [starts.predefined, Machine.modes, starts.extended, starts.graphics]
  unfold initialPredefined
  dsimp only
  split
  · next empty => exact ⟨[], rfl, by simp [Modes.layers, empty]⟩
  · next filled =>
      exact ⟨[(extensionLayer, Predefined.added setup.services)], rfl,
        by simp [Modes.layers, filled]⟩

end Machine

/-! ## Names of the language -/

theorem Instruction.get?_unreserved {origin : String} {entries : List Entry}
    {named : ∀ entry ∈ entries, entry.name = Text.upper entry.name}
    (listed : ∀ entry ∈ entries, entry ∈ allEntries) {keyword : String}
    (free : isReserved (Text.upper keyword) = false) :
    (tableOf origin entries named).get? keyword = none := by
  cases found : (tableOf origin entries named).get? keyword with
  | none => rfl
  | some spec =>
      obtain ⟨entry, member, name, -⟩ := mem_of_get? found
      have reserved : isReserved (Text.upper keyword) = true :=
        List.any_eq_true.mpr ⟨entry, listed entry member, beq_iff_eq.mpr name⟩
      rw [reserved] at free
      cases free

theorem Predefined.lookup_untaken {names : List (String × Predefined)}
    (listed : ∀ entry ∈ names, isTaken entry.1 = true) {name : String}
    (free : isTaken name = false) : names.lookup name = none := by
  cases found : names.lookup name with
  | none => rfl
  | some meaning =>
      rw [listed _ (mem_of_lookup found)] at free
      cases free

theorem Predefined.lookup_added (services : Services) (name : String) :
    (added services).lookup name = (services.predefined.lookup name).map .computed := by
  unfold added
  induction services.predefined with
  | nil => rfl
  | cons entry rest ih =>
      rw [List.map_cons, List.lookup_cons, List.lookup_cons, ih]
      cases name == entry.1 <;> rfl

namespace Machine

variable {services : Services} {machine : Machine}

theorem not_reserved_of_accepted (accepted : conflict? services = none) :
    ∀ name ∈ services.instructions.names, Instruction.isReserved name = false := by
  unfold conflict? at accepted
  split at accepted
  · cases accepted
  · next free => simpa using free

theorem not_taken_of_accepted (accepted : conflict? services = none) :
    ∀ entry ∈ services.predefined, Predefined.isTaken entry.1 = false := by
  unfold conflict? at accepted
  split at accepted
  · cases accepted
  · split at accepted
    · cases accepted
    · next free => simpa using free

theorem get?_reserved (accepted : conflict? services = none) {keyword : String}
    (reserved : Instruction.isReserved (Text.upper keyword) = true) :
    services.instructions.get? keyword = none := by
  cases found : services.instructions.get? keyword with
  | none => rfl
  | some spec =>
      have free := not_reserved_of_accepted accepted _
        (List.mem_map_of_mem (mem_of_lookup found))
      rw [reserved] at free
      cases free

theorem lookup_taken (accepted : conflict? services = none) {name : String}
    (taken : Predefined.isTaken name = true) : (Predefined.added services).lookup name = none := by
  rw [Predefined.lookup_added]
  cases found : services.predefined.lookup name with
  | none => rfl
  | some behavior =>
      have free := not_taken_of_accepted accepted _ (mem_of_lookup found)
      rw [taken] at free
      cases free

/-! ## What is found -/

theorem lookup?_modes (accepted : conflict? services = none) (same : machine.services = services)
    (keyword : String) : machine.lookup? keyword = machine.modes.instruction? services keyword := by
  unfold lookup? Modes.instruction?
  rw [same]
  by_cases reserved : Instruction.isReserved (Text.upper keyword) = true
  · rw [if_pos reserved, get?_reserved accepted reserved, Option.map_none, Option.or_none]
    rfl
  · have free : Instruction.isReserved (Text.upper keyword) = false := by simpa using reserved
    have core : Instruction.core.get? keyword = none :=
      Instruction.get?_unreserved (by simp +contextual [Instruction.allEntries]) free
    have extended : Instruction.extended.get? keyword = none :=
      Instruction.get?_unreserved (by simp +contextual [Instruction.allEntries]) free
    have graphics : Instruction.graphics.get? keyword = none :=
      Instruction.get?_unreserved (by simp +contextual [Instruction.allEntries]) free
    rw [if_neg reserved, core, extended, graphics]
    simp

theorem findSome?_perm {α β : Type} {find : α → Option β} {first second : List α}
    (perm : first.Perm second)
    (agree : ∀ a ∈ first, ∀ b ∈ first, ∀ x y, find a = some x → find b = some y → x = y) :
    first.findSome? find = second.findSome? find := by
  cases found : second.findSome? find with
  | none =>
      rw [List.findSome?_eq_none_iff] at found ⊢
      exact fun a member => found a (perm.mem_iff.mp member)
  | some x =>
      obtain ⟨b, member, here⟩ := List.exists_of_findSome?_eq_some found
      have some : (first.findSome? find).isSome = true :=
        List.findSome?_isSome_iff.mpr ⟨b, perm.mem_iff.mpr member, by simp [here]⟩
      obtain ⟨y, foundFirst⟩ := Option.isSome_iff_exists.mp some
      obtain ⟨a, memberFirst, there⟩ := List.exists_of_findSome?_eq_some foundFirst
      rw [foundFirst, agree a memberFirst b (perm.mem_iff.mpr member) y x there here]

theorem mem_layers {modes : Modes} {layer : String × List (String × Predefined)}
    (member : layer ∈ modes.layers services) :
    layer.2 = Predefined.added services ∨ layer.2 = Predefined.extended ∨
      layer.2 = Predefined.graphics := by
  unfold Modes.layers at member
  rw [List.mem_append, List.mem_append, List.mem_ite_nil_left, List.mem_ite_nil_right,
    List.mem_ite_nil_right, List.mem_singleton, List.mem_singleton, List.mem_singleton] at member
  rcases member with ⟨-, rfl⟩ | ⟨-, rfl⟩ | ⟨-, rfl⟩
  · exact .inl rfl
  · exact .inr (.inl rfl)
  · exact .inr (.inr rfl)

theorem lookup_of_layer (accepted : conflict? services = none) {modes : Modes}
    {layer : String × List (String × Predefined)} (member : layer ∈ modes.layers services)
    {name : String} {meaning : Predefined} (found : layer.2.lookup name = some meaning) :
    ((Predefined.added services).lookup name).or
      ((Predefined.extended.lookup name).or (Predefined.graphics.lookup name)) = some meaning := by
  rcases mem_layers member with same | same | same <;> rw [same] at found
  · rw [found, Option.some_or]
  · have taken : ∀ entry ∈ Predefined.extended, Predefined.isTaken entry.1 = true := by decide
    rw [lookup_taken accepted (taken _ (mem_of_lookup found)), found]
    rfl
  · have taken : ∀ entry ∈ Predefined.graphics, Predefined.isTaken entry.1 = true := by decide
    have apart : ∀ entry ∈ Predefined.graphics, Predefined.extended.lookup entry.1 = none := by
      decide
    have member := mem_of_lookup found
    rw [lookup_taken accepted (taken _ member), apart _ member, found]
    rfl

theorem findSome?_layers (modes : Modes) (name : String) :
    (modes.layers services).findSome? (fun layer => layer.2.lookup name) =
      ((Predefined.added services).lookup name).or
        ((if modes.extended then Predefined.extended.lookup name else none).or
          (if modes.graphics then Predefined.graphics.lookup name else none)) := by
  have added : (if services.predefined.isEmpty then []
      else [(extensionLayer, Predefined.added services)]).findSome?
      (fun layer => layer.2.lookup name) = (Predefined.added services).lookup name := by
    split
    · next empty => rw [Predefined.added, List.isEmpty_iff.mp empty]; rfl
    · simp
  unfold Modes.layers
  rw [List.findSome?_append, List.findSome?_append, added]
  cases modes.extended <;> cases modes.graphics <;> simp

theorem predefined_modes (accepted : conflict? services = none)
    (layered : machine.Layered services) (name : String) :
    machine.predefined.lookup? name = machine.modes.predefined? services name := by
  obtain ⟨-, upper, split, perm⟩ := layered
  have order : upper.reverse.Perm (machine.modes.layers services) := upper.reverse_perm.trans perm
  have found : upper.reverse.findSome? (fun layer => layer.2.lookup name) =
      (machine.modes.layers services).findSome? (fun layer => layer.2.lookup name) := by
    -- No name stands in two layers above the base, so their order does not matter.
    refine findSome?_perm order fun a memberA b memberB x y foundA foundB => ?_
    have first := lookup_of_layer accepted (order.mem_iff.mp memberA) foundA
    have second := lookup_of_layer accepted (order.mem_iff.mp memberB) foundB
    exact Option.some.inj (first.symm.trans second)
  have base : [("base", Predefined.base)].findSome? (fun layer => layer.2.lookup name) =
      Predefined.base.lookup name := by
    simp
  unfold Layers.lookup? Modes.predefined?
  rw [split, List.reverse_cons, List.findSome?_append, found, findSome?_layers, base]
  by_cases taken : Predefined.isTaken name = true
  · rw [if_pos taken, lookup_taken accepted taken, Option.none_or]
  · have free : Predefined.isTaken name = false := by simpa using taken
    have absent {names : List (String × Predefined)}
        (listed : ∀ entry ∈ names, Predefined.isTaken entry.1 = true) : names.lookup name = none :=
      Predefined.lookup_untaken listed free
    have noExtended : Predefined.extended.lookup name = none := absent (by decide)
    have noGraphics : Predefined.graphics.lookup name = none := absent (by decide)
    have noBase : Predefined.base.lookup name = none := absent (by decide)
    rw [if_neg taken, noExtended, noGraphics, noBase, Predefined.lookup_added]
    simp

end Machine

/-! ## Main statement -/

/-- How a machine comes about from another one: modes are switched, and programs are run. -/
inductive Machine.Switches (first : Machine) : Machine → Prop where
  | refl : Switches first first
  | extended {machine : Machine} (early : Switches first machine) (enabled : Bool) :
      Switches first (machine.setExtended enabled)
  | graphics {machine : Machine} (early : Switches first machine) (enabled : Bool) :
      Switches first (machine.setGraphics enabled)
  | directive {machine : Machine} (early : Switches first machine) (line : Int) (text : String) :
      Switches first (Directive.apply machine line text)
  | reaches {machine : Machine} (early : Switches first machine) {script : Script}
      {entry : String} {state : State} (reached : Program.Reaches script entry machine state) :
      Switches first state.scope.machine
  | runs {machine : Machine} (early : Switches first machine) {script : Script} {entry : String}
      {fuel : Nat} {run : ProgramRun}
      (ended : Program.run script entry machine fuel = some run) : Switches first run.machine

/-- What the machine finds is what its modes say. -/
structure Machine.Finds (services : Services) (machine : Machine) : Prop where
  layers : ∃ upper, machine.predefined.layers = ("base", Predefined.base) :: upper ∧
    upper.Perm (machine.modes.layers services)
  instruction : ∀ keyword, machine.lookup? keyword = machine.modes.instruction? services keyword
  predefined : ∀ name,
    machine.predefined.lookup? name = machine.modes.predefined? services name

namespace Machine

theorem Switches.layered {services : Services} {first machine : Machine}
    (switches : first.Switches machine) (layered : first.Layered services) :
    machine.Layered services := by
  induction switches with
  | refl => exact layered
  | extended early enabled ih => exact layered_setExtended ih enabled
  | graphics early enabled ih => exact layered_setGraphics ih enabled
  | directive early line text ih => exact lasts_layered.directive line text ih
  | reaches early reached ih => exact lasts_layered.reaches ih reached
  | runs early ended ih => exact lasts_layered.run ih ended

/-- However the modes of a machine have been switched, by its setup, by directives or by whole
programs, what it finds under a name depends on the extensions and on the present modes alone. -/
theorem finds_of_switches {setup : Setup} {first machine : Machine}
    (built : ofSetup setup = .ok first) (switches : first.Switches machine) :
    machine.Finds setup.services ∧
      ∀ other start again, other.services = setup.services → ofSetup other = .ok start →
        start.Switches again → again.modes = machine.modes →
        (∀ keyword, again.lookup? keyword = machine.lookup? keyword) ∧
          ∀ name, again.predefined.lookup? name = machine.predefined.lookup? name := by
  obtain ⟨accepted, layered⟩ := layered_ofSetup built
  have finds {machine : Machine} (layered : machine.Layered setup.services) :
      machine.Finds setup.services :=
    ⟨layered.2, lookup?_modes accepted layered.1, predefined_modes accepted layered⟩
  have here := finds (switches.layered layered)
  refine ⟨here, fun other start again same builtOther switchesOther modes => ?_⟩
  have there := finds (switchesOther.layered (same ▸ (layered_ofSetup builtOther).2))
  refine ⟨fun keyword => ?_, fun name => ?_⟩
  · rw [here.instruction, there.instruction, modes]
  · rw [here.predefined, there.predefined, modes]

def greetingExample : Setup :=
  { settings := ⟨some Settings.defaultDepth, some Settings.defaultArgs, false, false⟩
    services :=
      { instructions := ⟨[("HELLO", ⟨"HELLO", 0, none, .echo "hello", "", "greeting"⟩)],
          by decide +kernel⟩
        predefined := [("greeting", .const "hello")]
        metadata := []
        hooks := .empty }
    extended := true
    graphics := true
    seed := 0
    clock := Clock.ofSeconds 0 0
    wakes := false
    replies := []
    files := .ofDirectory "/" }

/-- A directive has taken extended mode away and another one has put it back, so its layer is now
above that of graphics mode. -/
theorem finds_of_switches_greetingExample :
    ∃ first machine, ofSetup greetingExample = .ok first ∧
      machine = Directive.apply (Directive.apply first 1 "[mode vsb]") 2 "[MODE extended]" ∧
      first.predefined.layers.map (·.1) = ["base", "extensions", "extended", "graphics"] ∧
      machine.predefined.layers.map (·.1) = ["base", "extensions", "graphics", "extended"] ∧
      machine.Finds greetingExample.services ∧
      ∀ keyword, first.lookup? keyword = machine.lookup? keyword := by
  obtain ⟨first, built⟩ : ∃ first, ofSetup greetingExample = .ok first := ⟨_, rfl⟩
  have switches : first.Switches
      (Directive.apply (Directive.apply first 1 "[mode vsb]") 2 "[MODE extended]") :=
    (Switches.refl.directive 1 "[mode vsb]").directive 2 "[MODE extended]"
  have off : Directive.ofText "[mode vsb]" = .extended false := by decide
  have on : Directive.ofText "[MODE extended]" = .extended true := by decide
  obtain ⟨finds, alike⟩ := finds_of_switches built switches
  refine ⟨first, _, built, rfl, ?_, ?_, finds, (alike _ first first rfl built .refl ?_).1⟩
  · cases built
    rfl
  · cases built
    simp only [Directive.apply, off, on]
    rfl
  · cases built
    simp only [Directive.apply, off, on]
    rfl

end Machine

end LineScript
