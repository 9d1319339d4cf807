import LineScript.Machine.Effect
import Mathlib.Data.List.Basic

/-!
What no instruction changes. An instruction that neither moves in the script nor starts anything
keeps the settings, the modes and its place; it takes replies from the front of those to come. Only
a few instructions can end with an exception as long as no extension has a say.
-/

namespace LineScript

/-! ## What is kept -/

/-- Nothing that extensions add can be reached, any number of marks can be followed, and whatever is
typed is text. -/
structure Machine.Bare (machine : Machine) : Prop where
  services : machine.services = .empty
  predefined : ∀ layer ∈ machine.predefined.layers, ∀ entry ∈ layer.2,
    ∀ behavior, entry.2 ≠ .computed behavior
  marks : machine.host.marks = none
  typed : ∀ text, .broken (.undecodable text) ∉ machine.console.replies

/-- Besides, nobody interrupts. -/
structure Machine.Plain (machine : Machine) : Prop extends machine.Bare where
  replies : .interrupt ∉ machine.console.replies

theorem mem_of_lookup {α : Type} {entries : List (String × α)} {name : String} {value : α}
    (found : entries.lookup name = some value) : (name, value) ∈ entries := by
  obtain ⟨before, after, split, -⟩ := List.lookup_eq_some_iff.mp found
  exact split ▸ List.mem_append_right before List.mem_cons_self

theorem Layers.mem_of_lookup? {α : Type} {layers : Layers α} {name : String} {meaning : α}
    (found : layers.lookup? name = some meaning) :
    ∃ layer ∈ layers.layers, (name, meaning) ∈ layer.2 := by
  obtain ⟨layer, member, entry⟩ := List.exists_of_findSome?_eq_some found
  exact ⟨layer, List.mem_reverse.mp member, mem_of_lookup entry⟩

theorem Machine.Bare.not_computed {machine : Machine} (bare : machine.Bare) {name : String}
    {behavior : VariableBehavior} :
    machine.predefined.lookup? name ≠ some (.computed behavior) := by
  intro found
  obtain ⟨layer, member, entry⟩ := Layers.mem_of_lookup? found
  exact bare.predefined layer member _ entry behavior rfl

/-- What is the same of a machine after an instruction. Replies are taken from the front. -/
structure Machine.Kept (before after : Machine) : Prop where
  settings : after.settings = before.settings
  host : after.host = before.host
  services : after.services = before.services
  predefined : after.predefined = before.predefined
  extended : after.extended = before.extended
  graphics : after.graphics = before.graphics
  frames : after.frames = before.frames
  replies : after.console.replies <:+ before.console.replies

namespace Machine.Kept

variable {first second third : Machine}

theorem refl (machine : Machine) : machine.Kept machine :=
  ⟨rfl, rfl, rfl, rfl, rfl, rfl, rfl, List.suffix_rfl⟩

theorem trans (early : first.Kept second) (late : second.Kept third) : first.Kept third where
  settings := late.settings.trans early.settings
  host := late.host.trans early.host
  services := late.services.trans early.services
  predefined := late.predefined.trans early.predefined
  extended := late.extended.trans early.extended
  graphics := late.graphics.trans early.graphics
  frames := late.frames.trans early.frames
  replies := late.replies.trans early.replies

theorem bare (kept : first.Kept second) (bare : first.Bare) : second.Bare :=
  ⟨kept.services.trans bare.services, kept.predefined ▸ bare.predefined, kept.host ▸ bare.marks,
    fun text typed => bare.typed text (kept.replies.subset typed)⟩

theorem plain (kept : first.Kept second) (plain : first.Plain) : second.Plain :=
  ⟨kept.bare plain.toBare, fun interrupt => plain.replies (kept.replies.subset interrupt)⟩

end Machine.Kept

/-- What is the same of a scope after an instruction: besides the machine, the frame is at the same
line of the same definition. A variable that was not there before has no predefined name. -/
structure Scope.Kept (before after : Scope) : Prop where
  machine : before.machine.Kept after.machine
  entry : after.frame.entry = before.frame.entry
  args : after.frame.args = before.frame.args
  cursor : after.frame.cursor = before.frame.cursor
  declared : ∀ name, after.frame.locals.has name = true →
    before.frame.locals.has name = true ∨ before.machine.predefined.contains name = false

namespace Scope.Kept

variable {first second third : Scope}

theorem ofMachine {scope : Scope} {machine : Machine} (kept : scope.machine.Kept machine) :
    scope.Kept { scope with machine } :=
  ⟨kept, rfl, rfl, rfl, fun _ => .inl⟩

theorem refl (scope : Scope) : scope.Kept scope :=
  ofMachine (.refl _)

theorem trans (early : first.Kept second) (late : second.Kept third) : first.Kept third where
  machine := early.machine.trans late.machine
  entry := late.entry.trans early.entry
  args := late.args.trans early.args
  cursor := late.cursor.trans early.cursor
  declared name present := by
    rcases late.declared name present with known | free
    · exact early.declared name known
    · exact .inr (early.machine.predefined ▸ free)

end Scope.Kept

theorem Scope.kept_report (scope : Scope) (note : Note) : scope.Kept (scope.report note) :=
  .ofMachine ⟨rfl, rfl, rfl, rfl, rfl, rfl, rfl, List.suffix_rfl⟩

theorem Scope.kept_reportAll (scope : Scope) (notes : List Note) :
    scope.Kept (scope.reportAll notes) := by
  induction notes generalizing scope with
  | nil => exact .refl scope
  | cons note rest ih => exact (scope.kept_report note).trans (ih (scope.report note))

theorem Locals.has_insert {locals : Locals} {name value other : String}
    (present : (locals.insert name value).has other = true) :
    other = name ∨ locals.has other = true := by
  rw [has, get?_insert] at present
  split at present
  · next same => exact .inl (beq_iff_eq.mp same)
  · exact .inr present

theorem Scope.kept_assign {scope : Scope} {name : String} (value : String)
    (allowed : scope.frame.locals.has name = true ∨
      scope.machine.predefined.contains name = false) :
    scope.Kept (scope.assign name value) := by
  refine ⟨.refl _, rfl, rfl, rfl, fun other present => ?_⟩
  rcases Locals.has_insert present with rfl | known
  · exact allowed
  · exact .inl known

theorem Scope.kept_getVariable (scope : Scope) (name : String) :
    scope.Kept (scope.getVariable name).2 := by
  unfold Scope.getVariable
  split
  · exact .refl scope
  · exact scope.kept_report _

theorem Scope.kept_setVariable (scope : Scope) (name value : String) :
    scope.Kept (scope.setVariable name value).2 := by
  unfold Scope.setVariable
  split
  · next known => exact scope.kept_assign value (.inl known)
  · exact scope.kept_report _

theorem Scope.kept_operands (scope : Scope) (destination : String) (rest : List String)
    (count : Nat) : scope.Kept (scope.operands destination rest count).2 := by
  unfold Scope.operands
  split
  · exact .refl scope
  · exact scope.kept_getVariable destination

theorem Console.broken_mem {console : Console} {prompt : String} {cause : Interrupted}
    (answered : (console.readLine prompt).1 = .error cause) :
    .broken cause ∈ console.replies := by
  unfold Console.readLine at answered
  split at answered <;> simp_all

theorem Console.replies_readLine (console : Console) (prompt : String) :
    (console.readLine prompt).2.replies <:+ console.replies := by
  unfold Console.readLine
  split <;> simp_all

def Scope.asked (scope : Scope) (prompt : String) : Scope :=
  { scope with machine := { scope.machine with
      console := (scope.machine.console.readLine prompt).2 } }

theorem Scope.kept_asked (scope : Scope) (prompt : String) :
    scope.Kept (scope.asked prompt) :=
  .ofMachine ⟨rfl, rfl, rfl, rfl, rfl, rfl, rfl, scope.machine.console.replies_readLine prompt⟩

/-- The scope after a look outside. -/
def Scope.looked (scope : Scope) : Scope :=
  { scope with machine := scope.machine.looked }

theorem Scope.kept_looked (scope : Scope) : scope.Kept scope.looked :=
  .ofMachine ⟨rfl, rfl, rfl, rfl, rfl, rfl, rfl, List.suffix_rfl⟩

namespace Action

variable {α β : Type} {faults : Fault → Prop}

/-- A question is left without an answer. -/
def Interrupts (scope : Scope) (fault : Fault) : Prop :=
  ∃ cause, fault = .ofInterrupted cause ∧ .broken cause ∈ scope.machine.console.replies

/-- What hampers the reading of references apart from the person at the keyboard: there is trouble
with a variable of an extension, or the host cannot follow the marks. -/
inductive Hampers (scope : Scope) : Fault → Prop where
  | refused {name : String} {behavior : VariableBehavior} {sight : Sight} {trouble : Trouble}
      (found : scope.machine.predefined.lookup? name = some (.computed behavior))
      (answered : behavior.answer sight = .error trouble) : Hampers scope trouble.fault
  | exhausted (bounded : scope.machine.host.marks ≠ none) :
      Hampers scope (.exception .tooManyMarks)

/-- The fault is one of certain faults, or a question is left without an answer, or the reading of a
reference is hampered. -/
def Arises (faults : Fault → Prop) (scope : Scope) (fault : Fault) : Prop :=
  faults fault ∨ Interrupts scope fault ∨ Hampers scope fault

namespace Arises

variable {scope after : Scope} {fault : Fault}

theorem weaken {fewer : Fault → Prop} (arises : Arises fewer scope fault)
    (included : ∀ fault, fewer fault → faults fault) : Arises faults scope fault :=
  arises.imp_left (included fault)

theorem earlier (arises : Arises faults after fault) (kept : scope.Kept after) :
    Arises faults scope fault := by
  refine arises.imp_right (Or.imp ?_ ?_)
  · rintro ⟨cause, same, typed⟩
    exact ⟨cause, same, kept.machine.replies.subset typed⟩
  · rintro (⟨found, answered⟩ | bounded)
    · exact .refused (kept.machine.predefined ▸ found) answered
    · exact .exhausted (kept.machine.host ▸ bounded)

/-- Only instructions complain that their arguments are unreadable. -/
theorem unreadable {text : String} (arises : Arises faults scope (.unreadable text)) :
    faults (.unreadable text) := by
  generalize same : Fault.unreadable text = fault at arises
  rcases arises with expected | ⟨cause, rfl, -⟩ | ⟨found, answered⟩ | bounded
  · exact expected
  · cases cause <;> cases same
  · next trouble => cases trouble <;> cases same
  · cases same

theorem ofBare (arises : Arises faults scope fault) (bare : scope.machine.Bare) :
    faults fault ∨ (fault = .interrupted ∧ .interrupt ∈ scope.machine.console.replies) := by
  rcases arises with expected | ⟨keyboard | text, same, typed⟩ | ⟨found, -⟩ | bounded
  · exact .inl expected
  · exact .inr ⟨same, typed⟩
  · exact absurd typed (bare.typed text)
  · exact absurd found bare.not_computed
  · exact absurd bare.marks bounded

theorem ofPlain (arises : Arises faults scope fault) (plain : scope.machine.Plain) :
    faults fault := by
  rcases arises.ofBare plain.toBare with expected | ⟨-, interrupt⟩
  · exact expected
  · exact absurd interrupt plain.replies

end Arises

/-- The action keeps the scope, however it ends, and it ends early only with certain faults, unless
a question is left without an answer or the reading of a reference is hampered. -/
def KeepsAt (faults : Fault → Prop) (action : Action α) (scope : Scope) : Prop :=
  match action scope with
  | .ok _ after => scope.Kept after
  | .error fault after => scope.Kept after ∧ Arises faults scope fault

def Keeps (faults : Fault → Prop) (action : Action α) : Prop :=
  ∀ scope, KeepsAt faults action scope

theorem Keeps.keepsAt {action : Action α} (keeps : Keeps faults action) (scope : Scope) :
    KeepsAt faults action scope :=
  keeps scope

theorem Keeps.ok {action : Action α} (keeps : Keeps faults action) {scope after : Scope} {value : α}
    (result : action scope = .ok value after) : scope.Kept after := by
  have here := keeps scope
  rwa [KeepsAt, result] at here

theorem Keeps.raised {action : Action α} (keeps : Keeps faults action) {scope after : Scope}
    {fault : Fault} (result : action scope = .error fault after) :
    scope.Kept after ∧ Arises faults scope fault := by
  have here := keeps scope
  rwa [KeepsAt, result] at here

theorem Keeps.fault {action : Action α} (keeps : Keeps faults action) {scope after : Scope}
    {fault : Fault} (result : action scope = .error fault after) :
    scope.Kept after ∧ (scope.machine.Bare → faults fault ∨
      (fault = .interrupted ∧ .interrupt ∈ scope.machine.console.replies)) :=
  ⟨(keeps.raised result).1, (keeps.raised result).2.ofBare⟩

theorem Keeps.error {action : Action α} (keeps : Keeps faults action) {scope after : Scope}
    {fault : Fault} (result : action scope = .error fault after) :
    scope.Kept after ∧ (scope.machine.Plain → faults fault) :=
  ⟨(keeps.raised result).1, (keeps.raised result).2.ofPlain⟩

theorem Keeps.weaken {fewer : Fault → Prop} {action : Action α} (keeps : Keeps fewer action)
    (included : ∀ fault, fewer fault → faults fault) : Keeps faults action := by
  intro scope
  unfold KeepsAt
  split
  · next result => exact keeps.ok result
  · next result =>
      obtain ⟨kept, arises⟩ := keeps.raised result
      exact ⟨kept, arises.weaken included⟩

theorem keeps_pure (value : α) : Keeps faults (pure value : Action α) :=
  fun scope => .refl scope

theorem bind_apply (first : Action α) (next : α → Action β) (scope : Scope) :
    (first >>= next) scope =
      match first scope with
      | .ok value after => next value after
      | .error fault after => .error fault after := by
  change EStateM.bind first next scope = _
  unfold EStateM.bind
  cases first scope <;> rfl

theorem get_bind (next : Scope → Action α) (scope : Scope) :
    (get >>= next) scope = next scope scope :=
  rfl

theorem onScope_bind (change : Scope → α × Scope) (next : α → Action β) (scope : Scope) :
    (onScope change >>= next) scope = next (change scope).1 (change scope).2 :=
  rfl

theorem bind_ok {first : Action α} {next : α → Action β} {scope after : Scope}
    {value : β} (result : (first >>= next) scope = .ok value after) :
    ∃ early middle, first scope = .ok early middle ∧ next early middle = .ok value after := by
  rw [bind_apply] at result
  split at result
  · exact ⟨_, _, ‹_›, result⟩
  · cases result

/-- The one action does what the other one does, unless it comes upon too many marks. -/
def Curtails (first second : Action α) : Prop :=
  ∀ scope, first scope = second scope ∨
    ∃ after, first scope = .error (.exception .tooManyMarks) after

theorem Curtails.refl (action : Action α) : Curtails action action :=
  fun _ => .inl rfl

theorem Curtails.bind {first second : Action α} {next after : α → Action β}
    (curtails : Curtails first second)
    (curtailsNext : ∀ value, Curtails (next value) (after value)) :
    Curtails (first >>= next) (second >>= after) := by
  intro scope
  rw [bind_apply, bind_apply]
  rcases curtails scope with same | ⟨last, cut⟩
  · rw [same]
    cases second scope with
    | ok value middle => exact curtailsNext value middle
    | error fault last => exact .inl rfl
  · rw [cut]
    exact .inr ⟨last, rfl⟩

theorem Curtails.ok {first second : Action α} (curtails : Curtails first second)
    {scope after : Scope} {value : α} (result : first scope = .ok value after) :
    second scope = .ok value after := by
  rcases curtails scope with same | ⟨last, cut⟩
  · rw [← same, result]
  · rw [cut] at result
    cases result

theorem keepsAt_bind {first : Action α} {next : α → Action β} {scope : Scope}
    (keepsFirst : KeepsAt faults first scope)
    (keepsNext : ∀ value middle, scope.Kept middle → KeepsAt faults (next value) middle) :
    KeepsAt faults (first >>= next) scope := by
  rw [KeepsAt, bind_apply]
  cases early : first scope with
  | error fault after => rwa [KeepsAt, early] at keepsFirst
  | ok value middle =>
      rw [KeepsAt, early] at keepsFirst
      have keepsLate := keepsNext value middle keepsFirst
      cases late : next value middle with
      | ok value after =>
          rw [KeepsAt, late] at keepsLate
          simp only [late]
          exact keepsFirst.trans keepsLate
      | error fault after =>
          rw [KeepsAt, late] at keepsLate
          simp only [late]
          exact ⟨keepsFirst.trans keepsLate.1, keepsLate.2.earlier keepsFirst⟩

theorem keeps_bind {first : Action α} {next : α → Action β} (keepsFirst : Keeps faults first)
    (keepsNext : ∀ value, Keeps faults (next value)) : Keeps faults (first >>= next) :=
  fun scope => keepsAt_bind (keepsFirst scope) fun value middle _ => keepsNext value middle

theorem keeps_get {next : Scope → Action α} (keeps : ∀ scope, KeepsAt faults (next scope) scope) :
    Keeps faults (get >>= next) :=
  keeps

theorem keeps_throw {fault : Fault} (expected : faults fault) :
    Keeps faults (throw fault : Action α) :=
  fun scope => ⟨.refl scope, .inl expected⟩

theorem keeps_onScope {change : Scope → α × Scope}
    (keeps : ∀ scope : Scope, scope.Kept (change scope).2) : Keeps faults (onScope change) :=
  keeps

theorem keeps_onMachine {change : Machine → Machine}
    (keeps : ∀ machine : Machine, machine.Kept (change machine)) : Keeps faults (onMachine change) :=
  fun scope => .ofMachine (keeps scope.machine)

theorem keeps_report (level : Level) (text : String) (code : Code) :
    Keeps faults (report level text code) :=
  fun scope => scope.kept_report _

theorem keeps_take (computed : Computed α) : Keeps faults (take computed) :=
  fun scope => scope.kept_reportAll computed.notes

theorem keeps_getVariable (name : String) : Keeps faults (getVariable name) :=
  fun scope => scope.kept_getVariable name

theorem keeps_setVariable (name value : String) : Keeps faults (setVariable name value) :=
  fun scope => scope.kept_setVariable name value

theorem keeps_raise {exception : Exception} (expected : faults (.exception exception)) :
    Keeps faults (raise exception : Action α) :=
  keeps_throw expected

theorem keeps_forM {action : α → Action Unit} (keeps : ∀ value, Keeps faults (action value))
    (values : List α) : Keeps faults (values.forM action) := by
  induction values with
  | nil => exact keeps_pure ()
  | cons value rest ih => exact keeps_bind (keeps value) fun _ => ih

theorem keeps_mapM {action : α → Action β} (keeps : ∀ value, Keeps faults (action value))
    (values : List α) : Keeps faults (values.mapM action) := by
  induction values with
  | nil => exact keeps_pure []
  | cons value rest ih =>
      rw [List.mapM_cons]
      exact keeps_bind (keeps value) fun _ => keeps_bind ih fun _ => keeps_pure _

theorem keeps_store {change : Machine → Machine}
    (same : ∀ machine, (change machine).settings = machine.settings ∧
      (change machine).host = machine.host ∧
      (change machine).services = machine.services ∧
      (change machine).predefined = machine.predefined ∧
      (change machine).extended = machine.extended ∧
      (change machine).graphics = machine.graphics ∧
      (change machine).frames = machine.frames ∧
      (change machine).console = machine.console) : Keeps faults (onMachine change) := by
  refine keeps_onMachine fun machine => ?_
  obtain ⟨settings, host, services, predefined, extended, graphics, frames, console⟩ := same machine
  exact ⟨settings, host, services, predefined, extended, graphics, frames,
    console ▸ List.suffix_rfl⟩

theorem keeps_observe : Keeps faults observe :=
  fun scope => scope.kept_looked

theorem readLine_eq (prompt : String) (scope : Scope) :
    readLine prompt scope =
      match (scope.machine.console.readLine prompt).1 with
      | .ok text => .ok text (scope.asked prompt)
      | .error cause => .error (.ofInterrupted cause) (scope.asked prompt) := by
  change (match (scope.machine.console.readLine prompt).1 with
    | .ok text => return text
    | .error cause => throw (.ofInterrupted cause) : Action String) (scope.asked prompt) = _
  cases (scope.machine.console.readLine prompt).1 <;> rfl

theorem confirm_eq (question : String) (scope : Scope) :
    confirm question scope =
      match (scope.machine.console.readLine (question ++ " [y/n] ")).1 with
      | .ok text => .ok (Console.isYes text) (scope.asked (question ++ " [y/n] "))
      | .error cause => .error (.ofInterrupted cause) (scope.asked (question ++ " [y/n] ")) := by
  have answer : (scope.machine.confirm question).1 =
      (scope.machine.console.readLine (question ++ " [y/n] ")).1.map Console.isYes := rfl
  unfold confirm
  rw [onScope_bind, answer]
  cases (scope.machine.console.readLine (question ++ " [y/n] ")).1 <;> rfl

theorem keeps_readLine (prompt : String) : Keeps faults (readLine prompt) := by
  intro scope
  rw [KeepsAt, readLine_eq]
  have kept := scope.kept_asked prompt
  cases answered : (scope.machine.console.readLine prompt).1 with
  | ok text => exact kept
  | error cause =>
      exact ⟨kept, .inr (.inl ⟨cause, rfl, Console.broken_mem answered⟩)⟩

theorem keeps_confirm (question : String) : Keeps faults (confirm question) := by
  intro scope
  rw [KeepsAt, confirm_eq]
  have kept := scope.kept_asked (question ++ " [y/n] ")
  cases answered : (scope.machine.console.readLine (question ++ " [y/n] ")).1 with
  | ok text => exact kept
  | error cause =>
      exact ⟨kept, .inr (.inl ⟨cause, rfl, Console.broken_mem answered⟩)⟩

end Action

/-! ## References -/

namespace Reference

open LineScript.Action

variable {faults : Fault → Prop}

/-- Somewhere in the reference the host has to give up. -/
def Cut : Reference → Prop
  | literal _ | predefined _ | named _ | pointless _ => False
  | cell index | argument index => index.Cut
  | character index target => index.Cut ∨ target.Cut
  | negation of => of.Cut
  | exhausted => True

theorem not_cut_ofChars (extended : Bool) (chars : List Char) : ¬ (ofChars extended chars).Cut := by
  fun_induction ofChars extended chars <;> simp_all [Cut]

theorem evalPredefined_computed (behavior : VariableBehavior) (scope : Scope) :
    evalPredefined (.computed behavior) scope =
      match behavior.answer scope.machine.sight with
      | .ok text => .ok text scope.looked
      | .error trouble => .error trouble.fault scope.looked := by
  change (match behavior.answer scope.machine.sight with
    | .ok text => return text
    | .error trouble => throw trouble.fault : Action String) scope.looked = _
  cases behavior.answer scope.machine.sight <;> rfl

theorem keepsAt_evalPredefined {scope : Scope} {name : String} {meaning : Predefined}
    (found : scope.machine.predefined.lookup? name = some meaning) :
    KeepsAt faults (evalPredefined meaning) scope := by
  cases meaning with
  | computed behavior =>
      rw [KeepsAt, evalPredefined_computed]
      cases answered : behavior.answer scope.machine.sight with
      | ok text => exact scope.kept_looked
      | error trouble => exact ⟨scope.kept_looked, .inr (.inr (.refused found answered))⟩
  | ask => exact keeps_readLine "" scope
  | promptedAsk => exact keeps_readLine "> " scope
  | confirmation => exact keeps_bind (keeps_confirm _) (fun _ => keeps_pure _) scope
  | _ => first | exact Scope.Kept.refl scope | exact scope.kept_looked

theorem keeps_indexOf (text : String) : Keeps faults (indexOf text) := by
  unfold indexOf
  split
  · exact keeps_pure _
  · exact keeps_bind (keeps_report _ _ _) fun _ => keeps_pure _

theorem keeps_cellAt (index : Int) : Keeps faults (cellAt index) := by
  refine keeps_get fun scope => ?_
  dsimp only
  split
  · exact keeps_pure _ scope
  · exact keeps_bind (keeps_report _ _ _) (fun _ => keeps_pure _) scope

theorem keeps_characterAt (text : String) (index : Int) : Keeps faults (characterAt text index) := by
  unfold characterAt
  split
  · exact keeps_pure _
  · exact keeps_bind (keeps_report _ _ _) fun _ => keeps_pure _

theorem keeps_argumentAt (index : Int) : Keeps faults (argumentAt index) := by
  refine keeps_get fun scope => ?_
  dsimp only
  split
  · exact keeps_pure _ scope
  · exact keeps_bind (keeps_report _ _ _) (fun _ => keeps_pure _) scope

theorem keeps_eval {reference : Reference}
    (given : reference.Cut → faults (.exception .tooManyMarks)) : Keeps faults reference.eval := by
  induction reference with
  | literal text => exact keeps_pure text
  | predefined name =>
      refine keeps_get fun scope => ?_
      split
      · next found => exact keepsAt_evalPredefined found
      · exact keeps_pure _ scope
  | named name => exact keeps_getVariable name
  | cell index ih =>
      refine keeps_bind (ih given) fun _ => keeps_bind (keeps_indexOf _) fun found => ?_
      cases found with
      | some index => exact keeps_cellAt index
      | none => exact keeps_pure _
  | character index target ihIndex ihTarget =>
      refine keeps_bind (ihIndex (given ∘ .inl)) fun _ =>
        keeps_bind (keeps_indexOf _) fun found => ?_
      refine keeps_bind (ihTarget (given ∘ .inr)) fun text => ?_
      cases found with
      | some index => exact keeps_characterAt text index
      | none => exact keeps_pure _
  | pointless text => exact keeps_bind (keeps_report _ _ _) fun _ => keeps_pure _
  | negation reference ih => exact keeps_bind (ih given) fun _ => keeps_pure _
  | argument index ih =>
      refine keeps_bind (ih given) fun _ => keeps_bind (keeps_indexOf _) fun found => ?_
      cases found with
      | some index => exact keeps_argumentAt index
      | none => exact keeps_pure _
  | exhausted => exact keeps_raise (given trivial)

theorem keeps_resolve (text : String) : Keeps faults (resolve text) :=
  keeps_get fun scope => keeps_eval (fun cut => (not_cut_ofChars _ _ cut).elim) scope

theorem keeps_read (text : String) : Keeps faults (read text) := by
  refine keeps_get fun scope => ?_
  dsimp only
  unfold within
  split
  · next marks bounded =>
      -- A reference that is cut ends with an exception that only a host with a bound raises.
      have keeps : Keeps (fun fault => faults fault ∨ fault = .exception .tooManyMarks)
          ((ofChars scope.machine.extended text.toList).upTo marks).eval :=
        keeps_eval fun _ => .inr rfl
      unfold KeepsAt
      split
      · next result => exact keeps.ok result
      · next result =>
          obtain ⟨kept, (expected | rfl) | hampered⟩ := keeps.raised result
          · exact ⟨kept, .inl expected⟩
          · exact ⟨kept, .inr (.inr (.exhausted (by rw [bounded]; nofun)))⟩
          · exact ⟨kept, .inr hampered⟩
  · exact keeps_eval (fun cut => (not_cut_ofChars _ _ cut).elim) scope

theorem curtails_upTo (marks : Nat) (reference : Reference) :
    Curtails (reference.upTo marks).eval reference.eval := by
  induction reference generalizing marks with
  | cell index ih =>
      unfold upTo
      split
      · exact fun scope => .inr ⟨scope, rfl⟩
      · exact (ih _).bind fun _ => .refl _
  | character index target ihIndex ihTarget =>
      unfold upTo
      split
      · exact fun scope => .inr ⟨scope, rfl⟩
      · exact (ihIndex _).bind fun _ => (Curtails.refl _).bind fun _ =>
          (ihTarget _).bind fun _ => .refl _
  | negation reference ih =>
      unfold upTo
      split
      · exact fun scope => .inr ⟨scope, rfl⟩
      · exact (ih _).bind fun _ => .refl _
  | argument index ih =>
      unfold upTo
      split
      · exact fun scope => .inr ⟨scope, rfl⟩
      · exact (ih _).bind fun _ => .refl _
  | _ => exact .refl _

theorem curtails_within (host : Host) (reference : Reference) :
    Curtails (reference.within host).eval reference.eval := by
  unfold within
  split
  · exact curtails_upTo _ reference
  · exact .refl _

theorem keeps_resolveAll (pieces : List Piece) : Keeps faults (resolveAll pieces) := by
  refine keeps_mapM (fun piece => ?_) pieces
  unfold resolvePiece
  split
  · exact keeps_pure _
  · exact keeps_read _

theorem length_resolveAll {pieces : List Piece} {args : List String} {scope after : Scope}
    (resolved : resolveAll pieces scope = .ok args after) : args.length = pieces.length := by
  induction pieces generalizing args scope with
  | nil =>
      cases resolved
      rfl
  | cons piece rest ih =>
      rw [resolveAll, List.mapM_cons] at resolved
      obtain ⟨value, middle, -, resolved⟩ := bind_ok resolved
      obtain ⟨values, last, others, resolved⟩ := bind_ok resolved
      cases resolved
      rw [List.length_cons, List.length_cons, ih others]

end Reference

end LineScript
