import LineScript.Program
import LineScript.Proofs.Guise.Instruction

/-!
Runs with their places left out. Two machines are alike that differ only in the lines of their
messages and in what has been recorded of the run; an action does the same from scopes that are
alike, and so do the hooks.
-/

namespace LineScript

/-! ## What is left out -/

def Message.unplaced (message : Message) : Message :=
  { message with line := 0 }

/-- What a run looks like without the lines that are named in it and without what has been recorded
of it. -/
def Guise.unplaced : Guise where
  settings := id
  log log := ⟨log.newest.map Message.unplaced⟩
  trace _ := []
  events _ := []
  cursor _ := .start
  line _ := 0
  line_cursor _ := rfl
  log_emit _ _ _ := rfl

def Machine.unplaced (machine : Machine) : Machine :=
  Guise.unplaced.machine machine

def Frame.unplaced (frame : Frame) : Frame :=
  Guise.unplaced.frame frame

def Scope.unplaced (scope : Scope) : Scope :=
  ⟨scope.machine.unplaced, scope.frame.unplaced⟩

def Fault.unplaced (fault : Fault) : Fault :=
  Guise.unplaced.fault fault

def Activation.unplaced (activation : Activation) : Activation :=
  { activation with frame := activation.frame.unplaced }

def ProgramRun.unplaced (run : ProgramRun) : ProgramRun where
  result := run.result.mapError Fault.unplaced
  machine := run.machine.unplaced
  left := run.left.map Activation.unplaced
  locals := run.locals

/-! ## Actions -/

inductive Action.Agree {α : Type} (same : α → α → Prop) :
    EStateM.Result Fault Scope α → EStateM.Result Fault Scope α → Prop where
  | ok {value other : α} {scope last : Scope} (values : same value other)
      (alike : scope.unplaced = last.unplaced) : Agree same (.ok value scope) (.ok other last)
  | error {fault other : Fault} {scope last : Scope} (faults : fault.unplaced = other.unplaced)
      (alike : scope.unplaced = last.unplaced) : Agree same (.error fault scope) (.error other last)

namespace Action

variable {α : Type} {first second core : Action α} {scope last : Scope}

theorem agree_of_carries {change : α → α} (carries : Guise.unplaced.Carries change first core)
    (carriesOther : Guise.unplaced.Carries change second core)
    (alike : scope.unplaced = last.unplaced) :
    Agree (fun value other => change value = change other) (first scope) (second last) := by
  have one : core scope.unplaced = Guise.unplaced.result change (first scope) := carries scope
  have two : core last.unplaced = Guise.unplaced.result change (second last) := carriesOther last
  have same : Guise.unplaced.result change (first scope) =
      Guise.unplaced.result change (second last) := by rw [← one, ← two, alike]
  cases ended : first scope with
  | ok value after =>
      cases endedOther : second last with
      | ok other final =>
          rw [ended, endedOther] at same
          obtain ⟨values, scopes⟩ := EStateM.Result.ok.inj same
          exact .ok values scopes
      | error fault final =>
          rw [ended, endedOther] at same
          cases same
  | error fault after =>
      cases endedOther : second last with
      | ok other final =>
          rw [ended, endedOther] at same
          cases same
      | error other final =>
          rw [ended, endedOther] at same
          obtain ⟨faults, scopes⟩ := EStateM.Result.error.inj same
          exact .error faults scopes

theorem agree_of_uniform (uniform : Guise.unplaced.Uniform first)
    (alike : scope.unplaced = last.unplaced) : Agree (· = ·) (first scope) (first last) :=
  agree_of_carries uniform uniform alike

end Action

/-! ## Scopes and machines -/

namespace Machine

variable {machine other : Machine}

theorem unplaced_settings (alike : machine.unplaced = other.unplaced) :
    machine.settings = other.settings := by
  have same : machine.unplaced.settings = other.unplaced.settings := by rw [alike]
  exact same

theorem unplaced_lookup? (alike : machine.unplaced = other.unplaced) (keyword : String) :
    machine.lookup? keyword = other.lookup? keyword :=
  congrArg (·.lookup? keyword) alike

theorem unplaced_report (alike : machine.unplaced = other.unplaced) (line place : Int)
    (note : Note) : (machine.report line note).unplaced = (other.report place note).unplaced :=
  congrArg (·.report 0 note) alike

theorem unplaced_checkDepth (alike : machine.unplaced = other.unplaced) (depth line place : Nat) :
    (machine.checkDepth depth line = none ∧ other.checkDepth depth place = none) ∨
    ∃ fault after last, machine.checkDepth depth line = some (fault, after) ∧
      other.checkDepth depth place = some (fault, last) ∧ after.unplaced = last.unplaced := by
  unfold checkDepth
  rw [unplaced_settings alike]
  cases other.settings.maxDepth with
  | none => exact .inr ⟨_, _, _, rfl, rfl, alike⟩
  | some limit =>
      dsimp only
      split
      · exact .inr ⟨_, _, _, rfl, rfl, unplaced_report alike _ _ _⟩
      · exact .inl ⟨rfl, rfl⟩

structure Heard (answer other : Machine × Option Fault) : Prop where
  machine : answer.1.unplaced = other.1.unplaced
  fault : answer.2.map Fault.unplaced = other.2.map Fault.unplaced

theorem Heard.cases {answer told : Machine × Option Fault} (heard : Heard answer told) :
    (answer.2 = none ∧ told.2 = none) ∨ ∃ fault given, answer.2 = some fault ∧
      told.2 = some given ∧ fault.unplaced = given.unplaced := by
  have faults := heard.fault
  cases answered : answer.2 with
  | none =>
      rw [answered] at faults
      exact .inl ⟨rfl, Option.map_eq_none_iff.mp faults.symm⟩
  | some fault =>
      rw [answered] at faults
      obtain ⟨given, answeredOther, same⟩ := Option.map_eq_some_iff.mp faults.symm
      exact .inr ⟨fault, given, rfl, answeredOther, same.symm⟩

theorem unplaced_hookFault (line place : Nat) (event : String) (trouble : Trouble) :
    (hookFault line event trouble).unplaced = (hookFault place event trouble).unplaced := by
  cases trouble <;> rfl

theorem heard_callHandlers (alike : machine.unplaced = other.unplaced) {line place : Nat}
    {detail told : EventDetail} (events : detail.event = told.event)
    (handlers : List (Handler HookBehavior)) :
    Heard (machine.callHandlers line detail handlers) (other.callHandlers place told handlers) := by
  induction handlers generalizing machine other with
  | nil => exact ⟨alike, rfl⟩
  | cons handler rest ih =>
      have sights : machine.unplaced.sight = other.unplaced.sight := by rw [alike]
      change machine.sight = other.sight at sights
      unfold callHandlers
      rw [sights, events]
      have later : ∀ texts, (machine.looked.recorded detail texts).unplaced =
          (other.looked.recorded told texts).unplaced := fun _ => congrArg looked alike
      dsimp only
      split
      · exact ih (later _)
      · exact ⟨later _, congrArg some (unplaced_hookFault _ _ _ _)⟩

theorem heard_announce (alike : machine.unplaced = other.unplaced) (line place : Nat)
    {detail told : EventDetail} (events : detail.event = told.event) :
    Heard (machine.announce line detail) (other.announce place told) := by
  have services : machine.unplaced.services = other.unplaced.services := by rw [alike]
  change machine.services = other.services at services
  unfold announce
  rw [services, events]
  exact heard_callHandlers alike events _

end Machine

namespace Directive

theorem unplaced_apply (machine : Machine) (line : Int) (text : String) :
    (apply machine line text).unplaced = apply machine.unplaced 0 text := by
  unfold apply
  split <;> rfl

theorem unplaced_applyLines (machine : Machine) (number : Nat) (texts : List String) :
    (applyLines machine number texts).unplaced =
      (texts.filter isDirective).foldl (fun machine text => apply machine 0 text)
        machine.unplaced := by
  induction texts generalizing machine number with
  | nil => rfl
  | cons text rest ih =>
      unfold applyLines
      rw [ih, List.filter_cons]
      split
      · rw [unplaced_apply, List.foldl_cons]
      · rfl

end Directive

namespace Scope

variable {scope other : Scope}

theorem unplaced_mk {machine last : Machine} {frame later : Frame}
    (machines : machine.unplaced = last.unplaced) (frames : frame.unplaced = later.unplaced) :
    Scope.unplaced ⟨machine, frame⟩ = Scope.unplaced ⟨last, later⟩ := by
  unfold Scope.unplaced
  rw [machines, frames]

theorem unplaced_machine (alike : scope.unplaced = other.unplaced) :
    scope.machine.unplaced = other.machine.unplaced :=
  congrArg Scope.machine alike

theorem unplaced_frame (alike : scope.unplaced = other.unplaced) :
    scope.frame.unplaced = other.frame.unplaced :=
  congrArg Scope.frame alike

theorem unplaced_report (alike : scope.unplaced = other.unplaced) (note : Note) :
    (scope.report note).unplaced = (other.report note).unplaced :=
  unplaced_mk (Machine.unplaced_report (unplaced_machine alike) _ _ _) (unplaced_frame alike)

theorem unplaced_failure (alike : scope.unplaced = other.unplaced) (kind : FailureKind)
    (message : String) (code : Code) :
    Fault.unplaced (.failure (scope.failure kind message code)) =
      Fault.unplaced (.failure (other.failure kind message code)) :=
  congrArg (fun scope => Fault.failure (Scope.failure scope kind message code)) alike

theorem unplaced_branchTaken (alike : scope.unplaced = other.unplaced) (args : List String) :
    Effect.branchTaken scope args = Effect.branchTaken other args := by
  have same : Effect.branchTaken scope.unplaced args = Effect.branchTaken other.unplaced args := by
    rw [alike]
  cases args with
  | nil => exact same
  | cons first rest => cases rest <;> exact same

end Scope

end LineScript
