import LineScript.Proofs.Dispatch
import LineScript.Proofs.Remark
import Mathlib.Data.Bool.AllAny

/-!
Lines that come to nothing. Reading an argument can go wrong in many places, and each time there is
an error. What stands for the argument then, or what is made of that on the way, is one of a few
texts, and none of them is a number or a colour. A line that does not come to its instruction stops
the run or is told to be wrong by an error.
-/

namespace LineScript

open LineScript.Action

def Log.GainsError (before after : Log) : Prop :=
  ∃ messages, after.newest = messages ++ before.newest ∧
    ∃ message ∈ messages, message.level = .error

theorem Log.not_gainsError (log : Log) : ¬ log.GainsError log := by
  rintro ⟨messages, same, message, member, -⟩
  rw [List.self_eq_append_left.mp same] at member
  cases member

theorem Log.Gains.gainsError {fits : Message → Prop} {first second third : Log}
    (early : first.Gains fits second) (late : second.GainsError third) :
    first.GainsError third := by
  obtain ⟨before, split, -⟩ := early
  obtain ⟨after, splitAfter, message, member, error⟩ := late
  refine ⟨after ++ before, ?_, message, List.mem_append_left _ member, error⟩
  rw [splitAfter, split, List.append_assoc]

namespace Scope

theorem newest_reportAll (scope : Scope) (notes : List Note) :
    (scope.reportAll notes).machine.log.newest =
      (notes.map (·.onLine scope.frame.cursor.line)).reverse ++ scope.machine.log.newest := by
  induction notes generalizing scope with
  | nil => rfl
  | cons note rest ih =>
      change ((scope.report note).reportAll rest).machine.log.newest = _
      rw [ih, List.map_cons, List.reverse_cons, List.append_assoc]
      rfl

theorem gainsError_reportAll {notes : List Note} {note : Note} (scope : Scope)
    (listed : note ∈ notes) (error : note.level = .error) :
    scope.machine.log.GainsError (scope.reportAll notes).machine.log :=
  ⟨_, scope.newest_reportAll notes, _,
    List.mem_reverse.mpr (List.mem_map_of_mem listed), error⟩

theorem gainsError_report {note : Note} (scope : Scope) (error : note.level = .error) :
    scope.machine.log.GainsError (scope.report note).machine.log :=
  scope.gainsError_reportAll (List.mem_singleton_self note) error

end Scope

/-! ## Arguments that cannot be read -/

namespace Reference

/-- The texts that stand for something that could not be read, what a negation makes of them, and
the characters of all these. -/
def substitutes : List String :=
  [nullText, "true", "false", "N", "U", "L", "t", "r", "u", "e", "f", "a", "l", "s"]

theorem parseInt?_substitute : ∀ text ∈ substitutes, Number.parseInt? text = none := by
  decide +kernel

theorem ofHex?_substitute : ∀ text ∈ substitutes, Color.ofHex? text = none := by
  decide +kernel

theorem character_substitute :
    ∀ text ∈ substitutes, ∀ c ∈ text.toList, String.singleton c ∈ substitutes := by
  have characters : ∀ text ∈ substitutes,
      text.toList.all fun c => String.singleton c ∈ substitutes := by
    decide +kernel
  exact fun text listed => List.all_iff_forall_prop.mp (characters text listed)

theorem null_mem_substitutes : nullText ∈ substitutes := by
  decide

theorem boolText_mem_substitutes (truth : Bool) : boolText truth ∈ substitutes := by
  cases truth <;> decide

def Substitutes (action : Action String) : Prop :=
  ∀ scope value after, action scope = .ok value after →
    after.machine.log = scope.machine.log ∨ value ∈ substitutes

theorem substitutes_of_alters {action : Action String} (alters : Alters [.console] action) :
    Substitutes action :=
  fun _ _ _ result => .inl ((alters.ok result).others .log (by decide))

theorem substitutes_pure (value : String) : Substitutes (pure value) :=
  substitutes_of_alters (alters_pure value)

theorem substitutes_get {next : Scope → Action String}
    (substitutes : ∀ scope, Substitutes (next scope)) : Substitutes (get >>= next) :=
  fun scope value after result => substitutes scope scope value after result

theorem substitutes_instead (note : Note) : Substitutes (do
    Action.report note.level note.text note.code
    return nullText) := by
  rintro scope value after ⟨⟩
  exact .inr null_mem_substitutes

theorem alters_evalPredefined (meaning : Predefined) :
    Alters [.console] (evalPredefined meaning) := by
  have asked (prompt : String) : Alters [.console] (readLine prompt) := fun scope => by
    rw [lastScope_readLine]
    exact scope.alters_console _ (by simp)
  have looked (scope : Scope) : scope.Alters [.console] scope.looked :=
    scope.alters_console _ (by simp)
  cases meaning with
  | computed behavior =>
      intro scope
      rw [evalPredefined_computed]
      cases behavior.answer scope.machine.sight <;> exact looked scope
  | ask => exact asked ""
  | promptedAsk => exact asked "> "
  | confirmation =>
      refine alters_bind (fun scope => ?_) fun _ => alters_pure _
      rw [lastScope_confirm]
      exact scope.alters_console _ (by simp)
  | _ => first | exact fun scope => .refl scope | exact looked

theorem substitutes_getVariable (name : String) : Substitutes (Action.getVariable name) := by
  intro scope value after result
  change EStateM.Result.ok (scope.getVariable name).1 (scope.getVariable name).2 = _ at result
  unfold Scope.getVariable at result
  split at result
  · cases result
    exact .inl rfl
  · cases result
    exact .inr null_mem_substitutes

theorem substitutes_cellAt (index : Int) : Substitutes (cellAt index) := by
  refine substitutes_get fun scope => ?_
  dsimp only
  split
  · exact substitutes_pure _
  · exact substitutes_instead ⟨_, _, _⟩

theorem substitutes_argumentAt (index : Int) : Substitutes (argumentAt index) := by
  refine substitutes_get fun scope => ?_
  dsimp only
  split
  · exact substitutes_pure _
  · exact substitutes_instead ⟨_, _, _⟩

theorem substitutes_character {target : Action String} (read : Substitutes target)
    (index : Int) : Substitutes (do characterAt (← target) index) := by
  intro scope value after result
  obtain ⟨text, middle, found, last⟩ := bind_ok result
  unfold characterAt at last
  cases taken : if index < 0 then none else text.toList[index.toNat]? with
  | some c =>
      rw [taken] at last
      cases last
      refine (read scope text _ found).imp_right fun listed =>
        character_substitute text listed c ?_
      split at taken
      · cases taken
      · exact List.mem_of_getElem? taken
  | none =>
      rw [taken] at last
      cases last
      exact .inr null_mem_substitutes

theorem substitutes_index {first : Action String} {next : Option Int → Action String}
    (read : Substitutes first)
    (missing : ∀ scope value after, next none scope = .ok value after → value = nullText)
    (found : ∀ index, Substitutes (next (some index))) :
    Substitutes (do next (← indexOf (← first))) := by
  intro scope value after result
  obtain ⟨text, middle, given, rest⟩ := bind_ok result
  obtain ⟨index, later, indexed, last⟩ := bind_ok rest
  unfold indexOf at indexed
  cases parsed : Number.parseInt? text with
  | some number =>
      rw [parsed] at indexed
      cases indexed
      rcases read scope text middle given with same | listed
      · exact (found _ _ _ _ last).imp_left fun log => log.trans same
      · rw [parseInt?_substitute text listed] at parsed
        cases parsed
  | none =>
      rw [parsed] at indexed
      cases indexed
      exact .inr (missing _ _ _ last ▸ null_mem_substitutes)

/-- If anything is said about a reference, its value is a substitute. -/
theorem substitutes_eval (reference : Reference) : Substitutes reference.eval := by
  have replaced (scope after : Scope) (value : String)
      (result : (pure nullText : Action String) scope = .ok value after) : value = nullText := by
    cases result
    rfl
  induction reference with
  | literal text => exact substitutes_pure text
  | predefined name =>
      refine substitutes_get fun scope => ?_
      split
      · exact substitutes_of_alters (alters_evalPredefined _)
      · exact substitutes_pure _
  | named name => exact substitutes_getVariable name
  | cell index ih => exact substitutes_index ih (fun _ _ _ => replaced _ _ _) substitutes_cellAt
  | character index target ihIndex ihTarget =>
      refine substitutes_index ihIndex (fun scope value after result => ?_) fun index =>
        substitutes_character ihTarget index
      obtain ⟨text, middle, -, last⟩ := bind_ok result
      exact replaced _ _ _ last
  | pointless text => exact substitutes_instead ⟨_, _, _⟩
  | negation of ih =>
      intro scope value after result
      obtain ⟨text, middle, -, last⟩ := bind_ok result
      have negated : boolText (!isTruthy text) = value := (EStateM.Result.ok.inj last).1
      exact .inr (negated ▸ boolText_mem_substitutes _)
  | argument index ih =>
      exact substitutes_index ih (fun _ _ _ => replaced _ _ _) substitutes_argumentAt
  | exhausted =>
      intro scope value after result
      cases result

theorem substitutes_resolvePiece (piece : Piece) : Substitutes (resolvePiece piece) := by
  unfold resolvePiece
  split
  · exact substitutes_pure _
  · exact substitutes_get fun _ => substitutes_eval _

theorem substitute_of_resolveAll {pieces : List Piece} {scope after : Scope} {args : List String}
    (resolved : resolveAll pieces scope = .ok args after) :
    after.machine.log = scope.machine.log ∨ ∃ arg ∈ args, arg ∈ substitutes := by
  induction pieces generalizing scope args with
  | nil =>
      cases resolved
      exact .inl rfl
  | cons piece rest ih =>
      rw [resolveAll, List.mapM_cons] at resolved
      obtain ⟨value, middle, read, others⟩ := bind_ok resolved
      obtain ⟨values, later, all, last⟩ := bind_ok others
      cases last
      rcases substitutes_resolvePiece piece scope value middle read with same | listed
      · rcases ih all with log | ⟨arg, member, substitute⟩
        · exact .inl (log.trans same)
        · exact .inr ⟨arg, List.mem_cons_of_mem value member, substitute⟩
      · exact .inr ⟨value, List.mem_cons_self, listed⟩

end Reference

/-! ## Lines that do not come to their instructions -/

theorem Machine.log_callHandlers (machine : Machine) (line : Nat) (detail : EventDetail)
    (handlers : List (Handler HookBehavior)) :
    (machine.callHandlers line detail handlers).1.log = machine.log := by
  obtain ⟨looks, events, same⟩ := machine.callHandlers_events line detail handlers
  rw [same]

namespace State

variable {script : Script} {line : Line} {state now after : State} {spec : Spec Meaning}
  {args : List String} {scope : Scope}

theorem log_told (state : State) (text : String) :
    (state.told text).scope.machine.log = state.scope.machine.log := by
  have recorded : (state.recorded text).scope.machine.log = state.scope.machine.log := by
    unfold State.recorded record
    dsimp only
    split <;> rfl
  exact (Machine.log_callHandlers _ _ _ _).trans recorded

theorem step_nextLine (whole : state.oneLine = false) (next : state.nextLine? script = some line) :
    (∃ fault, state.step script = (state.told line.text).abort fault) ∨
      state.step script = (state.told line.text).execute script line := by
  cases state.dispatches script whole with
  | executes known listed number keyword argc steps =>
      obtain rfl := Option.some.inj (known.symm.trans next)
      cases heard : (state.announced _).2 with
      | some fault => exact .inl ⟨fault, by rw [steps, heard]⟩
      | none => exact .inr (by rw [steps, heard])
  | passes running quiet => cases quiet.symm.trans next
  | resumes leaving quiet => cases quiet.symm.trans next

theorem lineFault_stops (now : State) (fault : Fault) :
    ∃ ending last, now.lineFault fault = .stop ending last := by
  cases fault with
  | exception exception =>
      unfold lineFault
      dsimp only
      split <;> exact ⟨_, _, rfl⟩
  | _ => exact ⟨_, _, rfl⟩

theorem Meets.gains (met : now.Meets line spec args scope) :
    now.scope.machine.log.Gains (Message.Remarks now.scope.frame.cursor.line) scope.machine.log :=
  ((Reference.remarks_resolveAll _).ok met.resolved).log

/-- A line that goes on without its instruction has an error. -/
theorem meets_or_complains (script : Script) (now : State) (line : Line) :
    (∃ spec args scope, now.Meets line spec args scope) ∨
      ∀ after, now.execute script line = .next after →
        now.scope.machine.log.GainsError after.scope.machine.log := by
  have faults (state : State) (fault : Fault) (after : State) :
      state.lineFault fault ≠ .next after := by
    obtain ⟨ending, last, stops⟩ := state.lineFault_stops fault
    simp [stops]
  cases now.execution script line with
  | performs met performed execute => exact .inl ⟨_, _, _, met⟩
  | fails met performed execute => exact .inl ⟨_, _, _, met⟩
  | unlimited unset execute =>
      exact .inr fun after next => absurd (execute.symm.trans next) (faults _ _ _)
  | unread allowed resolved execute =>
      exact .inr fun after next => absurd (execute.symm.trans next) (faults _ _ _)
  | unnamed allowed resolved tokens execute =>
      exact .inr fun after next => absurd (execute.symm.trans next) (faults _ _ _)
  | unknown allowed resolved unknown execute =>
      exact .inr fun after next => nomatch execute.symm.trans next
  | excess limited execute =>
      refine .inr fun after next => ?_
      cases execute.symm.trans next
      exact now.scope.gainsError_report rfl
  | @unsupplied args scope spec problem allowed resolved found refused execute =>
      refine .inr fun after next => ?_
      cases execute.symm.trans next
      have gains := ((Reference.remarks_resolveAll _).ok resolved).log
      exact gains.gainsError (scope.gainsError_report rfl)

end State

end LineScript
