import LineScript.Proofs.Instruction

/-!
What the value of a reference depends on. Reading leaves the frame alone, and what is read depends
neither on the line that the frame is at nor on the messages given so far: two frames with the same
arguments and the same variables read the same.
-/

namespace LineScript

def Scope.seenFrom (scope : Scope) (cursor : Cursor) (log : Log) : Scope :=
  ⟨{ scope.machine with log }, { scope.frame with cursor }⟩

namespace Action

variable {α β : Type}

def lastScope : EStateM.Result Fault Scope α → Scope
  | .ok _ after => after
  | .error _ after => after

def answer : EStateM.Result Fault Scope α → Except Fault α
  | .ok value _ => .ok value
  | .error fault _ => .error fault

def mapScope (change : Scope → Scope) : EStateM.Result Fault Scope α → EStateM.Result Fault Scope α
  | .ok value after => .ok value (change after)
  | .error fault after => .error fault (change after)

/-- The action leaves the frame alone, and at another line it does the same. -/
structure Looks (action : Action α) : Prop where
  frame : ∀ scope, (lastScope (action scope)).frame = scope.frame
  sees : ∀ scope cursor log, ∃ later,
    action (scope.seenFrom cursor log) = mapScope (·.seenFrom cursor later) (action scope)

namespace Looks

variable {action : Action α} {scope after : Scope}

theorem ok (looks : Looks action) {value : α} (result : action scope = .ok value after) :
    after.frame = scope.frame := by
  have same := looks.frame scope
  rwa [result] at same

theorem error (looks : Looks action) {fault : Fault} (result : action scope = .error fault after) :
    after.frame = scope.frame := by
  have same := looks.frame scope
  rwa [result] at same

theorem answer_seenFrom (looks : Looks action) (scope : Scope) (cursor : Cursor) (log : Log) :
    answer (action (scope.seenFrom cursor log)) = answer (action scope) := by
  obtain ⟨later, seen⟩ := looks.sees scope cursor log
  rw [seen]
  cases action scope <;> rfl

end Looks

theorem looks_pure (value : α) : Looks (pure value : Action α) :=
  ⟨fun _ => rfl, fun _ _ log => ⟨log, rfl⟩⟩

theorem looks_throw (fault : Fault) : Looks (throw fault : Action α) :=
  ⟨fun _ => rfl, fun _ _ log => ⟨log, rfl⟩⟩

theorem looks_bind {first : Action α} {next : α → Action β} (looks : Looks first)
    (looksNext : ∀ value, Looks (next value)) : Looks (first >>= next) := by
  constructor
  · intro scope
    have same := looks.frame scope
    rw [bind_apply]
    cases early : first scope with
    | error fault middle => rwa [early] at same
    | ok value middle =>
        rw [early] at same
        exact ((looksNext value).frame middle).trans same
  · intro scope cursor log
    obtain ⟨later, seen⟩ := looks.sees scope cursor log
    rw [bind_apply, bind_apply, seen]
    cases first scope with
    | error fault middle => exact ⟨later, rfl⟩
    | ok value middle => exact (looksNext value).sees middle cursor later

theorem looks_get {next : Scope → Action α}
    (same : ∀ scope cursor log, next (scope.seenFrom cursor log) = next scope)
    (looks : ∀ scope, Looks (next scope)) : Looks (get >>= next) := by
  constructor
  · intro scope
    exact (looks scope).frame scope
  · intro scope cursor log
    obtain ⟨later, seen⟩ := (looks scope).sees scope cursor log
    refine ⟨later, ?_⟩
    rw [get_bind, get_bind, same, seen]

theorem looks_onScope {change : Scope → α × Scope}
    (frame : ∀ scope, (change scope).2.frame = scope.frame)
    (sees : ∀ scope cursor log, ∃ later, change (scope.seenFrom cursor log) =
      ((change scope).1, (change scope).2.seenFrom cursor later)) : Looks (onScope change) := by
  refine ⟨frame, fun scope cursor log => ?_⟩
  obtain ⟨later, seen⟩ := sees scope cursor log
  refine ⟨later, ?_⟩
  change EStateM.Result.ok (change _).1 (change _).2 = _
  rw [seen]
  rfl

theorem looks_modify {change : Scope → Scope} (frame : ∀ scope, (change scope).frame = scope.frame)
    (sees : ∀ scope cursor log, ∃ later,
      change (scope.seenFrom cursor log) = (change scope).seenFrom cursor later) :
    Looks (modify change : Action Unit) := by
  refine ⟨frame, fun scope cursor log => ?_⟩
  obtain ⟨later, seen⟩ := sees scope cursor log
  refine ⟨later, ?_⟩
  change EStateM.Result.ok () (change _) = _
  rw [seen]
  rfl

theorem looks_report (level : Level) (text : String) (code : Code) :
    Looks (report level text code) :=
  looks_modify (fun _ => rfl) fun _ _ _ => ⟨_, rfl⟩

theorem looks_take (computed : Computed α) : Looks (take computed) := by
  refine looks_bind (looks_modify (fun scope => ?_) fun scope cursor log => ?_) fun _ =>
    looks_pure _
  · unfold Scope.reportAll
    induction computed.notes generalizing scope with
    | nil => rfl
    | cons note rest ih => exact ih (scope.report note)
  · unfold Scope.reportAll
    induction computed.notes generalizing scope log with
    | nil => exact ⟨log, rfl⟩
    | cons note rest ih => exact ih (scope.report note) _

theorem looks_getVariable (name : String) : Looks (getVariable name) := by
  refine looks_onScope (fun scope => ?_) fun scope cursor log => ?_
  · unfold Scope.getVariable
    split <;> rfl
  · have same : (scope.seenFrom cursor log).frame.locals = scope.frame.locals := rfl
    unfold Scope.getVariable
    rw [same]
    cases scope.frame.locals.get? name with
    | some value => exact ⟨log, rfl⟩
    | none => exact ⟨_, rfl⟩

theorem looks_observe : Looks observe :=
  looks_onScope (fun _ => rfl) fun _ _ log => ⟨log, rfl⟩

theorem looks_readLine (prompt : String) : Looks (readLine prompt) := by
  refine looks_bind (looks_onScope (fun _ => rfl) fun _ _ _ => ⟨_, rfl⟩) fun answer => ?_
  cases answer with
  | ok text => exact looks_pure text
  | error cause => exact looks_throw _

theorem looks_confirm (question : String) : Looks (confirm question) := by
  refine looks_bind (looks_onScope (fun _ => rfl) fun _ _ _ => ⟨_, rfl⟩) fun answer => ?_
  cases answer with
  | ok yes => exact looks_pure yes
  | error cause => exact looks_throw _

theorem looks_mapM {action : α → Action β} (looks : ∀ value, Looks (action value))
    (values : List α) : Looks (values.mapM action) := by
  induction values with
  | nil => exact looks_pure []
  | cons value rest ih =>
      rw [List.mapM_cons]
      exact looks_bind (looks value) fun _ => looks_bind ih fun _ => looks_pure _

end Action

open LineScript.Action

/-! ## References -/

namespace Reference

theorem looks_evalPredefined (meaning : Predefined) : Looks (evalPredefined meaning) := by
  cases meaning with
  | computed behavior =>
      refine looks_bind looks_observe fun sight => ?_
      split
      · exact looks_pure _
      · exact looks_throw _
  | ask => exact looks_readLine ""
  | promptedAsk => exact looks_readLine "> "
  | confirmation => exact looks_bind (looks_confirm _) fun _ => looks_pure _
  | _ => exact ⟨fun _ => rfl, fun _ _ log => ⟨log, rfl⟩⟩

theorem looks_indexOf (text : String) : Looks (indexOf text) := by
  unfold indexOf
  split
  · exact looks_pure _
  · exact looks_bind (looks_report _ _ _) fun _ => looks_pure _

theorem looks_cellAt (index : Int) : Looks (cellAt index) := by
  refine looks_get (fun _ _ _ => rfl) fun scope => ?_
  dsimp only
  split
  · exact looks_pure _
  · exact looks_bind (looks_report _ _ _) fun _ => looks_pure _

theorem looks_characterAt (text : String) (index : Int) : Looks (characterAt text index) := by
  unfold characterAt
  split
  · exact looks_pure _
  · exact looks_bind (looks_report _ _ _) fun _ => looks_pure _

theorem looks_argumentAt (index : Int) : Looks (argumentAt index) := by
  refine looks_get (fun _ _ _ => rfl) fun scope => ?_
  dsimp only
  split
  · exact looks_pure _
  · exact looks_bind (looks_report _ _ _) fun _ => looks_pure _

theorem looks_eval (reference : Reference) : Looks reference.eval := by
  induction reference with
  | literal text => exact looks_pure text
  | predefined name =>
      refine looks_get (fun _ _ _ => rfl) fun scope => ?_
      split
      · exact looks_evalPredefined _
      · exact looks_pure _
  | named name => exact looks_getVariable name
  | cell index ih =>
      refine looks_bind ih fun _ => looks_bind (looks_indexOf _) fun found => ?_
      cases found with
      | some index => exact looks_cellAt index
      | none => exact looks_pure _
  | character index target ihIndex ihTarget =>
      refine looks_bind ihIndex fun _ => looks_bind (looks_indexOf _) fun found => ?_
      refine looks_bind ihTarget fun text => ?_
      cases found with
      | some index => exact looks_characterAt text index
      | none => exact looks_pure _
  | pointless text => exact looks_bind (looks_report _ _ _) fun _ => looks_pure _
  | negation reference ih => exact looks_bind ih fun _ => looks_pure _
  | argument index ih =>
      refine looks_bind ih fun _ => looks_bind (looks_indexOf _) fun found => ?_
      cases found with
      | some index => exact looks_argumentAt index
      | none => exact looks_pure _
  | exhausted => exact looks_throw _

theorem looks_resolve (text : String) : Looks (resolve text) :=
  looks_get (fun _ _ _ => rfl) fun _ => looks_eval _

theorem looks_read (text : String) : Looks (read text) :=
  looks_get (fun _ _ _ => rfl) fun _ => looks_eval _

theorem looks_resolveAll (pieces : List Piece) : Looks (resolveAll pieces) := by
  refine looks_mapM (fun piece => ?_) pieces
  unfold resolvePiece
  split
  · exact looks_pure _
  · exact looks_read _

end Reference

/-! ## The headers of loops -/

theorem Effect.looks_compare (comparison left right : String) :
    Looks (compare comparison left right) := by
  have looksResult (result : Bool) : Looks (do
      Action.onMachine fun machine => { machine with compareFlag := result }
      return result) :=
    looks_bind (looks_modify (fun _ => rfl) fun _ _ log => ⟨log, rfl⟩) fun _ => looks_pure _
  unfold compare
  split
  · exact looks_bind (looks_pure _) looksResult
  · exact looks_bind (looks_report _ _ _) fun _ => looks_bind (looks_pure _) looksResult

namespace LoopKind

variable {kind : LoopKind}

theorem looks_plan (amount : String) (header : List Piece) : Looks (kind.plan amount header) := by
  cases kind with
  | forLoop => exact looks_bind (looks_take _) fun _ => looks_pure _
  | _ => exact looks_pure _

theorem looks_start (line : Nat) (header : List Piece) (args : List String) :
    Looks (kind.start line header args) := by
  unfold start
  split
  · split
    · exact looks_bind (looks_plan _ _) fun _ => looks_pure _
    · exact looks_bind (looks_plan _ _) fun _ => looks_pure _
  · exact looks_throw _

theorem looks_condition (external : Bool) (header : List Piece) :
    Looks (kind.condition external header) := by
  refine looks_bind (Reference.looks_resolveAll header) fun args => ?_
  split
  · exact Effect.looks_compare _ _ _
  · exact looks_bind (looks_report _ _ _) fun _ => looks_pure _

end LoopKind

end LineScript
