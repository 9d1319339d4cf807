import LineScript.Proofs.Header

/-!
Loops in their two forms, and the turns of the frame that owns one. At each turn the owner starts
another pass or leaves the loop: a loop that counts looks at the passes to come, one with a condition
reads its header anew, and only the first pass of some loops comes without asking.
-/

namespace LineScript

open LineScript.Action

inductive Loop where
  | inline (loop : InlineLoop)
  | external (loop : ExternalLoop)

/-- The header of a loop has been checked. -/
structure Check where
  before : Scope
  after : Scope
  holds : Bool

namespace Loop

def kind : Loop → LoopKind
  | inline loop => loop.kind
  | external loop => loop.kind

def plan : Loop → LoopPlan
  | inline loop => loop.plan
  | external loop => loop.plan

def body? : Loop → Option String
  | inline _ => none
  | external loop => some loop.body

def isExternal (loop : Loop) : Bool :=
  loop.body?.isSome

def HasBody (script : Script) (loop : Loop) : Prop :=
  ∀ body ∈ loop.body?, script.entryLine? body ≠ none

def withPlan (plan : LoopPlan) : Loop → Loop
  | inline loop => .inline { loop with plan }
  | external loop => .external { loop with plan }

def flow (entered : Bool) : Loop → Flow
  | inline loop => .inline loop entered
  | external loop => .external loop entered

def waiting (frame : Frame) : Loop → Suspended
  | inline loop => .owner frame.cursor loop
  | external loop => .caller frame (.pass loop)

def start (script : Script) (state : State) : Loop → Step
  | inline loop => state.startBody script loop
  | external loop => state.startPass script loop

def close (script : Script) (state : State) : Loop → Step
  | inline loop => state.leaveLoop script loop loop.endLine
  | external _ => .next state

def goOn (script : Script) (state : State) : Loop → Step
  | inline loop => state.continueInline script loop
  | external loop => state.continueExternal script loop

/-- A turn of the owner; an unchecked one is a pass in any case. -/
def turn (script : Script) (unchecked : Bool) (state : State) (loop : Loop) : Step :=
  if unchecked then loop.start script state else loop.goOn script state

def resume (script : Script) (signal : Signal) (state : State) : Loop → Step
  | inline loop => state.afterBody script loop signal
  | external loop => (state.keepReturned signal.value).afterPass script loop signal

def isEnded : Loop → Signal → Bool
  | inline _, .broken _ => true
  | inline _, .returned _ => true
  | external _, .broken _ => true
  | _, _ => false

def after (signal : Signal) : Loop → Loop
  | inline loop => .inline (loop.after signal)
  | external loop => .external loop

def takeOver (signal : Signal) (state : State) : Loop → State
  | inline _ =>
      match signal with
      | .continued value => (state.report .info "Continue statement" .loop).keepReturned value
      | _ => state.keepReturned signal.value
  | external _ =>
      match signal with
      | .continued value => (state.keepReturned value).report .info "Continue statement" .loop
      | _ => state.keepReturned signal.value

variable {loop again : Loop} {script : Script} {state owner ready : State} {signal : Signal}

@[simp] theorem kind_withPlan (plan : LoopPlan) : (loop.withPlan plan).kind = loop.kind := by
  cases loop <;> rfl

@[simp] theorem plan_withPlan (plan : LoopPlan) : (loop.withPlan plan).plan = plan := by
  cases loop <;> rfl

@[simp] theorem body?_withPlan (plan : LoopPlan) :
    (loop.withPlan plan).body? = loop.body? := by
  cases loop <;> rfl

@[simp] theorem kind_after : (loop.after signal).kind = loop.kind := by
  cases loop with
  | inline loop => exact loop.kind_after signal
  | external loop => rfl

@[simp] theorem plan_after : (loop.after signal).plan = loop.plan := by
  cases loop with
  | inline loop => cases signal <;> rfl
  | external loop => rfl

@[simp] theorem body?_after : (loop.after signal).body? = loop.body? := by
  cases loop <;> rfl

theorem isEnded_congr (same : again.body? = loop.body?) : again.isEnded = loop.isEnded := by
  funext signal
  cases loop <;> cases again <;> first | cases signal <;> rfl | exact nomatch same

theorem frame_waiting (frame above : Frame) :
    ((loop.waiting frame).frame above).cursor = frame.cursor := by
  cases loop <;> rfl

theorem same_takeOver (signal : Signal) (state : State) (loop : Loop) :
    state.Same (loop.takeOver signal state) := by
  cases loop <;> cases signal <;>
    first
    | exact state.same_keepReturned _
    | exact (state.same_report _ _ _).trans (State.same_keepReturned _ _)

theorem resume_onward (onward : loop.isEnded signal = false) :
    loop.resume script signal state =
      (loop.after signal).goOn script (loop.takeOver signal state) := by
  cases loop <;> cases signal <;> first | rfl | cases onward

theorem step_pass {left : State} {frame : Frame} {rest : List Suspended}
    (leaving : left.control = .leaving signal) (waits : left.suspended = loop.waiting frame :: rest) :
    left.step script = loop.resume script signal (left.below (loop.waiting frame) rest) := by
  rw [State.step_leaving leaving]
  cases loop with
  | inline loop => exact State.handOver_body waits
  | external loop => exact State.handOver_pass waits

theorem goOn_eq : loop.goOn script state =
    match loop.plan with
    | .count 0 => loop.close script state
    | .count (left + 1) => (loop.withPlan (.count left)).start script state
    | .condition header =>
        match loop.kind.condition loop.isExternal header state.scope with
        | .ok true scope => loop.start script { state with scope }
        | .ok false scope => loop.close script { state with scope }
        | .error fault scope =>
            State.instructionFault { state with scope } loop.kind.keyword .internal fault := by
  cases loop <;> rfl

/-! ## Turns -/

/-- The turn leads to a pass: the loop and the owner when the pass starts, and the checks made. -/
inductive Passes (loop : Loop) (unchecked : Bool) (owner : State) :
    Loop → State → List Check → Prop where
  | unchecked (first : unchecked = true) : Passes loop unchecked owner loop owner []
  | counted {left : Nat} (later : unchecked = false) (planned : loop.plan = .count (left + 1)) :
      Passes loop unchecked owner (loop.withPlan (.count left)) owner []
  | checked {header : List Piece} {scope : Scope} (later : unchecked = false)
      (planned : loop.plan = .condition header)
      (holds : loop.kind.condition loop.isExternal header owner.scope = .ok true scope) :
      Passes loop unchecked owner loop { owner with scope } [⟨owner.scope, scope, true⟩]

/-- The turn ends the loop: the owner when it leaves, and the checks made. -/
inductive Closes (loop : Loop) (unchecked : Bool) (owner : State) :
    State → List Check → Prop where
  | counted (later : unchecked = false) (planned : loop.plan = .count 0) :
      Closes loop unchecked owner owner []
  | checked {header : List Piece} {scope : Scope} (later : unchecked = false)
      (planned : loop.plan = .condition header)
      (fails : loop.kind.condition loop.isExternal header owner.scope = .ok false scope) :
      Closes loop unchecked owner { owner with scope } [⟨owner.scope, scope, false⟩]

inductive Turn (script : Script) (loop : Loop) (unchecked : Bool) (owner : State) (step : Step) :
    Prop where
  | passes {again : Loop} {ready : State} {checks : List Check}
      (passes : loop.Passes unchecked owner again ready checks)
      (starts : step = again.start script ready)
  | closes {ready : State} {checks : List Check}
      (closes : loop.Closes unchecked owner ready checks) (leaves : step = loop.close script ready)
  | faults {fault : Fault} {last : State} (stops : step = .stop (.failed fault) last)

theorem condition_stops {header : List Piece} {external : Bool} {kind : LoopKind} {fault : Fault}
    {scope : Scope} (failed : kind.condition external header owner.scope = .error fault scope)
    (name : String) (code : Code) : ∃ other last,
      State.instructionFault { owner with scope } name code fault =
        .stop (.failed other) last := by
  have keeps : Keeps (fun _ => False) (kind.condition external header) :=
    LoopKind.keeps_condition external header
  cases fault with
  | unreadable text => exact (keeps.raised failed).2.unreadable.elim
  | _ => exact ⟨_, _, rfl⟩

theorem turn_cases (script : Script) (loop : Loop) (unchecked : Bool) (owner : State) :
    loop.Turn script unchecked owner (loop.turn script unchecked owner) := by
  unfold turn
  cases unchecked with
  | true => exact .passes (.unchecked rfl) rfl
  | false =>
      rw [if_neg Bool.false_ne_true, goOn_eq]
      cases planned : loop.plan with
      | count left =>
          cases left with
          | zero => exact .closes (.counted rfl planned) rfl
          | succ left => exact .passes (.counted rfl planned) rfl
      | condition header =>
          dsimp only
          cases checked : loop.kind.condition loop.isExternal header owner.scope with
          | error fault scope =>
              obtain ⟨other, last, stops⟩ := condition_stops checked loop.kind.keyword .internal
              exact .faults stops
          | ok holds scope =>
              cases holds with
              | true => exact .passes (.checked rfl planned checked) rfl
              | false => exact .closes (.checked rfl planned checked) rfl

inductive Starts (script : Script) (loop : Loop) (owner : State) (step : Step) : Prop where
  | enters {begun : State} (stepped : step = .next begun) (running : begun.control = .running)
      (pushed : begun.suspended = loop.waiting owner.scope.frame :: owner.suspended)
      (machine : begun.scope.machine = owner.scope.machine)
  | missing {body : ExternalLoop} (form : loop = .external body)
      (undefined : script.entryLine? body.body = none)
      (stepped : step = .next ((owner.reportMissing body.body).report .error
        s!"{body.kind.keyword} statement failed to execute." .loop))
  | refused {fault : Fault} {last : State} (stepped : step = .stop (.failed fault) last)

theorem starts_enter {frame : Frame} (step : Step)
    (entered : step = owner.enter frame (loop.waiting owner.scope.frame)) :
    loop.Starts script owner step := by
  unfold State.enter at entered
  split at entered
  · exact .refused entered
  · exact .enters entered rfl rfl rfl

theorem starts_start : loop.Starts script owner (loop.start script owner) := by
  cases loop with
  | inline loop => exact starts_enter _ rfl
  | external loop =>
      change Starts script _ owner (owner.startPass script loop)
      unfold State.startPass
      cases found : script.entryLine? loop.body with
      | none => exact .missing rfl found rfl
      | some line => exact starts_enter _ rfl

/-- A line that asks for a loop begins with a turn; an inline loop needs the definition that it
stands in. -/
theorem follow_flow (keyword : String) (entered : Bool)
    (owned : loop.isExternal = false → script.entryLine? state.scope.frame.entry ≠ none) :
    state.follow script keyword (loop.flow entered) = loop.turn script entered state := by
  cases loop with
  | external loop => rfl
  | inline loop =>
      change state.openInline script loop entered = _
      unfold State.openInline
      dsimp only
      cases found : script.entryLine? state.scope.frame.entry with
      | none => exact absurd found (owned rfl)
      | some line => rfl

theorem follow_missing (keyword : String) (entered : Bool) (form : loop.isExternal = false)
    (missing : script.entryLine? state.scope.frame.entry = none) :
    ∃ fault last, state.follow script keyword (loop.flow entered) = .stop (.failed fault) last := by
  cases loop with
  | external loop => cases form
  | inline loop =>
      change ∃ fault last, state.openInline script loop entered = _
      unfold State.openInline
      dsimp only
      rw [missing]
      exact ⟨_, _, rfl⟩

/-! ## What a turn keeps -/

theorem Passes.form {unchecked : Bool} {checks : List Check}
    (passes : loop.Passes unchecked owner again ready checks) :
    again.kind = loop.kind ∧ again.body? = loop.body? := by
  cases passes with
  | unchecked => exact ⟨rfl, rfl⟩
  | counted => exact ⟨kind_withPlan _, body?_withPlan _⟩
  | checked => exact ⟨rfl, rfl⟩

theorem Passes.kept {unchecked : Bool} {checks : List Check}
    (passes : loop.Passes unchecked owner again ready checks) :
    owner.scope.Kept ready.scope ∧ ready.suspended = owner.suspended ∧
      ready.control = owner.control := by
  cases passes with
  | unchecked => exact ⟨.refl _, rfl, rfl⟩
  | counted => exact ⟨.refl _, rfl, rfl⟩
  | @checked header scope later planned holds =>
      have keeps : Keeps (fun _ => False) (loop.kind.condition loop.isExternal header) :=
        LoopKind.keeps_condition _ _
      exact ⟨keeps.ok holds, rfl, rfl⟩

theorem Closes.kept {unchecked : Bool} {checks : List Check}
    (closes : loop.Closes unchecked owner ready checks) :
    owner.scope.Kept ready.scope ∧ ready.suspended = owner.suspended ∧
      ready.control = owner.control := by
  cases closes with
  | counted => exact ⟨.refl _, rfl, rfl⟩
  | @checked header scope later planned fails =>
      have keeps : Keeps (fun _ => False) (loop.kind.condition loop.isExternal header) :=
        LoopKind.keeps_condition _ _
      exact ⟨keeps.ok fails, rfl, rfl⟩

end Loop

/-! ## Leaving a loop -/

namespace State

variable {script : Script} {state : State} {loop : InlineLoop}

inductive Leaves (script : Script) (state : State) (loop : InlineLoop) (endLine : Option Nat)
    (step : Step) : Prop where
  | moves {target : Nat} (forward : state.scope.frame.cursor.line ≤ target)
      (known : endLine = some target ∨ endLine = none ∧
        script.blockEnd? state.scope.frame.cursor.line loop.kind.marker loop.kind.closer [] =
          some target)
      (stepped : step = .next { state with
        scope := state.scope.movedTo (state.scope.frame.cursor.advance script target) })
  | lost {scope : Scope} (unknown : endLine = none)
      (missing : script.blockEnd? state.scope.frame.cursor.line loop.kind.marker loop.kind.closer
        [] = none)
      (flag : scope.machine.compareFlag = state.scope.machine.compareFlag)
      (stepped : step = .stop
        (.failed (.failure (Effect.jumpFailure state.scope loop.kind.closer)))
        { state with scope })
  | backward {target : Nat} {fault : Fault} {scope : Scope} (known : endLine = some target)
      (above : target < state.scope.frame.cursor.line)
      (flag : scope.machine.compareFlag = state.scope.machine.compareFlag)
      (stepped : step = .stop (.failed fault) { state with scope })

theorem leaves_leaveLoop (script : Script) (state : State) (loop : InlineLoop)
    (endLine : Option Nat) :
    Leaves script state loop endLine (state.leaveLoop script loop endLine) := by
  cases leavesLoop script state loop endLine with
  | moves forward place left => exact .moves forward place left
  | backward place above left =>
      refine .backward place above ?_ left
      rfl
  | lost place missing left =>
      refine .lost place missing ?_ left
      rfl

theorem Leaves.suspended {endLine : Option Nat} {step : Step} {after : State}
    (leaves : Leaves script state loop endLine step) (stepped : step = .next after) :
    after.suspended = state.suspended ∧ after.control = state.control := by
  cases leaves with
  | moves forward known moved =>
      cases moved.symm.trans stepped
      exact ⟨rfl, rfl⟩
  | lost unknown missing flag stopped => cases stopped.symm.trans stepped
  | backward known above flag stopped => cases stopped.symm.trans stepped

end State

theorem Loop.suspended_close {loop : Loop} {script : Script} {state after : State}
    (closed : loop.close script state = .next after) :
    after.suspended = state.suspended ∧ after.control = state.control := by
  cases loop with
  | inline loop => exact (state.leaves_leaveLoop script loop loop.endLine).suspended closed
  | external loop =>
      cases closed
      exact ⟨rfl, rfl⟩

/-- The last pass is not followed by another one: an early end of the pass leaves the loop, and a
return goes on through the frame that owns it. -/
theorem Loop.suspended_resume {loop : Loop} {script : Script} {state after : State}
    {signal : Signal} (ends : loop.isEnded signal = true)
    (resumed : loop.resume script signal state = .next after) :
    after.suspended = state.suspended := by
  cases loop with
  | external loop =>
      cases signal with
      | broken value =>
          cases resumed
          rfl
      | _ => cases ends
  | inline loop =>
      cases signal with
      | broken value =>
          exact (State.leaves_leaveLoop script _ loop none).suspended resumed |>.1
      | returned value =>
          cases resumed
          rfl
      | _ => cases ends

end LineScript
