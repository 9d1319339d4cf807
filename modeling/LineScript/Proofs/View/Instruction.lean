import LineScript.Proofs.Guise.Instruction
import LineScript.Proofs.View.Action
import Mathlib.Order.Monotone.Basic

/-!
Instructions in a view. Two scripts correspond in a view when the lines of the one are found in the
other under the numbers that the view gives them. An instruction asks in the second script for what
it asks for in the first one, seen in the view: only jumps, loop headers and end markers know where
they are.
-/

namespace LineScript

open LineScript.View

variable {view : View} {first second : Script} {inBody : Bool} {line : Nat} {pieces : List Piece}
  {args : List String}

theorem View.uniform_resolveAll (pieces : List Piece) :
    view.Uniform (Reference.resolveAll pieces) :=
  carries_of_guise (Reference.uniform_resolveAll pieces)

theorem View.uniform_condition {kind : LoopKind} (external : Bool) (header : List Piece) :
    view.Uniform (kind.condition external header) :=
  carries_of_guise (LoopKind.uniform_condition external header)

/-! ## Scripts -/

namespace View

def signal (view : View) : Signal → Signal
  | .resume line value => .resume (view.line line) value
  | signal => signal

def loop (view : View) (loop : InlineLoop) : InlineLoop :=
  { loop with header := view.line loop.header, endLine := loop.endLine.map view.line }

def flow (view : View) : Flow → Flow
  | .leave signal => .leave (view.signal signal)
  | .inline loop entered => .inline (view.loop loop) entered
  | flow => flow

/-- The lines of the first script are found in the second one under the numbers that they have in
the view. -/
structure Corresponds (view : View) (first second : Script) : Prop where
  increasing : StrictMono view.line
  line? : ∀ line, line ≤ first.lineCount → second.line? (view.line line) = first.line? line
  lineCount : ∀ line, line ≤ first.lineCount → view.line line ≤ second.lineCount
  entryLine? : ∀ name, second.entryLine? name = (first.entryLine? name).map view.line
  entryInside : ∀ name line, first.entryLine? name = some line → line ≤ first.lineCount
  blockEnd? : ∀ (line : Nat) opener closer alternates,
    second.blockEnd? (view.line line) opener closer alternates =
      (first.blockEnd? line opener closer alternates).map view.line
  directives : ∀ name line machine, first.entryLine? name = some line →
    Directive.applyAbove (view.machine machine) second (view.line line) =
      view.machine (Directive.applyAbove machine first line)

namespace Corresponds

variable {view : View} {first second : Script}

theorem advance (corresponds : view.Corresponds first second) (cursor : Cursor) {target : Nat}
    (inside : target ≤ first.lineCount) :
    (view.cursor cursor).advance second (view.line target) =
      view.cursor (cursor.advance first target) := by
  unfold Cursor.advance
  by_cases back : target ≤ cursor.line
  · rw [if_pos back, if_pos (show view.line target ≤ (view.cursor cursor).line from
      corresponds.increasing.monotone back)]
  · have forward : ¬ view.line target ≤ (view.cursor cursor).line := fun back' =>
      back (corresponds.increasing.le_iff_le.mp back')
    rw [if_neg back, if_pos inside, if_neg forward, if_pos (corresponds.lineCount target inside),
      corresponds.line? target inside]
    rfl

theorem start (corresponds : view.Corresponds first second) {target : Nat}
    (inside : target ≤ first.lineCount) :
    Cursor.start.advance second (view.line target) =
      view.cursor (Cursor.start.advance first target) := by
  rw [← corresponds.advance Cursor.start inside]
  change _ = Cursor.advance second ⟨view.line 0, none⟩ (view.line target)
  rw [view.line_zero]
  rfl

theorem jumpTo (corresponds : view.Corresponds first second) {scope : Scope} {target : Nat}
    (forward : scope.frame.cursor.line ≤ target) (inside : target ≤ first.lineCount) :
    Effect.jumpTo second (view.line target) (view.scope scope) =
      view.result id (Effect.jumpTo first target scope) := by
  have seen : (view.scope scope).frame.cursor.line ≤ view.line target :=
    corresponds.increasing.monotone forward
  rw [Effect.jumpTo_forward forward, Effect.jumpTo_forward seen]
  change EStateM.Result.ok () ((view.scope scope).movedTo
    ((view.cursor scope.frame.cursor).advance second (view.line target))) = _
  rw [corresponds.advance _ inside]
  rfl

theorem jumpOut (corresponds : view.Corresponds first second) (opener : BlockMarker)
    (closer : String) (alternates : List String) :
    view.Carries view.line (Effect.jumpOut first opener closer alternates)
      (Effect.jumpOut second opener closer alternates) := by
  intro scope
  have same : second.blockEnd? (view.scope scope).frame.cursor.line opener closer alternates = _ :=
    corresponds.blockEnd? scope.frame.cursor.line opener closer alternates
  cases found : first.blockEnd? scope.frame.cursor.line opener closer alternates with
  | none =>
      rw [found] at same
      rw [Effect.jumpOut_lost found, Effect.jumpOut_lost same]
      rfl
  | some target =>
      rw [found] at same
      rw [Effect.jumpOut_found found, Effect.jumpOut_found same]
      change EStateM.Result.ok (view.line target) ((view.scope scope).movedTo
        ((view.cursor scope.frame.cursor).advance second (view.line target))) = _
      rw [corresponds.advance _ (Script.blockEnd?_bounds found).2]
      rfl

end Corresponds

end View

/-! ## Instructions -/

theorem View.flow_guise (view : View) (flow : Flow) : view.guise.flow flow = view.flow flow := by
  cases flow with
  | leave signal => cases signal <;> rfl
  | _ => rfl

namespace Instruction

theorem carries_jump (corresponds : view.Corresponds first second) (alternates : List String) :
    view.Carries view.flow
      (do
        let _ ← Effect.jumpOut first ifMarker "ENDIF" alternates
        return .next)
      (do
        let _ ← Effect.jumpOut second ifMarker "ENDIF" alternates
        return .next) :=
  carries_bind (corresponds.jumpOut _ _ _) fun _ => carries_pure _

end Instruction

theorem View.carries_perform {meaning : Meaning} (corresponds : view.Corresponds first second)
    (supplied : meaning.Supplied args) :
    view.Carries view.flow (meaning.perform first inBody line pieces args)
      (meaning.perform second inBody (view.line line) pieces args) := by
  by_cases skips : meaning = .builtin .ifBlock
  · subst skips
    intro scope
    change (if (!Effect.branchTaken scope args) = true then _ else pure Flow.next : Action Flow)
      (view.scope scope) = view.result view.flow
        ((if (!Effect.branchTaken scope args) = true then _ else pure Flow.next : Action Flow) scope)
    split
    · exact Instruction.carries_jump corresponds ["ELSE"] scope
    · rfl
  by_cases leaps : meaning = .builtin .elseBlock
  · subst leaps
    exact Instruction.carries_jump corresponds []
  · have flows : view.guise.flow = view.flow := funext view.flow_guise
    exact carries_of_guise (flows ▸ Meaning.carries_perform supplied skips leaps)

end LineScript
