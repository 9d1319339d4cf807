import LineScript.Proofs.Instruction
import LineScript.Proofs.Guise.Action

/-!
Instructions in a guise. An instruction that does not jump asks in a guise for what it asks for
otherwise: only loop headers and end markers know where they are.
-/

namespace LineScript

open LineScript.Guise

/-! ## Effects -/

namespace Effect

variable {guise : Guise}

theorem uniform_write (args : List String) (ending warning : String) :
    guise.Uniform (write args ending warning) := by
  unfold write
  split
  · exact uniform_report _ _ _
  · exact uniform_onMachine fun _ => rfl

theorem uniform_declare (declaration : String) : guise.Uniform (declare declaration) := by
  unfold declare
  dsimp only
  split
  · exact uniform_report _ _ _
  refine uniform_get (fun _ => rfl) fun scope => ?_
  split
  · exact uniform_report _ _ _
  have assigns (name value : String) :
      guise.Uniform (modify fun scope => scope.assign name value : Action Unit) :=
    uniform_modify fun _ => rfl
  refine uniform_get (fun _ => rfl) fun scope => ?_
  cases (Text.cut ',' declaration.toList).2 with
  | some text =>
      have continues (name : String) :=
        uniform_bind (Reference.uniform_read (String.ofList text)) (assigns name)
      split
      · exact uniform_bind (uniform_report _ _ _) fun _ => continues _
      · exact continues _
  | none =>
      have continues (name : String) := uniform_bind (uniform_pure "0") (assigns name)
      split
      · exact uniform_bind (uniform_report _ _ _) fun _ => continues _
      · exact continues _

theorem uniform_remove (name : String) : guise.Uniform (remove name) := by
  refine uniform_get (fun _ => rfl) fun scope => ?_
  split
  · exact uniform_modify fun _ => rfl
  · exact uniform_report _ _ _

theorem uniform_operate (operation : Operation) (destination : String) (rest : List String) :
    guise.Uniform (operate operation destination rest) := by
  refine uniform_bind (uniform_onScope fun scope => guise.scope_operands _ _ _ _) fun inputs => ?_
  split
  · exact uniform_bind (uniform_take _) fun value => uniform_setVariable _ _
  · exact uniform_raise _

theorem uniform_compare (comparison left right : String) :
    guise.Uniform (compare comparison left right) := by
  have uniformResult (result : Bool) : guise.Uniform (do
      Action.onMachine fun machine => { machine with compareFlag := result }
      return result) :=
    uniform_bind (uniform_onMachine fun _ => rfl) fun _ => uniform_pure _
  unfold compare
  split
  · exact uniform_bind (uniform_pure _) uniformResult
  · exact uniform_bind (uniform_report _ _ _) fun _ => uniform_bind (uniform_pure _) uniformResult

theorem uniform_random (destination low high : String) :
    guise.Uniform (random destination low high) := by
  refine uniform_bind (uniform_take _) fun low => uniform_bind (uniform_take _) fun high => ?_
  split
  · exact uniform_bind (uniform_report _ _ _) fun _ => uniform_setVariable _ _
  · exact uniform_bind (uniform_onScope fun _ => rfl) fun _ => uniform_setVariable _ _

theorem uniform_rgbToHex (destination red green blue : String) :
    guise.Uniform (rgbToHex destination red green blue) :=
  uniform_bind (uniform_take _) fun _ => uniform_bind (uniform_take _) fun _ =>
    uniform_bind (uniform_take _) fun _ => uniform_setVariable _ _

theorem uniform_colorOf (text : String) : guise.Uniform (colorOf text) := by
  unfold colorOf
  split
  · exact uniform_pure _
  · exact uniform_bind (uniform_report _ _ _) fun _ => uniform_pure _

theorem uniform_hexToRgb (red green blue text : String) :
    guise.Uniform (hexToRgb red green blue text) :=
  uniform_bind (uniform_colorOf text) fun _ => uniform_bind (uniform_setVariable _ _) fun _ =>
    uniform_bind (uniform_setVariable _ _) fun _ => uniform_setVariable _ _

theorem uniform_allocate (amount : String) : guise.Uniform (allocate amount) := by
  refine uniform_bind (uniform_take _) fun amount => ?_
  split
  · exact uniform_report _ _ _
  refine uniform_get (fun _ => rfl) fun scope => ?_
  dsimp only
  split
  · exact uniform_raise _
  · exact uniform_onMachine fun _ => rfl

theorem uniform_reportTimes (level : Level) (text : String) (code : Code) (count : Nat) :
    guise.Uniform (reportTimes level text code count) := by
  induction count with
  | zero => exact uniform_pure ()
  | succ count ih => exact uniform_bind (uniform_report _ _ _) fun _ => ih

theorem uniform_free (amount : String) : guise.Uniform (free amount) :=
  uniform_bind (uniform_take _) fun _ => uniform_get (fun _ => rfl) fun _ =>
    uniform_bind (uniform_onMachine fun _ => rfl) fun _ => uniform_reportTimes _ _ _ _

theorem uniform_cellIndex (text : String) : guise.Uniform (cellIndex text) := by
  unfold cellIndex
  split
  · exact uniform_bind (uniform_report _ _ _) fun _ => uniform_pure _
  refine uniform_get (fun _ => rfl) fun scope => ?_
  dsimp only
  split
  · exact uniform_pure _
  · exact uniform_bind (uniform_report _ _ _) fun _ => uniform_pure _

theorem uniform_setMemory (address value : String) : guise.Uniform (setMemory address value) := by
  refine uniform_bind (uniform_cellIndex address) fun found => ?_
  cases found with
  | some index => exact uniform_onMachine fun _ => rfl
  | none => exact uniform_pure ()

theorem uniform_getMemory (destination address : String) :
    guise.Uniform (getMemory destination address) :=
  uniform_bind (uniform_cellIndex address) fun _ => uniform_get (fun _ => rfl) fun _ =>
    uniform_setVariable _ _

theorem uniform_pop (destination : String) : guise.Uniform (pop destination) := by
  refine uniform_get (fun _ => rfl) fun scope => ?_
  split
  · exact uniform_bind (uniform_onMachine fun _ => rfl) fun _ => uniform_setVariable _ _
  · exact uniform_bind (uniform_report _ _ _) fun _ => uniform_setVariable _ _

theorem uniform_dequeue (destination : String) : guise.Uniform (dequeue destination) := by
  refine uniform_get (fun _ => rfl) fun scope => ?_
  split
  · exact uniform_bind (uniform_onMachine fun _ => rfl) fun _ => uniform_setVariable _ _
  · exact uniform_bind (uniform_report _ _ _) fun _ => uniform_setVariable _ _

theorem uniform_sleep (milliseconds : String) : guise.Uniform (sleep milliseconds) := by
  refine uniform_bind (uniform_take _) fun milliseconds => ?_
  split
  · exact uniform_raise _
  split
  · exact uniform_raise _
  refine uniform_get (fun _ => rfl) fun scope => ?_
  split
  · exact uniform_report _ _ _
  · exact uniform_pure ()

theorem uniform_onCanvas (change : Canvas → Canvas) : guise.Uniform (onCanvas change) :=
  uniform_onMachine fun _ => rfl

theorem uniform_setPen (text : String) : guise.Uniform (setPen text) := by
  refine uniform_bind (uniform_colorOf text) fun found => ?_
  cases found with
  | some color => exact uniform_onCanvas _
  | none => exact uniform_pure ()

theorem uniform_fillCanvas (text : String) : guise.Uniform (fillCanvas text) := by
  refine uniform_bind (uniform_colorOf text) fun found => ?_
  cases found with
  | some color => exact uniform_onCanvas _
  | none => exact uniform_pure ()

theorem uniform_draw (shape : Canvas → Ink → Int → Int → Int → Int → Nat → Canvas.Drawn)
    (a b c d : String) : guise.Uniform (draw shape a b c d) := by
  refine uniform_bind (uniform_take _) fun a => uniform_bind (uniform_take _) fun b =>
    uniform_bind (uniform_take _) fun c => uniform_bind (uniform_take _) fun d =>
    uniform_bind (uniform_onScope fun _ => rfl) fun fault => ?_
  cases fault with
  | some fault => exact uniform_raise _
  | none => exact uniform_pure ()

theorem uniform_resizeCanvas (width height : String) :
    guise.Uniform (resizeCanvas width height) := by
  refine uniform_bind (uniform_take _) fun width => uniform_bind (uniform_take _) fun height => ?_
  split
  · exact uniform_report _ _ _
  · exact uniform_onCanvas _

theorem uniform_saveImage (path : String) : guise.Uniform (saveImage path) := by
  unfold saveImage
  split
  · exact uniform_report _ _ _
  split
  · exact uniform_raise _
  refine uniform_get (fun _ => rfl) fun scope => ?_
  dsimp only
  split
  · exact uniform_onMachine fun _ => rfl
  · exact uniform_report _ _ _

theorem uniform_carryOut (deed : Deed) : guise.Uniform (carryOut deed) := by
  unfold carryOut
  split
  case h_2 => exact uniform_report _ _ _
  case h_3 => exact uniform_setVariable _ _
  all_goals exact uniform_onMachine fun _ => rfl

end Effect

namespace LoopKind

variable {guise : Guise} {kind : LoopKind}

theorem uniform_plan (amount : String) (header : List Piece) :
    guise.Uniform (kind.plan amount header) := by
  cases kind with
  | forLoop => exact uniform_bind (uniform_take _) fun _ => uniform_pure _
  | _ => exact uniform_pure _

theorem uniform_condition (external : Bool) (header : List Piece) :
    guise.Uniform (kind.condition external header) := by
  refine uniform_bind (Reference.uniform_resolveAll header) fun args => ?_
  split
  · exact Effect.uniform_compare _ _ _
  · exact uniform_bind (uniform_report _ _ _) fun _ => uniform_pure _

end LoopKind

/-! ## What is asked for -/

namespace Guise

variable (guise : Guise)

def signal : Signal → Signal
  | .resume line value => .resume (guise.line line) value
  | signal => signal

def loop (loop : InlineLoop) : InlineLoop :=
  { loop with header := guise.line loop.header, endLine := loop.endLine.map guise.line }

def flow : Flow → Flow
  | .leave signal => .leave (guise.signal signal)
  | .inline loop entered => .inline (guise.loop loop) entered
  | flow => flow

end Guise

/-! ## Instructions -/

namespace Instruction

variable {guise : Guise} {first second : Script} {inBody : Bool} {line : Nat} {pieces : List Piece}
  {args : List String}

theorem carries_done {effect : Action Unit} (uniform : guise.Uniform effect) :
    guise.Carries guise.flow (done effect) (done effect) :=
  carries_bind uniform fun _ => carries_pure _

theorem carries_endOfDefinition :
    guise.Carries guise.flow (endOfDefinition args) (endOfDefinition args) := by
  refine carries_get (fun _ => rfl) fun scope => ?_
  have ends : guise.Carries guise.flow (do
      Action.report .info "End of definition" .ok
      return .leave (.returned nullText)) (do
      Action.report .info "End of definition" .ok
      return .leave (.returned nullText)) :=
    carries_bind (uniform_report _ _ _) fun _ => carries_pure _
  dsimp only
  split
  · split
    · exact ends
    · exact carries_bind (uniform_report _ _ _) fun _ => carries_pure _
  · exact ends

theorem carries_start (kind : LoopKind) (args : List String) :
    guise.Carries guise.flow (kind.start line pieces args)
      (kind.start (guise.line line) pieces args) := by
  cases args with
  | nil => exact carries_raise _
  | cons body rest =>
      unfold LoopKind.start
      dsimp only
      split
      · exact carries_bind (LoopKind.uniform_plan _ _) fun _ => carries_pure _
      · exact carries_bind (LoopKind.uniform_plan _ _) fun _ => carries_pure _

theorem carries_perform {instruction : Instruction} (supplied : instruction.needed ≤ args.length)
    (stays : instruction ≠ .ifBlock) (remains : instruction ≠ .elseBlock) :
    guise.Carries guise.flow (instruction.perform first inBody line pieces args)
      (instruction.perform second inBody (guise.line line) pieces args) := by
  cases given supplied with
  | print => exact carries_done (Effect.uniform_write _ _ _)
  | out => exact carries_done (Effect.uniform_write _ _ _)
  | new => exact carries_done (uniform_forM (fun _ => Effect.uniform_declare _) args)
  | set name value => exact carries_done (uniform_setVariable _ _)
  | delete => exact carries_done (uniform_forM (fun _ => Effect.uniform_remove _) args)
  | @operation rest op destination =>
      exact carries_done (Effect.uniform_operate op destination rest)
  | compare comparison left right =>
      exact carries_done (uniform_bind (Effect.uniform_compare _ _ _) fun _ => uniform_pure _)
  | ifBlock => exact absurd rfl stays
  | elseBlock => exact absurd rfl remains
  | endIf => exact carries_pure _
  | ret => exact carries_pure _
  | endDefinition => exact carries_endOfDefinition
  | definition name =>
      refine carries_get (fun _ => rfl) fun scope => ?_
      exact carries_bind (uniform_report _ _ _) fun _ => carries_pure _
  | random destination low high => exact carries_done (Effect.uniform_random _ _ _)
  | rgbToHex destination red green blue => exact carries_done (Effect.uniform_rgbToHex _ _ _ _)
  | hexToRgb red green blue text => exact carries_done (Effect.uniform_hexToRgb _ _ _ _)
  | allocate amount => exact carries_done (Effect.uniform_allocate _)
  | free amount => exact carries_done (Effect.uniform_free _)
  | setMemory address value => exact carries_done (Effect.uniform_setMemory _ _)
  | getMemory destination address => exact carries_done (Effect.uniform_getMemory _ _)
  | push value => exact carries_done (uniform_onMachine fun _ => rfl)
  | pop destination => exact carries_done (Effect.uniform_pop _)
  | enqueue value => exact carries_done (uniform_onMachine fun _ => rfl)
  | dequeue destination => exact carries_done (Effect.uniform_dequeue _)
  | call entry => exact carries_pure _
  | halt => exact carries_bind (uniform_report _ _ _) fun _ => carries_throw rfl
  | @loop rest kind body => exact carries_start kind (body :: rest)
  | endLoop kind =>
      change guise.Carries guise.flow (if inBody = true then _ else _)
        (if inBody = true then _ else _)
      split
      · exact carries_get (fun _ => rfl) fun scope => carries_pure _
      · exact carries_bind (uniform_report _ _ _) fun _ => carries_pure _
  | breakLoop => exact carries_get (fun _ => rfl) fun scope => carries_pure _
  | continueLoop => exact carries_get (fun _ => rfl) fun scope => carries_pure _
  | sleep milliseconds => exact carries_done (Effect.uniform_sleep _)
  | noop => exact carries_pure _
  | color text => exact carries_done (Effect.uniform_setPen _)
  | fill text => exact carries_done (Effect.uniform_fillCanvas _)
  | line x y x1 y1 => exact carries_done (Effect.uniform_draw _ _ _ _ _)
  | rectangle x y width height => exact carries_done (Effect.uniform_draw _ _ _ _ _)
  | windowSize width height => exact carries_done (Effect.uniform_resizeCanvas _ _)
  | saveImage path => exact carries_done (Effect.uniform_saveImage _)

end Instruction

theorem Effect.carries_conclude {guise : Guise} (verdict : Verdict) :
    guise.Carries guise.flow (conclude verdict) (conclude verdict) := by
  cases verdict with
  | unreadable text => exact carries_throw rfl
  | troubled trouble => exact carries_throw (guise.fault_trouble trouble)
  | _ => exact fun _ => rfl

theorem Effect.carries_extend {guise : Guise} (behavior : InstructionBehavior)
    (args : List String) :
    guise.Carries guise.flow (extend behavior args) (extend behavior args) :=
  carries_bind uniform_observe fun _ => carries_get (fun _ => rfl) fun _ =>
    carries_bind (uniform_forM uniform_carryOut _) fun _ => carries_conclude _

theorem Meaning.carries_perform {guise : Guise} {first second : Script} {meaning : Meaning}
    {inBody : Bool} {line : Nat} {pieces : List Piece} {args : List String}
    (supplied : meaning.Supplied args) (stays : meaning ≠ .builtin .ifBlock)
    (remains : meaning ≠ .builtin .elseBlock) :
    guise.Carries guise.flow (meaning.perform first inBody line pieces args)
      (meaning.perform second inBody (guise.line line) pieces args) := by
  cases meaning with
  | builtin instruction =>
      exact Instruction.carries_perform (supplied _ rfl) (fun same => stays (same ▸ rfl))
        fun same => remains (same ▸ rfl)
  | added behavior => exact Effect.carries_extend behavior args

end LineScript
