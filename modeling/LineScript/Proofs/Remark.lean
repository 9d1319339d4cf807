import LineScript.Proofs.Reading

/-!
What instructions have to say. Four codes are kept for failures, which end the run. Whatever else an
instruction reports is a remark about the line that its frame is at, and no hook hears of it. An
instruction that fails by itself has reported the failure at once, unless an extension has made it
up.
-/

namespace LineScript

open LineScript.Action

/-! ## Remarks -/

namespace Code

def endsRun : Code → Bool
  | jumpNotFound => true
  | unrecognizedInstruction => true
  | extension => true
  | internal => true
  | added number => [20, 22, 32, 33].contains number
  | _ => false

theorem endsRun_iff (code : Code) : code.endsRun = true ↔ code.number ∈ [20, 22, 32, 33] := by
  cases code with
  | added number => exact List.contains_iff_mem
  | _ => decide

theorem number_ne {code other : Code} (calm : code.endsRun = false) (grave : other.endsRun = true) :
    code.number ≠ other.number := by
  intro same
  have listed := (endsRun_iff other).mp grave
  rw [← same, ← endsRun_iff, calm] at listed
  cases listed

end Code

def Message.Remarks (line : Int) (message : Message) : Prop :=
  ∃ note : Note, note.code.endsRun = false ∧ message = note.onLine line

def Log.Gains (fits : Message → Prop) (before after : Log) : Prop :=
  ∃ messages, after.newest = messages ++ before.newest ∧ ∀ message ∈ messages, fits message

namespace Log.Gains

variable {fits : Message → Prop} {first second third : Log}

theorem refl (log : Log) : log.Gains fits log :=
  ⟨[], rfl, nofun⟩

theorem trans (early : first.Gains fits second) (late : second.Gains fits third) :
    first.Gains fits third := by
  obtain ⟨before, split, fitsBefore⟩ := early
  obtain ⟨after, splitAfter, fitsAfter⟩ := late
  refine ⟨after ++ before, by rw [splitAfter, split, List.append_assoc], fun message member => ?_⟩
  rcases List.mem_append.mp member with new | old
  · exact fitsAfter message new
  · exact fitsBefore message old

theorem weaken {more : Message → Prop} (gains : first.Gains fits second)
    (included : ∀ message, fits message → more message) : first.Gains more second := by
  obtain ⟨messages, split, known⟩ := gains
  exact ⟨messages, split, fun message member => included message (known message member)⟩

theorem emit {message : Message} (fit : fits message) : first.Gains fits (first.emit message) :=
  ⟨[message], rfl, fun _ member => List.mem_singleton.mp member ▸ fit⟩

end Log.Gains

/-- The frame is at the same line, and all that has happened outside it is that remarks about this
line have been made. -/
structure Scope.Remarks (before after : Scope) : Prop where
  log : before.machine.log.Gains (Message.Remarks before.frame.cursor.line) after.machine.log
  events : after.machine.events = before.machine.events
  cursor : after.frame.cursor = before.frame.cursor

namespace Scope

variable {first second third : Scope}

theorem Remarks.trans (early : first.Remarks second) (late : second.Remarks third) :
    first.Remarks third where
  log := early.log.trans (early.cursor ▸ late.log)
  events := late.events.trans early.events
  cursor := late.cursor.trans early.cursor

theorem remarks_silent {scope after : Scope} (log : after.machine.log = scope.machine.log)
    (events : after.machine.events = scope.machine.events)
    (cursor : after.frame.cursor = scope.frame.cursor) : scope.Remarks after :=
  ⟨log ▸ .refl _, events, cursor⟩

theorem Remarks.refl (scope : Scope) : scope.Remarks scope :=
  remarks_silent rfl rfl rfl

theorem remarks_report (scope : Scope) {note : Note} (calm : note.code.endsRun = false) :
    scope.Remarks (scope.report note) :=
  ⟨.emit ⟨note, calm, rfl⟩, rfl, rfl⟩

theorem remarks_reportAll (scope : Scope) {notes : List Note}
    (calm : ∀ note ∈ notes, note.code.endsRun = false) : scope.Remarks (scope.reportAll notes) := by
  induction notes generalizing scope with
  | nil => exact .refl scope
  | cons note rest ih =>
      have here := scope.remarks_report (calm note List.mem_cons_self)
      exact here.trans (ih _ fun other member => calm other (List.mem_cons_of_mem _ member))

theorem remarks_getVariable (scope : Scope) (name : String) :
    scope.Remarks (scope.getVariable name).2 := by
  unfold getVariable
  split
  · exact .refl scope
  · exact scope.remarks_report rfl

theorem remarks_setVariable (scope : Scope) (name value : String) :
    scope.Remarks (scope.setVariable name value).2 := by
  unfold setVariable
  split
  · exact remarks_silent rfl rfl rfl
  · exact scope.remarks_report rfl

theorem remarks_operands (scope : Scope) (destination : String) (rest : List String)
    (count : Nat) : scope.Remarks (scope.operands destination rest count).2 := by
  unfold operands
  split
  · exact .refl scope
  · exact scope.remarks_getVariable destination

end Scope

namespace Action

variable {α β : Type}

def Remarks (action : Action α) : Prop :=
  ∀ scope : Scope, scope.Remarks (lastScope (action scope))

theorem Remarks.ok {action : Action α} (remarks : Remarks action) {scope after : Scope} {value : α}
    (result : action scope = .ok value after) : scope.Remarks after := by
  have here := remarks scope
  rwa [result] at here

theorem Remarks.error {action : Action α} (remarks : Remarks action) {scope after : Scope}
    {fault : Fault} (result : action scope = .error fault after) : scope.Remarks after := by
  have here := remarks scope
  rwa [result] at here

theorem remarks_pure (value : α) : Remarks (pure value : Action α) :=
  fun scope => .refl scope

theorem remarks_throw (fault : Fault) : Remarks (throw fault : Action α) :=
  fun scope => .refl scope

theorem remarks_bind {first : Action α} {next : α → Action β} (remarks : Remarks first)
    (remarksNext : ∀ value, Remarks (next value)) : Remarks (first >>= next) := by
  intro scope
  have early := remarks scope
  rw [bind_apply]
  cases result : first scope with
  | error fault middle => rwa [result] at early
  | ok value middle =>
      rw [result] at early
      exact early.trans (remarksNext value middle)

theorem remarks_get {next : Scope → Action α} (remarks : ∀ scope, Remarks (next scope)) :
    Remarks (get >>= next) :=
  fun scope => remarks scope scope

theorem remarks_onScope {change : Scope → α × Scope}
    (remarks : ∀ scope : Scope, scope.Remarks (change scope).2) : Remarks (onScope change) :=
  remarks

theorem remarks_modify {change : Scope → Scope}
    (remarks : ∀ scope : Scope, scope.Remarks (change scope)) :
    Remarks (modify change : Action Unit) :=
  remarks

theorem remarks_onMachine {change : Machine → Machine}
    (silent : ∀ machine, (change machine).log = machine.log ∧
      (change machine).events = machine.events) : Remarks (onMachine change) :=
  fun scope => Scope.remarks_silent (silent scope.machine).1 (silent scope.machine).2 rfl

theorem remarks_report (level : Level) (text : String) {code : Code}
    (calm : code.endsRun = false) : Remarks (report level text code) :=
  fun scope => scope.remarks_report calm

theorem remarks_getVariable (name : String) : Remarks (getVariable name) :=
  fun scope => scope.remarks_getVariable name

theorem remarks_setVariable (name value : String) : Remarks (setVariable name value) :=
  fun scope => scope.remarks_setVariable name value

theorem remarks_forM {action : α → Action Unit} (remarks : ∀ value, Remarks (action value))
    (values : List α) : Remarks (values.forM action) := by
  induction values with
  | nil => exact remarks_pure ()
  | cons value rest ih => exact remarks_bind (remarks value) fun _ => ih

theorem remarks_mapM {action : α → Action β} (remarks : ∀ value, Remarks (action value))
    (values : List α) : Remarks (values.mapM action) := by
  induction values with
  | nil => exact remarks_pure []
  | cons value rest ih =>
      rw [List.mapM_cons]
      exact remarks_bind (remarks value) fun _ => remarks_bind ih fun _ => remarks_pure _

theorem remarks_observe : Remarks observe :=
  remarks_onScope fun _ => Scope.remarks_silent rfl rfl rfl

theorem remarks_readLine (prompt : String) : Remarks (readLine prompt) := by
  refine remarks_bind (remarks_onScope fun scope => Scope.remarks_silent rfl rfl rfl) fun answer => ?_
  cases answer with
  | ok text => exact remarks_pure text
  | error interrupted => exact remarks_throw _

theorem remarks_confirm (question : String) : Remarks (confirm question) := by
  refine remarks_bind (remarks_onScope fun scope => Scope.remarks_silent rfl rfl rfl) fun answer => ?_
  cases answer with
  | ok yes => exact remarks_pure yes
  | error interrupted => exact remarks_throw _

end Action

/-! ## Operations -/

def Computed.IsCalm {α : Type} (computed : Computed α) : Prop :=
  ∀ note ∈ computed.notes, note.code.endsRun = false

namespace Computed

variable {α β : Type}

theorem calm_plain (value : α) : (plain value).IsCalm :=
  nofun

theorem calm_withError (value : α) (text : String) {code : Code} (calm : code.endsRun = false) :
    (withError value text code).IsCalm := by
  intro note member
  rw [List.mem_singleton.mp member]
  exact calm

theorem calm_andThen {first : Computed α} {next : α → Computed β} (calm : first.IsCalm)
    (calmNext : ∀ value, (next value).IsCalm) : (first.andThen next).IsCalm := by
  intro note member
  rcases List.mem_append.mp member with early | late
  · exact calm note early
  · exact calmNext _ note late

end Computed

open Computed

theorem Reading.calm_orElse {α : Type} (value : Option α) (text : String) (default : α) :
    (orElse value text default).IsCalm := by
  cases value with
  | some value => exact calm_plain value
  | none => exact calm_withError _ _ rfl

namespace Operation

theorem calm_decimalText (result : Except Number.DecimalFault Number.Decimal) (what : String) :
    (decimalText result what).IsCalm := by
  unfold decimalText
  split
  · exact calm_plain _
  · exact calm_withError _ _ rfl

theorem calm_calculate (operator : Arithmetic) (left right : String) :
    (calculate operator left right).IsCalm := by
  refine calm_andThen (Reading.calm_orElse _ _ _) fun a =>
    calm_andThen (Reading.calm_orElse _ _ _) fun b => ?_
  split
  · exact calm_withError _ _ rfl
  · exact calm_decimalText _ _

theorem calm_substringOf (text start length : String) : (substringOf text start length).IsCalm := by
  refine calm_andThen (Reading.calm_orElse _ _ _) fun a =>
    calm_andThen (Reading.calm_orElse _ _ _) fun b => ?_
  split
  · exact calm_withError _ _ rfl
  · exact calm_plain _

theorem calm_characterOf (text index : String) : (characterOf text index).IsCalm := by
  refine calm_andThen (Reading.calm_orElse _ _ _) fun index => ?_
  split
  · exact calm_withError _ _ rfl
  · split
    · exact calm_plain _
    · exact calm_withError _ _ rfl

theorem calm_replaceIn (text old new : String) : (replaceIn text old new).IsCalm := by
  unfold replaceIn
  split
  · exact calm_withError _ _ rfl
  · exact calm_plain _

theorem calm_countIn {text pattern : String} {computed : Computed String}
    (counted : countIn text pattern = .ok computed) : computed.IsCalm := by
  unfold countIn at counted
  split at counted
  · cases counted
    exact calm_plain _
  · cases counted
  · cases counted
    exact calm_withError _ _ rfl

theorem calm_roundTo (value places : String) : (roundTo value places).IsCalm := by
  refine calm_andThen (Reading.calm_orElse _ _ _) fun number =>
    calm_andThen (Reading.calm_orElse _ _ _) fun asked =>
    calm_andThen ?_ fun kept => calm_decimalText _ _
  split
  · exact calm_withError _ _ rfl
  · exact calm_plain _

theorem calm_pick (choose : Number.Decimal → Number.Decimal → Number.Decimal)
    (what left right : String) : (pick choose what left right).IsCalm :=
  calm_andThen (Reading.calm_orElse _ _ _) fun _ =>
    calm_andThen (Reading.calm_orElse _ _ _) fun _ => calm_decimalText _ _

theorem calm_evaluate (function : Number.Elementary) (input : String) :
    (evaluate function input).IsCalm := by
  refine calm_andThen (Reading.calm_orElse _ _ _) fun x => ?_
  split
  · exact calm_plain _
  · exact calm_withError _ _ rfl

theorem calm_readBinary (text : String) : (readBinary text).IsCalm := by
  unfold readBinary
  split
  · exact calm_plain _
  · exact calm_withError _ _ rfl

theorem calm_eval {operation : Operation} {inputs : List String} {computed : Computed String}
    (evaluated : operation.eval inputs = .ok computed) : computed.IsCalm := by
  unfold eval at evaluated
  split at evaluated
  case h_6 => exact calm_countIn evaluated
  all_goals cases evaluated
  · exact calm_calculate _ _ _
  · exact calm_substringOf _ _ _
  · exact calm_characterOf _ _
  · exact calm_plain _
  · exact calm_replaceIn _ _ _
  · exact calm_plain _
  · exact calm_plain _
  · exact calm_plain _
  · exact calm_roundTo _ _
  · exact calm_andThen (Reading.calm_orElse _ _ _) fun _ => calm_decimalText _ _
  · exact calm_pick _ _ _ _
  · exact calm_pick _ _ _ _
  · exact calm_evaluate _ _
  · exact calm_plain _
  · exact calm_plain _
  · exact calm_andThen (Reading.calm_orElse _ _ _) fun _ => calm_plain _
  · exact calm_readBinary _
  · exact calm_plain _

end Operation

theorem Action.remarks_take {α : Type} {computed : Computed α} (calm : computed.IsCalm) :
    Remarks (take computed) :=
  remarks_bind (remarks_modify fun scope => scope.remarks_reportAll calm) fun _ => remarks_pure _

theorem Action.remarks_integer (text : String) : Remarks (take (Reading.integer text)) :=
  remarks_take (Reading.calm_orElse _ _ _)

/-! ## References -/

namespace Reference

theorem remarks_evalPredefined (meaning : Predefined) : Remarks (evalPredefined meaning) := by
  cases meaning with
  | computed behavior =>
      refine remarks_bind remarks_observe fun sight => ?_
      cases behavior.answer sight <;> exact fun scope => .refl scope
  | ask => exact remarks_readLine ""
  | promptedAsk => exact remarks_readLine "> "
  | confirmation => exact remarks_bind (remarks_confirm _) fun _ => remarks_pure _
  | _ => first | exact fun scope => .refl scope | exact remarks_observe

theorem remarks_indexOf (text : String) : Remarks (indexOf text) := by
  unfold indexOf
  split
  · exact remarks_pure _
  · exact remarks_bind (remarks_report _ _ rfl) fun _ => remarks_pure _

theorem remarks_cellAt (index : Int) : Remarks (cellAt index) := by
  refine remarks_get fun scope => ?_
  dsimp only
  split
  · exact remarks_pure _
  · exact remarks_bind (remarks_report _ _ rfl) fun _ => remarks_pure _

theorem remarks_characterAt (text : String) (index : Int) : Remarks (characterAt text index) := by
  unfold characterAt
  split
  · exact remarks_pure _
  · exact remarks_bind (remarks_report _ _ rfl) fun _ => remarks_pure _

theorem remarks_argumentAt (index : Int) : Remarks (argumentAt index) := by
  refine remarks_get fun scope => ?_
  dsimp only
  split
  · exact remarks_pure _
  · exact remarks_bind (remarks_report _ _ rfl) fun _ => remarks_pure _

theorem remarks_eval (reference : Reference) : Remarks reference.eval := by
  induction reference with
  | literal text => exact remarks_pure text
  | predefined name =>
      refine remarks_get fun scope => ?_
      split
      · exact remarks_evalPredefined _
      · exact remarks_pure _
  | named name => exact remarks_getVariable name
  | cell index ih =>
      refine remarks_bind ih fun _ => remarks_bind (remarks_indexOf _) fun found => ?_
      cases found with
      | some index => exact remarks_cellAt index
      | none => exact remarks_pure _
  | character index target ihIndex ihTarget =>
      refine remarks_bind ihIndex fun _ => remarks_bind (remarks_indexOf _) fun found => ?_
      refine remarks_bind ihTarget fun text => ?_
      cases found with
      | some index => exact remarks_characterAt text index
      | none => exact remarks_pure _
  | pointless text => exact remarks_bind (remarks_report _ _ rfl) fun _ => remarks_pure _
  | negation reference ih => exact remarks_bind ih fun _ => remarks_pure _
  | argument index ih =>
      refine remarks_bind ih fun _ => remarks_bind (remarks_indexOf _) fun found => ?_
      cases found with
      | some index => exact remarks_argumentAt index
      | none => exact remarks_pure _
  | exhausted => exact remarks_throw _

theorem remarks_read (text : String) : Remarks (read text) :=
  remarks_get fun _ => remarks_eval _

theorem remarks_resolveAll (pieces : List Piece) : Remarks (resolveAll pieces) := by
  refine remarks_mapM (fun piece => ?_) pieces
  unfold resolvePiece
  split
  · exact remarks_pure _
  · exact remarks_read _

end Reference

/-! ## Effects -/

namespace Effect

theorem remarks_write (args : List String) (ending warning : String) :
    Remarks (write args ending warning) := by
  unfold write
  split
  · exact remarks_report _ _ rfl
  · exact remarks_onMachine fun _ => ⟨rfl, rfl⟩

theorem remarks_declare (declaration : String) : Remarks (declare declaration) := by
  have assigns {value : Action String} (remarks : Remarks value) (name : String) :
      Remarks (do
        let value ← value
        modify fun scope => scope.assign name value) :=
    remarks_bind remarks fun _ => remarks_modify fun _ => Scope.remarks_silent rfl rfl rfl
  unfold declare
  dsimp only
  split
  · exact remarks_report _ _ rfl
  refine remarks_get fun scope => ?_
  split
  · exact remarks_report _ _ rfl
  refine remarks_get fun scope => ?_
  cases (Text.cut ',' declaration.toList).2 with
  | some text =>
      have continues := assigns (Reference.remarks_read (String.ofList text))
      split
      · exact remarks_bind (remarks_report _ _ rfl) fun _ => continues _
      · exact continues _
  | none =>
      have continues := assigns (remarks_pure "0")
      split
      · exact remarks_bind (remarks_report _ _ rfl) fun _ => continues _
      · exact continues _

theorem remarks_remove (name : String) : Remarks (remove name) := by
  refine remarks_get fun scope => ?_
  split
  · exact remarks_modify fun _ => Scope.remarks_silent rfl rfl rfl
  · exact remarks_report _ _ rfl

theorem remarks_operate (operation : Operation) (destination : String) (rest : List String) :
    Remarks (operate operation destination rest) := by
  refine remarks_bind (remarks_onScope fun scope => scope.remarks_operands _ _ _) fun inputs => ?_
  split
  · next evaluated =>
      exact remarks_bind (remarks_take (Operation.calm_eval evaluated)) fun _ =>
        remarks_setVariable _ _
  · exact remarks_throw _

theorem remarks_compare (comparison left right : String) :
    Remarks (compare comparison left right) := by
  have remarksResult (result : Bool) : Remarks (do
      Action.onMachine fun machine => { machine with compareFlag := result }
      return result) :=
    remarks_bind (remarks_onMachine fun _ => ⟨rfl, rfl⟩) fun _ => remarks_pure _
  unfold compare
  split
  · exact remarks_bind (remarks_pure _) remarksResult
  · exact remarks_bind (remarks_report _ _ rfl) fun _ =>
      remarks_bind (remarks_pure _) remarksResult

theorem remarks_random (destination low high : String) :
    Remarks (random destination low high) := by
  refine remarks_bind (remarks_integer _) fun low => remarks_bind (remarks_integer _) fun high => ?_
  split
  · exact remarks_bind (remarks_report _ _ rfl) fun _ => remarks_setVariable _ _
  · exact remarks_bind (remarks_onScope fun scope => Scope.remarks_silent rfl rfl rfl) fun _ =>
      remarks_setVariable _ _

theorem remarks_colorComponent (text : String) : Remarks (take (colorComponent text)) := by
  refine remarks_take (calm_andThen (Reading.calm_orElse _ _ _) fun value => ?_)
  split
  · exact calm_plain _
  · exact calm_withError _ _ rfl

theorem remarks_rgbToHex (destination red green blue : String) :
    Remarks (rgbToHex destination red green blue) :=
  remarks_bind (remarks_colorComponent _) fun _ => remarks_bind (remarks_colorComponent _) fun _ =>
    remarks_bind (remarks_colorComponent _) fun _ => remarks_setVariable _ _

theorem remarks_colorOf (text : String) : Remarks (colorOf text) := by
  unfold colorOf
  split
  · exact remarks_pure _
  · exact remarks_bind (remarks_report _ _ rfl) fun _ => remarks_pure _

theorem remarks_hexToRgb (red green blue text : String) :
    Remarks (hexToRgb red green blue text) :=
  remarks_bind (remarks_colorOf text) fun _ => remarks_bind (remarks_setVariable _ _) fun _ =>
    remarks_bind (remarks_setVariable _ _) fun _ => remarks_setVariable _ _

theorem remarks_allocate (amount : String) : Remarks (allocate amount) := by
  refine remarks_bind (remarks_integer _) fun amount => ?_
  split
  · exact remarks_report _ _ rfl
  refine remarks_get fun scope => ?_
  dsimp only
  split
  · exact remarks_throw _
  · exact remarks_onMachine fun _ => ⟨rfl, rfl⟩

theorem remarks_reportTimes (level : Level) (text : String) {code : Code}
    (calm : code.endsRun = false) (count : Nat) : Remarks (reportTimes level text code count) := by
  induction count with
  | zero => exact remarks_pure ()
  | succ count ih => exact remarks_bind (remarks_report _ _ calm) fun _ => ih

theorem remarks_free (amount : String) : Remarks (free amount) := by
  refine remarks_bind (remarks_integer _) fun amount => remarks_get fun scope => ?_
  exact remarks_bind (remarks_onMachine fun _ => ⟨rfl, rfl⟩) fun _ => remarks_reportTimes _ _ rfl _

theorem remarks_cellIndex (text : String) : Remarks (cellIndex text) := by
  unfold cellIndex
  split
  · exact remarks_bind (remarks_report _ _ rfl) fun _ => remarks_pure _
  refine remarks_get fun scope => ?_
  dsimp only
  split
  · exact remarks_pure _
  · exact remarks_bind (remarks_report _ _ rfl) fun _ => remarks_pure _

theorem remarks_setMemory (address value : String) : Remarks (setMemory address value) := by
  refine remarks_bind (remarks_cellIndex address) fun found => ?_
  cases found with
  | some index => exact remarks_onMachine fun _ => ⟨rfl, rfl⟩
  | none => exact remarks_pure ()

theorem remarks_getMemory (destination address : String) :
    Remarks (getMemory destination address) :=
  remarks_bind (remarks_cellIndex address) fun _ => remarks_get fun _ => remarks_setVariable _ _

theorem remarks_pop (destination : String) : Remarks (pop destination) := by
  refine remarks_get fun scope => ?_
  split
  · exact remarks_bind (remarks_onMachine fun _ => ⟨rfl, rfl⟩) fun _ => remarks_setVariable _ _
  · exact remarks_bind (remarks_report _ _ rfl) fun _ => remarks_setVariable _ _

theorem remarks_dequeue (destination : String) : Remarks (dequeue destination) := by
  refine remarks_get fun scope => ?_
  split
  · exact remarks_bind (remarks_onMachine fun _ => ⟨rfl, rfl⟩) fun _ => remarks_setVariable _ _
  · exact remarks_bind (remarks_report _ _ rfl) fun _ => remarks_setVariable _ _

theorem remarks_sleep (milliseconds : String) : Remarks (sleep milliseconds) := by
  refine remarks_bind (remarks_integer _) fun milliseconds => ?_
  split
  · exact remarks_throw _
  split
  · exact remarks_throw _
  refine remarks_get fun scope => ?_
  split
  · exact remarks_report _ _ rfl
  · exact remarks_pure ()

theorem remarks_onCanvas (change : Canvas → Canvas) : Remarks (onCanvas change) :=
  remarks_onMachine fun _ => ⟨rfl, rfl⟩

theorem remarks_setPen (text : String) : Remarks (setPen text) := by
  refine remarks_bind (remarks_colorOf text) fun found => ?_
  cases found with
  | some color => exact remarks_onCanvas _
  | none => exact remarks_pure ()

theorem remarks_fillCanvas (text : String) : Remarks (fillCanvas text) := by
  refine remarks_bind (remarks_colorOf text) fun found => ?_
  cases found with
  | some color => exact remarks_onCanvas _
  | none => exact remarks_pure ()

theorem remarks_draw (shape : Canvas → Ink → Int → Int → Int → Int → Nat → Canvas.Drawn)
    (a b c d : String) : Remarks (draw shape a b c d) := by
  refine remarks_bind (remarks_integer _) fun a => remarks_bind (remarks_integer _) fun b =>
    remarks_bind (remarks_integer _) fun c => remarks_bind (remarks_integer _) fun d =>
    remarks_bind (remarks_onScope fun scope => Scope.remarks_silent rfl rfl rfl) fun fault => ?_
  cases fault with
  | some fault => exact remarks_throw _
  | none => exact remarks_pure ()

theorem remarks_resizeCanvas (width height : String) : Remarks (resizeCanvas width height) := by
  refine remarks_bind (remarks_integer _) fun width =>
    remarks_bind (remarks_integer _) fun height => ?_
  split
  · exact remarks_report _ _ rfl
  · exact remarks_onCanvas _

theorem remarks_saveImage (path : String) : Remarks (saveImage path) := by
  unfold saveImage
  split
  · exact remarks_report _ _ rfl
  split
  · exact remarks_throw _
  refine remarks_get fun scope => ?_
  dsimp only
  split
  · exact remarks_onMachine fun _ => ⟨rfl, rfl⟩
  · exact remarks_report _ _ rfl

end Effect

namespace LoopKind

variable {kind : LoopKind}

theorem remarks_plan (amount : String) (header : List Piece) :
    Remarks (kind.plan amount header) := by
  cases kind with
  | forLoop => exact remarks_bind (remarks_integer _) fun _ => remarks_pure _
  | _ => exact remarks_pure _

theorem remarks_start (line : Nat) (header : List Piece) (args : List String) :
    Remarks (kind.start line header args) := by
  unfold start
  split
  · split
    · exact remarks_bind (remarks_plan _ _) fun _ => remarks_pure _
    · exact remarks_bind (remarks_plan _ _) fun _ => remarks_pure _
  · exact remarks_throw _

theorem remarks_condition (external : Bool) (header : List Piece) :
    Remarks (kind.condition external header) := by
  refine remarks_bind (Reference.remarks_resolveAll header) fun args => ?_
  split
  · exact Effect.remarks_compare _ _ _
  · exact remarks_bind (remarks_report _ _ rfl) fun _ => remarks_pure _

end LoopKind

/-! ## Extensions -/

/-- The code of the instruction reports the note some time. -/
def InstructionBehavior.Reports (behavior : InstructionBehavior) (note : Note) : Prop :=
  ∃ sight locals args, .report note ∈ (behavior.respond sight locals args).1

/-- The code of the instruction makes up a failure some time. -/
def InstructionBehavior.MakesFailures (behavior : InstructionBehavior) : Prop :=
  ∃ sight locals args message code,
    (behavior.respond sight locals args).2 = .troubled (.failure message code)

/-- The code of the variable makes up a failure some time. -/
def VariableBehavior.MakesFailures (behavior : VariableBehavior) : Prop :=
  ∃ sight message code, behavior.answer sight = .error (.failure message code)

/-- Some instruction of an extension reports the note by itself. -/
def Services.Reports (services : Services) (note : Note) : Prop :=
  ∃ keyword spec, services.instructions.get? keyword = some spec ∧ spec.action.Reports note

def Services.MakesFailures (services : Services) : Prop :=
  ∃ keyword spec, services.instructions.get? keyword = some spec ∧ spec.action.MakesFailures

/-- Some instruction or variable that extensions add makes up failures. -/
def Machine.MakesFailures (machine : Machine) : Prop :=
  machine.services.MakesFailures ∨
    ∃ name behavior, machine.predefined.lookup? name = some (.computed behavior) ∧
      behavior.MakesFailures

theorem Machine.Kept.makesFailures {before after : Machine} (kept : before.Kept after)
    (makes : after.MakesFailures) : before.MakesFailures := by
  rwa [MakesFailures, kept.services, kept.predefined] at makes

theorem Trouble.fault_failure {trouble : Trouble} {failure : Failure}
    (made : trouble.fault = .failure failure) :
    ∃ message code, trouble = .failure message code := by
  cases trouble with
  | failure message code => exact ⟨message, code, rfl⟩
  | _ => cases made

/-- The message is about the line. Its code is kept for failures only when it is one of certain
messages. -/
def Message.Speaks (voiced : Note → Prop) (line : Int) (message : Message) : Prop :=
  ∃ note : Note, (note.code.endsRun = true → voiced note) ∧ message = note.onLine line

theorem Message.Remarks.speaks {voiced : Note → Prop} {line : Int} {message : Message}
    (remarks : message.Remarks line) : message.Speaks voiced line := by
  obtain ⟨note, calm, same⟩ := remarks
  refine ⟨note, fun grave => ?_, same⟩
  rw [calm] at grave
  cases grave

/-- As with remarks, but certain messages can have a code that is kept for failures. -/
structure Scope.Speaks (voiced : Note → Prop) (before after : Scope) : Prop where
  log : before.machine.log.Gains (Message.Speaks voiced before.frame.cursor.line) after.machine.log
  events : after.machine.events = before.machine.events
  cursor : after.frame.cursor = before.frame.cursor

namespace Scope

variable {voiced : Note → Prop} {first second third : Scope}

theorem Remarks.speaks (remarks : first.Remarks second) : first.Speaks voiced second :=
  ⟨remarks.log.weaken fun _ => Message.Remarks.speaks, remarks.events, remarks.cursor⟩

theorem Speaks.trans (early : first.Speaks voiced second) (late : second.Speaks voiced third) :
    first.Speaks voiced third where
  log := early.log.trans (early.cursor ▸ late.log)
  events := late.events.trans early.events
  cursor := late.cursor.trans early.cursor

theorem Speaks.weaken {other : Note → Prop} (speaks : first.Speaks voiced second)
    (included : ∀ note, voiced note → other note) : first.Speaks other second :=
  ⟨speaks.log.weaken fun _ ⟨note, known, same⟩ => ⟨note, included note ∘ known, same⟩,
    speaks.events, speaks.cursor⟩

end Scope

namespace Effect

theorem speaks_carryOut {voiced : Note → Prop} (deed : Deed)
    (known : ∀ note, deed = .report note → note.code.endsRun = true → voiced note) (scope : Scope) :
    scope.Speaks voiced (lastScope (carryOut deed scope)) := by
  cases deed with
  | report note => exact ⟨.emit ⟨note, known note rfl, rfl⟩, rfl, rfl⟩
  | assign name value => exact (remarks_setVariable name value scope).speaks
  | _ => exact ⟨.refl _, rfl, rfl⟩

theorem speaks_forM {voiced : Note → Prop} {deeds : List Deed}
    (known : ∀ note, .report note ∈ deeds → note.code.endsRun = true → voiced note)
    {before after : Scope} (carried : deeds.forM carryOut before = .ok () after) :
    before.Speaks voiced after := by
  induction deeds generalizing before with
  | nil =>
      cases carried
      exact (Scope.Remarks.refl _).speaks
  | cons deed rest ih =>
      obtain ⟨_, middle, first, others⟩ := bind_ok carried
      have here := speaks_carryOut deed
        (fun note same => known note (same ▸ List.mem_cons_self)) before
      rw [first] at here
      exact here.trans
        (ih (fun note member => known note (List.mem_cons_of_mem deed member)) others)

theorem lastScope_conclude (verdict : Verdict) (scope : Scope) :
    lastScope (conclude verdict scope) = scope := by
  cases verdict <;> rfl

theorem speaks_extend (behavior : InstructionBehavior) (args : List String) (scope : Scope) :
    scope.Speaks behavior.Reports (lastScope (extend behavior args scope)) := by
  obtain ⟨middle, carried, concludes⟩ := extend_concludes behavior args scope
  have looked : scope.Speaks behavior.Reports scope.looked := (remarks_observe scope).speaks
  have spoken : scope.looked.Speaks behavior.Reports middle :=
    speaks_forM (fun note member _ => ⟨_, _, _, member⟩) carried
  rw [concludes, lastScope_conclude]
  exact looked.trans spoken

theorem extend_failure {behavior : InstructionBehavior} {args : List String} {scope after : Scope}
    {failure : Failure}
    (extended : extend behavior args scope = .error (.failure failure) after) :
    behavior.MakesFailures := by
  obtain ⟨middle, -, concludes⟩ := extend_concludes behavior args scope
  rw [concludes] at extended
  cases ended : (behavior.respond scope.machine.sight scope.frame.locals args).2 with
  | troubled trouble =>
      rw [ended] at extended
      obtain ⟨message, code, rfl⟩ := Trouble.fault_failure (EStateM.Result.error.inj extended).1
      exact ⟨_, _, _, message, code, ended⟩
  | _ =>
      rw [ended] at extended
      cases extended

end Effect

theorem Action.Hampers.makesFailures {scope : Scope} {failure : Failure}
    (hampers : Hampers scope (.failure failure)) : scope.machine.MakesFailures := by
  generalize same : Fault.failure failure = fault at hampers
  cases hampers with
  | refused found answered =>
      obtain ⟨message, code, rfl⟩ := Trouble.fault_failure same.symm
      exact .inr ⟨_, _, found, _, message, code, answered⟩
  | exhausted bounded => cases same

theorem Action.not_interrupts_failure {scope : Scope} {failure : Failure} :
    ¬ Interrupts scope (.failure failure) := by
  rintro ⟨cause, same, -⟩
  cases cause <;> cases same

theorem Action.Arises.makesFailures {faults : Fault → Prop} {scope : Scope} {failure : Failure}
    (arises : Arises faults scope (.failure failure)) (unexpected : ¬ faults (.failure failure)) :
    scope.machine.MakesFailures := by
  rcases arises with expected | interrupts | hampers
  · exact absurd expected unexpected
  · exact absurd interrupts not_interrupts_failure
  · exact hampers.makesFailures

/-- How an action ends early: with a failure that it has just reported, or after messages with
another fault. A failure that is not reported is made by an extension; the reason is that the action
is an instruction which makes failures. -/
inductive Scope.Breaks (voiced : Note → Prop) (makes : Prop) (scope : Scope) :
    Scope → Fault → Prop where
  | reported (kind : FailureKind) (message : String) {code : Code} (grave : code.endsRun = true) :
      Breaks voiced makes scope (scope.reportFailure message code)
        (.failure (scope.failure kind message code))
  | spoken {after : Scope} {fault : Fault} (speaks : scope.Speaks voiced after)
      (known : ∀ failure, fault = .failure failure → makes ∨ scope.machine.MakesFailures) :
      Breaks voiced makes scope after fault

/-! ## Instructions -/

namespace Instruction

variable {instruction : Instruction} {script : Script} {inBody : Bool} {number : Nat}
  {pieces : List Piece} {args : List String}

theorem remarks_done {effect : Action Unit} (remarks : Remarks effect) : Remarks (done effect) :=
  remarks_bind remarks fun _ => remarks_pure _

theorem remarks_endOfDefinition (args : List String) : Remarks (endOfDefinition args) := by
  refine remarks_get fun scope => ?_
  dsimp only
  split
  · split
    · exact remarks_bind (remarks_report _ _ rfl) fun _ => remarks_pure _
    · exact remarks_bind (remarks_report _ _ rfl) fun _ => remarks_pure _
  · exact remarks_bind (remarks_report _ _ rfl) fun _ => remarks_pure _

theorem remarks_perform (still : instruction.isJump = false) :
    Remarks (instruction.perform script inBody number pieces args) := by
  rcases Nat.lt_or_ge args.length instruction.needed with short | supplied
  · rw [perform_short short]
    exact remarks_throw _
  cases given supplied with
  | print => exact remarks_done (Effect.remarks_write _ _ _)
  | out => exact remarks_done (Effect.remarks_write _ _ _)
  | new => exact remarks_done (remarks_forM Effect.remarks_declare _)
  | set name value => exact remarks_done (remarks_setVariable _ _)
  | delete => exact remarks_done (remarks_forM Effect.remarks_remove _)
  | operation op destination => exact remarks_done (Effect.remarks_operate _ _ _)
  | compare comparison left right =>
      exact remarks_done (remarks_bind (Effect.remarks_compare _ _ _) fun _ => remarks_pure _)
  | ifBlock => cases still
  | elseBlock => cases still
  | endIf => exact remarks_pure _
  | ret => exact remarks_pure _
  | endDefinition => exact remarks_endOfDefinition _
  | definition name =>
      exact remarks_get fun _ => remarks_bind (remarks_report _ _ rfl) fun _ => remarks_pure _
  | random destination low high => exact remarks_done (Effect.remarks_random _ _ _)
  | rgbToHex destination red green blue => exact remarks_done (Effect.remarks_rgbToHex _ _ _ _)
  | hexToRgb red green blue text => exact remarks_done (Effect.remarks_hexToRgb _ _ _ _)
  | allocate amount => exact remarks_done (Effect.remarks_allocate _)
  | free amount => exact remarks_done (Effect.remarks_free _)
  | setMemory address value => exact remarks_done (Effect.remarks_setMemory _ _)
  | getMemory destination address => exact remarks_done (Effect.remarks_getMemory _ _)
  | push value => exact remarks_done (remarks_onMachine fun _ => ⟨rfl, rfl⟩)
  | pop destination => exact remarks_done (Effect.remarks_pop _)
  | enqueue value => exact remarks_done (remarks_onMachine fun _ => ⟨rfl, rfl⟩)
  | dequeue destination => exact remarks_done (Effect.remarks_dequeue _)
  | call entry => exact remarks_pure _
  | halt => exact remarks_bind (remarks_report _ _ rfl) fun _ => remarks_throw _
  | @loop rest kind body => exact LoopKind.remarks_start number pieces (body :: rest)
  | endLoop kind =>
      change Remarks (if inBody = true then _ else _)
      split
      · exact remarks_get fun _ => remarks_pure _
      · exact remarks_bind (remarks_report _ _ rfl) fun _ => remarks_pure _
  | breakLoop => exact remarks_get fun _ => remarks_pure _
  | continueLoop => exact remarks_get fun _ => remarks_pure _
  | sleep milliseconds => exact remarks_done (Effect.remarks_sleep _)
  | noop => exact remarks_pure _
  | color text => exact remarks_done (Effect.remarks_setPen _)
  | fill text => exact remarks_done (Effect.remarks_fillCanvas _)
  | line x y x1 y1 => exact remarks_done (Effect.remarks_draw _ _ _ _ _)
  | rectangle x y width height => exact remarks_done (Effect.remarks_draw _ _ _ _ _)
  | windowSize width height => exact remarks_done (Effect.remarks_resizeCanvas _ _)
  | saveImage path => exact remarks_done (Effect.remarks_saveImage _)

end Instruction

namespace Meaning

variable {meaning : Meaning} {script : Script} {inBody : Bool} {number : Nat}
  {pieces : List Piece} {args : List String} {scope after : Scope} {flow : Flow} {fault : Fault}

/-- The instruction is the code of an extension that reports the note some time. -/
def Reports (meaning : Meaning) (note : Note) : Prop :=
  ∃ behavior, meaning = .added behavior ∧ behavior.Reports note

/-- The instruction is the code of an extension that makes up failures. -/
def MakesFailures (meaning : Meaning) : Prop :=
  ∃ behavior, meaning = .added behavior ∧ behavior.MakesFailures

theorem perform_speaks
    (performed : meaning.perform script inBody number pieces args scope = .ok flow after) :
    scope.Speaks meaning.Reports after ∨
      (flow = .next ∧ ∃ cursor, after = scope.movedTo cursor) := by
  cases meaning with
  | added behavior =>
      have spoken := Effect.speaks_extend behavior args scope
      change Effect.extend behavior args scope = _ at performed
      rw [performed] at spoken
      exact .inl (spoken.weaken fun _ reports => ⟨behavior, rfl, reports⟩)
  | builtin instruction =>
      by_cases jump : instruction.isJump = true
      · rcases Instruction.perform_jump_cases jump with ⟨cursor, -, moved⟩ | failed
        · cases moved.symm.trans performed
          exact .inr ⟨rfl, cursor, rfl⟩
        · cases failed.symm.trans performed
      · exact .inl ((Instruction.remarks_perform (by simpa using jump)).ok performed).speaks

theorem perform_breaks (supplied : meaning.Supplied args)
    (performed : meaning.perform script inBody number pieces args scope = .error fault after) :
    scope.Breaks meaning.Reports meaning.MakesFailures after fault := by
  cases meaning with
  | added behavior =>
      have spoken := Effect.speaks_extend behavior args scope
      change Effect.extend behavior args scope = _ at performed
      rw [performed] at spoken
      refine .spoken (spoken.weaken fun _ reports => ⟨behavior, rfl, reports⟩)
        fun failure same => ?_
      subst same
      exact .inl ⟨behavior, rfl, Effect.extend_failure performed⟩
  | builtin instruction =>
      by_cases jump : instruction.isJump = true
      · rcases Instruction.perform_jump_cases jump with ⟨cursor, -, moved⟩ | failed
        · cases moved.symm.trans performed
        · cases failed.symm.trans performed
          exact .reported _ _ rfl
      · have still : instruction.isJump = false := by simpa using jump
        refine .spoken ((Instruction.remarks_perform still).error performed).speaks
          fun failure same => ?_
        subst same
        -- An instruction that does not jump ends early only with a halt or with an exception.
        have arises := ((Instruction.keeps_perform still (supplied instruction rfl)).raised performed).2
        refine .inr (arises.makesFailures ?_)
        rintro (⟨-, exception, raised⟩ | ⟨-, halted⟩)
        · cases raised
        · cases halted

end Meaning

namespace Machine

variable {machine : Machine} {keyword : String} {spec : Spec Meaning}

theorem added_of_lookup? {behavior : InstructionBehavior}
    (found : machine.lookup? keyword = some spec) (same : spec.action = .added behavior) :
    ∃ added, machine.services.instructions.get? keyword = some added ∧ added.action = behavior := by
  rcases lookup?_cases found with ⟨entry, -, origin, -, -, rfl⟩ | ⟨added, listed, rfl⟩
  · cases same
  · exact ⟨added, listed, Meaning.added.inj same⟩

theorem reports_of_lookup? (found : machine.lookup? keyword = some spec) {note : Note}
    (reports : spec.action.Reports note) : machine.services.Reports note := by
  obtain ⟨_, same, reports⟩ := reports
  obtain ⟨added, listed, rfl⟩ := added_of_lookup? found same
  exact ⟨keyword, added, listed, reports⟩

theorem makesFailures_of_lookup? (found : machine.lookup? keyword = some spec)
    (makes : spec.action.MakesFailures) : machine.services.MakesFailures := by
  obtain ⟨_, same, makes⟩ := makes
  obtain ⟨added, listed, rfl⟩ := added_of_lookup? found same
  exact ⟨keyword, added, listed, makes⟩

end Machine

end LineScript
