import LineScript.Proofs.Reading

/-!
What each instruction changes. Beside its place in the script and its variables a frame changes some
parts of the machine; which ones can be told from the instruction alone. The settings, the modes,
what the last definition returned and what hooks have recorded are never among them.
-/

namespace LineScript

open LineScript.Action

/-! ## The parts of a scope -/

/-- A part of the scope that some instruction changes. -/
inductive Part where
  | locals
  | cursor
  | memory
  | stack
  | queue
  | compareFlag
  | canvas
  | generator
  | console
  | files
  | log
  | output
deriving DecidableEq, Repr

/-- What the code of an instruction of an extension has in its hands. -/
def Part.extension : List Part :=
  [.locals, .stack, .queue, .compareFlag, .console, .log, .output]

def Part.Same (before after : Scope) : Part → Prop
  | locals => after.frame.locals = before.frame.locals
  | cursor => after.frame.cursor = before.frame.cursor
  | memory => after.machine.memory = before.machine.memory
  | stack => after.machine.stack = before.machine.stack
  | queue => after.machine.queue = before.machine.queue
  | compareFlag => after.machine.compareFlag = before.machine.compareFlag
  | canvas => after.machine.canvas = before.machine.canvas
  | generator => after.machine.generator = before.machine.generator
  | console => after.machine.console = before.machine.console
  | files => after.machine.files = before.machine.files
  | log => after.machine.log = before.machine.log
  | output => after.machine.output = before.machine.output

structure Scope.Steady (before after : Scope) : Prop where
  settings : after.machine.settings = before.machine.settings
  services : after.machine.services = before.machine.services
  predefined : after.machine.predefined = before.machine.predefined
  extended : after.machine.extended = before.machine.extended
  graphics : after.machine.graphics = before.machine.graphics
  returned : after.machine.returned = before.machine.returned
  host : after.machine.host = before.machine.host
  frames : after.machine.frames = before.machine.frames
  wakes : after.machine.wakes = before.machine.wakes
  events : after.machine.events = before.machine.events
  trace : after.machine.trace = before.machine.trace
  entry : after.frame.entry = before.frame.entry
  args : after.frame.args = before.frame.args

/-- The scopes differ at most in certain parts. -/
structure Scope.Alters (parts : List Part) (before after : Scope) : Prop where
  steady : before.Steady after
  others : ∀ part, part ∉ parts → part.Same before after

theorem Part.Same.trans {part : Part} {first second third : Scope}
    (early : part.Same first second) (late : part.Same second third) : part.Same first third := by
  cases part <;> exact Eq.trans late early

namespace Scope

variable {parts : List Part} {first second third : Scope}

theorem Steady.refl (scope : Scope) : scope.Steady scope :=
  ⟨rfl, rfl, rfl, rfl, rfl, rfl, rfl, rfl, rfl, rfl, rfl, rfl, rfl⟩

theorem Steady.trans (early : first.Steady second) (late : second.Steady third) :
    first.Steady third where
  settings := late.settings.trans early.settings
  services := late.services.trans early.services
  predefined := late.predefined.trans early.predefined
  extended := late.extended.trans early.extended
  graphics := late.graphics.trans early.graphics
  returned := late.returned.trans early.returned
  host := late.host.trans early.host
  frames := late.frames.trans early.frames
  wakes := late.wakes.trans early.wakes
  events := late.events.trans early.events
  trace := late.trace.trans early.trace
  entry := late.entry.trans early.entry
  args := late.args.trans early.args

theorem Alters.refl (scope : Scope) : scope.Alters parts scope :=
  ⟨.refl scope, fun part _ => by cases part <;> rfl⟩

theorem Alters.trans (early : first.Alters parts second) (late : second.Alters parts third) :
    first.Alters parts third :=
  ⟨early.steady.trans late.steady, fun part other => (early.others part other).trans
    (late.others part other)⟩

theorem Alters.weaken {more : List Part} (alters : first.Alters parts second)
    (included : parts ⊆ more) : first.Alters more second :=
  ⟨alters.steady, fun part other => alters.others part fun member => other (included member)⟩

theorem alters_part {part : Part} (steady : first.Steady second)
    (others : ∀ other, other ≠ part → other.Same first second) (listed : part ∈ parts) :
    first.Alters parts second :=
  ⟨steady, fun other absent => others other fun same => absent (same ▸ listed)⟩

variable (scope : Scope)

theorem alters_locals (locals : Locals) (listed : .locals ∈ parts) :
    scope.Alters parts { scope with frame := { scope.frame with locals } } := by
  refine alters_part (by constructor <;> rfl) (fun other apart => ?_) listed
  cases other <;> first | rfl | exact absurd rfl apart

theorem alters_cursor (cursor : Cursor) (listed : .cursor ∈ parts) :
    scope.Alters parts { scope with frame := { scope.frame with cursor } } := by
  refine alters_part (by constructor <;> rfl) (fun other apart => ?_) listed
  cases other <;> first | rfl | exact absurd rfl apart

theorem alters_memory (memory : Memory) (listed : .memory ∈ parts) :
    scope.Alters parts { scope with machine := { scope.machine with memory } } := by
  refine alters_part (by constructor <;> rfl) (fun other apart => ?_) listed
  cases other <;> first | rfl | exact absurd rfl apart

theorem alters_stack (stack : Stack) (listed : .stack ∈ parts) :
    scope.Alters parts { scope with machine := { scope.machine with stack } } := by
  refine alters_part (by constructor <;> rfl) (fun other apart => ?_) listed
  cases other <;> first | rfl | exact absurd rfl apart

theorem alters_queue (queue : Queue) (listed : .queue ∈ parts) :
    scope.Alters parts { scope with machine := { scope.machine with queue } } := by
  refine alters_part (by constructor <;> rfl) (fun other apart => ?_) listed
  cases other <;> first | rfl | exact absurd rfl apart

theorem alters_compareFlag (compareFlag : Bool) (listed : .compareFlag ∈ parts) :
    scope.Alters parts { scope with machine := { scope.machine with compareFlag } } := by
  refine alters_part (by constructor <;> rfl) (fun other apart => ?_) listed
  cases other <;> first | rfl | exact absurd rfl apart

theorem alters_canvas (canvas : Canvas) (listed : .canvas ∈ parts) :
    scope.Alters parts { scope with machine := { scope.machine with canvas } } := by
  refine alters_part (by constructor <;> rfl) (fun other apart => ?_) listed
  cases other <;> first | rfl | exact absurd rfl apart

theorem alters_generator (generator : Generator) (listed : .generator ∈ parts) :
    scope.Alters parts { scope with machine := { scope.machine with generator } } := by
  refine alters_part (by constructor <;> rfl) (fun other apart => ?_) listed
  cases other <;> first | rfl | exact absurd rfl apart

theorem alters_console (console : Console) (listed : .console ∈ parts) :
    scope.Alters parts { scope with machine := { scope.machine with console } } := by
  refine alters_part (by constructor <;> rfl) (fun other apart => ?_) listed
  cases other <;> first | rfl | exact absurd rfl apart

theorem alters_files (files : FileTree) (listed : .files ∈ parts) :
    scope.Alters parts { scope with machine := { scope.machine with files } } := by
  refine alters_part (by constructor <;> rfl) (fun other apart => ?_) listed
  cases other <;> first | rfl | exact absurd rfl apart

theorem alters_log (log : Log) (listed : .log ∈ parts) :
    scope.Alters parts { scope with machine := { scope.machine with log } } := by
  refine alters_part (by constructor <;> rfl) (fun other apart => ?_) listed
  cases other <;> first | rfl | exact absurd rfl apart

theorem alters_output (output : String) (listed : .output ∈ parts) :
    scope.Alters parts { scope with machine := { scope.machine with output } } := by
  refine alters_part (by constructor <;> rfl) (fun other apart => ?_) listed
  cases other <;> first | rfl | exact absurd rfl apart

theorem alters_report (note : Note) (listed : .log ∈ parts) :
    scope.Alters parts (scope.report note) :=
  scope.alters_log _ listed

theorem alters_reportAll (notes : List Note) (listed : .log ∈ parts) :
    scope.Alters parts (scope.reportAll notes) := by
  induction notes generalizing scope with
  | nil => exact .refl scope
  | cons note rest ih => exact (scope.alters_report note listed).trans (ih _)

theorem alters_getVariable (name : String) (listed : .log ∈ parts) :
    scope.Alters parts (scope.getVariable name).2 := by
  unfold getVariable
  split
  · exact .refl scope
  · exact scope.alters_report _ listed

theorem alters_setVariable (name value : String) (known : .locals ∈ parts)
    (listed : .log ∈ parts) : scope.Alters parts (scope.setVariable name value).2 := by
  unfold setVariable
  split
  · exact scope.alters_locals _ known
  · exact scope.alters_report _ listed

theorem alters_operands (destination : String) (rest : List String) (count : Nat)
    (listed : .log ∈ parts) : scope.Alters parts (scope.operands destination rest count).2 := by
  unfold operands
  split
  · exact .refl scope
  · exact scope.alters_getVariable destination listed

end Scope

/-! ## Actions -/

namespace Action

variable {α β : Type} {parts : List Part} {relation : Scope → Scope → Prop}

def Respects (relation : Scope → Scope → Prop) (action : Action α) : Prop :=
  ∀ scope, relation scope (lastScope (action scope))

theorem Respects.ok {action : Action α} (respects : Respects relation action) {scope after : Scope}
    {value : α} (result : action scope = .ok value after) : relation scope after := by
  have here := respects scope
  rwa [result] at here

theorem Respects.error {action : Action α} (respects : Respects relation action)
    {scope after : Scope} {fault : Fault} (result : action scope = .error fault after) :
    relation scope after := by
  have here := respects scope
  rwa [result] at here

theorem respects_bind
    (trans : ∀ first second third, relation first second → relation second third →
      relation first third)
    {first : Action α} {next : α → Action β} (respects : Respects relation first)
    (respectsNext : ∀ value, Respects relation (next value)) :
    Respects relation (first >>= next) := by
  intro scope
  have early := respects scope
  rw [bind_apply]
  cases result : first scope with
  | error fault middle => rwa [result] at early
  | ok value middle =>
      rw [result] at early
      exact trans _ _ _ early (respectsNext value middle)

theorem respects_get {next : Scope → Action α}
    (respects : ∀ scope, Respects relation (next scope)) :
    Respects relation (get >>= next) :=
  fun scope => respects scope scope

theorem lastScope_readLine (prompt : String) (scope : Scope) :
    lastScope (readLine prompt scope) = scope.asked prompt := by
  rw [readLine_eq]
  cases (scope.machine.console.readLine prompt).1 <;> rfl

theorem lastScope_confirm (question : String) (scope : Scope) :
    lastScope (confirm question scope) = scope.asked (question ++ " [y/n] ") := by
  rw [confirm_eq]
  cases (scope.machine.console.readLine (question ++ " [y/n] ")).1 <;> rfl

def Alters (parts : List Part) (action : Action α) : Prop :=
  Respects (Scope.Alters parts) action

theorem Alters.weaken {more : List Part} {action : Action α} (alters : Alters parts action)
    (included : parts ⊆ more) : Alters more action :=
  fun scope => (alters scope).weaken included

theorem alters_pure (value : α) : Alters parts (pure value : Action α) :=
  fun scope => .refl scope

theorem alters_throw (fault : Fault) : Alters parts (throw fault : Action α) :=
  fun scope => .refl scope

theorem alters_bind {first : Action α} {next : α → Action β} (alters : Alters parts first)
    (altersNext : ∀ value, Alters parts (next value)) : Alters parts (first >>= next) :=
  respects_bind (fun _ _ _ => .trans) alters altersNext

theorem alters_get {next : Scope → Action α} (alters : ∀ scope, Alters parts (next scope)) :
    Alters parts (get >>= next) :=
  respects_get alters

theorem alters_modify {change : Scope → Scope}
    (alters : ∀ scope : Scope, scope.Alters parts (change scope)) :
    Alters parts (modify change : Action Unit) :=
  alters

theorem alters_onMachine {change : Machine → Machine}
    (alters : ∀ scope : Scope, scope.Alters parts { scope with machine := change scope.machine }) :
    Alters parts (onMachine change) :=
  alters

theorem alters_onScope {change : Scope → α × Scope}
    (alters : ∀ scope : Scope, scope.Alters parts (change scope).2) :
    Alters parts (onScope change) :=
  alters

theorem alters_report (level : Level) (text : String) (code : Code) (listed : .log ∈ parts) :
    Alters parts (report level text code) :=
  fun scope => scope.alters_report _ listed

theorem alters_take (computed : Computed α) (listed : .log ∈ parts) :
    Alters parts (take computed) :=
  alters_bind (alters_modify fun scope => scope.alters_reportAll _ listed) fun _ => alters_pure _

theorem alters_setVariable (name value : String) (known : .locals ∈ parts)
    (listed : .log ∈ parts) : Alters parts (setVariable name value) :=
  fun scope => scope.alters_setVariable name value known listed

theorem alters_forM {action : α → Action Unit} (alters : ∀ value, Alters parts (action value))
    (values : List α) : Alters parts (values.forM action) := by
  induction values with
  | nil => exact alters_pure ()
  | cons value rest ih => exact alters_bind (alters value) fun _ => ih

theorem alters_mapM {action : α → Action β} (alters : ∀ value, Alters parts (action value))
    (values : List α) : Alters parts (values.mapM action) := by
  induction values with
  | nil => exact alters_pure []
  | cons value rest ih =>
      rw [List.mapM_cons]
      exact alters_bind (alters value) fun _ => alters_bind ih fun _ => alters_pure _

end Action

/-! ## References -/

/-- The relation lets messages be added, lines be read and looks be taken outside, any number of
them. -/
structure Scope.LetsRead (relation : Scope → Scope → Prop) : Prop where
  refl : ∀ scope, relation scope scope
  trans : ∀ first second third, relation first second → relation second third →
    relation first third
  report : ∀ scope note, relation scope (scope.report note)
  asked : ∀ scope prompt, relation scope (scope.asked prompt)
  looked : ∀ scope : Scope, relation scope scope.looked

theorem Scope.letsRead_alters : Scope.LetsRead (Scope.Alters [.console, .log]) where
  refl := .refl
  trans _ _ _ := .trans
  report scope note := scope.alters_report note (by simp)
  asked scope prompt := scope.alters_console _ (by simp)
  looked scope := scope.alters_console _ (by simp)

namespace Scope.LetsRead

variable {relation : Scope → Scope → Prop} (lets : LetsRead relation)

include lets

theorem pure {α : Type} (value : α) : Respects relation (Pure.pure value : Action α) :=
  fun scope => lets.refl scope

theorem bind {α β : Type} {first : Action α} {next : α → Action β}
    (respects : Respects relation first) (respectsNext : ∀ value, Respects relation (next value)) :
    Respects relation (first >>= next) :=
  respects_bind lets.trans respects respectsNext

theorem instead {α : Type} (note : Note) (value : α) : Respects relation (do
    Action.report note.level note.text note.code
    return value) :=
  fun scope => lets.report scope note

theorem evalPredefined (meaning : Predefined) :
    Respects relation (Reference.evalPredefined meaning) := by
  have asked (prompt : String) : Respects relation (readLine prompt) := fun scope => by
    rw [lastScope_readLine]
    exact lets.asked scope prompt
  cases meaning with
  | computed behavior =>
      intro scope
      rw [Reference.evalPredefined_computed]
      cases behavior.answer scope.machine.sight <;> exact lets.looked scope
  | ask => exact asked ""
  | promptedAsk => exact asked "> "
  | confirmation =>
      refine lets.bind (fun scope => ?_) fun _ => lets.pure _
      rw [lastScope_confirm]
      exact lets.asked scope _
  | _ => first | exact fun scope => lets.refl scope | exact fun scope => lets.looked scope

theorem indexOf (text : String) : Respects relation (Reference.indexOf text) := by
  unfold Reference.indexOf
  split
  · exact lets.pure _
  · exact lets.instead ⟨_, _, _⟩ _

theorem cellAt (index : Int) : Respects relation (Reference.cellAt index) := by
  refine respects_get fun scope => ?_
  dsimp only
  split
  · exact lets.pure _
  · exact lets.instead ⟨_, _, _⟩ _

theorem characterAt (text : String) (index : Int) :
    Respects relation (Reference.characterAt text index) := by
  unfold Reference.characterAt
  split
  · exact lets.pure _
  · exact lets.instead ⟨_, _, _⟩ _

theorem argumentAt (index : Int) : Respects relation (Reference.argumentAt index) := by
  refine respects_get fun scope => ?_
  dsimp only
  split
  · exact lets.pure _
  · exact lets.instead ⟨_, _, _⟩ _

theorem getVariable (name : String) : Respects relation (Action.getVariable name) := by
  intro scope
  change relation scope (scope.getVariable name).2
  unfold Scope.getVariable
  split
  · exact lets.refl scope
  · exact lets.report scope _

/-- Whatever is read, nothing else happens. -/
theorem eval (reference : Reference) : Respects relation reference.eval := by
  induction reference with
  | literal text => exact lets.pure text
  | predefined name =>
      refine respects_get fun scope => ?_
      split
      · exact lets.evalPredefined _
      · exact lets.pure _
  | named name => exact lets.getVariable name
  | cell index ih =>
      refine lets.bind ih fun _ => lets.bind (lets.indexOf _) fun found => ?_
      cases found with
      | some index => exact lets.cellAt index
      | none => exact lets.pure _
  | character index target ihIndex ihTarget =>
      refine lets.bind ihIndex fun _ => lets.bind (lets.indexOf _) fun found => ?_
      refine lets.bind ihTarget fun text => ?_
      cases found with
      | some index => exact lets.characterAt text index
      | none => exact lets.pure _
  | pointless text => exact lets.instead ⟨_, _, _⟩ _
  | negation reference ih => exact lets.bind ih fun _ => lets.pure _
  | argument index ih =>
      refine lets.bind ih fun _ => lets.bind (lets.indexOf _) fun found => ?_
      cases found with
      | some index => exact lets.argumentAt index
      | none => exact lets.pure _
  | exhausted => exact fun scope => lets.refl scope

theorem resolve (text : String) : Respects relation (Reference.resolve text) :=
  respects_get fun _ => lets.eval _

theorem read (text : String) : Respects relation (Reference.read text) :=
  respects_get fun _ => lets.eval _

end Scope.LetsRead

namespace Reference

theorem alters_read (text : String) : Alters [.console, .log] (read text) :=
  Scope.letsRead_alters.read text

theorem alters_resolveAll (pieces : List Piece) : Alters [.console, .log] (resolveAll pieces) := by
  refine alters_mapM (fun piece => ?_) pieces
  unfold resolvePiece
  split
  · exact alters_pure _
  · exact alters_read _

end Reference

/-! ## Effects -/

namespace Effect

variable {parts : List Part}

theorem alters_write (args : List String) (ending warning : String) :
    Alters [.log, .output] (write args ending warning) := by
  unfold write
  split
  · exact alters_report _ _ _ (by simp)
  · exact alters_onMachine fun scope => scope.alters_output _ (by simp)

theorem alters_declare (declaration : String) :
    Alters [.console, .log, .locals] (declare declaration) := by
  have assigns {value : Action String} (alters : Alters [.console, .log, .locals] value)
      (name : String) : Alters [.console, .log, .locals] (do
        let value ← value
        modify fun scope => scope.assign name value) :=
    alters_bind alters fun _ => alters_modify fun scope => scope.alters_locals _ (by simp)
  unfold declare
  dsimp only
  split
  · exact alters_report _ _ _ (by simp)
  refine alters_get fun scope => ?_
  split
  · exact alters_report _ _ _ (by simp)
  refine alters_get fun scope => ?_
  cases (Text.cut ',' declaration.toList).2 with
  | some text =>
      have continues := assigns ((Reference.alters_read (String.ofList text)).weaken (by simp))
      split
      · exact alters_bind (alters_report _ _ _ (by simp)) fun _ => continues _
      · exact continues _
  | none =>
      have continues := assigns (alters_pure "0")
      split
      · exact alters_bind (alters_report _ _ _ (by simp)) fun _ => continues _
      · exact continues _

theorem alters_remove (name : String) : Alters [.log, .locals] (remove name) := by
  refine alters_get fun scope => ?_
  split
  · exact alters_modify fun scope => scope.alters_locals _ (by simp)
  · exact alters_report _ _ _ (by simp)

theorem alters_operate (operation : Operation) (destination : String) (rest : List String) :
    Alters [.log, .locals] (operate operation destination rest) := by
  refine alters_bind (alters_onScope fun scope => scope.alters_operands _ _ _ (by simp))
    fun inputs => ?_
  split
  · exact alters_bind (alters_take _ (by simp)) fun _ =>
      alters_setVariable _ _ (by simp) (by simp)
  · exact alters_throw _

theorem alters_compare (comparison left right : String) :
    Alters [.compareFlag, .log] (compare comparison left right) := by
  have keeps (result : Bool) : Alters [.compareFlag, .log] (do
      Action.onMachine fun machine => { machine with compareFlag := result }
      return result) :=
    alters_bind (alters_onMachine fun scope => scope.alters_compareFlag _ (by simp)) fun _ =>
      alters_pure _
  unfold compare
  split
  · exact alters_bind (alters_pure _) keeps
  · exact alters_bind (alters_report _ _ _ (by simp)) fun _ => alters_bind (alters_pure _) keeps

theorem alters_random (destination low high : String) :
    Alters [.generator, .log, .locals] (random destination low high) := by
  refine alters_bind (alters_take _ (by simp)) fun low =>
    alters_bind (alters_take _ (by simp)) fun high => ?_
  split
  · exact alters_bind (alters_report _ _ _ (by simp)) fun _ =>
      alters_setVariable _ _ (by simp) (by simp)
  · exact alters_bind (alters_onScope fun scope => scope.alters_generator _ (by simp)) fun _ =>
      alters_setVariable _ _ (by simp) (by simp)

theorem alters_rgbToHex (destination red green blue : String) :
    Alters [.log, .locals] (rgbToHex destination red green blue) :=
  alters_bind (alters_take _ (by simp)) fun _ => alters_bind (alters_take _ (by simp)) fun _ =>
    alters_bind (alters_take _ (by simp)) fun _ => alters_setVariable _ _ (by simp) (by simp)

theorem alters_colorOf (text : String) (listed : .log ∈ parts) : Alters parts (colorOf text) := by
  unfold colorOf
  split
  · exact alters_pure _
  · exact alters_bind (alters_report _ _ _ listed) fun _ => alters_pure _

theorem alters_hexToRgb (red green blue text : String) :
    Alters [.log, .locals] (hexToRgb red green blue text) :=
  alters_bind (alters_colorOf text (by simp)) fun _ =>
    alters_bind (alters_setVariable _ _ (by simp) (by simp)) fun _ =>
    alters_bind (alters_setVariable _ _ (by simp) (by simp)) fun _ =>
    alters_setVariable _ _ (by simp) (by simp)

theorem alters_allocate (amount : String) : Alters [.log, .memory] (allocate amount) := by
  refine alters_bind (alters_take _ (by simp)) fun amount => ?_
  split
  · exact alters_report _ _ _ (by simp)
  refine alters_get fun scope => ?_
  dsimp only
  split
  · exact alters_throw _
  · exact alters_onMachine fun scope => scope.alters_memory _ (by simp)

theorem alters_reportTimes (level : Level) (text : String) (code : Code) (count : Nat)
    (listed : .log ∈ parts) : Alters parts (reportTimes level text code count) := by
  induction count with
  | zero => exact alters_pure ()
  | succ count ih => exact alters_bind (alters_report _ _ _ listed) fun _ => ih

theorem alters_free (amount : String) : Alters [.log, .memory] (free amount) := by
  refine alters_bind (alters_take _ (by simp)) fun amount => alters_get fun scope => ?_
  exact alters_bind (alters_onMachine fun scope => scope.alters_memory _ (by simp)) fun _ =>
    alters_reportTimes _ _ _ _ (by simp)

theorem alters_cellIndex (text : String) (listed : .log ∈ parts) :
    Alters parts (cellIndex text) := by
  unfold cellIndex
  split
  · exact alters_bind (alters_report _ _ _ listed) fun _ => alters_pure _
  refine alters_get fun scope => ?_
  dsimp only
  split
  · exact alters_pure _
  · exact alters_bind (alters_report _ _ _ listed) fun _ => alters_pure _

theorem alters_setMemory (address value : String) :
    Alters [.log, .memory] (setMemory address value) := by
  refine alters_bind (alters_cellIndex address (by simp)) fun found => ?_
  cases found with
  | some index => exact alters_onMachine fun scope => scope.alters_memory _ (by simp)
  | none => exact alters_pure ()

theorem alters_getMemory (destination address : String) :
    Alters [.log, .locals] (getMemory destination address) :=
  alters_bind (alters_cellIndex address (by simp)) fun _ => alters_get fun _ =>
    alters_setVariable _ _ (by simp) (by simp)

theorem alters_pop (destination : String) : Alters [.log, .stack, .locals] (pop destination) := by
  refine alters_get fun scope => ?_
  split
  · exact alters_bind (alters_onMachine fun scope => scope.alters_stack _ (by simp)) fun _ =>
      alters_setVariable _ _ (by simp) (by simp)
  · exact alters_bind (alters_report _ _ _ (by simp)) fun _ =>
      alters_setVariable _ _ (by simp) (by simp)

theorem alters_dequeue (destination : String) :
    Alters [.log, .queue, .locals] (dequeue destination) := by
  refine alters_get fun scope => ?_
  split
  · exact alters_bind (alters_onMachine fun scope => scope.alters_queue _ (by simp)) fun _ =>
      alters_setVariable _ _ (by simp) (by simp)
  · exact alters_bind (alters_report _ _ _ (by simp)) fun _ =>
      alters_setVariable _ _ (by simp) (by simp)

theorem alters_sleep (milliseconds : String) : Alters [.log] (sleep milliseconds) := by
  refine alters_bind (alters_take _ (by simp)) fun milliseconds => ?_
  split
  · exact alters_throw _
  split
  · exact alters_throw _
  refine alters_get fun scope => ?_
  split
  · exact alters_report _ _ _ (by simp)
  · exact alters_pure ()

theorem alters_onCanvas (change : Canvas → Canvas) (listed : .canvas ∈ parts) :
    Alters parts (onCanvas change) :=
  alters_onMachine fun scope => scope.alters_canvas _ listed

theorem alters_setPen (text : String) : Alters [.canvas, .log] (setPen text) := by
  refine alters_bind (alters_colorOf text (by simp)) fun found => ?_
  cases found with
  | some color => exact alters_onCanvas _ (by simp)
  | none => exact alters_pure ()

theorem alters_fillCanvas (text : String) : Alters [.canvas, .log] (fillCanvas text) := by
  refine alters_bind (alters_colorOf text (by simp)) fun found => ?_
  cases found with
  | some color => exact alters_onCanvas _ (by simp)
  | none => exact alters_pure ()

theorem alters_draw (shape : Canvas → Ink → Int → Int → Int → Int → Nat → Canvas.Drawn)
    (a b c d : String) : Alters [.canvas, .log] (draw shape a b c d) := by
  refine alters_bind (alters_take _ (by simp)) fun a =>
    alters_bind (alters_take _ (by simp)) fun b =>
    alters_bind (alters_take _ (by simp)) fun c =>
    alters_bind (alters_take _ (by simp)) fun d =>
    alters_bind (alters_onScope fun scope => scope.alters_canvas _ (by simp)) fun fault => ?_
  cases fault with
  | some fault => exact alters_throw _
  | none => exact alters_pure ()

theorem alters_resizeCanvas (width height : String) :
    Alters [.canvas, .log] (resizeCanvas width height) := by
  refine alters_bind (alters_take _ (by simp)) fun width =>
    alters_bind (alters_take _ (by simp)) fun height => ?_
  split
  · exact alters_report _ _ _ (by simp)
  · exact alters_onCanvas _ (by simp)

theorem alters_saveImage (path : String) : Alters [.files, .log] (saveImage path) := by
  unfold saveImage
  split
  · exact alters_report _ _ _ (by simp)
  split
  · exact alters_throw _
  refine alters_get fun scope => ?_
  dsimp only
  split
  · exact alters_onMachine fun scope => scope.alters_files _ (by simp)
  · exact alters_report _ _ _ (by simp)

theorem alters_jumpTo (script : Script) (target : Int) :
    Alters [.cursor] (jumpTo script target) := by
  refine alters_get fun scope => ?_
  split
  · exact alters_modify fun scope => scope.alters_cursor _ (by simp)
  · exact alters_throw _

theorem alters_jumpOut (script : Script) (opener : BlockMarker) (closer : String)
    (alternates : List String) :
    Alters [.cursor, .log] (jumpOut script opener closer alternates) := by
  refine alters_get fun scope => ?_
  split
  · exact alters_bind ((alters_jumpTo script _).weaken (by simp)) fun _ => alters_pure _
  · exact alters_bind (alters_modify fun scope => scope.alters_report _ (by simp)) fun _ =>
      alters_get fun _ => alters_throw _

theorem alters_carryOut (deed : Deed) : Alters Part.extension (carryOut deed) := by
  unfold carryOut
  split
  · exact alters_onMachine fun scope => scope.alters_output _ (by decide)
  · exact alters_report _ _ _ (by decide)
  · exact alters_setVariable _ _ (by decide) (by decide)
  · exact alters_onMachine fun scope => scope.alters_stack _ (by decide)
  · exact alters_onMachine fun scope => scope.alters_queue _ (by decide)
  · exact alters_onMachine fun scope => scope.alters_compareFlag _ (by decide)

theorem alters_conclude (verdict : Verdict) : Alters parts (conclude verdict) := by
  cases verdict <;> exact fun scope => .refl scope

theorem alters_extend (behavior : InstructionBehavior) (args : List String) :
    Alters Part.extension (extend behavior args) := by
  refine alters_bind (alters_onScope fun scope => ?_) fun _ => alters_get fun _ =>
    alters_bind (alters_forM alters_carryOut _) fun _ => alters_conclude _
  exact scope.alters_console _ (by decide)

end Effect

namespace LoopKind

variable {kind : LoopKind}

theorem alters_plan (amount : String) (header : List Piece) :
    Alters [.log] (kind.plan amount header) := by
  cases kind with
  | forLoop => exact alters_bind (alters_take _ (by simp)) fun _ => alters_pure _
  | _ => exact alters_pure _

theorem alters_start (line : Nat) (header : List Piece) (args : List String) :
    Alters [.log] (kind.start line header args) := by
  unfold start
  split
  · split
    · exact alters_bind (alters_plan _ _) fun _ => alters_pure _
    · exact alters_bind (alters_plan _ _) fun _ => alters_pure _
  · exact alters_throw _

theorem alters_condition (external : Bool) (header : List Piece) :
    Alters [.compareFlag, .console, .log] (kind.condition external header) := by
  refine alters_bind ((Reference.alters_resolveAll header).weaken (by simp)) fun args => ?_
  split
  · exact (Effect.alters_compare _ _ _).weaken (by simp)
  · exact alters_bind (alters_report _ _ _ (by simp)) fun _ => alters_pure _

end LoopKind

/-! ## Instructions -/

namespace Instruction

def parts : Instruction → List Part
  | print | out => [.log, .output]
  | new => [.console, .log, .locals]
  | set | delete | operation _ | rgbToHex | hexToRgb | getMemory => [.log, .locals]
  | compare => [.compareFlag, .log]
  | ifBlock | elseBlock => [.cursor, .log]
  | random => [.generator, .log, .locals]
  | allocate | free | setMemory => [.log, .memory]
  | push => [.stack]
  | pop => [.log, .stack, .locals]
  | enqueue => [.queue]
  | dequeue => [.log, .queue, .locals]
  | color | fill | line | rectangle | windowSize => [.canvas, .log]
  | saveImage => [.files, .log]
  | endDefinition | definition | halt | loop _ | endLoop _ | sleep => [.log]
  | endIf | ret | call | breakLoop | continueLoop | noop => []

variable {instruction : Instruction} {script : Script} {inBody : Bool} {number : Nat}
  {pieces : List Piece} {args : List String}

theorem lastScope_done (effect : Action Unit) (scope : Scope) :
    lastScope (done effect scope) = lastScope (effect scope) := by
  unfold done
  rw [bind_apply]
  cases effect scope <;> rfl

theorem alters_done {effect : Action Unit} {parts : List Part} (alters : Alters parts effect) :
    Alters parts (done effect) :=
  alters_bind alters fun _ => alters_pure _

theorem alters_endOfDefinition (args : List String) : Alters [.log] (endOfDefinition args) := by
  refine alters_get fun scope => ?_
  dsimp only
  split
  · split
    · exact alters_bind (alters_report _ _ _ (by simp)) fun _ => alters_pure _
    · exact alters_bind (alters_report _ _ _ (by simp)) fun _ => alters_pure _
  · exact alters_bind (alters_report _ _ _ (by simp)) fun _ => alters_pure _

theorem alters_perform :
    Alters instruction.parts (instruction.perform script inBody number pieces args) := by
  rcases Nat.lt_or_ge args.length instruction.needed with short | supplied
  · rw [perform_short short]
    exact alters_throw _
  cases given supplied with
  | print => exact alters_done (Effect.alters_write _ _ _)
  | out => exact alters_done (Effect.alters_write _ _ _)
  | new => exact alters_done (alters_forM Effect.alters_declare _)
  | set name value => exact alters_done (alters_setVariable _ _ (by simp [parts]) (by simp [parts]))
  | delete => exact alters_done (alters_forM Effect.alters_remove _)
  | operation op destination => exact alters_done (Effect.alters_operate _ _ _)
  | compare comparison left right =>
      exact alters_done (alters_bind (Effect.alters_compare _ _ _) fun _ => alters_pure _)
  | ifBlock =>
      refine alters_get fun scope => ?_
      dsimp only
      split
      · exact alters_bind (Effect.alters_jumpOut _ _ _ _) fun _ => alters_pure _
      · exact alters_pure _
  | elseBlock => exact alters_bind (Effect.alters_jumpOut _ _ _ _) fun _ => alters_pure _
  | endIf => exact alters_pure _
  | ret => exact alters_pure _
  | endDefinition => exact alters_endOfDefinition _
  | definition name =>
      exact alters_get fun _ => alters_bind (alters_report _ _ _ (by simp [parts])) fun _ =>
        alters_pure _
  | random destination low high => exact alters_done (Effect.alters_random _ _ _)
  | rgbToHex destination red green blue => exact alters_done (Effect.alters_rgbToHex _ _ _ _)
  | hexToRgb red green blue text => exact alters_done (Effect.alters_hexToRgb _ _ _ _)
  | allocate amount => exact alters_done (Effect.alters_allocate _)
  | free amount => exact alters_done (Effect.alters_free _)
  | setMemory address value => exact alters_done (Effect.alters_setMemory _ _)
  | getMemory destination address => exact alters_done (Effect.alters_getMemory _ _)
  | push value =>
      exact alters_done (alters_onMachine fun scope => scope.alters_stack _ (by simp [parts]))
  | pop destination => exact alters_done (Effect.alters_pop _)
  | enqueue value =>
      exact alters_done (alters_onMachine fun scope => scope.alters_queue _ (by simp [parts]))
  | dequeue destination => exact alters_done (Effect.alters_dequeue _)
  | call entry => exact alters_pure _
  | halt => exact alters_bind (alters_report _ _ _ (by simp [parts])) fun _ => alters_throw _
  | @loop rest kind body => exact LoopKind.alters_start number pieces (body :: rest)
  | endLoop kind =>
      change Alters _ (if inBody = true then _ else _)
      split
      · exact alters_get fun _ => alters_pure _
      · exact alters_bind (alters_report _ _ _ (by simp [parts])) fun _ => alters_pure _
  | breakLoop => exact alters_get fun _ => alters_pure _
  | continueLoop => exact alters_get fun _ => alters_pure _
  | sleep milliseconds => exact alters_done (Effect.alters_sleep _)
  | noop => exact alters_pure _
  | color text => exact alters_done (Effect.alters_setPen _)
  | fill text => exact alters_done (Effect.alters_fillCanvas _)
  | line x y x1 y1 => exact alters_done (Effect.alters_draw _ _ _ _ _)
  | rectangle x y width height => exact alters_done (Effect.alters_draw _ _ _ _ _)
  | windowSize width height => exact alters_done (Effect.alters_resizeCanvas _ _)
  | saveImage path => exact alters_done (Effect.alters_saveImage _)

end Instruction

namespace Meaning

variable {script : Script} {inBody : Bool} {number : Nat} {pieces : List Piece}
  {args : List String}

theorem alters_added (behavior : InstructionBehavior) :
    Alters Part.extension
      ((added behavior).perform script inBody number pieces args) :=
  Effect.alters_extend behavior args

theorem steady_perform {meaning : Meaning} (scope : Scope) :
    scope.Steady (lastScope (meaning.perform script inBody number pieces args scope)) := by
  cases meaning with
  | builtin instruction => exact (Instruction.alters_perform scope).steady
  | added behavior => exact (alters_added behavior scope).steady

end Meaning

end LineScript
