import LineScript.Machine.Flow
import LineScript.Proofs.Block.Listing

/-!
What a script of definitions means, by recursion on its blocks. There are no cursors, no jumps and no
waiting frames here: a conditional block runs one of its branches, a loop runs its body again and
again, and a call runs a definition. The numbers of lines serve only for messages.
-/

namespace LineScript

/-- The variables of a definition, and the machine that all definitions share. -/
structure Store where
  machine : Machine
  locals : Locals

def Scope.store (scope : Scope) : Store :=
  ⟨scope.machine, scope.frame.locals⟩

/-- What a definition has from the one that calls it. -/
structure Activity where
  entry : String
  args : List String
  depth : Nat
deriving DecidableEq, Repr

/-- How lines are left before their end. -/
inductive Exit where
  | leaves (signal : Signal)
  | fails (fault : Fault)
deriving DecidableEq, Repr

namespace Exit

/-- The signal with which lines have been left, if they have not come to their end. -/
def caught : Except Exit Unit → Except Fault (Option Signal)
  | .ok _ => .ok none
  | .error (leaves signal) => .ok (some signal)
  | .error (fails fault) => .error fault

def rethrown {α : Type} : Except Fault α → Except Exit α
  | .ok value => .ok value
  | .error fault => .error (fails fault)

end Exit

/-- What lines do to a store: they can be left early, and they may not end at all. -/
abbrev Eval := ExceptT Exit (StateT Store Option)

/-! ## One line -/

namespace LoopKind

/-- The plan after the next pass of a loop has begun, if there is another pass. -/
def nextPlan (kind : LoopKind) (external : Bool) : LoopPlan → Action (Option LoopPlan)
  | .count 0 => return none
  | .count (left + 1) => return some (.count left)
  | .condition header => do
      if ← kind.condition external header then return some (.condition header) else return none

end LoopKind

namespace LineText

def failed {α : Type} (name : String) (code : Code) : Fault → Action α
  | .exception exception => Action.fail .general s!"{name} failed: {exception.message}" code
  | fault => throw fault

/-- Carries out the instruction of a line that belongs to no block. It moves nowhere in the script,
so that it is given an empty one. -/
def carryOut (number : Nat) (text : String) (args : List String) : Action Flow := do
  match (← get).machine.lookup? (keyword text) with
  | none =>
      let name := (tokenize text).headD ""
      Action.fail .unrecognizedInstruction s!"Instruction {name} is not recognized."
        .unrecognizedInstruction
  | some spec =>
      match spec.arityProblem? args.length with
      | some problem => do
          Action.report .error problem .missingArguments
          return .next
      | none =>
          tryCatch (spec.action.perform (.ofLines "" []) false number (pieces text) args)
            (failed spec.name (Meaning.exceptionCode spec.origin))

end LineText

namespace Activity

def scope (activity : Activity) (number : Nat) (text : String) (store : Store) : Scope :=
  ⟨store.machine, ⟨activity.entry, activity.args, store.locals, ⟨number, some text⟩⟩⟩

def act {α : Type} (activity : Activity) (number : Nat) (text : String) (action : Action α) :
    Eval α := fun store =>
  match action (activity.scope number text store) with
  | .ok value scope => some (.ok value, scope.store)
  | .error fault scope => some (.error (.fails fault), scope.store)

def record (activity : Activity) (number : Nat) : Action Unit :=
  Action.onMachine fun machine =>
    if machine.settings.tracing then
      { machine with
        trace := ⟨activity.depth, activity.entry, number, machine.compareFlag,
          machine.returned⟩ :: machine.trace }
    else machine

def line {α : Type} (activity : Activity) (number : Nat) (text : String)
    (action : List String → Action α) : Eval α :=
  activity.act number text do
    activity.record number
    let args ← Reference.resolveAll (LineText.pieces text)
    action args

/-- The plan of the next pass of a loop, if there is another pass; nothing is checked before the
first one if `entered` is set. -/
def pass (activity : Activity) (number : Nat) (text : String) (kind : LoopKind) (external : Bool)
    (plan : LoopPlan) (entered : Bool) : Eval (Option LoopPlan) :=
  if entered then pure (some plan) else activity.act number text (kind.nextPlan external plan)

def keepReturned (value : String) : Action Unit :=
  Action.onMachine fun machine => { machine with returned := value }

/-- Reports that there is no definition of a name; no line is at fault. -/
def reportMissing (entry : String) : Action Unit :=
  Action.onMachine (·.report 0 ⟨.error, Effect.entryMissing entry, .entryPointNotFound⟩)

/-- One more definition or body of a loop becomes active unless there are too many. -/
def deepen (activity : Activity) (number : Nat) : Eval Unit := fun store =>
  match store.machine.checkDepth activity.depth number with
  | some (fault, machine) => some (.error (.fails fault), { store with machine })
  | none => some (.ok (), store)

def inside (activity : Activity) : Activity :=
  { activity with depth := activity.depth + 1 }

end Activity

/-- A loop whose body follows its header. -/
structure LoopBlock where
  kind : LoopKind
  number : Nat
  header : String
  body : Block
  closer : String

def LoopBlock.close (loop : LoopBlock) : Nat :=
  loop.number + loop.body.size + 1

/-! ## Blocks and definitions -/

mutual

def Block.eval (listing : Listing) (activity : Activity) (above : Nat) (block : Block) :
    Store → Option (Except Exit Unit × Store) :=
  match block with
  | .done => (pure () : Eval Unit)
  | .blank _ rest => rest |>.eval listing activity (above + 1)
  | .line text rest => (do
      let flow ← activity.line (above + 1) text (LineText.carryOut (above + 1) text)
      (listing |>.follow activity (above + 1) text flow : Eval Unit)
      (rest |>.eval listing activity (above + 1) : Eval Unit) : Eval Unit)
  | .branch header yes closer rest => (do
      let close := above + 1 + yes.size + 1
      let taken ← activity.line (above + 1) header fun args =>
        return Effect.branchTaken (← get) args
      if taken then
        (yes |>.evalThrough listing activity (above + 1) closer (pure ()) : Eval Unit)
      (rest |>.eval listing activity close : Eval Unit) : Eval Unit)
  | .fork header yes divider no closer rest => (do
      let divide := above + 1 + yes.size + 1
      let close := divide + no.size + 1
      let taken ← activity.line (above + 1) header fun args =>
        return Effect.branchTaken (← get) args
      if taken then
        (yes |>.evalThrough listing activity (above + 1) divider (pure ()) : Eval Unit)
      else
        (no |>.evalThrough listing activity divide closer (pure ()) : Eval Unit)
      (rest |>.eval listing activity close : Eval Unit) : Eval Unit)
  | .loop kind header body closer rest => (do
      let plan ← activity.line (above + 1) header fun args =>
        kind.plan (args.headD "") (LineText.pieces header)
      (LoopBlock.mk kind (above + 1) header body closer
        |>.evalPasses listing activity plan kind.entersFirst : Eval Unit)
      (rest |>.eval listing activity (above + 1 + body.size + 1) : Eval Unit) : Eval Unit)
partial_fixpoint

def Block.evalThrough (listing : Listing) (activity : Activity) (above : Nat) (block : Block)
    (last : String) (action : Action Unit) : Store → Option (Except Exit Unit × Store) := (do
  (block |>.eval listing activity above : Eval Unit)
  activity.line (above + block.size + 1) last fun _ => action : Eval Unit)
partial_fixpoint

/-- The passes of a loop; the first one comes before anything is checked if `entered` is set. -/
def LoopBlock.evalPasses (listing : Listing) (activity : Activity) (loop : LoopBlock)
    (plan : LoopPlan) (entered : Bool) : Store → Option (Except Exit Unit × Store) := (do
  match ← activity.pass loop.number loop.header loop.kind false plan entered with
  | none => pure ()
  | some plan => loop |>.evalPass listing activity plan : Eval Unit)
partial_fixpoint

def LoopBlock.evalPass (listing : Listing) (activity : Activity) (loop : LoopBlock)
    (plan : LoopPlan) : Store → Option (Except Exit Unit × Store) := (do
  activity.deepen loop.number
  let left ← fun store => do
    let (ending, store) ← loop.body |>.evalThrough listing activity.inside loop.number loop.closer
      (pure ()) store
    some (Exit.rethrown (Exit.caught ending), store)
  match left with
  | none => loop |>.evalPasses listing activity plan false
  | some (.continued value) => do
      activity.act loop.number loop.header do
        Action.report .info "Continue statement" .loop
        Activity.keepReturned value
      (loop |>.evalPasses listing activity plan false : Eval Unit)
  | some (.broken value) =>
      activity.act loop.number loop.header do
        Action.report .info "Break statement" .loop
        Activity.keepReturned value
  | some signal => do
      activity.act loop.number loop.header (Action.report .info "Return statement" .loop)
      throw (.leaves signal) : Eval Unit)
partial_fixpoint

def Listing.follow (listing : Listing) (activity : Activity) (number : Nat) (text : String)
    (flow : Flow) : Store → Option (Except Exit Unit × Store) :=
  match flow with
  | .next => (pure () : Eval Unit)
  | .leave signal => (throw (.leaves signal) : Eval Unit)
  | .call entry args =>
      match listing.find? entry with
      | none =>
          activity.act number text do
            Activity.reportMissing entry
            Activity.keepReturned nullText
      | some (above, definition) => (do
          let signal ← (definition |>.call listing activity number above args : Eval Signal)
          activity.act number text (Activity.keepReturned signal.value) : Eval Unit)
  | .external loop entered => listing |>.evalPasses activity number text loop entered
  | .inline _ _ => (pure () : Eval Unit)
partial_fixpoint

def Listing.evalPasses (listing : Listing) (activity : Activity) (number : Nat) (text : String)
    (loop : ExternalLoop) (entered : Bool) : Store → Option (Except Exit Unit × Store) := (do
  match ← activity.pass number text loop.kind true loop.plan entered with
  | none => pure ()
  | some plan => listing |>.evalPass activity number text { loop with plan } : Eval Unit)
partial_fixpoint

def Listing.evalPass (listing : Listing) (activity : Activity) (number : Nat) (text : String)
    (loop : ExternalLoop) : Store → Option (Except Exit Unit × Store) :=
  match listing.find? loop.body with
  | none =>
      activity.act number text do
        Activity.reportMissing loop.body
        Action.report .error s!"{loop.kind.keyword} statement failed to execute." .loop
  | some (above, definition) => (do
      let signal ← (definition |>.call listing activity number above [] : Eval Signal)
      activity.act number text (Activity.keepReturned signal.value)
      match signal with
      | .broken _ => activity.act number text (Action.report .info "Break statement" .loop)
      | .continued _ => do
          activity.act number text (Action.report .info "Continue statement" .loop)
          (listing |>.evalPasses activity number text loop false : Eval Unit)
      | _ => (listing |>.evalPasses activity number text loop false : Eval Unit) : Eval Unit)
partial_fixpoint

def Definition.call (listing : Listing) (activity : Activity) (number above : Nat)
    (definition : Definition) (args : List String) : Store → Option (Except Exit Signal × Store) :=
  (do
    activity.deepen number
    fun store => do
      let (ending, inner) ← definition |>.eval listing
        ⟨definition.name, args, activity.depth + 1⟩ above ⟨store.machine, .empty⟩
      some (Exit.rethrown ending, { store with machine := inner.machine }) : Eval Signal)
partial_fixpoint

/-- Executes the lines of a definition, of which so many stand above its body. -/
def Definition.eval (listing : Listing) (activity : Activity) (above : Nat)
    (definition : Definition) : Store → Option (Except Fault Signal × Store) := fun store => do
  let (ending, store) ← definition.body |>.evalThrough listing activity above definition.closer
    (Action.report .info "End of definition" .ok) store
  some ((Exit.caught ending).map (Option.getD · (.returned nullText)), store)
partial_fixpoint

end

/-- How a program has ended: its result, the machine, and the variables of its first definition if
it was started. -/
structure ProgramEnd where
  result : Except Fault Signal
  machine : Machine
  locals : Option Locals

namespace Listing

def run (listing : Listing) (entry : String) (machine : Machine) : Option ProgramEnd :=
  match listing.find? entry with
  | none =>
      some ⟨.error (.failure ⟨.entryPointNotFound, Effect.entryMissing entry,
        Code.entryPointNotFound.number, some 0, some entry⟩),
        machine.report 0 ⟨.error, Effect.entryMissing entry, .entryPointNotFound⟩, none⟩
  | some (above, definition) =>
      match machine.checkDepth 0 0 with
      | some (fault, machine) => some ⟨.error fault, machine, some .empty⟩
      | none => do
          let (ending, store) ← definition.eval listing ⟨entry, [], 1⟩ above ⟨machine, .empty⟩
          some ⟨ending, store.machine, some store.locals⟩

end Listing

end LineScript
