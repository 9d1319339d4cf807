import LineScript.Machine.Effect

/-!
What an instruction asks for when it is done: to go on with the next line, to leave the frame, to
call a definition or to repeat something.
-/

namespace LineScript

inductive LoopPlan where
  | count (left : Nat)
  /-- As long as the comparison holds that the arguments of the header stand for. -/
  | condition (header : List Piece)
deriving DecidableEq, Repr

structure ExternalLoop where
  kind : LoopKind
  plan : LoopPlan
  body : String
deriving DecidableEq, Repr

structure InlineLoop where
  kind : LoopKind
  plan : LoopPlan
  header : Nat
  endLine : Option Nat
deriving DecidableEq, Repr

inductive Flow where
  | next
  | leave (signal : Signal)
  | call (entry : String) (args : List String)
  /-- A loop with a pass before anything is checked if `entered` is set. -/
  | external (loop : ExternalLoop) (entered : Bool)
  | inline (loop : InlineLoop) (entered : Bool)
deriving DecidableEq, Repr

namespace Effect

def conclude : Verdict → Action Flow
  | .done => return .next
  | .returned value => return .leave (.returned value)
  | .broken value => return .leave (.broken value)
  | .continued value => return .leave (.continued value)
  | .calls entry args => return .call entry args
  | .unreadable text => throw (.unreadable text)
  | .troubled trouble => throw trouble.fault

/-- Calls the code of an instruction of an extension. -/
def extend (behavior : InstructionBehavior) (args : List String) : Action Flow := do
  let sight ← Action.observe
  let response := behavior.respond sight (← get).frame.locals args
  response.1.forM carryOut
  conclude response.2

end Effect

namespace LoopKind

/-- The plan of a loop: a loop of a given number of passes reads the number once. -/
def plan (kind : LoopKind) (amount : String) (header : List Piece) : Action LoopPlan :=
  match kind with
  | forLoop => return .count (← Action.take (Reading.integer amount)).toNat
  | _ => return .condition header

def entersFirst (kind : LoopKind) : Bool :=
  kind == doWhileLoop

/-- Starts a loop: with more arguments than an inline header has, the first one names the body. -/
def start (kind : LoopKind) (line : Nat) (header : List Piece) (args : List String) :
    Action Flow :=
  match args with
  | body :: rest =>
      if args.length > kind.inlineArity then do
        let plan ← kind.plan (rest.headD "") header
        return .external ⟨kind, plan, body⟩ kind.entersFirst
      else do
        let plan ← kind.plan body header
        return .inline ⟨kind, plan, line, none⟩ kind.entersFirst
  | [] => Action.raise .missingArgument

def condition (kind : LoopKind) (external : Bool) (header : List Piece) : Action Bool := do
  let args ← Reference.resolveAll header
  match if external then args.drop 1 else args with
  | comparison :: left :: right :: _ => Effect.compare comparison left right
  | _ =>
      Action.report .error s!"{kind.keyword} needs a comparison and two values." .missingArguments
      return false

end LoopKind

namespace Instruction

def done (effect : Action Unit) : Action Flow := do
  effect
  return .next

def endOfDefinition (args : List String) : Action Flow := do
  let entry := (← get).frame.entry
  match args with
  | name :: _ =>
      if name == entry then
        Action.report .info "End of definition" .ok
        return .leave (.returned nullText)
      else
        Action.report .error s!"Unexpected end of definition {name} inside {entry}."
          .unexpectedEndOfDefinition
        return .next
  | [] =>
      Action.report .info "End of definition" .ok
      return .leave (.returned nullText)

/-- Carries out an instruction on the values of its arguments. `line` is the line it stands on,
`pieces` are the arguments as they are written, and `inBody` says whether the frame is the body of a
loop. -/
def perform (script : Script) (inBody : Bool) (line : Nat) (pieces : List Piece) :
    Instruction → List String → Action Flow
  | print, args => done (Effect.write args "\n" "No arguments given to PRINT.")
  | out, args =>
      done (Effect.write args ""
        "No arguments given to OUT. OUT does nothing without an argument.")
  | new, args => done (args.forM Effect.declare)
  | set, name :: value :: _ => done (Action.setVariable name value)
  | delete, args => done (args.forM Effect.remove)
  | operation op, destination :: rest => done (Effect.operate op destination rest)
  | compare, comparison :: left :: right :: _ =>
      done (do let _ ← Effect.compare comparison left right)
  | ifBlock, args => do
      if !Effect.branchTaken (← get) args then
        let _ ← Effect.jumpOut script ifMarker "ENDIF" ["ELSE"]
      return .next
  | elseBlock, _ => do
      let _ ← Effect.jumpOut script ifMarker "ENDIF" []
      return .next
  | endIf, _ => return .next
  | ret, args => return .leave (.returned (args.headD Signal.closeValue))
  | endDefinition, args => endOfDefinition args
  | definition, name :: _ => do
      let entry := (← get).frame.entry
      Action.report .error s!"Definition {name} starts before {entry} has ended."
        .unexpectedEndOfDefinition
      return .next
  | random, destination :: low :: high :: _ => done (Effect.random destination low high)
  | rgbToHex, destination :: red :: green :: blue :: _ =>
      done (Effect.rgbToHex destination red green blue)
  | hexToRgb, red :: green :: blue :: text :: _ => done (Effect.hexToRgb red green blue text)
  | allocate, amount :: _ => done (Effect.allocate amount)
  | free, amount :: _ => done (Effect.free amount)
  | setMemory, address :: value :: _ => done (Effect.setMemory address value)
  | getMemory, destination :: address :: _ => done (Effect.getMemory destination address)
  | push, value :: _ =>
      done (Action.onMachine fun machine => { machine with stack := machine.stack.push value })
  | pop, destination :: _ => done (Effect.pop destination)
  | enqueue, value :: _ =>
      done (Action.onMachine fun machine => { machine with queue := machine.queue.push value })
  | dequeue, destination :: _ => done (Effect.dequeue destination)
  | call, entry :: args => return .call entry args
  | halt, _ => do
      Action.report .info "HLT" .halt
      throw (.halt Signal.haltCode)
  | loop kind, args => kind.start line pieces args
  | endLoop kind, _ => do
      if inBody then return .leave (.resume line (← get).machine.returned)
      else
        Action.report .error s!"{kind.closer} found outside of a loop body." .loop
        return .next
  | breakLoop, _ => return .leave (.broken (← get).machine.returned)
  | continueLoop, _ => return .leave (.continued (← get).machine.returned)
  | sleep, milliseconds :: _ => done (Effect.sleep milliseconds)
  | noop, _ => return .next
  | color, text :: _ => done (Effect.setPen text)
  | fill, text :: _ => done (Effect.fillCanvas text)
  | Instruction.line, x :: y :: x1 :: y1 :: _ => done (Effect.draw @Canvas.drawLine x y x1 y1)
  | rectangle, x :: y :: width :: height :: _ =>
      done (Effect.draw @Canvas.drawRect x y width height)
  | windowSize, width :: height :: _ => done (Effect.resizeCanvas width height)
  | saveImage, path :: _ => done (Effect.saveImage path)
  | _, _ => Action.raise .missingArgument

end Instruction

namespace Meaning

def perform (script : Script) (inBody : Bool) (line : Nat) (pieces : List Piece)
    (args : List String) : Meaning → Action Flow
  | builtin instruction => instruction.perform script inBody line pieces args
  | added behavior => Effect.extend behavior args

def builtinOrigins : List String := ["core", "extended", "graphics"]

def exceptionCode (origin : String) : Code :=
  if builtinOrigins.contains origin then .internal else .extension

end Meaning

end LineScript
