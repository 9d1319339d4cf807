import LineScript.Machine.Directive
import LineScript.Machine.Reference

/-!
What the instructions do that neither call a definition nor repeat a block. An instruction is given
the values of its arguments; how many there are has been checked before.
-/

namespace LineScript

namespace Effect

def jumpTo (script : Script) (target : Int) : Action Unit := do
  match (← get).frame.cursor.advanceTo script target with
  | .ok cursor => modify fun scope => { scope with frame := { scope.frame with cursor } }
  | .error move => Action.raise (.backwardMove move)

/-- Moves the frame to the end of the block that it is in, or to an alternate on its level, and
gives the line. -/
def jumpOut (script : Script) (opener : BlockMarker) (closer : String)
    (alternates : List String) : Action Nat := do
  match script.blockEnd? (← get).frame.cursor.line opener closer alternates with
  | some target =>
      jumpTo script target
      return target
  | none => Action.fail .jumpNotFound s!"Could not find {closer} to jump to." .jumpNotFound

def entryMissing (entry : String) : String :=
  s!"Entry point '{entry}' was not found."

/-- Opens the definition of the frame: carries out the directives above it and moves to its
line. -/
def openDefinition (script : Script) : Action Unit := do
  let entry := (← get).frame.entry
  match script.entryLine? entry with
  | none => Action.fail .entryPointNotFound (entryMissing entry) .entryPointNotFound
  | some line =>
      Action.onMachine fun machine => Directive.applyAbove machine script line
      jumpTo script line

/-- Writes the arguments and an ending; without arguments there is only a warning. -/
def write (args : List String) (ending warning : String) : Action Unit :=
  if args.isEmpty then Action.report .warning warning .missingArguments
  else Action.onMachine (·.write ("".intercalate args ++ ending))

def bareName (name : List Char) : List Char :=
  match name with
  | '$' :: '_' :: bare => bare
  | name => name.dropWhile (· == '_')

def isPredefined (machine : Machine) (name : List Char) : Bool :=
  machine.predefined.contains (String.ofList name) ||
    machine.predefined.contains (String.ofList (bareName name))

def declare (declaration : String) : Action Unit := do
  let (chars, value) := Text.cut ',' declaration.toList
  let name := String.ofList chars
  if chars.isEmpty then
    Action.report .error s!"Malformed declaration '{declaration}'." .malformedValue
  else if isPredefined (← get).machine chars then
    Action.report .error s!"Variable {name} is a predefined variable and cannot be declared."
      .predefinedName
  else
    if (← get).frame.locals.has name then
      Action.report .warning s!"Variable {name} already exists." .variableExists
    let value ←
      match value with
      | some text => Reference.read (String.ofList text)
      | none => pure "0"
    modify fun scope => scope.assign name value

def remove (name : String) : Action Unit := do
  if (← get).frame.locals.has name then
    modify fun scope =>
      { scope with frame := { scope.frame with locals := scope.frame.locals.erase name } }
  else
    Action.report .warning s!"Tried removing a non-existing variable called {name}."
      .unknownVariable

def operate (operation : Operation) (destination : String) (rest : List String) :
    Action Unit := do
  let inputs ← Action.onScope fun scope => scope.operands destination rest operation.arity
  match operation.eval inputs with
  | .ok computed => Action.setVariable destination (← Action.take computed)
  | .error reason => Action.raise (.limit reason)

/-- Compares two values and keeps the result; an unknown comparison gives false. -/
def compare (comparison left right : String) : Action Bool := do
  let result ←
    match compareValues comparison left right with
    | some result => pure result
    | none => do
        Action.report .error s!"Unrecognized CMPR option {Text.upper comparison}." .malformedValue
        pure false
  Action.onMachine fun machine => { machine with compareFlag := result }
  return result

/-- Whether the condition of a block holds: without one the last comparison decides, and otherwise
a word for true or the name of a variable. -/
def holds (scope : Scope) : List String → Bool
  | [] => scope.machine.compareFlag
  | condition :: _ =>
      condition == "1" || Text.upper condition == "TRUE" || scope.frame.locals.has condition

/-- Whether the branch of a block is taken. A word `NOT` before a condition inverts it; alone it is
a condition of its own. -/
def branchTaken (scope : Scope) : List String → Bool
  | first :: second :: rest =>
      if Text.upper first == "NOT" then !holds scope (second :: rest)
      else holds scope (first :: second :: rest)
  | args => holds scope args

def random (destination low high : String) : Action Unit := do
  let low ← Action.take (Reading.integer low)
  let high ← Action.take (Reading.integer high)
  if low > high then
    Action.report .error s!"RAND lower limit {low} is above upper limit {high}." .malformedValue
    Action.setVariable destination nullText
  else
    let value ← Action.onScope fun scope =>
      let (value, generator) := scope.machine.generator.between low high
      (value, { scope with machine := { scope.machine with generator } })
    Action.setVariable destination (toString value)

def colorComponent (text : String) : Computed Int :=
  (Reading.integer text).andThen fun value =>
    if 0 ≤ value && value ≤ 255 then .plain value
    else
      .withError (min (max value 0) 255) s!"Color component {value} is outside 0-255."
        .malformedValue

def rgbToHex (destination red green blue : String) : Action Unit := do
  let red ← Action.take (colorComponent red)
  let green ← Action.take (colorComponent green)
  let blue ← Action.take (colorComponent blue)
  Action.setVariable destination (Color.hexText red green blue)

def colorOf (text : String) : Action (Option Color) :=
  match Color.ofHex? text with
  | some color => return some color
  | none => do
      Action.report .error s!"Malformed color '{text}'." .malformedValue
      return none

def hexToRgb (red green blue text : String) : Action Unit := do
  let color := (← colorOf text).getD Color.black
  Action.setVariable red (toString color.red.toNat)
  Action.setVariable green (toString color.green.toNat)
  Action.setVariable blue (toString color.blue.toNat)

def allocate (amount : String) : Action Unit := do
  let amount ← Action.take (Reading.integer amount)
  if amount < 0 then
    Action.report .error s!"Cannot allocate {amount} cells." .malformedValue
  else
    let machine := (← get).machine
    match machine.memory.reserve amount "0" machine.host.cells with
    | .error fault => Action.raise (.memory fault)
    | .ok memory => Action.onMachine fun machine => { machine with memory }

def reportTimes (level : Level) (text : String) (code : Code) : Nat → Action Unit
  | 0 => return ()
  | count + 1 => do
      Action.report level text code
      reportTimes level text code count

def free (amount : String) : Action Unit := do
  let amount ← Action.take (Reading.integer amount)
  let removed := (← get).machine.memory.releasable (max amount 0)
  Action.onMachine fun machine =>
    { machine with memory := machine.memory.release (max amount 0) }
  reportTimes .warning "Tried freeing memory that doesn't exist." .indexOutOfRange
    (amount - removed).toNat

def cellIndex (text : String) : Action (Option Int) :=
  match Number.parseInt? text with
  | none => do
      Action.report .error (Reading.malformed text) .malformedValue
      return none
  | some address => do
      let machine := (← get).machine
      let index := machine.memoryIndex address
      if machine.memory.exists? index then return some index
      else
        Action.report .error s!"Memory address {address} does not exist." .indexOutOfRange
        return none

def setMemory (address value : String) : Action Unit := do
  match ← cellIndex address with
  | some index =>
      Action.onMachine fun machine =>
        { machine with memory := (machine.memory.set? index value).getD machine.memory }
  | none => return ()

def getMemory (destination address : String) : Action Unit := do
  let index ← cellIndex address
  let memory := (← get).machine.memory
  Action.setVariable destination ((index.bind memory.get?).getD nullText)

def pop (destination : String) : Action Unit := do
  match (← get).machine.stack.pop? with
  | some (value, stack) =>
      Action.onMachine fun machine => { machine with stack }
      Action.setVariable destination value
  | none =>
      Action.report .error "Stack was empty and could not be popped from." .emptyContainer
      Action.setVariable destination nullText

def dequeue (destination : String) : Action Unit := do
  match (← get).machine.queue.pop? with
  | some (value, queue) =>
      Action.onMachine fun machine => { machine with queue }
      Action.setVariable destination value
  | none =>
      Action.report .error "Queue was empty and could not be dequeued from." .emptyContainer
      Action.setVariable destination nullText

def sleepLimit : Int := 9223372036854

def doubleLimit : Int := Number.pow2 1024 - Number.pow2 970

/-- Sleeps, unless the machine is woken; a sleep is not noticed otherwise. -/
def sleep (milliseconds : String) : Action Unit := do
  let milliseconds ← Action.take (Reading.integer milliseconds)
  if milliseconds ≥ doubleLimit then
    Action.raise (.limit "int too large to convert to float")
  else if milliseconds > sleepLimit then
    Action.raise (.limit "timestamp out of range for platform time_t")
  else if milliseconds > 0 && (← get).machine.wakes then
    Action.report .warning "SLEEP interrupted by an internal thread." .interrupted

def onCanvas (change : Canvas → Canvas) : Action Unit :=
  Action.onMachine fun machine => { machine with canvas := change machine.canvas }

def setPen (text : String) : Action Unit := do
  match ← colorOf text with
  | some color => onCanvas (·.withPen (.ofColor color))
  | none => return ()

def fillCanvas (text : String) : Action Unit := do
  match ← colorOf text with
  | some color => onCanvas (·.fill color)
  | none => return ()

def draw (shape : Canvas → Ink → Int → Int → Int → Int → Nat → Canvas.Drawn)
    (a b c d : String) : Action Unit := do
  let a ← Action.take (Reading.integer a)
  let b ← Action.take (Reading.integer b)
  let c ← Action.take (Reading.integer c)
  let d ← Action.take (Reading.integer d)
  let fault ← Action.onScope fun scope =>
    let canvas := scope.machine.canvas
    let drawn := shape canvas canvas.pen a b c d scope.machine.host.bytes
    (drawn.fault, { scope with machine := { scope.machine with canvas := drawn.canvas } })
  match fault with
  | some fault => Action.raise (.canvas fault)
  | none => return ()

def resizeCanvas (width height : String) : Action Unit := do
  let width ← Action.take (Reading.integer width)
  let height ← Action.take (Reading.integer height)
  if width ≤ 0 || height ≤ 0 || width * height > Canvas.maxPixels then
    Action.report .error s!"Invalid window size {width}x{height}." .malformedValue
  else onCanvas (·.resize width.toNat height.toNat)

def saveImage (path : String) : Action Unit := do
  if path.isEmpty then
    Action.report .error "SAVEIMG needs a path." .missingArguments
  else if Path.hasNull path then Action.raise (.limit "embedded null byte")
  else
    let machine := (← get).machine
    let target := Path.absolute machine.files.currentPath path
    match machine.files.write target machine.canvas.toImage with
    | .ok files => Action.onMachine fun machine => { machine with files }
    | .error fault =>
        Action.report .error s!"Could not save image to {path}: {fault.message}" .malformedValue

def carryOut : Deed → Action Unit
  | .write text => Action.onMachine (·.write text)
  | .report note => Action.report note.level note.text note.code
  | .assign name value => Action.setVariable name value
  | .keepStack stack => Action.onMachine fun machine => { machine with stack }
  | .keepQueue queue => Action.onMachine fun machine => { machine with queue }
  | .keepFlag compareFlag => Action.onMachine fun machine => { machine with compareFlag }

end Effect

end LineScript
