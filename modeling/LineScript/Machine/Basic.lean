import LineScript.Canvas.Drawing
import LineScript.Canvas.Image
import LineScript.Clock
import LineScript.Console
import LineScript.Extension.Loading
import LineScript.Fault
import LineScript.Files
import LineScript.Instruction
import LineScript.Locals
import LineScript.Predefined
import LineScript.Random
import LineScript.Signal
import LineScript.Store.Memory
import LineScript.Store.Queue
import LineScript.Store.Stack

/-!
What all frames of a run share: the settings, the modes, the stores, the canvas, and everything
that is read from or written to the outside.
-/

namespace LineScript

/-- The limits of a run and what it shows of itself. A limit that is `none` is no number, so that
nothing can be compared with it. -/
structure Settings where
  maxDepth : Option Int
  maxArgs : Option Int
  verbose : Bool
  tracing : Bool
deriving DecidableEq, Repr

namespace Settings

/-- The greatest number of active frames unless another is asked for. -/
def defaultDepth : Int := 100

def defaultArgs : Int := 64

end Settings

inductive EventDetail where
  | start (entry : String)
  | line (number : Nat) (keyword statement : String)
  | failure (failure : Failure)
  | finish (value : String)
deriving DecidableEq, Repr

namespace EventDetail

def event : EventDetail → String
  | start _ => "program_start"
  | line _ _ _ => "before_line"
  | failure _ => "on_error"
  | finish _ => "program_end"

end EventDetail

structure EventRecord where
  text : String
  detail : EventDetail
deriving DecidableEq, Repr

/-- A line that is about to be executed: how many frames are active, and what the last comparison
and the last definition gave. -/
structure LineRecord where
  depth : Nat
  entry : String
  line : Nat
  compareFlag : Bool
  returned : String
deriving DecidableEq, Repr

/-- What the host of a run can hold. The language sets no such bounds, so a host that cannot hold
the arrays of a drawing of ordinary size, or whose lists are longer than a word can count, is left
out of account. -/
structure Host where
  /-- The greatest number of memory cells with which a request can be met. -/
  cells : Int
  cells_isWord : Number.isWord cells = true
  /-- The number of bytes that an array must be smaller than. -/
  bytes : Nat
  bytes_ample : Bytes.limit ≤ bytes
  /-- How many marks in front of each other can be followed; with `none` any number can. -/
  marks : Option Nat

namespace Host

/-- A host that follows any number of marks, with memory as it is usual. -/
def usual : Host where
  cells := Memory.cellLimit
  cells_isWord := by decide +kernel
  bytes := Bytes.limit
  bytes_ample := Nat.le_refl _
  marks := none

end Host

/-- A definition being executed: its name, its arguments, its variables and the line it is at. -/
structure Frame where
  entry : String
  args : List String
  locals : Locals
  cursor : Cursor
deriving DecidableEq, Repr

structure Activation where
  frame : Frame
  inBody : Bool
deriving DecidableEq, Repr

/-- The frames below a run: how many there are, and the line of the innermost one. -/
structure Floor where
  depth : Nat
  line : Nat
deriving DecidableEq, Repr

namespace Floor

def ground : Floor := ⟨0, 0⟩

def under (frames : List Activation) : Floor :=
  match frames.getLast? with
  | some innermost => ⟨frames.length, innermost.frame.cursor.line⟩
  | none => ground

end Floor

structure Machine where
  settings : Settings
  host : Host
  services : Services
  predefined : Layers Predefined
  extended : Bool
  graphics : Bool
  memory : Memory
  stack : Stack
  queue : Queue
  compareFlag : Bool
  returned : String
  canvas : Canvas
  generator : Generator
  wakes : Bool
  console : Console
  files : FileTree
  log : Log
  output : String
  events : List EventRecord
  trace : List LineRecord
  /-- The frames that were active when the last program ended, the outermost one first. -/
  frames : List Activation

inductive Meaning where
  | builtin (instruction : Instruction)
  | added (behavior : InstructionBehavior)

namespace Machine

def guestUser : String := "*guest"

def version : String := "1.3"

def extensionLayer : String := "extensions"

def extendedLayer : String := "extended"

def graphicsLayer : String := "graphics"

def setExtended (machine : Machine) (enabled : Bool) : Machine :=
  { machine with
    extended := enabled
    predefined :=
      if enabled then machine.predefined.push extendedLayer Predefined.extended
      else machine.predefined.drop extendedLayer }

def setGraphics (machine : Machine) (enabled : Bool) : Machine :=
  { machine with
    graphics := enabled
    predefined :=
      if enabled then machine.predefined.push graphicsLayer Predefined.graphics
      else machine.predefined.drop graphicsLayer }

/-- What extensions must not add: instructions and variables of the language itself. -/
def conflict? (services : Services) : Option ExtensionFault :=
  match services.instructions.names.find? Instruction.isReserved with
  | some name => some (.overridesInstruction name)
  | none =>
      match services.predefined.find? fun entry => Predefined.isTaken entry.1 with
      | some entry => some (.overridesVariable entry.1)
      | none => none

def initialPredefined (services : Services) : Layers Predefined :=
  let base := Layers.ofBase Predefined.base
  if services.predefined.isEmpty then base
  else base.push extensionLayer (Predefined.added services)

structure Setup where
  settings : Settings
  services : Services
  extended : Bool
  graphics : Bool
  seed : Int
  clock : Moments
  wakes : Bool
  replies : List Reply
  files : FileTree
  host : Host := .usual

/-- A machine with empty stores and a black canvas, unless an extension is in conflict with the
language. -/
def ofSetup (setup : Setup) : Except ExtensionFault Machine :=
  match conflict? setup.services with
  | some fault => .error fault
  | none =>
      let machine : Machine :=
        { settings := setup.settings
          host := setup.host
          services := setup.services
          predefined := initialPredefined setup.services
          extended := false
          graphics := false
          memory := .empty
          stack := .empty
          queue := .empty
          compareFlag := false
          returned := nullText
          canvas := .blank Canvas.defaultWidth Canvas.defaultHeight
          generator := .ofSeed setup.seed
          wakes := setup.wakes
          console := ⟨setup.replies, [], setup.clock⟩
          files := setup.files
          log := .empty
          output := ""
          events := []
          trace := []
          frames := [] }
      .ok ((machine.setExtended setup.extended).setGraphics setup.graphics)

def specWith {α : Type} (wrap : α → Meaning) (spec : Spec α) : Spec Meaning :=
  ⟨spec.name, spec.minArgs, spec.maxArgs, wrap spec.action, spec.doc, spec.origin⟩

def lookup? (machine : Machine) (keyword : String) : Option (Spec Meaning) :=
  (((Instruction.core.get? keyword).or
      (if machine.extended then Instruction.extended.get? keyword else none)).or
      (if machine.graphics then Instruction.graphics.get? keyword else none)).map
    (specWith .builtin) |>.or
  ((machine.services.instructions.get? keyword).map (specWith .added))

/-- The index of a memory cell with an address: addresses count from one in compatibility mode and
from zero in extended mode. -/
def memoryIndex (machine : Machine) (address : Int) : Int :=
  if machine.extended then address else address - 1

def emit (machine : Machine) (message : Message) : Machine :=
  { machine with log := machine.log.emit message }

def report (machine : Machine) (line : Int) (note : Note) : Machine :=
  machine.emit (note.onLine line)

/-- Why no further frame may start, if that is the case: so many are active that this is reported
as an error. -/
def checkDepth (machine : Machine) (depth line : Nat) : Option (Fault × Machine) :=
  match machine.settings.maxDepth with
  | none => some (.exception .incomparable, machine)
  | some limit =>
      if limit ≤ depth then
        some (.halt Signal.abnormalCode,
          machine.report line
            ⟨.error, s!"Maximum nesting depth of {limit} exceeded.", .depthExceeded⟩)
      else none

def write (machine : Machine) (text : String) : Machine :=
  { machine with output := machine.output ++ text }

def sight (machine : Machine) : Sight where
  moment := machine.console.moments.now
  extended := machine.extended
  graphics := machine.graphics
  compareFlag := machine.compareFlag
  returned := machine.returned
  memory := machine.memory
  stack := machine.stack
  queue := machine.queue

/-- The machine after a look outside. -/
def looked (machine : Machine) : Machine :=
  { machine with console := machine.console.after 1 }

def recorded (machine : Machine) (detail : EventDetail) (texts : List String) : Machine :=
  { machine with events := (texts.map (⟨·, detail⟩)).reverse ++ machine.events }

/-- What trouble of a hook comes to: an exception is a failure of the hook. -/
def hookFault (line : Nat) (event : String) : Trouble → Fault
  | .exception text =>
      .failure ⟨.general, s!"Extension hook '{event}' failed: {text}", Code.extension.number,
        some line, none⟩
  | trouble => trouble.fault

/-- Calls handlers of an event one after another until there is trouble; `line` is the line being
executed. -/
def callHandlers (machine : Machine) (line : Nat) (detail : EventDetail) :
    List (Handler HookBehavior) → Machine × Option Fault
  | [] => (machine, none)
  | handler :: rest =>
      let heard := handler.action.hear machine.sight
      let machine := machine.looked.recorded detail heard.1
      match heard.2 with
      | none => machine.callHandlers line detail rest
      | some trouble => (machine, some (hookFault line detail.event trouble))

def announce (machine : Machine) (line : Nat) (detail : EventDetail) : Machine × Option Fault :=
  machine.callHandlers line detail (machine.services.hooks.handlers detail.event)

def readLine (machine : Machine) (prompt : String) : Except Interrupted String × Machine :=
  let (answer, console) := machine.console.readLine prompt
  (answer, { machine with console })

def confirm (machine : Machine) (question : String) : Except Interrupted Bool × Machine :=
  let (answer, console) := machine.console.confirm question
  (answer, { machine with console })

end Machine

end LineScript
