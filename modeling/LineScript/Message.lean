import LineScript.Number.Word

/-!
Diagnostics. Every message has a level, the line it is about, a text and a code; a log keeps them
in the order in which they came. What is kept for later and what is written at once are two views
of the log.
-/

namespace LineScript

inductive Level where
  | info
  | warning
  | error
deriving DecidableEq, Repr

namespace Level

def rank : Level → Int
  | info => 0
  | warning => 1
  | error => 2

def ofRank? (rank : Int) : Option Level :=
  if rank == 0 then some info
  else if rank == 1 then some warning
  else if rank == 2 then some error
  else none

def name : Level → String
  | info => "INF"
  | warning => "WRN"
  | error => "ERR"

end Level

def silentRank : Int := 3

/-- What a message is about. Extensions add codes of their own. -/
inductive Code where
  | ok
  | missingArguments
  | malformedValue
  | unknownVariable
  | predefinedName
  | variableExists
  | indexOutOfRange
  | emptyContainer
  | divisionByZero
  | mathDomain
  | invalidPattern
  | jumpNotFound
  | entryPointNotFound
  | unrecognizedInstruction
  | unexpectedEndOfDefinition
  | argumentCapacity
  | unknownDirective
  | interrupted
  | depthExceeded
  | halt
  | extension
  | internal
  | loop
  | added (number : Int)
deriving DecidableEq, Repr

namespace Code

def number : Code → Int
  | ok => 0
  | missingArguments => 10
  | malformedValue => 11
  | unknownVariable => 12
  | predefinedName => 13
  | variableExists => 14
  | indexOutOfRange => 15
  | emptyContainer => 16
  | divisionByZero => 17
  | mathDomain => 18
  | invalidPattern => 19
  | jumpNotFound => 20
  | entryPointNotFound => 21
  | unrecognizedInstruction => 22
  | unexpectedEndOfDefinition => 23
  | argumentCapacity => 24
  | unknownDirective => 25
  | interrupted => 26
  | depthExceeded => 30
  | halt => 31
  | extension => 32
  | internal => 33
  | loop => 40
  | added number => number

end Code

/-- What there is to say about a line, before the line is known. -/
structure Note where
  level : Level
  text : String
  code : Code
deriving DecidableEq, Repr

structure Message where
  level : Level
  line : Int
  text : String
  code : Int
deriving DecidableEq, Repr

namespace Message

def format (message : Message) : String :=
  let tail := if message.code == 0 then "" else s!" (code {message.code})"
  s!"MRT {message.level.name} line {message.line}: {message.text}{tail}"

end Message

namespace Note

def onLine (note : Note) (line : Int) : Message :=
  ⟨note.level, line, note.text, note.code.number⟩

end Note

inductive HistoryFault where
  | negative
  | wide
deriving DecidableEq, Repr

namespace HistoryFault

def message : HistoryFault → String
  | negative => "maxlen must be non-negative"
  | wide => "Python int too large to convert to C ssize_t"

end HistoryFault

structure Log where
  newest : List Message
deriving DecidableEq, Repr, Inhabited

namespace Log

def defaultHistory : Nat := 1000

def historyOf (history : Int) : Except HistoryFault Nat :=
  if !Number.isWord history then .error .wide
  else if history < 0 then .error .negative
  else .ok history.toNat

def empty : Log := ⟨[]⟩

def emit (log : Log) (message : Message) : Log :=
  ⟨message :: log.newest⟩

def toList (log : Log) : List Message :=
  log.newest.reverse

def kept (log : Log) (history : Nat) : List Message :=
  (log.newest.take history).reverse

def written (log : Log) (threshold : Int) : List String :=
  (log.newest.reverse.filter fun message => message.level.rank ≥ threshold).map Message.format

end Log

end LineScript
