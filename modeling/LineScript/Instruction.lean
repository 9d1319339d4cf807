import LineScript.Extension.Table
import LineScript.Operation
import LineScript.Script.Jump

/-!
The instructions of the language with the numbers of arguments they take: those that are always
there, those of extended mode and those of graphics mode.
-/

namespace LineScript

inductive LoopKind where
  | forLoop
  | whileLoop
  | doWhileLoop
deriving DecidableEq, Repr

namespace LoopKind

def keyword : LoopKind → String
  | forLoop => "FOR"
  | whileLoop => "WHILE"
  | doWhileLoop => "DOWHILE"

def closer : LoopKind → String
  | forLoop => "ENDF"
  | whileLoop => "ENDW"
  | doWhileLoop => "ENDDW"

/-- How many arguments the header of a loop has whose body follows it. A header with one more
argument names the definition that is its body. -/
def inlineArity : LoopKind → Nat
  | forLoop => 1
  | whileLoop => 3
  | doWhileLoop => 3

def marker (kind : LoopKind) : BlockMarker :=
  ⟨kind.keyword, some kind.inlineArity⟩

end LoopKind

def ifMarker : BlockMarker := ⟨"IF", none⟩

inductive Instruction where
  | print
  | out
  | new
  | set
  | delete
  /-- Computes a value from the other arguments and stores it in the first one. -/
  | operation (operation : Operation)
  | compare
  | ifBlock
  | elseBlock
  | endIf
  | ret
  | endDefinition
  | definition
  | random
  | rgbToHex
  | hexToRgb
  | allocate
  | free
  | setMemory
  | getMemory
  | push
  | pop
  | enqueue
  | dequeue
  | call
  | halt
  | loop (kind : LoopKind)
  | endLoop (kind : LoopKind)
  | breakLoop
  | continueLoop
  | sleep
  | noop
  | color
  | fill
  | line
  | rectangle
  | windowSize
  | saveImage
deriving DecidableEq, Repr

namespace Instruction

/-- An instruction with its name and the least and greatest number of its arguments. -/
structure Entry where
  name : String
  minArgs : Int
  maxArgs : Option Int
  instruction : Instruction
deriving Repr

/-- An operation takes a destination and its inputs; one input can be left out. -/
def operationEntry (name : String) (op : Operation) : Entry :=
  ⟨name, op.arity, some (op.arity + 1), operation op⟩

def elementaryFunctions : List Number.Elementary :=
  [.sin, .cos, .tan, .asin, .acos, .atan, .log10, .ln, .exp, .tenPow, .toRadians, .toDegrees,
    .floor, .ceil, .sqrt]

def coreEntries : List Entry :=
  [⟨"PRINT", 0, none, print⟩,
    ⟨"OUT", 0, none, out⟩,
    ⟨"NEW", 1, none, new⟩,
    ⟨"SET", 2, some 2, set⟩,
    ⟨"DEL", 1, none, delete⟩,
    operationEntry "ADD" (.arithmetic .add),
    operationEntry "SUB" (.arithmetic .sub),
    operationEntry "MUL" (.arithmetic .mul),
    operationEntry "DIV" (.arithmetic .div),
    ⟨"CMPR", 3, some 3, compare⟩,
    ⟨"IF", 0, some 2, ifBlock⟩,
    ⟨"ELSE", 0, none, elseBlock⟩,
    ⟨"ENDIF", 0, none, endIf⟩,
    ⟨"RET", 0, some 1, ret⟩,
    ⟨"ENDDEF", 0, some 1, endDefinition⟩,
    ⟨"EDEF", 0, some 1, endDefinition⟩,
    ⟨"DEF", 1, none, definition⟩,
    operationEntry "SUBSTR" .substring,
    operationEntry "CHARAT" .characterAt,
    operationEntry "TRIM" .trim,
    operationEntry "RPLC" .replace,
    operationEntry "COUNT" .countMatches,
    operationEntry "FIND" .find,
    operationEntry "CON" .concatenate,
    operationEntry "SIZE" .size,
    operationEntry "ROUND" .round,
    operationEntry "ABS" .absolute,
    operationEntry "MIN" .minimum,
    operationEntry "MAX" .maximum,
    ⟨"RAND", 3, some 3, random⟩] ++
  (elementaryFunctions.map fun function =>
    operationEntry (Operation.elementaryName function) (.elementary function)) ++
  [⟨"RGBTOHEX", 4, some 4, rgbToHex⟩,
    ⟨"COLRGBTOHEX", 4, some 4, rgbToHex⟩,
    ⟨"HEXTORGB", 4, some 4, hexToRgb⟩,
    ⟨"ALOC", 1, some 1, allocate⟩,
    ⟨"FREE", 1, some 1, free⟩,
    ⟨"SETM", 2, some 2, setMemory⟩,
    ⟨"GETM", 2, some 2, getMemory⟩,
    ⟨"PUSH", 1, some 1, push⟩,
    ⟨"POP", 1, some 1, pop⟩,
    ⟨"QPUSH", 1, some 1, enqueue⟩,
    ⟨"QPOP", 1, some 1, dequeue⟩,
    ⟨"CALL", 1, none, call⟩,
    ⟨"DO", 1, none, call⟩,
    ⟨"HLT", 0, none, halt⟩]

def loopEntry (kind : LoopKind) : Entry :=
  ⟨kind.keyword, kind.inlineArity, some (kind.inlineArity + 1), loop kind⟩

def loopEndEntry (kind : LoopKind) : Entry :=
  ⟨kind.closer, 0, none, endLoop kind⟩

def extendedEntries : List Entry :=
  [loopEntry .forLoop,
    loopEntry .whileLoop,
    loopEntry .doWhileLoop,
    loopEndEntry .forLoop,
    loopEndEntry .whileLoop,
    loopEndEntry .doWhileLoop,
    ⟨"BREAK", 0, none, breakLoop⟩,
    ⟨"CONTINUE", 0, none, continueLoop⟩,
    ⟨"SLEEP", 1, some 1, sleep⟩,
    operationEntry "CASEU" .upperCase,
    operationEntry "CASEL" .lowerCase,
    ⟨"NOP", 0, none, noop⟩,
    operationEntry "TOBIN" .toBinary,
    operationEntry "BINTOINT" .ofBinary]

def graphicsEntries : List Entry :=
  [⟨"COLOR", 1, some 1, color⟩,
    ⟨"FILL", 1, some 1, fill⟩,
    ⟨"LINE", 4, some 4, line⟩,
    ⟨"RECT", 4, some 4, rectangle⟩,
    ⟨"WINSIZE", 2, some 2, windowSize⟩,
    ⟨"SAVEIMG", 1, some 1, saveImage⟩]

def tableOf (origin : String) (entries : List Entry)
    (named : ∀ entry ∈ entries, entry.name = Text.upper entry.name) :
    InstructionTable Instruction where
  entries := entries.map fun entry =>
    (entry.name, ⟨entry.name, entry.minArgs, entry.maxArgs, entry.instruction, "", origin⟩)
  named entry member := by
    obtain ⟨original, listed, rfl⟩ := List.mem_map.mp member
    exact named original listed

def core : InstructionTable Instruction := tableOf "core" coreEntries (by decide +kernel)

def extended : InstructionTable Instruction :=
  tableOf "extended" extendedEntries (by decide +kernel)

def graphics : InstructionTable Instruction :=
  tableOf "graphics" graphicsEntries (by decide +kernel)

def isReserved (name : String) : Bool :=
  (coreEntries ++ extendedEntries ++ graphicsEntries).any (·.name == name)

end Instruction

end LineScript
