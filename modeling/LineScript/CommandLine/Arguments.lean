import LineScript.CommandLine.Flag
import LineScript.Machine.Basic
import LineScript.Text.Digit

/-!
Understanding the words of a command line. A word is a value, an option or the separator after
which there are no options. Names of options can be cut short, and a value can be attached to an
option by an equals sign.
-/

namespace LineScript.CommandLine

inductive Word where
  | value (text : String)
  | separator
  | unknown (text : String)
  | flag (flag : Flag)
  /-- An option with a value attached; `short` says that the name has one dash. -/
  | attached (flag : Flag) (short : Bool) (text : String)
deriving DecidableEq, Repr

namespace Word

def startsWith (text start : List Char) : Bool :=
  start.isPrefixOf text

def isNegativeNumber (chars : List Char) : Bool :=
  match chars with
  | '-' :: rest =>
      let digits := if rest.getLast? == some '\n' then rest.dropLast else rest
      let whole := digits.takeWhile Text.isDigit
      match digits.dropWhile Text.isDigit with
      | [] => !whole.isEmpty
      | '.' :: fraction => !fraction.isEmpty && fraction.all Text.isDigit
      | _ => false
  | _ => false

/-- The options whose names start with a word of two dashes, which may have a value attached. -/
def longCandidates (chars : List Char) : List (String × Word) :=
  let (start, text) := Text.cut '=' chars
  (Flag.named.filter fun entry => startsWith entry.1.toList start).map fun entry =>
    match text with
    | some text => (entry.1, attached entry.2 false (String.ofList text))
    | none => (entry.1, flag entry.2)

/-- The options that a word of one dash can stand for: one of two characters with the rest as its
value, or one whose name starts with the word. -/
def shortCandidates (chars : List Char) : List (String × Word) :=
  Flag.named.filterMap fun entry =>
    if entry.1.toList == chars.take 2 then
      some (entry.1, attached entry.2 true (String.ofList (chars.drop 2)))
    else if startsWith entry.1.toList chars then some (entry.1, flag entry.2)
    else none

def inFull? (chars : List Char) : Option Word :=
  match Flag.ofName? (String.ofList chars) with
  | some named => some (flag named)
  | none =>
      match Text.cut '=' chars with
      | (name, some text) =>
          (Flag.ofName? (String.ofList name)).map fun named =>
            attached named (!startsWith name ['-', '-']) (String.ofList text)
      | (_, none) => none

def ofText (text : String) : Except UsageFault Word :=
  match text.toList with
  | '-' :: second :: rest =>
      let chars := '-' :: second :: rest
      match inFull? chars with
      | some word => .ok word
      | none =>
          let candidates :=
            if second == '-' then longCandidates chars else shortCandidates chars
          match candidates with
          | [(_, word)] => .ok word
          | [] =>
              if isNegativeNumber chars || chars.contains ' ' then .ok (value text)
              else .ok (unknown text)
          | _ => .error (.ambiguous text (candidates.map Prod.fst))
  | _ => .ok (value text)

def ofTexts : List String → Except UsageFault (List Word)
  | [] => .ok []
  | "--" :: rest => .ok (separator :: rest.map value)
  | text :: rest => do
      let word ← ofText text
      return word :: (← ofTexts rest)

end Word

/-- What a command line asks for. The value of an option is `none` when the separator is attached in
its place. -/
structure Arguments where
  /-- The path of a script, or a script itself. -/
  program : Option String
  sourceMode : Bool
  entry : Option String
  logLevel : Option Int
  extended : Bool
  graphics : Bool
  maxDepth : Option Int
  maxArgs : Option Int
  seed : Option (Option Int)
  extensions : List (Option String)
  loopMain : Bool
  verbose : Bool
  tracebackJson : Bool
deriving DecidableEq, Repr

/-- Why there are no arguments: the words are refused, or help is asked for. -/
inductive Refusal where
  | usage (fault : UsageFault)
  | help
deriving DecidableEq, Repr

namespace Arguments

def default : Arguments where
  program := none
  sourceMode := false
  entry := some "main"
  logLevel := some Level.warning.rank
  extended := false
  graphics := false
  maxDepth := some Settings.defaultDepth
  maxArgs := some Settings.defaultArgs
  seed := none
  extensions := []
  loopMain := false
  verbose := false
  tracebackJson := false

def intValue (flag : Flag) (text : String) : Except Refusal Int :=
  match Number.readInt? text with
  | some value => .ok value
  | none => .error (.usage (.notAnInteger flag text))

def levelValue (text : String) : Except Refusal Int := do
  let value ← intValue .logLevel text
  if 0 ≤ value && value ≤ silentRank then return value
  else throw (.usage (.invalidChoice .logLevel (toString value) ["0", "1", "2", "3"]))

/-- A mode as the value of an option: whether it is the extended one. -/
def modeValue (text : String) : Except Refusal Bool :=
  if text == "extended" then .ok true
  else if text == "vsb" then .ok false
  else
    .error (.usage (.invalidChoice .mode (Text.quoted text)
      [Text.quoted "vsb", Text.quoted "extended"]))

def depthValue (text : String) : Except Refusal Int :=
  match depthLimit text with
  | .ok value => .ok value
  | .error fault => .error (.usage (.depth .maxDepth fault))

def withValue (arguments : Arguments) (flag : Flag) (text : String) :
    Except Refusal Arguments := do
  match flag with
  | .entry => return { arguments with entry := some text }
  | .logLevel => return { arguments with logLevel := some (← levelValue text) }
  | .mode => return { arguments with extended := ← modeValue text }
  | .maxDepth => return { arguments with maxDepth := some (← depthValue text) }
  | .maxArgs => return { arguments with maxArgs := some (← intValue .maxArgs text) }
  | .seed => return { arguments with seed := some (some (← intValue .seed text)) }
  | .extension => return { arguments with extensions := arguments.extensions ++ [some text] }
  | _ => return arguments

def withSeparator (arguments : Arguments) : Flag → Arguments
  | .entry => { arguments with entry := none }
  | .logLevel => { arguments with logLevel := none }
  | .mode => { arguments with extended := false }
  | .maxDepth => { arguments with maxDepth := none }
  | .maxArgs => { arguments with maxArgs := none }
  | .seed => { arguments with seed := some none }
  | .extension => { arguments with extensions := arguments.extensions ++ [none] }
  | _ => arguments

def withFlag (arguments : Arguments) (flag : Flag) : Except Refusal Arguments :=
  match flag with
  | .help => .error .help
  | .source => .ok { arguments with sourceMode := true }
  | .graphics => .ok { arguments with graphics := true }
  | .loopMain => .ok { arguments with loopMain := true }
  | .verbose => .ok { arguments with verbose := true }
  | .tracebackJson => .ok { arguments with tracebackJson := true }
  | _ => .ok arguments

/-- What comes of an option without a value when characters follow in the same word. They stand for
further options of one character, of which help is the only one; any other character is refused as
a value of the option before it. -/
def afterFlag : Flag → List Char → Refusal
  | _, [] => .help
  | flag, c :: rest =>
      if c == 'h' then afterFlag .help rest
      else .usage (.ignoredValue flag (String.ofList (c :: rest)))

def withAttached (arguments : Arguments) (flag : Flag) (short : Bool) (text : String) :
    Except Refusal Arguments :=
  if flag.takesValue then
    if text == "--" then .ok (arguments.withSeparator flag) else arguments.withValue flag text
  else if short && !text.isEmpty then .error (afterFlag flag text.toList)
  else .error (.usage (.ignoredValue flag text))

inductive Place where
  | free
  | justTaken
  | taken
deriving DecidableEq, Repr

structure Progress where
  arguments : Arguments
  place : Place
  pending : Option Flag
  extras : List String

namespace Progress

def start : Progress := ⟨default, .free, none, []⟩

def settle (progress : Progress) : Progress :=
  if progress.place == .justTaken then { progress with place := .taken } else progress

def putAside (progress : Progress) (text : String) : Progress :=
  { progress.settle with extras := text :: progress.extras }

/-- Reads a word that is not the value of an option. The first value is the program, and a
separator next to it goes with it. -/
def readFree (progress : Progress) : Word → Except Refusal Progress
  | .unknown text => .ok (progress.putAside text)
  | .attached flag short text => do
      let arguments ← progress.arguments.withAttached flag short text
      return { progress.settle with arguments }
  | .flag flag =>
      if flag.takesValue then .ok { progress.settle with pending := some flag }
      else do
        let arguments ← progress.arguments.withFlag flag
        return { progress.settle with arguments }
  | .value text =>
      if progress.place == .free then
        .ok { progress with
          arguments := { progress.arguments with program := some text }
          place := .justTaken }
      else .ok (progress.putAside text)
  | .separator =>
      if progress.place == .taken then .ok (progress.putAside "--") else .ok progress.settle

def read (progress : Progress) (word : Word) : Except Refusal Progress :=
  match progress.pending, word with
  | none, _ => progress.readFree word
  | some flag, .value text => do
      let arguments ← progress.arguments.withValue flag text
      return { progress with arguments, pending := none }
  | some flag, _ => .error (.usage (.missingValue flag))

def finish (progress : Progress) : Except Refusal Arguments :=
  match progress.pending with
  | some flag => .error (.usage (.missingValue flag))
  | none =>
      if progress.extras.isEmpty then .ok progress.arguments
      else .error (.usage (.unrecognized progress.extras.reverse))

end Progress

def ofTexts (texts : List String) : Except Refusal Arguments :=
  match Word.ofTexts texts with
  | .error fault => .error (.usage fault)
  | .ok words => do (← words.foldlM Progress.read Progress.start).finish

end Arguments

end LineScript.CommandLine
