import LineScript.Exit

/-!
The options of the command line: their names, whether they take a value, and what is said about a
command line that cannot be understood.
-/

namespace LineScript.CommandLine

inductive Flag where
  | help
  | source
  | entry
  | logLevel
  | mode
  | graphics
  | maxDepth
  | maxArgs
  | seed
  | extension
  | loopMain
  | verbose
  | tracebackJson
deriving DecidableEq, Repr

namespace Flag

def named : List (String × Flag) :=
  [("-h", help), ("--help", help), ("-source", source), ("--source", source), ("--entry", entry),
    ("--log-level", logLevel), ("--mode", mode), ("--graphics", graphics),
    ("--max-depth", maxDepth), ("--max-args", maxArgs), ("--seed", seed), ("--ext", extension),
    ("--loop-main", loopMain), ("-verbose", verbose), ("--verbose", verbose),
    ("--traceback-json", tracebackJson)]

def ofName? (name : String) : Option Flag :=
  named.lookup name

def label (flag : Flag) : String :=
  "/".intercalate ((named.filter fun entry => entry.2 == flag).map Prod.fst)

def takesValue : Flag → Bool
  | entry => true
  | logLevel => true
  | mode => true
  | maxDepth => true
  | maxArgs => true
  | seed => true
  | extension => true
  | _ => false

/-- What is said when an option is used that has the separator in the place of its value. -/
def valueless : Flag → String
  | extension => "'list' object has no attribute 'lower'"
  | logLevel =>
      "int() argument must be a string, a bytes-like object or a real number, not 'list'"
  | seed =>
      "The only supported seed types are: None,\nint, float, str, bytes, and bytearray."
  | _ => "unhashable type: 'list'"

end Flag

inductive UsageFault where
  | ambiguous (word : String) (names : List String)
  | ignoredValue (flag : Flag) (value : String)
  | missingValue (flag : Flag)
  | notAnInteger (flag : Flag) (value : String)
  /-- A value that is none of the choices; all are given as they are shown. -/
  | invalidChoice (flag : Flag) (value : String) (choices : List String)
  | depth (flag : Flag) (fault : DepthFault)
  | unrecognized (words : List String)
deriving DecidableEq, Repr

namespace UsageFault

def aboutFlag (flag : Flag) (text : String) : String :=
  s!"argument {flag.label}: {text}"

def message : UsageFault → String
  | ambiguous word names =>
      let matching := ", ".intercalate names
      s!"ambiguous option: {word} could match {matching}"
  | ignoredValue flag value =>
      aboutFlag flag s!"ignored explicit argument {Text.quoted value}"
  | missingValue flag => aboutFlag flag "expected one argument"
  | notAnInteger flag value => aboutFlag flag s!"invalid int value: {Text.quoted value}"
  | invalidChoice flag value choices =>
      let listed := ", ".intercalate choices
      aboutFlag flag s!"invalid choice: {value} (choose from {listed})"
  | depth flag fault => aboutFlag flag fault.message
  | unrecognized words =>
      let listed := " ".intercalate words
      s!"unrecognized arguments: {listed}"

end UsageFault

end LineScript.CommandLine
