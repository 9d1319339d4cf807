import LineScript.CommandLine.Run
import Std.Time.DateTime.Timestamp

/-!
The program: it connects the command line with the terminal, the files and the clock.
-/

namespace LineScript.Terminal

open LineScript.CommandLine

def nodeAt (path : String) : IO (Option FileNode) := do
  try
    return some (.file (← IO.FS.readBinFile path))
  catch
    | .noFileOrDirectory _ _ _ => return none
    | _ => return some .directory

def load (tree : FileTree) (path : String) : IO FileTree := do
  let target := Path.absolute tree.currentPath path
  match ← nodeAt target with
  | some node => return tree.put (Path.names target) node
  | none => return tree

def filesFor (arguments : Arguments) (program : Option String) : IO FileTree := do
  let mut tree := FileTree.ofDirectory (← IO.currentDir).toString
  for entry in ← (← IO.currentDir).readDir do
    if ← entry.path.isDir then tree ← load tree entry.fileName
  let extensions := arguments.extensions.filterMap id
  for path in program.toList ++ extensions do
    tree ← load tree path
  match Loading.gather tree extensions with
  | .ok modules => modules.foldlM load tree
  | .error _ => return tree

def saveFiles (before after : FileTree) : IO Unit := do
  for (names, node) in after.entries do
    match node, before.node? names with
    | .file bytes, some (.file old) =>
        if bytes.data != old.data then IO.FS.writeBinFile ("/" ++ "/".intercalate names) bytes
    | .file bytes, _ => IO.FS.writeBinFile ("/" ++ "/".intercalate names) bytes
    | _, _ => pure ()

def ask (prompt : String) : IO Reply := do
  IO.print prompt
  (← IO.getStdout).flush
  let line ← (← IO.getStdin).getLine
  if line.isEmpty then return .endOfFile
  else return .line (String.ofList (Text.unifyLineEnds line.toList |>.takeWhile (· != '\n')))

def clockSince (start : Nat) : IO Clock := do
  let seconds := (← Std.Time.Timestamp.now).toSecondsSinceUnixEpoch.val
  return Clock.ofSeconds seconds ((← IO.monoMsNow) - start)

def flush (job : Job) (machine : Machine) : IO Machine := do
  IO.print machine.output
  (← IO.getStdout).flush
  IO.eprint (job.writtenMessages machine)
  return { machine with output := "", log := .empty }

def stateOf : Step → State
  | .next state => state
  | .stop _ state => state

/-- One step, for which the user is asked as often as the step reads a line. -/
partial def stepWith (job : Job) (state : State) (replies : List Reply) : IO Step := do
  let fresh := state.onMachine fun machine =>
    { machine with console := { machine.console with replies, shown := [] } }
  let result := fresh.step job.script
  let prompts := (stateOf result).scope.machine.console.prompts
  match prompts[replies.length]? with
  | some prompt => stepWith job state (replies ++ [← ask prompt])
  | none => return result

/-- Runs a program to its end. -/
partial def drive (job : Job) (start : Nat) (state : State) : IO ProgramRun := do
  let clock ← clockSince start
  let state := state.onMachine fun machine =>
    { machine with console := { machine.console with moments := clock } }
  match ← stepWith job state [] with
  | .stop ending state => return Program.close ending state
  | .next state =>
      let machine ← flush job state.scope.machine
      drive job start (state.onMachine fun _ => machine)

/-- Runs a program until it need not be repeated. -/
partial def rounds (job : Job) (start : Nat) (machine : Machine) : IO Result := do
  match job.begin machine with
  | .error result => return result
  | .ok beginning =>
      let run ←
        match beginning with
        | .ended run => pure run
        | .running state => drive job start state
      match job.conclude run with
      | .ok machine => rounds job start (← flush job machine)
      | .error result => return result

def report (result : Result) : IO UInt32 := do
  IO.print result.stdout
  IO.eprint result.stderr
  match result.outcome with
  | .exited status => return status.toUInt32
  | .refused (.usage fault) =>
      IO.eprintln s!"maartanic: error: {fault.message}"
      return 2
  | .refused .help => return 0
  | .escaped _ => return 1

def programReply (arguments : Arguments) : IO (List Reply) := do
  if arguments.program.isNone && !arguments.sourceMode then return [← ask "Script file: "]
  else return []

def programPath (arguments : Arguments) (replies : List Reply) : Option String :=
  if arguments.sourceMode then none
  else
    match arguments.program, replies with
    | some path, _ => some path
    | none, .line text :: _ => some (Text.strip text)
    | none, _ => none

def run (texts : List String) : IO UInt32 := do
  let arguments := (Arguments.ofTexts texts).toOption.getD .default
  let accepted := (Arguments.ofTexts texts).isOk
  let replies ← if accepted then programReply arguments else pure []
  let files ← filesFor arguments (programPath arguments replies)
  let start ← IO.monoMsNow
  let surroundings : Surroundings :=
    ⟨files, .ofReplies replies, ← clockSince start, ← IO.rand 0 (Number.pow2 62)⟩
  match prepare texts surroundings with
  | .ended result => report result
  | .ready job machine =>
      let result ← rounds job start machine
      saveFiles files result.files
      report result

end LineScript.Terminal

def main (args : List String) : IO UInt32 :=
  LineScript.Terminal.run args
