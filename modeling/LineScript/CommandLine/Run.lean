import LineScript.CommandLine.Arguments
import LineScript.Traceback

/-!
What the command line does: it finds the script and its extensions, runs the program, perhaps again
and again, and reports how it ended.
-/

namespace LineScript.CommandLine

/-- Why the command line does not come to its end. -/
inductive Escape where
  | interrupted
  | nullByte
  | undecodable (fault : Text.DecodeFault)
  | loading (fault : LoadFault)
  /-- An option is used that has the separator in the place of its value. -/
  | valueless (flag : Flag)
  | running (fault : Fault)
deriving DecidableEq, Repr

namespace Escape

def ofInterrupted : Interrupted → Escape
  | .keyboard => interrupted
  | .undecodable text => running (.exception (.refusedValue text))

end Escape

inductive Outcome where
  | exited (status : Nat)
  | refused (refusal : Refusal)
  | escaped (cause : Escape)
deriving DecidableEq, Repr

structure Result where
  outcome : Outcome
  stdout : String
  stderr : String
  console : Console
  events : List EventRecord
  files : FileTree

structure Surroundings where
  files : FileTree
  console : Console
  clock : Moments
  seed : Int

namespace Surroundings

def finish (surroundings : Surroundings) (outcome : Outcome) (stdout stderr : String) : Result :=
  ⟨outcome, stdout, stderr, surroundings.console, [], surroundings.files⟩

end Surroundings

/-- Surroundings on a host; unless it is said which, on a usual one. -/
structure Site extends Surroundings where
  host : Host

instance : Coe Surroundings Site := ⟨fun surroundings => { surroundings with host := .usual }⟩

structure Job where
  arguments : Arguments
  script : Script

/-- What comes of a command line before the program runs. -/
inductive Preparation where
  | ready (job : Job) (machine : Machine)
  | ended (result : Result)

def textName : String := "<string>"

def fileName (files : FileTree) (path : String) : String :=
  if path == textName then path else Path.absolute files.currentPath path

inductive ScriptFault where
  | unreadable (fault : FileFault)
  | escaped (cause : Escape)
deriving DecidableEq, Repr

def readScript (files : FileTree) (path : String) : Except ScriptFault Script :=
  if Path.hasNull path then .error (.escaped .nullByte)
  else
    match files.read path with
    | .error fault => .error (.unreadable fault)
    | .ok bytes =>
        match Text.decodeUtf8 bytes.data.toList with
        | .error fault => .error (.escaped (.undecodable fault))
        | .ok chars =>
            .ok (Script.ofText (fileName files path) (String.ofList (Text.unifyLineEnds chars)))

def settingsOf (arguments : Arguments) : Settings :=
  ⟨arguments.maxDepth, arguments.maxArgs, arguments.verbose, false⟩

def loadExtensions (files : FileTree) (paths : List (Option String)) :
    Except Escape Services := do
  match paths.mapM id with
  | some paths => (Loading.load files paths).mapError .loading
  | none =>
      let known := (paths.takeWhile Option.isSome).filterMap id
      let _ ← (Loading.gather files known).mapError .loading
      throw (.valueless .extension)

def seedOf (arguments : Arguments) (surroundings : Site) : Except Escape Int :=
  match arguments.seed with
  | none => .ok surroundings.seed
  | some (some seed) => .ok seed
  | some none => .error (.valueless .seed)

def buildMachine (arguments : Arguments) (surroundings : Site) : Except Escape Machine := do
  let services ← loadExtensions surroundings.files arguments.extensions
  if arguments.logLevel.isNone then throw (.valueless .logLevel)
  let setup : Machine.Setup :=
    { settings := settingsOf arguments
      services
      extended := arguments.extended
      graphics := arguments.graphics
      seed := ← seedOf arguments surroundings
      clock := surroundings.clock
      wakes := false
      replies := []
      files := surroundings.files
      host := surroundings.host }
  let machine ← (Machine.ofSetup setup).mapError fun fault => .loading (.refused fault)
  return { machine with console := { surroundings.console with moments := surroundings.clock } }

def prepareMachine (arguments : Arguments) (script : Script) (surroundings : Site) :
    Preparation :=
  match buildMachine arguments surroundings with
  | .ok machine => .ready ⟨arguments, script⟩ machine
  | .error (.loading (.refused fault)) =>
      .ended (surroundings.finish (.exited 1) "" s!"ExtensionError: {fault.message}\n")
  | .error cause => .ended (surroundings.finish (.escaped cause) "" "")

def prepareScript (arguments : Arguments) (program : String) (surroundings : Site) :
    Preparation :=
  if arguments.sourceMode then
    prepareMachine arguments (Script.ofText textName program) surroundings
  else
    match readScript surroundings.files program with
    | .ok script => prepareMachine arguments script surroundings
    | .error (.unreadable fault) =>
        .ended (surroundings.finish (.exited 1) "" s!"Failed to read {program}: {fault.message}\n")
    | .error (.escaped cause) => .ended (surroundings.finish (.escaped cause) "" "")

/-- Prepares what a command line asks for; without a program the user is asked for a script
file. -/
def prepare (texts : List String) (surroundings : Site) : Preparation :=
  match Arguments.ofTexts texts with
  | .error refusal => .ended (surroundings.finish (.refused refusal) "" "")
  | .ok arguments =>
      match arguments.program with
      | some program => prepareScript arguments program surroundings
      | none =>
          if arguments.sourceMode then
            .ended (surroundings.finish (.exited 1) "" "-source requires a program string\n")
          else
            let (answer, console) := surroundings.console.readLine "Script file: "
            let surroundings := { surroundings with console }
            match answer.map Text.strip with
            | .error cause => .ended (surroundings.finish (.escaped (.ofInterrupted cause)) "" "")
            | .ok program =>
                if program.isEmpty then
                  .ended (surroundings.finish (.exited 0) "Canceled.\n" "")
                else prepareScript arguments program surroundings

namespace Job

def writtenMessages (job : Job) (machine : Machine) : String :=
  String.join ((machine.log.written (job.arguments.logLevel.getD silentRank)).map (· ++ "\n"))

def finish (job : Job) (machine : Machine) (outcome : Outcome) (closing details : String) :
    Result :=
  ⟨outcome, machine.output ++ closing, job.writtenMessages machine ++ details, machine.console,
    machine.events.reverse, machine.files⟩

def exit (job : Job) (machine : Machine) (value details : String) : Result :=
  let status := if value == Signal.abnormalCode then 1 else 0
  job.finish machine (.exited status) s!"\n{Exit.describe value}\n" details

/-- Whether a program is run again after a signal: in compatibility mode it can be repeated until
it returns. -/
def repeats (job : Job) (machine : Machine) (signal : Signal) : Bool :=
  match signal with
  | .broken _ => false
  | _ =>
      job.arguments.loopMain && !machine.extended && Exit.valueOf signal != Signal.closeValue

def traceback (job : Job) (run : ProgramRun) (failure : Failure) : String :=
  let text := Traceback.text job.script run failure ++ "\n"
  if job.arguments.tracebackJson then text ++ Traceback.json job.script run failure ++ "\n"
  else text

/-- What follows the end of a program: another run, or the end of the process. -/
def conclude (job : Job) (run : ProgramRun) : Except Result Machine :=
  let machine := run.machine
  match run.result with
  | .ok signal =>
      if job.repeats machine signal then .ok machine
      else .error (job.exit machine (Exit.valueOf signal) "")
  | .error (.halt code) => .error (job.exit machine code "")
  | .error .interrupted => .error (job.exit machine Signal.haltCode "")
  | .error (.failure failure) =>
      .error (job.exit machine Signal.abnormalCode (job.traceback run failure))
  | .error fault => .error (job.finish machine (.escaped (.running fault)) "" "")

def begin (job : Job) (machine : Machine) : Except Result ProgramStart :=
  match job.arguments.entry with
  | none => .error (job.finish machine (.escaped (.valueless .entry)) "" "")
  | some entry => .ok (Program.start job.script entry machine)

/-- Runs a program until it need not be repeated, for at most so many rounds of so many steps. -/
def rounds (job : Job) (fuel : Nat) : (count : Nat) → Machine → Option Result
  | 0, _ => none
  | count + 1, machine =>
      match job.begin machine with
      | .error result => some result
      | .ok start =>
          match start.finish job.script fuel with
          | none => none
          | some run =>
              match job.conclude run with
              | .ok machine => rounds job fuel count machine
              | .error result => some result

end Job

def run (texts : List String) (surroundings : Site) (fuel : Nat) : Option Result :=
  match prepare texts surroundings with
  | .ended result => some result
  | .ready job machine => job.rounds fuel fuel machine

end LineScript.CommandLine
