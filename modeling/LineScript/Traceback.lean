import LineScript.Program
import LineScript.Text.Json

/-!
Tracebacks: the frames that were active when a failure ended a run, as a text for people and as a
structured text.
-/

namespace LineScript

structure TracebackFrame where
  name : String
  file : String
  line : Nat
  statement : Option String
  locals : Option Locals
deriving DecidableEq, Repr

namespace TracebackFrame

def statementOf (script : Script) (line : Nat) : Option String :=
  match script.line? line with
  | some text => if text.isEmpty then none else some (Text.strip text)
  | none => none

def ofActivation (script : Script) (verbose : Bool) (activation : Activation) : TracebackFrame :=
  let frame := activation.frame
  ⟨frame.entry ++ (if activation.inBody then " <loop body>" else ""), script.file,
    frame.cursor.line, statementOf script frame.cursor.line,
    if verbose then some frame.locals else none⟩

def textLines (frame : TracebackFrame) : List String :=
  let place := s!"  File \"{frame.file}\", line {frame.line}, in {frame.name}"
  let statement :=
    match frame.statement with
    | some statement => if statement.isEmpty then [] else ["    " ++ statement]
    | none => []
  let locals :=
    match frame.locals with
    | some locals =>
        let shown := locals.entries.map fun entry => entry.1 ++ "=" ++ entry.2
        ["    Locals: " ++ ", ".intercalate shown]
    | none => []
  place :: statement ++ locals

def toJson (index : Nat) (frame : TracebackFrame) : Json :=
  let statement :=
    match frame.statement with
    | some statement => Json.text statement
    | none => .null
  let locals :=
    match frame.locals with
    | some locals =>
        [("locals", Json.object (locals.entries.map fun entry => (entry.1, Json.text entry.2)))]
    | none => []
  .object ([("frame_index", .int index), ("name", .text frame.name),
    ("source_location", .object [("file", .text frame.file), ("line", .int frame.line),
      ("statement", statement)])] ++ locals)

end TracebackFrame

namespace Traceback

def frames (script : Script) (run : ProgramRun) : List TracebackFrame :=
  run.left.map (TracebackFrame.ofActivation script run.machine.settings.verbose)

def text (script : Script) (run : ProgramRun) (failure : Failure) : String :=
  let last := s!"{failure.kind.name}: {failure.message} (code {failure.code})"
  "\n".intercalate ("Traceback (most recent call last):" ::
    ((frames script run).flatMap TracebackFrame.textLines ++ [last]))

def framesJson (index : Nat) : List TracebackFrame → List Json
  | [] => []
  | frame :: rest => frame.toJson index :: framesJson (index + 1) rest

def json (script : Script) (run : ProgramRun) (failure : Failure) : String :=
  let line :=
    match failure.line with
    | some line => Json.int line
    | none => .null
  Json.render (.object [
    ("error", .object [("type", .text failure.kind.name), ("message", .text failure.message),
      ("code", .int failure.code), ("line", line)]),
    ("traceback", .list (framesJson 0 (frames script run)))])

end Traceback

end LineScript
