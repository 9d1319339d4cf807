import LineScript.Files
import LineScript.Text.Blank
import LineScript.Text.Lines
import LineScript.Text.Lower

/-!
Finding and loading extensions. A path names an extension module, or a pointer file that lists
paths of modules, one per line, with comments after a semicolon.
-/

namespace LineScript

inductive LoadFault where
  | refused (fault : ExtensionFault)
  | failed (text : String)
  | undecodable (fault : Text.DecodeFault)
deriving DecidableEq, Repr

namespace LoadFault

def ofRegistration : RegistrationFault → LoadFault
  | .refused fault => refused fault
  | .failed text => failed text

def message : LoadFault → String
  | refused fault => fault.message
  | failed text => text
  | undecodable fault => fault.message

end LoadFault

namespace Loading

def pointerSuffix : String := ".mrtx"

def moduleSuffix : String := ".py"

def pointerEntry (line : List Char) : String :=
  String.ofList (Text.stripChars (Text.cut ';' line).1)

/-- The text of a pointer file, which is decoded as it is read, one portion after the other. -/
def pointerText (bytes : ByteArray) : Except LoadFault (List Char) :=
  ((Text.decodePortions bytes.data.toList).map Text.unifyLineEnds).mapError .undecodable

def readPointer (tree : FileTree) (path : String) : Except LoadFault (List String) := do
  if !tree.isFile path then throw (.refused (.pointerNotFound path))
  let directory := Path.parent (Path.absolute tree.currentPath path)
  let bytes := (tree.read path).toOption.getD ByteArray.empty
  let chars ← pointerText bytes
  let entries := ((chars.splitOn '\n').map pointerEntry).filter (· != "")
  return entries.map fun entry => Path.absolute directory entry

def gather (tree : FileTree) : List String → Except LoadFault (List String)
  | [] => return []
  | path :: rest => do
      let first ←
        if Path.hasSuffix (Text.lower path) pointerSuffix then readPointer tree path
        else pure [Path.absolute tree.currentPath path]
      return first ++ (← gather tree rest)

/-- What the file under a path comes to when it is imported. -/
def importFile (tree : FileTree) (path : String) : ModuleFile :=
  match tree.find path with
  | .ok (.module content) => content
  | .ok (.file bytes) => tree.imports path bytes
  | _ => .bare

/-- The module under an absolute path; its import can fail. -/
def findModule (tree : FileTree) (path : String) : Except LoadFault ModuleFile := do
  if !tree.isFile path then throw (.refused (.notFound path))
  if !Path.hasSuffix path moduleSuffix then throw (.refused (.notLoadable path))
  let content := importFile tree path
  match content.failure with
  | some text => throw (.failed text)
  | none => return content

def registerModule (services : Services) (path : String) (content : ModuleFile) :
    Except LoadFault Services := do
  match content.apiVersion with
  | some version =>
      if !version.isOne then throw (.refused (.apiMismatch path version.render))
  | none => pure ()
  match content.registrar with
  | .registrations steps =>
      let name :=
        match content.name with
        | some constant => constant.render
        | none => Path.stem (Path.baseName path)
      (services.registerAll name true steps).mapError LoadFault.ofRegistration
  | _ => throw (.refused (.notRegistering path))

def load (tree : FileTree) (paths : List String) : Except LoadFault Services := do
  let modules ← gather tree paths
  modules.foldlM (fun services path => do registerModule services path (← findModule tree path))
    Services.empty

end Loading

end LineScript
