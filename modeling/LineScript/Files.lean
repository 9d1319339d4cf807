import LineScript.Extension.Constant
import LineScript.Extension.Services
import LineScript.Text.Search
import LineScript.Text.Utf8

/-!
Files and paths. A file tree holds directories, files and extension modules under absolute paths,
with one directory as the current one.
-/

namespace LineScript

/-- What a path names must be known before it can be used; why it cannot be. -/
inductive FileFault where
  | notFound (path : String)
  | notADirectory (path : String)
  | isADirectory (path : String)
  | nameTooLong (path : String)
deriving DecidableEq, Repr

namespace FileFault

def message : FileFault → String
  | notFound path => s!"[Errno 2] No such file or directory: {Text.quoted path}"
  | notADirectory path => s!"[Errno 20] Not a directory: {Text.quoted path}"
  | isADirectory path => s!"[Errno 21] Is a directory: {Text.quoted path}"
  | nameTooLong path => s!"[Errno 36] File name too long: {Text.quoted path}"

end FileFault

/-- How a module announces its registration function. -/
inductive Registrar where
  | registrations (steps : List Registration)
  | missing
  | notCallable

/-- What a module comes to when it is imported: what it declares, or the exception that it ends with
instead. -/
structure ModuleFile where
  apiVersion : Option Constant
  name : Option Constant
  registrar : Registrar
  failure : Option String

namespace ModuleFile

/-- A module that declares nothing that an extension needs. -/
def bare : ModuleFile := ⟨none, none, .missing, none⟩

end ModuleFile

inductive FileNode where
  | directory
  | file (bytes : ByteArray)
  | module (content : ModuleFile)

namespace Path

def parts (path : String) : List String :=
  (path.toList.splitOn '/').map String.ofList

def isAbsolute (path : String) : Bool :=
  path.toList.head? == some '/'

def enter (names : List String) (part : String) : List String :=
  if part == "" || part == "." then names
  else if part == ".." then names.tail
  else part :: names

def names (path : String) : List String :=
  ((parts path).foldl enter []).reverse

/-- The slashes at the start of an absolute path: two stay two, any other number is one. -/
def rootSlashes (path : String) : String :=
  match path.toList with
  | '/' :: '/' :: '/' :: _ => "/"
  | '/' :: '/' :: _ => "//"
  | _ => "/"

def normalize (path : String) : String :=
  rootSlashes path ++ "/".intercalate (names path)

def join (directory path : String) : String :=
  if isAbsolute path then path
  else if directory.toList.getLast? == some '/' then directory ++ path
  else directory ++ "/" ++ path

def absolute (directory path : String) : String :=
  normalize (join directory path)

def baseName (path : String) : String :=
  (parts path).getLastD ""

def parent (path : String) : String :=
  match (names path).dropLast with
  | [] => rootSlashes path
  | upper => rootSlashes path ++ "/".intercalate upper

/-- A name without its last suffix; dots at its start belong to the name. -/
def stem (name : String) : String :=
  let chars := name.toList
  let dots := chars.takeWhile (· == '.')
  let rest := chars.dropWhile (· == '.')
  if rest.contains '.' then
    String.ofList (dots ++ (rest.reverse.dropWhile (· != '.')).tail.reverse)
  else name

def hasSuffix (text ending : String) : Bool :=
  ending.toList.reverse.isPrefixOf text.toList.reverse

def hasNull (path : String) : Bool :=
  path.toList.contains (Char.ofNat 0)

end Path

/-- Files under the names on the way from the root, and the current directory. What comes of a file
that is imported is known for the module files of the tree; for any other file it is given by a
function of its path and its content, since no code is read here. -/
structure FileTree where
  current : List String
  entries : List (List String × FileNode)
  imports : String → ByteArray → ModuleFile

namespace FileTree

/-- No files but the current directory, where a file that is put there declares nothing. -/
def ofDirectory (directory : String) : FileTree :=
  ⟨Path.names directory, [], fun _ _ => .bare⟩

def currentPath (tree : FileTree) : String :=
  "/" ++ "/".intercalate tree.current

/-- What stands under the names; directories above an entry or the current directory exist. -/
def node? (tree : FileTree) (names : List String) : Option FileNode :=
  match tree.entries.find? fun entry => entry.1 == names with
  | some entry => some entry.2
  | none =>
      if names.isPrefixOf tree.current || tree.entries.any fun entry => names.isPrefixOf entry.1
      then some .directory
      else none

/-- Goes from a directory along the parts of a path, as far as there is a way; `path` is the path
that was asked for. -/
def walk (tree : FileTree) (path : String) :
    (names : List String) → List String → Except FileFault (List String × FileNode)
  | names, [] =>
      match tree.node? names with
      | some node => .ok (names, node)
      | none => .error (.notFound path)
  | names, part :: rest =>
      match tree.node? names with
      | none => .error (.notFound path)
      | some .directory =>
          if part == "" || part == "." then tree.walk path names rest
          else if part == ".." then tree.walk path names.dropLast rest
          else if part.utf8ByteSize > 255 then .error (.nameTooLong path)
          else tree.walk path (names ++ [part]) rest
      | some _ => .error (.notADirectory path)

def pathLimit : Nat := 4096

def find (tree : FileTree) (path : String) : Except FileFault FileNode :=
  if path.isEmpty then .error (.notFound path)
  else if path.utf8ByteSize ≥ pathLimit then .error (.nameTooLong path)
  else
    let start := if Path.isAbsolute path then [] else tree.current
    (tree.walk path start (Path.parts path)).map Prod.snd

def isFile (tree : FileTree) (path : String) : Bool :=
  if Path.hasNull path then false
  else
    match tree.find path with
    | .ok (.file _) => true
    | .ok (.module _) => true
    | _ => false

def read (tree : FileTree) (path : String) : Except FileFault ByteArray := do
  match ← tree.find path with
  | .file bytes => return bytes
  | .module _ => return ByteArray.empty
  | .directory => throw (.isADirectory path)

def put (tree : FileTree) (names : List String) (node : FileNode) : FileTree :=
  { tree with entries := tree.entries.filter (fun entry => entry.1 != names) ++ [(names, node)] }

def write (tree : FileTree) (path : String) (bytes : ByteArray) :
    Except FileFault FileTree := do
  if path.utf8ByteSize ≥ pathLimit then throw (.nameTooLong path)
  let names := Path.names path
  match names.getLast? with
  | none => throw (.isADirectory path)
  | some last =>
      match ← tree.walk path [] names.dropLast with
      | (_, .directory) =>
          if last.utf8ByteSize > 255 then throw (.nameTooLong path)
          match tree.node? names with
          | some .directory => throw (.isADirectory path)
          | _ => return tree.put names (.file bytes)
      | _ => throw (.notADirectory path)

end FileTree

end LineScript
