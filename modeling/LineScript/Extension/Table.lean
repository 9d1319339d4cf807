import LineScript.Text.Upper

/-!
Tables of instructions. A table finds an instruction by its name in any case, and each instruction
says how many arguments it takes.
-/

namespace LineScript

inductive ExtensionFault where
  | emptyInstructionName
  | instructionDefined (name : String)
  | markedVariableName
  | variableDefined (name : String)
  | hooksRefused (extension : String)
  | overridesInstruction (name : String)
  | overridesVariable (name : String)
  | notFound (path : String)
  | notLoadable (path : String)
  | apiMismatch (path version : String)
  | notRegistering (path : String)
  | pointerNotFound (path : String)
deriving DecidableEq, Repr

namespace ExtensionFault

def message : ExtensionFault → String
  | emptyInstructionName => "Instruction name must be non-empty"
  | instructionDefined name => s!"Instruction '{name}' is already defined"
  | markedVariableName => "Predefined variable names are given without the '$_' prefix"
  | variableDefined name => s!"Predefined variable '{name}' is already defined"
  | hooksRefused extension => s!"Extension '{extension}' cannot register hooks"
  | overridesInstruction name => s!"Cannot override built-in instruction '{name}'"
  | overridesVariable name => s!"Cannot override predefined variable '{name}'"
  | notFound path => s!"Extension not found: {path}"
  | notLoadable path => s!"Failed to load extension module: {path}"
  | apiMismatch path version => s!"Extension {path} requires API {version}, host supports 1"
  | notRegistering path => s!"Extension {path} must define callable mrt_register(ext)"
  | pointerNotFound path => s!".mrtx file not found: {path}"

end ExtensionFault

/-- An instruction: its name, how many arguments it takes, and what it does. -/
structure Spec (α : Type) where
  name : String
  minArgs : Int
  maxArgs : Option Int
  action : α
  doc : String
  origin : String
deriving Repr

namespace Spec

def arityProblem? {α : Type} (spec : Spec α) (supplied : Int) : Option String :=
  if supplied < spec.minArgs then some s!"{spec.name} expects at least {spec.minArgs} arguments"
  else
    match spec.maxArgs with
    | some most =>
        if supplied > most then some s!"{spec.name} expects at most {most} arguments" else none
    | none => none

end Spec

/-- Instructions under their names in upper case, in the order of their registration. -/
structure InstructionTable (α : Type) where
  entries : List (String × Spec α)
  named : ∀ entry ∈ entries, entry.1 = Text.upper entry.2.name
deriving Repr

namespace InstructionTable

variable {α : Type}

def empty : InstructionTable α := ⟨[], nofun⟩

instance : Inhabited (InstructionTable α) := ⟨empty⟩

def get? (table : InstructionTable α) (name : String) : Option (Spec α) :=
  table.entries.lookup (Text.upper name)

def has (table : InstructionTable α) (name : String) : Bool :=
  (table.get? name).isSome

def names (table : InstructionTable α) : List String :=
  table.entries.map Prod.fst

def size (table : InstructionTable α) : Nat :=
  table.entries.length

def put (name : String) (spec : Spec α) : List (String × Spec α) → List (String × Spec α)
  | [] => [(name, spec)]
  | entry :: rest =>
      if entry.1 == name then (name, spec) :: rest else entry :: put name spec rest

theorem mem_put {name : String} {spec : Spec α} {entries : List (String × Spec α)}
    {entry : String × Spec α} (member : entry ∈ put name spec entries) :
    entry = (name, spec) ∨ entry ∈ entries := by
  induction entries with
  | nil => exact .inl (List.mem_singleton.mp member)
  | cons first rest ih =>
      unfold put at member
      split at member
      · exact (List.mem_cons.mp member).imp_right (List.mem_cons_of_mem first)
      · rcases List.mem_cons.mp member with rfl | later
        · exact .inr List.mem_cons_self
        · exact (ih later).imp_right (List.mem_cons_of_mem first)

/-- Adds an instruction; a name that is taken is refused unless it may be overridden. -/
def register (table : InstructionTable α) (spec : Spec α) (override : Bool) :
    Except ExtensionFault (InstructionTable α) :=
  let name := Text.upper spec.name
  if name.isEmpty then .error .emptyInstructionName
  else if table.has spec.name && !override then .error (.instructionDefined name)
  else .ok ⟨put name spec table.entries, fun entry member => by
    rcases mem_put member with rfl | listed
    · rfl
    · exact table.named entry listed⟩

end InstructionTable

end LineScript
