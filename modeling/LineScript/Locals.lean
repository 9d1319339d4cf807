/-!
The variables of a frame: names with their values, in the order in which they were declared.
Assigning to a name keeps its place; a name that is removed and declared again comes last.
-/

namespace LineScript

def nullText : String := "NULL"

/-- Variables with their values, in the order of their declaration. -/
structure Locals where
  entries : List (String × String)
deriving DecidableEq, Repr, Inhabited

namespace Locals

def empty : Locals := ⟨[]⟩

def names (locals : Locals) : List String :=
  locals.entries.map Prod.fst

def get? (locals : Locals) (name : String) : Option String :=
  locals.entries.lookup name

def has (locals : Locals) (name : String) : Bool :=
  (locals.get? name).isSome

/-- Changes the value in the entry of a name, or adds an entry at the end. -/
def put (name value : String) : List (String × String) → List (String × String)
  | [] => [(name, value)]
  | entry :: rest =>
      if entry.1 == name then (name, value) :: rest else entry :: put name value rest

def insert (locals : Locals) (name value : String) : Locals :=
  ⟨put name value locals.entries⟩

def erase (locals : Locals) (name : String) : Locals :=
  ⟨locals.entries.filter fun entry => entry.1 != name⟩

def ofList (entries : List (String × String)) : Locals :=
  entries.foldl (fun locals entry => locals.insert entry.1 entry.2) empty

theorem lookup_put (name value other : String) (entries : List (String × String)) :
    (put name value entries).lookup other =
      if other == name then some value else entries.lookup other := by
  induction entries with
  | nil => cases same : other == name <;> simp [put, List.lookup_cons, same]
  | cons entry rest ih =>
      obtain ⟨key, old⟩ := entry
      by_cases found : key = name
      · subst found
        cases same : other == key <;> simp [put, List.lookup_cons, same]
      · cases here : other == key with
        | true =>
            have different : ¬ other = name := fun same => found (by simp_all)
            simp [put, found, List.lookup_cons, here, different]
        | false => simp [put, found, List.lookup_cons, here, ih]

theorem get?_insert (locals : Locals) (name value other : String) :
    (locals.insert name value).get? other =
      if other == name then some value else locals.get? other :=
  lookup_put name value other locals.entries

end Locals

end LineScript
