import LineScript.Text.Quote

/-!
Structured texts: values nested in lists and objects, written with one item per line and two spaces
for each level.
-/

namespace LineScript

inductive Json where
  | null
  | int (value : Int)
  | text (value : String)
  | list (items : List Json)
  | object (members : List (String × Json))

namespace Json

def lineBreak (level : Nat) : String :=
  String.ofList ('\n' :: List.replicate (2 * level) ' ')

/-- Items between brackets, each on a line of its own; without items the brackets close at
once. -/
def enclose (opening closing : String) (level : Nat) (items : List String) : String :=
  if items.isEmpty then opening ++ closing
  else
    let separator := "," ++ lineBreak (level + 1)
    opening ++ lineBreak (level + 1) ++ separator.intercalate items ++ lineBreak level ++ closing

mutual

def renderFrom (level : Nat) : Json → String
  | null => "null"
  | int value => toString value
  | text value => Text.jsonQuoted value
  | list items => enclose "[" "]" level (renderItems (level + 1) items)
  | object members => enclose "\x7b" "\x7d" level (renderMembers (level + 1) members)

def renderItems (level : Nat) : List Json → List String
  | [] => []
  | item :: rest => renderFrom level item :: renderItems level rest

def renderMembers (level : Nat) : List (String × Json) → List String
  | [] => []
  | (name, value) :: rest =>
      (Text.jsonQuoted name ++ ": " ++ renderFrom level value) :: renderMembers level rest

end

def render (value : Json) : String :=
  renderFrom 0 value

end Json

end LineScript
