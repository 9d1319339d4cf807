import LineScript.Number.Shortest
import LineScript.Text.Quote

/-!
Constants that an extension module declares, such as the version of the interface it was written
for. They can be of any kind, and are compared and shown.
-/

namespace LineScript

inductive Constant where
  | none
  | bool (value : Bool)
  | int (value : Int)
  | float (value : Number.Binary64)
  | text (value : String)
  | list (values : List Constant)
  | table (entries : List (String × Constant))

namespace Constant

/-- Whether a constant equals the number one; a truth value counts as a number. -/
def isOne : Constant → Bool
  | bool value => value
  | int value => value == 1
  | float value => value.le (.finite false 1 0) && Number.Binary64.le (.finite false 1 0) value
  | _ => false

mutual

def shown : Constant → String
  | .none => "None"
  | .bool value => if value then "True" else "False"
  | .int value => toString value
  | .float value => value.shortest
  | .text value => Text.quoted value
  | .list values => "[" ++ ", ".intercalate (shownAll values) ++ "]"
  | .table entries => "\x7b" ++ ", ".intercalate (shownEntries entries) ++ "\x7d"

def shownAll : List Constant → List String
  | [] => []
  | value :: rest => shown value :: shownAll rest

def shownEntries : List (String × Constant) → List String
  | [] => []
  | (name, value) :: rest => (Text.quoted name ++ ": " ++ shown value) :: shownEntries rest

end

/-- A constant as a text: a text as it is, anything else as it is written. -/
def render : Constant → String
  | text value => value
  | value => value.shown

end Constant

end LineScript
