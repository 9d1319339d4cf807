/-!
A stack of texts.
-/

namespace LineScript

structure Stack where
  items : List String
deriving DecidableEq, Repr, Inhabited

namespace Stack

def empty : Stack := ⟨[]⟩

def toList (stack : Stack) : List String :=
  stack.items.reverse

def size (stack : Stack) : Nat :=
  stack.items.length

def push (stack : Stack) (value : String) : Stack :=
  ⟨value :: stack.items⟩

def pop? (stack : Stack) : Option (String × Stack) :=
  match stack.items with
  | [] => none
  | value :: rest => some (value, ⟨rest⟩)

theorem toList_of_pop? {stack rest : Stack} {value : String}
    (popped : stack.pop? = some (value, rest)) : stack.toList = rest.toList ++ [value] := by
  cases stack with
  | mk items =>
      cases items with
      | nil => simp [pop?] at popped
      | cons top below =>
          simp only [pop?, Option.some.injEq, Prod.mk.injEq] at popped
          obtain ⟨rfl, rfl⟩ := popped
          simp [toList]

end Stack

end LineScript
