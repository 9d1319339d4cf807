/-!
A queue of texts, kept as two lists so that both ends are at hand.
-/

namespace LineScript

/-- The items at the front, first one first, and the items at the back, last one first. -/
structure Queue where
  front : List String
  back : List String
deriving DecidableEq, Repr, Inhabited

namespace Queue

def empty : Queue := ⟨[], []⟩

def toList (queue : Queue) : List String :=
  queue.front ++ queue.back.reverse

def size (queue : Queue) : Nat :=
  queue.front.length + queue.back.length

def push (queue : Queue) (value : String) : Queue :=
  { queue with back := value :: queue.back }

def pop? (queue : Queue) : Option (String × Queue) :=
  match queue.front with
  | value :: rest => some (value, { queue with front := rest })
  | [] =>
      match queue.back.reverse with
      | value :: rest => some (value, ⟨rest, []⟩)
      | [] => none

theorem toList_of_pop? {queue rest : Queue} {value : String}
    (popped : queue.pop? = some (value, rest)) : queue.toList = value :: rest.toList := by
  cases queue with
  | mk front back =>
      cases front with
      | cons first others =>
          simp only [pop?, Option.some.injEq, Prod.mk.injEq] at popped
          obtain ⟨rfl, rfl⟩ := popped
          simp [toList]
      | nil =>
          cases order : back.reverse with
          | nil => simp [pop?, order] at popped
          | cons first others =>
              simp only [pop?, order, Option.some.injEq, Prod.mk.injEq] at popped
              obtain ⟨rfl, rfl⟩ := popped
              simp [toList, order]

end Queue

end LineScript
