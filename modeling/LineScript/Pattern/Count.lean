import LineScript.Pattern.Match

/-!
Searching a text for the matches of a pattern, one after the other, and counting them.
-/

namespace LineScript.Pattern

/-- The number of steps after which a match is given up; no run takes as many. -/
def stepLimit : Nat := Number.pow2 62

namespace Compiled

def matchAt? (pattern : Compiled) (text : Array Char) (start : Nat) (nonempty : Bool) :
    Option Track :=
  let track : Track := ⟨start, Array.replicate (2 * pattern.groups) none, 0⟩
  Machine.run ⟨text, start, nonempty⟩ stepLimit
    { control := .follow pattern.code start [], track }

def mayStart (pattern : Compiled) (text : Array Char) (start : Nat) : Bool :=
  match pattern.entry with
  | .within chars => (Single.set chars).acceptsAt text start
  | _ => true

/-- The first match that starts at one of the `count` positions from `start` on, with its start. -/
def firstMatch? (pattern : Compiled) (text : Array Char) :
    (count : Nat) → (start : Nat) → (nonempty : Bool) → Option (Nat × Track)
  | 0, _, _ => none
  | count + 1, start, nonempty =>
      match if pattern.mayStart text start then pattern.matchAt? text start nonempty else none with
      | some track => some (start, track)
      | none => pattern.firstMatch? text count (start + 1) false

/-- The first match from a position on, with its start. Nothing is tried where too few characters
are left for a match. -/
def search? (pattern : Compiled) (text : Array Char) (start : Nat) (nonempty : Bool) :
    Option (Nat × Track) :=
  let room := text.size - start
  if room < pattern.least then none
  else
    match pattern.entry with
    | .anywhere => pattern.firstMatch? text (room - (pattern.least - 1) + 1) start nonempty
    | _ => pattern.firstMatch? text (room + 1) start false

/-- The number of matches from a position on, after `found` others. After a match without
characters the next one at the same place must have some. -/
def countFrom (pattern : Compiled) (text : Array Char) :
    (fuel : Nat) → (start : Nat) → (nonempty : Bool) → (found : Nat) → Except Fault Nat
  | 0, _, _, found => .ok found
  | fuel + 1, start, nonempty, found =>
      match pattern.search? text start nonempty with
      | none => .ok found
      | some (first, track) =>
          if (List.range pattern.groups).any track.isCrossed then
            .error (.unusable ("The span of capturing group is wrong, please report a bug for " ++
              "the re module."))
          else
            pattern.countFrom text fuel track.position (track.position == first) (found + 1)

/-- The number of matches of a pattern in a text. Every second match at least goes further than
the one before. -/
def count (pattern : Compiled) (text : String) : Except Fault Nat :=
  let chars := text.toList.toArray
  pattern.countFrom chars (2 * chars.size + 3) 0 false 0

end Compiled

def countMatches (pattern text : String) : Except Fault Nat := do
  (← parse pattern).compiled.count text

end LineScript.Pattern
