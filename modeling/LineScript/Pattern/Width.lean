import LineScript.Number.Power
import LineScript.Pattern.Basic

/-!
How many characters a pattern can take, at least and at most. A pattern that looks behind must
always take the same number.
-/

namespace LineScript.Pattern

/-- The greatest number of rounds that can be asked for, and one more. -/
def repeatLimit : Nat := Number.pow2 32 - 1

/-- The least and the greatest number of characters. -/
structure Width where
  least : Nat
  most : Nat
deriving DecidableEq, Repr, Inhabited

namespace Width

def zero : Width := ⟨0, 0⟩

def one : Width := ⟨1, 1⟩

def append (a b : Width) : Width :=
  ⟨a.least + b.least, a.most + b.most⟩

def either (a b : Width) : Width :=
  ⟨min a.least b.least, max a.most b.most⟩

def unmatched : Width := ⟨repeatLimit - 1, 0⟩

/-- The width of a repetition; one without an end counts as `repeatLimit` rounds. -/
def times (width : Width) (least : Nat) (most : Option Nat) : Width :=
  ⟨width.least * least, width.most * most.getD repeatLimit⟩

def clamp (width : Width) : Width :=
  ⟨min width.least (repeatLimit - 1), min width.most repeatLimit⟩

end Width

mutual

def Node.width (groups : Array (Option Width)) : Node → Width
  | .char _ | .notChar _ | .any | .set _ _ => .one
  | .anchor _ | .look _ _ _ => .zero
  | .branch alternatives => widthOfAny groups alternatives
  | .group _ _ _ body => widthOf groups body
  | .rep _ least most body => (widthOf groups body).times least most
  | .atomic body => widthOf groups body
  | .backref index => (groups.getD index none).getD .zero
  | .conditional _ yes no => (widthOf groups yes).either (widthOf groups no)

def widthSum (groups : Array (Option Width)) : List Node → Width
  | [] => .zero
  | node :: rest => (node.width groups).append (widthSum groups rest)

def widthOf (groups : Array (Option Width)) : List Node → Width
  | [] => .zero
  | node :: rest => ((node.width groups).append (widthSum groups rest)).clamp

def widthOfAny (groups : Array (Option Width)) : List (List Node) → Width
  | [] => .unmatched
  | items :: rest => (widthOf groups items).either (widthOfAny groups rest)

end

mutual

def Node.problem? (groups : Array (Option Width)) (template : Bool) : Node → Option Fault
  | .branch alternatives => problemOfAny? groups template alternatives
  | .group _ _ _ body => problem? groups template body
  | .rep greed _ _ body =>
      if template then
        let name :=
          match greed with
          | .greedy => "MAX_REPEAT"
          | .lazy => "MIN_REPEAT"
          | .possessive => "POSSESSIVE_REPEAT"
        some (.malformed s!"internal: unsupported template operator {name}" none)
      else problem? groups template body
  | .atomic body => problem? groups template body
  | .look ahead _ body =>
      let width := widthOf groups body
      if !ahead && width.least != width.most then
        some (.malformed "look-behind requires fixed-width pattern" none)
      else problem? groups template body
  | .conditional _ yes no => (problem? groups template yes).or (problem? groups template no)
  | .char _ | .notChar _ | .any | .set _ _ | .anchor _ | .backref _ => none

def problem? (groups : Array (Option Width)) (template : Bool) : List Node → Option Fault
  | [] => none
  | node :: rest => (node.problem? groups template).or (problem? groups template rest)

def problemOfAny? (groups : Array (Option Width)) (template : Bool) :
    List (List Node) → Option Fault
  | [] => none
  | items :: rest => (problem? groups template items).or (problemOfAny? groups template rest)

end

def reachLimit : Nat := Number.pow2 31

mutual

def Node.looksTooFar (groups : Array (Option Width)) : Node → Bool
  | .branch alternatives => anyLooksTooFar groups alternatives
  | .group _ _ _ body => looksTooFar groups body
  | .rep _ _ _ body => looksTooFar groups body
  | .atomic body => looksTooFar groups body
  | .look ahead _ body =>
      (!ahead && (widthOf groups body).least ≥ reachLimit) || looksTooFar groups body
  | .conditional _ yes no => looksTooFar groups yes || looksTooFar groups no
  | .char _ | .notChar _ | .any | .set _ _ | .anchor _ | .backref _ => false

def looksTooFar (groups : Array (Option Width)) : List Node → Bool
  | [] => false
  | node :: rest => node.looksTooFar groups || looksTooFar groups rest

def anyLooksTooFar (groups : Array (Option Width)) : List (List Node) → Bool
  | [] => false
  | items :: rest => looksTooFar groups items || anyLooksTooFar groups rest

end

end LineScript.Pattern
