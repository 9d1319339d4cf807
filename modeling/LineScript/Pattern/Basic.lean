/-!
Patterns: what they are made of, the options that change their meaning, and the ways in which a
pattern text can be wrong.
-/

namespace LineScript.Pattern

/-- Options, which hold for a whole pattern or for a group. -/
structure Flags where
  ignoreCase : Bool := false
  multiline : Bool := false
  dotAll : Bool := false
  verbose : Bool := false
  ascii : Bool := false
  unicode : Bool := false
  locale : Bool := false
  template : Bool := false
deriving DecidableEq, Repr, Inhabited

namespace Flags

def none : Flags := {}

def union (a b : Flags) : Flags :=
  ⟨a.ignoreCase || b.ignoreCase, a.multiline || b.multiline, a.dotAll || b.dotAll,
    a.verbose || b.verbose, a.ascii || b.ascii, a.unicode || b.unicode, a.locale || b.locale,
    a.template || b.template⟩

def inter (a b : Flags) : Flags :=
  ⟨a.ignoreCase && b.ignoreCase, a.multiline && b.multiline, a.dotAll && b.dotAll,
    a.verbose && b.verbose, a.ascii && b.ascii, a.unicode && b.unicode, a.locale && b.locale,
    a.template && b.template⟩

def minus (a b : Flags) : Flags :=
  ⟨a.ignoreCase && !b.ignoreCase, a.multiline && !b.multiline, a.dotAll && !b.dotAll,
    a.verbose && !b.verbose, a.ascii && !b.ascii, a.unicode && !b.unicode,
    a.locale && !b.locale, a.template && !b.template⟩

def isNone (flags : Flags) : Bool :=
  flags == none

def alphabet (flags : Flags) : Flags :=
  { ascii := flags.ascii, unicode := flags.unicode, locale := flags.locale }

/-- The options of a whole pattern: without another choice the alphabet is that of all scripts. -/
def completed (flags : Flags) : Flags :=
  { flags with unicode := flags.unicode || !flags.ascii }

def within (flags on off : Flags) : Flags :=
  let base := if on.alphabet.isNone then flags else flags.minus flags.alphabet
  (base.union on).minus off

def ofLetter? (c : Char) : Option Flags :=
  if c == 'i' then some { ignoreCase := true }
  else if c == 'L' then some { locale := true }
  else if c == 'm' then some { multiline := true }
  else if c == 's' then some { dotAll := true }
  else if c == 'x' then some { verbose := true }
  else if c == 'a' then some { ascii := true }
  else if c == 't' then some { template := true }
  else if c == 'u' then some { unicode := true }
  else Option.none

end Flags

inductive Category where
  | digit
  | space
  | word
deriving DecidableEq, Repr

inductive SetItem where
  | char (code : Nat)
  | range (low high : Nat)
  | category (category : Category) (negated : Bool)
deriving DecidableEq, Repr

inductive Anchor where
  | lineStart
  | textStart
  | lineEnd
  | textEnd
  | boundary
  | noBoundary
deriving DecidableEq, Repr

/-- How a repetition chooses the number of rounds. -/
inductive Greed where
  | greedy
  | lazy
  | possessive
deriving DecidableEq, Repr

/-- One item of a pattern. Patterns are lists of items, which match one after the other. -/
inductive Node where
  | char (code : Nat)
  | notChar (code : Nat)
  | any
  | set (negated : Bool) (items : List SetItem)
  | anchor (anchor : Anchor)
  | branch (alternatives : List (List Node))
  | group (index : Option Nat) (on off : Flags) (body : List Node)
  | rep (greed : Greed) (least : Nat) (most : Option Nat) (body : List Node)
  | atomic (body : List Node)
  | look (ahead positive : Bool) (body : List Node)
  | backref (index : Nat)
  | conditional (index : Nat) (yes no : List Node)
deriving Repr, Inhabited

namespace Node

def isSameLeaf : Node → Node → Bool
  | char a, char b => a == b
  | notChar a, notChar b => a == b
  | any, any => true
  | set negatedA a, set negatedB b => negatedA == negatedB && a == b
  | anchor a, anchor b => a == b
  | backref a, backref b => a == b
  | _, _ => false

/-- The parts of a set that an item stands for, if it is a character or a set that is not
negated. -/
def setItems? : Node → Option (List SetItem)
  | char code => some [.char code]
  | set false items => some items
  | _ => none

/-- The items that a group stands for by itself: those inside, if it neither captures nor changes
an option. -/
def unpacked : Node → List Node
  | group none on off body => if on.isNone && off.isNone then body else [group none on off body]
  | node => [node]

end Node

/-- Splits alternatives into the items with which all of them start and what is left of each. -/
def commonStart : List Node → List (List Node) → List Node × List (List Node)
  | [], others => ([], [] :: others)
  | first :: rest, others =>
      if others.all fun items => items.head?.any first.isSameLeaf then
        let (start, remaining) := commonStart rest (others.map List.tail)
        (first :: start, remaining)
      else ([], (first :: rest) :: others)

def setItems? : List Node → Option (List SetItem)
  | [node] => node.setItems?
  | _ => none

def mergedSet? (alternatives : List (List Node)) : Option (List SetItem) :=
  (alternatives.mapM setItems?).map fun (parts : List (List SetItem)) => parts.flatten.eraseDups

/-- Any of the patterns, earlier ones first. What all start with is taken out, and alternatives of
one character each become a set. -/
def anyOf : List (List Node) → List Node
  | [] => []
  | [items] => items
  | first :: others =>
      let (start, rest) := commonStart first others
      match mergedSet? rest with
      | some items => start ++ [.set false items]
      | none => start ++ [.branch rest]

inductive Fault where
  /-- The text is no pattern; the position is known unless the pattern is well formed. -/
  | malformed (text : String) (position : Option Nat)
  /-- A number in the pattern is beyond all limits, or its options contradict each other. -/
  | unusable (text : String)
deriving DecidableEq, Repr

end LineScript.Pattern
