import LineScript.Pattern.CaseClass
import LineScript.Pattern.Escape
import LineScript.Text.Blank
import LineScript.Text.Digit
import LineScript.Text.Letter

/-!
What a pattern asks of one character: to be a given one, any one, or a member of a set. When case is
ignored the lower case of the character is compared, with letters of the pattern that are in lower
case as well; only code points up to `foldedLimit` are brought into that form inside of sets.
-/

namespace LineScript.Pattern

def Category.contains (category : Category) (ascii : Bool) (code : Nat) : Bool :=
  let c := Char.ofNat code
  match category with
  | .digit => if ascii then isDecimal c else Text.isDigit c
  | .space => if ascii then c == ' ' || (9 ≤ code && code ≤ 13) else Text.isBlank c
  | .word =>
      c == '_' || (if ascii then Text.isAsciiAlphanumeric c else Text.isAlphanumeric c)

def foldedLimit : Nat := 0xFFFF

/-- A part of a set as it is compared with a code point. -/
inductive Member where
  | range (low high : Nat)
  /-- A class of characters, or what is outside of it. -/
  | category (category : Category) (negated ascii : Bool)
  /-- The letters that count as one of a range, given in lower case. -/
  | folded (fold : Fold) (low high : Nat)
  /-- The letters that are in a range themselves or with their upper case. -/
  | eitherCase (low high : Nat)
deriving DecidableEq, Repr

namespace Member

def contains (code : Nat) : Member → Bool
  | range low high => low ≤ code && code ≤ high
  | category kind negated ascii => kind.contains ascii code != negated
  | folded fold low high =>
      (code :: fold.partners code).any fun letter =>
        (fold.sources letter).any fun source =>
          low ≤ source && source ≤ min high foldedLimit
  | eitherCase low high =>
      let upper := simpleUpper code
      (low ≤ code && code ≤ high) || (low ≤ upper && upper ≤ high)

end Member

/-- A set of code points: those of its parts, or all others. -/
structure CharSet where
  negated : Bool
  members : List Member
deriving DecidableEq, Repr

namespace CharSet

def contains (set : CharSet) (code : Nat) : Bool :=
  set.members.any (·.contains code) != set.negated

end CharSet

namespace SetItem

def member (ascii : Bool) : SetItem → Member
  | char code => .range code code
  | range low high => .range low high
  | category kind negated => .category kind negated ascii

def foldedMembers (ascii : Bool) (fold : Fold) : SetItem → List Member
  | char code => if code ≤ foldedLimit then [.folded fold code code] else [.range code code]
  | range low high =>
      if high ≤ foldedLimit then [.folded fold low high]
      else [.folded fold low high, .eitherCase low high]
  | category kind negated => [.category kind negated ascii]

def needsFold (fold : Fold) : SetItem → Bool
  | char code => code > foldedLimit || fold.isCased code
  | range low high => high > foldedLimit || fold.meetsCased low high
  | category _ _ => false

end SetItem

inductive Single where
  | char (code : Nat)
  | notChar (code : Nat)
  | any
  | notNewline
  | set (chars : CharSet)
  /-- A letter, given in lower case, or with `negated` any other character. -/
  | foldedChar (fold : Fold) (negated : Bool) (code : Nat)
  | foldedSet (fold : Fold) (chars : CharSet)
deriving DecidableEq, Repr

namespace Single

def accepts (code : Nat) : Single → Bool
  | char wanted => wanted == code
  | notChar wanted => wanted != code
  | any => true
  | notNewline => code != 10
  | set chars => chars.contains code
  | foldedChar fold negated wanted => (fold.lower code == wanted) != negated
  | foldedSet fold chars => chars.contains (fold.lower code)

def acceptsAt (single : Single) (text : Array Char) (position : Nat) : Bool :=
  match text[position]? with
  | some c => single.accepts c.toNat
  | none => false

def isFoldedSet : Single → Bool
  | foldedSet _ _ => true
  | _ => false

/-- The end of the row of up to `room` characters, from a position on, that are as asked. -/
def rowEnd (single : Single) (text : Array Char) : (room : Nat) → (position : Nat) → Nat
  | 0, position => position
  | room + 1, position =>
      if single.acceptsAt text position then single.rowEnd text room (position + 1)
      else position

end Single

namespace Flags

def fold? (flags : Flags) : Option Fold :=
  if flags.ignoreCase then some (if flags.unicode then .unicode else .ascii) else Option.none

def isFolded (flags : Flags) (code : Nat) : Bool :=
  flags.fold?.any (·.isCased code)

def singleChar (flags : Flags) (negated : Bool) (code : Nat) : Single :=
  let plain : Single := if negated then .notChar code else .char code
  match flags.fold? with
  | Option.none => plain
  | some fold =>
      if fold.isCased code then
        let lower := fold.lower code
        match fold.partners lower with
        | [] => .foldedChar fold negated lower
        | partners =>
            .foldedSet fold ⟨negated, (lower :: partners).map fun letter => .range letter letter⟩
      else plain

def charSet (flags : Flags) (negated : Bool) (items : List SetItem) : CharSet :=
  ⟨negated, items.map (·.member (!flags.unicode))⟩

def singleSet (flags : Flags) (negated : Bool) (items : List SetItem) : Single :=
  match flags.fold? with
  | Option.none => .set (flags.charSet negated items)
  | some fold =>
      if items.any (·.needsFold fold) then
        .foldedSet fold ⟨negated, items.flatMap (·.foldedMembers (!flags.unicode) fold)⟩
      else .set (flags.charSet negated items)

end Flags

def Node.single? (flags : Flags) : Node → Option Single
  | .char code => some (flags.singleChar false code)
  | .notChar code => some (flags.singleChar true code)
  | .any => some (if flags.dotAll then .any else .notNewline)
  | .set negated items => some (flags.singleSet negated items)
  | _ => none

/-- What a pattern asks of one character, if that is all it does; groups that only change options
may stand around it. -/
def single? (flags : Flags) : List Node → Option Single
  | [.group none on off body] => single? (flags.within on off) body
  | [node] => node.single? flags
  | _ => none

end LineScript.Pattern
