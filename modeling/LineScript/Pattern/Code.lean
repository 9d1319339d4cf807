import LineScript.Pattern.Parse
import LineScript.Pattern.Single

/-!
Patterns as they are matched. Code says at each point what is asked of the text and where matching
goes on, so the code of an item holds the code of everything after it.
-/

namespace LineScript.Pattern

inductive Place where
  | textStart
  | lineStart
  | textEnd
  /-- The end of the text, or the line break that ends it. -/
  | lastLineEnd
  | lineEnd
  | boundary (ascii : Bool)
  | noBoundary (ascii : Bool)
deriving DecidableEq, Repr

namespace Place

def wordAt (ascii : Bool) (text : Array Char) (position : Nat) : Bool :=
  match text[position]? with
  | some c => Category.word.contains ascii c.toNat
  | none => false

def betweenWords (ascii : Bool) (text : Array Char) (position : Nat) : Bool :=
  (position != 0 && wordAt ascii text (position - 1)) != wordAt ascii text position

/-- Whether a position is such a place. An empty text has neither boundaries nor places between
them. -/
def holds (text : Array Char) (position : Nat) : Place → Bool
  | textStart => position == 0
  | lineStart => position == 0 || text[position - 1]? == some '\n'
  | textEnd => position == text.size
  | lastLineEnd =>
      position == text.size || (text[position]? == some '\n' && position + 1 == text.size)
  | lineEnd => position == text.size || text[position]? == some '\n'
  | boundary ascii => text.size != 0 && betweenWords ascii text position
  | noBoundary ascii => text.size != 0 && !betweenWords ascii text position

end Place

def Anchor.place (flags : Flags) : Anchor → Place
  | .textStart => .textStart
  | .lineStart => if flags.multiline then .lineStart else .textStart
  | .textEnd => .textEnd
  | .lineEnd => if flags.multiline then .lineEnd else .lastLineEnd
  | .boundary => .boundary (!flags.unicode)
  | .noBoundary => .noBoundary (!flags.unicode)

inductive Code where
  | accept
  /-- A pattern that is matched by itself inside of another one has matched. -/
  | done
  | single (single : Single) (next : Code)
  | place (place : Place) (next : Code)
  | mark (index : Nat) (next : Code)
  | leave (next : Code)
  | branch (alternatives : List Code)
  | look (positive : Bool) (back : Nat) (body next : Code)
  | backref (fold : Option Fold) (group : Nat) (next : Code)
  | ifGroup (group : Nat) (yes no : Code)
  | atomic (body next : Code)
  | row (greed : Greed) (least : Nat) (most : Option Nat) (single : Single) (next : Code)
  /-- A repetition; `ending` stands at the end of its body too. -/
  | loop (least : Nat) (most : Option Nat) (body ending : Code)
  /-- The end of a round, after which another round is better than going on. -/
  | greedyEnd (next : Code)
  /-- The end of a round, after which going on is better than another round. -/
  | lazyEnd (next : Code)
  | possessive (least : Nat) (most : Option Nat) (body next : Code)
deriving Inhabited

namespace Code

def fixedChar? : Code → Option Nat
  | single (.char code) _ => some code
  | _ => none

def isBarredAt (text : Array Char) (position : Nat) : Code → Bool
  | single (.char code) _ => !(Single.char code).acceptsAt text position
  | single (.set chars) _ => !(Single.set chars).acceptsAt text position
  | _ => false

end Code

mutual

def Node.code (groups : Array (Option Width)) (flags : Flags) (next : Code) : Node → Code
  | .char code => .single (flags.singleChar false code) next
  | .notChar code => .single (flags.singleChar true code) next
  | .any => .single (if flags.dotAll then .any else .notNewline) next
  | .set negated items => .single (flags.singleSet negated items) next
  | .anchor anchor => .place (anchor.place flags) next
  | .branch alternatives => .branch (codes groups flags (.leave next) alternatives)
  | .group none on off body => code groups (flags.within on off) next body
  | .group (some index) on off body =>
      let first := 2 * (index - 1)
      .mark first (code groups (flags.within on off) (.mark (first + 1) next) body)
  | .rep greed least most body =>
      match single? flags body, greed with
      | some single, _ => .row greed least most single next
      | none, .greedy =>
          .loop least most (code groups flags (.greedyEnd next) body) (.greedyEnd next)
      | none, .lazy => .loop least most (code groups flags (.lazyEnd next) body) (.lazyEnd next)
      | none, .possessive => .possessive least most (code groups flags .done body) next
  | .atomic body => .atomic (code groups flags .done body) next
  | .look ahead positive body =>
      let back := if ahead then 0 else (widthOf groups body).least
      .look positive back (code groups flags .done body) next
  | .backref index => .backref flags.fold? (index - 1) next
  | .conditional index yes no =>
      let after := if no.isEmpty then next else .leave next
      .ifGroup (index - 1) (code groups flags after yes) (code groups flags next no)

def code (groups : Array (Option Width)) (flags : Flags) (next : Code) : List Node → Code
  | [] => next
  | node :: rest => node.code groups flags (code groups flags next rest)

def codes (groups : Array (Option Width)) (flags : Flags) (next : Code) :
    List (List Node) → List Code
  | [] => []
  | items :: rest => code groups flags next items :: codes groups flags next rest

end

mutual

/-- Whether an item starts with a fixed character; `none` if it is empty. -/
def Node.startsFixed? (flags : Flags) : Node → Option Bool
  | .char code => some (!flags.isFolded code)
  | .group _ on off body => startsFixed? (flags.within on off) body
  | _ => some false

/-- Whether a pattern starts with a fixed character; `none` if it is empty. -/
def startsFixed? (flags : Flags) : List Node → Option Bool
  | [] => none
  | node :: rest => (node.startsFixed? flags).or (startsFixed? flags rest)

end

namespace SetItem

/-- Whether a part of a set holds letters that count as others, or may hold some. -/
def isFolded (fold : Fold) : SetItem → Bool
  | char code => fold.isCased code
  | range low high => high > foldedLimit || fold.meetsCased low high
  | category _ _ => false

end SetItem

def firstChar? (flags : Flags) : List Node → Option SetItem
  | .char code :: _ => if flags.isFolded code then none else some (.char code)
  | _ => none

def firstSet? (flags : Flags) : List Node → Option (Bool × List SetItem)
  | .group _ on off body :: _ => firstSet? (flags.within on off) body
  | .branch alternatives :: _ =>
      (alternatives.mapM (firstChar? flags)).map fun items => (false, items)
  | .set negated items :: _ =>
      if flags.fold?.any fun fold => items.any (·.isFolded fold) then none
      else some (negated, items)
  | _ => none

/-- What is known of the places at which a match can start. -/
inductive Entry where
  | anywhere
  | fixed
  | within (chars : CharSet)

structure Compiled where
  code : Code
  least : Nat
  entry : Entry
  groups : Nat

namespace Parsed

/-- What is known of the places at which a match can start. The set of first characters is read
with the options of the whole pattern, whatever groups around it change. -/
def entry (parsed : Parsed) : Entry :=
  if (widthOf parsed.groups parsed.nodes).least == 0 then .anywhere
  else if (startsFixed? parsed.flags parsed.nodes).getD false then .fixed
  else
    match firstSet? parsed.flags parsed.nodes with
    | some (negated, items) => .within (parsed.flags.charSet negated items)
    | none => .anywhere

def compiled (parsed : Parsed) : Compiled where
  code := code parsed.groups parsed.flags .accept parsed.nodes
  least := (widthOf parsed.groups parsed.nodes).least
  entry := parsed.entry
  groups := parsed.groups.size - 1

end Parsed

end LineScript.Pattern
