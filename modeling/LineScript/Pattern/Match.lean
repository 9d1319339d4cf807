import LineScript.Pattern.Code

/-!
Matching by backtracking. A machine follows the code of a pattern through a text. Where there is
more than one way to go on it takes the first and puts the others down as choices; when it fails it
takes up the latest choice. A pattern that is matched by itself inside of another, such as the body
of a look ahead, is a level of its own: once it has matched, its choices are forgotten.

Besides the position in the code the machine keeps a track, which failure does not undo by itself:
the marks of the groups and the position noted last. A choice restores how many marks count; the
marks themselves it restores only inside of a repetition, where a group can be marked again. The
noted position is where a possessive repetition goes on after its last round.
-/

namespace LineScript.Pattern

structure Track where
  position : Nat
  marks : Array (Option Nat)
  used : Nat
deriving Inhabited

namespace Track

def mark (track : Track) (index position : Nat) : Track :=
  let cleared :=
    (List.range' track.used (index - track.used)).foldl
      (fun marks between => marks.setIfInBounds between none) track.marks
  { track with
    marks := cleared.setIfInBounds index (some position), used := max track.used (index + 1) }

def group? (track : Track) (group : Nat) : Option (Nat × Nat) :=
  if 2 * group + 1 < track.used then
    match track.marks.getD (2 * group) none, track.marks.getD (2 * group + 1) none with
    | some first, some last => if last < first then none else some (first, last)
    | _, _ => none
  else none

def isCrossed (track : Track) (group : Nat) : Bool :=
  2 * group + 1 < track.used &&
    match track.marks.getD (2 * group) none, track.marks.getD (2 * group + 1) none with
    | some first, some last => last < first
    | _, _ => false

end Track

/-- The marks as they were when a choice was put down. -/
structure Saved where
  marks : Array (Option Nat)
  used : Nat
  whole : Bool

namespace Saved

def ofTrack (track : Track) (whole : Bool) : Saved :=
  ⟨track.marks, track.used, whole⟩

def restore (saved : Saved) (track : Track) : Track :=
  { track with
    marks := if saved.whole then saved.marks else track.marks, used := saved.used }

end Saved

structure Loop where
  least : Nat
  most : Option Nat
  body : Code
  rounds : Nat := 0
  last : Option Nat := none

namespace Loop

/-- Whether another round may begin at a position: there may be more, and the last one has taken
some characters. -/
def mayGoOn (loop : Loop) (position : Nat) : Bool :=
  loop.most.all (loop.rounds < ·) && loop.last != some position

def needed (loop : Loop) : Loop :=
  { loop with rounds := loop.rounds + 1 }

def another (loop : Loop) (position : Nat) : Loop :=
  { loop with rounds := loop.rounds + 1, last := some position }

end Loop

/-- What is left to be tried when the way taken fails. -/
inductive Choice where
  | branch (alternatives : List Code) (position : Nat) (loops : List Loop) (saved : Saved)
  | shorter (least count : Nat) (next : Code) (position : Nat) (loops : List Loop) (saved : Saved)
  | longer (most : Option Nat) (count : Nat) (single : Single) (next : Code) (position : Nat)
      (loops : List Loop) (saved : Saved)
  | goOn (next : Code) (position : Nat) (loops : List Loop) (saved : Saved)
  | another (loop : Loop) (position : Nat) (loops : List Loop) (saved : Saved)
  | note (position : Nat)

/-- What a pattern that is matched by itself is needed for. -/
inductive Purpose where
  | look (positive : Bool) (saved : Saved)
  | atomic
  /-- A round of a possessive repetition; it has `saved` marks when it is not needed. -/
  | round (loop : Loop) (saved : Option Saved)

/-- A pattern that is matched by itself, and what was under way around it. -/
structure Level where
  purpose : Purpose
  position : Nat
  next : Code
  loops : List Loop
  choices : List Choice

inductive Control where
  | follow (code : Code) (position : Nat) (loops : List Loop)
  | failed
  | matched

structure Machine where
  control : Control
  track : Track
  choices : List Choice := []
  levels : List Level := []

structure Attempt where
  text : Array Char
  start : Nat
  nonempty : Bool

namespace Machine

def follow (machine : Machine) (code : Code) (position : Nat) (loops : List Loop) : Machine :=
  { machine with control := .follow code position loops }

def fail (machine : Machine) : Machine :=
  { machine with control := .failed }

def followIf (machine : Machine) (condition : Bool) (code : Code) (position : Nat)
    (loops : List Loop) : Machine :=
  if condition then machine.follow code position loops else machine.fail

def note (machine : Machine) (position : Nat) : Machine :=
  { machine with track := { machine.track with position } }

def choose (machine : Machine) (choice : Choice) : Machine :=
  { machine with choices := choice :: machine.choices }

def restore (machine : Machine) (saved : Saved) : Machine :=
  { machine with track := saved.restore machine.track }

def saved (machine : Machine) (loops : List Loop) : Saved :=
  .ofTrack machine.track !loops.isEmpty

def enter (machine : Machine) (purpose : Purpose) (body : Code) (start position : Nat)
    (next : Code) (loops : List Loop) : Machine :=
  let level : Level := ⟨purpose, position, next, loops, machine.choices⟩
  { machine with
    control := .follow body start loops, choices := [], levels := level :: machine.levels }

def tryBranch (machine : Machine) (text : Array Char) (position : Nat) (loops : List Loop)
    (saved : Saved) : List Code → Machine
  | [] => machine.fail
  | code :: rest =>
      if code.isBarredAt text position then machine.tryBranch text position loops saved rest
      else
        ((machine.note position).choose (.branch rest position loops saved)).follow code position
          loops

/-- The greatest number of characters of a row, from `least` to the given one, after which the
wanted character comes. -/
def rowCount? (text : Array Char) (wanted : Option Nat) (least position : Nat) :
    (count : Nat) → Option Nat
  | 0 =>
      if least == 0 && wanted.all fun code => (Single.char code).acceptsAt text position then
        some 0
      else none
  | count + 1 =>
      if count + 1 < least then none
      else if wanted.all fun code => (Single.char code).acceptsAt text (position + count + 1) then
        some (count + 1)
      else rowCount? text wanted least position count

def tryRow (machine : Machine) (text : Array Char) (least count : Nat) (next : Code)
    (position : Nat) (loops : List Loop) (saved : Saved) : Machine :=
  match rowCount? text next.fixedChar? least position count with
  | none => machine.fail
  | some count =>
      ((machine.note (position + count)).choose
        (.shorter least count next position loops saved)).follow next (position + count) loops

/-- Goes on after a row of `count` characters that ends at a position, unless they are too
many. -/
def tryLazyRow (machine : Machine) (most : Option Nat) (count : Nat) (single : Single)
    (next : Code) (position : Nat) (loops : List Loop) (saved : Saved) : Machine :=
  if most.all (count ≤ ·) then
    ((machine.note position).choose
      (.longer most count single next position loops saved)).follow next position loops
  else machine.fail

/-- The position noted after a row has been taken in: its end if the characters were looked up in a
set in lower case, and its start otherwise. -/
def noteRow (machine : Machine) (single : Single) (position rowEnd : Nat) : Machine :=
  machine.note (if single.isFoldedSet then rowEnd else position)

def takeRow (machine : Machine) (text : Array Char) (greed : Greed) (least : Nat)
    (most : Option Nat) (single : Single) (next : Code) (position : Nat) (loops : List Loop) :
    Machine :=
  let room := text.size - position
  if room < least then machine.fail
  else
    let limit :=
      match greed with
      | .lazy => least
      | _ => min room (most.getD room)
    let rowEnd := single.rowEnd text limit position
    let machine := machine.noteRow single position rowEnd
    let count := rowEnd - position
    if count < least then machine.fail
    else
      match greed with
      | .greedy => machine.tryRow text least count next position loops (machine.saved loops)
      | .lazy => machine.tryLazyRow most count single next rowEnd loops (machine.saved loops)
      | .possessive => machine.follow next rowEnd loops

def nextRound (machine : Machine) (loop : Loop) (position : Nat) (next : Code)
    (loops : List Loop) : Machine :=
  let here := machine.track.position
  if loop.rounds < loop.least then
    machine.enter (.round loop.needed none) loop.body here position next loops
  else if loop.mayGoOn here then
    machine.enter (.round (loop.another here) (some (.ofTrack machine.track true))) loop.body here
      position next loops
  else machine.follow next here loops

/-- Whether the text from one position on is the same as from another, over `count` characters. -/
def sameText (text : Array Char) (fold : Option Fold) (first position : Nat) :
    (count : Nat) → Bool
  | 0 => true
  | count + 1 =>
      match text[first]?, text[position]? with
      | some a, some b =>
          let same :=
            match fold with
            | some fold => fold.lower a.toNat == fold.lower b.toNat
            | none => a == b
          same && sameText text fold (first + 1) (position + 1) count
      | _, _ => false

def followCode (machine : Machine) (attempt : Attempt) (position : Nat) (loops : List Loop)
    (code : Code) : Machine :=
  let text := attempt.text
  match code with
  | .accept =>
      if attempt.nonempty && position == attempt.start then machine.fail
      else { machine.note position with control := .matched }
  | .done => { machine.note position with control := .matched }
  | .single single next =>
      machine.followIf (single.acceptsAt text position) next (position + 1) loops
  | .place place next => machine.followIf (place.holds text position) next position loops
  | .mark index next =>
      { machine with track := machine.track.mark index position }.follow next position loops
  | .leave next => machine.follow next position loops
  | .branch alternatives =>
      machine.tryBranch text position loops (machine.saved loops) alternatives
  | .look positive back body next =>
      if position < back then machine.followIf (!positive) next position loops
      else
        (machine.note (position - back)).enter (.look positive (machine.saved loops)) body
          (position - back) position next loops
  | .backref fold group next =>
      match machine.track.group? group with
      | some (first, last) =>
          machine.followIf (sameText text fold first position (last - first)) next
            (position + (last - first)) loops
      | none => machine.fail
  | .ifGroup group yes no =>
      machine.follow (if (machine.track.group? group).isSome then yes else no) position loops
  | .atomic body next =>
      (machine.note position).enter .atomic body position position next loops
  | .row greed least most single next =>
      machine.takeRow text greed least most single next position loops
  | .loop least most body ending =>
      (machine.note position).follow ending position ({ least, most, body } :: loops)
  | .greedyEnd next =>
      let machine := machine.note position
      match loops with
      | [] => machine.fail
      | loop :: outer =>
          if loop.rounds < loop.least then
            (machine.choose (.note position)).follow loop.body position (loop.needed :: outer)
          else if loop.mayGoOn position then
            (machine.choose (.goOn next position outer (.ofTrack machine.track true))).follow
              loop.body position (loop.another position :: outer)
          else (machine.choose (.note position)).follow next position outer
  | .lazyEnd next =>
      let machine := machine.note position
      match loops with
      | [] => machine.fail
      | loop :: outer =>
          if loop.rounds < loop.least then
            (machine.choose (.note position)).follow loop.body position (loop.needed :: outer)
          else
            (machine.choose (.another loop position outer (machine.saved outer))).follow next
              position outer
  | .possessive least most body next =>
      (machine.note position).nextRound { least, most, body } position next loops

def retry (machine : Machine) (text : Array Char) : Choice → Machine
  | .branch alternatives position loops saved =>
      (machine.restore saved).tryBranch text position loops saved alternatives
  | .shorter _ 0 _ _ _ saved => (machine.restore saved).fail
  | .shorter least (count + 1) next position loops saved =>
      (machine.restore saved).tryRow text least count next position loops saved
  | .longer most count single next position loops saved =>
      let machine := (machine.restore saved).note position
      if single.acceptsAt text position then
        (machine.noteRow single position (position + 1)).tryLazyRow most (count + 1) single next
          (position + 1) loops saved
      else machine.fail
  | .goOn next position loops saved =>
      (((machine.restore saved).note position).choose (.note position)).follow next position loops
  | .another loop position loops saved =>
      let machine := (machine.restore saved).note position
      if loop.mayGoOn position then
        (machine.choose (.note position)).follow loop.body position
          (loop.another position :: loops)
      else machine.fail
  | .note position => (machine.note position).fail

def leave (machine : Machine) (level : Level) : Machine :=
  let machine := { machine with choices := level.choices }
  match level.purpose with
  | .look positive _ => machine.followIf positive level.next level.position level.loops
  | .atomic => machine.follow level.next machine.track.position level.loops
  | .round loop _ => machine.nextRound loop level.position level.next level.loops

def giveUp (machine : Machine) (level : Level) : Machine :=
  let machine := { machine with choices := level.choices }
  match level.purpose with
  | .look true _ => machine.fail
  | .look false saved => (machine.restore saved).follow level.next level.position level.loops
  | .atomic => (machine.note level.position).fail
  | .round _ none => (machine.note level.position).fail
  | .round _ (some saved) =>
      (machine.restore saved).follow level.next machine.track.position level.loops

/-- One step: the machine after it, or the track of the match if there is one. -/
def step (attempt : Attempt) (machine : Machine) : Machine ⊕ Option Track :=
  match machine.control with
  | .follow code position loops => .inl (machine.followCode attempt position loops code)
  | .failed =>
      match machine.choices, machine.levels with
      | choice :: choices, _ => .inl ({ machine with choices }.retry attempt.text choice)
      | [], level :: levels => .inl ({ machine with levels }.giveUp level)
      | [], [] => .inr none
  | .matched =>
      match machine.levels with
      | level :: levels => .inl ({ machine with levels }.leave level)
      | [] => .inr (some machine.track)

def run (attempt : Attempt) : (fuel : Nat) → Machine → Option Track
  | 0, _ => none
  | fuel + 1, machine =>
      match machine.step attempt with
      | .inl machine => run attempt fuel machine
      | .inr result => result

end Machine

end LineScript.Pattern
