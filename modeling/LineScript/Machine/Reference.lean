import LineScript.Comparison
import LineScript.Machine.Scope

/-!
References: arguments that stand for a value. A dollar sign names a variable; in extended mode
further marks name memory cells, characters of a text, call arguments and negations. The value of a
reference is not itself taken for a reference.

A mark is followed by another reference, and the host follows only so many of them in a row. The
number is a bound of the host and no matter of the language: the value of a text is told without it
by `resolve`, and what a program reads, within the bound, by `read`.
-/

namespace LineScript

inductive Reference where
  | literal (text : String)
  | predefined (name : String)
  | named (name : String)
  | cell (index : Reference)
  | character (index target : Reference)
  | pointless (text : String)
  | negation (of : Reference)
  | argument (index : Reference)
  /-- A reference behind more marks than can be followed. -/
  | exhausted
deriving DecidableEq, Repr

namespace Reference

theorem length_cut_fst_le (mark : Char) (chars : List Char) :
    (Text.cut mark chars).1.length ≤ chars.length := by
  induction chars with
  | nil => simp [Text.cut]
  | cons c rest ih =>
      by_cases found : c == mark
      · simp [Text.cut, found]
      · simpa [Text.cut, found] using ih

theorem length_cut_snd_le {mark : Char} {chars after : List Char}
    (found : (Text.cut mark chars).2 = some after) : after.length ≤ chars.length := by
  induction chars with
  | nil => simp [Text.cut] at found
  | cons c rest ih =>
      by_cases here : c == mark
      · simp [Text.cut, here] at found
        simp [← found]
      · simp [Text.cut, here] at found
        have := ih found
        simp only [List.length_cons]
        omega

/-- Reads an argument. Outside extended mode only the dollar sign is a mark. -/
def ofChars (extended : Bool) : List Char → Reference
  | '$' :: '_' :: name => predefined (String.ofList name)
  | '$' :: name => named (String.ofList name)
  | c :: rest =>
      if !extended then literal (String.ofList (c :: rest))
      else if c == '#' then cell (ofChars extended rest)
      else if c == '%' then
        match _target : (Text.cut '.' rest).2 with
        | some target => character (ofChars extended (Text.cut '.' rest).1) (ofChars extended target)
        | none => pointless (String.ofList rest)
      else if c == '!' then negation (ofChars extended rest)
      else if c == '@' then argument (ofChars extended rest)
      else literal (String.ofList (c :: rest))
  | [] => literal ""
termination_by chars => chars.length
decreasing_by
  · simp
  · have := length_cut_fst_le '.' rest
    simp only [List.length_cons]
    omega
  · have := length_cut_snd_le _target
    simp only [List.length_cons]
    omega
  · simp
  · simp

/-- The reference as far as it is found behind at most so many marks. -/
def upTo (marks : Nat) : Reference → Reference
  | cell index => if marks = 0 then exhausted else cell (index.upTo (marks - 1))
  | character index target =>
      if marks = 0 then exhausted
      else character (index.upTo (marks - 1)) (target.upTo (marks - 1))
  | negation of => if marks = 0 then exhausted else negation (of.upTo (marks - 1))
  | argument index => if marks = 0 then exhausted else argument (index.upTo (marks - 1))
  | reference => reference

def within (host : Host) (reference : Reference) : Reference :=
  match host.marks with
  | some marks => reference.upTo marks
  | none => reference

def evalPredefined : Predefined → Action String
  | .terminalWidth => return toString (← Action.observe).moment.columns
  | .terminalHeight => return toString (← Action.observe).moment.rows
  | .compareFlag => return boolText (← get).machine.compareFlag
  | .elapsedTime => return (← Action.observe).moment.clock.elapsed.format
  | .projectId => return "0"
  | .user => return Machine.guestUser
  | .version => return Machine.version
  | .ask => Action.readLine ""
  | .graphicsOff => return "false"
  | .hour => return toString (← Action.observe).moment.clock.hour
  | .minute => return toString (← Action.observe).moment.clock.minute
  | .second => return toString (← Action.observe).moment.clock.second
  | .year => return toString (← Action.observe).moment.clock.year
  | .month => return toString (← Action.observe).moment.clock.month
  | .day => return toString (← Action.observe).moment.clock.day
  | .weekday => return toString (← Action.observe).moment.clock.weekday
  | .returnedValue => return (← get).machine.returned
  | .promptedAsk => Action.readLine "> "
  | .confirmation => return boolText (← Action.confirm "Continue?")
  | .extendedMark => return "true"
  | .graphicsOn => return "true"
  | .canvasWidth => return toString (← get).machine.canvas.width
  | .canvasHeight => return toString (← get).machine.canvas.height
  | .pointerX => return toString (← get).machine.canvas.pointer.x
  | .pointerY => return toString (← get).machine.canvas.pointer.y
  | .pointerDown => return boolText (← get).machine.canvas.pointer.down
  | .computed behavior => do
      match behavior.answer (← Action.observe) with
      | .ok text => return text
      | .error trouble => throw trouble.fault

/-- The index that a text denotes; a text that denotes none is reported. -/
def indexOf (text : String) : Action (Option Int) :=
  match Number.parseInt? text with
  | some index => return some index
  | none => do
      Action.report .error s!"Malformed index '{text}'." .malformedValue
      return none

def cellAt (index : Int) : Action String := do
  let memory := (← get).machine.memory
  match if memory.exists? index then memory.get? index else none with
  | some value => return value
  | none =>
      Action.report .error s!"Memory address {index} does not exist." .indexOutOfRange
      return nullText

def characterAt (text : String) (index : Int) : Action String :=
  match if index < 0 then none else text.toList[index.toNat]? with
  | some c => return String.singleton c
  | none => do
      Action.report .error s!"Index {index} is out of bounds." .indexOutOfRange
      return nullText

def argumentAt (index : Int) : Action String := do
  let args := (← get).frame.args
  match if index < 0 then none else args[index.toNat]? with
  | some value => return value
  | none =>
      Action.report .error s!"Argument {index} was not passed." .indexOutOfRange
      return nullText

/-- The value of a reference. A predefined name that nothing stands behind is a literal text. -/
def eval : Reference → Action String
  | literal text => return text
  | predefined name => do
      match (← get).machine.predefined.lookup? name with
      | some meaning => evalPredefined meaning
      | none => return "$_" ++ name
  | named name => Action.getVariable name
  | cell index => do
      match ← indexOf (← index.eval) with
      | some index => cellAt index
      | none => return nullText
  | character index target => do
      let index ← indexOf (← index.eval)
      let text ← target.eval
      match index with
      | some index => characterAt text index
      | none => return nullText
  | pointless text => do
      Action.report .error s!"Malformed character reference '%{text}'." .malformedValue
      return nullText
  | negation of => return boolText (!isTruthy (← of.eval))
  | argument index => do
      match ← indexOf (← index.eval) with
      | some index => argumentAt index
      | none => return nullText
  | exhausted => Action.raise .tooManyMarks

def resolve (text : String) : Action String := do
  (ofChars (← get).machine.extended text.toList).eval

def read (text : String) : Action String := do
  let machine := (← get).machine
  ((ofChars machine.extended text.toList).within machine.host).eval

def resolvePiece (piece : Piece) : Action String :=
  if piece.quoted then return piece.text else read piece.text

def resolveAll (pieces : List Piece) : Action (List String) :=
  pieces.mapM resolvePiece

end Reference

end LineScript
