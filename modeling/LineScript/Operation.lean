import LineScript.Locals
import LineScript.Message
import LineScript.Number.Bits
import LineScript.Number.DecimalText
import LineScript.Number.Elementary
import LineScript.Number.Integer
import LineScript.Pattern.Count
import LineScript.Text.Lower
import LineScript.Text.Search
import LineScript.Text.Upper

/-!
Operations: instructions that compute one value from texts and store it. What an operation gives,
and what it has to say about its inputs, depends on the inputs alone.
-/

namespace LineScript

/-- A computed value and what there is to say about the computation, first remark first. -/
structure Computed (α : Type) where
  value : α
  notes : List Note
deriving DecidableEq, Repr

namespace Computed

variable {α β : Type}

def plain (value : α) : Computed α := ⟨value, []⟩

def withError (value : α) (text : String) (code : Code) : Computed α :=
  ⟨value, [⟨.error, text, code⟩]⟩

def andThen (first : Computed α) (next : α → Computed β) : Computed β :=
  let second := next first.value
  ⟨second.value, first.notes ++ second.notes⟩

end Computed

namespace Reading

def malformed (text : String) : String :=
  s!"Malformed number found: '{text}'."

def orElse {α : Type} (value : Option α) (text : String) (default : α) : Computed α :=
  match value with
  | some value => .plain value
  | none => .withError default (malformed text) .malformedValue

def decimal (text : String) : Computed Number.Decimal :=
  orElse (Number.Decimal.parse? text) text .zero

def integer (text : String) : Computed Int :=
  orElse (Number.parseInt? text) text 0

def floating (text : String) : Computed Number.Binary64 :=
  orElse (Number.Binary64.parse? text) text .zero

end Reading

inductive Arithmetic where
  | add
  | sub
  | mul
  | div
deriving DecidableEq, Repr

namespace Arithmetic

def name : Arithmetic → String
  | add => "ADD"
  | sub => "SUB"
  | mul => "MUL"
  | div => "DIV"

def apply : Arithmetic → Number.Decimal → Number.Decimal → Except Number.DecimalFault Number.Decimal
  | add => Number.Decimal.add
  | sub => Number.Decimal.sub
  | mul => Number.Decimal.mul
  | div => Number.Decimal.div

end Arithmetic

inductive Operation where
  | arithmetic (operator : Arithmetic)
  | substring
  | characterAt
  | trim
  | replace
  | countMatches
  | find
  | concatenate
  | size
  | round
  | absolute
  | minimum
  | maximum
  | elementary (function : Number.Elementary)
  | upperCase
  | lowerCase
  | toBinary
  | ofBinary
deriving DecidableEq, Repr

namespace Operation

def elementaryName : Number.Elementary → String
  | .sin => "SIN"
  | .cos => "COS"
  | .tan => "TAN"
  | .asin => "ASIN"
  | .acos => "ACOS"
  | .atan => "ATAN"
  | .log10 => "LOG"
  | .ln => "MATH_LN"
  | .exp => "EPOW"
  | .tenPow => "TENPOW"
  | .toRadians => "TORAD"
  | .toDegrees => "TODEG"
  | .floor => "FLR"
  | .ceil => "CEIL"
  | .sqrt => "SQRT"

def arity : Operation → Nat
  | arithmetic _ => 2
  | substring => 3
  | characterAt => 2
  | trim => 1
  | replace => 3
  | countMatches => 2
  | find => 2
  | concatenate => 2
  | size => 1
  | round => 2
  | absolute => 1
  | minimum => 2
  | maximum => 2
  | elementary _ => 1
  | upperCase => 1
  | lowerCase => 1
  | toBinary => 1
  | ofBinary => 1

/-- The text of a decimal result; `what` names the computation when there is no result. -/
def decimalText (result : Except Number.DecimalFault Number.Decimal) (what : String) :
    Computed String :=
  match result.bind Number.Decimal.format with
  | .ok text => .plain text
  | .error fault =>
      .withError nullText s!"{what} is out of range ({fault.name})." .mathDomain

def calculate (operator : Arithmetic) (left right : String) : Computed String :=
  (Reading.decimal left).andThen fun a =>
    (Reading.decimal right).andThen fun b =>
      if operator == .div && b.isZero then
        .withError nullText "Division by zero." .divisionByZero
      else decimalText (operator.apply a b) operator.name

def substringOf (text start length : String) : Computed String :=
  (Reading.integer start).andThen fun start =>
    (Reading.integer length).andThen fun length =>
      if start < 0 || length < 0 || start + length > text.length then
        .withError nullText s!"Substring {start}+{length} is out of bounds." .indexOutOfRange
      else .plain (String.ofList ((text.toList.drop start.toNat).take length.toNat))

def characterOf (text index : String) : Computed String :=
  (Reading.orElse (Number.parseInt? index) index (-1)).andThen fun index =>
    if index < 0 then .withError nullText s!"Index {index} is out of bounds." .indexOutOfRange
    else
      match text.toList[index.toNat]? with
      | some c => .plain (String.singleton c)
      | none => .withError nullText s!"Index {index} is out of bounds." .indexOutOfRange

def replaceIn (text old new : String) : Computed String :=
  if old.isEmpty then
    .withError text "RPLC needs a non-empty text to replace." .malformedValue
  else .plain (Text.replace text old new)

/-- The number of matches of a pattern; a pattern that is too large to be used is a fault. -/
def countIn (text pattern : String) : Except String (Computed String) :=
  match Pattern.countMatches pattern text with
  | .ok count => .ok (.plain (toString count))
  | .error (.unusable reason) => .error reason
  | .error fault =>
      .ok (.withError nullText s!"Invalid pattern '{pattern}': {fault.message pattern}."
        .invalidPattern)

def positionIn (text value : String) : String :=
  match Text.indexOf? value.toList text.toList with
  | some index => toString index
  | none => "-1"

def roundTo (value places : String) : Computed String :=
  (Reading.decimal value).andThen fun number =>
    (Reading.integer places).andThen fun asked =>
      let kept : Computed Nat :=
        if asked < 0 then
          .withError 0 s!"Cannot round to {asked} decimal places." .malformedValue
        else .plain asked.toNat
      kept.andThen fun kept =>
        decimalText (number.roundTo kept) s!"Rounding {value} to {kept} decimal places"

def pick (choose : Number.Decimal → Number.Decimal → Number.Decimal) (what left right : String) :
    Computed String :=
  (Reading.decimal left).andThen fun a =>
    (Reading.decimal right).andThen fun b => decimalText (.ok (choose a b)) what

def evaluate (function : Number.Elementary) (input : String) : Computed String :=
  (Reading.floating input).andThen fun x =>
    match function.eval x with
    | .ok result => .plain result.format
    | .error fault =>
        .withError nullText s!"{elementaryName function} is undefined for {input}: {fault.message}."
          .mathDomain

def readBinary (text : String) : Computed String :=
  match Number.ofBinary? text with
  | some value => .plain (toString value)
  | none => .withError nullText s!"Malformed binary number '{text}'." .malformedValue

def eval : Operation → List String → Except String (Computed String)
  | arithmetic operator, [left, right] => .ok (calculate operator left right)
  | substring, [text, start, length] => .ok (substringOf text start length)
  | characterAt, [text, index] => .ok (characterOf text index)
  | trim, [text] => .ok (.plain (Text.squeeze text))
  | replace, [text, old, new] => .ok (replaceIn text old new)
  | countMatches, [text, pattern] => countIn text pattern
  | find, [text, value] => .ok (.plain (positionIn text value))
  | concatenate, [left, right] => .ok (.plain (left ++ right))
  | size, [text] => .ok (.plain (toString text.length))
  | round, [value, places] => .ok (roundTo value places)
  | absolute, [value] =>
      .ok ((Reading.decimal value).andThen fun number => decimalText number.abs "ABS")
  | minimum, [left, right] => .ok (pick Number.Decimal.min "MIN" left right)
  | maximum, [left, right] => .ok (pick Number.Decimal.max "MAX" left right)
  | elementary function, [input] => .ok (evaluate function input)
  | upperCase, [text] => .ok (.plain (Text.upper text))
  | lowerCase, [text] => .ok (.plain (Text.lower text))
  | toBinary, [text] => .ok ((Reading.integer text).andThen fun n => .plain (Number.toBinary n))
  | ofBinary, [text] => .ok (readBinary text)
  | _, _ => .ok (.plain nullText)

end Operation

end LineScript
