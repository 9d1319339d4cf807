import LineScript.Number.Literal

/-!
Reading integers. A text with more than `digitLimit` digits is not taken for an integer.
-/

namespace LineScript.Number

def digitLimit : Nat := 4300

def signedInt? (chars : List Char) : Option Int :=
  let (negative, rest) := readSign chars
  match readDigits rest with
  | ([], _) => none
  | (_, _ :: _) => none
  | (digits, []) =>
      if digits.length > digitLimit then none
      else
        let size : Int := ofDigits digits
        some (if negative then -size else size)

def parseInt? (text : String) : Option Int :=
  (clean? text).bind signedInt?

def underscoresSeparate : List Char → Bool
  | a :: '_' :: b :: rest =>
      Text.isDigit a && Text.isDigit b && underscoresSeparate (b :: rest)
  | '_' :: _ => false
  | [_, '_'] => false
  | _ :: rest => underscoresSeparate rest
  | [] => true

/-- Reads an integer of a command line or a pattern, where spacing around the number does not count
and single underscores may group digits. -/
def readInt? (text : String) : Option Int :=
  let chars := Text.trimChars Text.isSpacing text.toList
  if underscoresSeparate (readSign chars).2 then signedInt? (chars.filter (· != '_')) else none

end LineScript.Number
