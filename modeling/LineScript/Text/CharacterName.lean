import LineScript.Text.CharacterName.Alias
import LineScript.Text.CharacterName.Alphabets
import LineScript.Text.CharacterName.Ancient
import LineScript.Text.CharacterName.Brahmic
import LineScript.Text.CharacterName.Eastern
import LineScript.Text.CharacterName.Hieroglyphs
import LineScript.Text.CharacterName.Notation
import LineScript.Text.CharacterName.Syllabaries
import LineScript.Text.CharacterName.Symbols
import LineScript.Text.Span

/-!
The character that a name denotes. Most names stand in tables; Korean syllables are named by the
sounds they are made of and ideographs by their code point.
-/

namespace LineScript.Text

def initialSounds : List String :=
  ["G", "GG", "N", "D", "DD", "R", "M", "B", "BB", "S", "SS", "", "J", "JJ", "C", "K", "T", "P",
    "H"]

def medialSounds : List String :=
  ["A", "AE", "YA", "YAE", "EO", "E", "YEO", "YE", "O", "WA", "WAE", "OE", "YO", "U", "WEO", "WE",
    "WI", "YU", "EU", "YI", "I"]

def finalSounds : List String :=
  ["", "G", "GG", "GS", "N", "NJ", "NH", "D", "L", "LG", "LM", "LB", "LS", "LT", "LP", "LH", "M",
    "B", "BS", "S", "SS", "NG", "J", "C", "K", "T", "P", "H"]

/-- The longest of the sounds with which the characters start: its place in the list and the
characters after it. -/
def takeSound? (sounds : List String) (chars : List Char) : Option (Nat × List Char) :=
  let candidates := sounds.zipIdx.filter fun (sound, _) => sound.toList.isPrefixOf chars
  let longest := candidates.foldl (fun best candidate =>
    match best with
    | some other =>
        if other.1.length < candidate.1.length then some candidate else some other
    | none => some candidate) none
  longest.map fun (sound, place) => (place, chars.drop sound.length)

def syllableOfSounds? (chars : List Char) : Option Nat := do
  let (first, chars) ← takeSound? initialSounds chars
  let (middle, chars) ← takeSound? medialSounds chars
  let (last, chars) ← takeSound? finalSounds chars
  if chars.isEmpty then
    some (0xAC00 + (first * medialSounds.length + middle) * finalSounds.length + last)
  else none

def capitalHexValue? (c : Char) : Option Nat :=
  if '0' ≤ c && c ≤ '9' then some (c.toNat - 48)
  else if 'A' ≤ c && c ≤ 'F' then some (c.toNat - 55)
  else none

def codeOfDigits? (chars : List Char) : Option Nat :=
  if chars.length == 4 || chars.length == 5 then
    chars.foldlM (fun code c => (capitalHexValue? c).map (16 * code + ·)) 0
  else none

def unifiedSpans : Array (Nat × Nat) := #[
  (0x3400, 0x4DBF), (0x4E00, 0x9FFF), (0x20000, 0x2A6DF), (0x2A700, 0x2B738), (0x2B740, 0x2B81D),
  (0x2B820, 0x2CEA1), (0x2CEB0, 0x2EBE0), (0x30000, 0x3134A)]

/-- Characters that are named by a common beginning and their code point, as stretches of code
points. -/
def numberedNames : List (String × Array (Nat × Nat)) := [
  ("CJK COMPATIBILITY IDEOGRAPH-",
    #[(0xF900, 0xFA6D), (0xFA70, 0xFAD9), (0x2F800, 0x2FA1D)]),
  ("KHITAN SMALL SCRIPT CHARACTER-", #[(0x18B00, 0x18CD5)]),
  ("NUSHU CHARACTER-", #[(0x1B170, 0x1B2FB)])]

def afterBeginning? (beginning : String) (chars : List Char) : Option (List Char) :=
  if beginning.toList.isPrefixOf chars then some (chars.drop beginning.length) else none

def numberedCode? (spans : Array (Nat × Nat)) (digits : List Char) : Option Nat :=
  (codeOfDigits? digits).filter (inSpans spans)

/-- The character with a name that starts in a common way and ends with the code point, written in
as few digits as four allow. -/
def numberedName? (chars : List Char) : Option Nat :=
  numberedNames.findSome? fun (beginning, spans) => do
    let digits ← afterBeginning? beginning chars
    let code ← numberedCode? spans digits
    if digits.length == 5 && code < 0x10000 then none else some code

def nameTables : List (Array NameBlock) :=
  [alphabetNames, symbolNames, brahmicNames, syllabaryNames, easternNames, ancientNames,
    hieroglyphNames, notationNames]

def listedName? (chars : List Char) : Option Nat :=
  let wanted := chars.toArray
  match nameAliases.find? fun entry => entry.2.toList == chars with
  | some entry => some entry.1
  | none => nameTables.findSome? fun table => table.findSome? (·.find? wanted)

/-- The code point of the character with the given name. Small letters count as capitals, but not
in the names of syllables and unified ideographs. -/
def codeOfName? (chars : List Char) : Option Nat :=
  match afterBeginning? "HANGUL SYLLABLE " chars,
      afterBeginning? "CJK UNIFIED IDEOGRAPH-" chars with
  | some sounds, _ => syllableOfSounds? sounds
  | none, some digits => numberedCode? unifiedSpans digits
  | none, none =>
      let capitals := chars.map Char.toUpper
      (numberedName? capitals).or (listedName? capitals)

end LineScript.Text
