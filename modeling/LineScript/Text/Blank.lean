import LineScript.Text.Span

/-!
White space: which characters are blank, and what remains of a text when blanks at its ends are
dropped or every run of blanks is taken as one separator.
-/

namespace LineScript.Text

def blankSpans : Array (Nat × Nat) := #[
  (133, 133), (160, 160), (5760, 5760), (8192, 8202), (8232, 8233), (8239, 8239), (8287, 8287),
  (12288, 12288)]

/-- A blank of the ASCII range: a space, or one of the characters that end a line, a field, a
group or a record. -/
def isAsciiBlank (c : Char) : Bool :=
  (9 ≤ c.toNat && c.toNat ≤ 13) || (28 ≤ c.toNat && c.toNat ≤ 32)

def isBlank (c : Char) : Bool :=
  if c.toNat < 128 then isAsciiBlank c else inSpans blankSpans c.toNat

def isSpacing (c : Char) : Bool :=
  isBlank c && !(28 ≤ c.toNat && c.toNat ≤ 31)

def trimChars (drops : Char → Bool) (chars : List Char) : List Char :=
  ((chars.dropWhile drops).reverse.dropWhile drops).reverse

def stripChars (chars : List Char) : List Char :=
  trimChars isBlank chars

def strip (text : String) : String :=
  String.ofList (stripChars text.toList)

/-- The maximal runs of characters that are not blank; `word` holds, in reverse, the run read so
far. -/
def wordsFrom (word : List Char) : List Char → List (List Char)
  | [] => if word.isEmpty then [] else [word.reverse]
  | c :: rest =>
      if isBlank c then
        if word.isEmpty then wordsFrom [] rest else word.reverse :: wordsFrom [] rest
      else wordsFrom (c :: word) rest

/-- The words of a text: its maximal runs of characters that are not blank. -/
def words (text : String) : List String :=
  (wordsFrom [] text.toList).map String.ofList

/-- Every run of blanks as one space; `after` says that the character before was a blank. -/
def collapseFrom (after : Bool) : List Char → List Char
  | [] => []
  | c :: rest =>
      if isBlank c then
        if after then collapseFrom true rest else ' ' :: collapseFrom true rest
      else c :: collapseFrom false rest

/-- The text without the blanks at its ends and with every run of blanks inside as one space. -/
def squeeze (text : String) : String :=
  String.ofList (collapseFrom false (stripChars text.toList))

end LineScript.Text
