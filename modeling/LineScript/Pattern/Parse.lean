import LineScript.Number.Integer
import LineScript.Pattern.Escape
import LineScript.Text.Identifier

/-!
Reading a whole pattern: alternatives, repetitions, sets, groups and options. Each reading function
takes a budget that is larger than the number of pieces left, and spends one unit for every piece
and every level of nesting.
-/

namespace LineScript.Pattern

def groupLimit : Nat := 1073741823

namespace Read

def flagOf? : Piece → Option Flags
  | .plain c => Flags.ofLetter? c
  | .escaped _ => none

def failFlag {α : Type} (piece : Piece) (missing : String) : Read α :=
  let letter :=
    match piece with
    | .plain c => Text.isLetter c
    | .escaped _ => false
  fail (if letter then "unknown flag" else missing) piece.length

/-- The options that a group turns on, and the character that ends their list. -/
def flagsOn (on : Flags) (piece : Piece) : (fuel : Nat) → Read (Flags × Char)
  | 0 => fail "missing -, : or )" 0
  | fuel + 1 => do
      match flagOf? piece with
      | none => failFlag piece "missing -, : or )"
      | some flag =>
          if flag.locale then
            fail "bad inline flags: cannot use 'L' flag with a str pattern" 0
          let on := on.union flag
          if !flag.alphabet.isNone && on.alphabet != flag then
            fail "bad inline flags: flags 'a', 'u' and 'L' are incompatible" 0
          match ← take with
          | none => fail "missing -, : or )" 0
          | some (.plain c) =>
              if c == ')' || c == '-' || c == ':' then return (on, c)
              else flagsOn on (.plain c) fuel
          | some (.escaped c) => failFlag (.escaped c) "missing -, : or )"

def flagsOff (off : Flags) (piece : Piece) (missing : String) : (fuel : Nat) → Read Flags
  | 0 => fail missing 0
  | fuel + 1 => do
      match flagOf? piece with
      | none => failFlag piece missing
      | some flag =>
          if !flag.alphabet.isNone then
            fail "bad inline flags: cannot turn off flags 'a', 'u' and 'L'" 0
          let off := off.union flag
          match ← take with
          | none => fail "missing :" 0
          | some piece =>
              if piece == .plain ':' then return off else flagsOff off piece "missing :" fuel

/-- The options at the start of a group: `none` when they hold for the whole pattern, otherwise
those turned on and those turned off. -/
def groupFlags (first : Char) : Read (Option (Flags × Flags)) := do
  let fuel ← budget
  let (on, ending) ←
    if first == '-' then pure (Flags.none, '-') else flagsOn Flags.none (.plain first) fuel
  if ending == ')' then
    modify fun reader => { reader with flags := reader.flags.union on }
    return none
  if on.template then fail "bad inline flags: cannot turn on global flag" 1
  let off ←
    if ending == '-' then
      match ← take with
      | none => fail "missing flag" 0
      | some piece => flagsOff Flags.none piece "missing flag" fuel
    else pure Flags.none
  if off.template then fail "bad inline flags: cannot turn off global flag" 1
  if !(on.inter off).isNone then fail "bad inline flags: flag turned on and off" 1
  return some (on, off)

def setPart (piece : Piece) : Read SetItem := do
  match piece with
  | .escaped c => setEscape c
  | .plain c => return .char c.toNat

/-- The parts of a set up to its closing bracket; the set began at `start`. -/
def setParts (start : Nat) (items : List SetItem) : (fuel : Nat) → Read (List SetItem)
  | 0 => return items
  | fuel + 1 => do
      match ← take with
      | none => fail "unterminated character set" ((← position) - start)
      | some this =>
          if this == .plain ']' && !items.isEmpty then return items
          let low ← setPart this
          if ← accept '-' then
            match ← take with
            | none => fail "unterminated character set" ((← position) - start)
            | some that =>
                if that == .plain ']' then return items ++ [low, .char 45]
                let high ← setPart that
                let complain : Read (List SetItem) :=
                  fail s!"bad character range {this.text}-{that.text}"
                    (this.length + 1 + that.length)
                match low, high with
                | .char a, .char b =>
                    if b < a then complain
                    else setParts start (items ++ [.range a b]) fuel
                | _, _ => complain
          else setParts start (items ++ [low]) fuel

def charSet : Read Node := do
  let start := (← position) - 1
  let negated ← accept '^'
  match (← setParts start [] (← budget)).eraseDups with
  | [.char code] => return if negated then .notChar code else .char code
  | items => return .set negated items

def roundCount (digits : List Char) : Read Nat := do
  if digits.length > Number.digitLimit then
    throw (.unusable (s!"Exceeds the limit ({Number.digitLimit} digits) for integer string " ++
      s!"conversion: value has {digits.length} digits; use sys.set_int_max_str_digits() " ++
      "to increase the limit"))
  let count := digitsValue 10 digits
  if count ≥ repeatLimit then throw (.unusable "the repetition number is too large")
  return count

/-- The bounds in braces after an item; `none` if the brace is an ordinary character. -/
def braces : Read (Option (Nat × Option Nat)) := do
  let here ← position
  if (← peek) == some (.plain '\x7d') then return none
  let fuel ← budget
  let low ← takeWhile isDecimal fuel
  let comma ← accept ','
  let high ← if comma then takeWhile isDecimal fuel else pure low
  if !(← accept '\x7d') then
    seek here
    return none
  let least ← if low.isEmpty then pure 0 else roundCount low
  let most ← if high.isEmpty then pure none else some <$> roundCount high
  match most with
  | some bound =>
      if bound < least then
        fail "min repeat greater than max repeat" ((← position) - here)
  | none => pure ()
  return some (least, most)

def bounds (c : Char) : Read (Option (Nat × Option Nat)) := do
  if c == '?' then return some (0, some 1)
  else if c == '*' then return some (0, none)
  else if c == '+' then return some (1, none)
  else braces

def greed : Read Greed := do
  if ← accept '?' then return .lazy
  else if ← accept '+' then return .possessive
  else return .greedy

/-- Repeats the last of the items; `here` is the position after the repetition character. -/
def repeated (items : List Node) (here least : Nat) (most : Option Nat) : Read (List Node) := do
  let back := (← position) - here + 1
  match items.getLast? with
  | none => fail "nothing to repeat" back
  | some (.anchor _) => fail "nothing to repeat" back
  | some (.rep ..) => fail "multiple repeat" back
  | some item => return items.dropLast ++ [.rep (← greed) least most item.unpacked]

def skipLine : (fuel : Nat) → Read Unit
  | 0 => return ()
  | fuel + 1 => do
      match ← take with
      | none => return ()
      | some piece => if piece == .plain '\n' then return () else skipLine fuel

/-- Skips a comment up to its closing bracket; the comment began at `start`. -/
def skipComment (start : Nat) : (fuel : Nat) → Read Unit
  | 0 => return ()
  | fuel + 1 => do
      match ← take with
      | none => fail "missing ), unterminated comment" ((← position) - start)
      | some piece => if piece == .plain ')' then return () else skipComment start fuel

def checkName (given : List Char) : Read Unit := do
  if !Text.isIdentifier given then
    fail s!"bad character in group name {Text.quoted (String.ofList given)}" (given.length + 1)

def groupNumber (given : List Char) : Read Nat := do
  match (← get).names.lookup (String.ofList given) with
  | some index => return index
  | none =>
      fail s!"unknown group name {Text.quoted (String.ofList given)}" (given.length + 1)

def openGroup (name : Option (List Char)) : Read Nat := do
  let reader ← get
  let index := reader.groups.size
  match name with
  | none => set { reader with groups := reader.groups.push none }
  | some given =>
      let word := String.ofList given
      match reader.names.lookup word with
      | some earlier =>
          fail (s!"redefinition of group name {Text.quoted word} as group {index}; " ++
            s!"was group {earlier}") (given.length + 1)
      | none =>
          set { reader with
            groups := reader.groups.push none, names := reader.names ++ [(word, index)] }
  return index

def closeGroup (index : Nat) (body : List Node) : Read Unit :=
  modify fun reader =>
    { reader with
      groups := reader.groups.setIfInBounds index (some (widthOf reader.groups body)) }

def namedMention : Read Node := do
  let given ← name ')' "group name"
  checkName given
  let index ← groupNumber given
  if !(← isClosed index) then fail "cannot refer to an open group" (given.length + 1)
  checkLookbehind index
  return .backref index

def conditionGroup : Read Nat := do
  let given ← name ')' "group name"
  let back := given.length + 1
  if Text.isIdentifier given then
    let index ← groupNumber given
    checkLookbehind index
    return index
  let complain : Read Nat :=
    fail s!"bad character in group name {Text.quoted (String.ofList given)}" back
  match Number.readInt? (String.ofList given) with
  | none => complain
  | some number =>
      if number < 0 then complain
      else if number == 0 then fail "bad group number" back
      else if number ≥ groupLimit then fail s!"invalid group reference {number}" back
      else
        let here := (← position) - back
        modify fun reader =>
          if reader.mentions.any (·.1 == number.toNat) then reader
          else { reader with mentions := reader.mentions ++ [(number.toNat, here)] }
        checkLookbehind number.toNat
        return number.toNat

/-- What the characters after an opening bracket announce. -/
inductive GroupKind where
  | plain (on off : Flags)
  | capturing (name : Option (List Char))
  | atomic
  | look (ahead positive : Bool)
  | conditional
  | mention (node : Node)
  | comment
  | global

/-- Reads what an opening bracket announces; the bracket stands at `start`. -/
def groupKind (start : Nat) : Read GroupKind := do
  if !(← accept '?') then return .capturing none
  let unexpected {α : Type} : Read α := fail "unexpected end of pattern" 0
  match ← take with
  | none => unexpected
  | some (.escaped c) => fail s!"unknown extension ?{(Piece.escaped c).text}" 3
  | some (.plain c) =>
      if c == 'P' then
        if ← accept '<' then
          let given ← name '>' "group name"
          checkName given
          return .capturing (some given)
        else if ← accept '=' then return .mention (← namedMention)
        else
          match ← take with
          | none => unexpected
          | some piece => fail s!"unknown extension ?P{piece.text}" (piece.length + 2)
      else if c == ':' then return .plain Flags.none Flags.none
      else if c == '#' then
        skipComment start (← budget)
        return .comment
      else if c == '=' then return .look true true
      else if c == '!' then return .look true false
      else if c == '<' then
        match ← take with
        | none => unexpected
        | some piece =>
            if piece == .plain '=' then return .look false true
            else if piece == .plain '!' then return .look false false
            else fail s!"unknown extension ?<{piece.text}" (piece.length + 2)
      else if c == '(' then return .conditional
      else if c == '>' then return .atomic
      else if (Flags.ofLetter? c).isSome || c == '-' then
        match ← groupFlags c with
        | none => return .global
        | some (on, off) => return .plain on off
      else fail s!"unknown extension ?{c}" 2

def closing (start : Nat) : Read Unit := do
  if !(← accept ')') then fail "missing ), unterminated subpattern" ((← position) - start)

def isFormBlank (c : Char) : Bool :=
  c == ' ' || (9 ≤ c.toNat && c.toNat ≤ 13)

mutual

/-- The alternatives up to a closing bracket or the end; `before` holds those already read. -/
def alternatives (verbose nested : Bool) (before : List (List Node)) :
    (fuel : Nat) → Read (List Node)
  | 0 => fail "pattern too long" 0
  | fuel + 1 => do
      let nodes ← items verbose (!nested && before.isEmpty) [] fuel
      let before := before ++ [nodes]
      if ← accept '|' then
        let reader ← get
        alternatives (if nested then verbose else reader.flags.verbose) nested before fuel
      else return anyOf before

/-- The items of one alternative; `before` holds those already read. -/
def items (verbose first : Bool) (before : List Node) : (fuel : Nat) → Read (List Node)
  | 0 => fail "pattern too long" 0
  | fuel + 1 => do
      match ← peek with
      | none => return before.flatMap Node.unpacked
      | some (.escaped c) =>
          advance
          items verbose first (before ++ [← escape c]) fuel
      | some (.plain c) =>
          if c == '|' || c == ')' then return before.flatMap Node.unpacked
          advance
          if verbose && isFormBlank c then items verbose first before fuel
          else if verbose && c == '#' then
            skipLine (← budget)
            items verbose first before fuel
          else if c == '[' then items verbose first (before ++ [← charSet]) fuel
          else if c == '*' || c == '+' || c == '?' || c == '\x7b' then
            let here ← position
            match ← bounds c with
            | none => items verbose first (before ++ [.char c.toNat]) fuel
            | some (least, most) =>
                items verbose first (← repeated before here least most) fuel
          else if c == '.' then items verbose first (before ++ [.any]) fuel
          else if c == '^' then items verbose first (before ++ [.anchor .lineStart]) fuel
          else if c == '$' then items verbose first (before ++ [.anchor .lineEnd]) fuel
          else if c == '(' then
            let start := (← position) - 1
            match ← groupKind start with
            | .comment => items verbose first before fuel
            | .mention node => items verbose first (before ++ [node]) fuel
            | .global =>
                if !first || !before.isEmpty then
                  fail "global flags not at the start of the expression"
                    ((← position) - start)
                items (← get).flags.verbose first before fuel
            | .look ahead positive =>
                let outer := (← get).lookbehind
                if !ahead && outer.isNone then
                  modify fun reader => { reader with lookbehind := some reader.groups.size }
                let body ← alternatives verbose true [] fuel
                if !ahead && outer.isNone then
                  modify fun reader => { reader with lookbehind := none }
                closing start
                items verbose first (before ++ [.look ahead positive body]) fuel
            | .conditional =>
                let index ← conditionGroup
                let yes ← items verbose false [] fuel
                let no ←
                  if ← accept '|' then
                    let no ← items verbose false [] fuel
                    if (← peek) == some (.plain '|') then
                      fail "conditional backref with more than two branches" 0
                    pure no
                  else pure []
                closing start
                items verbose first (before ++ [.conditional index yes no]) fuel
            | .atomic =>
                let body ← alternatives verbose true [] fuel
                closing start
                items verbose first (before ++ [.atomic body]) fuel
            | .plain on off =>
                let body ←
                  alternatives ((verbose || on.verbose) && !off.verbose) true [] fuel
                closing start
                items verbose first (before ++ [.group none on off body]) fuel
            | .capturing name =>
                let index ← openGroup name
                let body ← alternatives verbose true [] fuel
                closing start
                closeGroup index body
                items verbose first (before ++ [.group (some index) .none .none body]) fuel
          else items verbose first (before ++ [.char c.toNat]) fuel

end

def whole : Read (List Node) := do
  let nodes ← alternatives false false [] (4 * (← budget) + 16)
  let reader ← get
  if reader.flags.ascii && reader.flags.unicode then
    throw (.unusable "ASCII and UNICODE flags are incompatible")
  if reader.next.isSome then fail "unbalanced parenthesis" 0
  match reader.mentions.find? fun mention => mention.1 ≥ reader.groups.size with
  | some mention =>
      throw (.malformed s!"invalid group reference {mention.1}" (some mention.2))
  | none => pure ()
  match problem? reader.groups reader.flags.template nodes with
  | some fault => throw fault
  | none => pure ()
  if looksTooFar reader.groups nodes then throw (.unusable "invalid SRE code")
  return nodes

end Read

/-- A pattern that has been read: its items, its options and the widths of its groups, the whole
pattern included. -/
structure Parsed where
  nodes : List Node
  flags : Flags
  groups : Array (Option Width)

def parse (pattern : String) : Except Fault Parsed := do
  let chars := pattern.toList
  let reader : Reader :=
    { chars, rest := chars, next := none, index := 0, flags := Flags.none, groups := #[none]
      names := [], lookbehind := none, mentions := [] }
  let (nodes, reader) ← (Read.advance >>= fun _ => Read.whole).run reader
  return ⟨nodes, reader.flags.completed, reader.groups⟩

def lineColumn (chars : List Char) (position : Nat) : Nat × Nat :=
  let before := chars.take position
  let lines := (before.filter (· == '\n')).length
  (lines + 1, (before.reverse.takeWhile (· != '\n')).length + 1)

def Fault.message (pattern : String) : Fault → String
  | .unusable text => text
  | .malformed text none => text
  | .malformed text (some position) =>
      let chars := pattern.toList
      let base := s!"{text} at position {position}"
      if chars.contains '\n' then
        let (line, column) := lineColumn chars position
        s!"{base} (line {line}, column {column})"
      else base

end LineScript.Pattern
