import LineScript.Machine.Reference
import LineScript.Proofs.Block.Syntax

/-!
Scripts that are made of definitions. Each definition has a header, a well-nested block of lines and
an end marker; blank lines and comments stand anywhere. The header of the first definition of a name
is the line at which the script is entered by that name.
-/

namespace LineScript

/-! ## Definitions -/

/-- A definition with the blank lines and comments above it. -/
structure Definition where
  blanks : List String
  name : String
  header : String
  body : Block
  closer : String
deriving DecidableEq, Repr

/-- Definitions, and the blank lines and comments below the last one. -/
structure Listing where
  definitions : List Definition
  blanks : List String
deriving DecidableEq, Repr

namespace Definition

def lines (definition : Definition) : List String :=
  definition.blanks ++ definition.header :: (definition.body.lines ++ [definition.closer])

def findFrom (above : Nat) (name : String) : List Definition → Option (Nat × Definition)
  | [] => none
  | definition :: rest =>
      if definition.name = name then some (above + definition.blanks.length + 1, definition)
      else findFrom (above + definition.lines.length) name rest

end Definition

namespace Listing

def lines (listing : Listing) : List String :=
  listing.definitions.flatMap Definition.lines ++ listing.blanks

def find? (listing : Listing) (name : String) : Option (Nat × Definition) :=
  Definition.findFrom 0 name listing.definitions

end Listing

/-! ## Lines that may stand where they do -/

namespace LineText

def Fits (settings : Settings) (text : String) : Prop :=
  pieces text = [] ∨ ∃ limit ∈ settings.maxArgs, ((pieces text).length : Int) ≤ limit

/-- The line may stand inside a definition. -/
structure Inside (settings : Settings) (text : String) : Prop where
  fits : Fits settings text
  inner : keyword text ≠ "DEF"
  condition : keyword text = "IF" → (pieces text).length ≤ 2

end LineText

/-- The argument is the name as it stands: a quoted text, or one that is no reference. -/
def Piece.Names (piece : Piece) (name : String) : Prop :=
  if piece.quoted then piece.text = name
  else Reference.ofChars true piece.text.toList = .literal name

/-- The block is well nested, has no directives, and its lines may stand inside a definition. -/
structure Block.WellFormed (settings : Settings) (block : Block) : Prop where
  nested : block.Nested
  directives : ∀ text ∈ block.lines, isDirective text = false
  inside : ∀ text ∈ block.lines, LineText.isInstruction text = true →
    LineText.Inside settings text

namespace Definition

/-- The end marker of a definition names no definition or its own one. -/
structure ClosedBy (settings : Settings) (name text : String) : Prop where
  instruction : LineText.isInstruction text = true
  keyword : LineText.keyword text ∈ ["ENDDEF", "EDEF"]
  fits : LineText.Fits settings text
  names : LineText.pieces text = [] ∨ ∃ piece : Piece, LineText.pieces text = [piece] ∧
    piece.Names name

/-- The definition has a header with its name, a well-nested body and an end marker. -/
structure WellFormed (settings : Settings) (definition : Definition) : Prop where
  blanks : ∀ text ∈ definition.blanks, isSkippable text = true
  header : definedName? definition.header = some definition.name
  body : definition.body.WellFormed settings
  closer : ClosedBy settings definition.name definition.closer

end Definition

structure Listing.WellFormed (settings : Settings) (listing : Listing) : Prop where
  definitions : ∀ definition ∈ listing.definitions, definition.WellFormed settings
  blanks : ∀ text ∈ listing.blanks, isSkippable text = true

section Decidable

variable {settings : Settings}

instance (text : String) : Decidable (LineText.Fits settings text) :=
  decidable_of_iff (LineText.pieces text = [] ∨
      settings.maxArgs.any (fun limit => ((LineText.pieces text).length : Int) ≤ limit) = true)
    (or_congr_right (by simp only [Option.any_eq_true, decide_eq_true_eq, Option.mem_def]))

instance (text : String) : Decidable (LineText.Inside settings text) :=
  decidable_of_iff (LineText.Fits settings text ∧ LineText.keyword text ≠ "DEF" ∧
      (LineText.keyword text = "IF" → (LineText.pieces text).length ≤ 2))
    ⟨fun ⟨fits, inner, condition⟩ => ⟨fits, inner, condition⟩,
      fun inside => ⟨inside.fits, inside.inner, inside.condition⟩⟩

instance (piece : Piece) (name : String) : Decidable (piece.Names name) :=
  inferInstanceAs (Decidable (if piece.quoted = true then piece.text = name
    else Reference.ofChars true piece.text.toList = .literal name))

instance (block : Block) : Decidable (block.WellFormed settings) :=
  decidable_of_iff (block.Nested ∧ (∀ text ∈ block.lines, isDirective text = false) ∧
      ∀ text ∈ block.lines, LineText.isInstruction text = true → LineText.Inside settings text)
    ⟨fun ⟨nested, directives, inside⟩ => ⟨nested, directives, inside⟩,
      fun formed => ⟨formed.nested, formed.directives, formed.inside⟩⟩

instance (name text : String) : Decidable (Definition.ClosedBy settings name text) :=
  decidable_of_iff (LineText.isInstruction text = true ∧
      LineText.keyword text ∈ ["ENDDEF", "EDEF"] ∧ LineText.Fits settings text ∧
      (LineText.pieces text = [] ∨
        ∃ piece ∈ LineText.pieces text, LineText.pieces text = [piece] ∧ piece.Names name))
    ⟨fun ⟨instruction, keyword, fits, names⟩ =>
        ⟨instruction, keyword, fits, names.imp_right fun ⟨piece, _, here⟩ => ⟨piece, here⟩⟩,
      fun closed => ⟨closed.instruction, closed.keyword, closed.fits,
        closed.names.imp_right fun ⟨piece, here⟩ => ⟨piece, by simp [here.1], here⟩⟩⟩

instance (definition : Definition) : Decidable (definition.WellFormed settings) :=
  decidable_of_iff ((∀ text ∈ definition.blanks, isSkippable text = true) ∧
      definedName? definition.header = some definition.name ∧
      definition.body.WellFormed settings ∧
      Definition.ClosedBy settings definition.name definition.closer)
    ⟨fun ⟨blanks, header, body, closer⟩ => ⟨blanks, header, body, closer⟩,
      fun formed => ⟨formed.blanks, formed.header, formed.body, formed.closer⟩⟩

instance (listing : Listing) : Decidable (listing.WellFormed settings) :=
  decidable_of_iff ((∀ definition ∈ listing.definitions, definition.WellFormed settings) ∧
      ∀ text ∈ listing.blanks, isSkippable text = true)
    ⟨fun ⟨definitions, blanks⟩ => ⟨definitions, blanks⟩,
      fun formed => ⟨formed.definitions, formed.blanks⟩⟩

end Decidable

/-! ## Lines that define a name -/

theorem head?_upper {token : List Char} {c : Char} (first : token.head? = some c)
    (same : Text.upperChar c = [c]) :
    (Text.upper (String.ofList token)).toList.head? = some c := by
  cases token with
  | nil => cases first
  | cons d rest =>
      cases first
      simp [Text.upper, same]

namespace LineText

theorem head?_keyword {text : String} {c : Char} {rest : List Char}
    (stripped : Text.stripChars text.toList = c :: rest) (solid : c ≠ ' ')
    (same : Text.upperChar c = [c]) : (keyword text).toList.head? = some c := by
  have split : (c :: rest).splitOn ' ' = (rest.splitOn ' ').modifyHead (List.cons c) := by
    rw [List.splitOn, List.splitOnP_cons_eq_if_modifyHead, if_neg (by simpa using solid)]
    rfl
  unfold keyword tokenize
  rw [stripped]
  dsimp only
  rw [split]
  cases pieces : rest.splitOn ' ' with
  | nil => exact absurd pieces (List.splitOn_ne_nil _ _)
  | cons token others => exact head?_upper rfl same

theorem keyword_of_definedName? {text name : String} (defined : definedName? text = some name) :
    keyword text = "DEF" := by
  unfold definedName? at defined
  unfold keyword
  split at defined
  · next word _ _ tokens =>
      rw [tokens]
      split at defined
      · next same => exact eq_of_beq same
      · cases defined
  · cases defined

theorem definedName?_eq_none {text : String} (other : keyword text ≠ "DEF") :
    definedName? text = none := by
  cases defined : definedName? text with
  | none => rfl
  | some name => exact absurd (keyword_of_definedName? defined) other

theorem definedName?_blank {text : String} (blank : isSkippable text = true) :
    definedName? text = none := by
  unfold isSkippable at blank
  split at blank
  · next empty =>
      unfold definedName? tokenize
      rw [empty]
  · next c rest stripped =>
      have mark : c = ';' := eq_of_beq blank
      subst mark
      have head := head?_keyword stripped (by decide) (by decide)
      refine definedName?_eq_none fun same => ?_
      rw [same] at head
      revert head
      decide

theorem not_directive_of_definedName? {text name : String}
    (defined : definedName? text = some name) : isDirective text = false := by
  cases directive : isDirective text with
  | false => rfl
  | true =>
      unfold isDirective at directive
      split at directive
      · cases directive
      · next c rest stripped =>
          have mark : c = '[' := eq_of_beq directive
          subst mark
          have head := head?_keyword stripped (by decide) (by decide)
          rw [keyword_of_definedName? defined] at head
          revert head
          decide

theorem not_directive_of_blank {text : String} (blank : isSkippable text = true) :
    isDirective text = false := by
  unfold isSkippable at blank
  unfold isDirective
  split at blank
  · rfl
  · next c rest _ =>
      have mark : c = ';' := eq_of_beq blank
      rw [mark]
      rfl

end LineText

def firstDefined (name : String) (number : Nat) : List String → Option Nat
  | [] => none
  | text :: rest =>
      if definedName? text = some name then some number else firstDefined name (number + 1) rest

variable {name : String}

theorem lookup_addEntry (entries : List (String × Nat)) (other : String) (number : Nat) :
    (addEntry entries other number).lookup name =
      (entries.lookup name).or (if other = name then some number else none) := by
  unfold addEntry
  split
  · next known =>
      obtain ⟨entry, member, same⟩ := List.any_eq_true.mp known
      by_cases here : other = name
      · have found : (entries.lookup name).isSome = true := by
          rw [List.lookup_isSome_iff]
          exact ⟨entry, member, by rw [eq_of_beq same, here, beq_self_eq_true]⟩
        obtain ⟨line, found⟩ := Option.isSome_iff_exists.mp found
        rw [found, Option.some_or]
      · rw [if_neg here, Option.or_none]
  · rw [List.lookup_append]
    congr 1
    by_cases here : other = name
    · simp [here]
    · simp [here, Ne.symm here]

theorem lookup_entriesFrom (entries : List (String × Nat)) (number : Nat) (texts : List String) :
    (entriesFrom entries number texts).lookup name =
      (entries.lookup name).or (firstDefined name number texts) := by
  induction texts generalizing entries number with
  | nil => simp [entriesFrom, firstDefined]
  | cons text rest ih =>
      unfold entriesFrom firstDefined
      cases defined : definedName? text with
      | none => simpa using ih entries (number + 1)
      | some other =>
          dsimp only
          rw [ih, lookup_addEntry, Option.or_assoc]
          congr 1
          by_cases here : other = name <;> simp [here]

theorem Script.entryLine?_eq (script : Script) (name : String) :
    script.entryLine? name = firstDefined name 1 script.lines.toList := by
  rw [Script.entryLine?, script.entries_eq, lookup_entriesFrom]
  rfl

theorem firstDefined_append (number : Nat) (first second : List String) :
    firstDefined name number (first ++ second) =
      (firstDefined name number first).or
        (firstDefined name (number + first.length) second) := by
  induction first generalizing number with
  | nil => simp [firstDefined]
  | cons text rest ih =>
      rw [List.cons_append, firstDefined, firstDefined, ih, List.length_cons,
        show number + 1 + rest.length = number + (rest.length + 1) by omega]
      split <;> rfl

theorem firstDefined_add (number offset : Nat) (texts : List String) :
    firstDefined name (number + offset) texts =
      (firstDefined name number texts).map (· + offset) := by
  induction texts generalizing number with
  | nil => rfl
  | cons text rest ih =>
      rw [firstDefined, firstDefined, Nat.add_right_comm, ih]
      split <;> rfl

theorem firstDefined_isSome {number : Nat} {texts : List String} :
    (firstDefined name number texts).isSome = true ↔
      ∃ text ∈ texts, definedName? text = some name := by
  induction texts generalizing number with
  | nil => simp [firstDefined]
  | cons text rest ih =>
      rw [firstDefined]
      split
      · next defined => simp [defined]
      · next other => simp [ih, other]

theorem firstDefined_eq_none {number : Nat} {texts : List String}
    (nothing : ∀ text ∈ texts, definedName? text = none) :
    firstDefined name number texts = none := by
  induction texts generalizing number with
  | nil => rfl
  | cons text rest ih =>
      rw [firstDefined, nothing text List.mem_cons_self, if_neg (by simp)]
      exact ih fun other member => nothing other (List.mem_cons_of_mem text member)

theorem firstDefined_bounds {number line : Nat} {texts : List String}
    (found : firstDefined name number texts = some line) :
    number ≤ line ∧ line < number + texts.length := by
  induction texts generalizing number with
  | nil => cases found
  | cons text rest ih =>
      rw [firstDefined] at found
      rw [List.length_cons]
      split at found
      · cases found
        omega
      · have bounds := ih found
        omega

theorem Script.entryLine?_bounds {script : Script} {line : Nat}
    (found : script.entryLine? name = some line) : 0 < line ∧ line ≤ script.lineCount := by
  rw [script.entryLine?_eq] at found
  have bounds := firstDefined_bounds found
  rw [Array.length_toList] at bounds
  rw [Script.lineCount]
  omega

/-! ## Where definitions stand -/

variable {settings : Settings}

theorem Block.WellFormed.definedName? {block : Block} (formed : block.WellFormed settings)
    {text : String} (member : text ∈ block.lines) : definedName? text = none := by
  by_cases instruction : LineText.isInstruction text = true
  · exact LineText.definedName?_eq_none (formed.inside text member instruction).inner
  · refine LineText.definedName?_blank ?_
    simpa [LineText.isInstruction, formed.directives text member] using instruction

namespace Definition

theorem firstDefined_lines {definition : Definition} (formed : definition.WellFormed settings)
    (number : Nat) :
    firstDefined name number definition.lines =
      if definition.name = name then some (number + definition.blanks.length) else none := by
  have closer : LineScript.definedName? definition.closer = none := by
    refine LineText.definedName?_eq_none fun same => ?_
    have word := formed.closer.keyword
    rw [same] at word
    revert word
    decide
  rw [lines, firstDefined_append,
    firstDefined_eq_none fun text member => LineText.definedName?_blank (formed.blanks text member),
    Option.none_or, firstDefined, formed.header, firstDefined_eq_none]
  · simp
  · intro text member
    rcases List.mem_append.mp member with inside | last
    · exact formed.body.definedName? inside
    · rw [List.mem_singleton.mp last, closer]

theorem firstDefined_definitions {definitions : List Definition}
    (formed : ∀ definition ∈ definitions, definition.WellFormed settings) (above : Nat) :
    firstDefined name (above + 1) (definitions.flatMap lines) =
      (findFrom above name definitions).map Prod.fst := by
  induction definitions generalizing above with
  | nil => rfl
  | cons definition rest ih =>
      have others := ih (fun other member => formed other (List.mem_cons_of_mem _ member))
        (above + definition.lines.length)
      rw [List.flatMap_cons, firstDefined_append, firstDefined_lines (formed _ List.mem_cons_self),
        findFrom]
      split
      · rw [Option.some_or, Nat.add_right_comm]
        rfl
      · rw [Option.none_or, Nat.add_right_comm, others]

theorem hasLines_findFrom {script : Script} {definitions : List Definition} {above place : Nat}
    {definition : Definition} (found : findFrom above name definitions = some (place, definition))
    (has : script.HasLines above (definitions.flatMap lines)) :
    definition ∈ definitions ∧ definition.name = name ∧
      script.HasLines place (definition.body.lines ++ [definition.closer]) := by
  induction definitions generalizing above with
  | nil => cases found
  | cons first rest ih =>
      rw [List.flatMap_cons, Script.hasLines_append] at has
      unfold findFrom at found
      split at found
      · next same =>
          cases found
          have here := has.1
          rw [lines, Script.hasLines_append, Script.hasLines_cons] at here
          exact ⟨List.mem_cons_self, same, here.2.2⟩
      · obtain ⟨member, same, here⟩ := ih found has.2
        exact ⟨List.mem_cons_of_mem _ member, same, here⟩

end Definition

namespace Listing

variable {listing : Listing} {script : Script}

theorem entryLine?_eq (formed : listing.WellFormed settings)
    (printed : script.lines.toList = listing.lines) (name : String) :
    script.entryLine? name = (listing.find? name).map Prod.fst := by
  have below := fun text member => LineText.definedName?_blank (formed.blanks text member)
  rw [Script.entryLine?_eq, printed, lines, firstDefined_append, firstDefined_eq_none below,
    Option.or_none]
  exact Definition.firstDefined_definitions formed.definitions 0

theorem hasLines_find? (formed : listing.WellFormed settings)
    (printed : script.lines.toList = listing.lines) {place : Nat} {definition : Definition}
    (found : listing.find? name = some (place, definition)) :
    definition.WellFormed settings ∧ definition.name = name ∧
      script.HasLines place (definition.body.lines ++ [definition.closer]) := by
  have has : script.HasLines 0 (listing.definitions.flatMap Definition.lines) := by
    unfold Script.HasLines
    rw [printed]
    exact List.prefix_append _ _
  obtain ⟨member, same, here⟩ := Definition.hasLines_findFrom found has
  exact ⟨formed.definitions definition member, same, here⟩

theorem not_directive (formed : listing.WellFormed settings) {text : String}
    (member : text ∈ listing.lines) : isDirective text = false := by
  rcases List.mem_append.mp member with inside | below
  · obtain ⟨definition, listed, here⟩ := List.mem_flatMap.mp inside
    have well := formed.definitions definition listed
    simp only [Definition.lines, List.mem_append, List.mem_cons, List.not_mem_nil, or_false]
      at here
    rcases here with blank | rfl | body | rfl
    · exact LineText.not_directive_of_blank (well.blanks text blank)
    · exact LineText.not_directive_of_definedName? well.header
    · exact well.body.directives text body
    · have instruction := well.closer.instruction
      simp only [LineText.isInstruction, Bool.not_eq_true', Bool.or_eq_false_iff] at instruction
      exact instruction.2
  · exact LineText.not_directive_of_blank (formed.blanks text below)

end Listing

end LineScript
