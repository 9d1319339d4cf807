import LineScript.Proofs.Argument.Scan
import LineScript.Proofs.Argument.Count
import LineScript.Proofs.Block.Listing
import Mathlib.Data.Nat.Find

/-!
The names that a script defines. The index of a script takes what stands between the first two
spaces of a line as the name, and the line itself has arguments, the first of which is the name when
the line is executed. Both agree on the lines on which the name stands right after a single space,
without a quote at its start and without an escaped quote inside.
-/

namespace LineScript

namespace LineText

def firstArgument? (text : String) : Option String :=
  (pieces text).head?.map Piece.text

def Names (name text : String) : Prop :=
  keyword text = "DEF" ∧ firstArgument? text = some name

/-- The line defines the name, and the name is written so that it is the first argument. -/
def DefinesPlainly (name text : String) : Prop :=
  definedName? text = some name ∧
    if name = "" then (pieces text).head? = some ⟨"", true⟩
    else name.toList.head? ≠ some '"' ∧ ¬ ['\\', '"'] <:+: name.toList

instance (name text : String) : Decidable (Names name text) :=
  inferInstanceAs (Decidable (_ ∧ _))

instance (name text : String) : Decidable (DefinesPlainly name text) :=
  inferInstanceAs (Decidable (_ ∧ if name = "" then _ else _))

/-! ## One line -/

theorem argumentText_of_definedName? {text name : String}
    (defined : definedName? text = some name) :
    ' ' ∉ name.toList ∧ ∃ more, argumentText (tokenize text) = name.toList ++ more ∧
      ∀ c, more.head? = some c → c = ' ' := by
  have solid : Text.stripChars text.toList ≠ [] := by
    intro blank
    unfold definedName? tokenize at defined
    rw [blank] at defined
    cases defined
  have tokens := tokenize_eq solid
  generalize Text.stripChars text.toList = chars at tokens
  unfold definedName? at defined
  rw [tokens] at defined ⊢
  by_cases space : ' ' ∈ chars
  · obtain ⟨first, rest, rfl, word⟩ := List.eq_append_cons_of_mem space
    rw [argumentText_splitOn word]
    obtain ⟨second, others, more, parts, single, rfl, apart⟩ := exists_splitOn rest
    rw [splitOn_space word, parts, List.map_cons, List.map_cons] at defined
    dsimp only at defined
    split at defined
    · cases defined
      rw [String.toList_ofList]
      exact ⟨single, more, rfl, apart⟩
    · cases defined
  · rw [List.splitOn_eq_singleton space] at defined
    cases defined

theorem firstArgument?_of_first {text : String} {piece : Piece} (first : [piece] <+: pieces text) :
    firstArgument? text = some piece.text := by
  obtain ⟨others, same⟩ := first
  rw [firstArgument?, ← same]
  rfl

theorem takeWhile_apart {word more : List Char} (free : ' ' ∉ word)
    (apart : ∀ c, more.head? = some c → c = ' ') :
    (word ++ more).takeWhile (· != ' ') = word := by
  have others : more.takeWhile (· != ' ') = [] := by
    cases more with
    | nil => rfl
    | cons c rest => exact List.takeWhile_cons_of_neg (by simp [apart c rfl])
  rw [List.takeWhile_append_of_pos fun c member => ?_, others, List.append_nil]
  rw [bne_iff_ne]
  exact fun same => free (same ▸ member)

section Defined

variable {text name : String}

theorem firstArgument?_bare (defined : definedName? text = some name) (nonempty : name ≠ "")
    (start : name.toList.head? ≠ some '"') :
    firstArgument? text = some (String.ofList (unescaped name.toList)) := by
  obtain ⟨word, more, arguments, apart⟩ := argumentText_of_definedName? defined
  have found := (Scan.reads_bare (by simpa using nonempty) word start []).finish_foldl apart
  rw [← List.foldl_append, ← arguments] at found
  exact firstArgument?_of_first found

theorem firstArgument?_quoted (defined : definedName? text = some name)
    (start : name.toList.head? = some '"') : firstArgument? text ≠ some name := by
  obtain ⟨word, more, arguments, apart⟩ := argumentText_of_definedName? defined
  obtain ⟨rest, begins⟩ := List.head?_eq_some_iff.mp start
  obtain ⟨quoted, found, short⟩ := Scan.length_inside (rest ++ more) [] [] false false
  have inner : ' ' ∉ rest := fun member => word (begins ▸ List.mem_cons_of_mem _ member)
  rw [takeWhile_apart inner apart] at short
  have first : [⟨String.ofList quoted, true⟩] <+: pieces text := by
    rw [pieces, piecesOf, arguments, begins]
    exact found
  rw [firstArgument?_of_first first]
  intro same
  have chars : quoted = '"' :: rest := by
    rw [← begins, ← Option.some.inj same, String.toList_ofList]
  have bound := short (chars ▸ begins ▸ word)
  rw [chars, List.length_cons, List.length_nil] at bound
  omega

theorem firstArgument?_empty :
    firstArgument? text = some "" ↔ (pieces text).head? = some ⟨"", true⟩ := by
  unfold firstArgument?
  cases first : (pieces text).head? with
  | none => simp
  | some piece =>
      obtain ⟨text, quoted⟩ := piece
      have filled := isWord_piecesOf _ _ (List.mem_of_head? first)
      cases quoted with
      | true => simp
      | false => simpa using (filled rfl).1

theorem names_of_defined (defined : definedName? text = some name) :
    Names name text ↔ DefinesPlainly name text := by
  unfold Names DefinesPlainly
  rw [and_iff_right (keyword_of_definedName? defined), and_iff_right defined]
  split_ifs with empty
  · rw [empty]
    exact firstArgument?_empty
  · by_cases start : name.toList.head? = some '"'
    · exact iff_of_false (firstArgument?_quoted defined start) (fun plain => plain.1 start)
    · rw [firstArgument?_bare defined empty start, and_iff_right start, ← unescaped_eq_self,
        Option.some.injEq, ← String.toList_inj, String.toList_ofList]

end Defined

theorem isInstruction_of_definition {text : String} (definition : keyword text = "DEF") :
    isInstruction text = true := by
  have other {c : Char} {rest : List Char} (stripped : Text.stripChars text.toList = c :: rest)
      (mark : c = ';' ∨ c = '[') : False := by
    have head : (keyword text).toList.head? = some c := by
      rcases mark with rfl | rfl
      · exact head?_keyword stripped (by decide) (by decide)
      · exact head?_keyword stripped (by decide) (by decide)
    rw [definition] at head
    rcases mark with rfl | rfl <;> exact absurd head (by decide)
  unfold isInstruction isSkippable isDirective
  cases stripped : Text.stripChars text.toList with
  | nil =>
      unfold keyword tokenize at definition
      rw [stripped] at definition
      exact absurd definition (by decide)
  | cons c rest =>
      have blank : c ≠ ';' := fun mark => other stripped (.inl mark)
      have mode : c ≠ '[' := fun mark => other stripped (.inr mark)
      simp [blank, mode]

end LineText

/-! ## The first line of its kind -/

namespace Script

def FirstLine (script : Script) (property : String → Prop) (number : Nat) : Prop :=
  (∃ text, script.line? number = some text ∧ property text) ∧
    ∀ before < number, ∀ text, script.line? before = some text → ¬ property text

/-- The statement is a definition, and the first argument on its line is the name. -/
def isNamed (script : Script) (name : String) (statement : Statement) : Bool :=
  statement.keyword == "DEF" &&
    (script.line? statement.number).bind LineText.firstArgument? == some name

def firstNamed? (script : Script) (name : String) : Option Nat :=
  (script.statements.find? (script.isNamed name)).map Statement.number

variable {script : Script} {name : String} {property other : String → Prop} {first second : Nat}

theorem FirstLine.unique (one : script.FirstLine property first)
    (two : script.FirstLine property second) : first = second := by
  obtain ⟨text, found, holds⟩ := one.1
  obtain ⟨line, same, kept⟩ := two.1
  rcases Nat.lt_trichotomy first second with early | same | late
  · exact absurd holds (two.2 first early text found)
  · exact same
  · exact absurd kept (one.2 second late line same)

theorem exists_firstLine (property : String → Prop) {number : Nat} {text : String}
    (found : script.line? number = some text) (holds : property text) :
    ∃ number, script.FirstLine property number := by
  classical
  have some : ∃ number text, script.line? number = some text ∧ property text :=
    ⟨number, text, found, holds⟩
  refine ⟨Nat.find some, Nat.find_spec some, fun before early text found holds => ?_⟩
  exact Nat.find_min some early ⟨text, found, holds⟩

theorem FirstLine.of_either {number : Nat} {text : String}
    (first : script.FirstLine (fun text => property text ∨ other text) number)
    (found : script.line? number = some text) :
    (property text → script.FirstLine property number) ∧
      (other text → script.FirstLine other number) :=
  ⟨fun holds => ⟨⟨text, found, holds⟩, fun before early line same kept =>
      first.2 before early line same (.inl kept)⟩,
    fun holds => ⟨⟨text, found, holds⟩, fun before early line same kept =>
      first.2 before early line same (.inr kept)⟩⟩

/-- Two searches have the same result exactly if the first line that either of them accepts is
accepted by both. -/
theorem first_eq_iff {one two : Option Nat}
    (finds : ∀ number, one = some number ↔ script.FirstLine property number)
    (seeks : ∀ number, two = some number ↔ script.FirstLine other number) :
    one = two ↔ ∀ number text,
      script.FirstLine (fun text => property text ∨ other text) number →
      script.line? number = some text → property text ∧ other text := by
  constructor
  · intro same number text first found
    have here {line : String} (place : script.line? number = some line) : line = text :=
      Option.some.inj (place.symm.trans found)
    obtain ⟨line, place, either⟩ := first.1
    have holds : property text → other text := fun holds => by
      have sought := (seeks number).mp
        (same.symm.trans ((finds number).mpr ((first.of_either found).1 holds)))
      obtain ⟨line, place, kept⟩ := sought.1
      exact here place ▸ kept
    have kept : other text → property text := fun kept => by
      have sought := (finds number).mp
        (same.trans ((seeks number).mpr ((first.of_either found).2 kept)))
      obtain ⟨line, place, holds⟩ := sought.1
      exact here place ▸ holds
    rcases here place ▸ either with one | two
    · exact ⟨one, holds one⟩
    · exact ⟨kept two, two⟩
  · intro agree
    by_cases known : ∃ number text, script.line? number = some text ∧ (property text ∨ other text)
    -- The first line with either property is the first one with each of them.
    · obtain ⟨number, text, place, either⟩ := known
      obtain ⟨least, first⟩ :=
        exists_firstLine (fun text => property text ∨ other text) place either
      obtain ⟨line, here, -⟩ := first.1
      obtain ⟨holds, kept⟩ := agree least line first here
      rw [(finds least).mpr ((first.of_either here).1 holds),
        (seeks least).mpr ((first.of_either here).2 kept)]
    · have lost : one = none := Option.eq_none_iff_forall_ne_some.mpr fun number found => by
        obtain ⟨text, place, holds⟩ := ((finds number).mp found).1
        exact known ⟨number, text, place, .inl holds⟩
      have absent : two = none := Option.eq_none_iff_forall_ne_some.mpr fun number found => by
        obtain ⟨text, place, kept⟩ := ((seeks number).mp found).1
        exact known ⟨number, text, place, .inr kept⟩
      rw [lost, absent]

theorem firstDefined_eq_some {number line : Nat} {texts : List String} :
    firstDefined name number texts = some line ↔
      ∃ index text, line = number + index ∧ texts[index]? = some text ∧
        definedName? text = some name ∧
        ∀ before < index, ∀ text, texts[before]? = some text → definedName? text ≠ some name := by
  induction texts generalizing number with
  | nil => simp [firstDefined]
  | cons head rest ih =>
      rw [firstDefined]
      split_ifs with here
      · constructor
        · intro same
          cases same
          exact ⟨0, head, rfl, rfl, here, fun before early => absurd early (Nat.not_lt_zero _)⟩
        · rintro ⟨index, text, rfl, -, -, others⟩
          cases index with
          | zero => rfl
          | succ index => exact absurd here (others 0 (Nat.succ_pos _) head rfl)
      · rw [ih]
        constructor
        · rintro ⟨index, text, rfl, found, defined, others⟩
          refine ⟨index + 1, text, by omega, found, defined, fun before early text same => ?_⟩
          cases before with
          | zero =>
              cases same
              exact here
          | succ before => exact others before (by omega) text same
        · rintro ⟨index, text, rfl, found, defined, others⟩
          cases index with
          | zero =>
              cases found
              exact absurd defined here
          | succ index =>
              exact ⟨index, text, by omega, found, defined, fun before early text same =>
                others (before + 1) (by omega) text same⟩

theorem entryLine?_eq_some (script : Script) (name : String) (number : Nat) :
    script.entryLine? name = some number ↔
      script.FirstLine (fun text => definedName? text = some name) number := by
  rw [entryLine?_eq, firstDefined_eq_some]
  constructor
  · rintro ⟨index, text, rfl, found, defined, others⟩
    refine ⟨⟨text, ?_, defined⟩, fun before early text same => ?_⟩
    · rw [Nat.add_comm, line?_succ, found]
    · cases before with
      | zero => cases same
      | succ before => exact others before (by omega) text (line?_succ before ▸ same)
  · rintro ⟨⟨text, found, defined⟩, others⟩
    cases number with
    | zero => cases found
    | succ index =>
        refine ⟨index, text, Nat.add_comm _ _, line?_succ index ▸ found, defined, ?_⟩
        intro before early text same
        exact others (before + 1) (by omega) text (line?_succ before ▸ same)

theorem isNamed_iff {statement : Statement} (member : statement ∈ script.statements) :
    script.isNamed name statement = true ↔
      ∃ text, script.line? statement.number = some text ∧ LineText.Names name text := by
  obtain ⟨text, found, -, keyword, -⟩ := line?_of_mem_statements member
  rw [isNamed, Bool.and_eq_true, beq_iff_eq, beq_iff_eq, found, Option.bind_some, keyword]
  constructor
  · exact fun named => ⟨text, rfl, named⟩
  · rintro ⟨line, here, named⟩
    cases here
    exact named

theorem exists_statement_of_names {number : Nat} {text : String}
    (found : script.line? number = some text) (named : LineText.Names name text) :
    ∃ statement ∈ script.statements, statement.number = number ∧
      script.isNamed name statement = true := by
  cases number with
  | zero => cases found
  | succ index =>
      have member := mem_statements found (LineText.isInstruction_of_definition named.1)
      exact ⟨_, member, rfl, (isNamed_iff member).mpr ⟨text, found, named⟩⟩

theorem firstLine_of_find? {statement : Statement}
    (found : script.statements.find? (script.isNamed name) = some statement) :
    script.FirstLine (LineText.Names name) statement.number := by
  have increasing := statementsFrom_increasing 1 script.lines.toList
  rw [← script.statements_eq] at increasing
  obtain ⟨named, before, after, split, others⟩ := List.find?_eq_some_iff_append.mp found
  have member : statement ∈ script.statements := List.mem_of_find?_eq_some found
  refine ⟨(isNamed_iff member).mp named, fun number early text place kept => ?_⟩
  obtain ⟨other, listed, rfl, same⟩ := exists_statement_of_names place kept
  rw [split] at listed increasing
  obtain ⟨-, later, -⟩ := List.pairwise_append.mp increasing
  rcases List.mem_append.mp listed with above | below
  · have unnamed := others other above
    rw [same] at unnamed
    cases unnamed
  · rcases List.mem_cons.mp below with rfl | below
    · exact Nat.lt_irrefl _ early
    · exact Nat.lt_asymm early ((List.pairwise_cons.mp later).1 other below)

theorem firstNamed?_eq_some (script : Script) (name : String) (number : Nat) :
    script.firstNamed? name = some number ↔ script.FirstLine (LineText.Names name) number := by
  rw [firstNamed?, Option.map_eq_some_iff]
  constructor
  · rintro ⟨statement, found, rfl⟩
    exact firstLine_of_find? found
  · intro first
    obtain ⟨text, place, named⟩ := first.1
    obtain ⟨statement, member, -, same⟩ := exists_statement_of_names place named
    cases found : script.statements.find? (script.isNamed name) with
    | none => exact absurd same (List.find?_eq_none.mp found statement member)
    | some other => exact ⟨other, rfl, (firstLine_of_find? found).unique first⟩

/-- A name is entered at the first definition that has it as its first argument, exactly if the
first line that could be either of both defines the name plainly. -/
theorem entryLine_firstNamed_iff (script : Script) (name : String) :
    script.entryLine? name = script.firstNamed? name ↔ ∀ number text,
      script.FirstLine
        (fun text => definedName? text = some name ∨ LineText.Names name text) number →
      script.line? number = some text → LineText.DefinesPlainly name text := by
  rw [first_eq_iff (script.entryLine?_eq_some name) (script.firstNamed?_eq_some name)]
  refine forall₄_congr fun number text first found => ?_
  constructor
  · rintro ⟨defined, named⟩
    exact (LineText.names_of_defined defined).mp named
  · intro plain
    exact ⟨plain.1, (LineText.names_of_defined plain.1).mpr plain⟩

def spacedExample : Script :=
  ofText "<string>" "DEF  main\nENDDEF"

theorem unindexed_spacedExample :
    spacedExample.entryLine? "main" = none ∧ spacedExample.firstNamed? "main" = some 1 := by
  decide

end Script

end LineScript
