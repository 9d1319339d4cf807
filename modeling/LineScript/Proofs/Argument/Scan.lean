import LineScript.Script.Argument
import Mathlib.Data.List.Infix

/-!
Reading arguments from a state between two of them. What is read already stays, a bare argument
loses the backslashes before its quotes, and a quoted text is the text that was written, unless it
ends in a backslash.
-/

namespace LineScript

namespace Piece

/-- The argument is quoted, or it is a word: some characters without a space. -/
def IsWord (piece : Piece) : Prop :=
  piece.quoted = false → piece.text ≠ "" ∧ ' ' ∉ piece.text.toList

/-- Reading the argument as it is written gives the argument back: a quoted text does not end in a
backslash, and anything else has no quote at its start or after a backslash. -/
def Rereadable (piece : Piece) : Prop :=
  if piece.quoted then piece.text.toList.getLast? ≠ some '\\'
  else piece.text.toList.head? ≠ some '"' ∧ ¬ ['\\', '"'] <:+: piece.text.toList

instance (piece : Piece) : Decidable piece.Rereadable :=
  inferInstanceAs (Decidable (if piece.quoted then _ else _))

@[simp]
theorem rereadable_quoted (text : String) :
    Rereadable ⟨text, true⟩ ↔ text.toList.getLast? ≠ some '\\' := by
  simp [Rereadable]

@[simp]
theorem rereadable_bare (text : String) :
    Rereadable ⟨text, false⟩ ↔
      text.toList.head? ≠ some '"' ∧ ¬ ['\\', '"'] <:+: text.toList := by
  simp [Rereadable]

@[simp]
theorem toList_written_quoted (text : String) :
    (written ⟨text, true⟩).toList = quoteChars text.toList := by
  simp [written]

@[simp]
theorem written_bare (text : String) : written ⟨text, false⟩ = text := by
  simp [written]

end Piece

def unescaped : List Char → List Char
  | '\\' :: '"' :: rest => '"' :: unescaped rest
  | c :: rest => c :: unescaped rest
  | [] => []

theorem length_unescaped_le (chars : List Char) : (unescaped chars).length ≤ chars.length := by
  induction chars using unescaped.induct with
  | case1 rest ih =>
      rw [unescaped]
      simp only [List.length_cons]
      omega
  | case2 c rest other ih =>
      rw [unescaped]
      · simpa using ih
      · exact other
  | case3 => simp [unescaped]

theorem unescaped_eq_self (chars : List Char) :
    unescaped chars = chars ↔ ¬ ['\\', '"'] <:+: chars := by
  induction chars using unescaped.induct with
  | case1 rest _ =>
      -- An escaped quote loses its backslash, so the text gets shorter.
      have shorter := length_unescaped_le rest
      have escaped : ['\\', '"'] <:+: '\\' :: '"' :: rest :=
        (List.prefix_append ['\\', '"'] rest).isInfix
      rw [unescaped]
      constructor
      · intro same
        have lengths := congrArg List.length same
        simp only [List.length_cons] at lengths
        omega
      · exact fun free => absurd escaped free
  | case2 c rest other ih =>
      have here : ¬ ['\\', '"'] <+: c :: rest := by
        rintro ⟨more, same⟩
        obtain ⟨rfl, rfl⟩ := List.cons.inj same
        exact other more rfl rfl
      rw [unescaped]
      · rw [List.cons.injEq, List.infix_cons_iff]
        simp [here, ih]
      · exact other
  | case3 => simp [unescaped]

theorem unescaped_ne_nil {chars : List Char} (nonempty : chars ≠ []) : unescaped chars ≠ [] := by
  intro none
  induction chars using unescaped.induct with
  | case1 rest _ => simp [unescaped] at none
  | case2 c rest other _ =>
      rw [unescaped] at none
      · cases none
      · exact other
  | case3 => exact nonempty rfl

namespace Scan

/-! ## One character -/

/-- Between two arguments: those before are read, and the next one may start. -/
def between (pieces : List Piece) : Scan :=
  ⟨pieces, [], false, false, true⟩

theorem step_other {c : Char} (scan : Scan) (other : c ≠ '"') : scan.step c = scan.plain c := by
  simp [step, other]

theorem plain_inside {scan : Scan} (c : Char) (inside : scan.inQuotes = true) :
    scan.plain c =
      { scan with current := c :: scan.current, escaping := c == '\\', atStart := c == ' ' } := by
  simp [plain, inside]

theorem plain_nonspace {c : Char} (scan : Scan) (other : c ≠ ' ') :
    scan.plain c =
      { scan with current := c :: scan.current, escaping := c == '\\', atStart := false } := by
  simp [plain, other]

theorem step_pieces (scan : Scan) (c : Char) : scan.pieces <:+ (scan.step c).pieces := by
  unfold step plain close
  split_ifs <;> simp

theorem finish_foldl (chars : List Char) (scan : Scan) :
    scan.pieces.reverse <+: (chars.foldl step scan).finish := by
  induction chars generalizing scan with
  | nil =>
      rw [List.foldl_nil, finish, List.reverse_prefix]
      split_ifs
      · exact List.suffix_cons _ _
      · exact List.suffix_rfl
  | cons c rest ih =>
      exact (List.reverse_prefix.mpr (scan.step_pieces c)).trans (ih (scan.step c))

/-! ## Arguments below others -/

def after (before : List Piece) (scan : Scan) : Scan :=
  { scan with pieces := scan.pieces ++ before }

variable {before : List Piece}

theorem step_after (scan : Scan) (c : Char) :
    (scan.after before).step c = (scan.step c).after before := by
  unfold step plain close after
  split_ifs <;> simp_all

theorem foldl_after (chars : List Char) (scan : Scan) :
    chars.foldl step (scan.after before) = (chars.foldl step scan).after before := by
  induction chars generalizing scan with
  | nil => rfl
  | cons c rest ih => rw [List.foldl_cons, step_after, ih, List.foldl_cons]

theorem finish_after (scan : Scan) :
    (scan.after before).finish = before.reverse ++ scan.finish := by
  unfold finish close after
  split_ifs <;> simp_all

/-! ## Words -/

/-- The arguments that are read are words or quoted, and the one that is being read has no space
unless it is quoted. -/
structure Spaced (scan : Scan) : Prop where
  pieces : ∀ piece ∈ scan.pieces, piece.IsWord
  current : scan.inQuotes = false → ' ' ∉ scan.current

theorem Spaced.close {scan : Scan} (spaced : scan.Spaced) (quoted : Bool)
    (word : quoted = false → scan.inQuotes = false ∧ scan.current ≠ []) :
    ∀ piece ∈ scan.close quoted, piece.IsWord := by
  intro piece member
  obtain rfl | before := List.mem_cons.mp member
  · intro bare
    obtain ⟨outside, nonempty⟩ := word bare
    exact ⟨by simpa using nonempty, by simpa using spaced.current outside⟩
  · exact spaced.pieces piece before

theorem Spaced.plain {scan : Scan} (spaced : scan.Spaced) (c : Char) : (scan.plain c).Spaced := by
  unfold Scan.plain
  split_ifs with space empty
  · exact ⟨spaced.pieces, fun _ => List.not_mem_nil⟩
  · have outside : scan.inQuotes = false := by simp_all
    have word := spaced.close false fun _ => ⟨outside, by simpa using empty⟩
    exact ⟨word, fun _ => List.not_mem_nil⟩
  · refine ⟨spaced.pieces, fun outside => ?_⟩
    change scan.inQuotes = false at outside
    have other : ' ' ≠ c := fun same => space (by simp [outside, ← same])
    exact List.not_mem_cons_of_ne_of_not_mem other (spaced.current outside)

theorem Spaced.step {scan : Scan} (spaced : scan.Spaced) (c : Char) : (scan.step c).Spaced := by
  unfold Scan.step
  split_ifs with other escaping inside start
  · exact spaced.plain c
  · refine ⟨spaced.pieces, fun outside => ?_⟩
    exact List.not_mem_cons_of_ne_of_not_mem (by decide)
      fun member => spaced.current outside (List.mem_of_mem_tail member)
  · exact ⟨spaced.close true (fun bare => nomatch bare), fun _ => List.not_mem_nil⟩
  · exact ⟨spaced.pieces, fun outside => nomatch outside⟩
  · exact spaced.plain c

theorem Spaced.foldl {scan : Scan} (spaced : scan.Spaced) (chars : List Char) :
    (chars.foldl Scan.step scan).Spaced := by
  induction chars generalizing scan with
  | nil => exact spaced
  | cons c rest ih => exact ih (spaced.step c)

theorem Spaced.finish {scan : Scan} (spaced : scan.Spaced) :
    ∀ piece ∈ scan.finish, piece.IsWord := by
  intro piece member
  rw [Scan.finish, List.mem_reverse] at member
  split_ifs at member with more
  · refine spaced.close scan.inQuotes (fun outside => ⟨outside, ?_⟩) piece member
    simpa [outside] using more
  · exact spaced.pieces piece member

/-! ## One argument -/

/-- These arguments are read, last first, and another one may follow after a space. -/
structure Reads (pieces : List Piece) (scan : Scan) : Prop where
  space : scan.step ' ' = between pieces
  finish : scan.finish = pieces.reverse

theorem reads_between (pieces : List Piece) : Reads pieces (between pieces) :=
  ⟨rfl, rfl⟩

theorem Reads.finish_foldl {pieces : List Piece} {scan : Scan} (reads : Reads pieces scan)
    {more : List Char} (apart : ∀ c, more.head? = some c → c = ' ') :
    pieces.reverse <+: (more.foldl step scan).finish := by
  cases more with
  | nil =>
      rw [List.foldl_nil, reads.finish]
  | cons c rest =>
      have space := apart c rfl
      subst space
      rw [List.foldl_cons, reads.space]
      exact Scan.finish_foldl rest (between pieces)

theorem foldl_quoted (chars : List Char) (pieces : List Piece) (current : List Char)
    (escaping atStart : Bool) :
    ∃ atStart', (chars.flatMap (fun c => if c == '"' then ['\\', '"'] else [c])).foldl step
        ⟨pieces, current, true, escaping, atStart⟩ =
      ⟨pieces, chars.reverse ++ current, true,
        (chars.getLast?.map (· == '\\')).getD escaping, atStart'⟩ := by
  induction chars generalizing current escaping atStart with
  | nil => exact ⟨atStart, rfl⟩
  | cons c rest ih =>
      have last : ((c :: rest).getLast?.map (· == '\\')).getD escaping =
          (rest.getLast?.map (· == '\\')).getD (c == '\\') := by
        rw [List.getLast?_cons]
        cases rest.getLast? <;> simp
      rw [List.flatMap_cons, List.foldl_append, last, List.reverse_cons, List.append_assoc]
      by_cases quote : c = '"'
      · subst quote
        exact ih ('"' :: current) false false
      · have here : (if (c == '"') = true then ['\\', '"'] else [c]) = [c] := by simp [quote]
        rw [here, List.foldl_cons, List.foldl_nil, step_other _ quote, plain_inside c rfl]
        exact ih (c :: current) (c == '\\') (c == ' ')

theorem foldl_quoteChars (chars : List Char) (pieces : List Piece) :
    ∃ atStart, (Piece.quoteChars chars).foldl step (between pieces) =
      step ⟨pieces, chars.reverse, true, chars.getLast? == some '\\', atStart⟩ '"' := by
  obtain ⟨atStart, read⟩ := foldl_quoted chars pieces [] false false
  have last : (chars.getLast?.map (· == '\\')).getD false = (chars.getLast? == some '\\') := by
    cases chars.getLast? <;> simp
  refine ⟨atStart, ?_⟩
  rw [List.append_nil, last] at read
  rw [← read, Piece.quoteChars, List.foldl_append]
  rfl

theorem reads_quoted {chars : List Char} (closed : chars.getLast? ≠ some '\\')
    (pieces : List Piece) :
    Reads (⟨String.ofList chars, true⟩ :: pieces)
      ((Piece.quoteChars chars).foldl step (between pieces)) := by
  obtain ⟨atStart, read⟩ := foldl_quoteChars chars pieces
  have ready : (chars.getLast? == some '\\') = false := by simpa using closed
  have whole : (Piece.quoteChars chars).foldl step (between pieces) =
      ⟨⟨String.ofList chars, true⟩ :: pieces, [], false, false, false⟩ := by
    rw [read, ready]
    simp [step, close]
  rw [whole]
  exact ⟨rfl, rfl⟩

/-- After a backslash at the end of a text, the closing quote is one of its characters. -/
theorem foldl_unclosed (front : List Char) (pieces : List Piece) :
    (Piece.quoteChars (front ++ ['\\'])).foldl step (between pieces) =
      ⟨pieces, '"' :: front.reverse, true, false, false⟩ := by
  obtain ⟨atStart, read⟩ := foldl_quoteChars (front ++ ['\\']) pieces
  rw [read]
  simp [step]

theorem foldl_bare (chars : List Char) (pieces : List Piece) (current : List Char)
    (escaping : Bool) (word : ' ' ∉ chars)
    (fresh : escaping = true → chars.head? ≠ some '"') :
    ∃ escaping', chars.foldl step ⟨pieces, current, false, escaping, false⟩ =
      ⟨pieces, (unescaped chars).reverse ++ current, false, escaping', false⟩ := by
  induction chars using unescaped.induct generalizing current escaping with
  | case1 rest ih =>
      obtain ⟨escaping', read⟩ := ih ('"' :: current) false (by simp_all) (by simp)
      refine ⟨escaping', ?_⟩
      rw [unescaped, List.reverse_cons, List.append_assoc]
      exact read
  | case2 c rest other ih =>
      have nonspace : c ≠ ' ' := by
        rintro rfl
        exact word List.mem_cons_self
      have plain : step ⟨pieces, current, false, escaping, false⟩ c =
          ⟨pieces, c :: current, false, c == '\\', false⟩ := by
        by_cases quote : c = '"'
        · subst quote
          cases escaping with
          | true => simp at fresh
          | false => rfl
        · rw [step_other _ quote, plain_nonspace _ nonspace]
      have next : (c == '\\') = true → rest.head? ≠ some '"' := by
        intro backslash quote
        obtain ⟨more, rfl⟩ := List.head?_eq_some_iff.mp quote
        exact other more (by simpa using backslash) rfl
      obtain ⟨escaping', read⟩ :=
        ih (c :: current) (c == '\\') (fun member => word (List.mem_cons_of_mem _ member)) next
      refine ⟨escaping', ?_⟩
      rw [unescaped, List.foldl_cons, plain, read, List.reverse_cons, List.append_assoc]
      · rfl
      · exact other
  | case3 => exact ⟨escaping, rfl⟩

theorem reads_bare {chars : List Char} (nonempty : chars ≠ []) (word : ' ' ∉ chars)
    (start : chars.head? ≠ some '"') (pieces : List Piece) :
    Reads (⟨String.ofList (unescaped chars), false⟩ :: pieces)
      (chars.foldl step (between pieces)) := by
  have same : chars.foldl step (between pieces) =
      chars.foldl step ⟨pieces, [], false, false, false⟩ := by
    cases chars with
    | nil => exact absurd rfl nonempty
    | cons c rest =>
        have other : c ≠ '"' := by simpa using start
        have nonspace : c ≠ ' ' := by
          rintro rfl
          exact word List.mem_cons_self
        rw [List.foldl_cons, List.foldl_cons, step_other _ other, step_other _ other,
          plain_nonspace _ nonspace, plain_nonspace _ nonspace]
        rfl
  obtain ⟨escaping, read⟩ := foldl_bare chars pieces [] false word (by simp)
  have kept := unescaped_ne_nil nonempty
  rw [same, read]
  constructor
  · rw [step_other _ (by decide)]
    simp [plain, close, between, kept]
  · simp [Scan.finish, close, kept]

/-! ## An argument that is open -/

theorem suffix_of_keeps {kept current : List Char} {escaping : Bool}
    (keeps : kept <:+ if escaping then current.tail else current) : kept <:+ current := by
  split_ifs at keeps
  · exact keeps.trans (List.tail_suffix current)
  · exact keeps

/-- An open quoted text keeps its characters, except that a backslash before a quote is dropped. -/
theorem finish_inside (chars : List Char) (pieces : List Piece) (kept current : List Char)
    (escaping atStart : Bool) (keeps : kept <:+ if escaping then current.tail else current) :
    ∃ more, pieces.reverse ++ [⟨String.ofList (kept.reverse ++ more), true⟩] <+:
      (chars.foldl step ⟨pieces, current, true, escaping, atStart⟩).finish := by
  induction chars generalizing current escaping atStart with
  | nil =>
      obtain ⟨more, text⟩ := List.reverse_prefix.mpr (suffix_of_keeps keeps)
      refine ⟨more, ?_⟩
      rw [text]
      simp [Scan.finish, close]
  | cons c rest ih =>
      by_cases quote : c = '"'
      · subst quote
        -- An escaped quote takes the place of its backslash, which `kept` does not count.
        cases escaping with
        | true => exact ih ('"' :: current.tail) false false (keeps.trans (List.suffix_cons _ _))
        | false =>
            obtain ⟨more, text⟩ := List.reverse_prefix.mpr (suffix_of_keeps keeps)
            have read := finish_foldl rest
              ⟨⟨String.ofList current.reverse, true⟩ :: pieces, [], false, false, false⟩
            rw [List.reverse_cons] at read
            refine ⟨more, ?_⟩
            rw [text]
            exact read
      · have here := suffix_of_keeps keeps
        rw [List.foldl_cons, step_other _ quote, plain_inside c rfl]
        refine ih (c :: current) (c == '\\') (c == ' ') ?_
        split_ifs
        · exact here
        · exact here.trans (List.suffix_cons _ _)

theorem length_inside (chars : List Char) (pieces : List Piece) (current : List Char)
    (escaping atStart : Bool) :
    ∃ text, pieces.reverse ++ [⟨String.ofList text, true⟩] <+:
        (chars.foldl step ⟨pieces, current, true, escaping, atStart⟩).finish ∧
      (' ' ∉ text → text.length ≤ current.length + (chars.takeWhile (· != ' ')).length) := by
  induction chars generalizing current escaping atStart with
  | nil => exact ⟨current.reverse, by simp [Scan.finish, close], by simp⟩
  | cons c rest ih =>
      by_cases quote : c = '"'
      · subst quote
        cases escaping with
        | true =>
            obtain ⟨text, found, short⟩ := ih ('"' :: current.tail) false false
            refine ⟨text, found, fun free => ?_⟩
            have bound := short free
            rw [List.takeWhile_cons_of_pos (by decide)]
            simp only [List.length_cons, List.length_tail] at bound ⊢
            omega
        | false =>
            have read := finish_foldl rest
              ⟨⟨String.ofList current.reverse, true⟩ :: pieces, [], false, false, false⟩
            rw [List.reverse_cons] at read
            exact ⟨current.reverse, read, fun _ => by simp⟩
      · rw [List.foldl_cons, step_other _ quote, plain_inside c rfl]
        by_cases space : c = ' '
        · subst space
          obtain ⟨more, found⟩ := finish_inside rest pieces (' ' :: current) (' ' :: current) false
            true List.suffix_rfl
          exact ⟨_, found, fun free => absurd (by simp) free⟩
        · obtain ⟨text, found, short⟩ := ih (c :: current) (c == '\\') (c == ' ')
          refine ⟨text, found, fun free => ?_⟩
          have bound := short free
          rw [List.takeWhile_cons_of_pos (p := (· != ' ')) (by simpa using space)]
          simp only [List.length_cons] at bound ⊢
          omega

end Scan

theorem isWord_piecesOf (tokens : List String) : ∀ piece ∈ piecesOf tokens, piece.IsWord := by
  have initial : Scan.initial.Spaced := ⟨by simp [Scan.initial], by simp [Scan.initial]⟩
  exact (initial.foldl (argumentText tokens)).finish

end LineScript
