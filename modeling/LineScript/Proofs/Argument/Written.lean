import LineScript.Proofs.Argument.Count
import LineScript.Proofs.Argument.Scan

/-!
Arguments that are written down and read again. A line that is written from a keyword and from
arguments has these arguments; and the arguments that are read from any line can be written and read
again exactly if each of them can.
-/

namespace LineScript

/-! ## Written arguments -/

def writtenAfter (pieces : List Piece) : List Char :=
  pieces.flatMap fun piece => ' ' :: piece.written.toList

theorem head?_writtenAfter (pieces : List Piece) (c : Char)
    (first : (writtenAfter pieces).head? = some c) : c = ' ' := by
  cases pieces with
  | nil => cases first
  | cons piece rest => exact (Option.some.inj first).symm

def writtenLine (keyword : String) (pieces : List Piece) : String :=
  " ".intercalate (keyword :: pieces.map Piece.written)

theorem toList_writtenLine (keyword : String) (pieces : List Piece) :
    (writtenLine keyword pieces).toList = keyword.toList ++ writtenAfter pieces := by
  unfold writtenLine writtenAfter
  rw [String.toList_intercalate, List.map_cons]
  generalize keyword.toList = first
  induction pieces generalizing first with
  | nil => simp
  | cons piece rest ih =>
      rw [List.map_cons, List.map_cons, List.intercalate_cons_cons, ih piece.written.toList]
      simp

theorem argumentText_written (keyword : String) (piece : Piece) (rest : List Piece) :
    ' ' :: argumentText (keyword :: (piece :: rest).map Piece.written) =
      writtenAfter (piece :: rest) := by
  change ' ' :: (writtenLine piece.written rest).toList = _
  rw [toList_writtenLine]
  rfl

namespace Scan

variable {pieces : List Piece} {scan : Scan}

theorem reads_written {piece : Piece} (word : piece.IsWord) (kept : piece.Rereadable)
    (pieces : List Piece) :
    Reads (piece :: pieces) (piece.written.toList.foldl step (between pieces)) := by
  obtain ⟨text, quoted⟩ := piece
  cases quoted with
  | true =>
      have read := reads_quoted ((Piece.rereadable_quoted text).mp kept) pieces
      rwa [Piece.toList_written_quoted, ← String.ofList_toList (s := text),
        String.toList_ofList]
  | false =>
      obtain ⟨nonempty, free⟩ := word rfl
      obtain ⟨start, plain⟩ := (Piece.rereadable_bare text).mp kept
      have read := reads_bare (by simpa using nonempty) free start pieces
      rwa [(unescaped_eq_self _).mpr plain, String.ofList_toList] at read

theorem misread_quoted {text : String} (lost : text.toList.getLast? = some '\\')
    (pieces others : List Piece) :
    ∃ other ≠ (⟨text, true⟩ : Piece), pieces.reverse ++ [other] <+:
      (((Piece.written ⟨text, true⟩).toList ++ writtenAfter others).foldl step
        (between pieces)).finish := by
  obtain ⟨front, ends⟩ := List.getLast?_eq_some_iff.mp lost
  obtain ⟨more, found⟩ := finish_inside (writtenAfter others) pieces ('"' :: front.reverse)
    ('"' :: front.reverse) false false List.suffix_rfl
  rw [Piece.toList_written_quoted, ends, List.foldl_append, foldl_unclosed]
  refine ⟨_, fun same => ?_, found⟩
  have texts := congrArg (fun piece => piece.text.toList) same
  simp [ends] at texts

theorem misread_start {text : String} (lost : text.toList.head? = some '"')
    (pieces others : List Piece) :
    ∃ other ≠ (⟨text, false⟩ : Piece), pieces.reverse ++ [other] <+:
      ((text.toList ++ writtenAfter others).foldl step (between pieces)).finish := by
  obtain ⟨rest, begins⟩ := List.head?_eq_some_iff.mp lost
  obtain ⟨more, found⟩ := finish_inside (rest ++ writtenAfter others) pieces [] []
    false false List.suffix_rfl
  rw [begins]
  exact ⟨_, by simp, found⟩

theorem misread_escaped {text : String} (word : Piece.IsWord ⟨text, false⟩)
    (start : text.toList.head? ≠ some '"') (lost : ['\\', '"'] <:+: text.toList)
    (pieces others : List Piece) :
    ∃ other ≠ (⟨text, false⟩ : Piece), pieces.reverse ++ [other] <+:
      ((text.toList ++ writtenAfter others).foldl step (between pieces)).finish := by
  obtain ⟨nonempty, free⟩ := word rfl
  have read := reads_bare (by simpa using nonempty) free start pieces
  have found := read.finish_foldl (head?_writtenAfter others)
  rw [List.reverse_cons, ← List.foldl_append] at found
  refine ⟨_, fun same => ?_, found⟩
  have texts := congrArg (fun piece => piece.text.toList) same
  rw [String.toList_ofList] at texts
  exact (unescaped_eq_self _).mp texts lost

/-- Where an argument is lost by writing and reading, another argument takes its place. -/
theorem misread {piece : Piece} (word : piece.IsWord) (lost : ¬ piece.Rereadable)
    (pieces others : List Piece) :
    ∃ other ≠ piece, pieces.reverse ++ [other] <+:
      ((piece.written.toList ++ writtenAfter others).foldl step (between pieces)).finish := by
  obtain ⟨text, quoted⟩ := piece
  cases quoted with
  | true =>
      rw [Piece.rereadable_quoted, not_not] at lost
      exact misread_quoted lost pieces others
  | false =>
      rw [Piece.written_bare]
      by_cases start : text.toList.head? = some '"'
      · exact misread_start start pieces others
      · have escaped : ['\\', '"'] <:+: text.toList := by simpa [start] using lost
        exact misread_escaped word start escaped pieces others

theorem finish_writtenAfter {others : List Piece} (reads : Reads pieces scan)
    (words : ∀ piece ∈ others, piece.IsWord) :
    ((writtenAfter others).foldl step scan).finish = pieces.reverse ++ others ↔
      ∀ piece ∈ others, piece.Rereadable := by
  induction others generalizing pieces scan with
  | nil => simpa [writtenAfter] using reads.finish
  | cons piece rest ih =>
      obtain ⟨word, more⟩ := List.forall_mem_cons.mp words
      have begins : (writtenAfter (piece :: rest)).foldl step scan =
          (piece.written.toList ++ writtenAfter rest).foldl step (between pieces) := by
        rw [← reads.space]
        rfl
      rw [begins, List.forall_mem_cons]
      by_cases kept : piece.Rereadable
      · have next := ih (reads_written word kept pieces) more
        rw [List.reverse_cons, List.append_assoc] at next
        rw [List.foldl_append]
        simpa [kept] using next
      · obtain ⟨other, different, found⟩ := misread word kept pieces rest
        refine iff_of_false (fun same => different ?_) (fun all => kept all.1)
        rw [same, List.prefix_append_right_inj] at found
        simpa using found

end Scan

theorem finish_writtenAfter_initial (pieces : List Piece) (words : ∀ piece ∈ pieces, piece.IsWord) :
    ((writtenAfter pieces).foldl Scan.step Scan.initial).finish = pieces ↔
      ∀ piece ∈ pieces, piece.Rereadable :=
  Scan.finish_writtenAfter (Scan.reads_between []) words

theorem foldl_space_cons (chars : List Char) :
    (' ' :: chars).foldl Scan.step Scan.initial = chars.foldl Scan.step Scan.initial :=
  rfl

theorem piecesOf_written (keyword : String) {pieces : List Piece}
    (words : ∀ piece ∈ pieces, piece.IsWord) :
    piecesOf (keyword :: pieces.map Piece.written) = pieces ↔
      ∀ piece ∈ pieces, piece.Rereadable := by
  rw [← finish_writtenAfter_initial pieces words]
  cases pieces with
  | nil => rfl
  | cons piece rest =>
      rw [piecesOf, ← foldl_space_cons, argumentText_written]

/-! ## Written lines -/

/-- An argument that can be written on a line: a quoted text that does not end in a backslash, or
some characters that are neither blank nor a quote. -/
def Piece.Writable (piece : Piece) : Prop :=
  if piece.quoted then piece.text.toList.getLast? ≠ some '\\'
  else piece.text ≠ "" ∧ ∀ c ∈ piece.text.toList, Text.isBlank c = false ∧ c ≠ '"'

instance (piece : Piece) : Decidable piece.Writable :=
  -- the characters of the text are tried, and not all the characters there are
  let _ : Decidable (∀ c ∈ piece.text.toList, Text.isBlank c = false ∧ c ≠ '"') :=
    List.decidableBAll _ _
  inferInstanceAs (Decidable (if piece.quoted then _ else _))

namespace Piece.Writable

variable {piece : Piece}

theorem isWord (writable : piece.Writable) : piece.IsWord := by
  intro bare
  obtain ⟨nonempty, chars⟩ : piece.text ≠ "" ∧ _ := by simpa [Writable, bare] using writable
  refine ⟨nonempty, fun space => ?_⟩
  have blank := (chars ' ' space).1
  revert blank
  decide

theorem rereadable (writable : piece.Writable) : piece.Rereadable := by
  obtain ⟨text, quoted⟩ := piece
  cases quoted with
  | true => simpa [Writable] using writable
  | false =>
      obtain ⟨_, chars⟩ : text ≠ "" ∧ _ := by simpa [Writable] using writable
      refine (rereadable_bare text).mpr ⟨fun start => ?_, fun escaped => ?_⟩
      · exact (chars '"' (List.mem_of_head? start)).2 rfl
      · exact (chars '"' (escaped.subset (by simp))).2 rfl

theorem getLast?_written (writable : piece.Writable) :
    ∃ c, piece.written.toList.getLast? = some c ∧ Text.isBlank c = false := by
  obtain ⟨text, quoted⟩ := piece
  cases quoted with
  | true =>
      refine ⟨'"', ?_, by decide⟩
      rw [toList_written_quoted, quoteChars, List.getLast?_append]
      rfl
  | false =>
      obtain ⟨nonempty, chars⟩ : text ≠ "" ∧ _ := by simpa [Writable] using writable
      have solid : text.toList ≠ [] := by simpa using nonempty
      refine ⟨text.toList.getLast solid, ?_, (chars _ (List.getLast_mem solid)).1⟩
      rw [written_bare, List.getLast?_eq_some_getLast solid]

end Piece.Writable

theorem getLast?_writtenAfter {pieces : List Piece} (nonempty : pieces ≠ [])
    (writable : ∀ piece ∈ pieces, piece.Writable) :
    ∃ c, (writtenAfter pieces).getLast? = some c ∧ Text.isBlank c = false := by
  obtain rfl | ⟨front, last, rfl⟩ := List.eq_nil_or_concat' pieces
  · exact absurd rfl nonempty
  · obtain ⟨c, final, solid⟩ := (writable last (by simp)).getLast?_written
    refine ⟨c, ?_, solid⟩
    simp [writtenAfter, List.getLast?_append, List.getLast?_cons, final]

theorem piecesOf_writtenLine {keyword : String} {pieces : List Piece} (token : keyword ≠ "")
    (solid : ∀ c ∈ keyword.toList, Text.isBlank c = false) (nonempty : pieces ≠ [])
    (writable : ∀ piece ∈ pieces, piece.Writable) :
    piecesOf (tokenize (writtenLine keyword pieces)) = pieces := by
  have chars := toList_writtenLine keyword pieces
  have begins : keyword.toList ≠ [] := by simpa using token
  have stripped : Text.stripChars (writtenLine keyword pieces).toList =
      keyword.toList ++ writtenAfter pieces := by
    obtain ⟨final, last, blank⟩ := getLast?_writtenAfter nonempty writable
    rw [chars]
    refine Text.stripChars_eq_self (fun c first => solid c ?_) (fun c ends => ?_)
    · rw [List.head?_append_of_ne_nil _ begins] at first
      exact List.mem_of_head? first
    · rw [List.getLast?_append, last] at ends
      exact Option.some.inj ends ▸ blank
  have word : ' ' ∉ keyword.toList := fun space => by
    have blank := solid ' ' space
    revert blank
    decide
  have words : ∀ piece ∈ pieces, piece.IsWord := fun piece member => (writable piece member).isWord
  have kept := (finish_writtenAfter_initial pieces words).mpr
    fun piece member => (writable piece member).rereadable
  -- The keyword is cut off and put back as one word, so what is scanned is what was written.
  cases pieces with
  | nil => exact absurd rfl nonempty
  | cons piece rest =>
      rw [tokenize_eq (by simp [stripped, begins]), stripped, piecesOf,
        ← argumentText_written keyword, argumentText_splitOn word, ← foldl_space_cons,
        argumentText_written]
      exact kept

/-- The arguments that are written on a line are the ones that are extracted from it, in the order
in which they are written; only those without quotes around them are resolved. -/
theorem extract_writtenLine {limit : Int} {keyword : String} {pieces : List Piece}
    (token : keyword ≠ "") (solid : ∀ c ∈ keyword.toList, Text.isBlank c = false)
    (nonempty : pieces ≠ []) (fits : (pieces.length : Int) ≤ limit)
    (writable : ∀ piece ∈ pieces, piece.Writable) :
    (∀ (m : Type → Type) [Monad m] (resolve : String → m String),
      extractWith limit resolve (tokenize (writtenLine keyword pieces)) =
        .ok (pieces.mapM (Piece.valueWith resolve))) ∧
    (∀ resolve : String → String,
      extract limit resolve (tokenize (writtenLine keyword pieces)) =
        .ok (pieces.map (Piece.value resolve))) ∧
    extractWritten limit (tokenize (writtenLine keyword pieces)) =
      .ok (pieces.map Piece.written) := by
  have same := piecesOf_writtenLine token solid nonempty writable
  have read : pieces? limit (tokenize (writtenLine keyword pieces)) = .ok pieces := by
    rw [pieces?_of_le (by rw [same]; omega), same]
  refine ⟨fun m _ resolve => ?_, fun resolve => ?_, ?_⟩
  · rw [extractWith, read]
    rfl
  · rw [extract, read]
    rfl
  · rw [extractWritten, read]
    rfl

theorem extract_writtenLine_quotesExample :
    extractWritten 3 (tokenize (writtenLine "call"
        [⟨"name", false⟩, ⟨"a  \\\"b", true⟩, ⟨"", true⟩])) =
      .ok ["name", "\"a  \\\\\"b\"", "\"\""] :=
  (extract_writtenLine (by decide) (by simp [Text.isBlank, Text.isAsciiBlank])
    (by decide) (by decide) (by decide)).2.2

/-! ## Reading the written arguments again -/

/-- The written arguments of a line can be read again exactly if each argument can be read again: a
quoted text that ends in a backslash, and a quote that was escaped outside of quotes, cannot. -/
theorem extractWritten_reread {limit : Int} {tokens written : List String} (keyword : String)
    (extracted : extractWritten limit tokens = .ok written) :
    pieces? limit (keyword :: written) = pieces? limit tokens ↔
      ∀ piece ∈ piecesOf tokens, piece.Rereadable := by
  cases read : pieces? limit tokens with
  | error fault =>
      rw [extractWritten, read] at extracted
      cases extracted
  | ok pieces =>
      have same := eq_piecesOf_of_pieces? read
      rw [extractWritten, read] at extracted
      cases extracted
      rw [← same, ← piecesOf_written keyword (same ▸ isWord_piecesOf tokens)]
      constructor
      · intro again
        exact (eq_piecesOf_of_pieces? again).symm
      · intro again
        rw [same, pieces?_eq] at read
        rw [pieces?_eq, again, same, read]

theorem extractWritten_reread_quotesExample :
    pieces? 3 ["CALL", "f", "\"a b\"", "\"q\\\"t\""] =
      pieces? 3 ["CALL", "f", "\"a", "b\"", "", "\"q\\\"t\""] :=
  (extractWritten_reread "CALL" (by decide)).mpr (by decide)

def quoteExample : List String :=
  ["OUT", "\\\"b"]

theorem misread_quoteExample :
    ∃ written, extractWritten 64 quoteExample = .ok written ∧
      pieces? 64 ("OUT" :: written) ≠ pieces? 64 quoteExample :=
  ⟨["\"b"], by decide, by decide⟩

end LineScript
