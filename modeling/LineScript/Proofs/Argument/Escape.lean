import LineScript.Proofs.Argument.Count
import LineScript.Proofs.Argument.Scan

/-!
Quotes while arguments are read. A quote that is escaped takes the place of the backslash before it,
which always is the last character of the argument being read; and a quote opens a text only between
two arguments. A line without quotes is divided at its spaces.
-/

namespace LineScript

/-! ## Quotes -/

namespace Scan

variable {scan : Scan} {read : List Char}

structure Recalls (scan : Scan) (read : List Char) : Prop where
  escaping : scan.escaping = true ↔ read.getLast? = some '\\'
  atStart : scan.atStart = true ↔ ∀ c, read.getLast? = some c → c = ' '
  backslash : scan.escaping = true → ∃ more, scan.current = '\\' :: more
  fresh : scan.inQuotes = false → scan.atStart = true → scan.current = []

theorem recalls_initial : initial.Recalls [] where
  escaping := by simp [initial]
  atStart := by simp [initial]
  backslash := fun escaping => nomatch escaping
  fresh _ _ := rfl

theorem recalls_plain (scan : Scan) (c : Char) (read : List Char) :
    (scan.plain c).Recalls (read ++ [c]) := by
  unfold plain
  split
  · next space =>
      have same : c = ' ' := beq_iff_eq.mp (Bool.and_eq_true_iff.mp space).2
      subst same
      exact ⟨by simp, by simp, fun escaping => (nomatch escaping), fun _ _ => rfl⟩
  · next other =>
      refine ⟨by simp, by simp, fun escaping => ⟨scan.current, ?_⟩, fun outside start => ?_⟩
      · rw [beq_iff_eq.mp escaping]
      · have inside : scan.inQuotes = false := outside
        exact absurd (Bool.and_eq_true_iff.mpr ⟨by rw [inside]; rfl, start⟩) other

theorem recalls_quote {after : Scan} (escaping : after.escaping = false)
    (atStart : after.atStart = false) (read : List Char) : after.Recalls (read ++ ['"']) where
  escaping := by simp [escaping]
  atStart := by simp [atStart]
  backslash raised := by simp [escaping] at raised
  fresh _ raised := by simp [atStart] at raised

theorem recalls_step (scan : Scan) (c : Char) (read : List Char) :
    (scan.step c).Recalls (read ++ [c]) := by
  unfold step
  split
  · exact recalls_plain scan c read
  · next quote =>
      have same : c = '"' := by simpa using quote
      subst same
      split_ifs
      · exact recalls_quote rfl rfl read
      · exact recalls_quote rfl rfl read
      · exact recalls_quote rfl rfl read
      · exact recalls_plain scan '"' read

theorem recalls_foldl (read : List Char) : (read.foldl step initial).Recalls read := by
  rcases List.eq_nil_or_concat' read with rfl | ⟨before, c, rfl⟩
  · exact recalls_initial
  · rw [List.foldl_append]
    exact recalls_step _ c before

theorem step_escaped {more : List Char} (escaping : scan.escaping = true)
    (current : scan.current = '\\' :: more) :
    scan.step '"' = { scan with current := '"' :: more, escaping := false, atStart := false } := by
  rw [step, if_neg (by decide), if_pos escaping, current]
  rfl

/-- Reads one character. There has to be a character that an escaped quote takes the place of. -/
def stepIndexed? (scan : Scan) (c : Char) : Option Scan :=
  if c == '"' && scan.escaping then
    match scan.current with
    | [] => none
    | _ :: more => some { scan with current := '"' :: more, escaping := false, atStart := false }
  else some (scan.step c)

theorem Recalls.stepIndexed? (recalls : scan.Recalls read) (c : Char) :
    scan.stepIndexed? c = some (scan.step c) := by
  unfold Scan.stepIndexed?
  split
  · next escaped =>
      obtain ⟨quote, escaping⟩ := Bool.and_eq_true_iff.mp escaped
      obtain ⟨more, current⟩ := recalls.backslash escaping
      rw [current, beq_iff_eq.mp quote, step_escaped escaping current]
  · rfl

theorem Recalls.foldlM_stepIndexed? (recalls : scan.Recalls read) (chars : List Char) :
    chars.foldlM Scan.stepIndexed? scan = some (chars.foldl Scan.step scan) := by
  induction chars generalizing scan read with
  | nil => rfl
  | cons c rest ih =>
      rw [List.foldlM_cons, recalls.stepIndexed? c]
      exact ih (recalls_step scan c read)

/-- How a scan meets a quote after the given characters. -/
structure MeetsQuote (scan : Scan) (read : List Char) : Prop where
  escaping : scan.escaping = true ↔ read.getLast? = some '\\'
  /-- An escaped quote takes the place of the backslash at the end of the argument. -/
  replaced : scan.escaping = true → ∃ more, scan.current = '\\' :: more ∧
    scan.step '"' = { scan with current := '"' :: more, escaping := false, atStart := false }
  /-- A quoted text opens at the beginning or after a space, and nothing of an argument is there. -/
  opened : scan.inQuotes = false → (scan.step '"').inQuotes = true →
    (∀ c, read.getLast? = some c → c = ' ') ∧ scan.current = [] ∧
      scan.step '"' = { scan with inQuotes := true, escaping := false, atStart := false }

theorem Recalls.meetsQuote (recalls : scan.Recalls read) : scan.MeetsQuote read where
  escaping := recalls.escaping
  replaced escaping := by
    obtain ⟨more, current⟩ := recalls.backslash escaping
    exact ⟨more, current, step_escaped escaping current⟩
  opened outside opens := by
    rw [Scan.step, if_neg (by decide)] at opens ⊢
    split_ifs at opens ⊢ with escaping inside start
    · exact absurd (outside.symm.trans opens) Bool.false_ne_true
    · exact ⟨recalls.atStart.mp start, recalls.fresh outside start, rfl⟩
    · rw [plain_nonspace scan (by decide)] at opens
      exact absurd (outside.symm.trans opens) Bool.false_ne_true

end Scan

/-! ## Words -/

def spacedWords (chars : List Char) : List String :=
  ((chars.splitOn ' ').filter (!·.isEmpty)).map String.ofList

def argumentWords (tokens : List String) : List String :=
  tokens.tail.flatMap fun token => spacedWords token.toList

theorem spacedWords_append (first rest : List Char) :
    spacedWords (first ++ ' ' :: rest) = spacedWords first ++ spacedWords rest := by
  rw [spacedWords, List.splitOn_append_cons_self, List.filter_append, List.map_append]
  rfl

theorem spacedWords_word {word : List Char} (solid : ' ' ∉ word) :
    spacedWords word = if word.isEmpty then [] else [String.ofList word] := by
  rw [spacedWords, List.splitOn_eq_singleton solid]
  cases word <;> rfl

theorem spacedWords_intercalate (lists : List (List Char)) :
    spacedWords ([' '].intercalate lists) = lists.flatMap spacedWords := by
  induction lists with
  | nil => rfl
  | cons first rest ih =>
      cases rest with
      | nil => rw [List.intercalate_singleton, List.flatMap_singleton]
      | cons second others =>
          rw [List.intercalate_cons_cons, List.append_assoc, List.singleton_append,
            spacedWords_append, ih, List.flatMap_cons (x := first)]

theorem spacedWords_argumentText (tokens : List String) :
    spacedWords (argumentText tokens) = argumentWords tokens := by
  rw [argumentText, String.toList_intercalate]
  exact (spacedWords_intercalate _).trans (List.flatMap_map ..)

theorem infix_of_mem_splitOn {chars part : List Char} (member : part ∈ chars.splitOn ' ') :
    ' ' ∉ part ∧ part <:+: chars := by
  by_cases space : ' ' ∈ chars
  · obtain ⟨first, rest, same, solid⟩ := List.eq_append_cons_of_mem space
    rw [same, splitOn_space solid] at member
    rw [same]
    rcases List.mem_cons.mp member with rfl | later
    · exact ⟨solid, (List.prefix_append part _).isInfix⟩
    · have below := infix_of_mem_splitOn later
      exact ⟨below.1, below.2.trans ((List.suffix_cons ' ' rest).trans
        (List.suffix_append first _)).isInfix⟩
  · rw [List.splitOn_eq_singleton space, List.mem_singleton] at member
    exact ⟨member ▸ space, member ▸ List.infix_rfl⟩
  termination_by chars.length
  decreasing_by
    rw [same]
    simp only [List.length_append, List.length_cons]
    omega

namespace Scan

theorem finish_foldl_bare {chars : List Char} (bare : '"' ∉ chars) {scan : Scan}
    (outside : scan.inQuotes = false) (solid : ' ' ∉ scan.current) :
    (chars.foldl step scan).finish =
      scan.pieces.reverse ++ (spacedWords (scan.current.reverse ++ chars)).map (⟨·, false⟩) := by
  induction chars generalizing scan with
  | nil =>
      rw [List.append_nil, spacedWords_word (by simpa using solid), List.foldl_nil, finish, outside]
      cases current : scan.current <;> simp [close, current]
  | cons c rest ih =>
      obtain ⟨other, later⟩ := not_or.mp (mt List.mem_cons.mpr bare)
      rw [List.foldl_cons, step_other scan (Ne.symm other)]
      by_cases space : c = ' '
      · subst space
        rw [spacedWords_append, spacedWords_word (by simpa using solid), plain,
          if_pos (by simp [outside]), ih later rfl List.not_mem_nil]
        cases current : scan.current <;> simp [close, current]
      · have apart : ' ' ∉ c :: scan.current :=
          List.not_mem_cons_of_ne_of_not_mem (Ne.symm space) solid
        have found := @ih later
          { scan with current := c :: scan.current, escaping := c == '\\', atStart := false }
          outside apart
        rw [List.reverse_cons, List.append_assoc, List.singleton_append] at found
        rw [plain_nonspace scan space]
        exact found

end Scan

/-! ## Lines without quotes -/

variable {tokens : List String}

def Quoteless (tokens : List String) : Prop :=
  ∀ token ∈ tokens.tail, '"' ∉ token.toList

instance : Decidable (Quoteless tokens) :=
  inferInstanceAs (Decidable (∀ token ∈ tokens.tail, _))

theorem mem_of_mem_intercalate {lists : List (List Char)} {c : Char} (other : c ≠ ' ')
    (member : c ∈ [' '].intercalate lists) : ∃ list ∈ lists, c ∈ list := by
  induction lists with
  | nil => cases member
  | cons first rest ih =>
      cases rest with
      | nil =>
          rw [List.intercalate_singleton] at member
          exact ⟨first, List.mem_cons_self, member⟩
      | cons second others =>
          rw [List.intercalate_cons_cons, List.mem_append, List.mem_append,
            List.mem_singleton] at member
          rcases member with (here | space) | below
          · exact ⟨first, List.mem_cons_self, here⟩
          · exact absurd space other
          · obtain ⟨list, listed, found⟩ := ih below
            exact ⟨list, List.mem_cons_of_mem _ listed, found⟩

theorem Quoteless.argumentText (quoteless : Quoteless tokens) :
    '"' ∉ LineScript.argumentText tokens := by
  intro quote
  rw [LineScript.argumentText, String.toList_intercalate] at quote
  obtain ⟨chars, listed, found⟩ := mem_of_mem_intercalate (by decide) quote
  obtain ⟨token, member, rfl⟩ := List.mem_map.mp listed
  exact quoteless token member found

theorem Quoteless.piecesOf (quoteless : Quoteless tokens) :
    LineScript.piecesOf tokens = (argumentWords tokens).map (⟨·, false⟩) := by
  rw [LineScript.piecesOf, ← spacedWords_argumentText]
  exact Scan.finish_foldl_bare quoteless.argumentText rfl List.not_mem_nil

theorem Quoteless.pieces? (quoteless : Quoteless tokens) (limit : ℤ) :
    LineScript.pieces? limit tokens =
      if max limit 0 < ((argumentWords tokens).length : ℤ) then .error ⟨limit⟩
      else .ok ((argumentWords tokens).map (⟨·, false⟩)) := by
  rw [pieces?_eq, quoteless.piecesOf, List.length_map]

theorem Quoteless.extract (quoteless : Quoteless tokens) (limit : ℤ) :
    LineScript.extract limit id tokens =
      if max limit 0 < ((argumentWords tokens).length : ℤ) then .error ⟨limit⟩
      else .ok (argumentWords tokens) := by
  have values : ((argumentWords tokens).map (Piece.mk · false)).map (Piece.value id) =
      argumentWords tokens := by
    rw [List.map_map]
    exact List.map_id _
  rw [LineScript.extract, quoteless.pieces?]
  split_ifs
  · rfl
  · rw [Except.map, values]

theorem word_of_mem_spacedWords {chars : List Char} {word : String}
    (member : word ∈ spacedWords chars) :
    word ≠ "" ∧ ' ' ∉ word.toList ∧ word.toList <:+: chars := by
  obtain ⟨part, kept, rfl⟩ := List.mem_map.mp member
  obtain ⟨listed, filled⟩ := List.mem_filter.mp kept
  rw [String.toList_ofList]
  refine ⟨fun empty => ?_, infix_of_mem_splitOn listed⟩
  have none : part = [] := by simpa using empty
  rw [none] at filled
  cases filled

theorem argumentWords_cons (keyword : String) (tokens : List String) :
    argumentWords (keyword :: argumentWords tokens) = argumentWords tokens := by
  have each (word : String) (member : word ∈ argumentWords tokens) :
      spacedWords word.toList = [word] := by
    obtain ⟨token, -, listed⟩ := List.mem_flatMap.mp member
    obtain ⟨filled, solid, -⟩ := word_of_mem_spacedWords listed
    rw [spacedWords_word solid, if_neg (by simpa using filled), String.ofList_toList]
  rw [argumentWords, List.tail_cons, List.flatMap_congr each]
  exact List.flatMap_singleton' _

theorem Quoteless.argumentWords (quoteless : Quoteless tokens) (keyword : String) :
    Quoteless (keyword :: LineScript.argumentWords tokens) := by
  intro word member quote
  obtain ⟨token, listed, found⟩ := List.mem_flatMap.mp member
  exact quoteless token listed ((word_of_mem_spacedWords found).2.2.subset quote)

/-- An escaped quote always takes the place of a backslash that ends the argument being read, a
quoted text opens only where nothing has been read of an argument, and without quotes exactly the
words between the spaces are extracted, which can be extracted again. -/
theorem extract_escapes (tokens : List String) :
    (∀ read rest, argumentText tokens = read ++ '"' :: rest →
      (read.foldl Scan.step Scan.initial).MeetsQuote read) ∧
    (argumentText tokens).foldlM Scan.stepIndexed? Scan.initial =
      some ((argumentText tokens).foldl Scan.step Scan.initial) ∧
    (Quoteless tokens → ∀ limit : ℤ,
      extract limit id tokens =
        (if max limit 0 < ((argumentWords tokens).length : ℤ) then .error ⟨limit⟩
          else .ok (argumentWords tokens)) ∧
      ∀ keyword values, extract limit id tokens = .ok values →
        extract limit id (keyword :: values) = .ok values) := by
  refine ⟨fun read rest _ => (Scan.recalls_foldl read).meetsQuote,
    Scan.recalls_initial.foldlM_stepIndexed? _, fun quoteless limit => ?_⟩
  have here := quoteless.extract limit
  refine ⟨here, fun keyword values extracted => ?_⟩
  rw [here] at extracted
  split_ifs at extracted with beyond
  cases extracted
  rw [(quoteless.argumentWords keyword).extract, argumentWords_cons, if_neg beyond]

/-- A quote is escaped within a word, and without quotes neither the number of spaces matters nor a
backslash. -/
theorem extract_escapes_wordsExample :
    (argumentText ["OUT", "a\\\"b", "c"] = ['a', '\\'] ++ '"' :: ['b', ' ', 'c'] ∧
      ['a', '\\'].foldl Scan.step Scan.initial = ⟨[], ['\\', 'a'], false, true, false⟩ ∧
      Scan.MeetsQuote ⟨[], ['\\', 'a'], false, true, false⟩ ['a', '\\']) ∧
    (Quoteless ["\"", "a  b", "", " $c\\"] ∧
      extract 3 id ["\"", "a  b", "", " $c\\"] = .ok ["a", "b", "$c\\"] ∧
      extract 3 id ["X", "a", "b", "$c\\"] = .ok ["a", "b", "$c\\"]) := by
  have split : argumentText ["OUT", "a\\\"b", "c"] = ['a', '\\'] ++ '"' :: ['b', ' ', 'c'] := by
    decide
  have quoteless : Quoteless ["\"", "a  b", "", " $c\\"] := by decide
  have extracted : extract 3 id ["\"", "a  b", "", " $c\\"] = .ok ["a", "b", "$c\\"] := by decide
  exact ⟨⟨split, rfl, (extract_escapes _).1 _ _ split⟩, quoteless, extracted,
    ((extract_escapes _).2.2 quoteless 3).2 "X" _ extracted⟩

end LineScript
