import LineScript.Proofs.Text.Blank
import Mathlib.Data.List.Chain
import Mathlib.Data.List.Pairwise

/-!
Words: the maximal runs of characters that are not blank. A text is divided into words in one way
only, and squeezing a text joins its words by single spaces. Nothing but blanks is lost by this,
and exactly those texts stay as they are that have no blanks but single spaces between words.
-/

namespace LineScript.Text

variable {chars gap word rest : List Char} {words : List (List Char)}

/-- A word is not empty and has no blanks. -/
structure IsWord (word : List Char) : Prop where
  filled : word ≠ []
  solid : ∀ c ∈ word, isBlank c = false

theorem IsWord.last (isWord : IsWord word) (front : List Char) :
    ∀ c, (front ++ word).getLast? = some c → isBlank c = false := by
  intro c final
  rw [List.getLast?_append_of_ne_nil front isWord.filled] at final
  exact isWord.solid c (List.mem_of_getLast? final)

/-! ## Division into words -/

/-- The division of a text into its words. Blanks stand before each word and after the last one,
and a word ends only where a blank follows or the text ends. -/
inductive Divides : List Char → List (List Char) → Prop
  | blank {gap : List Char} (blank : ∀ c ∈ gap, isBlank c = true) : Divides gap []
  | word {gap word rest : List Char} {words : List (List Char)}
      (blank : ∀ c ∈ gap, isBlank c = true) (isWord : IsWord word)
      (ends : ∀ c, rest.head? = some c → isBlank c = true) (later : Divides rest words) :
      Divides (gap ++ word ++ rest) (word :: words)

theorem divides_nil : Divides [] [] :=
  .blank (List.forall_mem_nil _)

theorem divides_word (isWord : IsWord word)
    (ends : ∀ c, rest.head? = some c → isBlank c = true) (later : Divides rest words) :
    Divides (word ++ rest) (word :: words) :=
  .word (List.forall_mem_nil _) isWord ends later

theorem Divides.cons {c : Char} (blank : isBlank c = true) (divides : Divides chars words) :
    Divides (c :: chars) words := by
  cases divides with
  | blank gap => exact .blank (List.forall_mem_cons.mpr ⟨blank, gap⟩)
  | word gap isWord ends later =>
      exact .word (List.forall_mem_cons.mpr ⟨blank, gap⟩) isWord ends later

theorem Divides.isWord (divides : Divides chars words) : ∀ word ∈ words, IsWord word := by
  induction divides with
  | blank gap => exact List.forall_mem_nil _
  | word gap isWord ends later ih => exact List.forall_mem_cons.mpr ⟨isWord, ih⟩

theorem wordsFrom_gap (blank : ∀ c ∈ gap, isBlank c = true) (rest : List Char) :
    wordsFrom [] (gap ++ rest) = wordsFrom [] rest := by
  induction gap with
  | nil => rfl
  | cons c gap ih =>
      obtain ⟨here, later⟩ := List.forall_mem_cons.mp blank
      rw [List.cons_append, wordsFrom, if_pos here]
      exact ih later

theorem wordsFrom_solid (solid : ∀ c ∈ word, isBlank c = false) (read rest : List Char) :
    wordsFrom read (word ++ rest) = wordsFrom (word.reverse ++ read) rest := by
  induction word generalizing read with
  | nil => rfl
  | cons c word ih =>
      obtain ⟨here, later⟩ := List.forall_mem_cons.mp solid
      rw [List.cons_append, wordsFrom, if_neg (by simp [here]), ih later, List.reverse_cons,
        List.append_assoc, List.singleton_append]

theorem wordsFrom_ends {read : List Char} (filled : read ≠ [])
    (ends : ∀ c, rest.head? = some c → isBlank c = true) :
    wordsFrom read rest = read.reverse :: wordsFrom [] rest := by
  have some : read.isEmpty = false := by simpa using filled
  cases rest with
  | nil => simp [wordsFrom, some]
  | cons c rest => simp [wordsFrom, some, ends c rfl]

theorem Divides.wordsFrom_eq (divides : Divides chars words) : wordsFrom [] chars = words := by
  induction divides with
  | @blank gap blank =>
      rw [← List.append_nil gap, wordsFrom_gap blank]
      rfl
  | word blank isWord ends later ih =>
      rw [List.append_assoc, wordsFrom_gap blank, wordsFrom_solid isWord.solid, List.append_nil,
        wordsFrom_ends (by simpa using isWord.filled) ends, List.reverse_reverse, ih]

/-- The first of the words that are read from the middle of a word on has what was read before. -/
theorem divides_wordsFrom {read : List Char} (solid : ∀ c ∈ read, isBlank c = false)
    (chars : List Char) : Divides (read.reverse ++ chars) (wordsFrom read chars) := by
  fun_induction wordsFrom read chars with
  | case1 read empty =>
      obtain rfl := List.isEmpty_iff.mp empty
      exact divides_nil
  | case2 read filled =>
      exact divides_word ⟨by simpa using filled, by simpa using solid⟩ nofun divides_nil
  | case3 read c rest blank empty ih =>
      obtain rfl := List.isEmpty_iff.mp empty
      exact (ih (List.forall_mem_nil _)).cons blank
  | case4 read c rest blank filled ih =>
      refine divides_word ⟨by simpa using filled, by simpa using solid⟩ ?_
        ((ih (List.forall_mem_nil _)).cons blank)
      rintro d ⟨⟩
      exact blank
  | case5 read c rest visible ih =>
      have grown := ih (List.forall_mem_cons.mpr ⟨by simpa using visible, solid⟩)
      rwa [List.reverse_cons, List.append_assoc] at grown

theorem divides_iff : Divides chars words ↔ words = wordsFrom [] chars := by
  refine ⟨fun divides => divides.wordsFrom_eq.symm, ?_⟩
  rintro rfl
  exact divides_wordsFrom (List.forall_mem_nil _) chars

/-! ## Squeezing -/

theorem intercalate_space (first : List Char) (others : List (List Char)) :
    [' '].intercalate (first :: others) = first ++ others.flatMap (' ' :: ·) := by
  induction others generalizing first with
  | nil => simp
  | cons second others ih =>
      rw [List.intercalate_cons_cons, ih second, List.flatMap_cons, List.append_assoc]
      rfl

theorem collapseFrom_gap (blank : ∀ c ∈ gap, isBlank c = true) (rest : List Char) :
    collapseFrom true (gap ++ rest) = collapseFrom true rest := by
  induction gap with
  | nil => rfl
  | cons c gap ih =>
      obtain ⟨here, later⟩ := List.forall_mem_cons.mp blank
      rw [List.cons_append, collapseFrom, if_pos here, if_pos rfl, ih later]

theorem collapseFrom_solid (solid : ∀ c ∈ word, isBlank c = false) (rest : List Char) :
    collapseFrom false (word ++ rest) = word ++ collapseFrom false rest := by
  induction word with
  | nil => rfl
  | cons c word ih =>
      obtain ⟨here, later⟩ := List.forall_mem_cons.mp solid
      rw [List.cons_append, collapseFrom, if_neg (by simp [here]), ih later, List.cons_append]

theorem collapseFrom_word (isWord : IsWord word) (after : Bool) (rest : List Char) :
    collapseFrom after (word ++ rest) = word ++ collapseFrom false rest := by
  obtain ⟨c, others, rfl⟩ := List.exists_cons_of_ne_nil isWord.filled
  obtain ⟨here, later⟩ := List.forall_mem_cons.mp isWord.solid
  rw [List.cons_append, collapseFrom, if_neg (by simp [here]), collapseFrom_solid later,
    List.cons_append]

theorem stripChars_word (blank : ∀ c ∈ gap, isBlank c = true) (isWord : IsWord word)
    (rest : List Char) : stripChars (gap ++ word ++ rest) = word ++ trimEnd rest := by
  have begins : (gap ++ word ++ rest).dropWhile isBlank = word ++ rest := by
    rw [List.append_assoc, List.dropWhile_append_of_pos blank, dropWhile_eq_self]
    rw [List.head?_append_of_ne_nil word isWord.filled]
    exact fun c first => isWord.solid c (List.mem_of_head? first)
  rw [stripChars_eq, begins]
  exact trimEnd_append_of_last (isWord.last []) rest

theorem Divides.collapseFrom_trimEnd (divides : Divides chars words)
    (ends : ∀ c, chars.head? = some c → isBlank c = true) :
    collapseFrom false (trimEnd chars) = words.flatMap (' ' :: ·) := by
  induction divides with
  | blank blank =>
      rw [trimEnd_gap blank]
      rfl
  | @word gap word rest words blank isWord after later ih =>
      rw [trimEnd_append_of_last (isWord.last gap), List.append_assoc, List.flatMap_cons, ← ih after]
      cases gap with
      | nil =>
          -- The text would begin with the word, not with a blank.
          obtain ⟨c, others, rfl⟩ := List.exists_cons_of_ne_nil isWord.filled
          have here := isWord.solid c List.mem_cons_self
          exact absurd (here.symm.trans (ends c rfl)) Bool.false_ne_true
      | cons c gap =>
          obtain ⟨here, further⟩ := List.forall_mem_cons.mp blank
          rw [List.cons_append, collapseFrom, if_pos here, if_neg Bool.false_ne_true,
            collapseFrom_gap further, collapseFrom_word isWord]
          rfl

theorem Divides.collapseFrom_stripChars (divides : Divides chars words) :
    collapseFrom false (stripChars chars) = [' '].intercalate words := by
  cases divides with
  | blank blank =>
      rw [stripChars_gap blank]
      rfl
  | word blank isWord ends later =>
      rw [stripChars_word blank isWord, collapseFrom_word isWord, later.collapseFrom_trimEnd ends,
        intercalate_space]

def joined (words : List (List Char)) : String :=
  " ".intercalate (words.map String.ofList)

theorem toList_joined (words : List (List Char)) :
    (joined words).toList = [' '].intercalate words := by
  have texts : (words.map String.ofList).map String.toList = words := by
    rw [List.map_map]
    exact (List.map_congr_left fun _ _ => String.toList_ofList).trans (List.map_id _)
  rw [joined, String.toList_intercalate, texts]
  rfl

theorem Divides.squeeze_eq {text : String} (divides : Divides text.toList words) :
    squeeze text = joined words := by
  rw [← String.toList_inj, toList_joined, squeeze, String.toList_ofList]
  exact divides.collapseFrom_stripChars

/-! ## What is kept -/

def visible (chars : List Char) : List Char :=
  chars.filter fun c => !isBlank c

theorem visible_append (front back : List Char) :
    visible (front ++ back) = visible front ++ visible back :=
  List.filter_append ..

theorem visible_gap (blank : ∀ c ∈ gap, isBlank c = true) : visible gap = [] :=
  List.filter_eq_nil_iff.mpr fun c member => by simp [blank c member]

theorem IsWord.visible_eq (isWord : IsWord word) : visible word = word :=
  List.filter_eq_self.mpr fun c member => by simp [isWord.solid c member]

theorem Divides.visible_eq (divides : Divides chars words) : visible chars = words.flatten := by
  induction divides with
  | blank blank => exact visible_gap blank
  | word blank isWord ends later ih =>
      rw [visible_append, visible_append, visible_gap blank, isWord.visible_eq, ih]
      rfl

theorem visible_intercalate (isWord : ∀ word ∈ words, IsWord word) :
    visible ([' '].intercalate words) = words.flatten := by
  induction words with
  | nil => rfl
  | cons first others ih =>
      obtain ⟨here, later⟩ := List.forall_mem_cons.mp isWord
      cases others with
      | nil => rw [List.intercalate_singleton, here.visible_eq, List.flatten_singleton]
      | cons second others =>
          have space : visible [' '] = [] := rfl
          rw [List.intercalate_cons_cons, visible_append, visible_append, here.visible_eq, space,
            List.append_nil, ih later, List.flatten_cons (l := first)]

/-! ## Tidy texts -/

/-- No blank stands at an end of the text, and inside there are single spaces only. -/
structure Tidy (chars : List Char) : Prop where
  first : ∀ c, chars.head? = some c → isBlank c = false
  last : ∀ c, chars.getLast? = some c → isBlank c = false
  space : ∀ c ∈ chars, isBlank c = true → c = ' '
  single : chars.IsChain fun c d => isBlank c = false ∨ isBlank d = false

theorem tidy_of_solid (solid : ∀ c ∈ chars, isBlank c = false) : Tidy chars where
  first c head := solid c (List.mem_of_head? head)
  last c final := solid c (List.mem_of_getLast? final)
  space c member blank := absurd ((solid c member).symm.trans blank) Bool.false_ne_true
  single := (List.pairwise_of_forall_mem_list fun c member _ _ => .inl (solid c member)).isChain

theorem Tidy.cons (tidy : Tidy rest) (more : rest ≠ []) (isWord : IsWord word) :
    Tidy (word ++ ' ' :: rest) where
  first c head := by
    rw [List.head?_append_of_ne_nil word isWord.filled] at head
    exact isWord.solid c (List.mem_of_head? head)
  last c final := by
    rw [List.getLast?_append_of_ne_nil word (List.cons_ne_nil ' ' rest),
      List.getLast?_cons_of_ne_nil more] at final
    exact tidy.last c final
  space c member blank := by
    rcases List.mem_append.mp member with inside | outside
    · exact absurd ((isWord.solid c inside).symm.trans blank) Bool.false_ne_true
    · rcases List.mem_cons.mp outside with here | later
      · exact here
      · exact tidy.space c later blank
  single := List.isChain_append.mpr ⟨(tidy_of_solid isWord.solid).single,
    List.isChain_cons.mpr ⟨fun c head => .inr (tidy.first c head), tidy.single⟩,
    fun c final _ _ => .inl (isWord.solid c (List.mem_of_getLast? final))⟩

theorem tidy_intercalate (isWord : ∀ word ∈ words, IsWord word) :
    Tidy ([' '].intercalate words) := by
  induction words with
  | nil => exact tidy_of_solid (List.forall_mem_nil _)
  | cons first others ih =>
      obtain ⟨here, later⟩ := List.forall_mem_cons.mp isWord
      cases others with
      | nil =>
          rw [List.intercalate_singleton]
          exact tidy_of_solid here.solid
      | cons second others =>
          have more : [' '].intercalate (second :: others) ≠ [] := by
            rw [intercalate_space]
            exact List.append_ne_nil_of_left_ne_nil (later second List.mem_cons_self).filled _
          rw [List.intercalate_cons_cons, List.append_assoc]
          exact (ih later).cons more here

theorem collapseFrom_eq_self {after : Bool} (space : ∀ c ∈ chars, isBlank c = true → c = ' ')
    (single : chars.IsChain fun c d => isBlank c = false ∨ isBlank d = false)
    (begins : after = true → ∀ c, chars.head? = some c → isBlank c = false) :
    collapseFrom after chars = chars := by
  induction chars generalizing after with
  | nil => rfl
  | cons c rest ih =>
      obtain ⟨spaceHere, spaceLater⟩ := List.forall_mem_cons.mp space
      obtain ⟨apart, singleLater⟩ := List.isChain_cons.mp single
      rw [collapseFrom]
      by_cases blank : isBlank c = true
      · have fresh : ¬ after = true := fun raised =>
          absurd ((begins raised c rfl).symm.trans blank) Bool.false_ne_true
        have next : ∀ d, rest.head? = some d → isBlank d = false := fun d head =>
          (apart d head).resolve_left (by simp [blank])
        rw [if_pos blank, if_neg fresh, ih spaceLater singleLater fun _ => next, spaceHere blank]
      · rw [if_neg blank, @ih false spaceLater singleLater nofun]

theorem squeeze_eq_self_iff {text : String} : squeeze text = text ↔ Tidy text.toList := by
  refine ⟨fun same => ?_, fun tidy => ?_⟩
  · have divides := divides_wordsFrom (List.forall_mem_nil _) text.toList
    rw [← same, divides.squeeze_eq, toList_joined]
    exact tidy_intercalate divides.isWord
  · have kept : collapseFrom false text.toList = text.toList :=
      collapseFrom_eq_self tidy.space tidy.single nofun
    rw [squeeze, stripChars_eq_self tidy.first tidy.last, kept, String.ofList_toList]

end LineScript.Text
