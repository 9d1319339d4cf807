import LineScript.Proofs.Text.Blank
import LineScript.Script.Argument
import LineScript.Script.Cursor
import LineScript.Script.Jump
import Mathlib.Data.List.Basic

/-!
Lines, statements and definitions of a script by their numbers. A line is divided at its single
spaces. A block of lines stands in a script below a number of other lines; the statements after a
line are those of the lines below it, and their numbers increase.
-/

namespace LineScript

/-! ## The division of a line -/

theorem tokenize_eq {text : String} (solid : Text.stripChars text.toList ≠ []) :
    tokenize text = ((Text.stripChars text.toList).splitOn ' ').map String.ofList := by
  unfold tokenize
  split
  · next blank => exact absurd blank solid
  · rfl

theorem splitOn_space {first : List Char} (word : ' ' ∉ first) (rest : List Char) :
    (first ++ ' ' :: rest).splitOn ' ' = first :: rest.splitOn ' ' := by
  refine List.splitOnP_append_cons_of_forall_mem (fun c member => ?_) ' ' (by simp) rest
  have other : c ≠ ' ' := fun same => word (same ▸ member)
  simpa using other

theorem exists_splitOn (chars : List Char) :
    ∃ first others more, chars.splitOn ' ' = first :: others ∧ ' ' ∉ first ∧
      chars = first ++ more ∧ ∀ c, more.head? = some c → c = ' ' := by
  by_cases space : ' ' ∈ chars
  · obtain ⟨first, rest, same, word⟩ := List.eq_append_cons_of_mem space
    refine ⟨first, rest.splitOn ' ', ' ' :: rest, ?_, word, same, ?_⟩
    · rw [same, splitOn_space word]
    · exact fun c first => (Option.some.inj first).symm
  · refine ⟨chars, [], [], List.splitOn_eq_singleton space, space, ?_, ?_⟩
    · exact (List.append_nil chars).symm
    · exact fun c first => nomatch first

theorem argumentText_splitOn {first : List Char} (word : ' ' ∉ first) (rest : List Char) :
    argumentText (((first ++ ' ' :: rest).splitOn ' ').map String.ofList) = rest := by
  have texts : ((rest.splitOn ' ').map String.ofList).map String.toList = rest.splitOn ' ' := by
    rw [List.map_map]
    exact (List.map_congr_left fun _ _ => String.toList_ofList).trans (List.map_id _)
  rw [splitOn_space word, List.map_cons, argumentText, List.tail_cons, String.toList_intercalate,
    texts]
  exact List.intercalate_splitOn ' '

theorem length_argumentText_tokenize_le (text : String) :
    (argumentText (tokenize text)).length ≤ text.length := by
  have stripped := Text.length_stripChars_le text.toList
  rw [String.length_toList] at stripped
  by_cases blank : Text.stripChars text.toList = []
  · unfold tokenize
    rw [blank]
    exact Nat.zero_le _
  · rw [tokenize_eq blank]
    generalize Text.stripChars text.toList = chars at stripped
    by_cases space : ' ' ∈ chars
    · obtain ⟨first, rest, rfl, word⟩ := List.eq_append_cons_of_mem space
      rw [argumentText_splitOn word]
      simp only [List.length_append, List.length_cons] at stripped
      omega
    · rw [List.splitOn_eq_singleton space]
      exact Nat.zero_le _

/-! ## Statements -/

theorem Statement.number_ofLine? {number : Nat} {text : String} {statement : Statement}
    (found : Statement.ofLine? number text = some statement) : statement.number = number := by
  unfold Statement.ofLine? at found
  split at found
  · cases found
  · cases found
    rfl

theorem statementsFrom_cons (number : Nat) (text : String) (rest : List String) :
    statementsFrom number (text :: rest) =
      (Statement.ofLine? number text).toList ++ statementsFrom (number + 1) rest := by
  cases found : Statement.ofLine? number text <;> simp [statementsFrom, found]

theorem statementsFrom_append (number : Nat) (first second : List String) :
    statementsFrom number (first ++ second) =
      statementsFrom number first ++ statementsFrom (number + first.length) second := by
  induction first generalizing number with
  | nil => simp [statementsFrom]
  | cons text rest ih =>
      simp only [List.cons_append, statementsFrom_cons, ih, List.length_cons, List.append_assoc]
      rw [show number + 1 + rest.length = number + (rest.length + 1) by omega]

theorem number_of_mem_statementsFrom {number : Nat} {texts : List String} {statement : Statement}
    (member : statement ∈ statementsFrom number texts) :
    number ≤ statement.number ∧ statement.number < number + texts.length := by
  induction texts generalizing number with
  | nil => simp [statementsFrom] at member
  | cons text rest ih =>
      rw [statementsFrom_cons, List.mem_append, Option.mem_toList] at member
      rcases member with here | below
      · rw [Statement.number_ofLine? here, List.length_cons]
        omega
      · have bounds := ih below
        rw [List.length_cons]
        omega

theorem statementsFrom_increasing (number : Nat) (texts : List String) :
    (statementsFrom number texts).Pairwise fun first second => first.number < second.number := by
  induction texts generalizing number with
  | nil => exact List.Pairwise.nil
  | cons text rest ih =>
      rw [statementsFrom_cons]
      cases found : Statement.ofLine? number text with
      | none => simpa using ih (number + 1)
      | some statement =>
          have here := Statement.number_ofLine? found
          simp only [Option.toList_some, List.singleton_append, List.pairwise_cons]
          refine ⟨fun later member => ?_, ih (number + 1)⟩
          have below := number_of_mem_statementsFrom member
          omega

/-! ## Lines -/

namespace Script

variable {script : Script}

theorem line?_succ (number : Nat) : script.line? (number + 1) = script.lines.toList[number]? := by
  simp [line?]

theorem line?_lt {number : Nat} {text : String} (found : script.line? (number + 1) = some text) :
    number < script.lineCount := by
  rw [line?_succ] at found
  simpa [lineCount] using (List.getElem?_eq_some_iff.mp found).1

theorem line?_isSome {number : Nat} (bound : number < script.lineCount) :
    ∃ text, script.line? (number + 1) = some text := by
  rw [line?_succ]
  exact ⟨_, List.getElem?_eq_getElem (by simpa [lineCount] using bound)⟩

/-- The lines stand one after another in the script, with `above` lines above them. -/
def HasLines (script : Script) (above : Nat) (texts : List String) : Prop :=
  texts <+: script.lines.toList.drop above

theorem hasLines_nil (above : Nat) : script.HasLines above [] :=
  List.nil_prefix

theorem hasLines_cons {above : Nat} {text : String} {rest : List String} :
    script.HasLines above (text :: rest) ↔
      script.line? (above + 1) = some text ∧ script.HasLines (above + 1) rest := by
  unfold HasLines
  rw [line?_succ]
  cases found : script.lines.toList[above]? with
  | none =>
      rw [List.drop_eq_nil_of_le (List.getElem?_eq_none_iff.mp found)]
      simp
  | some here =>
      obtain ⟨bound, equal⟩ := List.getElem?_eq_some_iff.mp found
      rw [List.drop_eq_getElem_cons bound, List.cons_prefix_cons, equal]
      simp [eq_comm]

theorem hasLines_append {above : Nat} {first second : List String} :
    script.HasLines above (first ++ second) ↔
      script.HasLines above first ∧ script.HasLines (above + first.length) second := by
  induction first generalizing above with
  | nil => simp [hasLines_nil]
  | cons text rest ih =>
      rw [List.cons_append, hasLines_cons, hasLines_cons, ih, List.length_cons, and_assoc,
        show above + 1 + rest.length = above + (rest.length + 1) by omega]

theorem HasLines.le_lineCount {above : Nat} {texts : List String}
    (has : script.HasLines above texts) (nonempty : texts ≠ []) :
    above + texts.length ≤ script.lineCount := by
  have length := has.length_le
  have positive := List.length_pos_iff.mpr nonempty
  simp only [List.length_drop, Array.length_toList] at length
  unfold lineCount
  omega

theorem HasLines.line? {above index : Nat} {texts : List String}
    (has : script.HasLines above texts) (bound : index < texts.length) :
    script.line? (above + index + 1) = texts[index]? := by
  obtain ⟨rest, split⟩ := has
  rw [line?_succ, ← List.getElem?_drop, ← split, List.getElem?_append_left bound]

/-! ## The statements after a line -/

theorem statements_increasing :
    script.statements.Pairwise fun first second => first.number < second.number := by
  rw [script.statements_eq]
  exact statementsFrom_increasing 1 _

theorem number_of_mem_statements {statement : Statement} (member : statement ∈ script.statements) :
    0 < statement.number ∧ statement.number ≤ script.lineCount := by
  rw [script.statements_eq] at member
  have bounds := number_of_mem_statementsFrom member
  simp only [Array.length_toList] at bounds
  unfold lineCount
  omega

theorem statements_after (above : Nat) :
    script.statements.filter (fun statement => (statement.number : Int) > above) =
      statementsFrom (above + 1) (script.lines.toList.drop above) := by
  have split := statementsFrom_append 1 (script.lines.toList.take above)
    (script.lines.toList.drop above)
  rw [List.take_append_drop] at split
  rw [script.statements_eq, split, List.filter_append]
  have nothing : (statementsFrom 1 (script.lines.toList.take above)).filter
      (fun statement => (statement.number : Int) > above) = [] := by
    rw [List.filter_eq_nil_iff]
    intro statement member
    have bounds := number_of_mem_statementsFrom member
    have length := List.length_take_le above script.lines.toList
    simp only [gt_iff_lt, Int.ofNat_lt, decide_eq_true_eq]
    omega
  rw [nothing, List.nil_append]
  by_cases short : script.lines.toList.length ≤ above
  · simp [List.drop_eq_nil_of_le short, statementsFrom]
  · rw [List.length_take, Nat.min_eq_left (by omega), Nat.add_comm 1 above, List.filter_eq_self]
    intro statement member
    have bounds := number_of_mem_statementsFrom member
    simp only [gt_iff_lt, Int.ofNat_lt, decide_eq_true_eq]
    omega

end Script

end LineScript
