import LineScript.Proofs.Argument.Scan
import LineScript.Proofs.Block.Syntax
import LineScript.Proofs.Operands

/-!
The header of a conditional block with a condition of one argument, with and without the word that
negates it. Both have the same keyword, both read the condition in the same way, and exactly one of
them takes the first branch.
-/

namespace LineScript

open LineScript.Action

/-! ## Headers -/

def conditionHeader (condition : String) : String :=
  "IF " ++ condition

def negatedHeader (condition : String) : String :=
  "IF NOT " ++ condition

namespace LineText

variable {condition : String} {piece : Piece}

theorem trimEnd_of_single (single : pieces (conditionHeader condition) = [piece]) :
    Text.trimEnd condition.toList ≠ [] := by
  intro blank
  have stripped : Text.stripChars (conditionHeader condition).toList = "IF".toList := by
    rw [conditionHeader, String.toList_append,
      show "IF ".toList = 'I' :: ['F', ' '] from rfl, Text.stripChars_cons_append (by decide),
      if_pos blank]
    decide
  rw [pieces, tokenize_eq (by rw [stripped]; decide), stripped] at single
  have nothing : piecesOf (("IF".toList.splitOn ' ').map String.ofList) = [] := by decide
  rw [nothing] at single
  cases single

theorem header_of_visible {text : String} {more : List Char}
    (chars : text.toList = 'I' :: 'F' :: ' ' :: more ++ condition.toList)
    (visible : Text.trimEnd condition.toList ≠ []) :
    isInstruction text = true ∧ keyword text = "IF" ∧
      pieces text =
        ((more ++ Text.trimEnd condition.toList).foldl Scan.step Scan.initial).finish := by
  have stripped : Text.stripChars text.toList =
      ['I', 'F'] ++ ' ' :: (more ++ Text.trimEnd condition.toList) := by
    rw [chars, Text.stripChars_cons_append (by decide), if_neg visible]
    rfl
  have tokens : tokenize text =
      ((['I', 'F'] ++ ' ' :: (more ++ Text.trimEnd condition.toList)).splitOn ' ').map
        String.ofList := by
    rw [tokenize_eq (by rw [stripped]; simp), stripped]
  refine ⟨?_, ?_, ?_⟩
  · unfold isInstruction isSkippable isDirective
    rw [stripped]
    rfl
  · rw [keyword, tokens, splitOn_space (by decide), List.map_cons]
    change Text.upper (String.ofList ['I', 'F']) = "IF"
    decide
  · rw [pieces, tokens, piecesOf, argumentText_splitOn (by decide)]

theorem toList_conditionHeader (condition : String) :
    (conditionHeader condition).toList = 'I' :: 'F' :: ' ' :: [] ++ condition.toList := by
  rw [conditionHeader, String.toList_append]
  rfl

theorem toList_negatedHeader (condition : String) :
    (negatedHeader condition).toList =
      'I' :: 'F' :: ' ' :: ['N', 'O', 'T', ' '] ++ condition.toList := by
  rw [negatedHeader, String.toList_append]
  rfl

theorem pieces_negatedHeader (single : pieces (conditionHeader condition) = [piece]) :
    pieces (negatedHeader condition) = [⟨"NOT", false⟩, piece] := by
  have visible := trimEnd_of_single single
  have word : ['N', 'O', 'T', ' '].foldl Scan.step Scan.initial =
      Scan.initial.after [⟨"NOT", false⟩] := by decide
  rw [(header_of_visible (toList_conditionHeader condition) visible).2.2, List.nil_append] at single
  rw [(header_of_visible (toList_negatedHeader condition) visible).2.2, List.foldl_append, word,
    Scan.foldl_after, Scan.finish_after, single]
  rfl

theorem openedBy_header (single : pieces (conditionHeader condition) = [piece]) :
    BlockKind.conditional.OpenedBy (conditionHeader condition) ∧
      BlockKind.conditional.OpenedBy (negatedHeader condition) := by
  have visible := trimEnd_of_single single
  obtain ⟨executed, word, -⟩ := header_of_visible (toList_conditionHeader condition) visible
  obtain ⟨executedNot, wordNot, -⟩ := header_of_visible (toList_negatedHeader condition) visible
  exact ⟨BlockKind.openedBy_conditional.mpr ⟨executed, word⟩,
    BlockKind.openedBy_conditional.mpr ⟨executedNot, wordNot⟩⟩

end LineText

/-! ## Conditions -/

theorem Reference.resolvePiece_not (scope : Scope) :
    resolvePiece ⟨"NOT", false⟩ scope = .ok "NOT" scope := by
  rw [resolvePiece_eq, Piece.reference_unmarked (by simp), within_literal]
  rfl

theorem Reference.resolveAll_not (pieces : List Piece) (scope : Scope) :
    resolveAll (⟨"NOT", false⟩ :: pieces) scope =
      (resolveAll pieces >>= fun args => pure ("NOT" :: args) : Action (List String)) scope := by
  rw [resolveAll, List.mapM_cons, bind_apply, resolvePiece_not]
  rfl

theorem Effect.branchTaken_not (scope : Scope) (value : String) :
    branchTaken scope ["NOT", value] = !branchTaken scope [value] := by
  have word : Text.upper "NOT" == "NOT" := by decide
  rw [branchTaken, if_pos word]
  rfl

end LineScript
