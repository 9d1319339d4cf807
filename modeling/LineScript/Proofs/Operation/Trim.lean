import LineScript.Proofs.Operation.Inputs
import LineScript.Proofs.Text.Words

/-!
Trimming. A line with TRIM stores the words of a text, joined by single spaces. Only blanks are
lost, and what has been stored so is stored again when it is trimmed once more.
-/

namespace LineScript.State

variable {line : Line} {now : State} {scope : Scope} {destination text : String}

/-- A line with TRIM comes to a variable that exists with a text to be trimmed: the one that follows
the variable or, where there is none, the value of the variable. -/
structure Trims (now : State) (line : Line) (text : String) (scope : Scope) (destination : String) :
    Prop where
  named : line.keyword = "TRIM"
  meets : ∃ spec rest value, now.Meets line spec (destination :: rest) scope ∧
    scope.frame.locals.get? destination = some value ∧ rest.headD value = text

theorem Trims.applies (trims : now.Trims line text scope destination) :
    now.Applies line .trim [text] scope destination := by
  obtain ⟨spec, rest, value, met, held, given⟩ := trims.meets
  have core : scope.machine.lookup? "TRIM" =
      some ⟨"TRIM", 1, some 2, .builtin (.operation .trim), "", "core"⟩ :=
    Machine.lookup?_core (by rfl : Instruction.core.get? "TRIM" = some ⟨_, _, _, _, _, _⟩)
  obtain rfl := Option.some.inj ((trims.named ▸ met.found).symm.trans core)
  refine ⟨⟨_, rest, met, rfl, ?_⟩, Option.isSome_iff_exists.mpr ⟨value, held⟩⟩
  subst given
  cases rest with
  | nil =>
      have missing : ([] : List String).length + 1 = Operation.trim.arity := rfl
      rw [Scope.operands_short held missing]
      rfl
  | cons first others => rfl

/-- TRIM stores the words of a text, joined by single spaces. -/
theorem trims_words (script : Script) (trims : now.Trims line text scope destination) :
    ∃ words, (∀ others, Text.Divides text.toList others ↔ others = words) ∧
      (∀ c, Text.isBlank c = true ↔ c.toNat ∈ Text.blankCodes) ∧
      let trimmed := Text.joined words
      now.Computes script line scope destination (.plain trimmed) ∧
        Text.Tidy trimmed.toList ∧
        Text.visible trimmed.toList = Text.visible text.toList ∧
        (trimmed = text ↔ Text.Tidy text.toList) ∧
        ∀ (later : State) (again : Line) (scopeAgain : Scope) (destinationAgain : String),
          later.Trims again trimmed scopeAgain destinationAgain →
          later.Computes script again scopeAgain destinationAgain (.plain trimmed) := by
  have divides := Text.divides_iff.mpr (Eq.refl (Text.wordsFrom [] text.toList))
  have squeezed := divides.squeeze_eq
  have tidy : Text.Tidy (Text.joined (Text.wordsFrom [] text.toList)).toList := by
    rw [Text.toList_joined]
    exact Text.tidy_intercalate divides.isWord
  refine ⟨_, fun others => Text.divides_iff, Text.isBlank_iff, ?_, tidy, ?_, ?_, ?_⟩
  · exact squeezed ▸ trims.applies.computes script rfl
  · rw [Text.toList_joined, Text.visible_intercalate divides.isWord, divides.visible_eq]
  · rw [← squeezed, Text.squeeze_eq_self_iff]
  · intro later again scopeAgain destinationAgain trimsAgain
    have computes := trimsAgain.applies.computes script rfl
    rwa [Text.squeeze_eq_self_iff.mpr tidy] at computes

/-- Blanks of several kinds are dropped and collapsed, and the short form then changes nothing. -/
theorem trims_words_unicodeExample :
    itemsExample.Trims (.ofText 1 "TRIM x \"\u3000a\t \u00a0b \"") "\u3000a\t \u00a0b "
        itemsExample.scope "x" ∧
      itemsExample.Computes (.ofLines "<string>" []) (.ofText 1 "TRIM x \"\u3000a\t \u00a0b \"")
        itemsExample.scope "x" (.plain "a b") ∧
      let scope := itemsExample.scope.stored "x" (.plain "a b")
      let later := { itemsExample with scope }
      later.Trims (.ofText 2 "TRIM x") "a b" scope "x" ∧
        later.Computes (.ofLines "<string>" []) (.ofText 2 "TRIM x") scope "x" (.plain "a b") := by
  have split : piecesOf (Line.ofText 1 "TRIM x \"\u3000a\t \u00a0b \"").tokens =
      [⟨"x", false⟩, ⟨"\u3000a\t \u00a0b ", true⟩] := by decide +kernel
  have met : itemsExample.Meets (.ofText 1 "TRIM x \"\u3000a\t \u00a0b \"")
      ⟨"TRIM", 1, some 2, .builtin (.operation .trim), "", "core"⟩ ["x", "\u3000a\t \u00a0b "]
      itemsExample.scope :=
    meets_core (by decide +kernel) (by decide +kernel) split (by with_unfolding_all rfl)
      (by rfl : Instruction.core.get? "TRIM" = some ⟨_, _, _, _, _, _⟩) (by decide +kernel)
  have trims : itemsExample.Trims (.ofText 1 "TRIM x \"\u3000a\t \u00a0b \"")
      "\u3000a\t \u00a0b " itemsExample.scope "x" :=
    ⟨by decide +kernel, _, ["\u3000a\t \u00a0b "], "0", met, by decide +kernel, rfl⟩
  obtain ⟨words, divides, -, stored, -, -, -, again⟩ := trims_words (.ofLines "<string>" []) trims
  obtain rfl := (divides [['a'], ['b']]).mp (Text.divides_iff.mpr (by decide +kernel))
  have same : Text.joined [['a'], ['b']] = "a b" := by decide +kernel
  rw [same] at stored again
  refine ⟨trims, stored, ?_⟩
  intro scope later
  have splitShort : piecesOf (Line.ofText 2 "TRIM x").tokens = [⟨"x", false⟩] := by decide +kernel
  have metShort : later.Meets (.ofText 2 "TRIM x")
      ⟨"TRIM", 1, some 2, .builtin (.operation .trim), "", "core"⟩ ["x"] scope :=
    meets_core (by decide +kernel) (by decide +kernel) splitShort (by with_unfolding_all rfl)
      (by rfl : Instruction.core.get? "TRIM" = some ⟨_, _, _, _, _, _⟩) (by decide +kernel)
  have short : later.Trims (.ofText 2 "TRIM x") "a b" scope "x" :=
    ⟨by decide +kernel, _, [], "a b", metShort, by decide +kernel, rfl⟩
  exact ⟨short, again _ _ _ _ short⟩

end LineScript.State
