import LineScript.Proofs.Number.Bits
import LineScript.Proofs.Operation.Arithmetic
import Std.Data.String.ToInt

/-!
Binary numerals on texts. Writing a number to base two and reading it again gives the number of the
same 32-bit word, so that it gives the number itself exactly if it is a signed word.
-/

namespace LineScript

open LineScript.Number

namespace Operation

variable {n : ℤ}

theorem value_readBinary_toBinary (n : ℤ) :
    (readBinary (Number.toBinary n)).value =
      if n < 2 ^ 32 then toString (n.bmod (2 ^ 32)) else nullText := by
  unfold readBinary
  split_ifs with small
  · rw [ofBinary?_toBinary small]
    rfl
  · rw [ofBinary?_toBinary_of_le (not_lt.mp small)]
    rfl

theorem readBinary_toBinary_iff :
    (readBinary (Number.toBinary (Reading.integer (toString n)).value)).value = toString n ↔
      -2 ^ 31 ≤ n ∧ n < 2 ^ 31 := by
  have same (m : ℤ) : toString m = toString n ↔ m = n := by
    rw [Int.toString_eq_repr, Int.toString_eq_repr, Int.repr_inj]
  have words : 10 ^ 10 ≤ 10 ^ digitLimit := Nat.pow_le_pow_right (by decide) (by decide)
  rw [Reading.integer_toString, value_readBinary_toBinary, counted]
  dsimp only
  by_cases few : n.natAbs < 10 ^ digitLimit
  · rw [if_pos few]
    split_ifs with small
    · rw [same, eq_comm, eq_bmod_iff]
      exact ⟨fun signed => ⟨signed.1, signed.2.1⟩, fun signed => ⟨signed.1, signed.2, rfl⟩⟩
    · have read := (parseInt?_toString n).trans (if_pos few)
      have null : parseInt? nullText = none := by decide +kernel
      refine iff_of_false (fun kept => ?_) (by omega)
      rw [← kept, null] at read
      cases read
  · rw [if_neg few, if_pos (by decide), same]
    refine iff_of_false (fun zero => few ?_) (by omega)
    rw [← zero]
    exact Nat.pow_pos (by decide)

end Operation

namespace State

/-- Writing a number to base two and reading it again gives the number of the same word. -/
theorem binary_roundTrips (script : Script) :
    (∀ n : ℤ, n < 2 ^ 32 → ∃ v, ofBinary? (toBinary n) = some v ∧
      ∀ w, w = v ↔ -2 ^ 31 ≤ w ∧ w < 2 ^ 31 ∧ w ≡ n [ZMOD 2 ^ 32]) ∧
    (∀ n : ℤ, 2 ^ 32 ≤ n → ofBinary? (toBinary n) = none) ∧
    (∀ (n : ℤ) (now : State) (line : Line) (scope : Scope) (destination : String),
      now.Applies line .toBinary [toString n] scope destination →
      ∃ written, now.Computes script line scope destination written ∧
        ∀ (later : State) (again : Line) (scopeAgain : Scope) (destinationAgain : String),
          later.Applies again .ofBinary [written.value] scopeAgain destinationAgain →
          ∃ back, later.Computes script again scopeAgain destinationAgain back ∧
            (back.value = toString n ↔ -2 ^ 31 ≤ n ∧ n < 2 ^ 31)) ∧
    (∀ text : String, BinaryRow text.toList → ∃ v, ofBinary? text = some v ∧
      toBinary v = String.ofList (withoutLeadingZeros text.toList)) ∧
    ∀ text : String, (ofBinary? text).isSome = true ↔ BinaryRow (Text.stripChars text.toList) := by
  refine ⟨fun n small => ⟨_, ofBinary?_toBinary small, fun w => eq_bmod_iff⟩,
    fun n large => ofBinary?_toBinary_of_le large, ?_, fun text row => row.toBinary_eq,
    fun text => ofBinary?_isSome⟩
  intro n now line scope destination writes
  refine ⟨_, writes.computes script rfl, fun later again scopeAgain destinationAgain reads => ?_⟩
  exact ⟨_, reads.computes script rfl, Operation.readBinary_toBinary_iff⟩

theorem binary_roundTrips_minusOneExample :
    itemsExample.Applies (.ofText 1 "TOBIN x -1") .toBinary ["-1"] itemsExample.scope "x" ∧
      ∃ written, itemsExample.Computes (.ofLines "<string>" []) (.ofText 1 "TOBIN x -1")
        itemsExample.scope "x" written ∧
        ∀ (later : State) (again : Line) (scope : Scope) (destination : String),
          later.Applies again .ofBinary [written.value] scope destination →
          ∃ back, later.Computes (.ofLines "<string>" []) again scope destination back ∧
            back.value = "-1" := by
  have split : piecesOf (Line.ofText 1 "TOBIN x -1").tokens = [⟨"x", false⟩, ⟨"-1", false⟩] := by
    decide +kernel
  have met : itemsExample.Meets (.ofText 1 "TOBIN x -1")
      ⟨"TOBIN", 1, some 2, .builtin (.operation .toBinary), "", "extended"⟩ ["x", "-1"]
      itemsExample.scope := by
    refine ⟨by decide +kernel, split ▸ (by with_unfolding_all rfl), ?_, by decide +kernel⟩
    have absent : Instruction.core.get? "TOBIN" = none := by rfl
    exact Machine.lookup?_extended rfl absent
      (by rfl : Instruction.extended.get? "TOBIN" = some ⟨_, _, _, _, _, _⟩)
  have writes : itemsExample.Applies (.ofText 1 "TOBIN x -1") .toBinary [toString (-1 : ℤ)]
      itemsExample.scope "x" :=
    ⟨⟨_, ["-1"], met, rfl, by decide +kernel⟩, by decide +kernel⟩
  obtain ⟨-, -, roundTrip, -, -⟩ := binary_roundTrips (.ofLines "<string>" [])
  obtain ⟨written, stored, reads⟩ := roundTrip (-1) _ _ _ _ writes
  refine ⟨writes, written, stored, fun later again scope destination applies => ?_⟩
  obtain ⟨back, restored, same⟩ := reads later again scope destination applies
  exact ⟨back, restored, same.mpr (by decide)⟩

end State

end LineScript
