import LineScript.Proofs.Number.Places
import LineScript.Proofs.Operation.Arithmetic

/-!
Rounding on texts. What is stored is the nearest multiple of a power of ten, ties to even, if that
multiple has at most 28 digits; otherwise NULL is stored, with one error. A text that has been
stored so is stored again when it is rounded to the same number of places.
-/

namespace LineScript

open LineScript.Number

namespace Operation

variable {value places text : String} {v : Decimal} {p : ℤ}

/-- What is said about a number of places below zero, for which none are kept. -/
def placesNotes (p : ℤ) : List Note :=
  if p < 0 then [⟨.error, s!"Cannot round to {p} decimal places.", .malformedValue⟩] else []

def unroundedNote (value : String) (places : ℕ) : Note :=
  let what := s!"Rounding {value} to {places} decimal places"
  ⟨.error, s!"{what} is out of range ({DecimalFault.invalidOperation.name}).", .mathDomain⟩

theorem roundTo_read (read : Decimal.parse? value = some v) (asked : parseInt? places = some p) :
    roundTo value places =
      let rounded := decimalText (v.roundTo p.toNat)
        s!"Rounding {value} to {p.toNat} decimal places"
      ⟨rounded.value, placesNotes p ++ rounded.notes⟩ := by
  rw [roundTo, Reading.decimal_eq read, Reading.integer_eq asked]
  unfold placesNotes
  by_cases negative : p < 0
  · have none : p.toNat = 0 := Int.toNat_of_nonpos negative.le
    simp only [Computed.andThen, Computed.plain, negative, ↓reduceIte, none]
    rfl
  · simp only [Computed.andThen, Computed.plain, negative, ↓reduceIte, List.nil_append]

theorem roundTo_of_fits (read : Decimal.parse? value = some v) (asked : parseInt? places = some p)
    (few : p ≤ 999999) (fits : v.coefficientAt (-p.toNat) < 10 ^ 28) :
    ∃ text, roundTo value places = ⟨text, placesNotes p⟩ ∧
      Writes text (roundAt (-p.toNat) v.value) := by
  have rounded := v.roundTo_eq (show p.toNat ≤ 999999 by omega)
  rw [if_pos fits] at rounded
  obtain ⟨text, shown, writes⟩ := decimalText_settled (Decimal.settled_of_roundTo rounded)
    s!"Rounding {value} to {p.toNat} decimal places"
  refine ⟨text, ?_, v.value_coefficientAt _ ▸ writes⟩
  rw [roundTo_read read asked, rounded, shown]
  simp [Computed.plain]

theorem roundTo_of_not_fits (read : Decimal.parse? value = some v)
    (asked : parseInt? places = some p) (few : p ≤ 999999)
    (beyond : ¬ v.coefficientAt (-p.toNat) < 10 ^ 28) :
    roundTo value places = ⟨nullText, placesNotes p ++ [unroundedNote value p.toNat]⟩ := by
  rw [roundTo_read read asked, v.roundTo_eq (show p.toNat ≤ 999999 by omega), if_neg beyond]
  rfl

theorem roundTo_again {x : ℚ} (writes : Writes text x) (multiple : roundAt (-p.toNat) x = x)
    (small : |roundEven (x / 10 ^ (-p.toNat : ℤ))| < 10 ^ 28) (asked : parseInt? places = some p)
    (few : p ≤ 999999) : roundTo text places = ⟨text, placesNotes p⟩ := by
  obtain ⟨d, read, rfl⟩ := writes.denotes
  have fits : d.coefficientAt (-p.toNat) < 10 ^ 28 := by
    rw [← d.coefficientAt_eq] at small
    exact_mod_cast small
  obtain ⟨other, again, same⟩ := roundTo_of_fits read asked few fits
  rw [multiple] at same
  rw [again, same.unique writes]

end Operation

namespace State

variable {line : Line} {now : State} {scope : Scope} {destination value places : String}
  {v : Decimal} {p : ℤ}

/-- Rounding to places stores the nearest multiple of a power of ten. -/
theorem rounds_toPlaces (script : Script)
    (applies : now.Applies line .round [value, places] scope destination)
    (read : Decimal.parse? value = some v) (asked : parseInt? places = some p)
    (few : p ≤ 999999) :
    let q := max p 0
    let n := roundEven (v.value / 10 ^ (-q))
    let multiple : ℚ := n * 10 ^ (-q)
    let fits := |n| < 10 ^ 28 ∧ InRange multiple
    2 * |v.value - multiple| ≤ 10 ^ (-q) ∧ (2 * |v.value - multiple| = 10 ^ (-q) → Even n) ∧
      (fits → ∃ text, now.Computes script line scope destination ⟨text, Operation.placesNotes p⟩ ∧
        Denotes text multiple ∧ CanonicalText text ∧
        ∀ (later : State) (again : Line) (placesAgain : String) (scopeAgain : Scope)
          (destinationAgain : String),
          later.Applies again .round [text, placesAgain] scopeAgain destinationAgain →
          parseInt? placesAgain = some p →
          later.Computes script again scopeAgain destinationAgain
            ⟨text, Operation.placesNotes p⟩) ∧
      (¬ fits → now.Computes script line scope destination
        ⟨nullText, Operation.placesNotes p ++ [Operation.unroundedNote value q.toNat]⟩) := by
  intro q n multiple fits
  have kept : (p.toNat : ℤ) = q := by omega
  have natural : q.toNat = p.toNat := by omega
  -- The program measures the multiple by the digits of its coefficient.
  have size : (v.coefficientAt (-p.toNat) : ℤ) = |n| := by rw [v.coefficientAt_eq, kept]
  have small : v.coefficientAt (-p.toNat) < 10 ^ 28 ↔ |n| < 10 ^ 28 := by
    rw [← size]
    exact_mod_cast Iff.rfl
  have same : roundAt (-p.toNat) v.value = multiple := by rw [kept, roundAt]
  refine ⟨close_roundAt (-q) v.value, even_of_tie, fun held => ?_, fun beyond => ?_⟩
  · obtain ⟨text, rounded, writes⟩ := Operation.roundTo_of_fits read asked few (small.mpr held.1)
    rw [same] at writes
    refine ⟨text, applies.computes script (congrArg _ rounded), writes.denotes, writes.canonical,
      ?_⟩
    intro later again placesAgain scopeAgain destinationAgain appliesAgain askedAgain
    refine appliesAgain.computes script (congrArg Except.ok ?_)
    have whole : roundEven (multiple / 10 ^ (-p.toNat : ℤ)) = n := by
      rw [kept]
      exact roundEven_multiple n (-q)
    refine Operation.roundTo_again writes ?_ (whole ▸ held.1) askedAgain few
    rw [roundAt, whole, kept]
  · have many : ¬ v.coefficientAt (-p.toNat) < 10 ^ 28 := fun short => beyond
      ⟨small.mp short, inRange_multiple (le_max_right p 0) (by omega) (small.mp short)⟩
    rw [natural]
    exact applies.computes script
      (congrArg Except.ok (Operation.roundTo_of_not_fits read asked few many))

theorem rounds_toPlaces_tieExample :
    itemsExample.Applies (.ofText 1 "ROUND x 2.675 2") .round ["2.675", "2"]
        itemsExample.scope "x" ∧
      Decimal.parse? "2.675" = some ⟨false, 2675, -3⟩ ∧ parseInt? "2" = some 2 ∧
      (2 : ℤ) ≤ 999999 ∧
      ∃ text, itemsExample.Computes (.ofLines "<string>" []) (.ofText 1 "ROUND x 2.675 2")
        itemsExample.scope "x" ⟨text, []⟩ ∧ Denotes text 2.68 := by
  have split : piecesOf (Line.ofText 1 "ROUND x 2.675 2").tokens =
      [⟨"x", false⟩, ⟨"2.675", false⟩, ⟨"2", false⟩] := by decide +kernel
  have met : itemsExample.Meets (.ofText 1 "ROUND x 2.675 2")
      ⟨"ROUND", 2, some 3, .builtin (.operation .round), "", "core"⟩ ["x", "2.675", "2"]
      itemsExample.scope :=
    meets_core (by decide +kernel) (by decide +kernel) split (by with_unfolding_all rfl)
      (by rfl : Instruction.core.get? "ROUND" = some ⟨_, _, _, _, _, _⟩) (by decide +kernel)
  have applies : itemsExample.Applies (.ofText 1 "ROUND x 2.675 2") .round ["2.675", "2"]
      itemsExample.scope "x" :=
    ⟨⟨_, ["2.675", "2"], met, rfl, rfl⟩, by decide +kernel⟩
  have read : Decimal.parse? "2.675" = some ⟨false, 2675, -3⟩ := by decide +kernel
  have asked : parseInt? "2" = some 2 := by decide +kernel
  have even : roundEven ((⟨false, 2675, -3⟩ : Decimal).value / 10 ^ (-(2 : ℤ))) = 268 :=
    Nearest.eq ⟨by norm_num [Decimal.value_mk, abs_le], fun _ => by decide⟩
  obtain ⟨-, -, stores, -⟩ :=
    rounds_toPlaces (.ofLines "<string>" []) applies read asked (by decide)
  rw [show max (2 : ℤ) 0 = 2 from rfl, even] at stores
  obtain ⟨text, computes, denotes, -⟩ := stores
    ⟨by decide, inRange_multiple (q := 2) (by decide) (by decide) (by decide)⟩
  refine ⟨applies, read, asked, by decide, text, computes, ?_⟩
  convert denotes using 1
  norm_num

end State

end LineScript
