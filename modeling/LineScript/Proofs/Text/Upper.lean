import LineScript.Text.Upper

/-!
A text in upper case stays as it is when it is put in upper case again. The tables are compared
stretch by stretch: no partner of a code point has a partner of its own.
-/

namespace LineScript.Text

namespace CaseRun

def image (run : CaseRun) : Nat × Nat :=
  (run.partner run.first, run.partner run.last)

def misses (run : CaseRun) (low high : Nat) : Bool :=
  Nat.blt run.image.2 low || Nat.blt high run.image.1

/-- No partner of a code point of the run is in the other run: the stretches do not overlap, or
they hold every second code point and their parity differs. -/
def apart (run other : CaseRun) : Bool :=
  run.misses other.first other.last ||
    (Nat.beq other.step 2 && (Nat.beq run.step 2 || Nat.beq run.first run.last) &&
      Nat.beq ((run.image.1 + other.first) % 2) 1)

variable {run other : CaseRun} {code : Nat}

theorem contains_iff : run.contains code = true ↔
    run.first ≤ code ∧ code ≤ run.last ∧ (code - run.first) % run.step = 0 := by
  simp [contains, and_assoc]

theorem partner_mem_image (member : run.contains code = true) :
    run.image.1 ≤ run.partner code ∧ run.partner code ≤ run.image.2 := by
  obtain ⟨low, high, -⟩ := contains_iff.mp member
  simp only [image, partner]
  omega

theorem partner_outside {low high : Nat} (missed : run.misses low high = true)
    (member : run.contains code = true) : ¬ (low ≤ run.partner code ∧ run.partner code ≤ high) := by
  have bounds := partner_mem_image member
  simp only [misses, Bool.or_eq_true, Nat.blt_eq] at missed
  omega

theorem not_contains_partner (positive : 0 < run.image.1) (separate : run.apart other = true)
    (member : run.contains code = true) : other.contains (run.partner code) = false := by
  rw [Bool.eq_false_iff]
  intro again
  obtain ⟨low, high, stepped⟩ := contains_iff.mp again
  simp only [apart, Bool.or_eq_true, Bool.and_eq_true, Nat.beq_eq] at separate
  rcases separate with missed | ⟨⟨even, sparse⟩, odd⟩
  · exact partner_outside missed member ⟨low, high⟩
  -- Both stretches go in steps of two here, so the parity decides.
  obtain ⟨first, last, regular⟩ := contains_iff.mp member
  rw [even] at stepped
  simp only [image, partner] at positive odd stepped low high
  rcases sparse with double | single
  · rw [double] at regular
    omega
  · omega

end CaseRun

theorem toNat_ofNat {code : Nat} (valid : code.isValidChar) : (Char.ofNat code).toNat = code := by
  rw [Char.ofNat, dif_pos valid]
  rfl

theorem upperChar_ascii {c : Char} (ascii : c.toNat < 128)
    (notLower : ¬ (97 ≤ c.toNat ∧ c.toNat ≤ 122)) : upperChar c = [c] := by
  rw [upperChar, if_pos ascii, if_neg]
  simp only [Bool.and_eq_true, decide_eq_true_eq, Char.le_def, UInt32.le_iff_toNat_le]
  exact notLower

theorem upperChar_of_absent {c : Char} (notLower : ¬ (97 ≤ c.toNat ∧ c.toNat ≤ 122))
    (noExpansion : ∀ entry ∈ upperExpansions.toList, entry.1 ≠ c.toNat)
    (noRun : ∀ run ∈ upperRuns.toList, run.contains c.toNat = false) : upperChar c = [c] := by
  by_cases ascii : c.toNat < 128
  · exact upperChar_ascii ascii notLower
  · have expansions : (upperExpansions.find? fun entry => entry.1 == c.toNat) = none := by
      simpa [Array.find?_eq_none] using noExpansion
    have runs : (upperRuns.find? fun run => run.contains c.toNat) = none := by
      simpa [Array.find?_eq_none] using noRun
    rw [upperChar, if_neg ascii, expansions, runs]

def settled (code : Nat) : Bool :=
  !(Nat.ble 97 code && Nat.ble code 122) &&
    (upperExpansions.toList.all fun entry => !Nat.beq entry.1 code) &&
    upperRuns.toList.all fun run => !run.contains code

theorem upperChar_ofNat {code : Nat} (ready : settled code = true) :
    upperChar (Char.ofNat code) = [Char.ofNat code] := by
  by_cases valid : code.isValidChar
  · have same := toNat_ofNat valid
    simp only [settled, Bool.and_eq_true, Bool.not_eq_true', List.all_eq_true] at ready
    obtain ⟨⟨notLower, noExpansion⟩, noRun⟩ := ready
    refine upperChar_of_absent ?_ ?_ ?_
    · simpa [same, Bool.eq_false_iff] using notLower
    · intro entry member equal
      have different := noExpansion entry member
      simp [equal, same] at different
    · simpa [same] using noRun
  · have zero : Char.ofNat code = Char.ofNat 0 := by
      rw [Char.ofNat, dif_neg valid]
      rfl
    rw [zero]
    decide

theorem settled_expansions :
    ∀ entry ∈ upperExpansions.toList, ∀ code ∈ entry.2, settled code = true := by
  decide +kernel

def final (run : CaseRun) : Bool :=
  Nat.blt 0 run.image.1 && run.misses 97 122 &&
    (upperExpansions.toList.all fun entry => run.misses entry.1 entry.1) &&
    upperRuns.toList.all run.apart

theorem upperRuns_final : upperRuns.toList.all final = true := by
  decide +kernel

theorem settled_partner {run : CaseRun} (listed : run ∈ upperRuns.toList) {code : Nat}
    (member : run.contains code = true) : settled (run.partner code) = true := by
  have ends := List.all_eq_true.mp upperRuns_final run listed
  simp only [final, Bool.and_eq_true, List.all_eq_true, Nat.blt_eq] at ends
  obtain ⟨⟨⟨positive, notLower⟩, noExpansion⟩, separate⟩ := ends
  simp only [settled, Bool.and_eq_true, Bool.not_eq_true', List.all_eq_true]
  refine ⟨⟨?_, fun entry found => ?_⟩, fun other found => ?_⟩
  · have outside := CaseRun.partner_outside notLower member
    simpa [Bool.eq_false_iff] using outside
  · have outside := CaseRun.partner_outside (noExpansion entry found) member
    rw [Bool.eq_false_iff, Ne, Nat.beq_eq]
    omega
  · exact CaseRun.not_contains_partner positive (separate other found) member

theorem upperChar_settled {c d : Char} (member : d ∈ upperChar c) : upperChar d = [d] := by
  by_cases ascii : c.toNat < 128
  · by_cases lower : 97 ≤ c.toNat ∧ c.toNat ≤ 122
    · have isLower : ('a' ≤ c && c ≤ 'z') = true := by
        simp only [Bool.and_eq_true, decide_eq_true_eq, Char.le_def, UInt32.le_iff_toNat_le]
        exact lower
      rw [upperChar, if_pos ascii, if_pos isLower, List.mem_singleton] at member
      have code : d.toNat = c.toNat - 32 := by
        rw [member]
        exact toNat_ofNat (Or.inl (by omega))
      exact upperChar_ascii (by omega) (by omega)
    · have same := upperChar_ascii ascii lower
      rw [same, List.mem_singleton] at member
      rw [member, same]
  unfold upperChar at member
  rw [if_neg ascii] at member
  split at member
  -- The tables are closed under taking upper case, which was checked entry by entry.
  · next entry found =>
      obtain ⟨code, listed, rfl⟩ := List.mem_map.mp member
      have known := Array.mem_toList_iff.mpr (Array.mem_of_find?_eq_some found)
      exact upperChar_ofNat (settled_expansions entry known code listed)
  · next noExpansion =>
      split at member
      · next run found =>
          rw [List.mem_singleton] at member
          have known := Array.mem_toList_iff.mpr (Array.mem_of_find?_eq_some found)
          have contained := Array.find?_some found
          rw [member]
          exact upperChar_ofNat (settled_partner known contained)
      · next noRun =>
          rw [List.mem_singleton] at member
          rw [member, upperChar, if_neg ascii, noExpansion, noRun]

theorem upper_upper (text : String) : upper (upper text) = upper text := by
  have settle : ∀ chars : List Char, (∀ d ∈ chars, upperChar d = [d]) →
      chars.flatMap upperChar = chars := by
    intro chars
    induction chars with
    | nil => exact fun _ => rfl
    | cons d rest ih =>
        intro every
        rw [List.flatMap_cons, every d List.mem_cons_self,
          ih fun e member => every e (List.mem_cons_of_mem d member), List.singleton_append]
  unfold upper
  rw [String.toList_ofList, settle]
  intro d member
  obtain ⟨c, -, here⟩ := List.mem_flatMap.mp member
  exact upperChar_settled here

end LineScript.Text
