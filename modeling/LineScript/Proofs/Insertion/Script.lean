import LineScript.Proofs.View.Program

/-!
Scripts with a blank line or a comment put in. The lines below it have the next numbers; the
definitions, the ends of blocks and the directives are where they were, under their new numbers.
-/

namespace LineScript

/-- The number of a line after another one has been put in below the given number of lines. -/
def shifted (above line : Nat) : Nat :=
  if line ≤ above then line else line + 1

theorem shifted_upper {above line : Nat} (upper : line ≤ above) : shifted above line = line :=
  if_pos upper

theorem shifted_lower {above line : Nat} (lower : above < line) :
    shifted above line = line + 1 :=
  if_neg (by omega)

theorem shifted_strictMono (above : Nat) : StrictMono (shifted above) := by
  intro first second less
  unfold shifted
  split <;> split <;> omega

namespace Script

def insertLine (script : Script) (above : Nat) (text : String) : Script :=
  .ofLines script.file (script.lines.toList.take above ++ text :: script.lines.toList.drop above)

variable {script : Script} {above : Nat} {text : String}

theorem lines_insertLine : (script.insertLine above text).lines.toList =
    script.lines.toList.take above ++ text :: script.lines.toList.drop above := by
  simp [insertLine, ofLines]

theorem lineCount_eq : script.lines.toList.length = script.lineCount :=
  Array.length_toList

theorem length_above (inside : above ≤ script.lineCount) :
    (script.lines.toList.take above).length = above := by
  rw [List.length_take, lineCount_eq, Nat.min_eq_left inside]

theorem lineCount_insertLine (inside : above ≤ script.lineCount) :
    (script.insertLine above text).lineCount = script.lineCount + 1 := by
  rw [← lineCount_eq, lines_insertLine]
  simp only [List.length_append, List.length_take, List.length_cons, List.length_drop, lineCount_eq]
  omega

/-! ## Lines -/

theorem line?_inserted (inside : above ≤ script.lineCount) :
    (script.insertLine above text).line? (above + 1) = some text := by
  have length := length_above inside
  rw [line?_succ, lines_insertLine, List.getElem?_append_right (by omega), length, Nat.sub_self,
    List.getElem?_cons_zero]

theorem line?_insertLine (inside : above ≤ script.lineCount) (line : Nat) :
    (script.insertLine above text).line? (shifted above line) = script.line? line := by
  cases line with
  | zero => simp [shifted, line?]
  | succ index =>
      have length := length_above inside
      by_cases upper : index + 1 ≤ above
      · rw [shifted_upper upper, line?_succ, line?_succ, lines_insertLine,
          List.getElem?_append_left (by omega), List.getElem?_take_of_lt (by omega)]
      · rw [shifted_lower (by omega), line?_succ, line?_succ, lines_insertLine,
          List.getElem?_append_right (by omega), length,
          show index + 1 - above = index - above + 1 by omega, List.getElem?_cons_succ,
          List.getElem?_drop, show above + (index - above) = index by omega]

end Script

/-! ## Definitions -/

theorem Script.entryLine?_insertLine {script : Script} {above : Nat} {text : String}
    (inside : above ≤ script.lineCount) (blank : isSkippable text = true) (name : String) :
    (script.insertLine above text).entryLine? name =
      (script.entryLine? name).map (shifted above) := by
  have length := length_above inside
  have split : firstDefined name 1 script.lines.toList =
      (firstDefined name 1 (script.lines.toList.take above)).or
        (firstDefined name (1 + above) (script.lines.toList.drop above)) := by
    conv_lhs => rw [← List.take_append_drop above script.lines.toList, firstDefined_append, length]
  rw [entryLine?_eq, entryLine?_eq, lines_insertLine, firstDefined_append, length, split]
  rw [firstDefined, LineText.definedName?_blank blank, if_neg (by simp),
    firstDefined_add (1 + above) 1]
  cases upper : firstDefined name 1 (script.lines.toList.take above) with
  | some line =>
      have bounds := firstDefined_bounds upper
      rw [length] at bounds
      simp [shifted_upper (show line ≤ above by omega)]
  | none =>
      cases lower : firstDefined name (1 + above) (script.lines.toList.drop above) with
      | none => rfl
      | some line =>
          have bounds := firstDefined_bounds lower
          simp [shifted_lower (show above < line by omega)]

/-! ## Blocks -/

def Statement.onLine (number : Nat → Nat) (statement : Statement) : Statement :=
  { statement with number := number statement.number }

theorem Statement.ofLine?_succ (number : Nat) (text : String) :
    ofLine? (number + 1) text = (ofLine? number text).map (onLine (· + 1)) := by
  unfold ofLine?
  by_cases other : (isSkippable text || isDirective text) = true
  · rw [if_pos other, if_pos other, Option.map_none]
  · simp only [if_neg other, Option.map_some, onLine]

theorem statementsFrom_succ (number : Nat) (texts : List String) :
    statementsFrom (number + 1) texts =
      (statementsFrom number texts).map (Statement.onLine (· + 1)) := by
  induction texts generalizing number with
  | nil => rfl
  | cons text rest ih =>
      rw [statementsFrom_cons, statementsFrom_cons, ih, Statement.ofLine?_succ, List.map_append]
      cases Statement.ofLine? number text <;> rfl

theorem Script.statements_insertLine {script : Script} {above : Nat} {text : String}
    (inside : above ≤ script.lineCount) (blank : isSkippable text = true) :
    (script.insertLine above text).statements =
      script.statements.map (Statement.onLine (shifted above)) := by
  have length := length_above inside
  have nothing (number : Nat) : Statement.ofLine? number text = none := by
    simp [Statement.ofLine?, blank]
  have split : statementsFrom 1 script.lines.toList =
      statementsFrom 1 (script.lines.toList.take above) ++
        statementsFrom (1 + above) (script.lines.toList.drop above) := by
    conv_lhs => rw [← List.take_append_drop above script.lines.toList, statementsFrom_append, length]
  rw [statements_eq, statements_eq, lines_insertLine, statementsFrom_append, length, split,
    statementsFrom_cons, nothing, Option.toList_none, List.nil_append,
    statementsFrom_succ (1 + above), List.map_append]
  congr 1
  · symm
    rw [List.map_congr_left (g := id), List.map_id]
    intro statement member
    have bounds := number_of_mem_statementsFrom member
    rw [length] at bounds
    rw [Statement.onLine, shifted_upper (by omega)]
    rfl
  · refine List.map_congr_left fun statement member => ?_
    have bounds := number_of_mem_statementsFrom member
    rw [Statement.onLine, Statement.onLine, shifted_lower (by omega)]

theorem findClosing_map (number : Nat → Nat) (opener : BlockMarker) (closer : String)
    (alternates : List String) (depth : Int) (statements : List Statement) :
    findClosing opener closer alternates depth (statements.map (Statement.onLine number)) =
      (findClosing opener closer alternates depth statements).map number := by
  induction statements generalizing depth with
  | nil => rfl
  | cons statement rest ih =>
      have opens : opener.opens (statement.onLine number) = opener.opens statement := rfl
      have keyword : (statement.onLine number).keyword = statement.keyword := rfl
      rw [List.map_cons, findClosing, findClosing, opens, keyword, ih, ih, ih]
      repeat' split
      all_goals rfl

theorem Script.blockEnd?_insertLine {script : Script} {above : Nat} {text : String}
    (inside : above ≤ script.lineCount) (blank : isSkippable text = true) (line : Nat)
    (opener : BlockMarker) (closer : String) (alternates : List String) :
    (script.insertLine above text).blockEnd? (shifted above line) opener closer alternates =
      (script.blockEnd? line opener closer alternates).map (shifted above) := by
  unfold blockEnd?
  rw [statements_insertLine inside blank, List.filter_map, ← findClosing_map]
  congr 2
  refine List.filter_congr fun statement _ => ?_
  have order := (shifted_strictMono above).lt_iff_lt (a := line) (b := statement.number)
  simp only [Function.comp_apply, Statement.onLine, gt_iff_lt, Int.ofNat_lt, order]

/-! ## Directives -/

theorem Directive.applyLines_append (machine : Machine) (number : Nat) (first second : List String) :
    applyLines machine number (first ++ second) =
      applyLines (applyLines machine number first) (number + first.length) second := by
  induction first generalizing machine number with
  | nil => rfl
  | cons text rest ih =>
      rw [List.cons_append, applyLines, applyLines, ih, List.length_cons, Nat.add_right_comm,
        ← Nat.add_assoc]

/-- The view of a run in which a line has been put in, after what the machine has reported. -/
def View.inserted (above : Nat) (before : Machine) : View where
  line := shifted above
  line_zero := shifted_upper (Nat.zero_le above)
  deeper := 0
  wider := 0
  messages := before.log.newest
  trace := before.trace

theorem View.applyAbove_inserted {script : Script} {above : Nat} {text : String}
    (inside : above ≤ script.lineCount) (blank : isSkippable text = true) (before machine : Machine)
    {line : Nat} (bounds : 0 < line ∧ line ≤ script.lineCount) :
    Directive.applyAbove ((View.inserted above before).machine machine)
        (script.insertLine above text) (shifted above line) =
      (View.inserted above before).machine (Directive.applyAbove machine script line) := by
  have length := Script.length_above inside
  unfold Directive.applyAbove
  rw [Script.lines_insertLine]
  by_cases upper : line ≤ above
  · rw [shifted_upper upper, List.take_append_of_le_length (by omega), List.take_take,
      Nat.min_eq_left (by omega)]
    refine applyLines_view (fun index bound => shifted_upper ?_) machine
    have := List.length_take_le (line - 1) script.lines.toList
    omega
  · have split : script.lines.toList.take (line - 1) = script.lines.toList.take above ++
        (script.lines.toList.drop above).take (line - 1 - above) := by
      rw [← List.take_add]
      congr 1
      omega
    have taken : (script.lines.toList.take above ++ text :: script.lines.toList.drop above).take line =
        script.lines.toList.take above ++
          text :: (script.lines.toList.drop above).take (line - 1 - above) := by
      rw [List.take_append, length, List.take_of_length_le (by omega),
        show line - above = line - 1 - above + 1 by omega, List.take_succ_cons]
    rw [shifted_lower (by omega), Nat.add_sub_cancel, taken, split, Directive.applyLines_append,
      Directive.applyLines_append, length, Directive.applyLines,
      if_neg (by simp [LineText.not_directive_of_blank blank])]
    rw [applyLines_view fun index bound => shifted_upper (by omega)]
    exact applyLines_view (fun index _ => by
      rw [show (View.inserted above before).line = shifted above from rfl, shifted_lower (by omega)]
      omega) _

theorem View.corresponds_inserted {script : Script} {above : Nat} {text : String}
    (inside : above ≤ script.lineCount) (blank : isSkippable text = true) (before : Machine) :
    (View.inserted above before).Corresponds script (script.insertLine above text) where
  increasing := shifted_strictMono above
  line? line _ := Script.line?_insertLine inside line
  lineCount line within := by
    rw [Script.lineCount_insertLine inside]
    change shifted above line ≤ _
    unfold shifted
    split <;> omega
  entryLine? := Script.entryLine?_insertLine inside blank
  entryInside name line found := (Script.entryLine?_bounds found).2
  blockEnd? := Script.blockEnd?_insertLine inside blank
  directives name line machine found :=
    applyAbove_inserted inside blank before machine (Script.entryLine?_bounds found)

end LineScript
