import LineScript.Proofs.Duality.Step

/-!
A script with a conditional block of two branches, and the same script with another header and the
branches exchanged. Apart from the header, the line between the branches and the end marker, every
line stands in both scripts, and what it can ask for stands at corresponding lines.
-/

namespace LineScript

/-! ## What the lines of a block ask for -/

namespace LineText.Seeks

variable {text : String} {kind other : BlockKind} {alternates : List String}

theorem not_closed (seeks : Seeks text kind alternates) : ¬ other.ClosedBy text := by
  rintro ⟨-, closes⟩
  cases seeks with
  | branch header => exact BlockKind.keyword_ne_closer .conditional other (header.symm.trans closes)
  | divider divides => exact other.closer_ne_divider (closes.symm.trans divides)
  | loop kind opened =>
      exact BlockKind.keyword_ne_closer (.loop kind) other (opened.keyword.symm.trans closes)

theorem not_inert (seeks : Seeks text kind alternates) : ¬ BlockKind.Inert text := by
  rintro ⟨executed, undivided, every⟩
  cases seeks with
  | branch header =>
      exact (every .conditional).2 (BlockKind.openedBy_conditional.mpr ⟨executed, header⟩)
  | divider divides => exact undivided divides
  | loop kind opened => exact (every (.loop kind)).2 opened

theorem of_conditional (seeks : Seeks text kind alternates)
    (opened : BlockKind.conditional.OpenedBy text) :
    kind = .conditional ∧ alternates = ["ELSE"] := by
  cases seeks with
  | branch header => exact ⟨rfl, rfl⟩
  | divider divides =>
      exact absurd (opened.keyword.symm.trans divides) (BlockKind.keyword_ne_divider .conditional)
  | loop kind loops =>
      cases BlockKind.keyword_injective (opened.keyword.symm.trans loops.keyword)

theorem of_divided (seeks : Seeks text kind alternates) (divided : BlockKind.DividedBy text) :
    kind = .conditional ∧ alternates = [] := by
  cases seeks with
  | branch header =>
      exact absurd (header.symm.trans divided.2) (BlockKind.keyword_ne_divider .conditional)
  | divider divides => exact ⟨rfl, rfl⟩
  | loop kind opened =>
      exact absurd (opened.keyword.symm.trans divided.2) (BlockKind.keyword_ne_divider _)

theorem of_loop (seeks : Seeks text kind alternates) {loop : LoopKind}
    (opened : (BlockKind.loop loop).OpenedBy text) : kind = .loop loop ∧ alternates = [] := by
  cases seeks with
  | branch header =>
      have same : (BlockKind.loop loop).marker.keyword = BlockKind.conditional.marker.keyword :=
        opened.keyword.symm.trans header
      cases BlockKind.keyword_injective same
  | divider divides =>
      exact absurd (opened.keyword.symm.trans divides) (BlockKind.keyword_ne_divider _)
  | loop kind loops =>
      exact ⟨(BlockKind.keyword_injective (opened.keyword.symm.trans loops.keyword)).symm, rfl⟩

theorem allowed (seeks : Seeks text kind alternates) : kind.Alternates alternates := by
  cases seeks with
  | branch header => exact .inr ⟨rfl, rfl⟩
  | divider divides => exact .inl rfl
  | loop kind opened => exact .inl rfl

end LineText.Seeks

theorem getElem?_around {inside rest : List String} {closer text : String} {index : Nat}
    (found : (inside ++ closer :: rest)[index]? = some text) :
    inside[index]? = some text ∨ (index = inside.length ∧ text = closer) ∨
      ∃ later, index = inside.length + 1 + later ∧ rest[later]? = some text := by
  rcases Nat.lt_trichotomy index inside.length with before | rfl | after
  · rw [List.getElem?_append_left before] at found
    exact .inl found
  · rw [List.getElem?_append_right le_rfl, Nat.sub_self] at found
    exact .inr (.inl ⟨rfl, (Option.some.inj found).symm⟩)
  · obtain ⟨later, rfl⟩ := Nat.exists_eq_add_of_lt after
    rw [List.getElem?_append_right (by omega),
      show inside.length + later + 1 - inside.length = later + 1 by omega] at found
    exact .inr (.inr ⟨later, by omega, found⟩)

namespace Block

variable {kind : BlockKind} {alternates : List String} {index : Nat}

def EndsWithin (block : Block) (index : Nat) (kind : BlockKind) (alternates : List String) : Prop :=
  ∃ last, index < last ∧ last < block.size ∧ ∀ above : Nat,
    ((⟨(above + index + 1 : Nat), kind.marker, kind.closer, alternates⟩, above + last + 1) :
      JumpQuery × Nat) ∈ block.ends above

theorem EndsWithin.inside {inner outer : Block} (within : inner.EndsWithin index kind alternates)
    {offset place : Nat} (here : place = offset + index) (fits : offset + inner.size ≤ outer.size)
    (ends : ∀ above, inner.ends (above + offset) ⊆ outer.ends above) :
    outer.EndsWithin place kind alternates := by
  obtain ⟨last, below, inside, member⟩ := within
  refine ⟨offset + last, by omega, by omega, fun above => ?_⟩
  have found := ends above (member (above + offset))
  rwa [show above + offset + index + 1 = above + place + 1 by omega,
    show above + offset + last + 1 = above + (offset + last) + 1 by omega] at found

/-- A line at which an enclosed block or the block after it has an end is met in the whole block
where those two stand. -/
theorem EndsWithin.enclosed {outer inner next : Block} {offset place : Nat} {closer text : String}
    (found : (inner.lines ++ closer :: next.lines)[index]? = some text)
    (here : place = offset + index) (whole : offset + inner.size + 1 + next.size ≤ outer.size)
    (apart : text ≠ closer)
    (within : inner.lines[index]? = some text → inner.EndsWithin index kind alternates)
    (after : ∀ later, next.lines[later]? = some text → next.EndsWithin later kind alternates)
    (ends : ∀ above, inner.ends (above + offset) ⊆ outer.ends above)
    (endsNext : ∀ above, next.ends (above + offset + inner.size + 1) ⊆ outer.ends above) :
    outer.EndsWithin place kind alternates := by
  rcases getElem?_around found with inner | ⟨-, same⟩ | ⟨later, below, inNext⟩
  · exact (within inner).inside here (by omega) ends
  · exact absurd same apart
  · change index = _ at below
    exact (after later inNext).inside
      (show place = offset + inner.size + 1 + later by rw [here, below, size]; omega) whole
      fun above => by simpa only [Nat.add_assoc] using endsNext above

theorem endsWithin {block : Block} (nested : block.Nested) {text : String}
    (found : block.lines[index]? = some text) (executed : LineText.isInstruction text = true)
    (seeks : LineText.Seeks text kind alternates) : block.EndsWithin index kind alternates := by
  induction block generalizing index with
  | done => cases found
  | blank other next ih =>
      cases index with
      | zero =>
          cases found
          rw [nested.1] at executed
          cases executed
      | succ index =>
          exact (ih nested.2 found).inside (Nat.add_comm index 1)
            (by simp [size, lines, Nat.add_comm]) fun above => List.Subset.refl _
  | line other next ih =>
      cases index with
      | zero =>
          cases found
          exact absurd nested.1 seeks.not_inert
      | succ index =>
          exact (ih nested.2 found).inside (Nat.add_comm index 1)
            (by simp [size, lines, Nat.add_comm]) fun above => List.Subset.refl _
  | branch header yes closer next ihYes ihNext =>
      obtain ⟨opened, nestedYes, closed, nestedNext⟩ := nested
      have whole : (branch header yes closer next).size = yes.size + 2 + next.size := by
        simp [size, lines]
        omega
      cases index with
      | zero =>
          cases found
          obtain ⟨rfl, rfl⟩ := seeks.of_conditional opened
          refine ⟨yes.size + 1, by omega, by omega, fun above => ?_⟩
          simp [ends, BlockKind.marker, BlockKind.closer]
          omega
      | succ index =>
          refine EndsWithin.enclosed found (Nat.add_comm index 1) (by omega)
            (fun same => seeks.not_closed (same ▸ closed)) (ihYes nestedYes)
            (fun _ inNext => ihNext nestedNext inNext) ?_ ?_ <;>
            exact fun above asked member => by simp [ends, member]
  | fork header yes divider no closer next ihYes ihNo ihNext =>
      -- The line between the branches asks for the end marker; the header asks for that line.
      obtain ⟨opened, nestedYes, divided, nestedNo, closed, nestedNext⟩ := nested
      have whole : (fork header yes divider no closer next).size =
          yes.size + no.size + 3 + next.size := by
        simp [size, lines]
        omega
      cases index with
      | zero =>
          cases found
          obtain ⟨rfl, rfl⟩ := seeks.of_conditional opened
          refine ⟨yes.size + 1, by omega, by omega, fun above => ?_⟩
          simp [ends, BlockKind.marker, BlockKind.closer]
          omega
      | succ index =>
          rcases getElem?_around found with inYes | ⟨middle, rfl⟩ | ⟨later, below, inRest⟩
          · refine (ihYes nestedYes inYes).inside (Nat.add_comm index 1) (by omega) ?_
            exact fun above asked member => by simp [ends, member]
          · obtain ⟨rfl, rfl⟩ := seeks.of_divided divided
            change index = yes.size at middle
            refine ⟨yes.size + no.size + 2, by omega, by omega, fun above => ?_⟩
            simp [ends, BlockKind.marker, BlockKind.closer]
            omega
          · change index = yes.size + 1 + later at below
            refine EndsWithin.enclosed inRest
              (show index + 1 = yes.size + 2 + later by omega) (by omega)
              (fun same => seeks.not_closed (same ▸ closed)) (ihNo nestedNo)
              (fun _ inNext => ihNext nestedNext inNext) ?_ ?_ <;>
              intro above asked member <;>
              rw [show above + (yes.size + 2) = above + 1 + yes.size + 1 by omega] at member <;>
              simp [ends, member]
  | loop loop header body closer next ihBody ihNext =>
      obtain ⟨opened, nestedBody, closed, nestedNext⟩ := nested
      have whole : (Block.loop loop header body closer next).size = body.size + 2 + next.size := by
        simp [size, lines]
        omega
      cases index with
      | zero =>
          cases found
          obtain ⟨rfl, rfl⟩ := seeks.of_loop opened
          refine ⟨body.size + 1, by omega, by omega, fun above => ?_⟩
          simp [ends, BlockKind.marker, BlockKind.closer]
          omega
      | succ index =>
          refine EndsWithin.enclosed found (Nat.add_comm index 1) (by omega)
            (fun same => seeks.not_closed (same ▸ closed)) (ihBody nestedBody)
            (fun _ inNext => ihNext nestedNext inNext) ?_ ?_ <;>
            exact fun above asked member => by simp [ends, member]

/-- A search passes over well-nested lines wherever it comes to them. -/
theorem findClosing_apart (allowed : kind.Alternates alternates) {block : Block}
    (nested : block.Nested) {depth : Int} (nonnegative : 0 ≤ depth) (early : List Statement)
    (number : Nat) (rest : List Statement) :
    findClosing kind.marker kind.closer alternates depth
        (early ++ (statementsFrom number block.lines ++ rest)) =
      findClosing kind.marker kind.closer alternates depth (early ++ rest) := by
  -- A search never gets to a negative depth, so that it passes over the lines from any statement.
  induction early generalizing depth with
  | nil => exact findClosing_nested allowed nested nonnegative number rest
  | cons statement early ih =>
      rw [List.cons_append, List.cons_append, findClosing, findClosing]
      split
      · rfl
      · next unfound =>
          split
          · exact ih (by omega)
          · split
            · next closes =>
                have inside : depth ≠ 0 := fun zero => unfound (by simp [zero, closes])
                exact ih (by omega)
            · exact ih nonnegative

end Block

/-! ## Conditional blocks with two branches -/

/-- A script with a conditional block of two branches. -/
structure Fork where
  file : String
  above : List String
  header : String
  first : Block
  second : Block
  below : List String
  opened : BlockKind.conditional.OpenedBy header
  nestedFirst : first.Nested
  nestedSecond : second.Nested

namespace Fork

variable (fork : Fork)

def block : Block :=
  .fork fork.header fork.first "ELSE" fork.second "ENDIF" .done

def script : Script :=
  .ofLines fork.file (fork.above ++ (fork.block.lines ++ fork.below))

/-- The numbers of lines above the header, above the line between the branches, and above the end
marker. -/
def head : Nat :=
  fork.above.length

def divider : Nat :=
  fork.head + 1 + fork.first.size

def close : Nat :=
  fork.divider + 1 + fork.second.size

def swapped (header : String) (opened : BlockKind.conditional.OpenedBy header) : Fork :=
  { fork with
    header, opened
    first := fork.second
    second := fork.first
    nestedFirst := fork.nestedSecond
    nestedSecond := fork.nestedFirst }

/-- The line that corresponds to a line if the branches are exchanged: the same one above and below
the block, and for the lines of a branch the line as far below the beginning of the branch. -/
def line (place : Nat) : Nat :=
  if place ≤ fork.head then place
  else if place ≤ fork.divider then place + (fork.second.size + 1)
  else if place ≤ fork.close then place - (fork.first.size + 1)
  else place

inductive Region : Nat → Prop where
  | above {place : Nat} (early : place < fork.head) : Region place
  | head : Region fork.head
  | first {index : Nat} (inside : index < fork.first.size) : Region (fork.head + 1 + index)
  | divider : Region fork.divider
  | second {index : Nat} (inside : index < fork.second.size) : Region (fork.divider + 1 + index)
  | close : Region fork.close
  | below (index : Nat) : Region (fork.close + 1 + index)

theorem region (place : Nat) : fork.Region place := by
  rcases Nat.lt_trichotomy place fork.head with early | rfl | late
  · exact .above early
  · exact .head
  obtain ⟨index, rfl⟩ := Nat.exists_eq_add_of_lt late
  rw [Nat.add_right_comm]
  rcases Nat.lt_trichotomy index fork.first.size with inside | rfl | outside
  · exact .first inside
  · exact .divider
  obtain ⟨index, rfl⟩ := Nat.exists_eq_add_of_lt outside
  rw [show fork.head + 1 + (fork.first.size + index + 1) = fork.divider + 1 + index by
    unfold divider; omega]
  rcases Nat.lt_trichotomy index fork.second.size with inside | rfl | outside
  · exact .second inside
  · exact .close
  obtain ⟨index, rfl⟩ := Nat.exists_eq_add_of_lt outside
  rw [show fork.divider + 1 + (fork.second.size + index + 1) = fork.close + 1 + index by
    unfold close; omega]
  exact .below index

variable {fork} {header : String} {opened : BlockKind.conditional.OpenedBy header} {place index : Nat}

@[simp]
theorem close_swapped : (fork.swapped header opened).close = fork.close := by
  simp only [close, divider, head, swapped]
  omega

theorem line_upper (upper : place ≤ fork.head) : fork.line place = place :=
  if_pos upper

theorem line_first (within : index ≤ fork.first.size) :
    fork.line (fork.head + 1 + index) = fork.head + 1 + fork.second.size + 1 + index := by
  unfold line
  rw [if_neg (by omega), if_pos (by unfold divider; omega)]
  omega

theorem line_second (within : index ≤ fork.second.size) :
    fork.line (fork.divider + 1 + index) = fork.head + 1 + index := by
  unfold line
  rw [if_neg (by unfold divider; omega), if_neg (by omega), if_pos (by unfold close; omega)]
  unfold divider
  omega

theorem line_lower (lower : fork.close < place) : fork.line place = place := by
  unfold close divider at lower
  unfold line close divider
  rw [if_neg (by omega), if_neg (by omega), if_neg (by omega)]

theorem line_le (fork : Fork) (place : Nat) : fork.line place ≤ max place fork.close := by
  unfold line close divider
  split_ifs <;> omega

/-! ## The lines of a script with a conditional block -/

theorem nested_block : fork.block.Nested :=
  ⟨fork.opened, fork.nestedFirst, by decide +kernel, fork.nestedSecond, by decide +kernel, trivial⟩

theorem lines_script : fork.script.lines.toList = fork.above ++ (fork.block.lines ++ fork.below) :=
  List.toList_toArray

theorem length_block : fork.head + fork.block.lines.length = fork.close + 1 := by
  simp only [block, Block.lines, close, divider, Block.size, List.length_cons, List.length_append,
    List.length_nil]
  omega

theorem lineCount_script : fork.script.lineCount = fork.close + 1 + fork.below.length := by
  have length := fork.length_block
  rw [Script.lineCount, ← Array.length_toList, lines_script, List.length_append,
    List.length_append, ← Nat.add_assoc]
  exact congrArg (· + fork.below.length) length

theorem hasLines_block : fork.script.HasLines fork.head fork.block.lines := by
  rw [Script.HasLines, lines_script, head, List.drop_left]
  exact List.prefix_append _ _

theorem line?_above (early : place < fork.head) :
    fork.script.line? (place + 1) = fork.above[place]? := by
  rw [Script.line?_succ, lines_script, List.getElem?_append_left early]

theorem line?_below (index : Nat) :
    fork.script.line? (fork.close + 1 + index + 1) = fork.below[index]? := by
  have length := fork.length_block
  unfold head at length
  rw [Script.line?_succ, lines_script, List.getElem?_append_right (by omega),
    List.getElem?_append_right (by omega)]
  congr 1
  omega

theorem hasLines_parts :
    fork.script.line? (fork.head + 1) = some fork.header ∧
      fork.script.HasLines (fork.head + 1) fork.first.lines ∧
      fork.script.line? (fork.divider + 1) = some "ELSE" ∧
      fork.script.HasLines (fork.divider + 1) fork.second.lines ∧
      fork.script.line? (fork.close + 1) = some "ENDIF" := by
  have has := fork.hasLines_block
  rw [block, Block.lines, Script.hasLines_cons, Script.hasLines_append, Script.hasLines_cons,
    Script.hasLines_append, Script.hasLines_cons] at has
  exact ⟨has.1, has.2.1, has.2.2.1, has.2.2.2.1, has.2.2.2.2.1⟩

theorem line?_first (inside : index < fork.first.size) :
    fork.script.line? (fork.head + 1 + index + 1) = fork.first.lines[index]? :=
  fork.hasLines_parts.2.1.line? inside

theorem line?_second (inside : index < fork.second.size) :
    fork.script.line? (fork.divider + 1 + index + 1) = fork.second.lines[index]? :=
  fork.hasLines_parts.2.2.2.1.line? inside

/-! ## Searches -/

variable {kind : BlockKind} {alternates : List String}

theorem blockEnd?_above (allowed : kind.Alternates alternates) (early : place ≤ fork.head) :
    fork.script.blockEnd? place kind.marker kind.closer alternates =
      findClosing kind.marker kind.closer alternates 0
        (statementsFrom (place + 1) (fork.above.drop place) ++
          statementsFrom (fork.close + 2) fork.below) := by
  have length := fork.length_block
  have below : place + 1 + (fork.above.drop place).length = fork.head + 1 := by
    rw [List.length_drop]
    unfold head at early ⊢
    omega
  rw [Script.blockEnd?, Script.statements_after, lines_script, List.drop_append_of_le_length early,
    statementsFrom_append, below, statementsFrom_append,
    Block.findClosing_apart allowed fork.nested_block (le_refl 0),
    show fork.head + 1 + fork.block.lines.length = fork.close + 2 by omega]

theorem blockEnd?_below (index : Nat) :
    fork.script.blockEnd? (fork.close + 1 + index : Nat) kind.marker kind.closer alternates =
      findClosing kind.marker kind.closer alternates 0
        (statementsFrom (fork.close + 1 + index + 1) (fork.below.drop index)) := by
  have length := fork.length_block
  unfold head at length
  rw [Script.blockEnd?, Script.statements_after, lines_script, ← List.append_assoc, ← List.drop_drop,
    List.drop_left' (by rw [List.length_append]; exact length)]

theorem map_line_findClosing {statements : List Statement} {depth : Int}
    (outside : ∀ statement ∈ statements,
      statement.number ≤ fork.head ∨ fork.close < statement.number) :
    (findClosing kind.marker kind.closer alternates depth statements).map fork.line =
      findClosing kind.marker kind.closer alternates depth statements := by
  cases found : findClosing kind.marker kind.closer alternates depth statements with
  | none => rfl
  | some target =>
      obtain ⟨statement, member, rfl⟩ := findClosing_mem found
      rw [Option.map_some]
      rcases outside statement member with upper | lower
      · rw [line_upper upper]
      · rw [line_lower lower]

/-- The header asks for the line between the branches, and that line for the end marker. -/
theorem blockEnd?_own :
    fork.script.blockEnd? (fork.head + 1 : Nat) ifMarker "ENDIF" ["ELSE"] =
        some (fork.divider + 1) ∧
      fork.script.blockEnd? (fork.divider + 1 : Nat) ifMarker "ENDIF" [] =
        some (fork.close + 1) := by
  have ends {asked : JumpQuery × Nat} (member : asked ∈ fork.block.ends fork.head) :
      asked.1.search fork.script = some asked.2 :=
    Block.search_ends fork.nested_block fork.hasLines_block member
  exact ⟨ends (.head _), ends (.tail _ (.tail _ (.head _)))⟩

end Fork

theorem Block.EndsWithin.blockEnd? {block : Block} {index : Nat} {kind : BlockKind}
    {alternates : List String} (within : block.EndsWithin index kind alternates)
    (nested : block.Nested) :
    ∃ last, index < last ∧ last < block.size ∧ ∀ {script : Script} {above : Nat},
      script.HasLines above block.lines →
        script.blockEnd? (above + index + 1 : Nat) kind.marker kind.closer alternates =
          some (above + last + 1) := by
  obtain ⟨last, below, inside, member⟩ := within
  exact ⟨last, below, inside, fun has => search_ends nested has (member _)⟩

namespace Fork

variable {fork : Fork} {header : String} {opened : BlockKind.conditional.OpenedBy header}
  {place index : Nat}

def mirror (fork : Fork) (header : String) (opened : BlockKind.conditional.OpenedBy header)
    (entryLine? : ∀ name, (fork.swapped header opened).script.entryLine? name =
      (fork.script.entryLine? name).map fork.line) : Mirror where
  first := fork.script
  second := (fork.swapped header opened).script
  line := fork.line
  inside := by
    intro place within
    have outside := fork.line_le place
    have length := fork.lineCount_script
    have lengthOther := (fork.swapped header opened).lineCount_script
    rw [close_swapped] at lengthOther
    change (fork.swapped header opened).script.lineCount = _ + fork.below.length at lengthOther
    omega
  entryLine?

variable {kind : BlockKind} {alternates : List String}
  {entryLine? : ∀ name, (fork.swapped header opened).script.entryLine? name =
  (fork.script.entryLine? name).map fork.line}

theorem jumps_above (allowed : kind.Alternates alternates) (early : place < fork.head) :
    (fork.mirror header opened entryLine?).Jumps (place + 1) kind alternates := by
  change (fork.swapped header opened).script.blockEnd? (fork.line (place + 1)) _ _ _ =
    (fork.script.blockEnd? (place + 1 : Nat) _ _ _).map fork.line
  rw [line_upper early, blockEnd?_above allowed early, map_line_findClosing, ← close_swapped]
  · exact blockEnd?_above allowed early
  · intro statement member
    rcases List.mem_append.mp member with upper | lower
    · have bounds := number_of_mem_statementsFrom upper
      rw [List.length_drop] at bounds
      unfold head at early ⊢
      omega
    · have bounds := number_of_mem_statementsFrom lower
      omega

theorem jumps_below (index : Nat) :
    (fork.mirror header opened entryLine?).Jumps (fork.close + 1 + index + 1) kind alternates := by
  change (fork.swapped header opened).script.blockEnd? (fork.line _) _ _ _ =
    (fork.script.blockEnd? (fork.close + 1 + (index + 1) : Nat) _ _ _).map fork.line
  rw [line_lower (by omega), blockEnd?_below, map_line_findClosing]
  · rw [← close_swapped]
    exact (fork.swapped header opened).blockEnd?_below (index + 1)
  · intro statement member
    have bounds := number_of_mem_statementsFrom member
    omega

theorem jumps_first (inside : index < fork.first.size) {text : String}
    (found : fork.script.line? (fork.head + 1 + index + 1) = some text)
    (executed : LineText.isInstruction text = true) (seeks : LineText.Seeks text kind alternates) :
    (fork.mirror header opened entryLine?).Jumps (fork.head + 1 + index + 1) kind alternates := by
  rw [line?_first inside] at found
  obtain ⟨last, below, within, ends⟩ :=
    (Block.endsWithin fork.nestedFirst found executed seeks).blockEnd? fork.nestedFirst
  change (fork.swapped header opened).script.blockEnd? (fork.line (fork.head + 1 + (index + 1)))
    _ _ _ = (fork.script.blockEnd? (fork.head + 1 + index + 1 : Nat) _ _ _).map fork.line
  have target : fork.line (fork.head + 1 + last + 1) = _ := line_first within
  rw [ends fork.hasLines_parts.2.1, line_first inside, Option.map_some, target]
  exact ends (fork.swapped header opened).hasLines_parts.2.2.2.1

theorem jumps_second (inside : index < fork.second.size) {text : String}
    (found : fork.script.line? (fork.divider + 1 + index + 1) = some text)
    (executed : LineText.isInstruction text = true) (seeks : LineText.Seeks text kind alternates) :
    (fork.mirror header opened entryLine?).Jumps (fork.divider + 1 + index + 1) kind alternates := by
  rw [line?_second inside] at found
  obtain ⟨last, below, within, ends⟩ :=
    (Block.endsWithin fork.nestedSecond found executed seeks).blockEnd? fork.nestedSecond
  change (fork.swapped header opened).script.blockEnd? (fork.line (fork.divider + 1 + (index + 1)))
    _ _ _ = (fork.script.blockEnd? (fork.divider + 1 + index + 1 : Nat) _ _ _).map fork.line
  have target : fork.line (fork.divider + 1 + last + 1) = _ := line_second within
  rw [ends fork.hasLines_parts.2.2.2.1, line_second inside, Option.map_some, target]
  exact ends (fork.swapped header opened).hasLines_parts.2.1

/-- Every line but the header, the one between the branches and the end marker stands in both
scripts. -/
theorem twin (before : place ≠ fork.head) (between : place ≠ fork.divider)
    (last : place ≠ fork.close) : (fork.mirror header opened entryLine?).Twin place := by
  cases fork.region place with
  | above early =>
      refine ⟨?_, ?_, fun text found executed kind alternates seeks => ?_⟩
      · change fork.line (place + 1) = fork.line place + 1
        rw [line_upper early, line_upper (Nat.le_of_lt early)]
      · change (fork.swapped header opened).script.line? (fork.line place + 1) =
          fork.script.line? (place + 1)
        rw [line_upper (Nat.le_of_lt early), line?_above early]
        exact line?_above early
      · exact jumps_above seeks.allowed early
  | head => exact absurd rfl before
  | @first index inside =>
      refine ⟨?_, ?_, fun text found executed kind alternates seeks => ?_⟩
      · exact (line_first inside).trans
          (congrArg (· + 1) (line_first (Nat.le_of_lt inside)).symm)
      · change (fork.swapped header opened).script.line? (fork.line _ + 1) = fork.script.line? _
        rw [line_first (Nat.le_of_lt inside), line?_first inside]
        exact line?_second inside
      · exact jumps_first inside found executed seeks
  | divider => exact absurd rfl between
  | @second index inside =>
      refine ⟨?_, ?_, fun text found executed kind alternates seeks => ?_⟩
      · exact (line_second inside).trans
          (congrArg (· + 1) (line_second (Nat.le_of_lt inside)).symm)
      · change (fork.swapped header opened).script.line? (fork.line _ + 1) = fork.script.line? _
        rw [line_second (Nat.le_of_lt inside), line?_second inside]
        exact line?_first inside
      · exact jumps_second inside found executed seeks
  | close => exact absurd rfl last
  | below index =>
      refine ⟨?_, ?_, fun text found executed kind alternates seeks => ?_⟩
      · change fork.line _ = fork.line _ + 1
        rw [line_lower (by omega), line_lower (by omega)]
      · change (fork.swapped header opened).script.line? (fork.line _ + 1) = fork.script.line? _
        rw [line_lower (by omega), line?_below, ← close_swapped]
        exact line?_below index
      · exact jumps_below index

end Fork

end LineScript
