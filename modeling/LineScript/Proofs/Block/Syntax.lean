import LineScript.Instruction
import LineScript.Proofs.Script

/-!
Well-nested blocks of lines. A block is a sequence of lines without block structure, conditional
blocks and inline loops, each with the blocks inside it. Scanning for the end of a block passes over
a well-nested block as if it were not there.
-/

namespace LineScript

/-! ## Single lines -/

namespace LineText

/-- A line that is executed: neither blank nor a comment nor a directive. -/
def isInstruction (text : String) : Bool :=
  !(isSkippable text || isDirective text)

def keyword (text : String) : String :=
  Line.keywordOf (tokenize text)

def pieces (text : String) : List Piece :=
  piecesOf (tokenize text)

end LineText

theorem Statement.ofLine?_instruction (number : Nat) {text : String}
    (instruction : LineText.isInstruction text = true) :
    Statement.ofLine? number text =
      some ⟨number, LineText.keyword text, (LineText.pieces text).length⟩ := by
  unfold LineText.isInstruction at instruction
  unfold Statement.ofLine?
  rw [if_neg (by simpa using instruction)]
  rfl

theorem Statement.ofLine?_other (number : Nat) {text : String}
    (other : LineText.isInstruction text = false) : Statement.ofLine? number text = none := by
  unfold LineText.isInstruction at other
  unfold Statement.ofLine?
  rw [if_pos (by rwa [Bool.not_eq_false'] at other)]

theorem LineText.tokenize_ne_nil {text : String} (instruction : isInstruction text = true) :
    tokenize text ≠ [] := by
  unfold isInstruction isSkippable at instruction
  unfold tokenize
  split
  · next blank => simp [blank] at instruction
  · exact fun empty => List.splitOn_ne_nil _ _ (List.map_eq_nil_iff.mp empty)

theorem Script.mem_statements {script : Script} {number : Nat} {text : String}
    (found : script.line? (number + 1) = some text)
    (instruction : LineText.isInstruction text = true) :
    ⟨number + 1, LineText.keyword text, (LineText.pieces text).length⟩ ∈ script.statements := by
  have first : (⟨number + 1, LineText.keyword text, (LineText.pieces text).length⟩ : Statement) ∈
      statementsFrom (number + 1) (script.lines.toList.drop number) := by
    rw [Script.line?_succ] at found
    obtain ⟨bound, here⟩ := List.getElem?_eq_some_iff.mp found
    rw [List.drop_eq_getElem_cons bound, here, statementsFrom_cons,
      Statement.ofLine?_instruction _ instruction]
    exact List.mem_append_left _ (List.mem_singleton_self _)
  rw [← Script.statements_after] at first
  exact (List.mem_filter.mp first).1

/-- The kinds of blocks that have an end marker. -/
inductive BlockKind where
  | conditional
  | loop (kind : LoopKind)
deriving DecidableEq, Repr

namespace BlockKind

def marker : BlockKind → BlockMarker
  | conditional => ifMarker
  | loop kind => kind.marker

def closer : BlockKind → String
  | conditional => "ENDIF"
  | loop kind => kind.closer

def divider : String := "ELSE"

def all : List BlockKind :=
  [conditional, loop .forLoop, loop .whileLoop, loop .doWhileLoop]

def OpenedBy (kind : BlockKind) (text : String) : Prop :=
  LineText.isInstruction text = true ∧
    ∀ number, kind.marker.opens ⟨number, LineText.keyword text, (LineText.pieces text).length⟩

def ClosedBy (kind : BlockKind) (text : String) : Prop :=
  LineText.isInstruction text = true ∧ LineText.keyword text = kind.closer

def DividedBy (text : String) : Prop :=
  LineText.isInstruction text = true ∧ LineText.keyword text = divider

def Inert (text : String) : Prop :=
  LineText.isInstruction text = true ∧ LineText.keyword text ≠ divider ∧
    ∀ kind : BlockKind, LineText.keyword text ≠ kind.closer ∧ ¬ kind.OpenedBy text

theorem mem_all (kind : BlockKind) : kind ∈ all := by
  cases kind with
  | conditional => decide
  | loop kind => cases kind <;> decide

theorem closer_ne_divider (kind : BlockKind) : kind.closer ≠ divider := by
  cases kind with
  | conditional => decide
  | loop kind => cases kind <;> decide

theorem keyword_ne_divider (kind : BlockKind) : kind.marker.keyword ≠ divider := by
  cases kind with
  | conditional => decide
  | loop kind => cases kind <;> decide

theorem keyword_ne_closer (kind other : BlockKind) : kind.marker.keyword ≠ other.closer := by
  revert kind other
  rintro (_ | _ | _ | _) (_ | _ | _ | _) <;> decide

theorem keyword_injective {kind other : BlockKind}
    (same : kind.marker.keyword = other.marker.keyword) : kind = other := by
  revert kind other
  rintro (_ | _ | _ | _) (_ | _ | _ | _) <;> decide

theorem closer_injective {kind other : BlockKind} (same : kind.closer = other.closer) :
    kind = other := by
  revert kind other
  rintro (_ | _ | _ | _) (_ | _ | _ | _) <;> decide

instance (kind : BlockKind) (text : String) : Decidable (kind.OpenedBy text) :=
  decidable_of_iff (LineText.isInstruction text = true ∧
      kind.marker.opens ⟨0, LineText.keyword text, (LineText.pieces text).length⟩)
    (and_congr_right fun _ => ⟨fun opens _ => opens, fun opens => opens 0⟩)

instance (kind : BlockKind) (text : String) : Decidable (kind.ClosedBy text) :=
  inferInstanceAs (Decidable (_ ∧ _))

instance (text : String) : Decidable (DividedBy text) :=
  inferInstanceAs (Decidable (_ ∧ _))

instance (text : String) : Decidable (Inert text) :=
  decidable_of_iff (LineText.isInstruction text = true ∧ LineText.keyword text ≠ divider ∧
      ∀ kind ∈ all, LineText.keyword text ≠ kind.closer ∧ ¬ kind.OpenedBy text)
    (and_congr_right fun _ => and_congr_right fun _ =>
      ⟨fun every kind => every kind (mem_all kind), fun every kind _ => every kind⟩)

end BlockKind

theorem BlockMarker.keyword_of_opens {marker : BlockMarker} {statement : Statement}
    (opens : marker.opens statement = true) : statement.keyword = marker.keyword := by
  simp only [BlockMarker.opens, Bool.and_eq_true, beq_iff_eq] at opens
  exact opens.1

theorem BlockKind.OpenedBy.keyword {kind : BlockKind} {text : String} (opened : kind.OpenedBy text) :
    LineText.keyword text = kind.marker.keyword :=
  BlockMarker.keyword_of_opens (opened.2 0)

theorem BlockKind.openedBy_conditional {text : String} :
    conditional.OpenedBy text ↔
      LineText.isInstruction text = true ∧ LineText.keyword text = ifMarker.keyword := by
  refine and_congr_right fun _ => ?_
  simp [marker, ifMarker, BlockMarker.opens]

/-! ## Blocks -/

/-- Lines one after another, with the blocks that stand inside them. -/
inductive Block where
  | done
  | blank (text : String) (rest : Block)
  | line (text : String) (rest : Block)
  | branch (header : String) (yes : Block) (closer : String) (rest : Block)
  | fork (header : String) (yes : Block) (divider : String) (no : Block) (closer : String)
      (rest : Block)
  | loop (kind : LoopKind) (header : String) (body : Block) (closer : String) (rest : Block)
deriving DecidableEq, Repr

namespace Block

def lines : Block → List String
  | done => []
  | blank text rest => text :: rest.lines
  | line text rest => text :: rest.lines
  | branch header yes closer rest => header :: (yes.lines ++ closer :: rest.lines)
  | fork header yes divider no closer rest =>
      header :: (yes.lines ++ divider :: (no.lines ++ closer :: rest.lines))
  | loop _ header body closer rest => header :: (body.lines ++ closer :: rest.lines)

def size (block : Block) : Nat :=
  block.lines.length

/-- Every block inside has a header, an end marker and lines between them that are its own. -/
def Nested : Block → Prop
  | done => True
  | blank text rest => LineText.isInstruction text = false ∧ rest.Nested
  | line text rest => BlockKind.Inert text ∧ rest.Nested
  | branch header yes closer rest =>
      BlockKind.conditional.OpenedBy header ∧ yes.Nested ∧ BlockKind.conditional.ClosedBy closer ∧
        rest.Nested
  | fork header yes divider no closer rest =>
      BlockKind.conditional.OpenedBy header ∧ yes.Nested ∧ BlockKind.DividedBy divider ∧
        no.Nested ∧ BlockKind.conditional.ClosedBy closer ∧ rest.Nested
  | loop kind header body closer rest =>
      (BlockKind.loop kind).OpenedBy header ∧ body.Nested ∧ (BlockKind.loop kind).ClosedBy closer ∧
        rest.Nested

instance decidableNested : (block : Block) → Decidable block.Nested
  | done => inferInstanceAs (Decidable True)
  | blank _ rest => have := decidableNested rest; inferInstanceAs (Decidable (_ ∧ _))
  | line _ rest => have := decidableNested rest; inferInstanceAs (Decidable (_ ∧ _))
  | branch _ yes _ rest =>
      have := decidableNested yes
      have := decidableNested rest
      inferInstanceAs (Decidable (_ ∧ _ ∧ _ ∧ _))
  | fork _ yes _ no _ rest =>
      have := decidableNested yes
      have := decidableNested no
      have := decidableNested rest
      inferInstanceAs (Decidable (_ ∧ _ ∧ _ ∧ _ ∧ _ ∧ _))
  | loop _ _ body _ rest =>
      have := decidableNested body
      have := decidableNested rest
      inferInstanceAs (Decidable (_ ∧ _ ∧ _ ∧ _))

end Block

end LineScript
