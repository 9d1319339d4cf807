import LineScript.Proofs.Block.Syntax
import Mathlib.Order.Bounds.Basic

/-!
The end of a block. A search goes to the first closer or alternate such that what stands before it
is balanced, and asking again gives the same answer. In well-nested lines the end of a block is its
own end marker, or the line between its branches.
-/

namespace LineScript

/-! ## One statement of a search -/

section Scan

variable {opener : BlockMarker} {closer : String} {alternates : List String}

theorem findClosing_found {statement : Statement} {rest : List Statement}
    (sought : statement.keyword = closer ∨ statement.keyword ∈ alternates) :
    findClosing opener closer alternates 0 (statement :: rest) = some statement.number := by
  simp [findClosing, sought]

theorem findClosing_opens {depth : Int} {statement : Statement} {rest : List Statement}
    (opens : opener.opens statement = true)
    (passed : depth ≠ 0 ∨ ¬ (statement.keyword = closer ∨ statement.keyword ∈ alternates)) :
    findClosing opener closer alternates depth (statement :: rest) =
      findClosing opener closer alternates (depth + 1) rest := by
  have unsought : ¬ ((depth == 0 && (statement.keyword == closer ||
      alternates.contains statement.keyword)) = true) := by
    rcases passed with inside | absent
    · simp [inside]
    · simpa using fun _ => not_or.mp absent
  rw [findClosing, if_neg unsought, if_pos opens]

theorem findClosing_closes {depth : Int} {statement : Statement} {rest : List Statement}
    (inside : depth ≠ 0) (shut : ¬ opener.opens statement = true)
    (closes : statement.keyword = closer) :
    findClosing opener closer alternates depth (statement :: rest) =
      findClosing opener closer alternates (depth - 1) rest := by
  rw [findClosing, if_neg (by simp [inside]), if_neg shut, if_pos (by simpa using closes)]

theorem findClosing_skips {depth : Int} {statement : Statement} {rest : List Statement}
    (shut : ¬ opener.opens statement = true) (other : statement.keyword ≠ closer)
    (passed : depth ≠ 0 ∨ statement.keyword ∉ alternates) :
    findClosing opener closer alternates depth (statement :: rest) =
      findClosing opener closer alternates depth rest := by
  have unsought : ¬ ((depth == 0 && (statement.keyword == closer ||
      alternates.contains statement.keyword)) = true) := by
    rcases passed with inside | absent
    · simp [inside]
    · simp [other, absent]
  rw [findClosing, if_neg unsought, if_neg shut, if_neg (by simpa using other)]

end Scan

/-! ## Balanced statements -/

/-- Statements in which openers and closers match each other. -/
inductive Balanced (opener : BlockMarker) (closer : String) : List Statement → Prop where
  | nil : Balanced opener closer []
  | other {statement : Statement} {rest : List Statement}
      (shut : ¬ opener.opens statement = true) (other : statement.keyword ≠ closer)
      (balanced : Balanced opener closer rest) : Balanced opener closer (statement :: rest)
  /-- A block with its header, its inside and its end, and what follows it. -/
  | block {header close : Statement} {inside rest : List Statement}
      (opens : opener.opens header = true) (within : Balanced opener closer inside)
      (closes : close.keyword = closer) (after : Balanced opener closer rest) :
      Balanced opener closer (header :: (inside ++ close :: rest))

def BalancedFrom (opener : BlockMarker) (closer : String) :
    (depth : Nat) → List Statement → Prop
  | 0, statements => Balanced opener closer statements
  | depth + 1, statements => ∃ inside close rest, statements = inside ++ close :: rest ∧
      Balanced opener closer inside ∧ close.keyword = closer ∧ BalancedFrom opener closer depth rest

section Balanced

variable {opener : BlockMarker} {closer : String}

theorem balancedFrom_opens {depth : Nat} {header : Statement} {rest : List Statement}
    (distinct : closer ≠ opener.keyword) (opens : opener.opens header = true) :
    BalancedFrom opener closer depth (header :: rest) ↔
      BalancedFrom opener closer (depth + 1) rest := by
  have unclosing : header.keyword ≠ closer :=
    fun closes => distinct (closes.symm.trans (BlockMarker.keyword_of_opens opens))
  constructor
  · intro balanced
    cases depth with
    | zero =>
        cases balanced with
        | other shut => exact absurd opens shut
        | block _ within closes after => exact ⟨_, _, _, rfl, within, closes, after⟩
    | succ depth =>
        obtain ⟨inside, close, after, split, within, closes, outer⟩ := balanced
        cases inside with
        | nil =>
            cases split
            exact absurd closes unclosing
        | cons first inside =>
            cases split
            cases within with
            | other shut => exact absurd opens shut
            | @block _ last inner middle _ within ends balanced =>
                exact ⟨inner, last, middle ++ close :: after, by simp, within, ends, middle, close,
                  after, rfl, balanced, closes, outer⟩
  · rintro ⟨inside, close, after, rfl, within, closes, outer⟩
    cases depth with
    | zero => exact Balanced.block opens within closes outer
    | succ depth =>
        obtain ⟨middle, last, rest, rfl, balanced, ends, outer⟩ := outer
        exact ⟨header :: (inside ++ close :: middle), last, rest, by simp,
          Balanced.block opens within closes balanced, ends, outer⟩

theorem balancedFrom_closes {depth : Nat} {close : Statement} {rest : List Statement}
    (distinct : closer ≠ opener.keyword) (closes : close.keyword = closer) :
    BalancedFrom opener closer depth (close :: rest) ↔
      ∃ outer, depth = outer + 1 ∧ BalancedFrom opener closer outer rest := by
  have unbalanced (statements : List Statement) : ¬ Balanced opener closer (close :: statements) := by
    intro balanced
    cases balanced with
    | other _ other => exact other closes
    | block opens => exact distinct (closes.symm.trans (BlockMarker.keyword_of_opens opens))
  constructor
  · intro balanced
    cases depth with
    | zero => exact absurd balanced (unbalanced rest)
    | succ depth =>
        obtain ⟨inside, last, after, split, within, _, outer⟩ := balanced
        cases inside with
        | nil =>
            cases split
            exact ⟨depth, rfl, outer⟩
        | cons first inside =>
            cases split
            exact absurd within (unbalanced inside)
  · rintro ⟨outer, rfl, balanced⟩
    exact ⟨[], close, rest, rfl, Balanced.nil, closes, balanced⟩

theorem balancedFrom_other {depth : Nat} {statement : Statement} {rest : List Statement}
    (shut : ¬ opener.opens statement = true) (other : statement.keyword ≠ closer) :
    BalancedFrom opener closer depth (statement :: rest) ↔
      BalancedFrom opener closer depth rest := by
  constructor
  · intro balanced
    cases depth with
    | zero =>
        cases balanced with
        | other _ _ balanced => exact balanced
        | block opens => exact absurd opens shut
    | succ depth =>
        obtain ⟨inside, close, after, split, within, closes, outer⟩ := balanced
        cases inside with
        | nil =>
            cases split
            exact absurd closes other
        | cons first inside =>
            cases split
            cases within with
            | other _ _ within => exact ⟨inside, close, after, rfl, within, closes, outer⟩
            | block opens => exact absurd opens shut
  · intro balanced
    cases depth with
    | zero => exact Balanced.other shut other balanced
    | succ depth =>
        obtain ⟨inside, close, after, rfl, within, closes, outer⟩ := balanced
        exact ⟨statement :: inside, close, after, rfl, Balanced.other shut other within, closes,
          outer⟩

/-! ## What a search finds -/

variable {alternates : List String}

/-- What is found is sought, and what stands before it balances. -/
theorem findClosing_sound (distinct : closer ≠ opener.keyword) {depth : Nat}
    {statements : List Statement} {target : Nat}
    (found : findClosing opener closer alternates depth statements = some target) :
    ∃ before statement after, statements = before ++ statement :: after ∧
      statement.number = target ∧
      (statement.keyword = closer ∨ statement.keyword ∈ alternates) ∧
      BalancedFrom opener closer depth before := by
  induction statements generalizing depth with
  | nil => simp [findClosing] at found
  | cons first rest ih =>
      -- The first statement belongs to what stands before the target, whatever it is.
      have prepend (inner : Nat)
          (later : findClosing opener closer alternates inner rest = some target)
          (kept : ∀ before, BalancedFrom opener closer inner before →
            BalancedFrom opener closer depth (first :: before)) :
          ∃ before statement after, first :: rest = before ++ statement :: after ∧
            statement.number = target ∧
            (statement.keyword = closer ∨ statement.keyword ∈ alternates) ∧
            BalancedFrom opener closer depth before := by
        obtain ⟨before, statement, after, rfl, number, sought, balanced⟩ := ih later
        exact ⟨first :: before, statement, after, rfl, number, sought, kept before balanced⟩
      by_cases here : depth = 0 ∧ (first.keyword = closer ∨ first.keyword ∈ alternates)
      · obtain ⟨rfl, sought⟩ := here
        rw [Int.natCast_zero, findClosing_found sought, Option.some.injEq] at found
        exact ⟨[], first, rest, rfl, found, sought, Balanced.nil⟩
      · rw [not_and_or, ← Int.natCast_eq_zero] at here
        by_cases opens : opener.opens first = true
        · rw [findClosing_opens opens here] at found
          exact prepend (depth + 1) found
            fun before => (balancedFrom_opens distinct opens).mpr
        · by_cases closes : first.keyword = closer
          · have inside : (depth : Int) ≠ 0 := here.resolve_right fun absent => absent (.inl closes)
            rw [findClosing_closes inside opens closes] at found
            obtain ⟨outer, rfl⟩ := Nat.exists_eq_succ_of_ne_zero (Int.natCast_ne_zero.mp inside)
            rw [Int.natCast_succ, Int.add_sub_cancel] at found
            exact prepend outer found
              fun before balanced => (balancedFrom_closes distinct closes).mpr ⟨outer, rfl, balanced⟩
          · rw [findClosing_skips opens closes (here.imp_right fun absent => absent ∘ .inr)] at found
            exact prepend depth found fun before => (balancedFrom_other opens closes).mpr

/-- A search goes no further than to the first statement sought with balanced ones before it. -/
theorem findClosing_complete (distinct : closer ≠ opener.keyword) (depth : Nat)
    {before : List Statement} {statement : Statement} (after : List Statement)
    (sought : statement.keyword = closer ∨ statement.keyword ∈ alternates)
    (balanced : BalancedFrom opener closer depth before) :
    ∃ found ∈ before ++ [statement],
      findClosing opener closer alternates depth (before ++ statement :: after) =
        some found.number := by
  induction before generalizing depth with
  | nil =>
      have ground : depth = 0 := by
        cases depth with
        | zero => rfl
        | succ depth =>
            obtain ⟨inside, close, rest, split, _⟩ := balanced
            simp at split
      subst ground
      exact ⟨statement, by simp, findClosing_found sought⟩
  | cons first rest ih =>
      -- Where the search goes on below the first line, the answer is that of the induction.
      have append (inner : Nat) (balanced : BalancedFrom opener closer inner rest)
          (same : findClosing opener closer alternates depth (first :: (rest ++ statement :: after)) =
            findClosing opener closer alternates inner (rest ++ statement :: after)) :
          ∃ found ∈ first :: rest ++ [statement],
            findClosing opener closer alternates depth (first :: rest ++ statement :: after) =
              some found.number := by
        obtain ⟨found, member, equal⟩ := ih inner balanced
        exact ⟨found, List.mem_cons_of_mem first member, same.trans equal⟩
      by_cases here : depth = 0 ∧ (first.keyword = closer ∨ first.keyword ∈ alternates)
      · obtain ⟨rfl, sought⟩ := here
        exact ⟨first, by simp, findClosing_found sought⟩
      · rw [not_and_or, ← Int.natCast_eq_zero] at here
        by_cases opens : opener.opens first = true
        · exact append (depth + 1) ((balancedFrom_opens distinct opens).mp balanced)
            (findClosing_opens opens here)
        · by_cases closes : first.keyword = closer
          · have inside : (depth : Int) ≠ 0 := here.resolve_right fun absent => absent (.inl closes)
            obtain ⟨outer, rfl, remaining⟩ := (balancedFrom_closes distinct closes).mp balanced
            refine append outer remaining ?_
            rw [findClosing_closes inside opens closes, Int.natCast_succ, Int.add_sub_cancel]
          · exact append depth ((balancedFrom_other opens closes).mp balanced)
              (findClosing_skips opens closes (here.imp_right fun absent => absent ∘ .inr))

end Balanced

def Script.between (script : Script) (low : Int) (high : Nat) : List Statement :=
  script.statements.filter fun statement => low < statement.number && statement.number < high

/-- A line answers a question: it is below the line asked about, its keyword is sought, and the
statements between the two balance. -/
def JumpQuery.AnsweredBy (query : JumpQuery) (script : Script) (target : Nat) : Prop :=
  query.fromLine < target ∧
    (∃ statement ∈ script.statements, statement.number = target ∧
      (statement.keyword = query.closer ∨ statement.keyword ∈ query.alternates)) ∧
    Balanced query.opener query.closer (script.between query.fromLine target)

theorem filter_lt_of_increasing {before after : List Statement} {statement : Statement}
    (increasing : (before ++ statement :: after).Pairwise fun a b => a.number < b.number) :
    (before ++ statement :: after).filter (fun other => other.number < statement.number) =
      before := by
  rw [List.pairwise_append, List.pairwise_cons] at increasing
  obtain ⟨_, ⟨later, _⟩, earlier⟩ := increasing
  rw [List.filter_append, List.filter_cons_of_neg (by simp), List.filter_eq_self.mpr,
    List.filter_eq_nil_iff.mpr, List.append_nil]
  · intro other member
    simpa using (later other member).le
  · intro other member
    simpa using earlier other member statement (by simp)

namespace JumpQuery

variable {script : Script} {query : JumpQuery}

def below (query : JumpQuery) (script : Script) : List Statement :=
  script.statements.filter fun statement => (statement.number : Int) > query.fromLine

theorem search_eq (query : JumpQuery) (script : Script) :
    query.search script = findClosing query.opener query.closer query.alternates (0 : Nat)
      (query.below script) :=
  rfl

theorem below_increasing (query : JumpQuery) (script : Script) :
    (query.below script).Pairwise fun first second => first.number < second.number :=
  script.statements_increasing.filter _

theorem between_of_below {before after : List Statement} {statement : Statement}
    (split : query.below script = before ++ statement :: after) :
    script.between query.fromLine statement.number = before := by
  have increasing := query.below_increasing script
  rw [split] at increasing
  have cut := filter_lt_of_increasing increasing
  rw [← split, below, List.filter_filter] at cut
  rw [← cut, Script.between]
  congr 1
  funext other
  rw [Bool.and_comm]

theorem answeredBy_iff {target : Nat} :
    query.AnsweredBy script target ↔
      ∃ before statement after, query.below script = before ++ statement :: after ∧
        statement.number = target ∧
        (statement.keyword = query.closer ∨ statement.keyword ∈ query.alternates) ∧
        Balanced query.opener query.closer before := by
  constructor
  · rintro ⟨position, ⟨statement, member, rfl, sought⟩, balanced⟩
    have here : statement ∈ query.below script := by
      simpa [below] using And.intro member position
    obtain ⟨before, after, split⟩ := List.append_of_mem here
    rw [between_of_below split] at balanced
    exact ⟨before, statement, after, split, rfl, sought, balanced⟩
  · rintro ⟨before, statement, after, split, rfl, sought, balanced⟩
    have here : statement ∈ query.below script := by simp [split]
    obtain ⟨member, position⟩ := List.mem_filter.mp here
    refine ⟨by simpa using position, ⟨statement, member, rfl, sought⟩, ?_⟩
    rwa [between_of_below split]

theorem answeredBy_search (distinct : query.closer ≠ query.opener.keyword) {target : Nat}
    (found : query.search script = some target) : query.AnsweredBy script target := by
  rw [search_eq] at found
  exact answeredBy_iff.mpr (findClosing_sound distinct found)

theorem search_le (distinct : query.closer ≠ query.opener.keyword) {target : Nat}
    (answered : query.AnsweredBy script target) :
    ∃ found ≤ target, query.search script = some found := by
  obtain ⟨before, statement, after, split, rfl, sought, balanced⟩ := answeredBy_iff.mp answered
  obtain ⟨found, member, equal⟩ := findClosing_complete distinct 0 after sought balanced
  refine ⟨found.number, ?_, by rw [search_eq, split, equal]⟩
  rw [List.mem_append, List.mem_singleton] at member
  rcases member with earlier | rfl
  · have increasing := query.below_increasing script
    rw [split, List.pairwise_append] at increasing
    exact (increasing.2.2 found earlier statement (by simp)).le
  · exact le_rfl

theorem search_eq_some_iff (distinct : query.closer ≠ query.opener.keyword) {target : Nat} :
    query.search script = some target ↔ IsLeast {line | query.AnsweredBy script line} target := by
  constructor
  · intro found
    refine ⟨answeredBy_search distinct found, fun line answered => ?_⟩
    obtain ⟨first, bound, equal⟩ := search_le distinct answered
    rw [found, Option.some.injEq] at equal
    exact equal ▸ bound
  · rintro ⟨answered, least⟩
    obtain ⟨first, bound, found⟩ := search_le distinct answered
    rw [found, Option.some.injEq]
    exact le_antisymm bound (least (answeredBy_search distinct found))

theorem search_eq_none_iff (distinct : query.closer ≠ query.opener.keyword) :
    query.search script = none ↔ ∀ line, ¬ query.AnsweredBy script line := by
  constructor
  · intro missing line answered
    obtain ⟨first, _, found⟩ := search_le distinct answered
    rw [missing] at found
    cases found
  · intro unanswered
    cases found : query.search script with
    | none => rfl
    | some line => exact absurd (answeredBy_search distinct found) (unanswered line)

end JumpQuery

/-! ## Answers kept -/

namespace JumpCache

variable {script : Script}

def Sound (cache : JumpCache) (script : Script) : Prop :=
  ∀ query answer, cache.entries.lookup query = some answer → answer = query.search script

theorem sound_empty : empty.Sound script := by
  intro query answer found
  simp [empty] at found

theorem resolve_fst {cache : JumpCache} (sound : cache.Sound script) (query : JumpQuery) :
    (cache.resolve script query).1 = query.search script := by
  unfold resolve
  split
  · rename_i answer found
    exact sound query answer found
  · rfl

theorem Sound.resolve {cache : JumpCache} (sound : cache.Sound script) (query : JumpQuery) :
    (cache.resolve script query).2.Sound script := by
  unfold JumpCache.resolve
  split
  · exact sound
  · intro other answer found
    rw [List.lookup_cons] at found
    cases same : other == query with
    | true =>
        simp only [same, Option.some.injEq] at found
        rw [← found, beq_iff_eq.mp same]
    | false =>
        simp only [same] at found
        exact sound other answer found

theorem Sound.resolveAll {cache : JumpCache} (sound : cache.Sound script)
    (queries : List JumpQuery) : (cache.resolveAll script queries).2.Sound script := by
  induction queries generalizing cache with
  | nil => exact sound
  | cons query rest ih => exact ih (sound.resolve query)

def answerAfter (script : Script) (earlier : List JumpQuery) (query : JumpQuery) : Option Nat :=
  ((empty.resolveAll script earlier).2.resolve script query).1

theorem answerAfter_eq (script : Script) (earlier : List JumpQuery) (query : JumpQuery) :
    answerAfter script earlier query = query.search script :=
  resolve_fst (sound_empty.resolveAll earlier) query

end JumpCache

/-! ## Well-nested lines -/

namespace BlockKind

variable {kind other : BlockKind} {alternates : List String} {text : String}

/-- What may end a search for a block of the kind besides its end marker: the line between the
branches of a conditional block. -/
def Alternates (kind : BlockKind) (alternates : List String) : Prop :=
  alternates = [] ∨ kind = conditional ∧ alternates = [divider]

theorem Alternates.eq_divider (allowed : kind.Alternates alternates) {word : String}
    (member : word ∈ alternates) : word = divider := by
  rcases allowed with rfl | ⟨_, rfl⟩
  · simp at member
  · simpa using member

def deeper (kind other : BlockKind) : Int :=
  if kind = other then 1 else 0

theorem nonnegative_deeper {depth : Int} (nonnegative : 0 ≤ depth) (kind other : BlockKind) :
    0 ≤ depth + kind.deeper other := by
  unfold deeper
  split <;> omega

theorem Alternates.passed (allowed : kind.Alternates alternates) {depth : Int}
    (nonnegative : 0 ≤ depth) : depth + kind.deeper conditional ≠ 0 ∨ alternates = [] := by
  rcases allowed with none | ⟨rfl, _⟩
  · exact .inr none
  · left
    rw [deeper, if_pos rfl]
    omega

theorem findClosing_header (allowed : kind.Alternates alternates) (opened : other.OpenedBy text)
    (depth : Int) (number : Nat) (rest : List Statement) :
    findClosing kind.marker kind.closer alternates depth
        (⟨number, LineText.keyword text, (LineText.pieces text).length⟩ :: rest) =
      findClosing kind.marker kind.closer alternates (depth + kind.deeper other) rest := by
  have keyword := opened.keyword
  have unsought : LineText.keyword text ≠ kind.closer ∧ LineText.keyword text ∉ alternates := by
    rw [keyword]
    exact ⟨other.keyword_ne_closer kind,
      fun member => other.keyword_ne_divider (allowed.eq_divider member)⟩
  by_cases same : kind = other
  · subst same
    rw [findClosing_opens (opened.2 number) (.inr (not_or.mpr unsought)), deeper, if_pos rfl]
  · have shut : ¬ kind.marker.opens
        ⟨number, LineText.keyword text, (LineText.pieces text).length⟩ = true := fun opens =>
      same (keyword_injective ((BlockMarker.keyword_of_opens opens).symm.trans keyword))
    rw [findClosing_skips shut unsought.1 (.inr unsought.2), deeper, if_neg same, Int.add_zero]

theorem findClosing_closer (allowed : kind.Alternates alternates) (closed : other.ClosedBy text)
    {depth : Int} (inside : 0 ≤ depth) (number : Nat) (rest : List Statement) :
    findClosing kind.marker kind.closer alternates (depth + kind.deeper other)
        (⟨number, LineText.keyword text, (LineText.pieces text).length⟩ :: rest) =
      findClosing kind.marker kind.closer alternates depth rest := by
  have shut : ¬ kind.marker.opens
      ⟨number, LineText.keyword text, (LineText.pieces text).length⟩ = true := fun opens =>
    kind.keyword_ne_closer other ((BlockMarker.keyword_of_opens opens).symm.trans closed.2)
  by_cases same : kind = other
  · subst same
    rw [deeper, if_pos rfl, findClosing_closes (by omega) shut closed.2, Int.add_sub_cancel]
  · have unsought : LineText.keyword text ∉ alternates := fun member =>
      other.closer_ne_divider (closed.2.symm.trans (allowed.eq_divider member))
    have different : LineText.keyword text ≠ kind.closer := fun equal =>
      same (closer_injective (equal.symm.trans closed.2))
    rw [deeper, if_neg same, Int.add_zero, findClosing_skips shut different (.inr unsought)]

theorem findClosing_divider (divided : DividedBy text) {depth : Int} (number : Nat)
    (passed : depth ≠ 0 ∨ alternates = []) (rest : List Statement) :
    findClosing kind.marker kind.closer alternates depth
        (⟨number, LineText.keyword text, (LineText.pieces text).length⟩ :: rest) =
      findClosing kind.marker kind.closer alternates depth rest := by
  refine findClosing_skips (fun opens => ?_) (fun equal => ?_) (passed.imp_right ?_)
  · exact kind.keyword_ne_divider ((BlockMarker.keyword_of_opens opens).symm.trans divided.2)
  · exact kind.closer_ne_divider (equal.symm.trans divided.2)
  · rintro rfl
    exact List.not_mem_nil

theorem findClosing_inert (allowed : kind.Alternates alternates) (inert : Inert text)
    (depth : Int) (number : Nat) (rest : List Statement) :
    findClosing kind.marker kind.closer alternates depth
        (⟨number, LineText.keyword text, (LineText.pieces text).length⟩ :: rest) =
      findClosing kind.marker kind.closer alternates depth rest := by
  obtain ⟨instruction, undivided, every⟩ := inert
  refine findClosing_skips (fun opens => ?_) (every kind).1 (.inr fun member => ?_)
  · exact (every kind).2 ⟨instruction, fun _ => opens⟩
  · exact undivided (allowed.eq_divider member)

end BlockKind

theorem statementsFrom_instruction (number : Nat) {text : String}
    (instruction : LineText.isInstruction text = true) (rest : List String) :
    statementsFrom number (text :: rest) =
      ⟨number, LineText.keyword text, (LineText.pieces text).length⟩ ::
        statementsFrom (number + 1) rest := by
  rw [statementsFrom_cons, Statement.ofLine?_instruction number instruction, Option.toList_some,
    List.singleton_append]

theorem findClosing_enclosed {kind other : BlockKind} {alternates : List String}
    (allowed : kind.Alternates alternates) {header closer : String} {inside tail : List String}
    (opened : other.OpenedBy header) (closed : other.ClosedBy closer) {depth : Int}
    (nonnegative : 0 ≤ depth) (number : Nat) (rest : List Statement)
    (passes : ∀ rest, findClosing kind.marker kind.closer alternates (depth + kind.deeper other)
        (statementsFrom (number + 1) inside ++ rest) =
      findClosing kind.marker kind.closer alternates (depth + kind.deeper other) rest) :
    findClosing kind.marker kind.closer alternates depth
        (statementsFrom number (header :: (inside ++ closer :: tail)) ++ rest) =
      findClosing kind.marker kind.closer alternates depth
        (statementsFrom (number + 1 + inside.length + 1) tail ++ rest) := by
  rw [statementsFrom_instruction number opened.1, statementsFrom_append, List.cons_append,
    BlockKind.findClosing_header allowed opened, List.append_assoc, passes,
    statementsFrom_instruction _ closed.1, List.cons_append,
    BlockKind.findClosing_closer allowed closed nonnegative]

namespace Block

variable {kind : BlockKind} {alternates : List String}

theorem findClosing_nested (allowed : kind.Alternates alternates) {block : Block}
    (nested : block.Nested) {depth : Int} (nonnegative : 0 ≤ depth) (number : Nat)
    (rest : List Statement) :
    findClosing kind.marker kind.closer alternates depth
        (statementsFrom number block.lines ++ rest) =
      findClosing kind.marker kind.closer alternates depth rest := by
  induction block generalizing depth number rest with
  | done => rfl
  | blank text next ih =>
      rw [lines, statementsFrom_cons, Statement.ofLine?_other number nested.1]
      exact ih nested.2 nonnegative (number + 1) rest
  | line text next ih =>
      rw [lines, statementsFrom_instruction number nested.1.1, List.cons_append,
        BlockKind.findClosing_inert allowed nested.1]
      exact ih nested.2 nonnegative (number + 1) rest
  | branch header yes closer next ihYes ihNext =>
      obtain ⟨opened, nestedYes, closed, nestedNext⟩ := nested
      have deep := BlockKind.nonnegative_deeper nonnegative kind .conditional
      rw [lines, findClosing_enclosed allowed opened closed nonnegative number rest
        fun rest => ihYes nestedYes deep (number + 1) rest]
      exact ihNext nestedNext nonnegative _ rest
  | fork header yes divider no closer next ihYes ihNo ihNext =>
      obtain ⟨opened, nestedYes, divided, nestedNo, closed, nestedNext⟩ := nested
      have deep := BlockKind.nonnegative_deeper nonnegative kind .conditional
      have passed := BlockKind.Alternates.passed allowed nonnegative
      -- The two branches with the divider between them are passed over as one.
      have inside (rest : List Statement) :
          findClosing kind.marker kind.closer alternates (depth + kind.deeper .conditional)
              (statementsFrom (number + 1) (yes.lines ++ divider :: no.lines) ++ rest) =
            findClosing kind.marker kind.closer alternates (depth + kind.deeper .conditional)
              rest := by
        rw [statementsFrom_append, List.append_assoc, ihYes nestedYes deep,
          statementsFrom_instruction _ divided.1, List.cons_append,
          BlockKind.findClosing_divider divided _ passed, ihNo nestedNo deep]
      have regrouped : lines (fork header yes divider no closer next) =
          header :: ((yes.lines ++ divider :: no.lines) ++ closer :: next.lines) := by
        simp [lines]
      rw [regrouped, findClosing_enclosed allowed opened closed nonnegative number rest inside]
      exact ihNext nestedNext nonnegative _ rest
  | loop loopKind header body closer next ihBody ihNext =>
      obtain ⟨opened, nestedBody, closed, nestedNext⟩ := nested
      have deep := BlockKind.nonnegative_deeper nonnegative kind (.loop loopKind)
      rw [lines, findClosing_enclosed allowed opened closed nonnegative number rest
        fun rest => ihBody nestedBody deep (number + 1) rest]
      exact ihNext nestedNext nonnegative _ rest

/-- Below well-nested lines stands a line that a search ends at. -/
theorem blockEnd?_nested (kind : BlockKind) {script : Script}
    (allowed : kind.Alternates alternates) {block : Block} (nested : block.Nested) {above : Nat}
    {last : String} (has : script.HasLines above (block.lines ++ [last]))
    (instruction : LineText.isInstruction last = true)
    (sought : LineText.keyword last = kind.closer ∨ LineText.keyword last ∈ alternates) :
    script.blockEnd? above kind.marker kind.closer alternates = some (above + block.size + 1) := by
  obtain ⟨rest, split⟩ := has
  rw [Script.blockEnd?, script.statements_after, ← split, List.append_assoc,
    List.singleton_append, statementsFrom_append, findClosing_nested allowed nested le_rfl,
    statementsFrom_instruction _ instruction, findClosing_found sought]
  simp only [Option.some.injEq, size]
  omega

/-- A search that does not end at the line between two branches goes over both of them. -/
theorem blockEnd?_forked {script : Script} {yes no : Block} {divider closer : String}
    {above : Nat} {rest : List String} (nestedYes : yes.Nested)
    (divided : BlockKind.DividedBy divider) (nestedNo : no.Nested)
    (closed : BlockKind.conditional.ClosedBy closer)
    (has : script.HasLines above (yes.lines ++ divider :: (no.lines ++ closer :: rest))) :
    script.blockEnd? above ifMarker "ENDIF" [] = some (above + yes.size + 1 + no.size + 1) := by
  obtain ⟨rest, split⟩ := has
  have allowed : BlockKind.conditional.Alternates [] := .inl rfl
  rw [Script.blockEnd?, script.statements_after, ← split]
  simp only [List.append_assoc, List.cons_append, statementsFrom_append,
    statementsFrom_instruction _ divided.1, statementsFrom_instruction _ closed.1]
  change findClosing BlockKind.conditional.marker BlockKind.conditional.closer [] 0 _ = _
  rw [findClosing_nested allowed nestedYes le_rfl,
    BlockKind.findClosing_divider divided _ (.inr rfl),
    findClosing_nested allowed nestedNo le_rfl, findClosing_found (.inl closed.2)]
  simp only [Option.some.injEq, size]
  omega

/-- Every question for the end of a block inside well-nested lines, with the line on which the
block has its own end; `above` lines stand above. -/
def ends (above : Nat) : Block → List (JumpQuery × Nat)
  | done => []
  | blank _ rest => rest.ends (above + 1)
  | line _ rest => rest.ends (above + 1)
  | branch _ yes _ rest =>
      let close := above + 1 + yes.size + 1
      (⟨(above + 1 : Nat), ifMarker, "ENDIF", ["ELSE"]⟩, close) ::
        (⟨(above + 1 : Nat), ifMarker, "ENDIF", []⟩, close) ::
        (yes.ends (above + 1) ++ rest.ends close)
  | fork _ yes _ no _ rest =>
      let middle := above + 1 + yes.size + 1
      let close := middle + no.size + 1
      (⟨(above + 1 : Nat), ifMarker, "ENDIF", ["ELSE"]⟩, middle) ::
        (⟨(above + 1 : Nat), ifMarker, "ENDIF", []⟩, close) ::
        (⟨middle, ifMarker, "ENDIF", []⟩, close) ::
        (yes.ends (above + 1) ++ no.ends middle ++ rest.ends close)
  | loop kind _ body _ rest =>
      let close := above + 1 + body.size + 1
      (⟨(above + 1 : Nat), kind.marker, kind.closer, []⟩, close) ::
        (body.ends (above + 1) ++ rest.ends close)

theorem hasLines_enclosed {script : Script} {above : Nat} {header closer : String}
    {inside : Block} {rest : List String}
    (has : script.HasLines above (header :: (inside.lines ++ closer :: rest))) :
    script.HasLines (above + 1) (inside.lines ++ [closer]) ∧
      script.HasLines (above + 1 + inside.size + 1) rest := by
  obtain ⟨_, below⟩ := Script.hasLines_cons.mp has
  rw [List.append_cons, Script.hasLines_append] at below
  refine ⟨below.1, ?_⟩
  have after := below.2
  rwa [List.length_append, List.length_singleton, ← Nat.add_assoc] at after

theorem search_ends {script : Script} {block : Block} (nested : block.Nested) {above : Nat}
    (has : script.HasLines above block.lines) {asked : JumpQuery × Nat}
    (member : asked ∈ block.ends above) : asked.1.search script = some asked.2 := by
  induction block generalizing above with
  | done => simp [ends] at member
  | blank text next ih => exact ih nested.2 (Script.hasLines_cons.mp has).2 member
  | line text next ih => exact ih nested.2 (Script.hasLines_cons.mp has).2 member
  | branch header yes closer next ihYes ihNext =>
      obtain ⟨_, nestedYes, closed, nestedNext⟩ := nested
      obtain ⟨inside, below⟩ := hasLines_enclosed has
      simp only [ends, List.mem_cons, List.mem_append] at member
      rcases member with rfl | rfl | member | member
      · exact blockEnd?_nested .conditional (.inr ⟨rfl, rfl⟩) nestedYes inside closed.1
          (.inl closed.2)
      · exact blockEnd?_nested .conditional (.inl rfl) nestedYes inside closed.1
          (.inl closed.2)
      · exact ihYes nestedYes (Script.hasLines_append.mp inside).1 member
      · exact ihNext nestedNext below member
  | fork header yes divider no closer next ihYes ihNo ihNext =>
      obtain ⟨_, nestedYes, divided, nestedNo, closed, nestedNext⟩ := nested
      obtain ⟨first, below⟩ := hasLines_enclosed has
      have middle : script.HasLines (above + 1 + yes.size)
          (divider :: (no.lines ++ closer :: next.lines)) := by
        rw [lines, Script.hasLines_cons, Script.hasLines_append] at has
        exact has.2.2
      obtain ⟨second, after⟩ := hasLines_enclosed middle
      simp only [ends, List.mem_cons, List.mem_append] at member
      rcases member with rfl | rfl | rfl | (member | member) | member
      · exact blockEnd?_nested .conditional (.inr ⟨rfl, rfl⟩) nestedYes first divided.1
          (.inr (by simp [divided.2, BlockKind.divider]))
      · exact blockEnd?_forked nestedYes divided nestedNo closed (Script.hasLines_cons.mp has).2
      · exact blockEnd?_nested .conditional (.inl rfl) nestedNo second closed.1
          (.inl closed.2)
      · exact ihYes nestedYes (Script.hasLines_append.mp first).1 member
      · exact ihNo nestedNo (Script.hasLines_append.mp second).1 member
      · exact ihNext nestedNext after member
  | loop kind header body closer next ihBody ihNext =>
      obtain ⟨_, nestedBody, closed, nestedNext⟩ := nested
      obtain ⟨inside, below⟩ := hasLines_enclosed has
      simp only [ends, List.mem_cons, List.mem_append] at member
      rcases member with rfl | member | member
      · exact blockEnd?_nested (.loop kind) (.inl rfl) nestedBody inside closed.1
          (.inl closed.2)
      · exact ihBody nestedBody (Script.hasLines_append.mp inside).1 member
      · exact ihNext nestedNext below member

end Block

/-! ## Main statement -/

/-- Whatever was asked before, the answer to a question is the first line that is sought and has
balanced statements before it, if there is one; in well-nested lines it is the own end of the block
asked about. -/
theorem answerAfter_first_balanced (script : Script) (earlier : List JumpQuery) :
    (∀ query : JumpQuery, query.closer ≠ query.opener.keyword →
      (∀ target, JumpCache.answerAfter script earlier query = some target ↔
        IsLeast {line | query.AnsweredBy script line} target) ∧
      (JumpCache.answerAfter script earlier query = none ↔
        ∀ line, ¬ query.AnsweredBy script line)) ∧
    ∀ (block : Block) (above : Nat), block.Nested → script.HasLines above block.lines →
      ∀ asked ∈ block.ends above,
        JumpCache.answerAfter script earlier asked.1 = some asked.2 := by
  constructor
  · intro query distinct
    rw [JumpCache.answerAfter_eq]
    exact ⟨fun target => JumpQuery.search_eq_some_iff distinct,
      JumpQuery.search_eq_none_iff distinct⟩
  · intro block above nested has asked member
    rw [JumpCache.answerAfter_eq]
    exact Block.search_ends nested has member

def nestedExample : Block :=
  .loop .forLoop "FOR 2" (.fork "IF 1" (.line "NOP" .done) "ELSE" .done "ENDIF" .done) "ENDF" .done

theorem answerAfter_first_balanced_nestedExample :
    let script := Script.ofLines "" nestedExample.lines
    let query : JumpQuery := ⟨1, ⟨"FOR", some 1⟩, "ENDF", []⟩
    (∀ target, JumpCache.answerAfter script [query] query = some target ↔
        IsLeast {line | query.AnsweredBy script line} target) ∧
      JumpCache.answerAfter script [query] query = some 6 :=
  ⟨((answerAfter_first_balanced _ _).1 _ (by decide)).1,
    (answerAfter_first_balanced _ _).2 nestedExample 0 (by decide +kernel)
      (by simp [Script.HasLines, Script.ofLines]) (⟨1, ⟨"FOR", some 1⟩, "ENDF", []⟩, 6)
      (by decide +kernel)⟩

end LineScript
