import LineScript.Machine.Reference
import LineScript.Proofs.Block.Syntax

/-!
The number of arguments of a line. It is counted when a script is read and again when a line is
executed; both counts are the same, and the arguments of no line are too many to be counted.
-/

namespace LineScript

/-! ## Arguments and characters -/

namespace Scan

def begun (scan : Scan) : Nat :=
  scan.pieces.length + if !scan.current.isEmpty || scan.inQuotes then 1 else 0

theorem length_finish (scan : Scan) : scan.finish.length = scan.begun := by
  rw [finish, begun, List.length_reverse]
  split_ifs <;> simp [close]

theorem begun_of_pieces {scan next : Scan} (same : next.pieces = scan.pieces) :
    next.begun ≤ scan.begun + 1 := by
  unfold begun
  rw [same]
  split_ifs <;> omega

theorem begun_of_close {scan : Scan} (begins : (!scan.current.isEmpty || scan.inQuotes) = true)
    (quoted atStart : Bool) :
    begun ⟨scan.close quoted, [], false, false, atStart⟩ ≤ scan.begun + 1 := by
  unfold begun
  rw [if_pos begins]
  simp [close]

theorem begun_plain_le (scan : Scan) (c : Char) : (scan.plain c).begun ≤ scan.begun + 1 := by
  unfold plain
  split_ifs with space empty
  · exact begun_of_pieces rfl
  · exact begun_of_close (by simp [empty]) false true
  · exact begun_of_pieces rfl

theorem begun_step_le (scan : Scan) (c : Char) : (scan.step c).begun ≤ scan.begun + 1 := by
  unfold step
  split_ifs with other escaping inside start
  · exact scan.begun_plain_le c
  · exact begun_of_pieces rfl
  · exact begun_of_close (by simp [inside]) true false
  · exact begun_of_pieces rfl
  · exact scan.begun_plain_le c

theorem begun_foldl_le (chars : List Char) (scan : Scan) :
    (chars.foldl step scan).begun ≤ scan.begun + chars.length := by
  induction chars generalizing scan with
  | nil => exact Nat.le_refl _
  | cons c rest ih =>
      have first := scan.begun_step_le c
      have others := ih (scan.step c)
      rw [List.foldl_cons, List.length_cons]
      omega

end Scan

theorem length_piecesOf_le (tokens : List String) :
    (piecesOf tokens).length ≤ (argumentText tokens).length := by
  have begun := Scan.begun_foldl_le (argumentText tokens) Scan.initial
  rwa [show Scan.initial.begun = 0 from rfl, Nat.zero_add, ← Scan.length_finish] at begun

theorem length_pieces_le (text : String) : (LineText.pieces text).length ≤ text.length :=
  Nat.le_trans (length_piecesOf_le _) (length_argumentText_tokenize_le text)

/-! ## Lines of a text -/

theorem Text.length_of_mem_ended {line found rest : List Char} {count : Nat}
    (fewer : rest.length ≤ count)
    (below : found ∈ linesFrom [] rest → found.length ≤ ([] : List Char).length + rest.length)
    (member : found ∈ line.reverse :: linesFrom [] rest) : found.length ≤ line.length + count := by
  rcases List.mem_cons.mp member with rfl | later
  · rw [List.length_reverse]
    omega
  · have bound := below later
    rw [List.length_nil] at bound
    omega

theorem Text.length_of_mem_linesFrom {line found : List Char} (chars : List Char)
    (member : found ∈ linesFrom line chars) : found.length ≤ line.length + chars.length := by
  induction line, chars using linesFrom.induct with
  | case1 line empty =>
      rw [linesFrom, if_pos empty] at member
      cases member
  | case2 line filled =>
      rw [linesFrom, if_neg filled] at member
      rw [List.mem_singleton.mp member, List.length_reverse]
      exact Nat.le_add_right _ _
  | case3 line rest ih =>
      rw [linesFrom] at member
      exact length_of_mem_ended (by simp only [List.length_cons]; omega) ih member
  | case4 line c rest other boundary ih =>
      rw [linesFrom, if_pos boundary] at member
      · exact length_of_mem_ended (by simp only [List.length_cons]; omega) ih member
      · exact other
  | case5 line c rest other inner ih =>
      rw [linesFrom, if_neg inner] at member
      · have bound := ih member
        simp only [List.length_cons] at bound ⊢
        omega
      · exact other

theorem Text.length_of_mem_lines {text line : String} (member : line ∈ lines text) :
    line.length ≤ text.length := by
  obtain ⟨chars, found, rfl⟩ := List.mem_map.mp member
  have bound := length_of_mem_linesFrom text.toList found
  rw [List.length_nil, Nat.zero_add, String.length_toList] at bound
  rwa [String.length_ofList]

/-! ## The limit -/

theorem pieces?_eq (limit : Int) (tokens : List String) :
    pieces? limit tokens =
      if max limit 0 < ((piecesOf tokens).length : Int) then .error ⟨limit⟩
      else .ok (piecesOf tokens) := by
  unfold pieces?
  dsimp only
  refine if_congr ?_ rfl rfl
  cases piecesOf tokens with
  | nil =>
      rw [List.isEmpty_nil, List.length_nil]
      simp only [Bool.not_true, Bool.false_and, Bool.false_eq_true, false_iff]
      omega
  | cons piece rest =>
      rw [List.isEmpty_cons, Bool.not_false, Bool.true_and, decide_eq_true_iff, List.length_cons]
      omega

theorem argumentCount_eq (limit : Int) (tokens : List String) :
    argumentCount limit tokens =
      if max limit 0 < ((piecesOf tokens).length : Int) then -1
      else ((piecesOf tokens).length : Int) := by
  unfold argumentCount
  rw [pieces?_eq]
  split_ifs <;> rfl

theorem argumentCount_eq_neg_one (limit : Int) (tokens : List String) :
    argumentCount limit tokens = -1 ↔ max limit 0 < (piecesOf tokens).length := by
  rw [argumentCount_eq]
  split_ifs with beyond
  · exact iff_of_true rfl beyond
  · exact iff_of_false (fun same => by omega) beyond

theorem pieces?_of_le {limit : Int} {tokens : List String}
    (fits : ((piecesOf tokens).length : Int) ≤ max limit 0) :
    pieces? limit tokens = .ok (piecesOf tokens) := by
  rw [pieces?_eq, if_neg (Int.not_lt.mpr fits)]

theorem eq_piecesOf_of_pieces? {limit : Int} {tokens : List String} {pieces : List Piece}
    (read : pieces? limit tokens = .ok pieces) : pieces = piecesOf tokens := by
  rw [pieces?_eq] at read
  split_ifs at read
  exact (Except.ok.inj read).symm

/-! ## The values -/

section Resolving

variable {m : Type → Type} [Monad m]

/-- The value of an argument for a resolver with effects: a quoted text as it is, anything else as
it resolves. -/
def Piece.valueWith (resolve : String → m String) (piece : Piece) : m String :=
  if piece.quoted then pure piece.text else resolve piece.text

/-- The values of the arguments of a line, which are resolved from left to right. -/
def extractWith (limit : Int) (resolve : String → m String) (tokens : List String) :
    Except TooManyArguments (m (List String)) :=
  (pieces? limit tokens).map (·.mapM (Piece.valueWith resolve))

end Resolving

section Yields

variable {ε σ : Type} {resolve : String → EStateM ε σ String}

/-- There are so many values, unless one of them could not be resolved. -/
def Yields (resolve : String → EStateM ε σ String) (count : Nat) :
    EStateM.Result ε σ (List String) → Prop
  | .ok values _ => values.length = count
  | .error fault after => ∃ argument before, resolve argument before = .error fault after

theorem yields_mapM (pieces : List Piece) (before : σ) :
    Yields resolve pieces.length (pieces.mapM (Piece.valueWith resolve) before) := by
  induction pieces generalizing before with
  | nil => exact rfl
  | cons piece rest ih =>
      rw [List.mapM_cons]
      change Yields resolve (rest.length + 1) (EStateM.bind _ _ before)
      unfold EStateM.bind
      cases first : Piece.valueWith resolve piece before with
      | error fault after =>
          unfold Piece.valueWith at first
          split at first
          · cases first
          · exact ⟨piece.text, before, first⟩
      | ok value middle =>
          have others := ih middle
          change Yields resolve (rest.length + 1) (EStateM.bind _ _ middle)
          unfold EStateM.bind
          cases last : rest.mapM (Piece.valueWith resolve) middle with
          | error fault after =>
              rw [last] at others
              exact others
          | ok values after =>
              rw [last] at others
              exact congrArg (· + 1) others

end Yields

/-! ## Statements -/

/-- The line with these tokens has as many arguments as the statement says: they are counted and
extracted if the limit allows for so many, whatever they resolve to, and else they are refused. -/
structure Statement.Counts (statement : Statement) (tokens : List String) : Prop where
  keyword : Line.keywordOf tokens = statement.keyword
  counted : ∀ limit : Int, (statement.argc : Int) ≤ max limit 0 →
    argumentCount limit tokens = statement.argc
  extracted : ∀ (ε σ : Type) (limit : Int) (resolve : String → EStateM ε σ String),
    (statement.argc : Int) ≤ max limit 0 → ∃ action, extractWith limit resolve tokens = .ok action ∧
      ∀ before, Yields resolve statement.argc (action before)
  uncounted : ∀ limit : Int, argumentCount limit tokens = -1 ↔ max limit 0 < statement.argc
  refused : ∀ (ε σ : Type) (limit : Int) (resolve : String → EStateM ε σ String),
    (∃ fault, extractWith limit resolve tokens = .error fault) ↔ max limit 0 < statement.argc

theorem Statement.counts {statement : Statement} {tokens : List String}
    (keyword : Line.keywordOf tokens = statement.keyword)
    (argc : (piecesOf tokens).length = statement.argc) : statement.Counts tokens where
  keyword := keyword
  counted limit fits := by
    rw [argumentCount_eq, argc, if_neg (Int.not_lt.mpr fits)]
  extracted ε σ limit resolve fits := by
    rw [← argc] at fits
    refine ⟨_, congrArg (Except.map _) (pieces?_of_le fits), fun before => ?_⟩
    rw [← argc]
    exact yields_mapM _ before
  uncounted limit := by
    rw [argumentCount_eq_neg_one, argc]
  refused ε σ limit resolve := by
    rw [extractWith, pieces?_eq, argc]
    split_ifs with beyond
    · exact iff_of_true ⟨_, rfl⟩ beyond
    · exact iff_of_false (fun ⟨fault, failed⟩ => by cases failed) beyond

theorem Statement.of_ofLine? {number : Nat} {text : String} {statement : Statement}
    (found : Statement.ofLine? number text = some statement) :
    LineText.isInstruction text = true ∧ statement.number = number ∧
      statement.keyword = LineText.keyword text ∧
      statement.argc = (LineText.pieces text).length := by
  cases executed : LineText.isInstruction text with
  | false =>
      rw [Statement.ofLine?_other number executed] at found
      cases found
  | true =>
      rw [Statement.ofLine?_instruction number executed] at found
      generalize LineText.pieces text = pieces at found ⊢
      cases found
      exact ⟨rfl, rfl, rfl, rfl⟩

theorem exists_of_mem_statementsFrom {number : Nat} {texts : List String} {statement : Statement}
    (member : statement ∈ statementsFrom number texts) :
    ∃ index text, texts[index]? = some text ∧
      Statement.ofLine? (number + index) text = some statement := by
  induction texts generalizing number with
  | nil => cases member
  | cons text rest ih =>
      rw [statementsFrom_cons, List.mem_append, Option.mem_toList] at member
      rcases member with here | below
      · exact ⟨0, text, rfl, here⟩
      · obtain ⟨index, other, found, same⟩ := ih below
        rw [Nat.add_right_comm] at same
        exact ⟨index + 1, other, found, same⟩

theorem Script.line?_of_mem_statements {script : Script} {statement : Statement}
    (member : statement ∈ script.statements) :
    ∃ text, script.line? statement.number = some text ∧ LineText.isInstruction text = true ∧
      statement.keyword = LineText.keyword text ∧
      statement.argc = (LineText.pieces text).length := by
  rw [script.statements_eq] at member
  obtain ⟨index, text, found, same⟩ := exists_of_mem_statementsFrom member
  obtain ⟨executed, number, keyword, argc⟩ := Statement.of_ofLine? same
  refine ⟨text, ?_, executed, keyword, argc⟩
  rw [number, Nat.add_comm, line?_succ, found]

theorem Script.exists_statement {script : Script} {number : Nat} {text : String}
    (found : script.line? (number + 1) = some text)
    (executed : LineText.isInstruction text = true) :
    ∃ statement ∈ script.statements, statement.number = number + 1 ∧
      statement.keyword = LineText.keyword text ∧
      statement.argc = (LineText.pieces text).length := by
  have member := mem_statements found executed
  generalize LineText.pieces text = pieces at member ⊢
  exact ⟨_, member, rfl, rfl, rfl⟩

theorem Script.length_of_line?_ofText {file text line : String} {number : Nat}
    (found : (ofText file text).line? number = some line) : line.length ≤ text.length := by
  cases number with
  | zero => cases found
  | succ number =>
      rw [line?_succ] at found
      have member := List.mem_of_getElem? found
      exact Text.length_of_mem_lines (by simpa [ofText, ofLines] using member)

theorem Script.statements_counted {file text : String} {statement : Statement}
    (member : statement ∈ (ofText file text).statements) :
    ∃ line, (ofText file text).line? statement.number = some line ∧
      statement.Counts (tokenize line) ∧
      argumentCount (text.length + 1) (tokenize line) = statement.argc := by
  obtain ⟨line, found, -, keyword, argc⟩ := line?_of_mem_statements member
  have counts : statement.Counts (tokenize line) := Statement.counts keyword.symm argc.symm
  have arguments := length_pieces_le line
  have short := length_of_line?_ofText found
  exact ⟨line, found, counts, counts.counted _ (by omega)⟩

end LineScript
