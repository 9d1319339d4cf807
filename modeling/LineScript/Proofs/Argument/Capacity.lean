import LineScript.Machine.Step
import LineScript.Proofs.Argument.Count
import LineScript.Proofs.Argument.Scan
import LineScript.Proofs.Program

/-!
Lines with too many arguments. The scan of a line may refuse an argument as soon as it ends, or all
of them at the end of the line: both refuse the same lines, and neither has a value read before it
refuses. Such a line is reported and does nothing else.
-/

namespace LineScript

/-! ## A scan that refuses arguments -/

namespace Scan

variable {limit : Int}

def closeWithin (limit : Int) (scan : Scan) (quoted : Bool) :
    Except TooManyArguments (List Piece) :=
  if limit ≤ scan.pieces.length then .error ⟨limit⟩ else .ok (scan.close quoted)

/-- Reads one character that is no quote, or a quote that counts as any other character. -/
def plainWithin (limit : Int) (scan : Scan) (c : Char) : Except TooManyArguments Scan :=
  if !scan.inQuotes && c == ' ' then
    (if scan.current.isEmpty then .ok scan.pieces else scan.closeWithin limit false).map
      fun pieces => ⟨pieces, [], false, false, true⟩
  else
    .ok { scan with current := c :: scan.current, escaping := c == '\\', atStart := c == ' ' }

/-- Reads one character, and refuses an argument that ends with it if there is no room. -/
def stepWithin (limit : Int) (scan : Scan) (c : Char) : Except TooManyArguments Scan :=
  if c != '"' then scan.plainWithin limit c
  else if scan.escaping then
    .ok { scan with current := '"' :: scan.current.tail, escaping := false, atStart := false }
  else if scan.inQuotes then
    (scan.closeWithin limit true).map fun pieces => ⟨pieces, [], false, false, false⟩
  else if scan.atStart then
    .ok { scan with inQuotes := true, escaping := false, atStart := false }
  else scan.plainWithin limit c

/-- The arguments, first one first, unless there is no room for the one that is still open. -/
def finishWithin (limit : Int) (scan : Scan) : Except TooManyArguments (List Piece) :=
  (if !scan.current.isEmpty || scan.inQuotes then scan.closeWithin limit scan.inQuotes
    else .ok scan.pieces).map List.reverse

def Fits (limit : Int) (scan : Scan) : Prop :=
  (scan.pieces.length : Int) ≤ max limit 0

instance (scan : Scan) : Decidable (scan.Fits limit) :=
  inferInstanceAs (Decidable (_ ≤ _))

/-- The outcome of a check of what is read: it is given if it is no more than allowed. -/
def judge (limit : Int) {α : Type} (count : Nat) (value : α) : Except TooManyArguments α :=
  if (count : Int) ≤ max limit 0 then .ok value else .error ⟨limit⟩

theorem judge_map {α β : Type} (count : Nat) (value : α) (change : α → β) :
    (judge limit count value).map change = judge limit count (change value) := by
  unfold judge
  split_ifs <;> rfl

theorem judge_fits {α : Type} {count : Nat} (fits : (count : Int) ≤ max limit 0) (value : α) :
    judge limit count value = .ok value :=
  if_pos fits

theorem judge_beyond {α : Type} {count : Nat} (beyond : ¬ (count : Int) ≤ max limit 0) (value : α) :
    judge limit count value = .error ⟨limit⟩ :=
  if_neg beyond

theorem closeWithin_eq (scan : Scan) (quoted : Bool) :
    scan.closeWithin limit quoted =
      judge limit (scan.close quoted).length (scan.close quoted) := by
  unfold closeWithin judge
  rw [show (scan.close quoted).length = scan.pieces.length + 1 from rfl]
  split_ifs <;> first | rfl | omega

theorem plainWithin_eq {scan : Scan} (fits : scan.Fits limit) (c : Char) :
    scan.plainWithin limit c = judge limit (scan.plain c).pieces.length (scan.plain c) := by
  unfold plainWithin plain
  split_ifs with space empty
  · exact (judge_fits fits _).symm
  · rw [closeWithin_eq, judge_map]
  · exact (judge_fits fits _).symm

theorem stepWithin_eq {scan : Scan} (fits : scan.Fits limit) (c : Char) :
    scan.stepWithin limit c = judge limit (scan.step c).pieces.length (scan.step c) := by
  unfold stepWithin step
  split_ifs with other escaping inside start
  · exact plainWithin_eq fits c
  · exact (judge_fits fits _).symm
  · rw [closeWithin_eq, judge_map]
  · exact (judge_fits fits _).symm
  · exact plainWithin_eq fits c

theorem finishWithin_eq {scan : Scan} (fits : scan.Fits limit) :
    scan.finishWithin limit = judge limit scan.finish.length scan.finish := by
  unfold finishWithin finish
  rw [List.length_reverse]
  split_ifs
  · rw [closeWithin_eq, judge_map]
  · exact (judge_fits fits _).symm

theorem length_pieces_le_finish (chars : List Char) (scan : Scan) :
    scan.pieces.length ≤ (chars.foldl step scan).finish.length := by
  have kept := (scan.finish_foldl chars).length_le
  rwa [List.length_reverse] at kept

theorem foldlM_stepWithin {scan : Scan} (fits : scan.Fits limit) (chars : List Char) :
    (chars.foldlM (stepWithin limit) scan).bind (finishWithin limit) =
      judge limit (chars.foldl step scan).finish.length (chars.foldl step scan).finish := by
  induction chars generalizing scan with
  | nil => exact finishWithin_eq fits
  | cons c rest ih =>
      rw [List.foldlM_cons, List.foldl_cons, stepWithin_eq fits]
      by_cases next : (scan.step c).Fits limit
      · rw [judge_fits next]
        exact ih next
      · -- What is read stays read, so the rest of the line cannot make up for it.
        have grows := length_pieces_le_finish rest (scan.step c)
        have beyond : ¬ ((rest.foldl step (scan.step c)).finish.length : Int) ≤ max limit 0 := by
          unfold Fits at next
          omega
        rw [judge_beyond next, judge_beyond beyond]
        rfl

end Scan

/-- The arguments of a line, each of which is refused as soon as it ends if there is no room. -/
def piecesWithin (limit : Int) (tokens : List String) : Except TooManyArguments (List Piece) :=
  ((argumentText tokens).foldlM (Scan.stepWithin limit) Scan.initial).bind
    (Scan.finishWithin limit)

theorem piecesWithin_eq (limit : Int) (tokens : List String) :
    piecesWithin limit tokens = pieces? limit tokens := by
  have start : Scan.initial.Fits limit := Int.le_max_right limit 0
  rw [piecesWithin, Scan.foldlM_stepWithin start, pieces?_eq]
  unfold Scan.judge
  rw [← piecesOf]
  split_ifs <;> first | rfl | omega

/-! ## Lines that are refused -/

variable {limit : Int} {tokens : List String}

def Overfull (limit : Int) (tokens : List String) : Prop :=
  max limit 0 < ((piecesOf tokens).length : Int)

instance : Decidable (Overfull limit tokens) :=
  inferInstanceAs (Decidable (_ < _))

theorem Overfull.pieces? (overfull : Overfull limit tokens) :
    LineScript.pieces? limit tokens = .error ⟨limit⟩ := by
  rw [pieces?_eq]
  exact if_pos overfull

theorem Overfull.piecesWithin (overfull : Overfull limit tokens) :
    LineScript.piecesWithin limit tokens = .error ⟨limit⟩ :=
  (piecesWithin_eq limit tokens).trans overfull.pieces?

theorem Overfull.extractWith (overfull : Overfull limit tokens) {m : Type → Type} [Monad m]
    (resolve : String → m String) :
    LineScript.extractWith limit resolve tokens = .error ⟨limit⟩ := by
  rw [LineScript.extractWith, overfull.pieces?]
  rfl

/-- A line with too many arguments, whatever its keyword: it is refused while it is scanned, nothing
is resolved for it, and all that comes of it is one message. -/
theorem State.execute_overfull (script : Script) (line : Line) (now : State)
    (limited : now.scope.machine.settings.maxArgs = some limit)
    (overfull : Overfull limit line.tokens) :
    piecesWithin limit line.tokens = .error ⟨limit⟩ ∧
      (∀ (m : Type → Type) [Monad m] (resolve : String → m String),
        extractWith limit resolve line.tokens = .error ⟨limit⟩) ∧
      now.execute script line = .next (now.onMachine (·.emit
        ⟨.error, now.scope.frame.cursor.line, s!"Too many arguments (at most {limit} are allowed)",
          24⟩)) := by
  refine ⟨overfull.piecesWithin, fun m _ resolve => overfull.extractWith resolve, ?_⟩
  unfold execute
  rw [limited]
  dsimp only
  rw [overfull.pieces?]
  rfl

def State.narrowExample : State :=
  { scope := ⟨{ Machine.plainExample with settings := ⟨some 100, some 1, false, false⟩ },
      ⟨"main", [], .empty, .start⟩⟩
    suspended := []
    control := .running
    floor := .ground
    oneLine := false }

/-- The keyword is unknown, and a prompt would be shown for the first argument. -/
theorem State.execute_overfull_unknownExample :
    Overfull 1 (Line.ofText 1 "NOWHERE $_ask \"b c").tokens ∧
      narrowExample.execute (.ofLines "<string>" []) (.ofText 1 "NOWHERE $_ask \"b c") = .next
        (narrowExample.onMachine (·.emit
          ⟨.error, 0, s!"Too many arguments (at most {(1 : Int)} are allowed)", 24⟩)) := by
  have overfull : Overfull 1 (Line.ofText 1 "NOWHERE $_ask \"b c").tokens := by decide +kernel
  exact ⟨overfull, (execute_overfull _ _ narrowExample rfl overfull).2.2⟩

end LineScript
