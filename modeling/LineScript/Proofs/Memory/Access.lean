import LineScript.Proofs.Dispatch
import LineScript.Proofs.Memory.History
import LineScript.Proofs.Resolution

/-!
Access to memory. Instructions and arguments reach a cell by its address only if there is the cell:
no index counts from the end, and what is not there is reported.
-/

namespace LineScript

open LineScript.Action

def Scope.withMemory (scope : Scope) (memory : Memory) : Scope :=
  { scope with machine := { scope.machine with memory } }

def Note.missingCell (address : Int) : Note :=
  ⟨.error, s!"Memory address {address} does not exist.", .indexOutOfRange⟩

def Note.missingRelease : Note :=
  ⟨.warning, "Tried freeing memory that doesn't exist.", .indexOutOfRange⟩

theorem Scope.memory_reportAll (scope : Scope) (notes : List Note) :
    (scope.reportAll notes).machine.memory = scope.machine.memory := by
  have alters : scope.Alters [.log] (scope.reportAll notes) :=
    scope.alters_reportAll notes (by simp)
  exact alters.others .memory (by simp)

theorem Number.isWord_of_le {amount limit : Int} (word : Number.isWord limit = true)
    (natural : 0 ≤ amount) (room : amount ≤ limit) : Number.isWord amount = true := by
  unfold isWord at word ⊢
  rw [Bool.and_eq_true, decide_eq_true_eq, decide_eq_true_eq] at word ⊢
  omega

namespace Memory

variable {memory : Memory} {amount limit : Int} {fill : String}

theorem reserve_of_le (word : Number.isWord limit = true) (natural : 0 ≤ amount)
    (room : amount ≤ limit) :
    memory.reserve amount fill limit = .ok (memory.allocate amount fill) := by
  unfold reserve
  rw [Number.isWord_of_le word natural room, if_neg (by decide), if_neg (Int.not_lt.mpr room)]

theorem reserve_of_lt (beyond : limit < amount) :
    ∃ fault, memory.reserve amount fill limit = .error fault := by
  unfold reserve
  rw [if_pos beyond]
  split <;> exact ⟨_, rfl⟩

end Memory

/-! ## Effects -/

namespace Effect

variable {scope : Scope} {text : String} {amount address : Int}
  {history : MemoryHistory}

theorem take_integer (text : String) (scope : Scope) :
    ∃ told, take (Reading.integer text) scope = .ok ((Number.parseInt? text).getD 0) told ∧
      told.machine.memory = scope.machine.memory := by
  have alters : Alters [.log] (take (Reading.integer text)) := alters_take _ (by simp)
  unfold Reading.integer at alters ⊢
  cases parsed : Number.parseInt? text with
  | some amount => exact ⟨_, rfl, rfl⟩
  | none =>
      rw [parsed] at alters
      exact ⟨_, rfl, (alters.ok rfl).others .memory (by simp)⟩

theorem take_parsed (parsed : Number.parseInt? text = some amount) (scope : Scope) :
    take (Reading.integer text) scope = .ok amount scope := by
  unfold Reading.integer
  rw [parsed]
  rfl

theorem reportTimes_eq (note : Note) (count : Nat) (scope : Scope) :
    reportTimes note.level note.text note.code count scope =
      .ok () (scope.reportAll (List.replicate count note)) := by
  induction count generalizing scope with
  | zero => rfl
  | succ count ih =>
      change reportTimes note.level note.text note.code count (scope.report note) = _
      rw [ih]
      rfl

theorem memory_allocate (text : String) (scope : Scope) :
    (lastScope (allocate text scope)).machine.memory =
      if 0 ≤ (Number.parseInt? text).getD 0 ∧
          (Number.parseInt? text).getD 0 ≤ scope.machine.host.cells then
        scope.machine.memory.allocate ((Number.parseInt? text).getD 0) "0"
      else scope.machine.memory := by
  obtain ⟨told, took, same⟩ := take_integer text scope
  have keeps : Keeps (fun _ => False) (take (Reading.integer text)) := keeps_take _
  have host : told.machine.host = scope.machine.host := (keeps.ok took).machine.host
  generalize (Number.parseInt? text).getD 0 = amount at took ⊢
  unfold allocate
  rw [bind_apply, took, ← same, ← host]
  dsimp only
  by_cases natural : 0 ≤ amount
  · rw [if_neg (Int.not_lt.mpr natural), get_bind]
    by_cases room : amount ≤ told.machine.host.cells
    · rw [Memory.reserve_of_le told.machine.host.cells_isWord natural room,
        if_pos ⟨natural, room⟩]
      rfl
    · obtain ⟨fault, refused⟩ := @Memory.reserve_of_lt told.machine.memory amount
        told.machine.host.cells "0" (Int.not_le.mp room)
      rw [refused, if_neg (room ·.2)]
      rfl
  · rw [if_pos (Int.not_le.mp natural), if_neg (natural ·.1)]
    rfl

theorem allocate_parsed (parsed : Number.parseInt? text = some amount) (natural : 0 ≤ amount)
    (room : amount ≤ scope.machine.host.cells) :
    allocate text scope =
      .ok () (scope.withMemory (scope.machine.memory.allocate amount "0")) := by
  unfold allocate
  rw [bind_apply, take_parsed parsed]
  dsimp only
  rw [if_neg (Int.not_lt.mpr natural), get_bind,
    Memory.reserve_of_le scope.machine.host.cells_isWord natural room]
  rfl

theorem free_took {told : Scope} (took : take (Reading.integer text) scope = .ok amount told) :
    free text scope =
      .ok () ((told.withMemory (told.machine.memory.release (max amount 0))).reportAll
        (List.replicate (amount - told.machine.memory.releasable (max amount 0)).toNat
          .missingRelease)) := by
  unfold free
  rw [bind_apply, took]
  dsimp only
  rw [get_bind, bind_apply]
  exact reportTimes_eq .missingRelease _ _

theorem memory_free (text : String) (scope : Scope) :
    (lastScope (free text scope)).machine.memory =
      scope.machine.memory.release (max ((Number.parseInt? text).getD 0) 0) := by
  obtain ⟨told, took, same⟩ := take_integer text scope
  rw [free_took took, ← same]
  exact Scope.memory_reportAll _ _

theorem cellIndex_eq (remembers : history.Remembers scope.machine.memory)
    (parsed : Number.parseInt? text = some address) :
    cellIndex text scope = match history.cell? scope.machine.extended address with
      | some cell => .ok (some (cell : Int)) scope
      | none => .ok none (scope.report (.missingCell address)) := by
  unfold cellIndex
  rw [parsed]
  dsimp only
  rw [get_bind]
  change (if scope.machine.memory.exists? (if scope.machine.extended then address else address - 1)
    then _ else _ : Action (Option Int)) scope = _
  cases found : history.cell? scope.machine.extended address with
  | some cell =>
      obtain ⟨index, inside⟩ := remembers.exists?_of_cell? found
      rw [index, if_pos inside]
      dsimp only
      rw [← index]
      rfl
  | none =>
      rw [if_neg (remembers.not_exists?_of_cell? found)]
      rfl

theorem cellIndex_malformed (malformed : Number.parseInt? text = none) (scope : Scope) :
    cellIndex text scope =
      .ok none (scope.report ⟨.error, Reading.malformed text, .malformedValue⟩) := by
  unfold cellIndex
  rw [malformed]
  rfl

theorem setMemory_eq (remembers : history.Remembers scope.machine.memory)
    (parsed : Number.parseInt? text = some address) (value : String) :
    setMemory text value scope = .ok () (match history.cell? scope.machine.extended address with
      | some cell => scope.withMemory ⟨scope.machine.memory.cells.setIfInBounds cell value⟩
      | none => scope.report (.missingCell address)) := by
  unfold setMemory
  rw [bind_apply, cellIndex_eq remembers parsed]
  cases found : history.cell? scope.machine.extended address with
  | none => rfl
  | some cell =>
      obtain ⟨-, inside⟩ := remembers.exists?_of_cell? found
      change EStateM.Result.ok () (scope.withMemory _) = _
      rw [Memory.set?_of_exists? inside]
      rfl

theorem getMemory_eq (remembers : history.Remembers scope.machine.memory)
    (parsed : Number.parseInt? text = some address) (name : String) :
    getMemory name text scope = .ok () (match history.cell? scope.machine.extended address with
      | some cell => (scope.setVariable name (history.lastWritten cell)).2
      | none => ((scope.report (.missingCell address)).setVariable name nullText).2) := by
  unfold getMemory
  rw [bind_apply, cellIndex_eq remembers parsed]
  cases found : history.cell? scope.machine.extended address with
  | none => rfl
  | some cell =>
      obtain ⟨-, inside⟩ := remembers.exists?_of_cell? found
      have content : scope.machine.memory.get? cell = some (history.lastWritten cell) := by
        rw [Memory.get?_eq_of_exists? inside, Int.toNat_natCast, remembers.getElem? inside]
      dsimp only
      rw [get_bind, Option.bind_some, content]
      rfl

theorem allocate_refused (parsed : Number.parseInt? text = some amount) (natural : 0 ≤ amount)
    (beyond : scope.machine.host.cells < amount) :
    ∃ fault, allocate text scope = .error (.exception (.memory fault)) scope := by
  obtain ⟨fault, refused⟩ := @Memory.reserve_of_lt scope.machine.memory amount
    scope.machine.host.cells "0" beyond
  refine ⟨fault, ?_⟩
  unfold allocate
  rw [bind_apply, take_parsed parsed]
  dsimp only
  rw [if_neg (Int.not_lt.mpr natural), get_bind, refused]
  rfl

end Effect

/-! ## Reading a cell in an argument -/

namespace Reference

variable {scope after : Scope} {text found : String} {index : Int} {history : MemoryHistory}

theorem resolve_cell_eq (mode : scope.machine.extended = true)
    (remembers : history.Remembers scope.machine.memory)
    (resolved : resolve text scope = .ok found after)
    (parsed : Number.parseInt? found = some index) :
    resolve ("#" ++ text) scope = match history.cell? true index with
      | some place => .ok (history.lastWritten place) after
      | none => .ok nullText (after.report (.missingCell index)) := by
  have denotes : indexOf found after = .ok (some index) after := by
    unfold indexOf
    rw [parsed]
    rfl
  rw [resolve_cell mode, bind_apply, resolved]
  dsimp only
  rw [bind_apply, denotes]
  unfold pick
  dsimp only
  rw [← Memory.get?_of_exists]
  cases reached : history.cell? true index with
  | some place =>
      obtain ⟨same, inside⟩ := remembers.exists?_of_cell? reached
      rw [show index = place from same, if_pos inside, Memory.get?_eq_of_exists? inside,
        Int.toNat_natCast, remembers.getElem? inside]
      rfl
  | none =>
      have outside := remembers.not_exists?_of_cell? reached
      rw [if_neg (show ¬ scope.machine.memory.exists? index = true from outside)]
      rfl

theorem resolve_cell_compat (mode : scope.machine.extended = false) :
    resolve ("#" ++ text) scope = .ok ("#" ++ text) scope := by
  have chars : ("#" ++ text).toList = '#' :: text.toList := String.toList_append
  refine resolve_unmarked fun mark listed => ?_
  rw [mode, show marks false = ['$'] from rfl, List.mem_singleton] at listed
  rw [chars, listed, List.head?_cons]
  decide

end Reference

end LineScript
