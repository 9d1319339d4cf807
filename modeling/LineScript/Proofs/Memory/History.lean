import LineScript.Store.Memory
import Mathlib.Data.List.DropRight

/-!
The history of memory. What has been done to the cells tells what there is in them: the value that
has been written to a cell last since the cell was added, or the text that it was filled with.
-/

namespace LineScript

/-- Something that is done to the cells of memory. -/
inductive MemoryEvent where
  | allocated (amount : Nat)
  | released (amount : Nat)
  | written (cell : Nat) (value : String)
deriving DecidableEq, Repr

abbrev MemoryHistory := List MemoryEvent

namespace MemoryHistory

def size : MemoryHistory → Nat
  | [] => 0
  | .allocated amount :: before => size before + amount
  | .released amount :: before => size before - amount
  | .written _ _ :: before => size before

def lastWritten (cell : Nat) : MemoryHistory → String
  | [] => "0"
  | .written other value :: before => if other = cell then value else lastWritten cell before
  | .allocated _ :: before => if size before ≤ cell then "0" else lastWritten cell before
  | .released _ :: before => lastWritten cell before

def content (history : MemoryHistory) (cell : Nat) : Option String :=
  if cell < history.size then some (history.lastWritten cell) else none

/-- The cell with an address, if there is one: addresses count from zero in extended mode, and from
one in compatibility mode. -/
def cell? (history : MemoryHistory) (extended : Bool) (address : Int) : Option Nat :=
  let index := if extended then address else address - 1
  if 0 ≤ index ∧ index < history.size then some index.toNat else none

def Remembers (history : MemoryHistory) (memory : Memory) : Prop :=
  ∀ cell, memory.cells[cell]? = history.content cell

end MemoryHistory

/-! ## What is done to memory -/

namespace Memory

variable {memory : Memory} {amount index : Int} {fill : String}

theorem exists?_iff : memory.exists? index = true ↔ 0 ≤ index ∧ index < memory.size := by
  unfold exists?
  rw [Bool.and_eq_true, decide_eq_true_eq, decide_eq_true_eq]

theorem position?_of_exists? (inside : memory.exists? index = true) :
    memory.position? index = some index.toNat := by
  have low : ¬ index < 0 := Int.not_lt.mpr (exists?_iff.mp inside).1
  unfold position?
  rw [if_neg low, if_pos inside]

theorem get?_eq_of_exists? (inside : memory.exists? index = true) :
    memory.get? index = memory.cells[index.toNat]? := by
  unfold get?
  rw [position?_of_exists? inside, Option.bind_some]

theorem set?_of_exists? (inside : memory.exists? index = true) (value : String) :
    memory.set? index value = some ⟨memory.cells.setIfInBounds index.toNat value⟩ := by
  unfold set?
  rw [position?_of_exists? inside, Option.map_some]

theorem toList_allocate (memory : Memory) (amount : Int) (fill : String) :
    (memory.allocate amount fill).cells.toList =
      memory.cells.toList ++ List.replicate amount.toNat fill := by
  unfold allocate
  rw [Array.toList_append, Array.toList_replicate]

theorem toList_release (memory : Memory) (amount : Int) :
    (memory.release amount).cells.toList =
      memory.cells.toList.rdrop (min amount memory.size).toNat := by
  unfold release releasable List.rdrop
  rw [Array.take_eq_extract, Array.toList_extract, List.extract_eq_take_drop, List.drop_zero,
    Nat.sub_zero]
  rfl

theorem release_allocate (natural : 0 ≤ amount) :
    (memory.allocate amount fill).release amount = memory := by
  obtain ⟨cells⟩ := memory
  have all : min amount ((allocate ⟨cells⟩ amount fill).size : Int) = amount := by
    unfold allocate size
    rw [Array.size_append, Array.size_replicate]
    omega
  refine congrArg Memory.mk (Array.toList_inj.mp ?_)
  change ((allocate ⟨cells⟩ amount fill).release amount).cells.toList = cells.toList
  rw [toList_release, all, toList_allocate, List.rdrop, List.length_append, List.length_replicate,
    Nat.add_sub_cancel, List.take_left]

theorem getElem?_allocate (memory : Memory) (amount : Int) (fill : String) (cell : Nat) :
    (memory.allocate amount fill).cells[cell]? =
      if cell < memory.size then memory.cells[cell]?
      else if cell < memory.size + amount.toNat then some fill else none := by
  unfold allocate size
  rw [Array.getElem?_append, Array.getElem?_replicate]
  split
  · rfl
  · exact if_congr (by omega) rfl rfl

theorem getElem?_release (natural : 0 ≤ amount) (cell : Nat) :
    (memory.release amount).cells[cell]? =
      if cell < memory.size - amount.toNat then memory.cells[cell]? else none := by
  have left : memory.cells.toList.length - (min amount memory.size).toNat =
      memory.size - amount.toNat := by
    change memory.size - _ = _
    omega
  rw [← Array.getElem?_toList, toList_release, List.rdrop, left, List.getElem?_take,
    Array.getElem?_toList]

end Memory

/-! ## What memory holds -/

namespace MemoryHistory

variable {history : MemoryHistory} {memory : Memory} {amount address : Int}

theorem content_allocated (history : MemoryHistory) (amount cell : Nat) :
    content (.allocated amount :: history) cell =
      if cell < history.size then history.content cell
      else if cell < history.size + amount then some "0" else none := by
  change (if cell < history.size + amount then some (if history.size ≤ cell then "0" else
    history.lastWritten cell) else none) = _
  unfold content
  by_cases old : cell < history.size
  · rw [if_pos old, if_pos old, if_pos (by omega), if_neg (Nat.not_le.mpr old)]
  · rw [if_neg old, if_pos (Nat.not_lt.mp old)]

theorem content_released (history : MemoryHistory) (amount cell : Nat) :
    content (.released amount :: history) cell =
      if cell < history.size - amount then history.content cell else none := by
  change (if cell < history.size - amount then some (history.lastWritten cell) else none) = _
  unfold content
  by_cases kept : cell < history.size - amount
  · rw [if_pos kept, if_pos kept, if_pos (by omega)]
  · rw [if_neg kept, if_neg kept]

theorem content_written (history : MemoryHistory) (written cell : Nat) (value : String) :
    content (.written written value :: history) cell =
      if written = cell then (if cell < history.size then some value else none)
      else history.content cell := by
  change (if cell < history.size then some (if written = cell then value else
    history.lastWritten cell) else none) = _
  unfold content
  by_cases same : written = cell
  · rw [if_pos same, if_pos same]
  · rw [if_neg same, if_neg same]

theorem Remembers.size (remembers : history.Remembers memory) : memory.size = history.size := by
  have same (cell : Nat) : cell < memory.size ↔ cell < history.size := by
    rw [← not_iff_not, Nat.not_lt, Memory.size, ← Array.getElem?_eq_none_iff, remembers cell]
    unfold content
    rw [ite_eq_right_iff, imp_iff_not (Option.some_ne_none _)]
  have upper := same memory.size
  have lower := same history.size
  omega

theorem remembers_empty : Remembers [] .empty :=
  fun _ => rfl

theorem Remembers.allocate (remembers : history.Remembers memory) (amount : Int) :
    Remembers (.allocated amount.toNat :: history) (memory.allocate amount "0") := by
  intro cell
  rw [Memory.getElem?_allocate, content_allocated, remembers.size, remembers cell]

theorem Remembers.release (remembers : history.Remembers memory) (natural : 0 ≤ amount) :
    Remembers (.released amount.toNat :: history) (memory.release amount) := by
  intro cell
  rw [Memory.getElem?_release natural, content_released, remembers.size, remembers cell]

theorem Remembers.write (remembers : history.Remembers memory) (written : Nat) (value : String) :
    Remembers (.written written value :: history) ⟨memory.cells.setIfInBounds written value⟩ := by
  intro cell
  rw [Array.getElem?_setIfInBounds, content_written, remembers cell, ← remembers.size, Memory.size]
  by_cases same : written = cell
  · rw [if_pos same, if_pos same, same]
  · rw [if_neg same, if_neg same]

theorem Remembers.exists?_of_cell? (remembers : history.Remembers memory) {extended : Bool}
    {cell : Nat} (found : history.cell? extended address = some cell) :
    (if extended then address else address - 1) = cell ∧ memory.exists? cell = true := by
  unfold cell? at found
  dsimp only at found
  generalize (if extended then address else address - 1) = index at found ⊢
  rw [Option.ite_none_right_eq_some] at found
  obtain ⟨⟨natural, inside⟩, same⟩ := found
  obtain rfl : index = cell := by
    rw [← Option.some.inj same, Int.toNat_of_nonneg natural]
  rw [Memory.exists?_iff, remembers.size]
  exact ⟨rfl, natural, inside⟩

theorem Remembers.not_exists?_of_cell? (remembers : history.Remembers memory) {extended : Bool}
    (missing : history.cell? extended address = none) :
    ¬ memory.exists? (if extended then address else address - 1) = true := by
  unfold cell? at missing
  dsimp only at missing
  rw [Memory.exists?_iff, remembers.size]
  intro inside
  rw [if_pos inside] at missing
  cases missing

theorem Remembers.getElem? (remembers : history.Remembers memory) {cell : Nat}
    (inside : memory.exists? cell = true) :
    memory.cells[cell]? = some (history.lastWritten cell) := by
  have below := (Memory.exists?_iff.mp inside).2
  rw [remembers.size] at below
  rw [remembers cell]
  exact if_pos (Int.ofNat_lt.mp below)

end MemoryHistory

end LineScript
