import RootedHeap.Object

/-!
# The slab of slots

A `Slab` is the array of slots of a heap. A slot has a generation and, while it is occupied, a cell
with an object and the flag that marking sets. A handle names the cell in its slot if it is of the
slot's current generation (`Slab.cell?`). Marking changes flags only: `Slab.flag` is the one update
that it makes, and `Slab.countWhite_flag` says that each makes one white slot fewer.
-/

namespace RootedHeap

/-- An object in a slot, and whether marking has reached it. -/
structure Cell where
  reached : Bool
  object : Object
deriving DecidableEq, Repr

/-- The cell with its flag set. -/
def Cell.flag (c : Cell) : Cell := { c with reached := true }

/-- A place for an object. -/
structure Slot where
  generation : UInt32 := 0
  cell : Option Cell := none
deriving DecidableEq, Repr, Inhabited

namespace Slot

/-- Whether the slot holds an object. -/
def isOccupied (s : Slot) : Bool := s.cell.isSome

/-- Whether the slot holds an object that marking has not reached. -/
def isWhite (s : Slot) : Bool := s.cell.any (!·.reached)

/-- The slot with its object, if any, flagged. -/
def flag (s : Slot) : Slot := { s with cell := s.cell.map Cell.flag }

end Slot

/-- The slots of a heap, each at its index. -/
abbrev Slab := Array Slot

namespace Slab

/-- The cell that a handle names, if it is live. -/
def cell? (slab : Slab) (h : Handle) : Option Cell :=
  (slab[h.index]?.filter (·.generation = h.generation)).bind (·.cell)

/-- The object that a handle names, if it is live. -/
def object? (slab : Slab) (h : Handle) : Option Object := (slab.cell? h).map (·.object)

/-- The handle of the object in a slot, if it is occupied. -/
def handleAt? (slab : Slab) (index : Nat) : Option Handle :=
  (slab[index]?.filter (·.isOccupied)).map fun slot => ⟨index, slot.generation⟩

/-- The generation that an object put into a slot gets; a slot yet to be made starts at zero. -/
def generationAt (slab : Slab) (index : Nat) : UInt32 := (slab[index]?.map (·.generation)).getD 0

/-- The handles of the live objects, in slot order. -/
def handles (slab : Slab) : List Handle := (List.range slab.size).filterMap slab.handleAt?

/-- The live objects with their handles, in slot order. -/
def objects (slab : Slab) : List (Handle × Object) :=
  slab.handles.filterMap fun h => (slab.object? h).map (h, ·)

/-- The number of occupied slots. -/
def countOccupied (slab : Slab) : Nat := slab.countP (·.isOccupied)

/-- The number of occupied slots whose flag is clear. -/
def countWhite (slab : Slab) : Nat := slab.countP (·.isWhite)

/-- Whether a handle names a live object whose flag is clear. -/
def isWhite (slab : Slab) (h : Handle) : Bool := (slab.cell? h).any (!·.reached)

/-- The handles in the object that a handle names; none if it is dangling. -/
def fields (slab : Slab) (h : Handle) : List Handle :=
  ((slab.object? h).map Object.fields).getD []

/-- Sets the flag of the object in a handle's slot. -/
def flag (slab : Slab) (h : Handle) : Slab := slab.modify h.index Slot.flag

/-- Puts an object with a clear flag into a slot, the next one if the index is the slab's size. -/
def put (slab : Slab) (index : Nat) (object : Object) : Slab :=
  if index < slab.size then
    slab.modify index fun slot => { slot with cell := some ⟨false, object⟩ }
  else
    slab.push { cell := some ⟨false, object⟩ }

/-- Replaces the object that a handle names; its flag stays. -/
def setObject (slab : Slab) (h : Handle) (object : Object) : Slab :=
  slab.modify h.index fun slot => { slot with cell := slot.cell.map ({ · with object }) }

/-- A white handle's slot is within the slab and white. -/
theorem isWhite_slot {slab : Slab} {h : Handle} (hw : slab.isWhite h = true) :
    ∃ hi : h.index < slab.size, slab[h.index].isWhite = true := by
  unfold isWhite cell? at hw
  by_cases hi : h.index < slab.size
  · refine ⟨hi, ?_⟩
    rw [Array.getElem?_eq_getElem hi, Option.filter_some] at hw
    split at hw
    · simpa [Slot.isWhite] using hw
    · simp at hw
  · rw [Array.getElem?_eq_none (by omega)] at hw
    simp at hw

/-- To flag a white object leaves one white object fewer. -/
theorem countWhite_flag {slab : Slab} {h : Handle} (hw : slab.isWhite h = true) :
    (slab.flag h).countWhite + 1 = slab.countWhite := by
  obtain ⟨hi, hs⟩ := isWhite_slot hw
  have hflag : (slab[h.index].flag).isWhite = false := by
    cases hc : slab[h.index].cell <;> simp [Slot.flag, Slot.isWhite, Cell.flag, hc]
  have hpos : 0 < slab.countP (·.isWhite) :=
    Array.countP_pos_iff.2 ⟨slab[h.index], Array.getElem_mem hi, hs⟩
  have hset : slab.flag h = slab.set h.index slab[h.index].flag hi := by
    simp only [flag, Array.modify, Array.modifyM, hi, ↓reduceDIte, Id.run, bind, pure]
  rw [hset, countWhite, countWhite, Array.countP_set, if_pos hs, if_neg (by simp [hflag])]
  omega

end Slab

end RootedHeap
