import RootedHeap.Heap.Slab

/-!
# Sweeping

Sweeping empties every slot whose object marking has not reached and clears the flags of the rest
(`Slot.swept`). An emptied slot moves on to its next generation and may be used again, unless there
is no next one: then it is retired, so that no handle names two objects (`Slot.isRecyclable`).
-/

namespace RootedHeap

namespace Slot

/-- The generation after which a slot is retired. -/
def lastGeneration : UInt32 := 4294967295

/-- The generation of a slot after its object is reclaimed. -/
def nextGeneration (s : Slot) : UInt32 :=
  if s.generation = lastGeneration then s.generation else s.generation + 1

/-- The slot after a sweep. -/
def swept (s : Slot) : Slot :=
  match s.cell with
  | none => s
  | some ⟨true, object⟩ => { s with cell := some ⟨false, object⟩ }
  | some ⟨false, _⟩ => { generation := s.nextGeneration, cell := none }

/-- Whether a sweep empties the slot and leaves it fit for another object. -/
def isRecyclable (s : Slot) : Bool := s.isWhite && s.generation != lastGeneration

end Slot

namespace Slab

/-- Every slot after a sweep. -/
def sweep (slab : Slab) : Slab := slab.map Slot.swept

/-- The slots that a sweep makes fit for another object, in slot order. -/
def recyclable (slab : Slab) : List Nat :=
  (List.range slab.size).filter fun i => slab[i]?.any (·.isRecyclable)

end Slab

end RootedHeap
