import RootedHeap.Heap.Mark
import RootedHeap.Heap.Sweep

/-!
# The heap

A `Heap` is a slab with the list of its slots that are free for use again, the count of live
objects, the count at which a collection is due, and an optional cap on live objects. It never
decides by itself to collect: `Heap.alloc` checks the cap only, and whoever allocates looks at
`Heap.shouldCollect` first. A cycle (`Heap.collect`) marks from the roots, sweeps, and sets the
threshold anew: to twice what survives, or to where it began if nothing does. Each operation gives
its answer and the heap after it; one that is refused gives back the heap it was given.
-/

namespace RootedHeap

/-- Why a heap operation was refused. -/
inductive HeapError where
  /-- The handle or slot names no live object. -/
  | dangling (index : Nat)
  /-- The object has no fields to set. -/
  | notAPair (index : Nat)
  /-- The cap on live objects is reached. -/
  | exhausted (live : Nat)
deriving DecidableEq, Repr

/-- The record of one collection: the live objects before it, those reclaimed, those that remain,
and the threshold in force after it. -/
structure Cycle where
  before : Nat
  reclaimed : Nat
  remaining : Nat
  threshold : Nat
deriving DecidableEq, Repr

/-- A slab of objects with the means to put in and reclaim them. Of `free`, the first slot is used
next. -/
structure Heap where
  slab : Slab := #[]
  free : List Nat := []
  live : Nat := 0
  threshold : Nat
  initialThreshold : Nat
  cap : Option Nat := none
deriving DecidableEq, Repr

namespace Heap

/-- The threshold of a heap for which none is given. -/
def defaultThreshold : Nat := 8

/-- A heap without objects. -/
def empty (threshold : Nat) (cap : Option Nat) : Heap :=
  { threshold, initialThreshold := threshold, cap }

/-- The object that a handle names, if it is live. -/
def object? (heap : Heap) (h : Handle) : Option Object := heap.slab.object? h

/-- Whether a handle names a live object. -/
def contains (heap : Heap) (h : Handle) : Bool := (heap.object? h).isSome

/-- The handle of the object in a slot, if it is occupied. -/
def resolve? (heap : Heap) (index : Nat) : Option Handle := heap.slab.handleAt? index

/-- The live objects with their handles, in slot order. -/
def objects (heap : Heap) : List (Handle × Object) := heap.slab.objects

/-- Whether a collection is due before the next allocation. -/
def shouldCollect (heap : Heap) : Bool := heap.threshold ≤ heap.live

/-- Whether the cap on live objects is reached. -/
def isFull (heap : Heap) : Bool := heap.cap.any (· ≤ heap.live)

/-- The slot that the next object is put into: the first free one, or else a new one. -/
def nextSlot (heap : Heap) : Nat := heap.free.head?.getD heap.slab.size

/-- The handle that the next object gets. -/
def nextHandle (heap : Heap) : Handle := ⟨heap.nextSlot, heap.slab.generationAt heap.nextSlot⟩

/-- Puts an object into a slot and names it. -/
def alloc (heap : Heap) (object : Object) : Except HeapError Handle × Heap :=
  if heap.isFull then
    (.error (.exhausted heap.live), heap)
  else
    (.ok heap.nextHandle,
      { heap with
        slab := heap.slab.put heap.nextSlot object
        free := heap.free.tail
        live := heap.live + 1 })

/-- Changes the fields of a pair so that one of them becomes `value`, which has to be live. That is
looked at before the pair is. -/
def setField (heap : Heap) (pair value : Handle) (change : Handle → Handle → Object) :
    Except HeapError Unit × Heap :=
  if heap.contains value then
    match heap.object? pair with
    | none => (.error (.dangling pair.index), heap)
    | some (.scalar _) => (.error (.notAPair pair.index), heap)
    | some (.pair head tail) =>
      (.ok (), { heap with slab := heap.slab.setObject pair (change head tail) })
  else
    (.error (.dangling value.index), heap)

/-- Makes `value` the head of a pair. -/
def setHead (heap : Heap) (pair value : Handle) : Except HeapError Unit × Heap :=
  heap.setField pair value fun _ tail => .pair value tail

/-- Makes `value` the tail of a pair. -/
def setTail (heap : Heap) (pair value : Handle) : Except HeapError Unit × Heap :=
  heap.setField pair value fun head _ => .pair head value

/-- Flags every live object that the roots reach through objects without a flag. -/
def mark (heap : Heap) (roots : List Handle) : Heap :=
  { heap with slab := heap.slab.mark roots }

/-- Reclaims every object without a flag, clears the flags of the rest, and says how many it
reclaimed. The slots that can be used again go before the free ones, the last of them first. The
count of live objects is left to the caller. -/
def sweep (heap : Heap) : Nat × Heap :=
  (heap.slab.countWhite,
    { heap with slab := heap.slab.sweep, free := heap.slab.recyclable.reverse ++ heap.free })

/-- The threshold after a cycle that leaves `remaining` objects. -/
def nextThreshold (heap : Heap) (remaining : Nat) : Nat :=
  if remaining = 0 then heap.initialThreshold else 2 * remaining

/-- Runs one cycle: marks from the roots, sweeps, and sets the threshold anew. -/
def collect (heap : Heap) (roots : List Handle) : Cycle × Heap :=
  let before := heap.live
  let (reclaimed, swept) := (heap.mark roots).sweep
  let remaining := before - reclaimed
  let threshold := swept.nextThreshold remaining
  (⟨before, reclaimed, remaining, threshold⟩, { swept with live := remaining, threshold })

end Heap

namespace HeapError

/-- The sentence that reports the error. -/
def message : HeapError → String
  | dangling index => "#" ++ toString index ++ " does not refer to a live object"
  | notAPair index => "#" ++ toString index ++ " is not a pair"
  | exhausted live => "heap exhausted with " ++ toString live ++ " live objects"

/-- The error's identifier in reports. -/
def code : HeapError → String
  | dangling _ => "marksweep::heap::dangling"
  | notAPair _ => "marksweep::heap::not_a_pair"
  | exhausted _ => "marksweep::heap::exhausted"

/-- What may have led to the error. -/
def help? : HeapError → Option String
  | dangling _ =>
    some "the object was reclaimed by a sweep, or the handle belongs to another context"
  | notAPair _ => none
  | exhausted _ => none

end HeapError

end RootedHeap
