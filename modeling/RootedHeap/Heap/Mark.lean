import RootedHeap.Heap.Slab

/-!
# Marking

Marking flags every live object that a list of roots reaches. It keeps the handles whose fields
have still to be followed in a list, so its depth is not that of the object graph, and it flags an
object when it puts its handle there (`Marking.reach`), so none is put there twice. That is also why
it ends: the white objects and the pending handles together are not changed by reaching an object
(`Marking.work_reachAll`) and become one fewer at each step (`Marking.work_follow`).
-/

namespace RootedHeap

/-- A slab in the course of marking: the handles in `pending` are flagged, and their fields have
still to be followed. -/
structure Marking where
  slab : Slab
  pending : List Handle

namespace Marking

/-- Reaches a handle: a white object is flagged and becomes pending, anything else is passed
over. -/
def reach (m : Marking) (h : Handle) : Marking :=
  if m.slab.isWhite h then ⟨m.slab.flag h, h :: m.pending⟩ else m

/-- Reaches handles in order. -/
def reachAll (m : Marking) (hs : List Handle) : Marking := hs.foldl reach m

/-- What is left to do: white objects and pending handles. -/
def work (m : Marking) : Nat := m.slab.countWhite + m.pending.length

/-- A handle that becomes pending was white. -/
theorem work_reach (m : Marking) (h : Handle) : (m.reach h).work = m.work := by
  unfold reach work
  split
  · have := Slab.countWhite_flag ‹_›
    simp only [List.length_cons]
    omega
  · rfl

/-- Handles that become pending were white. -/
theorem work_reachAll (m : Marking) (hs : List Handle) : (m.reachAll hs).work = m.work := by
  induction hs generalizing m with
  | nil => rfl
  | cons h hs ih => exact (ih (m.reach h)).trans (work_reach m h)

/-- Follows the fields of a handle, while others are still pending. -/
def follow (slab : Slab) (h : Handle) (rest : List Handle) : Marking :=
  reachAll ⟨slab, rest⟩ (slab.fields h)

/-- Following a handle's fields takes it off the work. -/
theorem work_follow (slab : Slab) (h : Handle) (rest : List Handle) :
    (follow slab h rest).work + 1 = work ⟨slab, h :: rest⟩ := by
  rw [follow, work_reachAll]
  simp only [work, List.length_cons]
  omega

/-- Follows the fields of pending handles, the last one first, until none is pending. -/
def run (m : Marking) : Slab :=
  match m with
  | ⟨slab, []⟩ => slab
  | ⟨slab, h :: rest⟩ => run (follow slab h rest)
termination_by m.work
decreasing_by
  have := work_follow slab h rest
  omega

end Marking

/-- The slab with every live object flagged that the roots reach through white objects. -/
def Slab.mark (slab : Slab) (roots : List Handle) : Slab :=
  (Marking.reachAll ⟨slab, []⟩ roots).run

end RootedHeap
