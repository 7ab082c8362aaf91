import RootedHeap.Proofs.HeapCalls

/-!
# How a heap keeps account of its slots

Whatever calls are made on a heap, each of its slots is accounted for (`Heap.Accounted`): it is
occupied, or on the free list once, or retired. The count of live objects is that of occupied slots
and of all objects that sweeping by itself has reclaimed so far, since that leaves the count to its
caller; the flags that marking by itself leaves over do not matter. So the count never falls below
what a collection reclaims, and an object is never put where another one is
(`Heap.slots_accounted`).
-/

namespace RootedHeap

namespace Heap

/-- What an answer says that sweeping by itself has reclaimed. -/
def sweptCount : Except HeapError Reply → Nat
  | .ok (.swept count) => count
  | .ok (.allocated _) | .ok .done | .ok (.collected _) | .error _ => 0

/-- What calls of sweeping by itself have reclaimed, taken together. -/
def sweptTotal (heap : Heap) (calls : List Call) : Nat :=
  ((heap.replies calls).map sweptCount).sum

/-- The slots of a heap are accounted for, when sweeping by itself has reclaimed a number of
objects. -/
structure Accounted (heap : Heap) (swept : Nat) : Prop where
  freeList : heap.slab.FreeList heap.free
  live_eq : heap.live = heap.slab.countOccupied + swept

section
variable {heap heap' : Heap} {call : Call} {result : Except HeapError Reply} {swept : Nat}

/-! ## One call -/

/-- A heap without objects is accounted for. -/
theorem accounted_empty (threshold : Nat) (cap : Option Nat) :
    (empty threshold cap).Accounted 0 where
  freeList := freeList_empty threshold cap
  live_eq := rfl

/-- A collection reclaims no more than is counted as live. -/
theorem Accounted.reclaimed_le (ha : heap.Accounted swept) (roots : List Handle) :
    (heap.collect roots).1.reclaimed ≤ heap.live := by
  have hcount := countOccupied_collect heap roots
  have hlive := ha.live_eq
  omega

/-- An effect of a call keeps a heap accounted for. -/
theorem Effect.accounted (he : Effect heap call result heap') (ha : heap.Accounted swept) :
    heap'.Accounted (swept + sweptCount result) := by
  refine ⟨he.freeList ha.freeList, ?_⟩
  have hlive := ha.live_eq
  cases he with
  | refused => exact hlive
  | @allocated object hfull =>
    have hput := Slab.countOccupied_put (vacant_nextSlot ha.freeList) object
    simp only [alloc_eq hfull, sweptCount, hput]
    omega
  | headSet hv hp | tailSet hv hp =>
    have hpair : (heap.slab.object? _).isSome = true := Option.isSome_iff_exists.2 ⟨_, hp⟩
    exact hlive.trans (by rw [← Slab.countOccupied_setObject hpair]; rfl)
  | collected roots =>
    have hcount := countOccupied_collect heap roots
    have hle := ha.reclaimed_le roots
    show heap.live - (heap.collect roots).1.reclaimed = _
    simp only [sweptCount]
    omega
  | marked roots =>
    have hcount : (heap.slab.mark roots).countOccupied = heap.slab.countOccupied :=
      Slab.countOccupied_mark
    exact hlive.trans (by rw [← hcount]; rfl)
  -- Here the slots that are emptied are not taken off the count of live objects.
  | swept =>
    have hcount := Slab.countOccupied_sweep heap.slab
    show heap.live = heap.slab.sweep.countOccupied + (swept + heap.slab.countWhite)
    omega

/-- Only sweeping by itself answers with what it has reclaimed. -/
theorem Effect.sweptCount_eq_zero (he : Effect heap call result heap') (hne : call ≠ .sweep) :
    sweptCount result = 0 := by
  cases he with
  | refused | allocated | headSet | tailSet | collected | marked => rfl
  | swept => exact absurd rfl hne

/-! ## A run of calls -/

/-- Whatever calls are made, a heap is accounted for by what sweeping by itself has reclaimed. -/
theorem accounted_performAll (threshold : Nat) (cap : Option Nat) (calls : List Call) :
    ((empty threshold cap).performAll calls).Accounted
      ((empty threshold cap).sweptTotal calls) := by
  refine performAll_induct (P := fun heap answers => heap.Accounted (answers.map sweptCount).sum)
    (fun he ha => ?_) (accounted_empty threshold cap) calls
  rw [List.map_append, List.sum_append, List.map_singleton, List.sum_singleton]
  exact he.accounted ha

/-- Nothing is reclaimed by sweeping by itself in calls that never do so. -/
theorem sweptTotal_eq_zero {calls : List Call} (hcalls : Call.sweep ∉ calls) :
    heap.sweptTotal calls = 0 := by
  induction calls generalizing heap with
  | nil => rfl
  | cons call calls ih =>
    rw [List.mem_cons, not_or] at hcalls
    have hfirst := (perform_effect heap call).sweptCount_eq_zero (Ne.symm hcalls.1)
    have hrest : (heap.perform call).2.sweptTotal calls = 0 := ih hcalls.2
    show sweptCount _ + sweptTotal _ calls = 0
    rw [hfirst, hrest]

/-- In every heap that comes about by calls the free list names empty slots, each once, and every
empty slot that it leaves out is of the last generation. The count of live objects is that of
occupied slots and of those that sweeping by itself has emptied; so it is that of occupied slots if
sweeping is never called by itself. The next object is put where none is, and no collection takes
more off the count than is there. -/
theorem slots_accounted (threshold : Nat) (cap : Option Nat) (calls : List Call) :
    let heap := (empty threshold cap).performAll calls
    heap.free.Nodup ∧
    (∀ i ∈ heap.free, ∃ s, heap.slab[i]? = some s ∧ s.cell = none) ∧
    (∀ (i : Nat) (s : Slot), heap.slab[i]? = some s → s.cell = none → i ∉ heap.free →
      s.generation = Slot.lastGeneration) ∧
    heap.live = heap.slab.countOccupied + (empty threshold cap).sweptTotal calls ∧
    heap.slab.Vacant heap.nextSlot ∧
    (∀ roots, (heap.collect roots).1.reclaimed ≤ heap.live) ∧
    (Call.sweep ∉ calls → heap.live = heap.slab.countOccupied) := by
  intro heap
  have ha := accounted_performAll threshold cap calls
  refine ⟨ha.freeList.nodup, ha.freeList.empty, ha.freeList.retired, ha.live_eq,
    vacant_nextSlot ha.freeList, ha.reclaimed_le, fun hcalls => ?_⟩
  rw [ha.live_eq, sweptTotal_eq_zero hcalls]
  rfl

/-- Two objects of which one is swept away by itself: its slot is free, and the count stays at two.
A collection without such a sweep takes it off the count. -/
theorem slots_accounted_swept :
    0 ∈ ((empty 8 none).performAll
      [.alloc (.scalar 1), .alloc (.scalar 2), .mark [⟨1, 0⟩], .sweep]).free ∧
    (∃ s, ((empty 8 none).performAll [.alloc (.scalar 1), .alloc (.scalar 2), .mark [⟨1, 0⟩],
      .sweep]).slab[0]? = some s ∧ s.cell = none) ∧
    ((empty 8 none).performAll [.alloc (.scalar 1), .alloc (.scalar 2),
      .collect [⟨1, 0⟩]]).slab.countOccupied = 1 := by
  have hlist : ((empty 8 none).performAll
      [.alloc (.scalar 1), .alloc (.scalar 2), .mark [⟨1, 0⟩], .sweep]).free = [0] := by
    decide +kernel
  have hfree : 0 ∈ ((empty 8 none).performAll
      [.alloc (.scalar 1), .alloc (.scalar 2), .mark [⟨1, 0⟩], .sweep]).free := by
    rw [hlist]
    exact .head _
  obtain ⟨-, hempty, -⟩ := slots_accounted 8 none
    [.alloc (.scalar 1), .alloc (.scalar 2), .mark [⟨1, 0⟩], .sweep]
  have hlive : ((empty 8 none).performAll
      [.alloc (.scalar 1), .alloc (.scalar 2), .collect [⟨1, 0⟩]]).live = 1 := by decide +kernel
  obtain ⟨-, -, -, -, -, -, hcount⟩ := slots_accounted 8 none
    [.alloc (.scalar 1), .alloc (.scalar 2), .collect [⟨1, 0⟩]]
  exact ⟨hfree, hempty 0 hfree, (hcount (by decide)).symm.trans hlive⟩

end

end Heap

end RootedHeap
