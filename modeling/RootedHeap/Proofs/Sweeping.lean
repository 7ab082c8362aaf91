import RootedHeap.Proofs.FreeSlots
import RootedHeap.Proofs.WhitePaths

/-!
# The pass of a sweep

A sweep is one pass over the slots. It visits each once, in their order, and is done with a slot
when it leaves it (`Sweeping.visit`). `Sweeping.Invariant` says how things stand on the way: the
slots before the next one are swept, those from it on are as they were, the free list has grown by
the slots before it that are fit for use again, and what has been reclaimed is counted. A visit
keeps it, so the pass ends with the heap and the count of `Heap.sweep` (`Sweeping.visitAll_range`).

What becomes of a slot is one of four things (`Slot.Sweeps`). `Heap.sweep_exact` puts this together
with what becomes of the rest of the heap, whatever flags there are.
-/

namespace RootedHeap

/-- What a sweep makes of a slot. -/
inductive Slot.Sweeps : Slot → Slot → Prop
  /-- A slot without an object is left as it is. -/
  | empty {g : UInt32} : Sweeps ⟨g, none⟩ ⟨g, none⟩
  /-- An object with a flag stays, without the flag. -/
  | unflag {g : UInt32} {o : Object} : Sweeps ⟨g, some ⟨true, o⟩⟩ ⟨g, some ⟨false, o⟩⟩
  /-- An object without a flag is reclaimed, and the slot goes on to its next generation. -/
  | recycle {g g' : UInt32} {o : Object} : g'.toNat = g.toNat + 1 →
      Sweeps ⟨g, some ⟨false, o⟩⟩ ⟨g', none⟩
  /-- In a slot of the last generation it is reclaimed too, but the slot has none to go on to. -/
  | retire {o : Object} : Sweeps ⟨lastGeneration, some ⟨false, o⟩⟩ ⟨lastGeneration, none⟩

/-- The slots before an index that have a property, in their order. -/
def Slab.indicesBelow (slab : Slab) (n : Nat) (p : Slot → Bool) : List Nat :=
  (List.range n).filter fun i => slab[i]?.any p

/-- The heap with another slot at an index. -/
def Heap.setSlot (heap : Heap) (i : Nat) (s : Slot) : Heap :=
  { heap with slab := heap.slab.setIfInBounds i s }

/-- A sweep on its way: the heap as it is now, and how many objects have been reclaimed. -/
structure Sweeping where
  heap : Heap
  reclaimed : Nat

namespace Sweeping

/-- Visits a slot. One without an object is passed over, and an object with a flag loses it. An
object without one is reclaimed; its slot goes on to the next generation and, in front, on the free
list, but in the last generation it does neither. -/
def visit (now : Sweeping) (i : Nat) : Sweeping :=
  match now.heap.slab[i]? with
  | some ⟨generation, some ⟨true, object⟩⟩ =>
    { now with heap := now.heap.setSlot i ⟨generation, some ⟨false, object⟩⟩ }
  | some ⟨generation, some ⟨false, _⟩⟩ =>
    if generation = Slot.lastGeneration then
      ⟨now.heap.setSlot i ⟨generation, none⟩, now.reclaimed + 1⟩
    else
      ⟨{ now.heap.setSlot i ⟨generation + 1, none⟩ with free := i :: now.heap.free },
        now.reclaimed + 1⟩
  | some ⟨_, none⟩ | none => now

/-- Visits slots in order. -/
def visitAll (now : Sweeping) (indices : List Nat) : Sweeping := indices.foldl visit now

/-- What holds between a heap and its sweep when the slots before an index have been visited. -/
structure Invariant (heap : Heap) (n : Nat) (now : Sweeping) : Prop where
  /-- The slots before the index are swept, and the others are as they were. -/
  slots : ∀ i : Nat, now.heap.slab[i]? =
    if i < n then heap.slab[i]?.map Slot.swept else heap.slab[i]?
  /-- The slots that are fit for use again have come on the free list one by one. -/
  free : now.heap.free = (heap.slab.indicesBelow n Slot.isRecyclable).reverse ++ heap.free
  /-- The white objects before the index have been reclaimed. -/
  reclaimed : now.reclaimed = (heap.slab.indicesBelow n Slot.isWhite).length
  /-- Nothing else of the heap is changed. -/
  rest : { now.heap with slab := heap.slab, free := heap.free } = heap

end Sweeping

/-- What a sweep makes of a slot is one of four things. -/
theorem Slot.sweeps_swept (s : Slot) : s.Sweeps s.swept := by
  obtain ⟨g, cell⟩ := s
  rcases cell with _ | ⟨reached, o⟩
  · exact .empty
  · cases reached with
    | true => exact .unflag
    | false =>
      by_cases hlast : g = lastGeneration
      · subst hlast
        exact .retire
      · have hswept : swept ⟨g, some ⟨false, o⟩⟩ = ⟨g + 1, none⟩ := by
          simp [swept, nextGeneration, hlast]
        rw [hswept]
        exact .recycle (Slab.toNat_succ_generation (s := ⟨g, none⟩) hlast)

namespace Slab

section
variable {slab : Slab} {p : Slot → Bool} {i n : Nat} {s : Slot} {h : Handle}

/-- The indices of the slots that have a property. -/
theorem mem_indicesBelow_size :
    i ∈ slab.indicesBelow slab.size p ↔ ∃ s, slab[i]? = some s ∧ p s = true := by
  simp only [indicesBelow, List.mem_filter, List.mem_range, Option.any_eq_true]
  exact ⟨fun hi => hi.2, fun ⟨s, hs, hp⟩ => ⟨(Array.getElem?_eq_some_iff.1 hs).1, s, hs, hp⟩⟩

/-- The slots before the next index are those before this one and, if it has the property, the slot
at this one. -/
theorem indicesBelow_succ (hs : slab[n]? = some s) :
    slab.indicesBelow (n + 1) p = slab.indicesBelow n p ++ if p s = true then [n] else [] := by
  rw [indicesBelow, List.range_succ, List.filter_append, indicesBelow]
  by_cases hp : p s = true <;> simp [hs, hp]

/-- The slots that have a property are counted. -/
theorem length_indicesBelow_size (slab : Slab) (p : Slot → Bool) :
    (slab.indicesBelow slab.size p).length = slab.countP p := by
  rw [indicesBelow, ← List.countP_eq_length_filter, countP_range]

/-- As many slots as are counted have a property. -/
theorem ncard_slots (slab : Slab) (p : Slot → Bool) :
    {i : Nat | ∃ s, slab[i]? = some s ∧ p s = true}.ncard = slab.countP p := by
  have hset : {i : Nat | ∃ s, slab[i]? = some s ∧ p s = true} =
      ((slab.indicesBelow slab.size p).toFinset : Set Nat) := by
    ext i
    simp [mem_indicesBelow_size]
  have hnodup : (slab.indicesBelow slab.size p).Nodup := List.nodup_range.filter _
  rw [hset, Set.ncard_coe_finset, List.toFinset_card_of_nodup hnodup, length_indicesBelow_size]

/-- A sweep leaves those objects to their handles that have a flag. -/
theorem isSome_object?_sweep : (slab.sweep.object? h).isSome = slab.isFlagged h := by
  rw [Bool.eq_iff_iff, isFlagged_iff, object?_sweep]
  cases slab.isWhite h <;> simp

end

end Slab

namespace Sweeping

section
variable {heap : Heap} {now : Sweeping} {i n : Nat} {s : Slot}

/-! ## One visit -/

/-- A visit sweeps the slot, puts it on the free list if it is fit for use again, and counts its
object if it was white. -/
theorem visit_eq (hs : now.heap.slab[i]? = some s) : now.visit i =
    ⟨{ now.heap with
        slab := now.heap.slab.setIfInBounds i s.swept
        free := if s.isRecyclable = true then i :: now.heap.free else now.heap.free },
      now.reclaimed + if s.isWhite = true then 1 else 0⟩ := by
  obtain ⟨g, cell⟩ := s
  rcases cell with _ | ⟨reached, o⟩
  -- A slot that is passed over is the same as one that is written as it is.
  · have hself : now.heap.slab.setIfInBounds i ⟨g, none⟩ = now.heap.slab := by
      obtain ⟨hi, heq⟩ := Array.getElem?_eq_some_iff.1 hs
      rw [Array.setIfInBounds_def, dif_pos hi, ← heq, Array.set_getElem_self]
    simp [visit, hs, Slot.swept, Slot.isRecyclable, Slot.isWhite, hself]
  · cases reached with
    | true => simp [visit, hs, Heap.setSlot, Slot.swept, Slot.isRecyclable, Slot.isWhite]
    | false =>
      by_cases hlast : g = Slot.lastGeneration <;>
        simp [visit, hs, hlast, Heap.setSlot, Slot.swept, Slot.nextGeneration, Slot.isRecyclable,
          Slot.isWhite]

/-- A visit keeps the invariant. -/
theorem Invariant.visit (hi : Invariant heap n now) (hs : heap.slab[n]? = some s) :
    Invariant heap (n + 1) (now.visit n) := by
  have hnow : now.heap.slab[n]? = some s := by
    rw [hi.slots, if_neg (Nat.lt_irrefl n), hs]
  rw [visit_eq hnow]
  refine ⟨fun i => ?_, ?_, ?_, hi.rest⟩
  · show (now.heap.slab.setIfInBounds n s.swept)[i]? = _
    -- The slot just visited is the one that changes sides.
    rcases Nat.lt_trichotomy i n with hlt | rfl | hgt
    · rw [Array.getElem?_setIfInBounds_ne (by omega), hi.slots, if_pos hlt, if_pos (by omega)]
    · have hsize := (Array.getElem?_eq_some_iff.1 hnow).1
      rw [Array.getElem?_setIfInBounds_self_of_lt hsize, if_pos (by omega), hs]
      rfl
    · rw [Array.getElem?_setIfInBounds_ne (by omega), hi.slots, if_neg (by omega),
        if_neg (by omega)]
  · rw [Slab.indicesBelow_succ hs, List.reverse_append, hi.free]
    split <;> rfl
  · show now.reclaimed + _ = _
    rw [Slab.indicesBelow_succ hs, List.length_append, hi.reclaimed]
    split <;> rfl

/-! ## The pass -/

/-- The pass keeps the invariant from the first slot on. -/
theorem invariant_visitAll (heap : Heap) (hn : n ≤ heap.slab.size) :
    Invariant heap n (visitAll ⟨heap, 0⟩ (List.range n)) := by
  induction n with
  | zero => exact ⟨fun i => rfl, rfl, rfl, rfl⟩
  | succ n ih =>
    have hs : heap.slab[n]? = some heap.slab[n] := Array.getElem?_eq_getElem hn
    rw [List.range_succ, visitAll, List.foldl_append]
    exact (ih (by omega)).visit hs

/-- When all slots have been visited, they are those of the sweep. -/
theorem Invariant.slab_eq (hi : Invariant heap heap.slab.size now) :
    now.heap.slab = heap.slab.sweep := by
  apply Array.ext_getElem?
  intro i
  rw [hi.slots, Slab.getElem?_sweep]
  split
  · rfl
  · next hge => rw [Array.getElem?_eq_none (by omega), Option.map_none]

/-- When all slots have been visited, the heap is that of the sweep. -/
theorem Invariant.heap_eq (hi : Invariant heap heap.slab.size now) :
    now.heap = heap.sweep.2 := by
  have hrest : now.heap = { heap with slab := now.heap.slab, free := now.heap.free } :=
    congrArg (fun heap : Heap => { heap with slab := now.heap.slab, free := now.heap.free }) hi.rest
  rw [hrest, hi.slab_eq, hi.free]
  rfl

/-- The pass over all slots comes to the sweep. -/
theorem visitAll_range (heap : Heap) :
    visitAll ⟨heap, 0⟩ (List.range heap.slab.size) = ⟨heap.sweep.2, heap.sweep.1⟩ := by
  have hi := invariant_visitAll heap (Nat.le_refl heap.slab.size)
  have hreclaimed := hi.reclaimed.trans (Slab.length_indicesBelow_size heap.slab _)
  exact congrArg₂ Sweeping.mk hi.heap_eq hreclaimed

end

end Sweeping

/-- A sweep is one pass over the slots, in their order, and makes of each what `Slot.Sweeps` says.
It gives the number of those that it empties, which are those with an object that has no flag. If
they have a generation to go on to, they come on the free list in ascending order, each in front of
the ones before it and of all that were free. Nothing else of the heap is changed. Afterwards no
object has a flag, and a handle names an object if it named one that had a flag. -/
theorem Heap.sweep_exact (heap : Heap) :
    let swept := heap.sweep.2
    Sweeping.visitAll ⟨heap, 0⟩ (List.range heap.slab.size) = ⟨swept, heap.sweep.1⟩ ∧
    (∀ i : Nat, Option.Rel Slot.Sweeps heap.slab[i]? swept.slab[i]?) ∧
    heap.sweep.1 = {i : Nat | ∃ s, heap.slab[i]? = some s ∧ s.isWhite = true}.ncard ∧
    (∃ recycled : List Nat, recycled.Pairwise (· < ·) ∧
      (∀ i, i ∈ recycled ↔ ∃ s, heap.slab[i]? = some s ∧ s.isWhite = true ∧
        s.generation ≠ Slot.lastGeneration) ∧
      swept.free = recycled.reverse ++ heap.free) ∧
    { swept with slab := heap.slab, free := heap.free } = heap ∧
    swept.slab.Clear ∧
    ∀ h, swept.contains h = heap.slab.isFlagged h := by
  intro swept
  refine ⟨Sweeping.visitAll_range heap, fun i => ?_, (Slab.ncard_slots heap.slab _).symm, ?_, rfl,
    Slab.clear_sweep heap.slab, fun h => Slab.isSome_object?_sweep⟩
  · show Option.Rel Slot.Sweeps heap.slab[i]? heap.slab.sweep[i]?
    rw [Slab.getElem?_sweep]
    cases heap.slab[i]? with
    | none => exact .none
    | some s => exact .some (Slot.sweeps_swept s)
  · refine ⟨heap.slab.recyclable, ?_, fun i => Slab.mem_recyclable, rfl⟩
    exact List.pairwise_lt_range.filter _

/-- Of five slots one is free, and one has a pair with a flag. The other three are emptied, but the
one of the last generation does not come on the free list. -/
theorem Heap.sweep_exact_retired :
    let heap : Heap :=
      { slab := #[⟨0, some ⟨false, .scalar 1⟩⟩, ⟨0, some ⟨true, .pair ⟨0, 0⟩ ⟨9, 0⟩⟩⟩, ⟨7, none⟩,
          ⟨4294967295, some ⟨false, .scalar 2⟩⟩, ⟨2, some ⟨false, .pair ⟨4, 2⟩ ⟨1, 0⟩⟩⟩]
        free := [2]
        live := 4
        threshold := 8
        initialThreshold := 8 }
    {i : Nat | ∃ s, heap.slab[i]? = some s ∧ s.isWhite = true}.ncard = 3 ∧
    Option.Rel Slot.Sweeps (some ⟨4294967295, some ⟨false, .scalar 2⟩⟩) heap.sweep.2.slab[3]? ∧
    (∃ recycled : List Nat, recycled.Pairwise (· < ·) ∧ 3 ∉ recycled ∧
      [4, 0, 2] = recycled.reverse ++ heap.free) ∧
    heap.sweep.2.contains ⟨1, 0⟩ = true ∧ heap.sweep.2.contains ⟨4, 2⟩ = false := by
  intro heap
  obtain ⟨-, hslots, hcount, ⟨recycled, hsorted, hmem, hfree⟩, -, -, hcontains⟩ := heap.sweep_exact
  have hthree : heap.sweep.1 = 3 := by decide +kernel
  have hlist : heap.sweep.2.free = [4, 0, 2] := by decide +kernel
  have hretired : 3 ∉ recycled := by
    rw [hmem]
    rintro ⟨s, hs, -, hlast⟩
    cases hs
    exact hlast rfl
  have hflagged : heap.slab.isFlagged ⟨1, 0⟩ = true := by decide +kernel
  have hwhite : heap.slab.isFlagged ⟨4, 2⟩ = false := by decide +kernel
  exact ⟨hcount.symm.trans hthree, hslots 3, ⟨recycled, hsorted, hretired, hlist.symm.trans hfree⟩,
    (hcontains _).trans hflagged, (hcontains _).trans hwhite⟩

end RootedHeap
