import RootedHeap.Proofs.Handles

/-!
# The order in which slots are used

Objects go into free slots, the one that has become free last first, and into new slots only when
none is free. So as long as no sweep frees another slot, what handles the next objects get is
decided beforehand (`Heap.upcoming`): each allocation takes the first of them
(`Heap.upcoming_alloc`), and no other call changes them (`Heap.Effect.upcoming`). A sweep frees
slots in their order, so the last of those that a collection frees is used next
(`Heap.upcoming_collect`, `Heap.slots_used_in_order`).
-/

namespace RootedHeap

namespace Slab

section
variable {slab slab' : Slab} {free : List Nat} {i : Nat}

/-- Slabs of the same shape give objects the same generations. -/
theorem SameShape.generationAt (hs : SameShape slab slab') (i : Nat) :
    slab'.generationAt i = slab.generationAt i := by
  have hgeneration := congrArg (Option.map Prod.fst) (hs i)
  rw [Option.map_map, Option.map_map] at hgeneration
  exact congrArg (Option.getD · 0) hgeneration

/-- An object keeps the generation of its slot. -/
theorem generationAt_put (hi : i ≤ slab.size) (o : Object) (j : Nat) :
    (slab.put i o).generationAt j = slab.generationAt j := by
  rw [generationAt, getElem?_put hi]
  split
  · next heq => rw [← heq]; rfl
  · rfl

/-- A slot that is made fit for use goes on to its next generation. -/
theorem generationAt_sweep_of_mem (hi : i ∈ slab.recyclable) :
    slab.sweep.generationAt i = slab.generationAt i + 1 := by
  obtain ⟨s, hs, hw, hlast⟩ := mem_recyclable.1 hi
  rw [generationAt, generationAt, getElem?_sweep, hs, Option.map_some, swept_of_isWhite hw,
    Slot.nextGeneration, if_neg hlast]
  rfl

/-- A slot that is free already stays in its generation. -/
theorem FreeList.generationAt_sweep (hf : slab.FreeList free) (hi : i ∈ free) :
    slab.sweep.generationAt i = slab.generationAt i := by
  obtain ⟨s, hs, hc⟩ := hf.empty i hi
  rw [Slab.generationAt, Slab.generationAt, getElem?_sweep, hs, Option.map_some, swept_eq_self hc]

/-- A slot that is yet to be made is in its first generation. -/
theorem generationAt_of_le (hi : slab.size ≤ i) : slab.generationAt i = 0 := by
  rw [generationAt, Array.getElem?_eq_none hi]
  rfl

end

end Slab

namespace Heap

/-- A call may free slots: it runs a sweep. -/
def Call.frees : Call → Bool
  | .collect _ | .sweep => true
  | .alloc _ | .starved | .setHead _ _ | .setTail _ _ | .mark _ => false

/-- The handle of a place in a row that starts with given handles and goes on with new slots, after
the `size` slots that there are. -/
def turn (handles : List Handle) (size n : Nat) : Handle :=
  handles[n]?.getD ⟨size + (n - handles.length), 0⟩

/-- The handles of the free slots, that of the slot first which is used first. -/
def freeHandles (heap : Heap) : List Handle :=
  heap.free.map fun i => ⟨i, heap.slab.generationAt i⟩

/-- The handle that an object gets after `n` others if no slot becomes free before. -/
def upcoming (heap : Heap) (n : Nat) : Handle := turn heap.freeHandles heap.slab.size n

/-- The slots that a collection frees, in their order. -/
def freed (heap : Heap) (roots : List Handle) : List Nat :=
  (List.range heap.slab.size).filter fun i =>
    (heap.resolve? i).isSome && ((heap.collect roots).2.resolve? i).isNone

section
variable {heap heap' : Heap} {call : Call} {result : Except HeapError Reply}
  {roots : List Handle} {n : Nat}

/-! ## One call -/

/-- The next object gets the first of the upcoming handles. -/
theorem upcoming_zero (heap : Heap) : heap.upcoming 0 = heap.nextHandle := by
  unfold upcoming turn freeHandles nextHandle nextSlot
  cases heap.free with
  | nil =>
    have hnew := Slab.generationAt_of_le (Nat.le_refl heap.slab.size)
    simp [hnew]
  | cons i rest => rfl

/-- A row without its first handle. -/
theorem turn_cons (h : Handle) (handles : List Handle) (size n : Nat) :
    turn (h :: handles) size (n + 1) = turn handles size n := by
  rw [turn, turn, List.getElem?_cons_succ, List.length_cons, Nat.add_sub_add_right]

/-- A row of new slots without its first handle. -/
theorem turn_nil (size n : Nat) : turn [] (size + 1) n = turn [] size (n + 1) := by
  simp [turn, Nat.add_assoc, Nat.add_comm 1]

/-- After an object is allocated, the handles after the first are upcoming. -/
theorem upcoming_alloc (hf : heap.slab.FreeList heap.free) (hfull : heap.isFull = false)
    (o : Object) (n : Nat) : (heap.alloc o).2.upcoming n = heap.upcoming (n + 1) := by
  have hgenerations : ∀ j, (heap.slab.put heap.nextSlot o).generationAt j =
      heap.slab.generationAt j := Slab.generationAt_put (vacant_nextSlot hf).1 o
  have hsize := Slab.size_put heap.slab heap.nextSlot o
  simp only [alloc_eq hfull, upcoming, freeHandles, hgenerations]
  cases hfree : heap.free with
  | nil =>
    have hnext : heap.nextSlot = heap.slab.size := by rw [nextSlot, hfree]; rfl
    rw [if_neg (by omega)] at hsize
    rw [hsize]
    exact turn_nil _ _
  | cons i rest =>
    have hnext : heap.nextSlot = i := by rw [nextSlot, hfree]; rfl
    obtain ⟨s, hs, -⟩ := hf.empty i (hfree ▸ .head _)
    rw [hnext, if_pos (Array.getElem?_eq_some_iff.1 hs).1] at hsize
    rw [hnext, hsize]
    exact (turn_cons _ _ _ _).symm

/-- The upcoming handles do not depend on more of a slab than its shape. -/
theorem upcoming_congr {slab : Slab} (hs : Slab.SameShape heap.slab slab) (n : Nat) :
    upcoming { heap with slab } n = heap.upcoming n := by
  simp only [upcoming, freeHandles, hs.size_eq, hs.generationAt]

/-- What a call that frees no slot gives out are the next handles, and then those after them are
upcoming. -/
theorem Effect.upcoming (he : Effect heap call result heap') (hf : heap.slab.FreeList heap.free)
    (hframe : call.frees = false) :
    givenHandle result = (List.range (givenHandle result).length).map heap.upcoming ∧
    ∀ n, heap'.upcoming n = heap.upcoming ((givenHandle result).length + n) := by
  cases he with
  | refused => exact ⟨rfl, fun n => by rw [givenHandle, List.length_nil, Nat.zero_add]⟩
  | @allocated object hfull =>
    refine ⟨?_, fun n => ?_⟩
    · show [heap.nextHandle] = [heap.upcoming 0]
      rw [upcoming_zero]
    · rw [upcoming_alloc hf hfull, givenHandle, List.length_singleton, Nat.add_comm]
  | headSet | tailSet =>
    refine ⟨rfl, fun n => ?_⟩
    rw [givenHandle, List.length_nil, Nat.zero_add]
    exact upcoming_congr (Slab.sameShape_setObject _ _ _) n
  | marked roots =>
    refine ⟨rfl, fun n => ?_⟩
    rw [givenHandle, List.length_nil, Nat.zero_add]
    exact upcoming_congr (Slab.sameShape_mark _ roots) n
  | collected | swept => cases hframe

/-! ## A run of calls -/

/-- What calls that free no slot give out are the next handles, and then those after them are
upcoming. -/
theorem upcoming_performAll (hf : heap.slab.FreeList heap.free) {calls : List Call}
    (hframe : ∀ call ∈ calls, call.frees = false) :
    heap.issued calls = (List.range (heap.issued calls).length).map heap.upcoming ∧
    ∀ n, (heap.performAll calls).upcoming n = heap.upcoming ((heap.issued calls).length + n) := by
  induction calls generalizing heap with
  | nil => exact ⟨rfl, fun n => congrArg heap.upcoming (Nat.zero_add n).symm⟩
  | cons call calls ih =>
    have he := perform_effect heap call
    obtain ⟨hgiven, hnext⟩ := he.upcoming hf (hframe call (.head _))
    obtain ⟨hissued, hlater⟩ := ih (he.freeList hf) fun c hc => hframe c (.tail _ hc)
    have happend : heap.issued (call :: calls) =
        givenHandle (heap.perform call).1 ++ (heap.perform call).2.issued calls := rfl
    refine ⟨?_, fun n => ?_⟩
    · rw [happend, List.length_append, List.range_add, List.map_append, List.map_map, ← hgiven]
      congr 1
      rw [hissued, List.length_map, List.length_range]
      exact List.map_congr_left fun n _ => hnext n
    · rw [happend, List.length_append, Nat.add_assoc, ← hnext]
      exact hlater n

/-! ## After a collection -/

/-- A slot has a handle if it is occupied. -/
theorem isSome_resolve? (heap : Heap) (i : Nat) :
    (heap.resolve? i).isSome = heap.slab[i]?.any (·.isOccupied) := by
  rw [resolve?, Slab.handleAt?, Option.isSome_map]
  cases heap.slab[i]? with
  | none => rfl
  | some s => cases hs : s.isOccupied <;> simp [Option.filter, hs]

/-- A sweep empties the white slots among the occupied ones. -/
theorem isOccupied_and_swept (s : Slot) : (s.isOccupied && !s.swept.isOccupied) = s.isWhite := by
  obtain ⟨generation, _ | ⟨reached, o⟩⟩ := s
  · rfl
  · cases reached <;> rfl

/-- A collection frees the slots that marking leaves white. -/
theorem freed_eq (heap : Heap) (roots : List Handle) :
    heap.freed roots = (List.range heap.slab.size).filter fun i =>
      (heap.slab.mark roots)[i]?.any (·.isWhite) := by
  refine List.filter_congr fun i _ => ?_
  have hmark : heap.slab[i]?.any (·.isOccupied) =
      (heap.slab.mark roots)[i]?.any (·.isOccupied) := by
    simpa [Option.any_map, Function.comp_def] using
      congrArg (Option.any (·.2)) (Slab.sameShape_mark heap.slab roots i).symm
  rw [← Option.not_isSome, isSome_resolve?, isSome_resolve?, hmark, slab_collect,
    Slab.getElem?_sweep, Option.any_map]
  cases (heap.slab.mark roots)[i]? with
  | none => rfl
  | some s => exact isOccupied_and_swept s

/-- A collection makes all slots that it frees fit for use, if none is of the last generation. -/
theorem freed_eq_recyclable
    (hlast : ∀ i ∈ heap.freed roots, heap.slab.generationAt i ≠ Slot.lastGeneration) :
    heap.freed roots = (heap.slab.mark roots).recyclable := by
  have hs := Slab.sameShape_mark heap.slab roots
  rw [freed_eq] at hlast ⊢
  rw [Slab.recyclable, hs.size_eq]
  refine List.filter_congr fun i hi => ?_
  cases hslot : (heap.slab.mark roots)[i]? with
  | none => rfl
  | some s =>
    cases hw : s.isWhite with
    | false => simp [Slot.isRecyclable, hw]
    | true =>
      have hne := hlast i (List.mem_filter.2 ⟨hi, by rw [hslot]; exact hw⟩)
      rw [← hs.generationAt, Slab.generationAt, hslot] at hne
      simpa [Slot.isRecyclable, hw] using hne

/-- After a collection the slots that it frees are used, the last one first and each in its next
generation, and then the slots that were free before. -/
theorem upcoming_collect (hf : heap.slab.FreeList heap.free)
    (hlast : ∀ i ∈ heap.freed roots, heap.slab.generationAt i ≠ Slot.lastGeneration) (n : Nat) :
    (heap.collect roots).2.upcoming n =
      turn ((heap.freed roots).reverse.map (fun i => ⟨i, heap.slab.generationAt i + 1⟩) ++
        heap.freeHandles) heap.slab.size n := by
  have hs := Slab.sameShape_mark heap.slab roots
  have hsize : (heap.collect roots).2.slab.size = heap.slab.size := Array.size_map.trans hs.size_eq
  have hfree : (heap.collect roots).2.free = (heap.freed roots).reverse ++ heap.free := by
    rw [freed_eq_recyclable hlast]
    rfl
  have hnext : ∀ i ∈ (heap.freed roots).reverse,
      (heap.collect roots).2.slab.generationAt i = heap.slab.generationAt i + 1 := by
    intro i hi
    rw [List.mem_reverse, freed_eq_recyclable hlast] at hi
    rw [slab_collect, Slab.generationAt_sweep_of_mem hi, hs.generationAt]
  have hkept : ∀ i ∈ heap.free,
      (heap.collect roots).2.slab.generationAt i = heap.slab.generationAt i := by
    intro i hi
    rw [slab_collect, (hf.congr hs).generationAt_sweep hi, hs.generationAt]
  rw [upcoming, hsize, freeHandles, hfree, List.map_append, freeHandles]
  congr 2
  · exact List.map_congr_left fun i hi => by rw [hnext i hi]
  · exact List.map_congr_left fun i hi => by rw [hkept i hi]

/-- An allocation below the cap gives out the first of the upcoming handles. -/
theorem perform_alloc_upcoming (hfull : heap.isFull = false) (o : Object) :
    (heap.perform (.alloc o)).1 = .ok (.allocated (heap.upcoming 0)) := by
  rw [upcoming_zero]
  simp only [perform, alloc_eq hfull]
  rfl

/-- Suppose that a collection, after whatever calls on a heap, frees slots of which none is of the
last generation. As long as no other sweep is run, the objects that are allocated afterwards get the
slots that it freed, the last one first and each in its next generation, then the slots that were
free before, the one that was freed last first and each in its generation, and then new slots in
their order. The next one does too, unless the cap is reached. -/
theorem slots_used_in_order (threshold : Nat) (cap : Option Nat) (calls : List Call)
    (roots : List Handle) :
    let heap := (empty threshold cap).performAll calls
    let after := (heap.collect roots).2
    let order := (heap.freed roots).reverse.map (fun i => ⟨i, heap.slab.generationAt i + 1⟩) ++
      heap.free.map (fun i => ⟨i, heap.slab.generationAt i⟩)
    (∀ i ∈ heap.freed roots, heap.slab.generationAt i ≠ Slot.lastGeneration) →
    ∀ later : List Call, (∀ call ∈ later, call.frees = false) →
      let given := after.issued later
      given = (List.range given.length).map (turn order heap.slab.size) ∧
      ((after.performAll later).isFull = false → ∀ o,
        ((after.performAll later).perform (.alloc o)).1 =
          .ok (.allocated (turn order heap.slab.size given.length))) := by
  intro heap after order hlast later hframe given
  have hf : heap.slab.FreeList heap.free := (registered_performAll threshold cap calls).freeList
  have horder : ∀ n, after.upcoming n = turn order heap.slab.size n := upcoming_collect hf hlast
  have hfree : after.slab.FreeList after.free := freeList_collect hf
  obtain ⟨hgiven, hnext⟩ := upcoming_performAll hfree hframe
  refine ⟨hgiven.trans (List.map_congr_left fun n _ => horder n), fun hfull o => ?_⟩
  rw [perform_alloc_upcoming hfull, hnext, Nat.add_zero, ← horder]

/-- Two slots are free when a collection frees three more. These are used first, then the two, and
then new slots. -/
theorem slots_used_in_order_mixed :
    let object : Object := .scalar 1
    let heap := (empty 8 none).performAll (List.replicate 6 (.alloc object) ++
      [.collect [⟨1, 0⟩, ⟨3, 0⟩, ⟨4, 0⟩], .alloc object])
    let after := (heap.collect [⟨5, 1⟩]).2
    let later : List Call := List.replicate 4 (.alloc object) ++ [.setHead ⟨4, 0⟩ ⟨5, 1⟩] ++
      List.replicate 2 (.alloc object)
    heap.free = [2, 0] ∧ heap.freed [⟨5, 1⟩] = [1, 3, 4] ∧
    (∀ i ∈ heap.freed [⟨5, 1⟩], heap.slab.generationAt i ≠ Slot.lastGeneration) ∧
    (∀ call ∈ later, call.frees = false) ∧
    after.issued later = [⟨4, 1⟩, ⟨3, 1⟩, ⟨1, 1⟩, ⟨2, 1⟩, ⟨0, 1⟩, ⟨6, 0⟩] ∧
    ((after.performAll later).perform (.alloc object)).1 = .ok (.allocated ⟨7, 0⟩) := by
  intro object heap after later
  have hfree : heap.free = [2, 0] := by decide +kernel
  have hfreed : heap.freed [⟨5, 1⟩] = [1, 3, 4] := by decide +kernel
  have hlast : ∀ i ∈ heap.freed [⟨5, 1⟩], heap.slab.generationAt i ≠ Slot.lastGeneration := by
    decide +kernel
  have hframe : ∀ call ∈ later, call.frees = false := by decide +kernel
  have hfull : (after.performAll later).isFull = false := by decide +kernel
  have hlength : (after.issued later).length = 6 := by decide +kernel
  obtain ⟨hgiven, hnext⟩ := slots_used_in_order 8 none _ [⟨5, 1⟩] hlast later hframe
  rw [hlength] at hgiven hnext
  refine ⟨hfree, hfreed, hlast, hframe, hgiven.trans ?_, (hnext hfull object).trans ?_⟩
  · decide +kernel
  · decide +kernel

end

end Heap

end RootedHeap
