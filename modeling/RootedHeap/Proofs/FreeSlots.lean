import RootedHeap.Proofs.Collection

/-!
# Free slots and spent handles

The free list of a heap names empty slots, each once, and every empty slot that it leaves out is
retired (`Slab.FreeList`). So an allocation puts its object where none is (`Heap.vacant_nextSlot`).
A handle whose slot has moved past it, or has been retired with it, is spent (`Slab.Spent`): it
names no object (`Slab.Spent.object?`), the next handle is not it (`Heap.not_spent_nextHandle`), and
no operation brings it back. A collection makes the handles of what it reclaims spent
(`Heap.spent_collect_of_reclaimed`).
-/

namespace RootedHeap

namespace Slab

/-- A list of the slots of a slab that are free for use again. -/
structure FreeList (slab : Slab) (free : List Nat) : Prop where
  /-- The slots on the list are empty. -/
  empty : ∀ i ∈ free, ∃ s, slab[i]? = some s ∧ s.cell = none
  /-- No slot is on the list twice. -/
  nodup : free.Nodup
  /-- An empty slot that is not on the list has no generation to go on to. -/
  retired : ∀ (i : Nat) (s : Slot), slab[i]? = some s → s.cell = none → i ∉ free →
    s.generation = Slot.lastGeneration

/-- A handle of a generation that its slot has left, or that its slot has been retired in. -/
def Spent (slab : Slab) (free : List Nat) (h : Handle) : Prop :=
  ∃ s, slab[h.index]? = some s ∧
    (h.generation < s.generation ∨
      h.generation = s.generation ∧ s.cell = none ∧ h.index ∉ free)

/-- Two slabs have slots of the same generations, and the same ones occupied. -/
def SameShape (slab slab' : Slab) : Prop :=
  ∀ i : Nat, slab'[i]?.map (fun s => (s.generation, s.isOccupied)) =
    slab[i]?.map (fun s => (s.generation, s.isOccupied))

section
variable {slab slab' : Slab} {free : List Nat} {roots : List Handle} {h : Handle} {i : Nat}

/-! ## Slabs of the same shape -/

/-- A slot has a counterpart in a slab of the same shape. -/
theorem SameShape.slot (hs : SameShape slab slab') {s' : Slot} (h' : slab'[i]? = some s') :
    ∃ s, slab[i]? = some s ∧ s'.generation = s.generation ∧ (s'.cell = none ↔ s.cell = none) := by
  have heq := hs i
  rw [h', Option.map_some] at heq
  obtain ⟨s, hslot, hsame⟩ := Option.map_eq_some_iff.1 heq.symm
  rw [Prod.mk.injEq, Slot.isOccupied, Slot.isOccupied] at hsame
  refine ⟨s, hslot, hsame.1.symm, ?_⟩
  rw [← Option.isNone_iff_eq_none, ← Option.isNone_iff_eq_none, ← Option.not_isSome,
    ← Option.not_isSome, hsame.2]

/-- The same shape is the same the other way round. -/
theorem SameShape.symm (hs : SameShape slab slab') : SameShape slab' slab := fun i => (hs i).symm

/-- Slabs of the same shape have as many slots. -/
theorem SameShape.size_eq (hs : SameShape slab slab') : slab'.size = slab.size := by
  -- A slab ends where there is no slot, and there the other one has none either.
  have hle : ∀ {a b : Slab}, SameShape a b → b.size ≤ a.size := by
    intro a b hab
    have hend := hab a.size
    rw [Array.getElem?_eq_none (Nat.le_refl _), Option.map_none, Option.map_eq_none_iff] at hend
    exact Array.getElem?_eq_none_iff.1 hend
  exact Nat.le_antisymm (hle hs) (hle hs.symm)

/-- A free list of a slab is one of every slab of the same shape. -/
theorem FreeList.congr (hf : slab.FreeList free) (hs : SameShape slab slab') :
    slab'.FreeList free where
  empty i hi := by
    obtain ⟨s, hslot, hc⟩ := hf.empty i hi
    obtain ⟨s', hslot', -, hcell⟩ := hs.symm.slot hslot
    exact ⟨s', hslot', hcell.1 hc⟩
  nodup := hf.nodup
  retired i s' hslot' hc hi := by
    obtain ⟨s, hslot, hg, hcell⟩ := hs.slot hslot'
    exact hg.trans (hf.retired i s hslot (hcell.1 hc) hi)

/-- A handle that is spent in a slab is so in every slab of the same shape. -/
theorem Spent.congr (hh : slab.Spent free h) (hs : SameShape slab slab') :
    slab'.Spent free h := by
  obtain ⟨s, hslot, hgen⟩ := hh
  obtain ⟨s', hslot', hg, hcell⟩ := hs.symm.slot hslot
  refine ⟨s', hslot', ?_⟩
  rcases hgen with hlt | ⟨heq, hc, hi⟩
  · exact .inl (hg ▸ hlt)
  · exact .inr ⟨heq.trans hg, hcell.1 hc, hi⟩

/-- Marking keeps the shape of a slab. -/
theorem sameShape_mark (slab : Slab) (roots : List Handle) :
    SameShape slab (slab.mark roots) := by
  intro i
  rcases (invariant_mark slab roots).flagged i with hf | hf
  · exact congrArg _ hf
  · show Option.map _ (slab.mark roots)[i]? = _
    rw [hf]
    cases slab[i]? with
    | none => rfl
    | some s => simp [Slot.flag, Slot.isOccupied]

/-- Replacing an object keeps the shape of a slab. -/
theorem sameShape_setObject (slab : Slab) (p : Handle) (o : Object) :
    SameShape slab (slab.setObject p o) := by
  intro i
  rw [getElem?_setObject]
  split
  · cases slab[i]? with
    | none => rfl
    | some s => simp [Slot.isOccupied]
  · rfl

/-! ## Spent handles -/

/-- A spent handle names no object. -/
theorem Spent.object? (hh : slab.Spent free h) : slab.object? h = none := by
  rw [Option.eq_none_iff_forall_ne_some]
  rintro o ho
  obtain ⟨_, hc⟩ := object?_eq_some.1 ho
  obtain ⟨s, hs, hg, hsc⟩ := cell?_eq_some.1 hc
  obtain ⟨s', hs', hgen⟩ := hh
  obtain rfl : s = s' := Option.some_inj.1 (hs.symm.trans hs')
  rcases hgen with hlt | ⟨-, hnone, -⟩
  · rw [hg] at hlt
    exact absurd hlt (UInt32.lt_irrefl _)
  · rw [hnone] at hsc
    cases hsc

/-- A slot that is not of the last generation goes on by one. -/
theorem toNat_succ_generation {s : Slot} (hs : s.generation ≠ Slot.lastGeneration) :
    (s.generation + 1).toNat = s.generation.toNat + 1 := by
  rw [Ne, ← UInt32.toNat_inj] at hs
  rw [UInt32.toNat_add]
  have := s.generation.toNat_lt
  have hlast : Slot.lastGeneration.toNat = 4294967295 := rfl
  have hone : (1 : UInt32).toNat = 1 := rfl
  omega

/-- A slot that is not of the last generation goes on to a later one. -/
theorem lt_succ_generation {s : Slot} (hs : s.generation ≠ Slot.lastGeneration) :
    s.generation < s.generation + 1 := by
  rw [UInt32.lt_iff_toNat_lt, toNat_succ_generation hs]
  exact Nat.lt_succ_self _

/-! ## Sweeping -/

/-- A slot that a sweep makes fit for use is a white one that has a generation to go on to. -/
theorem mem_recyclable : i ∈ slab.recyclable ↔
    ∃ s, slab[i]? = some s ∧ s.isWhite = true ∧ s.generation ≠ Slot.lastGeneration := by
  simp only [recyclable, List.mem_filter, List.mem_range, Option.any_eq_true, Slot.isRecyclable,
    Bool.and_eq_true, bne_iff_ne]
  exact ⟨fun hi => hi.2, fun ⟨s, hs, hi⟩ => ⟨(Array.getElem?_eq_some_iff.1 hs).1, s, hs, hi⟩⟩

/-- A slot that a sweep empties was white, and goes on to its next generation. -/
theorem swept_of_isWhite {s : Slot} (hs : s.isWhite = true) :
    s.swept = ⟨s.nextGeneration, none⟩ := by
  obtain ⟨generation, cell⟩ := s
  rcases cell with _ | ⟨reached, o⟩
  · cases hs
  · cases reached with
    | true => cases hs
    | false => rfl

/-- A slot is empty after a sweep if it was, or if it was white. -/
theorem swept_cell_eq_none {s : Slot} :
    s.swept.cell = none ↔ s.cell = none ∨ s.isWhite = true := by
  obtain ⟨generation, cell⟩ := s
  rcases cell with _ | ⟨reached, o⟩
  · simp [Slot.swept]
  · cases reached <;> simp [Slot.swept, Slot.isWhite]

/-- A slot with a white object is not empty. -/
theorem cell_ne_none_of_isWhite {s : Slot} (hs : s.isWhite = true) : s.cell ≠ none := by
  intro hc
  rw [Slot.isWhite, hc] at hs
  cases hs

/-- A sweep puts the slots that it makes fit for use on the free list, in front. -/
theorem FreeList.sweep (hf : slab.FreeList free) :
    slab.sweep.FreeList (slab.recyclable.reverse ++ free) where
  empty i hi := by
    rw [getElem?_sweep]
    rcases List.mem_append.1 hi with hi | hi
    · obtain ⟨s, hs, hw, -⟩ := mem_recyclable.1 (List.mem_reverse.1 hi)
      exact ⟨s.swept, by rw [hs]; rfl, swept_cell_eq_none.2 (.inr hw)⟩
    · obtain ⟨s, hs, hc⟩ := hf.empty i hi
      exact ⟨s.swept, by rw [hs]; rfl, swept_cell_eq_none.2 (.inl hc)⟩
  nodup := by
    refine List.nodup_append.2 ⟨?_, hf.nodup, ?_⟩
    · exact List.nodup_reverse.2 (List.nodup_range.filter _)
    · rintro i hi _ hfree rfl
      obtain ⟨s, hs, hw, -⟩ := mem_recyclable.1 (List.mem_reverse.1 hi)
      obtain ⟨s', hs', hc⟩ := hf.empty i hfree
      obtain rfl : s = s' := Option.some_inj.1 (hs.symm.trans hs')
      exact cell_ne_none_of_isWhite hw hc
  retired i s' hs' hc hi := by
    rw [List.mem_append, List.mem_reverse, not_or] at hi
    rw [getElem?_sweep] at hs'
    obtain ⟨s, hs, rfl⟩ := Option.map_eq_some_iff.1 hs'
    rcases swept_cell_eq_none.1 hc with hc | hw
    · rw [swept_eq_self hc]
      exact hf.retired i s hs hc hi.2
    · have hlast : s.generation = Slot.lastGeneration := by
        by_contra hne
        exact hi.1 (mem_recyclable.2 ⟨s, hs, hw, hne⟩)
      rw [swept_of_isWhite hw, Slot.nextGeneration, if_pos hlast, hlast]

/-- A slot never goes back to an earlier generation. -/
theorem le_swept_generation (s : Slot) : s.generation ≤ s.swept.generation := by
  by_cases hw : s.isWhite = true
  · rw [swept_of_isWhite hw]
    show s.generation ≤ s.nextGeneration
    unfold Slot.nextGeneration
    split
    · exact UInt32.le_refl _
    · next hne => exact UInt32.le_of_lt (lt_succ_generation hne)
  · cases hc : s.swept.cell with
    | some c => exact (swept_generation hc).symm ▸ UInt32.le_refl _
    | none =>
      rw [swept_eq_self ((swept_cell_eq_none.1 hc).resolve_right hw)]
      exact UInt32.le_refl _

/-- A sweep does not bring a spent handle back. -/
theorem Spent.sweep (hh : slab.Spent free h) :
    slab.sweep.Spent (slab.recyclable.reverse ++ free) h := by
  obtain ⟨s, hs, hgen⟩ := hh
  refine ⟨s.swept, by rw [getElem?_sweep, hs]; rfl, ?_⟩
  rcases hgen with hlt | ⟨heq, hc, hfree⟩
  · exact .inl (UInt32.lt_of_lt_of_le hlt (le_swept_generation s))
  · refine .inr ⟨by rw [swept_eq_self hc, heq], by rw [swept_eq_self hc, hc], ?_⟩
    rw [List.mem_append, List.mem_reverse, not_or]
    refine ⟨fun hi => ?_, hfree⟩
    obtain ⟨s', hs', hw, -⟩ := mem_recyclable.1 hi
    obtain rfl : s = s' := Option.some_inj.1 (hs.symm.trans hs')
    exact cell_ne_none_of_isWhite hw hc

/-- The handle of a white object is spent after a sweep. -/
theorem spent_sweep_of_isWhite (hf : slab.FreeList free) (hw : slab.isWhite h = true) :
    slab.sweep.Spent (slab.recyclable.reverse ++ free) h := by
  obtain ⟨o, hcell⟩ := isWhite_iff.1 hw
  obtain ⟨s, hs, hg, hc⟩ := cell?_eq_some.1 hcell
  have hsw : s.isWhite = true := by rw [Slot.isWhite, hc]; rfl
  refine ⟨s.swept, by rw [getElem?_sweep, hs]; rfl, ?_⟩
  rw [swept_of_isWhite hsw]
  -- A slot of the last generation keeps it, so there it counts that the slot is never used again.
  by_cases hlast : s.generation = Slot.lastGeneration
  · refine .inr ⟨by rw [Slot.nextGeneration, if_pos hlast, hg], rfl, ?_⟩
    rw [List.mem_append, List.mem_reverse, not_or]
    constructor
    · intro hi
      obtain ⟨s', hs', -, hne⟩ := mem_recyclable.1 hi
      obtain rfl : s = s' := Option.some_inj.1 (hs.symm.trans hs')
      exact hne hlast
    · intro hi
      obtain ⟨s', hs', hnone⟩ := hf.empty _ hi
      obtain rfl : s = s' := Option.some_inj.1 (hs.symm.trans hs')
      rw [hc] at hnone
      cases hnone
  · refine .inl ?_
    show h.generation < s.nextGeneration
    rw [Slot.nextGeneration, if_neg hlast, ← hg]
    exact lt_succ_generation hlast

end

end Slab

namespace Heap

section
variable {heap : Heap} {roots : List Handle} {h : Handle} {o : Object}

/-! ## Allocating -/

/-- The next slot is the first of the free ones, or the next new one if there are none. -/
theorem nextSlot_cases (heap : Heap) :
    heap.free = [] ∧ heap.nextSlot = heap.slab.size ∨
      heap.free = heap.nextSlot :: heap.free.tail := by
  unfold nextSlot
  cases heap.free with
  | nil => exact .inl ⟨rfl, rfl⟩
  | cons i rest => exact .inr rfl

/-- The next object is put where none is. -/
theorem vacant_nextSlot (hf : heap.slab.FreeList heap.free) : heap.slab.Vacant heap.nextSlot := by
  rcases nextSlot_cases heap with ⟨-, hnext⟩ | hfree
  · rw [hnext]
    refine ⟨Nat.le_refl _, fun s hs => ?_⟩
    exact absurd (Array.getElem?_eq_some_iff.1 hs).1 (Nat.lt_irrefl _)
  · obtain ⟨s, hs, hc⟩ := hf.empty heap.nextSlot (by rw [hfree]; exact .head _)
    refine ⟨Nat.le_of_lt (Array.getElem?_eq_some_iff.1 hs).1, fun s' hs' => ?_⟩
    obtain rfl : s = s' := Option.some_inj.1 (hs.symm.trans hs')
    exact hc

/-- An allocation below the cap puts the object into the next slot. -/
theorem alloc_eq (hfull : heap.isFull = false) (o : Object) : heap.alloc o =
    (.ok heap.nextHandle,
      { heap with
        slab := heap.slab.put heap.nextSlot o
        free := heap.free.tail
        live := heap.live + 1 }) := by
  simp [alloc, hfull]

/-- An allocation at the cap is refused. -/
theorem alloc_eq_of_isFull (hfull : heap.isFull = true) (o : Object) :
    heap.alloc o = (.error (.exhausted heap.live), heap) := by
  simp [alloc, hfull]

/-- An allocation gives its object the next handle and leaves every other handle what it names. -/
theorem object?_alloc (hf : heap.slab.FreeList heap.free) (hfull : heap.isFull = false) :
    (heap.alloc o).2.object? h = if h = heap.nextHandle then some o else heap.object? h := by
  rw [alloc_eq hfull]
  exact Slab.object?_put (vacant_nextSlot hf) o

/-- The next handle names no object yet. -/
theorem object?_nextHandle (hf : heap.slab.FreeList heap.free) :
    heap.object? heap.nextHandle = none :=
  (vacant_nextSlot hf).object?_eq_none rfl

/-- The free list without the next slot is a free list once that slot is used. -/
theorem freeList_alloc (hf : heap.slab.FreeList heap.free) (o : Object) :
    (heap.slab.put heap.nextSlot o).FreeList heap.free.tail := by
  have hput := fun j => Slab.getElem?_put (vacant_nextSlot hf).1 o j
  have hnodup := hf.nodup
  constructor
  · intro i hi
    have hne : heap.nextSlot ≠ i := by
      rcases nextSlot_cases heap with ⟨hnil, -⟩ | hfree
      · rw [hnil] at hi
        cases hi
      · rw [hfree, List.nodup_cons] at hnodup
        exact fun he => hnodup.1 (he ▸ hi)
    rw [hput, if_neg hne]
    exact hf.empty i (List.mem_of_mem_tail hi)
  · exact hnodup.tail
  · intro i s hs hc hi
    rw [hput] at hs
    split at hs
    · cases hs
      cases hc
    · next hne =>
      refine hf.retired i s hs hc fun hmem => ?_
      rcases nextSlot_cases heap with ⟨hnil, -⟩ | hfree
      · rw [hnil] at hmem
        cases hmem
      · rw [hfree, List.mem_cons] at hmem
        exact hmem.elim (Ne.symm hne) hi

/-- An allocation does not bring a spent handle back. -/
theorem spent_alloc (hf : heap.slab.FreeList heap.free) (hh : heap.slab.Spent heap.free h)
    (o : Object) : (heap.slab.put heap.nextSlot o).Spent heap.free.tail h := by
  obtain ⟨s, hs, hgen⟩ := hh
  have hput := Slab.getElem?_put (vacant_nextSlot hf).1 o h.index
  by_cases hidx : heap.nextSlot = h.index
  · rw [if_pos hidx] at hput
    refine ⟨_, hput, .inl ?_⟩
    show h.generation < heap.slab.generationAt heap.nextSlot
    rw [hidx, Slab.generationAt, hs]
    -- The next slot is on the free list or new, and the slot of a retired handle is neither.
    rcases hgen with hlt | ⟨-, -, hfree⟩
    · exact hlt
    · rcases nextSlot_cases heap with ⟨-, hnew⟩ | hcons
      · have := (Array.getElem?_eq_some_iff.1 hs).1
        omega
      · exact absurd (by rw [hcons, hidx]; exact .head _) hfree
  · rw [if_neg hidx] at hput
    refine ⟨s, hput.trans hs, ?_⟩
    rcases hgen with hlt | ⟨heq, hc, hfree⟩
    · exact .inl hlt
    · exact .inr ⟨heq, hc, fun hmem => hfree (List.mem_of_mem_tail hmem)⟩

/-- The next handle is not spent. -/
theorem not_spent_nextHandle (heap : Heap) : ¬ heap.slab.Spent heap.free heap.nextHandle := by
  rintro ⟨s, hs, hgen⟩
  have hg : heap.nextHandle.generation = s.generation := by
    show heap.slab.generationAt heap.nextSlot = s.generation
    rw [Slab.generationAt, show heap.slab[heap.nextSlot]? = some s from hs]
    rfl
  rcases hgen with hlt | ⟨-, -, hfree⟩
  · rw [hg] at hlt
    exact UInt32.lt_irrefl _ hlt
  · rcases nextSlot_cases heap with ⟨-, hnew⟩ | hcons
    · have := (Array.getElem?_eq_some_iff.1 hs).1
      have : heap.nextHandle.index = heap.slab.size := hnew
      omega
    · exact hfree (by rw [hcons]; exact .head _)

/-! ## Collecting -/

/-- A collection keeps the free list right. -/
theorem freeList_collect (hf : heap.slab.FreeList heap.free) :
    (heap.collect roots).2.slab.FreeList (heap.collect roots).2.free :=
  (hf.congr (Slab.sameShape_mark heap.slab roots)).sweep

/-- A collection does not bring a spent handle back. -/
theorem spent_collect (hh : heap.slab.Spent heap.free h) :
    (heap.collect roots).2.slab.Spent (heap.collect roots).2.free h :=
  (hh.congr (Slab.sameShape_mark heap.slab roots)).sweep

/-- The handle of an object that a collection reclaims is spent. -/
theorem spent_collect_of_reclaimed (hf : heap.slab.FreeList heap.free)
    (hlive : (heap.object? h).isSome = true) (hgone : (heap.collect roots).2.object? h = none) :
    (heap.collect roots).2.slab.Spent (heap.collect roots).2.free h := by
  refine Slab.spent_sweep_of_isWhite (hf.congr (Slab.sameShape_mark heap.slab roots)) ?_
  show (heap.slab.mark roots).isWhite h = true
  by_contra hw
  rw [object?, slab_collect, Slab.object?_sweep, if_neg hw,
    (Slab.invariant_mark heap.slab roots).flagged.object?] at hgone
  rw [object?, hgone] at hlive
  cases hlive

end

end Heap

end RootedHeap
