import RootedHeap.Proofs.Accounting
import Mathlib.Order.Bounds.Basic

/-!
# How many slots a heap makes

A slot is occupied, free or retired (`Slab.FreeList.size_eq`). A new one is made only when none is
free, and then as many slots are occupied as are not retired (`Heap.Effect.slots`). A retired slot
stays retired. So a heap has no more slots than were ever occupied at once, besides the retired ones
(`Heap.Compact`), and in particular no more than its cap allows (`Heap.slots_not_leaked`).
-/

namespace RootedHeap

namespace Slab

/-- The slots that no object is put into any more: the empty ones that are not free. -/
def retired (slab : Slab) (free : List Nat) : List Nat :=
  (List.range slab.size).filter fun i => slab[i]?.any (!·.isOccupied) && !free.contains i

section
variable {slab slab' : Slab} {free : List Nat}

/-! ## Slots of each kind -/

/-- A free list has as many entries as there are slots on it. -/
theorem FreeList.length_eq (hf : slab.FreeList free) :
    free.length = (List.range slab.size).countP (free.contains ·) := by
  have hperm : free.Perm ((List.range slab.size).filter (free.contains ·)) := by
    refine (List.perm_ext_iff_of_nodup hf.nodup (List.nodup_range.filter _)).2 fun i => ?_
    rw [List.mem_filter, List.mem_range, List.contains_iff_mem]
    refine ⟨fun hi => ⟨?_, hi⟩, fun hi => hi.2⟩
    obtain ⟨s, hs, -⟩ := hf.empty i hi
    exact (Array.getElem?_eq_some_iff.1 hs).1
  rw [List.countP_eq_length_filter]
  exact hperm.length_eq

/-- Every slot is occupied, free or retired, and only one of these. -/
theorem FreeList.size_eq (hf : slab.FreeList free) :
    slab.size = slab.countOccupied + free.length + (slab.retired free).length := by
  have hempty : ∀ i ∈ List.range slab.size, (decide ¬ slab[i]?.any (·.isOccupied) = true) = true ↔
      slab[i]?.any (!·.isOccupied) = true := by
    intro i hi
    rw [Array.getElem?_eq_getElem (List.mem_range.1 hi)]
    simp
  have hfree : ∀ i ∈ List.range slab.size, (slab[i]?.any (!·.isOccupied) && free.contains i) =
      true ↔ free.contains i = true := by
    intro i _
    rw [Bool.and_eq_true, and_iff_right_iff_imp, List.contains_iff_mem]
    intro hi
    obtain ⟨s, hs, hc⟩ := hf.empty i hi
    simp [hs, Slot.isOccupied, hc]
  calc slab.size
      = (List.range slab.size).length := List.length_range.symm
    _ = slab.countOccupied +
          (List.range slab.size).countP (fun i => slab[i]?.any (!·.isOccupied)) := by
        rw [List.length_eq_countP_add_countP (fun i => slab[i]?.any (·.isOccupied)),
          List.countP_congr hempty, countP_range, countOccupied]
    _ = slab.countOccupied + (free.length + (slab.retired free).length) := by
        rw [List.countP_eq_countP_filter_add _ _ (free.contains ·), List.countP_filter,
          List.countP_filter, List.countP_congr hfree, ← hf.length_eq, Slab.retired,
          List.countP_eq_length_filter]
    _ = slab.countOccupied + free.length + (slab.retired free).length := (Nat.add_assoc _ _ _).symm

/-! ## Updates -/

/-- Slabs of the same shape have the same slots retired. -/
theorem SameShape.retired_eq (hs : SameShape slab slab') :
    slab'.retired free = slab.retired free := by
  have hempty : ∀ i : Nat, slab'[i]?.any (!·.isOccupied) = slab[i]?.any (!·.isOccupied) := by
    intro i
    simpa [Option.any_map, Function.comp_def] using congrArg (Option.any (!·.2)) (hs i)
  simp only [retired, hs.size_eq, hempty]

/-- A sweep makes no more slots fit for use than it empties. -/
theorem length_recyclable_le (slab : Slab) : slab.recyclable.length ≤ slab.countWhite := by
  rw [countWhite, ← countP_range, recyclable, ← List.countP_eq_length_filter]
  refine List.countP_mono_left fun i _ hi => ?_
  cases hs : slab[i]? with
  | none => simp [hs] at hi
  | some s =>
    simp only [hs, Option.any_some, Slot.isRecyclable, Bool.and_eq_true] at hi
    exact hi.1

/-- A sweep keeps the slots, and retires some of them or none. -/
theorem FreeList.retired_sweep (hf : slab.FreeList free) :
    slab.sweep.size = slab.size ∧ (slab.retired free).length ≤
      (slab.sweep.retired (slab.recyclable.reverse ++ free)).length := by
  have hsize : slab.sweep.size = slab.size := Array.size_map
  have hbefore := hf.size_eq
  have hafter := hf.sweep.size_eq
  have hcount := countOccupied_sweep slab
  have hle := slab.length_recyclable_le
  rw [List.length_append, List.length_reverse] at hafter
  exact ⟨hsize, by omega⟩

end

end Slab

namespace Heap

/-- The slots of a heap that no object is put into any more. -/
def retired (heap : Heap) : List Nat := heap.slab.retired heap.free

/-- The largest number of slots that are occupied at once from a heap on, in the course of calls. -/
def peak (heap : Heap) : List Call → Nat
  | [] => heap.slab.countOccupied
  | call :: calls => max heap.slab.countOccupied ((heap.perform call).2.peak calls)

/-- A heap in which `peak` slots at the most were occupied at once has no other slots than those and
the retired ones. -/
structure Compact (heap : Heap) (peak : Nat) : Prop where
  freeList : heap.slab.FreeList heap.free
  occupied_le : heap.slab.countOccupied ≤ peak
  peak_le : peak ≤ heap.slab.size
  size_le : heap.slab.size ≤ peak + heap.retired.length

section
variable {heap heap' : Heap} {call : Call} {calls : List Call} {result : Except HeapError Reply}
  {peak : Nat}

/-! ## One call -/

/-- A call keeps the slots and at most retires some, or it makes one more slot, and then each of
them is occupied or retired. -/
theorem Effect.slots (he : Effect heap call result heap') (hf : heap.slab.FreeList heap.free) :
    heap.retired.length ≤ heap'.retired.length ∧
    (heap'.slab.size = heap.slab.size ∨ heap'.slab.size = heap.slab.size + 1 ∧
      heap'.slab.size = heap'.slab.countOccupied + heap'.retired.length) := by
  have hbefore : heap.slab.size = heap.slab.countOccupied + heap.free.length +
      heap.retired.length := hf.size_eq
  have hafter : heap'.slab.size = heap'.slab.countOccupied + heap'.free.length +
      heap'.retired.length := (he.freeList hf).size_eq
  cases he with
  | refused => exact ⟨Nat.le_refl _, .inl rfl⟩
  | @allocated object hfull =>
    have hcount := Slab.countOccupied_put (vacant_nextSlot hf) object
    have hsize := Slab.size_put heap.slab heap.nextSlot object
    have htail := heap.free.length_tail
    simp only [alloc_eq hfull] at hafter ⊢
    rcases nextSlot_cases heap with ⟨hnil, hnext⟩ | hfree
    · have hlength := congrArg List.length hnil
      rw [List.length_nil] at hlength
      rw [if_neg (by omega)] at hsize
      exact ⟨by omega, .inr ⟨hsize, by omega⟩⟩
    · have hmem : heap.nextSlot ∈ heap.free := hfree ▸ .head _
      obtain ⟨s, hs, -⟩ := hf.empty _ hmem
      rw [if_pos (Array.getElem?_eq_some_iff.1 hs).1] at hsize
      have hpos := List.length_pos_of_mem hmem
      exact ⟨by omega, .inl hsize⟩
  | headSet | tailSet =>
    refine ⟨?_, .inl (Slab.sameShape_setObject _ _ _).size_eq⟩
    exact (congrArg List.length (Slab.sameShape_setObject _ _ _).retired_eq).ge
  | marked roots =>
    have hs := Slab.sameShape_mark heap.slab roots
    exact ⟨(congrArg List.length hs.retired_eq).ge, .inl hs.size_eq⟩
  | swept =>
    obtain ⟨hsize, hle⟩ := hf.retired_sweep
    exact ⟨hle, .inl hsize⟩
  | collected roots =>
    have hs := Slab.sameShape_mark heap.slab roots
    obtain ⟨hsize, hle⟩ := (hf.congr hs).retired_sweep
    rw [hs.retired_eq] at hle
    exact ⟨hle, .inl (hsize.trans hs.size_eq)⟩

/-- A call keeps a heap compact, with what it leaves occupied. -/
theorem Compact.step (hc : heap.Compact peak) (he : Effect heap call result heap') :
    heap'.Compact (max peak heap'.slab.countOccupied) := by
  have hf := he.freeList hc.freeList
  obtain ⟨hretired, hslots⟩ := he.slots hc.freeList
  have hsize := hf.size_eq
  have hpeak := hc.peak_le
  have hle := hc.size_le
  refine ⟨hf, Nat.le_max_right _ _, ?_, ?_⟩
  · refine Nat.max_le.2 ⟨?_, by omega⟩
    rcases hslots with heq | ⟨heq, -⟩ <;> omega
  · rcases hslots with heq | ⟨-, heq⟩ <;> omega

/-! ## A run of calls -/

/-- The slots that are occupied at first count. -/
theorem countOccupied_le_peak (heap : Heap) (calls : List Call) :
    heap.slab.countOccupied ≤ heap.peak calls := by
  cases calls with
  | nil => exact Nat.le_refl _
  | cons call calls => exact Nat.le_max_left _ _

/-- Calls keep a heap compact. -/
theorem Compact.performAll (hc : heap.Compact peak) (calls : List Call) :
    (heap.performAll calls).Compact (max peak (heap.peak calls)) := by
  induction calls generalizing heap peak with
  | nil =>
    rw [Heap.peak, Nat.max_eq_left hc.occupied_le]
    exact hc
  | cons call calls ih =>
    have hrest := ih (hc.step (perform_effect heap call))
    have hoccupied := hc.occupied_le
    have hle := countOccupied_le_peak (heap.perform call).2 calls
    have hmax : max (max peak (heap.perform call).2.slab.countOccupied)
        ((heap.perform call).2.peak calls) = max peak (heap.peak (call :: calls)) := by
      rw [Heap.peak]
      omega
    rwa [hmax] at hrest

/-- The peak is the number of occupied slots at some time, and never exceeded. -/
theorem isGreatest_peak (heap : Heap) (calls : List Call) :
    IsGreatest {n | ∃ before, before <+: calls ∧
      (heap.performAll before).slab.countOccupied = n} (heap.peak calls) := by
  induction calls generalizing heap with
  | nil =>
    refine ⟨⟨[], List.nil_prefix, rfl⟩, ?_⟩
    rintro n ⟨before, hbefore, rfl⟩
    rw [List.prefix_nil.1 hbefore]
    exact Nat.le_refl _
  | cons call calls ih =>
    obtain ⟨⟨before, hbefore, heq⟩, hupper⟩ := ih (heap.perform call).2
    constructor
    · rcases Nat.le_total ((heap.perform call).2.peak calls) heap.slab.countOccupied with hle | hle
      · exact ⟨[], List.nil_prefix, (Nat.max_eq_left hle).symm⟩
      · refine ⟨call :: before, List.cons_prefix_cons.2 ⟨rfl, hbefore⟩, ?_⟩
        exact heq.trans (Nat.max_eq_right hle).symm
    · rintro n ⟨_ | ⟨call', before⟩, hbefore, rfl⟩
      · exact Nat.le_max_left _ _
      · obtain ⟨rfl, hrest⟩ := List.cons_prefix_cons.1 hbefore
        exact Nat.le_trans (hupper ⟨before, hrest, rfl⟩) (Nat.le_max_right _ _)

/-! ## Heaps with a cap -/

/-- A call keeps the cap, and with it the count of live objects below it. -/
theorem Effect.live_le {m : Nat} (he : Effect heap call result heap') (hcap : heap.cap = some m)
    (hle : heap.live ≤ m) : heap'.cap = some m ∧ heap'.live ≤ m := by
  cases he with
  | refused | headSet | tailSet | marked | swept => exact ⟨hcap, hle⟩
  | allocated hfull =>
    rw [alloc_eq hfull]
    rw [isFull, hcap, Option.any_some, decide_eq_false_iff_not] at hfull
    exact ⟨hcap, Nat.lt_of_not_le hfull⟩
  | collected roots => exact ⟨hcap, Nat.le_trans (Nat.sub_le _ _) hle⟩

/-- Of a heap with a cap no more slots are occupied than that. -/
theorem countOccupied_performAll_le (threshold m : Nat) (calls : List Call) :
    ((empty threshold (some m)).performAll calls).slab.countOccupied ≤ m := by
  have hlive : ((empty threshold (some m)).performAll calls).live ≤ m :=
    (performAll_induct (P := fun heap _ => heap.cap = some m ∧ heap.live ≤ m)
      (fun he hkept => he.live_le hkept.1 hkept.2) ⟨rfl, Nat.zero_le _⟩ calls).2
  have haccounted := (accounted_performAll threshold (some m) calls).live_eq
  omega

/-- A heap without objects is compact. -/
theorem compact_empty (threshold : Nat) (cap : Option Nat) : (empty threshold cap).Compact 0 where
  freeList := freeList_empty threshold cap
  occupied_le := Nat.le_refl _
  peak_le := Nat.le_refl _
  size_le := Nat.zero_le _

/-- Whatever calls are made on a heap, it has no more slots than were occupied at once at some time,
besides those that are retired, and just as many if none is. So if there is a cap, no more slots
than that are not retired. -/
theorem slots_not_leaked (threshold : Nat) (cap : Option Nat) (calls : List Call) :
    let heap := (empty threshold cap).performAll calls
    let peak := (empty threshold cap).peak calls
    IsGreatest {n | ∃ before, before <+: calls ∧
      ((empty threshold cap).performAll before).slab.countOccupied = n} peak ∧
    heap.slab.size ≤ peak + heap.retired.length ∧
    (heap.retired = [] → heap.slab.size = peak) ∧
    ∀ m, cap = some m → heap.slab.size - heap.retired.length ≤ m := by
  intro heap peak
  have hgreatest := isGreatest_peak (empty threshold cap) calls
  have hcompact : heap.Compact peak := by
    have hrun := (compact_empty threshold cap).performAll calls
    rwa [Nat.max_eq_right (Nat.zero_le _)] at hrun
  have hsize := hcompact.size_le
  refine ⟨hgreatest, hsize, fun hnone => ?_, ?_⟩
  · rw [hnone, List.length_nil] at hsize
    exact Nat.le_antisymm hsize hcompact.peak_le
  · rintro m rfl
    obtain ⟨⟨before, -, heq⟩, -⟩ := hgreatest
    have hle : peak ≤ m := heq.symm.trans_le (countOccupied_performAll_le threshold m before)
    omega

/-- Two slots serve four objects, of which never more than two are live at once. -/
theorem slots_not_leaked_two :
    let calls : List Call := [.alloc (.scalar 1), .alloc (.scalar 2), .alloc (.scalar 3),
      .collect [⟨1, 0⟩], .alloc (.pair ⟨1, 0⟩ ⟨0, 0⟩), .collect [], .alloc (.scalar 4)]
    let heap := (empty 8 (some 2)).performAll calls
    heap.retired = [] ∧ heap.slab.countOccupied = 1 ∧ (empty 8 (some 2)).peak calls = 2 ∧
    heap.slab.size = 2 ∧ heap.slab.size - heap.retired.length ≤ 2 := by
  intro calls heap
  have hnone : heap.retired = [] := by decide +kernel
  have hoccupied : heap.slab.countOccupied = 1 := by decide +kernel
  have hpeak : (empty 8 (some 2)).peak calls = 2 := by decide +kernel
  obtain ⟨-, -, hsize, hcap⟩ := slots_not_leaked 8 (some 2) calls
  exact ⟨hnone, hoccupied, hpeak, (hsize hnone).trans hpeak, hcap 2 rfl⟩

end

end Heap

end RootedHeap
