import RootedHeap.Proofs.FreeSlots

/-!
# Collections one after another

What a collection takes away is nothing that fewer roots reach, so after it these reach what they
did (`Heap.reaches_collect_of_subset`), and a collection from them comes to the same slots as it
would have without the first (`Heap.slab_collect_collect`). Only the order in which slots have
become free is another one. From the same roots the second collection finds nothing to reclaim, and
one that reclaims nothing changes at most the threshold (`Heap.collect_of_reclaimed_eq_zero`), which
stands where it was set (`Heap.collect_absorbs`).
-/

namespace RootedHeap

namespace Slab

section
variable {slab : Slab} {roots : List Handle} {i : Nat} {s : Slot}

/-- The slots that are fit for use when a slab without flags is marked and swept: those of the
objects that the roots do not reach, unless they are of the last generation. -/
theorem mem_recyclable_mark (hc : slab.Clear) : i ∈ (slab.mark roots).recyclable ↔
    ∃ s, slab[i]? = some s ∧ s.isWhite = true ∧ ¬ slab.Reaches roots ⟨i, s.generation⟩ ∧
      s.generation ≠ Slot.lastGeneration := by
  rw [mem_recyclable, getElem?_mark]
  constructor
  · rintro ⟨_, hslot, hw, hgen⟩
    obtain ⟨s, hs, rfl⟩ := Option.map_eq_some_iff.1 hslot
    split at hw
    · rw [isWhite_slot_flag] at hw
      cases hw
    · next hr =>
      rw [reachesWhite_mk hc hs hw] at hr
      rw [if_neg (mt (reachesWhite_mk hc hs hw).1 hr)] at hgen
      exact ⟨s, hs, hw, hr, hgen⟩
  · rintro ⟨s, hs, hw, hr, hgen⟩
    refine ⟨s, ?_, hw, hgen⟩
    rw [hs, Option.map_some, if_neg (mt (reachesWhite_mk hc hs hw).1 hr)]

/-- No slot is fit for use twice. -/
theorem nodup_recyclable (slab : Slab) : slab.recyclable.Nodup :=
  List.nodup_range.filter _

/-! ## Nothing to reclaim -/

/-- No slot is white if none is counted. -/
theorem isWhite_eq_false_of_countWhite (hw : slab.countWhite = 0) (hs : slab[i]? = some s) :
    s.isWhite = false :=
  Bool.eq_false_iff.2 (Array.countP_eq_zero.1 hw s (Array.mem_of_getElem? hs))

/-- Marking and sweeping a slab without flags leave it as it was if marking reaches every object. -/
theorem sweep_mark_eq_self (hc : slab.Clear) (hw : (slab.mark roots).countWhite = 0) :
    (slab.mark roots).sweep = slab := by
  apply Array.ext_getElem?
  intro i
  rw [getElem?_sweep]
  cases hs : slab[i]? with
  | none => rcases (invariant_mark slab roots).flagged i with hf | hf <;> simp [hf, hs]
  | some s =>
    rcases (invariant_mark slab roots).flagged i with hf | hf
    · rw [hs] at hf
      have hempty := (hc.slot hs).cell_eq_none (isWhite_eq_false_of_countWhite hw hf)
      rw [hf, Option.map_some, swept_eq_self hempty]
    · rw [hf, hs, Option.map_some, Option.map_some, (hc.slot hs).swept_flag]

/-- A sweep that reclaims nothing makes no slot fit for use. -/
theorem recyclable_eq_nil (hw : slab.countWhite = 0) : slab.recyclable = [] := by
  rw [List.eq_nil_iff_forall_not_mem]
  intro i hi
  obtain ⟨s, hs, hwhite, -⟩ := mem_recyclable.1 hi
  rw [isWhite_eq_false_of_countWhite hw hs] at hwhite
  cases hwhite

end

end Slab

namespace Heap

section
variable {heap : Heap} {roots later : List Handle} {h : Handle}

/-- A collection of a heap without flags that reclaims nothing changes the threshold alone. -/
theorem collect_of_reclaimed_eq_zero (hc : heap.slab.Clear)
    (hr : (heap.collect roots).1.reclaimed = 0) :
    heap.collect roots =
      (⟨heap.live, 0, heap.live, heap.nextThreshold heap.live⟩,
        { heap with threshold := heap.nextThreshold heap.live }) := by
  have hw : (heap.slab.mark roots).countWhite = 0 := hr
  simp only [collect, sweep, mark, Slab.sweep_mark_eq_self hc hw, Slab.recyclable_eq_nil hw, hw]
  rfl

/-! ## A collection and then one from fewer roots -/

/-- A collection from some of the roots leaves the slots that it leaves after one from all. -/
theorem slab_collect_collect (hc : heap.slab.Clear) (hsub : later ⊆ roots) :
    ((heap.collect roots).2.collect later).2.slab = (heap.collect later).2.slab := by
  classical
  apply Array.ext_getElem?
  intro i
  rw [getElem?_collect (Slab.clear_sweep _), getElem?_collect hc, getElem?_collect hc]
  simp only [reaches_collect_of_subset hc hsub]
  cases hs : heap.slab[i]? with
  | none => rfl
  | some s =>
    simp only [Option.map_some, Option.some_inj]
    by_cases hr : heap.slab.Reaches roots ⟨i, s.generation⟩
    · simp only [if_pos hr]
    -- What is swept for want of any root is empty then, and stays as it is.
    · have hr' : ¬ heap.slab.Reaches later ⟨i, s.generation⟩ := fun hlater => hr (hlater.mono hsub)
      have hempty := (hc.slot hs).swept_cell
      rw [if_neg hr, if_neg hr', Slab.swept_eq_self hempty, ite_self]

/-- Two collections reclaim together what the second alone would. -/
theorem reclaimed_collect_collect (hc : heap.slab.Clear) (hsub : later ⊆ roots) :
    (heap.collect roots).1.reclaimed + ((heap.collect roots).2.collect later).1.reclaimed =
      (heap.collect later).1.reclaimed := by
  have hfirst := countOccupied_collect heap roots
  have hsecond := countOccupied_collect (heap.collect roots).2 later
  have honce := countOccupied_collect heap later
  rw [slab_collect_collect hc hsub] at hsecond
  omega

/-- The slots that a second collection, from fewer roots, makes fit for use: those of the objects
that only the first roots reach, unless they are of the last generation. -/
theorem mem_recyclable_collect {i : Nat} (hc : heap.slab.Clear) (hsub : later ⊆ roots) :
    i ∈ ((heap.collect roots).2.slab.mark later).recyclable ↔
      ∃ s, heap.slab[i]? = some s ∧ s.isWhite = true ∧
        heap.slab.Reaches roots ⟨i, s.generation⟩ ∧
        ¬ heap.slab.Reaches later ⟨i, s.generation⟩ ∧ s.generation ≠ Slot.lastGeneration := by
  have hclear : (heap.collect roots).2.slab.Clear := Slab.clear_sweep _
  rw [Slab.mem_recyclable_mark hclear, getElem?_collect hc]
  simp only [reaches_collect_of_subset hc hsub]
  constructor
  · rintro ⟨_, hslot, hw, hlater, hgen⟩
    obtain ⟨s, hs, rfl⟩ := Option.map_eq_some_iff.1 hslot
    split at hw
    · next hr =>
      rw [if_pos hr] at hlater hgen
      exact ⟨s, hs, hw, hr, hlater, hgen⟩
    · have hempty := (hc.slot hs).swept_cell
      exact absurd hempty (Slab.cell_ne_none_of_isWhite hw)
  · rintro ⟨s, hs, hw, hr, hlater, hgen⟩
    exact ⟨s, by rw [hs, Option.map_some, if_pos hr], hw, hlater, hgen⟩

/-- The slots that two collections make fit for use are those that the second alone would. -/
theorem recyclable_collect_collect (hc : heap.slab.Clear) (hsub : later ⊆ roots) :
    ((heap.slab.mark roots).recyclable ++
      ((heap.collect roots).2.slab.mark later).recyclable).Perm
        (heap.slab.mark later).recyclable := by
  have hdisjoint : ∀ i ∈ (heap.slab.mark roots).recyclable,
      ∀ j ∈ ((heap.collect roots).2.slab.mark later).recyclable, i ≠ j := by
    rintro i hi _ hj rfl
    obtain ⟨s, hs, -, hr, -⟩ := (Slab.mem_recyclable_mark hc).1 hi
    obtain ⟨s', hs', -, hr', -⟩ := (mem_recyclable_collect hc hsub).1 hj
    obtain rfl : s = s' := Option.some_inj.1 (hs.symm.trans hs')
    exact hr hr'
  have hnodup := List.nodup_append.2
    ⟨Slab.nodup_recyclable _, Slab.nodup_recyclable _, hdisjoint⟩
  refine (List.perm_ext_iff_of_nodup hnodup (Slab.nodup_recyclable _)).2 fun i => ?_
  rw [List.mem_append, mem_recyclable_collect hc hsub, Slab.mem_recyclable_mark hc,
    Slab.mem_recyclable_mark hc]
  constructor
  · rintro (⟨s, hs, hw, hr, hgen⟩ | ⟨s, hs, hw, -, hlater, hgen⟩)
    · exact ⟨s, hs, hw, fun hlater => hr (hlater.mono hsub), hgen⟩
    · exact ⟨s, hs, hw, hlater, hgen⟩
  · rintro ⟨s, hs, hw, hlater, hgen⟩
    by_cases hr : heap.slab.Reaches roots ⟨i, s.generation⟩
    · exact .inr ⟨s, hs, hw, hr, hlater, hgen⟩
    · exact .inl ⟨s, hs, hw, hr, hgen⟩

/-- Two collections leave the free list that the second alone would, in another order. -/
theorem free_collect_collect (hc : heap.slab.Clear) (hsub : later ⊆ roots) :
    ((heap.collect roots).2.collect later).2.free.Perm (heap.collect later).2.free := by
  have hperm := List.perm_reverse.2 (List.reverse_perm'.2 (recyclable_collect_collect hc hsub))
  rw [List.reverse_append] at hperm
  have hfree := hperm.append_right heap.free
  rwa [List.append_assoc] at hfree

/-- A collection of a heap without flags and then one from some of its roots leave the heap that the
second alone would, but for the order in which slots are free, and without flags. Together they
reclaim what it would. From the same roots, the second reclaims nothing and changes nothing. -/
theorem collect_absorbs (heap : Heap) (roots later : List Handle) (hc : heap.slab.Clear)
    (hsub : ∀ h ∈ later, h ∈ roots) :
    let first := heap.collect roots
    let second := first.2.collect later
    let once := heap.collect later
    { second.2 with free := once.2.free } = once.2 ∧
    second.2.slab.Clear ∧
    second.2.free.Perm once.2.free ∧
    first.1.reclaimed + second.1.reclaimed = once.1.reclaimed ∧
    (first.2.collect roots).1.reclaimed = 0 ∧
    (first.2.collect roots).2 = first.2 := by
  intro first second once
  have hclear : first.2.slab.Clear := Slab.clear_sweep _
  have hreclaimed : first.1.reclaimed + second.1.reclaimed = once.1.reclaimed :=
    reclaimed_collect_collect hc hsub
  have hslab : second.2.slab = once.2.slab := slab_collect_collect hc hsub
  have hlive : second.2.live = once.2.live := by
    show heap.live - first.1.reclaimed - second.1.reclaimed = heap.live - once.1.reclaimed
    rw [Nat.sub_sub, hreclaimed]
  have hthreshold : second.2.threshold = once.2.threshold :=
    congrArg heap.nextThreshold hlive
  have hagain : (first.2.collect roots).1.reclaimed = 0 := by
    have hsum : first.1.reclaimed + (first.2.collect roots).1.reclaimed = first.1.reclaimed :=
      reclaimed_collect_collect hc (List.Subset.refl roots)
    omega
  refine ⟨?_, Slab.clear_sweep _, free_collect_collect hc hsub, hreclaimed, hagain, ?_⟩
  · show Heap.mk second.2.slab once.2.free second.2.live second.2.threshold _ _ = once.2
    rw [hslab, hlive, hthreshold]
    rfl
  · rw [collect_of_reclaimed_eq_zero hclear hagain]
    rfl

/-- Of five objects, a pair with a field that names nothing and its scalar are reached by the first
roots alone; another scalar is reached by none, and one in a slot of the last generation. -/
theorem collect_absorbs_pair :
    let heap : Heap :=
      { slab := #[⟨0, some ⟨false, .scalar 1⟩⟩, ⟨0, some ⟨false, .pair ⟨0, 0⟩ ⟨9, 0⟩⟩⟩,
          ⟨4294967295, some ⟨false, .scalar 5⟩⟩, ⟨2, some ⟨false, .pair ⟨3, 2⟩ ⟨3, 1⟩⟩⟩,
          ⟨0, some ⟨false, .scalar 7⟩⟩]
        live := 5
        threshold := 8
        initialThreshold := 8 }
    let first := heap.collect [⟨3, 2⟩, ⟨1, 0⟩]
    let second := first.2.collect [⟨3, 2⟩]
    let once := heap.collect [⟨3, 2⟩]
    heap.slab.Clear ∧ { second.2 with free := once.2.free } = once.2 ∧
    second.2.free = [1, 0, 4] ∧ once.2.free = [4, 1, 0] ∧ second.2.free.Perm once.2.free ∧
    first.1.reclaimed = 2 ∧ second.1.reclaimed = 2 ∧ once.1.reclaimed = 4 := by
  intro heap first second once
  have hclear : heap.slab.Clear := by
    intro i s c hs hc
    have hmem := Array.mem_of_getElem? hs
    simp only [heap, List.mem_toArray, List.mem_cons, List.not_mem_nil, or_false] at hmem
    rcases hmem with rfl | rfl | rfl | rfl | rfl <;> cases hc <;> rfl
  obtain ⟨heq, -, hperm, -⟩ := collect_absorbs heap [⟨3, 2⟩, ⟨1, 0⟩] [⟨3, 2⟩] hclear (by simp)
  have hfree : second.2.free = [1, 0, 4] ∧ once.2.free = [4, 1, 0] := by decide +kernel
  have hreclaimed : first.1.reclaimed = 2 ∧ second.1.reclaimed = 2 ∧ once.1.reclaimed = 4 := by
    decide +kernel
  exact ⟨hclear, heq, hfree.1, hfree.2, hperm, hreclaimed⟩

end

end Heap

end RootedHeap
