import RootedHeap.Proofs.Marking

/-!
# What a collection keeps

A sweep leaves the objects that have a flag, without it, and reclaims the white ones
(`Slab.object?_sweep`, `Slab.clear_sweep`), each of which it counts once
(`Slab.countOccupied_sweep`). So a collection of a heap without flags leaves exactly the objects
that the roots reach, each under the handle that it had (`Heap.object?_collect`), and reaches from
the same roots what it did (`Heap.reaches_collect`). The slots that they reach it leaves as they are
(`Heap.getElem?_collect`).
-/

namespace RootedHeap

/-- The object of a slot has no flag, if there is one. -/
def Slot.Clear (s : Slot) : Prop := ∀ c, s.cell = some c → c.reached = false

namespace Slot

section
variable {s : Slot}

/-- A sweep takes back the flag that was set in a slot without one. -/
theorem Clear.swept_flag (hs : s.Clear) : s.flag.swept = s := by
  obtain ⟨generation, cell⟩ := s
  rcases cell with _ | ⟨reached, o⟩
  · rfl
  · obtain rfl : reached = false := hs _ rfl
    rfl

/-- A sweep empties a slot without a flag. -/
theorem Clear.swept_cell (hs : s.Clear) : s.swept.cell = none := by
  obtain ⟨generation, cell⟩ := s
  rcases cell with _ | ⟨reached, o⟩
  · rfl
  · obtain rfl : reached = false := hs _ rfl
    rfl

/-- A slot without a flag is empty if it is not white. -/
theorem Clear.cell_eq_none (hs : s.Clear) (hw : s.isWhite = false) : s.cell = none := by
  obtain ⟨generation, cell⟩ := s
  rcases cell with _ | ⟨reached, o⟩
  · rfl
  · obtain rfl : reached = false := hs _ rfl
    cases hw

end

end Slot

namespace Slab

section
variable {slab : Slab} {roots : List Handle} {h : Handle} {i : Nat} {s : Slot}

/-! ## Sweeping -/

/-- A sweep sweeps each slot by itself. -/
theorem getElem?_sweep (i : Nat) : slab.sweep[i]? = slab[i]?.map Slot.swept := by
  rw [sweep, Array.getElem?_map]

/-- The slots that still hold an object after a sweep are those whose object has a flag. -/
theorem swept_cell_eq_some {s : Slot} {c : Cell} :
    s.swept.cell = some c ↔ s.cell = some c.flag ∧ c.reached = false := by
  obtain ⟨generation, cell⟩ := s
  obtain ⟨reached, o⟩ := c
  rcases cell with _ | ⟨reached', o'⟩
  · simp [Slot.swept]
  · cases reached' <;> cases reached <;> simp [Slot.swept, Cell.flag]

/-- A slot that still holds an object after a sweep is of the generation that it was. -/
theorem swept_generation {s : Slot} {c : Cell} (hc : s.swept.cell = some c) :
    s.swept.generation = s.generation := by
  obtain ⟨generation, cell⟩ := s
  rcases cell with _ | ⟨reached, o⟩
  · rfl
  · cases reached with
    | true => rfl
    | false => cases hc

/-- An empty slot is not changed by a sweep. -/
theorem swept_eq_self {s : Slot} (hs : s.cell = none) : s.swept = s := by
  rw [Slot.swept, hs]

/-- The cells after a sweep are those with a flag before it, without the flag. -/
theorem cell?_sweep_eq_some {c : Cell} :
    slab.sweep.cell? h = some c ↔ slab.cell? h = some c.flag ∧ c.reached = false := by
  simp only [cell?_eq_some, getElem?_sweep, Option.map_eq_some_iff]
  constructor
  · rintro ⟨_, ⟨s, hs, rfl⟩, hg, hc⟩
    obtain ⟨hcell, hr⟩ := swept_cell_eq_some.1 hc
    exact ⟨⟨s, hs, (swept_generation hc).symm.trans hg, hcell⟩, hr⟩
  · rintro ⟨⟨s, hs, hg, hcell⟩, hr⟩
    have hc := swept_cell_eq_some.2 ⟨hcell, hr⟩
    exact ⟨s.swept, ⟨s, hs, rfl⟩, (swept_generation hc).trans hg, hc⟩

/-- A sweep reclaims the white objects and leaves the others to their handles. -/
theorem object?_sweep :
    slab.sweep.object? h = if slab.isWhite h = true then none else slab.object? h := by
  apply Option.ext
  intro o
  rw [object?_eq_some]
  simp only [cell?_sweep_eq_some]
  by_cases hw : slab.isWhite h = true
  · obtain ⟨o', hc⟩ := isWhite_iff.1 hw
    simp [hw, hc, Cell.flag]
  · rw [if_neg hw, object?_eq_some]
    constructor
    · rintro ⟨reached, hc, -⟩
      exact ⟨true, hc⟩
    · rintro ⟨reached, hc⟩
      cases reached with
      | true => exact ⟨false, hc, rfl⟩
      | false => exact absurd (isWhite_iff.2 ⟨o, hc⟩) hw

/-- No object has a flag after a sweep. -/
theorem clear_sweep (slab : Slab) : slab.sweep.Clear := by
  intro i s c hs hc
  rw [getElem?_sweep] at hs
  obtain ⟨s', -, rfl⟩ := Option.map_eq_some_iff.1 hs
  exact (swept_cell_eq_some.1 hc).2

/-- Each occupied slot is counted as one that a sweep leaves occupied or as one with a white
object. -/
theorem countOccupied_sweep (slab : Slab) :
    slab.sweep.countOccupied + slab.countWhite = slab.countOccupied := by
  have hslot : ∀ s : Slot, (if s.isOccupied = true then 1 else 0) =
      (if s.swept.isOccupied = true then 1 else 0) + if s.isWhite = true then 1 else 0 := by
    rintro ⟨generation, _ | ⟨reached, o⟩⟩
    · rfl
    · cases reached <;> rfl
  simp only [countOccupied, countWhite, sweep, ← Array.countP_toList, Array.toList_map,
    List.countP_map]
  induction slab.toList with
  | nil => rfl
  | cons s rest ih =>
    simp only [List.countP_cons, Function.comp_apply, hslot s] at ih ⊢
    omega

/-- Marking keeps the slots occupied that are. -/
theorem countOccupied_mark : (slab.mark roots).countOccupied = slab.countOccupied := by
  rw [← ncard_live, ← ncard_live]
  simp only [(invariant_mark slab roots).flagged.object?]

/-! ## Sweeping after marking -/

/-- Where no object has a flag, none of a slot does. -/
theorem Clear.slot (hc : slab.Clear) (hs : slab[i]? = some s) : s.Clear := fun c => hc i s c hs

/-- The object of a white slot is reached by white objects if it is reached, where there are no
flags. -/
theorem reachesWhite_mk (hc : slab.Clear) (hs : slab[i]? = some s) (hw : s.isWhite = true) :
    slab.ReachesWhite roots ⟨i, s.generation⟩ ↔ slab.Reaches roots ⟨i, s.generation⟩ := by
  have hlive : (slab.object? ⟨i, s.generation⟩).isSome = true := by
    rw [← hc.isWhite, isWhite_mk hs, hw]
  rw [reachesWhite_iff_of_clear hc, and_iff_left hlive]

open Classical in
/-- Marking and sweeping a slab without flags leave the slots that the roots reach as they are, and
sweep the others. -/
theorem getElem?_sweep_mark (hc : slab.Clear) (i : Nat) : (slab.mark roots).sweep[i]? =
    slab[i]?.map fun s => if slab.Reaches roots ⟨i, s.generation⟩ then s else s.swept := by
  rw [getElem?_sweep, getElem?_mark]
  cases hs : slab[i]? with
  | none => rfl
  | some s =>
    simp only [Option.map_some, Option.some_inj]
    by_cases hw : s.isWhite = true
    · rw [reachesWhite_mk hc hs hw]
      split
      · exact (hc.slot hs).swept_flag
      · rfl
    -- A slot that is not white is empty, and left as it is either way.
    · rw [Bool.not_eq_true] at hw
      rw [flag_eq_self hw, ite_self, swept_eq_self ((hc.slot hs).cell_eq_none hw), ite_self]

end

end Slab

namespace Heap

section
variable {heap : Heap} {roots later : List Handle} {h : Handle}

/-! ## Collecting -/

/-- The slab after a collection. -/
theorem slab_collect : (heap.collect roots).2.slab = (heap.slab.mark roots).sweep := rfl

open Classical in
/-- A collection reclaims the objects that marking leaves white. -/
theorem object?_collect_eq : (heap.collect roots).2.object? h =
    if heap.slab.isWhite h = true ∧ ¬ heap.slab.ReachesWhite roots h then none
    else heap.object? h := by
  rw [object?, slab_collect, Slab.object?_sweep,
    (Slab.invariant_mark heap.slab roots).flagged.object?, object?]
  simp only [Slab.isWhite_mark]

open Classical in
/-- A collection of a heap without flags leaves the objects that the roots reach, each to its
handle, and reclaims the others. -/
theorem object?_collect (hc : heap.slab.Clear) : (heap.collect roots).2.object? h =
    if heap.slab.Reaches roots h then heap.object? h else none := by
  rw [object?_collect_eq, hc.isWhite, Slab.reachesWhite_iff_of_clear hc]
  cases ho : heap.slab.object? h with
  | none => simp [object?, ho]
  | some o => by_cases hr : heap.slab.Reaches roots h <;> simp [hr]

open Classical in
/-- A collection of a heap without flags leaves the slots that the roots reach as they are, and
sweeps the others. -/
theorem getElem?_collect (hc : heap.slab.Clear) (i : Nat) : (heap.collect roots).2.slab[i]? =
    heap.slab[i]?.map fun s =>
      if heap.slab.Reaches roots ⟨i, s.generation⟩ then s else s.swept :=
  Slab.getElem?_sweep_mark hc i

/-- What some of the roots reach is what they reach after a collection from all. -/
theorem reaches_collect_of_subset (hc : heap.slab.Clear) (hsub : later ⊆ roots) :
    (heap.collect roots).2.slab.Reaches later h ↔ heap.slab.Reaches later h :=
  Slab.reaches_congr fun _ hr => (object?_collect hc).trans (if_pos (hr.mono hsub))

/-- What the roots reach is what they reach after a collection from them. -/
theorem reaches_collect (hc : heap.slab.Clear) :
    (heap.collect roots).2.slab.Reaches roots h ↔ heap.slab.Reaches roots h :=
  reaches_collect_of_subset hc (List.Subset.refl roots)

/-- A collection empties as many slots as it says that it reclaims. -/
theorem countOccupied_collect (heap : Heap) (roots : List Handle) :
    (heap.collect roots).2.slab.countOccupied + (heap.collect roots).1.reclaimed =
      heap.slab.countOccupied :=
  (Slab.countOccupied_sweep (heap.slab.mark roots)).trans Slab.countOccupied_mark

/-- A collection counts as live what is left, if it began with a right count. -/
theorem live_collect (hl : heap.live = heap.slab.countOccupied) :
    (heap.collect roots).2.live = (heap.collect roots).2.slab.countOccupied := by
  have hcount := countOccupied_collect heap roots
  show heap.live - (heap.collect roots).1.reclaimed = _
  omega

/-- A collection that began with a right count reclaims what does not remain. -/
theorem reclaimed_collect (hl : heap.live = heap.slab.countOccupied) :
    (heap.collect roots).1.reclaimed =
      (heap.collect roots).1.before - (heap.collect roots).1.remaining := by
  have hcount := countOccupied_collect heap roots
  show (heap.collect roots).1.reclaimed =
    heap.live - (heap.live - (heap.collect roots).1.reclaimed)
  omega

end

end Heap

end RootedHeap
