import RootedHeap.Proofs.Marking
import Mathlib.Data.List.Chain

/-!
# White paths

A white path is a row of handles that begins with a root and goes on from each pair to its head or
to its tail, and all the objects on it are live and without a flag (`Slab.WhitePath`). What is
reached by white objects is what white paths lead to (`Slab.reachesWhite_iff_exists_path`). So
marking flags the objects to which a white path leads, whatever flags there were before and whatever
the fields name, and it touches nothing but these flags (`Heap.mark_white_paths`). A field that
names an earlier object of a slot leads nowhere: its handle is of another generation than the slot.
-/

namespace RootedHeap

/-- The slot with the flag of its object cleared. -/
def Slot.unflagged (s : Slot) : Slot := { s with cell := s.cell.map ({ · with reached := false }) }

/-- A slot is the same without its flag, whether it is set or not. -/
theorem Slot.unflagged_flag (s : Slot) : s.flag.unflagged = s.unflagged := by
  cases hc : s.cell <;> simp [flag, unflagged, Cell.flag, hc]

namespace Slab

/-- Whether a handle names an object that has a flag. -/
def isFlagged (slab : Slab) (h : Handle) : Bool := (slab.cell? h).any (·.reached)

/-- A handle is the head or the tail of the pair that another one names. -/
def Links (slab : Slab) (p q : Handle) : Prop :=
  ∃ head tail, slab.object? p = some (.pair head tail) ∧ (q = head ∨ q = tail)

/-- A path of white objects from a root to a handle. -/
structure WhitePath (slab : Slab) (roots path : List Handle) (h : Handle) : Prop where
  /-- It begins with a root. -/
  first : ∃ r ∈ roots, path.head? = some r
  /-- It goes on from each handle to a field of what this names. -/
  linked : path.IsChain slab.Links
  /-- All that is named on the path, its ends included, is live and has no flag. -/
  white : ∀ p ∈ path, slab.isWhite p = true
  /-- It leads to the handle. -/
  last : path.getLast? = some h

section
variable {slab : Slab} {roots path : List Handle} {p q h : Handle}

/-- The fields of a handle are those that it links to. -/
theorem links_iff : slab.Links p q ↔ q ∈ slab.fields p := by
  rw [mem_fields]
  constructor
  · rintro ⟨head, tail, ho, hq⟩
    exact ⟨_, ho, Object.mem_fields_pair.2 hq⟩
  · rintro ⟨o, ho, hq⟩
    cases o with
    | scalar value => cases hq
    | pair head tail => exact ⟨head, tail, ho, Object.mem_fields_pair.1 hq⟩

/-- A white path that begins with what is reached stays within it. -/
theorem reachesWhite_of_isChain (hlinked : path.IsChain slab.Links)
    (hwhite : ∀ p ∈ path, slab.isWhite p = true)
    (hfirst : ∀ r, path.head? = some r → slab.ReachesWhite roots r) :
    ∀ p ∈ path, slab.ReachesWhite roots p := by
  induction hlinked with
  | nil => simp
  | singleton r => simpa using hfirst
  | @cons_cons p q rest hpq _ ih =>
    have hp := hfirst p rfl
    have hq : slab.ReachesWhite roots q := .field hp (links_iff.1 hpq) (hwhite q (by simp))
    have hrest := ih (fun p hp => hwhite p (.tail _ hp)) fun r hr => by
      cases hr
      exact hq
    exact List.forall_mem_cons.2 ⟨hp, hrest⟩

/-- A white path to a handle goes on to each white field of it. -/
theorem WhitePath.concat (hpath : slab.WhitePath roots path p) (hq : q ∈ slab.fields p)
    (hwhite : slab.isWhite q = true) : slab.WhitePath roots (path ++ [q]) q := by
  obtain ⟨before, rfl⟩ := List.getLast?_eq_some_iff.1 hpath.last
  constructor
  · obtain ⟨r, hr, hhead⟩ := hpath.first
    exact ⟨r, hr, by rw [List.head?_append, hhead]; rfl⟩
  · refine hpath.linked.append (.singleton q) ?_
    simpa using links_iff.2 hq
  · intro p hp
    rcases List.mem_append.1 hp with hp | hp
    · exact hpath.white p hp
    · rwa [List.mem_singleton.1 hp]
  · exact List.getLast?_concat

/-- What is reached by white objects is what white paths lead to. -/
theorem reachesWhite_iff_exists_path :
    slab.ReachesWhite roots h ↔ ∃ path, slab.WhitePath roots path h := by
  constructor
  · intro hr
    induction hr with
    | @root r hmem hwhite => exact ⟨[r], ⟨r, hmem, rfl⟩, .singleton r, by simpa using hwhite, rfl⟩
    | field _ hf hwhite ih =>
      obtain ⟨path, hpath⟩ := ih
      exact ⟨_, hpath.concat hf hwhite⟩
  · rintro ⟨path, hpath⟩
    refine reachesWhite_of_isChain hpath.linked hpath.white ?_ h
      (List.mem_of_getLast? hpath.last)
    intro r hr
    obtain ⟨r', hr', hhead⟩ := hpath.first
    obtain rfl : r' = r := Option.some_inj.1 (hhead.symm.trans hr)
    exact .root hr' (hpath.white r' (List.mem_of_head? hr))

/-- An object that is live has a flag if it is not white. -/
theorem isFlagged_iff :
    slab.isFlagged h = true ↔ (slab.object? h).isSome = true ∧ slab.isWhite h = false := by
  rw [isSome_object?, isFlagged, isWhite]
  cases slab.cell? h <;> simp

/-- Marking gives a flag to what is reached by white objects, and takes none away. -/
theorem isFlagged_mark : (slab.mark roots).isFlagged h = true ↔
    slab.isFlagged h = true ∨ slab.ReachesWhite roots h := by
  have hwhite : (slab.mark roots).isWhite h = true ↔
      slab.isWhite h = true ∧ ¬ slab.ReachesWhite roots h := isWhite_mark
  rw [isFlagged_iff, isFlagged_iff, (invariant_mark slab roots).flagged.object?]
  rw [← Bool.not_eq_true, ← Bool.not_eq_true, hwhite, not_and_not_right]
  constructor
  · rintro ⟨hlive, himp⟩
    by_cases hw : slab.isWhite h = true
    · exact .inr (himp hw)
    · exact .inl ⟨hlive, hw⟩
  · rintro (⟨hlive, hw⟩ | hr)
    · exact ⟨hlive, fun hw' => absurd hw' hw⟩
    · obtain ⟨o, hc⟩ := isWhite_iff.1 hr.isWhite
      exact ⟨by rw [isSome_object?, hc]; rfl, fun _ => hr⟩

/-- Without flags, a slab is after marking what it was before. -/
theorem map_unflagged_mark (slab : Slab) (roots : List Handle) :
    (slab.mark roots).map Slot.unflagged = slab.map Slot.unflagged := by
  apply Array.ext_getElem?
  intro i
  rw [Array.getElem?_map, Array.getElem?_map]
  rcases (invariant_mark slab roots).flagged i with hf | hf
  · exact congrArg _ hf
  · rw [show (slab.mark roots)[i]? = _ from hf, Option.map_map]
    exact congrArg (Option.map · _) (funext Slot.unflagged_flag)

end

end Slab

/-- After marking, an object has a flag just if it had one before or a path of live objects without
flags leads to it from a root, from each pair to its head or its tail. Nothing else of the heap is
changed: its slots without their flags are what they were, and so are the free list, the count of
live objects, the threshold and the cap. -/
theorem Heap.mark_white_paths (heap : Heap) (roots : List Handle) :
    (∀ h, (heap.mark roots).slab.isFlagged h = true ↔
      heap.slab.isFlagged h = true ∨ ∃ path, heap.slab.WhitePath roots path h) ∧
    (heap.mark roots).slab.map Slot.unflagged = heap.slab.map Slot.unflagged ∧
    { heap.mark roots with slab := heap.slab } = heap := by
  refine ⟨fun h => ?_, Slab.map_unflagged_mark heap.slab roots, rfl⟩
  rw [← Slab.reachesWhite_iff_exists_path]
  exact Slab.isFlagged_mark

/-- A pair with a handle that its slot has left, and with a flagged pair before a scalar: neither
the new object of the slot nor the scalar is flagged. -/
example :
    let slab : Slab :=
      #[⟨0, some ⟨false, .pair ⟨1, 0⟩ ⟨2, 0⟩⟩⟩, ⟨1, some ⟨false, .scalar 1⟩⟩,
        ⟨0, some ⟨true, .pair ⟨3, 0⟩ ⟨3, 0⟩⟩⟩, ⟨0, some ⟨false, .scalar 2⟩⟩]
    [⟨0, 0⟩, ⟨1, 1⟩, ⟨2, 0⟩, ⟨3, 0⟩].map (slab.mark [⟨0, 0⟩]).isFlagged =
      [true, false, true, false] := by
  decide +kernel

end RootedHeap
