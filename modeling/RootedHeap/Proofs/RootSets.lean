import RootedHeap.Proofs.Marking

/-!
# Roots as a set

Marking goes through its roots in order, and which objects it visits when depends on that order. The
flags that are left do not: they are those of the objects that some root reaches by white objects,
and for this the order of the roots and their repetitions make no difference
(`Slab.reachesWhite_congr`). A second marking passes over what the first has flagged, and this cuts
the paths of its own roots; but whatever lies behind the cut has been reached by the first
(`Slab.reachesWhite_append`). So two markings are one from the roots of both, and collections from
the same set of roots are the same (`Heap.mark_collect_of_sets`).
-/

namespace RootedHeap

namespace Slab

section
variable {slab : Slab} {roots roots' : List Handle} {h : Handle}

/-- More roots reach more by white objects. -/
theorem ReachesWhite.mono (hr : slab.ReachesWhite roots h) (hsub : roots ⊆ roots') :
    slab.ReachesWhite roots' h := by
  induction hr with
  | root hmem hw => exact .root (hsub hmem) hw
  | field _ hf hw ih => exact .field ih hf hw

/-- The same set of roots reaches the same by white objects. -/
theorem reachesWhite_congr (hsame : ∀ h, h ∈ roots ↔ h ∈ roots') :
    slab.ReachesWhite roots h ↔ slab.ReachesWhite roots' h :=
  ⟨fun hr => hr.mono fun r => (hsame r).1, fun hr => hr.mono fun r => (hsame r).2⟩

open Classical in
/-- Marking from the same set of roots sets the same flags. -/
theorem mark_congr (hsame : ∀ h, h ∈ roots ↔ h ∈ roots') : slab.mark roots = slab.mark roots' := by
  apply Array.ext_getElem?
  intro i
  simp only [getElem?_mark, reachesWhite_congr hsame]

/-- What is reached by objects that are white after marking was reached so before. -/
theorem ReachesWhite.of_mark (hr : (slab.mark roots).ReachesWhite roots' h) :
    slab.ReachesWhite roots' h := by
  have hflagged := (invariant_mark slab roots).flagged
  induction hr with
  | root hmem hw => exact .root hmem (hflagged.isWhite hw)
  | field _ hf hw ih => exact .field ih (hflagged.fields ▸ hf) (hflagged.isWhite hw)

/-- What two lists of roots reach by white objects, the first reaches, or the second still does once
that has been flagged. -/
theorem reachesWhite_append : slab.ReachesWhite (roots ++ roots') h ↔
    slab.ReachesWhite roots h ∨ (slab.mark roots).ReachesWhite roots' h := by
  constructor
  · intro hr
    -- A path of the second roots is whole after the marking, or from where it meets what the first
    -- roots reach it belongs to these.
    induction hr with
    | @root h hmem hw =>
      by_cases hfirst : slab.ReachesWhite roots h
      · exact .inl hfirst
      · have hmem' : h ∈ roots' :=
          (List.mem_append.1 hmem).resolve_left fun hroot => hfirst (.root hroot hw)
        exact .inr (.root hmem' (isWhite_mark.2 ⟨hw, hfirst⟩))
    | @field p h _ hf hw ih =>
      by_cases hfirst : slab.ReachesWhite roots h
      · exact .inl hfirst
      · have hp := ih.resolve_left fun hp => hfirst (.field hp hf hw)
        have hf' : h ∈ (slab.mark roots).fields p :=
          (invariant_mark slab roots).flagged.fields.symm ▸ hf
        exact .inr (.field hp hf' (isWhite_mark.2 ⟨hw, hfirst⟩))
  · rintro (hr | hr)
    · exact hr.mono (List.subset_append_left _ _)
    · exact hr.of_mark.mono (List.subset_append_right _ _)

open Classical in
/-- To mark from some roots and then from others is to mark from both. -/
theorem mark_mark (slab : Slab) (roots roots' : List Handle) :
    (slab.mark roots).mark roots' = slab.mark (roots ++ roots') := by
  apply Array.ext_getElem?
  intro i
  rw [getElem?_mark, getElem?_mark, getElem?_mark, Option.map_map]
  refine congrArg (Option.map · slab[i]?) (funext fun s => ?_)
  rw [Function.comp_apply]
  by_cases hfirst : slab.ReachesWhite roots ⟨i, s.generation⟩
  · rw [if_pos hfirst, if_pos (reachesWhite_append.2 (.inl hfirst)),
      flag_eq_self (isWhite_slot_flag s), ite_self]
  · have hiff : slab.ReachesWhite (roots ++ roots') ⟨i, s.generation⟩ ↔
        (slab.mark roots).ReachesWhite roots' ⟨i, s.generation⟩ :=
      reachesWhite_append.trans (or_iff_right hfirst)
    rw [if_neg hfirst]
    simp only [hiff]

end

end Slab

namespace Heap

/-- To mark from some roots and then from others is to mark once from both. When two lists of roots
have the same handles, in whatever order and however often, marking makes the same heap from both,
and a collection does, with the same record. -/
theorem mark_collect_of_sets (heap : Heap) (roots roots' : List Handle) :
    (heap.mark roots).mark roots' = heap.mark (roots ++ roots') ∧
    ((∀ h, h ∈ roots ↔ h ∈ roots') →
      heap.mark roots = heap.mark roots' ∧ heap.collect roots = heap.collect roots') := by
  refine ⟨congrArg ({ heap with slab := · }) (Slab.mark_mark heap.slab roots roots'), ?_⟩
  intro hsame
  have hmark : heap.mark roots = heap.mark roots' :=
    congrArg ({ heap with slab := · }) (Slab.mark_congr hsame)
  refine ⟨hmark, ?_⟩
  rw [collect, collect, hmark]

/-- Roots in two orders, the second with a repetition: a scalar, and a pair that names itself and
the scalar. Another pair has an old flag and is kept unreached, and another scalar is reclaimed. -/
theorem mark_collect_of_sets_repeated :
    let heap : Heap :=
      { slab := #[⟨0, some ⟨false, .scalar 1⟩⟩, ⟨3, some ⟨false, .pair ⟨1, 3⟩ ⟨0, 0⟩⟩⟩,
          ⟨0, some ⟨true, .pair ⟨1, 3⟩ ⟨5, 0⟩⟩⟩, ⟨0, some ⟨false, .scalar 2⟩⟩]
        live := 4
        threshold := 8
        initialThreshold := 8 }
    (∀ h, h ∈ [⟨1, 3⟩, ⟨0, 0⟩] ↔ h ∈ [⟨0, 0⟩, ⟨1, 3⟩, (⟨0, 0⟩ : Handle)]) ∧
    heap.mark [⟨1, 3⟩, ⟨0, 0⟩] = heap.mark [⟨0, 0⟩, ⟨1, 3⟩, ⟨0, 0⟩] ∧
    heap.collect [⟨1, 3⟩, ⟨0, 0⟩] = heap.collect [⟨0, 0⟩, ⟨1, 3⟩, ⟨0, 0⟩] ∧
    (heap.collect [⟨1, 3⟩, ⟨0, 0⟩]).1 = ⟨4, 1, 3, 6⟩ := by
  intro heap
  have hsame : ∀ h, h ∈ [⟨1, 3⟩, ⟨0, 0⟩] ↔ h ∈ [⟨0, 0⟩, ⟨1, 3⟩, (⟨0, 0⟩ : Handle)] := by
    intro h
    simp only [List.mem_cons, List.not_mem_nil, or_false]
    tauto
  obtain ⟨hmark, hcollect⟩ := (mark_collect_of_sets heap _ _).2 hsame
  exact ⟨hsame, hmark, hcollect, by decide +kernel⟩

end Heap

end RootedHeap
