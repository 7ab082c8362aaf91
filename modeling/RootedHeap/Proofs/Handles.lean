import RootedHeap.Proofs.HeapCalls

/-!
# Handles are never reused

A handle that an allocation gives out is live until its object is reclaimed, and from then on it is
spent (`Heap.Effect.contains_or_spent`). Neither a live handle nor a spent one is given out next, so
no two allocations give the same handle (`Heap.Registered`). That holds of any calls on a heap, in
any order. What is not live any more never is again, and a slot whose last object had the last
generation is never given out again, under whatever handle (`Heap.handles_never_reused`).
-/

namespace RootedHeap

namespace Heap

/-- The handle that an answer gives, if it gives one. -/
def givenHandle : Except HeapError Reply → List Handle
  | .ok (.allocated h) => [h]
  | .ok .done | .ok (.collected _) | .ok (.swept _) | .error _ => []

/-- The handles that the allocations among calls give, one after the other. -/
def issued (heap : Heap) (calls : List Call) : List Handle :=
  (heap.replies calls).flatMap givenHandle

/-- A heap on which allocations have given out handles: no two of them the same, and each of them
live or spent. -/
structure Registered (heap : Heap) (handles : List Handle) : Prop where
  freeList : heap.slab.FreeList heap.free
  nodup : handles.Nodup
  known : ∀ h ∈ handles, heap.contains h = true ∨ heap.slab.Spent heap.free h

section
variable {heap heap' : Heap} {call : Call} {result : Except HeapError Reply}
  {handles : List Handle} {h : Handle}

/-! ## One call -/

/-- No effect of a call brings a spent handle back. -/
theorem Effect.spent (he : Effect heap call result heap') (hf : heap.slab.FreeList heap.free)
    (hh : heap.slab.Spent heap.free h) : heap'.slab.Spent heap'.free h := by
  cases he with
  | refused => exact hh
  | @allocated object hfull =>
    rw [alloc_eq hfull]
    exact spent_alloc hf hh object
  | headSet | tailSet => exact hh.congr (Slab.sameShape_setObject _ _ _)
  | collected roots => exact spent_collect hh
  | marked roots => exact hh.congr (Slab.sameShape_mark _ roots)
  | swept => exact hh.sweep

/-- A live handle is live or spent after a call. -/
theorem Effect.contains_or_spent (he : Effect heap call result heap')
    (hf : heap.slab.FreeList heap.free) (hh : heap.contains h = true) :
    heap'.contains h = true ∨ heap'.slab.Spent heap'.free h := by
  cases he with
  | refused => exact .inl hh
  | @allocated object hfull =>
    refine .inl ?_
    rw [contains, object?_alloc hf hfull]
    split
    · rfl
    · exact hh
  | headSet hv hp | tailSet hv hp =>
    have hpair : (heap.slab.object? _).isSome = true := Option.isSome_iff_exists.2 ⟨_, hp⟩
    exact .inl ((Slab.isSome_object?_setObject hpair _).trans hh)
  | marked roots =>
    refine .inl ?_
    rw [contains, object?, mark, (Slab.invariant_mark heap.slab roots).flagged.object?]
    exact hh
  | collected roots =>
    cases hgone : (heap.collect roots).2.object? h with
    | some o => exact .inl (by rw [contains, hgone]; rfl)
    | none => exact .inr (spent_collect_of_reclaimed hf hh hgone)
  | swept =>
    by_cases hw : heap.slab.isWhite h = true
    · exact .inr (Slab.spent_sweep_of_isWhite hf hw)
    · refine .inl ?_
      rw [contains, object?, sweep, Slab.object?_sweep, if_neg hw]
      exact hh

/-- A handle that a call gives out is the next one, and it is live afterwards. -/
theorem Effect.given (he : Effect heap call result heap') (hf : heap.slab.FreeList heap.free)
    (hh : h ∈ givenHandle result) : h = heap.nextHandle ∧ heap'.contains h = true := by
  cases he with
  | @allocated object hfull =>
    obtain rfl := List.mem_singleton.1 hh
    refine ⟨rfl, ?_⟩
    rw [contains, object?_alloc hf hfull, if_pos rfl]
    rfl
  | refused | headSet | tailSet | marked | collected | swept => cases hh

/-- A heap without objects has given out no handle. -/
theorem registered_empty (threshold : Nat) (cap : Option Nat) :
    (empty threshold cap).Registered [] where
  freeList := freeList_empty threshold cap
  nodup := List.nodup_nil
  known _ hmem := absurd hmem List.not_mem_nil

/-- The next handle has not been given out. -/
theorem Registered.nextHandle_not_mem (hr : heap.Registered handles) :
    heap.nextHandle ∉ handles := by
  intro hmem
  rcases hr.known _ hmem with hlive | hspent
  · rw [contains, object?_nextHandle hr.freeList] at hlive
    cases hlive
  · exact not_spent_nextHandle heap hspent

/-- An effect of a call gives out a new handle or none. -/
theorem Effect.registered (he : Effect heap call result heap') (hr : heap.Registered handles) :
    heap'.Registered (handles ++ givenHandle result) where
  freeList := he.freeList hr.freeList
  nodup := by
    cases he with
    | allocated =>
      rw [givenHandle, ← List.concat_eq_append]
      exact List.Nodup.concat hr.nextHandle_not_mem hr.nodup
    | refused | headSet | tailSet | marked | collected | swept =>
      simpa [givenHandle] using hr.nodup
  known h hmem := by
    rcases List.mem_append.1 hmem with hmem | hmem
    · rcases hr.known h hmem with hlive | hspent
      · exact he.contains_or_spent hr.freeList hlive
      · exact .inr (he.spent hr.freeList hspent)
    · exact .inl (he.given hr.freeList hmem).2

/-! ## A run of calls -/

/-- Whatever calls are made, the handles that they give out are registered. -/
theorem registered_performAll (threshold : Nat) (cap : Option Nat) (calls : List Call) :
    ((empty threshold cap).performAll calls).Registered
      ((empty threshold cap).issued calls) := by
  refine performAll_induct (P := fun heap answers => heap.Registered (answers.flatMap givenHandle))
    (fun he hr => ?_) (registered_empty threshold cap) calls
  rw [List.flatMap_append, List.flatMap_singleton]
  exact he.registered hr

/-- Calls do not bring a spent handle back. -/
theorem spent_performAll (hf : heap.slab.FreeList heap.free) (hh : heap.slab.Spent heap.free h)
    (calls : List Call) :
    (heap.performAll calls).slab.Spent (heap.performAll calls).free h :=
  (performAll_induct
    (P := fun heap _ => heap.slab.FreeList heap.free ∧ heap.slab.Spent heap.free h)
    (fun he hkept => ⟨he.freeList hkept.1, he.spent hkept.1 hkept.2⟩) ⟨hf, hh⟩ calls).2

/-- No allocation uses the slot of a spent handle of the last generation: only the handle itself
could be given out there. -/
theorem index_ne_of_lastGeneration (hh : heap.slab.Spent heap.free h)
    (hlast : h.generation = Slot.lastGeneration) : heap.nextHandle.index ≠ h.index := by
  -- A slot cannot have moved on from the last generation, so the next handle would be the spent
  -- one.
  intro hidx
  obtain ⟨s, hs, hgen⟩ := hh
  have hsame : h.generation = s.generation := by
    rcases hgen with hlt | ⟨heq, -, -⟩
    · rw [hlast, UInt32.lt_iff_toNat_lt] at hlt
      have := s.generation.toNat_lt
      have : Slot.lastGeneration.toNat = 4294967295 := rfl
      omega
    · exact heq
  have hnext : heap.nextHandle.generation = s.generation := by
    show heap.slab.generationAt heap.nextHandle.index = s.generation
    rw [hidx, Slab.generationAt, hs]
    rfl
  have heq : heap.nextHandle = h := calc
    heap.nextHandle = ⟨heap.nextHandle.index, heap.nextHandle.generation⟩ := rfl
    _ = ⟨h.index, h.generation⟩ := by rw [hidx, hnext, hsame]
    _ = h := rfl
  exact not_spent_nextHandle heap (heq ▸ ⟨s, hs, hgen⟩)

/-- A slot is retired with a spent handle of the last generation: calls give out no handle of it. -/
theorem index_ne_of_mem_issued (hf : heap.slab.FreeList heap.free)
    (hh : heap.slab.Spent heap.free h) (hlast : h.generation = Slot.lastGeneration)
    {calls : List Call} {g : Handle} (hg : g ∈ heap.issued calls) : g.index ≠ h.index := by
  induction calls generalizing heap with
  | nil => cases hg
  | cons call calls ih =>
    have he := perform_effect heap call
    -- What the first call gives out is the next handle; the rest is given out by the heap after it.
    rcases List.mem_append.1 hg with hg | hg
    · rw [(he.given hf hg).1]
      exact index_ne_of_lastGeneration hh hlast
    · exact ih (he.freeList hf) (he.spent hf hh) hg

/-- What is given out by calls after others is given out by the heap that these leave. -/
theorem issued_append (heap : Heap) (calls later : List Call) :
    heap.issued (calls ++ later) = heap.issued calls ++ (heap.performAll calls).issued later := by
  induction calls generalizing heap with
  | nil => rfl
  | cons call calls ih =>
    have hrest := ih (heap.perform call).2
    show givenHandle _ ++ issued _ (calls ++ later) = (givenHandle _ ++ issued _ calls) ++ _
    rw [hrest, List.append_assoc]
    rfl

end

/-! ## One slot through its generations -/

/-- A heap with one object, in a slot of a generation. -/
def single (generation : UInt32) (object : Object) (live threshold : Nat) : Heap where
  slab := #[⟨generation, some ⟨false, object⟩⟩]
  live := live
  threshold := threshold
  initialThreshold := threshold

/-- Rounds of calls, each of which sweeps an object away and allocates it again. -/
def rounds (object : Object) : Nat → List Call
  | 0 => []
  | n + 1 => [.sweep, .alloc object] ++ rounds object n

/-- Calls that take the first slot through all its generations, and sweep its last object away. -/
def retiring (object : Object) : List Call :=
  [.alloc object] ++ rounds object 4294967294 ++ [.sweep, .alloc object, .sweep]

section
variable {generation : UInt32} {live threshold n : Nat} {object : Object}

/-- A round takes the only slot to its next generation. -/
theorem performAll_round (hg : generation ≠ Slot.lastGeneration) :
    (single generation object live threshold).performAll [.sweep, .alloc object] =
      single (generation + 1) object (live + 1) threshold := by
  simp [performAll, perform, alloc, isFull, single, sweep, nextSlot, Slab.put, Slab.sweep,
    Slot.swept, Slot.nextGeneration, hg, Slab.recyclable, Slot.isRecyclable, Slot.isWhite,
    Array.modify, Array.modifyM]

/-- Rounds take the only slot through as many generations, if it has them. -/
theorem performAll_rounds (hn : generation.toNat + n < UInt32.size) :
    (single generation object live threshold).performAll (rounds object n) =
      single (generation + .ofNat n) object (live + n) threshold := by
  induction n generalizing generation live with
  | zero => simp [rounds, performAll]
  | succ n ih =>
    have hlast : generation ≠ Slot.lastGeneration := by
      rintro rfl
      have : Slot.lastGeneration.toNat + 1 = UInt32.size := rfl
      omega
    have hnext : (generation + 1).toNat = generation.toNat + 1 := by
      rw [UInt32.toNat_add, Nat.mod_eq_of_lt]
      · rfl
      · show generation.toNat + 1 < UInt32.size
        omega
    rw [rounds, performAll_append, performAll_round hlast, ih (by omega)]
    congr 1
    · rw [UInt32.ofNat_add, UInt32.add_assoc, UInt32.add_comm 1]
      rfl
    · omega

/-! ## Every handle once -/

/-- Whatever calls are made on a heap, in any order, no two of its allocations give the same handle.
A handle that was given out and is not live any more names no object, and is not found in any slot,
after whatever calls follow. If it is of the last generation, none of these calls gives out a handle
of its slot. -/
theorem handles_never_reused (threshold : Nat) (cap : Option Nat) (calls : List Call) :
    ((empty threshold cap).issued calls).Nodup ∧
    ∀ h ∈ (empty threshold cap).issued calls,
      ((empty threshold cap).performAll calls).contains h = false → ∀ later,
        ((empty threshold cap).performAll (calls ++ later)).contains h = false ∧
        ((empty threshold cap).performAll (calls ++ later)).object? h = none ∧
        (∀ i, ((empty threshold cap).performAll (calls ++ later)).resolve? i ≠ some h) ∧
        (h.generation = Slot.lastGeneration →
          ∀ g ∈ ((empty threshold cap).performAll calls).issued later, g.index ≠ h.index) := by
  have hr := registered_performAll threshold cap calls
  refine ⟨hr.nodup, fun h hmem hdead later => ?_⟩
  have hspent : ((empty threshold cap).performAll calls).slab.Spent
      ((empty threshold cap).performAll calls).free h := by
    rcases hr.known h hmem with hlive | hspent
    · rw [hdead] at hlive
      cases hlive
    · exact hspent
  have hlater := (spent_performAll hr.freeList hspent later).object?
  rw [← performAll_append] at hlater
  refine ⟨?_, hlater, fun i hi => ?_, fun hlast g hg => ?_⟩
  · rw [contains, object?, hlater]
    rfl
  · have hlive := Slab.isSome_object?.trans (Slab.handleAt?_eq_some.1 hi).2
    rw [hlater] at hlive
    cases hlive
  · exact index_ne_of_mem_issued hr.freeList hspent hlast hg

/-- A slot that has been through all its generations is retired: its last handle is spent, and the
next object is put into another slot. -/
theorem handles_never_reused_retired :
    ⟨0, Slot.lastGeneration⟩ ∈ (empty 8 none).issued (retiring (.scalar 1)) ∧
    ((empty 8 none).performAll (retiring (.scalar 1) ++ [.alloc (.scalar 1)])).contains
      ⟨0, Slot.lastGeneration⟩ = false ∧
    ∀ g ∈ ((empty 8 none).performAll (retiring (.scalar 1))).issued [.alloc (.scalar 1)],
      g.index ≠ 0 := by
  have hstart : (empty 8 none).performAll [.alloc (.scalar 1)] = single 0 (.scalar 1) 1 8 := rfl
  have hlong : (empty 8 none).performAll
      ([.alloc (.scalar 1)] ++ rounds (.scalar 1) 4294967294) =
        single 4294967294 (.scalar 1) 4294967295 8 := by
    rw [performAll_append, hstart, performAll_rounds (by decide)]
    rfl
  have hlast : (single 4294967294 (.scalar 1) 4294967295 8).issued
      [.sweep, .alloc (.scalar 1), .sweep] = [⟨0, Slot.lastGeneration⟩] := by decide +kernel
  have hmem : ⟨0, Slot.lastGeneration⟩ ∈ (empty 8 none).issued (retiring (.scalar 1)) := by
    rw [retiring, issued_append, hlong, hlast]
    exact List.mem_append_right _ (.head _)
  have hdead : ((empty 8 none).performAll (retiring (.scalar 1))).contains
      ⟨0, Slot.lastGeneration⟩ = false := by
    rw [retiring, performAll_append, hlong]
    decide +kernel
  obtain ⟨hlater, -, -, hretired⟩ :=
    (handles_never_reused 8 none _).2 _ hmem hdead [.alloc (.scalar 1)]
  exact ⟨hmem, hlater, hretired rfl⟩

end

end Heap

end RootedHeap
