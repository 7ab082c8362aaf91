import RootedHeap.Proofs.HeapCalls

/-!
# Flags left behind

Marking passes over an object that has a flag already, and so does the marking of a collection.
Marking by itself leaves its flags behind; a collection that finds them does not follow the fields
of these objects. So a collection keeps what its roots reach (`Heap.Keeps`) exactly if they reach
each white field of an object with an old flag by white objects as well (`Heap.keeps_iff`). Without
old flags this holds of itself, and there are none unless marking was called by itself after the
last sweep (`Heap.clear_performAll`). `Heap.collect_keeps_reached` says both of every heap that
comes about by calls, and `Heap.not_keeps_after_mark` has a schedule that loses an object: mark,
allocate, set a field, collect.
-/

namespace RootedHeap

/-- The roots reach whatever white object they reach by white objects alone, if they so reach the
white fields of every object that has a flag. -/
theorem Slab.forall_reachesWhite_iff {slab : Slab} {roots : List Handle} :
    (∀ h, slab.Reaches roots h → slab.isWhite h = true → slab.ReachesWhite roots h) ↔
    ∀ p, slab.Reaches roots p → slab.isWhite p = false →
      ∀ f ∈ slab.fields p, slab.isWhite f = true → slab.ReachesWhite roots f := by
  constructor
  · intro hall p hp _ f hf hw
    exact hall f (.field hp hf) hw
  · intro hfields h hr
    induction hr with
    | root hmem => exact .root hmem
    | @field p f hp hf ih =>
      intro hw
      cases hpw : slab.isWhite p with
      | true => exact .field (ih hpw) hf hw
      | false => exact hfields p hp hpw f hf hw

namespace Heap

/-- A collection from some roots leaves to every handle that they reach the object that it names. -/
def Keeps (heap : Heap) (roots : List Handle) : Prop :=
  ∀ h, heap.slab.Reaches roots h → (heap.collect roots).2.object? h = heap.object? h

/-- Whether there may be flags after a call, when it is known whether there may be some before:
marking by itself leaves its own behind, and a sweep clears all. -/
def Call.leavesFlags (before : Bool) : Call → Bool
  | .mark _ => true
  | .sweep | .collect _ => false
  | .alloc _ | .starved | .setHead _ _ | .setTail _ _ => before

/-- Whether calls on a heap without objects may leave flags: marking by itself is among them, and no
sweep comes after it. -/
def flagsLeft (calls : List Call) : Bool := calls.foldl Call.leavesFlags false

section
variable {heap heap' : Heap} {call : Call} {result : Except HeapError Reply} {flags : Bool}
  {roots : List Handle}

/-! ## Collections that find flags -/

/-- A collection keeps what its roots reach if they reach the white objects of it by white objects
alone. -/
theorem keeps_iff_forall_reachesWhite : heap.Keeps roots ↔
    ∀ h, heap.slab.Reaches roots h → heap.slab.isWhite h = true →
      heap.slab.ReachesWhite roots h := by
  unfold Keeps
  refine forall₂_congr fun h _ => ?_
  rw [object?_collect_eq]
  constructor
  · intro hkept hw
    by_contra hnot
    obtain ⟨o, hc⟩ := Slab.isWhite_iff.1 hw
    have ho : heap.object? h = some o := Slab.object?_eq_some.2 ⟨false, hc⟩
    rw [if_pos ⟨hw, hnot⟩, ho] at hkept
    cases hkept
  · intro hreached
    rw [if_neg]
    rintro ⟨hw, hnot⟩
    exact hnot (hreached hw)

/-- A collection keeps what its roots reach if they reach the white fields of objects with a flag by
white objects. -/
theorem keeps_iff : heap.Keeps roots ↔
    ∀ p, heap.slab.Reaches roots p → heap.slab.isWhite p = false →
      ∀ f ∈ heap.slab.fields p, heap.slab.isWhite f = true → heap.slab.ReachesWhite roots f :=
  keeps_iff_forall_reachesWhite.trans Slab.forall_reachesWhite_iff

/-- A collection of a heap without flags keeps what its roots reach. -/
theorem keeps_of_clear (hc : heap.slab.Clear) : heap.Keeps roots := by
  intro h hr
  rw [object?_collect hc, if_pos hr]

/-! ## Calls that leave flags -/

/-- An effect of a call sets no flag, unless the call is for marking. -/
theorem Effect.clear (he : Effect heap call result heap') (hf : heap.slab.FreeList heap.free)
    (hc : heap.slab.Clear) (hcall : ∀ roots, call ≠ .mark roots) : heap'.slab.Clear := by
  cases he with
  | refused => exact hc
  | @allocated object hfull =>
    rw [alloc_eq hfull]
    exact hc.put (vacant_nextSlot hf).1 object
  | headSet | tailSet => exact hc.setObject _ _
  | collected => exact Slab.clear_sweep _
  | marked roots => exact absurd rfl (hcall roots)
  | swept => exact Slab.clear_sweep _

/-- There are no flags after a call that leaves none. -/
theorem clear_perform (hf : heap.slab.FreeList heap.free) (hc : flags = false → heap.slab.Clear)
    (hnone : call.leavesFlags flags = false) : (heap.perform call).2.slab.Clear := by
  cases call with
  | alloc | starved | setHead | setTail =>
    exact (perform_effect heap _).clear hf (hc hnone) (by simp)
  | collect | sweep => exact Slab.clear_sweep _
  | mark => cases hnone

/-- There are no flags after calls that leave none. -/
theorem clear_performAll {calls : List Call} (hf : heap.slab.FreeList heap.free)
    (hc : flags = false → heap.slab.Clear)
    (hnone : calls.foldl Call.leavesFlags flags = false) : (heap.performAll calls).slab.Clear := by
  induction calls generalizing heap flags with
  | nil => exact hc hnone
  | cons call calls ih =>
    have hf' := (perform_effect heap call).freeList hf
    exact ih hf' (fun hnone => clear_perform hf hc hnone) hnone

/-- A heap without objects has no flags. -/
theorem clear_empty (threshold : Nat) (cap : Option Nat) : (empty threshold cap).slab.Clear := by
  intro i s c hs
  have hnone : (empty threshold cap).slab[i]? = none := rfl
  rw [hnone] at hs
  cases hs

/-- Whatever calls are made on a heap, in any order, a collection after them frees nothing that its
roots reach exactly if, of each object that they reach and that has a flag, they reach the white
fields by white objects too. So it frees nothing that they reach if no marking by itself is left
without a sweep after it. -/
theorem collect_keeps_reached (threshold : Nat) (cap : Option Nat) (calls : List Call)
    (roots : List Handle) :
    let heap := (empty threshold cap).performAll calls
    (heap.Keeps roots ↔
      ∀ p, heap.slab.Reaches roots p → heap.slab.isWhite p = false →
        ∀ f ∈ heap.slab.fields p, heap.slab.isWhite f = true →
          heap.slab.ReachesWhite roots f) ∧
    (flagsLeft calls = false → heap.Keeps roots) := by
  intro heap
  refine ⟨keeps_iff, fun hnone => keeps_of_clear ?_⟩
  have hclear := clear_empty threshold cap
  exact clear_performAll (freeList_empty threshold cap) (fun _ => hclear) hnone

/-- A field that is set once the flags are swept away is followed: what it names is kept. -/
theorem collect_keeps_reached_swept :
    flagsLeft [.alloc (.scalar 1), .alloc (.pair ⟨0, 0⟩ ⟨0, 0⟩), .mark [⟨1, 0⟩], .sweep,
      .alloc (.scalar 2), .setHead ⟨1, 0⟩ ⟨2, 0⟩] = false ∧
    ((empty 8 none).performAll [.alloc (.scalar 1), .alloc (.pair ⟨0, 0⟩ ⟨0, 0⟩), .mark [⟨1, 0⟩],
      .sweep, .alloc (.scalar 2), .setHead ⟨1, 0⟩ ⟨2, 0⟩]).Keeps [⟨1, 0⟩] := by
  have hnone : flagsLeft [.alloc (.scalar 1), .alloc (.pair ⟨0, 0⟩ ⟨0, 0⟩), .mark [⟨1, 0⟩], .sweep,
      .alloc (.scalar 2), .setHead ⟨1, 0⟩ ⟨2, 0⟩] = false := by decide
  exact ⟨hnone, (collect_keeps_reached 8 none _ [⟨1, 0⟩]).2 hnone⟩

/-- A field that is set between marking by itself and a collection is not followed: the pair has its
flag from before, and what its head names now is reclaimed. -/
theorem not_keeps_after_mark :
    ¬ ((empty 8 none).performAll [.alloc (.scalar 1), .alloc (.pair ⟨0, 0⟩ ⟨0, 0⟩), .mark [⟨1, 0⟩],
      .alloc (.scalar 2), .setHead ⟨1, 0⟩ ⟨2, 0⟩]).Keeps [⟨1, 0⟩] := by
  intro hkeeps
  have hfields : ((empty 8 none).performAll [.alloc (.scalar 1), .alloc (.pair ⟨0, 0⟩ ⟨0, 0⟩),
      .mark [⟨1, 0⟩], .alloc (.scalar 2), .setHead ⟨1, 0⟩ ⟨2, 0⟩]).slab.fields ⟨1, 0⟩ =
        [⟨0, 0⟩, ⟨2, 0⟩] := by decide +kernel
  have hlive : ((empty 8 none).performAll [.alloc (.scalar 1), .alloc (.pair ⟨0, 0⟩ ⟨0, 0⟩),
      .mark [⟨1, 0⟩], .alloc (.scalar 2), .setHead ⟨1, 0⟩ ⟨2, 0⟩]).object? ⟨2, 0⟩ =
        some (.scalar 2) := by decide +kernel
  have hlost : (((empty 8 none).performAll [.alloc (.scalar 1), .alloc (.pair ⟨0, 0⟩ ⟨0, 0⟩),
      .mark [⟨1, 0⟩], .alloc (.scalar 2), .setHead ⟨1, 0⟩ ⟨2, 0⟩]).collect
        [⟨1, 0⟩]).2.object? ⟨2, 0⟩ = none := by decide +kernel
  have hkept := by
    refine hkeeps ⟨2, 0⟩ (.field (.root (List.mem_singleton_self (⟨1, 0⟩ : Handle))) ?_)
    rw [hfields]
    exact .tail _ (.head _)
  rw [hlost, hlive] at hkept
  cases hkept

end

end Heap

end RootedHeap
