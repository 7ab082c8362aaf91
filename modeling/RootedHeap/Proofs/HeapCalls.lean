import RootedHeap.Proofs.FreeSlots

/-!
# Calls on a heap

A `Heap.Call` is one use of an operation that can change a heap. Marking and sweeping may be called
by themselves, in any order, so flags can be left over, and the count of live objects can be too
high. `Heap.performAll` performs calls one after the other, and `Heap.replies` lists their answers.
A call is refused and leaves the heap alone, or it has one of the effects that `Heap.Effect` lists
(`Heap.perform_effect`). What holds of every heap is proved from that list.
-/

namespace RootedHeap

namespace Heap

/-- One use of an operation that can change a heap. An allocation may find no memory for a new slot,
whatever the cap is; then it is starved. -/
inductive Call where
  | alloc (object : Object)
  | starved
  | setHead (pair value : Handle)
  | setTail (pair value : Handle)
  | collect (roots : List Handle)
  | mark (roots : List Handle)
  | sweep
deriving DecidableEq, Repr

/-- What a call answers when it succeeds. -/
inductive Reply where
  | allocated (h : Handle)
  | done
  | collected (cycle : Cycle)
  | swept (count : Nat)
deriving DecidableEq, Repr

/-- Performs a call. -/
def perform (heap : Heap) : Call → Except HeapError Reply × Heap
  | .alloc object =>
    let (result, heap) := heap.alloc object
    (result.map .allocated, heap)
  | .starved => (.error (.exhausted heap.live), heap)
  | .setHead pair value =>
    let (result, heap) := heap.setHead pair value
    (result.map fun _ => .done, heap)
  | .setTail pair value =>
    let (result, heap) := heap.setTail pair value
    (result.map fun _ => .done, heap)
  | .collect roots =>
    let (cycle, heap) := heap.collect roots
    (.ok (.collected cycle), heap)
  | .mark roots => (.ok .done, heap.mark roots)
  | .sweep =>
    let (count, heap) := heap.sweep
    (.ok (.swept count), heap)

/-- Performs calls, whether they succeed or not. -/
def performAll (heap : Heap) (calls : List Call) : Heap :=
  calls.foldl (fun heap call => (heap.perform call).2) heap

/-- What calls answer, one after the other. -/
def replies (heap : Heap) : List Call → List (Except HeapError Reply)
  | [] => []
  | call :: calls => (heap.perform call).1 :: (heap.perform call).2.replies calls

/-- What a call does to a heap, and what it answers. -/
inductive Effect (heap : Heap) : Call → Except HeapError Reply → Heap → Prop
  | refused (call : Call) (e : HeapError) : Effect heap call (.error e) heap
  | allocated {object : Object} : heap.isFull = false →
      Effect heap (.alloc object) (.ok (.allocated heap.nextHandle)) (heap.alloc object).2
  | headSet {p v head tail : Handle} : heap.contains v = true →
      heap.object? p = some (.pair head tail) →
      Effect heap (.setHead p v) (.ok .done)
        { heap with slab := heap.slab.setObject p (.pair v tail) }
  | tailSet {p v head tail : Handle} : heap.contains v = true →
      heap.object? p = some (.pair head tail) →
      Effect heap (.setTail p v) (.ok .done)
        { heap with slab := heap.slab.setObject p (.pair head v) }
  | collected (roots : List Handle) :
      Effect heap (.collect roots) (.ok (.collected (heap.collect roots).1)) (heap.collect roots).2
  | marked (roots : List Handle) : Effect heap (.mark roots) (.ok .done) (heap.mark roots)
  | swept : Effect heap .sweep (.ok (.swept heap.slab.countWhite)) heap.sweep.2

section
variable {heap heap' : Heap} {call : Call} {result : Except HeapError Reply} {p v : Handle}
  {change : Handle → Handle → Object}

/-! ## Setting fields -/

/-- A field of a pair is set to what is live by replacing the pair. -/
theorem setField_eq {head tail : Handle} (hv : heap.contains v = true)
    (hp : heap.object? p = some (.pair head tail)) : heap.setField p v change =
      (.ok (), { heap with slab := heap.slab.setObject p (change head tail) }) := by
  simp only [setField, hv, hp, if_pos]

/-- An object that is no pair has no field to set. -/
theorem setField_eq_of_scalar {value : Int32} (hv : heap.contains v = true)
    (hp : heap.object? p = some (.scalar value)) :
    heap.setField p v change = (.error (.notAPair p.index), heap) := by
  simp only [setField, hv, hp, if_pos]

/-- To set a field replaces a pair, or it is refused, and not because the heap is exhausted. -/
theorem setField_cases (heap : Heap) (p v : Handle) (change : Handle → Handle → Object) :
    (∃ e, (∀ live, e ≠ .exhausted live) ∧ heap.setField p v change = (.error e, heap)) ∨
    ∃ head tail, heap.contains v = true ∧ heap.object? p = some (.pair head tail) := by
  cases hv : heap.contains v with
  | false => exact .inl ⟨.dangling v.index, by simp, by simp [setField, hv]⟩
  | true =>
    cases hp : heap.object? p with
    | none => exact .inl ⟨.dangling p.index, by simp, by simp [setField, hv, hp]⟩
    | some o =>
      cases o with
      | scalar value => exact .inl ⟨.notAPair p.index, by simp, setField_eq_of_scalar hv hp⟩
      | pair head tail => exact .inr ⟨head, tail, rfl, rfl⟩

/-! ## Effects -/

/-- Whatever a call is, it has one of its effects. -/
theorem perform_effect (heap : Heap) (call : Call) :
    Effect heap call (heap.perform call).1 (heap.perform call).2 := by
  cases call with
  | alloc object =>
    cases hfull : heap.isFull with
    | true =>
      simp only [perform, alloc_eq_of_isFull hfull]
      exact .refused _ _
    | false =>
      have heq : heap.perform (.alloc object) =
          (.ok (.allocated heap.nextHandle), (heap.alloc object).2) := by
        simp only [perform, alloc_eq hfull]
        rfl
      rw [heq]
      exact .allocated hfull
  | starved => exact .refused _ _
  | setHead p v =>
    simp only [perform, setHead]
    rcases setField_cases heap p v fun _ tail => .pair v tail with ⟨e, -, heq⟩ | ⟨_, _, hv, hp⟩
    · rw [heq]
      exact .refused _ _
    · rw [setField_eq hv hp]
      exact .headSet hv hp
  | setTail p v =>
    simp only [perform, setTail]
    rcases setField_cases heap p v fun head _ => .pair head v with ⟨e, -, heq⟩ | ⟨_, _, hv, hp⟩
    · rw [heq]
      exact .refused _ _
    · rw [setField_eq hv hp]
      exact .tailSet hv hp
  | collect roots => exact .collected roots
  | mark roots => exact .marked roots
  | sweep => exact .swept

/-- Calls after others are calls on the heap that these leave. -/
theorem performAll_append (heap : Heap) (calls later : List Call) :
    heap.performAll (calls ++ later) = (heap.performAll calls).performAll later :=
  List.foldl_append

/-- What every effect of a call keeps of a heap and of the answers so far, any calls keep. -/
theorem performAll_induct {P : Heap → List (Except HeapError Reply) → Prop}
    (hstep : ∀ {heap heap' call result answers}, Effect heap call result heap' → P heap answers →
      P heap' (answers ++ [result]))
    (hstart : P heap []) (calls : List Call) : P (heap.performAll calls) (heap.replies calls) := by
  -- The induction is on the calls still to be made, whatever was answered before.
  have hrun : ∀ (heap : Heap) answers, P heap answers →
      P (heap.performAll calls) (answers ++ heap.replies calls) := by
    induction calls with
    | nil =>
      intro heap answers hkept
      rwa [replies, List.append_nil]
    | cons call calls ih =>
      intro heap answers hkept
      have hrest := ih _ _ (hstep (perform_effect heap call) hkept)
      rwa [List.append_assoc] at hrest
  exact hrun heap [] hstart

/-- Every effect of a call keeps the free list right. -/
theorem Effect.freeList (he : Effect heap call result heap')
    (hf : heap.slab.FreeList heap.free) : heap'.slab.FreeList heap'.free := by
  cases he with
  | refused => exact hf
  | @allocated object hfull =>
    rw [alloc_eq hfull]
    exact freeList_alloc hf object
  | headSet | tailSet => exact hf.congr (Slab.sameShape_setObject _ _ _)
  | collected roots => exact freeList_collect hf
  | marked roots => exact hf.congr (Slab.sameShape_mark _ roots)
  | swept => exact hf.sweep

/-- The free list of a heap without objects is right. -/
theorem freeList_empty (threshold : Nat) (cap : Option Nat) :
    (empty threshold cap).slab.FreeList (empty threshold cap).free where
  empty _ hi := absurd hi List.not_mem_nil
  nodup := List.nodup_nil
  retired i s hs := by
    have hnone : (empty threshold cap).slab[i]? = none := rfl
    rw [hnone] at hs
    cases hs

end

end Heap

end RootedHeap
