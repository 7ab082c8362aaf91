import RootedHeap.Proofs.Cycles

/-!
# When a heap is exhausted

The cap on live objects is a cap on those that the roots reach: an allocation that finds the heap
full collects before it is refused, and then the heap is full only if the roots reach as many
objects as the cap allows (`Context.Sound.isFull_makeRoom_iff`). So garbage never stands in the way
of an allocation, whatever the threshold is, and an allocation that the roots allow
(`Context.Allows`) is refused in this one case (`Context.exhausted_iff_reached`).
-/

namespace RootedHeap

namespace Context

/-- The roots allow an allocation: an integer takes room for one more root, and a pair takes two
roots. -/
def Allows (c : Context) : Call → Prop
  | .int _ => c.roots.size < c.roots.capacity.toNat
  | .pair => 2 ≤ c.roots.size
  | .starvedInt | .starvedPair | .pushRoot _ | .popRoot | .setHead _ _ | .setTail _ _ | .collect =>
    False

instance (c : Context) (call : Call) : Decidable (c.Allows call) :=
  match call with
  | .int _ => Nat.decLt _ _
  | .pair => Nat.decLe _ _
  | .starvedInt | .starvedPair | .pushRoot _ | .popRoot | .setHead _ _ | .setTail _ _ | .collect =>
    .isFalse id

section
variable {config : Config} {c : Context} {call : Call} {m : UInt64}

/-! ## A full heap -/

/-- The heap is full when there are as many live objects as the cap allows. -/
theorem Sound.isFull_iff (hs : c.Sound config) :
    c.heap.isFull = true ↔ ∃ m, config.maxObjects = some m ∧ m.toNat ≤ c.heap.live := by
  rw [Heap.isFull, hs.setUp.cap_eq, Option.any_eq_true]
  simp

/-- When a heap is full, its live objects are as many as the cap says. -/
theorem Sound.live_eq_of_isFull (hs : c.Sound config) (hfull : c.heap.isFull = true)
    (hm : config.maxObjects = some m) : c.heap.live = m.toNat := by
  obtain ⟨m', hm', hle⟩ := hs.isFull_iff.1 hfull
  obtain rfl : m = m' := Option.some_inj.1 (hm.symm.trans hm')
  exact Nat.le_antisymm (hs.live_le m hm) hle

/-- A full heap is collected before an allocation. -/
theorem isFull_of_trigger?_eq_none (hnone : c.trigger? = none) : c.heap.isFull = false := by
  unfold trigger? at hnone
  split at hnone
  · cases hnone
  · split at hnone
    · cases hnone
    · next hfull => exact Bool.eq_false_iff.2 hfull

/-- Before an allocation the heap is full, also after the collection that it may run, when the roots
reach as many objects as the cap allows. -/
theorem Sound.isFull_makeRoom_iff (hs : c.Sound config) : c.makeRoom.1.heap.isFull = true ↔
    ∃ m, config.maxObjects = some m ∧ m.toNat ≤ {h | c.Reaches h}.ncard := by
  rw [hs.ncard_reaches]
  rcases makeRoom_cases c with ⟨hnone, heq⟩ | ⟨trigger, -, heq⟩ <;> rw [heq]
  · have hroom := isFull_of_trigger?_eq_none hnone
    constructor
    · intro hfull
      exact absurd (hroom.symm.trans hfull) Bool.false_ne_true
    · rintro ⟨m, hm, hle⟩
      exact hs.isFull_iff.2 ⟨m, hm, Nat.le_trans hle (live_cycle_le c)⟩
  · exact hs.cycle.isFull_iff

/-- The roots reach no more objects than the cap allows. -/
theorem Sound.ncard_reaches_le (hs : c.Sound config) (hm : config.maxObjects = some m) :
    {h | c.Reaches h}.ncard ≤ m.toNat := by
  rw [hs.ncard_reaches]
  exact hs.cycle.live_le m hm

/-! ## Allocations that the roots allow -/

/-- A context is sound after the collection that an allocation may run. -/
theorem Sound.makeRoom (hs : c.Sound config) : c.makeRoom.1.Sound config := by
  rcases makeRoom_eq_or c with heq | heq <;> rw [heq]
  · exact hs
  · exact hs.cycle

/-- An allocation that the roots allow has an object to make, and room for its handle. -/
theorem Sound.made?_of_allows (hs : c.Sound config) (hallows : c.Allows call) :
    ∃ object rest, c.made? call = some (object, rest) ∧
      rest.length < c.roots.capacity.toNat := by
  cases call with
  | int value => exact ⟨_, _, rfl, c.roots.size_eq ▸ hallows⟩
  | pair =>
    obtain ⟨tail, head, rest, hroots⟩ := RootStack.exists_entries_of_two_le hallows
    have hsize := hs.size_le
    rw [c.roots.size_eq, hroots, List.length_cons, List.length_cons] at hsize
    exact ⟨_, rest, made?_pair_eq_some.2 ⟨head, tail, hroots, rfl⟩, by omega⟩
  | starvedInt | starvedPair | pushRoot | popRoot | setHead | setTail | collect => cases hallows

/-- An allocation that the roots allow is refused when the heap is full after the collection that it
may run, and else it gives a handle. -/
theorem Sound.perform_of_allows (hs : c.Sound config) (hallows : c.Allows call) :
    (c.makeRoom.1.heap.isFull = true →
      (c.perform call).result = .error (.heap (.exhausted c.makeRoom.1.heap.live)) ∧
      (c.perform call).context = c.makeRoom.1) ∧
    (c.makeRoom.1.heap.isFull = false → ∃ h, (c.perform call).result = .ok (some h)) := by
  obtain ⟨object, rest, hmade, hroom⟩ := hs.made?_of_allows hallows
  obtain ⟨hfull, hplaced⟩ := perform_of_made? hmade hroom hs.size_le
  exact ⟨hfull, fun hheap => ⟨_, (hplaced hheap).1⟩⟩

/-- An allocation that the roots allow is refused because the heap is exhausted exactly when the
roots reach as many objects as the cap allows; this number is the one that is reported. In every
other case it gives a handle, and so it does always where there is no cap. -/
theorem exhausted_iff_reached (hc : Arises config c) (hallows : c.Allows call) :
    (∀ m, config.maxObjects = some m →
      (∀ n, (c.perform call).result = .error (.heap (.exhausted n)) ↔
        {h | c.Reaches h}.ncard = m.toNat ∧ n = m.toNat) ∧
      ({h | c.Reaches h}.ncard ≠ m.toNat → ∃ h, (c.perform call).result = .ok (some h))) ∧
    (config.maxObjects = none → ∃ h, (c.perform call).result = .ok (some h)) := by
  have hs := hc.sound
  obtain ⟨hrefused, hgiven⟩ := hs.perform_of_allows hallows
  have hfull := hs.isFull_makeRoom_iff
  cases hheap : c.makeRoom.1.heap.isFull with
  | true =>
    obtain ⟨m', hm', hle⟩ := hfull.1 hheap
    have hcard := Nat.le_antisymm (hs.ncard_reaches_le hm') hle
    have hlive := hs.makeRoom.live_eq_of_isFull hheap hm'
    refine ⟨fun m hm => ?_, fun hnone => ?_⟩
    · obtain rfl : m = m' := Option.some_inj.1 (hm.symm.trans hm')
      refine ⟨fun n => ?_, fun hne => absurd hcard hne⟩
      rw [(hrefused hheap).1, hlive]
      simp [hcard, eq_comm]
    · rw [hnone] at hm'
      cases hm'
  | false =>
    obtain ⟨h, hok⟩ := hgiven hheap
    refine ⟨fun m hm => ⟨fun n => ?_, fun _ => ⟨h, hok⟩⟩, fun _ => ⟨h, hok⟩⟩
    have hne : {h | c.Reaches h}.ncard ≠ m.toNat := by
      intro hcard
      have := hfull.2 ⟨m, hm, hcard.ge⟩
      rw [hheap] at this
      cases this
    rw [hok]
    simp [hne]

/-- With a cap of two, an integer is allocated while one of the two live objects is garbage, and the
next one is refused because the roots reach both. -/
theorem exhausted_iff_reached_two :
    Arises { maxObjects := some 2 }
      ((empty { maxObjects := some 2 }).performAll [.int 1, .int 2, .popRoot]) ∧
    {h | ((empty { maxObjects := some 2 }).performAll
      [.int 1, .int 2, .popRoot]).Reaches h}.ncard ≠ 2 ∧
    {h | ((empty { maxObjects := some 2 }).performAll
      [.int 1, .int 2, .popRoot, .int 3]).Reaches h}.ncard = 2 := by
  have hnew : Arises { maxObjects := some 2 } (empty { maxObjects := some 2 }) := .start rfl
  have hc := hnew.performAll [.int 1, .int 2, .popRoot]
  have hd := hnew.performAll [.int 1, .int 2, .popRoot, .int 3]
  have hroomc : ((empty { maxObjects := some 2 }).performAll
      [.int 1, .int 2, .popRoot]).Allows (.int 3) := by decide
  have hroomd : ((empty { maxObjects := some 2 }).performAll
      [.int 1, .int 2, .popRoot, .int 3]).Allows (.int 4) := by decide +kernel
  have hgiven : (((empty { maxObjects := some 2 }).performAll
      [.int 1, .int 2, .popRoot]).perform (.int 3)).result.toOption = some (some ⟨1, 1⟩) := by
    decide +kernel
  have hrefused : (((empty { maxObjects := some 2 }).performAll
      [.int 1, .int 2, .popRoot, .int 3]).perform (.int 4)).result.toOption = none := by
    decide +kernel
  refine ⟨hc, fun hcard => ?_, by_contra fun hne => ?_⟩
  · have hexhausted := (((exhausted_iff_reached hc hroomc).1 2 rfl).1 2).2 ⟨hcard, rfl⟩
    rw [hexhausted] at hgiven
    cases hgiven
  · obtain ⟨h, hok⟩ := ((exhausted_iff_reached hd hroomd).1 2 rfl).2 hne
    rw [hok] at hrefused
    cases hrefused

end

end Context

end RootedHeap
