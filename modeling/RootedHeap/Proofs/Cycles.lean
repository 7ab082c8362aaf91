import RootedHeap.Proofs.Soundness

/-!
# Exact collections

A call collects if it raises the count of collections (`Context.Collects`), and then it has its
effect on the context that the collection leaves (`Context.Sound.perform_cases`). Every collection
is exact (`Context.ExactCycle`): what is live after it is what the roots reach, in the same slots,
and its record counts that. This is so of those that a call runs, before an allocation or by itself,
and of the last one, which has no roots to begin from (`Context.exact_cycles`).
-/

namespace RootedHeap

namespace Heap

section
variable {heap : Heap} {roots : List Handle} {h : Handle}

/-- A collection of a heap without flags leaves the slots of live objects that the roots reach as
they are. -/
theorem getElem?_collect_of_reaches (hc : heap.slab.Clear) (hr : heap.slab.Reaches roots h)
    (hlive : (heap.object? h).isSome = true) :
    (heap.collect roots).2.slab[h.index]? = heap.slab[h.index]? := by
  rw [object?, Slab.isSome_object?] at hlive
  obtain ⟨c, hcell⟩ := Option.isSome_iff_exists.1 hlive
  obtain ⟨⟨generation, cell⟩, hs, rfl, -⟩ := Slab.cell?_eq_some.1 hcell
  rw [getElem?_collect hc, hs, Option.map_some, if_pos hr]

end

end Heap

namespace Context

/-- A call runs a collection. -/
def Collects (c : Context) (call : Call) : Prop :=
  (c.perform call).context.collections ≠ c.collections

/-- A collection that takes one context to another, and makes a record, is exact. -/
structure ExactCycle (config : Config) (c d : Context) (record : Cycle) : Prop where
  /-- The objects that are live afterwards are those that the roots reached before. -/
  contains : ∀ h, d.contains h = true ↔ c.Reaches h
  /-- They are in the same slots, of the same generations, and are the same objects. -/
  slot : ∀ h, d.contains h = true → d.heap.slab[h.index]? = c.heap.slab[h.index]?
  object : ∀ h, d.contains h = true → d.heap.object? h = c.heap.object? h
  roots : d.roots = c.roots
  before : record.before = {h | c.contains h = true}.ncard
  remaining : record.remaining = {h | c.Reaches h}.ncard
  reclaimed : record.reclaimed = record.before - record.remaining
  threshold : record.threshold =
    if record.remaining = 0 then config.initialThreshold.toNat else 2 * record.remaining

section
variable {config : Config} {c d : Context} {call : Call} {h : Handle}

/-! ## Collections and calls -/

/-- An effect of a call is no collection. -/
theorem Effect.collections_eq {result : Except Error (Option Handle)}
    (he : Effect c call result d) : d.collections = c.collections := by
  cases he <;> rfl

/-- An effect of a call leaves the record of the last collection. -/
theorem Effect.last_eq {result : Except Error (Option Handle)} (he : Effect c call result d) :
    d.last = c.last := by
  cases he <;> rfl

/-- A call that does not collect has its effect on the context, and one that does has it on the
context after the collection. -/
theorem Sound.perform_cases (hs : c.Sound config) (call : Call) :
    ¬ c.Collects call ∧ Effect c call (c.perform call).result (c.perform call).context ∨
    c.Collects call ∧ Effect c.cycle.2 call (c.perform call).result (c.perform call).context := by
  obtain ⟨d, hd, he⟩ := perform_effect hs.size_le call
  have hcollections := he.collections_eq
  rcases hd with rfl | rfl
  · exact .inl ⟨fun hne => hne hcollections, he⟩
  · refine .inr ⟨fun heq => ?_, he⟩
    rw [hcollections] at heq
    exact Nat.succ_ne_self _ heq

/-! ## Exactness -/

/-- There are as many live objects as are counted. -/
theorem Sound.ncard_contains (hs : c.Sound config) :
    {h | c.contains h = true}.ncard = c.heap.live := by
  rw [hs.live_eq]
  exact Slab.ncard_live

/-- There are as many objects reached as a collection leaves. -/
theorem Sound.ncard_reaches (hs : c.Sound config) :
    {h | c.Reaches h}.ncard = c.cycle.2.heap.live := by
  rw [← hs.cycle.ncard_contains]
  congr 1
  ext h
  exact hs.contains_cycle.symm

/-- A collection of a sound context is exact. -/
theorem Sound.exactCycle (hs : c.Sound config) : ExactCycle config c c.cycle.2 c.cycle.1 where
  contains _ := hs.contains_cycle
  slot h hh := by
    have hr := hs.contains_cycle.1 hh
    exact Heap.getElem?_collect_of_reaches hs.clear hr (hs.contains_of_reaches hr)
  object h hh := by rw [hs.object?_cycle, if_pos (hs.contains_cycle.1 hh)]
  roots := rfl
  before := hs.ncard_contains.symm
  remaining := hs.ncard_reaches.symm
  reclaimed := Heap.reclaimed_collect hs.live_eq
  threshold := by rw [← hs.setUp.initial_eq]; rfl

/-- Every collection that is run on a context which arises by calls is exact: that of a call, which
then has its effect on the context that the collection leaves; a collection that is asked for; and
the last one, before which all roots are dropped, whether the context is destroyed for its record or
let go of. A call that runs none has its effect at once. -/
theorem exact_cycles (hc : Arises config c) :
    (∀ call,
      (c.Collects call → ∃ d record, ExactCycle config c d record ∧
        (c.perform call).context.last = some record ∧
        Effect d call (c.perform call).result (c.perform call).context) ∧
      (¬ c.Collects call → Effect c call (c.perform call).result (c.perform call).context)) ∧
    (∃ record, c.collect.result = .ok record ∧ ExactCycle config c c.collect.context record) ∧
    ∃ record, c.release.result = .ok record ∧ (Held.destroy ⟨c, false⟩).result = .ok record ∧
      ∀ last ∈ [c.release.context, (Held.destroy ⟨c, false⟩).context,
          (Held.drop ⟨c, false⟩).context],
        ExactCycle config { c with roots := c.roots.clear } last record := by
  have hs := hc.sound
  have hcleared : ({ c with roots := c.roots.clear } : Context).Sound config :=
    hs.withRoots (fun h hmem => absurd hmem List.not_mem_nil) (Nat.zero_le _)
  refine ⟨fun call => ?_, ⟨_, rfl, hs.exactCycle⟩, ⟨c.finalCycle.1, rfl, rfl, fun last hlast => ?_⟩⟩
  · rcases hs.perform_cases call with ⟨hnot, he⟩ | ⟨hcollects, he⟩
    · exact ⟨fun hcollects => absurd hcollects hnot, fun _ => he⟩
    · exact ⟨fun _ => ⟨_, _, hs.exactCycle, he.last_eq, he⟩, fun hnot => absurd hcollects hnot⟩
  · have heq : last = c.finalCycle.2 := by
      simp only [List.mem_cons, List.not_mem_nil, or_false] at hlast
      rcases hlast with rfl | rfl | rfl <;> rfl
    rw [heq]
    exact hcleared.exactCycle

/-- Four objects reach the threshold: a rooted pair of two integers, and an integer that has lost
its root. The collection before the next allocation keeps the three that are reached, and the new
object takes the slot of the fourth. -/
theorem exact_cycles_threshold :
    let config : Config := { initialThreshold := 4 }
    let c := (empty config).performAll [.int 1, .int 2, .pair, .int 3, .popRoot]
    Arises config c ∧ c.Collects (.int 4) ∧
    ∃ d, ExactCycle config c d ⟨4, 1, 3, 6⟩ ∧
      d.contains ⟨2, 0⟩ = true ∧ d.heap.object? ⟨2, 0⟩ = some (.pair ⟨0, 0⟩ ⟨1, 0⟩) ∧
      Effect d (.int 4) (c.perform (.int 4)).result (c.perform (.int 4)).context ∧
      (c.perform (.int 4)).context.heap.resolve? 3 = some ⟨3, 1⟩ := by
  intro config c
  have hnew : Arises config (empty config) := .start rfl
  have hc : Arises config c := hnew.performAll _
  have hcollects : c.Collects (.int 4) := by
    unfold Collects
    decide +kernel
  have hlast : (c.perform (.int 4)).context.last = some ⟨4, 1, 3, 6⟩ := by decide +kernel
  obtain ⟨d, record, hexact, hrecord, he⟩ := ((exact_cycles hc).1 (.int 4)).1 hcollects
  rw [hlast] at hrecord
  cases hrecord
  have hroot : ⟨2, 0⟩ ∈ c.roots.toList := by decide +kernel
  have hpair : d.contains ⟨2, 0⟩ = true := (hexact.contains _).2 (.root hroot)
  have hobject : c.heap.object? ⟨2, 0⟩ = some (.pair ⟨0, 0⟩ ⟨1, 0⟩) := by decide +kernel
  have hslot : (c.perform (.int 4)).context.heap.resolve? 3 = some ⟨3, 1⟩ := by decide +kernel
  exact ⟨hc, hcollects, d, hexact, hpair, (hexact.object _ hpair).trans hobject, he, hslot⟩

end

end Context

end RootedHeap
