import RootedHeap.Proofs.ScriptCalls

/-!
# Where objects go

Every object that is ever allocated is live or has been reclaimed by one of the collections, and
what one collection leaves is found by the next one together with what has been allocated since
(`Context.Counts.PostAll.allocations_eq`, `Context.Counts.PostAll.before_eq`). A context ends with
one last collection, which finds no roots and so leaves nothing (`Context.EndsWith`): it is the same
whether the context is destroyed, let go of, or left behind by a script that fails. So in the end
the records account for every object (`Context.objects_conserved`).
-/

namespace RootedHeap

namespace Context

/-- The record with which a context ends: all that is live is reclaimed. -/
def lastRecord (config : Config) (c : Context) : Cycle where
  before := c.heap.live
  reclaimed := c.heap.live
  remaining := 0
  threshold := config.initialThreshold.toNat

/-- A context ends with a record, whether it is destroyed or let go of: one collection is run, it is
the last report but for that of the end, and it leaves nothing. -/
structure EndsWith (c : Context) (record : Cycle) : Prop where
  destroy_eq : Held.destroy ⟨c, false⟩ =
    ⟨.ok record, c.finalCycle.2, [.collected record, .released]⟩
  drop_eq : Held.drop ⟨c, false⟩ = ⟨.ok (), c.finalCycle.2, [.collected record, .released]⟩
  collections_eq : c.finalCycle.2.collections = c.collections + 1
  live_eq : c.finalCycle.2.heap.live = 0

section
variable {config : Config} {c : Context} {initial : Nat} {s t : Counts} {entry : Entry}
  {entries pre mid post : List Entry} {first second : Cycle} {cause cause' : Cause}

/-! ## Objects in a ledger -/

namespace Counts

/-- One entry adds as many objects as it takes from elsewhere. -/
theorem Post.allocations_eq (hpost : Post initial s entry t) :
    s.live + Entry.allocations [entry] = t.live + Entry.reclaimed [entry] := by
  cases hpost with
  | allocation => rfl
  | cycle hbefore hsum =>
    rw [Entry.allocations_cycle, Entry.reclaimed_cycle, Nat.add_zero, ← hbefore, hsum, Nat.add_comm]

/-- The objects that there are to begin with and those that are allocated are live in the end or
have been reclaimed. -/
theorem PostAll.allocations_eq (hall : PostAll initial s entries t) :
    s.live + Entry.allocations entries = t.live + Entry.reclaimed entries := by
  induction hall with
  | nil => rfl
  | snoc _ hpost ih =>
    have hentry := hpost.allocations_eq
    rw [Entry.allocations_append, Entry.reclaimed_append]
    omega

/-- The collections are counted. -/
theorem PostAll.collections_eq (hall : PostAll initial s entries t) :
    t.collections = s.collections + (Entry.records entries).length := by
  induction hall with
  | nil => rfl
  | snoc _ hpost ih =>
    rw [Entry.records_append, List.length_append, ← Nat.add_assoc, ← ih]
    cases hpost <;> rfl

/-- A collection finds what the one before it has left and what has been allocated since. -/
theorem PostAll.before_eq (hall : PostAll initial s
      (pre ++ .cycle cause first :: (mid ++ .cycle cause' second :: post)) t)
    (hmid : Entry.records mid = []) :
    second.before = first.remaining + Entry.allocations mid := by
  obtain ⟨_, u, -, hfirst, hrest⟩ := hall.exists_of_mem
  obtain ⟨v, _, hall, hsecond, -⟩ := hrest.exists_of_mem
  have hcount := hall.allocations_eq
  rw [Entry.reclaimed, hmid] at hcount
  cases hfirst
  cases hsecond with
  | cycle hbefore => exact hbefore.trans hcount.symm

end Counts

/-! ## The last collection -/

/-- The last collection is one without roots. -/
theorem finalCycle_eq_cycle (c : Context) : c.finalCycle = (c.withRoots []).cycle := rfl

/-- A context without roots is sound if it was so with them. -/
theorem Sound.withRoots_nil (hs : c.Sound config) : (c.withRoots []).Sound config :=
  hs.withRoots (fun _ hmem => absurd hmem List.not_mem_nil) (Nat.zero_le _)

/-- Without roots nothing is reached. -/
theorem reaches_withRoots_nil (c : Context) : {h | (c.withRoots []).Reaches h} = ∅ := by
  rw [Set.eq_empty_iff_forall_notMem]
  intro h hr
  exact Reaches.induct (p := fun _ => False) hr (fun r hmem => absurd hmem List.not_mem_nil)
    fun _ _ hfalse => hfalse.elim

/-- The last collection reclaims all that is live. -/
theorem Sound.finalCycle_eq (hs : c.Sound config) : c.finalCycle.1 = c.lastRecord config := by
  obtain ⟨-, -, -, -, -, hremaining, hreclaimed, hthreshold⟩ := hs.withRoots_nil.exactCycle
  rw [reaches_withRoots_nil, Set.ncard_empty] at hremaining
  rw [hremaining, Nat.sub_zero] at hreclaimed
  rw [hremaining, if_pos rfl] at hthreshold
  rw [finalCycle_eq_cycle]
  show Cycle.mk (c.withRoots []).cycle.1.before (c.withRoots []).cycle.1.reclaimed
    (c.withRoots []).cycle.1.remaining (c.withRoots []).cycle.1.threshold = _
  rw [hreclaimed, hremaining, hthreshold]
  rfl

/-- A context ends with the record that says so. -/
theorem Sound.endsWith (hs : c.Sound config) : c.EndsWith (c.lastRecord config) := by
  rw [← hs.finalCycle_eq]
  constructor
  · rfl
  · rfl
  · rfl
  · show c.finalCycle.1.remaining = 0
    rw [hs.finalCycle_eq]
    rfl

/-- The last collection posts its record. -/
theorem Sound.post_finalCycle (hs : c.Sound config) :
    Counts.Post config.initialThreshold.toNat c.counts (.cycle .request (c.lastRecord config))
      c.finalCycle.2.counts := by
  rw [← hs.finalCycle_eq]
  exact hs.withRoots_nil.post_cycle nofun

/-! ## Every run -/

/-- What is reported to have been reclaimed, by calls and then by a last collection. -/
theorem sum_reclaimed_log (c : Context) (calls : List Call) (record : Cycle) :
    (((c.log calls ++ [Event.collected record, .released]).filterMap Event.record?).map
      Cycle.reclaimed).sum = Entry.reclaimed (c.ledger calls) + record.reclaimed := by
  rw [List.filterMap_append, ← records_ledger, List.map_append, List.sum_append]
  exact congrArg _ List.sum_singleton

/-- Whatever calls are made on a new context, the objects that they allocate are live or have been
reclaimed, and the collections are counted. The context then ends with a record, however it comes to
its end; with this one, what a collection finds is always what the one before has left and what has
been allocated since, and all that was ever allocated has been reclaimed. The operations of a script
make such calls: if they succeed, the context that these lead to is handed out, and if one fails, it
ends at once, and what the run has reported accounts for every object. -/
theorem objects_conserved (hnew : ofConfig config = .ok c) :
    (∀ calls,
      let d := c.performAll calls
      let entries := c.ledger calls
      let whole := entries ++ [.cycle .request (d.lastRecord config)]
      Entry.allocations entries = d.heap.live + Entry.reclaimed entries ∧
      d.collections = (Entry.records entries).length ∧
      d.EndsWith (d.lastRecord config) ∧
      Entry.allocations whole = Entry.reclaimed whole ∧
      ∀ pre cause first mid cause' second post,
        whole = pre ++ .cycle cause first :: (mid ++ .cycle cause' second :: post) →
        Entry.records mid = [] → second.before = first.remaining + Entry.allocations mid) ∧
    ∀ source ops, Script.parse source = .ok ops →
      let calls := c.callsOfAll ops
      let d := c.performAll calls
      c.Makes calls (c.executeAll ops) ∧
      (∀ d', (run source config).result = .ok d' →
        d' = d ∧ (run source config).events = c.log calls) ∧
      ∀ e, (run source config).result = .error e →
        (run source config).events = c.log calls ++ [.collected (d.lastRecord config), .released] ∧
        (((run source config).events.filterMap Event.record?).map Cycle.reclaimed).sum =
          Entry.allocations (c.ledger calls) := by
  have hcount : ∀ calls, Entry.allocations (c.ledger calls) =
      (c.performAll calls).heap.live + Entry.reclaimed (c.ledger calls) := by
    intro calls
    exact (Nat.zero_add _).symm.trans (postAll_of_new hnew calls).allocations_eq
  constructor
  · intro calls d entries whole
    have hall := postAll_of_new hnew calls
    have hs : d.Sound config := ((Arises.start hnew).performAll calls).sound
    have hwhole := hall.snoc hs.post_finalCycle
    refine ⟨hcount calls, ?_, hs.endsWith, ?_, fun pre cause first mid cause' second post heq => ?_⟩
    · exact hall.collections_eq.trans (Nat.zero_add _)
    · show Entry.allocations (entries ++ _) = Entry.reclaimed (entries ++ _)
      rw [Entry.allocations_append, Entry.reclaimed_append, Entry.reclaimed_cycle, hcount,
        Entry.allocations_cycle, Nat.add_zero]
      exact Nat.add_comm _ _
    · rw [show c.ledger calls ++ _ = _ from heq] at hwhole
      exact hwhole.before_eq
  · intro source ops hparse calls d
    have hs : d.Sound config := ((Arises.start hnew).performAll calls).sound
    refine ⟨makes_executeAll c ops, ?_⟩
    rcases run_of_parse hparse hnew with heq | ⟨e, heq⟩ <;> rw [heq]
    · constructor
      · intro d' hok
        cases hok
        exact ⟨rfl, rfl⟩
      · intro e he
        cases he
    · constructor
      · intro d' hok
        cases hok
      · intro e' _
        rw [hs.endsWith.drop_eq, sum_reclaimed_log, hcount]
        exact ⟨rfl, Nat.add_comm _ _⟩

/-- A script that allocates four objects and then fails for want of roots: two collections are run
on the way and one in the end, and their records account for all four. -/
theorem objects_conserved_four :
    Script.parse "int 1 int 2 pop int 3 pair pair" =
      .ok [.int 1, .int 2, .pop, .int 3, .pair, .pair] ∧
    (run "int 1 int 2 pop int 3 pair pair" { initialThreshold := 2 }).result.isOk = false ∧
    (((run "int 1 int 2 pop int 3 pair pair" { initialThreshold := 2 }).events.filterMap
      Event.record?).map Cycle.reclaimed).sum = 4 := by
  have hnew : ofConfig { initialThreshold := 2 } = .ok (empty { initialThreshold := 2 }) := rfl
  have hparse : Script.parse "int 1 int 2 pop int 3 pair pair" =
      .ok [.int 1, .int 2, .pop, .int 3, .pair, .pair] := by decide +kernel
  have hfails : (run "int 1 int 2 pop int 3 pair pair"
      { initialThreshold := 2 }).result.isOk = false := by decide +kernel
  have hcount : Entry.allocations ((empty { initialThreshold := 2 }).ledger
      ((empty { initialThreshold := 2 }).callsOfAll
        [.int 1, .int 2, .pop, .int 3, .pair, .pair])) = 4 := by decide +kernel
  refine ⟨hparse, hfails, ?_⟩
  cases hresult : (run "int 1 int 2 pop int 3 pair pair" { initialThreshold := 2 }).result with
  | ok d =>
    rw [hresult] at hfails
    cases hfails
  | error e => exact (((objects_conserved hnew).2 _ _ hparse).2.2 e hresult).2.trans hcount

end

end Context

end RootedHeap
