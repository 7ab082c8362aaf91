import RootedHeap.Proofs.Atomicity
import RootedHeap.Proofs.Ledger

/-!
# When collections are due

The threshold that is in force follows from the last collection alone (`Context.scheduled`), and the
live objects never exceed it (`Context.Counts.Paced`): an allocation is what adds to them, and it is
preceded by a collection when they have reached it, after which they are below the new one. So on a
context without a cap, and as long as no collection is asked for, the next collection is run by the
first allocation that the roots allow once the live objects are as many as the threshold says, and
not before (`Context.threshold_schedule`).
-/

namespace RootedHeap

namespace Context

/-- The threshold in force after the last collection, if there has been one: twice what remained
then, or the one to begin with if nothing did. -/
def scheduled (initial : Nat) : Option Cycle → Nat
  | none => initial
  | some record => if record.remaining = 0 then initial else 2 * record.remaining

/-- A call is the first that passes the check of the roots once `n` objects have been allocated by
the calls before it. -/
structure FirstAfter (c : Context) (n : Nat) (before : List Call) (call : Call) : Prop where
  allocations : Entry.allocations (c.ledger before) = n
  passes : (c.performAll before).passes call = true
  waiting : ∀ pre other post, before = pre ++ other :: post →
    Entry.allocations (c.ledger pre) = n → (c.performAll pre).passes other = false

/-- The live objects are no more than the threshold, and this is that of the last collection. -/
structure Counts.Paced (initial : Nat) (entries : List Entry) (s : Counts) : Prop where
  live_le : s.live ≤ s.threshold
  last_eq : s.last = (Entry.records entries).getLast?
  threshold_eq : s.threshold = scheduled initial s.last

section
variable {config : Config} {c : Context} {call : Call} {initial : Nat} {s t : Counts}
  {entry : Entry} {entries : List Entry} {before : List Call}

/-! ## The threshold in force -/

/-- A context without objects is paced. -/
theorem Counts.paced_start (initial : Nat) : (start initial).Paced initial [] where
  live_le := Nat.zero_le _
  last_eq := rfl
  threshold_eq := rfl

/-- An entry keeps the counts paced. -/
theorem Counts.Paced.post (hs : s.Paced initial entries) (hpos : 0 < initial)
    (hpost : Post initial s entry t) : t.Paced initial (entries ++ [entry]) := by
  cases hpost with
  | allocation hlt =>
    refine ⟨hlt, ?_, hs.threshold_eq⟩
    rw [Entry.records_append, Entry.records_allocation, List.append_nil]
    exact hs.last_eq
  | @cycle cause record hbefore hsum hthreshold hcause =>
    refine ⟨?_, ?_, hthreshold⟩
    · show record.remaining ≤ record.threshold
      rw [hthreshold]
      split <;> omega
    · rw [Entry.records_append, Entry.records_cycle, List.getLast?_concat]

/-- Entries keep the counts paced. -/
theorem Counts.PostAll.paced (hall : PostAll initial (start initial) entries t)
    (hpos : 0 < initial) : t.Paced initial entries := by
  induction hall with
  | nil => exact paced_start initial
  | snoc _ hpost ih => exact ih.post hpos hpost

/-- Every run of a new context is paced. -/
theorem paced_performAll (hnew : ofConfig config = .ok c) (calls : List Call) :
    (c.performAll calls).counts.Paced config.initialThreshold.toNat (c.ledger calls) := by
  have hpos := Config.initialThreshold_pos (ofConfig_eq_ok.1 hnew).1
  exact (postAll_of_new hnew calls).paced hpos

/-! ## The next collection -/

/-- Without a cap the heap is never full. -/
theorem Sound.isFull_eq_false (hs : c.Sound config) (hcap : config.maxObjects = none) :
    c.heap.isFull = false := by
  rw [Heap.isFull, hs.setUp.cap_eq, hcap]
  rfl

/-- Without a cap it is the threshold alone that makes a collection due. -/
theorem Sound.due?_eq (hs : c.Sound config) (hcap : config.maxObjects = none) :
    c.due? = if c.heap.threshold ≤ c.heap.live then some .threshold else none := by
  unfold due? Heap.shouldCollect
  rw [hs.isFull_eq_false hcap]
  split_ifs <;> simp_all

/-- Without a cap, a call runs no collection if the threshold is not reached or the roots refuse it,
unless it asks for one. -/
theorem Sound.cause?_eq_none (hs : c.Sound config) (hcap : config.maxObjects = none)
    (hne : call ≠ .collect)
    (hidle : c.heap.live < c.heap.threshold ∨ c.passes call = false) : c.cause? call = none := by
  cases hpasses : c.passes call with
  | false => exact cause?_of_not_passes hpasses hne
  | true =>
    have hlt : c.heap.live < c.heap.threshold := by simpa [hpasses] using hidle
    rw [cause?_of_passes hpasses, hs.due?_eq hcap, if_neg (Nat.not_le.2 hlt)]

/-- Without a cap, calls run no collection if none is asked for and those of them that the roots
allow find the threshold not reached; so it stays, and what is allocated adds to the live
objects. -/
theorem Arises.live_performAll (hc : Arises config c) (hcap : config.maxObjects = none)
    (hcollect : .collect ∉ before)
    (hidle : ∀ pre other post, before = pre ++ other :: post →
      c.heap.live + Entry.allocations (c.ledger pre) < c.heap.threshold ∨
        (c.performAll pre).passes other = false) :
    (c.performAll before).heap.live = c.heap.live + Entry.allocations (c.ledger before) ∧
    (c.performAll before).heap.threshold = c.heap.threshold := by
  induction before using List.reverseRecOn with
  | nil => exact ⟨rfl, rfl⟩
  | append_singleton before call ih =>
    rw [List.mem_append, not_or, List.mem_singleton] at hcollect
    obtain ⟨hlive, hthreshold⟩ := ih hcollect.1 fun pre other post heq =>
      hidle pre other (post ++ [call]) (by rw [heq, List.append_assoc]; rfl)
    have hs := (hc.performAll before).sound
    have hnone : (c.performAll before).cause? call = none := by
      refine hs.cause?_eq_none hcap (Ne.symm hcollect.2) ?_
      rw [hlive, hthreshold]
      exact hidle before call [] rfl
    rcases hs.perform_cause call with ⟨-, he⟩ | ⟨cause, hcause, -⟩
    · rw [performAll_append, ledger_concat, entries_eq, hnone, Entry.allocations_append,
        ← Nat.add_assoc, ← hlive, ← hthreshold]
      exact ⟨congrArg Counts.live he.counts_eq, congrArg Counts.threshold he.counts_eq⟩
    · rw [hnone] at hcause
      cases hcause

/-- As long as fewer objects have been allocated than the threshold leaves room for, no call runs a
collection that does not ask for one. -/
theorem Arises.not_collects (hc : Arises config c) (hcap : config.maxObjects = none)
    (hcollect : .collect ∉ before) (hne : call ≠ .collect)
    (hlt : Entry.allocations (c.ledger before) < c.heap.threshold - c.heap.live) :
    ¬ (c.performAll before).Collects call := by
  obtain ⟨hlive, hthreshold⟩ := hc.live_performAll hcap hcollect fun pre other post heq => by
    rw [heq, ledger_append, Entry.allocations_append] at hlt
    exact .inl (by omega)
  have hroom : (c.performAll before).heap.live < (c.performAll before).heap.threshold := by omega
  rw [collects_iff, not_not]
  exact (hc.performAll before).sound.cause?_eq_none hcap hne (.inl hroom)

/-- The first allocation that the roots allow once there are as many live objects as the threshold
says finds a collection due. -/
theorem FirstAfter.cause?_eq (hc : Arises config c) (hcap : config.maxObjects = none)
    (hle : c.heap.live ≤ c.heap.threshold) (hcollect : .collect ∉ before)
    (hfirst : c.FirstAfter (c.heap.threshold - c.heap.live) before call) :
    (c.performAll before).cause? call = some .threshold := by
  have hcount := hfirst.allocations
  obtain ⟨hlive, hthreshold⟩ := hc.live_performAll hcap hcollect fun pre other post heq => by
    by_cases hall : Entry.allocations (c.ledger pre) = c.heap.threshold - c.heap.live
    · exact .inr (hfirst.waiting pre other post heq hall)
    · rw [heq, ledger_append, Entry.allocations_append] at hcount
      exact .inl (by omega)
  have hreached : (c.performAll before).heap.threshold ≤ (c.performAll before).heap.live := by omega
  rw [cause?_of_passes hfirst.passes, (hc.performAll before).sound.due?_eq hcap, if_pos hreached]

/-- The roots allow an allocation that passes their check, if it finds memory. -/
theorem allows_of_passes (hpasses : c.passes call = true) (hfed : call.isStarved = false) :
    c.Allows call := by
  cases call with
  | int value => exact RootStack.isOk_ensureRoom.1 hpasses
  | pair => exact RootStack.isOk_require.1 hpasses
  | starvedInt | starvedPair => cases hfed
  | pushRoot | popRoot | setHead | setTail | collect => cases hpasses

/-- An allocation that passes the check of the roots succeeds where there is no cap, if it finds
memory. -/
theorem Sound.perform_of_passes (hs : c.Sound config) (hcap : config.maxObjects = none)
    (hpasses : c.passes call = true) (hfed : call.isStarved = false) :
    ∃ h, (c.perform call).result = .ok (some h) := by
  have hroom : c.makeRoom.1.heap.isFull = false := hs.makeRoom.isFull_eq_false hcap
  exact (hs.perform_of_allows (allows_of_passes hpasses hfed)).2 hroom

/-- In every context that arises by calls the live objects are no more than the threshold, so that
this is reached when they are as many; and the threshold is that of the last collection. Without a
cap, and as long as no collection is asked for, no call collects before as many objects have been
allocated as the threshold leaves room for. The first allocation that the roots allow then runs one
collection, because of the threshold; the object is allocated after it, when there are fewer live
objects than the new threshold, and the call succeeds if it finds memory. -/
theorem threshold_schedule (hnew : ofConfig config = .ok c) (calls : List Call) :
    let d := c.performAll calls
    d.heap.live ≤ d.heap.threshold ∧
    (d.heap.shouldCollect = true ↔ d.heap.live = d.heap.threshold) ∧
    d.last = (Entry.records (c.ledger calls)).getLast? ∧
    d.heap.threshold = scheduled config.initialThreshold.toNat d.last ∧
    (config.maxObjects = none → ∀ before call, .collect ∉ before → call ≠ .collect →
      let e := d.performAll before
      (Entry.allocations (d.ledger before) < d.heap.threshold - d.heap.live → ¬ e.Collects call) ∧
      (d.FirstAfter (d.heap.threshold - d.heap.live) before call →
        e.entries call = .cycle .threshold e.cycle.1 :: Entry.ofResult (e.perform call).result ∧
        (e.perform call).context.collections = e.collections + 1 ∧
        e.cycle.2.heap.live < e.cycle.2.heap.threshold ∧
        Effect e.cycle.2 call (e.perform call).result (e.perform call).context ∧
        (call.isStarved = false → ∃ h, (e.perform call).result = .ok (some h)))) := by
  intro d
  have hd : Arises config d := (Arises.start hnew).performAll calls
  obtain ⟨hle, hlast, hthreshold⟩ := paced_performAll hnew calls
  refine ⟨hle, ?_, hlast, hthreshold, fun hcap before call hcollect hne => ?_⟩
  · rw [Heap.shouldCollect, decide_eq_true_eq]
    exact ⟨fun hge => Nat.le_antisymm hle hge, fun heq => heq.ge⟩
  · intro e
    have he : Arises config e := hd.performAll before
    refine ⟨hd.not_collects hcap hcollect hne, fun hfirst => ?_⟩
    have hcause := hfirst.cause?_eq hd hcap hle hcollect
    rcases he.sound.perform_cause call with ⟨hnone, -⟩ | ⟨cause, -, heffect⟩
    · rw [hcause] at hnone
      cases hnone
    · refine ⟨?_, ?_, he.sound.live_lt_cycle he.validate_eq, heffect,
        he.sound.perform_of_passes hcap hfirst.passes⟩
      · rw [entries_eq, hcause]
        rfl
      · rw [(runs_perform e call).collections, hcause]
        rfl

/-- With a threshold of two, two integers are allocated and the third runs a collection first, also
when a root has been taken off meanwhile. -/
theorem threshold_schedule_two :
    FirstAfter (empty { initialThreshold := 2 }) 2 [.int 1, .int 2, .popRoot] (.int 3) ∧
    ((empty { initialThreshold := 2 }).performAll [.int 1, .int 2, .popRoot]).entries (.int 3) =
      [.cycle .threshold ⟨2, 1, 1, 2⟩, .allocation] := by
  have hfirst : FirstAfter (empty { initialThreshold := 2 }) 2 [.int 1, .int 2, .popRoot]
      (.int 3) := by
    refine ⟨by decide, by decide, ?_⟩
    rintro (_ | ⟨a, _ | ⟨b, _ | ⟨x, pre⟩⟩⟩) other post heq hcount
    · exact absurd hcount (by decide)
    · cases heq
      exact absurd hcount (by decide)
    · cases heq
      rfl
    · simp at heq
  have hnew : ofConfig { initialThreshold := 2 } = .ok (empty { initialThreshold := 2 }) := rfl
  have hschedule := (threshold_schedule hnew []).2.2.2.2 rfl [.int 1, .int 2, .popRoot] (.int 3)
    (by decide) (by decide)
  refine ⟨hfirst, (hschedule.2 hfirst).1.trans ?_⟩
  decide +kernel

end

end Context

end RootedHeap
