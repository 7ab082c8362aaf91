import Mathlib.Data.List.DropRight
import RootedHeap.Proofs.Thresholds

/-!
# What collections cost

A collection goes over the live objects that are there before it. When it is the threshold that
makes it run, these are at most twice as many as the objects which have been allocated since the
collection before, whatever made that one run; so all such collections together go over at most two
objects for each that is ever allocated (`Context.threshold_work_le`).

The live objects are those that the last collection left and those allocated since
(`Context.Counts.Funded`). If it left any, the threshold is twice as many as it left, and who
reaches it has allocated at least as many again. Each allocation puts aside two units of work for
this, and a collection that the threshold makes due spends no more than what has been put aside
since the last one.
-/

namespace RootedHeap

namespace Context

namespace Entry

/-- Whether an object has been allocated. -/
def isAllocation : Entry → Bool
  | allocation => true
  | cycle _ _ => false

/-- The number of objects that have been allocated since the last collection, or since the beginning
if there is none. -/
def fresh (entries : List Entry) : Nat := (entries.rtakeWhile isAllocation).length

/-- The number of live objects that a collection goes over which the threshold makes due. -/
def thresholdWork : Entry → Nat
  | cycle .threshold record => record.before
  | cycle .cap _ | cycle .request _ | allocation => 0

end Entry

/-- The number of objects that the last collection left, if there has been one. -/
def survivors : Option Cycle → Nat
  | none => 0
  | some record => record.remaining

/-- The live objects are those that the last collection left and those allocated since; and what
collections have gone over because of the threshold is paid with two units of work for each object
that was allocated before the last one. -/
structure Counts.Funded (entries : List Entry) (s : Counts) : Prop where
  live_eq : s.live = survivors s.last + Entry.fresh entries
  work_le : (entries.map Entry.thresholdWork).sum + 2 * Entry.fresh entries ≤
    2 * Entry.allocations entries

section
variable {config : Config} {c : Context} {initial : Nat} {s t : Counts} {entry : Entry}
  {entries : List Entry} {record : Cycle}

/-! ## Objects since the last collection -/

namespace Entry

@[simp] theorem fresh_concat_allocation (entries : List Entry) :
    fresh (entries ++ [allocation]) = fresh entries + 1 := by
  rw [fresh, List.rtakeWhile_concat_pos _ _ _ rfl, List.length_append]
  rfl

@[simp] theorem fresh_concat_cycle (entries : List Entry) (cause : Cause) (record : Cycle) :
    fresh (entries ++ [cycle cause record]) = 0 := by
  rw [fresh, List.rtakeWhile_concat_neg _ _ _ Bool.false_ne_true]
  rfl

end Entry

/-! ## What has been put aside -/

namespace Counts

/-- A collection that the threshold makes due goes over at most two objects for each that has been
allocated since the last one. -/
theorem Post.before_le (hpost : Post initial s (.cycle .threshold record) t)
    (hpaced : s.Paced initial entries) (hfunded : s.Funded entries) :
    record.before ≤ 2 * Entry.fresh entries := by
  cases hpost with
  | cycle hbefore hsum hthreshold hcause =>
    have hlive := hfunded.live_eq
    have hreached := hcause rfl
    rw [hpaced.threshold_eq] at hreached
    rw [hbefore]
    cases hlast : s.last with
    | none =>
      rw [hlast, survivors] at hlive
      omega
    | some last =>
      rw [hlast, survivors] at hlive
      rw [hlast, scheduled] at hreached
      split at hreached <;> omega

/-- Nothing is put aside to begin with, and nothing is spent. -/
theorem funded_start (initial : Nat) : (start initial).Funded [] where
  live_eq := rfl
  work_le := Nat.le_refl _

/-- An entry keeps the counts funded. -/
theorem Funded.post (hfunded : s.Funded entries) (hpaced : s.Paced initial entries)
    (hpost : Post initial s entry t) : t.Funded (entries ++ [entry]) := by
  have hwork := hfunded.work_le
  have hsum : ((entries ++ [entry]).map Entry.thresholdWork).sum =
      (entries.map Entry.thresholdWork).sum + entry.thresholdWork := by
    rw [List.map_append, List.sum_append, List.map_singleton, List.sum_singleton]
  cases entry with
  | allocation =>
    cases hpost
    constructor
    · rw [Entry.fresh_concat_allocation, ← Nat.add_assoc, ← hfunded.live_eq]
    · rw [hsum, Entry.thresholdWork, Entry.fresh_concat_allocation, Entry.allocations_append,
        Entry.allocations_allocation]
      omega
  | cycle cause record =>
    -- What has been put aside pays for the collection if the threshold is its cause.
    have hpaid : (Entry.cycle cause record).thresholdWork ≤ 2 * Entry.fresh entries := by
      cases cause with
      | threshold => exact hpost.before_le hpaced hfunded
      | cap | request => exact Nat.zero_le _
    cases hpost
    constructor
    · rw [Entry.fresh_concat_cycle]
      rfl
    · rw [hsum, Entry.fresh_concat_cycle, Entry.allocations_append, Entry.allocations_cycle]
      omega

/-- Entries keep the counts funded. -/
theorem PostAll.funded (hall : PostAll initial (start initial) entries t) (hpos : 0 < initial) :
    t.Funded entries := by
  induction hall with
  | nil => exact funded_start initial
  | snoc hall hpost ih => exact ih.post (hall.paced hpos) hpost

end Counts

/-! ## Every run -/

/-- Whatever calls are made on a new context, and whether they succeed or not: a collection that the
threshold makes due goes over at most two live objects for each object that has been allocated since
the collection before it, or since the beginning if there is none; and all of them together go over
at most two for each object that is allocated. -/
theorem threshold_work_le (hnew : ofConfig config = .ok c) (calls : List Call) :
    (∀ before record after, c.ledger calls = before ++ .cycle .threshold record :: after →
      record.before ≤ 2 * Entry.fresh before) ∧
    ((c.ledger calls).map Entry.thresholdWork).sum ≤ 2 * Entry.allocations (c.ledger calls) := by
  have hall := postAll_of_new hnew calls
  have hpos := Config.initialThreshold_pos (ofConfig_eq_ok.1 hnew).1
  constructor
  · intro before record after heq
    rw [heq] at hall
    obtain ⟨s, t, hbefore, hpost, -⟩ := hall.exists_of_mem
    exact hpost.before_le (hbefore.paced hpos) (hbefore.funded hpos)
  · have hwork := (hall.funded hpos).work_le
    omega

/-- With a threshold of two, a third integer is preceded by a collection that leaves one object, and
a fourth by one that goes over two: no more than one has been allocated in between, so the bound is
met. -/
theorem threshold_work_le_two :
    (empty { initialThreshold := 2 }).ledger [.int 1, .int 2, .popRoot, .int 3, .int 4] =
      [.allocation, .allocation, .cycle .threshold ⟨2, 1, 1, 2⟩, .allocation] ++
        [.cycle .threshold ⟨2, 0, 2, 4⟩, .allocation] ∧
    2 ≤ 2 * Entry.fresh [.allocation, .allocation, .cycle .threshold ⟨2, 1, 1, 2⟩, .allocation] ∧
    Entry.fresh [.allocation, .allocation, .cycle .threshold ⟨2, 1, 1, 2⟩, .allocation] = 1 := by
  have hnew : ofConfig { initialThreshold := 2 } = .ok (empty { initialThreshold := 2 }) := rfl
  have hledger : (empty { initialThreshold := 2 }).ledger
      [.int 1, .int 2, .popRoot, .int 3, .int 4] =
      [.allocation, .allocation, .cycle .threshold ⟨2, 1, 1, 2⟩, .allocation] ++
        [.cycle .threshold ⟨2, 0, 2, 4⟩, .allocation] := by decide +kernel
  exact ⟨hledger, (threshold_work_le hnew _).1 _ _ _ hledger, by decide⟩

end

end Context

end RootedHeap
