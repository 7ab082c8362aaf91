import RootedHeap.Proofs.Cycles

/-!
# The ledger of a context

What a run of calls comes to is kept in a ledger: an entry for each object that is allocated and one
for each collection, with what made it run and its record (`Context.Entry`). Both are read off what
the calls answer and report, and nothing else is: a call runs a collection if it has a cause to
(`Context.cause?`), it runs no more than that one, and it reports it (`Context.runs_perform`).

Each entry posts to the counts of a context in one way (`Context.Counts.Post`). Whatever calls are
made, their ledger takes the counts before them to those after them (`Context.Arises.postAll`), and
what holds of thresholds, of the work of collections and of the objects of a run is proved from
that alone.
-/

namespace RootedHeap

/-- The record of the collection that an event reports, if it does. -/
def Event.record? : Event → Option Cycle
  | collected record => some record
  | thresholdReached _ _ | capReached _ | released | rootsViolated _ => none

namespace Context

/-! ## Entries -/

/-- What makes a collection run: the live objects have reached the threshold, or the cap, before an
allocation, or it is asked for. -/
inductive Cause where
  | threshold
  | cap
  | request
deriving DecidableEq, Repr

/-- One entry of a ledger. -/
inductive Entry where
  /-- An object has been allocated. -/
  | allocation
  /-- A collection has been run. -/
  | cycle (cause : Cause) (record : Cycle)
deriving DecidableEq, Repr

namespace Entry

/-- The collections that are reported, each with what is said to have made it run. -/
def ofEvents : List Event → List Entry
  | [] => []
  | .thresholdReached _ _ :: .collected record :: events =>
    .cycle .threshold record :: ofEvents events
  | .capReached _ :: .collected record :: events => .cycle .cap record :: ofEvents events
  | .collected record :: events => .cycle .request record :: ofEvents events
  | _ :: events => ofEvents events

/-- The allocation that a call answers with, if it does. -/
def ofResult : Except Error (Option Handle) → List Entry
  | .ok (some _) => [.allocation]
  | .ok none | .error _ => []

/-- The record of a collection. -/
def record? : Entry → Option Cycle
  | allocation => none
  | cycle _ record => some record

/-- The number of objects that have been allocated. -/
def allocations (entries : List Entry) : Nat := entries.count allocation

/-- The records of the collections, in order. -/
def records (entries : List Entry) : List Cycle := entries.filterMap record?

/-- The number of objects that collections have reclaimed. -/
def reclaimed (entries : List Entry) : Nat := ((records entries).map Cycle.reclaimed).sum

end Entry

/-- The entries of a call: the collection that it runs comes before the object it allocates. -/
def entries (c : Context) (call : Call) : List Entry :=
  Entry.ofEvents (c.perform call).events ++ Entry.ofResult (c.perform call).result

/-- The entries of calls, one after the other. -/
def ledger (c : Context) : List Call → List Entry
  | [] => []
  | call :: calls => c.entries call ++ (c.perform call).context.ledger calls

/-- What calls report, one after the other. -/
def log (c : Context) : List Call → List Event
  | [] => []
  | call :: calls => (c.perform call).events ++ (c.perform call).context.log calls

/-! ## Causes -/

/-- What makes a collection due before an allocation, if anything does. -/
def due? (c : Context) : Option Cause :=
  if c.heap.shouldCollect then some .threshold
  else if c.heap.isFull then some .cap
  else none

/-- Whether a call is an allocation that passes the check of the roots which comes first. -/
def passes (c : Context) : Call → Bool
  | .int _ | .starvedInt => c.roots.ensureRoom.isOk
  | .pair | .starvedPair => (c.roots.require 2).isOk
  | .pushRoot _ | .popRoot | .setHead _ _ | .setTail _ _ | .collect => false

/-- What makes a call run a collection, if anything does. -/
def cause? (c : Context) : Call → Option Cause
  | .collect => some .request
  | call => if c.passes call then c.due? else none

/-- What is reported of a collection. -/
def reports (c : Context) : Cause → List Event
  | .threshold => [.thresholdReached c.heap.live c.heap.threshold, .collected c.cycle.1]
  | .cap => [.capReached c.heap.live, .collected c.cycle.1]
  | .request => [.collected c.cycle.1]

/-- A step on a context runs a collection if it has a cause to, and no other, and reports it. -/
structure Runs {α : Type} (c : Context) (found : Option Cause) (s : Step α) : Prop where
  collections : s.context.collections = c.collections + found.toList.length
  entries : Entry.ofEvents s.events = found.toList.map (.cycle · c.cycle.1)

/-! ## Counts -/

/-- What a context counts, and the record of its last collection. -/
structure Counts where
  live : Nat
  threshold : Nat
  collections : Nat := 0
  last : Option Cycle := none

/-- The counts of a context. -/
def counts (c : Context) : Counts := ⟨c.heap.live, c.heap.threshold, c.collections, c.last⟩

namespace Counts

/-- The counts of a context without objects. -/
def start (initial : Nat) : Counts := { live := 0, threshold := initial }

/-- What an entry does to the counts, for the threshold to begin with. -/
inductive Post (initial : Nat) (s : Counts) : Entry → Counts → Prop
  | allocation : s.live < s.threshold → Post initial s .allocation { s with live := s.live + 1 }
  | cycle {cause : Cause} {record : Cycle} :
      record.before = s.live → record.before = record.reclaimed + record.remaining →
      record.threshold = (if record.remaining = 0 then initial else 2 * record.remaining) →
      (cause = .threshold → s.threshold ≤ s.live) →
      Post initial s (.cycle cause record)
        ⟨record.remaining, record.threshold, s.collections + 1, some record⟩

/-- What entries do to the counts, one after the other. -/
inductive PostAll (initial : Nat) (s : Counts) : List Entry → Counts → Prop
  | nil : PostAll initial s [] s
  | snoc {entries : List Entry} {entry : Entry} {t u : Counts} : PostAll initial s entries t →
      Post initial t entry u → PostAll initial s (entries ++ [entry]) u

end Counts

section
variable {α β : Type} {config : Config} {c d : Context} {call : Call} {initial : Nat}
  {s t u v : Counts} {entry : Entry} {entries more : List Entry} {found : Option Cause}

/-! ## Reading entries -/

namespace Entry

@[simp] theorem allocations_append (entries more : List Entry) :
    allocations (entries ++ more) = allocations entries + allocations more :=
  List.count_append

@[simp] theorem allocations_allocation : allocations [allocation] = 1 := rfl

@[simp] theorem allocations_cycle (cause : Cause) (record : Cycle) :
    allocations [cycle cause record] = 0 := rfl

@[simp] theorem records_append (entries more : List Entry) :
    records (entries ++ more) = records entries ++ records more :=
  List.filterMap_append

@[simp] theorem records_allocation : records [allocation] = [] := rfl

@[simp] theorem records_cycle (cause : Cause) (record : Cycle) :
    records [cycle cause record] = [record] := rfl

@[simp] theorem reclaimed_append (entries more : List Entry) :
    reclaimed (entries ++ more) = reclaimed entries + reclaimed more := by
  simp [reclaimed]

@[simp] theorem reclaimed_cycle (cause : Cause) (record : Cycle) :
    reclaimed [cycle cause record] = record.reclaimed :=
  List.sum_singleton

/-- A report of a collection is read as one. -/
theorem ofEvents_reports (cause : Cause) (events : List Event) :
    ofEvents (c.reports cause ++ events) = .cycle cause c.cycle.1 :: ofEvents events := by
  cases cause <;> rfl

/-- The collections that are read off events are those that have a record there. -/
theorem records_ofEvents (events : List Event) :
    records (ofEvents events) = events.filterMap Event.record? := by
  fun_induction ofEvents events with
  | case1 => rfl
  | case2 live threshold record events ih | case3 live record events ih | case4 record events ih =>
    exact congrArg (record :: ·) ih
  | case5 event events hthreshold hcap hcollected ih =>
    rw [ih]
    cases event with
    | collected record => exact absurd rfl (hcollected record)
    | thresholdReached | capReached | released | rootsViolated => rfl

/-- An answer is no collection. -/
theorem records_ofResult (result : Except Error (Option Handle)) :
    records (ofResult result) = [] := by
  unfold ofResult
  split <;> rfl

end Entry

/-! ## Runs of calls -/

/-- Calls and then more of them are performed one after the other. -/
theorem performAll_append (c : Context) (calls more : List Call) :
    c.performAll (calls ++ more) = (c.performAll calls).performAll more :=
  List.foldl_append

/-- The ledger of calls and then more of them. -/
theorem ledger_append (c : Context) (calls more : List Call) :
    c.ledger (calls ++ more) = c.ledger calls ++ (c.performAll calls).ledger more := by
  induction calls generalizing c with
  | nil => rfl
  | cons call calls ih =>
    show c.entries call ++ (c.perform call).context.ledger (calls ++ more) = _
    rw [ih, ← List.append_assoc]
    rfl

/-- The ledger of calls and then one more. -/
theorem ledger_concat (c : Context) (calls : List Call) (call : Call) :
    c.ledger (calls ++ [call]) = c.ledger calls ++ (c.performAll calls).entries call := by
  rw [ledger_append, ledger, ledger, List.append_nil]

/-- What calls and then more of them report. -/
theorem log_append (c : Context) (calls more : List Call) :
    c.log (calls ++ more) = c.log calls ++ (c.performAll calls).log more := by
  induction calls generalizing c with
  | nil => rfl
  | cons call calls ih =>
    show (c.perform call).events ++ (c.perform call).context.log (calls ++ more) = _
    rw [ih, ← List.append_assoc]
    rfl

/-- The collections in the ledger are those that calls report. -/
theorem records_ledger (c : Context) (calls : List Call) :
    Entry.records (c.ledger calls) = (c.log calls).filterMap Event.record? := by
  induction calls generalizing c with
  | nil => rfl
  | cons call calls ih =>
    rw [ledger, log, entries, Entry.records_append, Entry.records_append, Entry.records_ofEvents,
      Entry.records_ofResult, List.append_nil, List.filterMap_append, ih]

/-! ## Collections and their causes -/

/-- A collection is due before an allocation because of the threshold if this is reached. -/
theorem due?_eq_threshold : c.due? = some .threshold ↔ c.heap.threshold ≤ c.heap.live := by
  unfold due? Heap.shouldCollect
  split_ifs <;> simp_all

/-- If no collection is due, the threshold is not reached. -/
theorem lt_of_due?_eq_none (hnone : c.due? = none) : c.heap.live < c.heap.threshold := by
  rw [← Nat.not_le]
  intro hle
  rw [due?_eq_threshold.2 hle] at hnone
  cases hnone

/-- An allocation that passes the check of the roots runs a collection if it is due. -/
theorem cause?_of_passes (hpasses : c.passes call = true) : c.cause? call = c.due? := by
  cases call with
  | collect => cases hpasses
  | int | pair | starvedInt | starvedPair | pushRoot | popRoot | setHead | setTail =>
    exact if_pos hpasses

/-- Any other call runs a collection only if this is what it asks for. -/
theorem cause?_of_not_passes (hpasses : c.passes call = false) (hne : call ≠ .collect) :
    c.cause? call = none := by
  cases call with
  | collect => exact absurd rfl hne
  | int | pair | starvedInt | starvedPair =>
    exact if_neg (Bool.eq_false_iff.1 hpasses)
  | pushRoot | popRoot | setHead | setTail => rfl

/-- A call runs a collection because of the threshold only if this is reached. -/
theorem threshold_le_of_cause? (hcause : c.cause? call = some .threshold) :
    c.heap.threshold ≤ c.heap.live := by
  by_cases hpasses : c.passes call = true
  · rw [cause?_of_passes hpasses] at hcause
    exact due?_eq_threshold.1 hcause
  · by_cases heq : call = .collect
    · subst heq
      cases hcause
    · rw [cause?_of_not_passes (Bool.eq_false_iff.2 hpasses) heq] at hcause
      cases hcause

/-- Before an allocation a collection is run if it is due, and reported. -/
theorem makeRoom_eq (c : Context) :
    c.makeRoom = c.due?.elim (c, []) fun cause => (c.cycle.2, c.reports cause) := by
  unfold makeRoom trigger? due?
  cases c.heap.shouldCollect
  · cases c.heap.isFull <;> rfl
  · rfl

/-- A step may answer in another way. -/
theorem Runs.bind_query {s : Step α} (hs : c.Runs found s) (f : α → β) :
    c.Runs found (s.bind fun a c => c.query (.ok (f a))) := by
  rw [Context.bind_query]
  exact ⟨hs.collections, hs.entries⟩

/-- A refusal of the roots runs no collection. -/
theorem runs_refuse (c : Context) (e : StackError) : c.Runs none (c.refuse (α := α) e) := ⟨rfl, rfl⟩

/-- A collection that is asked for is run. -/
theorem runs_collect (c : Context) : c.Runs (some .request) c.collect := ⟨rfl, rfl⟩

/-- To put an object into the heap runs no collection. -/
theorem runs_allocate (c : Context) (object : Object) (roots : RootStack) :
    c.Runs none (c.allocate object roots) := by
  unfold allocate
  split
  · exact ⟨rfl, rfl⟩
  · split <;> exact ⟨rfl, rfl⟩

/-- To put a pair into the heap runs no collection. -/
theorem runs_placePair (c : Context) : c.Runs none c.placePair := by
  unfold placePair
  split
  · exact ⟨rfl, rfl⟩
  · split
    · exact ⟨rfl, rfl⟩
    · exact runs_allocate c _ _

/-- An allocation runs a collection if one is due and the check of the roots is passed. -/
theorem runs_allocating {place : Context → Step Handle} (hplace : ∀ d, Runs d none (place d))
    (check : Except StackError Unit) :
    c.Runs (if check.isOk then c.due? else none) (c.allocating check place) := by
  cases check with
  | error e => exact runs_refuse c e
  | ok u =>
    show c.Runs c.due? _
    rw [allocating_eq_of_ok rfl, makeRoom_eq]
    cases c.due? with
    | none => exact hplace c
    | some cause =>
      obtain ⟨hcollections, hentries⟩ := hplace c.cycle.2
      refine ⟨hcollections, ?_⟩
      show Entry.ofEvents (c.reports cause ++ _) = _
      rw [Entry.ofEvents_reports]
      exact congrArg _ hentries

/-- A call runs a collection if it has a cause to, and no other, and reports it. -/
theorem runs_perform (c : Context) (call : Call) : c.Runs (c.cause? call) (c.perform call) := by
  cases call with
  | int value => exact (runs_allocating (fun d => runs_allocate d _ _) _).bind_query _
  | pair => exact (runs_allocating runs_placePair _).bind_query _
  | starvedInt | starvedPair => exact (runs_allocating (fun _ => ⟨rfl, rfl⟩) _).bind_query _
  | pushRoot h =>
    refine Runs.bind_query ?_ _
    unfold pushRoot
    split
    · split
      · exact runs_refuse c _
      · exact ⟨rfl, rfl⟩
    · exact ⟨rfl, rfl⟩
  | popRoot =>
    refine Runs.bind_query ?_ _
    unfold popRoot
    split
    · exact runs_refuse c _
    · exact ⟨rfl, rfl⟩
  | setHead pair value => exact Runs.bind_query (s := c.setHead pair value) ⟨rfl, rfl⟩ _
  | setTail pair value => exact Runs.bind_query (s := c.setTail pair value) ⟨rfl, rfl⟩ _
  | collect => exact (runs_collect c).bind_query fun _ => none

/-- The entries of a call are the collection that it has a cause to run, and its allocation. -/
theorem entries_eq (c : Context) (call : Call) : c.entries call =
    (c.cause? call).toList.map (.cycle · c.cycle.1) ++ Entry.ofResult (c.perform call).result := by
  rw [entries, (runs_perform c call).entries]

/-- A call collects if it has a cause to. -/
theorem collects_iff : c.Collects call ↔ c.cause? call ≠ none := by
  rw [Collects, (runs_perform c call).collections]
  cases c.cause? call <;> simp

/-- A call that has no cause to collect has its effect on the context, and one that has a cause to
has it on the context after the collection. -/
theorem Sound.perform_cause (hs : c.Sound config) (call : Call) :
    c.cause? call = none ∧ Effect c call (c.perform call).result (c.perform call).context ∨
    ∃ cause, c.cause? call = some cause ∧
      Effect c.cycle.2 call (c.perform call).result (c.perform call).context := by
  rcases hs.perform_cases call with ⟨hnot, he⟩ | ⟨hcollects, he⟩
  · exact .inl ⟨by_contra fun hne => hnot (collects_iff.2 hne), he⟩
  · obtain ⟨cause, hcause⟩ := Option.ne_none_iff_exists'.1 (collects_iff.1 hcollects)
    exact .inr ⟨cause, hcause, he⟩

/-- What makes an object passes the check of the roots. -/
theorem passes_of_made? {object : Object} {rest : List Handle}
    (hmade : c.made? call = some (object, rest)) (hroom : rest.length < c.roots.capacity.toNat) :
    c.passes call = true := by
  cases call with
  | int value =>
    cases hmade
    rw [← c.roots.size_eq] at hroom
    exact RootStack.isOk_ensureRoom.2 hroom
  | pair =>
    obtain ⟨head, tail, hroots, -⟩ := made?_pair_eq_some.1 hmade
    refine RootStack.isOk_require.2 ?_
    rw [c.roots.size_eq, hroots]
    exact Nat.le_add_left 2 _
  | starvedInt | starvedPair | pushRoot | popRoot | setHead | setTail | collect => cases hmade

/-! ## Posting -/

namespace Counts

/-- One entry alone. -/
theorem Post.postAll (hpost : Post initial s entry t) : PostAll initial s [entry] t :=
  .snoc .nil hpost

/-- Entries and then more of them. -/
theorem PostAll.append (hfirst : PostAll initial s entries t)
    (hmore : PostAll initial t more u) : PostAll initial s (entries ++ more) u := by
  induction hmore with
  | nil => rwa [List.append_nil]
  | snoc _ hpost ih =>
    rw [← List.append_assoc]
    exact .snoc ih hpost

/-- The counts before the last entry. -/
theorem PostAll.exists_of_snoc (hall : PostAll initial s (entries ++ [entry]) u) :
    ∃ t, PostAll initial s entries t ∧ Post initial t entry u := by
  generalize hwhole : entries ++ [entry] = whole at hall
  cases hall with
  | nil => simp at hwhole
  | snoc hall hpost =>
    obtain ⟨rfl, hlast⟩ := List.append_inj' hwhole rfl
    cases hlast
    exact ⟨_, hall, hpost⟩

/-- The counts on the way from some entries to others. -/
theorem PostAll.exists_of_append (hall : PostAll initial s (entries ++ more) u) :
    ∃ t, PostAll initial s entries t ∧ PostAll initial t more u := by
  induction more using List.reverseRecOn generalizing u with
  | nil => exact ⟨u, by rwa [List.append_nil] at hall, .nil⟩
  | append_singleton more entry ih =>
    rw [← List.append_assoc] at hall
    obtain ⟨v, hall, hpost⟩ := hall.exists_of_snoc
    obtain ⟨t, hfirst, hmore⟩ := ih hall
    exact ⟨t, hfirst, hmore.snoc hpost⟩

/-- The counts before an entry and those after it. -/
theorem PostAll.exists_of_mem (hall : PostAll initial s (entries ++ entry :: more) v) :
    ∃ t u, PostAll initial s entries t ∧ Post initial t entry u ∧ PostAll initial u more v := by
  rw [List.append_cons] at hall
  obtain ⟨u, hfirst, hmore⟩ := hall.exists_of_append
  obtain ⟨t, hentries, hpost⟩ := hfirst.exists_of_snoc
  exact ⟨t, u, hentries, hpost, hmore⟩

end Counts

/-- A collection posts its record. -/
theorem Sound.post_cycle (hs : c.Sound config) {cause : Cause}
    (hcause : cause = .threshold → c.heap.threshold ≤ c.heap.live) :
    Counts.Post config.initialThreshold.toNat c.counts (.cycle cause c.cycle.1)
      c.cycle.2.counts := by
  have hexact := hs.exactCycle
  have hle : c.cycle.1.remaining ≤ c.cycle.1.before := live_cycle_le c
  have hreclaimed := hexact.reclaimed
  exact .cycle rfl (by omega) hexact.threshold hcause

/-- After a collection the threshold is not reached. -/
theorem Sound.live_lt_cycle (hs : c.Sound config) (hv : config.validate = .ok ()) :
    c.cycle.2.heap.live < c.cycle.2.heap.threshold := by
  have hpos := Config.initialThreshold_pos hv
  show c.cycle.1.remaining < c.cycle.1.threshold
  rw [hs.exactCycle.threshold]
  split <;> omega

/-- An effect of a call changes no count but that of live objects, and this by what is allocated. -/
theorem Effect.counts_eq {result : Except Error (Option Handle)} (he : Effect c call result d) :
    d.counts =
      { c.counts with live := c.heap.live + Entry.allocations (Entry.ofResult result) } := by
  cases he with
  | refused | collected | rooted | unrooted | headSet | tailSet => rfl
  | placed hmade hheap hroom =>
    show Counts.mk (c.heap.alloc _).2.live (c.heap.alloc _).2.threshold _ _ = _
    rw [Heap.alloc_eq hheap]
    rfl

/-- A call posts the object that it allocates, its collection apart, if the threshold is not reached
before. -/
theorem Effect.postAll {result : Except Error (Option Handle)} (he : Effect c call result d)
    (hlt : c.passes call = true → c.heap.live < c.heap.threshold) :
    Counts.PostAll initial c.counts (Entry.ofResult result) d.counts := by
  rw [he.counts_eq]
  cases he with
  | refused | collected | rooted | unrooted | headSet | tailSet => exact .nil
  | placed hmade hheap hroom =>
    exact (Counts.Post.allocation (hlt (passes_of_made? hmade hroom))).postAll

/-- A call posts its entries. -/
theorem Sound.postAll_perform (hs : c.Sound config) (hv : config.validate = .ok ()) (call : Call) :
    Counts.PostAll config.initialThreshold.toNat c.counts (c.entries call)
      (c.perform call).context.counts := by
  rw [entries_eq]
  rcases hs.perform_cause call with ⟨hnone, he⟩ | ⟨cause, hcause, he⟩
  · rw [hnone]
    exact he.postAll fun hpasses => lt_of_due?_eq_none (cause?_of_passes hpasses ▸ hnone)
  · rw [hcause]
    have hcycle := hs.post_cycle fun heq : cause = .threshold =>
      threshold_le_of_cause? (heq ▸ hcause)
    exact hcycle.postAll.append (he.postAll fun _ => hs.live_lt_cycle hv)

/-- Whatever calls are made on a context that arises by calls, their ledger takes the counts before
them to those after them. -/
theorem Arises.postAll (hc : Arises config c) (calls : List Call) :
    Counts.PostAll config.initialThreshold.toNat c.counts (c.ledger calls)
      (c.performAll calls).counts := by
  induction calls generalizing c with
  | nil => exact .nil
  | cons call calls ih =>
    exact (hc.sound.postAll_perform hc.validate_eq call).append (ih (hc.perform call))

/-- Whatever calls are made on a new context, their ledger takes the counts from nothing to those
after them. -/
theorem postAll_of_new (hnew : ofConfig config = .ok c) (calls : List Call) :
    Counts.PostAll config.initialThreshold.toNat (.start config.initialThreshold.toNat)
      (c.ledger calls) (c.performAll calls).counts := by
  have hc : Arises config c := .start hnew
  obtain ⟨-, rfl⟩ := ofConfig_eq_ok.1 hnew
  exact hc.postAll calls

end

end Context

end RootedHeap
