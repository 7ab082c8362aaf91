import RootedHeap.Proofs.Exhaustion
import RootedHeap.Proofs.Conservation

/-!
# What a context reports

A call reports one of three things, and nothing besides (`Context.Reports`): the refusal of the root
stack if this refuses it, the collection that it runs if it has a cause to, or nothing. For the
first it is needed that the check of the roots, which comes before everything else, is the only
place where an allocation can be refused by them: what passes it is placed quietly
(`Context.quiet_placeInt`, `Context.quiet_placePair`).

From this it follows that what is reported is what happens (`Context.Truthful`), call by call, also
where the reports of one call stand behind those of another: no call ends with the reason of a
collection (`Closed`), so a record never stands behind a reason that is not its own. Over a whole
run the records are those that the context keeps (`Context.kept`), and the end is reported once
(`Context.log_truthful`). All this is said of what is seen of the events (`Event.View`), down to the
names and the values of their fields.
-/

namespace RootedHeap

namespace Event

/-- What is seen of an event. -/
structure View where
  level : Level
  target : String
  message : String
  fields : List (String × Value)
deriving DecidableEq, Repr

/-- An event as it is seen. -/
def view (e : Event) : View := ⟨e.level, e.target, e.message, e.fields⟩

namespace View

/-- The record of a collection. -/
def collected (cycle : Cycle) : View where
  level := .info
  target := "marksweep::gc"
  message := "collected " ++ toString cycle.reclaimed ++ " objects, " ++
    toString cycle.remaining ++ " remaining"
  fields := [("reclaimed", .number cycle.reclaimed), ("remaining", .number cycle.remaining),
    ("threshold", .number cycle.threshold)]

/-- The reason of a collection for which so many objects are live that the threshold is reached. -/
def thresholdReached (live threshold : Nat) : View where
  level := .debug
  target := "marksweep::gc"
  message := "threshold reached, collecting before allocation"
  fields := [("live", .number live), ("threshold", .number threshold)]

/-- The reason of a collection for which so many objects are live that the cap is reached. -/
def capReached (live : Nat) : View where
  level := .debug
  target := "marksweep::gc"
  message := "object cap reached, collecting before allocation"
  fields := [("live", .number live)]

/-- The end of a context. -/
def released : View where
  level := .debug
  target := "marksweep::gc"
  message := "context released"
  fields := []

/-- The warning that the root stack refuses a call. -/
def violated (e : StackError) : View where
  level := .warn
  target := "marksweep::stack"
  message := "root stack discipline violated"
  fields := [("error", .text e.message)]

end View

/-- The end of a context is seen of no other event. -/
theorem view_eq_released {e : Event} : e.view = .released ↔ e = .released := by
  cases e <;> simp [view, View.released, level, target, message, fields]

end Event

/-- Reports that do not end with the reason of a collection that is still to come. -/
def Closed (events : List Event) : Prop :=
  ∀ event, events.getLast? = some event → event.level ≠ .debug

/-- Reports and then more of them end with no reason if neither do. -/
theorem Closed.append {events more : List Event} (hevents : Closed events)
    (hmore : Closed more) : Closed (events ++ more) := by
  intro event hlast
  rw [List.getLast?_append, Option.or_eq_some_iff] at hlast
  rcases hlast with hlast | ⟨-, hlast⟩
  · exact hmore event hlast
  · exact hevents event hlast

namespace Context

/-- A call is an allocation. -/
def Call.allocates : Call → Bool
  | .int _ | .pair | .starvedInt | .starvedPair => true
  | .pushRoot _ | .popRoot | .setHead _ _ | .setTail _ _ | .collect => false

/-- A call is one that needs room on the root stack, or entries of it. -/
def Call.needsRoots : Call → Bool
  | .pushRoot _ | .popRoot => true
  | call => call.allocates

/-- A step reports nothing, and the root stack does not refuse it. -/
structure Quiet {α : Type} (s : Step α) : Prop where
  events : s.events = []
  result : ∀ e, s.result ≠ .error (.stack e)

/-- A step that the root stack refuses runs no collection and reports the refusal. Any other reports
the collection that it runs, if it has a cause to. -/
inductive Reports {α : Type} (c : Context) (found : Option Cause) (s : Step α) : Prop
  | refused (e : StackError) : found = none → s.result = .error (.stack e) →
      s.events = [.rootsViolated e] → Reports c found s
  | passed : (∀ e, s.result ≠ .error (.stack e)) → s.events = found.elim [] c.reports →
      Reports c found s

/-- The reason that is reported of a collection before its record. -/
def reason (c : Context) : Cause → List Event
  | .threshold => [.thresholdReached c.heap.live c.heap.threshold]
  | .cap => [.capReached c.heap.live]
  | .request => []

/-- The record of the collection that a call runs, if it does, as the context keeps it. -/
def keeps? (c : Context) (call : Call) : Option Cycle :=
  if (c.perform call).context.collections = c.collections then none
  else (c.perform call).context.last

/-- The records that the context keeps in the course of calls. -/
def kept (c : Context) : List Call → List Cycle
  | [] => []
  | call :: calls => (c.keeps? call).toList ++ (c.perform call).context.kept calls

/-- What a call reports is what happens, `log` being what has been reported before. -/
structure Truthful (config : Config) (log : List Event) (c : Context) (call : Call) : Prop where
  /-- A collection is reported by its record. Right before it stands that the threshold was reached,
  or that the cap was, if this is why an allocation has run it, and no reason if it was asked
  for. -/
  collected : c.Collects call → ∃ d record info reason,
    ExactCycle config c d record ∧ (c.perform call).context.last = some record ∧
    (c.perform call).events = reason ++ [info] ∧ info.view = .collected record ∧
    reason.length ≤ 1 ∧ (∀ event ∈ reason, event.level = .debug) ∧
    ((log ++ reason).getLast?.map Event.view =
        some (.thresholdReached c.heap.live c.heap.threshold) ↔
      call.allocates = true ∧ c.heap.threshold ≤ c.heap.live) ∧
    ((log ++ reason).getLast?.map Event.view = some (.capReached c.heap.live) ↔
      call.allocates = true ∧ c.heap.live < c.heap.threshold ∧
        ∃ m, config.maxObjects = some m ∧ m.toNat ≤ c.heap.live) ∧
    (call = .collect ↔ Closed (log ++ reason))
  /-- There is a warning if the root stack refuses a call that needs it. -/
  warned : (∃ event ∈ (c.perform call).events, event.level = .warn) ↔
    call.needsRoots = true ∧ ∃ e, (c.perform call).result = .error (.stack e)
  /-- The warning carries the sentence of the error, and stands alone. -/
  warning : ∀ e, (c.perform call).result = .error (.stack e) →
    (c.perform call).events.map Event.view = [.violated e]
  /-- Otherwise nothing is reported. -/
  silent : ¬ c.Collects call → (∀ e, (c.perform call).result ≠ .error (.stack e)) →
    (c.perform call).events = []

section
variable {α β : Type} {config : Config} {c : Context} {call : Call} {found : Option Cause}
  {cause : Cause} {s : Step α}

/-! ## Steps -/

/-- A refusal of the root stack is reported. -/
theorem reports_refuse (c : Context) (e : StackError) : c.Reports none (c.refuse (α := α) e) :=
  .refused e rfl rfl rfl

/-- A quiet step reports no collection. -/
theorem Quiet.reports (hs : Quiet s) : c.Reports none s := .passed hs.result hs.events

/-- The root stack refuses what it refuses, whatever the answer would have been. -/
theorem map_eq_stack_iff {result : Except Error α} {f : α → β} {e : StackError} :
    result.map f = .error (.stack e) ↔ result = .error (.stack e) := by
  cases result <;> simp [Except.map]

/-- A step may answer in another way. -/
theorem Reports.bind_query (hs : c.Reports found s) (f : α → β) :
    c.Reports found (s.bind fun a c => c.query (.ok (f a))) := by
  rw [Context.bind_query]
  cases hs with
  | refused e hfound hresult hevents =>
    exact .refused e hfound (map_eq_stack_iff.2 hresult) hevents
  | passed hresult hevents =>
    exact .passed (fun e heq => hresult e (map_eq_stack_iff.1 heq)) hevents

/-- An integer is placed quietly if the roots are not full. -/
theorem quiet_placeInt (hroots : c.roots.isFull = false) (value : Int32) :
    Quiet (c.placeInt value) := by
  cases hheap : c.heap.isFull with
  | true =>
    rw [placeInt, allocate_eq_of_isFull hheap]
    exact ⟨rfl, fun _ he => by cases he⟩
  | false =>
    rw [placeInt_eq hheap hroots]
    exact ⟨rfl, fun _ he => by cases he⟩

/-- A pair is placed quietly if there are two roots. -/
theorem quiet_placePair (htwo : 2 ≤ c.roots.size) (hsize : c.roots.size ≤ c.roots.capacity.toNat) :
    Quiet c.placePair := by
  obtain ⟨tail, head, rest, hroots⟩ := RootStack.exists_entries_of_two_le htwo
  cases hheap : c.heap.isFull with
  | true =>
    rw [placePair_eq_of_isFull hheap hroots]
    exact ⟨rfl, fun _ he => by cases he⟩
  | false =>
    rw [placePair_eq hheap hroots hsize]
    exact ⟨rfl, fun _ he => by cases he⟩

/-- An allocation reports a collection if one is due and the check of the roots is passed, and if
the object is then placed quietly. -/
theorem reports_allocating {check : Except StackError Unit} {place : Context → Step Handle}
    (hplace : check.isOk = true → Quiet (place c.makeRoom.1)) :
    c.Reports (if check.isOk then c.due? else none) (c.allocating check place) := by
  cases check with
  | error e => exact reports_refuse c e
  | ok u =>
    obtain ⟨hevents, hresult⟩ := hplace rfl
    show c.Reports c.due? _
    rw [allocating_eq_of_ok rfl]
    refine .passed hresult ?_
    show c.makeRoom.2 ++ (place c.makeRoom.1).events = _
    rw [hevents, List.append_nil, makeRoom_eq]
    cases c.due? <;> rfl

/-- An allocation that finds no memory is quiet. -/
theorem quiet_starve (c : Context) : Quiet c.starve := ⟨rfl, nofun⟩

/-- A field is set quietly. -/
theorem Sets.quiet {set : Handle → Handle → Call} {change : Handle → Handle → Handle → Object}
    {p v : Handle} (hset : Sets set change) (hevents : (c.perform (set p v)).events = []) :
    Quiet (c.perform (set p v)) := by
  refine ⟨hevents, fun e heq => ?_⟩
  rcases hset.cases c p v with ⟨e', -, hresult, -⟩ | ⟨_, _, -, -, hresult, -⟩
  · rw [hresult] at heq
    cases heq
  · rw [hresult] at heq
    cases heq

/-- The head of a pair is set quietly. -/
theorem quiet_setHead (c : Context) (p v : Handle) : Quiet (c.perform (.setHead p v)) :=
  sets_setHead.quiet (by rw [perform, bind_query]; rfl)

/-- The tail of a pair is set quietly. -/
theorem quiet_setTail (c : Context) (p v : Handle) : Quiet (c.perform (.setTail p v)) :=
  sets_setTail.quiet (by rw [perform, bind_query]; rfl)

/-- A call reports the collection that it has a cause to run, or that the root stack refuses it. -/
theorem Sound.reports_perform (hs : c.Sound config) (call : Call) :
    c.Reports (c.cause? call) (c.perform call) := by
  cases call with
  -- The check has found room or two roots, and a collection in between leaves the roots alone.
  | int value =>
    refine (reports_allocating fun hok => quiet_placeInt ?_ value).bind_query _
    rw [roots_makeRoom, Bool.eq_false_iff, Ne, RootStack.isFull_iff, ← c.roots.size_eq, Nat.not_le]
    exact RootStack.isOk_ensureRoom.1 hok
  | pair =>
    refine (reports_allocating fun hok => quiet_placePair ?_ ?_).bind_query _
    · rw [roots_makeRoom]
      exact RootStack.isOk_require.1 hok
    · rw [roots_makeRoom]
      exact hs.size_le
  | starvedInt | starvedPair =>
    exact (reports_allocating fun _ => quiet_starve _).bind_query _
  | pushRoot h =>
    refine Reports.bind_query ?_ _
    unfold pushRoot
    split
    · split
      · exact reports_refuse c _
      · exact Quiet.reports ⟨rfl, nofun⟩
    · exact Quiet.reports ⟨rfl, nofun⟩
  | popRoot =>
    refine Reports.bind_query ?_ _
    unfold popRoot
    split
    · exact reports_refuse c _
    · exact Quiet.reports ⟨rfl, nofun⟩
  | setHead p v => exact (quiet_setHead c p v).reports
  | setTail p v => exact (quiet_setTail c p v).reports
  | collect => exact .passed nofun rfl

/-! ## Reasons -/

/-- A record stands behind its reason. -/
theorem reports_eq (c : Context) (cause : Cause) :
    c.reports cause = c.reason cause ++ [.collected c.cycle.1] := by
  cases cause <;> rfl

/-- A reason is an event of little weight, or there is none. -/
theorem level_of_mem_reason {event : Event} (hevent : event ∈ c.reason cause) :
    event.level = .debug := by
  cases cause with
  | threshold | cap =>
    obtain rfl := List.mem_singleton.1 hevent
    rfl
  | request => cases hevent

/-- What passes the check of the roots is an allocation. -/
theorem allocates_of_passes (hpasses : c.passes call = true) : call.allocates = true := by
  cases call with
  | int | pair | starvedInt | starvedPair => rfl
  | pushRoot | popRoot | setHead | setTail | collect => cases hpasses

/-- A collection that a call runs is asked for by it, or due before an allocation. -/
theorem cause?_cases (hcause : c.cause? call = some cause) :
    call = .collect ∧ cause = .request ∨ call.allocates = true ∧ c.due? = some cause := by
  by_cases hpasses : c.passes call = true
  · exact .inr ⟨allocates_of_passes hpasses, cause?_of_passes hpasses ▸ hcause⟩
  · by_cases heq : call = .collect
    · subst heq
      cases hcause
      exact .inl ⟨rfl, rfl⟩
    · rw [cause?_of_not_passes (Bool.eq_false_iff.2 hpasses) heq] at hcause
      cases hcause

/-- A collection is due because of the cap if only this is reached. -/
theorem due?_eq_cap :
    c.due? = some .cap ↔ c.heap.live < c.heap.threshold ∧ c.heap.isFull = true := by
  unfold due? Heap.shouldCollect
  split_ifs <;> simp_all

/-- A collection that is due is not one that is asked for. -/
theorem due?_ne_request : c.due? ≠ some .request := by
  unfold due?
  split_ifs <;> simp

/-- What makes a call run a collection, by what the call is and how many objects are live. -/
theorem Sound.cause_iff (hs : c.Sound config) (hcause : c.cause? call = some cause) :
    (cause = .threshold ↔ call.allocates = true ∧ c.heap.threshold ≤ c.heap.live) ∧
    (cause = .cap ↔ call.allocates = true ∧ c.heap.live < c.heap.threshold ∧
      ∃ m, config.maxObjects = some m ∧ m.toNat ≤ c.heap.live) ∧
    (cause = .request ↔ call = .collect) := by
  rw [← hs.isFull_iff, ← due?_eq_threshold, ← due?_eq_cap]
  rcases cause?_cases hcause with ⟨rfl, rfl⟩ | ⟨halloc, hdue⟩
  · simp [Call.allocates]
  · have hne : call ≠ .collect := by
      rintro rfl
      cases halloc
    have hrequest : cause ≠ .request := by
      rintro rfl
      exact due?_ne_request hdue
    simp [halloc, hdue, hne, hrequest]

/-- The last report before a record says why the collection is run, if the reports before do not end
with a reason. -/
theorem getLast?_reason (c : Context) (cause : Cause) {log : List Event} (hlog : Closed log) :
    ((log ++ c.reason cause).getLast?.map Event.view =
        some (.thresholdReached c.heap.live c.heap.threshold) ↔ cause = .threshold) ∧
    ((log ++ c.reason cause).getLast?.map Event.view = some (.capReached c.heap.live) ↔
      cause = .cap) ∧
    (Closed (log ++ c.reason cause) ↔ cause = .request) := by
  cases cause with
  | threshold | cap =>
    simp [reason, Closed, Event.view, Event.View.thresholdReached, Event.View.capReached,
      Event.level, Event.target, Event.message, Event.fields]
  | request =>
    have hnone : ∀ view : Event.View, view.level = .debug →
        log.getLast?.map Event.view ≠ some view := by
      intro view hview hlast
      obtain ⟨event, hevent, rfl⟩ := Option.map_eq_some_iff.1 hlast
      exact hlog event hevent hview
    rw [reason, List.append_nil]
    exact ⟨iff_of_false (hnone _ rfl) nofun, iff_of_false (hnone _ rfl) nofun,
      iff_of_true hlog rfl⟩

/-! ## Calls -/

/-- Only a call that needs the roots is refused by them. -/
theorem needsRoots_of_result {e : StackError}
    (he : (c.perform call).result = .error (.stack e)) : call.needsRoots = true := by
  cases call with
  | int | pair | starvedInt | starvedPair | pushRoot | popRoot => rfl
  | setHead p v => exact absurd he ((quiet_setHead c p v).result e)
  | setTail p v => exact absurd he ((quiet_setTail c p v).result e)
  | collect => cases he

/-- The reports of a collection hold no warning. -/
theorem level_of_mem_reports {event : Event} (hevent : event ∈ c.reports cause) :
    event.level ≠ .warn := by
  rw [reports_eq, List.mem_append, List.mem_singleton] at hevent
  rcases hevent with hevent | rfl
  · rw [level_of_mem_reason hevent]
    nofun
  · nofun

/-- What a call reports is what happens. -/
theorem Sound.truthful (hs : c.Sound config) {log : List Event} (hlog : Closed log) (call : Call) :
    c.Truthful config log call where
  collected hcollects := by
    rcases hs.perform_cause call with ⟨hnone, -⟩ | ⟨cause, hcause, he⟩
    · exact absurd hnone (collects_iff.1 hcollects)
    · obtain ⟨hthreshold, hcap, hrequest⟩ := hs.cause_iff hcause
      obtain ⟨hthreshold', hcap', hrequest'⟩ := getLast?_reason c cause hlog
      refine ⟨_, _, .collected c.cycle.1, c.reason cause, hs.exactCycle, he.last_eq, ?_, rfl, ?_,
        fun _ => level_of_mem_reason, hthreshold'.trans hthreshold, hcap'.trans hcap,
        (hrequest'.trans hrequest).symm⟩
      · rcases hs.reports_perform call with ⟨e, hfound, -, -⟩ | ⟨-, hevents⟩
        · rw [hcause] at hfound
          cases hfound
        · rw [hevents, hcause, ← reports_eq]
          rfl
      · cases cause <;> simp [reason]
  warned := by
    rcases hs.reports_perform call with ⟨e, -, hresult, hevents⟩ | ⟨hresult, hevents⟩
    · rw [hevents]
      exact iff_of_true ⟨_, .head _, rfl⟩ ⟨needsRoots_of_result hresult, e, hresult⟩
    · refine iff_of_false ?_ fun ⟨_, e, he⟩ => hresult e he
      rintro ⟨event, hmem, hlevel⟩
      rw [hevents] at hmem
      cases hfound : c.cause? call with
      | none =>
        rw [hfound] at hmem
        cases hmem
      | some cause =>
        rw [hfound] at hmem
        exact level_of_mem_reports hmem hlevel
  warning e he := by
    rcases hs.reports_perform call with ⟨e', -, hresult, hevents⟩ | ⟨hresult, -⟩
    · rw [hresult] at he
      cases he
      rw [hevents]
      rfl
    · exact absurd he (hresult e)
  silent hnot hresult := by
    rcases hs.reports_perform call with ⟨e, -, he, -⟩ | ⟨-, hevents⟩
    · exact absurd he (hresult e)
    · rw [collects_iff, not_not] at hnot
      rw [hevents, hnot]
      rfl

/-! ## Runs -/

/-- A call ends with no reason, and reports no end. -/
theorem Sound.closed_perform (hs : c.Sound config) (call : Call) :
    Closed (c.perform call).events ∧ .released ∉ (c.perform call).events := by
  rcases hs.reports_perform call with ⟨e, -, -, hevents⟩ | ⟨-, hevents⟩
  · rw [hevents]
    simp [Closed, Event.level]
  · rw [hevents]
    rcases c.cause? call with _ | _ | _ | _ <;> simp [Closed, Event.level, reports]

/-- Calls end with no reason, and report no end. -/
theorem Sound.closed_log (hs : c.Sound config) (calls : List Call) :
    Closed (c.log calls) ∧ .released ∉ c.log calls := by
  induction calls generalizing c with
  | nil => exact ⟨nofun, List.not_mem_nil⟩
  | cons call calls ih =>
    obtain ⟨hclosed, hreleased⟩ := hs.closed_perform call
    obtain ⟨hclosed', hreleased'⟩ := ih (hs.perform call)
    refine ⟨hclosed.append hclosed', ?_⟩
    rw [log, List.mem_append, not_or]
    exact ⟨hreleased, hreleased'⟩

/-- The record that the context keeps is that of the collection which the call has a cause to
run. -/
theorem Sound.keeps?_eq (hs : c.Sound config) (call : Call) :
    c.keeps? call = (c.cause? call).map fun _ => c.cycle.1 := by
  rcases hs.perform_cause call with ⟨hnone, -⟩ | ⟨cause, hcause, he⟩
  · have hnot : ¬ c.Collects call := fun hcollects => collects_iff.1 hcollects hnone
    rw [keeps?, if_pos (not_not.1 hnot), hnone]
    rfl
  · have hcollects : c.Collects call := collects_iff.2 (by rw [hcause]; nofun)
    rw [keeps?, if_neg hcollects, he.last_eq, hcause]
    rfl

/-- The record that a call reports is the one that the context keeps. -/
theorem Sound.info_perform (hs : c.Sound config) (call : Call) :
    (c.perform call).events.filter (·.level = .info) =
      (c.keeps? call).toList.map .collected := by
  rw [hs.keeps?_eq]
  rcases hs.reports_perform call with ⟨e, hfound, -, hevents⟩ | ⟨-, hevents⟩
  · rw [hevents, hfound]
    rfl
  · rw [hevents]
    rcases c.cause? call with _ | _ | _ | _ <;> rfl

/-- The records that calls report are those that the context keeps, in order, and the collections
are counted. -/
theorem Sound.info_log (hs : c.Sound config) (calls : List Call) :
    (c.log calls).filter (·.level = .info) = (c.kept calls).map .collected ∧
    (c.performAll calls).collections = c.collections + (c.kept calls).length := by
  induction calls generalizing c with
  | nil => exact ⟨rfl, rfl⟩
  | cons call calls ih =>
    obtain ⟨hinfo, hcount⟩ := ih (hs.perform call)
    rw [log, kept, List.filter_append, hs.info_perform, hinfo, List.map_append, List.length_append,
      ← Nat.add_assoc]
    refine ⟨rfl, hcount.trans ?_⟩
    rw [(runs_perform c call).collections, hs.keeps?_eq, Option.toList_map, List.length_map]

/-- The records that calls report are seen as those that the context keeps. -/
theorem Sound.view_log (hs : c.Sound config) (calls : List Call) :
    ((c.log calls).map Event.view).filter (·.level = .info) = (c.kept calls).map .collected := by
  rw [List.filter_map]
  exact (congrArg _ (hs.info_log calls).1).trans List.map_map

/-- Calls and then the end report the end once. -/
theorem Sound.count_released (hs : c.Sound config) (calls : List Call) (record : Cycle) :
    ((c.log calls ++ [Event.collected record, .released]).map Event.view).count
      .released = 1 := by
  have hnone : .released ∉ (c.log calls).map Event.view := by
    intro hmem
    obtain ⟨event, hmem, hview⟩ := List.mem_map.1 hmem
    obtain rfl := Event.view_eq_released.1 hview
    exact (hs.closed_log calls).2 hmem
  rw [List.map_append, List.count_append, List.count_eq_zero_of_not_mem hnone]
  rfl

/-- Whatever calls are made on a new context, what any further call reports is what happens. The
records so far are those that the context has kept, in order, and as many as it counts. The end is
the same whether the context is destroyed or let go of: the record of an exact collection, without
roots, that leaves nothing, and then, this once, that the context is released. To let go of a
destroyed context reports nothing, and neither does a query, also if the root stack refuses it. -/
theorem log_truthful (hnew : ofConfig config = .ok c) (calls : List Call) :
    let d := c.performAll calls
    let record := d.lastRecord config
    (∀ call, d.Truthful config (c.log calls) call) ∧
    ((c.log calls).map Event.view).filter (·.level = .info) = (c.kept calls).map .collected ∧
    d.collections = (c.kept calls).length ∧
    (record.remaining = 0 ∧ (Held.destroy ⟨d, false⟩).result = .ok record ∧
      ∀ ending ∈ [((Held.destroy ⟨d, false⟩).context, (Held.destroy ⟨d, false⟩).events),
          ((Held.drop ⟨d, false⟩).context, (Held.drop ⟨d, false⟩).events)],
        ExactCycle config { d with roots := d.roots.clear } ending.1 record ∧
        ending.2.map Event.view = [.collected record, .released] ∧
        ((c.log calls ++ ending.2).map Event.view).count .released = 1) ∧
    (Held.drop ⟨d, true⟩).events = [] ∧
    ∀ {α : Type} (result : Except Error α), (d.query result).events = [] := by
  intro d record
  have hc : Arises config c := .start hnew
  have hs : d.Sound config := (hc.performAll calls).sound
  have hcount := (hc.sound.info_log calls).2
  have hzero : c.collections = 0 := by
    obtain ⟨-, rfl⟩ := ofConfig_eq_ok.1 hnew
    rfl
  rw [hzero, Nat.zero_add] at hcount
  obtain ⟨hdestroy, hdrop, -, -⟩ := hs.endsWith
  rw [hdestroy, hdrop]
  refine ⟨hs.truthful (hc.sound.closed_log calls).1, hc.sound.view_log calls, hcount,
    ⟨rfl, rfl, ?_⟩, rfl, fun _ => rfl⟩
  intro ending hending
  obtain rfl : ending = (d.finalCycle.2, [.collected record, .released]) := by simpa using hending
  have hexact : ExactCycle config (d.withRoots []) d.finalCycle.2 d.finalCycle.1 :=
    hs.withRoots_nil.exactCycle
  rw [hs.finalCycle_eq] at hexact
  exact ⟨hexact, rfl, hc.sound.count_released calls record⟩

/-- With a threshold of one, the second integer runs a collection, and it has one record. To take
off more roots than there are then gives a warning and nothing else. -/
theorem log_truthful_underflow :
    let config : Config := { initialThreshold := 1 }
    let calls : List Call := [.int 1, .popRoot, .int 2, .popRoot]
    ofConfig config = .ok (empty config) ∧
    (((empty config).log calls).map Event.view).filter (·.level = .info) =
      [⟨.info, "marksweep::gc", "collected 1 objects, 0 remaining",
        [("reclaimed", .number 1), ("remaining", .number 0), ("threshold", .number 1)]⟩] ∧
    (((empty config).performAll calls).perform .popRoot).events.map Event.view =
      [⟨.warn, "marksweep::stack", "root stack discipline violated",
        [("error", .text "Stack Underflow! needed 1 root(s) but only 0 available")]⟩] := by
  intro config calls
  have hnew : ofConfig config = .ok (empty config) := rfl
  obtain ⟨htruthful, hinfo, -⟩ := log_truthful hnew calls
  have hkept : (empty config).kept calls = [⟨1, 1, 0, 1⟩] := by decide +kernel
  rw [hkept] at hinfo
  exact ⟨hnew, hinfo, (htruthful .popRoot).warning (.underflow 1 0) rfl⟩

end

end Context

end RootedHeap
