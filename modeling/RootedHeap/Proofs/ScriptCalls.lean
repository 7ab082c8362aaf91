import RootedHeap.Run
import RootedHeap.Proofs.Ledger

/-!
# The calls of a script

An operation of a script makes one call on its context, or none: it only looks, or it names a slot
that is empty (`Context.callsOf`). A script makes the calls of its operations up to the first that
fails. It leaves the context that these calls lead to, and reports what they report
(`Context.makes_executeAll`), so that what holds of every run of calls holds of scripts.
-/

namespace RootedHeap

namespace Context

open Script (Op)

/-- The calls that are made on the object in a slot, if there is one. -/
def callsOn (c : Context) (slot : UInt64) (calls : Handle → List Call) : List Call :=
  match c.heap.resolve? slot.toNat with
  | some h => calls h
  | none => []

/-- The calls that an operation makes. -/
def callsOf (c : Context) : Op → List Call
  | .int value => [.int value]
  | .pair => [.pair]
  | .pop => [.popRoot]
  | .push slot => c.callsOn slot fun h => [.pushRoot h]
  | .setHead target value => c.callsOn target fun p => c.callsOn value fun v => [.setHead p v]
  | .setTail target value => c.callsOn target fun p => c.callsOn value fun v => [.setTail p v]
  | .collect => [.collect]
  | .inspect _ | .stats | .roots => []

/-- The calls that operations make, up to the first that fails. -/
def callsOfAll (c : Context) : List Op → List Call
  | [] => []
  | op :: ops =>
    c.callsOf op ++
      if (c.execute op).result.isOk then (c.execute op).context.callsOfAll ops else []

/-- A step leaves the context that calls lead to, and reports what they report. -/
structure Makes {α : Type} (c : Context) (calls : List Call) (s : Step α) : Prop where
  context : s.context = c.performAll calls
  events : s.events = c.log calls

section
variable {α β : Type} {c : Context} {call : Call} {calls more : List Call} {s : Step α}
  {next : α → Context → Step β}

/-! ## Steps and calls -/

/-- A query makes no call. -/
theorem makes_query (c : Context) (result : Except Error α) : c.Makes [] (c.query result) :=
  ⟨rfl, rfl⟩

/-- A call is made whatever its answer is turned into. -/
theorem makes_of_perform {f : α → Option Handle}
    (hs : c.perform call = s.bind fun a c => c.query (.ok (f a))) : c.Makes [call] s := by
  rw [bind_query] at hs
  constructor
  · show s.context = (c.perform call).context
    rw [hs]
  · rw [log, log, hs, List.append_nil]

/-- After a step that fails no call is made. -/
theorem Makes.bind_of_error {e : Error} (hs : c.Makes calls s) (he : s.result = .error e) :
    c.Makes calls (s.bind next) := by
  obtain ⟨result, d, events⟩ := s
  cases he
  exact ⟨hs.context, hs.events⟩

/-- After a step that succeeds the calls of the next one are made. -/
theorem Makes.bind_of_ok {a : α} (hs : c.Makes calls s) (hok : s.result = .ok a)
    (hnext : s.context.Makes more (next a s.context)) : c.Makes (calls ++ more) (s.bind next) := by
  obtain ⟨result, d, events⟩ := s
  cases hok
  obtain ⟨hcontext, hevents⟩ := hs
  cases hcontext
  cases hevents
  constructor
  · rw [performAll_append]
    exact hnext.context
  · rw [log_append]
    exact congrArg _ hnext.events

/-- A step may be followed by a look at what it has led to. -/
theorem Makes.bind (hs : c.Makes calls s) (hnext : ∀ a d, Makes d [] (next a d)) :
    c.Makes calls (s.bind next) := by
  cases hresult : s.result with
  | error e => exact hs.bind_of_error hresult
  | ok a => exact List.append_nil calls ▸ hs.bind_of_ok hresult (hnext a s.context)

/-- A step on the object in a slot makes its calls if there is such an object. -/
theorem makes_resolve {slot : UInt64} {next : Handle → Context → Step β}
    {calls : Handle → List Call} (hnext : ∀ h, c.Makes (calls h) (next h c)) :
    c.Makes (c.callsOn slot calls) ((c.query (c.resolve slot.toNat)).bind next) := by
  unfold callsOn resolve
  cases c.heap.resolve? slot.toNat with
  | none => exact ⟨rfl, rfl⟩
  | some h => exact (makes_query c (.ok h)).bind_of_ok rfl (hnext h)

/-! ## Operations -/

/-- To set a field of the pair in a slot makes a call if there are a pair and a value. -/
theorem makes_executeSet {set : Handle → Handle → Call}
    {step : Context → Handle → Handle → Step Unit}
    (hstep : ∀ p v, c.perform (set p v) = (step c p v).bind fun _ c => c.query (.ok none))
    (target value : UInt64) :
    c.Makes (c.callsOn target fun p => c.callsOn value fun v => [set p v])
      (c.executeSet step target value) :=
  makes_resolve fun p => makes_resolve fun v =>
    (makes_of_perform (hstep p v)).bind fun _ d => makes_query d _

/-- An operation makes its calls. -/
theorem makes_execute (c : Context) (op : Op) : c.Makes (c.callsOf op) (c.execute op) := by
  cases op with
  | int value =>
    have hcall : c.Makes [.int value] (c.pushInt value) := makes_of_perform rfl
    exact hcall.bind fun h d => makes_query d _
  | pair =>
    have hcall : c.Makes [.pair] c.pushPair := makes_of_perform rfl
    exact hcall.bind fun h d => makes_query d _
  | pop =>
    have hcall : c.Makes [.popRoot] c.popRoot := makes_of_perform (f := fun _ => none) rfl
    exact hcall.bind fun h d => makes_query d _
  | push slot =>
    refine makes_resolve fun h => ?_
    have hcall : c.Makes [.pushRoot h] (c.pushRoot h) := makes_of_perform (f := fun _ => none) rfl
    exact hcall.bind fun _ d => makes_query d _
  | inspect slot => exact (makes_query c _).bind fun _ d => makes_query d _
  | setHead target value => exact makes_executeSet (fun _ _ => rfl) target value
  | setTail target value => exact makes_executeSet (fun _ _ => rfl) target value
  | collect =>
    have hcall : c.Makes [.collect] c.collect := makes_of_perform (f := fun _ => none) rfl
    exact hcall.bind fun _ d => makes_query d _
  | stats | roots => exact makes_query c _

/-- Operations make their calls up to the first of them that fails. -/
theorem makes_executeAll (c : Context) (ops : List Op) :
    c.Makes (c.callsOfAll ops) (c.executeAll ops) := by
  induction ops generalizing c with
  | nil => exact makes_query c _
  | cons op ops ih =>
    have hop := makes_execute c op
    rw [executeAll, callsOfAll]
    cases hresult : (c.execute op).result with
    | error e => exact (List.append_nil _).symm ▸ hop.bind_of_error hresult
    | ok outcome => exact hop.bind_of_ok hresult (ih _)

/-- A script that is read makes calls on a new context, and then hands it out or lets go of it. -/
theorem run_of_parse {config : Config} {source : String} {ops : List Op}
    (hparse : Script.parse source = .ok ops) (hnew : ofConfig config = .ok c) :
    run source config = ⟨.ok (c.performAll (c.callsOfAll ops)), c.log (c.callsOfAll ops)⟩ ∨
    ∃ e, run source config = ⟨.error e, c.log (c.callsOfAll ops) ++
      (Held.drop ⟨c.performAll (c.callsOfAll ops), false⟩).events⟩ := by
  have hmakes := makes_executeAll c ops
  rw [← hmakes.context, ← hmakes.events]
  simp only [run, hparse, hnew]
  cases (c.executeAll ops).result with
  | ok u => exact .inl rfl
  | error e => exact .inr ⟨e, rfl⟩

end

end Context

end RootedHeap
