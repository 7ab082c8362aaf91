import RootedHeap.Proofs.Absorption
import RootedHeap.Proofs.Exhaustion
import RootedHeap.Proofs.Lifetime
import RootedHeap.Script.Outcome

/-!
# Operations that fail

An operation that fails leaves its context as it was. There is one exception, and it shows in the
error: an allocation that finds the heap exhausted has run a collection before. That collection
reclaims nothing, because the heap is still full after it, so it leaves every slot alone and only
sets the threshold anew (`Heap.collect_of_reclaimed_eq_zero`, `Context.idled`). A `Failure` says
both. What an operation does after it has changed the context cannot fail any more, so an operation
fails as its first step does (`Context.atomic_bind`); for every call and every operation of a script
this is `Context.failures_atomic`.
-/

namespace RootedHeap

/-- An operation and the one after it fail as the first does, or the first succeeds and the second
fails. -/
theorem Step.bind_result_eq_error {α β : Type} {s : Step α} {next : α → Context → Step β}
    {e : Error} (he : (s.bind next).result = .error e) :
    s.result = .error e ∧ (s.bind next).context = s.context ∨
    ∃ a, s.result = .ok a ∧ (next a s.context).result = .error e ∧
      (s.bind next).context = (next a s.context).context := by
  obtain ⟨result, c, events⟩ := s
  cases result with
  | error e' =>
    cases he
    exact .inl ⟨rfl, rfl⟩
  | ok a => exact .inr ⟨a, rfl, he, rfl⟩

namespace Context

open Script (Op Outcome)

/-- A call is an allocation that finds no memory. -/
def Call.isStarved : Call → Bool
  | .starvedInt | .starvedPair => true
  | .int _ | .pair | .pushRoot _ | .popRoot | .setHead _ _ | .setTail _ _ | .collect => false

/-- The context after a collection that reclaims nothing. -/
def idled (c : Context) : Context :=
  { c with
    heap := { c.heap with threshold := 2 * c.heap.live }
    collections := c.collections + 1
    last := some
      { before := c.heap.live
        reclaimed := 0
        remaining := c.heap.live
        threshold := 2 * c.heap.live } }

/-- What a context comes to by an operation that fails. -/
inductive Failure (c : Context) : Error → Context → Prop
  | unchanged {e : Error} : (∀ live, e ≠ .heap (.exhausted live)) → Failure c e c
  | exhausted : Failure c (.heap (.exhausted c.heap.live)) c.idled

/-- A step on a context leaves it as a failure does, if it fails. -/
def Atomic {α : Type} (c : Context) (s : Step α) : Prop :=
  ∀ e, s.result = .error e → Failure c e s.context

section
variable {config : Config} {c d : Context} {call : Call} {h : Handle} {α β : Type}

/-! ## Exhaustion -/

/-- A collection that leaves as many live objects as there were reclaims nothing. -/
theorem Sound.cycle_eq_idled (hs : c.Sound config) (hlive : c.cycle.2.heap.live = c.heap.live)
    (hpos : c.heap.live ≠ 0) : c.cycle.2 = c.idled := by
  have hcount := Heap.countOccupied_collect c.heap c.roots.toList
  have hsub : c.cycle.2.heap.live = c.heap.live - (c.heap.collect c.roots.toList).1.reclaimed := rfl
  have hle := hs.live_eq
  have hr : (c.heap.collect c.roots.toList).1.reclaimed = 0 := by omega
  have hcycle := Heap.collect_of_reclaimed_eq_zero hs.clear hr
  rw [Heap.nextThreshold, if_neg hpos] at hcycle
  rw [Context.cycle, hcycle]
  rfl

/-- When the heap is still full after the collection that an allocation runs, this has reclaimed
nothing: there were no more live objects before it than the cap allows, and they are as many
after. -/
theorem Sound.makeRoom_eq_idled (hs : c.Sound config) (hv : config.validate = .ok ())
    (hfull : c.makeRoom.1.heap.isFull = true) :
    c.makeRoom.1 = c.idled ∧ c.makeRoom.1.heap.live = c.heap.live := by
  rcases makeRoom_cases c with ⟨hnone, heq⟩ | ⟨trigger, -, heq⟩ <;> rw [heq] at hfull ⊢
  · exact absurd ((isFull_of_trigger?_eq_none hnone).symm.trans hfull) Bool.false_ne_true
  · obtain ⟨m, hm, -⟩ := hs.cycle.isFull_iff.1 hfull
    have hafter : c.cycle.2.heap.live = m.toNat := hs.cycle.live_eq_of_isFull hfull hm
    have hbefore := hs.live_le m hm
    have hle := live_cycle_le c
    have hpos : m.toNat ≠ 0 := by
      intro hzero
      obtain rfl : m = 0 := UInt64.toNat_inj.1 hzero
      exact Config.validate_eq_ok_iff.1 hv .maxObjects hm
    have hlive : c.cycle.2.heap.live = c.heap.live := by omega
    exact ⟨hs.cycle_eq_idled hlive (by omega), hlive⟩

/-! ## Steps that fail -/

/-- The handle of the object in a slot is live. -/
theorem contains_of_resolve {slot : Nat} (hok : c.resolve slot = .ok h) :
    c.contains h = true := by
  unfold resolve at hok
  split at hok
  · next hr =>
    cases hok
    exact Slab.isSome_object?.trans (Slab.handleAt?_eq_some.1 hr).2
  · cases hok

/-- A step that succeeds does not fail. -/
theorem atomic_of_ok {s : Step α} {a : α} (hok : s.result = .ok a) : c.Atomic s := by
  intro e he
  rw [hok] at he
  cases he

/-- A refusal that leaves the context alone is atomic, unless it is for exhaustion. -/
theorem atomic_of_error {s : Step α} {e : Error} (he : s.result = .error e ∧ s.context = c)
    (hne : ∀ live, e ≠ .heap (.exhausted live)) : c.Atomic s := by
  intro e' he'
  rw [he.1] at he'
  cases he'
  rw [he.2]
  exact .unchanged hne

/-- An operation after another is atomic if it cannot fail once the first has changed the
context. -/
theorem atomic_bind {s : Step α} {next : α → Context → Step β} (hs : c.Atomic s)
    (hnext : ∀ a, s.result = .ok a → c.Atomic (next a s.context)) : c.Atomic (s.bind next) := by
  intro e he
  rcases Step.bind_result_eq_error he with ⟨he', heq⟩ | ⟨a, hok, he', heq⟩ <;> rw [heq]
  · exact hs e he'
  · exact hnext a hok e he'

/-- An operation is atomic if it is with another answer. -/
theorem Atomic.of_bind_query {s : Step α} {f : α → β}
    (hs : c.Atomic (s.bind fun a c => c.query (.ok (f a)))) : c.Atomic s := by
  rw [bind_query] at hs
  intro e he
  exact hs e (by rw [he]; rfl)

/-- An operation on the object in a slot is atomic if it is so on a live object. -/
theorem atomic_resolve {slot : Nat} {next : Handle → Context → Step β}
    (hnext : ∀ h, c.contains h = true → c.Atomic (next h c)) :
    c.Atomic ((c.query (c.resolve slot)).bind next) := by
  refine atomic_bind ?_ fun h hok => hnext h ?_
  · cases hr : c.heap.resolve? slot with
    | none =>
      have he : c.resolve slot = .error (.heap (.dangling slot)) := by simp [resolve, hr]
      exact atomic_of_error ⟨he, rfl⟩ (by simp)
    | some h =>
      have hok : c.resolve slot = .ok h := by simp [resolve, hr]
      exact atomic_of_ok hok
  · exact contains_of_resolve hok

/-! ## Calls -/

/-- An allocation that the roots allow is atomic. -/
theorem Sound.atomic_of_allows (hs : c.Sound config) (hv : config.validate = .ok ())
    (hallows : c.Allows call) : c.Atomic (c.perform call) := by
  obtain ⟨hrefused, hgiven⟩ := hs.perform_of_allows hallows
  cases hheap : c.makeRoom.1.heap.isFull with
  | true =>
    obtain ⟨heq, hlive⟩ := hs.makeRoom_eq_idled hv hheap
    obtain ⟨hresult, hcontext⟩ := hrefused hheap
    intro e he
    rw [hresult, hlive] at he
    cases he
    rw [hcontext, heq]
    exact .exhausted
  | false =>
    obtain ⟨h, hok⟩ := hgiven hheap
    exact atomic_of_ok hok

/-- To set a field is atomic. -/
theorem Sets.atomic {set : Handle → Handle → Call} {change : Handle → Handle → Handle → Object}
    (hset : Sets set change) (c : Context) (p v : Handle) : c.Atomic (c.perform (set p v)) := by
  rcases hset.cases c p v with ⟨e, hne, heq⟩ | ⟨head, tail, -, -, hok, -⟩
  · exact atomic_of_error heq (by simpa using hne)
  · exact atomic_of_ok hok

/-- Every call is atomic that is no allocation without memory. -/
theorem Sound.atomic_perform (hs : c.Sound config) (hv : config.validate = .ok ())
    (hfed : call.isStarved = false) : c.Atomic (c.perform call) := by
  cases call with
  | int value =>
    cases hroots : c.roots.isFull with
    | true => exact atomic_of_error (perform_int_of_isFull hroots value) (by simp)
    | false =>
      have hroom : c.roots.size < c.roots.capacity.toNat := by
        simpa [RootStack.isFull] using hroots
      exact hs.atomic_of_allows hv hroom
  | pair =>
    rcases Nat.lt_or_ge c.roots.size 2 with hlt | hge
    · exact atomic_of_error (perform_pair_of_lt hlt) (by simp)
    · exact hs.atomic_of_allows hv hge
  | starvedInt | starvedPair => cases hfed
  | pushRoot h =>
    cases hh : c.contains h with
    | false => exact atomic_of_error (perform_pushRoot_of_dangling hh) (by simp)
    | true =>
      cases hroots : c.roots.isFull with
      | false => exact atomic_of_ok (perform_pushRoot hh hroots).1
      | true => exact atomic_of_error (perform_pushRoot_of_isFull hh hroots) (by simp)
  | popRoot =>
    cases hroots : c.roots.entries with
    | nil => exact atomic_of_error (perform_popRoot_of_nil hroots) (by simp)
    | cons h rest => exact atomic_of_ok (perform_popRoot hroots).1
  | setHead p v => exact sets_setHead.atomic c p v
  | setTail p v => exact sets_setTail.atomic c p v
  | collect => exact atomic_of_ok (a := none) rfl

/-! ## Operations of a script -/

/-- To answer with an object that is live is atomic. -/
theorem atomic_answer (hh : d.contains h = true) (outcome : Handle → Object → Outcome) :
    c.Atomic (answer outcome h d) := by
  obtain ⟨o, ho⟩ := contains_iff.1 hh
  have hok : (answer outcome h d).result = .ok (outcome h o) := by
    simp [answer, query, get, ho, Except.map]
  exact atomic_of_ok hok

/-- An allocation is atomic with the answer after it: the new object is live. -/
theorem Sound.atomic_allocated {s : Step Handle} (hs : c.Sound config)
    (hstep : c.perform call = s.bind fun h c => c.query (.ok (some h)))
    (hatomic : c.Atomic (c.perform call)) : c.Atomic (s.bind (answer .allocated)) := by
  rw [hstep] at hatomic
  refine atomic_bind hatomic.of_bind_query fun h hok => ?_
  rw [bind_query] at hstep
  have hgiven : (c.perform call).result = .ok (some h) := by
    rw [hstep, hok]
    rfl
  obtain ⟨object, -, -, ho⟩ := hs.object?_of_ok hgiven
  rw [hstep] at ho
  exact atomic_answer (contains_iff.2 ⟨object, ho⟩) _

/-- To set a field of the pair in a slot is atomic: the pair is live also after it. -/
theorem Sets.atomic_executeSet {set : Handle → Handle → Call}
    {change : Handle → Handle → Handle → Object} {step : Context → Handle → Handle → Step Unit}
    (hset : Sets set change)
    (hstep : ∀ p v, c.perform (set p v) = (step c p v).bind fun _ c => c.query (.ok none))
    (target value : UInt64) : c.Atomic (c.executeSet step target value) := by
  refine atomic_resolve fun p _ => atomic_resolve fun v _ => ?_
  have hatomic := hset.atomic c p v
  rw [hstep] at hatomic
  refine atomic_bind hatomic.of_bind_query fun u hok => atomic_answer ?_ _
  have heq := hstep p v
  rw [bind_query] at heq
  rcases hset.cases c p v with ⟨e, -, he, -⟩ | ⟨head, tail, -, hp, -, hcontext⟩
  · rw [heq, hok] at he
    cases he
  · rw [heq] at hcontext
    have hlive := contains_iff.2 ⟨_, hp⟩
    show (step c p v).context.contains p = true
    rw [show (step c p v).context = _ from hcontext, contains_withObject hlive, hlive]

/-- Every operation of a script is atomic. -/
theorem Sound.atomic_execute (hs : c.Sound config) (hv : config.validate = .ok ()) (op : Op) :
    c.Atomic (c.execute op) := by
  cases op with
  | int value =>
    have hatomic : c.Atomic (c.perform (.int value)) := hs.atomic_perform hv rfl
    exact hs.atomic_allocated rfl hatomic
  | pair =>
    have hatomic : c.Atomic (c.perform .pair) := hs.atomic_perform hv rfl
    exact hs.atomic_allocated rfl hatomic
  | pop =>
    have hatomic : c.Atomic (c.perform .popRoot) := hs.atomic_perform hv rfl
    exact atomic_bind hatomic.of_bind_query fun h _ => atomic_of_ok rfl
  | push slot =>
    refine atomic_resolve fun h _ => ?_
    have hatomic : c.Atomic (c.perform (.pushRoot h)) := hs.atomic_perform hv rfl
    exact atomic_bind hatomic.of_bind_query fun _ _ => atomic_of_ok rfl
  | inspect slot => exact atomic_resolve fun h hh => atomic_answer hh _
  | setHead target value => exact sets_setHead.atomic_executeSet (fun _ _ => rfl) target value
  | setTail target value => exact sets_setTail.atomic_executeSet (fun _ _ => rfl) target value
  | collect => exact atomic_of_ok rfl
  | stats | roots => exact atomic_of_ok rfl

/-- Whatever call or operation of a script fails on a context that arises by calls, and for whatever
reason, the context is as it was, if only the reason is not that the heap is exhausted. In that case
one collection has been run, and all it has changed are the threshold, the count of collections and
the record of the last one, which says that nothing was reclaimed. An allocation without memory for
a new slot is left out, and so are the queries (`get`, `resolve`, `peekRoot`), which hand back no
context at all. -/
theorem failures_atomic (hc : Arises config c) :
    (∀ call e, call.isStarved = false → (c.perform call).result = .error e →
      c.Failure e (c.perform call).context) ∧
    ∀ op e, (c.execute op).result = .error e → c.Failure e (c.execute op).context := by
  have hs := hc.sound
  have hv := hc.validate_eq
  exact ⟨fun call e hfed he => hs.atomic_perform hv hfed e he,
    fun op e he => hs.atomic_execute hv op e he⟩

/-- With a cap of one, a second integer fails after a collection that reclaims nothing, and a pair
of one root fails without a collection. -/
theorem failures_atomic_one :
    Arises { maxObjects := some 1 } ((empty { maxObjects := some 1 }).performAll [.int 1]) ∧
    ((empty { maxObjects := some 1 }).performAll [.int 1]).Failure (.heap (.exhausted 1))
      (((empty { maxObjects := some 1 }).performAll [.int 1]).perform (.int 2)).context ∧
    ((empty { maxObjects := some 1 }).performAll [.int 1]).Failure (.stack (.underflow 2 1))
      (((empty { maxObjects := some 1 }).performAll [.int 1]).execute .pair).context := by
  have hnew : Arises { maxObjects := some 1 } (empty { maxObjects := some 1 }) := .start rfl
  have hc := hnew.performAll [.int 1]
  have hroom : ((empty { maxObjects := some 1 }).performAll [.int 1]).Allows (.int 2) := by decide
  have hfull : ((empty { maxObjects := some 1 }).performAll [.int 1]).makeRoom.1.heap.isFull =
      true := by decide +kernel
  have hlive : ((empty { maxObjects := some 1 }).performAll [.int 1]).makeRoom.1.heap.live = 1 := by
    decide +kernel
  refine ⟨hc, (failures_atomic hc).1 (.int 2) _ rfl ?_, (failures_atomic hc).2 .pair _ rfl⟩
  rw [((hc.sound.perform_of_allows hroom).1 hfull).1, hlive]

end

end Context

end RootedHeap
