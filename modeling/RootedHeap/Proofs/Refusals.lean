import RootedHeap.Proofs.Atomicity
import RootedHeap.Proofs.ScriptCalls

/-!
# Which operations of a script are refused

Whether an operation of a script is refused, and with which error, can be told from the roots and
the slots that it names (`Context.misuse?`): it is refused with the first error that is found there,
and otherwise succeeds, except that an allocation may find the heap exhausted
(`Context.Ending`, `Context.Sound.execute_ending`). An operation looks at the same things several
times on its way, also after the collection that an allocation may run. None of the later looks
fails. What an operation answers with is live, and is shown as it is stored afterwards
(`Context.Answers`, `Context.refusals_exact`).
-/

namespace RootedHeap

section
variable {α β : Type} {s : Step α}

/-- An operation after one that fails fails with it. -/
theorem Step.bind_of_error {e : Error} (he : s.result = .error e)
    (next : α → Context → Step β) : (s.bind next).result = .error e := by
  obtain ⟨result, c, events⟩ := s
  cases he
  rfl

/-- An operation after one that succeeds comes to what it comes to by itself. -/
theorem Step.bind_of_ok {a : α} (hok : s.result = .ok a) (next : α → Context → Step β) :
    (s.bind next).result = (next a s.context).result ∧
    (s.bind next).context = (next a s.context).context := by
  obtain ⟨result, c, events⟩ := s
  cases hok
  exact ⟨rfl, rfl⟩

end

namespace Script

/-- An operation puts an object into the heap. -/
def Op.allocates : Op → Bool
  | .int _ | .pair => true
  | .pop | .push _ | .inspect _ | .setHead _ _ | .setTail _ _ | .collect | .stats | .roots => false

/-- The call that an operation makes when there is no memory for a new slot. -/
def Op.starved? : Op → Option Context.Call
  | .int _ => some .starvedInt
  | .pair => some .starvedPair
  | .pop | .push _ | .inspect _ | .setHead _ _ | .setTail _ _ | .collect | .stats | .roots => none

/-- The handles in an outcome, those in the objects that it shows among them. -/
def Outcome.handles : Outcome → List Handle
  | .allocated h object | .shown h object | .updated h object => h :: object.fields
  | .popped h | .rooted h => [h]
  | .collected _ | .stats _ => []
  | .roots handles => handles

end Script

namespace Context

open Script (Op Outcome)

/-! ## What can be wrong with an operation -/

/-- The object in a slot, if it is occupied. -/
def objectIn? (c : Context) (slot : UInt64) : Option Object :=
  (c.heap.slab[slot.toNat]?.bind (·.cell)).map (·.object)

/-- The error of one more root, if there are as many as the configuration allows. -/
def overflow? (c : Context) : Option Error :=
  if c.roots.toList.length = c.config.stackMax.toNat then
    some (.stack (.overflow c.config.stackMax))
  else none

/-- The error of taking roots, if there are fewer than are needed. -/
def underflow? (c : Context) (needed : UInt64) : Option Error :=
  if c.roots.toList.length < needed.toNat then
    some (.stack (.underflow needed c.roots.toList.length))
  else none

/-- The error of naming a slot, if it is empty or there is no such slot. -/
def dangling? (c : Context) (slot : UInt64) : Option Error :=
  match c.objectIn? slot with
  | none => some (.heap (.dangling slot.toNat))
  | some _ => none

/-- The error of setting a field of the object in a slot, if that is no pair. -/
def scalar? (c : Context) (slot : UInt64) : Option Error :=
  match c.objectIn? slot with
  | some (.scalar _) => some (.heap (.notAPair slot.toNat))
  | some (.pair _ _) | none => none

/-- The error of setting a field, the first of those that apply. -/
def setMisuse? (c : Context) (target value : UInt64) : Option Error :=
  (c.dangling? target).or ((c.dangling? value).or (c.scalar? target))

/-- The error of an operation that the roots or the slots do not allow, the first of those that
apply. -/
def misuse? (c : Context) : Op → Option Error
  | .int _ => c.overflow?
  | .pair => c.underflow? 2
  | .pop => c.underflow? 1
  | .push slot => (c.dangling? slot).or c.overflow?
  | .inspect slot => c.dangling? slot
  | .setHead target value | .setTail target value => c.setMisuse? target value
  | .collect | .stats | .roots => none

/-- The error of an allocation when the roots reach as many objects as the configuration allows. -/
def Exhausts (config : Config) (c : Context) (e : Error) : Prop :=
  ∃ m, config.maxObjects = some m ∧ {h | c.Reaches h}.ncard = m.toNat ∧
    e = .heap (.exhausted m.toNat)

/-- An operation may answer so if it leaves a certain context: the handles are live, they are those
of the slots that the operation names, and the objects are those that they name. -/
def Answers (d : Context) : Op → Outcome → Prop
  | .int _, .allocated h object | .pair, .allocated h object => d.heap.object? h = some object
  | .pop, .popped h => d.contains h = true
  | .push slot, .rooted h => h.index = slot.toNat ∧ d.contains h = true
  | .inspect slot, .shown h object | .setHead slot _, .updated h object
  | .setTail slot _, .updated h object => h.index = slot.toNat ∧ d.heap.object? h = some object
  | .collect, .collected _ | .stats, .stats _ => True
  | .roots, .roots handles => ∀ h ∈ handles, d.contains h = true
  | _, _ => False

/-- How an operation ends: with what is wrong with it, or because the heap is exhausted, or with an
answer. -/
inductive Ending (config : Config) (c : Context) (op : Op) : Except Error Outcome → Context → Prop
  | misused {e : Error} {d : Context} : c.misuse? op = some e → Ending config c op (.error e) d
  | exhausted {e : Error} {d : Context} : c.misuse? op = none → op.allocates = true →
      Exhausts config c e → Ending config c op (.error e) d
  | answered {outcome : Outcome} {d : Context} : c.misuse? op = none →
      (op.allocates = true → ∀ e, ¬ Exhausts config c e) → d.Answers op outcome →
      Ending config c op (.ok outcome) d

section
variable {config : Config} {c : Context} {op : Op} {slot : UInt64} {h : Handle}

/-! ## Endings -/

/-- The heap is exhausted with one number of live objects. -/
theorem Exhausts.eq {e e' : Error} (he : Exhausts config c e) (he' : Exhausts config c e') :
    e = e' := by
  obtain ⟨m, hm, -, rfl⟩ := he
  obtain ⟨m', hm', -, rfl⟩ := he'
  rw [Option.some_inj.1 (hm.symm.trans hm')]

/-- An operation fails with what is wrong with it, or because the heap is exhausted. -/
theorem Ending.eq_error_iff {result : Except Error Outcome} {d : Context}
    (hend : Ending config c op result d) {e : Error} : result = .error e ↔
      c.misuse? op = some e ∨ c.misuse? op = none ∧ op.allocates = true ∧ Exhausts config c e := by
  cases hend with
  | misused hmisuse => simp [hmisuse]
  | exhausted hmisuse hop he =>
    rw [hmisuse]
    constructor
    · rintro ⟨⟩
      exact .inr ⟨rfl, hop, he⟩
    · rintro (⟨⟨⟩⟩ | ⟨-, -, he'⟩)
      rw [he.eq he']
  | answered hmisuse hroom hanswers =>
    rw [hmisuse]
    constructor
    · rintro ⟨⟩
    · rintro (⟨⟨⟩⟩ | ⟨-, hop, he⟩)
      exact absurd he (hroom hop _)

/-- An operation that succeeds answers with what is live. -/
theorem Ending.answers {result : Except Error Outcome} {d : Context} {outcome : Outcome}
    (hend : Ending config c op result d) (hok : result = .ok outcome) : d.Answers op outcome := by
  cases hend with
  | misused | exhausted => cases hok
  | answered _ _ hanswers =>
    cases hok
    exact hanswers

/-- An operation that puts no object into the heap ends with its answer unless it is misused. -/
theorem Ending.passed {outcome : Outcome} {d : Context} (hmisuse : c.misuse? op = none)
    (hop : op.allocates = false) (hanswers : d.Answers op outcome) :
    Ending config c op (.ok outcome) d := by
  refine .answered hmisuse (fun hallocates => ?_) hanswers
  rw [hop] at hallocates
  cases hallocates

/-! ## Slots -/

/-- The object in a slot, as it is found under its handle. -/
theorem objectIn?_eq_some {o : Object} : c.objectIn? slot = some o ↔
    ∃ h, c.heap.resolve? slot.toNat = some h ∧ c.heap.object? h = some o := by
  simp only [Heap.resolve?, Slab.handleAt?_eq_some, Heap.object?]
  constructor
  · intro ho
    obtain ⟨cell, hcell, rfl⟩ := Option.map_eq_some_iff.1 ho
    obtain ⟨s, hs, hc⟩ := Option.bind_eq_some_iff.1 hcell
    have hlive : c.heap.slab.cell? ⟨slot.toNat, s.generation⟩ = some cell :=
      (Slab.cell?_mk hs).trans hc
    exact ⟨_, ⟨rfl, by rw [hlive]; rfl⟩, Slab.object?_eq_some.2 ⟨_, hlive⟩⟩
  · rintro ⟨h, ⟨hidx, -⟩, ho⟩
    obtain ⟨reached, hcell⟩ := Slab.object?_eq_some.1 ho
    obtain ⟨s, hs, -, hc⟩ := Slab.cell?_eq_some.1 hcell
    rw [objectIn?, ← hidx, hs, Option.bind_some, hc]
    rfl

/-- A slot is looked up with success if it is occupied. -/
theorem resolve_cases (c : Context) (slot : UInt64) :
    c.objectIn? slot = none ∧ c.dangling? slot = some (.heap (.dangling slot.toNat)) ∧
      c.resolve slot.toNat = .error (.heap (.dangling slot.toNat)) ∨
    ∃ h o, c.objectIn? slot = some o ∧ c.dangling? slot = none ∧ c.resolve slot.toNat = .ok h ∧
      h.index = slot.toNat ∧ c.heap.object? h = some o := by
  cases ho : c.objectIn? slot with
  | none =>
    refine .inl ⟨rfl, by rw [dangling?, ho], ?_⟩
    cases hr : c.heap.resolve? slot.toNat with
    | none => rw [resolve, hr]
    | some h =>
      have hlive : (c.heap.object? h).isSome = true :=
        Slab.isSome_object?.trans (Slab.handleAt?_eq_some.1 hr).2
      obtain ⟨o, hh⟩ := Option.isSome_iff_exists.1 hlive
      rw [objectIn?_eq_some.2 ⟨h, hr, hh⟩] at ho
      cases ho
  | some o =>
    obtain ⟨h, hr, hh⟩ := objectIn?_eq_some.1 ho
    have hidx := (Slab.handleAt?_eq_some.1 hr).1
    exact .inr ⟨h, o, rfl, by rw [dangling?, ho], by rw [resolve, hr], hidx, hh⟩

/-- The answer with a live object shows it. -/
theorem answer_result {o : Object} (ho : c.heap.object? h = some o)
    (outcome : Handle → Object → Outcome) : (answer outcome h c).result = .ok (outcome h o) := by
  simp [answer, query, get, ho, Except.map]

/-- An operation on the object in a slot ends as it does on an object, if there is one. -/
theorem ending_resolve {next : Handle → Context → Step Outcome}
    (hmisuse : ∀ e, c.dangling? slot = some e → c.misuse? op = some e)
    (hnext : ∀ h o, c.objectIn? slot = some o → c.dangling? slot = none → h.index = slot.toNat →
      c.heap.object? h = some o → Ending config c op (next h c).result (next h c).context) :
    Ending config c op ((c.query (c.resolve slot.toNat)).bind next).result
      ((c.query (c.resolve slot.toNat)).bind next).context := by
  rcases resolve_cases c slot with ⟨-, hdangling, he⟩ | ⟨h, o, ho, hnone, hok, hidx, hh⟩
  · rw [he]
    exact .misused (hmisuse _ hdangling)
  · rw [hok]
    exact hnext h o ho hnone hidx hh

/-! ## Roots -/

/-- The error of a check of the roots, if it fails. -/
def checkError? : Except StackError Unit → Option Error
  | .error e => some (.stack e)
  | .ok () => none

/-- The roots are checked for room. -/
theorem Sound.overflow?_eq (hs : c.Sound config) :
    c.overflow? = checkError? c.roots.ensureRoom := by
  have hsize := hs.size_le
  rw [overflow?, RootStack.toList, List.length_reverse, ← c.roots.size_eq, hs.setUp.config_eq,
    ← hs.setUp.capacity_eq]
  cases hroots : c.roots.isFull with
  | true =>
    rw [RootStack.ensureRoom_eq_error hroots, if_pos]
    · rfl
    · rw [RootStack.isFull, decide_eq_true_eq] at hroots
      exact Nat.le_antisymm hsize hroots
  | false =>
    rw [RootStack.ensureRoom_eq_ok hroots, if_neg]
    · rfl
    · rw [RootStack.isFull, decide_eq_false_iff_not] at hroots
      omega

/-- The roots are checked for as many as are needed. -/
theorem underflow?_eq (c : Context) (needed : UInt64) :
    c.underflow? needed = checkError? (c.roots.require needed) := by
  rw [underflow?, RootStack.toList, List.length_reverse, ← c.roots.size_eq, RootStack.require]
  split <;> rfl

/-! ## Allocations -/

/-- The heap is exhausted if it is full also after the collection that an allocation may run. -/
theorem Sound.exhausts_iff (hs : c.Sound config) {e : Error} : Exhausts config c e ↔
    c.makeRoom.1.heap.isFull = true ∧ e = .heap (.exhausted c.makeRoom.1.heap.live) := by
  rw [hs.isFull_makeRoom_iff]
  constructor
  · rintro ⟨m, hm, hcard, rfl⟩
    have hfull := hs.isFull_makeRoom_iff.2 ⟨m, hm, hcard.ge⟩
    exact ⟨⟨m, hm, hcard.ge⟩, by rw [hs.makeRoom.live_eq_of_isFull hfull hm]⟩
  · rintro ⟨⟨m, hm, hle⟩, rfl⟩
    have hfull := hs.isFull_makeRoom_iff.2 ⟨m, hm, hle⟩
    refine ⟨m, hm, Nat.le_antisymm (hs.ncard_reaches_le hm) hle, ?_⟩
    rw [hs.makeRoom.live_eq_of_isFull hfull hm]

/-- An allocation ends with its object unless the roots do not allow it or the heap is exhausted. -/
theorem Sound.ending_allocating {call : Call} {check : Except StackError Unit}
    {place : Context → Step Handle} (hs : c.Sound config)
    (hstep : c.perform call =
      (c.allocating check place).bind fun h c => c.query (.ok (some h)))
    (hmisuse : c.misuse? op = checkError? check) (hallows : check = .ok () → c.Allows call)
    (hop : op.allocates = true)
    (hanswers : ∀ (d : Context) h o, d.heap.object? h = some o → d.Answers op (.allocated h o)) :
    Ending config c op ((c.allocating check place).bind (answer .allocated)).result
      ((c.allocating check place).bind (answer .allocated)).context := by
  cases check with
  | error e => exact .misused hmisuse
  | ok u =>
    obtain ⟨hrefused, hgiven⟩ := hs.perform_of_allows (hallows rfl)
    have hfound : ∀ h, (c.perform call).result = .ok (some h) →
        ∃ o rest, c.made? call = some (o, rest) ∧
          (c.perform call).context.heap.object? h = some o := fun _ => hs.object?_of_ok
    rw [hstep, bind_query] at hrefused hgiven hfound
    cases hresult : (c.allocating (.ok u) place).result with
    | error e =>
      rw [Step.bind_of_error hresult]
      refine .exhausted hmisuse hop (hs.exhausts_iff.2 ?_)
      rw [hresult] at hrefused hgiven
      cases hheap : c.makeRoom.1.heap.isFull with
      | false =>
        obtain ⟨h, hok⟩ := hgiven hheap
        cases hok
      | true =>
        cases (hrefused hheap).1
        exact ⟨rfl, rfl⟩
    | ok h =>
      rw [hresult] at hrefused hfound
      obtain ⟨o, -, -, ho⟩ := hfound h rfl
      obtain ⟨hanswer, hcontext⟩ := Step.bind_of_ok hresult (answer .allocated)
      rw [hanswer, hcontext, answer_result ho]
      refine .answered hmisuse (fun _ e he => ?_) (hanswers _ _ _ ho)
      cases (hrefused (hs.exhausts_iff.1 he).1).1

/-- An allocation without memory fails with what the check of the roots says, or else because the
heap is exhausted. -/
theorem result_starved {call : Call} {check : Except StackError Unit} {e : Error}
    (hstep : c.perform call =
      (c.allocating check starve).bind fun h c => c.query (.ok (some h))) :
    (c.perform call).result = .error e ↔ checkError? check = some e ∨
      checkError? check = none ∧ e = .heap (.exhausted c.makeRoom.1.heap.live) := by
  rw [hstep, bind_query]
  cases check with
  | error e' => simp [allocating, refuse, checkError?, Except.map]
  | ok u => simp [allocating, starve, checkError?, Except.map, eq_comm]

/-! ## Operations -/

/-- Setting a field of the pair in a slot ends with the pair as it is then. -/
theorem Sets.ending {set : Handle → Handle → Call} {change : Handle → Handle → Handle → Object}
    {step : Context → Handle → Handle → Step Unit} {target value : UInt64}
    (hset : Sets set change)
    (hstep : ∀ p v, c.perform (set p v) = (step c p v).bind fun _ c => c.query (.ok none))
    (hmisuse : c.misuse? op = c.setMisuse? target value) (hop : op.allocates = false)
    (hanswers : ∀ (d : Context) h o, h.index = target.toNat → d.heap.object? h = some o →
      d.Answers op (.updated h o)) :
    Ending config c op (c.executeSet step target value).result
      (c.executeSet step target value).context := by
  rw [setMisuse?] at hmisuse
  refine ending_resolve (fun e he => by rw [hmisuse, he]; rfl) fun p o hin hp hidx ho => ?_
  refine ending_resolve (fun e he => by rw [hmisuse, hp, he]; rfl) fun v o' _ hv _ ho' => ?_
  rw [hp, hv, Option.none_or, Option.none_or, scalar?, hin] at hmisuse
  have hlive : c.contains v = true := contains_iff.2 ⟨o', ho'⟩
  have hperform := hstep p v
  rw [bind_query] at hperform
  cases o with
  | scalar n =>
    obtain ⟨hresult, -⟩ := hset.refused hlive ho
    rw [hperform, hidx] at hresult
    cases hchange : (step c p v).result with
    | ok u =>
      rw [hchange] at hresult
      cases hresult
    | error e =>
      rw [hchange] at hresult
      cases hresult
      rw [Step.bind_of_error hchange]
      exact .misused hmisuse
  | pair head tail =>
    obtain ⟨hresult, hcontext⟩ := hset.replaced hlive ho
    rw [hperform] at hresult hcontext
    have hafter : (step c p v).context.heap.object? p = some (change v head tail) := by
      rw [show (step c p v).context = _ from hcontext,
        object?_withObject (contains_iff.2 ⟨_, ho⟩), if_pos rfl]
    cases hchange : (step c p v).result with
    | error e =>
      rw [hchange] at hresult
      cases hresult
    | ok u =>
      obtain ⟨hanswer, hanswered⟩ := Step.bind_of_ok hchange fun _ c => answer .updated p c
      rw [hanswer, hanswered, answer_result hafter]
      refine .answered hmisuse (fun hallocates => ?_) (hanswers _ _ _ hidx hafter)
      rw [hop] at hallocates
      cases hallocates

/-- Whatever an operation is, it has one of its endings. -/
theorem Sound.execute_ending (hs : c.Sound config) (op : Op) :
    Ending config c op (c.execute op).result (c.execute op).context := by
  cases op with
  | int value =>
    have hallows : c.roots.ensureRoom = .ok () → c.Allows (.int value) := fun hok =>
      RootStack.isOk_ensureRoom.1 (by rw [hok]; rfl)
    exact hs.ending_allocating rfl hs.overflow?_eq hallows rfl fun _ _ _ ho => ho
  | pair =>
    have hallows : c.roots.require 2 = .ok () → c.Allows .pair := fun hok => by
      have htwo : (c.roots.require 2).isOk = true := by rw [hok]; rfl
      exact RootStack.isOk_require.1 htwo
    exact hs.ending_allocating rfl (underflow?_eq c 2) hallows rfl fun _ _ _ ho => ho
  | pop =>
    have hmisuse : c.misuse? .pop = checkError? (c.roots.require 1) := underflow?_eq c 1
    rw [RootStack.require, c.roots.size_eq] at hmisuse
    cases hroots : c.roots.entries with
    | nil =>
      have hpop : c.popRoot = c.refuse (.underflow 1 0) := by
        rw [popRoot, RootStack.pop_eq_of_nil hroots]
      rw [hroots] at hmisuse
      rw [execute, hpop]
      exact .misused hmisuse
    | cons h rest =>
      rw [hroots] at hmisuse
      rw [execute, popRoot, RootStack.pop_eq hroots]
      exact .passed hmisuse rfl (hs.roots h (hroots ▸ .head _))
  | push slot =>
    refine ending_resolve (fun e he => by rw [misuse?, he]; rfl) fun h o _ hnone hidx ho => ?_
    have hmisuse : c.misuse? (.push slot) = checkError? c.roots.ensureRoom := by
      rw [misuse?, hnone, Option.none_or, hs.overflow?_eq]
    have hlive : c.contains h = true := contains_iff.2 ⟨o, ho⟩
    cases hroots : c.roots.isFull with
    | true =>
      have hpush : c.pushRoot h = c.refuse (.overflow c.roots.capacity) := by
        rw [pushRoot, if_pos hlive, RootStack.push_eq_of_isFull hroots]
      rw [RootStack.ensureRoom_eq_error hroots] at hmisuse
      rw [hpush]
      exact .misused hmisuse
    | false =>
      have hpush : c.pushRoot h = ⟨.ok (), c.withRoots (h :: c.roots.entries), []⟩ := by
        rw [pushRoot, if_pos hlive, RootStack.push_eq hroots]
        rfl
      rw [RootStack.ensureRoom_eq_ok hroots] at hmisuse
      rw [hpush]
      exact .passed hmisuse rfl ⟨hidx, hlive⟩
  | inspect slot =>
    refine ending_resolve (fun e he => he) fun h o _ hnone hidx ho => ?_
    rw [answer_result ho]
    exact .passed hnone rfl ⟨hidx, ho⟩
  | setHead target value =>
    exact sets_setHead.ending (fun _ _ => rfl) rfl rfl fun _ _ _ hidx ho => ⟨hidx, ho⟩
  | setTail target value =>
    exact sets_setTail.ending (fun _ _ => rfl) rfl rfl fun _ _ _ hidx ho => ⟨hidx, ho⟩
  | collect | stats => exact .passed rfl rfl trivial
  | roots => exact .passed rfl rfl fun h hmem => hs.roots h (RootStack.mem_toList.1 hmem)

/-- A context that an operation of a script leaves arises by calls. -/
theorem Arises.execute (hc : Arises config c) (op : Op) : Arises config (c.execute op).context := by
  rw [(makes_execute c op).context]
  exact hc.performAll _

/-- The handles in an answer are live, also those in the objects that it shows. -/
theorem Answers.contains {outcome : Outcome} (ha : c.Answers op outcome) (hs : c.Sound config) :
    ∀ h ∈ outcome.handles, c.contains h = true := by
  have hshown : ∀ {h o}, c.heap.object? h = some o → ∀ f ∈ h :: o.fields, c.contains f = true :=
    fun ho => List.forall_mem_cons.2 ⟨contains_iff.2 ⟨_, ho⟩, hs.fields _ _ ho⟩
  unfold Answers at ha
  split at ha
  · exact hshown ha
  · exact hshown ha
  · exact List.forall_mem_singleton.2 ha
  · exact List.forall_mem_singleton.2 ha.2
  · exact hshown ha.2
  · exact hshown ha.2
  · exact hshown ha.2
  · exact fun h hmem => absurd hmem List.not_mem_nil
  · exact fun h hmem => absurd hmem List.not_mem_nil
  · exact ha
  · cases ha

/-- On a context that arises by calls an operation fails exactly with what is wrong with it, or, if
nothing is and it is an allocation, because the heap is exhausted. If it succeeds, all handles that
it answers with are live in the context that it leaves, and the objects are those that are stored
there. An allocation that finds no memory for a new slot fails in the same way, whether the roots
reach as many objects as are allowed or not. -/
theorem refusals_exact (hc : Arises config c) (op : Op) :
    (∀ e, (c.execute op).result = .error e ↔ c.misuse? op = some e ∨
      c.misuse? op = none ∧ op.allocates = true ∧ Exhausts config c e) ∧
    (∀ outcome, (c.execute op).result = .ok outcome →
      (c.execute op).context.Answers op outcome ∧
      ∀ h ∈ outcome.handles, (c.execute op).context.contains h = true) ∧
    ∀ call, op.starved? = some call → ∀ e, (c.perform call).result = .error e ↔
      c.misuse? op = some e ∨
        c.misuse? op = none ∧ e = .heap (.exhausted c.makeRoom.1.heap.live) := by
  have hs := hc.sound
  have hend := hs.execute_ending op
  refine ⟨fun e => hend.eq_error_iff, fun outcome hok => ?_, fun call hcall e => ?_⟩
  · exact ⟨hend.answers hok, (hend.answers hok).contains (hc.execute op).sound⟩
  · cases op with
    | int value =>
      cases hcall
      rw [misuse?, hs.overflow?_eq]
      exact result_starved rfl
    | pair =>
      cases hcall
      rw [misuse?, underflow?_eq]
      exact result_starved rfl
    | pop | push | inspect | setHead | setTail | collect | stats | roots => cases hcall

/-- A full stack and an integer that has no head are refused only if the slots that are named are
occupied, and a pair that takes the place of two roots is live with its fields. -/
theorem refusals_exact_precedence :
    let c := (empty { stackMax := 2 }).performAll [.int 1, .int 2]
    Arises { stackMax := 2 } c ∧
    (c.execute (.push 7)).result = .error (.heap (.dangling 7)) ∧
    (c.execute (.push 1)).result = .error (.stack (.overflow 2)) ∧
    (c.execute (.setHead 0 7)).result = .error (.heap (.dangling 7)) ∧
    (c.execute (.setHead 0 1)).result = .error (.heap (.notAPair 0)) ∧
    (c.perform .starvedPair).result = .error (.heap (.exhausted 2)) ∧
    ∀ h ∈ [⟨2, 0⟩, ⟨1, 0⟩, ⟨0, 0⟩], (c.execute .pair).context.contains h = true := by
  intro c
  have hnew : Arises { stackMax := 2 } (empty { stackMax := 2 }) := .start rfl
  have hc : Arises { stackMax := 2 } c := hnew.performAll _
  refine ⟨hc, ?_, ?_, ?_, ?_, ?_, ?_⟩
  · exact ((refusals_exact hc (.push 7)).1 _).2 (.inl rfl)
  · exact ((refusals_exact hc (.push 1)).1 _).2 (.inl rfl)
  · exact ((refusals_exact hc (.setHead 0 7)).1 _).2 (.inl rfl)
  · exact ((refusals_exact hc (.setHead 0 1)).1 _).2 (.inl rfl)
  · exact ((refusals_exact hc .pair).2.2 .starvedPair rfl _).2 (.inr ⟨rfl, rfl⟩)
  · exact ((refusals_exact hc .pair).2.1 (.allocated ⟨2, 0⟩ (.pair ⟨0, 0⟩ ⟨1, 0⟩)) rfl).2

end

end Context

end RootedHeap
