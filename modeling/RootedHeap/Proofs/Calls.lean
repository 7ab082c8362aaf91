import RootedHeap.Context
import RootedHeap.Proofs.HeapCalls
import RootedHeap.Proofs.StackCalls

/-!
# Calls on a context

A `Context.Call` is one use of an operation that can change a context, and `Context.Arises` holds of
every context that comes about by calls on one that is made from a valid configuration. Whether a
call succeeds or not, it runs a collection first or none, and then has one of the effects that
`Context.Effect` lists, on the context as it is then (`Context.perform_effect`). What holds of every
context is proved from that list.
-/

namespace RootedHeap

namespace Context

/-- One use of an operation that can change a context. An allocation may find no memory for a new
slot, whatever the cap is; then it is starved. -/
inductive Call where
  | int (value : Int32)
  | pair
  | starvedInt
  | starvedPair
  | pushRoot (h : Handle)
  | popRoot
  | setHead (pair value : Handle)
  | setTail (pair value : Handle)
  | collect
deriving DecidableEq, Repr

/-- The end of an allocation that finds no memory: it is that of one at the cap. -/
def starve (c : Context) : Step Handle := ⟨.error (.heap (.exhausted c.heap.live)), c, []⟩

/-- Performs a call. Its result is the handle of the object that it allocates, if it does. -/
def perform (c : Context) : Call → Step (Option Handle)
  | .int value => (c.pushInt value).bind fun h c => c.query (.ok (some h))
  | .pair => c.pushPair.bind fun h c => c.query (.ok (some h))
  | .starvedInt => (c.allocating c.roots.ensureRoom starve).bind fun h c => c.query (.ok (some h))
  | .starvedPair => (c.allocating (c.roots.require 2) starve).bind fun h c => c.query (.ok (some h))
  | .pushRoot h => (c.pushRoot h).bind fun _ c => c.query (.ok none)
  | .popRoot => c.popRoot.bind fun _ c => c.query (.ok none)
  | .setHead pair value => (c.setHead pair value).bind fun _ c => c.query (.ok none)
  | .setTail pair value => (c.setTail pair value).bind fun _ c => c.query (.ok none)
  | .collect => c.collect.bind fun _ c => c.query (.ok none)

/-- Performs calls, whether they succeed or not. -/
def performAll (c : Context) (calls : List Call) : Context :=
  calls.foldl (fun c call => (c.perform call).context) c

/-- The contexts that come about by calls on one made from a configuration. -/
inductive Arises (config : Config) : Context → Prop
  | start {c : Context} : ofConfig config = .ok c → Arises config c
  | perform {c : Context} (call : Call) : Arises config c → Arises config (c.perform call).context

/-- The context with other roots. -/
def withRoots (c : Context) (entries : List Handle) : Context :=
  { c with roots := c.roots.withEntries entries }

/-- The context with a new object, whose handle is rooted on top of the given roots. -/
def placed (c : Context) (object : Object) (rest : List Handle) : Context :=
  { c with heap := (c.heap.alloc object).2 }.withRoots (c.heap.nextHandle :: rest)

/-- The context with an object replaced. -/
def withObject (c : Context) (h : Handle) (object : Object) : Context :=
  { c with heap := { c.heap with slab := c.heap.slab.setObject h object } }

/-- A call sets a field of a pair in the way that `change` gives the new pair, from the handle to be
stored and the fields before. -/
def Sets (set : Handle → Handle → Call) (change : Handle → Handle → Handle → Object) : Prop :=
  ∀ (c : Context) (p v : Handle),
    (c.perform (set p v)).result =
      ((c.heap.setField p v (change v)).1.mapError .heap).map (fun _ => none) ∧
    (c.perform (set p v)).context = { c with heap := (c.heap.setField p v (change v)).2 }

/-- The object that an allocation makes, and the roots that stay under its handle. The pair of the
two topmost roots has the top one as its tail. -/
def made? (c : Context) : Call → Option (Object × List Handle)
  | .int value => some (.scalar value, c.roots.entries)
  | .pair =>
    match c.roots.entries with
    | tail :: head :: rest => some (.pair head tail, rest)
    | _ => none
  | .starvedInt | .starvedPair | .pushRoot _ | .popRoot | .setHead _ _ | .setTail _ _ | .collect =>
    none

/-- What a call does to a context, its collection apart. -/
inductive Effect (c : Context) : Call → Except Error (Option Handle) → Context → Prop
  | refused (call : Call) (e : Error) : Effect c call (.error e) c
  | collected : Effect c .collect (.ok none) c
  | placed {call : Call} {object : Object} {rest : List Handle} :
      c.made? call = some (object, rest) → c.heap.isFull = false →
      rest.length < c.roots.capacity.toNat →
      Effect c call (.ok (some c.heap.nextHandle)) (c.placed object rest)
  | rooted {h : Handle} : c.contains h = true → c.roots.isFull = false →
      Effect c (.pushRoot h) (.ok none) (c.withRoots (h :: c.roots.entries))
  | unrooted {h : Handle} {rest : List Handle} : c.roots.entries = h :: rest →
      Effect c .popRoot (.ok none) (c.withRoots rest)
  | headSet {p v head tail : Handle} : c.contains v = true →
      c.heap.object? p = some (.pair head tail) →
      Effect c (.setHead p v) (.ok none) (c.withObject p (.pair v tail))
  | tailSet {p v head tail : Handle} : c.contains v = true →
      c.heap.object? p = some (.pair head tail) →
      Effect c (.setTail p v) (.ok none) (c.withObject p (.pair head v))

section
variable {config : Config} {c d : Context} {call : Call} {h : Handle}

/-! ## Operations -/

/-- A collection before an allocation is run or not. -/
theorem makeRoom_cases (c : Context) : c.trigger? = none ∧ c.makeRoom = (c, []) ∨
    ∃ trigger, c.trigger? = some trigger ∧
      c.makeRoom = (c.cycle.2, [trigger, .collected c.cycle.1]) := by
  unfold makeRoom
  cases c.trigger? with
  | none => exact .inl ⟨rfl, rfl⟩
  | some trigger => exact .inr ⟨trigger, rfl, rfl⟩

/-- What an allocation collects before it, or not. -/
theorem makeRoom_eq_or (c : Context) : c.makeRoom.1 = c ∨ c.makeRoom.1 = c.cycle.2 := by
  rcases makeRoom_cases c with ⟨-, heq⟩ | ⟨trigger, -, heq⟩
  · exact .inl (by rw [heq])
  · exact .inr (by rw [heq])

/-- An allocation that the roots do not allow is refused. -/
theorem allocating_eq_of_error {check : Except StackError Unit} {e : StackError}
    (he : check = .error e) (place : Context → Step Handle) :
    c.allocating check place = c.refuse e := by
  subst he
  rfl

/-- An allocation that the roots allow takes place once there is room. -/
theorem allocating_eq_of_ok {check : Except StackError Unit} (hok : check = .ok ())
    (place : Context → Step Handle) : c.allocating check place =
      { place c.makeRoom.1 with events := c.makeRoom.2 ++ (place c.makeRoom.1).events } := by
  subst hok
  rfl

/-- An object is put into the heap and rooted if the heap and the roots have room. -/
theorem allocate_eq {rest : List Handle} (hheap : c.heap.isFull = false)
    (hroots : (c.roots.withEntries rest).isFull = false) (object : Object) :
    c.allocate object (c.roots.withEntries rest) =
      ⟨.ok c.heap.nextHandle, c.placed object rest, []⟩ := by
  rw [allocate, Heap.alloc_eq hheap]
  simp only [RootStack.push_eq hroots]
  rw [placed, Heap.alloc_eq hheap]
  rfl

/-- A full heap takes no object. -/
theorem allocate_eq_of_isFull (hheap : c.heap.isFull = true) (object : Object)
    (roots : RootStack) :
    c.allocate object roots = ⟨.error (.heap (.exhausted c.heap.live)), c, []⟩ := by
  rw [allocate, Heap.alloc_eq_of_isFull hheap]

/-- An integer is put into the heap and rooted if the heap and the roots have room. -/
theorem placeInt_eq (hheap : c.heap.isFull = false) (hroots : c.roots.isFull = false)
    (value : Int32) : c.placeInt value =
      ⟨.ok c.heap.nextHandle, c.placed (.scalar value) c.roots.entries, []⟩ := by
  have hself := c.roots.withEntries_self
  rw [placeInt, ← allocate_eq hheap (by rw [hself]; exact hroots), hself]

/-- A pair takes the place of the two topmost roots if the heap has room. -/
theorem placePair_eq {head tail : Handle} {rest : List Handle} (hheap : c.heap.isFull = false)
    (hroots : c.roots.entries = tail :: head :: rest)
    (hsize : c.roots.size ≤ c.roots.capacity.toNat) : c.placePair =
      ⟨.ok c.heap.nextHandle, c.placed (.pair head tail) rest, []⟩ := by
  have hroom : (c.roots.withEntries rest).isFull = false := by
    rw [Bool.eq_false_iff, Ne, RootStack.isFull_iff]
    rw [c.roots.size_eq, hroots, List.length_cons, List.length_cons] at hsize
    show ¬ c.roots.capacity.toNat ≤ rest.length
    omega
  rw [placePair, RootStack.pop_eq hroots]
  simp only [RootStack.pop_eq (s := c.roots.withEntries (head :: rest)) rfl]
  exact allocate_eq hheap hroom _

/-- A full heap takes no pair. -/
theorem placePair_eq_of_isFull {head tail : Handle} {rest : List Handle}
    (hheap : c.heap.isFull = true) (hroots : c.roots.entries = tail :: head :: rest) :
    c.placePair = ⟨.error (.heap (.exhausted c.heap.live)), c, []⟩ := by
  rw [placePair, RootStack.pop_eq hroots]
  simp only [RootStack.pop_eq (s := c.roots.withEntries (head :: rest)) rfl]
  exact allocate_eq_of_isFull hheap _ _

/-! ## Effects -/

/-- A collection leaves the roots alone. -/
@[simp] theorem roots_cycle (c : Context) : c.cycle.2.roots = c.roots := rfl

/-- A collection before an allocation leaves the roots alone. -/
@[simp] theorem roots_makeRoom (c : Context) : c.makeRoom.1.roots = c.roots := by
  rcases makeRoom_eq_or c with heq | heq <;> rw [heq]
  rfl

/-- What a call makes depends on the roots. -/
theorem made?_congr (hroots : d.roots = c.roots) (call : Call) : d.made? call = c.made? call := by
  unfold made?
  rw [hroots]

/-- A pair is made of the two topmost roots. -/
theorem made?_pair_eq_some {object : Object} {rest : List Handle} :
    c.made? .pair = some (object, rest) ↔
      ∃ head tail, c.roots.entries = tail :: head :: rest ∧ object = .pair head tail := by
  rw [made?]
  rcases c.roots.entries with _ | ⟨tail, _ | ⟨head, rest'⟩⟩
  · simp
  · simp
  · simp [eq_comm, and_comm]

/-- The answer of an operation can be changed after it. -/
theorem bind_query {α β : Type} (s : Step α) (f : α → β) :
    (s.bind fun a c => c.query (.ok (f a))) = ⟨s.result.map f, s.context, s.events⟩ := by
  obtain ⟨result, c, events⟩ := s
  cases result <;> simp [Step.bind, query, Except.map]

/-- An allocation without memory is refused, after the collection that it may run. -/
theorem starve_effect (check : Except StackError Unit) :
    ∃ d, (d = c ∨ d = c.cycle.2) ∧ Effect d call ((c.allocating check starve).result.map some)
      (c.allocating check starve).context := by
  cases check with
  | error e => exact ⟨c, .inl rfl, .refused _ _⟩
  | ok u => exact ⟨c.makeRoom.1, makeRoom_eq_or c, .refused _ _⟩

/-- An integer is refused if the roots are full. -/
theorem perform_int_of_isFull (hroots : c.roots.isFull = true) (value : Int32) :
    (c.perform (.int value)).result = .error (.stack (.overflow c.roots.capacity)) ∧
    (c.perform (.int value)).context = c := by
  have hcheck := RootStack.ensureRoom_eq_error hroots
  simp only [perform, bind_query, pushInt, allocating_eq_of_error hcheck]
  exact ⟨rfl, rfl⟩

/-- A pair is refused if there are not two roots. -/
theorem perform_pair_of_lt (hroots : c.roots.size < 2) :
    (c.perform .pair).result = .error (.stack (.underflow 2 c.roots.size)) ∧
    (c.perform .pair).context = c := by
  have hcheck : c.roots.require 2 = .error (.underflow 2 c.roots.size) := if_pos hroots
  simp only [perform, bind_query, pushPair, allocating_eq_of_error hcheck]
  exact ⟨rfl, rfl⟩

/-- An allocation that the roots allow is refused if the heap is full after the collection that it
may run, and else it puts its object into the heap. -/
theorem perform_of_made? {object : Object} {rest : List Handle}
    (hmade : c.made? call = some (object, rest)) (hroom : rest.length < c.roots.capacity.toNat)
    (hsize : c.roots.size ≤ c.roots.capacity.toNat) :
    (c.makeRoom.1.heap.isFull = true →
      (c.perform call).result = .error (.heap (.exhausted c.makeRoom.1.heap.live)) ∧
      (c.perform call).context = c.makeRoom.1) ∧
    (c.makeRoom.1.heap.isFull = false →
      (c.perform call).result = .ok (some c.makeRoom.1.heap.nextHandle) ∧
      (c.perform call).context = c.makeRoom.1.placed object rest) := by
  cases call with
  | int value =>
    cases hmade
    have hroots : c.roots.isFull = false := by
      rw [Bool.eq_false_iff, Ne, RootStack.isFull_iff]
      exact Nat.not_le.2 hroom
    have hcheck := RootStack.ensureRoom_eq_ok hroots
    simp only [perform, bind_query, pushInt, allocating_eq_of_ok hcheck]
    constructor
    · intro hheap
      rw [placeInt, allocate_eq_of_isFull hheap]
      exact ⟨rfl, rfl⟩
    · intro hheap
      have hroots' : c.makeRoom.1.roots.isFull = false := by rw [roots_makeRoom, hroots]
      rw [placeInt_eq hheap hroots', roots_makeRoom]
      exact ⟨rfl, rfl⟩
  | pair =>
    obtain ⟨head, tail, hroots, rfl⟩ := made?_pair_eq_some.1 hmade
    have htwo : ¬ c.roots.size < 2 := by
      rw [c.roots.size_eq, hroots]
      exact Nat.not_lt.2 (Nat.le_add_left 2 _)
    have hcheck : c.roots.require 2 = .ok () := if_neg htwo
    rw [← roots_makeRoom c] at hroots hsize
    simp only [perform, bind_query, pushPair, allocating_eq_of_ok hcheck]
    constructor
    · intro hheap
      rw [placePair_eq_of_isFull hheap hroots]
      exact ⟨rfl, rfl⟩
    · intro hheap
      rw [placePair_eq hheap hroots hsize]
      exact ⟨rfl, rfl⟩
  | starvedInt | starvedPair | pushRoot | popRoot | setHead | setTail | collect => cases hmade

/-- A live object is rooted if the roots have room. -/
theorem perform_pushRoot (hh : c.contains h = true) (hroots : c.roots.isFull = false) :
    (c.perform (.pushRoot h)).result = .ok none ∧
    (c.perform (.pushRoot h)).context = c.withRoots (h :: c.roots.entries) := by
  simp only [perform, bind_query, pushRoot, hh, RootStack.push_eq hroots]
  exact ⟨rfl, rfl⟩

/-- Full roots take no more. -/
theorem perform_pushRoot_of_isFull (hh : c.contains h = true) (hroots : c.roots.isFull = true) :
    (c.perform (.pushRoot h)).result = .error (.stack (.overflow c.roots.capacity)) ∧
    (c.perform (.pushRoot h)).context = c := by
  simp only [perform, bind_query, pushRoot, hh, RootStack.push_eq_of_isFull hroots]
  exact ⟨rfl, rfl⟩

/-- What is not live cannot be rooted. -/
theorem perform_pushRoot_of_dangling (hh : c.contains h = false) :
    (c.perform (.pushRoot h)).result = .error (.heap (.dangling h.index)) ∧
    (c.perform (.pushRoot h)).context = c := by
  simp only [perform, bind_query, pushRoot, hh]
  exact ⟨rfl, rfl⟩

/-- The top root is taken off. -/
theorem perform_popRoot {rest : List Handle} (hroots : c.roots.entries = h :: rest) :
    (c.perform .popRoot).result = .ok none ∧
    (c.perform .popRoot).context = c.withRoots rest := by
  simp only [perform, bind_query, popRoot, RootStack.pop_eq hroots]
  exact ⟨rfl, rfl⟩

/-- Without roots there is none to take off. -/
theorem perform_popRoot_of_nil (hroots : c.roots.entries = []) :
    (c.perform .popRoot).result = .error (.stack (.underflow 1 0)) ∧
    (c.perform .popRoot).context = c := by
  simp only [perform, bind_query, popRoot, RootStack.pop_eq_of_nil hroots]
  exact ⟨rfl, rfl⟩

/-! ## Setting fields -/

/-- The head of a pair is set by replacing the pair. -/
theorem sets_setHead : Sets .setHead fun v _ tail => .pair v tail := by
  intro c p v
  simp only [perform, bind_query, setHead, Heap.setHead]
  exact ⟨trivial, trivial⟩

/-- The tail of a pair is set by replacing the pair. -/
theorem sets_setTail : Sets .setTail fun v head _ => .pair head v := by
  intro c p v
  simp only [perform, bind_query, setTail, Heap.setTail]
  exact ⟨trivial, trivial⟩

section
variable {set : Handle → Handle → Call} {change : Handle → Handle → Handle → Object} {p v : Handle}

/-- A field of a pair is set to what is live. -/
theorem Sets.replaced (hset : Sets set change) {head tail : Handle} (hv : c.contains v = true)
    (hp : c.heap.object? p = some (.pair head tail)) :
    (c.perform (set p v)).result = .ok none ∧
    (c.perform (set p v)).context = c.withObject p (change v head tail) := by
  obtain ⟨hresult, hcontext⟩ := hset c p v
  rw [hresult, hcontext, Heap.setField_eq hv hp]
  exact ⟨rfl, rfl⟩

/-- An object that is no pair has no field to set. -/
theorem Sets.refused (hset : Sets set change) {value : Int32} (hv : c.contains v = true)
    (hp : c.heap.object? p = some (.scalar value)) :
    (c.perform (set p v)).result = .error (.heap (.notAPair p.index)) ∧
    (c.perform (set p v)).context = c := by
  obtain ⟨hresult, hcontext⟩ := hset c p v
  rw [hresult, hcontext, Heap.setField_eq_of_scalar hv hp]
  exact ⟨rfl, rfl⟩

/-- To set a field replaces a pair by one with a live field, or it is refused, and not because the
heap is exhausted. -/
theorem Sets.cases (hset : Sets set change) (c : Context) (p v : Handle) :
    (∃ e, (∀ live, e ≠ .exhausted live) ∧ (c.perform (set p v)).result = .error (.heap e) ∧
      (c.perform (set p v)).context = c) ∨
    ∃ head tail, c.contains v = true ∧ c.heap.object? p = some (.pair head tail) ∧
      (c.perform (set p v)).result = .ok none ∧
      (c.perform (set p v)).context = c.withObject p (change v head tail) := by
  obtain ⟨hresult, hcontext⟩ := hset c p v
  rcases Heap.setField_cases c.heap p v (change v) with ⟨e, hne, heq⟩ | ⟨head, tail, hv, hp⟩
  · rw [heq] at hresult hcontext
    exact .inl ⟨e, hne, hresult, hcontext⟩
  · exact .inr ⟨head, tail, hv, hp, hset.replaced hv hp⟩

end

/-- What a call comes to may be replaced by what it is equal to. -/
theorem Effect.of_eq {result : Except Error (Option Handle)} {d' : Context}
    (heq : (c.perform call).result = result ∧ (c.perform call).context = d')
    (he : Effect d call result d') :
    Effect d call (c.perform call).result (c.perform call).context := by
  rw [heq.1, heq.2]
  exact he

/-- An allocation that the roots allow has the effect of putting its object into the heap, after the
collection that it may run, or it is refused. -/
theorem effect_of_made? {object : Object} {rest : List Handle}
    (hmade : c.made? call = some (object, rest)) (hroom : rest.length < c.roots.capacity.toNat)
    (hsize : c.roots.size ≤ c.roots.capacity.toNat) :
    ∃ d, (d = c ∨ d = c.cycle.2) ∧
      Effect d call (c.perform call).result (c.perform call).context := by
  obtain ⟨hfull, hplaced⟩ := perform_of_made? hmade hroom hsize
  refine ⟨c.makeRoom.1, makeRoom_eq_or c, ?_⟩
  cases hheap : c.makeRoom.1.heap.isFull with
  | true => exact .of_eq (hfull hheap) (.refused _ _)
  | false =>
    have hmade' : c.makeRoom.1.made? call = some (object, rest) := by
      rw [made?_congr (roots_makeRoom c), hmade]
    exact .of_eq (hplaced hheap) (.placed hmade' hheap (by rwa [roots_makeRoom]))

/-- Whatever a call is, it runs a collection first or none, and then has one of its effects. -/
theorem perform_effect (hsize : c.roots.size ≤ c.roots.capacity.toNat) (call : Call) :
    ∃ d, (d = c ∨ d = c.cycle.2) ∧
      Effect d call (c.perform call).result (c.perform call).context := by
  cases call with
  | int value =>
    cases hroots : c.roots.isFull with
    | true => exact ⟨c, .inl rfl, .of_eq (perform_int_of_isFull hroots value) (.refused _ _)⟩
    | false =>
      rw [Bool.eq_false_iff, Ne, RootStack.isFull_iff, Nat.not_le] at hroots
      exact effect_of_made? rfl hroots hsize
  | pair =>
    rcases Nat.lt_or_ge c.roots.size 2 with hlt | hge
    · exact ⟨c, .inl rfl, .of_eq (perform_pair_of_lt hlt) (.refused _ _)⟩
    · obtain ⟨tail, head, rest, hroots⟩ := RootStack.exists_entries_of_two_le hge
      have hmade := made?_pair_eq_some.2 ⟨head, tail, hroots, rfl⟩
      have hroom := hsize
      rw [c.roots.size_eq, hroots, List.length_cons, List.length_cons] at hroom
      exact effect_of_made? hmade (by omega) hsize
  | starvedInt | starvedPair =>
    simp only [perform, bind_query]
    exact starve_effect _
  | pushRoot h =>
    refine ⟨c, .inl rfl, ?_⟩
    cases hlive : c.contains h with
    | false => exact .of_eq (perform_pushRoot_of_dangling hlive) (.refused _ _)
    | true =>
      cases hroots : c.roots.isFull with
      | true => exact .of_eq (perform_pushRoot_of_isFull hlive hroots) (.refused _ _)
      | false => exact .of_eq (perform_pushRoot hlive hroots) (.rooted hlive hroots)
  | popRoot =>
    refine ⟨c, .inl rfl, ?_⟩
    cases hroots : c.roots.entries with
    | nil => exact .of_eq (perform_popRoot_of_nil hroots) (.refused _ _)
    | cons h rest => exact .of_eq (perform_popRoot hroots) (.unrooted hroots)
  | setHead p v =>
    refine ⟨c, .inl rfl, ?_⟩
    rcases sets_setHead.cases c p v with ⟨e, -, heq⟩ | ⟨head, tail, hv, hp, heq⟩
    · exact .of_eq heq (.refused _ _)
    · exact .of_eq heq (.headSet hv hp)
  | setTail p v =>
    refine ⟨c, .inl rfl, ?_⟩
    rcases sets_setTail.cases c p v with ⟨e, -, heq⟩ | ⟨head, tail, hv, hp, heq⟩
    · exact .of_eq heq (.refused _ _)
    · exact .of_eq heq (.tailSet hv hp)
  | collect => exact ⟨c.cycle.2, .inr rfl, .collected⟩

end

end Context

end RootedHeap
