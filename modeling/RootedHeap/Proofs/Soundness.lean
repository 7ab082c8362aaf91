import RootedHeap.Proofs.Calls

/-!
# No dangling handles

Every context that arises by calls is sound (`Context.Sound`, `Context.Arises.sound`): its roots and
the fields of its objects, also of those that no root reaches, name live objects, and its counts and
flags are right. A collection keeps this because it leaves what the roots reach
(`Context.Sound.contains_cycle`), and each other effect because it stores only handles that are
live. What a client can see of it is `Context.no_dangling_handles`.
-/

namespace RootedHeap

namespace Context

/-- The handles that the roots of a context reach. -/
def Reaches (c : Context) (h : Handle) : Prop := c.heap.slab.Reaches c.roots.toList h

/-- A context is set up as a configuration says. -/
structure SetUp (config : Config) (c : Context) : Prop where
  config_eq : c.config = config
  capacity_eq : c.roots.capacity = config.stackMax
  cap_eq : c.heap.cap = config.maxObjects.map UInt64.toNat
  initial_eq : c.heap.initialThreshold = config.initialThreshold.toNat

/-- What holds of every context made from a configuration. -/
structure Sound (config : Config) (c : Context) : Prop where
  setUp : c.SetUp config
  /-- Every root names a live object. -/
  roots : ∀ h ∈ c.roots.entries, c.contains h = true
  /-- Every field of a live object names a live object. -/
  fields : ∀ h o, c.heap.object? h = some o → ∀ f ∈ o.fields, c.contains f = true
  clear : c.heap.slab.Clear
  freeList : c.heap.slab.FreeList c.heap.free
  live_eq : c.heap.live = c.heap.slab.countOccupied
  length_le : c.roots.entries.length ≤ config.stackMax.toNat
  live_le : ∀ m, config.maxObjects = some m → c.heap.live ≤ m.toNat

section
variable {config : Config} {c : Context} {h : Handle}

/-! ## Looking at contexts -/

/-- A handle is live if it names an object. -/
theorem contains_iff : c.contains h = true ↔ ∃ o, c.heap.object? h = some o :=
  Option.isSome_iff_exists

/-- A root is reached. -/
theorem reaches_of_mem (hmem : h ∈ c.roots.entries) : c.Reaches h :=
  .root (RootStack.mem_toList.2 hmem)

/-- A field of an object that is reached is reached. -/
theorem Reaches.of_field {o : Object} {f : Handle} (hr : c.Reaches h)
    (ho : c.heap.object? h = some o) (hf : f ∈ o.fields) : c.Reaches f :=
  .field hr (Slab.mem_fields.2 ⟨o, ho, hf⟩)

/-- What is reached has every property that the roots have and that fields inherit. -/
theorem Reaches.induct {p : Handle → Prop} (hr : c.Reaches h)
    (hroot : ∀ r ∈ c.roots.entries, p r)
    (hfield : ∀ q o, p q → c.heap.object? q = some o → ∀ f ∈ o.fields, p f) : p h := by
  refine Slab.Reaches.induct hr (fun r hmem => hroot r (RootStack.mem_toList.1 hmem)) ?_
  intro q hq f hf
  obtain ⟨o, ho, hmem⟩ := Slab.mem_fields.1 hf
  exact hfield q o hq ho f hmem

/-- A sound context reaches live objects only. -/
theorem Sound.contains_of_reaches (hs : c.Sound config) (hr : c.Reaches h) :
    c.contains h = true :=
  hr.induct hs.roots fun _ _ _ ho _ hf => hs.fields _ _ ho _ hf

/-! ## Collecting -/

open Classical in
/-- A collection leaves the objects that the roots reach. -/
theorem Sound.object?_cycle (hs : c.Sound config) : c.cycle.2.heap.object? h =
    if c.Reaches h then c.heap.object? h else none :=
  Heap.object?_collect hs.clear

/-- After a collection those handles are live that the roots reach. -/
theorem Sound.contains_cycle (hs : c.Sound config) : c.cycle.2.contains h = true ↔ c.Reaches h := by
  rw [contains_iff, hs.object?_cycle]
  by_cases hr : c.Reaches h
  · simpa [hr] using contains_iff.1 (hs.contains_of_reaches hr)
  · simp [hr]

/-- A collection leaves reached what is reached. -/
theorem Sound.reaches_cycle (hs : c.Sound config) : c.cycle.2.Reaches h ↔ c.Reaches h :=
  Heap.reaches_collect hs.clear

/-- A collection leaves no more live objects than there were. -/
theorem live_cycle_le (c : Context) : c.cycle.2.heap.live ≤ c.heap.live := Nat.sub_le _ _

/-- A collection keeps a context sound. -/
theorem Sound.cycle (hs : c.Sound config) : c.cycle.2.Sound config where
  setUp := ⟨hs.setUp.config_eq, hs.setUp.capacity_eq, hs.setUp.cap_eq, hs.setUp.initial_eq⟩
  roots h hmem := hs.contains_cycle.2 (reaches_of_mem hmem)
  fields h o ho f hf := by
    have hr := hs.contains_cycle.1 (contains_iff.2 ⟨o, ho⟩)
    rw [hs.object?_cycle, if_pos hr] at ho
    exact hs.contains_cycle.2 (hr.of_field ho hf)
  clear := Slab.clear_sweep _
  freeList := Heap.freeList_collect hs.freeList
  live_eq := Heap.live_collect hs.live_eq
  length_le := hs.length_le
  live_le m hm := Nat.le_trans (live_cycle_le c) (hs.live_le m hm)

/-! ## The other effects -/

/-- A context with other live roots is sound if they are not too many. -/
theorem Sound.withRoots {entries : List Handle} (hs : c.Sound config)
    (hlive : ∀ h ∈ entries, c.contains h = true)
    (hlength : entries.length ≤ config.stackMax.toNat) : (c.withRoots entries).Sound config where
  setUp := ⟨hs.setUp.config_eq, hs.setUp.capacity_eq, hs.setUp.cap_eq, hs.setUp.initial_eq⟩
  roots := hlive
  fields := hs.fields
  clear := hs.clear
  freeList := hs.freeList
  live_eq := hs.live_eq
  length_le := hlength
  live_le := hs.live_le

/-- A heap that is not full has fewer live objects than its cap. -/
theorem Sound.live_lt (hs : c.Sound config) (hheap : c.heap.isFull = false) {m : UInt64}
    (hm : config.maxObjects = some m) : c.heap.live < m.toNat := by
  simpa [Heap.isFull, hs.setUp.cap_eq, hm] using hheap

/-- The handles that name an object once another is placed. -/
theorem Sound.object?_placed {object : Object} {rest : List Handle} (hs : c.Sound config)
    (hheap : c.heap.isFull = false) : (c.placed object rest).heap.object? h =
      if h = c.heap.nextHandle then some object else c.heap.object? h :=
  Heap.object?_alloc hs.freeList hheap

/-- The handle that the next object gets is not live. -/
theorem Sound.contains_nextHandle (hs : c.Sound config) :
    c.contains c.heap.nextHandle = false := by
  rw [contains, Heap.contains, Heap.object?_nextHandle hs.freeList]
  rfl

/-- A live handle is not the one that the next object gets. -/
theorem Sound.ne_nextHandle (hs : c.Sound config) (hh : c.contains h = true) :
    h ≠ c.heap.nextHandle := by
  rintro rfl
  exact absurd (hs.contains_nextHandle.symm.trans hh) Bool.false_ne_true

/-- What is live stays so when an object is placed. -/
theorem Sound.contains_placed {object : Object} {rest : List Handle} (hs : c.Sound config)
    (hheap : c.heap.isFull = false) (hh : c.contains h = true) :
    (c.placed object rest).contains h = true := by
  obtain ⟨o, ho⟩ := contains_iff.1 hh
  rw [contains_iff, hs.object?_placed hheap]
  split
  · exact ⟨object, rfl⟩
  · exact ⟨o, ho⟩

/-- The slots after an object is placed. -/
theorem slab_placed {object : Object} {rest : List Handle} (hheap : c.heap.isFull = false) :
    (c.placed object rest).heap.slab = c.heap.slab.put c.heap.nextSlot object := by
  show (c.heap.alloc object).2.slab = _
  rw [Heap.alloc_eq hheap]

/-- The free list after an object is placed. -/
theorem free_placed {object : Object} {rest : List Handle} (hheap : c.heap.isFull = false) :
    (c.placed object rest).heap.free = c.heap.free.tail := by
  show (c.heap.alloc object).2.free = _
  rw [Heap.alloc_eq hheap]

/-- The count of live objects after one is placed. -/
theorem live_placed {object : Object} {rest : List Handle} (hheap : c.heap.isFull = false) :
    (c.placed object rest).heap.live = c.heap.live + 1 := by
  show (c.heap.alloc object).2.live = _
  rw [Heap.alloc_eq hheap]

/-- A context stays sound when an object is placed whose fields are live. -/
theorem Sound.placed {object : Object} {rest : List Handle} (hs : c.Sound config)
    (hheap : c.heap.isFull = false) (hfields : ∀ f ∈ object.fields, c.contains f = true)
    (hrest : ∀ h ∈ rest, c.contains h = true)
    (hlength : rest.length < config.stackMax.toNat) : (c.placed object rest).Sound config where
  setUp := by
    obtain ⟨hconfig, hcapacity, hcap, hinitial⟩ := hs.setUp
    constructor
    · exact hconfig
    · exact hcapacity
    · show (c.heap.alloc object).2.cap = _
      rw [Heap.alloc_eq hheap, ← hcap]
    · show (c.heap.alloc object).2.initialThreshold = _
      rw [Heap.alloc_eq hheap, ← hinitial]
  roots h hmem := by
    rcases List.mem_cons.1 hmem with rfl | hmem
    · exact contains_iff.2 ⟨object, by rw [hs.object?_placed hheap, if_pos rfl]⟩
    · exact hs.contains_placed hheap (hrest h hmem)
  fields h o ho f hf := by
    rw [hs.object?_placed hheap] at ho
    split at ho
    · cases ho
      exact hs.contains_placed hheap (hfields f hf)
    · exact hs.contains_placed hheap (hs.fields h o ho f hf)
  clear := by
    rw [slab_placed hheap]
    exact hs.clear.put (Heap.vacant_nextSlot hs.freeList).1 object
  freeList := by
    rw [slab_placed hheap, free_placed hheap]
    exact Heap.freeList_alloc hs.freeList object
  live_eq := by
    rw [live_placed hheap, slab_placed hheap, hs.live_eq,
      Slab.countOccupied_put (Heap.vacant_nextSlot hs.freeList)]
  length_le := hlength
  live_le m hm := by
    rw [live_placed hheap]
    exact hs.live_lt hheap hm

/-- The handles that name an object once one is replaced. -/
theorem object?_withObject {p : Handle} (hp : c.contains p = true) (object : Object) :
    (c.withObject p object).heap.object? h = if h = p then some object else c.heap.object? h :=
  Slab.object?_setObject hp object

/-- What is live is so when an object is replaced. -/
theorem contains_withObject {p : Handle} (hp : c.contains p = true) (object : Object) :
    (c.withObject p object).contains h = c.contains h :=
  Slab.isSome_object?_setObject hp object

/-- A context stays sound when an object is replaced by one whose fields are live. -/
theorem Sound.withObject {p : Handle} {object : Object} (hs : c.Sound config)
    (hp : c.contains p = true) (hfields : ∀ f ∈ object.fields, c.contains f = true) :
    (c.withObject p object).Sound config where
  setUp := ⟨hs.setUp.config_eq, hs.setUp.capacity_eq, hs.setUp.cap_eq, hs.setUp.initial_eq⟩
  roots h hmem := (contains_withObject hp object).trans (hs.roots h hmem)
  fields h o ho f hf := by
    rw [contains_withObject hp]
    rw [object?_withObject hp] at ho
    split at ho
    · cases ho
      exact hfields f hf
    · exact hs.fields h o ho f hf
  clear := hs.clear.setObject p object
  freeList := hs.freeList.congr (Slab.sameShape_setObject _ p object)
  live_eq := hs.live_eq.trans (Slab.countOccupied_setObject hp object).symm
  length_le := hs.length_le
  live_le := hs.live_le

/-! ## Every context -/

/-- What an allocation is made of are roots: the fields of the new object, and what stays under
it. -/
theorem mem_of_made? {call : Call} {object : Object} {rest : List Handle}
    (hmade : c.made? call = some (object, rest)) :
    (∀ f ∈ object.fields, f ∈ c.roots.entries) ∧ ∀ r ∈ rest, r ∈ c.roots.entries := by
  cases call with
  | int value =>
    cases hmade
    exact ⟨fun f hf => absurd hf List.not_mem_nil, fun r hr => hr⟩
  | pair =>
    obtain ⟨head, tail, hroots, rfl⟩ := made?_pair_eq_some.1 hmade
    rw [hroots]
    refine ⟨fun f hf => ?_, fun r hr => .tail _ (.tail _ hr)⟩
    rcases Object.mem_fields_pair.1 hf with rfl | rfl
    · exact .tail _ (.head _)
    · exact .head _
  | starvedInt | starvedPair | pushRoot | popRoot | setHead | setTail | collect => cases hmade

/-- The effect of a call keeps a context sound. -/
theorem Effect.sound {call : Call} {result : Except Error (Option Handle)} {d : Context}
    (he : Effect c call result d) (hs : c.Sound config) : d.Sound config := by
  cases he with
  | refused | collected => exact hs
  | placed hmade hheap hlength =>
    obtain ⟨hfields, hrest⟩ := mem_of_made? hmade
    rw [hs.setUp.capacity_eq] at hlength
    exact hs.placed hheap (fun f hf => hs.roots f (hfields f hf))
      (fun r hr => hs.roots r (hrest r hr)) hlength
  | @rooted h hlive hroots =>
    rw [Bool.eq_false_iff, Ne, RootStack.isFull_iff, hs.setUp.capacity_eq, Nat.not_le] at hroots
    exact hs.withRoots (List.forall_mem_cons.2 ⟨hlive, hs.roots⟩) hroots
  | @unrooted h rest hroots =>
    have hlength := hs.length_le
    rw [hroots, List.length_cons] at hlength
    refine hs.withRoots (fun r hr => hs.roots r ?_) (by omega)
    exact hroots ▸ List.mem_cons_of_mem h hr
  -- The field that stays was live already, since every field of a live pair is.
  | @headSet p v head tail hv hp =>
    refine hs.withObject (contains_iff.2 ⟨_, hp⟩) fun f hf => ?_
    have htail := hs.fields p _ hp tail (Object.mem_fields_pair.2 (.inr rfl))
    rcases Object.mem_fields_pair.1 hf with rfl | rfl
    · exact hv
    · exact htail
  | @tailSet p v head tail hv hp =>
    refine hs.withObject (contains_iff.2 ⟨_, hp⟩) fun f hf => ?_
    have hhead := hs.fields p _ hp head (Object.mem_fields_pair.2 (.inl rfl))
    rcases Object.mem_fields_pair.1 hf with rfl | rfl
    · exact hhead
    · exact hv

/-- The roots of a sound context fit their capacity. -/
theorem Sound.size_le (hs : c.Sound config) : c.roots.size ≤ c.roots.capacity.toNat := by
  rw [c.roots.size_eq, hs.setUp.capacity_eq]
  exact hs.length_le

/-- A call keeps a context sound. -/
theorem Sound.perform (hs : c.Sound config) (call : Call) :
    (c.perform call).context.Sound config := by
  obtain ⟨d, hd, he⟩ := perform_effect hs.size_le call
  rcases hd with rfl | rfl
  · exact he.sound hs
  · exact he.sound hs.cycle

/-- A context that is made from a configuration is empty, and the configuration is valid. -/
theorem ofConfig_eq_ok : ofConfig config = .ok c ↔ config.validate = .ok () ∧ c = empty config := by
  unfold ofConfig
  cases hv : config.validate with
  | error e => simp [bind, Except.bind]
  | ok u => simp [bind, Except.bind, pure, Except.pure, eq_comm]

/-- An empty context is sound. -/
theorem sound_empty (config : Config) : (empty config).Sound config := by
  have hnone : ∀ h, (empty config).heap.object? h = none := fun _ => rfl
  have hslot : ∀ i : Nat, (empty config).heap.slab[i]? = none := fun _ => rfl
  constructor
  · exact ⟨rfl, rfl, rfl, rfl⟩
  · exact fun h hmem => absurd hmem List.not_mem_nil
  · intro h o ho
    rw [hnone] at ho
    cases ho
  · intro i s cell hs
    rw [hslot] at hs
    cases hs
  · refine ⟨fun i hi => absurd hi List.not_mem_nil, List.nodup_nil, fun i s hs => ?_⟩
    rw [hslot] at hs
    cases hs
  · rfl
  · exact Nat.zero_le _
  · exact fun m _ => Nat.zero_le _

/-- Every context that arises by calls is sound. -/
theorem Arises.sound (hc : Arises config c) : c.Sound config := by
  induction hc with
  | start hnew =>
    obtain ⟨-, rfl⟩ := ofConfig_eq_ok.1 hnew
    exact sound_empty config
  | perform call _ ih => exact ih.perform call

/-- The configuration of a context that arises by calls is valid. -/
theorem Arises.validate_eq (hc : Arises config c) : config.validate = .ok () := by
  induction hc with
  | start hnew => exact (ofConfig_eq_ok.1 hnew).1
  | perform _ _ ih => exact ih

/-- What calls lead to from a context that arises by calls does so too. -/
theorem Arises.performAll (hc : Arises config c) (calls : List Call) :
    Arises config (c.performAll calls) := by
  induction calls generalizing c with
  | nil => exact hc
  | cons call calls ih => exact ih (.perform call hc)

/-- In every context that arises by calls, each root and each field of a live pair names a live
object, whether a root reaches the pair or not; no object has a flag; the count of live objects is
that of occupied slots; and there are no more roots and no more live objects than the configuration
allows. -/
theorem no_dangling_handles (hc : Arises config c) :
    (∀ h ∈ c.roots.toList, c.contains h = true) ∧
    (∀ h head tail, c.heap.object? h = some (.pair head tail) →
      c.contains head = true ∧ c.contains tail = true) ∧
    c.heap.slab.Clear ∧
    c.heap.live = c.heap.slab.countOccupied ∧
    c.roots.toList.length ≤ config.stackMax.toNat ∧
    ∀ m, config.maxObjects = some m → c.heap.live ≤ m.toNat := by
  have hs := hc.sound
  refine ⟨fun h hmem => hs.roots h (RootStack.mem_toList.1 hmem), fun h head tail ho => ?_,
    hs.clear, hs.live_eq, ?_, hs.live_le⟩
  · have hfields := hs.fields h _ ho
    exact ⟨hfields head (Object.mem_fields_pair.2 (.inl rfl)),
      hfields tail (Object.mem_fields_pair.2 (.inr rfl))⟩
  · rw [RootStack.toList, List.length_reverse]
    exact hs.length_le

/-- A pair that no root reaches any more still names live objects. -/
theorem no_dangling_handles_popped_pair :
    Arises {} ((empty {}).performAll [.int 1, .int 2, .pair, .popRoot]) ∧
    ((empty {}).performAll [.int 1, .int 2, .pair, .popRoot]).contains ⟨0, 0⟩ = true ∧
    ((empty {}).performAll [.int 1, .int 2, .pair, .popRoot]).contains ⟨1, 0⟩ = true :=
  have hnew : Arises {} (empty {}) := .start rfl
  have hc := hnew.performAll [.int 1, .int 2, .pair, .popRoot]
  ⟨hc, (no_dangling_handles hc).2.1 ⟨2, 0⟩ ⟨0, 0⟩ ⟨1, 0⟩ rfl⟩

end

end Context

end RootedHeap
