import RootedHeap.Proofs.Clients

/-!
# Renamed objects

A map of handles renames one client to another (`Client.Renames`) if it takes the handles of the
first to those of the second, by number, and so with the roots and with the objects that the roots
reach. It is then a bijection between the objects reached on either side (`Client.Renames.bijOn`),
so the roots reach equally many. A collection on one side, which keeps what is reached, leaves the
clients renamed, and so does every effect of a call that is made alike on both.
-/

namespace RootedHeap

/-- The object with its fields renamed. -/
def Object.rename (f : Handle → Handle) : Object → Object
  | scalar value => scalar value
  | pair head tail => pair (f head) (f tail)

/-- Renaming an object renames its fields. -/
@[simp] theorem Object.fields_rename (f : Handle → Handle) (o : Object) :
    (o.rename f).fields = o.fields.map f := by
  cases o <;> rfl

/-- Only the fields of an object count when it is renamed. -/
theorem Object.rename_congr {f g : Handle → Handle} {o : Object} (h : ∀ x ∈ o.fields, f x = g x) :
    o.rename f = o.rename g := by
  cases o with
  | scalar value => rfl
  | pair head tail =>
    have hhead := h head (mem_fields_pair.2 (.inl rfl))
    have htail := h tail (mem_fields_pair.2 (.inr rfl))
    rw [rename, rename, hhead, htail]

namespace Context

section
variable {config : Config} {c : Context} {h : Handle}

/-! ## What the roots reach after an effect -/

/-- Other roots reach no more if the old ones reach them. -/
theorem reaches_of_withRoots {entries : List Handle} (hroots : ∀ r ∈ entries, c.Reaches r)
    (hr : (c.withRoots entries).Reaches h) : c.Reaches h :=
  hr.trans fun r hmem => hroots r (RootStack.mem_toList.1 hmem)

/-- When an object is placed, the roots reach it, and else no more than before. -/
theorem Sound.reaches_of_placed {object : Object} {rest : List Handle} (hs : c.Sound config)
    (hheap : c.heap.isFull = false) (hfields : ∀ f ∈ object.fields, c.Reaches f)
    (hrest : ∀ r ∈ rest, c.Reaches r) (hr : (c.placed object rest).Reaches h) :
    h = c.heap.nextHandle ∨ c.Reaches h := by
  refine hr.induct (p := fun h => h = c.heap.nextHandle ∨ c.Reaches h) (fun r hmem => ?_) ?_
  · rcases List.mem_cons.1 hmem with rfl | hmem
    · exact .inl rfl
    · exact .inr (hrest r hmem)
  · intro q o hq ho f hf
    rw [hs.object?_placed hheap] at ho
    split at ho
    · cases ho
      exact .inr (hfields f hf)
    · next hne => exact .inr ((hq.resolve_left hne).of_field ho hf)

/-- When an object is replaced by one whose fields the roots reach, they reach no more. -/
theorem reaches_of_withObject {p : Handle} {object : Object} (hp : c.contains p = true)
    (hfields : ∀ f ∈ object.fields, c.Reaches f) (hr : (c.withObject p object).Reaches h) :
    c.Reaches h := by
  refine hr.induct (fun r hmem => reaches_of_mem hmem) fun q o hq ho f hf => ?_
  rw [object?_withObject hp] at ho
  split at ho
  · cases ho
    exact hfields f hf
  · exact hq.of_field ho hf

end

end Context

open Context

namespace Client

/-- A map renames one client to another. -/
structure Renames (f : Handle → Handle) (a b : Client) : Prop where
  /-- The map takes the handle of each allocation to that of the same one on the other side. -/
  allocated : b.allocated = a.allocated.map f
  /-- It takes the roots to the roots, in their order. -/
  roots : b.context.roots.entries = a.context.roots.entries.map f
  /-- It takes the objects that the roots reach to objects of the same values, with the fields
  renamed. -/
  object : ∀ h, a.context.Reaches h → ∃ o,
    a.context.heap.object? h = some o ∧ b.context.heap.object? (f h) = some (o.rename f)

section
variable {config₁ config₂ : Config} {a b : Client} {f : Handle → Handle} {h g : Handle}

/-! ## A bijection -/

/-- The handle of a number is renamed. -/
theorem Renames.handle (hf : Renames f a b) {k : Nat} (hk : a.allocated[k]? = some h) :
    a.handle k = h ∧ b.handle k = f h := by
  have hk' : b.allocated[k]? = some (f h) := by
    rw [hf.allocated, List.getElem?_map, hk, Option.map_some]
  rw [Client.handle, Client.handle, hk, hk']
  exact ⟨rfl, rfl⟩

/-- What the roots reach is renamed to what the roots reach. -/
theorem Renames.reaches (hf : Renames f a b) (hr : a.context.Reaches h) :
    b.context.Reaches (f h) := by
  let both := fun h => a.context.Reaches h ∧ b.context.Reaches (f h)
  have hboth : both h := by
    refine hr.induct (p := both) (fun r hmem => ⟨reaches_of_mem hmem, ?_⟩) ?_
    · have hmem' : f r ∈ b.context.roots.entries := hf.roots ▸ List.mem_map_of_mem hmem
      exact reaches_of_mem hmem'
    · intro q o hq ho x hx
      obtain ⟨o', ho', hrenamed⟩ := hf.object q hq.1
      obtain rfl : o = o' := Option.some_inj.1 (ho.symm.trans ho')
      have hx' : f x ∈ (o.rename f).fields := by
        rw [Object.fields_rename]
        exact List.mem_map_of_mem hx
      exact ⟨hq.1.of_field ho hx, hq.2.of_field hrenamed hx'⟩
  exact hboth.2

/-- What the roots reach on the other side is renamed from what they reach. -/
theorem Renames.exists_of_reaches (hf : Renames f a b) (hr : b.context.Reaches g) :
    ∃ h, a.context.Reaches h ∧ f h = g := by
  refine hr.induct (p := fun g => ∃ h, a.context.Reaches h ∧ f h = g) (fun r hmem => ?_) ?_
  · rw [hf.roots] at hmem
    obtain ⟨h, hroot, rfl⟩ := List.mem_map.1 hmem
    exact ⟨h, reaches_of_mem hroot, rfl⟩
  · rintro _ o ⟨q, hq, rfl⟩ ho x hx
    obtain ⟨o', ho', hrenamed⟩ := hf.object q hq
    obtain rfl : o = o'.rename f := Option.some_inj.1 (ho.symm.trans hrenamed)
    rw [Object.fields_rename] at hx
    obtain ⟨y, hy, rfl⟩ := List.mem_map.1 hx
    exact ⟨y, hq.of_field ho' hy, rfl⟩

/-- Different objects that the roots reach are renamed to different ones. -/
theorem Renames.injOn (hf : Renames f a b) (ha : a.Numbered config₁) (hb : b.Numbered config₂) :
    Set.InjOn f {h | a.context.Reaches h} := by
  intro h hh g hg heq
  have hnodup := hb.nodup
  rw [hf.allocated] at hnodup
  exact List.inj_on_of_nodup_map hnodup (ha.mem_of_reaches hh) (ha.mem_of_reaches hg) heq

/-- Renaming is a bijection between what the roots reach on either side. -/
theorem Renames.bijOn (hf : Renames f a b) (ha : a.Numbered config₁) (hb : b.Numbered config₂) :
    Set.BijOn f {h | a.context.Reaches h} {g | b.context.Reaches g} :=
  ⟨fun _ hr => hf.reaches hr, hf.injOn ha hb, fun _ hr => hf.exists_of_reaches hr⟩

/-! ## Collections on one side -/

/-- A collection on the first side leaves the clients renamed. -/
theorem Renames.cycle_left (hf : Renames f a b) (ha : a.Numbered config₁) :
    Renames f (a.withContext a.context.cycle.2) b where
  allocated := hf.allocated
  roots := hf.roots
  object h hr := by
    have hr' := ha.sound.reaches_cycle.1 hr
    obtain ⟨o, ho, hrenamed⟩ := hf.object h hr'
    have hkept : a.context.cycle.2.heap.object? h = some o := by
      rw [ha.sound.object?_cycle, if_pos hr', ho]
    exact ⟨o, hkept, hrenamed⟩

/-- A collection on the other side leaves the clients renamed. -/
theorem Renames.cycle_right (hf : Renames f a b) (hb : b.Numbered config₂) :
    Renames f a (b.withContext b.context.cycle.2) where
  allocated := hf.allocated
  roots := hf.roots
  object h hr := by
    obtain ⟨o, ho, hrenamed⟩ := hf.object h hr
    have hkept : b.context.cycle.2.heap.object? (f h) = some (o.rename f) := by
      rw [hb.sound.object?_cycle, if_pos (hf.reaches hr), hrenamed]
    exact ⟨o, ho, hkept⟩

/-! ## The same effect on both sides -/

/-- Clients stay renamed when the roots are replaced alike by ones that were reached. -/
theorem Renames.withRoots {entries : List Handle} (hf : Renames f a b)
    (hroots : ∀ r ∈ entries, a.context.Reaches r) :
    Renames f (a.withContext (a.context.withRoots entries))
      (b.withContext (b.context.withRoots (entries.map f))) where
  allocated := hf.allocated
  roots := rfl
  object h hr := hf.object h (reaches_of_withRoots hroots hr)

/-- Clients stay renamed when an object is replaced alike by one whose fields were reached. -/
theorem Renames.withObject {p : Handle} {object : Object} (hf : Renames f a b)
    (ha : a.Numbered config₁) (hb : b.Numbered config₂) (hp : a.context.Reaches p)
    (hfields : ∀ x ∈ object.fields, a.context.Reaches x) :
    Renames f (a.withContext (a.context.withObject p object))
      (b.withContext (b.context.withObject (f p) (object.rename f))) where
  allocated := hf.allocated
  roots := hf.roots
  object h hr := by
    have hlive := ha.sound.contains_of_reaches hp
    have hlive' := hb.sound.contains_of_reaches (hf.reaches hp)
    have hr' := reaches_of_withObject hlive hfields hr
    show ∃ o, (a.context.withObject p object).heap.object? h = some o ∧
      (b.context.withObject (f p) (object.rename f)).heap.object? (f h) = some (o.rename f)
    rw [object?_withObject hlive, object?_withObject hlive']
    by_cases heq : h = p
    · exact ⟨object, if_pos heq, if_pos (congrArg f heq)⟩
    · have hne : f h ≠ f p := fun hfeq => heq (hf.injOn ha hb hr' hp hfeq)
      rw [if_neg heq, if_neg hne]
      exact hf.object h hr'

/-- Clients stay renamed when the same object is placed on both sides, by any map that renames the
known handles as before and the new ones to each other. -/
theorem Renames.placed {f' : Handle → Handle} {object : Object} {rest : List Handle}
    (hf : Renames f a b) (ha : a.Numbered config₁) (hb : b.Numbered config₂)
    (hheap : a.context.heap.isFull = false) (hheap' : b.context.heap.isFull = false)
    (hfields : ∀ x ∈ object.fields, a.context.Reaches x)
    (hrest : ∀ r ∈ rest, a.context.Reaches r)
    (hnew : f' a.context.heap.nextHandle = b.context.heap.nextHandle)
    (hold : ∀ h ∈ a.allocated, f' h = f h) :
    Renames f' ⟨a.context.placed object rest, a.allocated ++ [a.context.heap.nextHandle]⟩
      ⟨b.context.placed (object.rename f) (rest.map f),
        b.allocated ++ [b.context.heap.nextHandle]⟩ := by
  have hreached : ∀ h, a.context.Reaches h → f' h = f h := fun h hr =>
    hold h (ha.mem_of_reaches hr)
  constructor
  · show b.allocated ++ [b.context.heap.nextHandle] =
      (a.allocated ++ [a.context.heap.nextHandle]).map f'
    rw [List.map_append, List.map_congr_left hold, ← hf.allocated, List.map_singleton, hnew]
  · show b.context.heap.nextHandle :: rest.map f = (a.context.heap.nextHandle :: rest).map f'
    rw [List.map_cons, hnew, List.map_congr_left fun r hr => hreached r (hrest r hr)]
  · intro h hr
    show ∃ o, (a.context.placed object rest).heap.object? h = some o ∧
      (b.context.placed (object.rename f) (rest.map f)).heap.object? (f' h) = some (o.rename f')
    rw [ha.sound.object?_placed hheap, hb.sound.object?_placed hheap']
    rcases ha.sound.reaches_of_placed hheap hfields hrest hr with rfl | hr
    · have hrename := Object.rename_congr fun x hx => hreached x (hfields x hx)
      rw [hnew, if_pos rfl, if_pos rfl]
      exact ⟨object, rfl, congrArg some hrename.symm⟩
    · obtain ⟨o, ho, hrenamed⟩ := hf.object h hr
      have hrename := Object.rename_congr fun x hx => hreached x (hr.of_field ho hx)
      rw [hreached h hr, if_neg (ha.sound.ne_nextHandle (ha.sound.contains_of_reaches hr)),
        if_neg (hb.sound.ne_nextHandle (hb.sound.contains_of_reaches (hf.reaches hr)))]
      exact ⟨o, ho, hrename ▸ hrenamed⟩

end

end Client

end RootedHeap
