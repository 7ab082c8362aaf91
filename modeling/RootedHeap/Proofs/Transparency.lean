import RootedHeap.Proofs.Exhaustion
import RootedHeap.Proofs.Renaming

/-!
# Collections cannot be told

When a context collects depends on its threshold and on the collections that are asked for, and so
do the slots and generations that its objects get. A client whose operands the roots reach cannot
tell: two clients that run the same program on contexts with the same bounds, beside different
collections, see the same calls succeed and the same refused (`Client.SameEnd`), and their objects
are always the same up to renaming. That the heap is full is told only after a collection, so it is
told when the roots reach as many objects as the cap allows (`Context.Sound.isFull_makeRoom_iff`),
which is so on both sides or on neither. One call at a time this is `Client.Renames.agree`, and for
a whole run `Client.collections_transparent`.
-/

namespace RootedHeap

open Context

namespace Client

/-- Two calls come to the same end: both succeed, or both are refused for the same reason, up to the
slot of an object that is no pair. -/
inductive SameEnd : Except Error (Option Handle) → Except Error (Option Handle) → Prop
  | ok (h g : Option Handle) : SameEnd (.ok h) (.ok g)
  | refused (e : Error) : SameEnd (.error e) (.error e)
  | notAPair (i j : Nat) : SameEnd (.error (.heap (.notAPair i))) (.error (.heap (.notAPair j)))

/-- A call comes to the same end for two clients and leaves them renamed. -/
def Agree (a b : Client) (op : NamedCall) : Prop :=
  SameEnd (a.result op) (b.result op) ∧ ∃ f, Renames f (a.perform op) (b.perform op)

section
variable {config₁ config₂ : Config} {a b : Client} {f : Handle → Handle} {op : NamedCall}

/-! ## The same bounds -/

/-- The roots of clients that are renamed are equally many. -/
theorem Renames.size_eq (hf : Renames f a b) :
    b.context.roots.size = a.context.roots.size := by
  rw [RootStack.size_eq, RootStack.size_eq, hf.roots, List.length_map]

/-- The roots of contexts with the same bound have the same capacity. -/
theorem capacity_eq (ha : a.Numbered config₁) (hb : b.Numbered config₂)
    (hstack : config₁.stackMax = config₂.stackMax) :
    b.context.roots.capacity = a.context.roots.capacity := by
  rw [ha.sound.setUp.capacity_eq, hb.sound.setUp.capacity_eq, hstack]

/-- The roots of clients that are renamed are full on both sides or on neither. -/
theorem Renames.isFull_eq (hf : Renames f a b)
    (hcapacity : b.context.roots.capacity = a.context.roots.capacity) :
    b.context.roots.isFull = a.context.roots.isFull := by
  rw [RootStack.isFull, RootStack.isFull, hf.size_eq, hcapacity]

/-- A client knows what is live after the collection that an allocation may run. -/
theorem Numbered.makeRoom {config : Config} (ha : a.Numbered config) :
    (a.withContext a.context.makeRoom.1).Numbered config := by
  rcases makeRoom_eq_or a.context with heq | heq <;> rw [heq]
  · exact ha
  · exact ha.cycle

/-- Clients stay renamed when each runs the collection that an allocation needs on its side. -/
theorem Renames.makeRoom (hf : Renames f a b) (ha : a.Numbered config₁)
    (hb : b.Numbered config₂) :
    Renames f (a.withContext a.context.makeRoom.1) (b.withContext b.context.makeRoom.1) := by
  have hleft : Renames f (a.withContext a.context.makeRoom.1) b := by
    rcases makeRoom_eq_or a.context with heq | heq <;> rw [heq]
    · exact hf
    · exact hf.cycle_left ha
  rcases makeRoom_eq_or b.context with heq | heq <;> rw [heq]
  · exact hleft
  · exact hleft.cycle_right hb

/-- Before an allocation the heaps of clients that are renamed are full on both sides or on
neither. -/
theorem Renames.isFull_makeRoom_eq (hf : Renames f a b) (ha : a.Numbered config₁)
    (hb : b.Numbered config₂) (hcap : config₁.maxObjects = config₂.maxObjects) :
    b.context.makeRoom.1.heap.isFull = a.context.makeRoom.1.heap.isFull := by
  have hncard := (hf.bijOn ha hb).ncard_eq
  rw [Bool.eq_iff_iff, ha.sound.isFull_makeRoom_iff, hb.sound.isFull_makeRoom_iff, hcap, hncard]

/-- Full heaps with the same cap have equally many live objects. -/
theorem live_eq_of_isFull (ha : a.Numbered config₁) (hb : b.Numbered config₂)
    (hcap : config₁.maxObjects = config₂.maxObjects) (hfull : a.context.heap.isFull = true)
    (hfull' : b.context.heap.isFull = true) : b.context.heap.live = a.context.heap.live := by
  obtain ⟨m, hm, -⟩ := ha.sound.isFull_iff.1 hfull
  rw [ha.sound.live_eq_of_isFull hfull hm, hb.sound.live_eq_of_isFull hfull' (hcap ▸ hm)]

/-! ## One call -/

/-- Clients agree on a call if what it comes to on either side is the same and renamed. -/
theorem agree_of {result result' : Except Error (Option Handle)} {c d : Context}
    (ha : (a.context.perform (op.call a.handle)).result = result ∧
      (a.context.perform (op.call a.handle)).context = c)
    (hb : (b.context.perform (op.call b.handle)).result = result' ∧
      (b.context.perform (op.call b.handle)).context = d)
    (hend : SameEnd result result')
    (hf : Renames f ⟨c, a.allocated ++ given result⟩ ⟨d, b.allocated ++ given result'⟩) :
    Agree a b op := by
  obtain ⟨rfl, rfl⟩ := ha
  obtain ⟨rfl, rfl⟩ := hb
  exact ⟨hend, f, hf⟩

/-- Clients agree on a call that gives no handle on either side if what it comes to is the same and
renamed. -/
theorem agree_of_given_eq_nil {result result' : Except Error (Option Handle)} {c d : Context}
    (ha : (a.context.perform (op.call a.handle)).result = result ∧
      (a.context.perform (op.call a.handle)).context = c)
    (hb : (b.context.perform (op.call b.handle)).result = result' ∧
      (b.context.perform (op.call b.handle)).context = d)
    (hend : SameEnd result result') (hnil : given result = []) (hnil' : given result' = [])
    (hf : Renames f (a.withContext c) (b.withContext d)) : Agree a b op := by
  refine agree_of (f := f) ha hb hend ?_
  rw [hnil, hnil', List.append_nil, List.append_nil]
  exact hf

/-- What an allocation makes is renamed. -/
theorem Renames.made? {call : Call} {object : Object} {rest : List Handle} (hf : Renames f a b)
    (hmade : a.context.made? call = some (object, rest)) :
    b.context.made? call = some (object.rename f, rest.map f) := by
  cases call with
  | int value =>
    cases hmade
    rw [Context.made?, hf.roots]
    rfl
  | pair =>
    obtain ⟨head, tail, hroots, rfl⟩ := made?_pair_eq_some.1 hmade
    have hroots' : b.context.roots.entries = f tail :: f head :: rest.map f := by
      rw [hf.roots, hroots, List.map_cons, List.map_cons]
    exact made?_pair_eq_some.2 ⟨f head, f tail, hroots', rfl⟩
  | starvedInt | starvedPair | pushRoot | popRoot | setHead | setTail | collect => cases hmade

/-- Clients that are renamed agree on an allocation that the roots allow. -/
theorem Renames.agree_of_made? {call : Call} {object : Object} {rest : List Handle}
    (hf : Renames f a b) (ha : a.Numbered config₁) (hb : b.Numbered config₂)
    (hstack : config₁.stackMax = config₂.stackMax)
    (hcap : config₁.maxObjects = config₂.maxObjects)
    (hcall : op.call a.handle = call) (hcall' : op.call b.handle = call)
    (hmade : a.context.made? call = some (object, rest))
    (hroom : rest.length < a.context.roots.capacity.toNat) : Agree a b op := by
  have hf' := hf.makeRoom ha hb
  have ha' := ha.makeRoom
  have hb' := hb.makeRoom
  have hroom' : (rest.map f).length < b.context.roots.capacity.toNat := by
    rwa [List.length_map, capacity_eq ha hb hstack]
  obtain ⟨hfull, hplaced⟩ := perform_of_made? hmade hroom ha.sound.size_le
  obtain ⟨hfull', hplaced'⟩ := perform_of_made? (hf.made? hmade) hroom' hb.sound.size_le
  rw [← hcall] at hfull hplaced
  rw [← hcall'] at hfull' hplaced'
  have hheap := hf.isFull_makeRoom_eq ha hb hcap
  cases hfulla : a.context.makeRoom.1.heap.isFull with
  | true =>
    have hfullb := hheap.trans hfulla
    have hlive := live_eq_of_isFull ha' hb' hcap hfulla hfullb
    have hend : SameEnd (.error (.heap (.exhausted a.context.makeRoom.1.heap.live)))
        (.error (.heap (.exhausted b.context.makeRoom.1.heap.live))) := by
      rw [show b.context.makeRoom.1.heap.live = _ from hlive]
      exact .refused _
    exact agree_of_given_eq_nil (hfull hfulla) (hfull' hfullb) hend rfl rfl hf'
  | false =>
    have hfullb := hheap.trans hfulla
    have hmade' : a.context.makeRoom.1.made? call = some (object, rest) := by
      rw [made?_congr (roots_makeRoom _), hmade]
    obtain ⟨hfields, hrest⟩ := mem_of_made? hmade'
    -- What `f` does to the new handle is of no use, so that is changed; it was not known before.
    let f' := Function.update f a.context.makeRoom.1.heap.nextHandle
      b.context.makeRoom.1.heap.nextHandle
    have hold : ∀ h ∈ a.allocated, f' h = f h := fun h hmem =>
      Function.update_of_ne (ne_of_mem_of_not_mem hmem ha'.nextHandle_not_mem) ..
    refine agree_of (f := f') (hplaced hfulla) (hplaced' hfullb) (.ok _ _) ?_
    exact hf'.placed ha' hb' hfulla hfullb (fun x hx => reaches_of_mem (hfields x hx))
      (fun r hr => reaches_of_mem (hrest r hr)) (Function.update_self ..) hold

/-- Clients that are renamed agree on a call that sets a field, if `change` only puts together what
is stored and what was in the pair. -/
theorem Renames.agree_of_sets {set : Handle → Handle → Call}
    {change : Handle → Handle → Handle → Object} {p v : Nat} (hf : Renames f a b)
    (ha : a.Numbered config₁) (hb : b.Numbered config₂) (hset : Sets set change)
    (hcall : ∀ handle, op.call handle = set (handle p) (handle v))
    (hfields : ∀ v head tail, ∀ x ∈ (change v head tail).fields, x = v ∨ x = head ∨ x = tail)
    (hrename : ∀ v head tail, (change v head tail).rename f = change (f v) (f head) (f tail))
    (hholds : ∀ k ∈ [p, v], ∃ h, a.allocated[k]? = some h ∧ a.context.Reaches h) :
    Agree a b op := by
  obtain ⟨q, hq, hqr⟩ := hholds p (.head _)
  obtain ⟨u, hu, hur⟩ := hholds v (.tail _ (.head _))
  obtain ⟨hqa, hqb⟩ := hf.handle hq
  obtain ⟨hua, hub⟩ := hf.handle hu
  have hcalla : op.call a.handle = set q u := by rw [hcall, hqa, hua]
  have hcallb : op.call b.handle = set (f q) (f u) := by rw [hcall, hqb, hub]
  have hlivea := ha.sound.contains_of_reaches hur
  have hliveb := hb.sound.contains_of_reaches (hf.reaches hur)
  obtain ⟨o, ho, hrenamed⟩ := hf.object q hqr
  cases o with
  | scalar value =>
    have hrefuseda := hset.refused hlivea ho
    have hrefusedb := hset.refused hliveb hrenamed
    rw [← hcalla] at hrefuseda
    rw [← hcallb] at hrefusedb
    exact agree_of_given_eq_nil hrefuseda hrefusedb (.notAPair _ _) rfl rfl hf
  | pair head tail =>
    have hreplaceda := hset.replaced hlivea ho
    have hreplacedb := hset.replaced hliveb hrenamed
    rw [← hcalla] at hreplaceda
    rw [← hcallb, ← hrename] at hreplacedb
    refine agree_of_given_eq_nil (f := f) hreplaceda hreplacedb (.ok _ _) rfl rfl ?_
    refine hf.withObject ha hb hqr fun x hx => ?_
    rcases hfields u head tail x hx with rfl | rfl | rfl
    · exact hur
    · exact hqr.of_field ho (Object.mem_fields_pair.2 (.inl rfl))
    · exact hqr.of_field ho (Object.mem_fields_pair.2 (.inr rfl))

/-- Clients that are renamed, with the same bounds, agree on every call whose operands the roots of
the first one reach. -/
theorem Renames.agree (hf : Renames f a b) (ha : a.Numbered config₁) (hb : b.Numbered config₂)
    (hstack : config₁.stackMax = config₂.stackMax)
    (hcap : config₁.maxObjects = config₂.maxObjects) (hholds : a.Holds op) : Agree a b op := by
  have hcapacity := capacity_eq ha hb hstack
  have hfull := hf.isFull_eq hcapacity
  have hoverflow : SameEnd (.error (.stack (.overflow a.context.roots.capacity)))
      (.error (.stack (.overflow b.context.roots.capacity))) := hcapacity ▸ .refused _
  cases op with
  | int value =>
    cases hroots : a.context.roots.isFull with
    | true =>
      exact agree_of_given_eq_nil (perform_int_of_isFull hroots value)
        (perform_int_of_isFull (hfull.trans hroots) value) hoverflow rfl rfl hf
    | false =>
      rw [Bool.eq_false_iff, Ne, RootStack.isFull_iff, Nat.not_le] at hroots
      exact hf.agree_of_made? ha hb hstack hcap rfl rfl rfl hroots
  | pair =>
    rcases Nat.lt_or_ge a.context.roots.size 2 with hlt | hge
    · have hlt' : b.context.roots.size < 2 := hf.size_eq ▸ hlt
      have hend : SameEnd (.error (.stack (.underflow 2 a.context.roots.size)))
          (.error (.stack (.underflow 2 b.context.roots.size))) := hf.size_eq ▸ .refused _
      exact agree_of_given_eq_nil (perform_pair_of_lt hlt) (perform_pair_of_lt hlt') hend rfl rfl hf
    · obtain ⟨tail, head, rest, hroots⟩ := RootStack.exists_entries_of_two_le hge
      have hmade := made?_pair_eq_some.2 ⟨head, tail, hroots, rfl⟩
      have hroom := ha.sound.size_le
      rw [a.context.roots.size_eq, hroots, List.length_cons, List.length_cons] at hroom
      exact hf.agree_of_made? ha hb hstack hcap rfl rfl hmade (by omega)
  | pushRoot k =>
    obtain ⟨h, hk, hr⟩ := hholds k (.head _)
    obtain ⟨hka, hkb⟩ := hf.handle hk
    have hlivea : a.context.contains (a.handle k) = true := hka ▸ ha.sound.contains_of_reaches hr
    have hliveb : b.context.contains (b.handle k) = true :=
      hkb ▸ hb.sound.contains_of_reaches (hf.reaches hr)
    cases hroots : a.context.roots.isFull with
    | true =>
      exact agree_of_given_eq_nil (perform_pushRoot_of_isFull hlivea hroots)
        (perform_pushRoot_of_isFull hliveb (hfull.trans hroots)) hoverflow rfl rfl hf
    | false =>
      have hpusheda := perform_pushRoot hlivea hroots
      have hpushedb := perform_pushRoot hliveb (hfull.trans hroots)
      have hentries : b.handle k :: b.context.roots.entries =
          (a.handle k :: a.context.roots.entries).map f := by
        rw [List.map_cons, hkb, hka, hf.roots]
      rw [hentries] at hpushedb
      refine agree_of_given_eq_nil (f := f) hpusheda hpushedb (.ok _ _) rfl rfl ?_
      exact hf.withRoots (List.forall_mem_cons.2 ⟨hka ▸ hr, fun r hmem => reaches_of_mem hmem⟩)
  | popRoot =>
    cases hroots : a.context.roots.entries with
    | nil =>
      have hroots' : b.context.roots.entries = [] := by rw [hf.roots, hroots, List.map_nil]
      exact agree_of_given_eq_nil (perform_popRoot_of_nil hroots) (perform_popRoot_of_nil hroots')
        (.refused _) rfl rfl hf
    | cons h rest =>
      have hroots' : b.context.roots.entries = f h :: rest.map f := by
        rw [hf.roots, hroots, List.map_cons]
      refine agree_of_given_eq_nil (f := f) (perform_popRoot hroots) (perform_popRoot hroots')
        (.ok _ _) rfl rfl ?_
      exact hf.withRoots fun r hmem => reaches_of_mem (hroots ▸ List.mem_cons_of_mem h hmem)
  | setHead p v =>
    refine hf.agree_of_sets ha hb sets_setHead (fun handle => rfl) ?_ (fun _ _ _ => rfl) hholds
    exact fun v head tail x hx => (Object.mem_fields_pair.1 hx).imp_right .inr
  | setTail p v =>
    refine hf.agree_of_sets ha hb sets_setTail (fun handle => rfl) ?_ (fun _ _ _ => rfl) hholds
    exact fun v head tail x hx => (Object.mem_fields_pair.1 hx).elim (fun h => .inr (.inl h)) .inl

/-! ## Whole runs -/

/-- Two clients that know their objects, one being renamed to the other. -/
structure Twins (config₁ config₂ : Config) (a b : Client) : Prop where
  left : a.Numbered config₁
  right : b.Numbered config₂
  renames : ∃ f, Renames f a b

/-- A collection that is asked for on the first side keeps twins. -/
theorem Twins.collect_left (ht : Twins config₁ config₂ a b) :
    Twins config₁ config₂ (a.move .collect) b := by
  obtain ⟨ha, hb, f, hf⟩ := ht
  exact ⟨ha.cycle, hb, f, hf.cycle_left ha⟩

/-- A collection that is asked for on the other side keeps twins. -/
theorem Twins.collect_right (ht : Twins config₁ config₂ a b) :
    Twins config₁ config₂ a (b.move .collect) := by
  obtain ⟨ha, hb, f, hf⟩ := ht
  exact ⟨ha, hb.cycle, f, hf.cycle_right hb⟩

/-- A call comes to the same end for twins, and keeps them. -/
theorem Twins.perform (ht : Twins config₁ config₂ a b)
    (hstack : config₁.stackMax = config₂.stackMax)
    (hcap : config₁.maxObjects = config₂.maxObjects) (hholds : a.Holds op) :
    SameEnd (a.result op) (b.result op) ∧ Twins config₁ config₂ (a.perform op) (b.perform op) := by
  obtain ⟨ha, hb, f, hf⟩ := ht
  obtain ⟨hend, hf'⟩ := hf.agree ha hb hstack hcap hholds
  exact ⟨hend, ha.perform op, hb.perform op, hf'⟩

/-- The calls of a program come to the same ends for twins, whatever collections stand beside them,
and keep them. -/
theorem Twins.moveAll {left right : List Move} (ht : Twins config₁ config₂ a b)
    (hstack : config₁.stackMax = config₂.stackMax)
    (hcap : config₁.maxObjects = config₂.maxObjects)
    (hsame : Move.program left = Move.program right) (hholds : a.HoldsAll left) :
    List.Forall₂ SameEnd (a.results left) (b.results right) ∧
    Twins config₁ config₂ (a.moveAll left) (b.moveAll right) := by
  induction left generalizing a b right with
  | nil =>
    induction right generalizing b with
    | nil => exact ⟨.nil, ht⟩
    | cons move right ihr =>
      cases move with
      | collect => exact ihr ht.collect_right hsame
      | call op => cases hsame
  | cons move left ih =>
    cases move with
    | collect => exact ih ht.collect_left hsame hholds
    | call op =>
      -- The other side may collect before it makes the same call.
      induction right generalizing b with
      | nil => cases hsame
      | cons move right ihr =>
        cases move with
        | collect => exact ihr ht.collect_right hsame
        | call op' =>
          obtain ⟨rfl, hrest⟩ := List.cons.inj hsame
          obtain ⟨hend, hnext⟩ := ht.perform hstack hcap hholds.1
          obtain ⟨hends, hlast⟩ := ih hnext hrest hholds.2
          exact ⟨.cons hend hends, hlast⟩

/-- Two clients of new contexts with the same bounds that run the same program, beside any
collections on either side, see each call come to the same end, if the roots reach its operands.
Afterwards the map from the handles of one to those of the other, by number, is a bijection between
the objects that the roots reach, and it renames the roots, in their order, and the objects. The
moves may end with any call, so this is so after each. -/
theorem collections_transparent {c d : Context} {left right : List Move}
    (hc : ofConfig config₁ = .ok c) (hd : ofConfig config₂ = .ok d)
    (hstack : config₁.stackMax = config₂.stackMax)
    (hcap : config₁.maxObjects = config₂.maxObjects)
    (hsame : Move.program left = Move.program right) (hholds : HoldsAll ⟨c, []⟩ left) :
    List.Forall₂ SameEnd (results ⟨c, []⟩ left) (results ⟨d, []⟩ right) ∧
    ∃ f, Renames f (moveAll ⟨c, []⟩ left) (moveAll ⟨d, []⟩ right) ∧
      (∀ h, (moveAll ⟨c, []⟩ left).context.Reaches h → h ∈ (moveAll ⟨c, []⟩ left).allocated) ∧
      Set.BijOn f {h | (moveAll ⟨c, []⟩ left).context.Reaches h}
        {g | (moveAll ⟨d, []⟩ right).context.Reaches g} := by
  have hnone : ∀ h, ¬ c.Reaches h := by
    intro h hr
    obtain ⟨-, rfl⟩ := ofConfig_eq_ok.1 hc
    exact hr.induct (p := fun _ => False) (fun _ hmem => absurd hmem List.not_mem_nil)
      fun _ _ hfalse => hfalse.elim
  have hstart : Renames id ⟨c, []⟩ ⟨d, []⟩ := by
    constructor
    · rfl
    · obtain ⟨-, rfl⟩ := ofConfig_eq_ok.1 hc
      obtain ⟨-, rfl⟩ := ofConfig_eq_ok.1 hd
      rfl
    · exact fun h hr => absurd hr (hnone h)
  have ht : Twins config₁ config₂ ⟨c, []⟩ ⟨d, []⟩ :=
    ⟨numbered_start hc, numbered_start hd, id, hstart⟩
  obtain ⟨hends, hlast⟩ := ht.moveAll hstack hcap hsame hholds
  obtain ⟨ha, hb, f, hf⟩ := hlast
  exact ⟨hends, f, hf, fun h hr => ha.mem_of_reaches hr, hf.bijOn ha hb⟩

/-- The client has the operands of a call without operands. -/
theorem holds_nil {a : Client} {op : NamedCall} (hop : op.operands = []) :
    a.Holds op := by
  intro k hk
  rw [hop] at hk
  cases hk

/-- Four objects may live: an integer loses its root, a pair gets another head, and so two slots are
used again before the last integer finds the heap exhausted. A client that collects all the while
sees each call come to the same end, though it has the pair in another slot. -/
theorem collections_transparent_reused_slot :
    let config : Config := { maxObjects := some 4 }
    let eager : Config := { initialThreshold := 1, maxObjects := some 4 }
    let left : List Move := [.call (.int 1), .call .popRoot, .call (.int 2), .call (.int 3),
      .call .pair, .call (.setHead 3 2), .call (.int 4), .call (.pushRoot 2), .call (.int 5),
      .call (.int 6)]
    let right : List Move := [.call (.int 1), .call .popRoot, .collect, .call (.int 2),
      .call (.int 3), .call .pair, .call (.setHead 3 2), .collect, .call (.int 4),
      .call (.pushRoot 2), .call (.int 5), .call (.int 6)]
    HoldsAll ⟨empty config, []⟩ left ∧
    List.Forall₂ SameEnd (results ⟨empty config, []⟩ left) (results ⟨empty eager, []⟩ right) ∧
    ((results ⟨empty config, []⟩ left).map Except.isOk).count false = 1 ∧
    ∃ f, Renames f (moveAll ⟨empty config, []⟩ left) (moveAll ⟨empty eager, []⟩ right) ∧
      f ⟨3, 0⟩ = ⟨2, 0⟩ := by
  intro config eager left right
  -- The pair is a root, and the second operand is its tail.
  let before := moveAll ⟨empty config, []⟩ (left.take 5)
  let after := moveAll ⟨empty config, []⟩ (left.take 7)
  have hset : before.Holds (.setHead 3 2) := by
    have hpair : before.context.Reaches ⟨3, 0⟩ := .root (by decide +kernel)
    refine List.forall_mem_cons.2 ⟨⟨⟨3, 0⟩, by decide +kernel, hpair⟩, ?_⟩
    exact List.forall_mem_singleton.2 ⟨⟨2, 0⟩, by decide +kernel, hpair.field (by decide +kernel)⟩
  have hpush : after.Holds (.pushRoot 2) := by
    have hpair : after.context.Reaches ⟨3, 0⟩ := .root (by decide +kernel)
    exact List.forall_mem_singleton.2 ⟨⟨2, 0⟩, by decide +kernel, hpair.field (by decide +kernel)⟩
  have hholds : HoldsAll ⟨empty config, []⟩ left :=
    ⟨holds_nil rfl, holds_nil rfl, holds_nil rfl, holds_nil rfl, holds_nil rfl, hset,
      holds_nil rfl, hpush, holds_nil rfl, holds_nil rfl, trivial⟩
  have hleft : ofConfig config = .ok (empty config) := rfl
  have hright : ofConfig eager = .ok (empty eager) := rfl
  obtain ⟨hends, f, hf, -⟩ := collections_transparent hleft hright rfl rfl
    (show Move.program left = Move.program right from rfl) hholds
  have hpair : (moveAll ⟨empty config, []⟩ left).allocated[3]? = some ⟨3, 0⟩ := by decide +kernel
  have hother : (moveAll ⟨empty eager, []⟩ right).allocated[3]? = some ⟨2, 0⟩ := by decide +kernel
  rw [hf.allocated, List.getElem?_map, hpair] at hother
  exact ⟨hholds, hends, by decide +kernel, f, hf, Option.some.inj hother⟩

end

end Client

end RootedHeap
