import RootedHeap.Proofs.Cycles

/-!
# How long a handle lives

A handle that an allocation returns is live until the first collection that begins while no root
reaches it (`Context.Abandons`), and from then on it is spent, so that it never comes back. While it
is live it names the object that was made with it, with the fields that were stored last
(`Object.withFields`). `Context.lifetime` says both of every run of calls after the allocation.
-/

namespace RootedHeap

/-- An object with values stored in its fields, of which the last ones count. Only a pair has
fields. -/
def Object.withFields (o : Object) (heads tails : List Handle) : Object :=
  match o with
  | .scalar value => .scalar value
  | .pair head tail => .pair (heads.getLastD head) (tails.getLastD tail)

/-- An object in which nothing is stored stays as it is. -/
theorem Object.withFields_nil (o : Object) : o.withFields [] [] = o := by
  cases o <;> rfl

/-- What is stored later counts over what is stored before. -/
theorem Object.withFields_append (o : Object) (heads heads' tails tails' : List Handle) :
    (o.withFields heads tails).withFields heads' tails' =
      o.withFields (heads ++ heads') (tails ++ tails') := by
  cases o with
  | scalar value => rfl
  | pair head tail => simp [withFields, Option.getD_or]

namespace Context

/-- The value that a call is to store as the head of the pair of a handle. -/
def Call.head? (h : Handle) : Call → Option Handle
  | .setHead p v => if p = h then some v else none
  | _ => none

/-- The value that a call is to store as the tail of the pair of a handle. -/
def Call.tail? (h : Handle) : Call → Option Handle
  | .setTail p v => if p = h then some v else none
  | _ => none

/-- What a call stores, if it succeeds, where `field` says what it is to store. -/
def written (c : Context) (field : Call → Option Handle) (call : Call) : List Handle :=
  if (c.perform call).result.isOk then (field call).toList else []

/-- What calls store, one after the other. -/
def stored (c : Context) (field : Call → Option Handle) : List Call → List Handle
  | [] => []
  | call :: calls => c.written field call ++ (c.perform call).context.stored field calls

/-- One of the calls runs a collection that begins while no root reaches a handle. -/
def Abandons (c : Context) (h : Handle) (calls : List Call) : Prop :=
  ∃ before call rest, calls = before ++ call :: rest ∧
    (c.performAll before).Collects call ∧ ¬ (c.performAll before).Reaches h

/-- A handle that has been given out and names no object any more. -/
def Spent (c : Context) (h : Handle) : Prop := c.heap.slab.Spent c.heap.free h

section
variable {config : Config} {c d : Context} {call : Call} {h : Handle}
  {result : Except Error (Option Handle)}

/-! ## Spent handles -/

/-- A spent handle is not live. -/
theorem Spent.not_contains (hh : c.Spent h) : c.contains h = false := by
  rw [Context.contains, Heap.contains, Heap.object?, Slab.Spent.object? hh]
  rfl

/-- An effect of a call does not bring a spent handle back. -/
theorem Effect.spent (he : Effect c call result d) (hs : c.Sound config) (hh : c.Spent h) :
    d.Spent h := by
  cases he with
  | refused | collected | rooted | unrooted => exact hh
  | placed hmade hheap hlength =>
    rw [Spent, slab_placed hheap, free_placed hheap]
    exact Heap.spent_alloc hs.freeList hh _
  | headSet | tailSet => exact Slab.Spent.congr hh (Slab.sameShape_setObject _ _ _)

/-- A call does not bring a spent handle back. -/
theorem Sound.spent_perform (hs : c.Sound config) (hh : c.Spent h) (call : Call) :
    (c.perform call).context.Spent h := by
  rcases hs.perform_cases call with ⟨-, he⟩ | ⟨-, he⟩
  · exact he.spent hs hh
  · exact he.spent hs.cycle (Heap.spent_collect hh)

/-- Calls do not bring a spent handle back. -/
theorem Sound.spent_performAll (hs : c.Sound config) (hh : c.Spent h) (calls : List Call) :
    (c.performAll calls).Spent h := by
  induction calls generalizing c with
  | nil => exact hh
  | cons call calls ih => exact ih (hs.perform call) (hs.spent_perform hh call)

/-- A live handle that no root reaches is spent after a collection. -/
theorem Sound.spent_cycle (hs : c.Sound config) (hh : c.contains h = true) (hr : ¬ c.Reaches h) :
    c.cycle.2.Spent h :=
  Heap.spent_collect_of_reclaimed hs.freeList hh ((hs.object?_cycle).trans (if_neg hr))

/-! ## One call -/

/-- An effect of a call leaves live what is live. -/
theorem Effect.contains (he : Effect c call result d) (hs : c.Sound config)
    (hh : c.contains h = true) : d.contains h = true := by
  cases he with
  | refused | collected | rooted | unrooted => exact hh
  | placed hmade hheap hlength => exact hs.contains_placed hheap hh
  | headSet hv hp | tailSet hv hp =>
    exact (contains_withObject (contains_iff.2 ⟨_, hp⟩) _).trans hh

/-- A live handle is so after a call, or the call has run a collection while no root reached it;
then it is spent. -/
theorem Sound.perform_live (hs : c.Sound config) (hh : c.contains h = true) (call : Call) :
    ¬ (c.Collects call ∧ ¬ c.Reaches h) ∧ (c.perform call).context.contains h = true ∨
    (c.Collects call ∧ ¬ c.Reaches h) ∧ (c.perform call).context.Spent h := by
  rcases hs.perform_cases call with ⟨hnot, he⟩ | ⟨hcollects, he⟩
  · exact .inl ⟨fun hand => hnot hand.1, he.contains hs hh⟩
  · by_cases hr : c.Reaches h
    · exact .inl ⟨fun hand => hand.2 hr, he.contains hs.cycle (hs.contains_cycle.2 hr)⟩
    · exact .inr ⟨⟨hcollects, hr⟩, he.spent hs.cycle (hs.spent_cycle hh hr)⟩

/-- A call that allocates stores in no field. -/
theorem field_of_made? {made : Object × List Handle} (hmade : c.made? call = some made) :
    call.head? h = none ∧ call.tail? h = none := by
  cases call with
  | int | pair => exact ⟨rfl, rfl⟩
  | starvedInt | starvedPair | pushRoot | popRoot | setHead | setTail | collect => cases hmade

/-- An effect of a call changes a live object by what it stores. -/
theorem Effect.object? (he : Effect c call result d) (hs : c.Sound config)
    (hh : c.contains h = true) : d.heap.object? h = (c.heap.object? h).map fun o =>
      o.withFields (if result.isOk then (call.head? h).toList else [])
        (if result.isOk then (call.tail? h).toList else []) := by
  obtain ⟨o, ho⟩ := contains_iff.1 hh
  rw [ho, Option.map_some]
  cases he with
  | refused => exact ho.trans (congrArg some o.withFields_nil.symm)
  | collected | rooted | unrooted => exact ho.trans (congrArg some o.withFields_nil.symm)
  | placed hmade hheap hlength =>
    obtain ⟨hhead, htail⟩ := field_of_made? (h := h) hmade
    rw [hhead, htail, hs.object?_placed hheap, if_neg (hs.ne_nextHandle hh), ho]
    exact congrArg some o.withFields_nil.symm
  | @headSet p v head tail hv hp =>
    rw [object?_withObject (contains_iff.2 ⟨_, hp⟩), ho]
    by_cases heq : h = p
    · subst heq
      obtain rfl : o = .pair head tail := Option.some_inj.1 (ho.symm.trans hp)
      simp [Call.head?, Call.tail?, Object.withFields, Except.isOk, Except.toBool]
    · simp [heq, Ne.symm heq, Call.head?, Call.tail?, Object.withFields_nil]
  | @tailSet p v head tail hv hp =>
    rw [object?_withObject (contains_iff.2 ⟨_, hp⟩), ho]
    by_cases heq : h = p
    · subst heq
      obtain rfl : o = .pair head tail := Option.some_inj.1 (ho.symm.trans hp)
      simp [Call.head?, Call.tail?, Object.withFields, Except.isOk, Except.toBool]
    · simp [heq, Ne.symm heq, Call.head?, Call.tail?, Object.withFields_nil]

/-- A handle that is live after a call names the object that it did, with what the call stores. -/
theorem Sound.object?_perform (hs : c.Sound config) (hh : c.contains h = true)
    (hlive : (c.perform call).context.contains h = true) :
    (c.perform call).context.heap.object? h = (c.heap.object? h).map fun o =>
      o.withFields (c.written (Call.head? h) call) (c.written (Call.tail? h) call) := by
  rcases hs.perform_cases call with ⟨-, he⟩ | ⟨hcollects, he⟩
  · exact he.object? hs hh
  · rcases hs.perform_live hh call with ⟨hnot, -⟩ | ⟨-, hspent⟩
    · have hr : c.Reaches h := by
        by_contra hr
        exact hnot ⟨hcollects, hr⟩
      rw [he.object? hs.cycle (hs.contains_cycle.2 hr), hs.object?_cycle, if_pos hr]
      rfl
    · rw [hspent.not_contains] at hlive
      cases hlive

/-! ## A run of calls -/

/-- No call abandons a handle if there is none. -/
theorem not_abandons_nil : ¬ c.Abandons h [] := by
  rintro ⟨before, call, rest, heq, -⟩
  cases before <;> cases heq

/-- Calls abandon a handle if the first one does, or those after it. -/
theorem abandons_cons {calls : List Call} : c.Abandons h (call :: calls) ↔
    (c.Collects call ∧ ¬ c.Reaches h) ∨ (c.perform call).context.Abandons h calls := by
  constructor
  · rintro ⟨before, call', rest, heq, habandons⟩
    cases before with
    | nil =>
      cases heq
      exact .inl habandons
    | cons first before =>
      cases heq
      exact .inr ⟨before, call', rest, rfl, habandons⟩
  · rintro (habandons | ⟨before, call', rest, rfl, habandons⟩)
    · exact ⟨[], call, calls, rfl, habandons⟩
    · exact ⟨call :: before, call', rest, rfl, habandons⟩

/-- A live handle is so after calls unless they abandon it. -/
theorem Sound.contains_performAll (hs : c.Sound config) (hh : c.contains h = true)
    (calls : List Call) : (c.performAll calls).contains h = true ↔ ¬ c.Abandons h calls := by
  induction calls generalizing c with
  | nil => exact ⟨fun _ => not_abandons_nil, fun _ => hh⟩
  | cons call calls ih =>
    rw [abandons_cons, not_or]
    rcases hs.perform_live hh call with ⟨hnot, hlive⟩ | ⟨habandons, hspent⟩
    · exact (ih (hs.perform call) hlive).trans (and_iff_right hnot).symm
    · have hdead := ((hs.perform call).spent_performAll hspent calls).not_contains
      exact ⟨fun hlive => absurd (hdead.symm.trans hlive) Bool.false_ne_true,
        fun hnot => absurd habandons hnot.1⟩

/-- A handle that is live after calls names the object that it did, with what they store. -/
theorem Sound.object?_performAll {calls : List Call} (hs : c.Sound config)
    (hh : c.contains h = true) (hlive : (c.performAll calls).contains h = true) :
    (c.performAll calls).heap.object? h = (c.heap.object? h).map fun o =>
      o.withFields (c.stored (Call.head? h) calls) (c.stored (Call.tail? h) calls) := by
  induction calls generalizing c with
  | nil => simp [performAll, stored, Object.withFields_nil]
  | cons call calls ih =>
    rcases hs.perform_live hh call with ⟨-, hnext⟩ | ⟨-, hspent⟩
    · have hlater := ih (hs.perform call) hnext hlive
      rw [hs.object?_perform hh hnext, Option.map_map] at hlater
      refine hlater.trans ?_
      congr 1
      funext o
      exact o.withFields_append _ _ _ _
    · have hdead := ((hs.perform call).spent_performAll hspent calls).not_contains
      exact absurd (hdead.symm.trans hlive) Bool.false_ne_true

/-- An effect that gives a handle is that of an allocation, which the handle names. -/
theorem Effect.object?_of_ok (he : Effect c call result d) (hs : c.Sound config)
    (hok : result = .ok (some h)) :
    ∃ object rest, c.made? call = some (object, rest) ∧ d.heap.object? h = some object := by
  cases he with
  | @placed _ object rest hmade hheap hlength =>
    cases hok
    exact ⟨object, rest, hmade, by rw [hs.object?_placed hheap, if_pos rfl]⟩
  | refused | collected | rooted | unrooted | headSet | tailSet => cases hok

/-- The handle that an allocation gives names its object. -/
theorem Sound.object?_of_ok (hs : c.Sound config) (hok : (c.perform call).result = .ok (some h)) :
    ∃ object rest, c.made? call = some (object, rest) ∧
      (c.perform call).context.heap.object? h = some object := by
  rcases hs.perform_cases call with ⟨-, he⟩ | ⟨-, he⟩
  · exact he.object?_of_ok hs hok
  · rw [← made?_congr (roots_cycle c)]
    exact he.object?_of_ok hs.cycle hok

/-- A handle that an allocation gives is live, whatever calls follow, exactly as long as none of
them runs a collection that begins while no root reaches it. While it is live it names the object
that was made, with the fields that the calls have stored in it last. -/
theorem lifetime (hc : Arises config c) (hok : (c.perform call).result = .ok (some h)) :
    ∃ object rest, c.made? call = some (object, rest) ∧ ∀ after : List Call,
      (((c.perform call).context.performAll after).contains h = true ↔
        ¬ (c.perform call).context.Abandons h after) ∧
      (((c.perform call).context.performAll after).contains h = true →
        ((c.perform call).context.performAll after).get h = .ok (object.withFields
          ((c.perform call).context.stored (Call.head? h) after)
          ((c.perform call).context.stored (Call.tail? h) after))) := by
  obtain ⟨object, rest, hmade, ho⟩ := hc.sound.object?_of_ok hok
  have hs := hc.sound.perform call
  have hh := contains_iff.2 ⟨object, ho⟩
  refine ⟨object, rest, hmade, fun after => ⟨hs.contains_performAll hh after, fun hlive => ?_⟩⟩
  rw [get, hs.object?_performAll hh hlive, ho]
  rfl

/-- A pair that is made its own head lives on with the tail that it was made with. -/
theorem lifetime_own_head :
    Arises {} ((empty {}).performAll [.int 1, .int 2]) ∧
    (((empty {}).performAll [.int 1, .int 2]).perform .pair).result = .ok (some ⟨2, 0⟩) ∧
    ((empty {}).performAll [.int 1, .int 2, .pair, .setHead ⟨2, 0⟩ ⟨2, 0⟩]).get ⟨2, 0⟩ =
      .ok (.pair ⟨2, 0⟩ ⟨1, 0⟩) := by
  have hnew : Arises {} (empty {}) := .start rfl
  have hc := hnew.performAll [.int 1, .int 2]
  have hok : (((empty {}).performAll [.int 1, .int 2]).perform .pair).result =
      .ok (some ⟨2, 0⟩) := rfl
  obtain ⟨object, rest, hmade, hafter⟩ := lifetime hc hok
  cases hmade
  exact ⟨hc, hok, (hafter [.setHead ⟨2, 0⟩ ⟨2, 0⟩]).2 rfl⟩

end

end Context

end RootedHeap
