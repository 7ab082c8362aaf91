import RootedHeap.Proofs.Lifetime

/-!
# Clients

A `Client` is a context with the handles of all its allocations so far, the first one first. It
names the objects that it works on by the numbers of their allocations (`NamedCall`), so that the
same calls can be made on contexts whose slots and generations differ. Between them it may ask for
collections (`Move`). A client knows the handle of every live object, and it never gets a handle
twice (`Client.Numbered`).
-/

namespace RootedHeap

open Context

/-- A call whose operands are named by the numbers of their allocations. -/
inductive NamedCall where
  | int (value : Int32)
  | pair
  | pushRoot (k : Nat)
  | popRoot
  | setHead (pair value : Nat)
  | setTail (pair value : Nat)
deriving DecidableEq, Repr

namespace NamedCall

/-- The numbers that a call names. -/
def operands : NamedCall → List Nat
  | int _ | pair | popRoot => []
  | pushRoot k => [k]
  | setHead p v | setTail p v => [p, v]

/-- The call on the handles that its numbers stand for. -/
def call (handle : Nat → Handle) : NamedCall → Call
  | int value => .int value
  | pair => .pair
  | pushRoot k => .pushRoot (handle k)
  | popRoot => .popRoot
  | setHead p v => .setHead (handle p) (handle v)
  | setTail p v => .setTail (handle p) (handle v)

end NamedCall

/-- A call that belongs to a program, or a collection beside it. -/
inductive Move where
  | call (op : NamedCall)
  | collect
deriving DecidableEq, Repr

/-- The call of a move, if it belongs to the program. -/
def Move.op? : Move → Option NamedCall
  | call op => some op
  | collect => none

/-- The program of moves: they without the collections beside it. -/
def Move.program (moves : List Move) : List NamedCall := moves.filterMap Move.op?

/-- A context and the handles of its allocations. -/
structure Client where
  context : Context
  allocated : List Handle := []

namespace Client

/-- The handle that a number stands for. -/
def handle (a : Client) (k : Nat) : Handle := a.allocated[k]?.getD default

/-- What a call comes to. -/
def result (a : Client) (op : NamedCall) : Except Error (Option Handle) :=
  (a.context.perform (op.call a.handle)).result

/-- The handle that a call gives, if it gives one. -/
def given : Except Error (Option Handle) → List Handle
  | .ok h => h.toList
  | .error _ => []

/-- The client after a call. -/
def perform (a : Client) (op : NamedCall) : Client where
  context := (a.context.perform (op.call a.handle)).context
  allocated := a.allocated ++ given (a.result op)

/-- The client with another context. -/
def withContext (a : Client) (context : Context) : Client := { a with context }

/-- The client after a move. -/
def move (a : Client) : Move → Client
  | .call op => a.perform op
  | .collect => a.withContext a.context.collect.context

/-- The client after moves. -/
def moveAll (a : Client) (moves : List Move) : Client := moves.foldl move a

/-- What the calls among moves come to, one after the other. -/
def results (a : Client) : List Move → List (Except Error (Option Handle))
  | [] => []
  | .call op :: moves => a.result op :: (a.perform op).results moves
  | .collect :: moves => (a.move .collect).results moves

/-- The operands of a call are allocated, and the roots reach them. -/
def Holds (a : Client) (op : NamedCall) : Prop :=
  ∀ k ∈ op.operands, ∃ h, a.allocated[k]? = some h ∧ a.context.Reaches h

/-- The operands of each call are allocated and reached when it is made. -/
def HoldsAll (a : Client) : List Move → Prop
  | [] => True
  | .call op :: moves => a.Holds op ∧ (a.perform op).HoldsAll moves
  | .collect :: moves => (a.move .collect).HoldsAll moves

/-- A client knows every live object by one number, and what it knows is live or spent. -/
structure Numbered (config : Config) (a : Client) : Prop where
  sound : a.context.Sound config
  nodup : a.allocated.Nodup
  issued : ∀ h ∈ a.allocated, a.context.contains h = true ∨ a.context.Spent h
  mem : ∀ h, a.context.contains h = true → h ∈ a.allocated

section
variable {config : Config} {a : Client} {c d : Context} {call : Call} {h : Handle}
  {result : Except Error (Option Handle)}

/-! ## What a client knows -/

/-- A client of a new context knows nothing. -/
theorem numbered_start (hc : ofConfig config = .ok c) : Numbered config { context := c } where
  sound := (Arises.start hc).sound
  nodup := List.nodup_nil
  issued _ hmem := absurd hmem List.not_mem_nil
  mem h hh := by
    obtain ⟨-, rfl⟩ := ofConfig_eq_ok.1 hc
    cases hh

/-- The roots reach known objects only. -/
theorem Numbered.mem_of_reaches (ha : a.Numbered config) (hr : a.context.Reaches h) :
    h ∈ a.allocated :=
  ha.mem h (ha.sound.contains_of_reaches hr)

/-- The next handle is not known yet. -/
theorem Numbered.nextHandle_not_mem (ha : a.Numbered config) :
    a.context.heap.nextHandle ∉ a.allocated := by
  intro hmem
  rcases ha.issued _ hmem with hlive | hspent
  · exact ha.sound.ne_nextHandle hlive rfl
  · exact Heap.not_spent_nextHandle _ hspent

/-- A client knows what is live after a collection. -/
theorem Numbered.cycle (ha : a.Numbered config) :
    (a.withContext a.context.cycle.2).Numbered config where
  sound := ha.sound.cycle
  nodup := ha.nodup
  issued h hmem := by
    rcases ha.issued h hmem with hlive | hspent
    · by_cases hr : a.context.Reaches h
      · exact .inl (ha.sound.contains_cycle.2 hr)
      · exact .inr (ha.sound.spent_cycle hlive hr)
    · exact .inr (Heap.spent_collect hspent)
  mem h hh := ha.mem_of_reaches (ha.sound.contains_cycle.1 hh)

/-- What is live after an effect of a call was so before, or it is given by the call. -/
theorem contains_or_given (he : Effect c call result d) (hs : c.Sound config)
    (hh : d.contains h = true) : c.contains h = true ∨ h ∈ given result := by
  cases he with
  | refused | collected | rooted | unrooted => exact .inl hh
  | placed hmade hheap hlength =>
    obtain ⟨o, ho⟩ := contains_iff.1 hh
    rw [hs.object?_placed hheap] at ho
    split at ho
    · next heq => exact .inr (by simp [given, heq])
    · exact .inl (contains_iff.2 ⟨o, ho⟩)
  | headSet hv hp | tailSet hv hp =>
    exact .inl ((contains_withObject (contains_iff.2 ⟨_, hp⟩) _).symm.trans hh)

/-- What a call gives is live after it. -/
theorem contains_of_given (he : Effect c call result d) (hs : c.Sound config)
    (hh : h ∈ given result) : d.contains h = true := by
  obtain ⟨h', hok, hmem⟩ : ∃ h', result = .ok h' ∧ h ∈ h'.toList := by
    cases result with
    | error e => cases hh
    | ok h' => exact ⟨h', rfl, hh⟩
  rw [Option.mem_toList] at hmem
  obtain ⟨object, -, -, ho⟩ := he.object?_of_ok hs (hmem ▸ hok)
  exact contains_iff.2 ⟨object, ho⟩

/-- A client knows what is live after an effect of a call. -/
theorem Numbered.effect (ha : a.Numbered config) (he : Effect a.context call result d) :
    ({ context := d, allocated := a.allocated ++ given result } : Client).Numbered config where
  sound := he.sound ha.sound
  nodup := by
    show (a.allocated ++ given result).Nodup
    cases he with
    | placed =>
      rw [given, Option.toList_some, ← List.concat_eq_append]
      exact List.Nodup.concat ha.nextHandle_not_mem ha.nodup
    | refused | collected | rooted | unrooted | headSet | tailSet =>
      simpa [given] using ha.nodup
  issued h hmem := by
    rcases List.mem_append.1 hmem with hmem | hmem
    · rcases ha.issued h hmem with hlive | hspent
      · exact .inl (he.contains ha.sound hlive)
      · exact .inr (he.spent ha.sound hspent)
    · exact .inl (contains_of_given he ha.sound hmem)
  mem h hh := by
    rcases contains_or_given he ha.sound hh with hlive | hmem
    · exact List.mem_append_left _ (ha.mem h hlive)
    · exact List.mem_append_right _ hmem

/-- A client knows what is live after a call. -/
theorem Numbered.perform (ha : a.Numbered config) (op : NamedCall) :
    (a.perform op).Numbered config := by
  rcases ha.sound.perform_cases (op.call a.handle) with ⟨-, he⟩ | ⟨-, he⟩
  · exact ha.effect he
  · exact ha.cycle.effect he

end

end Client

end RootedHeap
