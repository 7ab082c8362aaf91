import RootedHeap.Error
import RootedHeap.Event

/-!
# Contexts

A `Context` is a heap with the root stack that keeps its objects alive. Allocation roots the new
object at once; before it, a collection runs if the threshold or the cap is reached
(`Context.makeRoom`), while the operands of the allocation are still rooted. Every operation is a
`Step`: its result, the context after it and the events on the way, whether it succeeds or not. An
operation that is refused leaves the context as it was, except that an allocation may have run a
collection before it finds the heap exhausted. Whoever holds a context brings it to its end, by
asking for its last record (`Held.destroy`) or by letting go of it (`Held.drop`).
-/

namespace RootedHeap

/-- A heap and its roots, with the number of collections so far and the record of the last one. -/
structure Context where
  config : Config
  roots : RootStack
  heap : Heap
  collections : Nat := 0
  last : Option Cycle := none
deriving DecidableEq, Repr

/-- What an operation on a context comes to. -/
structure Step (α : Type) where
  result : Except Error α
  context : Context
  events : List Event := []

namespace Step

/-- An operation and then, if it succeeds, another on the context it leaves. -/
def bind {α β : Type} (s : Step α) (next : α → Context → Step β) : Step β :=
  match s with
  | ⟨.error e, c, events⟩ => ⟨.error e, c, events⟩
  | ⟨.ok a, c, events⟩ =>
    let t := next a c
    ⟨t.result, t.context, events ++ t.events⟩

/-- What an operation that succeeds answers. -/
def answer {α : Type} (s : Step α) (hs : s.result.isOk = true) : α :=
  match s.result, hs with
  | .ok a, _ => a

end Step

namespace Context

/-- A context without objects or roots, for a configuration that is valid. -/
def empty (config : Config) : Context :=
  { config
    roots := .empty config.stackMax
    heap := .empty config.initialThreshold.toNat (config.maxObjects.map UInt64.toNat) }

/-- A context without objects or roots, if the configuration is valid. -/
def ofConfig (config : Config) : Except ConfigError Context := do
  config.validate
  return .empty config

/-! ## Queries -/

/-- Whether a handle names a live object. -/
def contains (c : Context) (h : Handle) : Bool := c.heap.contains h

/-- The object that a handle names. -/
def get (c : Context) (h : Handle) : Except Error Object :=
  match c.heap.object? h with
  | some object => .ok object
  | none => .error (.heap (.dangling h.index))

/-- The handle of the object in a slot. -/
def resolve (c : Context) (slot : Nat) : Except Error Handle :=
  match c.heap.resolve? slot with
  | some h => .ok h
  | none => .error (.heap (.dangling slot))

/-- The top root. -/
def peekRoot (c : Context) : Except Error Handle := c.roots.peek.mapError .stack

/-- A query as an operation. -/
def query {α : Type} (c : Context) (result : Except Error α) : Step α := ⟨result, c, []⟩

/-! ## Collection -/

/-- The context after a collection, and its record. -/
def cycle (c : Context) : Cycle × Context :=
  let (cycle, heap) := c.heap.collect c.roots.toList
  (cycle, { c with heap, collections := c.collections + 1, last := some cycle })

/-- Runs a collection. -/
def collect (c : Context) : Step Cycle :=
  let (cycle, c) := c.cycle
  ⟨.ok cycle, c, [.collected cycle]⟩

/-- What makes a collection due before an allocation, if anything does. -/
def trigger? (c : Context) : Option Event :=
  if c.heap.shouldCollect then some (.thresholdReached c.heap.live c.heap.threshold)
  else if c.heap.isFull then some (.capReached c.heap.live)
  else none

/-- Runs a collection if one is due before an allocation. -/
def makeRoom (c : Context) : Context × List Event :=
  match c.trigger? with
  | none => (c, [])
  | some trigger =>
    let (cycle, c) := c.cycle
    (c, [trigger, .collected cycle])

/-- The context after every root is dropped and a collection is run, and the record of that. -/
def finalCycle (c : Context) : Cycle × Context := { c with roots := c.roots.clear }.cycle

/-- Brings the context to its end: no object outlives it. -/
def release (c : Context) : Step Cycle :=
  let (cycle, c) := c.finalCycle
  ⟨.ok cycle, c, [.collected cycle, .released]⟩

/-! ## Roots -/

/-- The refusal of a root stack operation. -/
def refuse {α : Type} (c : Context) (e : StackError) : Step α :=
  ⟨.error (.stack e), c, [.rootsViolated e]⟩

/-- Roots a live object. -/
def pushRoot (c : Context) (h : Handle) : Step Unit :=
  if c.contains h then
    match c.roots.push h with
    | .error e => c.refuse e
    | .ok roots => ⟨.ok (), { c with roots }, []⟩
  else
    ⟨.error (.heap (.dangling h.index)), c, []⟩

/-- Takes the top root off. -/
def popRoot (c : Context) : Step Handle :=
  match c.roots.pop with
  | .error e => c.refuse e
  | .ok (h, roots) => ⟨.ok h, { c with roots }, []⟩

/-! ## Allocation -/

/-- Puts an object into the heap and its handle on top of the given roots. -/
def allocate (c : Context) (object : Object) (roots : RootStack) : Step Handle :=
  match c.heap.alloc object with
  | (.error e, heap) => ⟨.error (.heap e), { c with heap }, []⟩
  | (.ok h, heap) =>
    match roots.push h with
    | .error e => ⟨.error (.stack e), { c with heap }, []⟩
    | .ok roots => ⟨.ok h, { c with heap, roots }, []⟩

/-- Runs an allocation: first it is looked at whether the roots allow it, then a collection runs if
one is due, and then the object takes its place. -/
def allocating (c : Context) (check : Except StackError Unit) (place : Context → Step Handle) :
    Step Handle :=
  match check with
  | .error e => c.refuse e
  | .ok () =>
    let (c, events) := c.makeRoom
    let s := place c
    { s with events := events ++ s.events }

/-- Puts an integer into the heap and roots it, with no collection before. -/
def placeInt (c : Context) (value : Int32) : Step Handle := c.allocate (.scalar value) c.roots

/-- Puts a pair of the two topmost roots, the top one being its tail, into the heap and roots it in
their place, with no collection before. -/
def placePair (c : Context) : Step Handle :=
  match c.roots.pop with
  | .error e => ⟨.error (.stack e), c, []⟩
  | .ok (tail, roots) =>
    match roots.pop with
    | .error e => ⟨.error (.stack e), c, []⟩
    | .ok (head, roots) => c.allocate (.pair head tail) roots

/-- Allocates an integer and roots it. -/
def pushInt (c : Context) (value : Int32) : Step Handle :=
  c.allocating c.roots.ensureRoom (·.placeInt value)

/-- Allocates a pair of the two topmost roots, the top one being its tail, and roots it in their
place. -/
def pushPair (c : Context) : Step Handle := c.allocating (c.roots.require 2) placePair

/-! ## Fields -/

/-- Makes `value` the head of a pair. -/
def setHead (c : Context) (pair value : Handle) : Step Unit :=
  let (result, heap) := c.heap.setHead pair value
  ⟨result.mapError .heap, { c with heap }, []⟩

/-- Makes `value` the tail of a pair. -/
def setTail (c : Context) (pair value : Handle) : Step Unit :=
  let (result, heap) := c.heap.setTail pair value
  ⟨result.mapError .heap, { c with heap }, []⟩

end Context

/-! ## The end of a context -/

/-- A context in the hands of its owner, and whether it has been released already. -/
structure Held where
  context : Context
  released : Bool := false

namespace Held

/-- Lets go of a context: it is released unless that has been done before. -/
def drop (held : Held) : Step Unit :=
  if held.released then held.context.query (.ok ())
  else held.context.release.bind fun _ c => c.query (.ok ())

/-- Releases a context for its last record, and lets go of it. -/
def destroy (held : Held) : Step Cycle :=
  held.context.release.bind fun record c =>
    (drop ⟨c, true⟩).bind fun _ c => c.query (.ok record)

/-- To destroy a context does not fail. -/
theorem isOk_destroy (held : Held) : held.destroy.result.isOk = true := rfl

end Held

end RootedHeap
