import RootedHeap.Context
import RootedHeap.Script.Op

/-!
# Running operations

`Context.execute` runs one operation of a script: it resolves the slots that the operation names, in
order, and answers with an `Outcome`. Objects are shown as they are after the operation.
-/

namespace RootedHeap

namespace Script

/-- The counts of a context. -/
structure Snapshot where
  live : Nat
  threshold : Nat
  roots : Nat
  collections : Nat
deriving DecidableEq, Repr

/-- What an operation answers. -/
inductive Outcome where
  | allocated (h : Handle) (object : Object)
  | popped (h : Handle)
  | rooted (h : Handle)
  | shown (h : Handle) (object : Object)
  | updated (h : Handle) (object : Object)
  | collected (cycle : Cycle)
  | stats (snapshot : Snapshot)
  | roots (handles : List Handle)
deriving DecidableEq, Repr

end Script

namespace Context

open Script (Op Outcome Snapshot)

/-- The counts of the context. -/
def snapshot (c : Context) : Snapshot :=
  ⟨c.heap.live, c.heap.threshold, c.roots.size, c.collections⟩

/-- Answers with a handle and the object it names. -/
def answer (outcome : Handle → Object → Outcome) (h : Handle) (c : Context) : Step Outcome :=
  c.query ((c.get h).map (outcome h))

/-- Runs a change to a field of the pair in a slot, which is to become the object in another. -/
def executeSet (c : Context) (change : Context → Handle → Handle → Step Unit)
    (target value : UInt64) : Step Outcome :=
  (c.query (c.resolve target.toNat)).bind fun pair c =>
    (c.query (c.resolve value.toNat)).bind fun value c =>
      (change c pair value).bind fun _ c => c.answer .updated pair

/-- Runs one operation. -/
def execute (c : Context) : Op → Step Outcome
  | .int value => (c.pushInt value).bind (answer .allocated)
  | .pair => c.pushPair.bind (answer .allocated)
  | .pop => c.popRoot.bind fun h c => c.query (.ok (.popped h))
  | .push slot =>
    (c.query (c.resolve slot.toNat)).bind fun h c =>
      (c.pushRoot h).bind fun _ c => c.query (.ok (.rooted h))
  | .inspect slot => (c.query (c.resolve slot.toNat)).bind (answer .shown)
  | .setHead target value => c.executeSet setHead target value
  | .setTail target value => c.executeSet setTail target value
  | .collect => c.collect.bind fun cycle c => c.query (.ok (.collected cycle))
  | .stats => c.query (.ok (.stats c.snapshot))
  | .roots => c.query (.ok (.roots c.roots.toList))

/-- Runs operations up to the first that fails. -/
def executeAll (c : Context) : List Op → Step Unit
  | [] => c.query (.ok ())
  | op :: ops => (c.execute op).bind fun _ c => c.executeAll ops

end Context

end RootedHeap
