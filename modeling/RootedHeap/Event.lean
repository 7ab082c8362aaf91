import RootedHeap.Heap.Basic
import RootedHeap.RootStack

/-!
# Events

What a context reports while it works: why a collection starts, what it did, that the context is
released, and that a root stack operation was refused. An `Event` has a level, a target, a message
and fields, by which reports are selected and printed.
-/

namespace RootedHeap

/-- How much an event matters, the least first. -/
inductive Level where
  | trace
  | debug
  | info
  | warn
  | error
deriving DecidableEq, Repr

/-- A number for each level, greater for those that matter more. -/
def Level.rank : Level → Nat
  | trace => 1
  | debug => 2
  | info => 3
  | warn => 4
  | error => 5

/-- One report of a context. -/
inductive Event where
  /-- The live objects have reached the threshold, so a collection comes before the allocation. -/
  | thresholdReached (live threshold : Nat)
  /-- The live objects have reached the cap, so a collection comes before the allocation. -/
  | capReached (live : Nat)
  /-- A collection has ended. -/
  | collected (cycle : Cycle)
  /-- The context has come to its end. -/
  | released
  /-- A root stack operation was refused. -/
  | rootsViolated (e : StackError)
deriving DecidableEq, Repr

namespace Event

/-- The value of a field of an event. -/
inductive Value where
  | number (n : Nat)
  | text (s : String)
deriving DecidableEq, Repr

/-- A value as it is printed. -/
def Value.render : Value → String
  | number n => toString n
  | text s => s

/-- How much an event matters. -/
def level : Event → Level
  | thresholdReached _ _ | capReached _ | released => .debug
  | collected _ => .info
  | rootsViolated _ => .warn

/-- The part of the library that an event belongs to. -/
def target : Event → String
  | rootsViolated _ => "marksweep::stack"
  | _ => "marksweep::gc"

/-- The sentence of an event. -/
def message : Event → String
  | thresholdReached _ _ => "threshold reached, collecting before allocation"
  | capReached _ => "object cap reached, collecting before allocation"
  | collected cycle =>
    "collected " ++ toString cycle.reclaimed ++ " objects, " ++ toString cycle.remaining ++
      " remaining"
  | released => "context released"
  | rootsViolated _ => "root stack discipline violated"

/-- The fields of an event, in order. -/
def fields : Event → List (String × Value)
  | thresholdReached live threshold => [("live", .number live), ("threshold", .number threshold)]
  | capReached live => [("live", .number live)]
  | collected cycle =>
    [("reclaimed", .number cycle.reclaimed), ("remaining", .number cycle.remaining),
      ("threshold", .number cycle.threshold)]
  | released => []
  | rootsViolated e => [("error", .text e.message)]

/-- Whether an event has a field of a name; its sentence counts as the field `message`. -/
def hasField (e : Event) (name : String) : Bool :=
  name = "message" || e.fields.any (·.1 = name)

end Event

end RootedHeap
