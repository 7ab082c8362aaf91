import RootedHeap.Script.Outcome

/-!
# Sessions

A `Session` is what running operations on a context shows: events and outcomes in the order in which
they arise, up to the first operation that fails. However it ends, the context is destroyed, and the
events of that are shown too.
-/

namespace RootedHeap.Console

/-- One thing that a session shows. -/
inductive Entry where
  | event (e : Event)
  | outcome (o : Script.Outcome)
deriving DecidableEq, Repr

/-- What a session shows, the record of its last collection, and the operation that failed. -/
structure Session where
  entries : List Entry
  last : Cycle
  failure : Option (Script.Op × Error)

/-- Ends a session: the context is destroyed, and what that answers is the last record. -/
def Session.finish (c : Context) (failure : Option (Script.Op × Error)) : Session :=
  let destroyed := Held.destroy ⟨c, false⟩
  ⟨destroyed.events.map .event, destroyed.answer (Held.isOk_destroy _), failure⟩

/-- Runs operations up to the first that fails, and destroys the context. -/
def Session.ofOps (c : Context) : List Script.Op → Session
  | [] => .finish c none
  | op :: ops =>
    let s := c.execute op
    let session := match s.result with
      | .ok outcome =>
        let session := ofOps s.context ops
        { session with entries := .outcome outcome :: session.entries }
      | .error e => .finish s.context (some (op, e))
    { session with entries := s.events.map .event ++ session.entries }

end RootedHeap.Console
