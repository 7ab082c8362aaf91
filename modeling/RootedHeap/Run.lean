import RootedHeap.Script.Outcome
import RootedHeap.Script.Parser

/-!
# Running a script

`run` takes a script through all its stages on a context of its own: its form, the configuration,
then the operations. The first error of these is the answer. A context on which an operation has
failed is let go of at once; one on which all succeed is handed out.
-/

namespace RootedHeap

/-- What running a script comes to, and the events on the way. -/
structure Run where
  result : Except Error Context
  events : List Event

/-- Runs a script on a new context. -/
def run (source : String) (config : Config) : Run :=
  match Script.parse source with
  | .error e => ⟨.error (.script e), []⟩
  | .ok ops =>
    match Context.ofConfig config with
    | .error e => ⟨.error (.config e), []⟩
    | .ok c =>
      let s := c.executeAll ops
      match s.result with
      | .ok () => ⟨.ok s.context, s.events⟩
      | .error e => ⟨.error e, s.events ++ (Held.drop ⟨s.context, false⟩).events⟩

end RootedHeap
