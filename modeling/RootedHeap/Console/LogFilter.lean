import RootedHeap.Console.Directive

/-!
# Which events are printed

A `LogFilter` is a list of directives. Of those that are about an event one decides whether it is
printed (`LogFilter.deciding?`); an event that none is about is not printed (`LogFilter.admits`). A
filter is written as directives between commas.
-/

namespace RootedHeap.Console

/-- The directives of a filter. -/
structure LogFilter where
  directives : List Directive
deriving DecidableEq, Repr

namespace LogFilter

/-- The filter that prints one level and those above it for every target. -/
def global (least : Level) : LogFilter := ⟨[{ least := some least }]⟩

/-- The filter for a setting: the default for none or for one with a malformed directive, and errors
only for an empty one. There is no filter if a directive before any malformed one is torn. -/
def ofSetting? : Option String → Option LogFilter
  | none => some (global .info)
  | some setting =>
    let parts := (setting.splitOn ",").filter (· != "")
    match parts.mapM Directive.ofString with
    | .error .torn => none
    | .error .malformed => some (global .info)
    | .ok [] => some (global .error)
    | .ok directives => some ⟨directives⟩

/-- The directive that decides about an event, of those that are about it. -/
def deciding? (filter : LogFilter) (e : Event) : Option Directive :=
  (filter.directives.filter (·.covers e)).foldl
    (fun best d =>
      match best with
      | some b => if b.yieldsTo d then some d else best
      | none => some d)
    none

/-- Whether an event is printed. -/
def admits (filter : LogFilter) (e : Event) : Bool :=
  (filter.deciding? e).any (·.passes e.level)

end LogFilter

end RootedHeap.Console
