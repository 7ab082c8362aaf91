import RootedHeap.Console.Pattern.Reader
import RootedHeap.Event
import RootedHeap.Text.Basic
import RootedHeap.Text.Classes

/-!
# Directives of a log filter

A `Directive` says from which level on some events are printed. It is written as a target, in
brackets the name of a span and in braces a field, and after `=` a level; each part may be missing,
and a level may stand alone (`Directive.ofString`). Where several directives are about an event,
the one with the longest target decides, and then one with a field (`Directive.yieldsTo`).

A directive is read with an eye on two texts. The marks between its parts are looked for in the text
without the blanks around it, but the parts are cut out of the text with those blanks, at the same
bytes. So a blank before a directive shifts its parts, and may put a cut within a character.
-/

namespace RootedHeap.Console

/-- What an event has to have, its target apart, for a directive to be about it. -/
inductive Scope where
  /-- Nothing. -/
  | anywhere
  /-- A field of this name. -/
  | field (name : String)
  /-- A span around it. There are no spans here. -/
  | span
deriving DecidableEq, Repr

namespace Scope

/-- Whether an event has what it has to have. -/
def contains (e : Event) : Scope → Bool
  | anywhere => true
  | field name => e.hasField name
  | span => false

/-- The name of the field that is asked for, or nothing. -/
def fieldName : Scope → String
  | field name => name
  | anywhere | span => ""

end Scope

/-- The least level that is printed of some events, or none at all. -/
structure Directive where
  /-- What the targets of the events start with. -/
  target : String := ""
  scope : Scope := .anywhere
  least : Option Level
deriving DecidableEq, Repr

/-- Why a directive cannot be read. -/
inductive DirectiveFault where
  /-- It has not the form of one. -/
  | malformed
  /-- A part of it would have to be cut within a character. -/
  | torn
deriving DecidableEq, Repr

namespace Directive

/-- Whether the directive is about an event. -/
def covers (d : Directive) (e : Event) : Bool :=
  d.target.toList.isPrefixOf e.target.toList && d.scope.contains e

/-- Whether the directive lets a level through. -/
def passes (d : Directive) (level : Level) : Bool :=
  d.least.any fun least => least.rank ≤ level.rank

/-- Whether a directive leaves an event to another which is about it as well, and is given later. -/
def yieldsTo (d later : Directive) : Bool :=
  d.target.length < later.target.length ||
    (d.target.length = later.target.length && !(later.scope.fieldName < d.scope.fieldName))

/-! ## Levels and fields -/

/-- The number that a text stands for, if it is one: a `+` may stand before its digits. -/
def number? (cs : List Char) : Option Nat :=
  let digits := match cs with
    | '+' :: ds => ds
    | ds => ds
  if digits.isEmpty || !digits.all Char.isDigit then none else some (Text.digitsValue digits)

/-- The level that a name or number stands for, `off` being none. -/
def level? (cs : List Char) : Option (Option Level) :=
  match number? cs with
  | some n => [none, some .error, some .warn, some .info, some .debug, some .trace][n]?
  | none =>
    match String.ofList (cs.map Char.toLower) with
    | "off" => some none
    | "error" => some (some .error)
    | "warn" => some (some .warn)
    | "info" => some (some .info)
    | "debug" => some (some .debug)
    | "trace" => some (some .trace)
    | _ => none

/-- Whether a text is a decimal without a sign: digits with a point among or around them and an
exponent after them, or the name of a number that has no digits. -/
def isDecimal (cs : List Char) : Bool :=
  let lower := cs.map Char.toLower
  let whole := lower.takeWhile Char.isDigit
  let (fraction, rest) := match lower.drop whole.length with
    | '.' :: cs => (cs.takeWhile Char.isDigit, cs.dropWhile Char.isDigit)
    | cs => ([], cs)
  ["inf", "infinity", "nan"].contains (String.ofList lower) ||
    (!(whole ++ fraction).isEmpty && match rest with
      | [] => true
      | 'e' :: '+' :: ds | 'e' :: '-' :: ds | 'e' :: ds => !ds.isEmpty && ds.all Char.isDigit
      | _ => false)

/-- Whether a field can be asked to have a value: a pattern, or a number after a `+`, which would
not be one. -/
def isValue : List Char → Bool
  | '+' :: cs => isDecimal cs
  | cs => isPattern cs

/-- What is asked for by the text between braces: a field, or one with a value. Values are known
only of the fields of spans. What follows a second `=` does not count. -/
def fieldScope? (cs : List Char) : Option Scope :=
  if cs.isEmpty then none
  else match cs.dropWhile (· != '=') with
    | [] => some (.field (String.ofList cs))
    | _ :: value => if isValue (value.takeWhile (· != '=')) then some .span else none

/-! ## Reading -/

/-- A directive while it is read. -/
structure Unread where
  /-- What is left of the text in which marks are looked for. -/
  marks : List Char
  /-- The number of bytes that have been read of that text. -/
  position : Nat := 0
  /-- The text out of which parts are cut. -/
  whole : List Char
deriving DecidableEq, Repr

namespace Unread

/-- A directive of which nothing has been read. -/
def ofString (s : String) : Unread := { marks := Text.trim s.toList, whole := s.toList }

/-- The text from the place that has been reached. -/
def rest (u : Unread) : Except DirectiveFault (List Char) :=
  match Text.cutBytes u.position u.whole with
  | some (_, rest) => .ok rest
  | none => .error .torn

/-- The part before the next of some marks, and the directive from that mark on. -/
def part (u : Unread) (isMark : Char → Bool) : Except DirectiveFault (List Char × Unread) :=
  let before := u.marks.takeWhile (!isMark ·)
  let size := Text.byteLength before
  if before.length = u.marks.length then .error .malformed
  else do
    match Text.cutBytes size (← u.rest) with
    | some (part, _) =>
      return (part, { u with marks := u.marks.drop before.length, position := u.position + size })
    | none => throw .torn

/-- The directive after a mark, if that comes next. -/
def after? (u : Unread) (mark : Char) : Option Unread :=
  match u.marks with
  | c :: marks =>
    if c = mark then some { u with marks, position := u.position + mark.utf8Size } else none
  | [] => none

/-- The directive after a mark, which has to come next. -/
def after (u : Unread) (mark : Char) : Except DirectiveFault Unread :=
  match u.after? mark with
  | some u => .ok u
  | none => .error .malformed

/-- The level at the end of a directive. All levels are printed if there is none after the `=`. -/
def least (u : Unread) : Except DirectiveFault (Option Level) := do
  let name ← u.rest
  if name.isEmpty then return some .trace
  else match level? name with
    | some least => return least
    | none => throw .malformed

/-- The rest of a directive after its brackets. -/
def afterScope (target : String) (scope : Scope) (u : Unread) : Except DirectiveFault Directive :=
  if u.marks.isEmpty then .ok ⟨target, scope, some .trace⟩
  else do return ⟨target, scope, ← (← u.after '=').least⟩

/-- The rest of a directive after the opening bracket. -/
def bracketed (target : String) (u : Unread) : Except DirectiveFault Directive := do
  let (name, u) ← u.part fun c => c = ']' || c = '{'
  match u.after? ']' with
  | some u => u.afterScope target .span
  | none =>
    let (field, u) ← (← u.after '{').part (· = '}')
    match fieldScope? field with
    | none => throw .malformed
    | some scope =>
      let u ← (← u.after '}').after ']'
      u.afterScope target (if name.isEmpty then scope else .span)

end Unread

/-- Whether a target can start with a character. -/
def startsTarget (c : Char) : Bool :=
  Text.isAlphanumeric c || c = '-' || c = ':' || c = '_'

/-- A directive without marks: a level or a target. -/
def ofBare (cs : List Char) : Directive :=
  match level? cs with
  | some least => { least }
  | none => { target := String.ofList cs, least := some .trace }

/-- The directive that is written in a text. -/
def ofString (s : String) : Except DirectiveFault Directive :=
  let u := Unread.ofString s
  match u.marks with
  | [] => .error .malformed
  | '[' :: _ => do (← u.after '[').bracketed ""
  | first :: _ => do
    if !startsTarget first then throw .malformed
    else if !u.marks.any (fun c => c = '=' || c = '[') then return ofBare u.whole
    else
      let (target, u) ← u.part fun c => c = '=' || c = '['
      match u.after? '=' with
      | some u => return ⟨String.ofList target, .anywhere, ← u.least⟩
      | none => (← u.after '[').bracketed (String.ofList target)

end Directive

end RootedHeap.Console
