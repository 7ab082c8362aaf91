import RootedHeap.Console.Pattern.Atom
import RootedHeap.Text.Classes

/-!
# Patterns for values

A directive of a log filter may ask for values that match a pattern: characters, classes of them in
brackets, groups, alternatives, and repetition by `*`, `+` or `?` of what stands before. No event of
this program is ever matched, so all that counts is whether a text is a pattern (`isPattern`).

A `Reader` goes through a text part by part and keeps what is still open, groups and classes. Parts
may be nested up to a limit only, so it also keeps how deep they are (`Parts.depth`). Numbers of
repetitions cannot be given: braces are marks of the filter.
-/

namespace RootedHeap.Console

namespace Pattern

/-! ## Depth -/

/-- Parts in a row. -/
structure Parts where
  count : Nat := 0
  /-- The greatest depth of a part. -/
  deepest : Nat := 0
  /-- The depth of the last part, if that can be repeated. -/
  last? : Option Nat := none
deriving DecidableEq, Repr

namespace Parts

/-- The parts and one more. -/
def add (parts : Parts) (depth : Nat) : Parts :=
  ⟨parts.count + 1, max parts.deepest depth, some depth⟩

/-- The parts and flags, which count as a part but cannot be repeated. -/
def addFlags (parts : Parts) : Parts := ⟨parts.count + 1, parts.deepest, none⟩

/-- The parts with the last one repeated. -/
def repeat? (parts : Parts) : Option Parts :=
  parts.last?.map fun depth =>
    { parts with deepest := max parts.deepest (depth + 1), last? := some (depth + 1) }

/-- The depth of the row, which is a level of its own if it has several parts. -/
def depth (parts : Parts) : Nat :=
  if 2 ≤ parts.count then parts.deepest + 1 else parts.deepest

end Parts

/-- The depth of a row of alternatives or operands, given that of those before the last one, if
there are any. -/
def joinedDepth (before? : Option Nat) (last : Nat) : Nat :=
  match before? with
  | some before => max before last + 1
  | none => last

/-- A group, or the whole pattern, up to a place in it. -/
structure Group where
  /-- The greatest depth of the alternatives that are complete, if there are any. -/
  before? : Option Nat := none
  parts : Parts := {}
deriving DecidableEq, Repr

/-- The depth of what is in a group. -/
def Group.depth (g : Group) : Nat := joinedDepth g.before? g.parts.depth

/-- A class up to a place in it. An operator combines all that is before it with what follows. -/
structure Class where
  /-- The depth of the operands that are complete, if there are any. -/
  before? : Option Nat := none
  parts : Parts := {}
  /-- Whether only the start has been read, where `-` and a first `]` stand for themselves. -/
  atStart : Bool := true
deriving DecidableEq, Repr

/-- The depth of what is in a class. -/
def Class.depth (k : Class) : Nat := joinedDepth k.before? k.parts.depth

/-- The class after an operator. -/
def Class.operate (k : Class) : Class := { before? := some k.depth, atStart := false }

/-- What is known of a pattern at a place in it. -/
structure Reader where
  rest : List Char
  mode : Mode := {}
  group : Group := {}
  /-- The groups around that one, from the inside out, and the modes to return to in them. -/
  outer : List (Mode × Group) := []
  /-- The classes that are open, from the inside out. -/
  classes : List Class := []
  /-- The names of groups so far. -/
  names : List (List Char) := []
deriving DecidableEq, Repr

namespace Reader

/-- The reader after one more part of the group. -/
def add (r : Reader) (depth : Nat) (rest : List Char) : Reader :=
  { r with rest, group := { r.group with parts := r.group.parts.add depth } }

/-- The reader after a part of the group that has no parts itself, if it is allowed. -/
def addIf (r : Reader) (allowed : Bool) (rest : List Char) : Option Reader :=
  if allowed then some (r.add 0 rest) else none

/-! ## Groups -/

/-- The reader at the start of a group. -/
def openGroup (r : Reader) (mode : Mode) (rest : List Char) : Reader :=
  { r with rest, mode, group := {}, outer := (r.mode, r.group) :: r.outer }

/-- The reader after the end of a group. -/
def closeGroup? (r : Reader) (rest : List Char) : Option Reader :=
  match r.outer with
  | [] => none
  | (mode, group) :: outer => some ({ r with mode, group, outer }.add (r.group.depth + 1) rest)

/-- The reader after an alternative. -/
def startAlternative (r : Reader) (rest : List Char) : Reader :=
  { r with rest, group := ⟨some (max (r.group.before?.getD 0) r.group.parts.depth), {}⟩ }

/-- Whether a text can be the name of a group. -/
def isName : List Char → Bool
  | [] => false
  | c :: cs =>
    (c = '_' || Text.isLetter c) &&
      cs.all fun c => c = '_' || c = '.' || c = '[' || c = ']' || Text.isAlphanumeric c

/-- The reader after the name of a group. No two groups have one name. -/
def readName (r : Reader) (cs : List Char) : Option Reader :=
  let name := cs.takeWhile (· != '>')
  match cs.dropWhile (· != '>') with
  | '>' :: rest =>
    if isName name && !r.names.contains name then
      some ({ r with names := name :: r.names }.openGroup r.mode rest)
    else none
  | _ => none

/-- The reader after flags. They are for a group after a colon, and else for what is left of the
group around them. -/
def readFlags (r : Reader) (cs : List Char) : Option Reader :=
  let flags := cs.takeWhile fun c => c != ':' && c != ')'
  let mode := r.mode.withFlags flags
  if Mode.areFlags flags then
    match cs.drop flags.length with
    | ':' :: rest => some (r.openGroup mode rest)
    | ')' :: rest =>
      if flags.isEmpty then none
      else some { r with rest, mode, group := { r.group with parts := r.group.parts.addFlags } }
    | _ => none
  else none

/-- The reader after an opening parenthesis and what belongs to it. -/
def readOpening (r : Reader) (cs : List Char) : Option Reader :=
  match r.mode.skip cs with
  | '?' :: 'P' :: '<' :: cs | '?' :: '<' :: cs => r.readName cs
  | '?' :: cs => r.readFlags cs
  | cs => some (r.openGroup r.mode cs)

/-! ## Classes -/

/-- The reader at the start of a class. To match all other characters takes those to be known. -/
def openClass (r : Reader) (cs : List Char) : Option Reader :=
  match r.mode.skip cs with
  | '^' :: rest => if r.mode.bytes then none else some { r with rest, classes := {} :: r.classes }
  | rest => some { r with rest, classes := {} :: r.classes }

/-- The reader after one more part of the innermost class. -/
def addToClass (r : Reader) (k : Class) (outer : List Class) (depth : Nat) (rest : List Char) :
    Reader :=
  { r with rest, classes := { k with parts := k.parts.add depth, atStart := false } :: outer }

/-- The reader after the end of the innermost class. -/
def closeClass (r : Reader) (k : Class) (outer : List Class) (rest : List Char) : Reader :=
  match outer with
  | [] => { r with classes := [] }.add (k.depth + 1) rest
  | parent :: outer => r.addToClass parent outer (k.depth + 1) rest

/-- The names of classes. -/
def classNames : List String :=
  ["alnum", "alpha", "ascii", "blank", "cntrl", "digit", "graph", "lower", "print", "punct",
    "space", "upper", "word", "xdigit"]

/-- The rest of a text after the name of a class between colons and a bracket, the opening one
being read, and whether all other characters are meant. -/
def namedClass? (cs : List Char) : Option (Bool × List Char) :=
  match cs with
  | ':' :: cs =>
    let (negated, cs) := match cs with
      | '^' :: cs => (true, cs)
      | cs => (false, cs)
    match cs.dropWhile (· != ':') with
    | ':' :: ']' :: rest =>
      if classNames.contains (String.ofList (cs.takeWhile (· != ':'))) then some (negated, rest)
      else none
    | _ => none
  | _ => none

/-- The reader after an opening bracket in a class: of a class by name, or of any class. -/
def readNested (r : Reader) (k : Class) (outer : List Class) (cs : List Char) : Option Reader :=
  match namedClass? cs with
  | some (negated, rest) =>
    if Atom.allowsListed r.mode && !(r.mode.bytes && negated) then
      some (r.addToClass k outer 0 rest)
    else none
  | none => { r with classes := { k with atStart := false } :: outer }.openClass cs

/-- The reader after an atom of a class, or a range from one to another. A `-` before the closing
bracket or another `-` makes no range. -/
def readRange (r : Reader) (k : Class) (outer : List Class) (first : Char) (cs : List Char) :
    Option Reader := do
  let (low, cs) ← Atom.read r.mode first cs
  match r.mode.skip cs with
  | '-' :: after =>
    if r.mode.glance after = some ']' || r.mode.glance after = some '-' then
      if low.isAllowedInClass r.mode then some (r.addToClass k outer 0 ('-' :: after)) else none
    else match r.mode.skip after with
      | [] => none
      | c :: cs =>
        let (high, rest) ← Atom.read r.mode c cs
        let lowChar ← low.toChar?
        let highChar ← high.toChar?
        if lowChar ≤ highChar && low.isAllowedInClass r.mode && high.isAllowedInClass r.mode then
          some (r.addToClass k outer 0 rest)
        else none
  | rest => if low.isAllowedInClass r.mode then some (r.addToClass k outer 0 rest) else none

/-- The reader after the next part of the innermost class. -/
def stepInClass (r : Reader) (k : Class) (outer : List Class) (first : Char) (cs : List Char) :
    Option Reader :=
  if k.atStart && (first = '-' || (first = ']' && k.parts.count = 0)) then
    if Atom.allowsListed r.mode then
      some { r.addToClass k outer 0 cs with
        classes := { k with parts := k.parts.add 0, atStart := first = '-' } :: outer }
    else none
  else match first, cs with
    | '[', cs => r.readNested k outer cs
    | ']', cs => some (r.closeClass k outer cs)
    | '&', '&' :: rest | '-', '-' :: rest | '~', '~' :: rest =>
      some { r with rest, classes := k.operate :: outer }
    | first, cs => r.readRange k outer first cs

/-! ## The whole pattern -/

/-- The reader after the repetition of the last part. A `?` right after the sign belongs to it. -/
def readRepetition (r : Reader) (cs : List Char) : Option Reader := do
  let parts ← r.group.parts.repeat?
  let rest := match cs with
    | '?' :: rest => rest
    | rest => rest
  return { r with rest, group := { r.group with parts } }

/-- The reader after the next part outside classes. -/
def stepInGroup (r : Reader) (first : Char) (cs : List Char) : Option Reader :=
  match first with
  | '(' => r.readOpening cs
  | ')' => r.closeGroup? cs
  | '|' => some (r.startAlternative cs)
  | '[' => r.openClass cs
  | '*' | '+' | '?' => r.readRepetition cs
  | '{' => none
  | '.' => r.addIf (!r.mode.bytes) cs
  | '^' | '$' => r.addIf true cs
  | first => do
    let (atom, rest) ← Atom.read r.mode first cs
    r.addIf (atom.isAllowed r.mode) rest

/-- The reader after the next part, or after a gap at the end; none if no pattern starts so. -/
def step (r : Reader) : Option Reader :=
  match r.mode.skip r.rest, r.classes with
  | [], _ => some { r with rest := [] }
  | first :: cs, [] => r.stepInGroup first cs
  | first :: cs, k :: outer => r.stepInClass k outer first cs

/-- The reader after `n` parts, or at the end of the text if that comes first. -/
def advance : (n : Nat) → (r : Reader) → Option Reader
  | 0, r => some r
  | n + 1, r => if r.rest.isEmpty then some r else r.step.bind (advance n)

/-- How deep a pattern may be nested. -/
def maxDepth : Nat := 250

/-- Whether a pattern ends here: nothing is left, no group or class is open, and it is not nested
too deep. -/
def isComplete (r : Reader) : Bool :=
  r.rest.isEmpty && r.outer.isEmpty && r.classes.isEmpty && r.group.depth ≤ maxDepth

end Reader

end Pattern

/-- Whether a text is a pattern. It has no more parts than characters. -/
def isPattern (cs : List Char) : Bool :=
  (Pattern.Reader.advance cs.length { rest := cs }).any (·.isComplete)

end RootedHeap.Console
