import RootedHeap.Text.Classes

/-!
# Modes of patterns

Flags in a pattern change how what follows is read. A `Mode` holds those that decide whether a text
is a pattern. In spaced mode there may be gaps in a pattern: blanks, and comments from a `#` to the
end of the line (`Mode.skip`).
-/

namespace RootedHeap.Console.Pattern

/-- How a part of a pattern is read. -/
structure Mode where
  /-- Whether a letter stands for both its cases. -/
  caseless : Bool := false
  /-- Whether the pattern is for bytes and not for characters. -/
  bytes : Bool := false
  /-- Whether there may be gaps. -/
  spaced : Bool := false
deriving DecidableEq, Repr

namespace Mode

/-! ## Flags -/

/-- The mode with a flag set or cleared. Other flags change what a pattern matches, but not what is
one. -/
def withFlag (mode : Mode) (on : Bool) (flag : Char) : Mode :=
  match flag with
  | 'i' => { mode with caseless := on }
  | 'u' => { mode with bytes := !on }
  | 'x' => { mode with spaced := on }
  | _ => mode

/-- The mode with the flags before a `-` set and those after it cleared. -/
def withFlags (mode : Mode) (flags : List Char) : Mode :=
  let set := (flags.takeWhile (· != '-')).foldl (·.withFlag true) mode
  (flags.dropWhile (· != '-')).foldl (·.withFlag false) set

/-- Whether flags can be given together: none is given twice, and a `-` is followed by others. -/
def areFlags (flags : List Char) : Bool :=
  flags.all (['i', 'm', 's', 'U', 'u', 'R', 'x', '-'].contains ·) &&
    flags.all (flags.count · = 1) && flags.getLast? != some '-'

/-! ## Gaps -/

/-- A text without the gap that it starts with, or the rest of one if `inComment`. -/
def skipGap : (inComment : Bool) → List Char → List Char
  | _, [] => []
  | true, c :: cs => skipGap (c != '\n') cs
  | false, c :: cs =>
    if c = '#' then skipGap true cs else if Text.isBlank c then skipGap false cs else c :: cs

/-- A text without the gap that it starts with, if there may be one. -/
def skip (mode : Mode) (cs : List Char) : List Char :=
  if mode.spaced then skipGap false cs else cs

/-- The first character that is not blank, nor a `#` before it. Other than a gap, this does not go
past what is in a comment. -/
def glance (mode : Mode) (cs : List Char) : Option Char :=
  if mode.spaced then
    match cs.dropWhile Text.isBlank with
    | '#' :: cs => (cs.dropWhile Text.isBlank).head?
    | cs => cs.head?
  else cs.head?

end Mode

end RootedHeap.Console.Pattern
