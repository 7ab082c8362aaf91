import RootedHeap.Console.Pattern.Mode
import RootedHeap.Text.Basic

/-!
# Atoms of patterns

An `Atom` is a character or what a backslash makes of one. Whether it is allowed depends on the
mode. Properties of characters are not known here, so that atoms which need them are refused: to
ignore case takes them, as do the edges of words, unless the pattern is for bytes. A pattern for
bytes has to match whole characters all the same.
-/

namespace RootedHeap.Console.Pattern

/-- A part of a pattern that matches one character or a place. -/
inductive Atom where
  | char (c : Char)
  /-- A byte by its number. It is the character of that number, unless the pattern is for bytes. -/
  | byte (c : Char)
  /-- The digits, blanks or word characters, or all others. -/
  | property (negated : Bool)
  /-- A place at the edge of a word or away from one. -/
  | wordEdge
  /-- A place at the start or the end of the text. -/
  | textEdge
deriving DecidableEq, Repr

namespace Atom

/-- Whether one character that is given can be matched. -/
def allowsListed (mode : Mode) : Bool := !mode.caseless || mode.bytes

/-- Whether an atom can stand in a pattern outside classes. -/
def isAllowed (mode : Mode) : Atom → Bool
  | char _ => allowsListed mode
  | byte c => allowsListed mode && (!mode.bytes || c.toNat < 128)
  | property negated => mode.bytes && !negated
  | wordEdge => mode.bytes
  | textEdge => true

/-- Whether an atom can stand in a class. -/
def isAllowedInClass (mode : Mode) : Atom → Bool
  | char c | byte c => allowsListed mode && (!mode.bytes || c.toNat < 128)
  | property negated => mode.bytes && !negated
  | wordEdge | textEdge => false

/-- The character of an atom that is one. -/
def toChar? : Atom → Option Char
  | char c | byte c => some c
  | property _ | wordEdge | textEdge => none

/-! ## Escapes -/

/-- The atom of one character after a backslash. -/
def ofEscape? (c : Char) : Option Atom :=
  match c with
  | 'd' | 's' | 'w' => some (property false)
  | 'D' | 'S' | 'W' => some (property true)
  | 'b' | 'B' | '<' | '>' => some wordEdge
  | 'A' | 'z' => some textEdge
  | 'a' => some (char '\x07')
  | 't' => some (char '\t')
  | 'n' => some (char '\n')
  | 'v' => some (char '\x0b')
  | 'f' => some (char '\x0c')
  | 'r' => some (char '\r')
  | _ => if c.toNat < 128 && !c.isAlphanum then some (char c) else none

/-- The characters after gaps, `n` of them, and what follows them and one more gap. -/
def spread (mode : Mode) : (n : Nat) → List Char → Option (List Char × List Char)
  | 0, cs => some ([], mode.skip cs)
  | n + 1, cs =>
    match mode.skip cs with
    | [] => none
    | c :: cs => (spread mode n cs).map fun (taken, rest) => (c :: taken, rest)

/-- The character whose code point is written in `n` digits, and what follows them. -/
def readCodePoint (mode : Mode) (n : Nat) (cs : List Char) : Option (Char × List Char) := do
  let (digits, rest) ← spread mode n cs
  let code ← Text.hexValue? digits
  if code.isValidChar then return (Char.ofNat code, rest) else none

/-- The atom after a backslash, and what follows it. -/
def readEscape (mode : Mode) : List Char → Option (Atom × List Char)
  | [] => none
  | 'x' :: cs => (readCodePoint mode 2 cs).map fun (c, rest) => (byte c, rest)
  | 'u' :: cs => (readCodePoint mode 4 cs).map fun (c, rest) => (char c, rest)
  | 'U' :: cs => (readCodePoint mode 8 cs).map fun (c, rest) => (char c, rest)
  | c :: cs => (ofEscape? c).map fun atom => (atom, cs)

/-- The atom that a character starts, and what follows it. -/
def read (mode : Mode) (first : Char) (cs : List Char) : Option (Atom × List Char) :=
  if first = '\\' then readEscape mode cs else some (char first, cs)

end Atom

end RootedHeap.Console.Pattern
