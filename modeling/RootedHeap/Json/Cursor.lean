import RootedHeap.Text.Basic

/-!
# Places in a JSON text

Diagnostics name a place by its line, from one, and the number of bytes of that line that have been
read. A `Cursor` is a place together with what is left of the text. Many faults are reported one
byte past the cursor, at the byte that gave offence (`Cursor.ahead`).
-/

namespace RootedHeap.Json

/-- A line, and the number of its bytes up to a place in it. -/
structure Position where
  line : Nat := 1
  column : Nat := 0
deriving DecidableEq, Repr

/-- The position after `n` bytes of a text, which may be within a character. -/
def Position.advance (p : Position) (n : Nat) : List Char → Position
  | [] => p
  | c :: cs =>
    if n = 0 then p
    else if c = '\n' then advance ⟨p.line + 1, 0⟩ (n - 1) cs
    else advance ⟨p.line, p.column + min n c.utf8Size⟩ (n - c.utf8Size) cs

/-- A place in a text and the text from there on. -/
structure Cursor where
  rest : List Char
  position : Position := {}
deriving DecidableEq, Repr

namespace Cursor

/-- The start of a text. -/
def ofString (source : String) : Cursor := { rest := source.toList }

/-- The cursor after the next character, if there is one. -/
def next : Cursor → Cursor
  | ⟨[], p⟩ => ⟨[], p⟩
  | ⟨c :: cs, p⟩ => ⟨cs, p.advance c.utf8Size [c]⟩

/-- The cursor after the next `n` characters. -/
def skip (c : Cursor) (n : Nat) : Cursor := Nat.repeat next n c

/-- The position one byte ahead, or here at the end of the text. -/
def ahead (c : Cursor) : Position := c.position.advance 1 c.rest

/-- The position at the end of the text. -/
def finish (c : Cursor) : Position := c.position.advance (Text.byteLength c.rest) c.rest

/-- The characters that may stand between the parts of a JSON text. -/
def isBlank (c : Char) : Bool := c = ' ' || c = '\t' || c = '\n' || c = '\r'

/-- The cursor at the next character that is not blank. -/
def skipBlanks (c : Cursor) : Cursor := c.skip (c.rest.takeWhile isBlank).length

end Cursor

end RootedHeap.Json
