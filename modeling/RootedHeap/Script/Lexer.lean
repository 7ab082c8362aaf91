import RootedHeap.Script.Token
import RootedHeap.Text.Basic

/-!
# From characters to tokens

Between tokens there are gaps: blanks, semicolons, and comments from `//` to the end of the line
(`skipGap`). What kind of lexeme starts at a character is decided by that character, and the lexeme
goes on as long as it can (`continues`). It is one token or one fault (`decode`); a fault points at
the whole lexeme. Positions count UTF-8 bytes.
-/

open RootedHeap.Text (byteLength digitsValue)

namespace RootedHeap.Script

/-- The characters that separate tokens. -/
def isSeparator (c : Char) : Bool :=
  c = ' ' || c = '\t' || c = '\r' || c = '\n' || c = ';'

/-- Skips a gap that starts at byte `pos`, or the rest of one if `inComment`: the position where it
ends, and what follows. -/
def skipGap : (inComment : Bool) → (pos : Nat) → List Char → Nat × List Char
  | _, pos, [] => (pos, [])
  | true, pos, c :: cs =>
    if c = '\n' then skipGap false (pos + 1) cs else skipGap true (pos + c.utf8Size) cs
  | false, pos, '/' :: '/' :: cs => skipGap true (pos + 2) cs
  | false, pos, c :: cs => if isSeparator c then skipGap false (pos + 1) cs else (pos, c :: cs)

/-- The characters that go on with a lexeme that starts with `first`: letters, digits and `_` after
a letter, digits after a digit, `-` or `#`, and none after another character. -/
def continues (first c : Char) : Bool :=
  if first.isAlpha then c.isAlphanum || c = '_'
  else if first.isDigit || first = '-' || first = '#' then c.isDigit
  else false

/-- A slot index that fits 64 bits. -/
def decodeRef (digits : List Char) : Except Fault TokenKind :=
  if digitsValue digits < UInt64.size then .ok (.ref (UInt64.ofNat (digitsValue digits)))
  else .error .slotIndexOutOfRange

/-- An integer that fits 64 bits with its sign. -/
def decodeInt (negative : Bool) (digits : List Char) : Except Fault TokenKind :=
  let value : Int := if negative then -(digitsValue digits : Int) else digitsValue digits
  if Int64.minValue.toInt ≤ value ∧ value ≤ Int64.maxValue.toInt then
    .ok (.int (Int64.ofInt value))
  else .error .integerOutOfRange

/-- The token that a lexeme stands for, given its first character and the others. -/
def decode (first : Char) (others : List Char) : Except Fault TokenKind :=
  if first.isAlpha then
    .ok (.word (String.ofList ((first :: others).map Char.toLower)))
  else if first.isDigit then
    decodeInt false (first :: others)
  else if first = '-' then
    if others.isEmpty then .error .missingDigits else decodeInt true others
  else if first = '#' then
    if others.isEmpty then .error .missingSlotIndex else decodeRef others
  else
    .error (.unexpectedCharacter first)

/-- What follows a gap is no longer than what it starts. -/
theorem length_skipGap_le (inComment : Bool) (pos : Nat) (cs : List Char) :
    (skipGap inComment pos cs).2.length ≤ cs.length := by
  fun_induction skipGap inComment pos cs <;> simp_all <;> omega

/-- The tokens of a text that starts at byte `pos` of the source. -/
def lexFrom (pos : Nat) (cs : List Char) : Except ScriptError (List Token) :=
  match _hgap : skipGap false pos cs with
  | (_, []) => .ok []
  | (start, first :: rest) =>
    let others := rest.takeWhile (continues first)
    let span : Span := ⟨start, start + byteLength (first :: others)⟩
    match decode first others with
    | .error fault => .error (.atSpan fault span)
    | .ok kind => do
      let tokens ← lexFrom span.stop (rest.dropWhile (continues first))
      return ⟨kind, span⟩ :: tokens
termination_by cs.length
decreasing_by
  have hle := length_skipGap_le false pos cs
  rw [_hgap] at hle
  have := (List.dropWhile_sublist (continues first) (l := rest)).length_le
  simp only [List.length_cons] at hle
  omega

/-- The tokens of a source, or its first fault. -/
def lex (source : String) : Except ScriptError (List Token) := lexFrom 0 source.toList

end RootedHeap.Script
