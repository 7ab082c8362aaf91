import RootedHeap.Json.Fault
import RootedHeap.Text.Basic

/-!
# JSON literals

Readers for the numbers, strings and keywords of JSON. Each takes a cursor at the start of a literal
and gives the value and the cursor after it, or the fault and its place.
-/

namespace RootedHeap.Json

/-! ## Numbers -/

/-- The greatest word. -/
def maxWord : Nat := UInt64.size - 1

/-- The greatest exponent that is added up. -/
def maxExponent : Nat := 2147483647

/-- Appends decimal digits to a number as long as it does not pass a limit: the number and the
digits that are left. -/
def accumulate (limit n : Nat) : List Char → Nat × List Char
  | [] => (n, [])
  | d :: ds =>
    let appended := 10 * n + (d.toNat - 48)
    if appended ≤ limit then accumulate limit appended ds else (n, d :: ds)

/-- A decimal in the course of reading, `significand * 10 ^ exponent` without its sign. -/
structure Magnitude where
  negative : Bool
  significand : Nat
  exponent : Int
deriving DecidableEq, Repr

namespace Magnitude

/-- The double with the sign of the decimal. -/
def signed (m : Magnitude) (x : Float) : Number := .float (if m.negative then -x else x)

/-- The decimal as an integer if it has one of 64 bits; there is no negative zero among these. -/
def toInteger? (m : Magnitude) : Option Number :=
  if m.exponent ≠ 0 then none
  else if !m.negative then some (.unsigned (UInt64.ofNat m.significand))
  else if 0 < m.significand ∧ m.significand ≤ UInt64.size / 2 then
    some (.negative (Int64.ofInt (-(m.significand : Int))))
  else none

/-- The decimal as a double. The cursor is after the literal. -/
def toFloat (m : Magnitude) (c : Cursor) : Except Error (Number × Cursor) :=
  match scale? (UInt64.ofNat m.significand).toFloat m.exponent with
  | some x => .ok (m.signed x, c)
  | none => .error ⟨.numberOutOfRange, c.position⟩

end Magnitude

/-- The rest of a number from its `e` on. An exponent beyond the limit leaves zero as it is and
makes any other decimal zero or too large. -/
def readExponent (m : Magnitude) (c : Cursor) : Except Error (Number × Cursor) :=
  let (down, c) := match c.next.rest with
    | '-' :: _ => (true, c.next.next)
    | '+' :: _ => (false, c.next.next)
    | _ => (false, c.next)
  let digits := c.rest.takeWhile Char.isDigit
  if c.rest.isEmpty then .error ⟨.endInValue, c.position⟩
  else if digits.isEmpty then .error ⟨.invalidNumber, c.ahead⟩
  else
    let (exponent, left) := accumulate maxExponent 0 digits
    if left.isEmpty then
      let exponent : Int := if down then -exponent else exponent
      { m with exponent := m.exponent + exponent }.toFloat (c.skip digits.length)
    else if m.significand ≠ 0 ∧ !down then
      .error ⟨.numberOutOfRange, (c.skip (digits.length - left.length)).ahead⟩
    else
      .ok (m.signed 0.0, c.skip digits.length)

/-- The rest of a number from its point on. -/
def readFraction (m : Magnitude) (c : Cursor) : Except Error (Number × Cursor) :=
  let c := c.next
  let digits := c.rest.takeWhile Char.isDigit
  if digits.isEmpty then
    .error ⟨if c.rest.isEmpty then .endInValue else .invalidNumber, c.ahead⟩
  else
    let (significand, left) := accumulate maxWord m.significand digits
    let m : Magnitude :=
      { m with significand, exponent := m.exponent - (digits.length - left.length : Nat) }
    let c := c.skip digits.length
    match c.rest with
    | 'e' :: _ | 'E' :: _ => readExponent m c
    | _ => m.toFloat c

/-- A number from its first digit on. It is an integer if it has neither point nor exponent and
fits 64 bits. -/
def readMagnitude (negative : Bool) (c : Cursor) : Except Error (Number × Cursor) :=
  match c.rest.takeWhile Char.isDigit with
  | [] =>
    if c.rest.isEmpty then .error ⟨.endInValue, c.position⟩ else .error ⟨.invalidNumber, c.ahead⟩
  | '0' :: _ :: _ => .error ⟨.invalidNumber, c.next.ahead⟩
  | digits =>
    let (significand, left) := accumulate maxWord 0 digits
    let m : Magnitude := ⟨negative, significand, left.length⟩
    let c := c.skip digits.length
    match c.rest with
    | '.' :: _ => readFraction m c
    | 'e' :: _ | 'E' :: _ => readExponent m c
    | _ =>
      match m.toInteger? with
      | some n => .ok (n, c)
      | none => m.toFloat c

/-- A number. -/
def readNumber (c : Cursor) : Except Error (Number × Cursor) :=
  match c.rest with
  | '-' :: _ => readMagnitude true c.next
  | _ => readMagnitude false c

/-! ## Strings -/

/-- The UTF-16 unit in the four digits after a `u`. They take up four bytes, whatever they are. -/
def readUnit (c : Cursor) : Except Error Nat :=
  if Text.byteLength c.rest < 4 then .error ⟨.endInString, c.finish⟩
  else match Text.hexValue? (c.rest.take 4) with
    | some unit => .ok unit
    | none => .error ⟨.invalidEscape, c.position.advance 4 c.rest⟩

/-- Checks for the character `expected` of an escape that has to follow another. -/
def readPaired (expected : Char) (c : Cursor) : Except Error Unit :=
  match c.rest with
  | [] => .error ⟨.endInString, c.position⟩
  | found :: _ => if found = expected then .ok () else .error ⟨.missingSurrogate, c.ahead⟩

/-- The character of an escape by UTF-16 units, the cursor being after its `u`, and the number of
characters it takes up from there. A leading surrogate needs a trailing one after it. -/
def readUnits (c : Cursor) : Except Error (Char × Nat) := do
  let unit ← readUnit c
  if 0xDC00 ≤ unit ∧ unit ≤ 0xDFFF then
    throw ⟨.loneSurrogate, (c.skip 4).position⟩
  else if 0xD800 ≤ unit ∧ unit ≤ 0xDBFF then
    readPaired '\\' (c.skip 4)
    readPaired 'u' (c.skip 5)
    let second ← readUnit (c.skip 6)
    if second < 0xDC00 ∨ 0xDFFF < second then
      throw ⟨.loneSurrogate, (c.skip 10).position⟩
    return (Char.ofNat (0x10000 + (unit - 0xD800) * 0x400 + (second - 0xDC00)), 10)
  else
    return (Char.ofNat unit, 4)

/-- The character that an escape of one letter stands for. -/
def shortEscape? : Char → Option Char
  | '"' => some '"'
  | '\\' => some '\\'
  | '/' => some '/'
  | 'b' => some '\x08'
  | 'f' => some '\x0c'
  | 'n' => some '\n'
  | 'r' => some '\r'
  | 't' => some '\t'
  | _ => none

/-- The character of an escape, the cursor being after the backslash, and the number of characters
it takes up from there. -/
def readEscape (c : Cursor) : Except Error (Char × Nat) :=
  match c.rest with
  | [] => .error ⟨.endInString, c.position⟩
  | 'u' :: _ => (fun (char, n) => (char, n + 1)) <$> readUnits c.next
  | letter :: _ =>
    match shortEscape? letter with
    | some char => .ok (char, 1)
    | none => .error ⟨.invalidEscape, c.ahead⟩

/-- The rest of a string after its opening quote; `before` holds the characters read so far, the
last one first. -/
def readString (p : Position) (before : List Char) :
    (cs : List Char) → Except Error (String × Cursor)
  | [] => .error ⟨.endInString, p⟩
  | '"' :: cs => .ok (String.ofList before.reverse, ⟨cs, p.advance 1 ['"']⟩)
  | '\\' :: cs => do
    let c : Cursor := ⟨cs, p.advance 1 ['\\']⟩
    let (char, n) ← readEscape c
    readString (c.skip n).position (char :: before) (cs.drop n)
  | char :: cs =>
    if char.toNat < 32 then .error ⟨.controlCharacter, p.advance 1 [char]⟩
    else readString (p.advance char.utf8Size [char]) (char :: before) cs
termination_by cs => cs.length
decreasing_by all_goals simp only [List.length_cons, List.length_drop]; omega

/-! ## Keywords -/

/-- Checks for the rest of a keyword, character by character. -/
def readKeyword (c : Cursor) : List Char → Except Error Cursor
  | [] => .ok c
  | expected :: more =>
    match c.rest with
    | [] => .error ⟨.endInValue, c.position⟩
    | found :: _ =>
      if found = expected then readKeyword c.next more else .error ⟨.expectedKeyword, c.ahead⟩

/-- Describes a value that is not the expected one, which the cursor stands at; the cursor after
what had to be read for that. A list or an object is not read. -/
def readFound (c : Cursor) : Except Error (Found × Cursor) :=
  match c.rest with
  | 'n' :: _ => (.null, ·) <$> readKeyword c.next ['u', 'l', 'l']
  | 't' :: _ => (.boolean true, ·) <$> readKeyword c.next ['r', 'u', 'e']
  | 'f' :: _ => (.boolean false, ·) <$> readKeyword c.next ['a', 'l', 's', 'e']
  | '"' :: cs => (fun (s, c) => (.string s, c)) <$> readString c.next.position [] cs
  | '[' :: _ => .ok (.sequence, c)
  | '{' :: _ => .ok (.map, c)
  | first :: _ =>
    if first = '-' || first.isDigit then (fun (n, c) => (.number n, c)) <$> readNumber c
    else .error ⟨.expectedValue, c.ahead⟩
  | [] => .error ⟨.endInValue, c.position⟩

end RootedHeap.Json
