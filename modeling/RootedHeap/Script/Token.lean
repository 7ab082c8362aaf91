/-!
# Tokens of the script language

A `Token` is a word, an integer or a slot reference, with the range of UTF-8 bytes it takes up in
the source. A `ScriptError` is the first thing wrong with a source: what it is (`Fault`) and the
bytes to point at.
-/

namespace RootedHeap

/-- A range of bytes, from `start` up to and not including `stop`. -/
structure Span where
  start : Nat
  stop : Nat
deriving DecidableEq, Repr

namespace Span

/-- The number of bytes in the range. -/
def length (s : Span) : Nat := s.stop - s.start

/-- Whether there is no byte in the range. -/
def isEmpty (s : Span) : Bool := s.start == s.stop

end Span

namespace Script

/-- What a token is. -/
inductive TokenKind where
  /-- A word, in lower case. -/
  | word (text : String)
  /-- An integer. -/
  | int (value : Int64)
  /-- A reference to the object in a slot. -/
  | ref (slot : UInt64)
deriving DecidableEq, Repr

/-- A token and where it stands. -/
structure Token where
  kind : TokenKind
  span : Span
deriving DecidableEq, Repr

/-- What can be wrong with a source. -/
inductive Fault where
  /-- No token starts with this character. -/
  | unexpectedCharacter (c : Char)
  /-- A `#` without digits. -/
  | missingSlotIndex
  /-- A slot index that does not fit 64 bits. -/
  | slotIndexOutOfRange
  /-- A `-` without digits. -/
  | missingDigits
  /-- An integer that does not fit 64 bits. -/
  | integerOutOfRange
  /-- A token other than a word where an operation starts. -/
  | notAnOperation
  /-- A word that names no operation. -/
  | unknownOperation (word : String)
  /-- An operand that does not fit 32 bits. -/
  | integerTooWide
  /-- A token other than an integer where one is needed. -/
  | notAnInteger
  /-- A token other than a slot reference where one is needed. -/
  | notASlotReference
  /-- The source ends where the operation needs an integer. -/
  | missingInteger (word : String)
  /-- The source ends where the operation needs a slot reference. -/
  | missingSlotReference (word : String)
deriving DecidableEq, Repr

/-- What a fault is called. -/
def Fault.text : Fault → String
  | unexpectedCharacter c => "unexpected character '" ++ String.singleton c ++ "'"
  | missingSlotIndex => "expected a slot index after '#'"
  | slotIndexOutOfRange => "slot index out of range"
  | missingDigits => "expected digits after '-'"
  | integerOutOfRange => "integer literal out of range"
  | notAnOperation => "expected an operation"
  | unknownOperation word => "unknown operation '" ++ word ++ "'"
  | integerTooWide => "integer does not fit in 32 bits"
  | notAnInteger => "expected an integer"
  | notASlotReference => "expected a slot reference like #3"
  | missingInteger word => "expected an integer after '" ++ word ++ "'"
  | missingSlotReference word => "expected a slot reference after '" ++ word ++ "'"

end Script

/-- The first fault of a source and the bytes it is found at. -/
structure ScriptError where
  fault : Script.Fault
  offset : Nat
  length : Nat
deriving DecidableEq, Repr

namespace ScriptError

/-- The error that points at a span. -/
def atSpan (fault : Script.Fault) (span : Span) : ScriptError := ⟨fault, span.start, span.length⟩

/-- The sentence that reports the error. -/
def message (e : ScriptError) : String := "SyntaxError: " ++ e.fault.text

/-- What a script may hold. -/
def help : String :=
  "operations are: int <n>, pair, pop, push #<slot>, show #<slot>, sethead #<pair> #<slot>, " ++
    "settail #<pair> #<slot>, collect, stats, roots"

/-- What is written at the place pointed at. -/
def label : String := "here"

end ScriptError

end RootedHeap
