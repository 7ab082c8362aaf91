import RootedHeap.Json.Cursor
import RootedHeap.Json.Number
import RootedHeap.Text.Quoted

/-!
# What can be wrong with a JSON text

A `Fault` is a break of JSON's grammar or a value that is not what the reader expects; an `Error` is
a fault and the place where it is reported.
-/

namespace RootedHeap.Json

/-- A value as far as it matters to say that it is not the expected one. -/
inductive Found where
  | null
  | boolean (value : Bool)
  | number (value : Number)
  | string (value : String)
  | sequence
  | map
deriving Repr

/-- How a value is described. -/
def Found.text : Found → String
  | null => "null"
  | boolean value => "boolean `" ++ (if value then "true" else "false") ++ "`"
  | number value => value.description
  | string value => "string " ++ Text.quote value
  | sequence => "sequence"
  | map => "map"

/-- What can be wrong with a JSON text. -/
inductive Fault where
  | endInList
  | endInObject
  | endInString
  | endInValue
  | expectedColon
  | expectedListEnd
  | expectedObjectEnd
  | expectedKeyword
  | expectedValue
  | invalidEscape
  | invalidNumber
  | numberOutOfRange
  | loneSurrogate
  | missingSurrogate
  | controlCharacter
  | keyNotString
  | trailingComma
  | trailingCharacters
  /-- A value of another type than the expected one. -/
  | invalidType (found : Found) (expected : String)
  /-- A value of the expected type that is out of range. -/
  | invalidValue (found : Found) (expected : String)
  /-- A key that names no field. -/
  | unknownField (name : String) (fields : List String)
  /-- A key that has been given before. -/
  | duplicateField (name : String)
deriving Repr

/-- What a fault is called. -/
def Fault.text : Fault → String
  | endInList => "EOF while parsing a list"
  | endInObject => "EOF while parsing an object"
  | endInString => "EOF while parsing a string"
  | endInValue => "EOF while parsing a value"
  | expectedColon => "expected `:`"
  | expectedListEnd => "expected `,` or `]`"
  | expectedObjectEnd => "expected `,` or `\x7d`"
  | expectedKeyword => "expected ident"
  | expectedValue => "expected value"
  | invalidEscape => "invalid escape"
  | invalidNumber => "invalid number"
  | numberOutOfRange => "number out of range"
  | loneSurrogate => "lone leading surrogate in hex escape"
  | missingSurrogate => "unexpected end of hex escape"
  | controlCharacter =>
    "control character (\\u0000-\\u001F) found while parsing a string"
  | keyNotString => "key must be a string"
  | trailingComma => "trailing comma"
  | trailingCharacters => "trailing characters"
  | invalidType found expected => "invalid type: " ++ found.text ++ ", expected " ++ expected
  | invalidValue found expected => "invalid value: " ++ found.text ++ ", expected " ++ expected
  | unknownField name fields =>
    "unknown field `" ++ name ++ "`, expected one of " ++
      ", ".intercalate (fields.map fun field => "`" ++ field ++ "`")
  | duplicateField name => "duplicate field `" ++ name ++ "`"

/-- A fault and where it is reported. -/
structure Error where
  fault : Fault
  position : Position
deriving Repr

/-- The sentence that reports the error. -/
def Error.message (e : Error) : String :=
  e.fault.text ++ " at line " ++ toString e.position.line ++ " column " ++
    toString e.position.column

end RootedHeap.Json
