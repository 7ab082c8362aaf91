import RootedHeap.Config.Basic
import RootedHeap.Json.Literal

/-!
# Configurations in JSON

The decoder of configurations that the program uses (`Config.decode`), and the encoder
(`Config.text`). A configuration is read from an object with some of the fields, each at most once,
or from a list of their values in the order of declaration, from which the last ones may be missing.
What is missing keeps its default. A value is a 64-bit word; the cap may also be `null`. The reader
goes through the text once and stops at the first fault. Written is an object of all fields in the
order of declaration.
-/

namespace RootedHeap.Config

open Json (Cursor)

/-! ## Values -/

/-- A word. The place of another value is where the reader stands after it. -/
def readWord (c : Cursor) : Except Json.Error (UInt64 × Cursor) := do
  let (found, after) ← Json.readFound c.skipBlanks
  match found with
  | .number (.unsigned n) => return (n, after)
  | .number (.negative _) => throw ⟨.invalidValue found "usize", after.position⟩
  | _ => throw ⟨.invalidType found "usize", after.position⟩

/-- A word or `null`. -/
def readOptionalWord (c : Cursor) : Except Json.Error (Option UInt64 × Cursor) :=
  match c.skipBlanks.rest with
  | 'n' :: _ => (none, ·) <$> Json.readKeyword c.skipBlanks.next ['u', 'l', 'l']
  | _ => (fun (n, c) => (some n, c)) <$> readWord c

/-- The configuration with a field set to the value at the cursor. -/
def readValue (config : Config) (field : Field) (c : Cursor) :
    Except Json.Error (Config × Cursor) :=
  match field with
  | .stackMax => (fun (n, c) => ({ config with stackMax := n }, c)) <$> readWord c
  | .initialThreshold => (fun (n, c) => ({ config with initialThreshold := n }, c)) <$> readWord c
  | .maxObjects => (fun (n, c) => ({ config with maxObjects := n }, c)) <$> readOptionalWord c

/-! ## Lists -/

/-- Goes to the next value of a list, if the list does not end at the cursor. -/
def nextElement? (first : Bool) (c : Cursor) : Except Json.Error (Option Cursor) :=
  let c := c.skipBlanks
  match c.rest with
  | [] => .error ⟨.endInList, c.position⟩
  | ']' :: _ => .ok none
  | char :: _ =>
    if first then .ok (some c)
    else if char = ',' then
      let c := c.next.skipBlanks
      match c.rest with
      | [] => .error ⟨.endInValue, c.position⟩
      | ']' :: _ => .error ⟨.trailingComma, c.ahead⟩
      | _ => .ok (some c)
    else .error ⟨.expectedListEnd, c.ahead⟩

/-- The values of the given fields in turn, as many as the list holds. -/
def readElements (config : Config) (first : Bool) (c : Cursor) :
    List Field → Except Json.Error (Config × Cursor)
  | [] => .ok (config, c)
  | field :: more => do
    match ← nextElement? first c with
    | none => return (config, c)
    | some c => do
      let (config, c) ← readValue config field c
      readElements config false c more

/-- The end of a list; values beyond the last field are not read. -/
def readListEnd (c : Cursor) : Except Json.Error Cursor :=
  let c := c.skipBlanks
  match c.rest with
  | [] => .error ⟨.endInList, c.position⟩
  | ']' :: _ => .ok c.next
  | ',' :: _ =>
    let c := c.next.skipBlanks
    if c.rest.head? = some ']' then .error ⟨.trailingComma, c.ahead⟩
    else .error ⟨.trailingCharacters, c.ahead⟩
  | _ => .error ⟨.trailingCharacters, c.ahead⟩

/-! ## Objects -/

/-- Goes to the opening quote of the next key of an object, if the object does not end at the
cursor. -/
def nextKey? (first : Bool) (c : Cursor) : Except Json.Error (Option Cursor) :=
  let c := c.skipBlanks
  match c.rest with
  | [] => .error ⟨.endInObject, c.position⟩
  | '}' :: _ => .ok none
  | char :: _ =>
    if first then
      if char = '"' then .ok (some c) else .error ⟨.keyNotString, c.ahead⟩
    else if char = ',' then
      let c := c.next.skipBlanks
      match c.rest with
      | [] => .error ⟨.endInValue, c.position⟩
      | '"' :: _ => .ok (some c)
      | '}' :: _ => .error ⟨.trailingComma, c.ahead⟩
      | _ => .error ⟨.keyNotString, c.ahead⟩
    else .error ⟨.expectedObjectEnd, c.ahead⟩

/-- The colon after a key. -/
def readColon (c : Cursor) : Except Json.Error Cursor :=
  let c := c.skipBlanks
  match c.rest with
  | [] => .error ⟨.endInObject, c.position⟩
  | ':' :: _ => .ok c.next
  | _ => .error ⟨.expectedColon, c.ahead⟩

/-- The place of a fault in a key: past the blanks after the key, and past the end of the object if
that comes next. -/
def keyFaultPosition (c : Cursor) : Json.Position :=
  let c := c.skipBlanks
  if c.rest.head? = some '}' then c.ahead else c.position

/-- The fields of an object from the cursor to its end; those in `missing` may still be given. -/
def readMembers (config : Config) (missing : List Field) (first : Bool) (c : Cursor) :
    Except Json.Error (Config × Cursor) := do
  match ← nextKey? first c with
  | none => return (config, c.skipBlanks.next)
  | some c =>
    let (name, c) ← Json.readString c.next.position [] c.next.rest
    match Field.ofName? name with
    | none => throw ⟨.unknownField name (fields.map Field.name), keyFaultPosition c⟩
    | some field =>
      if field ∈ missing then
        let c ← readColon c
        let (config, c) ← readValue config field c
        readMembers config (missing.erase field) false c
      else
        throw ⟨.duplicateField name, keyFaultPosition c⟩
termination_by missing.length
decreasing_by
  have := List.length_pos_of_mem ‹field ∈ missing›
  rw [List.length_erase_of_mem ‹field ∈ missing›]
  omega

/-! ## Texts and files -/

/-- A configuration, checked for its form only. -/
def readConfig (c : Cursor) : Except Json.Error (Config × Cursor) :=
  let c := c.skipBlanks
  match c.rest with
  | [] => .error ⟨.endInValue, c.position⟩
  | '[' :: _ => do
    let (config, c) ← readElements {} true c.next fields
    return (config, ← readListEnd c)
  | '{' :: _ => readMembers {} fields true c.next
  | _ => do
    let (found, after) ← Json.readFound c
    throw ⟨.invalidType found "struct GcConfig", after.position⟩

/-- A configuration with nothing but blanks around it, checked for its form only. -/
def decode (source : String) : Except Json.Error Config := do
  let (config, c) ← readConfig (.ofString source)
  let c := c.skipBlanks
  if c.rest.isEmpty then return config else throw ⟨.trailingCharacters, c.ahead⟩

/-- A number in JSON, or `null` for none. -/
def valueText : Option UInt64 → String
  | some n => toString n.toNat
  | none => "null"

/-- A configuration in JSON, without blanks. -/
def text (config : Config) : String :=
  "\x7b" ++ ",".intercalate
    (fields.map fun field => "\"" ++ field.name ++ "\":" ++ valueText (config.value? field)) ++
    "\x7d"

/-- The configuration that a text holds, if no field is zero. -/
def ofJson (source : String) : Except ConfigError Config := ofJsonWith decode source

/-- The configuration in a file, given what reading the file gives. -/
def ofFile (path : String) (contents : Except ReadFault String) : Except ConfigError Config := do
  let source ← contents.mapError (.unreadable path)
  ofJson source

end RootedHeap.Config
