import RootedHeap.Folder
import RootedHeap.Heap.Basic
import RootedHeap.Json.Fault
import RootedHeap.RootStack

/-!
# Configurations

A `Config` bounds the roots, sets the threshold of the first collection, and may cap the live
objects. None of these may be zero (`Config.validate`); the first field that is, in the order of
declaration, is the error. Of a text in JSON the form is the matter of a decoder; whatever this
finds is validated before it counts (`Config.ofJsonWith`).
-/

namespace RootedHeap

/-- The fields of a configuration. -/
inductive Config.Field where
  | stackMax
  | initialThreshold
  | maxObjects
deriving DecidableEq, Repr

/-- What can be set for a context. -/
structure Config where
  /-- The greatest number of roots. -/
  stackMax : UInt64 := RootStack.defaultCapacity
  /-- The number of live objects at which the first collection is due, and again the first one after
  a collection that leaves nothing. -/
  initialThreshold : UInt64 := UInt64.ofNat Heap.defaultThreshold
  /-- The greatest number of live objects, if there is one. -/
  maxObjects : Option UInt64 := none
deriving DecidableEq, Repr

/-- Why there is no configuration. -/
inductive ConfigError where
  /-- A field that has to be at least one is zero. -/
  | zero (field : Config.Field)
  /-- The text is no configuration in JSON. -/
  | malformed (error : Json.Error)
  /-- The file could not be read. -/
  | unreadable (path : String) (fault : ReadFault)
deriving Repr

namespace Config

/-- The fields in the order of declaration. -/
def fields : List Field := [.stackMax, .initialThreshold, .maxObjects]

/-- The key of a field. -/
def Field.name : Field → String
  | stackMax => "stack_max"
  | initialThreshold => "initial_threshold"
  | maxObjects => "max_objects"

/-- The field that a key names. -/
def Field.ofName? (name : String) : Option Field := fields.find? (·.name == name)

/-- The number that a field is set to, if it is. -/
def value? (config : Config) : Field → Option UInt64
  | .stackMax => some config.stackMax
  | .initialThreshold => some config.initialThreshold
  | .maxObjects => config.maxObjects

/-- Succeeds if no field is zero. -/
def validate (config : Config) : Except ConfigError Unit :=
  match fields.find? (config.value? · = some 0) with
  | some field => .error (.zero field)
  | none => .ok ()

/-- A configuration is valid if no field is set to zero. -/
theorem validate_eq_ok_iff {config : Config} :
    config.validate = .ok () ↔ ∀ field, config.value? field ≠ some 0 := by
  have hmem : ∀ field, field ∈ fields := fun field => by cases field <;> decide
  unfold validate
  split
  · next field hfind =>
    have hzero : config.value? field = some 0 := by simpa using List.find?_some hfind
    constructor
    · intro h
      cases h
    · exact fun h => absurd hzero (h field)
  · next hfind =>
    have hnone := List.find?_eq_none.1 hfind
    exact ⟨fun _ field hzero => hnone field (hmem field) (decide_eq_true hzero), fun _ => rfl⟩

/-- A configuration that is valid has a threshold of at least one. -/
theorem initialThreshold_pos {config : Config} (hv : config.validate = .ok ()) :
    0 < config.initialThreshold.toNat := by
  have hne := Config.validate_eq_ok_iff.1 hv .initialThreshold
  rw [Nat.pos_iff_ne_zero]
  intro hzero
  exact hne (congrArg some (UInt64.toNat_inj.1 hzero))

/-- The configuration that a decoder finds in a text, if no field is zero. -/
def ofJsonWith (decode : String → Except Json.Error Config) (source : String) :
    Except ConfigError Config := do
  let config ← (decode source).mapError .malformed
  config.validate
  return config

end Config

namespace ConfigError

/-- What the error is, without its heading. -/
def text : ConfigError → String
  | zero field => "`" ++ field.name ++ "` must be at least 1"
  | malformed error => "malformed config: " ++ error.message
  | unreadable path fault => "failed to read '" ++ path ++ "': " ++ fault.text

/-- The sentence that reports the error. -/
def message (e : ConfigError) : String := "invalid configuration: " ++ e.text

/-- The error's identifier in reports. -/
def code : String := "marksweep::config"

end ConfigError

end RootedHeap
