import RootedHeap.Config.Basic
import RootedHeap.Heap.Basic
import RootedHeap.RootStack
import RootedHeap.Script.Token

/-!
# Errors

An `Error` is any error of the library, and says how it is reported: in a sentence, by an
identifier, with advice, and with a place in the source to point at.
-/

namespace RootedHeap

/-- Any error of the library. -/
inductive Error where
  | stack (e : StackError)
  | heap (e : HeapError)
  | config (e : ConfigError)
  | script (e : ScriptError)
deriving Repr

/-- A place in a source and what is written at it. -/
structure Label where
  text : String
  offset : Nat
  length : Nat
deriving DecidableEq, Repr

namespace Error

/-- The sentence that reports the error. -/
def message : Error → String
  | stack e => e.message
  | heap e => e.message
  | config e => e.message
  | script e => e.message

/-- The error's identifier in reports, if it has one. -/
def code? : Error → Option String
  | stack e => some e.code
  | heap e => some e.code
  | config _ => some ConfigError.code
  | script _ => none

/-- What to do about the error, if there is anything to say. -/
def help? : Error → Option String
  | stack e => some e.help
  | heap e => e.help?
  | config _ => none
  | script _ => some ScriptError.help

/-- The places to point at. -/
def labels : Error → List Label
  | script e => [⟨ScriptError.label, e.offset, e.length⟩]
  | _ => []

end Error

end RootedHeap
