/-!
# The operations of the script language

An `Op` is one operation on a context, with the slots it names as 64-bit words. `Op.text` is how it
is written in a script.
-/

namespace RootedHeap.Script

/-- One operation of a script. -/
inductive Op where
  /-- Allocates an integer and roots it. -/
  | int (value : Int32)
  /-- Makes a pair of the two topmost roots and roots it in their place. -/
  | pair
  /-- Takes the top root off. -/
  | pop
  /-- Roots the object in a slot. -/
  | push (slot : UInt64)
  /-- Looks at the object in a slot. -/
  | inspect (slot : UInt64)
  /-- Makes the object in the second slot the head of the pair in the first. -/
  | setHead (target value : UInt64)
  /-- Makes the object in the second slot the tail of the pair in the first. -/
  | setTail (target value : UInt64)
  /-- Runs a collection. -/
  | collect
  /-- Reports the counts of a context. -/
  | stats
  /-- Lists the roots. -/
  | roots
deriving DecidableEq, Repr

/-- The words that start an operation. -/
def operationNames : List String :=
  ["int", "pair", "pop", "push", "show", "sethead", "settail", "collect", "stats", "roots"]

namespace Op

/-- A slot as an operand. -/
def refText (slot : UInt64) : String := "#" ++ toString slot.toNat

/-- An operation as it is written in a script. -/
def text : Op → String
  | int value => "int " ++ toString value.toInt
  | pair => "pair"
  | pop => "pop"
  | push slot => "push " ++ refText slot
  | inspect slot => "show " ++ refText slot
  | setHead target value => "sethead " ++ refText target ++ " " ++ refText value
  | setTail target value => "settail " ++ refText target ++ " " ++ refText value
  | collect => "collect"
  | stats => "stats"
  | roots => "roots"

/-- The number of operands of an operation, each of which is one token. -/
def operandCount : Op → Nat
  | int _ | push _ | inspect _ => 1
  | setHead _ _ | setTail _ _ => 2
  | pair | pop | collect | stats | roots => 0

end Op

end RootedHeap.Script
