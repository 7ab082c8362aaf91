/-!
# Objects and their handles

A heap stores 32-bit integers and pairs. The fields of a pair name other objects by `Handle`, so a
pair may refer to itself, to another pair that refers back, or to an object that is long gone; how
long an object lives is decided by reachability alone (`Object.fields`).
-/

namespace RootedHeap

/-- The name of an object: the slot it was put into and the generation of that slot at the time.
A slot moves on to its next generation when its object is reclaimed, so a handle never comes to
name a later object. -/
structure Handle where
  index : Nat
  generation : UInt32
deriving DecidableEq, Repr, Inhabited

/-- A handle is shown by its slot alone. -/
def Handle.text (h : Handle) : String := "#" ++ toString h.index

/-- What a slot can hold: an integer, or a pair of handles. -/
inductive Object where
  | scalar (value : Int32)
  | pair (head tail : Handle)
deriving DecidableEq, Repr, Inhabited

/-- The two kinds of objects. -/
inductive Object.Kind where
  | scalar
  | pair
deriving DecidableEq, Repr

namespace Object

/-- The kind of an object. -/
def kind : Object → Kind
  | scalar _ => .scalar
  | pair _ _ => .pair

/-- The name of a kind. -/
def Kind.text : Kind → String
  | .scalar => "int"
  | .pair => "pair"

/-- The integer of a scalar. -/
def scalar? : Object → Option Int32
  | scalar value => some value
  | pair _ _ => none

/-- The two fields of a pair, head first. -/
def pair? : Object → Option (Handle × Handle)
  | scalar _ => none
  | pair head tail => some (head, tail)

/-- The handles an object holds: those that it keeps alive, in the order in which marking looks at
them. -/
def fields : Object → List Handle
  | scalar _ => []
  | pair head tail => [tail, head]

/-- An integer is shown in decimal, a pair by its fields in round brackets. -/
def text : Object → String
  | scalar value => toString value.toInt
  | pair head tail => "(" ++ head.text ++ ", " ++ tail.text ++ ")"

end Object

end RootedHeap
