import RootedHeap.Object

/-!
# The root stack

A bounded stack of handles. Every entry is a root, wherever it stands, so an object stays alive as
long as some entry reaches it. Capacity, offsets and counts are 64-bit words. Each operation that
can fail says which entries it lacked (`StackError.underflow`) or which bound it met
(`StackError.overflow`), and hands back no changed stack. To count the entries that a look below the
top needs (`RootStack.peekAt`) takes arithmetic, which is checked (`Checked`).
-/

namespace RootedHeap

/-- The result of arithmetic that is checked. There is none if a number on the way is out of range;
the program stops there. -/
abbrev Checked := Option

namespace Checked

/-- A number as a word, which is to have 64 bits. -/
def word (n : Nat) : Checked UInt64 := if n < UInt64.size then some (.ofNat n) else none

/-- A difference, which is not to be negative. -/
def minus (a b : Nat) : Checked Nat := if b ≤ a then some (a - b) else none

end Checked

/-- Why a stack operation was refused. -/
inductive StackError where
  /-- There is no room for one more entry. -/
  | overflow (capacity : UInt64)
  /-- The operation takes `needed` entries and there are only `available`. -/
  | underflow (needed : UInt64) (available : Nat)
deriving DecidableEq, Repr

/-- A stack of roots, its top entry first. The number of entries is kept beside them. -/
structure RootStack where
  capacity : UInt64
  entries : List Handle := []
  size : Nat := entries.length
  size_eq : size = entries.length := by rfl
deriving DecidableEq, Repr

namespace RootStack

/-- The capacity of a stack for which none is given. -/
def defaultCapacity : UInt64 := 256

/-- A stack without entries. -/
def empty (capacity : UInt64) : RootStack := { capacity }

/-- Whether there are no entries. -/
def isEmpty (s : RootStack) : Bool := s.entries.isEmpty

/-- Whether one more entry would exceed the capacity. -/
def isFull (s : RootStack) : Bool := s.capacity.toNat ≤ s.size

/-- The entries from the bottom of the stack to its top. -/
def toList (s : RootStack) : List Handle := s.entries.reverse

/-- Succeeds if there is room for one more entry. -/
def ensureRoom (s : RootStack) : Except StackError Unit :=
  if s.isFull then .error (.overflow s.capacity) else .ok ()

/-- Succeeds if there are at least `needed` entries. -/
def require (s : RootStack) (needed : UInt64) : Except StackError Unit :=
  if s.size < needed.toNat then .error (.underflow needed s.size) else .ok ()

/-- Puts a handle on top. -/
def push (s : RootStack) (h : Handle) : Except StackError RootStack :=
  if s.isFull then .error (.overflow s.capacity)
  else .ok ⟨s.capacity, h :: s.entries, s.size + 1, by simp [s.size_eq]⟩

/-- Takes the top entry off. -/
def pop (s : RootStack) : Except StackError (Handle × RootStack) :=
  match _hs : s.entries with
  | [] => .error (.underflow 1 0)
  | h :: rest => .ok (h, ⟨s.capacity, rest, s.size - 1, by simp [s.size_eq, _hs]⟩)

/-- The top entry. -/
def peek (s : RootStack) : Except StackError Handle :=
  match s.entries with
  | [] => .error (.underflow 1 0)
  | h :: _ => .ok h

/-- The entry that has `offset` entries above it, found by its place above the bottom. The number of
entries that this takes is reported as a word, like the offset. -/
def peekAt (s : RootStack) (offset : UInt64) : Checked (Except StackError Handle) := do
  if s.size ≤ offset.toNat then
    let needed ← Checked.word (offset.toNat + 1)
    return .error (.underflow needed s.size)
  else
    let last ← Checked.minus s.size 1
    let place ← Checked.minus last offset.toNat
    let h ← s.toList[place]?
    return .ok h

/-- Drops every entry. -/
def clear (s : RootStack) : RootStack := empty s.capacity

end RootStack

namespace StackError

/-- The sentence that reports the error. -/
def message : StackError → String
  | overflow capacity =>
    "Stack Overflow! root stack is full (" ++ toString capacity.toNat ++ " entries)"
  | underflow needed available =>
    "Stack Underflow! needed " ++ toString needed.toNat ++ " root(s) but only " ++
      toString available ++ " available"

/-- The error's identifier in reports. -/
def code : StackError → String
  | overflow _ => "marksweep::stack::overflow"
  | underflow _ _ => "marksweep::stack::underflow"

/-- What to do about the error. -/
def help : StackError → String
  | overflow _ => "pop roots you no longer need, or raise `stack_max`"
  | underflow _ _ => "`pair` consumes the two topmost roots; `pop` needs at least one"

end StackError

end RootedHeap
