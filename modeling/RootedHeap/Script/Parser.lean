import RootedHeap.Script.Lexer
import RootedHeap.Script.Op

/-!
# From tokens to operations

A script is a row of operations: a word and as many operands as the operation takes, with nothing in
between that the tokens would show. The first token that cannot go on with the operations read so
far is at fault; if the source ends within an operation, the fault is at its end.
-/

namespace RootedHeap.Script

/-- The integer that a row of tokens starts with, as an operand of `word`. The source is `size`
bytes long. -/
def readInt (size : Nat) (word : String) : List Token → Except ScriptError Int32
  | [] => .error ⟨.missingInteger word, size, 0⟩
  | ⟨.int value, span⟩ :: _ =>
    if Int32.minValue.toInt ≤ value.toInt ∧ value.toInt ≤ Int32.maxValue.toInt then
      .ok (Int32.ofInt value.toInt)
    else .error (.atSpan .integerTooWide span)
  | token :: _ => .error (.atSpan .notAnInteger token.span)

/-- The slot reference that a row of tokens starts with, as an operand of `word`. -/
def readRef (size : Nat) (word : String) : List Token → Except ScriptError UInt64
  | [] => .error ⟨.missingSlotReference word, size, 0⟩
  | ⟨.ref slot, _⟩ :: _ => .ok slot
  | token :: _ => .error (.atSpan .notASlotReference token.span)

/-- The two slot references that a row of tokens starts with, as operands of `word`. -/
def readRefs (size : Nat) (word : String) (tokens : List Token) :
    Except ScriptError (UInt64 × UInt64) := do
  let first ← readRef size word tokens
  let second ← readRef size word tokens.tail
  return (first, second)

/-- The operation that starts with a token, its operands being the first of the tokens after it. -/
def readOp (size : Nat) (token : Token) (rest : List Token) : Except ScriptError Op :=
  match token.kind with
  | .word "int" => .int <$> readInt size "int" rest
  | .word "pair" => .ok .pair
  | .word "pop" => .ok .pop
  | .word "push" => .push <$> readRef size "push" rest
  | .word "show" => .inspect <$> readRef size "show" rest
  | .word "sethead" => (fun (pair, value) => .setHead pair value) <$> readRefs size "sethead" rest
  | .word "settail" => (fun (pair, value) => .setTail pair value) <$> readRefs size "settail" rest
  | .word "collect" | .word "gc" => .ok .collect
  | .word "stats" => .ok .stats
  | .word "roots" => .ok .roots
  | .word other => .error (.atSpan (.unknownOperation other) token.span)
  | .int _ | .ref _ => .error (.atSpan .notAnOperation token.span)

/-- The operations that a row of tokens stands for. -/
def readOps (size : Nat) : List Token → Except ScriptError (List Op)
  | [] => .ok []
  | token :: rest => do
    let op ← readOp size token rest
    let ops ← readOps size (rest.drop op.operandCount)
    return op :: ops
termination_by tokens => tokens.length
decreasing_by simp only [List.length_drop, List.length_cons]; omega

/-- The operations of a source, or its first fault. All of it is split into tokens first. -/
def parse (source : String) : Except ScriptError (List Op) := do
  let tokens ← lex source
  readOps source.utf8ByteSize tokens

end RootedHeap.Script
