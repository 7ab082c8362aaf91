import RootedHeap.Script.Parser
import Mathlib.Data.List.Basic

/-!
# The grammar of operations

An operation is written as a row of tokens: a word that names it (`Op.spellings`) and its operands
(`Op.operands`). A row of tokens is a script if it is made up of such rows (`Encodes`), and it is
viable if it can be gone on with to a script (`Viable`).

The reader accepts just the scripts (`readOps_eq_ok_iff`). What it makes of the next operation is
decided by the tokens of this operation alone (`readOp_eq_ok`, `words_of_readOp`), and where it
stops it would stop whatever followed (`Stops`): so the tokens before are viable, and with the one
that it points at they are not, because all scripts are accepted (`readOps_stops`, `Stops.blames`).
-/

namespace RootedHeap.Script

namespace Op

/-- The words that name an operation. -/
def spellings : Op → List String
  | int _ => ["int"]
  | pair => ["pair"]
  | pop => ["pop"]
  | push _ => ["push"]
  | inspect _ => ["show"]
  | setHead _ _ => ["sethead"]
  | setTail _ _ => ["settail"]
  | collect => ["collect", "gc"]
  | stats => ["stats"]
  | roots => ["roots"]

/-- The tokens that follow the name of an operation. -/
def operands : Op → List TokenKind
  | int value => [.int value.toInt64]
  | push slot | inspect slot => [.ref slot]
  | setHead target value | setTail target value => [.ref target, .ref value]
  | pair | pop | collect | stats | roots => []

end Op

/-- A row of tokens is made up of operations. -/
inductive Encodes : List Op → List TokenKind → Prop
  | nil : Encodes [] []
  | cons {op : Op} {ops : List Op} {word : String} {kinds : List TokenKind} :
      word ∈ op.spellings → Encodes ops kinds →
      Encodes (op :: ops) (.word word :: (op.operands ++ kinds))

/-- A row of tokens can be gone on with to one that is made up of operations. -/
def Viable (kinds : List TokenKind) : Prop := ∃ ops more, Encodes ops (kinds ++ more)

/-- An error points at the first token that cannot go on with those before it, or at the end of a
source of `size` bytes if the tokens can be gone on with but are no script. -/
inductive Blames (size : Nat) (tokens : List Token) (e : ScriptError) : Prop
  | token {pre post : List Token} {token : Token} : tokens = pre ++ token :: post →
      Viable (pre.map Token.kind) → ¬ Viable ((pre ++ [token]).map Token.kind) →
      e.offset = token.span.start → e.length = token.span.length → Blames size tokens e
  | atEnd : Viable (tokens.map Token.kind) → (∀ ops, ¬ Encodes ops (tokens.map Token.kind)) →
      e.offset = size → e.length = 0 → Blames size tokens e

/-- Where a reader stops: at a token which it would stop at whatever followed, or at the end of a
source of `size` bytes. It has gone past the tokens before. -/
inductive Stops {α : Type} (size : Nat) (read : List Token → Except ScriptError α) :
    (tokens passed : List Token) → ScriptError → Prop
  | token {passed post : List Token} {token : Token} {fault : Fault} :
      (∀ post, read (passed ++ token :: post) = .error (.atSpan fault token.span)) →
      Stops size read (passed ++ token :: post) passed (.atSpan fault token.span)
  | atEnd {passed : List Token} {fault : Fault} : Stops size read passed passed ⟨fault, size, 0⟩

section
variable {α β : Type} {size : Nat} {word : String} {value : Int32} {slot : UInt64}
  {token : Token} {tokens rest passed : List Token} {op : Op} {ops : List Op} {e : ScriptError}
  {kinds more : List TokenKind} {read : List Token → Except ScriptError α}

/-! ## Operands -/

/-- A reader succeeds with another answer if it succeeds. -/
theorem map_eq_ok_iff {f : α → β} {b : β} {x : Except ScriptError α} :
    f <$> x = .ok b ↔ ∃ a, x = .ok a ∧ f a = b := by
  cases x <;> simp

/-- A reader fails with another answer if it fails. -/
theorem map_eq_error_iff {f : α → β} {x : Except ScriptError α} :
    f <$> x = .error e ↔ x = .error e := by
  cases x <;> simp

/-- An integer that fits 32 bits is the same one in 64. -/
theorem toInt64_ofInt {n : Int64} (hmin : Int32.minValue.toInt ≤ n.toInt)
    (hmax : n.toInt ≤ Int32.maxValue.toInt) : (Int32.ofInt n.toInt).toInt64 = n := by
  have hmin' : Int32.minValue.toInt = -2 ^ 31 := rfl
  have hmax' : Int32.maxValue.toInt = 2 ^ 31 - 1 := rfl
  rw [← Int64.toInt_inj, Int32.toInt_toInt64, Int32.toInt_ofInt_of_le] <;> omega

/-- An integer is read if it comes next and fits 32 bits. -/
theorem readInt_eq_ok_iff :
    readInt size word rest = .ok value ↔ [.int value.toInt64] <+: rest.map Token.kind := by
  rcases rest with _ | ⟨⟨kind, span⟩, rest⟩
  · simp [readInt]
  · cases kind with
    | int n =>
      simp only [readInt, List.map_cons, List.cons_prefix_cons, TokenKind.int.injEq,
        List.nil_prefix, and_true]
      constructor
      · intro hok
        split at hok
        · next hfits =>
          cases hok
          exact toInt64_ofInt hfits.1 hfits.2
        · cases hok
      · rintro rfl
        rw [Int32.toInt_toInt64, if_pos ⟨value.minValue_le_toInt, value.toInt_le⟩,
          Int32.ofInt_toInt]
    | word | ref => simp [readInt]

/-- A slot reference is read if it comes next. -/
theorem readRef_eq_ok_iff :
    readRef size word rest = .ok slot ↔ [.ref slot] <+: rest.map Token.kind := by
  rcases rest with _ | ⟨⟨kind, span⟩, rest⟩
  · simp [readRef]
  · cases kind <;> simp [readRef, eq_comm]

/-- Two slot references are read if they come next. -/
theorem readRefs_eq_ok_iff {target value : UInt64} :
    readRefs size word rest = .ok (target, value) ↔
      [.ref target, .ref value] <+: rest.map Token.kind := by
  have hbind : readRefs size word rest = .ok (target, value) ↔
      readRef size word rest = .ok target ∧ readRef size word rest.tail = .ok value := by
    unfold readRefs
    cases readRef size word rest <;> cases readRef size word rest.tail <;>
      simp [bind, Except.bind, pure, Except.pure]
  rw [hbind, readRef_eq_ok_iff, readRef_eq_ok_iff]
  cases rest <;> simp [List.cons_prefix_cons]

/-! ## Operations -/

/-- The operation that is read is named by its word, and its operands come next. -/
theorem words_of_readOp (hok : readOp size token rest = .ok op) :
    ∃ word ∈ op.spellings, token.kind = .word word ∧ op.operands <+: rest.map Token.kind := by
  unfold readOp at hok
  split at hok
  case h_1 hkind =>
    obtain ⟨value, hread, rfl⟩ := map_eq_ok_iff.1 hok
    exact ⟨_, .head _, hkind, readInt_eq_ok_iff.1 hread⟩
  case h_4 hkind | h_5 hkind =>
    obtain ⟨slot, hread, rfl⟩ := map_eq_ok_iff.1 hok
    exact ⟨_, .head _, hkind, readRef_eq_ok_iff.1 hread⟩
  case h_6 hkind | h_7 hkind =>
    obtain ⟨⟨target, value⟩, hread, rfl⟩ := map_eq_ok_iff.1 hok
    exact ⟨_, .head _, hkind, readRefs_eq_ok_iff.1 hread⟩
  case h_2 hkind | h_3 hkind | h_8 hkind | h_10 hkind | h_11 hkind =>
    cases hok
    exact ⟨_, .head _, hkind, List.nil_prefix⟩
  case h_9 hkind =>
    cases hok
    exact ⟨_, .tail _ (.head _), hkind, List.nil_prefix⟩
  case h_12 | h_13 | h_14 => cases hok

/-- An operation is read if its word and its operands come next. -/
theorem readOp_eq_ok (hword : word ∈ op.spellings) (hkind : token.kind = .word word)
    (hoperands : op.operands <+: rest.map Token.kind) : readOp size token rest = .ok op := by
  cases op with
  | int value =>
    obtain rfl := List.mem_singleton.1 hword
    simp only [readOp, hkind, readInt_eq_ok_iff.2 hoperands, Except.map_ok]
  | push slot | inspect slot =>
    obtain rfl := List.mem_singleton.1 hword
    simp only [readOp, hkind, readRef_eq_ok_iff.2 hoperands, Except.map_ok]
  | setHead target value | setTail target value =>
    obtain rfl := List.mem_singleton.1 hword
    simp only [readOp, hkind, readRefs_eq_ok_iff.2 hoperands, Except.map_ok]
  | collect =>
    rcases List.mem_pair.1 hword with rfl | rfl <;> simp only [readOp, hkind]
  | pair | pop | stats | roots =>
    obtain rfl := List.mem_singleton.1 hword
    simp only [readOp, hkind]

/-- The number of operands. -/
theorem length_operands (op : Op) : op.operands.length = op.operandCount := by
  cases op <;> rfl

/-- The operation that is read takes up its word and its operands. -/
theorem take_of_readOp (hop : readOp size token rest = .ok op) :
    ∃ word ∈ op.spellings, token.kind = .word word ∧
      (rest.take op.operandCount).map Token.kind = op.operands := by
  obtain ⟨word, hword, hkind, hoperands⟩ := words_of_readOp hop
  refine ⟨word, hword, hkind, ?_⟩
  rw [List.map_take, ← length_operands, ← List.prefix_iff_eq_take.1 hoperands]

/-! ## Rows of operations -/

/-- After an operation the rest is read. -/
theorem readOps_of_ok (hop : readOp size token rest = .ok op) :
    readOps size (token :: rest) = (op :: ·) <$> readOps size (rest.drop op.operandCount) := by
  rw [readOps, hop]
  rfl

/-- A row that does not start with an operation is none. -/
theorem readOps_of_error (hop : readOp size token rest = .error e) :
    readOps size (token :: rest) = .error e := by
  rw [readOps, hop]
  rfl

/-- A row of operations is read, and then what follows it. -/
theorem Encodes.readOps_append (hencodes : Encodes ops kinds)
    (hkinds : tokens.map Token.kind = kinds) (later : List Token) :
    readOps size (tokens ++ later) = (ops ++ ·) <$> readOps size later := by
  induction hencodes generalizing tokens with
  | nil =>
    rw [List.map_eq_nil_iff.1 hkinds]
    exact (id_map _).symm
  | @cons op ops word kinds hword _ ih =>
    obtain ⟨token, rest, rfl, hkind, hrest⟩ := List.map_eq_cons_iff.1 hkinds
    have hop : readOp size token (rest ++ later) = .ok op := by
      refine readOp_eq_ok hword hkind ?_
      rw [List.map_append, hrest, List.append_assoc]
      exact List.prefix_append _ _
    have hlength : op.operandCount ≤ rest.length := by
      have hlength := congrArg List.length hrest
      rw [List.length_map, List.length_append, length_operands] at hlength
      omega
    have hdrop : (rest.drop op.operandCount).map Token.kind = kinds := by
      rw [List.map_drop, hrest, ← length_operands, List.drop_left]
    rw [List.cons_append, readOps_of_ok hop, List.drop_append_of_le_length hlength, ih hdrop,
      Functor.map_map]
    rfl

/-- A row of operations is read. -/
theorem Encodes.readOps_eq (hencodes : Encodes ops kinds) (hkinds : tokens.map Token.kind = kinds) :
    readOps size tokens = .ok ops := by
  have happend : readOps size (tokens ++ []) = (ops ++ ·) <$> readOps size [] :=
    hencodes.readOps_append hkinds []
  rwa [List.append_nil, readOps, Except.map_ok, List.append_nil] at happend

/-- What is read is a row of operations. -/
theorem encodes_of_readOps (hok : readOps size tokens = .ok ops) :
    Encodes ops (tokens.map Token.kind) := by
  fun_induction readOps size tokens generalizing ops with
  | case1 =>
    cases hok
    exact .nil
  | case2 token rest ih =>
    cases hop : readOp size token rest with
    | error e =>
      rw [hop] at hok
      cases hok
    | ok op =>
      rw [hop] at hok
      obtain ⟨ops', hrest, rfl⟩ := map_eq_ok_iff.1 hok
      obtain ⟨word, hword, hkind, htake⟩ := take_of_readOp hop
      rw [List.map_cons, hkind, ← List.take_append_drop op.operandCount rest, List.map_append,
        htake]
      exact .cons hword (ih op hrest)

/-- A row of tokens is read just if it is made up of operations. -/
theorem readOps_eq_ok_iff : readOps size tokens = .ok ops ↔ Encodes ops (tokens.map Token.kind) :=
  ⟨encodes_of_readOps, fun hencodes => hencodes.readOps_eq rfl⟩

/-! ## Where reading stops -/

/-- A reader that fails at the next token stops there. -/
theorem Stops.here (token : Token) {fault : Fault}
    (hfails : ∀ post, read (token :: post) = .error (.atSpan fault token.span)) :
    Stops size read (token :: rest) [] (.atSpan fault token.span) :=
  @Stops.token _ _ _ [] rest token fault hfails

/-- A reader that goes past some tokens, and then fails if another reader does, stops where that one
stops. -/
theorem Stops.after {next : List Token → Except ScriptError β}
    (hstops : Stops size next rest passed e) (front : List Token)
    (hnext : ∀ rest e, next rest = .error e → read (front ++ rest) = .error e) :
    Stops size read (front ++ rest) (front ++ passed) e := by
  cases hstops with
  | @token passed post last fault hfails =>
    rw [← List.append_assoc]
    refine .token fun post => ?_
    rw [List.append_assoc]
    exact hnext _ _ (hfails post)
  | atEnd => exact .atEnd

/-- A reader that fails if another one does stops where that one stops. -/
theorem Stops.imp {next : List Token → Except ScriptError β}
    (hstops : Stops size next rest passed e)
    (hnext : ∀ rest e, next rest = .error e → read rest = .error e) :
    Stops size read rest passed e :=
  hstops.after [] hnext

/-- Where an integer is needed, reading stops at the next token. -/
theorem readInt_stops (he : readInt size word rest = .error e) :
    Stops size (readInt size word) rest [] e := by
  rcases rest with _ | ⟨⟨kind, span⟩, rest⟩
  · cases he
    exact .atEnd
  · cases kind with
    | int n =>
      simp only [readInt] at he
      split at he
      · cases he
      · next hfits =>
        cases he
        exact .here ⟨.int n, span⟩ fun post => if_neg hfits
    | word text =>
      cases he
      exact .here ⟨.word text, span⟩ fun post => rfl
    | ref slot =>
      cases he
      exact .here ⟨.ref slot, span⟩ fun post => rfl

/-- Where a slot reference is needed, reading stops at the next token. -/
theorem readRef_stops (he : readRef size word rest = .error e) :
    Stops size (readRef size word) rest [] e := by
  rcases rest with _ | ⟨⟨kind, span⟩, rest⟩
  · cases he
    exact .atEnd
  · cases kind with
    | int n =>
      cases he
      exact .here ⟨.int n, span⟩ fun post => rfl
    | word text =>
      cases he
      exact .here ⟨.word text, span⟩ fun post => rfl
    | ref slot => cases he

/-- Two slot references are not read if the first is not. -/
theorem readRefs_of_error (he : readRef size word rest = .error e) :
    readRefs size word rest = .error e := by
  rw [readRefs, he]
  rfl

/-- After a slot reference another one is read. -/
theorem readRefs_of_ok {target : UInt64} (hok : readRef size word rest = .ok target) :
    readRefs size word rest = (target, ·) <$> readRef size word rest.tail := by
  rw [readRefs, hok]
  rfl

/-- Where two slot references are needed, reading stops at the first token that is none. -/
theorem readRefs_stops (he : readRefs size word rest = .error e) :
    ∃ passed, Stops size (readRefs size word) rest passed e ∧
      ∃ target value, passed.map Token.kind <+: [.ref target, .ref value] := by
  cases hfirst : readRef size word rest with
  | error e' =>
    rw [readRefs_of_error hfirst] at he
    cases he
    exact ⟨[], (readRef_stops hfirst).imp fun _ _ => readRefs_of_error, 0, 0, List.nil_prefix⟩
  | ok target =>
    rw [readRefs_of_ok hfirst, map_eq_error_iff] at he
    -- The second operand is read by the reader that stops; the first is one token in front of it.
    have hnext := readRef_eq_ok_iff.1 hfirst
    rcases rest with _ | ⟨token, rest⟩
    · cases hfirst
    obtain ⟨hkind, -⟩ := List.cons_prefix_cons.1 hnext
    refine ⟨[token], (readRef_stops he).after [token] ?_, target, 0, by simp [hkind]⟩
    intro rest e he
    have hfirst' : readRef size word (token :: rest) = .ok target :=
      readRef_eq_ok_iff.2 (by simp [hkind])
    rw [List.singleton_append, readRefs_of_ok hfirst', List.tail_cons, he, Except.map_error]

/-- The name of an operation and some of its operands can be gone on with. -/
theorem viable_of_prefix (hword : word ∈ op.spellings) (hkinds : kinds <+: op.operands) :
    Viable (.word word :: kinds) := by
  obtain ⟨more, hmore⟩ := hkinds
  refine ⟨[op], more, ?_⟩
  rw [List.cons_append, hmore, ← List.append_nil op.operands]
  exact .cons hword .nil

/-- Tokens that can be gone on with may stand after an operation. -/
theorem Viable.cons (hword : word ∈ op.spellings) (hviable : Viable kinds) :
    Viable (.word word :: (op.operands ++ kinds)) := by
  obtain ⟨ops, more, hencodes⟩ := hviable
  refine ⟨op :: ops, more, ?_⟩
  rw [List.cons_append, List.append_assoc]
  exact .cons hword hencodes

/-- A token that names no operation is at fault itself. -/
theorem readOp_of_unnamed (hunnamed : ∀ op : Op, ∀ word ∈ op.spellings, token.kind ≠ .word word) :
    ∃ fault, ∀ rest, readOp size token rest = .error (.atSpan fault token.span) := by
  obtain ⟨kind, span⟩ := token
  cases kind with
  | int | ref => exact ⟨.notAnOperation, fun _ => rfl⟩
  | word text =>
    refine ⟨.unknownOperation text, fun rest => ?_⟩
    unfold readOp
    split
    case h_1 hkind => exact absurd hkind (hunnamed (.int 0) _ (.head _))
    case h_2 hkind => exact absurd hkind (hunnamed .pair _ (.head _))
    case h_3 hkind => exact absurd hkind (hunnamed .pop _ (.head _))
    case h_4 hkind => exact absurd hkind (hunnamed (.push 0) _ (.head _))
    case h_5 hkind => exact absurd hkind (hunnamed (.inspect 0) _ (.head _))
    case h_6 hkind => exact absurd hkind (hunnamed (.setHead 0 0) _ (.head _))
    case h_7 hkind => exact absurd hkind (hunnamed (.setTail 0 0) _ (.head _))
    case h_8 hkind => exact absurd hkind (hunnamed .collect _ (.head _))
    case h_9 hkind => exact absurd hkind (hunnamed .collect _ (.tail _ (.head _)))
    case h_10 hkind => exact absurd hkind (hunnamed .stats _ (.head _))
    case h_11 hkind => exact absurd hkind (hunnamed .roots _ (.head _))
    case h_12 hkind => cases hkind; rfl
    case h_13 hkind | h_14 hkind => cases hkind

/-- An operation whose operands are not read stops where its operands stop. -/
theorem Stops.readOp {next : List Token → Except ScriptError β} {f : β → Op}
    (hstops : Stops size next rest passed e) (hword : word ∈ op.spellings)
    (hkind : token.kind = .word word) (hpassed : passed.map Token.kind <+: op.operands)
    (hread : ∀ rest, RootedHeap.Script.readOp size token rest = f <$> next rest) :
    Stops size (RootedHeap.Script.readOp size token) rest passed e ∧
      Viable ((token :: passed).map Token.kind) := by
  refine ⟨hstops.imp fun rest e he => ?_, ?_⟩
  · rw [hread, he, Except.map_error]
  · rw [List.map_cons, hkind]
    exact viable_of_prefix hword hpassed

/-- An operation that is named and not read stops among its operands. -/
theorem readOp_stops (hword : word ∈ op.spellings) (hkind : token.kind = .word word)
    (he : readOp size token rest = .error e) :
    ∃ passed, Stops size (readOp size token) rest passed e ∧
      Viable ((token :: passed).map Token.kind) := by
  cases op with
  | int value =>
    obtain rfl := List.mem_singleton.1 hword
    have hread : ∀ rest, readOp size token rest = .int <$> readInt size "int" rest := by
      intro rest
      simp only [readOp, hkind]
    rw [hread, map_eq_error_iff] at he
    exact ⟨[], (readInt_stops he).readOp hword hkind List.nil_prefix hread⟩
  | push slot =>
    obtain rfl := List.mem_singleton.1 hword
    have hread : ∀ rest, readOp size token rest = .push <$> readRef size "push" rest := by
      intro rest
      simp only [readOp, hkind]
    rw [hread, map_eq_error_iff] at he
    exact ⟨[], (readRef_stops he).readOp hword hkind List.nil_prefix hread⟩
  | inspect slot =>
    obtain rfl := List.mem_singleton.1 hword
    have hread : ∀ rest, readOp size token rest = .inspect <$> readRef size "show" rest := by
      intro rest
      simp only [readOp, hkind]
    rw [hread, map_eq_error_iff] at he
    exact ⟨[], (readRef_stops he).readOp hword hkind List.nil_prefix hread⟩
  | setHead =>
    obtain rfl := List.mem_singleton.1 hword
    have hread : ∀ rest, readOp size token rest =
        (fun targets => .setHead targets.1 targets.2) <$> readRefs size "sethead" rest := by
      intro rest
      simp only [readOp, hkind]
    rw [hread, map_eq_error_iff] at he
    obtain ⟨passed, hstops, target, value, hpassed⟩ := readRefs_stops he
    exact ⟨passed, @Stops.readOp _ _ _ _ _ _ (.setHead target value) _ _ _ hstops
      (.head _) hkind hpassed hread⟩
  | setTail =>
    obtain rfl := List.mem_singleton.1 hword
    have hread : ∀ rest, readOp size token rest =
        (fun targets => .setTail targets.1 targets.2) <$> readRefs size "settail" rest := by
      intro rest
      simp only [readOp, hkind]
    rw [hread, map_eq_error_iff] at he
    obtain ⟨passed, hstops, target, value, hpassed⟩ := readRefs_stops he
    exact ⟨passed, @Stops.readOp _ _ _ _ _ _ (.setTail target value) _ _ _ hstops
      (.head _) hkind hpassed hread⟩
  | collect =>
    rcases List.mem_pair.1 hword with rfl | rfl <;> simp only [readOp, hkind, reduceCtorEq] at he
  | pair | pop | stats | roots =>
    obtain rfl := List.mem_singleton.1 hword
    simp only [readOp, hkind, reduceCtorEq] at he

/-- The tokens of an operation are read as this operation, whatever follows them. -/
theorem readOps_append (hop : readOp size token rest = .ok op) (tokens : List Token) :
    readOps size (token :: rest.take op.operandCount ++ tokens) =
      (op :: ·) <$> readOps size tokens := by
  obtain ⟨word, hword, hkind, htake⟩ := take_of_readOp hop
  refine (Encodes.cons hword .nil).readOps_append ?_ tokens
  rw [List.map_cons, hkind, htake, List.append_nil]

/-- Reading stops after tokens that can be gone on with. -/
theorem readOps_stops (he : readOps size tokens = .error e) :
    ∃ passed, Stops size (readOps size) tokens passed e ∧ Viable (passed.map Token.kind) := by
  fun_induction readOps size tokens with
  | case1 => cases he
  | case2 token rest ih =>
    cases hop : readOp size token rest with
    | error e' =>
      rw [hop] at he
      cases he
      by_cases hnamed : ∃ op : Op, ∃ word ∈ op.spellings, token.kind = .word word
      · obtain ⟨op, word, hword, hkind⟩ := hnamed
        obtain ⟨passed, hstops, hviable⟩ := readOp_stops hword hkind hop
        exact ⟨token :: passed, hstops.after [token] fun _ _ => readOps_of_error, hviable⟩
      · obtain ⟨fault, hfails⟩ := readOp_of_unnamed fun op word hword hkind =>
          hnamed ⟨op, word, hword, hkind⟩
        rw [hfails] at hop
        cases hop
        exact ⟨[], .here token fun post => readOps_of_error (hfails post), [], [], .nil⟩
    | ok op =>
      rw [hop] at he
      obtain ⟨passed, hstops, hviable⟩ := ih op (map_eq_error_iff.1 he)
      obtain ⟨word, hword, hkind, htake⟩ := take_of_readOp hop
      refine ⟨token :: rest.take op.operandCount ++ passed, ?_, ?_⟩
      · have hafter : Stops size (readOps size)
            (token :: rest.take op.operandCount ++ rest.drop op.operandCount)
            (token :: rest.take op.operandCount ++ passed) _ :=
          hstops.after _ fun tokens e he => by rw [readOps_append hop, he, Except.map_error]
        rwa [List.cons_append, List.take_append_drop] at hafter
      · rw [List.map_append, List.map_cons, hkind, htake]
        exact hviable.cons hword

/-- Where reading stops after tokens that can be gone on with, the error is to blame on the token
that is next, as all rows of operations are read. -/
theorem Stops.blames (hstops : Stops size (readOps size) tokens passed e)
    (hviable : Viable (passed.map Token.kind)) (hnone : ∀ ops, readOps size tokens ≠ .ok ops) :
    Blames size tokens e := by
  cases hstops with
  | @token _ post token fault hfails =>
    refine .token rfl hviable ?_ rfl rfl
    -- If this token could go on with those before it, some source would start with them and be
    -- read to its end.
    rintro ⟨ops, more, hencodes⟩
    have hok : readOps size (passed ++ token :: more.map (⟨·, 0, 0⟩)) = .ok ops := by
      refine hencodes.readOps_eq ?_
      simp [Function.comp_def]
    rw [hfails] at hok
    cases hok
  | atEnd => exact .atEnd hviable (fun ops hencodes => hnone ops (hencodes.readOps_eq rfl)) rfl rfl

/-! ## Sources -/

/-- The tokens of a source are read. -/
theorem parse_of_lex {source : String} (hlex : lex source = .ok tokens) :
    parse source = readOps source.utf8ByteSize tokens := by
  rw [parse, hlex]
  rfl

/-- The operations of a source are those whose encodings, one after the other, are its tokens, all
of them. If its tokens are no such row, then the error points at the first token that cannot go on
with those before it, or at the end of the source if all tokens can be gone on with. -/
theorem parse_exact (source : String) (tokens : List Token) (hlex : lex source = .ok tokens) :
    (∀ ops, parse source = .ok ops ↔ Encodes ops (tokens.map Token.kind)) ∧
    ((∀ ops, ¬ Encodes ops (tokens.map Token.kind)) →
      ∃ e, parse source = .error e ∧ Blames source.utf8ByteSize tokens e) := by
  rw [parse_of_lex hlex]
  refine ⟨fun ops => readOps_eq_ok_iff, fun hnone => ?_⟩
  cases hread : readOps source.utf8ByteSize tokens with
  | ok ops => exact absurd (encodes_of_readOps hread) (hnone ops)
  | error e =>
    obtain ⟨passed, hstops, hviable⟩ := readOps_stops hread
    exact ⟨e, rfl, hstops.blames hviable (by simp [hread])⟩

/-- An operand of the wrong kind, after two operations and another operand. -/
theorem parse_exact_operand :
    parse "gc pop sethead #0 7" = .error ⟨.notASlotReference, 18, 1⟩ ∧
    Blames 19 [⟨.word "gc", 0, 2⟩, ⟨.word "pop", 3, 6⟩, ⟨.word "sethead", 7, 14⟩, ⟨.ref 0, 15, 17⟩,
      ⟨.int 7, 18, 19⟩] ⟨.notASlotReference, 18, 1⟩ := by
  have hlex : lex "gc pop sethead #0 7" = .ok [⟨.word "gc", 0, 2⟩, ⟨.word "pop", 3, 6⟩,
      ⟨.word "sethead", 7, 14⟩, ⟨.ref 0, 15, 17⟩, ⟨.int 7, 18, 19⟩] := by
    decide +kernel
  have hparse : parse "gc pop sethead #0 7" = .error ⟨.notASlotReference, 18, 1⟩ := by
    decide +kernel
  obtain ⟨hiff, hblames⟩ := parse_exact _ _ hlex
  obtain ⟨e, he, hblames⟩ := hblames fun ops hencodes => by
    have hok := (hiff ops).2 hencodes
    rw [hparse] at hok
    cases hok
  rw [hparse] at he
  cases he
  exact ⟨hparse, hblames⟩

end

end RootedHeap.Script
