import RootedHeap.Proofs.Encodings
import RootedHeap.Proofs.Scanning

/-!
# Labels of script errors

Wherever a source is at fault, the error points at a part of it (`labels_valid`). A fault of a
lexeme is pointed at by the characters that the lexeme is made of (`exists_covers_of_lexFrom`), and
a character that starts no lexeme is one by itself (`fault_of_decode`). A fault of a row of tokens
is pointed at by a token, of which none is empty (`Splits.exists_covers`), or it is that an operand
is missing (`points_of_readOps`). The latter is said just of the sources that end where an operation
needs an operand (`EndsWithin`).
-/

open RootedHeap.Text (byteLength byteLength_append)

namespace RootedHeap

/-- The bytes that an error points at. -/
def ScriptError.span (e : ScriptError) : Span := ⟨e.offset, e.offset + e.length⟩

namespace Script

/-- The faults of a lexeme. The others are those of a row of tokens. -/
def Fault.isLexical : Fault → Bool
  | unexpectedCharacter _ | missingSlotIndex | slotIndexOutOfRange | missingDigits
  | integerOutOfRange => true
  | _ => false

/-- An operand is missing. -/
def Fault.isMissingOperand : Fault → Bool
  | missingInteger _ | missingSlotReference _ => true
  | _ => false

/-- A source ends where an operation needs an operand: its tokens can be gone on with to a row of
operations, and are none. -/
def EndsWithin (source : String) : Prop :=
  ∃ tokens, lex source = .ok tokens ∧ Viable (tokens.map Token.kind) ∧
    ∀ ops, ¬ Encodes ops (tokens.map Token.kind)

/-- A part of a text that starts at byte `pos` is what is in a span. -/
def Covers (pos : Nat) (cs : List Char) (span : Span) (text : List Char) : Prop :=
  ∃ before after, cs = before ++ (text ++ after) ∧
    span = ⟨pos + byteLength before, pos + byteLength before + byteLength text⟩

/-- Where a reader fails: at a token of a row, or for lack of an operand at the end of a source of
`size` bytes. -/
inductive Points (size : Nat) (tokens : List Token) : ScriptError → Prop
  | token {token : Token} {fault : Fault} : token ∈ tokens → fault.isLexical = false →
      fault.isMissingOperand = false → Points size tokens (.atSpan fault token.span)
  | atEnd {fault : Fault} : fault.isMissingOperand = true → Points size tokens ⟨fault, size, 0⟩

end Script

/-- An error points at a part of a source. It points at a byte or more unless the source ends where
an operation needs an operand, and then it says so at the end of the source. For a character that
starts no token it points at this character. -/
structure ScriptError.PointsInto (e : ScriptError) (source : String) : Prop where
  cuts : e.span.Cuts source
  atEnd : Script.EndsWithin source →
    e.fault.isMissingOperand = true ∧ e.offset = source.utf8ByteSize ∧ e.length = 0
  nonempty : ¬ Script.EndsWithin source → e.fault.isMissingOperand = false ∧ 1 ≤ e.length
  character : ∀ c, e.fault = .unexpectedCharacter c → Script.textOf source e.span = some [c]

namespace Script

section
variable {source : String} {pos size : Nat} {word : String} {first : Char}
  {cs others front text : List Char} {token : Token} {tokens rest : List Token} {span : Span}
  {fault : Fault} {op : Op} {e : ScriptError}

/-! ## Parts of a text -/

/-- A part of what follows is a part of the whole. -/
theorem Covers.append_left (hcovers : Covers (pos + byteLength front) cs span text) :
    Covers pos (front ++ cs) span text := by
  obtain ⟨before, after, rfl, rfl⟩ := hcovers
  refine ⟨front ++ before, after, by rw [List.append_assoc], ?_⟩
  rw [byteLength_append, Nat.add_assoc]

/-- What is in a span of a source is cut out of it. -/
theorem Covers.textOf_eq (hcovers : Covers 0 source.toList span text) :
    textOf source span = some text := by
  obtain ⟨before, after, heq, rfl⟩ := hcovers
  rw [Nat.zero_add]
  exact Script.textOf_eq heq

/-- A span is as long as what is in it. -/
theorem Covers.length_eq (hcovers : Covers pos cs span text) : span.length = byteLength text := by
  obtain ⟨before, after, -, rfl⟩ := hcovers
  exact Nat.add_sub_cancel_left _ _

/-- What is in a span takes a byte at least, unless it is nothing. -/
theorem Covers.one_le_length (hcovers : Covers pos cs span text) (hne : text ≠ []) :
    1 ≤ span.length := by
  have hpos : byteLength text ≠ 0 := fun hzero => hne (byteLength_eq_zero.1 hzero)
  rw [hcovers.length_eq]
  omega

/-- An error points at as many bytes as it says. -/
theorem length_span (e : ScriptError) : e.span.length = e.length :=
  Nat.add_sub_cancel_left _ _

/-- An error at a span points at it. -/
theorem span_atSpan (hle : span.start ≤ span.stop) :
    (ScriptError.atSpan fault span).span = span := by
  have hstop : span.start + (span.stop - span.start) = span.stop := Nat.add_sub_cancel' hle
  rw [ScriptError.span, ScriptError.atSpan, Span.length, hstop]

/-! ## Faults of lexemes -/

/-- No operand is missing where a lexeme is at fault. -/
theorem isMissingOperand_of_isLexical (hlexical : fault.isLexical = true) :
    fault.isMissingOperand = false := by
  cases fault with
  | missingInteger | missingSlotReference => cases hlexical
  | _ => rfl

/-- An integer is at fault if it is out of range. -/
theorem fault_of_decodeInt {negative : Bool} {digits : List Char}
    (hdecode : decodeInt negative digits = .error fault) : fault = .integerOutOfRange := by
  unfold decodeInt at hdecode
  extract_lets value at hdecode
  split at hdecode
  · cases hdecode
  · cases hdecode
    rfl

/-- A slot reference is at fault if its slot is out of range. -/
theorem fault_of_decodeRef {digits : List Char} (hdecode : decodeRef digits = .error fault) :
    fault = .slotIndexOutOfRange := by
  unfold decodeRef at hdecode
  split at hdecode
  · cases hdecode
  · cases hdecode
    rfl

/-- What is at fault is a lexeme. If it is its first character, then no others go on with it. -/
theorem fault_of_decode (hdecode : decode first others = .error fault) :
    fault.isLexical = true ∧
      ∀ c, fault = .unexpectedCharacter c → c = first ∧ ∀ d, continues first d = false := by
  unfold decode at hdecode
  split at hdecode
  · cases hdecode
  next halpha =>
  split at hdecode
  · cases fault_of_decodeInt hdecode
    exact ⟨rfl, fun _ hc => nomatch hc⟩
  next hdigit =>
  split at hdecode
  · split at hdecode
    · cases hdecode
      exact ⟨rfl, fun _ hc => nomatch hc⟩
    · cases fault_of_decodeInt hdecode
      exact ⟨rfl, fun _ hc => nomatch hc⟩
  next hminus =>
  split at hdecode
  · split at hdecode
    · cases hdecode
      exact ⟨rfl, fun _ hc => nomatch hc⟩
    · cases fault_of_decodeRef hdecode
      exact ⟨rfl, fun _ hc => nomatch hc⟩
  next hsharp =>
  cases hdecode
  refine ⟨rfl, ?_⟩
  rintro c ⟨⟩
  exact ⟨rfl, fun d => by simp [continues, halpha, hdigit, hminus, hsharp]⟩

/-- If a text is at fault, the error points at a lexeme that is. -/
theorem exists_covers_of_lexFrom (he : lexFrom pos cs = .error e) :
    ∃ first others, Covers pos cs e.span (first :: others) ∧
      decode first others = .error e.fault ∧ ∀ c ∈ others, continues first c = true := by
  fun_induction lexFrom pos cs with
  | case1 => cases he
  | case2 pos cs start first rest hskip others span fault =>
    rename_i hdecode
    obtain ⟨gap, hcs, hstart, -⟩ := exists_gap_of_skipGap false pos cs
    rw [hskip] at hcs hstart
    cases he
    refine ⟨first, others, ⟨gap, rest.dropWhile (continues first), ?_, ?_⟩, hdecode, ?_⟩
    · rw [hcs, List.cons_append, List.takeWhile_append_dropWhile]
    · rw [span_atSpan (Nat.le_add_right _ _), ← hstart]
    · intro c hc
      exact List.mem_takeWhile_imp hc
  | case3 pos cs start first rest hskip others span kind hdecode =>
    rename_i ih
    obtain ⟨gap, hcs, hstart, -⟩ := exists_gap_of_skipGap false pos cs
    rw [hskip] at hcs hstart
    cases hlex : lexFrom span.stop (rest.dropWhile (continues first)) with
    | ok tokens =>
      rw [hlex] at he
      cases he
    | error e' =>
      rw [hlex] at he
      cases he
      obtain ⟨first', others', hcovers, hfault⟩ := ih hlex
      have hstop : span.stop = pos + byteLength (gap ++ first :: others) := by
        rw [byteLength_append, ← Nat.add_assoc, ← hstart]
      rw [hstop] at hcovers
      have hcs' : cs = (gap ++ first :: others) ++ rest.dropWhile (continues first) := by
        rw [hcs, List.append_assoc, List.cons_append, List.takeWhile_append_dropWhile]
      rw [hcs']
      exact ⟨first', others', hcovers.append_left, hfault⟩

/-! ## Faults of rows of tokens -/

/-- A token is what some characters of its text stand for. -/
theorem Splits.exists_covers (hsplits : Splits pos cs tokens) (htoken : token ∈ tokens) :
    ∃ text, Covers pos cs token.span text ∧ text ≠ [] := by
  induction hsplits with
  | last => cases htoken
  | @token pos gap lexeme rest kind tokens _ hdenotes _ _ ih =>
    rcases List.mem_cons.1 htoken with rfl | htoken
    · obtain ⟨first, others, rfl, -⟩ := hdenotes.isLexeme.exists_cons
      exact ⟨first :: others, ⟨gap, rest, rfl, rfl⟩, List.cons_ne_nil _ _⟩
    · obtain ⟨text, hcovers, hne⟩ := ih htoken
      rw [Nat.add_assoc, ← byteLength_append] at hcovers
      refine ⟨text, ?_, hne⟩
      rw [← List.append_assoc]
      exact hcovers.append_left

/-- A place in a row is one in a longer row. -/
theorem Points.mono (hpoints : Points size rest e) (hsubset : rest ⊆ tokens) :
    Points size tokens e := by
  cases hpoints with
  | token htoken hlexical hmissing => exact .token (hsubset htoken) hlexical hmissing
  | atEnd hmissing => exact .atEnd hmissing

/-- Where reading an integer fails. -/
theorem points_of_readInt (he : readInt size word rest = .error e) : Points size rest e := by
  rcases rest with _ | ⟨⟨kind, span⟩, rest⟩
  · cases he
    exact .atEnd rfl
  · cases kind with
    | int n =>
      simp only [readInt] at he
      split at he
      · cases he
      · cases he
        exact .token (List.mem_cons_self) rfl rfl
    | word text =>
      cases he
      exact .token (List.mem_cons_self) rfl rfl
    | ref slot =>
      cases he
      exact .token (List.mem_cons_self) rfl rfl

/-- Where reading a slot reference fails. -/
theorem points_of_readRef (he : readRef size word rest = .error e) : Points size rest e := by
  rcases rest with _ | ⟨⟨kind, span⟩, rest⟩
  · cases he
    exact .atEnd rfl
  · cases kind with
    | int n =>
      cases he
      exact .token List.mem_cons_self rfl rfl
    | word text =>
      cases he
      exact .token List.mem_cons_self rfl rfl
    | ref slot => cases he

/-- Where reading two slot references fails. -/
theorem points_of_readRefs (he : readRefs size word rest = .error e) : Points size rest e := by
  cases hfirst : readRef size word rest with
  | error e' =>
    rw [readRefs_of_error hfirst] at he
    cases he
    exact points_of_readRef hfirst
  | ok target =>
    rw [readRefs_of_ok hfirst, map_eq_error_iff] at he
    exact (points_of_readRef he).mono (List.tail_sublist rest).subset

/-- Where reading an operation fails. -/
theorem points_of_readOp (he : readOp size token rest = .error e) :
    Points size (token :: rest) e := by
  have hrest : rest ⊆ token :: rest := List.subset_cons_self token rest
  unfold readOp at he
  split at he
  · exact (points_of_readInt (map_eq_error_iff.1 he)).mono hrest
  · cases he
  · cases he
  · exact (points_of_readRef (map_eq_error_iff.1 he)).mono hrest
  · exact (points_of_readRef (map_eq_error_iff.1 he)).mono hrest
  · exact (points_of_readRefs (map_eq_error_iff.1 he)).mono hrest
  · exact (points_of_readRefs (map_eq_error_iff.1 he)).mono hrest
  · cases he
  · cases he
  · cases he
  · cases he
  · cases he
    exact .token List.mem_cons_self rfl rfl
  · cases he
    exact .token List.mem_cons_self rfl rfl
  · cases he
    exact .token List.mem_cons_self rfl rfl

/-- Where reading operations fails. -/
theorem points_of_readOps (he : readOps size tokens = .error e) : Points size tokens e := by
  fun_induction readOps size tokens with
  | case1 => cases he
  | case2 token rest ih =>
    cases hop : readOp size token rest with
    | error e' =>
      rw [hop] at he
      cases he
      exact points_of_readOp hop
    | ok op =>
      rw [hop] at he
      refine (ih op (map_eq_error_iff.1 he)).mono ?_
      exact List.Subset.trans (List.drop_subset _ rest) (List.subset_cons_self token rest)

/-! ## Sources -/

/-- A token of a source is in it, and takes a byte at least. -/
theorem cuts_of_lex (hlex : lex source = .ok tokens) (htoken : token ∈ tokens) :
    token.span.Cuts source ∧ 1 ≤ token.span.length := by
  obtain ⟨text, hcovers, hne⟩ := (splits_of_lexFrom hlex).exists_covers htoken
  exact ⟨cuts_of_textOf hcovers.textOf_eq, hcovers.one_le_length hne⟩

/-- The end of a source is between characters. -/
theorem cuts_end (source : String) :
    Span.Cuts ⟨source.utf8ByteSize, source.utf8ByteSize⟩ source := by
  have happend : source.toList = source.toList ++ ([] ++ []) := by simp
  rw [utf8ByteSize_eq]
  exact cuts_of_append happend

/-- If a lexeme is at fault, the error points at it. -/
theorem pointsInto_of_lex (he : lex source = .error e) : e.PointsInto source := by
  obtain ⟨first, others, hcovers, hdecode, hothers⟩ := exists_covers_of_lexFrom he
  obtain ⟨hlexical, hcharacter⟩ := fault_of_decode hdecode
  have hnot : ¬ EndsWithin source := by
    rintro ⟨tokens, hlex, -⟩
    rw [he] at hlex
    cases hlex
  refine ⟨cuts_of_textOf hcovers.textOf_eq, fun h => absurd h hnot, fun _ => ⟨?_, ?_⟩, ?_⟩
  · exact isMissingOperand_of_isLexical hlexical
  · rw [← length_span e]
    exact hcovers.one_le_length (List.cons_ne_nil _ _)
  · intro c hc
    obtain ⟨rfl, hnone⟩ := hcharacter c hc
    -- What goes on with a lexeme that nothing goes on with is nothing.
    have hnil : others = [] := List.eq_nil_iff_forall_not_mem.2 fun d hd => by
      simpa [hnone d] using hothers d hd
    rw [hcovers.textOf_eq, hnil]

/-- A source ends where an operation needs an operand if the error points at no byte. -/
theorem endsWithin_iff (hlex : lex source = .ok tokens)
    (hblames : Blames source.utf8ByteSize tokens e) : EndsWithin source ↔ e.length = 0 := by
  cases hblames with
  | @token pre post token htokens _ hnot _ hlength =>
    refine iff_of_false ?_ ?_
    · rintro ⟨tokens', hlex', ⟨ops, more, hencodes⟩, -⟩
      cases hlex.symm.trans hlex'
      -- The tokens cannot be gone on with, as those up to the one to blame cannot.
      refine hnot ⟨ops, post.map Token.kind ++ more, ?_⟩
      rw [← List.append_assoc, ← List.map_append, List.append_assoc, List.singleton_append,
        ← htokens]
      exact hencodes
    · have htoken : token ∈ tokens := by simp [htokens]
      have := (cuts_of_lex hlex htoken).2
      omega
  | atEnd hviable hnone _ hlength => exact iff_of_true ⟨tokens, hlex, hviable, hnone⟩ hlength

/-- If a row of tokens is at fault, the error points at a token or at the end of the source. -/
theorem pointsInto_of_readOps (hlex : lex source = .ok tokens)
    (he : readOps source.utf8ByteSize tokens = .error e) : e.PointsInto source := by
  obtain ⟨passed, hstops, hviable⟩ := readOps_stops he
  have hends := endsWithin_iff hlex (hstops.blames hviable (by simp [he]))
  cases points_of_readOps he with
  | @token token fault htoken hlexical hmissing =>
    obtain ⟨hcuts, hlength⟩ := cuts_of_lex hlex htoken
    have hnot : ¬ EndsWithin source := fun h =>
      absurd (hends.1 h) (Nat.one_le_iff_ne_zero.1 hlength)
    refine ⟨?_, fun h => absurd h hnot, fun _ => ⟨hmissing, hlength⟩, ?_⟩
    · rwa [span_atSpan hcuts.start_le]
    · rintro c rfl
      cases hlexical
  | @atEnd fault hmissing =>
    refine ⟨cuts_end source, fun _ => ⟨hmissing, rfl, rfl⟩, fun h => absurd (hends.2 rfl) h, ?_⟩
    rintro c rfl
    cases hmissing

/-- No text that lexing cuts out of a source starts or stops within a character. If parsing fails,
then the error points at a part of the source. It points at a byte or more, unless the source ends
where an operation needs an operand, in which case it points at its end; and at a character that
starts no token it points by itself. -/
theorem labels_valid (source : String) :
    (∀ span ∈ (scan source).cuts, span.Cuts source) ∧ (scan source).result = some (lex source) ∧
    ∀ e, parse source = .error e → e.PointsInto source := by
  obtain ⟨hcuts, hresult⟩ := comesTo_scan source
  refine ⟨hcuts, hresult, fun e he => ?_⟩
  cases hlex : lex source with
  | error e' =>
    rw [parse, hlex] at he
    cases he
    exact pointsInto_of_lex hlex
  | ok tokens =>
    rw [parse_of_lex hlex] at he
    exact pointsInto_of_readOps hlex he

/-- A comment in letters of more than one byte, and then a character of three bytes that starts no
token. -/
theorem labels_valid_unexpected :
    parse "pop // é\n €1" = .error ⟨.unexpectedCharacter '€', 11, 3⟩ ∧
    textOf "pop // é\n €1" ⟨11, 14⟩ = some ['€'] ∧ Span.Cuts ⟨0, 3⟩ "pop // é\n €1" := by
  have hparse : parse "pop // é\n €1" = .error ⟨.unexpectedCharacter '€', 11, 3⟩ := by
    decide +kernel
  have hcut : (⟨0, 3⟩ : Span) ∈ (scan "pop // é\n €1").cuts := by
    decide +kernel
  obtain ⟨hcuts, -, hpoints⟩ := labels_valid "pop // é\n €1"
  exact ⟨hparse, (hpoints _ hparse).character '€' rfl, hcuts _ hcut⟩

end

end Script

end RootedHeap
