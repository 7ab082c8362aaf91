import RootedHeap.Proofs.Lexemes
import RootedHeap.Proofs.Encodings

/-!
# Sources joined by a newline

Two sources with a newline between them are lexed one after the other (`lexFrom_newline`). The
newline ends what the first one leaves open, be it a comment, a number or a word, and it makes
neither a comment of a lone `/` nor a lexeme of a lone `-` or `#`, so that a fault of the first
source stays what it is. Nor does it matter to a text where it starts: its tokens, and its fault,
are only so many bytes further on (`lexFrom_add`), and its operations are the same
(`readOps_shift`).

So a source that is read, a newline and another source are read as the operations of both, or the
error is that of the second one, as many bytes further on; and a first source that is not lexed has
its error whatever follows (`parse_joined`).
-/

open RootedHeap.Text (byteLength byteLength_cons byteLength_append utf8ByteSize_ofList)

namespace RootedHeap

/-- A span `n` bytes further on. -/
def Span.shift (n : Nat) (span : Span) : Span := ⟨n + span.start, n + span.stop⟩

/-- A token `n` bytes further on. -/
def Script.Token.shift (n : Nat) (token : Token) : Token :=
  { token with span := token.span.shift n }

/-- The same error, `n` bytes further on. -/
def ScriptError.shift (n : Nat) (e : ScriptError) : ScriptError := { e with offset := n + e.offset }

/-- The error at a span that is further on. -/
theorem ScriptError.shift_atSpan (n : Nat) (fault : Script.Fault) (span : Span) :
    (atSpan fault span).shift n = atSpan fault (span.shift n) := by
  simp only [atSpan, shift, Span.shift, Span.length, Nat.add_sub_add_left]

namespace Script

section
variable {α β : Type} {n pos pos' : Nat} {c first : Char} {cs cs' ds : List Char}
  {tokens : List Token} {ops : List Op}

/-! ## Texts further on -/

/-- A gap that starts further on ends as much further on. -/
theorem skipGap_add (n : Nat) (inComment : Bool) (pos : Nat) (cs : List Char) :
    skipGap inComment (n + pos) cs =
      (n + (skipGap inComment pos cs).1, (skipGap inComment pos cs).2) := by
  fun_induction skipGap inComment pos cs with
  | case1 => rw [skipGap]
  | case2 pos cs ih => rw [skipGap, if_pos rfl, Nat.add_assoc, ih]
  | case3 pos c cs hc ih => rw [skipGap, if_neg hc, Nat.add_assoc, ih]
  | case4 pos cs ih => rw [skipGap, Nat.add_assoc, ih]
  | case5 pos c cs hslash hc ih =>
    rw [skipGap, if_pos hc, Nat.add_assoc, ih]
    exact hslash
  | case6 pos c cs hslash hc =>
    rw [skipGap, if_neg hc]
    exact hslash

/-- A text that starts further on has its tokens, or its fault, as much further on. -/
theorem lexFrom_add (n pos : Nat) (cs : List Char) :
    lexFrom (n + pos) cs =
      (List.map (Token.shift n) <$> lexFrom pos cs).mapError (ScriptError.shift n) := by
  fun_induction lexFrom pos cs with
  | case1 pos cs start hskip =>
    have hskip' := skipGap_add n false pos cs
    rw [hskip] at hskip'
    exact lexFrom_eq_nil hskip'
  | case2 pos cs start first rest hskip others span fault hdecode =>
    have hskip' := skipGap_add n false pos cs
    rw [hskip] at hskip'
    rw [lexFrom_of_error hskip' hdecode, Nat.add_assoc]
    exact congrArg Except.error (ScriptError.shift_atSpan n fault span).symm
  | case3 pos cs start first rest hskip others span kind hdecode ih =>
    have hskip' := skipGap_add n false pos cs
    rw [hskip] at hskip'
    rw [lexFrom_of_ok hskip' hdecode, Nat.add_assoc, ih]
    cases lexFrom span.stop (rest.dropWhile (continues first)) <;> rfl

/-- An error that is shifted is so whatever is made of the answer. -/
theorem mapError_map (f : α → β) (g : ScriptError → ScriptError) (x : Except ScriptError α) :
    (f <$> x).mapError g = f <$> x.mapError g := by
  cases x <;> rfl

/-- An integer is read alike further on. -/
theorem readInt_shift (n size : Nat) (word : String) (tokens : List Token) :
    readInt (n + size) word (tokens.map (Token.shift n)) =
      (readInt size word tokens).mapError (ScriptError.shift n) := by
  rcases tokens with _ | ⟨⟨kind, span⟩, rest⟩
  · rfl
  · cases kind with
    | int value =>
      simp only [List.map_cons, Token.shift, readInt]
      split
      · rfl
      · exact congrArg Except.error (ScriptError.shift_atSpan n _ span).symm
    | word | ref => exact congrArg Except.error (ScriptError.shift_atSpan n _ span).symm

/-- A slot reference is read alike further on. -/
theorem readRef_shift (n size : Nat) (word : String) (tokens : List Token) :
    readRef (n + size) word (tokens.map (Token.shift n)) =
      (readRef size word tokens).mapError (ScriptError.shift n) := by
  rcases tokens with _ | ⟨⟨kind, span⟩, rest⟩
  · rfl
  · cases kind with
    | ref => rfl
    | word | int => exact congrArg Except.error (ScriptError.shift_atSpan n _ span).symm

/-- Two slot references are read alike further on. -/
theorem readRefs_shift (n size : Nat) (word : String) (tokens : List Token) :
    readRefs (n + size) word (tokens.map (Token.shift n)) =
      (readRefs size word tokens).mapError (ScriptError.shift n) := by
  rw [readRefs, readRefs, ← List.map_tail, readRef_shift, readRef_shift]
  cases readRef size word tokens with
  | error e => rfl
  | ok first => cases readRef size word tokens.tail <;> rfl

/-- An operation is read alike further on. -/
theorem readOp_shift (n size : Nat) (token : Token) (rest : List Token) :
    readOp (n + size) (token.shift n) (rest.map (Token.shift n)) =
      (readOp size token rest).mapError (ScriptError.shift n) := by
  obtain ⟨kind, span⟩ := token
  simp only [readOp, Token.shift]
  split
  case h_1 => rw [readInt_shift, mapError_map]
  case h_4 | h_5 => rw [readRef_shift, mapError_map]
  case h_6 | h_7 => rw [readRefs_shift, mapError_map]
  case h_2 | h_3 | h_8 | h_9 | h_10 | h_11 => rfl
  case h_12 | h_13 | h_14 => exact congrArg Except.error (ScriptError.shift_atSpan n _ span).symm

/-- Tokens that are further on, in a source that ends as much further on, are read alike. -/
theorem readOps_shift (n size : Nat) (tokens : List Token) :
    readOps (n + size) (tokens.map (Token.shift n)) =
      (readOps size tokens).mapError (ScriptError.shift n) := by
  fun_induction readOps size tokens with
  | case1 =>
    rw [List.map_nil, readOps]
    rfl
  | case2 token rest ih =>
    have hshift := readOp_shift n size token rest
    cases hop : readOp size token rest with
    | error e =>
      rw [hop] at hshift
      exact readOps_of_error hshift
    | ok op =>
      rw [hop] at hshift
      rw [List.map_cons, readOps_of_ok hshift, ← List.map_drop, ih]
      exact (mapError_map _ _ _).symm

/-! ## Texts before a newline -/

/-- A newline makes no comment of a slash. -/
theorem not_comment_newline (hslash : ∀ cs', c = '/' → cs = '/' :: cs' → False)
    (cs' : List Char) (hc : c = '/') (heq : cs ++ '\n' :: ds = '/' :: cs') : False := by
  cases cs with
  | nil => cases heq
  | cons d cs =>
    rw [List.cons_append, List.cons.injEq] at heq
    exact hslash cs hc (by rw [heq.1])

/-- A gap that goes on to the newline goes on after it, outside any comment. -/
theorem skipGap_newline (inComment : Bool) (pos : Nat) (cs ds : List Char) :
    skipGap inComment pos (cs ++ '\n' :: ds) =
      match skipGap inComment pos cs with
      | (start, []) => skipGap false (start + 1) ds
      | (start, first :: rest) => (start, first :: (rest ++ '\n' :: ds)) := by
  fun_induction skipGap inComment pos cs with
  | case1 inComment pos => cases inComment <;> simp [skipGap, isSeparator]
  | case2 pos cs ih => rw [List.cons_append, skipGap, if_pos rfl, ih]
  | case3 pos c cs hc ih => rw [List.cons_append, skipGap, if_neg hc, ih]
  | case4 pos cs ih => rw [List.cons_append, List.cons_append, skipGap, ih]
  | case5 pos c cs hslash hc ih =>
    rw [List.cons_append, skipGap, if_pos hc, ih]
    exact not_comment_newline hslash
  | case6 pos c cs hslash hc =>
    rw [List.cons_append, skipGap, if_neg hc]
    exact not_comment_newline hslash

/-- No lexeme goes on with a newline. -/
theorem takeWhile_newline (first : Char) (cs ds : List Char) :
    (cs ++ '\n' :: ds).takeWhile (continues first) = cs.takeWhile (continues first) ∧
    (cs ++ '\n' :: ds).dropWhile (continues first) =
      cs.dropWhile (continues first) ++ '\n' :: ds := by
  have hnewline : continues first '\n' = false := by simp [continues]
  induction cs with
  | nil => simp [hnewline]
  | cons c cs ih => cases hc : continues first c <;> simp [hc, ih]

/-- A gap and what follows it are the text. -/
theorem byteLength_skipGap (inComment : Bool) (pos : Nat) (cs : List Char) :
    (skipGap inComment pos cs).1 + byteLength (skipGap inComment pos cs).2 =
      pos + byteLength cs := by
  obtain ⟨gap, hcs, hpos, -⟩ := exists_gap_of_skipGap inComment pos cs
  rw [hpos, Nat.add_assoc, ← byteLength_append, ← hcs]

/-- What is taken up by a lexeme and what is left are the text. -/
theorem byteLength_takeWhile (p : Char → Bool) (cs : List Char) :
    byteLength (cs.takeWhile p) + byteLength (cs.dropWhile p) = byteLength cs := by
  rw [← byteLength_append, List.takeWhile_append_dropWhile]

/-- A text is lexed as the text that is left when its gap is skipped. -/
theorem lexFrom_congr (hskip : skipGap false pos cs = skipGap false pos' cs') :
    lexFrom pos cs = lexFrom pos' cs' := by
  rw [lexFrom, lexFrom, hskip]

/-- Two texts with a newline between them are lexed one after the other. -/
theorem lexFrom_newline (pos : Nat) (cs ds : List Char) :
    lexFrom pos (cs ++ '\n' :: ds) =
      lexFrom pos cs >>= fun tokens =>
        (tokens ++ ·) <$> lexFrom (pos + byteLength cs + 1) ds := by
  fun_induction lexFrom pos cs with
  | case1 pos cs start hskip =>
    have hskip' := skipGap_newline false pos cs ds
    have hbytes := byteLength_skipGap false pos cs
    rw [hskip] at hskip' hbytes
    rw [← hbytes, lexFrom_congr hskip']
    exact (id_map _).symm
  | case2 pos cs start first rest hskip others span fault hdecode =>
    have hskip' := skipGap_newline false pos cs ds
    rw [hskip] at hskip'
    obtain ⟨htake, -⟩ := takeWhile_newline first rest ds
    rw [lexFrom_of_error hskip' (by rw [htake, hdecode]), htake]
    rfl
  | case3 pos cs start first rest hskip others span kind hdecode ih =>
    have hskip' := skipGap_newline false pos cs ds
    have hbytes := byteLength_skipGap false pos cs
    rw [hskip] at hskip' hbytes
    obtain ⟨htake, hdrop⟩ := takeWhile_newline first rest ds
    -- What follows the newline starts at the same byte, counted from the end of the lexeme.
    have hend : span.stop + byteLength (rest.dropWhile (continues first)) =
        pos + byteLength cs := by
      have hrest := byteLength_takeWhile (continues first) rest
      simp only [byteLength_cons] at hbytes
      simp only [span, others, byteLength_cons]
      omega
    rw [lexFrom_of_ok hskip' (by rw [htake, hdecode]), htake, hdrop, ih, hend]
    cases lexFrom span.stop (rest.dropWhile (continues first)) with
    | error e => rfl
    | ok tokens => cases lexFrom (pos + byteLength cs + 1) ds <;> rfl

/-! ## Sources -/

/-- The tokens of two sources with a newline between them. -/
theorem lex_newline (s t : String) : lex (s ++ "\n" ++ t) = lex s >>= fun tokens =>
    (tokens ++ ·) <$> (List.map (Token.shift (s.utf8ByteSize + 1)) <$> lex t).mapError
      (ScriptError.shift (s.utf8ByteSize + 1)) := by
  have hchars : (s ++ "\n" ++ t).toList = s.toList ++ '\n' :: t.toList := by simp
  have hstart : 0 + byteLength s.toList + 1 = s.utf8ByteSize + 1 + 0 := by
    rw [← utf8ByteSize_ofList, String.ofList_toList]
    omega
  rw [lex, hchars, lexFrom_newline, hstart, lexFrom_add]
  rfl

/-- After a source that is read, and a newline, another source is read. -/
theorem parse_newline {s : String} (hok : parse s = .ok ops) (t : String) :
    parse (s ++ "\n" ++ t) =
      (ops ++ ·) <$> (parse t).mapError (ScriptError.shift (s.utf8ByteSize + 1)) := by
  have hlex := lex_newline s t
  have hsize : (s ++ "\n" ++ t).utf8ByteSize = s.utf8ByteSize + 1 + t.utf8ByteSize := by
    rw [String.utf8ByteSize_append, String.utf8ByteSize_append]
    rfl
  cases hs : lex s with
  | error e =>
    rw [parse, hs] at hok
    cases hok
  | ok tokens =>
    rw [parse_of_lex hs] at hok
    have hencodes := encodes_of_readOps hok
    rw [hs] at hlex
    cases ht : lex t with
    | error e =>
      rw [ht] at hlex
      rw [parse, hlex, parse, ht]
      rfl
    | ok later =>
      rw [ht] at hlex
      have hlex : lex (s ++ "\n" ++ t) =
        .ok (tokens ++ later.map (Token.shift (s.utf8ByteSize + 1))) := hlex
      rw [parse_of_lex hlex, parse_of_lex ht, hsize, hencodes.readOps_append rfl, readOps_shift]

/-- A source that is read, a newline and another source are read as the operations of both, or they
have the error of the second one, as many bytes further on as the first and the newline take up. A
first source that is not lexed has its error whatever follows the newline. -/
theorem parse_joined (s t : String) :
    (∀ ops, parse s = .ok ops → parse (s ++ "\n" ++ t) =
      match parse t with
      | .ok ops' => .ok (ops ++ ops')
      | .error e => .error (e.shift (s.utf8ByteSize + 1))) ∧
    ∀ e, lex s = .error e → parse (s ++ "\n" ++ t) = .error e := by
  constructor
  · intro ops hok
    rw [parse_newline hok]
    cases parse t <;> rfl
  · intro e he
    rw [parse, lex_newline, he]
    rfl

/-- A first source that ends in a comment, with a character of two bytes, before an operation and
before an operand that is missing; and one that ends in a sign, before digits. -/
theorem parse_joined_open :
    parse "int 1// é" = .ok [.int 1] ∧
    parse ("int 1// é" ++ "\n" ++ "gc") = .ok [.int 1, .collect] ∧
    parse "sethead #0" = .error ⟨.missingSlotReference "sethead", 10, 0⟩ ∧
    parse ("int 1// é" ++ "\n" ++ "sethead #0") =
      .error ⟨.missingSlotReference "sethead", 21, 0⟩ ∧
    lex "pop -" = .error ⟨.missingDigits, 4, 1⟩ ∧
    parse ("pop -" ++ "\n" ++ "1") = .error ⟨.missingDigits, 4, 1⟩ := by
  have hfirst : parse "int 1// é" = .ok [.int 1] := by decide +kernel
  have hop : parse "gc" = .ok [.collect] := by decide +kernel
  have hmissing : parse "sethead #0" = .error ⟨.missingSlotReference "sethead", 10, 0⟩ := by
    decide +kernel
  have hsign : lex "pop -" = .error ⟨.missingDigits, 4, 1⟩ := by decide +kernel
  refine ⟨hfirst, ?_, hmissing, ?_, hsign, (parse_joined "pop -" "1").2 _ hsign⟩
  · rw [(parse_joined "int 1// é" "gc").1 _ hfirst, hop]
    rfl
  · rw [(parse_joined "int 1// é" "sethead #0").1 _ hfirst, hmissing]
    rfl

end

end Script

end RootedHeap
