import RootedHeap.Script.Lexer

/-!
# From bytes to tokens

`scan` lexes a source on its UTF-8 bytes, one at a time, also within comments. The text of a lexeme
is cut out between two positions, and a cut is refused if they are out of order, out of the source
or within a character (`textOf`). A `Scan` keeps a list of the cuts that it makes, and has no result
after one that is refused. Each token takes up a byte at least, which is why scanning ends
(`lt_stop_of_scanLexeme`).
-/

open RootedHeap.Text (cutBytes)

namespace RootedHeap.Script

/-! ## Positions -/

/-- The byte at a position of a source. -/
def byte? (source : String) (pos : Nat) : Option UInt8 := source.toByteArray.data[pos]?

/-- A byte is an ASCII character of some kind. -/
def isAscii (p : Char → Bool) (b : UInt8) : Bool := b < 128 && p (Char.ofUInt8 b)

/-- A position has a byte just if it is within the source. -/
theorem lt_of_byte? {source : String} {pos : Nat} {b : UInt8} (hb : byte? source pos = some b) :
    pos < source.utf8ByteSize :=
  (Array.getElem?_eq_some_iff.1 hb).1

/-- Passes over bytes of a kind. -/
def passWhile (source : String) (p : UInt8 → Bool) (pos : Nat) : Nat :=
  match _hb : byte? source pos with
  | none => pos
  | some b => if p b then passWhile source p (pos + 1) else pos
termination_by source.utf8ByteSize - pos
decreasing_by
  have := lt_of_byte? _hb
  omega

/-- Passing over bytes goes no way back. -/
theorem le_passWhile (source : String) (p : UInt8 → Bool) (pos : Nat) :
    pos ≤ passWhile source p pos := by
  fun_induction passWhile source p pos with
  | case1 | case3 => exact Nat.le_refl _
  | case2 pos b hb hp ih => omega

/-- What passing over bytes does at a byte. -/
theorem passWhile_of_byte? {source : String} {p : UInt8 → Bool} {pos : Nat} {b : UInt8}
    (hb : byte? source pos = some b) :
    passWhile source p pos = if p b then passWhile source p (pos + 1) else pos := by
  rw [passWhile]
  split
  · next heq =>
    rw [hb] at heq
    cases heq
  · next heq =>
    rw [hb] at heq
    cases heq
    rfl

/-- A byte of the kind is passed over. -/
theorem lt_passWhile {source : String} {p : UInt8 → Bool} {pos : Nat} {b : UInt8}
    (hb : byte? source pos = some b) (hp : p b = true) : pos < passWhile source p pos := by
  rw [passWhile_of_byte? hb, if_pos hp]
  exact le_passWhile source p (pos + 1)

/-- A slash is no end of a line. -/
theorem not_isAscii_newline {b : UInt8} (hb : isAscii (· = '/') b = true) :
    (!isAscii (· = '\n') b) = true := by
  simp only [isAscii, Bool.and_eq_true, decide_eq_true_eq] at hb
  simp [isAscii, hb.2]

/-- Passes over separators and comments. -/
def skipSeparators (source : String) (pos : Nat) : Nat :=
  match _hb : byte? source pos with
  | none => pos
  | some b =>
    if isAscii isSeparator b then skipSeparators source (pos + 1)
    else if _hslash : isAscii (· = '/') b && (byte? source (pos + 1)).any (isAscii (· = '/')) then
      skipSeparators source (passWhile source (!isAscii (· = '\n') ·) pos)
    else pos
termination_by source.utf8ByteSize - pos
decreasing_by
  · have := lt_of_byte? _hb
    omega
  · have := lt_of_byte? _hb
    have := lt_passWhile (p := (!isAscii (· = '\n') ·)) _hb
      (not_isAscii_newline (Bool.and_eq_true_iff.1 _hslash).1)
    omega

/-- Passing over separators and comments goes no way back. -/
theorem le_skipSeparators (source : String) (pos : Nat) : pos ≤ skipSeparators source pos := by
  fun_induction skipSeparators source pos with
  | case1 | case4 => exact Nat.le_refl _
  | case2 pos b hb hsep ih => omega
  | case3 pos b hb hsep hslash ih =>
    have := le_passWhile source (!isAscii (· = '\n') ·) pos
    omega

/-- The text in a span; none if the span does not lie between two positions between characters. -/
def textOf (source : String) (span : Span) : Option (List Char) := do
  let (_, rest) ← cutBytes span.start source.toList
  let (text, _) ← if span.start ≤ span.stop then cutBytes (span.stop - span.start) rest else none
  return text

/-- What a part of a scan comes to, and the cuts that it makes. There is no result after a cut that
is refused. -/
structure Scan (α : Type) where
  cuts : List Span
  result : Option (Except ScriptError α)

namespace Scan

variable {α β : Type}

/-- A scan that cuts nothing. -/
def ofExcept (result : Except ScriptError α) : Scan α := ⟨[], some result⟩

/-- A scan that cuts out a text. -/
def cut (source : String) (span : Span) : Scan (List Char) :=
  ⟨[span], (textOf source span).map .ok⟩

/-- A scan and then, if it succeeds, another. -/
def bind (s : Scan α) (next : α → Scan β) : Scan β :=
  match s with
  | ⟨cuts, none⟩ => ⟨cuts, none⟩
  | ⟨cuts, some (.error e)⟩ => ⟨cuts, some (.error e)⟩
  | ⟨cuts, some (.ok a)⟩ => ⟨cuts ++ (next a).cuts, (next a).result⟩

/-- A scan with another result. -/
def map (f : α → β) (s : Scan α) : Scan β := ⟨s.cuts, s.result.map (·.map f)⟩

end Scan

/-- The token that is decoded from a span, or the fault. -/
def tokenAt (span : Span) (decoded : Except Fault TokenKind) : Except ScriptError Token :=
  match decoded with
  | .error fault => .error (.atSpan fault span)
  | .ok kind => .ok ⟨kind, span⟩

/-- The integer that a text with or without a sign stands for. -/
def parseInt : List Char → Except Fault TokenKind
  | '-' :: digits => decodeInt true digits
  | digits => decodeInt false digits

/-- Scans a lexeme that ends in digits: they begin at `first`, and what is decoded begins at
`piece`. -/
def scanDigits (source : String) (start first piece : Nat) (missing : Fault)
    (decode : List Char → Except Fault TokenKind) : Scan Token :=
  let stop := passWhile source (isAscii Char.isDigit) first
  if stop = first then .ofExcept (.error ⟨missing, start, 1⟩)
  else (Scan.cut source ⟨piece, stop⟩).bind fun text =>
    .ofExcept (tokenAt ⟨start, stop⟩ (decode text))

/-- Scans a slot reference. -/
def scanRef (source : String) (start : Nat) : Scan Token :=
  scanDigits source start (start + 1) (start + 1) .missingSlotIndex decodeRef

/-- Scans an integer. -/
def scanInt (source : String) (start : Nat) : Scan Token :=
  let first := if (byte? source start).any (isAscii (· = '-')) then start + 1 else start
  scanDigits source start first start .missingDigits parseInt

/-- The characters that words are made of. -/
def isWordPart (c : Char) : Bool := c.isAlphanum || c = '_'

/-- Scans a word. -/
def scanWord (source : String) (start : Nat) : Scan Token :=
  let stop := passWhile source (isAscii isWordPart) start
  (Scan.cut source ⟨start, stop⟩).bind fun text =>
    .ofExcept (.ok ⟨.word (String.ofList (text.map Char.toLower)), start, stop⟩)

/-- Finds out the character that no token starts with. -/
def scanUnexpected (source : String) (start : Nat) : Scan Token :=
  (Scan.cut source ⟨start, source.utf8ByteSize⟩).bind fun text =>
    let found := text.head?.getD '?'
    .ofExcept (.error ⟨.unexpectedCharacter found, start, found.utf8Size⟩)

/-- Scans the lexeme that starts with a byte. -/
def scanLexeme (source : String) (start : Nat) (first : UInt8) : Scan Token :=
  if isAscii (· = '#') first then scanRef source start
  else if isAscii (· = '-') first || isAscii Char.isDigit first then scanInt source start
  else if isAscii Char.isAlpha first then scanWord source start
  else scanUnexpected source start

/-- A scan that is made of two succeeds if both do. -/
theorem Scan.bind_result_eq_ok {α β : Type} {s : Scan α} {next : α → Scan β} {b : β}
    (hok : (s.bind next).result = some (.ok b)) :
    ∃ a, s.result = some (.ok a) ∧ (next a).result = some (.ok b) := by
  obtain ⟨cuts, _ | _ | a⟩ := s
  · cases hok
  · cases hok
  · exact ⟨a, rfl, hok⟩

/-- What is decoded from a span is a token at it. -/
theorem span_of_tokenAt {span : Span} {decoded : Except Fault TokenKind} {token : Token}
    (hok : tokenAt span decoded = .ok token) : token.span = span := by
  cases decoded with
  | error fault => cases hok
  | ok kind =>
    cases hok
    rfl

/-- A token that ends in digits is not empty. -/
theorem lt_stop_of_scanDigits {source : String} {start first piece : Nat} {missing : Fault}
    {decode : List Char → Except Fault TokenKind} {token : Token} (hle : start ≤ first)
    (hok : (scanDigits source start first piece missing decode).result = some (.ok token)) :
    start < token.span.stop := by
  have hdigits := le_passWhile source (isAscii Char.isDigit) first
  unfold scanDigits at hok
  dsimp only at hok
  split at hok
  · cases hok
  · next hne =>
    obtain ⟨text, -, htoken⟩ := Scan.bind_result_eq_ok hok
    rw [span_of_tokenAt (Option.some_inj.1 htoken)]
    show start < passWhile source (isAscii Char.isDigit) first
    omega

/-- A letter goes on with a word. -/
theorem isAscii_of_isAlpha {b : UInt8} (hb : isAscii Char.isAlpha b = true) :
    isAscii isWordPart b = true := by
  unfold isAscii at hb ⊢
  rw [Bool.and_eq_true] at hb ⊢
  exact ⟨hb.1, by simp [isWordPart, Char.isAlphanum, hb.2]⟩

/-- A token is not empty. -/
theorem lt_stop_of_scanLexeme {source : String} {start : Nat} {first : UInt8} {token : Token}
    (hfirst : byte? source start = some first)
    (hok : (scanLexeme source start first).result = some (.ok token)) :
    start < token.span.stop := by
  unfold scanLexeme at hok
  split at hok
  · exact lt_stop_of_scanDigits (Nat.le_succ start) hok
  split at hok
  · refine lt_stop_of_scanDigits ?_ hok
    split <;> omega
  split at hok
  · next halpha =>
    obtain ⟨text, -, htoken⟩ := Scan.bind_result_eq_ok hok
    cases htoken
    exact lt_passWhile hfirst (isAscii_of_isAlpha halpha)
  · obtain ⟨text, -, htoken⟩ := Scan.bind_result_eq_ok hok
    cases htoken

/-- Scans the tokens from a position on. -/
def scanFrom (source : String) (pos : Nat) : Scan (List Token) :=
  match _hfirst : byte? source (skipSeparators source pos) with
  | none => .ofExcept (.ok [])
  | some first =>
    match _htoken : scanLexeme source (skipSeparators source pos) first with
    | ⟨cuts, none⟩ => ⟨cuts, none⟩
    | ⟨cuts, some (.error e)⟩ => ⟨cuts, some (.error e)⟩
    | ⟨cuts, some (.ok token)⟩ =>
      let rest := (scanFrom source token.span.stop).map (token :: ·)
      ⟨cuts ++ rest.cuts, rest.result⟩
termination_by source.utf8ByteSize - pos
decreasing_by
  have := lt_of_byte? _hfirst
  have := le_skipSeparators source pos
  have := lt_stop_of_scanLexeme _hfirst (by rw [_htoken])
  omega

/-- Scans a source. -/
def scan (source : String) : Scan (List Token) := scanFrom source 0

end RootedHeap.Script
