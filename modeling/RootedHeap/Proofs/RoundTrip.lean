import RootedHeap.Proofs.Lexemes
import RootedHeap.Proofs.Encodings
import Mathlib.Data.List.Forall2

/-!
# Operations as they are written

An operation is written as its name and its operands, each operand after a space
(`exists_operandTexts`), and each of these denotes its token: the digits of a number have its value
(`denotes_toString`, `denotes_refText`), so they fit as it does. In front of a text that goes on
with no lexeme they are lexed one by one (`Lexes.lexeme_append`), and a gap in front of a text makes
no difference to its tokens (`Lexes.gap_append`).

So a row of operations that is written with gaps in between has the tokens of its operations
(`lexes_written`), and reading them gives back the operations (`parse_written`).
-/

open RootedHeap.Text (byteLength byteLength_append)

namespace RootedHeap.Script

/-- A text has tokens of these kinds, wherever it starts. -/
def Lexes (cs : List Char) (kinds : List TokenKind) : Prop :=
  ∀ pos, ∃ tokens, Splits pos cs tokens ∧ tokens.map Token.kind = kinds

/-- A text that goes on with no lexeme: it is empty, or it starts with a separator or a comment. -/
def Parts (cs : List Char) : Prop := ∀ c, cs.head? = some c → c ∈ separators ∨ c = '/'

/-- Operations as they are written in a row, each of them with a gap after it. -/
def written (items : List (Op × List Char)) : List Char :=
  items.flatMap fun item => item.1.text.toList ++ item.2

section
variable {pos : Nat} {atEnd : Bool} {gap gap' lexeme rest : List Char} {kind : TokenKind}
  {kinds : List TokenKind} {tokens : List Token}

/-! ## Texts with gaps -/

/-- A gap may stand at the end of a source. -/
theorem Gap.last (hgap : Gap false gap) : Gap true gap := by
  generalize hatEnd : false = atEnd at hgap
  induction hgap with
  | nil => exact .nil
  | separator hc _ ih => exact .separator hc (ih hatEnd)
  | comment htext _ ih => exact .comment htext (ih hatEnd)
  | lastComment => cases hatEnd

/-- Two gaps are one. -/
theorem Gap.append (hgap : Gap false gap) (hgap' : Gap atEnd gap') : Gap atEnd (gap ++ gap') := by
  generalize hfalse : false = atEnd' at hgap
  induction hgap with
  | nil => exact hgap'
  | separator hc _ ih => exact .separator hc (ih hfalse)
  | comment htext _ ih =>
    rw [List.cons_append, List.cons_append, List.append_assoc, List.cons_append]
    exact .comment htext (ih hfalse)
  | lastComment => cases hfalse

/-- A gap goes on with no lexeme. -/
theorem Gap.parts (hgap : Gap atEnd gap) : Parts gap := by
  intro c hc
  cases hgap with
  | nil => cases hc
  | separator hsep =>
    cases hc
    exact .inl hsep
  | comment | lastComment =>
    cases hc
    exact .inr rfl

/-- What a gap is followed by makes no difference, unless it is empty. -/
theorem Parts.append (hparts : Parts gap) (hrest : gap = [] → Parts rest) :
    Parts (gap ++ rest) := by
  cases gap with
  | nil => exact hrest rfl
  | cons c cs => exact hparts

/-- A text that starts with a gap splits like the text after the gap. -/
theorem Splits.gap_append (hgap : Gap false gap)
    (hsplits : Splits (pos + byteLength gap) rest tokens) : Splits pos (gap ++ rest) tokens := by
  cases hsplits with
  | last hrest => exact .last (hgap.append hrest)
  | @token _ gap' lexeme rest kind tokens hgap' hdenotes hmaximal hsplits =>
    have hbytes : pos + byteLength gap + byteLength gap' = pos + byteLength (gap ++ gap') := by
      rw [byteLength_append, Nat.add_assoc]
    rw [hbytes] at hsplits ⊢
    rw [← List.append_assoc]
    exact .token (hgap.append hgap') hdenotes hmaximal hsplits

/-- A gap has no tokens. -/
theorem lexes_gap (hgap : Gap false gap) : Lexes gap [] :=
  fun _ => ⟨[], .last hgap.last, rfl⟩

/-- A gap in front of a text makes no difference to its tokens. -/
theorem Lexes.gap_append (hlexes : Lexes rest kinds) (hgap : Gap false gap) :
    Lexes (gap ++ rest) kinds := by
  intro pos
  obtain ⟨tokens, hsplits, hkinds⟩ := hlexes (pos + byteLength gap)
  exact ⟨tokens, hsplits.gap_append hgap, hkinds⟩

/-- A lexeme that goes on is followed by no separator and no comment. -/
theorem Parts.maximal (hparts : Parts rest) (hlexeme : IsLexeme lexeme) : Maximal lexeme rest := by
  obtain ⟨first, others, rfl, -⟩ := hlexeme.exists_cons
  rw [maximal_iff hlexeme]
  intro c hc
  have hother : c.isAlphanum = false ∧ c.isDigit = false ∧ c ≠ '_' := by
    rcases hparts c hc with hsep | rfl
    · simp only [separators, List.mem_cons, List.not_mem_nil, or_false] at hsep
      rcases hsep with rfl | rfl | rfl | rfl | rfl <;> decide
    · decide
  simp [continues, hother]

/-- In front of a text that does not go on with it, a lexeme is one token more. -/
theorem Lexes.lexeme_append (hlexes : Lexes rest kinds) (hdenotes : Denotes lexeme kind)
    (hparts : Parts rest) : Lexes (lexeme ++ rest) (kind :: kinds) := by
  intro pos
  obtain ⟨tokens, hsplits, hkinds⟩ := hlexes (pos + byteLength [] + byteLength lexeme)
  have hmaximal := hparts.maximal hdenotes.isLexeme
  exact ⟨_, .token .nil hdenotes hmaximal hsplits, congrArg (kind :: ·) hkinds⟩

/-- A space is a gap. -/
theorem gap_space : Gap false [' '] := .separator (.head _) .nil

/-- Lexemes after a space each are as many tokens. -/
theorem Lexes.lexemes_append {lexemes : List (List Char)} {kinds' : List TokenKind}
    (hlexes : Lexes rest kinds) (hdenotes : List.Forall₂ Denotes lexemes kinds')
    (hparts : Parts rest) :
    Lexes (lexemes.flatMap (' ' :: ·) ++ rest) (kinds' ++ kinds) ∧
      Parts (lexemes.flatMap (' ' :: ·) ++ rest) := by
  induction hdenotes with
  | nil => exact ⟨hlexes, hparts⟩
  | @cons lexeme kind lexemes kinds' hdenotes _ ih =>
    rw [List.flatMap_cons, List.append_assoc]
    exact ⟨(ih.1.lexeme_append hdenotes ih.2).gap_append gap_space, gap_space.parts.append nofun⟩

/-! ## Operations -/

/-- The digits of a number are a numeral. -/
theorem isNumeral_toDigits (n : Nat) : IsNumeral (Nat.toDigits 10 n) :=
  ⟨Nat.toDigits_ne_nil, fun _ => Nat.isDigit_of_mem_toDigits (by decide) (by decide)⟩

/-- A slot is written as a slot reference. -/
theorem denotes_refText (slot : UInt64) : Denotes (Op.refText slot).toList (.ref slot) := by
  have htext : (Op.refText slot).toList = '#' :: Nat.toDigits 10 slot.toNat := by
    simp [Op.refText]
  rw [htext]
  exact .ref (isNumeral_toDigits _) Nat.ofDigitChars_ten_toDigits.symm

/-- An integer is written as one. -/
theorem denotes_toString (value : Int32) :
    Denotes (toString value.toInt).toList (.int value.toInt64) := by
  have hvalue := Int32.toInt_toInt64 value
  rw [Int.toString_eq_repr]
  cases hn : value.toInt with
  | ofNat n =>
    rw [hn] at hvalue
    rw [Int.repr, Nat.toList_repr]
    refine .int (isNumeral_toDigits n) ?_
    rw [hvalue, Nat.ofDigitChars_ten_toDigits]
    rfl
  | negSucc n =>
    rw [hn] at hvalue
    have htext : ("-" ++ n.succ.repr).toList = '-' :: Nat.toDigits 10 (n + 1) := by simp
    rw [Int.repr, htext]
    refine .negative (isNumeral_toDigits _) ?_
    rw [hvalue, Nat.ofDigitChars_ten_toDigits]
    rfl

/-- The name of an operation is a word in lower case. -/
theorem denotes_name {op : Op} {word : String} (hword : word ∈ op.spellings) :
    Denotes word.toList (.word word) := by
  have hnames : IsWord word.toList ∧ word.toList.map Char.toLower = word.toList := by
    cases op <;> simp only [Op.spellings, List.mem_cons, List.not_mem_nil, or_false] at hword
    case collect => rcases hword with rfl | rfl <;> simp [IsWord]
    all_goals
      subst hword
      simp [IsWord]
  have hdenotes := Denotes.word hnames.1
  rwa [hnames.2, String.ofList_toList] at hdenotes

/-- An operation is written as its name and its operands, with a space before each operand. -/
theorem exists_operandTexts (op : Op) : ∃ word ∈ op.spellings, ∃ lexemes,
    op.text.toList = word.toList ++ lexemes.flatMap (' ' :: ·) ∧
    List.Forall₂ Denotes lexemes op.operands := by
  cases op with
  | int value =>
    exact ⟨"int", .head _, [(toString value.toInt).toList], by simp [Op.text],
      .cons (denotes_toString value) .nil⟩
  | push slot =>
    exact ⟨"push", .head _, [(Op.refText slot).toList], by simp [Op.text],
      .cons (denotes_refText slot) .nil⟩
  | inspect slot =>
    exact ⟨"show", .head _, [(Op.refText slot).toList], by simp [Op.text],
      .cons (denotes_refText slot) .nil⟩
  | setHead target value =>
    exact ⟨"sethead", .head _, [(Op.refText target).toList, (Op.refText value).toList],
      by simp [Op.text], .cons (denotes_refText target) (.cons (denotes_refText value) .nil)⟩
  | setTail target value =>
    exact ⟨"settail", .head _, [(Op.refText target).toList, (Op.refText value).toList],
      by simp [Op.text], .cons (denotes_refText target) (.cons (denotes_refText value) .nil)⟩
  | pair => exact ⟨"pair", .head _, [], rfl, .nil⟩
  | pop => exact ⟨"pop", .head _, [], rfl, .nil⟩
  | collect => exact ⟨"collect", .head _, [], rfl, .nil⟩
  | stats => exact ⟨"stats", .head _, [], rfl, .nil⟩
  | roots => exact ⟨"roots", .head _, [], rfl, .nil⟩

/-- In front of a text that goes on with no lexeme, an operation is its tokens more. -/
theorem Lexes.op_append (hlexes : Lexes rest kinds) (op : Op) (hparts : Parts rest) :
    ∃ word ∈ op.spellings,
      Lexes (op.text.toList ++ rest) (.word word :: (op.operands ++ kinds)) := by
  obtain ⟨word, hword, lexemes, htext, hdenotes⟩ := exists_operandTexts op
  obtain ⟨hlexes, hparts⟩ := hlexes.lexemes_append hdenotes hparts
  refine ⟨word, hword, ?_⟩
  rw [htext, List.append_assoc]
  exact hlexes.lexeme_append (denotes_name hword) hparts

/-! ## Rows of operations -/

/-- Operations that are written in a row, with gaps in between, have the tokens that encode them. -/
theorem lexes_written (items : List (Op × List Char)) (hgaps : ∀ item ∈ items, Gap false item.2)
    (hbetween : ∀ item ∈ items.dropLast, item.2 ≠ []) :
    ∃ kinds, Lexes (written items) kinds ∧ Encodes (items.map Prod.fst) kinds := by
  induction items with
  | nil => exact ⟨[], lexes_gap .nil, .nil⟩
  | cons item items ih =>
    obtain ⟨op, gap⟩ := item
    obtain ⟨hgap, hgaps⟩ := List.forall_mem_cons.1 hgaps
    -- Only after the last operation may the gap be empty, and there nothing follows.
    have hrest : gap = [] → items = [] := by
      intro hempty
      by_contra hne
      rw [List.dropLast_cons_of_ne_nil hne] at hbetween
      exact hbetween _ (.head _) hempty
    have hbetween' : ∀ item ∈ items.dropLast, item.2 ≠ [] := by
      intro item hitem
      have hne : items ≠ [] := by
        rintro rfl
        cases hitem
      rw [List.dropLast_cons_of_ne_nil hne] at hbetween
      exact hbetween item (.tail _ hitem)
    obtain ⟨kinds, hlexes, hencodes⟩ := ih hgaps hbetween'
    have hparts : Parts (gap ++ written items) := by
      refine hgap.parts.append fun hempty => ?_
      rw [hrest hempty]
      nofun
    obtain ⟨word, hword, hop⟩ := (hlexes.gap_append hgap).op_append op hparts
    refine ⟨_, ?_, .cons hword hencodes⟩
    rwa [written, List.flatMap_cons, List.append_assoc]

/-- Operations that are written in a row are read back. There is a gap before them and one after
each of them, which may be empty only after the last. -/
theorem parse_written (before : List Char) (items : List (Op × List Char))
    (hbefore : Gap false before) (hgaps : ∀ item ∈ items, Gap false item.2)
    (hbetween : ∀ item ∈ items.dropLast, item.2 ≠ []) :
    parse (String.ofList (before ++ written items)) = .ok (items.map Prod.fst) := by
  obtain ⟨kinds, hlexes, hencodes⟩ := lexes_written items hgaps hbetween
  obtain ⟨tokens, hsplits, hkinds⟩ := hlexes.gap_append hbefore 0
  have hlex : lex (String.ofList (before ++ written items)) = .ok tokens := by
    rw [lex, String.toList_ofList, hsplits.lexFrom_eq]
  rw [parse_of_lex hlex, hencodes.readOps_eq hkinds]

/-- The least integer and the greatest slot, with a comment before them, between them a comment that
directly follows the integer, and a semicolon after them. -/
theorem parse_written_extremes :
    parse "// é\nint -2147483648// 日\r\npush #18446744073709551615;" =
      .ok [.int (-2147483648), .push 18446744073709551615] := by
  have hbefore : Gap false ['/', '/', ' ', 'é', '\n'] :=
    @Gap.comment _ [' ', 'é'] [] (by decide) .nil
  have hbetween : Gap false ['/', '/', ' ', '日', '\r', '\n'] :=
    @Gap.comment _ [' ', '日', '\r'] [] (by decide) .nil
  have hafter : Gap false [';'] := .separator (by decide) .nil
  have hparse := parse_written ['/', '/', ' ', 'é', '\n']
    [(.int (-2147483648), ['/', '/', ' ', '日', '\r', '\n']), (.push 18446744073709551615, [';'])]
    hbefore (by simp [hbetween, hafter]) (by simp)
  have hsource : String.ofList (['/', '/', ' ', 'é', '\n'] ++
      written [(.int (-2147483648), ['/', '/', ' ', '日', '\r', '\n']),
        (.push 18446744073709551615, [';'])]) =
      "// é\nint -2147483648// 日\r\npush #18446744073709551615;" := by
    decide +kernel
  rwa [hsource] at hparse

end

end RootedHeap.Script
