import RootedHeap.Script.Lexer
import Mathlib.Data.List.TakeWhile

/-!
# The lexical grammar

A source is a row of lexemes with gaps around them. `Gap` says what may stand between lexemes,
`IsLexeme` what a lexeme looks like, and `Denotes` which token it stands for, if the value of its
digits fits. A lexeme is as long as it can be (`Maximal`). A source that is made up in this way
splits into the tokens that its lexemes denote, each with the bytes that its lexeme takes up
(`Splits`).

Lexing finds this split, and fails if there is none (`lex_exact`). It skips a gap as far as one goes
(`exists_gap_of_skipGap`, `skipGap_append`). The characters that go on with a lexeme are those by
which it can be longer (`isLexeme_concat`), so that it takes the longest one, and it decodes a row
of them just if this denotes a token (`decode_of_denotes`, `denotes_of_decode`).
-/

open RootedHeap.Text (byteLength byteLength_nil byteLength_cons byteLength_append digitsValue
  utf8ByteSize_ofList)

namespace RootedHeap.Script

/-! ## The grammar -/

/-- The characters that separate lexemes, apart from comments. -/
def separators : List Char := [' ', '\t', '\r', '\n', ';']

/-- A text between lexemes: separators, and comments with the ends of their lines. The last comment
of a source may go on to its end. -/
inductive Gap : (atEnd : Bool) → List Char → Prop
  | nil {atEnd : Bool} : Gap atEnd []
  | separator {atEnd : Bool} {c : Char} {cs : List Char} : c ∈ separators →
      Gap atEnd cs → Gap atEnd (c :: cs)
  | comment {atEnd : Bool} {text cs : List Char} : '\n' ∉ text → Gap atEnd cs →
      Gap atEnd ('/' :: '/' :: (text ++ '\n' :: cs))
  | lastComment {text : List Char} : '\n' ∉ text → Gap true ('/' :: '/' :: text)

/-- One decimal digit or more. -/
def IsNumeral (cs : List Char) : Prop := cs ≠ [] ∧ ∀ c ∈ cs, c.isDigit = true

/-- A letter, and then letters, digits and underscores. -/
def IsWord : List Char → Prop
  | [] => False
  | first :: others => first.isAlpha = true ∧ ∀ c ∈ others, c.isAlphanum = true ∨ c = '_'

/-- What a lexeme looks like: a slot reference, an integer or a word. -/
inductive IsLexeme : List Char → Prop
  | ref {digits : List Char} : IsNumeral digits → IsLexeme ('#' :: digits)
  | int {digits : List Char} : IsNumeral digits → IsLexeme digits
  | negative {digits : List Char} : IsNumeral digits → IsLexeme ('-' :: digits)
  | word {cs : List Char} : IsWord cs → IsLexeme cs

/-- The token that a lexeme stands for: the slot or the integer that its digits say, which has to
fit 64 bits, or the word in lower case. -/
inductive Denotes : List Char → TokenKind → Prop
  | ref {digits : List Char} {slot : UInt64} : IsNumeral digits →
      slot.toNat = Nat.ofDigitChars 10 digits 0 → Denotes ('#' :: digits) (.ref slot)
  | int {digits : List Char} {value : Int64} : IsNumeral digits →
      value.toInt = Nat.ofDigitChars 10 digits 0 → Denotes digits (.int value)
  | negative {digits : List Char} {value : Int64} : IsNumeral digits →
      value.toInt = -(Nat.ofDigitChars 10 digits 0 : Int) → Denotes ('-' :: digits) (.int value)
  | word {cs : List Char} : IsWord cs → Denotes cs (.word (String.ofList (cs.map Char.toLower)))

/-- A lexeme is not longer with the character that follows it. -/
def Maximal (lexeme rest : List Char) : Prop :=
  ∀ c, rest.head? = some c → ¬ IsLexeme (lexeme ++ [c])

/-- A text that starts at byte `pos` is made up of gaps and of lexemes which denote tokens. -/
inductive Splits : (pos : Nat) → List Char → List Token → Prop
  | last {pos : Nat} {gap : List Char} : Gap true gap → Splits pos gap []
  | token {pos : Nat} {gap lexeme rest : List Char} {kind : TokenKind} {tokens : List Token} :
      Gap false gap → Denotes lexeme kind → Maximal lexeme rest →
      Splits (pos + byteLength gap + byteLength lexeme) rest tokens →
      Splits pos (gap ++ (lexeme ++ rest))
        (⟨kind, pos + byteLength gap, pos + byteLength gap + byteLength lexeme⟩ :: tokens)

section
variable {pos start : Nat} {atEnd : Bool} {c first : Char}
  {cs gap text lexeme others rest : List Char} {kind : TokenKind} {token : Token}
  {tokens : List Token}

/-! ## Gaps -/

/-- The separators, listed. -/
theorem isSeparator_iff : isSeparator c = true ↔ c ∈ separators := by
  simp [isSeparator, separators, or_assoc]

/-- A slash is no separator. -/
theorem slash_notMem_separators : '/' ∉ separators := by
  simp [separators]

/-- A separator is one byte long. -/
theorem utf8Size_of_separator (hc : c ∈ separators) : c.utf8Size = 1 := by
  simp only [separators, List.mem_cons, List.not_mem_nil, or_false] at hc
  rcases hc with rfl | rfl | rfl | rfl | rfl <;> rfl

/-- A comment may be longer. -/
theorem Gap.cons_comment (hgap : Gap atEnd ('/' :: '/' :: cs)) (hc : c ≠ '\n') :
    Gap atEnd ('/' :: '/' :: c :: cs) := by
  cases hgap with
  | separator hslash => exact absurd hslash slash_notMem_separators
  | @comment _ text rest htext hrest =>
    have htext' : '\n' ∉ c :: text := by simp [htext, hc.symm]
    exact .comment htext' hrest
  | lastComment htext => exact .lastComment (by simp [htext, hc.symm])

/-- What is skipped is a gap, or goes on with one if it starts in a comment. -/
theorem exists_gap_of_skipGap (inComment : Bool) (pos : Nat) (cs : List Char) :
    ∃ gap, cs = gap ++ (skipGap inComment pos cs).2 ∧
      (skipGap inComment pos cs).1 = pos + byteLength gap ∧
      Gap (skipGap inComment pos cs).2.isEmpty
        (if inComment then '/' :: '/' :: gap else gap) := by
  fun_induction skipGap inComment pos cs with
  | case1 inComment pos =>
    refine ⟨[], rfl, rfl, ?_⟩
    cases inComment with
    | false => exact .nil
    | true => exact .lastComment List.not_mem_nil
  | case2 pos cs ih =>
    obtain ⟨gap, hcs, hpos, hgap⟩ := ih
    refine ⟨'\n' :: gap, by rw [List.cons_append, ← hcs], ?_, .comment List.not_mem_nil hgap⟩
    rw [hpos, byteLength_cons, Nat.add_assoc]
    rfl
  | case3 pos c cs hc ih =>
    obtain ⟨gap, hcs, hpos, hgap⟩ := ih
    refine ⟨c :: gap, by rw [List.cons_append, ← hcs], ?_, hgap.cons_comment hc⟩
    rw [hpos, byteLength_cons, Nat.add_assoc]
  | case4 pos cs ih =>
    obtain ⟨gap, hcs, hpos, hgap⟩ := ih
    refine ⟨'/' :: '/' :: gap, by rw [List.cons_append, List.cons_append, ← hcs], ?_, hgap⟩
    rw [hpos, byteLength_cons, byteLength_cons, ← Nat.add_assoc, ← Nat.add_assoc]
    rfl
  | case5 pos c cs _ hc ih =>
    obtain ⟨gap, hcs, hpos, hgap⟩ := ih
    have hc := isSeparator_iff.1 hc
    refine ⟨c :: gap, by rw [List.cons_append, ← hcs], ?_, .separator hc hgap⟩
    rw [hpos, byteLength_cons, utf8Size_of_separator hc, Nat.add_assoc]
  | case6 pos c cs _ hc => exact ⟨[], rfl, rfl, .nil⟩

/-- The rest of a comment and the end of its line are skipped. -/
theorem skipGap_comment (htext : '\n' ∉ text) (pos : Nat) (cs : List Char) :
    skipGap true pos (text ++ '\n' :: cs) = skipGap false (pos + byteLength text + 1) cs := by
  induction text generalizing pos with
  | nil => simp [skipGap]
  | cons c text ih =>
    simp only [List.mem_cons, not_or] at htext
    rw [List.cons_append, skipGap, if_neg (Ne.symm htext.1), ih htext.2, byteLength_cons,
      ← Nat.add_assoc pos]

/-- A comment that nothing ends is skipped to the end of the source. -/
theorem skipGap_lastComment (htext : '\n' ∉ text) (pos : Nat) :
    skipGap true pos text = (pos + byteLength text, []) := by
  induction text generalizing pos with
  | nil => simp [skipGap]
  | cons c text ih =>
    simp only [List.mem_cons, not_or] at htext
    rw [skipGap, if_neg (Ne.symm htext.1), ih htext.2, byteLength_cons, ← Nat.add_assoc]

/-- A separator is skipped. -/
theorem skipGap_separator (hc : c ∈ separators) (pos : Nat) (cs : List Char) :
    skipGap false pos (c :: cs) = skipGap false (pos + 1) cs := by
  have hslash : c ≠ '/' := by
    rintro rfl
    exact slash_notMem_separators hc
  rw [skipGap, if_pos (isSeparator_iff.2 hc)]
  exact fun _ heq => absurd heq hslash

/-- A gap is skipped, if it goes no further. -/
theorem skipGap_append (hgap : Gap atEnd gap) (hend : atEnd = true → rest = [])
    (hrest : ∀ c, rest.head? = some c → c ∉ separators ∧ c ≠ '/') (pos : Nat) :
    skipGap false pos (gap ++ rest) = (pos + byteLength gap, rest) := by
  induction hgap generalizing pos with
  | nil =>
    cases rest with
    | nil => simp [skipGap]
    | cons c cs =>
      obtain ⟨hc, hslash⟩ := hrest c rfl
      rw [List.nil_append, skipGap, if_neg (fun hsep => hc (isSeparator_iff.1 hsep))]
      · rfl
      · exact fun _ heq => absurd heq hslash
  | @separator _ c cs hc _ ih =>
    rw [List.cons_append, skipGap_separator hc, ih hend, byteLength_cons, utf8Size_of_separator hc,
      ← Nat.add_assoc]
  | @comment _ text cs htext _ ih =>
    rw [List.cons_append, List.cons_append, List.append_assoc, List.cons_append, skipGap,
      skipGap_comment htext, ih hend]
    have hbytes : byteLength ('/' :: '/' :: (text ++ '\n' :: cs)) =
        1 + (1 + (byteLength text + (1 + byteLength cs))) := by
      rw [byteLength_cons, byteLength_cons, byteLength_append, byteLength_cons]
      rfl
    rw [hbytes]
    congr 1
    omega
  | @lastComment text htext =>
    rw [hend rfl, List.append_nil, skipGap, skipGap_lastComment htext]
    have hbytes : byteLength ('/' :: '/' :: text) = 1 + (1 + byteLength text) := by
      rw [byteLength_cons, byteLength_cons]
      rfl
    rw [hbytes]
    congr 1
    omega

/-! ## Lexemes -/

/-- A digit is no letter. -/
theorem isAlpha_of_isDigit (hc : c.isDigit = true) : c.isAlpha = false := by
  unfold Char.isAlpha Char.isUpper Char.isLower
  simp only [Char.isDigit, Bool.and_eq_true, Bool.or_eq_false_iff, Bool.and_eq_false_iff,
    decide_eq_true_eq, decide_eq_false_iff_not, ge_iff_le, UInt32.le_iff_toNat_le] at hc ⊢
  have hnine : '9'.val.toNat = 57 := rfl
  have hupper : 'A'.val.toNat = 65 := rfl
  have hlower : 'a'.val.toNat = 97 := rfl
  omega

/-- A word goes on with letters, digits and underscores. -/
theorem isWord_iff (hfirst : first.isAlpha = true) :
    IsWord (first :: others) ↔ ∀ c ∈ others, continues first c = true := by
  simp [IsWord, continues, hfirst]

/-- A number goes on with digits. -/
theorem isNumeral_iff (hfirst : first.isDigit = true) :
    IsNumeral (first :: others) ↔ ∀ c ∈ others, continues first c = true := by
  simp [IsNumeral, continues, hfirst, isAlpha_of_isDigit hfirst]

/-- After a sign there are digits. -/
theorem isNumeral_iff_of_sign (hfirst : first = '-' ∨ first = '#') :
    IsNumeral others ↔ others ≠ [] ∧ ∀ c ∈ others, continues first c = true := by
  rcases hfirst with rfl | rfl <;> simp [IsNumeral, continues]

/-- What a lexeme is shows in its first character, and the others go on with it. -/
theorem isLexeme_iff : IsLexeme (first :: others) ↔
    (first.isAlpha = true ∨ first.isDigit = true ∨ (first = '-' ∨ first = '#') ∧ others ≠ []) ∧
      ∀ c ∈ others, continues first c = true := by
  constructor
  · intro hlexeme
    cases hlexeme with
    | ref hdigits =>
      obtain ⟨hne, hothers⟩ := (isNumeral_iff_of_sign (.inr rfl)).1 hdigits
      exact ⟨.inr (.inr ⟨.inr rfl, hne⟩), hothers⟩
    | int hdigits =>
      have hfirst := hdigits.2 first (.head _)
      exact ⟨.inr (.inl hfirst), (isNumeral_iff hfirst).1 hdigits⟩
    | negative hdigits =>
      obtain ⟨hne, hothers⟩ := (isNumeral_iff_of_sign (.inl rfl)).1 hdigits
      exact ⟨.inr (.inr ⟨.inl rfl, hne⟩), hothers⟩
    | word hword => exact ⟨.inl hword.1, (isWord_iff hword.1).1 hword⟩
  · rintro ⟨hfirst | hfirst | ⟨hfirst, hne⟩, hothers⟩
    · exact .word ((isWord_iff hfirst).2 hothers)
    · exact .int ((isNumeral_iff hfirst).2 hothers)
    · have hdigits := (isNumeral_iff_of_sign hfirst).2 ⟨hne, hothers⟩
      rcases hfirst with rfl | rfl
      · exact .negative hdigits
      · exact .ref hdigits

/-- A lexeme can be longer by the characters that go on with it. -/
theorem isLexeme_concat (hlexeme : IsLexeme (first :: others)) :
    IsLexeme (first :: others ++ [c]) ↔ continues first c = true := by
  obtain ⟨hfirst, hothers⟩ := isLexeme_iff.1 hlexeme
  rw [List.cons_append, isLexeme_iff]
  constructor
  · intro hlonger
    exact hlonger.2 c (List.mem_concat_self)
  · intro hc
    refine ⟨by simpa using Or.imp_right (Or.imp_right And.left) hfirst, ?_⟩
    intro d hd
    rcases List.mem_append.1 hd with hd | hd
    · exact hothers d hd
    · rwa [List.mem_singleton.1 hd]

/-- A lexeme is maximal if the character that follows does not go on with it. -/
theorem maximal_iff (hlexeme : IsLexeme (first :: others)) :
    Maximal (first :: others) rest ↔ ∀ c, rest.head? = some c → continues first c = false := by
  simp only [Maximal, isLexeme_concat hlexeme, Bool.not_eq_true]

/-- What denotes a token is a lexeme. -/
theorem Denotes.isLexeme (hdenotes : Denotes lexeme kind) : IsLexeme lexeme := by
  cases hdenotes with
  | ref hdigits => exact .ref hdigits
  | int hdigits => exact .int hdigits
  | negative hdigits => exact .negative hdigits
  | word hword => exact .word hword

/-- A lexeme starts with a character that opens no gap. -/
theorem IsLexeme.exists_cons (hlexeme : IsLexeme lexeme) : ∃ first others,
    lexeme = first :: others ∧ first ∉ separators ∧ first ≠ '/' := by
  cases lexeme with
  | nil =>
    cases hlexeme with
    | int hdigits => exact absurd rfl hdigits.1
    | word hword => cases hword
  | cons first others =>
    refine ⟨first, others, rfl, ?_⟩
    obtain ⟨hfirst, -⟩ := isLexeme_iff.1 hlexeme
    constructor
    · intro hsep
      simp only [separators, List.mem_cons, List.not_mem_nil, or_false] at hsep
      rcases hsep with rfl | rfl | rfl | rfl | rfl <;> simp at hfirst
    · rintro rfl
      simp at hfirst

/-- The value of a row of digits. -/
theorem digitsValue_eq (digits : List Char) :
    digitsValue digits = Nat.ofDigitChars 10 digits 0 := by
  rw [Nat.ofDigitChars_eq_foldl]
  rfl

/-- A slot index is decoded if it fits. -/
theorem decodeRef_eq_ok_iff {digits : List Char} : decodeRef digits = .ok kind ↔
    ∃ slot : UInt64, slot.toNat = Nat.ofDigitChars 10 digits 0 ∧ kind = .ref slot := by
  rw [decodeRef, digitsValue_eq]
  constructor
  · intro hok
    split at hok
    · next hlt =>
      cases hok
      exact ⟨_, UInt64.toNat_ofNat_of_lt' hlt, rfl⟩
    · cases hok
  · rintro ⟨slot, hslot, rfl⟩
    rw [← hslot, if_pos slot.toNat_lt_size, UInt64.ofNat_toNat]

/-- An integer is decoded if it fits. -/
theorem decodeInt_eq_ok_iff {negative : Bool} {digits : List Char} :
    decodeInt negative digits = .ok kind ↔ ∃ value : Int64,
      value.toInt = (if negative then -(Nat.ofDigitChars 10 digits 0 : Int)
        else Nat.ofDigitChars 10 digits 0) ∧ kind = .int value := by
  rw [decodeInt, digitsValue_eq]
  generalize (if negative then -(Nat.ofDigitChars 10 digits 0 : Int)
    else Nat.ofDigitChars 10 digits 0) = n
  constructor
  · intro hok
    split at hok
    · next hfits =>
      cases hok
      rw [Int64.toInt_minValue, Int64.toInt_maxValue] at hfits
      exact ⟨_, Int64.toInt_ofInt_of_le hfits.1 (by omega), rfl⟩
    · cases hok
  · rintro ⟨value, rfl, rfl⟩
    rw [if_pos ⟨value.minValue_le_toInt, value.toInt_le⟩, Int64.ofInt_toInt]

/-- Lexemes are decoded to the tokens that they denote. -/
theorem decode_of_denotes (hdenotes : Denotes (first :: others) kind) :
    decode first others = .ok kind := by
  cases hdenotes with
  | @ref digits slot hdigits hslot =>
    have hdecode : decode '#' others = decodeRef others := by simp [decode, hdigits.1]
    rw [hdecode]
    exact decodeRef_eq_ok_iff.2 ⟨slot, hslot, rfl⟩
  | @int digits value hdigits hvalue =>
    have hfirst := hdigits.2 first (.head _)
    have hdecode : decode first others = decodeInt false (first :: others) := by
      simp [decode, isAlpha_of_isDigit hfirst, hfirst]
    rw [hdecode]
    exact decodeInt_eq_ok_iff.2 ⟨value, hvalue, rfl⟩
  | @negative digits value hdigits hvalue =>
    have hdecode : decode '-' others = decodeInt true others := by simp [decode, hdigits.1]
    rw [hdecode]
    exact decodeInt_eq_ok_iff.2 ⟨value, hvalue, rfl⟩
  | word hword => simp [decode, hword.1]

/-- What is decoded to a token denotes it, if it is a row of characters that go on with the
first. -/
theorem denotes_of_decode (hothers : ∀ c ∈ others, continues first c = true)
    (hok : decode first others = .ok kind) : Denotes (first :: others) kind := by
  unfold decode at hok
  split at hok
  · next hfirst =>
    cases hok
    exact .word ((isWord_iff hfirst).2 hothers)
  split at hok
  · next hfirst =>
    obtain ⟨value, hvalue, rfl⟩ := decodeInt_eq_ok_iff.1 hok
    exact .int ((isNumeral_iff hfirst).2 hothers) hvalue
  split at hok
  · next hfirst =>
    subst hfirst
    split at hok
    · cases hok
    · next hne =>
      obtain ⟨value, hvalue, rfl⟩ := decodeInt_eq_ok_iff.1 hok
      rw [List.isEmpty_iff] at hne
      exact .negative ((isNumeral_iff_of_sign (.inl rfl)).2 ⟨hne, hothers⟩) hvalue
  split at hok
  · next hfirst =>
    subst hfirst
    split at hok
    · cases hok
    · next hne =>
      obtain ⟨slot, hslot, rfl⟩ := decodeRef_eq_ok_iff.1 hok
      rw [List.isEmpty_iff] at hne
      exact .ref ((isNumeral_iff_of_sign (.inr rfl)).2 ⟨hne, hothers⟩) hslot
  · cases hok

/-! ## Lexing -/

/-- A source that is a gap has no tokens. -/
theorem lexFrom_eq_nil (hskip : skipGap false pos cs = (start, [])) : lexFrom pos cs = .ok [] := by
  rw [lexFrom]
  split
  · rfl
  · next heq =>
    rw [hskip] at heq
    cases heq

/-- The characters that go on with a lexeme are taken up to the first that does not. -/
theorem takeWhile_continues (hothers : ∀ c ∈ others, continues first c = true)
    (hrest : ∀ c, rest.head? = some c → continues first c = false) :
    (others ++ rest).takeWhile (continues first) = others ∧
    (others ++ rest).dropWhile (continues first) = rest := by
  rw [List.takeWhile_append_of_pos hothers, List.dropWhile_append_of_pos hothers]
  cases rest with
  | nil => simp
  | cons c cs => simp [hrest c rfl]

/-- After a gap the longest lexeme is decoded, and then the rest is lexed. -/
theorem lexFrom_eq_decode (hskip : skipGap false pos cs = (start, first :: rest)) :
    lexFrom pos cs =
      match decode first (rest.takeWhile (continues first)) with
      | .error fault => .error (.atSpan fault
          ⟨start, start + byteLength (first :: rest.takeWhile (continues first))⟩)
      | .ok kind =>
        (⟨kind, start, start + byteLength (first :: rest.takeWhile (continues first))⟩ :: ·) <$>
          lexFrom (start + byteLength (first :: rest.takeWhile (continues first)))
            (rest.dropWhile (continues first)) := by
  rw [lexFrom]
  split
  · next heq =>
    rw [hskip] at heq
    cases heq
  · next heq =>
    rw [hskip] at heq
    cases heq
    rfl

/-- If the longest lexeme is at fault, the source is. -/
theorem lexFrom_of_error {fault : Fault}
    (hskip : skipGap false pos cs = (start, first :: rest))
    (hdecode : decode first (rest.takeWhile (continues first)) = .error fault) :
    lexFrom pos cs = .error (.atSpan fault
      ⟨start, start + byteLength (first :: rest.takeWhile (continues first))⟩) := by
  rw [lexFrom_eq_decode hskip, hdecode]

/-- If the longest lexeme is a token, the rest is lexed. -/
theorem lexFrom_of_ok (hskip : skipGap false pos cs = (start, first :: rest))
    (hdecode : decode first (rest.takeWhile (continues first)) = .ok kind) :
    lexFrom pos cs =
      (⟨kind, start, start + byteLength (first :: rest.takeWhile (continues first))⟩ :: ·) <$>
        lexFrom (start + byteLength (first :: rest.takeWhile (continues first)))
          (rest.dropWhile (continues first)) := by
  rw [lexFrom_eq_decode hskip, hdecode]

/-- The tokens into which a text splits are found. -/
theorem Splits.lexFrom_eq (hsplits : Splits pos cs tokens) : lexFrom pos cs = .ok tokens := by
  induction hsplits with
  | @last pos gap hgap =>
    have hskip : skipGap false pos (gap ++ []) = (pos + byteLength gap, []) :=
      skipGap_append hgap (fun _ => rfl) nofun pos
    rw [List.append_nil] at hskip
    exact lexFrom_eq_nil hskip
  | @token pos gap lexeme rest kind tokens hgap hdenotes hmaximal _ ih =>
    obtain ⟨first, others, rfl, hsep, hslash⟩ := hdenotes.isLexeme.exists_cons
    have hskip : skipGap false pos (gap ++ (first :: (others ++ rest))) =
        (pos + byteLength gap, first :: (others ++ rest)) := by
      refine skipGap_append hgap nofun ?_ pos
      intro c hc
      cases hc
      exact ⟨hsep, hslash⟩
    have hothers := (isLexeme_iff.1 hdenotes.isLexeme).2
    have hrest := (maximal_iff hdenotes.isLexeme).1 hmaximal
    obtain ⟨htake, hdrop⟩ := takeWhile_continues hothers hrest
    have hdecode : decode first ((others ++ rest).takeWhile (continues first)) = .ok kind := by
      rw [htake, decode_of_denotes hdenotes]
    rw [List.cons_append, lexFrom_of_ok hskip hdecode, htake, hdrop, ih, Except.map_ok]

/-- A lexeme that is taken as long as it goes on is maximal. -/
theorem maximal_takeWhile
    (hlexeme : IsLexeme (first :: cs.takeWhile (continues first))) :
    Maximal (first :: cs.takeWhile (continues first)) (cs.dropWhile (continues first)) := by
  rw [maximal_iff hlexeme]
  intro c hc
  have hne : cs.dropWhile (continues first) ≠ [] := by
    intro hnil
    rw [hnil] at hc
    cases hc
  rw [List.head?_eq_some_head hne] at hc
  cases hc
  exact List.head_dropWhile_not _ hne

/-- The tokens that are found are those into which the text splits. -/
theorem splits_of_lexFrom (hok : lexFrom pos cs = .ok tokens) : Splits pos cs tokens := by
  fun_induction lexFrom pos cs generalizing tokens with
  | case1 pos cs start hskip =>
    obtain ⟨gap, hcs, -, hgap⟩ := exists_gap_of_skipGap false pos cs
    cases hok
    rw [hcs, hskip, List.append_nil]
    rw [hskip] at hgap
    exact .last hgap
  | case2 => cases hok
  | case3 pos cs start first rest hskip others span kind hdecode =>
    rename_i ih
    -- The three pieces of the text: what is skipped, what is taken, and what is left to lex.
    obtain ⟨gap, hcs, hstart, hgap⟩ := exists_gap_of_skipGap false pos cs
    rw [hskip] at hcs hstart hgap
    have hothers : ∀ c ∈ others, continues first c = true := by
      intro c hc
      exact List.mem_takeWhile_imp hc
    have hdenotes := denotes_of_decode hothers hdecode
    have hmaximal := maximal_takeWhile hdenotes.isLexeme
    cases hlex : lexFrom span.stop (rest.dropWhile (continues first)) with
    | error e =>
      rw [hlex] at hok
      cases hok
    | ok tokens' =>
      rw [hlex] at hok
      cases hok
      have hrest : others ++ rest.dropWhile (continues first) = rest :=
        List.takeWhile_append_dropWhile
      subst hcs hstart
      rw [← hrest]
      exact .token hgap hdenotes hmaximal (ih hlex)

/-! ## Spans -/

/-- The spans of tokens lie in the text, are not empty, and come one after the other. -/
theorem Splits.spans (hsplits : Splits pos cs tokens) :
    (∀ token ∈ tokens, pos ≤ token.span.start ∧ token.span.start < token.span.stop ∧
      token.span.stop ≤ pos + byteLength cs) ∧
    tokens.Pairwise fun a b => a.span.stop ≤ b.span.start := by
  induction hsplits with
  | last => simp
  | @token pos gap lexeme rest kind tokens _ hdenotes _ _ ih =>
    obtain ⟨hin, hpairwise⟩ := ih
    obtain ⟨first, others, rfl, -⟩ := hdenotes.isLexeme.exists_cons
    have hfirst := first.utf8Size_pos
    simp only [byteLength_append, byteLength_cons] at hin ⊢
    constructor
    · intro token htoken
      rcases List.mem_cons.1 htoken with rfl | htoken
      · dsimp only
        omega
      · have := hin token htoken
        omega
    · refine List.pairwise_cons.2 ⟨fun token htoken => ?_, hpairwise⟩
      exact (hin token htoken).1

/-- What is not in the span of a token is in a gap: from the end of one span to the start of the
next there is one, and so there is before the first and after the last. -/
theorem Splits.exists_gap {pre post : List Token} (hsplits : Splits pos cs (pre ++ post)) :
    ∃ before gap after, cs = before ++ (gap ++ after) ∧ Gap post.isEmpty gap ∧
      pos + byteLength before = (pre.getLast?.map (·.span.stop)).getD pos ∧
      pos + byteLength (before ++ gap) =
        (post.head?.map (·.span.start)).getD (pos + byteLength cs) := by
  generalize htokens : pre ++ post = tokens at hsplits
  induction hsplits generalizing pre with
  | @last pos gap hgap =>
    obtain ⟨rfl, rfl⟩ := List.append_eq_nil_iff.1 htokens
    exact ⟨[], gap, [], by simp, hgap, by simp, by simp⟩
  | @token pos gap lexeme rest kind tokens hgap hdenotes hmaximal _ ih =>
    cases pre with
    | nil =>
      subst htokens
      exact ⟨[], gap, lexeme ++ rest, rfl, hgap, rfl, by simp⟩
    | cons token pre =>
      obtain ⟨rfl, htail⟩ := List.cons.inj htokens
      obtain ⟨before, gap', after, rfl, hgap', hbefore, hafter⟩ := ih htail
      refine ⟨gap ++ (lexeme ++ before), gap', after, by simp, hgap', ?_, ?_⟩
      · have hlast : ((⟨kind, pos + byteLength gap, pos + byteLength gap + byteLength lexeme⟩ ::
            pre).getLast?.map (·.span.stop)).getD pos =
            (pre.getLast?.map (·.span.stop)).getD (pos + byteLength gap + byteLength lexeme) := by
          rw [List.getLast?_cons, Option.map_some, Option.getD_some]
          exact (Option.getD_map (fun token : Token => token.span.stop) _ _).symm
        rw [hlast, ← hbefore]
        simp only [byteLength_append, Nat.add_assoc]
      · have hend : pos + byteLength (gap ++ (lexeme ++ (before ++ (gap' ++ after)))) =
            pos + byteLength gap + byteLength lexeme + byteLength (before ++ (gap' ++ after)) := by
          simp only [byteLength_append, Nat.add_assoc]
        rw [hend, ← hafter]
        simp only [byteLength_append, Nat.add_assoc]

/-- A source is lexed just if it is made up of gaps and of lexemes that denote tokens, each lexeme
as long as it can be. The tokens are then what the lexemes denote, in order, with the bytes that
these take up. So no span is empty, one comes after the other, and the bytes before the first,
between two and after the last are a gap. -/
theorem lex_exact (source : String) :
    (∀ tokens, lex source = .ok tokens ↔ Splits 0 source.toList tokens) ∧
    ∀ tokens, lex source = .ok tokens →
      (∀ token ∈ tokens, token.span.start < token.span.stop ∧
        token.span.stop ≤ source.utf8ByteSize) ∧
      (tokens.Pairwise fun a b => a.span.stop ≤ b.span.start) ∧
      ∀ pre post, tokens = pre ++ post → ∃ before gap after,
        source.toList = before ++ (gap ++ after) ∧ Gap post.isEmpty gap ∧
        byteLength before = (pre.getLast?.map (·.span.stop)).getD 0 ∧
        byteLength (before ++ gap) = (post.head?.map (·.span.start)).getD source.utf8ByteSize := by
  have hiff : ∀ tokens, lex source = .ok tokens ↔ Splits 0 source.toList tokens :=
    fun tokens => ⟨splits_of_lexFrom, Splits.lexFrom_eq⟩
  have hsize : source.utf8ByteSize = 0 + byteLength source.toList := by
    rw [Nat.zero_add, ← utf8ByteSize_ofList, String.ofList_toList]
  refine ⟨hiff, ?_⟩
  intro tokens hok
  have hsplits := (hiff tokens).1 hok
  obtain ⟨hin, hpairwise⟩ := hsplits.spans
  refine ⟨?_, hpairwise, ?_⟩
  · intro token htoken
    rw [hsize]
    exact (hin token htoken).2
  · rintro pre post rfl
    simpa only [hsize, Nat.zero_add] using hsplits.exists_gap

/-- Three lexemes without gaps between them, a comment in letters of two bytes each, and a word in
capitals. -/
theorem lex_exact_adjacent :
    lex "int-07#1// éé\nPOP//" = .ok
      [⟨.word "int", 0, 3⟩, ⟨.int (-7), 3, 6⟩, ⟨.ref 1, 6, 8⟩, ⟨.word "pop", 16, 19⟩] ∧
    Splits 0 "int-07#1// éé\nPOP//".toList
      [⟨.word "int", 0, 3⟩, ⟨.int (-7), 3, 6⟩, ⟨.ref 1, 6, 8⟩, ⟨.word "pop", 16, 19⟩] ∧
    ∃ before gap after, "int-07#1// éé\nPOP//".toList = before ++ (gap ++ after) ∧
      Gap false gap ∧ byteLength before = 8 ∧ byteLength (before ++ gap) = 16 := by
  have hok : lex "int-07#1// éé\nPOP//" = .ok
      [⟨.word "int", 0, 3⟩, ⟨.int (-7), 3, 6⟩, ⟨.ref 1, 6, 8⟩, ⟨.word "pop", 16, 19⟩] := by
    decide +kernel
  obtain ⟨hiff, hspans⟩ := lex_exact "int-07#1// éé\nPOP//"
  exact ⟨hok, (hiff _).1 hok, (hspans _ hok).2.2
    [⟨.word "int", 0, 3⟩, ⟨.int (-7), 3, 6⟩, ⟨.ref 1, 6, 8⟩] [⟨.word "pop", 16, 19⟩] rfl⟩

end

end RootedHeap.Script
