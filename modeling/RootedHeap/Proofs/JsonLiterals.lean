import RootedHeap.Config.Reader
import Mathlib.Data.List.TakeWhile

/-!
# Literals that are read

What a reader leaves of a text matters to the reader after it, and where it stands only to an error.
So a successful reader is described by its value and the text it leaves (`Yields`). Blanks are
skipped as far as they go (`rest_skipBlanks`), and each literal is read whatever follows it, except
that a number has to end there (`EndsNumber`): the digits of a word (`readFound_toDigits`), a string
without escapes (`readString_plain`), a keyword (`readKeyword_append`).
-/

namespace RootedHeap.Json

/-- Characters that may stand between the parts of a text. -/
abbrev Blanks := {cs : List Char // ∀ c ∈ cs, Cursor.isBlank c = true}

/-- No blanks. -/
def Blanks.none : Blanks := ⟨[], fun _ hmem => absurd hmem List.not_mem_nil⟩

/-- Blanks and more blanks. -/
def Blanks.append (before after : Blanks) : Blanks :=
  ⟨before ++ after, List.forall_mem_append.2 ⟨before.2, after.2⟩⟩

@[simp]
theorem Blanks.coe_append (before after : Blanks) :
    (before.append after : List Char) = before ++ after := rfl

/-- A reader gives a value and leaves a text. -/
def Yields {α : Type} (result : Except Error (α × Cursor)) (a : α) (rest : List Char) : Prop :=
  ∃ c, result = .ok (a, c) ∧ c.rest = rest

/-- A text in front of which a number ends. -/
def EndsNumber (rest : List Char) : Prop :=
  ∀ c, rest.head? = some c → c.isDigit = false ∧ c ≠ '.' ∧ c ≠ 'e' ∧ c ≠ 'E'

section
variable {α β : Type} {result : Except Error (α × Cursor)} {a : α} {b : β} {c : Cursor}
  {rest middle : List Char}

/-! ## Readers in a row -/

/-- A reader goes on with what the one before it leaves. -/
theorem Yields.bind {next : α × Cursor → Except Error (β × Cursor)} (h : Yields result a middle)
    (hnext : ∀ c, c.rest = middle → Yields (next (a, c)) b rest) :
    Yields (result >>= next) b rest := by
  obtain ⟨c, rfl, hc⟩ := h
  exact hnext c hc

/-- What is done with a value makes no difference to what its reader leaves. -/
theorem Yields.map {f : α × Cursor → β × Cursor} (h : Yields result a rest)
    (hf : ∀ c, f (a, c) = (b, c)) : Yields (f <$> result) b rest := by
  obtain ⟨c, rfl, hc⟩ := h
  exact ⟨c, congrArg Except.ok (hf c), hc⟩

/-! ## Cursors -/

/-- The text after the next character. -/
theorem rest_next : ∀ c : Cursor, c.next.rest = c.rest.tail
  | ⟨[], _⟩ => rfl
  | ⟨_ :: _, _⟩ => rfl

/-- The text after a character that is there. -/
theorem rest_next_cons {d : Char} (hc : c.rest = d :: rest) : c.next.rest = rest := by
  rw [rest_next, hc, List.tail_cons]

/-- The text after some characters. -/
theorem rest_skip (c : Cursor) (n : Nat) : (c.skip n).rest = c.rest.drop n := by
  induction n with
  | zero => rfl
  | succ n ih => rw [Cursor.skip, Nat.repeat, rest_next, ← Cursor.skip, ih, List.tail_drop]

/-- The blanks, listed. -/
theorem eq_of_isBlank {d : Char} (hd : Cursor.isBlank d = true) :
    d = ' ' ∨ d = '\t' ∨ d = '\n' ∨ d = '\r' := by
  simpa [Cursor.isBlank, or_assoc] using hd

/-- A digit is no blank. -/
theorem isBlank_of_isDigit {d : Char} (hd : d.isDigit = true) : Cursor.isBlank d = false := by
  by_contra hblank
  rcases eq_of_isBlank (Bool.of_not_eq_false hblank) with rfl | rfl | rfl | rfl <;> cases hd

/-- Blanks are skipped up to the next character that is not blank. -/
theorem rest_skipBlanks (blanks : Blanks) (hc : c.rest = blanks ++ rest)
    (hrest : ∀ d, rest.head? = some d → Cursor.isBlank d = false) : c.skipBlanks.rest = rest := by
  have hstop : rest.takeWhile Cursor.isBlank = [] := by
    cases rest with
    | nil => rfl
    | cons d ds => rw [List.takeWhile_cons_of_neg (by simp [hrest d rfl])]
  rw [Cursor.skipBlanks, rest_skip, hc, List.takeWhile_append_of_pos blanks.2, hstop,
    List.append_nil, List.drop_left]

/-- Blanks are skipped up to a character that is not blank. -/
theorem rest_skipBlanks_cons {d : Char} (blanks : Blanks) (hc : c.rest = blanks ++ d :: rest)
    (hd : Cursor.isBlank d = false) : c.skipBlanks.rest = d :: rest :=
  rest_skipBlanks blanks hc fun _ hhead => Option.some.inj hhead ▸ hd

/-! ## Numbers -/

/-- The digits of a number start with a digit. -/
theorem exists_digit_toDigits (n : Nat) :
    ∃ d ds, Nat.toDigits 10 n = d :: ds ∧ d.isDigit = true := by
  obtain ⟨d, ds, hcons⟩ :=
    List.exists_cons_of_ne_nil (Nat.toDigits_ne_nil : Nat.toDigits 10 n ≠ [])
  have hmem : d ∈ Nat.toDigits 10 n := hcons ▸ .head _
  exact ⟨d, ds, hcons, Nat.isDigit_of_mem_toDigits (by decide) (by decide) hmem⟩

/-- Only the number zero is written with a zero in front. -/
theorem eq_zero_of_head?_toDigits (n : Nat) (h : (Nat.toDigits 10 n).head? = some '0') : n = 0 := by
  induction n using Nat.strong_induction_on with
  | _ n ih =>
    rcases Nat.lt_or_ge n 10 with hlt | hge
    · have hdigit : ∀ n < 10, [Nat.digitChar n].head? = some '0' → n = 0 := by decide
      rw [Nat.toDigits_of_lt_base hlt] at h
      exact hdigit n hlt h
    · rw [Nat.toDigits_of_base_le (by decide) hge] at h
      have hhead : (Nat.toDigits 10 (n / 10)).head? = some '0' := by
        rwa [List.head?_append, Option.or_of_isSome] at h
        exact List.isSome_head?.2 Nat.toDigits_ne_nil
      have hzero := ih (n / 10) (by omega) hhead
      omega

/-- The digits of a number whose value does not pass the limit are all added up. -/
theorem accumulate_eq {limit n : Nat} {digits : List Char}
    (hle : Nat.ofDigitChars 10 digits n ≤ limit) :
    accumulate limit n digits = (Nat.ofDigitChars 10 digits n, []) := by
  induction digits generalizing n with
  | nil => rfl
  | cons d ds ih =>
    rw [Nat.ofDigitChars_cons] at hle ⊢
    -- What is added up so far is at most the whole number.
    have hsofar : 10 * n + (d.toNat - 48) ≤ limit := by
      refine Nat.le_trans ?_ hle
      rw [Nat.ofDigitChars_eq_ofDigitChars_zero]
      exact Nat.le_trans (Nat.le_mul_of_pos_left _ (Nat.pow_pos (by decide))) (Nat.le_add_right _ _)
    rw [accumulate, if_pos hsofar]
    exact ih hle

/-- The digits of a word are read as the word. -/
theorem readMagnitude_toDigits (n : UInt64) (hc : c.rest = Nat.toDigits 10 n.toNat ++ rest)
    (hrest : EndsNumber rest) : Yields (readMagnitude false c) (.unsigned n) rest := by
  have hdigits : c.rest.takeWhile Char.isDigit = Nat.toDigits 10 n.toNat := by
    have hstop : rest.takeWhile Char.isDigit = [] := by
      cases rest with
      | nil => rfl
      | cons d ds => rw [List.takeWhile_cons_of_neg (by simp [(hrest d rfl).1])]
    rw [hc, List.takeWhile_append_of_pos
      fun _ => Nat.isDigit_of_mem_toDigits (by decide) (by decide), hstop, List.append_nil]
  have hword : n.toNat ≤ maxWord := Nat.le_pred_of_lt n.toNat_lt
  have hsum : accumulate maxWord 0 (Nat.toDigits 10 n.toNat) = (n.toNat, []) := by
    rw [accumulate_eq (by rwa [Nat.ofDigitChars_ten_toDigits]), Nat.ofDigitChars_ten_toDigits]
  have hleft : (c.skip (Nat.toDigits 10 n.toNat).length).rest = rest := by
    rw [rest_skip, hc, List.drop_left]
  unfold readMagnitude
  rw [hdigits]
  split
  · next hnil => exact absurd hnil Nat.toDigits_ne_nil
  · next second more hzero =>
    have hn := eq_zero_of_head?_toDigits n.toNat (by rw [hzero]; rfl)
    rw [hn] at hzero
    cases hzero
  · simp only [hsum]
    split
    · next hpoint => exact absurd rfl (hrest '.' (by rw [← hleft, hpoint]; rfl)).2.1
    · next he => exact absurd rfl (hrest 'e' (by rw [← hleft, he]; rfl)).2.2.1
    · next hE => exact absurd rfl (hrest 'E' (by rw [← hleft, hE]; rfl)).2.2.2
    · exact ⟨_, by simp [Magnitude.toInteger?], hleft⟩

/-- A word is found by its first digit. -/
theorem readFound_toDigits (n : UInt64) (hc : c.rest = Nat.toDigits 10 n.toNat ++ rest)
    (hrest : EndsNumber rest) : Yields (readFound c) (.number (.unsigned n)) rest := by
  obtain ⟨first, digits, hfirst, hdigit⟩ := exists_digit_toDigits n.toNat
  have hcons : c.rest = first :: (digits ++ rest) := by rw [hc, hfirst, List.cons_append]
  have hnumber : Yields (readNumber c) (.unsigned n) rest := by
    unfold readNumber
    rw [hcons]
    split
    · next hminus =>
      cases hminus
      cases hdigit
    · exact readMagnitude_toDigits n hc hrest
  unfold readFound
  rw [hcons]
  split
  case h_7 heq =>
    cases heq
    rw [if_pos (by simp [hdigit])]
    exact hnumber.map fun _ => rfl
  case h_8 heq => cases heq
  -- No other kind of value starts with a digit.
  all_goals
    next heq =>
    cases heq
    cases hdigit

/-! ## Strings and keywords -/

/-- A string without escapes and control characters is read up to its closing quote. -/
theorem readString_plain {cs : List Char} (p : Position) (before : List Char)
    (hplain : ∀ c ∈ cs, c ≠ '"' ∧ c ≠ '\\' ∧ 32 ≤ c.toNat) :
    Yields (readString p before (cs ++ '"' :: rest)) (String.ofList (before.reverse ++ cs))
      rest := by
  induction cs generalizing p before with
  | nil =>
    rw [List.nil_append, readString, List.append_nil]
    exact ⟨_, rfl, rfl⟩
  | cons d ds ih =>
    obtain ⟨⟨hquote, hbackslash, hcontrol⟩, hds⟩ := List.forall_mem_cons.1 hplain
    have hread := ih (p.advance d.utf8Size [d]) (d :: before) hds
    rw [List.reverse_cons, List.append_assoc, List.singleton_append] at hread
    rw [List.cons_append, readString, if_neg (Nat.not_lt.2 hcontrol)]
    · exact hread
    · exact hquote
    · exact hbackslash

/-- A keyword is read. -/
theorem readKeyword_append {keyword : List Char} (hc : c.rest = keyword ++ rest) :
    ∃ after, readKeyword c keyword = .ok after ∧ after.rest = rest := by
  induction keyword generalizing c with
  | nil => exact ⟨c, rfl, hc⟩
  | cons d ds ih =>
    rw [readKeyword, hc]
    simp only [List.cons_append, if_true]
    exact ih (rest_next_cons hc)

end

end RootedHeap.Json
