import RootedHeap.Script.Scanner
import RootedHeap.Proofs.Lexemes

/-!
# Scanning bytes

A cut that is not refused starts and stops between characters (`cuts_of_textOf`).
Lexing by bytes makes no such cut, and comes to what lexing by characters comes to
(`comesTo_scan`). Bytes are told apart by what ASCII character they are, and those of other
characters are none (`Agrees`), so that bytes of a kind are passed over by whole characters
(`passWhile_eq`). That is why a lexeme starts and stops between characters, even after a comment
(`skipSeparators_eq`).
-/

open RootedHeap.Text (byteLength byteLength_nil byteLength_cons byteLength_append cutBytes
  cutBytes_byteLength utf8ByteSize_ofList)

namespace RootedHeap

/-- A span starts and stops between characters of a source, in this order. -/
structure Span.Cuts (span : Span) (source : String) : Prop where
  start_le : span.start ≤ span.stop
  stop_le : span.stop ≤ source.utf8ByteSize
  start_valid : String.Pos.Raw.IsValid source ⟨span.start⟩
  stop_valid : String.Pos.Raw.IsValid source ⟨span.stop⟩

namespace Script

/-- The bytes of some kind are those of the characters of some kind. -/
def Agrees (p : UInt8 → Bool) (q : Char → Bool) : Prop :=
  ∀ c, ∀ b ∈ String.utf8EncodeChar c, p b = q c

/-- A scan makes no cut that is refused, and has a certain result. -/
structure Scan.ComesTo {α : Type} (source : String) (s : Scan α) (result : Except ScriptError α) :
    Prop where
  cuts : ∀ span ∈ s.cuts, span.Cuts source
  result : s.result = some result

section
variable {source : String} {before text after rest cs : List Char} {c : Char} {b : UInt8}
  {p : UInt8 → Bool} {q : Char → Bool} {n : Nat}

/-! ## Positions between characters -/

/-- A text without bytes is empty. -/
theorem byteLength_eq_zero : byteLength cs = 0 ↔ cs = [] := by
  cases cs with
  | nil => simp
  | cons c cs =>
    have := c.utf8Size_pos
    simp only [byteLength_cons, reduceCtorEq, iff_false]
    omega

/-- The bytes of a source are those of its characters. -/
theorem utf8ByteSize_eq (source : String) : source.utf8ByteSize = byteLength source.toList := by
  rw [← utf8ByteSize_ofList, String.ofList_toList]

/-- A front of a source ends between characters. -/
theorem isValid_of_append (heq : source.toList = before ++ after) :
    String.Pos.Raw.IsValid source ⟨byteLength before⟩ := by
  rw [String.Pos.Raw.isValid_iff_exists_append]
  refine ⟨String.ofList before, String.ofList after, ?_, ?_⟩
  · rw [← String.ofList_append, ← heq, String.ofList_toList]
  · rw [String.rawEndPos, utf8ByteSize_ofList]

/-- A part of a source is cut out between characters. -/
theorem cuts_of_append (heq : source.toList = before ++ (text ++ after)) :
    Span.Cuts ⟨byteLength before, byteLength before + byteLength text⟩ source where
  start_le := Nat.le_add_right _ _
  stop_le := by
    rw [utf8ByteSize_eq, heq, byteLength_append, byteLength_append]
    dsimp only
    omega
  start_valid := isValid_of_append heq
  stop_valid := by
    have hfront : source.toList = (before ++ text) ++ after := by rw [heq, List.append_assoc]
    rw [← byteLength_append]
    exact isValid_of_append hfront

/-- A part of a source is cut out. -/
theorem textOf_eq (heq : source.toList = before ++ (text ++ after)) :
    textOf source ⟨byteLength before, byteLength before + byteLength text⟩ = some text := by
  simp [textOf, heq, cutBytes_byteLength]

/-- What is cut off a text by bytes is what it begins with. -/
theorem eq_append_of_cutBytes (hcut : cutBytes n cs = some (before, after)) :
    cs = before ++ after ∧ byteLength before = n := by
  fun_induction cutBytes n cs generalizing before with
  | case1 cs =>
    cases hcut
    exact ⟨rfl, rfl⟩
  | case2 | case4 => cases hcut
  | case3 n c cs hle ih =>
    obtain ⟨⟨front, back⟩, hfront, heq⟩ := Option.map_eq_some_iff.1 hcut
    cases heq
    obtain ⟨rfl, hbytes⟩ := ih hfront
    refine ⟨rfl, ?_⟩
    rw [byteLength_cons, hbytes]
    omega

/-- Only a part of a source is cut out. -/
theorem cuts_of_textOf {span : Span} (htext : textOf source span = some text) :
    span.Cuts source := by
  obtain ⟨start, stop⟩ := span
  obtain ⟨⟨before, rest⟩, hbefore, htext⟩ := Option.bind_eq_some_iff.1 htext
  dsimp only at htext
  split at htext
  · next hle =>
    obtain ⟨⟨text', after⟩, htext', -⟩ := Option.bind_eq_some_iff.1 htext
    obtain ⟨heq, hstart⟩ := eq_append_of_cutBytes hbefore
    obtain ⟨rfl, hlength⟩ := eq_append_of_cutBytes htext'
    dsimp only at hstart hlength hle
    have hstop : byteLength before + byteLength text' = stop := by omega
    rw [← hstart, ← hstop]
    exact cuts_of_append heq
  · cases htext

/-! ## Bytes and characters -/

/-- The bytes of a text and one more character. -/
theorem byteLength_concat (cs : List Char) (c : Char) :
    byteLength (cs ++ [c]) = byteLength cs + c.utf8Size := by
  rw [byteLength_append, byteLength_cons, byteLength_nil, Nat.add_zero]

/-- A text is encoded in as many bytes as are counted. -/
theorem length_flatMap_utf8EncodeChar (cs : List Char) :
    (cs.flatMap String.utf8EncodeChar).length = byteLength cs := by
  induction cs with
  | nil => rfl
  | cons c cs ih =>
    rw [List.flatMap_cons, List.length_append, String.length_utf8EncodeChar, ih, byteLength_cons]

/-- The bytes of a source from a position between characters on. -/
theorem byte?_add (heq : source.toList = before ++ rest) (k : Nat) :
    byte? source (byteLength before + k) = (rest.flatMap String.utf8EncodeChar)[k]? := by
  rw [byte?, ← String.utf8Encode_toList, heq, List.utf8Encode, List.data_toByteArray,
    List.getElem?_toArray, List.flatMap_append, List.getElem?_append_right]
  · rw [length_flatMap_utf8EncodeChar, Nat.add_sub_cancel_left]
  · rw [length_flatMap_utf8EncodeChar]
    exact Nat.le_add_right _ _

/-- There is no byte at the end of a source. -/
theorem byte?_end (heq : source.toList = before) : byte? source (byteLength before) = none :=
  byte?_add (heq.trans (List.append_nil before).symm) 0

/-- The first byte of a character. -/
theorem exists_byte?_eq (heq : source.toList = before ++ c :: cs) :
    ∃ b ∈ String.utf8EncodeChar c, byte? source (byteLength before) = some b := by
  have hbyte := byte?_add heq 0
  cases hencode : String.utf8EncodeChar c with
  | nil => exact absurd hencode String.utf8EncodeChar_ne_nil
  | cons b bytes =>
    rw [List.flatMap_cons, hencode] at hbyte
    exact ⟨b, .head _, hbyte⟩

/-- An ASCII character is one byte. -/
theorem utf8EncodeChar_of_lt (hc : c.toNat < 128) :
    String.utf8EncodeChar c = [c.toUInt8] ∧ c.toUInt8 < 128 ∧ Char.ofUInt8 c.toUInt8 = c := by
  have hsize : c.utf8Size = 1 := Char.utf8Size_eq_one_iff.2 (Nat.le_of_lt_succ hc)
  have hbyte : c.toUInt8.toNat = c.toNat := by
    show c.toNat % 256 = c.toNat
    omega
  refine ⟨String.utf8EncodeChar_eq_singleton hsize, ?_, ?_⟩
  · rw [UInt8.lt_iff_toNat_lt, hbyte]
    exact hc
  · rw [← Char.toNat_inj]
    exact hbyte

/-- The bytes of other characters are none of ASCII. -/
theorem le_of_mem_utf8EncodeChar (hc : 128 ≤ c.toNat) (hb : b ∈ String.utf8EncodeChar c) :
    128 ≤ b := by
  have hnot : ¬ c.val.toNat ≤ 127 := Nat.not_le.2 hc
  have h128 : (128 : UInt8).toNat = 128 := rfl
  rw [UInt8.le_iff_toNat_le, h128]
  unfold String.utf8EncodeChar at hb
  simp only [hnot, if_false] at hb
  split at hb
  · simp only [List.mem_cons, List.not_mem_nil, or_false] at hb
    rcases hb with rfl | rfl <;> rw [UInt8.toNat_ofNat'] <;> omega
  · split at hb
    · simp only [List.mem_cons, List.not_mem_nil, or_false] at hb
      rcases hb with rfl | rfl | rfl <;> rw [UInt8.toNat_ofNat'] <;> omega
    · simp only [List.mem_cons, List.not_mem_nil, or_false] at hb
      rcases hb with rfl | rfl | rfl | rfl <;> rw [UInt8.toNat_ofNat'] <;> omega

/-- A kind of ASCII characters is one of bytes. -/
theorem agrees_isAscii (hq : ∀ c, q c = true → c.toNat < 128) : Agrees (isAscii q) q := by
  intro c b hb
  rcases Nat.lt_or_ge c.toNat 128 with hlt | hge
  · obtain ⟨hencode, hbyte, hchar⟩ := utf8EncodeChar_of_lt hlt
    rw [hencode, List.mem_singleton] at hb
    simp [isAscii, hb, hbyte, hchar]
  · have hbyte := le_of_mem_utf8EncodeChar hge hb
    have hc : q c = false := Bool.eq_false_iff.2 fun h => absurd (hq c h) (Nat.not_lt.2 hge)
    rw [isAscii, hc, Bool.and_eq_false_iff, decide_eq_false_iff_not, UInt8.not_lt]
    exact .inl hbyte

/-- What is not of a kind is not so by its bytes. -/
theorem Agrees.not (ha : Agrees p q) : Agrees (!p ·) (!q ·) :=
  fun c b hb => congrArg Bool.not (ha c b hb)

/-- The first byte of a text shows of what kind its first character is. -/
theorem any_byte? (ha : Agrees p q) (heq : source.toList = before ++ cs) :
    (byte? source (byteLength before)).any p = cs.head?.any q := by
  cases cs with
  | nil => rw [byte?_end (heq.trans (List.append_nil before))]; rfl
  | cons c cs =>
    obtain ⟨b, hb, hbyte⟩ := exists_byte?_eq heq
    rw [hbyte]
    exact ha c b hb

/-- So it does after a character of one byte. -/
theorem any_byte?_succ (ha : Agrees p q) (heq : source.toList = before ++ c :: cs)
    (hc : c.utf8Size = 1) :
    (byte? source (byteLength before + 1)).any p = cs.head?.any q := by
  rw [← hc, ← byteLength_concat]
  exact any_byte? ha (heq.trans (List.append_cons before c cs))

/-! ## Passing over bytes -/

/-- Passing over bytes ends where the source does. -/
theorem passWhile_of_none {pos : Nat} (hnone : byte? source pos = none) :
    passWhile source p pos = pos := by
  rw [passWhile]
  split
  · rfl
  · next heq =>
    rw [hnone] at heq
    cases heq

/-- Bytes of a kind are passed over. -/
theorem passWhile_add {pos : Nat}
    (hpass : ∀ k < n, ∃ b, byte? source (pos + k) = some b ∧ p b = true) :
    passWhile source p pos = passWhile source p (pos + n) := by
  induction n generalizing pos with
  | zero => rfl
  | succ n ih =>
    obtain ⟨b, hb, hp⟩ := hpass 0 (Nat.succ_pos n)
    rw [Nat.add_zero] at hb
    have hrest : ∀ k < n, ∃ b, byte? source (pos + 1 + k) = some b ∧ p b = true := by
      intro k hk
      have hnext := hpass (k + 1) (Nat.succ_lt_succ hk)
      rwa [Nat.add_comm k, ← Nat.add_assoc] at hnext
    rw [passWhile_of_byte? hb, if_pos hp, ih hrest, Nat.add_assoc, Nat.add_comm 1]

/-- The bytes of a character of a kind are passed over. -/
theorem passWhile_cons (ha : Agrees p q) (heq : source.toList = before ++ c :: cs)
    (hc : q c = true) : passWhile source p (byteLength before) =
      passWhile source p (byteLength (before ++ [c])) := by
  rw [byteLength_concat]
  refine passWhile_add fun k hk => ?_
  have hk' : k < (String.utf8EncodeChar c).length := by rwa [String.length_utf8EncodeChar]
  refine ⟨(String.utf8EncodeChar c)[k], ?_, ?_⟩
  · rw [byte?_add heq, List.flatMap_cons, List.getElem?_append_left hk',
      List.getElem?_eq_getElem hk']
  · rw [ha c _ (List.getElem_mem hk'), hc]

/-- Characters of a kind are passed over by their bytes. -/
theorem passWhile_eq (ha : Agrees p q) (heq : source.toList = before ++ cs) :
    passWhile source p (byteLength before) =
      byteLength before + byteLength (cs.takeWhile q) := by
  induction cs generalizing before with
  | nil => exact passWhile_of_none (byte?_end (heq.trans (List.append_nil before)))
  | cons c cs ih =>
    cases hc : q c with
    | false =>
      obtain ⟨b, hb, hbyte⟩ := exists_byte?_eq heq
      rw [passWhile_of_byte? hbyte, ha c b hb, hc, List.takeWhile_cons, hc]
      rfl
    | true =>
      rw [passWhile_cons ha heq hc, ih (by rw [heq, List.append_assoc]; rfl),
        List.takeWhile_cons, if_pos hc, byteLength_concat, byteLength_cons, Nat.add_assoc]

/-! ## Gaps -/

/-- A character that opens a gap, or is in one, is told by its byte. -/
theorem agrees_eq (d : Char) (hd : d.toNat < 128) : Agrees (isAscii (· = d)) (· = d) :=
  agrees_isAscii fun _ hc => (of_decide_eq_true hc) ▸ hd

/-- Separators are told by their bytes. -/
theorem agrees_isSeparator : Agrees (isAscii isSeparator) isSeparator := by
  refine agrees_isAscii fun c hc => ?_
  have hc := isSeparator_iff.1 hc
  simp only [separators, List.mem_cons, List.not_mem_nil, or_false] at hc
  rcases hc with rfl | rfl | rfl | rfl | rfl <;> decide

/-- What skipping does at a byte. -/
theorem skipSeparators_of_byte? {pos : Nat} (hb : byte? source pos = some b) :
    skipSeparators source pos =
      if isAscii isSeparator b then skipSeparators source (pos + 1)
      else if isAscii (· = '/') b && (byte? source (pos + 1)).any (isAscii (· = '/')) then
        skipSeparators source (passWhile source (!isAscii (· = '\n') ·) pos)
      else pos := by
  rw [skipSeparators]
  split
  · next heq =>
    rw [hb] at heq
    cases heq
  · next heq =>
    rw [hb] at heq
    cases heq
    rfl

/-- Skipping ends where the source does. -/
theorem skipSeparators_of_none {pos : Nat} (hnone : byte? source pos = none) :
    skipSeparators source pos = pos := by
  rw [skipSeparators]
  split
  · rfl
  · next heq =>
    rw [hnone] at heq
    cases heq

/-- A separator is skipped by its byte. -/
theorem skipSeparators_cons (heq : source.toList = before ++ c :: cs) (hc : c ∈ separators) :
    skipSeparators source (byteLength before) = skipSeparators source (byteLength before + 1) := by
  obtain ⟨b, hb, hbyte⟩ := exists_byte?_eq heq
  rw [skipSeparators_of_byte? hbyte, agrees_isSeparator c b hb, isSeparator_iff.2 hc, if_pos rfl]

/-- Separators and comments are skipped by their bytes, or the rest of a comment. -/
theorem skipSeparators_eq (inComment : Bool) {pos : Nat} (hpos : pos = byteLength before)
    (heq : source.toList = before ++ cs) :
    skipSeparators source
        (if inComment then passWhile source (!isAscii (· = '\n') ·) pos else pos) =
      (skipGap inComment pos cs).1 := by
  have hnewline := (agrees_eq '\n' (by decide)).not
  have hslash := agrees_eq '/' (by decide)
  fun_induction skipGap inComment pos cs generalizing before with
  | case1 inComment pos =>
    have hend : byte? source pos = none :=
      hpos ▸ byte?_end (heq.trans (List.append_nil before))
    rw [passWhile_of_none hend, ite_self, skipSeparators_of_none hend]
  | case2 pos cs ih =>
    subst hpos
    have hlength : byteLength before + 1 = byteLength (before ++ ['\n']) :=
      (byteLength_concat before '\n').symm
    have hrest := ih hlength (heq.trans (List.append_cons before _ cs))
    rw [if_pos rfl, passWhile_eq hnewline heq]
    exact (skipSeparators_cons heq (by simp [separators])).trans hrest
  | case3 pos c cs hc ih =>
    subst hpos
    have hlength : byteLength before + c.utf8Size = byteLength (before ++ [c]) :=
      (byteLength_concat before c).symm
    have hrest := ih hlength (heq.trans (List.append_cons before c cs))
    rw [if_pos rfl] at hrest ⊢
    rw [passWhile_cons hnewline heq (by simpa using hc), ← hlength, hrest]
  | case4 pos cs ih =>
    subst hpos
    have heq' := heq.trans (List.append_cons before _ _)
    have hlength : byteLength before + 2 = byteLength (before ++ ['/'] ++ ['/']) := by
      rw [byteLength_concat, byteLength_concat]
      rfl
    have hrest := ih hlength (heq'.trans (List.append_cons _ _ cs))
    obtain ⟨b, hb, hbyte⟩ := exists_byte?_eq heq
    have hsep : isAscii isSeparator b = false := agrees_isSeparator _ b hb
    have hopens : (isAscii (· = '/') b && (byte? source (byteLength before + 1)).any
        (isAscii (· = '/'))) = true := by
      rw [hslash _ b hb, any_byte?_succ hslash heq rfl]
      rfl
    rw [if_neg Bool.false_ne_true, skipSeparators_of_byte? hbyte, hsep, if_neg Bool.false_ne_true,
      if_pos hopens, passWhile_cons hnewline heq rfl, passWhile_cons hnewline heq' rfl, ← hlength]
    exact hrest
  | case5 pos c cs _ hc ih =>
    subst hpos
    have hc := isSeparator_iff.1 hc
    have hlength : byteLength before + 1 = byteLength (before ++ [c]) := by
      rw [byteLength_concat, utf8Size_of_separator hc]
    have hrest := ih hlength (heq.trans (List.append_cons before c cs))
    exact (skipSeparators_cons heq hc).trans hrest
  | case6 pos c cs hnot hc =>
    subst hpos
    obtain ⟨b, hb, hbyte⟩ := exists_byte?_eq heq
    have hopens : ¬ (isAscii (· = '/') b && (byte? source (byteLength before + 1)).any
        (isAscii (· = '/'))) = true := by
      rw [hslash c b hb, Bool.and_eq_true, decide_eq_true_eq]
      rintro ⟨rfl, hnext⟩
      rw [any_byte?_succ hslash heq rfl, Option.any_eq_true] at hnext
      obtain ⟨c', hhead, hc'⟩ := hnext
      obtain ⟨cs', rfl⟩ := List.head?_eq_some_iff.1 hhead
      rw [of_decide_eq_true hc'] at hnot
      exact hnot cs' rfl rfl
    rw [if_neg Bool.false_ne_true, skipSeparators_of_byte? hbyte, agrees_isSeparator c b hb,
      if_neg hc, if_neg hopens]

/-! ## Lexemes -/

/-- A scan that cuts nothing comes to its result. -/
theorem Scan.comesTo_ofExcept {α : Type} (result : Except ScriptError α) :
    (Scan.ofExcept result).ComesTo source result :=
  ⟨nofun, rfl⟩

/-- A part of a source is cut out. -/
theorem Scan.comesTo_cut {start stop : Nat} (heq : source.toList = before ++ (text ++ after))
    (hstart : start = byteLength before) (hstop : stop = byteLength (before ++ text)) :
    (Scan.cut source ⟨start, stop⟩).ComesTo source (.ok text) := by
  rw [byteLength_append] at hstop
  subst hstart hstop
  refine ⟨fun span hspan => ?_, ?_⟩
  · rw [List.mem_singleton.1 hspan]
    exact cuts_of_append heq
  · rw [Scan.cut, textOf_eq heq]
    rfl

/-- A scan after one that succeeds comes to what it comes to by itself. -/
theorem Scan.ComesTo.bind {α β : Type} {s : Scan α} {next : α → Scan β} {a : α}
    {result : Except ScriptError β} (hs : s.ComesTo source (.ok a))
    (hnext : (next a).ComesTo source result) : (s.bind next).ComesTo source result := by
  obtain ⟨cuts, result⟩ := s
  obtain ⟨hcuts, rfl⟩ := hs
  refine ⟨fun span hspan => ?_, hnext.result⟩
  rcases List.mem_append.1 hspan with hspan | hspan
  · exact hcuts span hspan
  · exact hnext.cuts span hspan

/-- Letters and digits are ASCII characters. -/
theorem lt_of_isAlphanum (hc : c.isAlphanum = true) : c.toNat < 128 := by
  unfold Char.isAlphanum Char.isAlpha Char.isUpper Char.isLower Char.isDigit at hc
  simp only [Bool.or_eq_true, Bool.and_eq_true, decide_eq_true_eq, ge_iff_le,
    UInt32.le_iff_toNat_le] at hc
  have hupper : 'Z'.val.toNat = 90 := rfl
  have hlower : 'z'.val.toNat = 122 := rfl
  have hnine : '9'.val.toNat = 57 := rfl
  show c.val.toNat < 128
  omega

/-- Digits are told by their bytes. -/
theorem agrees_isDigit : Agrees (isAscii Char.isDigit) Char.isDigit :=
  agrees_isAscii fun c hc => lt_of_isAlphanum (by simp [Char.isAlphanum, hc])

/-- Letters are told by their bytes. -/
theorem agrees_isAlpha : Agrees (isAscii Char.isAlpha) Char.isAlpha :=
  agrees_isAscii fun c hc => lt_of_isAlphanum (by simp [Char.isAlphanum, hc])

/-- What goes on with a word is told by its bytes. -/
theorem agrees_isWordPart : Agrees (isAscii isWordPart) isWordPart := by
  refine agrees_isAscii fun c hc => ?_
  rcases Bool.or_eq_true_iff.1 hc with hc | hc
  · exact lt_of_isAlphanum hc
  · rw [of_decide_eq_true hc]
    decide

/-- A lexeme that ends in digits is scanned: what is decoded begins where the digits do, or before
them. -/
theorem comesTo_scanDigits {dropped kept digits : List Char} {start piece first stop : Nat}
    {missing : Fault} {decode : List Char → Except Fault TokenKind}
    {result : Except Fault TokenKind}
    (heq : source.toList = before ++ (dropped ++ (kept ++ cs)))
    (hdigits : digits = cs.takeWhile Char.isDigit)
    (hpiece : piece = byteLength (before ++ dropped))
    (hfirst : first = byteLength (before ++ dropped ++ kept))
    (hstop : stop = byteLength (before ++ dropped ++ kept ++ digits))
    (hmissing : digits = [] → .error missing = result ∧ first = start + 1)
    (hdecode : digits ≠ [] → decode (kept ++ digits) = result) :
    (scanDigits source start first piece missing decode).ComesTo source
      (tokenAt ⟨start, stop⟩ result) := by
  have hstop' : passWhile source (isAscii Char.isDigit) first = stop := by
    rw [hstop, byteLength_append, ← hfirst, hdigits, hfirst]
    exact passWhile_eq agrees_isDigit (by simp [heq])
  rw [byteLength_append, ← hfirst] at hstop
  rw [scanDigits, hstop']
  by_cases hnil : digits = []
  · obtain ⟨rfl, rfl⟩ := hmissing hnil
    obtain rfl : stop = start + 1 := by rw [hstop, hnil]; rfl
    rw [if_pos rfl]
    have hfault : tokenAt ⟨start, start + 1⟩ (.error missing) = .error ⟨missing, start, 1⟩ := by
      simp [tokenAt, ScriptError.atSpan, Span.length]
    rw [hfault]
    exact Scan.comesTo_ofExcept _
  · have hne : stop ≠ first := fun h => hnil (byteLength_eq_zero.1 (by omega))
    have hcut : source.toList =
        (before ++ dropped) ++ ((kept ++ digits) ++ cs.dropWhile Char.isDigit) := by
      rw [heq, hdigits]
      simp only [List.append_assoc, List.takeWhile_append_dropWhile]
    have hend : stop = byteLength (before ++ dropped ++ (kept ++ digits)) := by
      rw [hstop, hfirst, ← byteLength_append, List.append_assoc (before ++ dropped)]
    rw [if_neg hne, ← hdecode hnil]
    exact (Scan.comesTo_cut hcut hpiece hend).bind (Scan.comesTo_ofExcept _)

/-- A slot reference is scanned. -/
theorem comesTo_scanRef (heq : source.toList = before ++ '#' :: cs) :
    (scanRef source (byteLength before)).ComesTo source
      (tokenAt ⟨byteLength before,
          byteLength before + byteLength ('#' :: cs.takeWhile Char.isDigit)⟩
        (decode '#' (cs.takeWhile Char.isDigit))) := by
  have heq' : source.toList = before ++ (['#'] ++ ([] ++ cs)) := heq
  have hfirst : byteLength before + 1 = byteLength (before ++ ['#']) :=
    (byteLength_concat before '#').symm
  refine comesTo_scanDigits heq' rfl hfirst ?_ ?_ (fun hnil => ⟨?_, rfl⟩) fun hne => ?_
  · rw [List.append_nil, hfirst]
  · simp
  · rw [hnil]
    rfl
  · simp [decode, hne]

/-- An integer is scanned, with or without a sign. -/
theorem comesTo_scanInt {first : Char} (heq : source.toList = before ++ first :: cs)
    (hfirst : first = '-' ∨ first.isDigit = true) :
    (scanInt source (byteLength before)).ComesTo source
      (tokenAt ⟨byteLength before,
          byteLength before + byteLength (first :: cs.takeWhile Char.isDigit)⟩
        (decode first (cs.takeWhile Char.isDigit))) := by
  have hsign : (byte? source (byteLength before)).any (isAscii (· = '-')) =
      decide (first = '-') := any_byte? (agrees_eq '-' (by decide)) heq
  rw [scanInt, hsign]
  by_cases hminus : first = '-'
  · subst hminus
    have heq' : source.toList = before ++ ([] ++ (['-'] ++ cs)) := heq
    refine comesTo_scanDigits heq' rfl ?_ ?_ ?_ (fun hnil => ⟨?_, ?_⟩) fun hne => ?_
    · rw [List.append_nil]
    · rw [List.append_nil, byteLength_concat]
      rfl
    · simp
    · rw [hnil]
      rfl
    · rfl
    · simp [decode, hne, parseInt]
  · have hdigit := hfirst.resolve_left hminus
    have heq' : source.toList = before ++ ([] ++ ([] ++ first :: cs)) := heq
    have hdigits : first :: cs.takeWhile Char.isDigit = (first :: cs).takeWhile Char.isDigit := by
      rw [List.takeWhile_cons, if_pos hdigit]
    refine comesTo_scanDigits heq' hdigits ?_ ?_ ?_ (fun hnil => ?_) fun _ => ?_
    · rw [List.append_nil]
    · simp [hminus]
    · simp
    · exact absurd hnil (List.cons_ne_nil _ _)
    · have hparse : parseInt (first :: cs.takeWhile Char.isDigit) =
          decodeInt false (first :: cs.takeWhile Char.isDigit) := by
        unfold parseInt
        split
        · next h => exact absurd (List.cons.inj h).1 hminus
        · rfl
      rw [List.nil_append, hparse]
      simp [decode, isAlpha_of_isDigit hdigit, hdigit]

/-- A word is scanned. -/
theorem comesTo_scanWord {first : Char} (heq : source.toList = before ++ first :: cs)
    (hfirst : first.isAlpha = true) :
    (scanWord source (byteLength before)).ComesTo source
      (tokenAt ⟨byteLength before,
          byteLength before + byteLength (first :: cs.takeWhile isWordPart)⟩
        (decode first (cs.takeWhile isWordPart))) := by
  have htake : (first :: cs).takeWhile isWordPart = first :: cs.takeWhile isWordPart := by
    rw [List.takeWhile_cons, if_pos (by simp [isWordPart, Char.isAlphanum, hfirst])]
  have hstop := passWhile_eq agrees_isWordPart heq
  rw [htake] at hstop
  have hcut : source.toList = before ++ ((first :: cs.takeWhile isWordPart) ++
      cs.dropWhile isWordPart) := by
    rw [heq, List.cons_append, List.takeWhile_append_dropWhile]
  rw [scanWord, hstop, decode, if_pos hfirst]
  exact (Scan.comesTo_cut hcut rfl (byteLength_append _ _).symm).bind (Scan.comesTo_ofExcept _)

/-- A character that no token starts with is found. -/
theorem comesTo_scanUnexpected (heq : source.toList = before ++ c :: cs) :
    (scanUnexpected source (byteLength before)).ComesTo source
      (tokenAt ⟨byteLength before, byteLength before + byteLength [c]⟩
        (.error (.unexpectedCharacter c))) := by
  have hcut : source.toList = before ++ ((c :: cs) ++ []) := by rw [List.append_nil, heq]
  have hstop : source.utf8ByteSize = byteLength (before ++ c :: cs) := by
    rw [utf8ByteSize_eq, heq]
  have hfault : tokenAt ⟨byteLength before, byteLength before + byteLength [c]⟩
      (.error (.unexpectedCharacter c)) =
        .error ⟨.unexpectedCharacter c, byteLength before, c.utf8Size⟩ := by
    simp [tokenAt, ScriptError.atSpan, Span.length]
  rw [hfault]
  exact (Scan.comesTo_cut hcut rfl hstop).bind (Scan.comesTo_ofExcept _)

/-- The lexeme that starts with a character is scanned from its first byte on. -/
theorem comesTo_scanLexeme {first : Char} (heq : source.toList = before ++ first :: rest)
    (hbyte : byte? source (byteLength before) = some b) :
    (scanLexeme source (byteLength before) b).ComesTo source
      (tokenAt ⟨byteLength before,
          byteLength before + byteLength (first :: rest.takeWhile (continues first))⟩
        (decode first (rest.takeWhile (continues first)))) := by
  have hb : b ∈ String.utf8EncodeChar first := by
    obtain ⟨b', hb', hbyte'⟩ := exists_byte?_eq heq
    rwa [Option.some_inj.1 (hbyte.symm.trans hbyte')]
  rw [scanLexeme, agrees_eq '#' (by decide) first b hb, agrees_eq '-' (by decide) first b hb,
    agrees_isDigit first b hb, agrees_isAlpha first b hb]
  by_cases hsharp : first = '#'
  · subst hsharp
    exact comesTo_scanRef heq
  rw [if_neg (by simpa using hsharp)]
  by_cases hint : first = '-' ∨ first.isDigit = true
  · have halpha : first.isAlpha = false := by
      rcases hint with rfl | hdigit
      · rfl
      · exact isAlpha_of_isDigit hdigit
    have hcontinues : continues first = Char.isDigit := by
      funext c
      rcases hint with rfl | hdigit <;> simp [continues, *]
    rw [hcontinues, if_pos (by simpa using hint)]
    exact comesTo_scanInt heq hint
  rw [if_neg (by simpa using hint)]
  by_cases hword : first.isAlpha = true
  · have hcontinues : continues first = isWordPart := by
      funext c
      simp [continues, hword, isWordPart]
    rw [hcontinues, if_pos hword]
    exact comesTo_scanWord heq hword
  · have hcontinues : continues first = fun _ => false := by
      funext c
      simp_all [continues]
    have hdecode : decode first [] = .error (.unexpectedCharacter first) := by
      simp_all [decode]
    have htake : rest.takeWhile (continues first) = [] := by
      rw [hcontinues, List.takeWhile_eq_nil_iff]
      simp
    rw [if_neg hword, htake, hdecode]
    exact comesTo_scanUnexpected heq

/-! ## Sources -/

/-- Scanning ends where no lexeme starts. -/
theorem scanFrom_of_none {pos : Nat} (hnone : byte? source (skipSeparators source pos) = none) :
    scanFrom source pos = .ofExcept (.ok []) := by
  rw [scanFrom]
  split
  · rfl
  · next heq =>
    rw [hnone] at heq
    cases heq

/-- A lexeme is scanned, and then what follows its token. -/
theorem scanFrom_of_byte? {pos : Nat} (hb : byte? source (skipSeparators source pos) = some b) :
    scanFrom source pos = (scanLexeme source (skipSeparators source pos) b).bind fun token =>
      (scanFrom source token.span.stop).map (token :: ·) := by
  rw [scanFrom]
  split
  · next heq =>
    rw [hb] at heq
    cases heq
  · next heq =>
    rw [hb] at heq
    cases heq
    split <;> next hlexeme => rw [hlexeme]; rfl

/-- A scan after one that fails is not made. -/
theorem Scan.ComesTo.bind_error {α β : Type} {s : Scan α} {e : ScriptError}
    (hs : s.ComesTo source (.error e)) (next : α → Scan β) :
    (s.bind next).ComesTo source (.error e) := by
  obtain ⟨cuts, result⟩ := s
  obtain ⟨hcuts, rfl⟩ := hs
  exact ⟨hcuts, rfl⟩

/-- A scan comes to another result with another one. -/
theorem Scan.ComesTo.map {α β : Type} {s : Scan α} {result : Except ScriptError α}
    (hs : s.ComesTo source result) (f : α → β) : (s.map f).ComesTo source (f <$> result) :=
  ⟨hs.cuts, by rw [Scan.map, hs.result]; rfl⟩

/-- A gap is skipped by its bytes. -/
theorem exists_front_of_skipGap {pos start : Nat} (hpos : pos = byteLength before)
    (heq : source.toList = before ++ cs) (hskip : skipGap false pos cs = (start, rest)) :
    ∃ front, source.toList = front ++ rest ∧ start = byteLength front ∧
      skipSeparators source pos = start := by
  obtain ⟨gap, hcs, hstart, -⟩ := exists_gap_of_skipGap false pos cs
  have hskipped := skipSeparators_eq false hpos heq
  rw [hskip] at hcs hstart hskipped
  refine ⟨before ++ gap, ?_, ?_, hskipped⟩
  · rw [heq, hcs, List.append_assoc]
  · rw [byteLength_append, ← hpos]
    exact hstart

/-- After a gap the lexeme is scanned that follows, and then what follows its token. -/
theorem exists_scan_of_skipGap {pos start : Nat} {first : Char} (hpos : pos = byteLength before)
    (heq : source.toList = before ++ cs) (hskip : skipGap false pos cs = (start, first :: rest)) :
    ∃ front, source.toList = front ++ first :: rest ∧ start = byteLength front ∧
      ∃ s : Scan Token,
        s.ComesTo source (tokenAt
          ⟨start, start + byteLength (first :: rest.takeWhile (continues first))⟩
          (decode first (rest.takeWhile (continues first)))) ∧
        scanFrom source pos = s.bind fun token =>
          (scanFrom source token.span.stop).map (token :: ·) := by
  obtain ⟨front, hfront, hstart, hskipped⟩ := exists_front_of_skipGap hpos heq hskip
  obtain ⟨b, -, hbyte⟩ := exists_byte?_eq hfront
  have hlexeme := comesTo_scanLexeme hfront hbyte
  rw [← hstart] at hbyte hlexeme
  rw [← hskipped] at hbyte
  have hscan := scanFrom_of_byte? hbyte
  rw [hskipped] at hscan
  exact ⟨front, hfront, hstart, _, hlexeme, hscan⟩

/-- Scanning comes to what lexing comes to, from any position between characters on. -/
theorem comesTo_scanFrom {pos : Nat} (hpos : pos = byteLength before)
    (heq : source.toList = before ++ cs) :
    (scanFrom source pos).ComesTo source (lexFrom pos cs) := by
  fun_induction lexFrom pos cs generalizing before with
  | case1 pos cs start hskip =>
    obtain ⟨front, hfront, hstart, hskipped⟩ := exists_front_of_skipGap hpos heq hskip
    have hend := byte?_end (hfront.trans (List.append_nil front))
    rw [← hstart, ← hskipped] at hend
    rw [scanFrom_of_none hend]
    exact Scan.comesTo_ofExcept _
  | case2 pos cs start first rest hskip others span fault =>
    rename_i hdecode
    obtain ⟨front, -, -, s, hs, hscan⟩ := exists_scan_of_skipGap hpos heq hskip
    rw [show decode first (rest.takeWhile (continues first)) = .error fault from hdecode] at hs
    rw [hscan]
    exact hs.bind_error _
  | case3 pos cs start first rest hskip others span kind hdecode =>
    rename_i ih
    obtain ⟨front, hfront, hstart, s, hs, hscan⟩ := exists_scan_of_skipGap hpos heq hskip
    rw [show decode first (rest.takeWhile (continues first)) = .ok kind from hdecode] at hs
    have hstop : span.stop = byteLength (front ++ first :: others) := by
      rw [byteLength_append, ← hstart]
    have hafter : source.toList =
        (front ++ first :: others) ++ rest.dropWhile (continues first) := by
      rw [hfront, List.append_assoc, List.cons_append, List.takeWhile_append_dropWhile]
    rw [hscan]
    exact hs.bind ((ih hstop hafter).map _)

/-- No cut that is made in a source is refused, and the tokens are those that are found by
characters. -/
theorem comesTo_scan (source : String) : (scan source).ComesTo source (lex source) :=
  have hstart : 0 = byteLength [] := rfl
  comesTo_scanFrom hstart rfl

end

end Script

end RootedHeap
