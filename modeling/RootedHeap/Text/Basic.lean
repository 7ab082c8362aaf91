/-!
# Bytes and digits of texts

Places in a text are counted in UTF-8 bytes. `byteLength` measures a text, and `cutBytes` cuts one
after a number of bytes, which undoes joining (`cutBytes_byteLength`). `digitsValue` and `hexValue?`
are the numbers that rows of decimal and hexadecimal digits stand for.
-/

namespace RootedHeap.Text

/-! ## Bytes -/

/-- The number of UTF-8 bytes of a text. -/
def byteLength (cs : List Char) : Nat := cs.foldr (fun c n => c.utf8Size + n) 0

/-- The first `n` bytes of a text and what follows; none if it is shorter or a character lies across
the cut. -/
def cutBytes : (n : Nat) → List Char → Option (List Char × List Char)
  | 0, cs => some ([], cs)
  | _ + 1, [] => none
  | n + 1, c :: cs =>
    if c.utf8Size ≤ n + 1 then
      (cutBytes (n + 1 - c.utf8Size) cs).map fun (before, after) => (c :: before, after)
    else none

@[simp] theorem byteLength_nil : byteLength [] = 0 := rfl

@[simp] theorem byteLength_cons (c : Char) (cs : List Char) :
    byteLength (c :: cs) = c.utf8Size + byteLength cs := rfl

@[simp] theorem byteLength_append (cs ds : List Char) :
    byteLength (cs ++ ds) = byteLength cs + byteLength ds := by
  induction cs with
  | nil => simp
  | cons c cs ih => rw [List.cons_append, byteLength_cons, byteLength_cons, ih, Nat.add_assoc]

/-- The bytes of a string are those of its characters. -/
theorem utf8ByteSize_ofList (cs : List Char) :
    (String.ofList cs).utf8ByteSize = byteLength cs := by
  induction cs with
  | nil => rfl
  | cons c cs ih =>
    rw [String.ofList_cons, String.utf8ByteSize_append, String.utf8ByteSize_singleton, ih,
      byteLength_cons]

/-- A text is cut where its parts were joined. -/
theorem cutBytes_byteLength (before after : List Char) :
    cutBytes (byteLength before) (before ++ after) = some (before, after) := by
  induction before with
  | nil => simp [byteLength, cutBytes]
  | cons c cs ih =>
    obtain ⟨n, hn⟩ : ∃ n, byteLength (c :: cs) = n + 1 :=
      ⟨byteLength (c :: cs) - 1, by
        have := c.utf8Size_pos
        simp only [byteLength, List.foldr_cons]
        omega⟩
    have hrest : n + 1 - c.utf8Size = byteLength cs := by
      rw [← hn]
      simp only [byteLength, List.foldr_cons]
      omega
    have hle : c.utf8Size ≤ n + 1 := by
      rw [← hn]
      simp only [byteLength, List.foldr_cons]
      omega
    rw [hn, List.cons_append, cutBytes, if_pos hle, hrest, ih]
    rfl

/-! ## Digits -/

/-- The value of a row of decimal digits. -/
def digitsValue (ds : List Char) : Nat := ds.foldl (fun n d => 10 * n + (d.toNat - 48)) 0

/-- The value of a hexadecimal digit. -/
def hexDigit? (c : Char) : Option Nat :=
  if c.isDigit then some (c.toNat - 48)
  else if 'a' ≤ c ∧ c ≤ 'f' then some (c.toNat - 87)
  else if 'A' ≤ c ∧ c ≤ 'F' then some (c.toNat - 55)
  else none

/-- The value of a row of hexadecimal digits, if all of it is digits. -/
def hexValue? (ds : List Char) : Option Nat :=
  ds.foldl (fun n d => return 16 * (← n) + (← hexDigit? d)) (some 0)

end RootedHeap.Text
