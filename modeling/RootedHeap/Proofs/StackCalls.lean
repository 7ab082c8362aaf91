import RootedHeap.RootStack

/-!
# Calls on a root stack

A stack is its capacity and the list of its entries, its top first. A `RootStack.Call` is one use of
any of its operations; it needs a number of entries and may take room (`RootStack.Call.needs`,
`RootStack.Call.takesRoom`). If it lacks neither, it has an answer and leaves some entries
(`RootStack.Call.answer`, `RootStack.Call.left`); otherwise it says which of them it lacks, and the
stack is as before. Only a call that lacks more entries than a word can count stops without a
result. This is all that a call can do (`RootStack.perform_ends`). So a peek finds what the last of
one more pops than its offset takes off (`RootStack.Truthful.peeked`).

Every call but one has a result, and what an error says about the entries is true
(`RootStack.errors_truthful`). The call without a result is a peek at the last offset: the number of
entries that it needs is the least one for which there is no word.
-/

namespace RootedHeap

namespace Checked

variable {n a b : Nat}

/-- A number that fits has a word. -/
theorem word_of_lt (hn : n < UInt64.size) : word n = some (.ofNat n) := if_pos hn

/-- A number that does not fit has no word. -/
theorem word_of_le (hn : UInt64.size ≤ n) : word n = none := if_neg (Nat.not_lt.2 hn)

/-- The difference from a number that is not greater. -/
theorem minus_of_le (h : b ≤ a) : minus a b = some (a - b) := if_pos h

end Checked

namespace RootStack

/-! ## The root stack as a list -/

/-- A stack of the same capacity with other entries. -/
def withEntries (s : RootStack) (entries : List Handle) : RootStack :=
  { capacity := s.capacity, entries }

/-- A stack is its capacity and its entries. -/
theorem withEntries_self (s : RootStack) : s.withEntries s.entries = s := by
  obtain ⟨capacity, entries, size, hsize⟩ := s
  subst hsize
  rfl

/-- A stack is full if it has as many entries as its capacity allows. -/
theorem isFull_iff (s : RootStack) : s.isFull = true ↔ s.capacity.toNat ≤ s.entries.length := by
  rw [isFull, decide_eq_true_eq, s.size_eq]

/-- A stack that is not full takes one more entry. -/
theorem push_eq {s : RootStack} (hs : s.isFull = false) (h : Handle) :
    s.push h = .ok (s.withEntries (h :: s.entries)) := by
  simp [push, hs, withEntries, s.size_eq]

/-- A full stack refuses one more entry. -/
theorem push_eq_of_isFull {s : RootStack} (hs : s.isFull = true) (h : Handle) :
    s.push h = .error (.overflow s.capacity) := by
  simp [push, hs]

/-- A stack with entries gives the top one away. -/
theorem pop_eq {s : RootStack} {h : Handle} {rest : List Handle} (hs : s.entries = h :: rest) :
    s.pop = .ok (h, s.withEntries rest) := by
  obtain ⟨capacity, entries, size, hsize⟩ := s
  subst hsize hs
  rfl

/-- A stack without entries has none to give away. -/
theorem pop_eq_of_nil {s : RootStack} (hs : s.entries = []) :
    s.pop = .error (.underflow 1 0) := by
  obtain ⟨capacity, entries, size, hsize⟩ := s
  subst hsize hs
  rfl

/-- A stack that is not full has room for one more entry. -/
theorem ensureRoom_eq_ok {s : RootStack} (hs : s.isFull = false) : s.ensureRoom = .ok () := by
  simp [ensureRoom, hs]

/-- A full stack has no room. -/
theorem ensureRoom_eq_error {s : RootStack} (hs : s.isFull = true) :
    s.ensureRoom = .error (.overflow s.capacity) := by
  simp [ensureRoom, hs]

/-- There is room for one more entry if there are fewer than the capacity allows. -/
theorem isOk_ensureRoom {s : RootStack} :
    s.ensureRoom.isOk = true ↔ s.size < s.capacity.toNat := by
  unfold ensureRoom isFull
  split <;> simp_all [Except.isOk, Except.toBool]

/-- There are as many entries as are needed if they are not fewer. -/
theorem isOk_require {s : RootStack} {needed : UInt64} :
    (s.require needed).isOk = true ↔ needed.toNat ≤ s.size := by
  unfold require
  split <;> simp_all [Except.isOk, Except.toBool]

/-- A peek finds the entry that has as many entries above it as the offset says. -/
theorem peekAt_of_lt {s : RootStack} {offset : UInt64} (hlt : offset.toNat < s.entries.length) :
    s.peekAt offset = some (.ok s.entries[offset.toNat]) := by
  have hplace : s.toList[s.entries.length - 1 - offset.toNat]? = some s.entries[offset.toNat] := by
    have hrest : s.entries.length - 1 - (s.entries.length - 1 - offset.toNat) = offset.toNat := by
      omega
    rw [toList, List.getElem?_reverse (by omega), hrest, List.getElem?_eq_getElem hlt]
  rw [peekAt, s.size_eq, if_neg (Nat.not_le.2 hlt), Checked.minus_of_le (by omega)]
  simp only [Option.bind_eq_bind, Option.bind_some]
  rw [Checked.minus_of_le (by omega), Option.bind_some, hplace]
  rfl

/-- A peek below the bottom counts the entries that it needs, if there is a word for that. -/
theorem peekAt_of_le {s : RootStack} {offset : UInt64} (hle : s.entries.length ≤ offset.toNat) :
    s.peekAt offset = (Checked.word (offset.toNat + 1)).map fun needed =>
      .error (.underflow needed s.entries.length) := by
  rw [peekAt, s.size_eq, if_pos hle]
  cases Checked.word (offset.toNat + 1) <;> rfl

/-- A stack of two entries or more has two on top. -/
theorem exists_entries_of_two_le {s : RootStack} (hs : 2 ≤ s.size) :
    ∃ tail head rest, s.entries = tail :: head :: rest := by
  rw [s.size_eq] at hs
  rcases hentries : s.entries with _ | ⟨tail, _ | ⟨head, rest⟩⟩
  · simp [hentries] at hs
  · simp [hentries] at hs
  · exact ⟨tail, head, rest, rfl⟩

/-- The entries of a stack, from its bottom or from its top. -/
theorem mem_toList {s : RootStack} {h : Handle} : h ∈ s.toList ↔ h ∈ s.entries :=
  List.mem_reverse

/-! ## Calls -/

/-- One use of an operation of a stack. -/
inductive Call where
  | push (h : Handle)
  | pop
  | peek
  | peekAt (offset : UInt64)
  | require (needed : UInt64)
  | ensureRoom
  | clear
deriving DecidableEq, Repr

namespace Call

/-- The number of entries without which a call fails. -/
def needs : Call → Nat
  | push _ | ensureRoom | clear => 0
  | pop | peek => 1
  | peekAt offset => offset.toNat + 1
  | require needed => needed.toNat

/-- Whether a call fails on a full stack. -/
def takesRoom : Call → Bool
  | push _ | ensureRoom => true
  | pop | peek | peekAt _ | require _ | clear => false

/-- The entry that a call answers with if it does not fail. -/
def answer (entries : List Handle) : Call → Option Handle
  | pop | peek => entries.head?
  | peekAt offset => entries[offset.toNat]?
  | push _ | require _ | ensureRoom | clear => none

/-- The entries that a call leaves if it does not fail. -/
def left (entries : List Handle) : Call → List Handle
  | push h => h :: entries
  | pop => entries.tail
  | clear => []
  | peek | peekAt _ | require _ | ensureRoom => entries

end Call

/-- Performs a call: the entry that it answers with, if it does, and the stack that it leaves. There
is no result if the call stops in the middle of its arithmetic. -/
def perform (s : RootStack) : Call → Checked (Except StackError (Option Handle)) × RootStack
  | .push h =>
    match s.push h with
    | .ok t => (some (.ok none), t)
    | .error e => (some (.error e), s)
  | .pop =>
    match s.pop with
    | .ok (h, t) => (some (.ok (some h)), t)
    | .error e => (some (.error e), s)
  | .peek => (some (s.peek.map some), s)
  | .peekAt offset => ((s.peekAt offset).map fun found => found.map some, s)
  | .require needed => (some ((s.require needed).map fun _ => none), s)
  | .ensureRoom => (some (s.ensureRoom.map fun _ => none), s)
  | .clear => (some (.ok none), s.clear)

/-- Performs calls, whether they succeed or not. -/
def performAll (s : RootStack) (calls : List Call) : RootStack :=
  calls.foldl (fun s call => (s.perform call).2) s

/-- The greatest offset. There is no word for the number of entries that a peek there needs. -/
def lastOffset : UInt64 := 18446744073709551615

/-- A call on a stack of some capacity tells the truth: it fails exactly if there are fewer entries
than it needs or if it takes room and there is none, and what it says then is so. -/
structure Truthful (capacity : UInt64) (s : RootStack) (call : Call) : Prop where
  /-- No arithmetic on the way to the result leaves its range. -/
  computed : ∃ result, (s.perform call).1 = some result
  fails_iff : (∃ e, (s.perform call).1 = some (.error e)) ↔
    s.entries.length < call.needs ∨
      call.takesRoom = true ∧ capacity.toNat ≤ s.entries.length
  underflow : ∀ needed available, (s.perform call).1 = some (.error (.underflow needed available)) →
    available = s.entries.length ∧ needed.toNat = call.needs ∧ available < needed.toNat
  overflow : ∀ bound, (s.perform call).1 = some (.error (.overflow bound)) → bound = capacity
  unchanged : ∀ e, (s.perform call).1 = some (.error e) → (s.perform call).2 = s
  /-- A peek finds what the last of one more pops than its offset takes off. -/
  peeked : ∀ offset h, call = .peekAt offset →
    ((s.perform call).1 = some (.ok (some h)) ↔
      ((s.performAll (.replicate offset.toNat .pop)).perform .pop).1 = some (.ok (some h)))

/-- How a call ends: it does what it is for, or it lacks room or entries, or it stops because the
entries that it lacks cannot be counted in a word. But for the first, it leaves the stack as it
is. -/
inductive Ends (s : RootStack) (call : Call) :
    Checked (Except StackError (Option Handle)) × RootStack → Prop
  | answered : call.needs ≤ s.entries.length →
      (call.takesRoom = true → s.entries.length < s.capacity.toNat) →
      Ends s call (some (.ok (call.answer s.entries)), s.withEntries (call.left s.entries))
  | overflowed : call.takesRoom = true → s.capacity.toNat ≤ s.entries.length →
      Ends s call (some (.error (.overflow s.capacity)), s)
  | underflowed {needed : UInt64} : s.entries.length < call.needs → needed.toNat = call.needs →
      Ends s call (some (.error (.underflow needed s.entries.length)), s)
  | stopped : s.entries.length < call.needs → UInt64.size ≤ call.needs → Ends s call (none, s)

section
variable {capacity : UInt64} {s : RootStack} {h : Handle} {call : Call}

/-! ## How calls end -/

/-- A call that takes room ends as the stack has room or not. -/
theorem ends_of_takesRoom (hroom : call.takesRoom = true) (hneeds : call.needs = 0)
    (hok : s.isFull = false →
      s.perform call = (some (.ok (call.answer s.entries)), s.withEntries (call.left s.entries)))
    (herror : s.isFull = true → s.perform call = (some (.error (.overflow s.capacity)), s)) :
    s.Ends call (s.perform call) := by
  cases hfull : s.isFull with
  | true =>
    rw [herror hfull]
    exact .overflowed hroom ((isFull_iff s).1 hfull)
  | false =>
    have hlt : s.entries.length < s.capacity.toNat := by
      rw [← Nat.not_le, ← isFull_iff, hfull]
      decide
    rw [hok hfull]
    exact .answered (hneeds ▸ Nat.zero_le _) fun _ => hlt

/-- A call that only looks at the stack is answered if the entries are there that it needs. -/
theorem ends_of_left (hleft : call.left s.entries = s.entries) (hroom : call.takesRoom = false)
    (hneeds : call.needs ≤ s.entries.length) :
    s.Ends call (some (.ok (call.answer s.entries)), s) := by
  have hends : s.Ends call _ := .answered hneeds fun htakes => by
    rw [hroom] at htakes
    cases htakes
  rwa [hleft, withEntries_self] at hends

/-- A call that needs an entry says so if there are none. -/
theorem ends_of_nil (hentries : s.entries = []) (hneeds : call.needs = 1) :
    s.Ends call (some (.error (.underflow 1 0)), s) := by
  have hends : s.Ends call (some (.error (.underflow 1 s.entries.length)), s) :=
    .underflowed (by simp [hentries, hneeds]) hneeds.symm
  rwa [hentries] at hends

/-- A call ends in one of these ways. -/
theorem perform_ends (s : RootStack) (call : Call) : s.Ends call (s.perform call) := by
  cases call with
  | push h =>
    refine ends_of_takesRoom rfl rfl (fun hfull => ?_) fun hfull => ?_
    · rw [perform, push_eq hfull]
      rfl
    · rw [perform, push_eq_of_isFull hfull]
  | ensureRoom =>
    refine ends_of_takesRoom rfl rfl (fun hfull => ?_) fun hfull => ?_
    · rw [perform, ensureRoom_eq_ok hfull]
      exact congrArg _ s.withEntries_self.symm
    · rw [perform, ensureRoom_eq_error hfull]
      rfl
  | pop =>
    cases hentries : s.entries with
    | nil =>
      rw [perform, pop_eq_of_nil hentries]
      exact ends_of_nil hentries rfl
    | cons h rest =>
      have hends : s.Ends .pop _ := .answered (by simp [hentries, Call.needs]) nofun
      rw [perform, pop_eq hentries]
      rwa [hentries] at hends
  | peek =>
    cases hentries : s.entries with
    | nil =>
      rw [perform, peek, hentries]
      exact ends_of_nil hentries rfl
    | cons h rest =>
      have hends : s.Ends .peek _ := ends_of_left rfl rfl (by simp [hentries, Call.needs])
      rw [perform, peek, hentries]
      rwa [hentries] at hends
  | peekAt offset =>
    rw [perform]
    rcases Nat.lt_or_ge offset.toNat s.entries.length with hlt | hle
    · have hends : s.Ends (.peekAt offset) _ := ends_of_left rfl rfl hlt
      rw [peekAt_of_lt hlt]
      rwa [Call.answer, List.getElem?_eq_getElem hlt] at hends
    · have hlacks : s.entries.length < (Call.peekAt offset).needs := Nat.lt_succ_of_le hle
      rw [peekAt_of_le hle]
      rcases Nat.lt_or_ge (offset.toNat + 1) UInt64.size with hword | hword
      · rw [Checked.word_of_lt hword]
        exact .underflowed hlacks (UInt64.toNat_ofNat_of_lt' hword)
      · rw [Checked.word_of_le hword]
        exact .stopped hlacks hword
  | require needed =>
    rw [perform, require, s.size_eq]
    split
    · next hlt => exact .underflowed hlt rfl
    · next hle => exact ends_of_left rfl rfl (Nat.not_lt.1 hle)
  | clear => exact .answered (Nat.zero_le _) nofun

/-- A call whose needs can be counted has a result. -/
theorem exists_result (hneeds : call.needs < UInt64.size) :
    ∃ result, (s.perform call).1 = some result := by
  have hends := s.perform_ends call
  generalize s.perform call = ended at hends
  cases hends with
  | answered | overflowed | underflowed => exact ⟨_, rfl⟩
  | stopped _ hle => exact absurd hneeds (Nat.not_lt.2 hle)

/-- A call that fails leaves the stack as it is, and says that there is no room, or how many entries
it needs and how many there are. -/
theorem perform_eq_error {e : StackError} (he : (s.perform call).1 = some (.error e)) :
    (s.perform call).2 = s ∧
      (e = .overflow s.capacity ∨
        ∃ needed, needed.toNat = call.needs ∧ s.entries.length < call.needs ∧
          e = .underflow needed s.entries.length) := by
  have hends := s.perform_ends call
  generalize s.perform call = ended at he hends
  cases hends with
  | answered | stopped => cases he
  | overflowed =>
    cases he
    exact ⟨rfl, .inl rfl⟩
  | underflowed hlt hneeded =>
    cases he
    exact ⟨rfl, .inr ⟨_, hneeded, hlt, rfl⟩⟩

/-- A call whose needs can be counted fails if there are fewer entries than it needs, or if it takes
room and there is none. -/
theorem exists_error_iff (hneeds : call.needs < UInt64.size) :
    (∃ e, (s.perform call).1 = some (.error e)) ↔
      s.entries.length < call.needs ∨
        call.takesRoom = true ∧ s.capacity.toNat ≤ s.entries.length := by
  have hends := s.perform_ends call
  generalize s.perform call = ended at hends
  cases hends with
  | answered hhas hroom =>
    constructor
    · rintro ⟨e, he⟩
      cases he
    · rintro (hlt | ⟨htakes, hle⟩)
      · exact absurd hhas (Nat.not_le.2 hlt)
      · exact absurd (hroom htakes) (Nat.not_lt.2 hle)
  | overflowed htakes hle => exact ⟨fun _ => .inr ⟨htakes, hle⟩, fun _ => ⟨_, rfl⟩⟩
  | underflowed hlt => exact ⟨fun _ => .inl hlt, fun _ => ⟨_, rfl⟩⟩
  | stopped _ hle => exact absurd hneeds (Nat.not_lt.2 hle)

/-! ## Peeks and pops -/

/-- A call that answers with an entry has what it needs. -/
theorem allowed_of_answer (hanswer : call.answer s.entries = some h) :
    call.needs ≤ s.entries.length ∧ call.takesRoom = false := by
  cases call with
  | push | require | ensureRoom | clear => cases hanswer
  | pop | peek => exact ⟨List.length_pos_of_mem (List.mem_of_mem_head? hanswer), rfl⟩
  | peekAt offset => exact ⟨(List.getElem?_eq_some_iff.1 hanswer).1, rfl⟩

/-- A call answers with an entry if there is one for it. -/
theorem perform_eq_ok_some :
    (s.perform call).1 = some (.ok (some h)) ↔ call.answer s.entries = some h := by
  have hends := s.perform_ends call
  generalize s.perform call = ended at hends
  cases hends with
  | answered => simp
  | overflowed htakes =>
    refine ⟨nofun, fun hanswer => ?_⟩
    rw [(allowed_of_answer hanswer).2] at htakes
    cases htakes
  | underflowed hlt | stopped hlt =>
    exact ⟨nofun, fun hanswer => absurd (allowed_of_answer hanswer).1 (Nat.not_le.2 hlt)⟩

/-- A pop leaves the other entries. -/
theorem entries_perform_pop (s : RootStack) : (s.perform .pop).2.entries = s.entries.tail := by
  have hends := s.perform_ends .pop
  generalize s.perform .pop = ended at hends
  cases hends with
  | answered => rfl
  | overflowed htakes => cases htakes
  | underflowed hlt | stopped hlt =>
    rw [List.length_eq_zero_iff.1 (Nat.lt_one_iff.1 hlt), List.tail_nil]

/-- Pops take off as many entries as they are, or all. -/
theorem entries_pops (s : RootStack) (n : Nat) :
    (s.performAll (.replicate n .pop)).entries = s.entries.drop n := by
  induction n generalizing s with
  | zero => rfl
  | succ n ih =>
    rw [List.replicate_succ, ← List.drop_tail, ← entries_perform_pop]
    exact ih _

/-! ## Every call -/

/-- A call that takes room leaves one entry more at most, and any other call none. -/
theorem length_left_le (call : Call) (entries : List Handle) :
    (call.left entries).length ≤ entries.length + if call.takesRoom then 1 else 0 := by
  cases call <;> simp [Call.left, Call.takesRoom]

/-- A call leaves the capacity as it is, and no more entries than it allows. -/
theorem perform_bounded (hs : s.entries.length ≤ s.capacity.toNat) (call : Call) :
    (s.perform call).2.capacity = s.capacity ∧
      (s.perform call).2.entries.length ≤ s.capacity.toNat := by
  have hends := s.perform_ends call
  generalize s.perform call = ended at hends
  cases hends with
  | answered _ hroom =>
    refine ⟨rfl, Nat.le_trans (length_left_le call s.entries) ?_⟩
    split
    · next htakes => exact hroom htakes
    · exact hs
  | overflowed | underflowed | stopped => exact ⟨rfl, hs⟩

/-- Calls leave the capacity as it is, and no more entries than it allows. -/
theorem performAll_bounded (hs : s.entries.length ≤ s.capacity.toNat) (calls : List Call) :
    (s.performAll calls).capacity = s.capacity ∧
      (s.performAll calls).entries.length ≤ s.capacity.toNat := by
  induction calls generalizing s with
  | nil => exact ⟨rfl, hs⟩
  | cons call calls ih =>
    obtain ⟨hcapacity, hle⟩ := perform_bounded hs call
    rw [← hcapacity] at hle ⊢
    exact ih hle

/-- The entries that a call needs can be counted in a word, except for a peek at the last offset. -/
theorem needs_lt (hcall : call ≠ .peekAt lastOffset) : call.needs < UInt64.size := by
  cases call with
  | push | pop | peek | ensureRoom | clear => simp [Call.needs, UInt64.size]
  | require needed => exact needed.toNat_lt
  | peekAt offset =>
    have hne : offset.toNat ≠ lastOffset.toNat := fun he =>
      hcall (congrArg Call.peekAt (UInt64.toNat_inj.1 he))
    have hlt := offset.toNat_lt
    simp only [Call.needs, lastOffset, UInt64.reduceToNat, UInt64.size] at hne ⊢
    omega

/-- A call tells the truth if the entries that it needs can be counted in a word. -/
theorem truthful_of_ne (hcall : call ≠ .peekAt lastOffset) : Truthful s.capacity s call where
  computed := exists_result (needs_lt hcall)
  fails_iff := exists_error_iff (needs_lt hcall)
  underflow needed available he := by
    obtain ⟨-, he | ⟨_, hneeded, hlt, he⟩⟩ := perform_eq_error he
    · cases he
    · cases he
      exact ⟨rfl, hneeded, hneeded ▸ hlt⟩
  overflow bound he := by
    obtain ⟨-, he | ⟨_, -, -, he⟩⟩ := perform_eq_error he
    · cases he
      rfl
    · cases he
  unchanged e he := (perform_eq_error he).1
  peeked := by
    rintro offset h rfl
    rw [perform_eq_ok_some, perform_eq_ok_some, entries_pops, Call.answer, Call.answer,
      List.head?_drop]

/-- A peek at the last offset stops without a result. -/
theorem perform_peekAt_lastOffset (hs : s.entries.length ≤ s.capacity.toNat) :
    s.perform (.peekAt lastOffset) = (none, s) := by
  have hle : s.entries.length ≤ lastOffset.toNat :=
    Nat.le_trans hs (Nat.le_pred_of_lt s.capacity.toNat_lt)
  have hnone : Checked.word (lastOffset.toNat + 1) = none := Checked.word_of_le (Nat.le_refl _)
  rw [perform, peekAt_of_le hle, hnone]
  rfl

/-- A call without a result does not tell the truth. -/
theorem not_truthful_of_none (hnone : (s.perform call).1 = none) :
    ¬ Truthful capacity s call := by
  intro htruthful
  obtain ⟨result, hresult⟩ := htruthful.computed
  rw [hnone] at hresult
  cases hresult

/-- Whatever calls are made on a stack, the next one has a result, and fails exactly if there are
fewer entries than it needs or if it takes room and there is none. If it fails, it leaves the stack
as it is and says what there is and what it needs; and a peek finds what as many pops uncover. Only
for a peek at the last offset this is not so: it stops without a result, since the number of entries
that it needs leaves the range of words. -/
theorem errors_truthful (capacity : UInt64) (calls : List Call) (call : Call) :
    let s := (empty capacity).performAll calls
    (Truthful capacity s call ↔ call ≠ .peekAt lastOffset) ∧
    s.perform (.peekAt lastOffset) = (none, s) := by
  intro s
  obtain ⟨hcapacity, hs⟩ : s.capacity = capacity ∧ s.entries.length ≤ capacity.toNat :=
    performAll_bounded (Nat.zero_le _) calls
  rw [← hcapacity] at hs ⊢
  have hstops := perform_peekAt_lastOffset hs
  refine ⟨⟨?_, truthful_of_ne⟩, hstops⟩
  rintro htruthful rfl
  exact not_truthful_of_none (congrArg Prod.fst hstops) htruthful

/-- On a stack with one entry a peek at the last offset has no result. -/
theorem not_truthful_one :
    let s := (empty 1).performAll [.push ⟨7, 0⟩]
    s.perform (.peekAt lastOffset) = (none, s) ∧ ¬ Truthful 1 s (.peekAt lastOffset) := by
  intro s
  have hs : s.entries.length ≤ s.capacity.toNat := Nat.le_refl 1
  have hstops := perform_peekAt_lastOffset hs
  exact ⟨hstops, not_truthful_of_none (congrArg Prod.fst hstops)⟩

end

end RootStack

end RootedHeap
