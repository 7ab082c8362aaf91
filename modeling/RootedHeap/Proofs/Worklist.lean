import RootedHeap.Proofs.WhitePaths

/-!
# The worklist of marking

Marking is taken apart into its smallest moves. It looks at one handle after another: first the
roots, later the fields of the object that it visits. A white handle is flagged and pushed on the
worklist, any other is passed over; when there is none left to look at, the handle on top of the
worklist is visited (`Marking.Moment.next?`). So marking is one path of such moves
(`Marking.Moment.result_eq_of_next?`), and `Marking.Account` is kept by every one of them: what has
been pushed is pending or has been visited, and it is what has been flagged.

A handle is white before it is pushed and not after, so no handle is pushed twice. With each visit
there is one white or pending object less, and it leads to two handles at most that have to be
looked at, so the path comes to an end (`Heap.mark_visits_once`).
-/

namespace RootedHeap

namespace Marking

/-- A moment of marking: how far it has come, and the handles that it is about to look at. -/
structure Moment where
  marking : Marking
  ahead : List Handle

/-- What is done at a moment. -/
inductive Move where
  /-- A white handle is flagged and becomes pending. -/
  | push (h : Handle)
  /-- A handle that is not white is left as it is. -/
  | pass (h : Handle)
  /-- A pending handle is taken off the worklist, and its fields are to be looked at. -/
  | visit (h : Handle)
deriving DecidableEq, Repr

/-- The handle that a move pushes on the worklist. -/
def Move.pushed? : Move → Option Handle
  | push h => some h
  | pass _ | visit _ => none

/-- The handle that a move visits. -/
def Move.visited? : Move → Option Handle
  | visit h => some h
  | push _ | pass _ => none

/-- The handles that moves push on the worklist, in order. -/
def pushed (moves : List Move) : List Handle := moves.filterMap Move.pushed?

/-- The handles that moves visit, in order. -/
def visited (moves : List Move) : List Handle := moves.filterMap Move.visited?

namespace Moment

/-- Marking begins with its roots to be looked at. -/
def start (slab : Slab) (roots : List Handle) : Moment := ⟨⟨slab, []⟩, roots⟩

/-- The next move, and the moment after it; none if marking is done. -/
def next? : Moment → Option (Move × Moment)
  | ⟨m, h :: ahead⟩ => some (if m.slab.isWhite h then .push h else .pass h, ⟨m.reach h, ahead⟩)
  | ⟨⟨slab, h :: rest⟩, []⟩ => some (.visit h, ⟨⟨slab, rest⟩, slab.fields h⟩)
  | ⟨⟨_, []⟩, []⟩ => none

/-- The moves that lead from one moment to another. -/
inductive Leads (first : Moment) : List Move → Moment → Prop
  | nil : Leads first [] first
  | snoc {moves : List Move} {now later : Moment} {move : Move} : Leads first moves now →
      now.next? = some (move, later) → Leads first (moves ++ [move]) later

/-- The slab that marking comes to from a moment on. -/
def result (now : Moment) : Slab := (now.marking.reachAll now.ahead).run

/-- How many moves there may still be: a look at each handle ahead, and for each object that is
white or pending its visit and a look at two fields. -/
def movesLeft (now : Moment) : Nat := 3 * now.marking.work + now.ahead.length

end Moment

/-- What holds between a slab and a moment to which moves have led. -/
structure Account (slab : Slab) (moves : List Move) (now : Moment) : Prop where
  flagged : Slab.Flagged slab now.marking.slab
  perm : (pushed moves).Perm (visited moves ++ now.marking.pending)
  nodup : (pushed moves).Nodup
  mem_pushed : ∀ h, h ∈ pushed moves ↔
    slab.isWhite h = true ∧ now.marking.slab.isWhite h = false
  work_eq : (visited moves).length + now.marking.work = slab.countWhite

section
variable {slab : Slab} {roots : List Handle} {first now later : Moment} {moves : List Move}
  {move : Move} {h : Handle}

/-! ## One move -/

/-- An object has two fields at most. -/
theorem length_fields_le (slab : Slab) (h : Handle) : (slab.fields h).length ≤ 2 := by
  rw [Slab.fields]
  cases slab.object? h with
  | none => exact Nat.zero_le _
  | some o => cases o <;> simp [Object.fields]

namespace Moment

/-- A move looks at a handle, which is white or not, or it visits one. -/
inductive Moved : Moment → Move → Moment → Prop
  | push {m : Marking} {h : Handle} {ahead : List Handle} : m.slab.isWhite h = true →
      Moved ⟨m, h :: ahead⟩ (.push h) ⟨⟨m.slab.flag h, h :: m.pending⟩, ahead⟩
  | pass {m : Marking} {h : Handle} {ahead : List Handle} : m.slab.isWhite h = false →
      Moved ⟨m, h :: ahead⟩ (.pass h) ⟨m, ahead⟩
  | visit {slab : Slab} {h : Handle} {rest : List Handle} :
      Moved ⟨⟨slab, h :: rest⟩, []⟩ (.visit h) ⟨⟨slab, rest⟩, slab.fields h⟩

/-- Every move is one of these. -/
theorem moved_of_next? (hnext : now.next? = some (move, later)) : Moved now move later := by
  obtain ⟨⟨slab, pending⟩, ahead⟩ := now
  cases ahead with
  | cons h ahead =>
    simp only [next?, reach, Option.some_inj, Prod.mk.injEq] at hnext
    obtain ⟨rfl, rfl⟩ := hnext
    cases hw : slab.isWhite h with
    | true => exact .push hw
    | false => exact .pass (m := ⟨slab, pending⟩) hw
  | nil =>
    cases pending with
    | nil => cases hnext
    | cons h rest =>
      cases hnext
      exact .visit

/-- A move does not change what marking comes to. -/
theorem result_eq_of_next? (hnext : now.next? = some (move, later)) :
    later.result = now.result := by
  obtain ⟨⟨slab, pending⟩, ahead⟩ := now
  cases ahead with
  | cons h ahead =>
    cases hnext
    rfl
  | nil =>
    cases pending with
    | nil => cases hnext
    | cons h rest =>
      cases hnext
      show (reachAll ⟨slab, rest⟩ (slab.fields h)).run = run ⟨slab, h :: rest⟩
      rw [run, follow]

/-- With each move there are fewer left. -/
theorem Moved.movesLeft_lt (hmoved : Moved now move later) : later.movesLeft < now.movesLeft := by
  cases hmoved with
  | push hw =>
    have hcount := Slab.countWhite_flag hw
    simp only [movesLeft, work, List.length_cons]
    omega
  | pass =>
    simp only [movesLeft, List.length_cons]
    omega
  | @visit slab h rest =>
    have hfields := length_fields_le slab h
    simp only [movesLeft, work, List.length_cons, List.length_nil]
    omega

/-- Where there is no next move, no handle is pending and marking has come to its end. -/
theorem eq_of_next?_eq_none (hdone : now.next? = none) :
    now.marking.pending = [] ∧ now.marking.slab = now.result := by
  obtain ⟨⟨slab, pending⟩, ahead⟩ := now
  cases ahead with
  | cons h ahead => cases hdone
  | nil =>
    cases pending with
    | cons h rest => cases hdone
    | nil =>
      refine ⟨rfl, ?_⟩
      show slab = run ⟨slab, []⟩
      rw [run]

end Moment

/-! ## The account of pushes and visits -/

/-- Before the first move nothing has been pushed and nothing visited. -/
theorem account_start (slab : Slab) (roots : List Handle) :
    Account slab [] (Moment.start slab roots) where
  flagged _ := .inl rfl
  perm := .nil
  nodup := .nil
  mem_pushed h := by simp [pushed, Moment.start]
  work_eq := by simp [visited, Moment.start, work]

/-- What two rows of moves push. -/
theorem pushed_append (moves moves' : List Move) :
    pushed (moves ++ moves') = pushed moves ++ pushed moves' :=
  List.filterMap_append

/-- What two rows of moves visit. -/
theorem visited_append (moves moves' : List Move) :
    visited (moves ++ moves') = visited moves ++ visited moves' :=
  List.filterMap_append

/-- A push keeps the account: a handle that has been pushed before is no longer white. -/
theorem Account.push {m : Marking} {ahead : List Handle} (ha : Account slab moves ⟨m, h :: ahead⟩)
    (hw : m.slab.isWhite h = true) :
    Account slab (moves ++ [.push h]) ⟨⟨m.slab.flag h, h :: m.pending⟩, ahead⟩ := by
  obtain ⟨hflagged, hperm, hnodup, hmem, hwork⟩ := ha
  have hpushed : pushed (moves ++ [.push h]) = pushed moves ++ [h] := pushed_append _ _
  have hvisited : visited (moves ++ [.push h]) = visited moves :=
    (visited_append _ _).trans (List.append_nil _)
  have hconcat : (pushed moves ++ [h]).Perm (h :: pushed moves) := List.perm_append_singleton _ _
  have hnot : h ∉ pushed moves := fun hh => by
    rw [((hmem h).1 hh).2] at hw
    cases hw
  have hreach := flagged_reach m h
  rw [reach, if_pos hw] at hreach
  constructor
  · exact hflagged.trans hreach
  · rw [hpushed, hvisited]
    exact (hconcat.trans (hperm.cons h)).trans List.perm_middle.symm
  · rw [hpushed, hconcat.nodup_iff]
    exact List.nodup_cons.2 ⟨hnot, hnodup⟩
  · intro g
    rw [hpushed, hconcat.mem_iff, List.mem_cons, hmem, ← Bool.not_eq_true, ← Bool.not_eq_true,
      Slab.isWhite_flag hw, not_and_not_right]
    constructor
    · rintro (rfl | ⟨hg, hgw⟩)
      · exact ⟨hflagged.isWhite hw, fun _ => rfl⟩
      · exact ⟨hg, fun hgw' => absurd hgw' hgw⟩
    · rintro ⟨hg, himp⟩
      by_cases hgw : m.slab.isWhite g = true
      · exact .inl (himp hgw)
      · exact .inr ⟨hg, hgw⟩
  · have hcount := Slab.countWhite_flag hw
    rw [hvisited]
    simp only [work, List.length_cons] at hwork ⊢
    omega

/-- A handle that is passed over makes no difference to the account. -/
theorem Account.pass {m : Marking} {ahead : List Handle}
    (ha : Account slab moves ⟨m, h :: ahead⟩) : Account slab (moves ++ [.pass h]) ⟨m, ahead⟩ := by
  have hpushed : pushed (moves ++ [.pass h]) = pushed moves :=
    (pushed_append _ _).trans (List.append_nil _)
  have hvisited : visited (moves ++ [.pass h]) = visited moves :=
    (visited_append _ _).trans (List.append_nil _)
  obtain ⟨hflagged, hperm, hnodup, hmem, hwork⟩ := ha
  exact ⟨hflagged, by rwa [hpushed, hvisited], by rwa [hpushed], by rwa [hpushed],
    by rwa [hvisited]⟩

/-- A visit keeps the account: the handle was pending. -/
theorem Account.visit {slab' : Slab} {rest : List Handle}
    (ha : Account slab moves ⟨⟨slab', h :: rest⟩, []⟩) :
    Account slab (moves ++ [.visit h]) ⟨⟨slab', rest⟩, slab'.fields h⟩ := by
  have hpushed : pushed (moves ++ [.visit h]) = pushed moves :=
    (pushed_append _ _).trans (List.append_nil _)
  have hvisited : visited (moves ++ [.visit h]) = visited moves ++ [h] := visited_append _ _
  obtain ⟨hflagged, hperm, hnodup, hmem, hwork⟩ := ha
  refine ⟨hflagged, ?_, by rwa [hpushed], by rwa [hpushed], ?_⟩
  · rw [hpushed, hvisited, List.append_assoc]
    exact hperm
  · rw [hvisited, List.length_append, List.length_singleton]
    simp only [work, List.length_cons] at hwork ⊢
    omega

/-- Every move keeps the account. -/
theorem Account.snoc (ha : Account slab moves now) (hmoved : Moment.Moved now move later) :
    Account slab (moves ++ [move]) later := by
  cases hmoved with
  | push hw => exact ha.push hw
  | pass => exact ha.pass
  | visit => exact ha.visit

namespace Moment

/-- Moves keep the account from the start on. -/
theorem Leads.account (hleads : Leads (start slab roots) moves now) : Account slab moves now := by
  induction hleads with
  | nil => exact account_start slab roots
  | snoc _ hnext ih => exact ih.snoc (moved_of_next? hnext)

/-- Moves do not change what marking comes to. -/
theorem Leads.result_eq (hleads : Leads first moves now) : now.result = first.result := by
  induction hleads with
  | nil => rfl
  | snoc _ hnext ih => exact (result_eq_of_next? hnext).trans ih

/-- The moves that have been made and those that may be left are no more than at the beginning. -/
theorem Leads.length_le (hleads : Leads first moves now) :
    moves.length + now.movesLeft ≤ first.movesLeft := by
  induction hleads with
  | nil => simp
  | snoc _ hnext ih =>
    have hlt := (moved_of_next? hnext).movesLeft_lt
    rw [List.length_append, List.length_singleton]
    omega

/-- From every moment moves lead to one that has no next move: a path of moves can be made longer
until then, but not for ever. -/
theorem exists_leads_done (first : Moment) :
    ∃ moves last, Leads first moves last ∧ last.next? = none := by
  by_contra hnone
  have hlong : ∀ n, ∃ moves now, Leads first moves now ∧ moves.length = n := by
    intro n
    induction n with
    | zero => exact ⟨[], first, .nil, rfl⟩
    | succ n ih =>
      obtain ⟨moves, now, hleads, rfl⟩ := ih
      cases hnext : now.next? with
      | none => exact absurd ⟨moves, now, hleads, hnext⟩ hnone
      | some next => exact ⟨_, next.2, hleads.snoc hnext, by simp⟩
  obtain ⟨moves, now, hleads, hlength⟩ := hlong (first.movesLeft + 1)
  have hle := hleads.length_le
  omega

end Moment

end

end Marking

namespace Slab

section
variable {slab : Slab} {roots : List Handle} {h : Handle}

/-- There are no more white objects than occupied slots. -/
theorem countWhite_le_countOccupied (slab : Slab) : slab.countWhite ≤ slab.countOccupied := by
  refine Array.countP_mono_left fun s _ hw => ?_
  obtain ⟨c, hc, -⟩ := (Option.any_eq_true _ _).1 hw
  rw [Slot.isOccupied, hc]
  rfl

/-- Marking gives a new flag to what was white before and is no longer. -/
theorem isFlagged_mark_and_not : (slab.mark roots).isFlagged h = true ∧ slab.isFlagged h = false ↔
    slab.isWhite h = true ∧ (slab.mark roots).isWhite h = false := by
  rw [← Bool.not_eq_true (slab.isFlagged h), isFlagged_iff, isFlagged_iff,
    (invariant_mark slab roots).flagged.object?]
  constructor
  · rintro ⟨⟨hlive, hnot⟩, hflagged⟩
    refine ⟨?_, hnot⟩
    by_contra hw
    exact hflagged ⟨hlive, Bool.eq_false_iff.2 hw⟩
  · rintro ⟨hw, hnot⟩
    obtain ⟨o, hc⟩ := isWhite_iff.1 hw
    refine ⟨⟨by rw [isSome_object?, hc]; rfl, hnot⟩, fun hflagged => ?_⟩
    rw [hw] at hflagged
    cases hflagged.2

end

end Slab

open Marking (Moment pushed visited)

/-- Marking comes to an end, from whatever roots and whatever flags there are and whatever the
fields name, and no path of its moves is longer than the bound. Only objects that are live and have
no flag are pushed on the worklist, and none of them twice, so there are never more on it than there
are occupied slots. At the end the objects that have been visited, once each, are those that have a
flag and had none before, and the slab is what marking makes of it. -/
theorem Heap.mark_visits_once (heap : Heap) (roots : List Handle) :
    (∃ moves last, (Moment.start heap.slab roots).Leads moves last ∧ last.next? = none) ∧
    ∀ moves now, (Moment.start heap.slab roots).Leads moves now →
      moves.length ≤ roots.length + 3 * heap.slab.countWhite ∧
      (pushed moves).Nodup ∧
      (∀ h ∈ pushed moves, heap.slab.isWhite h = true) ∧
      (∀ h later, now.next? = some (.push h, later) → now.marking.slab.isWhite h = true) ∧
      now.marking.pending.length ≤ heap.slab.countOccupied ∧
      (now.next? = none →
        now.marking.slab = (heap.mark roots).slab ∧
        (visited moves).Nodup ∧
        (∀ h, h ∈ visited moves ↔
          (heap.mark roots).slab.isFlagged h = true ∧ heap.slab.isFlagged h = false) ∧
        (visited moves).length + (heap.mark roots).slab.countWhite = heap.slab.countWhite) := by
  refine ⟨Moment.exists_leads_done _, fun moves now hleads => ?_⟩
  have haccount := hleads.account
  refine ⟨?_, haccount.nodup, fun h hh => ((haccount.mem_pushed h).1 hh).1, ?_, ?_, fun hdone => ?_⟩
  · have hle := hleads.length_le
    have hstart : (Moment.start heap.slab roots).movesLeft =
        3 * heap.slab.countWhite + roots.length := by
      simp [Moment.movesLeft, Moment.start, Marking.work]
    omega
  · intro h later hnext
    cases Moment.moved_of_next? hnext with
    | push hw => exact hw
  · have hwork := haccount.work_eq
    have hle := heap.slab.countWhite_le_countOccupied
    rw [Marking.work] at hwork
    omega
  · obtain ⟨hpending, hresult⟩ := Moment.eq_of_next?_eq_none hdone
    have hslab : now.marking.slab = heap.slab.mark roots := hresult.trans hleads.result_eq
    have hperm := haccount.perm
    have hwork := haccount.work_eq
    rw [hpending, List.append_nil] at hperm
    rw [Marking.work, hpending, List.length_nil, Nat.add_zero, hslab] at hwork
    refine ⟨hslab, hperm.nodup_iff.1 haccount.nodup, fun h => ?_, hwork⟩
    rw [← hperm.mem_iff, haccount.mem_pushed, hslab]
    exact Slab.isFlagged_mark_and_not.symm

/-- Two pairs that name each other are visited once each. A root that is given twice, a handle that
names no object and a pair with an old flag are passed over. -/
theorem Heap.mark_visits_once_cycle :
    let heap : Heap :=
      { slab := #[⟨0, some ⟨false, .pair ⟨1, 2⟩ ⟨1, 2⟩⟩⟩, ⟨2, some ⟨false, .pair ⟨0, 0⟩ ⟨2, 0⟩⟩⟩,
          ⟨0, some ⟨true, .pair ⟨3, 0⟩ ⟨7, 0⟩⟩⟩, ⟨0, some ⟨false, .scalar 2⟩⟩]
        live := 4
        threshold := 8
        initialThreshold := 8 }
    ∃ moves last, (Moment.start heap.slab [⟨0, 0⟩, ⟨1, 1⟩, ⟨0, 0⟩]).Leads moves last ∧
      last.next? = none ∧ moves.length ≤ 12 ∧ (visited moves).length = 2 := by
  intro heap
  have hwhite : heap.slab.countWhite = 3 := by decide +kernel
  have hleft : (heap.mark [⟨0, 0⟩, ⟨1, 1⟩, ⟨0, 0⟩]).slab.countWhite = 1 := by decide +kernel
  obtain ⟨⟨moves, last, hleads, hdone⟩, hall⟩ :=
    heap.mark_visits_once [⟨0, 0⟩, ⟨1, 1⟩, ⟨0, 0⟩]
  obtain ⟨hlength, -, -, -, -, hend⟩ := hall moves last hleads
  have hvisited := (hend hdone).2.2.2
  rw [hwhite] at hlength
  rw [hwhite, hleft] at hvisited
  exact ⟨moves, last, hleads, hdone, hlength, Nat.succ.inj hvisited⟩

end RootedHeap
