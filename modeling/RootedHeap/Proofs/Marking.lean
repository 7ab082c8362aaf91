import RootedHeap.Proofs.Slab

/-!
# What marking flags

Roots reach a handle through the fields of objects (`Slab.Reaches`), and reach it through white
objects alone when no object on the way has a flag yet (`Slab.ReachesWhite`). Marking flags exactly
the objects that the roots reach through white ones (`Slab.isWhite_mark`) and changes nothing else
(`Slab.getElem?_mark`), whatever the flags are before it and whatever the fields name. The worklist
keeps `Marking.Invariant`: a flagged handle that is not pending has no white field. Where no flag is
set before, the flagged objects are the live ones that the roots reach
(`Slab.reachesWhite_iff_of_clear`).
-/

namespace RootedHeap

namespace Slab

/-- The handles that a list of roots reaches: the roots themselves, and the fields of each object
that a reached handle names. -/
inductive Reaches (slab : Slab) (roots : List Handle) : Handle → Prop
  | root {h : Handle} : h ∈ roots → Reaches slab roots h
  | field {p h : Handle} : Reaches slab roots p → h ∈ slab.fields p → Reaches slab roots h

/-- The handles that a list of roots reaches by a path of white objects, itself the last of them. -/
inductive ReachesWhite (slab : Slab) (roots : List Handle) : Handle → Prop
  | root {h : Handle} : h ∈ roots → slab.isWhite h = true → ReachesWhite slab roots h
  | field {p h : Handle} : ReachesWhite slab roots p → h ∈ slab.fields p →
      slab.isWhite h = true → ReachesWhite slab roots h

section
variable {slab slab' : Slab} {roots roots' : List Handle} {h g : Handle}

/-! ## Reaching -/

/-- What is reached has every property that the roots have and that fields inherit. -/
theorem Reaches.induct {p : Handle → Prop} (hr : slab.Reaches roots h) (hroot : ∀ r ∈ roots, p r)
    (hfield : ∀ q, p q → ∀ f ∈ slab.fields q, p f) : p h := by
  induction hr with
  | root hmem => exact hroot _ hmem
  | field _ hf ih => exact hfield _ ih _ hf

/-- Roots that are reached reach nothing new. -/
theorem Reaches.trans (hr : slab.Reaches roots h) (hroots : ∀ r ∈ roots, slab.Reaches roots' r) :
    slab.Reaches roots' h :=
  hr.induct hroots fun _ hq _ hf => .field hq hf

/-- More roots reach more. -/
theorem Reaches.mono (hr : slab.Reaches roots h) (hsub : roots ⊆ roots') : slab.Reaches roots' h :=
  hr.trans fun _ hmem => .root (hsub hmem)

/-- What is reached depends on the objects that are reached alone. -/
theorem reaches_congr (hsame : ∀ g, slab.Reaches roots g → slab'.object? g = slab.object? g) :
    slab'.Reaches roots h ↔ slab.Reaches roots h := by
  constructor
  · intro hr
    induction hr with
    | root hmem => exact .root hmem
    | field _ hf ih => exact .field ih (fields_congr (hsame _ ih) ▸ hf)
  · intro hr
    induction hr with
    | root hmem => exact .root hmem
    | field hp hf ih => exact .field ih ((fields_congr (hsame _ hp)).symm ▸ hf)

/-- What is reached by a path of white objects is white. -/
theorem ReachesWhite.isWhite (hr : slab.ReachesWhite roots h) : slab.isWhite h = true := by
  cases hr with
  | root _ hw => exact hw
  | field _ _ hw => exact hw

/-- What is reached by a path of white objects is reached. -/
theorem ReachesWhite.reaches (hr : slab.ReachesWhite roots h) : slab.Reaches roots h := by
  induction hr with
  | root hmem _ => exact .root hmem
  | field _ hf _ ih => exact .field ih hf

/-- No object has a flag. -/
def Clear (slab : Slab) : Prop :=
  ∀ (i : Nat) (s : Slot) (c : Cell), slab[i]? = some s → s.cell = some c → c.reached = false

/-- An object is put into a slot without a flag. -/
theorem Clear.put {i : Nat} (hc : slab.Clear) (hi : i ≤ slab.size) (o : Object) :
    (slab.put i o).Clear := by
  intro j s cell hs hcell
  rw [getElem?_put hi] at hs
  split at hs
  · cases hs
    cases hcell
    rfl
  · exact hc j s cell hs hcell

/-- Replacing an object changes no flag. -/
theorem Clear.setObject (hc : slab.Clear) (p : Handle) (o : Object) :
    (slab.setObject p o).Clear := by
  intro j s cell hs hcell
  rw [getElem?_setObject] at hs
  split at hs
  · obtain ⟨s', hs', rfl⟩ := Option.map_eq_some_iff.1 hs
    obtain ⟨cell', hcell', rfl⟩ := Option.map_eq_some_iff.1 hcell
    exact hc j s' cell' hs' hcell'
  · exact hc j s cell hs hcell

/-- Where no object has a flag, to name an object is to be white. -/
theorem Clear.isWhite (hc : slab.Clear) : slab.isWhite h = (slab.object? h).isSome := by
  rw [Bool.eq_iff_iff, isWhite_iff, Option.isSome_iff_exists]
  simp only [object?_eq_some]
  refine exists_congr fun o => ⟨fun hcell => ⟨false, hcell⟩, fun ⟨reached, hcell⟩ => ?_⟩
  obtain ⟨s, hs, -, hsc⟩ := cell?_eq_some.1 hcell
  cases hc _ _ _ hs hsc
  exact hcell

/-- Where no object has a flag, the roots reach by white objects whatever live object they reach:
only a live object has fields to go on from. -/
theorem reachesWhite_iff_of_clear (hc : slab.Clear) :
    slab.ReachesWhite roots h ↔ slab.Reaches roots h ∧ (slab.object? h).isSome = true := by
  constructor
  · intro hr
    exact ⟨hr.reaches, hc.isWhite.symm.trans hr.isWhite⟩
  · rintro ⟨hr, hlive⟩
    induction hr with
    | root hmem => exact .root hmem (hc.isWhite.trans hlive)
    | field _ hf ih =>
      obtain ⟨o, ho, -⟩ := mem_fields.1 hf
      exact .field (ih (Option.isSome_iff_exists.2 ⟨o, ho⟩)) hf (hc.isWhite.trans hlive)

/-! ## Flags -/

/-- A slot with its flag set has no white object. -/
theorem isWhite_slot_flag (s : Slot) : s.flag.isWhite = false := by
  cases hc : s.cell <;> simp [Slot.flag, Slot.isWhite, Cell.flag, hc]

/-- A slot without a white object is not changed by flagging. -/
theorem flag_eq_self {s : Slot} (hs : s.isWhite = false) : s.flag = s := by
  obtain ⟨generation, cell⟩ := s
  rcases cell with _ | ⟨reached, o⟩
  · rfl
  · cases reached with
    | true => rfl
    | false => cases hs

/-- The handle of a slot is white if the slot is. -/
theorem isWhite_mk {i : Nat} {s : Slot} (hs : slab[i]? = some s) :
    slab.isWhite ⟨i, s.generation⟩ = s.isWhite := by
  rw [isWhite, cell?_mk hs, Slot.isWhite]

/-- A slab that differs from another in flags that it has more. -/
def Flagged (slab slab' : Slab) : Prop :=
  ∀ i : Nat, slab'[i]? = slab[i]? ∨ slab'[i]? = slab[i]?.map Slot.flag

/-- Flags that are set twice are set. -/
theorem Flagged.trans {slab'' : Slab} (h₁ : Flagged slab slab') (h₂ : Flagged slab' slab'') :
    Flagged slab slab'' := by
  intro i
  rcases h₂ i with h₂ | h₂ <;> rcases h₁ i with h₁ | h₁ <;> rw [h₂, h₁]
  · exact .inl rfl
  · exact .inr rfl
  · exact .inr rfl
  · refine .inr ?_
    cases slab[i]? with
    | none => rfl
    | some s => exact congrArg some (flag_eq_self (isWhite_slot_flag s))

/-- Flags do not change what a handle names. -/
theorem Flagged.object? (hf : Flagged slab slab') : slab'.object? h = slab.object? h := by
  rcases hf h.index with hf | hf
  · exact object?_congr hf
  · rw [Slab.object?, Slab.object?, cell?, cell?, hf]
    cases hs : slab[h.index]? with
    | none => rfl
    | some s =>
      by_cases hg : s.generation = h.generation <;> cases hc : s.cell <;>
        simp [Option.filter, Slot.flag, Cell.flag, hg, hc]

/-- Flags do not change the fields of a handle. -/
theorem Flagged.fields (hf : Flagged slab slab') : slab'.fields h = slab.fields h :=
  fields_congr hf.object?

/-- What is white when more flags are set was white before. -/
theorem Flagged.isWhite (hf : Flagged slab slab') (hw : slab'.isWhite h = true) :
    slab.isWhite h = true := by
  obtain ⟨o, hc⟩ := isWhite_iff.1 hw
  obtain ⟨s, hs, hsg, hsc⟩ := cell?_eq_some.1 hc
  rcases hf h.index with hf | hf
  · exact isWhite_iff.2 ⟨o, cell?_eq_some.2 ⟨s, hf ▸ hs, hsg, hsc⟩⟩
  · rw [hs] at hf
    obtain ⟨s', -, rfl⟩ := Option.map_eq_some_iff.1 hf.symm
    have := isWhite_slot_flag s'
    simp [Slot.isWhite, hsc] at this

/-- A flag that is set makes its own handle no longer white, and no other. -/
theorem isWhite_flag (hw : slab.isWhite h = true) :
    (slab.flag h).isWhite g = true ↔ slab.isWhite g = true ∧ g ≠ h := by
  obtain ⟨o, hc⟩ := isWhite_iff.1 hw
  obtain ⟨s, hs, hsg, hsc⟩ := cell?_eq_some.1 hc
  have hflag : (slab.flag h)[g.index]? =
      if h.index = g.index then slab[g.index]?.map Slot.flag else slab[g.index]? :=
    Array.getElem?_modify
  by_cases hidx : h.index = g.index
  · rw [if_pos hidx, ← hidx, hs] at hflag
    constructor
    · intro hg
      obtain ⟨o', hc'⟩ := isWhite_iff.1 hg
      obtain ⟨s', hs', -, hsc'⟩ := cell?_eq_some.1 hc'
      rw [hidx, hs', Option.map_some, Option.some_inj] at hflag
      rw [hflag, Slot.flag, hsc] at hsc'
      cases hsc'
    · rintro ⟨hg, hne⟩
      obtain ⟨o', hc'⟩ := isWhite_iff.1 hg
      obtain ⟨s', hs', hsg', -⟩ := cell?_eq_some.1 hc'
      rw [← hidx, hs] at hs'
      cases hs'
      exact absurd (by cases h; cases g; simp_all) hne
  · rw [if_neg hidx] at hflag
    have hsame : (slab.flag h).isWhite g = slab.isWhite g := by
      rw [isWhite, isWhite, cell?, cell?, hflag]
    rw [hsame]
    exact ⟨fun hg => ⟨hg, fun he => hidx (he ▸ rfl)⟩, fun hg => hg.1⟩

end

end Slab

namespace Marking

open Slab (Flagged)

/-! ## Steps of marking -/

section
variable {slab : Slab} {roots : List Handle} {m : Marking} {g h : Handle}

/-- A handle that is reached sets flags only. -/
theorem flagged_reach (m : Marking) (h : Handle) : Flagged m.slab (m.reach h).slab := by
  intro i
  unfold reach
  split
  · have hflag : (m.slab.flag h)[i]? =
        if h.index = i then m.slab[i]?.map Slot.flag else m.slab[i]? := Array.getElem?_modify
    by_cases hidx : h.index = i
    · exact .inr (by rw [hflag, if_pos hidx])
    · exact .inl (by rw [hflag, if_neg hidx])
  · exact .inl rfl

/-- The handle that is reached is no longer white, and each other is as it was. -/
theorem isWhite_reach :
    (m.reach h).slab.isWhite g = true ↔ m.slab.isWhite g = true ∧ g ≠ h := by
  unfold reach
  split
  · next hw => exact Slab.isWhite_flag hw
  · next hw => exact ⟨fun hg => ⟨hg, fun he => hw (he ▸ hg)⟩, fun hg => hg.1⟩

/-- A handle becomes pending when it is reached while it is white. -/
theorem mem_pending_reach :
    g ∈ (m.reach h).pending ↔ g ∈ m.pending ∨ g = h ∧ m.slab.isWhite g = true := by
  unfold reach
  split
  · next hw =>
    rw [List.mem_cons]
    exact ⟨fun hg => hg.elim (fun he => .inr ⟨he, he ▸ hw⟩) .inl,
      fun hg => hg.elim .inr fun he => .inl he.1⟩
  · next hw => exact ⟨.inl, fun hg => hg.elim id fun he => absurd (he.1 ▸ he.2) hw⟩

/-- Handles that are reached set flags only. -/
theorem flagged_reachAll (m : Marking) (hs : List Handle) :
    Flagged m.slab (m.reachAll hs).slab := by
  induction hs generalizing m with
  | nil => exact fun _ => .inl rfl
  | cons h hs ih => exact (flagged_reach m h).trans (ih (m.reach h))

/-- The handles that are reached are no longer white, and each other is as it was. -/
theorem isWhite_reachAll {hs : List Handle} :
    (m.reachAll hs).slab.isWhite g = true ↔ m.slab.isWhite g = true ∧ g ∉ hs := by
  induction hs generalizing m with
  | nil => simp [reachAll]
  | cons h hs ih =>
    have := ih (m := m.reach h)
    rw [isWhite_reach, and_assoc] at this
    simpa [reachAll] using this

/-- The handles that become pending are those that are reached while they are white. -/
theorem mem_pending_reachAll {hs : List Handle} :
    g ∈ (m.reachAll hs).pending ↔ g ∈ m.pending ∨ g ∈ hs ∧ m.slab.isWhite g = true := by
  induction hs generalizing m with
  | nil => simp [reachAll]
  | cons h hs ih =>
    have := ih (m := m.reach h)
    rw [mem_pending_reach, isWhite_reach] at this
    show g ∈ ((m.reach h).reachAll hs).pending ↔ _
    rw [this, List.mem_cons]
    by_cases he : g = h <;> simp [he]

/-! ## The whole of marking -/

/-- What holds between a slab and its marking from some roots. The fields of a handle that has been
flagged, and is no longer pending, have been reached. -/
structure Invariant (slab : Slab) (roots : List Handle) (m : Marking) : Prop where
  flagged : Flagged slab m.slab
  sound : ∀ g, slab.isWhite g = true → m.slab.isWhite g = false → slab.ReachesWhite roots g
  pending : ∀ g ∈ m.pending, slab.ReachesWhite roots g
  roots : ∀ r ∈ roots, m.slab.isWhite r = false
  fields : ∀ g, slab.isWhite g = true → m.slab.isWhite g = false → g ∉ m.pending →
    ∀ f ∈ slab.fields g, m.slab.isWhite f = false

/-- What is not white stays so while handles are reached. -/
theorem isWhite_reachAll_of_not {hs : List Handle} (hg : m.slab.isWhite g = false) :
    (m.reachAll hs).slab.isWhite g = false := by
  rw [Bool.eq_false_iff, Ne, isWhite_reachAll, hg]
  exact fun h => Bool.false_ne_true h.1

/-- The handles that are reached are not white afterwards. -/
theorem isWhite_reachAll_of_mem {hs : List Handle} (hg : g ∈ hs) :
    (m.reachAll hs).slab.isWhite g = false := by
  rw [Bool.eq_false_iff, Ne, isWhite_reachAll]
  exact fun h => h.2 hg

/-- A handle that is no longer white once others are reached is one of these. -/
theorem mem_of_isWhite_reachAll {hs : List Handle} (hg : m.slab.isWhite g = true)
    (hg' : (m.reachAll hs).slab.isWhite g = false) : g ∈ hs := by
  by_contra hmem
  rw [isWhite_reachAll.2 ⟨hg, hmem⟩] at hg'
  cases hg'

/-- Marking begins with the roots reached. -/
theorem invariant_roots (slab : Slab) (roots : List Handle) :
    Invariant slab roots (reachAll ⟨slab, []⟩ roots) where
  flagged := flagged_reachAll ⟨slab, []⟩ roots
  sound _ hw hw' := .root (mem_of_isWhite_reachAll (m := ⟨slab, []⟩) hw hw') hw
  pending g hg := by
    rcases mem_pending_reachAll.1 hg with hg | ⟨hmem, hw⟩
    · cases hg
    · exact .root hmem hw
  roots _ hr := isWhite_reachAll_of_mem hr
  fields g hw hw' hg := by
    have hmem := mem_of_isWhite_reachAll (m := ⟨slab, []⟩) hw hw'
    exact absurd (mem_pending_reachAll.2 (.inr ⟨hmem, hw⟩)) hg

/-- Following a pending handle reaches its fields, so that it need no longer be pending. -/
theorem Invariant.follow {slab' : Slab} {rest : List Handle}
    (hi : Invariant slab roots ⟨slab', h :: rest⟩) :
    Invariant slab roots (follow slab' h rest) := by
  have hfields : ∀ g, slab'.fields g = slab.fields g := fun _ => hi.flagged.fields
  have hpath := hi.pending h (.head _)
  unfold Marking.follow
  rw [hfields h]
  constructor
  · exact hi.flagged.trans (flagged_reachAll ⟨slab', rest⟩ _)
  · intro g hw hw'
    cases hg : slab'.isWhite g with
    | false => exact hi.sound g hw hg
    | true => exact .field hpath (mem_of_isWhite_reachAll (m := ⟨slab', rest⟩) hg hw') hw
  · intro g hg
    rcases mem_pending_reachAll.1 hg with hg | ⟨hmem, hw⟩
    · exact hi.pending g (.tail _ hg)
    · exact .field hpath hmem (hi.flagged.isWhite hw)
  · exact fun r hr => isWhite_reachAll_of_not (m := ⟨slab', rest⟩) (hi.roots r hr)
  -- What is flagged just now is pending. Of what was flagged before only `h` may leave that list.
  · intro g hw hw' hg f hf
    rw [mem_pending_reachAll, not_or] at hg
    cases hgw : slab'.isWhite g with
    | true => exact absurd ⟨mem_of_isWhite_reachAll (m := ⟨slab', rest⟩) hgw hw', hgw⟩ hg.2
    | false =>
      by_cases hgh : g = h
      · exact isWhite_reachAll_of_mem (hgh ▸ hf)
      · refine isWhite_reachAll_of_not (m := ⟨slab', rest⟩) (hi.fields g hw hgw ?_ f hf)
        exact fun hmem => (List.mem_cons.1 hmem).elim hgh hg.1

/-- Marking goes on until nothing is pending. -/
theorem Invariant.run (hi : Invariant slab roots m) : Invariant slab roots ⟨m.run, []⟩ := by
  fun_induction Marking.run m with
  | case1 slab' => exact hi
  | case2 slab' h rest ih => exact ih hi.follow

end

end Marking

namespace Slab

section
variable {slab : Slab} {roots : List Handle} {h : Handle}

/-- Marking keeps its invariant to the end. -/
theorem invariant_mark (slab : Slab) (roots : List Handle) :
    Marking.Invariant slab roots ⟨slab.mark roots, []⟩ :=
  (Marking.invariant_roots slab roots).run

/-- Marking leaves white what was white and is not reached by a path of white objects. -/
theorem isWhite_mark : (slab.mark roots).isWhite h = true ↔
    slab.isWhite h = true ∧ ¬ slab.ReachesWhite roots h := by
  have hi := invariant_mark slab roots
  constructor
  · intro hw
    refine ⟨hi.flagged.isWhite hw, fun hr => ?_⟩
    have hnot : (slab.mark roots).isWhite h = false := by
      clear hw
      induction hr with
      | root hmem _ => exact hi.roots _ hmem
      | field hp hf _ ih => exact hi.fields _ hp.isWhite ih List.not_mem_nil _ hf
    rw [hnot] at hw
    cases hw
  · rintro ⟨hw, hr⟩
    by_contra hnot
    exact hr (hi.sound h hw (Bool.eq_false_iff.2 hnot))

open Classical in
/-- Marking sets the flags of the objects that are reached by a path of white ones, and changes
nothing else. -/
theorem getElem?_mark (i : Nat) : (slab.mark roots)[i]? =
    slab[i]?.map fun s => if slab.ReachesWhite roots ⟨i, s.generation⟩ then s.flag else s := by
  cases hs : slab[i]? with
  | none => rcases (invariant_mark slab roots).flagged i with hf | hf <;> simp [hf, hs]
  | some s =>
    rw [Option.map_some]
    have hslot := (invariant_mark slab roots).flagged i
    rw [hs] at hslot
    by_cases hw : s.isWhite = true
    · have hwhite : slab.isWhite ⟨i, s.generation⟩ = true := (isWhite_mk hs).trans hw
      rcases hslot with hf | hf
      · have : (slab.mark roots).isWhite ⟨i, s.generation⟩ = true := (isWhite_mk hf).trans hw
        rw [if_neg (isWhite_mark.1 this).2, hf]
      · have hnot : (slab.mark roots).isWhite ⟨i, s.generation⟩ = false :=
          (isWhite_mk (s := s.flag) hf).trans (isWhite_slot_flag s)
        rw [if_pos, hf, Option.map_some]
        by_contra hr
        rw [isWhite_mark.2 ⟨hwhite, hr⟩] at hnot
        cases hnot
    · have hself := flag_eq_self (Bool.eq_false_iff.2 hw)
      rw [hself, ite_self]
      rcases hslot with hf | hf
      · exact hf
      · rw [hf, Option.map_some, hself]

end

end Slab

end RootedHeap
