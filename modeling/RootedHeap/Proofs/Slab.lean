import RootedHeap.Heap.Basic
import Mathlib.Data.Set.Card

/-!
# Looking up slots and objects

A handle names the object in its slot when the slot is of the handle's generation
(`Slab.cell?_eq_some`). Each update of a slab is described by the slot that stands at an index
after it (`Slab.getElem?_put`, `Slab.getElem?_setObject`), and from that by the object that a
handle names (`Slab.object?_put`, `Slab.object?_setObject`). The handles that name an object are
listed once each by `Slab.handles`, so there are as many of them as occupied slots
(`Slab.ncard_live`).
-/

namespace RootedHeap

/-- The fields of a pair are its head and its tail. -/
theorem Object.mem_fields_pair {head tail f : Handle} :
    f ∈ (pair head tail).fields ↔ f = head ∨ f = tail := by
  simp only [fields, List.mem_cons, List.not_mem_nil, or_false]
  exact or_comm

namespace Slab

section
variable {slab : Slab} {h g : Handle} {i : Nat}

/-! ## Cells, objects and fields -/

/-- A handle names the cell of its slot if the slot is of the handle's generation. -/
theorem cell?_eq_some {c : Cell} : slab.cell? h = some c ↔
    ∃ s, slab[h.index]? = some s ∧ s.generation = h.generation ∧ s.cell = some c := by
  simp only [cell?, Option.bind_eq_some_iff, Option.filter_eq_some_iff, decide_eq_true_eq,
    and_assoc]

/-- The cell of a slot is named by the slot's own handle. -/
theorem cell?_mk {s : Slot} (hs : slab[i]? = some s) : slab.cell? ⟨i, s.generation⟩ = s.cell := by
  simp [cell?, hs, Option.filter]

/-- A handle names the object of its cell. -/
theorem object?_eq_some {o : Object} :
    slab.object? h = some o ↔ ∃ reached, slab.cell? h = some ⟨reached, o⟩ := by
  rw [object?, Option.map_eq_some_iff]
  constructor
  · rintro ⟨⟨reached, o⟩, hc, rfl⟩
    exact ⟨reached, hc⟩
  · rintro ⟨reached, hc⟩
    exact ⟨⟨reached, o⟩, hc, rfl⟩

/-- A handle names an object exactly if it names a cell. -/
theorem isSome_object? : (slab.object? h).isSome = (slab.cell? h).isSome := by
  simp [object?]

/-- A handle is white if it names a cell without a flag. -/
theorem isWhite_iff : slab.isWhite h = true ↔ ∃ o, slab.cell? h = some ⟨false, o⟩ := by
  rw [isWhite, Option.any_eq_true]
  constructor
  · rintro ⟨⟨reached, o⟩, hc, hr⟩
    cases reached with
    | true => cases hr
    | false => exact ⟨o, hc⟩
  · rintro ⟨o, hc⟩
    exact ⟨⟨false, o⟩, hc, rfl⟩

/-- The fields of a handle are the fields of the object that it names. -/
theorem mem_fields {f : Handle} :
    f ∈ slab.fields h ↔ ∃ o, slab.object? h = some o ∧ f ∈ o.fields := by
  cases ho : slab.object? h <;> simp [fields, ho]

/-- Two slabs in which a handle names the same object give it the same fields. -/
theorem fields_congr {slab' : Slab} (ho : slab'.object? h = slab.object? h) :
    slab'.fields h = slab.fields h := by
  rw [fields, fields, ho]

/-- Lookups depend on the slot of the handle alone. -/
theorem object?_congr {slab' : Slab} (hs : slab'[h.index]? = slab[h.index]?) :
    slab'.object? h = slab.object? h := by
  simp only [object?, cell?, hs]

/-! ## Live handles -/

/-- The handle at an index is the one of that slot's generation, if the slot is occupied. -/
theorem handleAt?_eq_some :
    slab.handleAt? i = some h ↔ h.index = i ∧ (slab.cell? h).isSome = true := by
  simp only [handleAt?, Option.map_eq_some_iff, Option.filter_eq_some_iff,
    Option.isSome_iff_exists, cell?_eq_some, Slot.isOccupied]
  constructor
  · rintro ⟨s, ⟨hs, c, hc⟩, rfl⟩
    exact ⟨rfl, c, s, hs, rfl, hc⟩
  · rintro ⟨rfl, c, s, hs, hg, hc⟩
    exact ⟨s, ⟨hs, c, hc⟩, by rw [hg]⟩

/-- The listed handles are those that name an object. -/
theorem mem_handles : h ∈ slab.handles ↔ (slab.object? h).isSome = true := by
  simp only [handles, List.mem_filterMap, List.mem_range, handleAt?_eq_some, isSome_object?]
  constructor
  · rintro ⟨i, -, -, hh⟩
    exact hh
  · intro hh
    obtain ⟨c, hc⟩ := Option.isSome_iff_exists.1 hh
    obtain ⟨s, hs, -⟩ := cell?_eq_some.1 hc
    exact ⟨h.index, (Array.getElem?_eq_some_iff.1 hs).1, rfl, hh⟩

/-- No handle is listed twice. -/
theorem nodup_handles : slab.handles.Nodup := by
  refine List.Nodup.filterMap (fun i j h hi hj => ?_) List.nodup_range
  exact (handleAt?_eq_some.1 hi).1.symm.trans (handleAt?_eq_some.1 hj).1

/-- Slots are counted by going through their indices. -/
theorem countP_range (slab : Slab) (p : Slot → Bool) :
    (List.range slab.size).countP (fun i => slab[i]?.any p) = slab.countP p := by
  have hmap : (List.range slab.size).map (slab[·]?) = slab.toList.map some := by
    apply List.ext_getElem <;> simp
  have hcount := congrArg (List.countP (Option.any p)) hmap
  rw [← Array.countP_toList]
  simpa [List.countP_map, Function.comp_def] using hcount

/-- There is one handle listed for each occupied slot. -/
theorem length_handles : slab.handles.length = slab.countOccupied := by
  rw [handles, List.length_filterMap_eq_countP, countOccupied, ← countP_range]
  refine List.countP_congr fun i _ => ?_
  cases hs : slab[i]? with
  | none => simp [handleAt?, hs]
  | some s => cases ho : s.isOccupied <;> simp [handleAt?, hs, ho]

/-- The set of handles that name an object, as a list. -/
theorem setOf_live :
    {h | (slab.object? h).isSome = true} = (slab.handles.toFinset : Set Handle) := by
  ext h
  simp [mem_handles]

/-- There are as many handles that name an object as there are occupied slots. -/
theorem ncard_live : {h | (slab.object? h).isSome = true}.ncard = slab.countOccupied := by
  rw [setOf_live, Set.ncard_coe_finset, List.toFinset_card_of_nodup nodup_handles, length_handles]

/-- Only finitely many handles name an object. -/
theorem finite_live : {h | (slab.object? h).isSome = true}.Finite := by
  rw [setOf_live]
  exact Finset.finite_toSet _

/-! ## Updates -/

/-- An index at which an object can be put: that of a slot without one, or the next index. -/
def Vacant (slab : Slab) (i : Nat) : Prop :=
  i ≤ slab.size ∧ ∀ s, slab[i]? = some s → s.cell = none

/-- No handle names an object in a vacant slot. -/
theorem Vacant.object?_eq_none (hi : slab.Vacant i) (hh : h.index = i) : slab.object? h = none := by
  rw [Option.eq_none_iff_forall_ne_some]
  rintro o ho
  obtain ⟨_, hc⟩ := object?_eq_some.1 ho
  obtain ⟨s, hs, -, hsc⟩ := cell?_eq_some.1 hc
  rw [hi.2 s (hh ▸ hs)] at hsc
  cases hsc

/-- The slots after an object is put into one of them. -/
theorem getElem?_put (hi : i ≤ slab.size) (o : Object) (j : Nat) : (slab.put i o)[j]? =
    if i = j then some ⟨slab.generationAt i, some ⟨false, o⟩⟩ else slab[j]? := by
  unfold put
  split
  · next hlt =>
    rw [Array.getElem?_modify]
    split
    · next hij =>
      subst hij
      simp [generationAt, Array.getElem?_eq_getElem hlt]
    · rfl
  · next hge =>
    obtain rfl : i = slab.size := by omega
    rw [Array.getElem?_push]
    by_cases hj : j = slab.size
    · subst hj
      simp [generationAt]
    · rw [if_neg hj, if_neg (Ne.symm hj)]

/-- An object that is put into the next slot makes it. -/
theorem size_put (slab : Slab) (i : Nat) (o : Object) :
    (slab.put i o).size = if i < slab.size then slab.size else slab.size + 1 := by
  unfold put
  split
  · exact Array.size_modify
  · exact Array.size_push _

/-- An object that is put into a vacant slot is named by the slot's handle, and every other handle
names what it did. -/
theorem object?_put (hi : slab.Vacant i) (o : Object) : (slab.put i o).object? h =
    if h = ⟨i, slab.generationAt i⟩ then some o else slab.object? h := by
  have hput := getElem?_put hi.1 o h.index
  by_cases hidx : i = h.index
  · subst hidx
    rw [if_pos rfl] at hput
    by_cases hg : h.generation = slab.generationAt h.index
    · rw [if_pos (by rw [← hg]), object?_eq_some]
      exact ⟨false, cell?_eq_some.2 ⟨_, hput, hg.symm, rfl⟩⟩
    · rw [if_neg fun he => hg (congrArg Handle.generation he)]
      rw [hi.object?_eq_none rfl, Option.eq_none_iff_forall_ne_some]
      rintro o' ho'
      obtain ⟨_, hc⟩ := object?_eq_some.1 ho'
      obtain ⟨s, hs, hsg, -⟩ := cell?_eq_some.1 hc
      rw [hput] at hs
      cases hs
      exact hg hsg.symm
  · rw [if_neg fun he => hidx (congrArg Handle.index he).symm]
    exact object?_congr (by rw [hput, if_neg hidx])

/-- The slots after an object is replaced. -/
theorem getElem?_setObject (slab : Slab) (p : Handle) (o : Object) (j : Nat) :
    (slab.setObject p o)[j]? =
    if p.index = j then slab[j]?.map fun s => { s with cell := s.cell.map ({ · with object := o }) }
    else slab[j]? :=
  Array.getElem?_modify

/-- An object that is replaced has its handle name the new one, and every other handle names what it
did. -/
theorem object?_setObject {p : Handle} (hp : (slab.object? p).isSome = true) (o : Object) :
    (slab.setObject p o).object? h = if h = p then some o else slab.object? h := by
  obtain ⟨o', ho'⟩ := Option.isSome_iff_exists.1 hp
  obtain ⟨reached, hc⟩ := object?_eq_some.1 ho'
  obtain ⟨s, hs, hsg, hsc⟩ := cell?_eq_some.1 hc
  have hset := getElem?_setObject slab p o h.index
  by_cases hidx : p.index = h.index
  · rw [if_pos hidx, ← hidx, hs] at hset
    by_cases hg : h.generation = p.generation
    · obtain rfl : h = p := by cases h; cases p; simp_all
      rw [if_pos rfl, object?_eq_some]
      exact ⟨reached, cell?_eq_some.2 ⟨_, hset, hsg, by simp [hsc]⟩⟩
    · have hne : s.generation ≠ h.generation := fun he => hg (he.symm.trans hsg)
      rw [if_neg fun he => hg (congrArg Handle.generation he)]
      simp [object?, cell?, ← hidx, hset, hs, Option.filter, hne]
  · rw [if_neg fun he => hidx (congrArg Handle.index he).symm]
    exact object?_congr (by rw [hset, if_neg hidx])

/-- Putting an object into a vacant slot makes one more occupied slot. -/
theorem countOccupied_put (hi : slab.Vacant i) (o : Object) :
    (slab.put i o).countOccupied = slab.countOccupied + 1 := by
  have hnew := hi.object?_eq_none (h := ⟨i, slab.generationAt i⟩) rfl
  have hset : {h | ((slab.put i o).object? h).isSome = true} =
      insert ⟨i, slab.generationAt i⟩ {h | (slab.object? h).isSome = true} := by
    ext h
    simp only [object?_put hi, Set.mem_ofPred_eq, Set.mem_insert_iff]
    split <;> simp_all
  rw [← ncard_live, hset, Set.ncard_insert_of_notMem (by simp [hnew]) finite_live, ncard_live]

/-- What is live is so when an object is replaced. -/
theorem isSome_object?_setObject {p : Handle} (hp : (slab.object? p).isSome = true) (o : Object) :
    ((slab.setObject p o).object? h).isSome = (slab.object? h).isSome := by
  rw [object?_setObject hp]
  split
  · next heq => rw [heq, hp, Option.isSome_some]
  · rfl

/-- Replacing an object keeps the slots occupied that are. -/
theorem countOccupied_setObject {p : Handle} (hp : (slab.object? p).isSome = true) (o : Object) :
    (slab.setObject p o).countOccupied = slab.countOccupied := by
  rw [← ncard_live, ← ncard_live]
  simp only [isSome_object?_setObject hp]

end

end Slab

end RootedHeap
