/-
# What saving, loading and freeing do to the blocks

The three functions move memento keys between their addresses and the slots.  Each of them
ends with the live keys as they were, or with none of their blocks, so the effect on a block
depends on who holds it only: a block that no live key holds keeps its content, except that
a free takes away those of its victim.
-/
import Sf4e.Rollback.SaveState

namespace Sf4e
namespace Rollback

variable {U B : Type} {E : Engine U B}

namespace Mem

/-! ## Keys with fewer blocks -/

lemma Holds.of_subset {m m' : Mem U B} {b : Addr} (h : m'.Holds b)
    (hkeys : ∀ a, (m'.keys a).blocks ⊆ (m.keys a).blocks) : m.Holds b := by
  obtain ⟨a, ha⟩ := h
  exact ⟨a, hkeys a ha⟩

/-- Taking blocks away from the live keys leaves them in order. -/
lemma WellFormed.of_subset {m m' : Mem U B} (h : m.WellFormed)
    (hkeys : ∀ a, (m'.keys a).blocks ⊆ (m.keys a).blocks)
    (htracked : m'.trackedKeys = m.trackedKeys)
    (hheap : ∀ b, m'.Holds b → m'.heap b ≠ none) : m'.WellFormed where
  allocated := hheap
  separate a a' b ha ha' := h.separate a a' b (hkeys a ha) (hkeys a' ha')
  tracked a b ha := htracked ▸ h.tracked a b (hkeys a ha)
  nonnull := htracked ▸ h.nonnull

/-- A key at an address that is not tracked has no blocks. -/
lemma WellFormed.blocks_eq_nil {m : Mem U B} (h : m.WellFormed) {a : Addr}
    (ha : a ∉ m.trackedKeys) : (m.keys a).blocks = [] :=
  List.eq_nil_iff_forall_not_mem.2 fun b hb => ha (h.tracked a b hb)

/-- Once all tracked keys are zeroed, no live key holds a block. -/
lemma WellFormed.not_holds_zero {m : Mem U B} (h : m.WellFormed) (b : Addr) :
    ¬ (m.zero m.trackedKeys).Holds b := by
  rintro ⟨a, ha⟩
  by_cases hmem : a ∈ m.trackedKeys
  · rw [zero_keys_of_mem hmem] at ha
    simp at ha
  · rw [zero_keys_of_not_mem hmem, h.blocks_eq_nil hmem] at ha
    simp at ha

lemma WellFormed.zero {m : Mem U B} (h : m.WellFormed) : (m.zero m.trackedKeys).WellFormed := by
  refine h.of_subset (fun a => ?_) (zero_trackedKeys m _) fun b hb =>
    absurd hb (h.not_holds_zero b)
  rcases zero_keys_cases m m.trackedKeys a with hkey | hkey <;> rw [hkey] <;> simp

/-- The blocks of the pairs read off the tracked keys are those that the live keys hold. -/
lemma WellFormed.mem_trackedPairs_iff {m : Mem U B} (h : m.WellFormed) {b : Addr} :
    (∃ p ∈ m.trackedPairs, b ∈ p.2.blocks) ↔ m.Holds b := by
  constructor
  · rintro ⟨p, hp, hb⟩
    obtain ⟨a, _, rfl⟩ := List.mem_map.1 hp
    exact ⟨a, hb⟩
  · rintro ⟨a, ha⟩
    exact ⟨(a, m.keys a), List.mem_map.2 ⟨a, h.tracked a b ha, rfl⟩, ha⟩

lemma trackedPairs_map_fst (m : Mem U B) : m.trackedPairs.map Prod.fst = m.trackedKeys := by
  simp [trackedPairs, Function.comp_def]

/-- Pairs that were read off a memory, installed where they were read. -/
lemma install_trackedPairs {m r : Mem U B} {a : Addr} (h : a ∈ r.trackedKeys) :
    (m.install r.trackedPairs).keys a = r.keys a :=
  install_map_keys_of_mem h

lemma install_trackedPairs_of_not_mem {m r : Mem U B} {a : Addr} (h : a ∉ r.trackedKeys) :
    (m.install r.trackedPairs).keys a = m.keys a :=
  install_keys_of_not_mem (by rwa [trackedPairs_map_fst])

end Mem

/-! ## Clearing -/

section Clear

variable {m : Mem U B}

lemma clearMem_trackedKeys (hE : E.Lawful) (ks : List (Addr × GameMementoKey)) :
    (SaveState.clearMem E m ks).trackedKeys = m.trackedKeys := by
  unfold SaveState.clearMem
  induction ks generalizing m with
  | nil => rfl
  | cons p ks ih =>
    rw [List.foldl_cons, ih]
    split
    · exact hE.clear_trackedKeys m p.1
    · rfl

variable (hclear : ∀ {m : Mem U B} {a a' : Addr}, a' ≠ a → (E.clearKey a m).keys a' = m.keys a')

include hclear

/-- The keys after one turn of the loop of `Clear`. -/
lemma clear_turn_keys (m : Mem U B) (c a : Addr) :
    (((E.clearKey c m).setKey c {}).keys a = {} ∧ a = c) ∨
      ((E.clearKey c m).setKey c {}).keys a = m.keys a := by
  by_cases ha : a = c
  · exact Or.inl ⟨by rw [ha, Mem.setKey_keys_self], ha⟩
  · exact Or.inr (by rw [Mem.setKey_keys_of_ne ha, hclear ha])

/-- `Clear` empties keys or leaves them. -/
lemma clearMem_keys_cases (ks : List (Addr × GameMementoKey)) (a : Addr) :
    (SaveState.clearMem E m ks).keys a = {} ∨
      (SaveState.clearMem E m ks).keys a = m.keys a := by
  unfold SaveState.clearMem
  induction ks generalizing m with
  | nil => exact Or.inr rfl
  | cons p ks ih =>
    rw [List.foldl_cons]
    split
    · rcases @ih ((E.clearKey p.1 m).setKey p.1 {}) with h | h
      · exact Or.inl h
      · rcases clear_turn_keys hclear m p.1 a with ⟨hkey, -⟩ | hkey
        · exact Or.inl (h.trans hkey)
        · exact Or.inr (h.trans hkey)
    · exact ih

/-- `Clear` empties the victim's keys. -/
lemma clearMem_keys_of_mem {ks : List (Addr × GameMementoKey)} {a : Addr}
    (ha : a ∈ ks.map Prod.fst) (hnull : a ≠ 0) : (SaveState.clearMem E m ks).keys a = {} := by
  induction ks generalizing m with
  | nil => simp at ha
  | cons p ks ih =>
    by_cases hp : p.1 = a
    · subst hp
      rcases clearMem_keys_cases hclear (m := (E.clearKey p.1 m).setKey p.1 {}) ks p.1 with h | h
      · rwa [SaveState.clearMem, List.foldl_cons, if_pos hnull]
      · rw [SaveState.clearMem, List.foldl_cons, if_pos hnull]
        rw [SaveState.clearMem] at h
        rw [h, Mem.setKey_keys_self]
    · have hmem : a ∈ ks.map Prod.fst := by
        rw [List.map_cons, List.mem_cons] at ha
        exact ha.resolve_left (Ne.symm hp)
      rw [SaveState.clearMem, List.foldl_cons]
      exact ih hmem

omit hclear in
/-- `Clear` frees the blocks of the keys that it finds at the victim's addresses. -/
lemma clearMem_heap (hE : E.Lawful) {ks : List (Addr × GameMementoKey)} {b : Addr}
    (hb : ∀ a ∈ ks.map Prod.fst, b ∉ (m.keys a).blocks) :
    (SaveState.clearMem E m ks).heap b = m.heap b := by
  induction ks generalizing m with
  | nil => rfl
  | cons p ks ih =>
    rw [SaveState.clearMem, List.foldl_cons]
    split
    · have hturn : ∀ a ∈ ks.map Prod.fst,
          b ∉ (((E.clearKey p.1 m).setKey p.1 {}).keys a).blocks := by
        intro a ha
        rcases clear_turn_keys hE.clear_keys m p.1 a with ⟨hkey, -⟩ | hkey
        · simp [hkey]
        · rw [hkey]
          exact hb a (List.mem_cons_of_mem _ ha)
      exact (ih hturn).trans (hE.clear_heap (hb p.1 List.mem_cons_self))
    · exact ih fun a ha => hb a (List.mem_cons_of_mem _ ha)

end Clear

/-! ## The memory after the three functions -/

variable (E) in
/-- The memory after `Save`. -/
def savedMem (m : Mem U B) : Mem U B := (E.recordAll m).zero (E.recordAll m).trackedKeys

variable (E) in
/-- The memory after `Free` of a victim with the keys. -/
def freedMem (m : Mem U B) (ks : List (Addr × GameMementoKey)) : Mem U B :=
  E.restoreAll ((SaveState.clearMem E (E.restoreAll ((savedMem E m).install ks)) ks).install
    (E.recordAll m).trackedPairs)

variable (E) in
/-- The memory after `Load` of a slot with the keys. -/
def loadedMem (m : Mem U B) (ks : List (Addr × GameMementoKey)) : Mem U B :=
  ((E.restoreAll ((m.zero m.trackedKeys).install ks)).zero
    ((ks.map Prod.fst).filter (· ≠ 0))).install m.trackedPairs

section Effects

variable (hE : E.Lawful) {m r : Mem U B} (hm : m.WellFormed) (hr : r.WellFormed)

include hE in
lemma savedMem_units : (savedMem E m).units = m.units := by
  rw [savedMem, Mem.zero_units, hE.record_units]

include hE hm in
lemma savedMem_wellFormed : (savedMem E m).WellFormed := (hE.record_wellFormed hm).zero

include hE hm in
lemma savedMem_not_holds (b : Addr) : ¬ (savedMem E m).Holds b :=
  (hE.record_wellFormed hm).not_holds_zero b

include hE hm in
/-- A save leaves the blocks alone that are not live. -/
lemma savedMem_heap {b : Addr} (hb : m.heap b ≠ none) (hfree : ¬ m.Holds b) :
    (savedMem E m).heap b = m.heap b := by
  rw [savedMem, Mem.zero_heap]
  exact (hE.record_frame hm b hb hfree).1

/-! ### Free

`r` is the memory that the victim's keys were read off. -/

include hE in
lemma freedMem_trackedKeys :
    (freedMem E m r.trackedPairs).trackedKeys = (E.recordAll m).trackedKeys := by
  rw [freedMem, hE.restore_trackedKeys, Mem.install_trackedKeys, clearMem_trackedKeys hE,
    hE.restore_trackedKeys, Mem.install_trackedKeys, savedMem, Mem.zero_trackedKeys]

include hE in
lemma freedMem_keys_of_mem {a : Addr} (ha : a ∈ (E.recordAll m).trackedKeys) :
    (freedMem E m r.trackedPairs).keys a = (E.recordAll m).keys a := by
  rw [freedMem, hE.restore_keys, Mem.install_trackedPairs ha]

include hE hr in
lemma freedMem_keys_subset (a : Addr) :
    ((freedMem E m r.trackedPairs).keys a).blocks ⊆ ((E.recordAll m).keys a).blocks := by
  by_cases ha : a ∈ (E.recordAll m).trackedKeys
  · rw [freedMem_keys_of_mem hE ha]
    simp
  rw [freedMem, hE.restore_keys, Mem.install_trackedPairs_of_not_mem ha]
  by_cases hvictim : a ∈ r.trackedKeys
  · have hnull : a ≠ 0 := by
      rintro rfl
      exact hr.nonnull hvictim
    rw [clearMem_keys_of_mem hE.clear_keys (by rwa [Mem.trackedPairs_map_fst]) hnull]
    simp
  · rcases clearMem_keys_cases hE.clear_keys
      (m := E.restoreAll ((savedMem E m).install r.trackedPairs)) r.trackedPairs a with h | h
    · simp [h]
    · rw [h, hE.restore_keys, Mem.install_trackedPairs_of_not_mem hvictim, savedMem,
        Mem.zero_keys_of_not_mem ha]
      simp

include hE in
/-- A free leaves the blocks alone that are not the victim's. -/
lemma freedMem_heap {b : Addr} (hb : ¬ r.Holds b) :
    (freedMem E m r.trackedPairs).heap b = (E.recordAll m).heap b := by
  have hclear : ∀ a ∈ r.trackedPairs.map Prod.fst,
      b ∉ ((E.restoreAll ((savedMem E m).install r.trackedPairs)).keys a).blocks := by
    intro a ha hmem
    rw [Mem.trackedPairs_map_fst] at ha
    rw [hE.restore_keys, Mem.install_trackedPairs ha] at hmem
    exact hb ⟨a, hmem⟩
  rw [freedMem, hE.restore_heap, Mem.install_heap, clearMem_heap hE hclear, hE.restore_heap,
    Mem.install_heap, savedMem, Mem.zero_heap]

variable (hapart : ∀ b, r.Holds b → m.heap b ≠ none ∧ ¬ m.Holds b)

include hE hm hapart in
/-- What the recording of the live state holds is not the victim's. -/
lemma not_holds_of_record_holds {b : Addr} (hb : (E.recordAll m).Holds b) : ¬ r.Holds b := by
  intro hvictim
  obtain ⟨hheap, hfree⟩ := hapart b hvictim
  exact (hE.record_frame hm b hheap hfree).2 hb

include hE hm hr hapart in
lemma freedMem_wellFormed : (freedMem E m r.trackedPairs).WellFormed := by
  have hrec : (E.recordAll m).WellFormed := hE.record_wellFormed hm
  refine hrec.of_subset (freedMem_keys_subset hE hr) (freedMem_trackedKeys hE) fun b hb => ?_
  have hlive : (E.recordAll m).Holds b := hb.of_subset (freedMem_keys_subset hE hr)
  rw [freedMem_heap hE (not_holds_of_record_holds hE hm hapart hlive)]
  exact hrec.allocated b hlive

include hE hm hr in
lemma freedMem_not_holds {b : Addr} (hb : m.heap b ≠ none) (hfree : ¬ m.Holds b) :
    ¬ (freedMem E m r.trackedPairs).Holds b := fun h =>
  (hE.record_frame hm b hb hfree).2 (h.of_subset (freedMem_keys_subset hE hr))

include hE hm hapart in
/-- A free reproduces the units. -/
lemma freedMem_units : (freedMem E m r.trackedPairs).units = m.units := by
  refine hE.restore_record hm fun a ha => ⟨?_, fun b hb => ?_⟩
  · exact Mem.install_trackedPairs ha
  · have hvictim := not_holds_of_record_holds hE hm hapart ⟨a, hb⟩
    rw [← freedMem_heap hE hvictim, freedMem, hE.restore_heap]

/-! ### Load

`r` is the memory that the slot's keys were read off. -/

include hE in
lemma loadedMem_heap (ks : List (Addr × GameMementoKey)) :
    (loadedMem E m ks).heap = m.heap := by
  rw [loadedMem, Mem.install_heap, Mem.zero_heap, hE.restore_heap, Mem.install_heap,
    Mem.zero_heap]

include hE in
lemma loadedMem_trackedKeys (ks : List (Addr × GameMementoKey)) :
    (loadedMem E m ks).trackedKeys = m.trackedKeys := by
  rw [loadedMem, Mem.install_trackedKeys, Mem.zero_trackedKeys, hE.restore_trackedKeys,
    Mem.install_trackedKeys, Mem.zero_trackedKeys]

include hE hr in
lemma loadedMem_keys_subset (a : Addr) :
    ((loadedMem E m r.trackedPairs).keys a).blocks ⊆ (m.keys a).blocks := by
  by_cases ha : a ∈ m.trackedKeys
  · rw [loadedMem, Mem.install_trackedPairs ha]
    simp
  rw [loadedMem, Mem.install_trackedPairs_of_not_mem ha, Mem.trackedPairs_map_fst]
  by_cases hslot : a ∈ r.trackedKeys
  · have hnull : a ≠ 0 := by
      rintro rfl
      exact hr.nonnull hslot
    rw [Mem.zero_keys_of_mem (List.mem_filter.2 ⟨hslot, by simpa using hnull⟩)]
    simp
  · rw [Mem.zero_keys_of_not_mem fun h => hslot (List.mem_of_mem_filter h), hE.restore_keys,
      Mem.install_trackedPairs_of_not_mem hslot, Mem.zero_keys_of_not_mem ha]
    simp

include hE hm hr in
lemma loadedMem_wellFormed : (loadedMem E m r.trackedPairs).WellFormed := by
  refine hm.of_subset (loadedMem_keys_subset hE hr) (loadedMem_trackedKeys hE _) fun b hb => ?_
  rw [loadedMem_heap hE]
  exact hm.allocated b (hb.of_subset (loadedMem_keys_subset hE hr))

include hE in
/-- A load reproduces the units that were recorded, when their blocks are as recorded. -/
lemma loadedMem_units {m₀ : Mem U B} (h₀ : m₀.WellFormed)
    (hblocks : ∀ b, (E.recordAll m₀).Holds b → m.heap b = (E.recordAll m₀).heap b) :
    (loadedMem E m (E.recordAll m₀).trackedPairs).units = m₀.units := by
  rw [loadedMem, Mem.install_units, Mem.zero_units]
  refine hE.restore_record h₀ fun a ha => ⟨?_, fun b hb => ?_⟩
  · exact Mem.install_trackedPairs ha
  · rw [Mem.install_heap, Mem.zero_heap]
    exact hblocks b ⟨a, hb⟩

end Effects

end Rollback
end Sf4e
