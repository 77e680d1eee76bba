/-
# Save states are transparent

A battle goes on while states are saved, loaded and freed in any order.  The memento blocks
are what has to be kept apart: those of the live keys, and those of each slot.  `Owned` is
this invariant, and `Snapshot` says that a slot still holds what its save recorded.  Every
operation of the repository and every run of the engine preserves both.

A run of the engine (`EngineRuns`) may do what it likes with the units, the battle flow and
the sounds.  It is only taken to be memory safe, to leave the slots to the repository, and
not to give the address of a manager that a slot remembers to another manager.
-/
import Mathlib.Tactic.Push
import Sf4e.Rollback.Blocks
import Sf4e.Trace.LTS

namespace Sf4e
namespace Rollback

open Trace

variable {U B : Type} {E : Engine U B}

/-! ## Sounds -/

namespace Sounds

/-- Loading pools that fit. -/
lemma exists_loadPools {managerState : Addr → Option SoundObjectPool} {managers : List Addr}
    {pool : Addr → SoundObjectPool}
    (h : ∀ m ∈ managers, ((managerState m).getD {}).Fits (pool m)) :
    ∃ pool', loadPools managerState managers pool = some pool' ∧
      (∀ m, (pool' m).size = (pool m).size) ∧ (∀ m ∉ managers, pool' m = pool m) ∧
      ∀ m ∈ managers, ∀ p, managerState m = some p → p.size = (pool m).size → pool' m = p := by
  induction managers generalizing pool with
  | nil => exact ⟨pool, rfl, fun _ => rfl, fun _ _ => rfl, by simp⟩
  | cons m managers ih =>
    obtain ⟨p, hp, hsize⟩ := SoundObjectPool.exists_load_of_fits (h m List.mem_cons_self)
    have hupdate : ∀ m', (Function.update pool m p m').size = (pool m').size := by
      intro m'
      by_cases hm : m' = m
      · subst hm
        simpa using hsize
      · rw [Function.update_of_ne hm]
    obtain ⟨pool', hload, hsize', hother, hsaved⟩ := @ih (Function.update pool m p) fun m' hm' => by
      have hfits := h m' (List.mem_cons_of_mem _ hm')
      rwa [SoundObjectPool.Fits, ← hupdate m'] at hfits
    refine ⟨pool', by simp only [loadPools, hp, hload], fun m' => (hsize' m').trans (hupdate m'),
      fun m' hm' => ?_, fun m' hm' q hq hqsize => ?_⟩
    · rw [List.mem_cons, not_or] at hm'
      rw [hother m' hm'.2, Function.update_of_ne hm'.1]
    · by_cases hrest : m' ∈ managers
      · exact hsaved m' hrest q hq (hqsize.trans (hupdate m').symm)
      · obtain rfl : m' = m := (List.mem_cons.1 hm').resolve_right hrest
        rw [hq, Option.getD_some, SoundObjectPool.load_eq_self hqsize] at hp
        obtain rfl := Option.some.inj hp
        rw [hother m' hrest, Function.update_self]

/-- What `CopyIntoPlace` does to the sounds. -/
structure Copied (s : Sounds) (src : SaveState) (s' : Sounds) : Prop where
  managers : s'.managers = s.managers
  adapters : s'.adapters = s.adapters
  queuedStops : s'.queuedStops = s.queuedStops
  bUsePureSounds : s'.bUsePureSounds = s.bUsePureSounds
  /-- No pool changes its size. -/
  size : ∀ m, (s'.pool m).size = (s.pool m).size
  /-- Other pools are left. -/
  pool_other : ∀ m ∉ s.managers, s'.pool m = s.pool m
  /-- Saved pools are reproduced. -/
  pool_saved : ∀ m ∈ s.managers, ∀ p, src.managerState m = some p →
    p.size = (s.pool m).size → s'.pool m = p
  /-- The adapters play what was saved. -/
  current : ∀ a, s'.adapterToCurrentSound a =
    if s.IsAdapter a then src.criPlayerState a else s.adapterToCurrentSound a

/-- The pools in a slot fit those of the managers. -/
def FitsInto (src : SaveState) (s : Sounds) : Prop :=
  ∀ m ∈ s.managers, ((src.managerState m).getD {}).Fits (s.pool m)

lemma exists_copied {s : Sounds} {src : SaveState} (h : FitsInto src s) :
    ∃ s', s.copyIntoPlace src = some s' ∧ Copied s src s' := by
  obtain ⟨pool, hload, hsize, hother, hsaved⟩ := exists_loadPools h
  rw [copyIntoPlace, hload]
  exact ⟨_, rfl, rfl, rfl, rfl, rfl, hsize, hother, hsaved, fun _ => rfl⟩

/-- What is copied into place right after a save of the same sounds gives them back. -/
lemma Copied.eq_of_saved {s s₁ s₂ : Sounds} {victim tmp : SaveState} (h₁ : Copied s victim s₁)
    (h₂ : Copied s₁ tmp s₂) (hpool : ∀ m ∈ s.managers, tmp.managerState m = some (s.pool m))
    (hcurrent : ∀ a, s.IsAdapter a → tmp.criPlayerState a = s.adapterToCurrentSound a) :
    s₂ = s := by
  have hadapter : ∀ a, s₁.IsAdapter a ↔ s.IsAdapter a := by
    intro a
    rw [IsAdapter, IsAdapter, h₁.managers, h₁.adapters]
  have hpools : ∀ m, s₂.pool m = s.pool m := by
    intro m
    by_cases hm : m ∈ s.managers
    · exact h₂.pool_saved m (h₁.managers ▸ hm) _ (hpool m hm) (h₁.size m).symm
    · rw [h₂.pool_other m (h₁.managers ▸ hm), h₁.pool_other m hm]
  have hcurrents : ∀ a, s₂.adapterToCurrentSound a = s.adapterToCurrentSound a := by
    intro a
    rw [h₂.current a, h₁.current a]
    by_cases ha : s.IsAdapter a
    · rw [if_pos ((hadapter a).2 ha), hcurrent a ha]
    · rw [if_neg (mt (hadapter a).1 ha), if_neg ha]
  exact Sounds.ext (h₂.managers.trans h₁.managers) (h₂.adapters.trans h₁.adapters)
    (funext hpools) (funext hcurrents) (h₂.queuedStops.trans h₁.queuedStops)
    (h₂.bUsePureSounds.trans h₁.bUsePureSounds)

end Sounds

/-! ## The three functions in one equation each -/

lemma copyIntoPlace_eq {w : World U B} {src : SaveState} {s : Sounds}
    (h : w.sounds.copyIntoPlace src = some s) :
    SaveState.copyIntoPlace E w src =
      some { w with
        global := src.d, sounds := s, mem := E.restoreAll (w.mem.install src.keys) } := by
  rw [SaveState.copyIntoPlace, h]

lemma saveSlot_eq (w : World U B) {i : SlotIndex} (hkeys : (w.saveStates i).keys = []) :
    w.saveSlot E i =
      { w with
        mem := savedMem E w.mem
        saveStates := Function.update w.saveStates i
          { w.sounds.saveTo { w.saveStates i with
              used := true
              keys := (E.recordAll w.mem).trackedPairs } with d := w.global } } := by
  simp [World.saveSlot, SaveState.save, savedMem, hkeys]

lemma freeSlot_eq (w : World U B) {i : SlotIndex}
    (hfits : Sounds.FitsInto (w.saveStates i) w.sounds) :
    w.freeSlot E i =
      some { w with
        mem := freedMem E w.mem (w.saveStates i).keys
        saveStates := Function.update w.saveStates i (w.saveStates i).cleared } := by
  obtain ⟨s₁, hs₁, hcopied₁⟩ := Sounds.exists_copied hfits
  have htmp : Sounds.FitsInto (SaveState.save E w {}).1 s₁ := by
    intro m hm
    rw [hcopied₁.managers] at hm
    right
    simp [SaveState.save, Sounds.saveTo, hm, hcopied₁.size m]
  obtain ⟨s₂, hs₂, hcopied₂⟩ := Sounds.exists_copied htmp
  have hs : s₂ = w.sounds := by
    refine hcopied₁.eq_of_saved hcopied₂ (fun m hm => ?_) fun a ha => ?_
    · simp [SaveState.save, Sounds.saveTo, hm]
    · simp [SaveState.save, Sounds.saveTo, ha]
  rw [hs] at hs₂
  -- the save into `tmp` has left the sounds
  have hs₁' : (SaveState.save E w {}).2.sounds.copyIntoPlace (w.saveStates i) = some s₁ := hs₁
  simp only [World.freeSlot, SaveState.free]
  rw [copyIntoPlace_eq hs₁']
  simp only
  rw [copyIntoPlace_eq hs₂]
  simp [SaveState.save, Sounds.saveTo, freedMem, savedMem]

lemma loadSlot_eq (w : World U B) {i : SlotIndex}
    (hfits : Sounds.FitsInto (w.saveStates i) w.sounds) :
    ∃ sounds, Sounds.Copied w.sounds.clearQueuedStops (w.saveStates i) sounds ∧
      w.loadSlot E i =
        some { w with
          mem := loadedMem E w.mem (w.saveStates i).keys
          global := (w.saveStates i).d
          sounds := sounds } := by
  have hclear : ∀ s : Sounds, s.clearQueuedStops.managers = s.managers ∧
      s.clearQueuedStops.pool = s.pool := by
    intro s
    unfold Sounds.clearQueuedStops
    split <;> exact ⟨rfl, rfl⟩
  have hfits' : Sounds.FitsInto (w.saveStates i) w.sounds.clearQueuedStops := by
    rwa [Sounds.FitsInto, (hclear w.sounds).1, (hclear w.sounds).2]
  obtain ⟨s, hs, hcopied⟩ := Sounds.exists_copied hfits'
  refine ⟨s, hcopied, ?_⟩
  simp only [World.loadSlot, SaveState.load]
  rw [copyIntoPlace_eq hs]
  simp [loadedMem]

/-! ## Runs -/

/-- One of the blocks of a slot. -/
def SaveState.Owns (s : SaveState) (b : Addr) : Prop := ∃ p ∈ s.keys, b ∈ p.2.blocks

/-- What the engine may do between two operations on the slots: anything to the live state,
with its memory safe.  It does not touch the slots and it keeps a manager's adapters and the
size of its pool.  A new manager is not at an address that some slot has a manager at: the
managers of a battle go when the battle does, and every slot is freed before that. -/
structure EngineRuns (w w' : World U B) : Prop where
  saveStates : w'.saveStates = w.saveStates
  wellFormed : w'.mem.WellFormed
  frame : w.mem.Frame w'.mem
  managers : ∀ m ∈ w'.sounds.managers,
    (m ∈ w.sounds.managers ∧ w'.sounds.adapters m = w.sounds.adapters m ∧
      (w'.sounds.pool m).size = (w.sounds.pool m).size) ∨
    ∀ i, (w.saveStates i).managerState m = none

/-- The operations of a battle. -/
inductive Op
  | save (i : SlotIndex)
  | load (i : SlotIndex)
  | free (i : SlotIndex)
  | run

variable (E) in
/-- One operation.  States are saved to slots that are not in use; those in use are loaded
and freed. -/
def World.Steps (w : World U B) : Op → World U B → Prop
  | .save i, w' => (w.saveStates i).used = false ∧ w' = w.saveSlot E i
  | .load i, w' => (w.saveStates i).used = true ∧ w.loadSlot E i = some w'
  | .free i, w' => (w.saveStates i).used = true ∧ w.freeSlot E i = some w'
  | .run, w' => EngineRuns w w'

variable (E) in
/-- A battle starts with an empty pool of slots. -/
def rollbackLTS : LTS (World U B) Op Unit where
  init w := w.mem.WellFormed ∧ ∀ i, w.saveStates i = {}
  step w op _ w' := w.Steps E op w'

/-- A run of the battle. -/
abbrev RollbackLog (U B : Type) := List (Entry (World U B) Op Unit)

/-- The world in which the state in a slot was saved. -/
def savedAt (i : SlotIndex) : RollbackLog U B → Option (World U B)
  | [] => none
  | e :: log =>
    match e.act with
    | .save j => if j = i then some e.pre else savedAt i log
    | .free j => if j = i then none else savedAt i log
    | _ => savedAt i log

/-! ## What the operations have to do -/

/-- The same live state, with the queued stops. -/
structure SameLive (w w' : World U B) : Prop where
  units : w'.mem.units = w.mem.units
  global : w'.global = w.global
  sounds : w'.sounds = w.sounds

/-- The live state of `w'`, loaded into `w`, is the one of `w₀`. -/
structure LoadedFrom (w₀ w w' : World U B) : Prop where
  units : w'.mem.units = w₀.mem.units
  global : w'.global = w₀.global
  managers : w'.sounds.managers = w.sounds.managers
  /-- The adapters of the managers that existed at the save. -/
  adapters : ∀ m ∈ w₀.sounds.managers, m ∈ w.sounds.managers →
    w'.sounds.adapters m = w₀.sounds.adapters m ∧ ∀ a ∈ w₀.sounds.adapters m,
      w'.sounds.adapterToCurrentSound a = w₀.sounds.adapterToCurrentSound a
  /-- The pools of the managers that existed at the save. -/
  pools : ∀ m ∈ w₀.sounds.managers, m ∈ w.sounds.managers →
    w'.sounds.pool m = w₀.sounds.pool m

/-- The content of a slot: what is in the slot and the blocks it points to. -/
def SameContent (i : SlotIndex) (w w' : World U B) : Prop :=
  w'.saveStates i = w.saveStates i ∧
    ∀ b, (w.saveStates i).Owns b → w'.mem.heap b = w.mem.heap b

variable (E) in
/-- After a run, the three functions do what they are for. -/
structure Transparent (log : RollbackLog U B) (w : World U B) : Prop where
  /-- A save keeps the live state. -/
  save : ∀ i, (w.saveStates i).used = false → SameLive w (w.saveSlot E i)
  /-- A load returns to the state of the save. -/
  load : ∀ i, (w.saveStates i).used = true → ∃ w₀ w', savedAt i log = some w₀ ∧
    w.loadSlot E i = some w' ∧ LoadedFrom w₀ w w'
  /-- A free keeps the live state and the other slots, and releases its own. -/
  free : ∀ i, (w.saveStates i).used = true → ∃ w', w.freeSlot E i = some w' ∧
    SameLive w w' ∧ (w'.saveStates i).used = false ∧
    ∀ j ≠ i, (w.saveStates j).used = true → SameContent j w w'

/-! ## The invariant -/

/-- No block is held twice: the live keys and the slots hold different blocks, all of them
allocated. -/
structure Owned (w : World U B) : Prop where
  wellFormed : w.mem.WellFormed
  /-- A slot that is not in use is empty. -/
  unused : ∀ i, (w.saveStates i).used = false →
    (w.saveStates i).keys = [] ∧ ∀ m, (w.saveStates i).managerState m = none
  /-- The blocks of a slot are there and not live. -/
  apart : ∀ i b, (w.saveStates i).Owns b → w.mem.heap b ≠ none ∧ ¬ w.mem.Holds b
  /-- Two slots share no block. -/
  separate : ∀ i j b, (w.saveStates i).Owns b → (w.saveStates j).Owns b → i = j

variable (E) in
/-- In `w`, the slot holds what a save of `w₀` has put there. -/
structure Snapshot (w₀ w : World U B) (s : SaveState) : Prop where
  wellFormed : w₀.mem.WellFormed
  keys : s.keys = (E.recordAll w₀.mem).trackedPairs
  blocks : ∀ b, s.Owns b → w.mem.heap b = (E.recordAll w₀.mem).heap b
  global : s.d = w₀.global
  pools : ∀ m, s.managerState m =
    if m ∈ w₀.sounds.managers then some (w₀.sounds.pool m) else none
  current : ∀ a, w₀.sounds.IsAdapter a →
    s.criPlayerState a = w₀.sounds.adapterToCurrentSound a
  /-- What the managers that are still there have kept. -/
  survivors : ∀ m ∈ w₀.sounds.managers, m ∈ w.sounds.managers →
    w.sounds.adapters m = w₀.sounds.adapters m ∧
      (w.sounds.pool m).size = (w₀.sounds.pool m).size

variable (E) in
/-- The invariant of runs. -/
structure RollbackInv (log : RollbackLog U B) (w : World U B) : Prop where
  owned : Owned w
  used : ∀ i, (w.saveStates i).used = (savedAt i log).isSome
  snapshot : ∀ i w₀, savedAt i log = some w₀ → Snapshot E w₀ w (w.saveStates i)

namespace Snapshot

variable {w₀ w w' : World U B} {s : SaveState}

lemma owns_iff (hE : E.Lawful) (h : Snapshot E w₀ w s) {b : Addr} :
    s.Owns b ↔ (E.recordAll w₀.mem).Holds b := by
  rw [SaveState.Owns, h.keys]
  exact (hE.record_wellFormed h.wellFormed).mem_trackedPairs_iff

/-- The pools of a snapshot fit. -/
lemma fits (h : Snapshot E w₀ w s) : Sounds.FitsInto s w.sounds := by
  intro m hm
  rw [h.pools m]
  by_cases hm₀ : m ∈ w₀.sounds.managers
  · rw [if_pos hm₀, Option.getD_some]
    exact Or.inr (h.survivors m hm₀ hm).2.symm
  · rw [if_neg hm₀, Option.getD_none]
    exact Or.inl rfl

/-- A snapshot stays one while its blocks stay and its managers do not change. -/
lemma of_same (h : Snapshot E w₀ w s)
    (hblocks : ∀ b, s.Owns b → w'.mem.heap b = w.mem.heap b)
    (hmanagers : ∀ m ∈ w'.sounds.managers,
      (m ∈ w.sounds.managers ∧ w'.sounds.adapters m = w.sounds.adapters m ∧
        (w'.sounds.pool m).size = (w.sounds.pool m).size) ∨ s.managerState m = none) :
    Snapshot E w₀ w' s := by
  refine { h with blocks := fun b hb => ?_, survivors := fun m hm₀ hm => ?_ }
  · rw [hblocks b hb, h.blocks b hb]
  · rcases hmanagers m hm with ⟨hold, hadapters, hsize⟩ | hnone
    · obtain ⟨hadapters₀, hsize₀⟩ := h.survivors m hm₀ hold
      exact ⟨hadapters.trans hadapters₀, hsize.trans hsize₀⟩
    · rw [h.pools m, if_pos hm₀] at hnone
      simp at hnone

end Snapshot

lemma Owned.of_sameSlots {w w' : World U B} (h : Owned w) (hslots : w'.saveStates = w.saveStates)
    (hwf : w'.mem.WellFormed) (hblocks : ∀ i b, (w.saveStates i).Owns b →
      w'.mem.heap b = w.mem.heap b ∧ ¬ w'.mem.Holds b) : Owned w' := by
  refine ⟨hwf, hslots ▸ h.unused, fun j b hb => ?_, hslots ▸ h.separate⟩
  rw [hslots] at hb
  obtain ⟨hheap, hfree⟩ := hblocks j b hb
  exact ⟨by rw [hheap]; exact (h.apart j b hb).1, hfree⟩

/-- A step that leaves the slots and their blocks alone. -/
lemma RollbackInv.of_sameSlots {w w' : World U B} {log : RollbackLog U B} {op : Op} {o : Unit}
    (h : RollbackInv E log w) (hsaved : ∀ i, savedAt i (⟨w, op, o, w'⟩ :: log) = savedAt i log)
    (hslots : w'.saveStates = w.saveStates) (hwf : w'.mem.WellFormed)
    (hblocks : ∀ i b, (w.saveStates i).Owns b →
      w'.mem.heap b = w.mem.heap b ∧ ¬ w'.mem.Holds b)
    (hmanagers : ∀ i, ∀ m ∈ w'.sounds.managers,
      (m ∈ w.sounds.managers ∧ w'.sounds.adapters m = w.sounds.adapters m ∧
        (w'.sounds.pool m).size = (w.sounds.pool m).size) ∨
      (w.saveStates i).managerState m = none) :
    RollbackInv E (⟨w, op, o, w'⟩ :: log) w' := by
  refine ⟨h.owned.of_sameSlots hslots hwf hblocks, fun j => ?_, fun j w₁ hj => ?_⟩
  · rw [hslots, hsaved]
    exact h.used j
  · rw [hsaved] at hj
    rw [hslots]
    exact (h.snapshot j w₁ hj).of_same (fun b hb => (hblocks j b hb).1) (hmanagers j)

/-! ## What one operation preserves -/

section Step

variable (hE : E.Lawful) {w₀ w w' : World U B} {i : SlotIndex}

/-- The slot after a save into it. -/
lemma snapshot_saveSlot (h : Owned w) (hunused : (w.saveStates i).used = false) :
    Snapshot E w (w.saveSlot E i) ((w.saveSlot E i).saveStates i) := by
  obtain ⟨hkeys, hnone⟩ := h.unused i hunused
  rw [saveSlot_eq w hkeys]
  simp only [Function.update_self]
  exact
    { wellFormed := h.wellFormed
      keys := rfl
      blocks := fun b _ => by rw [savedMem, Mem.zero_heap]
      global := rfl
      pools := fun m => by simp [Sounds.saveTo, hnone m]
      current := fun a ha => by simp [Sounds.saveTo, ha]
      survivors := fun m _ _ => ⟨rfl, rfl⟩ }

include hE

/-- A save keeps what the other slots have. -/
lemma sameContent_saveSlot (h : Owned w) (hunused : (w.saveStates i).used = false)
    {j : SlotIndex} (hj : j ≠ i) : SameContent j w (w.saveSlot E i) := by
  rw [saveSlot_eq w (h.unused i hunused).1]
  refine ⟨Function.update_of_ne hj .., fun b hb => ?_⟩
  obtain ⟨hheap, hfree⟩ := h.apart j b hb
  exact savedMem_heap hE h.wellFormed hheap hfree

lemma owned_saveSlot (h : Owned w) (hunused : (w.saveStates i).used = false) :
    Owned (w.saveSlot E i) := by
  have hsnap := snapshot_saveSlot (E := E) h hunused
  have hrec := hE.record_wellFormed h.wellFormed
  have hmem : (w.saveSlot E i).mem = savedMem E w.mem := by
    rw [saveSlot_eq w (h.unused i hunused).1]
  have hnot : ∀ j ≠ i, ∀ b, ((w.saveSlot E i).saveStates j).Owns b →
      ¬ (E.recordAll w.mem).Holds b ∧ (w.saveSlot E i).mem.heap b ≠ none ∧
        (w.saveStates j).Owns b := by
    intro j hj b hb
    obtain ⟨hslot, hheap⟩ := sameContent_saveSlot hE h hunused hj
    rw [hslot] at hb
    obtain ⟨halloc, hfree⟩ := h.apart j b hb
    exact ⟨(hE.record_frame h.wellFormed b halloc hfree).2, by rwa [hheap b hb], hb⟩
  refine ⟨hmem ▸ savedMem_wellFormed hE h.wellFormed, fun j hj => ?_, fun j b hb => ?_,
    fun j k b hj hk => ?_⟩
  · by_cases hji : j = i
    · subst hji
      rw [saveSlot_eq w (h.unused j hunused).1] at hj
      simp [Sounds.saveTo] at hj
    · rw [(sameContent_saveSlot hE h hunused hji).1] at hj ⊢
      exact h.unused j hj
  · refine ⟨?_, hmem ▸ savedMem_not_holds hE h.wellFormed b⟩
    by_cases hji : j = i
    · subst hji
      rw [hsnap.blocks b hb]
      exact hrec.allocated b ((hsnap.owns_iff hE).1 hb)
    · exact (hnot j hji b hb).2.1
  · by_cases hji : j = i <;> by_cases hki : k = i
    · exact hji.trans hki.symm
    · subst hji
      exact absurd ((hsnap.owns_iff hE).1 hj) (hnot k hki b hk).1
    · subst hki
      exact absurd ((hsnap.owns_iff hE).1 hk) (hnot j hji b hj).1
    · exact h.separate j k b (hnot j hji b hj).2.2 (hnot k hki b hk).2.2

/-- A load of a snapshot: the slots and all blocks stay, and so do the managers. -/
lemma exists_loadSlot (h : Owned w) (hsnap : Snapshot E w₀ w (w.saveStates i)) :
    ∃ w', w.loadSlot E i = some w' ∧ LoadedFrom w₀ w w' ∧ w'.saveStates = w.saveStates ∧
      w'.mem.heap = w.mem.heap ∧ w'.mem.WellFormed ∧
      (∀ b, w'.mem.Holds b → w.mem.Holds b) ∧
      (w'.sounds.adapters = w.sounds.adapters ∧
        ∀ m, (w'.sounds.pool m).size = (w.sounds.pool m).size) := by
  have hclear : w.sounds.clearQueuedStops.managers = w.sounds.managers ∧
      w.sounds.clearQueuedStops.adapters = w.sounds.adapters ∧
      w.sounds.clearQueuedStops.pool = w.sounds.pool := by
    unfold Sounds.clearQueuedStops
    split <;> exact ⟨rfl, rfl, rfl⟩
  have hrec := hE.record_wellFormed hsnap.wellFormed
  obtain ⟨sounds, hcopied, hload⟩ := loadSlot_eq (E := E) w hsnap.fits
  have hcopied' := hcopied
  obtain ⟨hmanagers, hadapters, -, -, hsize, -, hpool, hcurrent⟩ := hcopied'
  rw [hclear.1] at hmanagers hpool
  rw [hclear.2.1] at hadapters
  rw [hclear.2.2] at hsize hpool
  refine ⟨_, hload, ?_, rfl, loadedMem_heap hE _, ?_, fun b hb => ?_, hadapters, hsize⟩
  · refine ⟨?_, hsnap.global, hmanagers, fun m hm₀ hm => ⟨?_, fun a ha => ?_⟩, fun m hm₀ hm => ?_⟩
    · simp only [hsnap.keys]
      exact loadedMem_units hE hsnap.wellFormed fun b hb =>
        hsnap.blocks b ((hsnap.owns_iff hE).2 hb)
    · rw [hadapters]
      exact (hsnap.survivors m hm₀ hm).1
    · have hadapter : w.sounds.clearQueuedStops.IsAdapter a := by
        rw [Sounds.IsAdapter, hclear.1, hclear.2.1]
        exact ⟨m, hm, by rwa [(hsnap.survivors m hm₀ hm).1]⟩
      rw [hcurrent a, if_pos hadapter]
      exact hsnap.current a ⟨m, hm₀, ha⟩
    · refine hpool m hm _ ?_ (hsnap.survivors m hm₀ hm).2.symm
      rw [hsnap.pools m, if_pos hm₀]
  · simp only [hsnap.keys]
    exact loadedMem_wellFormed hE h.wellFormed hrec
  · simp only [hsnap.keys] at hb
    exact hb.of_subset (loadedMem_keys_subset hE hrec)

/-- A free of a snapshot: the live state and the other slots stay. -/
lemma exists_freeSlot (h : Owned w) (hsnap : Snapshot E w₀ w (w.saveStates i)) :
    ∃ w', w.freeSlot E i = some w' ∧ SameLive w w' ∧
      w'.saveStates = Function.update w.saveStates i (w.saveStates i).cleared ∧
      (∀ j ≠ i, SameContent j w w') ∧ Owned w' := by
  have hrec := hE.record_wellFormed hsnap.wellFormed
  have hapart : ∀ b, (E.recordAll w₀.mem).Holds b → w.mem.heap b ≠ none ∧ ¬ w.mem.Holds b :=
    fun b hb => h.apart i b ((hsnap.owns_iff hE).2 hb)
  have hsame : ∀ j ≠ i, ∀ b, (w.saveStates j).Owns b →
      (freedMem E w.mem (E.recordAll w₀.mem).trackedPairs).heap b = w.mem.heap b := by
    intro j hj b hb
    have hvictim : ¬ (E.recordAll w₀.mem).Holds b := fun hv =>
      hj (h.separate j i b hb ((hsnap.owns_iff hE).2 hv))
    obtain ⟨hheap, hfree⟩ := h.apart j b hb
    rw [freedMem_heap hE hvictim, (hE.record_frame h.wellFormed b hheap hfree).1]
  have hfree := freeSlot_eq (E := E) w hsnap.fits
  rw [hsnap.keys] at hfree
  refine ⟨_, hfree, ⟨freedMem_units hE h.wellFormed hapart, rfl, rfl⟩, rfl,
    fun j hj => ⟨Function.update_of_ne hj .., hsame j hj⟩, ?_⟩
  have hslot : ∀ j b, (Function.update w.saveStates i (w.saveStates i).cleared j).Owns b →
      j ≠ i ∧ (w.saveStates j).Owns b := by
    intro j b hb
    by_cases hj : j = i
    · subst hj
      rw [Function.update_self] at hb
      obtain ⟨p, hp, -⟩ := hb
      simp [SaveState.cleared] at hp
    · rw [Function.update_of_ne hj] at hb
      exact ⟨hj, hb⟩
  refine ⟨freedMem_wellFormed hE h.wellFormed hrec hapart, fun j hj => ?_, fun j b hb => ?_,
    fun j k b hj hk => h.separate j k b (hslot j b hj).2 (hslot k b hk).2⟩
  · by_cases hji : j = i
    · subst hji
      simp [SaveState.cleared]
    · simp only [Function.update_of_ne hji] at hj ⊢
      exact h.unused j hj
  · obtain ⟨hji, hown⟩ := hslot j b hb
    obtain ⟨hheap, hlive⟩ := h.apart j b hown
    simp only [hsame j hji b hown]
    exact ⟨hheap, freedMem_not_holds hE h.wellFormed hrec hheap hlive⟩

/-- **The step lemma.**  Every operation and every run of the engine keeps the blocks apart
and the slots as they were saved. -/
lemma rollbackInv_of_steps {log : RollbackLog U B} {op : Op} {o : Unit}
    (h : RollbackInv E log w) (hstep : w.Steps E op w') :
    RollbackInv E (⟨w, op, o, w'⟩ :: log) w' := by
  cases op with
  | save i =>
    obtain ⟨hunused, rfl⟩ := hstep
    refine ⟨owned_saveSlot hE h.owned hunused, fun j => ?_, fun j w₀ hj => ?_⟩
    · by_cases hij : i = j
      · subst hij
        simp [savedAt, saveSlot_eq w (h.owned.unused i hunused).1, Sounds.saveTo]
      · rw [(sameContent_saveSlot hE h.owned hunused (Ne.symm hij)).1, h.used j]
        simp [savedAt, hij]
    · by_cases hij : i = j
      · subst hij
        obtain rfl : w = w₀ := by simpa [savedAt] using hj
        exact snapshot_saveSlot h.owned hunused
      · obtain ⟨hslot, hblocks⟩ := sameContent_saveSlot hE h.owned hunused (Ne.symm hij)
        rw [hslot]
        refine (h.snapshot j w₀ (by simpa [savedAt, hij] using hj)).of_same hblocks ?_
        rw [saveSlot_eq w (h.owned.unused i hunused).1]
        exact fun m hm => Or.inl ⟨hm, rfl, rfl⟩
  | load i =>
    obtain ⟨hused, hload⟩ := hstep
    obtain ⟨w₀, hw₀⟩ := Option.isSome_iff_exists.1 ((h.used i).symm.trans hused)
    obtain ⟨w₁, hw₁, hloaded, hslots, hheap, hwf, hholds, hadapters, hsize⟩ :=
      exists_loadSlot hE h.owned (h.snapshot i w₀ hw₀)
    obtain rfl := Option.some.inj (hload.symm.trans hw₁)
    refine h.of_sameSlots (fun _ => rfl) hslots hwf (fun j b hb => ?_) fun j m hm => Or.inl ?_
    · exact ⟨by rw [hheap], mt (hholds b) (h.owned.apart j b hb).2⟩
    · exact ⟨hloaded.managers ▸ hm, by rw [hadapters], hsize m⟩
  | free i =>
    obtain ⟨hused, hfree⟩ := hstep
    obtain ⟨w₀, hw₀⟩ := Option.isSome_iff_exists.1 ((h.used i).symm.trans hused)
    obtain ⟨w₁, hw₁, hlive, hslots, hsame, howned⟩ :=
      exists_freeSlot hE h.owned (h.snapshot i w₀ hw₀)
    obtain rfl := Option.some.inj (hfree.symm.trans hw₁)
    refine ⟨howned, fun j => ?_, fun j w₁ hj => ?_⟩
    · by_cases hij : i = j
      · subst hij
        simp [savedAt, hslots, SaveState.cleared]
      · rw [(hsame j (Ne.symm hij)).1, h.used j]
        simp [savedAt, hij]
    · have hij : i ≠ j := by
        rintro rfl
        simp [savedAt] at hj
      obtain ⟨hslot, hblocks⟩ := hsame j (Ne.symm hij)
      rw [hslot]
      refine (h.snapshot j w₁ (by simpa [savedAt, hij] using hj)).of_same hblocks fun m hm => ?_
      rw [hlive.sounds] at hm ⊢
      exact Or.inl ⟨hm, rfl, rfl⟩
  | run =>
    refine h.of_sameSlots (fun _ => rfl) hstep.saveStates hstep.wellFormed (fun j b hb => ?_)
      fun j m hm => ?_
    · obtain ⟨halloc, hfree⟩ := h.owned.apart j b hb
      exact hstep.frame b halloc hfree
    · -- a manager that is new to the sounds has no state in any slot
      rcases hstep.managers m hm with hold | hnew
      · exact Or.inl hold
      · exact Or.inr (hnew j)

/-- The invariant holds after every run. -/
lemma rollbackInv_of_run {log : RollbackLog U B} (h : (rollbackLTS E).Run log w) :
    RollbackInv E log w := by
  refine h.invariant_of_step (RollbackInv E) (fun w hw => ?_) fun log e hinv hstep =>
    rollbackInv_of_steps hE hinv hstep
  obtain ⟨hwf, hslots⟩ := hw
  have hnot : ∀ i b, ¬ (w.saveStates i).Owns b := by
    rintro i b ⟨p, hp, -⟩
    simp [hslots i] at hp
  refine ⟨⟨hwf, fun i _ => ?_, fun i b hb => absurd hb (hnot i b),
    fun i j b hb => absurd hb (hnot i b)⟩, fun i => ?_, fun i w₀ hi => ?_⟩
  · simp [hslots i]
  · simp [hslots i, savedAt]
  · simp [savedAt] at hi

end Step

/-- A battle with one unit and one sound manager. -/
def oneUnitWorld : World UInt32 UInt32 where
  mem := { units := 5, keys := fun _ => {}, heap := fun _ => none, trackedKeys := [] }
  global := {}
  sounds :=
    { managers := [0x100]
      adapters := fun _ => [0x200]
      pool := fun _ => { inactive := [⟨0, 0, 0x200⟩] }
      adapterToCurrentSound := fun _ => {}
      queuedStops := fun _ => []
      bUsePureSounds := true }
  saveStates := fun _ => {}

end Rollback
end Sf4e
