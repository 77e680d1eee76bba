/-
# Save states

`SaveState::Save`, `Load` and `Free` as they are written, on a world that holds the engine's
memory, the battle-flow variables, the sounds and the pool of slots.  A world is changed in
the order of the source, since the three functions pass the same memento keys back and forth
between the engine and the slots.

A load of the sound pools can run off the end of a pool, so `copyIntoPlace` and everything
that uses it is partial.
-/
import Sf4e.Rollback.Sound
import Sf4e.Session.Protocol

namespace Sf4e
namespace Rollback

open SessionProtocol (FixedPoint)

/-- `GameManager`. -/
structure GameManager where
  pad : Vector UInt8 0x49c
deriving DecidableEq

/-- `SaveState::GlobalData`: the battle-flow variables and the game manager. -/
structure GlobalData where
  currentBattleFlow : UInt32 := 0
  previousBattleFlow : UInt32 := 0
  currentBattleFlowSubstate : UInt32 := 0
  previousBattleFlowSubstate : UInt32 := 0
  currentBattleFlowFrame : FixedPoint := ⟨0, 0⟩
  currentBattleFlowSubstateFrame : FixedPoint := ⟨0, 0⟩
  previousBattleFlowFrame : FixedPoint := ⟨0, 0⟩
  previousBattleFlowSubstateFrame : FixedPoint := ⟨0, 0⟩
  battleFlowSubstateCallable_aa9258 : Addr := 0
  battleFlowCallback_CallEveryFrame_aa9254 : Addr := 0
  gameManager : GameManager := ⟨.replicate _ 0⟩
deriving DecidableEq

/-- `SaveState`. -/
structure SaveState where
  used : Bool := false
  simulationFrame : ℤ := -1
  ggpoFrame : ℤ := -1
  keys : List (Addr × GameMementoKey) := []
  criPlayerState : Addr → DeferredSoundRequest := fun _ => {}
  /-- The map from managers to pools; absent managers are `none`.  That `operator[]` inserts
  the default pool it reads at an absent manager is left out: it reads the same. -/
  managerState : Addr → Option SoundObjectPool := fun _ => none
  d : GlobalData := {}

/-- `GGPO_MAX_PREDICTION_FRAMES`. -/
abbrev GGPO_MAX_PREDICTION_FRAMES : ℕ := 8

/-- `NUM_SAVE_STATES`. -/
abbrev NUM_SAVE_STATES : ℕ := GGPO_MAX_PREDICTION_FRAMES + 2

/-- A slot of the pool `saveStates`. -/
abbrev SlotIndex := Fin NUM_SAVE_STATES

/-- Everything that saving, loading and freeing touch. -/
structure World (U B : Type) where
  /-- The engine's memory. -/
  mem : Mem U B
  /-- The battle-flow variables and the game manager. -/
  global : GlobalData
  /-- The sounds. -/
  sounds : Sounds
  /-- `saveStates`. -/
  saveStates : SlotIndex → SaveState

variable {U B : Type} (E : Engine U B)

/-! ## Sounds -/

namespace Sounds

/-- Is the address one of an adapter of a manager? -/
def IsAdapter (s : Sounds) (a : Addr) : Prop := ∃ m ∈ s.managers, a ∈ s.adapters m

instance (s : Sounds) (a : Addr) : Decidable (s.IsAdapter a) :=
  inferInstanceAs (Decidable (∃ m ∈ s.managers, a ∈ s.adapters m))

/-- The sound part of `CopyIntoPlace` for the pools of some managers. -/
def loadPools (managerState : Addr → Option SoundObjectPool) :
    List Addr → (Addr → SoundObjectPool) → Option (Addr → SoundObjectPool)
  | [], pool => some pool
  | m :: managers, pool =>
    match (pool m).load ((managerState m).getD {}) with
    | none => none
    | some p => loadPools managerState managers (Function.update pool m p)

/-- The sound part of `CopyIntoPlace`. -/
def copyIntoPlace (s : Sounds) (src : SaveState) : Option Sounds :=
  match loadPools src.managerState s.managers s.pool with
  | none => none
  | some pool =>
    some { s with
      pool := pool
      adapterToCurrentSound := fun a =>
        if s.IsAdapter a then src.criPlayerState a else s.adapterToCurrentSound a }

/-- The sound part of `Save`. -/
def saveTo (s : Sounds) (dst : SaveState) : SaveState :=
  { dst with
    criPlayerState := fun a =>
      if s.IsAdapter a then s.adapterToCurrentSound a else dst.criPlayerState a
    managerState := fun m => if m ∈ s.managers then some (s.pool m) else dst.managerState m }

/-- The queued stops after a load. -/
def clearQueuedStops (s : Sounds) : Sounds :=
  if s.bUsePureSounds then { s with queuedStops := fun _ => [] } else s

end Sounds

/-! ## Save, load and free -/

namespace SaveState

/-- `SaveState::Save` into `dst`: the saved state and the world after it. -/
def save (w : World U B) (dst : SaveState) : SaveState × World U B :=
  let recorded := E.recordAll w.mem
  ({ w.sounds.saveTo { dst with used := true, keys := dst.keys ++ recorded.trackedPairs } with
      d := w.global },
    -- the live keys must not free what the saved ones hold
    { w with mem := recorded.zero recorded.trackedKeys })

/-- `CopyIntoPlace`. -/
def copyIntoPlace (w : World U B) (src : SaveState) : Option (World U B) :=
  match w.sounds.copyIntoPlace src with
  | none => none
  | some sounds =>
    some { w with
      global := src.d
      sounds := sounds
      mem := E.restoreAll (w.mem.install src.keys) }

/-- The memory after `Clear`: each key is cleared by the engine and zeroed. -/
def clearMem (m : Mem U B) (keys : List (Addr × GameMementoKey)) : Mem U B :=
  keys.foldl (fun m p => if p.1 ≠ 0 then (E.clearKey p.1 m).setKey p.1 {} else m) m

/-- The slot after `Clear`. -/
def cleared (victim : SaveState) : SaveState :=
  { used := false
    simulationFrame := -1
    ggpoFrame := -1
    keys := []
    criPlayerState := fun _ => {}
    managerState := fun _ => none
    d := { gameManager := victim.d.gameManager } }

/-- `SaveState::Free`, as far as the world around the victim is concerned. -/
def free (w : World U B) (victim : SaveState) : Option (World U B) :=
  let (tmp, w₁) := save E w {}
  match copyIntoPlace E w₁ victim with
  | none => none
  | some w₂ => copyIntoPlace E { w₂ with mem := clearMem E w₂.mem victim.keys } tmp

/-- `SaveState::Load`. -/
def load (w : World U B) (src : SaveState) : Option (World U B) :=
  let w₁ := { w with sounds := w.sounds.clearQueuedStops }
  let tmpVec := w₁.mem.trackedPairs
  match copyIntoPlace E { w₁ with mem := w₁.mem.zero w₁.mem.trackedKeys } src with
  | none => none
  | some w₂ =>
    some { w₂ with
      mem := (w₂.mem.zero ((src.keys.map Prod.fst).filter (· ≠ 0))).install tmpVec }

end SaveState

/-! ## On the pool -/

namespace World

/-- `SaveState::Save(&saveStates[i])`. -/
def saveSlot (w : World U B) (i : SlotIndex) : World U B :=
  let (s, w') := SaveState.save E w (w.saveStates i)
  { w' with saveStates := Function.update w'.saveStates i s }

/-- `SaveState::Load(&saveStates[i])`. -/
def loadSlot (w : World U B) (i : SlotIndex) : Option (World U B) :=
  SaveState.load E w (w.saveStates i)

/-- `SaveState::Free(&saveStates[i])`. -/
def freeSlot (w : World U B) (i : SlotIndex) : Option (World U B) :=
  (SaveState.free E w (w.saveStates i)).map fun w' =>
    { w' with saveStates := Function.update w'.saveStates i (w.saveStates i).cleared }

end World

/-! ## The slots after an operation -/

variable {E} {w w' : World U B} {i : SlotIndex}

lemma copyIntoPlace_saveStates {src : SaveState} (h : SaveState.copyIntoPlace E w src = some w') :
    w'.saveStates = w.saveStates := by
  unfold SaveState.copyIntoPlace at h
  split at h
  · simp at h
  · obtain rfl := Option.some.inj h
    rfl

/-- A save changes its slot only. -/
lemma saveSlot_saveStates (w : World U B) (i : SlotIndex) :
    (w.saveSlot E i).saveStates =
      Function.update w.saveStates i (SaveState.save E w (w.saveStates i)).1 := rfl

/-- A load changes no slot. -/
lemma loadSlot_saveStates (h : w.loadSlot E i = some w') : w'.saveStates = w.saveStates := by
  unfold World.loadSlot SaveState.load at h
  simp only at h
  split at h
  · simp at h
  · rename_i w₂ hcopy
    obtain rfl := Option.some.inj h
    exact (copyIntoPlace_saveStates hcopy :)

/-- A free clears its slot. -/
lemma freeSlot_saveStates (h : w.freeSlot E i = some w') :
    w'.saveStates = Function.update w.saveStates i (w.saveStates i).cleared := by
  unfold World.freeSlot at h
  obtain ⟨w₁, hfree, rfl⟩ := Option.map_eq_some_iff.1 h
  unfold SaveState.free at hfree
  simp only at hfree
  split at hfree
  · simp at hfree
  · rename_i w₂ hcopy
    have hslots : w₁.saveStates = w₂.saveStates :=
      (copyIntoPlace_saveStates hfree :)
    simp only [hslots, (copyIntoPlace_saveStates hcopy :)]
    rfl

end Rollback
end Sf4e
