/-
# Sound pools

A sound manager hands out its adapters from a pool, a fixed set of entries on two lists.
Loading a saved pool moves all entries to the inactive list, takes as many from there as
were active and overwrites the entries in order.  It fails, by following a null pointer,
when the pool has fewer entries than were saved; a pool of the saved size is reproduced.
-/
import Sf4e.Rollback.Memento

namespace Sf4e
namespace Rollback

/-! ## Pools -/

/-- `SoundObjectPoolEntry`, as far as it is saved. -/
structure PoolEntry where
  handle : UInt32
  field_0x4 : UInt32
  /-- The `N = 4` bytes of data: the address of an adapter. -/
  data : Addr
deriving DecidableEq

/-- `SoundObjectPool`: the entries on its two lists, in order.  A `SaveState` of a pool has
the same parts. -/
structure SoundObjectPool where
  inactive : List PoolEntry := []
  active : List PoolEntry := []
deriving DecidableEq

namespace SoundObjectPool

/-- The number of entries. -/
def size (p : SoundObjectPool) : ℕ := p.inactive.length + p.active.length

/-- Overwrite the entries from the head of a list on, in order: the entries written and the
rest of the list.  `none` means that the list ended too early. -/
def overwrite : List PoolEntry → List PoolEntry → Option (List PoolEntry × List PoolEntry)
  | entries, [] => some ([], entries)
  | [], _ :: _ => none
  | _ :: entries, s :: saved => (overwrite entries saved).map fun r => (s :: r.1, r.2)

/-- `SoundObjectPool::Load`. -/
def load (pool src : SoundObjectPool) : Option SoundObjectPool :=
  -- all active entries go to the end of the inactive list
  match overwrite (pool.inactive ++ pool.active) src.active with
  | none => none
  | some (active, inactive) =>
    match overwrite inactive src.inactive with
    | none => none
    | some (written, rest) => some { inactive := written ++ rest, active := active }

lemma overwrite_eq_some {entries saved : List PoolEntry} (h : saved.length ≤ entries.length) :
    overwrite entries saved = some (saved, entries.drop saved.length) := by
  induction saved generalizing entries with
  | nil => cases entries <;> rfl
  | cons s saved ih =>
    cases entries with
    | nil => simp at h
    | cons e entries => simp [overwrite, ih (by simpa using h)]

/-- A saved pool of the right size is reproduced. -/
lemma load_eq_self {pool src : SoundObjectPool} (h : src.size = pool.size) :
    pool.load src = some src := by
  have hlen : src.inactive.length + src.active.length =
      pool.inactive.length + pool.active.length := h
  have hdrop : ((pool.inactive ++ pool.active).drop src.active.length).length =
      src.inactive.length := by
    rw [List.length_drop, List.length_append]
    omega
  rw [load, overwrite_eq_some (by rw [List.length_append]; omega)]
  simp only
  rw [overwrite_eq_some (Nat.le_of_eq hdrop.symm), ← hdrop, List.drop_length]
  simp

/-- The default save state empties the active list. -/
lemma load_default (pool : SoundObjectPool) :
    pool.load {} = some { inactive := pool.inactive ++ pool.active } := by
  simp [load, overwrite]

/-- A saved pool fits when it is the default one or has the pool's size. -/
def Fits (src pool : SoundObjectPool) : Prop := src = {} ∨ src.size = pool.size

/-- Loading what fits succeeds and keeps the size. -/
lemma exists_load_of_fits {pool src : SoundObjectPool} (h : src.Fits pool) :
    ∃ pool', pool.load src = some pool' ∧ pool'.size = pool.size := by
  rcases h with rfl | h
  · exact ⟨_, load_default pool, by simp [size]⟩
  · exact ⟨src, load_eq_self h, h⟩

end SoundObjectPool

/-! ## Sound managers -/

/-- `DeferredSoundRequest`. -/
structure DeferredSoundRequest where
  bLive : Bool := false
  nFrame : Int32 := 0
  currentAdapterHandle : UInt32 := 0
  cueSheetHandle : UInt32 := 0
  cueIdx : UInt32 := 0
  type : UInt32 := 0
  flags : UInt32 := 0
  position : Addr := 0
deriving DecidableEq

/-- The sound side of the simulation.  A map that is read with `operator[]` is a function
whose default is the value-initialized entry. -/
@[ext]
structure Sounds where
  /-- The stub managers, the keys of `shadowManagerMap`. -/
  managers : List Addr
  /-- The addresses of a manager's adapters. -/
  adapters : Addr → List Addr
  /-- A manager's adapter pool. -/
  pool : Addr → SoundObjectPool
  /-- `adapterToCurrentSound`. -/
  adapterToCurrentSound : Addr → DeferredSoundRequest
  /-- `queuedStops`. -/
  queuedStops : Addr → List DeferredSoundRequest
  /-- `bUsePureSounds`. -/
  bUsePureSounds : Bool

end Rollback
end Sf4e
