/-
# Memento keys and the engine's memory

The engine keeps what it records of a unit in blocks of its heap, and a memento key at some
address points to the blocks of one unit.  A rollback slot takes the keys away from these
addresses and puts them back later, so that the same blocks are reached once from the live
keys and once from a slot.

The engine itself is not part of the repository.  Its three operations on mementos are a
parameter (`Engine`), and `Engine.Lawful` says what the repository relies on: recording and
restoring reproduce the units, restoring reads the keys only, clearing frees the blocks of
one key, and recording leaves every block alone that no live key holds.
-/
import Mathlib.Logic.Function.Basic
import Mathlib.Data.List.Basic

namespace Sf4e
namespace Rollback

/-- An address. -/
abbrev Addr := UInt32

/-- `GameMementoKey`. -/
structure GameMementoKey where
  mementoableObject : Addr := 0
  metadata : Addr := 0
  numMementos : Int32 := 0
  mementos : Addr := 0
  sizeAllocated : Int32 := 0
  nextMementoIndex : Int32 := 0
deriving DecidableEq

/-- The blocks a key points to. -/
def GameMementoKey.blocks (k : GameMementoKey) : List Addr :=
  [k.metadata, k.mementos].filter (· ≠ 0)

@[simp] lemma GameMementoKey.blocks_zero : ({} : GameMementoKey).blocks = [] := rfl

/-- The engine's memory: the state of the units, the memento keys by their addresses, the
heap blocks, and the addresses of the keys that the detours track (`fKey::trackedKeys`). -/
structure Mem (U B : Type) where
  units : U
  keys : Addr → GameMementoKey
  heap : Addr → Option B
  trackedKeys : List Addr

variable {U B : Type}

namespace Mem

/-! ## Writing keys -/

/-- One assignment `*address = key`. -/
def setKey (m : Mem U B) (a : Addr) (k : GameMementoKey) : Mem U B :=
  { m with keys := Function.update m.keys a k }

/-- The loop `*iter->first = iter->second`. -/
def install (m : Mem U B) (ks : List (Addr × GameMementoKey)) : Mem U B :=
  ks.foldl (fun m p => m.setKey p.1 p.2) m

/-- The loop that zeroes keys. -/
def zero (m : Mem U B) (as : List Addr) : Mem U B := m.install (as.map fun a => (a, {}))

/-- The pairs `(*iter, **iter)` of the tracked keys. -/
def trackedPairs (m : Mem U B) : List (Addr × GameMementoKey) :=
  m.trackedKeys.map fun a => (a, m.keys a)

@[simp] lemma setKey_keys_self (m : Mem U B) (a : Addr) (k : GameMementoKey) :
    (m.setKey a k).keys a = k := Function.update_self ..

lemma setKey_keys_of_ne {m : Mem U B} {a a' : Addr} {k : GameMementoKey} (h : a' ≠ a) :
    (m.setKey a k).keys a' = m.keys a' := Function.update_of_ne h ..

@[simp] lemma install_nil (m : Mem U B) : m.install [] = m := rfl

@[simp] lemma install_cons (m : Mem U B) (p : Addr × GameMementoKey)
    (ks : List (Addr × GameMementoKey)) :
    m.install (p :: ks) = (m.setKey p.1 p.2).install ks := rfl

@[simp] lemma install_units (m : Mem U B) (ks : List (Addr × GameMementoKey)) :
    (m.install ks).units = m.units := by
  induction ks generalizing m with
  | nil => rfl
  | cons p ks ih => simp [ih, setKey]

@[simp] lemma install_heap (m : Mem U B) (ks : List (Addr × GameMementoKey)) :
    (m.install ks).heap = m.heap := by
  induction ks generalizing m with
  | nil => rfl
  | cons p ks ih => simp [ih, setKey]

@[simp] lemma install_trackedKeys (m : Mem U B) (ks : List (Addr × GameMementoKey)) :
    (m.install ks).trackedKeys = m.trackedKeys := by
  induction ks generalizing m with
  | nil => rfl
  | cons p ks ih => simp [ih, setKey]

@[simp] lemma zero_units (m : Mem U B) (as : List Addr) : (m.zero as).units = m.units := by
  simp [zero]

@[simp] lemma zero_heap (m : Mem U B) (as : List Addr) : (m.zero as).heap = m.heap := by
  simp [zero]

@[simp] lemma zero_trackedKeys (m : Mem U B) (as : List Addr) :
    (m.zero as).trackedKeys = m.trackedKeys := by
  simp [zero]

/-- The key at an address after an installation, when all pairs for this address agree. -/
lemma install_keys_eq {m : Mem U B} {ks : List (Addr × GameMementoKey)} {a : Addr}
    {k : GameMementoKey} (hks : ∀ p ∈ ks, p.1 = a → p.2 = k)
    (h : m.keys a = k ∨ ∃ p ∈ ks, p.1 = a) : (m.install ks).keys a = k := by
  induction ks generalizing m with
  | nil => simpa using h
  | cons p ks ih =>
    rw [install_cons]
    refine ih (fun q hq => hks q (List.mem_cons_of_mem _ hq)) ?_
    by_cases hp : p.1 = a
    · left
      rw [← hp, setKey_keys_self, hks p List.mem_cons_self hp]
    · rcases h with h | ⟨q, hq, hqa⟩
      · left
        rwa [setKey_keys_of_ne (Ne.symm hp)]
      · right
        rcases List.mem_cons.1 hq with rfl | hq
        · exact absurd hqa hp
        · exact ⟨q, hq, hqa⟩

lemma install_keys_of_not_mem {m : Mem U B} {ks : List (Addr × GameMementoKey)} {a : Addr}
    (h : a ∉ ks.map Prod.fst) : (m.install ks).keys a = m.keys a :=
  install_keys_eq (fun p hp hpa => absurd (List.mem_map.2 ⟨p, hp, hpa⟩) h) (Or.inl rfl)

lemma zero_keys_of_mem {m : Mem U B} {as : List Addr} {a : Addr} (h : a ∈ as) :
    (m.zero as).keys a = {} := by
  refine install_keys_eq (fun p hp _ => ?_) (Or.inr ⟨(a, {}), List.mem_map.2 ⟨a, h, rfl⟩, rfl⟩)
  obtain ⟨_, _, rfl⟩ := List.mem_map.1 hp
  rfl

lemma zero_keys_of_not_mem {m : Mem U B} {as : List Addr} {a : Addr} (h : a ∉ as) :
    (m.zero as).keys a = m.keys a := by
  refine install_keys_of_not_mem fun hmem => h ?_
  simpa using hmem

/-- Zeroing empties a key or leaves it. -/
lemma zero_keys_cases (m : Mem U B) (as : List Addr) (a : Addr) :
    (m.zero as).keys a = {} ∨ (m.zero as).keys a = m.keys a := by
  by_cases h : a ∈ as
  · exact Or.inl (zero_keys_of_mem h)
  · exact Or.inr (zero_keys_of_not_mem h)

/-- Installed pairs that were read off a memory give its keys back. -/
lemma install_map_keys_of_mem {m : Mem U B} {as : List Addr} {f : Addr → GameMementoKey}
    {a : Addr} (h : a ∈ as) : (m.install (as.map fun a => (a, f a))).keys a = f a := by
  refine install_keys_eq (fun p hp hpa => ?_)
    (Or.inr ⟨(a, f a), List.mem_map.2 ⟨a, h, rfl⟩, rfl⟩)
  obtain ⟨a', _, rfl⟩ := List.mem_map.1 hp
  rw [show a' = a from hpa]

/-! ## Blocks -/

/-- A live key points to the block. -/
def Holds (m : Mem U B) (b : Addr) : Prop := ∃ a, b ∈ (m.keys a).blocks

/-- The live keys are in order: their blocks are allocated and no two of them share one, and
every key that has blocks is tracked.  No key is at the null address. -/
structure WellFormed (m : Mem U B) : Prop where
  /-- The blocks are there. -/
  allocated : ∀ b, m.Holds b → m.heap b ≠ none
  /-- Keys do not share blocks. -/
  separate : ∀ a a' b, b ∈ (m.keys a).blocks → b ∈ (m.keys a').blocks → a = a'
  /-- Keys with blocks are tracked. -/
  tracked : ∀ a b, b ∈ (m.keys a).blocks → a ∈ m.trackedKeys
  /-- Tracked keys have an address. -/
  nonnull : (0 : Addr) ∉ m.trackedKeys

/-- What happens in between leaves every block alone that is allocated and not held by a live
key, and no live key comes to hold it. -/
def Frame (m m' : Mem U B) : Prop :=
  ∀ b, m.heap b ≠ none → ¬ m.Holds b → m'.heap b = m.heap b ∧ ¬ m'.Holds b

lemma Frame.trans {m m' m'' : Mem U B} (h : Frame m m') (h' : Frame m' m'') : Frame m m'' := by
  intro b hb hnot
  obtain ⟨heq, hnot'⟩ := h b hb hnot
  obtain ⟨heq', hnot''⟩ := h' b (by rwa [heq]) hnot'
  exact ⟨heq'.trans heq, hnot''⟩

end Mem

/-! ## The engine -/

/-- The engine's operations on the mementos with the rollback id. -/
structure Engine (U B : Type) where
  /-- `RecordAllToInternalMementos`. -/
  recordAll : Mem U B → Mem U B
  /-- `RestoreAllFromInternalMementos`. -/
  restoreAll : Mem U B → Mem U B
  /-- `GameMementoKey::ClearKey`, the original method, on the key at an address. -/
  clearKey : Addr → Mem U B → Mem U B

/-- What is relied on of the engine. -/
structure Engine.Lawful (E : Engine U B) : Prop where
  /-- Recording keeps the live keys in order. -/
  record_wellFormed : ∀ {m : Mem U B}, m.WellFormed → (E.recordAll m).WellFormed
  /-- Recording touches blocks that the live keys hold, and new ones. -/
  record_frame : ∀ {m : Mem U B}, m.WellFormed → m.Frame (E.recordAll m)
  /-- Recording does not change the units. -/
  record_units : ∀ m : Mem U B, (E.recordAll m).units = m.units
  /-- Restoring from the keys of a recording, with their blocks as recorded, reproduces the
  units, whatever else has happened to the memory. -/
  restore_record : ∀ {m m' : Mem U B}, m.WellFormed →
    (∀ a ∈ (E.recordAll m).trackedKeys, m'.keys a = (E.recordAll m).keys a ∧
      ∀ b ∈ ((E.recordAll m).keys a).blocks, m'.heap b = (E.recordAll m).heap b) →
    (E.restoreAll m').units = m.units
  /-- Restoring only reads the keys. -/
  restore_keys : ∀ m : Mem U B, (E.restoreAll m).keys = m.keys
  /-- Restoring only reads the blocks. -/
  restore_heap : ∀ m : Mem U B, (E.restoreAll m).heap = m.heap
  /-- Restoring tracks no keys. -/
  restore_trackedKeys : ∀ m : Mem U B, (E.restoreAll m).trackedKeys = m.trackedKeys
  /-- Clearing a key leaves the other keys. -/
  clear_keys : ∀ {m : Mem U B} {a a' : Addr}, a' ≠ a → (E.clearKey a m).keys a' = m.keys a'
  /-- Clearing a key frees its own blocks. -/
  clear_heap : ∀ {m : Mem U B} {a b : Addr}, b ∉ (m.keys a).blocks →
    (E.clearKey a m).heap b = m.heap b
  /-- The original method does not know of the tracking. -/
  clear_trackedKeys : ∀ (m : Mem U B) (a : Addr), (E.clearKey a m).trackedKeys = m.trackedKeys

/-! ## An engine of one unit

The assumptions can be met: a unit is a number, its key is at the address 1, and its memento
is one block of a small heap.  When the heap is full the number is kept in the key. -/

namespace OneUnit

/-- The addresses that blocks may have. -/
def arena : List Addr := [0x10, 0x20, 0x30, 0x40, 0x50, 0x60, 0x70, 0x80, 0x90, 0xa0, 0xb0]

/-- The block that a recording writes to: the one there is, or a new one. -/
def blockFor (m : Mem UInt32 UInt32) : Addr :=
  if (m.keys 1).mementos ≠ 0 then (m.keys 1).mementos
  else (arena.find? fun b => m.heap b = none).getD 0

/-- The engine of one unit. -/
def engine : Engine UInt32 UInt32 where
  recordAll m :=
    { m with
      keys := Function.update m.keys 1
        { m.keys 1 with mementoableObject := m.units, mementos := blockFor m }
      heap := if blockFor m = 0 then m.heap else Function.update m.heap (blockFor m) m.units
      trackedKeys := m.trackedKeys.insert 1 }
  restoreAll m :=
    let k := m.keys 1
    { m with units := if k.mementos = 0 then k.mementoableObject else (m.heap k.mementos).getD 0 }
  clearKey a m :=
    { m with
      keys := Function.update m.keys a {}
      heap := fun b => if b ∈ (m.keys a).blocks then none else m.heap b }

variable {m : Mem UInt32 UInt32}

/-- The block of a recording is new unless the key has it already. -/
lemma blockFor_cases (h : blockFor m ≠ 0) :
    blockFor m ∈ (m.keys 1).blocks ∨ m.heap (blockFor m) = none := by
  unfold blockFor at h ⊢
  split at h
  · rename_i hk
    rw [if_pos hk]
    left
    simpa [GameMementoKey.blocks] using hk
  · rename_i hk
    rw [if_neg hk]
    right
    cases hfind : arena.find? fun b => m.heap b = none with
    | none => simp [hfind] at h
    | some b => simpa using List.find?_some hfind

/-- The keys hold after a recording what they held, and the block recorded to. -/
lemma mem_blocks_recordAll {a b : Addr} (h : b ∈ ((engine.recordAll m).keys a).blocks) :
    b ∈ (m.keys a).blocks ∨ (a = 1 ∧ b = blockFor m ∧ blockFor m ≠ 0) := by
  by_cases ha : a = 1
  · subst ha
    simp only [engine, Function.update_self, GameMementoKey.blocks, List.mem_filter,
      List.mem_cons, List.not_mem_nil, or_false, decide_eq_true_eq] at h
    rcases h with ⟨h | h, hb⟩
    · exact Or.inl (List.mem_filter.2 ⟨by simp [h], by simpa using hb⟩)
    · exact Or.inr ⟨rfl, h, h ▸ hb⟩
  · left
    simpa [engine, Function.update_of_ne ha] using h

lemma recordAll_heap_of_ne {b : Addr} (h : b ≠ blockFor m) :
    (engine.recordAll m).heap b = m.heap b := by
  simp only [engine]
  split
  · rfl
  · exact Function.update_of_ne h ..

lemma recordAll_heap_self (h : blockFor m ≠ 0) :
    (engine.recordAll m).heap (blockFor m) = some m.units := by
  simp [engine, h]

/-- A block of another key is not recorded to. -/
lemma ne_blockFor {b : Addr} (hb : m.heap b ≠ none)
    (hother : b ∉ (m.keys 1).blocks) (h : blockFor m ≠ 0) : b ≠ blockFor m := by
  rintro rfl
  rcases blockFor_cases h with hmem | hnone
  · exact hother hmem
  · exact hb hnone

lemma wellFormed_recordAll (hm : m.WellFormed) : (engine.recordAll m).WellFormed := by
  refine ⟨fun b ⟨a, ha⟩ => ?_, fun a a' b ha ha' => ?_, fun a b ha => ?_, fun h => ?_⟩
  · by_cases hb : b = blockFor m ∧ blockFor m ≠ 0
    · rw [hb.1, recordAll_heap_self hb.2]
      simp
    · have hold := (mem_blocks_recordAll ha).resolve_right fun h => hb h.2
      have hne : b ≠ 0 := by
        have := List.mem_filter.1 hold
        simpa using this.2
      rw [recordAll_heap_of_ne fun h => hb ⟨h, h ▸ hne⟩]
      exact hm.allocated b ⟨a, hold⟩
  · have key : ∀ c, b ∈ (m.keys c).blocks → b = blockFor m → blockFor m ≠ 0 → c = 1 := by
      intro c hc hb hne
      by_contra hc1
      refine ne_blockFor (hm.allocated b ⟨c, hc⟩) (fun h1 => hc1 ?_) hne hb
      exact hm.separate c 1 b hc h1
    rcases mem_blocks_recordAll ha with h | ⟨rfl, hb, hne⟩
    · rcases mem_blocks_recordAll ha' with h' | ⟨rfl, hb, hne⟩
      · exact hm.separate a a' b h h'
      · exact key a h hb hne
    · rcases mem_blocks_recordAll ha' with h' | ⟨rfl, -, -⟩
      · exact (key a' h' hb hne).symm
      · rfl
  · rcases mem_blocks_recordAll ha with h | ⟨rfl, -⟩
    · exact List.mem_insert_of_mem (hm.tracked a b h)
    · exact List.mem_insert_self
  · rcases List.mem_insert_iff.1 h with h | h
    · exact absurd h (by decide)
    · exact hm.nonnull h

lemma frame_recordAll : m.Frame (engine.recordAll m) := by
  intro b hb hfree
  have hne : blockFor m ≠ 0 → b ≠ blockFor m := ne_blockFor hb fun h => hfree ⟨1, h⟩
  constructor
  · by_cases h0 : blockFor m = 0
    · simp [engine, h0]
    · exact recordAll_heap_of_ne (hne h0)
  · rintro ⟨a, ha⟩
    rcases mem_blocks_recordAll ha with h | ⟨-, hb, h0⟩
    · exact hfree ⟨a, h⟩
    · exact hne h0 hb

lemma lawful : engine.Lawful where
  record_wellFormed := wellFormed_recordAll
  record_frame _ := frame_recordAll
  record_units _ := rfl
  restore_record {m m'} _ h := by
    obtain ⟨hkey, hblocks⟩ := h 1 List.mem_insert_self
    have hmementos : (m'.keys 1).mementos = blockFor m := by simp [hkey, engine]
    simp only [engine]
    by_cases h0 : blockFor m = 0
    · rw [hmementos, if_pos h0, hkey]
      simp [engine]
    · have hmem : blockFor m ∈ ((engine.recordAll m).keys 1).blocks := by
        simp [engine, GameMementoKey.blocks, h0]
      rw [hmementos, if_neg h0, hblocks _ hmem, recordAll_heap_self h0]
      rfl
  restore_keys _ := rfl
  restore_heap _ := rfl
  restore_trackedKeys _ := rfl
  clear_keys h := Function.update_of_ne h ..
  clear_heap h := if_neg h
  clear_trackedKeys _ _ := rfl

end OneUnit

end Rollback
end Sf4e
