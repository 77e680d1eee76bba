/-
# The books of the memento blocks

Saving, loading and freeing copy memento keys between their addresses, the slots and local
variables, and zero what has been copied.  Seen from the blocks, each copying loop together
with the zeroing that belongs to it hands blocks from one holder to another.  Here the engine
keeps a log of its accesses to blocks, and the lemmas say that every loop and every call of the
engine keeps the books balanced: the blocks that are allocated are those in the live keys and
in the copies, each in one of them.

What is assumed of the engine is less than `Engine.Lawful`, and about blocks only: recording
initialises keys again, which frees what a key holds and gives it new blocks, clearing frees
what a key holds, and restoring reads.
-/
import Mathlib.Logic.Relation
import Sf4e.Data.Ownership
import Sf4e.Rollback.Blocks

namespace Sf4e
namespace Rollback

open Ownership Relation

/-- The units of an engine that logs its accesses to blocks, newest first. -/
structure Audited (U : Type) where
  units : U
  accesses : List (Access Addr) := []

variable {U B : Type}

/-! ## What the engine does to blocks -/

namespace Mem

/-- More accesses. -/
def access (m : Mem (Audited U) B) (as : List (Access Addr)) : Mem (Audited U) B :=
  { m with units := { m.units with accesses := as ++ m.units.accesses } }

/-- The heap without some blocks. -/
def heapWithout (m : Mem U B) (bs : List Addr) (b : Addr) : Option B :=
  if b ∈ bs then none else m.heap b

/-- `GameMementoKey::Initialize` through its detour: the key at `a` frees the blocks it has,
becomes a key with new blocks, and is tracked. -/
def initializeKey (m : Mem (Audited U) B) (a : Addr) (k : GameMementoKey) (content : Addr → B) :
    Mem (Audited U) B :=
  { m.access (k.blocks.map .alloc ++ (m.keys a).blocks.map .free) with
    keys := Function.update m.keys a k
    heap := fun b => if b ∈ k.blocks then some (content b) else m.heapWithout (m.keys a).blocks b
    trackedKeys := m.trackedKeys.insert a }

/-- The blocks of a key are not allocated, apart from those that the key at `a` frees. -/
def Fresh (m : Mem U B) (a : Addr) (k : GameMementoKey) : Prop :=
  k.blocks.Nodup ∧ ∀ b ∈ k.blocks, m.heapWithout (m.keys a).blocks b = none

/-- Something the engine does while it restores. -/
inductive ReadStep : Mem (Audited U) B → Mem (Audited U) B → Prop
  | units {m : Mem (Audited U) B} (u : U) :
      ReadStep m { m with units := { m.units with units := u } }
  | read {m : Mem (Audited U) B} {b : Addr} : m.Holds b → ReadStep m (m.access [.use b])

/-- Something the engine does while it records, or runs. -/
inductive RecordStep : Mem (Audited U) B → Mem (Audited U) B → Prop
  | read {m m' : Mem (Audited U) B} : m.ReadStep m' → RecordStep m m'
  | write {m : Mem (Audited U) B} {b : Addr} (x : B) : m.Holds b →
      RecordStep m { m.access [.use b] with heap := Function.update m.heap b x }
  | initializeKey {m : Mem (Audited U) B} {a : Addr} {k : GameMementoKey} (content : Addr → B) :
      a ≠ 0 → m.Fresh a k → RecordStep m (m.initializeKey a k content)

/-- The engine has cleared the key at an address: the blocks of the key are freed, and the key
may be left with anything in it.  This is the original method, which the detour calls under
the same name, so the key stays tracked. -/
inductive Clears (m : Mem (Audited U) B) (a : Addr) : Mem (Audited U) B → Prop
  | clear (k : GameMementoKey) :
      Clears m a { m.access ((m.keys a).blocks.map .free) with
        keys := Function.update m.keys a k
        heap := m.heapWithout (m.keys a).blocks }

end Mem

/-- What is relied on of the engine with regard to blocks. -/
structure Engine.Reinitialises (E : Engine (Audited U) B) : Prop where
  /-- Recording goes by initialising keys through the detour. -/
  record : ∀ m, ReflTransGen Mem.RecordStep m (E.recordAll m)
  /-- Restoring only reads. -/
  restore : ∀ m, ReflTransGen Mem.ReadStep m (E.restoreAll m)
  /-- Clearing frees what the key holds. -/
  clear : ∀ (m : Mem (Audited U) B) (a : Addr), m.Clears a (E.clearKey a m)

/-! ## The books -/

/-- Who may hold a block: the live key at an address, or the copy of the key at an address. -/
inductive Holder (ι : Type)
  | live (a : Addr)
  | copy (i : ι) (a : Addr)

variable {ι : Type}

/-- The holder has the block. -/
def Mem.HeldBy (m : Mem U B) (copies : ι → List (Addr × GameMementoKey)) :
    Holder ι → Addr → Prop
  | .live a, b => b ∈ (m.keys a).blocks
  | .copy i a, b => ∃ k, (a, k) ∈ copies i ∧ b ∈ k.blocks

/-- Lists of copied keys are in order: no address is copied twice, all have been tracked, and
no copy has the same block twice. -/
structure CopyOk (trackedKeys : List Addr) (ks : List (Addr × GameMementoKey)) : Prop where
  nodup : (ks.map Prod.fst).Nodup
  tracked : ∀ p ∈ ks, p.1 ∈ trackedKeys
  blocks : ∀ p ∈ ks, p.2.blocks.Nodup

/-- The books of the live keys and some lists of copies are balanced. -/
structure Mem.Balanced (m : Mem (Audited U) B) (copies : ι → List (Addr × GameMementoKey)) :
    Prop where
  /-- Each allocated block has one holder. -/
  accounted : Accounted (m.HeldBy copies) m.units.accesses
  /-- The heap has the allocated blocks. -/
  heap_iff : ∀ b, m.heap b ≠ none ↔ Live b m.units.accesses
  /-- Live keys with blocks are tracked. -/
  tracked : ∀ a b, b ∈ (m.keys a).blocks → a ∈ m.trackedKeys
  nodup : m.trackedKeys.Nodup
  nonnull : (0 : Addr) ∉ m.trackedKeys
  blocks : ∀ a, (m.keys a).blocks.Nodup
  copies : ∀ i, CopyOk m.trackedKeys (copies i)

/-- No live key has a block. -/
def Mem.Empty (m : Mem U B) : Prop := ∀ a, (m.keys a).blocks = []

lemma CopyOk.nil {trackedKeys : List Addr} : CopyOk trackedKeys [] :=
  ⟨List.nodup_nil, by simp, by simp⟩

/-- More keys are tracked. -/
lemma CopyOk.mono {as as' : List Addr} {ks : List (Addr × GameMementoKey)} (h : CopyOk as ks)
    (hsub : as ⊆ as') : CopyOk as' ks :=
  ⟨h.nodup, fun p hp => hsub (h.tracked p hp), h.blocks⟩

/-! ## Calls of the engine -/

namespace Mem

variable {m m' : Mem (Audited U) B} {copies : ι → List (Addr × GameMementoKey)}

lemma heldBy_live {a b : Addr} : m.HeldBy copies (.live a) b ↔ b ∈ (m.keys a).blocks := Iff.rfl

lemma heldBy_copy {i : ι} {a b : Addr} :
    m.HeldBy copies (.copy i a) b ↔ ∃ k, (a, k) ∈ copies i ∧ b ∈ k.blocks := Iff.rfl

namespace Balanced

variable (h : m.Balanced copies)

include h

/-- A live key is used. -/
lemma use {b : Addr} (hb : m.Holds b) : (m.access [.use b]).Balanced copies := by
  obtain ⟨a, ha⟩ := hb
  have hheld : m.HeldBy copies (.live a) b := ha
  exact ⟨h.accounted.use hheld, h.heap_iff, h.tracked, h.nodup, h.nonnull, h.blocks, h.copies⟩

lemma live_of_holds {b : Addr} (hb : m.Holds b) : Live b m.units.accesses := by
  obtain ⟨a, ha⟩ := hb
  exact (h.accounted.live_iff b).2 ⟨.live a, ha⟩

lemma of_readStep (hstep : m.ReadStep m') : m'.Balanced copies := by
  cases hstep with
  | units u =>
    exact ⟨h.accounted, h.heap_iff, h.tracked, h.nodup, h.nonnull, h.blocks, h.copies⟩
  | read hb => exact h.use hb

/-- The books after the key at `a` has given its blocks back. -/
lemma release (a : Addr) (k : GameMementoKey) (hk : k.blocks = []) :
    Mem.Balanced { m.access ((m.keys a).blocks.map .free) with
      keys := Function.update m.keys a k
      heap := m.heapWithout (m.keys a).blocks } copies := by
  have hsub : ∀ a' b, b ∈ (Function.update m.keys a k a').blocks →
      a' ≠ a ∧ b ∈ (m.keys a').blocks := by
    intro a' b hb
    by_cases ha : a' = a
    · subst ha
      simp [hk] at hb
    · rw [Function.update_of_ne ha] at hb
      exact ⟨ha, hb⟩
  refine ⟨?_, fun b => ?_, fun a' b hb => h.tracked a' b (hsub a' b hb).2, h.nodup, h.nonnull,
    fun a' => ?_, h.copies⟩
  · refine (h.accounted.release (h.blocks a) fun b => heldBy_live).congr fun i b => ?_
    cases i with
    | live a' =>
      constructor
      · intro hb
        obtain ⟨hne, hold⟩ := hsub a' b hb
        exact ⟨fun heq => hne (Holder.live.inj heq), hold⟩
      · rintro ⟨hne, hold⟩
        have hne' : a' ≠ a := fun heq => hne (heq ▸ rfl)
        show b ∈ (Function.update m.keys a k a').blocks
        rw [Function.update_of_ne hne']
        exact hold
    | copy i a' => simp [heldBy_copy]
  · simp only [access, heapWithout, live_frees_append, ← h.heap_iff b]
    split <;> simp_all
  · by_cases ha : a' = a
    · subst ha
      simp [hk]
    · simp only [Function.update_of_ne ha]
      exact h.blocks a'

/-- The books after the key at `a` has been initialised. -/
lemma initializeKey {a : Addr} {k : GameMementoKey} (content : Addr → B) (ha : a ≠ 0)
    (hk : m.Fresh a k) : (m.initializeKey a k content).Balanced copies := by
  obtain ⟨hnodup, hfresh⟩ := hk
  -- the new blocks are free once the old ones are given back
  have hfree : ∀ b ∈ k.blocks,
      ¬ Live b ((m.keys a).blocks.map .free ++ m.units.accesses) := by
    intro b hb hlive
    obtain ⟨hold, hlive⟩ := live_frees_append.1 hlive
    have hnone := hfresh b hb
    rw [heapWithout, if_neg hold] at hnone
    exact (h.heap_iff b).2 hlive hnone
  have hrel := h.accounted.release (h.blocks a) fun b => heldBy_live
  have haccess : (m.initializeKey a k content).units.accesses =
      k.blocks.map .alloc ++ ((m.keys a).blocks.map .free ++ m.units.accesses) := by
    simp [Mem.initializeKey, access]
  have hkeys : ∀ a', (m.initializeKey a k content).keys a' = Function.update m.keys a k a' :=
    fun _ => rfl
  have hmono : m.trackedKeys ⊆ (m.initializeKey a k content).trackedKeys := fun a' ha' =>
    List.mem_insert_of_mem ha'
  refine ⟨?_, fun b => ?_, fun a' b hb => ?_, h.nodup.insert, fun h0 => ?_, fun a' => ?_,
    fun i => (h.copies i).mono hmono⟩
  · rw [haccess]
    refine (hrel.acquire (.live a) hnodup hfree).congr fun i b => ?_
    cases i with
    | live a' =>
      rw [heldBy_live, hkeys]
      by_cases heq : a' = a
      · subst heq
        simp
      · simp [heldBy_live, heq]
    | copy i a' => simp [heldBy_copy]
  · rw [haccess, live_allocs_append, live_frees_append, ← h.heap_iff b]
    simp only [Mem.initializeKey, heapWithout]
    by_cases hb : b ∈ k.blocks
    · simp [hb]
    · by_cases hold : b ∈ (m.keys a).blocks <;> simp [hb, hold]
  · rw [hkeys] at hb
    by_cases heq : a' = a
    · subst heq
      exact List.mem_insert_self
    · rw [Function.update_of_ne heq] at hb
      exact hmono (h.tracked a' b hb)
  · rcases List.mem_insert_iff.1 h0 with h0 | h0
    · exact ha h0.symm
    · exact h.nonnull h0
  · rw [hkeys]
    by_cases heq : a' = a
    · subst heq
      simpa using hnodup
    · rw [Function.update_of_ne heq]
      exact h.blocks a'

lemma of_recordStep (hstep : m.RecordStep m') : m'.Balanced copies := by
  cases hstep with
  | read hread => exact h.of_readStep hread
  | @write b x hb =>
    have hlive := h.live_of_holds hb
    have huse := h.use hb
    refine ⟨huse.accounted, fun b' => ?_, h.tracked, h.nodup, h.nonnull, h.blocks, h.copies⟩
    rw [← huse.heap_iff b']
    by_cases heq : b' = b
    · subst heq
      simpa [access] using (h.heap_iff b').2 hlive
    · simp [Function.update_of_ne heq, access]
  | initializeKey content ha hk => exact h.initializeKey content ha hk

lemma of_reads (hreads : ReflTransGen ReadStep m m') : m'.Balanced copies := by
  induction hreads with
  | refl => exact h
  | tail _ hstep ih => exact ih.of_readStep hstep

lemma of_records (hrecords : ReflTransGen RecordStep m m') : m'.Balanced copies := by
  induction hrecords with
  | refl => exact h
  | tail _ hstep ih => exact ih.of_recordStep hstep

end Balanced

/-- Restoring leaves the keys and what is tracked. -/
lemma keys_of_reads (hreads : ReflTransGen ReadStep m m') :
    m'.keys = m.keys ∧ m'.trackedKeys = m.trackedKeys := by
  induction hreads with
  | refl => exact ⟨rfl, rfl⟩
  | tail _ hstep ih =>
    cases hstep with
    | units => exact ih
    | read => exact ih

/-! ## Copying and zeroing -/

/-- Pairs that were read off the live keys give these back. -/
lemma install_keys_of_mem {m : Mem U B} {ks : List (Addr × GameMementoKey)}
    (hnodup : (ks.map Prod.fst).Nodup) {a : Addr} {k : GameMementoKey} (hk : (a, k) ∈ ks) :
    (m.install ks).keys a = k := by
  refine install_keys_eq (fun p hp hpa => ?_) (Or.inr ⟨_, hk, rfl⟩)
  rw [List.inj_on_of_nodup_map hnodup hp hk hpa]

/-- Installing keys where there are none. -/
lemma install_blocks_of_not_mem {m : Mem U B} (hempty : m.Empty)
    {ks : List (Addr × GameMementoKey)} {a : Addr} (ha : a ∉ ks.map Prod.fst) :
    ((m.install ks).keys a).blocks = [] := by
  rw [install_keys_of_not_mem ha]
  exact hempty a

lemma zero_empty {m : Mem U B} {as : List Addr}
    (hall : ∀ a b, b ∈ (m.keys a).blocks → a ∈ as) : (m.zero as).Empty := by
  intro a
  by_cases ha : a ∈ as
  · rw [zero_keys_of_mem ha, GameMementoKey.blocks_zero]
  · rw [zero_keys_of_not_mem ha]
    exact List.eq_nil_iff_forall_not_mem.2 fun b hb => ha (hall a b hb)

namespace Balanced

variable (h : m.Balanced copies)

include h

/-- The copies of the tracked keys. -/
lemma copyOk_trackedPairs : CopyOk m.trackedKeys m.trackedPairs := by
  refine ⟨by rw [trackedPairs_map_fst]; exact h.nodup, fun p hp => ?_, fun p hp => ?_⟩
  · obtain ⟨a, ha, rfl⟩ := List.mem_map.1 hp
    exact ha
  · obtain ⟨a, _, rfl⟩ := List.mem_map.1 hp
    exact h.blocks a

/-- The copies of the tracked keys, installed where there are no keys, have all the blocks. -/
lemma install_blocks {m₀ : Mem (Audited U) B} (hempty : m₀.Empty) (a : Addr) :
    ((m₀.install m.trackedPairs).keys a).blocks = (m.keys a).blocks := by
  by_cases ha : a ∈ m.trackedKeys
  · rw [install_trackedPairs ha]
  · rw [install_blocks_of_not_mem hempty (by rwa [trackedPairs_map_fst])]
    exact (List.eq_nil_iff_forall_not_mem.2 fun b hb => ha (h.tracked a b hb)).symm

/-- One turn of `Clear`. -/
lemma clear {a : Addr} (hclear : m.Clears a m') : (m'.setKey a {}).Balanced copies := by
  cases hclear with
  | clear k =>
    have hrelease := h.release a {} rfl
    simpa [setKey] using hrelease

variable [DecidableEq ι] {i : ι}

/-- Copying the live keys to a list and zeroing them hands their blocks to the copies. -/
lemma park (ks : List (Addr × GameMementoKey)) (hi : copies i = [])
    (hks : ∀ p ∈ ks, m.keys p.1 = p.2) (hok : CopyOk m.trackedKeys ks)
    (hall : ∀ a b, b ∈ (m.keys a).blocks → a ∈ ks.map Prod.fst) :
    (m.zero (ks.map Prod.fst)).Balanced (Function.update copies i ks) := by
  have hempty : (m.zero (ks.map Prod.fst)).Empty := zero_empty hall
  have hnot : ∀ a b, ¬ (m.zero (ks.map Prod.fst)).HeldBy (Function.update copies i ks)
      (.live a) b := by
    intro a b hb
    rw [heldBy_live, hempty a] at hb
    simp at hb
  -- a block that the copy holds now was held by the live key
  let from' : Holder ι → Holder ι
    | .live a => .live a
    | .copy j a => if j = i then .live a else .copy j a
  refine ⟨?_, fun b => ?_, fun a b hb => absurd hb (hnot a b), ?_, ?_, fun a => ?_, fun j => ?_⟩
  · rw [zero_units]
    refine h.accounted.move from' (fun c b hc => ?_) (fun b c c' hc hc' heq => ?_)
      fun c b hc => ?_
    · cases c with
      | live a => exact absurd hc (hnot a b)
      | copy j a =>
        obtain ⟨k, hk, hb⟩ := hc
        by_cases hj : j = i
        · subst hj
          rw [Function.update_self] at hk
          simpa [from', heldBy_live, hks _ hk] using hb
        · rw [Function.update_of_ne hj] at hk
          simpa [from', hj] using heldBy_copy.2 ⟨k, hk, hb⟩
    · cases c with
      | live a => exact absurd hc (hnot a b)
      | copy j a =>
        cases c' with
        | live a' => exact absurd hc' (hnot a' b)
        | copy j' a' =>
          by_cases hj : j = i <;> by_cases hj' : j' = i <;> simp_all [from']
    · cases c with
      | live a =>
        obtain ⟨⟨a', k⟩, hk, ha⟩ := List.mem_map.1 (hall a b hc)
        obtain rfl : a' = a := ha
        have hkey : m.keys a' = k := hks _ hk
        refine ⟨.copy i a', heldBy_copy.2 ⟨k, by rwa [Function.update_self], ?_⟩⟩
        rw [← hkey]
        exact hc
      | copy j a =>
        have hj : j ≠ i := by
          rintro rfl
          obtain ⟨k, hk, -⟩ := hc
          simp [hi] at hk
        obtain ⟨k, hk, hb⟩ := hc
        exact ⟨.copy j a, heldBy_copy.2 ⟨k, by rwa [Function.update_of_ne hj], hb⟩⟩
  · rw [zero_heap, zero_units]
    exact h.heap_iff b
  · rw [zero_trackedKeys]
    exact h.nodup
  · rw [zero_trackedKeys]
    exact h.nonnull
  · rw [hempty a]
    exact List.nodup_nil
  · rw [zero_trackedKeys]
    by_cases hj : j = i
    · subst hj
      rwa [Function.update_self]
    · rw [Function.update_of_ne hj]
      exact h.copies j

/-- Copying and zeroing all tracked keys. -/
lemma park_tracked (hi : copies i = []) :
    (m.zero m.trackedKeys).Balanced (Function.update copies i m.trackedPairs) := by
  have hpark := h.park (i := i) m.trackedPairs hi (fun p hp => ?_) h.copyOk_trackedPairs
  · rw [trackedPairs_map_fst] at hpark
    exact hpark h.tracked
  · obtain ⟨a, _, rfl⟩ := List.mem_map.1 hp
    rfl

/-- Copies that are put in place have handed their blocks to the live keys. -/
lemma unpark (hempty : m.Empty) :
    (m.install (copies i)).Balanced (Function.update copies i []) := by
  have hok := h.copies i
  have hlive : ∀ a b, b ∈ ((m.install (copies i)).keys a).blocks →
      ∃ k, (a, k) ∈ copies i ∧ b ∈ k.blocks := by
    intro a b hb
    by_cases ha : a ∈ (copies i).map Prod.fst
    · obtain ⟨⟨a', k⟩, hk, heq⟩ := List.mem_map.1 ha
      obtain rfl : a' = a := heq
      rw [install_keys_of_mem hok.nodup hk] at hb
      exact ⟨k, hk, hb⟩
    · rw [install_blocks_of_not_mem hempty ha] at hb
      simp at hb
  have hother : ∀ j a b, (m.install (copies i)).HeldBy (Function.update copies i [])
      (.copy j a) b → j ≠ i ∧ m.HeldBy copies (.copy j a) b := by
    rintro j a b ⟨k, hk, hb⟩
    by_cases hj : j = i
    · subst hj
      simp at hk
    · rw [Function.update_of_ne hj] at hk
      exact ⟨hj, k, hk, hb⟩
  -- and the other way round
  let from' : Holder ι → Holder ι
    | .live a => .copy i a
    | .copy j a => .copy j a
  refine ⟨?_, fun b => ?_, fun a b hb => ?_, ?_, ?_, fun a => ?_, fun j => ?_⟩
  · rw [install_units]
    refine h.accounted.move from' (fun c b hc => ?_) (fun b c c' hc hc' heq => ?_)
      fun c b hc => ?_
    · cases c with
      | live a => exact hlive a b hc
      | copy j a => exact (hother j a b hc).2
    · cases c with
      | live a =>
        cases c' with
        | live a' => simpa [from'] using heq
        | copy j a' =>
          obtain ⟨rfl, -⟩ : i = j ∧ a = a' := by simpa [from'] using heq
          exact absurd rfl (hother i a' b hc').1
      | copy j a =>
        cases c' with
        | live a' =>
          obtain ⟨rfl, -⟩ : j = i ∧ a = a' := by simpa [from'] using heq
          exact absurd rfl (hother j a b hc).1
        | copy j' a' => simpa [from'] using heq
    · cases c with
      | live a =>
        rw [heldBy_live, hempty a] at hc
        simp at hc
      | copy j a =>
        obtain ⟨k, hk, hb⟩ := hc
        by_cases hj : j = i
        · subst hj
          refine ⟨.live a, heldBy_live.2 ?_⟩
          rwa [install_keys_of_mem hok.nodup hk]
        · exact ⟨.copy j a, heldBy_copy.2 ⟨k, by rwa [Function.update_of_ne hj], hb⟩⟩
  · rw [install_heap, install_units]
    exact h.heap_iff b
  · -- a live key with blocks has got them from the copy, so it is tracked
    obtain ⟨k, hk, -⟩ := hlive a b hb
    rw [install_trackedKeys]
    exact hok.tracked _ hk
  · rw [install_trackedKeys]
    exact h.nodup
  · rw [install_trackedKeys]
    exact h.nonnull
  · by_cases ha : a ∈ (copies i).map Prod.fst
    · obtain ⟨⟨a', k⟩, hk, heq⟩ := List.mem_map.1 ha
      obtain rfl : a' = a := heq
      rw [install_keys_of_mem hok.nodup hk]
      exact hok.blocks _ hk
    · rw [install_blocks_of_not_mem hempty ha]
      exact List.nodup_nil
  · rw [install_trackedKeys]
    by_cases hj : j = i
    · subst hj
      rw [Function.update_self]
      exact .nil
    · rw [Function.update_of_ne hj]
      exact h.copies j

end Balanced

end Mem

/-! ## The three functions -/

section Functions

variable {E : Engine (Audited U) B} (hE : E.Reinitialises) {m : Mem (Audited U) B}

include hE

lemma Engine.Reinitialises.clear_keys {a a' : Addr} (ha : a' ≠ a) :
    (E.clearKey a m).keys a' = m.keys a' := by
  generalize hm' : E.clearKey a m = m'
  have hclear := hm' ▸ hE.clear m a
  cases hclear with
  | clear k => exact Function.update_of_ne ha ..

lemma balanced_clearMem {copies : ι → List (Addr × GameMementoKey)} (h : m.Balanced copies)
    (ks : List (Addr × GameMementoKey)) :
    (SaveState.clearMem E m ks).Balanced copies := by
  induction ks generalizing m with
  | nil => exact h
  | cons p ks ih =>
    rw [SaveState.clearMem, List.foldl_cons]
    split
    · exact ih (h.clear (hE.clear m p.1))
    · exact ih h

/-- `Clear` leaves no blocks when all are at the victim's addresses. -/
lemma empty_clearMem {ks : List (Addr × GameMementoKey)} (hnull : (0 : Addr) ∉ ks.map Prod.fst)
    (hks : ∀ a ∉ ks.map Prod.fst, (m.keys a).blocks = []) : (SaveState.clearMem E m ks).Empty := by
  intro a
  by_cases ha : a ∈ ks.map Prod.fst
  · have hne : a ≠ 0 := by
      rintro rfl
      exact hnull ha
    rw [clearMem_keys_of_mem hE.clear_keys ha hne, GameMementoKey.blocks_zero]
  · rcases clearMem_keys_cases (E := E) hE.clear_keys (m := m) ks a with hkey | hkey
    · rw [hkey, GameMementoKey.blocks_zero]
    · rw [hkey]
      exact hks a ha

variable {κ : Type} [DecidableEq κ] {copies : Option κ → List (Addr × GameMementoKey)} {i : κ}

/-- `Save` into an empty slot. -/
lemma balanced_savedMem [DecidableEq ι] {copies : ι → List (Addr × GameMementoKey)} {i : ι}
    (h : m.Balanced copies) (hi : copies i = []) :
    (savedMem E m).Balanced (Function.update copies i (E.recordAll m).trackedPairs) :=
  (h.of_records (hE.record m)).park_tracked hi

end Functions

end Rollback
end Sf4e
