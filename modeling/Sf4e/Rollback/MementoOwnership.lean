/-
# Ownership of the memento blocks

In every run, with saves, loads and frees of any slots in any order and with recordings of the
engine between them, each memento block that is allocated is in one live key or in one copy of
a slot in use, and no block is used or freed that has been freed before.

A slot is saved to when it has no keys, which `Save` asserts; loads and frees may be of slots
that are not in use.
-/
import Sf4e.Rollback.Accounts
import Sf4e.Rollback.Transparent

namespace Sf4e
namespace Rollback

open Ownership Relation Trace

variable {U B : Type} {E : Engine (Audited U) B}

/-! ## The books after the three functions

Besides the slots there is one local variable with keys in it, `tmp` of `Free` and `tmpVec` of
`Load`.  Its copies are those at `none`. -/

section Functions

variable (hE : E.Reinitialises) {m : Mem (Audited U) B} {κ : Type} [DecidableEq κ]
  {copies : Option κ → List (Addr × GameMementoKey)} {i : κ}

/-- Writing to the local variable and emptying it again. -/
lemma update_update_none (hnone : copies none = []) (ks ks' : List (Addr × GameMementoKey)) :
    Function.update (Function.update (Function.update copies none ks) (some i) ks') none [] =
      Function.update copies (some i) ks' := by
  funext j
  cases j with
  | none => simp [hnone]
  | some j => by_cases hj : j = i <;> simp [hj]

include hE

/-- `Free` takes the copies away from its slot. -/
lemma balanced_freedMem (h : m.Balanced copies) (hnone : copies none = []) :
    (freedMem E m (copies (some i))).Balanced (Function.update copies (some i) []) ∧
      ∀ a, ((freedMem E m (copies (some i))).keys a).blocks =
        ((E.recordAll m).keys a).blocks := by
  have hrec := h.of_records (hE.record m)
  have hsaved : (savedMem E m).Balanced _ := hrec.park_tracked hnone
  have hempty : (savedMem E m).Empty := Mem.zero_empty hrec.tracked
  have hslot : Function.update copies none (E.recordAll m).trackedPairs (some i) =
      copies (some i) := by simp
  have hvictim := (hsaved.unpark (i := some i) hempty).of_reads (hE.restore _)
  have hcopies := hsaved.copies (some i)
  rw [hslot] at hvictim hcopies
  obtain ⟨hkeys, htracked⟩ := Mem.keys_of_reads (hE.restore ((savedMem E m).install
    (copies (some i))))
  have hcleared := balanced_clearMem hE hvictim (copies (some i))
  have hempty' : (SaveState.clearMem E (E.restoreAll ((savedMem E m).install
      (copies (some i)))) (copies (some i))).Empty := by
    refine empty_clearMem hE (fun h0 => ?_) fun a ha => ?_
    · obtain ⟨p, hp, h0⟩ := List.mem_map.1 h0
      exact hsaved.nonnull (h0 ▸ hcopies.tracked p hp)
    · rw [hkeys]
      exact Mem.install_blocks_of_not_mem hempty ha
  have hlive := (hcleared.unpark (i := none) hempty').of_reads (hE.restore _)
  have htmp : Function.update (Function.update copies none (E.recordAll m).trackedPairs)
      (some i) [] none = (E.recordAll m).trackedPairs := by simp
  rw [update_update_none hnone, htmp] at hlive
  refine ⟨hlive, fun a => ?_⟩
  rw [freedMem, (Mem.keys_of_reads (hE.restore _)).1]
  exact hrec.install_blocks hempty' a

/-- `Load` leaves all blocks where they are. -/
lemma balanced_loadedMem (h : m.Balanced copies) (hnone : copies none = []) :
    (loadedMem E m (copies (some i))).Balanced copies ∧
      ∀ a, ((loadedMem E m (copies (some i))).keys a).blocks = (m.keys a).blocks := by
  have htmp : (m.zero m.trackedKeys).Balanced _ := h.park_tracked hnone
  have hempty : (m.zero m.trackedKeys).Empty := Mem.zero_empty h.tracked
  have hslot : Function.update copies none m.trackedPairs (some i) = copies (some i) := by simp
  have hloaded := (htmp.unpark (i := some i) hempty).of_reads (hE.restore _)
  have hcopies := htmp.copies (some i)
  rw [hslot] at hloaded hcopies
  obtain ⟨hkeys, htracked⟩ := Mem.keys_of_reads (hE.restore ((m.zero m.trackedKeys).install
    (copies (some i))))
  -- the copies of the slot are zeroed where they have been put
  have hparked := hloaded.park (i := some i) (copies (some i)) (by simp) (fun p hp => ?_)
    ?_ fun a b hb => ?_
  · have hfilter : ((copies (some i)).map Prod.fst).filter (· ≠ 0) =
        (copies (some i)).map Prod.fst := by
      refine List.filter_eq_self.2 fun a ha => ?_
      obtain ⟨p, hp, rfl⟩ := List.mem_map.1 ha
      have hne : p.1 ≠ 0 := fun h0 => htmp.nonnull (h0 ▸ hcopies.tracked p hp)
      simpa using hne
    have hempty' : ((E.restoreAll ((m.zero m.trackedKeys).install (copies (some i)))).zero
        ((copies (some i)).map Prod.fst)).Empty := by
      refine Mem.zero_empty fun a b hb => ?_
      by_contra ha
      rw [hkeys, Mem.install_blocks_of_not_mem hempty ha] at hb
      simp at hb
    have hback := hparked.unpark (i := none) hempty'
    have htmp' : Function.update (Function.update (Function.update copies none m.trackedPairs)
        (some i) []) (some i) (copies (some i)) none = m.trackedPairs := by simp
    rw [htmp', Function.update_idem, update_update_none hnone, Function.update_eq_self] at hback
    rw [loadedMem, hfilter]
    exact ⟨hback, h.install_blocks hempty'⟩
  · rw [hkeys]
    exact Mem.install_keys_of_mem hcopies.nodup hp
  · rwa [htracked, Mem.install_trackedKeys]
  · by_contra ha
    rw [hkeys, Mem.install_blocks_of_not_mem hempty ha] at hb
    simp at hb

end Functions

/-! ## Runs -/

/-- The holder has the block.  A copy counts when its slot is in use. -/
def World.HeldBy (w : World U B) : Holder SlotIndex → Addr → Prop
  | .live a, b => b ∈ (w.mem.keys a).blocks
  | .copy i a, b => (w.saveStates i).used = true ∧ ∃ k, (a, k) ∈ (w.saveStates i).keys ∧
      b ∈ k.blocks

/-- Each allocated block has one holder, what is held is allocated, and no block has been used
or freed when it was not allocated. -/
structure MementosOwned (w : World (Audited U) B) : Prop where
  one_holder : ∀ b, Live b w.mem.units.accesses → ∃! h, w.HeldBy h b
  live_of_held : ∀ h b, w.HeldBy h b → Live b w.mem.units.accesses
  inOrder : InOrder w.mem.units.accesses
  /-- The heap is what the accesses have made of it. -/
  heap_iff : ∀ b, w.mem.heap b ≠ none ↔ Live b w.mem.units.accesses

/-- The operations on slots, and runs of the engine. -/
def World.Manages (E : Engine (Audited U) B) (w : World (Audited U) B) :
    Op → World (Audited U) B → Prop
  | .save i, w' => (w.saveStates i).keys = [] ∧ w' = w.saveSlot E i
  | .load i, w' => w.loadSlot E i = some w'
  | .free i, w' => w.freeSlot E i = some w'
  | .run, w' => w'.saveStates = w.saveStates ∧ ReflTransGen Mem.RecordStep w.mem w'.mem

variable (E) in
/-- The game starts without mementos. -/
def mementoLTS : LTS (World (Audited U) B) Op Unit where
  init w := w.mem.Empty ∧ (∀ b, w.mem.heap b = none) ∧ w.mem.trackedKeys = [] ∧
    w.mem.units.accesses = [] ∧ ∀ i, w.saveStates i = {}
  step w op _ w' := w.Manages E op w'

/-- A load leaves to each live key its blocks, and a free leaves to each live key what the
recording at its start has put there. -/
def KeepsLive (E : Engine (Audited U) B) (e : Entry (World (Audited U) B) Op Unit) : Prop :=
  match e.act with
  | .load _ => ∀ a, (e.post.mem.keys a).blocks = (e.pre.mem.keys a).blocks
  | .free _ => ∀ a, (e.post.mem.keys a).blocks = ((E.recordAll e.pre.mem).keys a).blocks
  | .save _ => True
  | .run => True

/-! ## The invariant -/

/-- The copies in the slots; the local variable is empty. -/
def World.copies (w : World U B) : Option SlotIndex → List (Addr × GameMementoKey)
  | none => []
  | some i => (w.saveStates i).keys

/-- The invariant of runs. -/
structure BooksInv (w : World (Audited U) B) : Prop where
  balanced : w.mem.Balanced w.copies
  /-- A slot that is not in use has no copies. -/
  unused : ∀ i, (w.saveStates i).used = false → (w.saveStates i).keys = []

/-- Writing to a slot. -/
lemma copies_of_update {w w' : World U B} {i : SlotIndex} {s : SaveState}
    (h : w'.saveStates = Function.update w.saveStates i s) :
    w'.copies = Function.update w.copies (some i) s.keys := by
  funext j
  cases j with
  | none => rfl
  | some j =>
    by_cases hj : j = i
    · subst hj
      simp [World.copies, h]
    · simp [World.copies, h, hj]

lemma copies_of_eq {w w' : World U B} (h : w'.saveStates = w.saveStates) :
    w'.copies = w.copies := by
  funext j
  cases j with
  | none => rfl
  | some j => rw [World.copies, World.copies, h]

lemma BooksInv.mementosOwned {w : World (Audited U) B} (h : BooksInv w) : MementosOwned w := by
  let from' : Holder SlotIndex → Holder (Option SlotIndex)
    | .live a => .live a
    | .copy i a => .copy (some i) a
  have haccounted : Accounted w.HeldBy w.mem.units.accesses := by
    refine h.balanced.accounted.move from' (fun c b hc => ?_) (fun b c c' _ _ heq => ?_)
      fun c b hc => ?_
    · cases c with
      | live a => exact hc
      | copy i a => exact hc.2
    · cases c <;> cases c' <;> simp_all [from']
    · cases c with
      | live a => exact ⟨.live a, hc⟩
      | copy j a =>
        obtain ⟨k, hk, hb⟩ := hc
        cases j with
        | none => simp [World.copies] at hk
        | some i =>
          refine ⟨.copy i a, ?_, k, hk, hb⟩
          by_contra hused
          rw [Bool.not_eq_true] at hused
          simp [World.copies, h.unused i hused] at hk
  refine ⟨fun b hb => ?_, fun c b hc => (haccounted.live_iff b).2 ⟨c, hc⟩, haccounted.inOrder,
    h.balanced.heap_iff⟩
  obtain ⟨c, hc⟩ := (haccounted.live_iff b).1 hb
  exact ⟨c, hc, fun c' hc' => haccounted.unique b c' c hc' hc⟩

/-! ## What one operation preserves -/

lemma mem_of_loadSlot {w w' : World U B} {E : Engine U B} {i : SlotIndex}
    (h : w.loadSlot E i = some w') : w'.mem = loadedMem E w.mem (w.saveStates i).keys := by
  unfold World.loadSlot SaveState.load SaveState.copyIntoPlace at h
  simp only at h
  split at h
  · simp at h
  · rename_i w₂ hcopy
    split at hcopy
    · simp at hcopy
    · obtain rfl := Option.some.inj hcopy
      obtain rfl := Option.some.inj h
      rfl

lemma mem_of_freeSlot {w w' : World U B} {E : Engine U B} {i : SlotIndex}
    (h : w.freeSlot E i = some w') : w'.mem = freedMem E w.mem (w.saveStates i).keys := by
  unfold World.freeSlot at h
  obtain ⟨w₁, hfree, rfl⟩ := Option.map_eq_some_iff.1 h
  unfold SaveState.free SaveState.copyIntoPlace at hfree
  simp only at hfree
  split at hfree
  · simp at hfree
  · rename_i w₂ hcopy
    split at hcopy
    · simp at hcopy
    · obtain rfl := Option.some.inj hcopy
      split at hfree
      · simp at hfree
      · obtain rfl := Option.some.inj hfree
        rfl

section Step

variable (hE : E.Reinitialises) {w w' : World (Audited U) B} {i : SlotIndex} (h : BooksInv w)

include hE h

lemma booksInv_save (hkeys : (w.saveStates i).keys = []) : BooksInv (w.saveSlot E i) := by
  have heq := saveSlot_eq (E := E) w hkeys
  have hcopies := copies_of_update (w := w) (saveSlot_saveStates (E := E) w i)
  refine ⟨?_, fun j hj => ?_⟩
  · rw [hcopies]
    have hbalanced := balanced_savedMem hE h.balanced (i := some i) hkeys
    simpa [heq, SaveState.save, Sounds.saveTo, hkeys] using hbalanced
  · rw [heq] at hj ⊢
    by_cases hji : j = i
    · subst hji
      simp [Sounds.saveTo] at hj
    · simp only [Function.update_of_ne hji] at hj ⊢
      exact h.unused j hj

lemma booksInv_load (hload : w.loadSlot E i = some w') :
    BooksInv w' ∧ ∀ a, (w'.mem.keys a).blocks = (w.mem.keys a).blocks := by
  have hslots := loadSlot_saveStates hload
  obtain ⟨hbalanced, hlive⟩ := balanced_loadedMem hE h.balanced (i := i) rfl
  refine ⟨⟨?_, hslots ▸ h.unused⟩, fun a => ?_⟩
  · rw [copies_of_eq hslots, mem_of_loadSlot hload]
    exact hbalanced
  · rw [mem_of_loadSlot hload]
    exact hlive a

lemma booksInv_free (hfree : w.freeSlot E i = some w') :
    BooksInv w' ∧ ∀ a, (w'.mem.keys a).blocks = ((E.recordAll w.mem).keys a).blocks := by
  have hslots := freeSlot_saveStates hfree
  obtain ⟨hbalanced, hlive⟩ := balanced_freedMem hE h.balanced (i := i) rfl
  refine ⟨⟨?_, fun j hj => ?_⟩, fun a => ?_⟩
  · rw [copies_of_update hslots, mem_of_freeSlot hfree]
    exact hbalanced
  · rw [hslots] at hj ⊢
    by_cases hji : j = i
    · subst hji
      simp [SaveState.cleared]
    · rw [Function.update_of_ne hji] at hj ⊢
      exact h.unused j hj
  · rw [mem_of_freeSlot hfree]
    exact hlive a

omit hE in
lemma booksInv_run (hslots : w'.saveStates = w.saveStates)
    (hrun : ReflTransGen Mem.RecordStep w.mem w'.mem) : BooksInv w' := by
  refine ⟨?_, hslots ▸ h.unused⟩
  rw [copies_of_eq hslots]
  exact h.balanced.of_records hrun

/-- **The step lemma.**  Every operation keeps the books balanced, and loads and frees leave
the live keys their blocks. -/
lemma booksInv_of_manages {op : Op} {o : Unit} (hstep : w.Manages E op w') :
    BooksInv w' ∧ KeepsLive E ⟨w, op, o, w'⟩ := by
  cases op with
  | save i =>
    obtain ⟨hkeys, rfl⟩ := hstep
    exact ⟨booksInv_save hE h hkeys, trivial⟩
  | load i => exact booksInv_load hE h hstep
  | free i => exact booksInv_free hE h hstep
  | run => exact ⟨booksInv_run h hstep.1 hstep.2, trivial⟩

end Step

lemma booksInv_of_init {w : World (Audited U) B} (h : (mementoLTS E).init w) : BooksInv w := by
  obtain ⟨hempty, hheap, htracked, haccesses, hslots⟩ := h
  have hnot : ∀ a b, b ∉ (w.mem.keys a).blocks := by
    intro a b
    rw [hempty a]
    exact List.not_mem_nil
  have hcopies : ∀ j, w.copies j = [] := by
    intro j
    cases j with
    | none => rfl
    | some i => rw [World.copies, hslots i]
  have hheld : ∀ c b, ¬ w.mem.HeldBy w.copies c b := by
    rintro (a | ⟨j, a⟩) b hb
    · exact hnot a b hb
    · obtain ⟨k, hk, -⟩ := hb
      simp [hcopies j] at hk
  refine ⟨⟨⟨?_, fun b => ?_, fun b c _ hc => absurd hc (hheld c b)⟩, fun b => ?_,
    fun a b hb => absurd hb (hnot a b), ?_, ?_, fun a => ?_, fun j => ?_⟩, fun i _ => ?_⟩
  · rw [haccesses]
    trivial
  · rw [haccesses]
    exact ⟨False.elim, fun ⟨c, hc⟩ => hheld c b hc⟩
  · simp [hheap b, haccesses, Live]
  · rw [htracked]
    exact List.nodup_nil
  · simp [htracked]
  · rw [hempty a]
    exact List.nodup_nil
  · rw [hcopies j]
    exact .nil
  · rw [hslots i]

/-- **Ownership of the mementos.**  In every run of saves, loads and frees of slots and of
recordings by the engine, each allocated memento block has one holder, a live key or a copy of
a slot in use; none is used or freed after it was freed; and no load or free takes blocks away
from a live key. -/
theorem mementosOwned_of_run (hE : E.Reinitialises) {w : World (Audited U) B}
    {log : List (Entry (World (Audited U) B) Op Unit)} (hrun : (mementoLTS E).Run log w) :
    MementosOwned w ∧ ∀ e ∈ log, KeepsLive E e := by
  have hinv : BooksInv w ∧ ∀ e ∈ log, KeepsLive E e := by
    refine hrun.invariant_of_step (fun log w => BooksInv w ∧ ∀ e ∈ log, KeepsLive E e)
      (fun w hw => ⟨booksInv_of_init hw, by simp⟩) fun log e hinv hstep => ?_
    obtain ⟨hbooks, hkeeps⟩ := booksInv_of_manages hE hinv.1 hstep (o := e.out)
    exact ⟨hbooks, List.forall_mem_cons.2 ⟨hkeeps, hinv.2⟩⟩
  exact ⟨hinv.1.mementosOwned, hinv.2⟩

/-! ### One unit -/

namespace OneUnit

/-- A block that is not allocated once the key has freed its own. -/
def freshBlock (m : Mem (Audited UInt32) UInt32) : Addr :=
  (arena.find? fun b => m.heapWithout (m.keys 1).blocks b = none).getD 0

/-- The engine of one unit, which initialises its key for each recording. -/
def auditedEngine : Engine (Audited UInt32) UInt32 where
  recordAll m :=
    m.initializeKey 1 { mementoableObject := m.units.units, mementos := freshBlock m }
      fun _ => m.units.units
  restoreAll m :=
    let k := m.keys 1
    if k.mementos = 0 then { m with units := { m.units with units := k.mementoableObject } }
    else
      let m := m.access [.use k.mementos]
      { m with units := { m.units with units := (m.heap k.mementos).getD 0 } }
  clearKey a m :=
    { m.access ((m.keys a).blocks.map .free) with
      keys := Function.update m.keys a {}
      heap := m.heapWithout (m.keys a).blocks }

lemma reinitialises : auditedEngine.Reinitialises where
  record m := by
    refine .single (.initializeKey _ (by decide) ?_)
    have hblocks : ∀ b ∈ ({ mementoableObject := m.units.units, mementos := freshBlock m } :
        GameMementoKey).blocks, b = freshBlock m ∧ b ≠ 0 := by
      intro b hb
      simp only [GameMementoKey.blocks, List.mem_filter, List.mem_cons, List.not_mem_nil,
        or_false, decide_eq_true_eq] at hb
      exact ⟨hb.1.resolve_left hb.2, hb.2⟩
    refine ⟨?_, fun b hb => ?_⟩
    · by_cases h0 : freshBlock m = 0 <;> simp [GameMementoKey.blocks, h0]
    · obtain ⟨rfl, hne⟩ := hblocks b hb
      cases hfind : arena.find? fun b => m.heapWithout (m.keys 1).blocks b = none with
      | none => simp [freshBlock, hfind] at hne
      | some b => simpa [freshBlock, hfind] using List.find?_some hfind
  restore m := by
    simp only [auditedEngine]
    split
    · exact .single (.units _)
    · rename_i hne
      have hholds : m.Holds (m.keys 1).mementos :=
        ⟨1, List.mem_filter.2 ⟨by simp, by simpa using hne⟩⟩
      exact .tail (.single (.read hholds)) (.units _)
  clear m a := .clear {}

end OneUnit

/-- A game with one unit, without mementos so far. -/
def auditedWorld : World (Audited UInt32) UInt32 where
  mem := { units := ⟨5, []⟩, keys := fun _ => {}, heap := fun _ => none, trackedKeys := [] }
  global := {}
  sounds :=
    { managers := []
      adapters := fun _ => []
      pool := fun _ => {}
      adapterToCurrentSound := fun _ => {}
      queuedStops := fun _ => []
      bUsePureSounds := true }
  saveStates := fun _ => {}

/-- Two states are saved, the engine records once more, the older state is loaded and freed.
The recording that the free begins with frees the live block and takes it anew, and `Clear`
frees that of the slot. -/
theorem mementosOwned_one_unit : ∃ (w : World (Audited UInt32) UInt32)
    (log : List (Entry (World (Audited UInt32) UInt32) Op Unit)),
    log.map (·.act) = [.free 0, .load 0, .run, .save 1, .save 0] ∧
      w.mem.units.accesses = [.use 0x30, .free 0x10, .use 0x10, .alloc 0x30, .free 0x30,
        .use 0x10, .alloc 0x30, .alloc 0x20, .alloc 0x10] ∧
      MementosOwned w ∧ ∀ e ∈ log, KeepsLive OneUnit.auditedEngine e := by
  let E := OneUnit.auditedEngine
  let w₁ := auditedWorld.saveSlot E 0
  let w₂ := w₁.saveSlot E 1
  let w₃ : World (Audited UInt32) UInt32 := { w₂ with mem := E.recordAll w₂.mem }
  obtain ⟨w₄, hload, w₅, hfree, haccesses⟩ : ∃ w₄, w₃.loadSlot E 0 = some w₄ ∧
      ∃ w₅, w₄.freeSlot E 0 = some w₅ ∧ w₅.mem.units.accesses = [.use 0x30, .free 0x10,
        .use 0x10, .alloc 0x30, .free 0x30, .use 0x10, .alloc 0x30, .alloc 0x20, .alloc 0x10] :=
    ⟨_, rfl, _, rfl, by decide +kernel⟩
  have hinit : (mementoLTS E).init auditedWorld :=
    ⟨fun _ => rfl, fun _ => rfl, rfl, rfl, fun _ => rfl⟩
  have hrun : (mementoLTS E).Run
      [⟨w₄, .free 0, (), w₅⟩, ⟨w₃, .load 0, (), w₄⟩, ⟨w₂, .run, (), w₃⟩, ⟨w₁, .save 1, (), w₂⟩,
        ⟨auditedWorld, .save 0, (), w₁⟩] w₅ := by
    refine ⟨auditedWorld, hinit, LTS.path_cons_iff.2 ⟨?_, hfree, rfl⟩⟩
    refine LTS.path_cons_iff.2 ⟨?_, hload, rfl⟩
    refine LTS.path_cons_iff.2 ⟨?_, ⟨rfl, OneUnit.reinitialises.record _⟩, rfl⟩
    refine LTS.path_cons_iff.2 ⟨?_, ⟨rfl, rfl⟩, rfl⟩
    exact LTS.path_cons_iff.2 ⟨.refl, ⟨rfl, rfl⟩, rfl⟩
  exact ⟨w₅, _, rfl, haccesses, mementosOwned_of_run OneUnit.reinitialises hrun⟩

end Rollback
end Sf4e
