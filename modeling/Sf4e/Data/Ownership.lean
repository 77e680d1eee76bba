/-
# Ownership of allocated blocks

A program that allocates, uses and frees blocks is described by the log of its accesses,
newest first, and by who holds which block.  A log is in order when no block is used or freed
that is not allocated at that time, and none allocated that is.  The books are balanced
(`Accounted`) when the log is in order and the blocks allocated by it are the blocks that are
held, each by one holder.

The rules say what keeps the books balanced: using what is held, handing blocks from holder to
holder, giving back all that a holder has, and taking new blocks.  Holders and blocks are of
any types.
-/
import Mathlib.Data.List.Nodup

universe u v

namespace Ownership

variable {ι ι' : Type u} {α : Type v}

/-- What is done to a block. -/
inductive Access (α : Type v)
  | alloc (b : α)
  | free (b : α)
  | use (b : α)
deriving DecidableEq

/-- The block is allocated after the accesses. -/
def Live (b : α) : List (Access α) → Prop
  | [] => False
  | .alloc c :: log => c = b ∨ Live b log
  | .free c :: log => c ≠ b ∧ Live b log
  | .use _ :: log => Live b log

/-- The access is one that the block is ready for. -/
def Allowed (log : List (Access α)) : Access α → Prop
  | .alloc b => ¬ Live b log
  | .free b => Live b log
  | .use b => Live b log

/-- All accesses were allowed when they were made. -/
def InOrder : List (Access α) → Prop
  | [] => True
  | x :: log => Allowed log x ∧ InOrder log

/-! ## Many accesses at once -/

variable {log : List (Access α)} {bs : List α} {b : α}

lemma live_frees_append : Live b (bs.map .free ++ log) ↔ b ∉ bs ∧ Live b log := by
  induction bs with
  | nil => simp
  | cons c bs ih =>
    rw [List.map_cons, List.cons_append, Live, ih, List.mem_cons, not_or, and_assoc,
      ne_comm (a := c)]

lemma live_allocs_append : Live b (bs.map .alloc ++ log) ↔ b ∈ bs ∨ Live b log := by
  induction bs with
  | nil => simp
  | cons c bs ih => rw [List.map_cons, List.cons_append, Live, ih, List.mem_cons, or_assoc,
      eq_comm (a := c)]

lemma InOrder.frees_append (h : InOrder log) (hbs : bs.Nodup) (hlive : ∀ b ∈ bs, Live b log) :
    InOrder (bs.map .free ++ log) := by
  induction bs with
  | nil => exact h
  | cons c bs ih =>
    obtain ⟨hc, hbs⟩ := List.nodup_cons.1 hbs
    refine ⟨?_, ih hbs fun b hb => hlive b (List.mem_cons_of_mem _ hb)⟩
    exact live_frees_append.2 ⟨hc, hlive c List.mem_cons_self⟩

lemma InOrder.allocs_append (h : InOrder log) (hbs : bs.Nodup)
    (hfree : ∀ b ∈ bs, ¬ Live b log) : InOrder (bs.map .alloc ++ log) := by
  induction bs with
  | nil => exact h
  | cons c bs ih =>
    obtain ⟨hc, hbs⟩ := List.nodup_cons.1 hbs
    refine ⟨fun hlive => ?_, ih hbs fun b hb => hfree b (List.mem_cons_of_mem _ hb)⟩
    rcases live_allocs_append.1 hlive with hmem | hlive
    · exact hc hmem
    · exact hfree c List.mem_cons_self hlive

/-! ## Balanced books -/

/-- The accesses were in order, and the blocks allocated by now are those that are held, each
by one holder. -/
structure Accounted (holds : ι → α → Prop) (log : List (Access α)) : Prop where
  inOrder : InOrder log
  /-- No block is lost, and no holder has one that is gone. -/
  live_iff : ∀ b, Live b log ↔ ∃ i, holds i b
  /-- No block has two holders. -/
  unique : ∀ b i j, holds i b → holds j b → i = j

namespace Accounted

variable {holds : ι → α → Prop}

/-- A block that is held is used. -/
lemma use (h : Accounted holds log) {i : ι} (hb : holds i b) :
    Accounted holds (.use b :: log) :=
  ⟨⟨(h.live_iff b).2 ⟨i, hb⟩, h.inOrder⟩, h.live_iff, h.unique⟩

/-- The blocks change their holders.  `from'` says who had the blocks that a holder has. -/
lemma move (h : Accounted holds log) {holds' : ι' → α → Prop} (from' : ι' → ι)
    (hold : ∀ i b, holds' i b → holds (from' i) b)
    (hinj : ∀ b i j, holds' i b → holds' j b → from' i = from' j → i = j)
    (hnew : ∀ i b, holds i b → ∃ j, holds' j b) : Accounted holds' log := by
  refine ⟨h.inOrder, fun b => ?_, fun b i j hi hj => ?_⟩
  · rw [h.live_iff b]
    constructor
    · rintro ⟨i, hi⟩
      exact hnew i b hi
    · rintro ⟨j, hj⟩
      exact ⟨from' j, hold j b hj⟩
  · exact hinj b i j hi hj (h.unique b _ _ (hold i b hi) (hold j b hj))

lemma congr (h : Accounted holds log) {holds' : ι → α → Prop}
    (hiff : ∀ i b, holds' i b ↔ holds i b) : Accounted holds' log :=
  h.move id (fun i b => (hiff i b).1) (fun _ _ _ _ _ heq => heq)
    fun i b hi => ⟨i, (hiff i b).2 hi⟩

/-- A holder frees all it has. -/
lemma release (h : Accounted holds log) {i : ι} (hbs : bs.Nodup)
    (hi : ∀ b, holds i b ↔ b ∈ bs) :
    Accounted (fun j b => j ≠ i ∧ holds j b) (bs.map .free ++ log) := by
  refine ⟨h.inOrder.frees_append hbs fun b hb => (h.live_iff b).2 ⟨i, (hi b).2 hb⟩,
    fun b => ?_, fun b j k hj hk => h.unique b j k hj.2 hk.2⟩
  rw [live_frees_append, h.live_iff b]
  constructor
  · rintro ⟨hb, j, hj⟩
    refine ⟨j, ?_, hj⟩
    rintro rfl
    exact hb ((hi b).1 hj)
  · rintro ⟨j, hne, hj⟩
    exact ⟨fun hb => hne (h.unique b j i hj ((hi b).2 hb)), j, hj⟩

/-- A holder is given new blocks. -/
lemma acquire (h : Accounted holds log) (i : ι) (hbs : bs.Nodup)
    (hfree : ∀ b ∈ bs, ¬ Live b log) :
    Accounted (fun j b => holds j b ∨ j = i ∧ b ∈ bs) (bs.map .alloc ++ log) := by
  have hnot : ∀ j b, b ∈ bs → ¬ holds j b := fun j b hb hj =>
    hfree b hb ((h.live_iff b).2 ⟨j, hj⟩)
  refine ⟨h.inOrder.allocs_append hbs hfree, fun b => ?_, fun b j k hj hk => ?_⟩
  · rw [live_allocs_append, h.live_iff b]
    constructor
    · rintro (hb | ⟨j, hj⟩)
      · exact ⟨i, Or.inr ⟨rfl, hb⟩⟩
      · exact ⟨j, Or.inl hj⟩
    · rintro ⟨j, hj | ⟨-, hb⟩⟩
      · exact Or.inr ⟨j, hj⟩
      · exact Or.inl hb
  · rcases hj with hj | ⟨rfl, hb⟩
    · rcases hk with hk | ⟨-, hb⟩
      · exact h.unique b j k hj hk
      · exact absurd hj (hnot j b hb)
    · rcases hk with hk | ⟨rfl, -⟩
      · exact absurd hk (hnot k b hb)
      · rfl

end Accounted

end Ownership
