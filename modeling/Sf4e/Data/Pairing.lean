/-
# Pairing those that come

Those that come stand in a line, and as soon as there are two of them the two at its front leave
it as a pair.  So there is never more than one in the line: whoever comes waits alone or makes a
pair with the one who waits (`Joined`).  Everyone who has come is in the line or in one pair.
-/
import Mathlib.Data.List.Nodup
import Mathlib.Data.List.Perm.Basic

universe u

/-- Those in the line, and the pairs that have left it, the latest first. -/
structure Pairing (α : Type u) where
  waiting : List α := []
  pairs : List (α × α) := []

namespace Pairing

variable {α : Type u}

/-- One more comes. -/
def join (p : Pairing α) (a : α) : Pairing α :=
  match p.waiting ++ [a] with
  | b :: c :: rest => ⟨rest, (b, c) :: p.pairs⟩
  | waiting => ⟨waiting, p.pairs⟩

/-- Everyone who has come. -/
def members (p : Pairing α) : List α := p.waiting ++ p.pairs.flatMap fun q => [q.1, q.2]

/-- Those who have had to wait. -/
def firsts (p : Pairing α) : List α := p.waiting ++ p.pairs.map Prod.fst

variable {p q : Pairing α} {a b : α}

lemma waiting_subset_members (h : a ∈ p.waiting) : a ∈ p.members := List.mem_append_left _ h

lemma fst_mem_members (h : (a, b) ∈ p.pairs) : a ∈ p.members :=
  List.mem_append_right _ (List.mem_flatMap.2 ⟨(a, b), h, List.mem_cons_self⟩)

lemma snd_mem_members (h : (a, b) ∈ p.pairs) : b ∈ p.members :=
  List.mem_append_right _
    (List.mem_flatMap.2 ⟨(a, b), h, List.mem_cons_of_mem _ List.mem_cons_self⟩)

/-- Who comes to a line of at most one. -/
inductive Joined (p : Pairing α) (a : α) : Pairing α → Prop
  | waits (hnone : p.waiting = []) : Joined p a ⟨[a], p.pairs⟩
  | pairs {b : α} (hone : p.waiting = [b]) : Joined p a ⟨[], (b, a) :: p.pairs⟩

lemma joined (h : p.waiting.length ≤ 1) (a : α) : p.Joined a (p.join a) := by
  rcases p with ⟨_ | ⟨b, _ | ⟨c, rest⟩⟩, pairs⟩
  · exact .waits rfl
  · exact .pairs rfl
  · simp at h

namespace Joined

/-- **The line stays short.** -/
lemma length_le (h : p.Joined a q) : q.waiting.length ≤ 1 := by
  cases h with
  | waits hnone => exact Nat.le_refl 1
  | pairs hone => exact Nat.zero_le _

/-- **Nobody is lost and nobody counted twice.** -/
lemma perm (h : p.Joined a q) : q.members.Perm (a :: p.members) := by
  cases h with
  | waits hnone => simp [members, hnone]
  | pairs hone =>
    simp only [members, hone, List.nil_append, List.flatMap_cons, List.cons_append]
    exact List.Perm.swap _ _ _

lemma nodup {β : Type*} {f : α → β} (h : p.Joined a q) (hp : (p.members.map f).Nodup)
    (ha : f a ∉ p.members.map f) : (q.members.map f).Nodup := by
  have hperm : (q.members.map f).Perm (f a :: p.members.map f) := h.perm.map f
  exact hperm.nodup_iff.2 (List.nodup_cons.2 ⟨ha, hp⟩)

lemma mem_members (h : p.Joined a q) {c : α} : c ∈ q.members ↔ c = a ∨ c ∈ p.members := by
  rw [h.perm.mem_iff, List.mem_cons]

end Joined

end Pairing
