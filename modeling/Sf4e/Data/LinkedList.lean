/-
# Doubly linked lists in a memory

Nodes lie at addresses and name each other: every node has a predecessor and a successor, or none
at the ends.  `Linked` says that nodes follow each other in both directions; the first of them
may have a predecessor that is not one of them, which is what is left of a list whose first nodes
have been taken off.  `IsList` adds the two ends and that the first node has no predecessor.

The memory is only seen through its links, so that a change of anything else does not matter.
-/
import Mathlib.Data.List.Basic
import Mathlib.Data.List.Nodup
import Mathlib.Order.Basic

universe u

namespace LinkedList

variable {ι : Type u} {prev next prev' next' : ι → Option ι} {p : Option ι} {x : ι} {xs : List ι}

/-- The nodes are linked in their order; before the first one comes `p`. -/
def Linked (prev next : ι → Option ι) : Option ι → List ι → Prop
  | _, [] => True
  | p, x :: xs => prev x = p ∧ next x = xs.head? ∧ Linked prev next (some x) xs

/-- The nodes are those of the list with these ends. -/
structure IsList (prev next : ι → Option ι) (head tail : Option ι) (xs : List ι) : Prop where
  head_eq : head = xs.head?
  tail_eq : tail = xs.getLast?
  linked : Linked prev next none xs

/-- Follow the successors, for a number of nodes at most. -/
def walk (next : ι → Option ι) : ℕ → Option ι → Option (List ι)
  | _, none => some []
  | 0, some _ => none
  | n + 1, some x => (walk next n (next x)).map (x :: ·)

@[simp] lemma linked_nil : Linked prev next p [] := trivial

@[simp] lemma linked_cons :
    Linked prev next p (x :: xs) ↔
      prev x = p ∧ next x = xs.head? ∧ Linked prev next (some x) xs :=
  Iff.rfl

namespace Linked

/-- Only the links of the nodes matter. -/
lemma congr (h : Linked prev next p xs) (hprev : ∀ x ∈ xs, prev' x = prev x)
    (hnext : ∀ x ∈ xs, next' x = next x) : Linked prev' next' p xs := by
  induction xs generalizing p with
  | nil => exact linked_nil
  | cons x xs ih =>
    obtain ⟨hp, hn, hrest⟩ := h
    refine ⟨(hprev x List.mem_cons_self).trans hp, (hnext x List.mem_cons_self).trans hn, ?_⟩
    exact ih hrest (fun y hy => hprev y (List.mem_cons_of_mem _ hy))
      fun y hy => hnext y (List.mem_cons_of_mem _ hy)

/-- The list is walked over from its first node. -/
lemma walk_eq {n : ℕ} (h : Linked prev next p xs) (hn : xs.length ≤ n) :
    walk next n xs.head? = some xs := by
  induction xs generalizing p n with
  | nil => cases n <;> rfl
  | cons x xs ih =>
    obtain ⟨-, hnext, hrest⟩ := h
    cases n with
    | zero => simp at hn
    | succ n =>
      rw [List.head?_cons, walk, hnext, ih hrest (Nat.le_of_succ_le_succ hn)]
      rfl

/-- A walk that comes to an end has gone over the list. -/
lemma eq_of_walk {n : ℕ} {ys : List ι} (h : Linked prev next p xs)
    (hwalk : walk next n xs.head? = some ys) : ys = xs := by
  induction xs generalizing p n ys with
  | nil => cases n <;> exact (Option.some.inj hwalk).symm
  | cons x xs ih =>
    obtain ⟨-, hnext, hrest⟩ := h
    cases n with
    | zero => cases hwalk
    | succ n =>
      rw [List.head?_cons, walk, hnext, Option.map_eq_some_iff] at hwalk
      obtain ⟨zs, hzs, rfl⟩ := hwalk
      rw [ih hrest hzs]

/-- A node is put behind the last one, whose successor it becomes. -/
lemma concat (h : Linked prev next p xs) (hx : prev' x = xs.getLast?.or p)
    (hend : next' x = none) (hprev : ∀ y ∈ xs, prev' y = prev y)
    (hlast : ∀ y, xs.getLast? = some y → next' y = some x)
    (hnext : ∀ y ∈ xs, xs.getLast? ≠ some y → next' y = next y) (hnodup : xs.Nodup) :
    Linked prev' next' p (xs ++ [x]) := by
  induction xs generalizing p with
  | nil => exact ⟨hx, hend, linked_nil⟩
  | cons y xs ih =>
    obtain ⟨hp, hn, hrest⟩ := h
    obtain ⟨hy, hnodup⟩ := List.nodup_cons.1 hnodup
    have hyp : prev' y = p := (hprev y List.mem_cons_self).trans hp
    cases xs with
    | nil => exact ⟨hyp, hlast y rfl, hx, hend, linked_nil⟩
    | cons z xs =>
      have hne : (y :: z :: xs).getLast? ≠ some y := by
        rw [List.getLast?_cons_cons]
        exact fun heq => hy (List.mem_of_getLast? heq)
      refine ⟨hyp, (hnext y List.mem_cons_self hne).trans hn, ?_⟩
      rw [List.getLast?_cons_cons] at hx hlast hnext
      refine ih hrest ?_ (fun w hw => hprev w (List.mem_cons_of_mem _ hw)) hlast
        (fun w hw => hnext w (List.mem_cons_of_mem _ hw)) hnodup
      rw [hx, List.getLast?_cons]
      rfl

end Linked

/-- The first node of a list has no predecessor. -/
lemma IsList.prev_head {head tail : Option ι} (h : IsList prev next head tail xs)
    (hx : head = some x) : prev x = none := by
  obtain ⟨hhead, -, hlinked⟩ := h
  cases xs with
  | nil => simp [hx] at hhead
  | cons y xs =>
    obtain rfl : x = y := by simpa [hx] using hhead
    exact hlinked.1

end LinkedList
