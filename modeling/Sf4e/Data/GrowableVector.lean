/-
# Vectors with a capacity

A `std::vector`: elements in a buffer of some capacity.  Appending to a full buffer moves the
elements to a new one, and an iterator into the old buffer must not be used any more.  So that
this can be said, the buffers of one vector are numbered, and an iterator names its buffer; an
access outside the elements or through an old iterator has no result.
-/
import Mathlib.Data.List.Basic
import Mathlib.Order.Lattice

universe u

/-- A vector with room for `capacity` elements in its present buffer. -/
structure GrowableVector (α : Type u) where
  /-- The elements. -/
  elems : List α
  /-- The size of the buffer. -/
  capacity : ℕ
  /-- The number of the buffer: how often the elements have been moved. -/
  buffer : ℕ
  /-- The elements are in the buffer. -/
  length_le : elems.length ≤ capacity
deriving DecidableEq

namespace GrowableVector

variable {α : Type u}

@[ext] lemma ext {v w : GrowableVector α} (helems : v.elems = w.elems)
    (hcapacity : v.capacity = w.capacity) (hbuffer : v.buffer = w.buffer) : v = w := by
  cases v
  cases w
  simp_all

/-- A place in a buffer. -/
structure Iterator where
  buffer : ℕ
  index : ℕ
deriving DecidableEq

/-! ## Operations -/

/-- The vector without elements or buffer. -/
def empty : GrowableVector α := ⟨[], 0, 0, le_rfl⟩

/-- `reserve`. -/
def reserve (v : GrowableVector α) (n : ℕ) : GrowableVector α :=
  if h : n ≤ v.capacity then v
  else ⟨v.elems, n, v.buffer + 1, v.length_le.trans (Nat.le_of_not_le h)⟩

/-- `begin`. -/
def begin (v : GrowableVector α) : Iterator := ⟨v.buffer, 0⟩

/-- `it + n`: within the elements, or to their end. -/
def advance (v : GrowableVector α) (it : Iterator) (n : ℤ) : Option Iterator :=
  if it.buffer = v.buffer ∧ 0 ≤ it.index + n ∧ it.index + n ≤ v.elems.length then
    some ⟨v.buffer, (it.index + n).toNat⟩
  else none

/-- `*it`. -/
def get (v : GrowableVector α) (it : Iterator) : Option α :=
  if it.buffer = v.buffer then v.elems[it.index]? else none

/-- `push_back`: to a buffer that is half as large again, if the present one is full. -/
def pushBack (v : GrowableVector α) (a : α) : GrowableVector α :=
  if h : v.elems.length < v.capacity then
    ⟨v.elems ++ [a], v.capacity, v.buffer, by rw [List.length_append]; exact h⟩
  else
    ⟨v.elems ++ [a], max (v.elems.length + 1) (v.capacity + v.capacity / 2), v.buffer + 1,
      by rw [List.length_append]; exact le_max_left _ _⟩

/-- `erase`. -/
def erase (v : GrowableVector α) (it : Iterator) : Option (GrowableVector α) :=
  if it.buffer = v.buffer ∧ it.index < v.elems.length then
    some ⟨v.elems.eraseIdx it.index, v.capacity, v.buffer,
      (List.length_eraseIdx_le _ _).trans v.length_le⟩
  else none

/-- Assign to every element in place. -/
def modify (v : GrowableVector α) (f : α → α) : GrowableVector α :=
  ⟨v.elems.map f, v.capacity, v.buffer, by rw [List.length_map]; exact v.length_le⟩

/-! ## With room in the buffer -/

/-- The vector with other elements in the same buffer. -/
def withElems (v : GrowableVector α) (l : List α) (h : l.length ≤ v.capacity) :
    GrowableVector α := ⟨l, v.capacity, v.buffer, h⟩

@[simp] lemma elems_modify (v : GrowableVector α) (f : α → α) :
    (v.modify f).elems = v.elems.map f := rfl

@[simp] lemma elems_pushBack (v : GrowableVector α) (a : α) :
    (v.pushBack a).elems = v.elems ++ [a] := by
  unfold pushBack
  split <;> rfl

/-- With room for one more, appending moves nothing. -/
lemma pushBack_of_lt {v : GrowableVector α} (h : v.elems.length < v.capacity) (a : α) :
    v.pushBack a = v.withElems (v.elems ++ [a]) (by rw [List.length_append]; exact h) := by
  rw [pushBack, dif_pos h]
  rfl

/-- Reaching for an element from the start. -/
lemma advance_begin (v : GrowableVector α) (n : ℤ) : v.advance v.begin n =
    if 0 ≤ n ∧ n ≤ v.elems.length then some ⟨v.buffer, n.toNat⟩ else none := by
  simp [advance, begin]

lemma get_mk (v : GrowableVector α) (i : ℕ) : v.get ⟨v.buffer, i⟩ = v.elems[i]? := by
  simp [get]

lemma erase_mk (v : GrowableVector α) {i : ℕ} (h : i < v.elems.length) :
    v.erase ⟨v.buffer, i⟩ = some (v.withElems (v.elems.eraseIdx i)
      ((List.length_eraseIdx_le _ _).trans v.length_le)) := by
  simp [erase, h, withElems]

end GrowableVector
