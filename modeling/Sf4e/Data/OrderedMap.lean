/-
# Ordered maps of values that carry their key

A `std::map` whose values know their own key, as the strictly increasing list of its values.
The order is part of the type, so that the first entry is the one with the smallest key and no
key occurs twice.  Besides membership after each operation, the lemmas say how an operation
changes the list up to a permutation, which is what counting arguments need.
-/
import Mathlib.Data.List.Nodup
import Mathlib.Order.Lattice

universe u v

/-- An ordered map from keys to values, where `key` reads the key off a value. -/
structure OrderedMap {κ : Type u} {V : Type v} [LinearOrder κ] (key : V → κ) where
  /-- The values, by increasing key. -/
  entries : List V
  /-- The keys increase. -/
  sorted : entries.Pairwise fun v w => key v < key w

namespace OrderedMap

variable {κ : Type u} {V : Type v} [LinearOrder κ] {key : V → κ}

@[ext] lemma ext {m m' : OrderedMap key} (h : m.entries = m'.entries) : m = m' := by
  cases m
  cases m'
  simpa using h

instance : Membership V (OrderedMap key) := ⟨fun m v => v ∈ m.entries⟩

lemma mem_def {m : OrderedMap key} {v : V} : v ∈ m ↔ v ∈ m.entries := Iff.rfl

/-! ## Operations -/

/-- The map without entries. -/
def empty : OrderedMap key := ⟨[], .nil⟩

/-- The number of entries. -/
def size (m : OrderedMap key) : ℕ := m.entries.length

/-- The value under a key. -/
def find? (m : OrderedMap key) (k : κ) : Option V := m.entries.find? fun v => key v == k

/-- Take the value under a key out. -/
def erase (m : OrderedMap key) (k : κ) : OrderedMap key where
  entries := m.entries.filter fun v => key v != k
  sorted := m.sorted.filter _

/-- Take the value under the smallest key out. -/
def eraseBegin (m : OrderedMap key) : OrderedMap key where
  entries := m.entries.tail
  sorted := m.sorted.tail

lemma sorted_insert (m : OrderedMap key) (v : V) :
    (m.entries.filter (fun w => key w < key v) ++
      v :: m.entries.filter fun w => key v < key w).Pairwise fun v w => key v < key w := by
  refine List.pairwise_append.2 ⟨m.sorted.filter _, ?_, ?_⟩
  · refine List.pairwise_cons.2 ⟨fun w hw => ?_, m.sorted.filter _⟩
    simpa using (List.mem_filter.1 hw).2
  · intro w hw x hx
    have hwv : key w < key v := by simpa using (List.mem_filter.1 hw).2
    rcases List.mem_cons.1 hx with rfl | hx
    · exact hwv
    · have hvx : key v < key x := by simpa using (List.mem_filter.1 hx).2
      exact hwv.trans hvx

/-- Put a value under its key, in the place of the value that is there. -/
def insert (m : OrderedMap key) (v : V) : OrderedMap key where
  entries := m.entries.filter (fun w => key w < key v) ++
    v :: m.entries.filter fun w => key v < key w
  sorted := m.sorted_insert v

/-- Put a value under its key, unless there is one already. -/
def emplace (m : OrderedMap key) (v : V) : OrderedMap key :=
  if (m.find? (key v)).isSome then m else m.insert v

lemma sorted_filterMap (m : OrderedMap key) {f : V → Option V}
    (hf : ∀ v w, f v = some w → key w = key v) :
    (m.entries.filterMap f).Pairwise fun v w => key v < key w := by
  refine List.pairwise_filterMap.2 (m.sorted.imp fun {v w} hvw v' hv w' hw => ?_)
  rw [hf v v' hv, hf w w' hw]
  exact hvw

/-- Replace or take out every value, under its key. -/
def update (m : OrderedMap key) (f : V → Option V)
    (hf : ∀ v w, f v = some w → key w = key v) : OrderedMap key where
  entries := m.entries.filterMap f
  sorted := m.sorted_filterMap hf

/-! ## Membership -/

@[simp] lemma not_mem_empty (v : V) : v ∉ (empty : OrderedMap key) := List.not_mem_nil

/-- A value is determined by its key. -/
lemma eq_of_key_eq {m : OrderedMap key} {v w : V} (hv : v ∈ m) (hw : w ∈ m)
    (h : key v = key w) : v = w := by
  by_contra hne
  have hsorted := List.pairwise_iff_getElem.1 m.sorted
  obtain ⟨i, hi, rfl⟩ := List.mem_iff_getElem.1 hv
  obtain ⟨j, hj, rfl⟩ := List.mem_iff_getElem.1 hw
  rcases Nat.lt_trichotomy i j with hij | rfl | hij
  · exact (hsorted i j hi hj hij).ne h
  · exact hne rfl
  · exact (hsorted j i hj hi hij).ne' h

lemma find?_eq_some_iff {m : OrderedMap key} {k : κ} {v : V} :
    m.find? k = some v ↔ v ∈ m ∧ key v = k := by
  constructor
  · intro h
    exact ⟨List.mem_of_find?_eq_some h, by simpa using List.find?_some h⟩
  · rintro ⟨hv, rfl⟩
    cases hf : m.find? (key v) with
    | none =>
      have hne := List.find?_eq_none.1 hf v hv
      simp at hne
    | some w =>
      have hw : w ∈ m := List.mem_of_find?_eq_some hf
      have hkey : key w = key v := by simpa using List.find?_some hf
      rw [eq_of_key_eq hw hv hkey]

lemma find?_eq_none_iff {m : OrderedMap key} {k : κ} :
    m.find? k = none ↔ ∀ v ∈ m, key v ≠ k := by
  unfold find?
  rw [List.find?_eq_none]
  simp [mem_def]

lemma mem_erase_iff {m : OrderedMap key} {k : κ} {v : V} :
    v ∈ m.erase k ↔ v ∈ m ∧ key v ≠ k := by
  simp [mem_def, erase, List.mem_filter]

lemma mem_insert_iff {m : OrderedMap key} {v w : V} :
    w ∈ m.insert v ↔ w = v ∨ w ∈ m ∧ key w ≠ key v := by
  simp only [mem_def, insert, List.mem_append, List.mem_cons, List.mem_filter, decide_eq_true_eq]
  rw [ne_iff_lt_or_gt]
  tauto

lemma mem_of_mem_emplace {m : OrderedMap key} {v w : V} (h : w ∈ m.emplace v) :
    w = v ∨ w ∈ m := by
  unfold emplace at h
  split at h
  · exact Or.inr h
  · exact (mem_insert_iff.1 h).imp_right And.left

lemma mem_emplace_of_mem {m : OrderedMap key} {v w : V} (h : w ∈ m) : w ∈ m.emplace v := by
  unfold emplace
  split
  · exact h
  · rename_i hnone
    refine mem_insert_iff.2 (Or.inr ⟨h, ?_⟩)
    have hfree : m.find? (key v) = none := by simpa using hnone
    exact find?_eq_none_iff.1 hfree w h

lemma mem_of_mem_eraseBegin {m : OrderedMap key} {v : V} (h : v ∈ m.eraseBegin) : v ∈ m :=
  List.mem_of_mem_tail h

/-- Only the first value is taken out at the beginning. -/
lemma mem_eraseBegin {m : OrderedMap key} {v : V} (hv : v ∈ m) (h : m.entries.head? ≠ some v) :
    v ∈ m.eraseBegin := by
  obtain ⟨entries, hsorted⟩ := m
  cases entries with
  | nil => exact absurd hv List.not_mem_nil
  | cons x rest =>
    have hne : x ≠ v := fun hx => h (congrArg some hx)
    exact List.mem_of_ne_of_mem hne.symm hv

/-! ## Counting -/

/-- A key has one value at most. -/
lemma filter_key_eq (m : OrderedMap key) (k : κ) :
    (m.entries.filter fun v => key v == k) = (m.find? k).toList := by
  cases hf : m.find? k with
  | none =>
    refine List.filter_eq_nil_iff.2 fun v hv => ?_
    simpa using find?_eq_none_iff.1 hf v hv
  | some v =>
    obtain ⟨hv, rfl⟩ := find?_eq_some_iff.1 hf
    have hnodup : m.entries.Nodup := m.sorted.imp fun h heq => (heq ▸ h).ne rfl
    have hperm : (m.entries.filter fun w => key w == key v).Perm [v] := by
      refine (List.perm_ext_iff_of_nodup (hnodup.filter _) (List.nodup_singleton v)).2 ?_
      intro w
      rw [List.mem_filter, List.mem_singleton]
      constructor
      · rintro ⟨hw, hkey⟩
        exact eq_of_key_eq hw hv (by simpa using hkey)
      · rintro rfl
        exact ⟨hv, by simp⟩
    exact List.perm_singleton.1 hperm

/-- A map is the value under a key and the map without it. -/
lemma perm_find?_erase (m : OrderedMap key) (k : κ) :
    m.entries.Perm ((m.find? k).toList ++ (m.erase k).entries) := by
  rw [← m.filter_key_eq k]
  exact (List.filter_append_perm (fun v => key v == k) m.entries).symm

/-- Inserting puts the value in the place of the one under its key. -/
lemma perm_insert (m : OrderedMap key) (v : V) :
    (m.insert v).entries.Perm (v :: (m.erase (key v)).entries) := by
  refine List.perm_middle.trans (List.Perm.cons v ?_)
  have hsplit := List.filter_append_perm (fun w => key w < key v) (m.erase (key v)).entries
  refine List.Perm.trans (List.Perm.of_eq ?_) hsplit
  congr 1
  all_goals
    rw [erase, List.filter_filter]
    refine List.filter_congr fun w _ => ?_
  · by_cases h : key w < key v
    · simp [h, h.ne]
    · simp [h]
  · rcases lt_trichotomy (key w) (key v) with h | h | h
    · simp [h, not_lt.2 h.le]
    · simp [h]
    · simp [h, h.le, h.ne']

lemma entries_eraseBegin (m : OrderedMap key) :
    m.entries = m.entries.head?.toList ++ m.eraseBegin.entries := by
  obtain ⟨entries, -⟩ := m
  cases entries <;> rfl

section

variable [DecidableEq V]

lemma count_erase (m : OrderedMap key) (k : κ) (v : V) :
    m.entries.count v = (m.find? k).toList.count v + (m.erase k).entries.count v := by
  rw [(m.perm_find?_erase k).count_eq, List.count_append]

lemma count_insert (m : OrderedMap key) (v w : V) :
    (m.insert v).entries.count w + (m.find? (key v)).toList.count w =
      m.entries.count w + [v].count w := by
  rw [(m.perm_insert v).count_eq, m.count_erase (key v) w, ← List.singleton_append,
    List.count_append]
  omega

lemma count_eraseBegin (m : OrderedMap key) (v : V) :
    m.entries.count v = m.entries.head?.toList.count v + m.eraseBegin.entries.count v := by
  conv_lhs => rw [m.entries_eraseBegin]
  rw [List.count_append]

end

end OrderedMap
