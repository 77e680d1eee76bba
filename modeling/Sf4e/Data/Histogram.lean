/-
# Ranks and histograms

The sample of rank `r` of a list is the one that stands at place `r` when the list is sorted
(`ofRank`).  A histogram has an upper bound for each of its buckets, and a sample is counted in
the first bucket whose bound it is below, or in the last one (`bucketOf`).

A larger sample is not in an earlier bucket, so that the buckets can be searched for the sample
of a rank by adding up what they have counted (`lt_countP_bucketOf_iff`).
-/
import Mathlib.Data.List.Sort
import Mathlib.Order.MinMax

universe u

namespace Histogram

variable {α : Type u} [LinearOrder α] {samples : List α} {rank : ℕ} {x y : α}

/-! ## Ranks -/

/-- The sample of a rank; the smallest one has rank 0. -/
def ofRank (samples : List α) (rank : ℕ) : Option α := (samples.insertionSort (· ≤ ·))[rank]?

lemma exists_ofRank (h : rank < samples.length) : ∃ x, ofRank samples rank = some x := by
  rw [← List.length_insertionSort (· ≤ ·) samples] at h
  exact ⟨_, List.getElem?_eq_getElem h⟩

lemma mem_of_ofRank (h : ofRank samples rank = some x) : x ∈ samples :=
  (List.mem_insertionSort (· ≤ ·)).1 (List.mem_of_getElem? h)

lemma sorted_insertionSort (samples : List α) :
    (samples.insertionSort (· ≤ ·)).Pairwise (· ≤ ·) :=
  List.pairwise_insertionSort (· ≤ ·) samples

lemma ofRank_le {rank' : ℕ} (hle : rank ≤ rank') (hx : ofRank samples rank = some x)
    (hy : ofRank samples rank' = some y) : x ≤ y := by
  obtain ⟨hrank, rfl⟩ := List.getElem?_eq_some_iff.1 hx
  obtain ⟨hrank', rfl⟩ := List.getElem?_eq_some_iff.1 hy
  obtain rfl | hlt := hle.eq_or_lt
  · exact le_rfl
  · exact List.pairwise_iff_getElem.1 (sorted_insertionSort samples) _ _ hrank hrank' hlt

/-- In a sorted list those of which a property holds that goes down come first. -/
lemma lt_countP_iff_of_sorted {p : α → Bool} (hp : ∀ a b, a ≤ b → p b = true → p a = true)
    {l : List α} (hl : l.Pairwise (· ≤ ·)) (h : l[rank]? = some x) :
    rank < l.countP p ↔ p x = true := by
  induction l generalizing rank with
  | nil => simp at h
  | cons a l ih =>
    obtain ⟨hhead, htail⟩ := List.pairwise_cons.1 hl
    by_cases ha : p a = true
    · rw [List.countP_cons_of_pos ha]
      cases rank with
      | zero =>
        obtain rfl : a = x := by simpa using h
        exact ⟨fun _ => ha, fun _ => Nat.succ_pos _⟩
      | succ rank =>
        rw [List.getElem?_cons_succ] at h
        rw [Nat.succ_lt_succ_iff]
        exact ih htail h
    · -- The property fails from here on.
      have hx : ¬ p x = true := by
        intro hx
        obtain rfl | hmem := List.mem_cons.1 (List.mem_of_getElem? h)
        · exact ha hx
        · exact ha (hp a x (hhead x hmem) hx)
      have hnone : l.countP p = 0 := by
        rw [List.countP_eq_zero]
        intro b hb hpb
        exact ha (hp a b (hhead b hb) hpb)
      rw [List.countP_cons_of_neg ha, hnone]
      exact ⟨fun hlt => absurd hlt (Nat.not_lt_zero _), fun hpx => absurd hpx hx⟩

/-- The sample of a rank has a property that goes down if more samples than the rank have it. -/
lemma lt_countP_iff {p : α → Bool} (hp : ∀ a b, a ≤ b → p b = true → p a = true)
    (h : ofRank samples rank = some x) : rank < samples.countP p ↔ p x = true := by
  rw [← (List.perm_insertionSort (· ≤ ·) samples).countP_eq]
  exact lt_countP_iff_of_sorted hp (sorted_insertionSort samples) h

/-! ## Buckets -/

variable {bounds : List α} {i : ℕ}

/-- The bucket that a sample is counted in. -/
def bucketOf (bounds : List α) (x : α) : ℕ :=
  min (bounds.findIdx fun bound => x < bound) (bounds.length - 1)

/-- The sample lies in a bucket: it is not below the bounds before that of the bucket, and below
that one unless the bucket is the last. -/
structure InBucket (bounds : List α) (i : ℕ) (x : α) : Prop where
  lt_length : i < bounds.length
  bound_le : ∀ j bound, bounds[j]? = some bound → j < i → bound ≤ x
  lt_bound : ∀ bound, bounds[i]? = some bound → i + 1 < bounds.length → x < bound

lemma bucketOf_lt (hne : bounds ≠ []) (x : α) : bucketOf bounds x < bounds.length := by
  have hpos := List.length_pos_iff.2 hne
  have hle : bucketOf bounds x ≤ bounds.length - 1 := min_le_right _ _
  omega

lemma inBucket_bucketOf (hne : bounds ≠ []) (x : α) : InBucket bounds (bucketOf bounds x) x := by
  refine ⟨bucketOf_lt hne x, ?_, ?_⟩
  · intro j bound hbound hj
    obtain ⟨hlen, rfl⟩ := List.getElem?_eq_some_iff.1 hbound
    have hnot := List.not_of_lt_findIdx (hj.trans_le (min_le_left _ _))
    simpa using hnot
  · intro bound hbound hlast
    have hidx : bucketOf bounds x = bounds.findIdx fun bound => x < bound := by
      refine min_eq_left ?_
      by_contra hgt
      have hlen : bucketOf bounds x = bounds.length - 1 := min_eq_right (not_le.1 hgt).le
      omega
    rw [hidx] at hbound
    obtain ⟨hlen, rfl⟩ := List.getElem?_eq_some_iff.1 hbound
    simpa using List.findIdx_getElem (w := hlen)

lemma bucketOf_mono (h : x ≤ y) : bucketOf bounds x ≤ bucketOf bounds y := by
  refine min_le_min ?_ le_rfl
  by_contra hgt
  have hlt := not_le.1 hgt
  have hlen := hlt.trans_le List.findIdx_le_length
  have hnot := List.not_of_lt_findIdx hlt
  have hpos := List.findIdx_getElem (w := hlen)
  simp only [decide_eq_true_eq, decide_eq_false_iff_not, not_lt] at hnot hpos
  exact absurd (h.trans_lt hpos) (not_lt.2 hnot)

/-- The samples in the buckets up to one are those up to the one before and those in it. -/
lemma countP_bucketOf_lt_succ (samples : List α) (i : ℕ) :
    samples.countP (fun x => bucketOf bounds x < i + 1) =
      samples.countP (fun x => bucketOf bounds x < i) +
        samples.countP fun x => bucketOf bounds x = i := by
  induction samples with
  | nil => rfl
  | cons x samples ih =>
    simp only [List.countP_cons, ih, decide_eq_true_eq]
    split_ifs <;> omega

/-- The buckets before one have counted more samples than a rank if the sample of the rank is in
one of them. -/
lemma lt_countP_bucketOf_iff (h : ofRank samples rank = some x) :
    rank < samples.countP (fun x => bucketOf bounds x < i) ↔ bucketOf bounds x < i := by
  rw [lt_countP_iff (fun a b hab hb => ?_) h, decide_eq_true_eq]
  rw [decide_eq_true_eq] at hb ⊢
  exact (bucketOf_mono hab).trans_lt hb

end Histogram
