/-
# The histogram of a timing

`TimingStat` counts how often an operation has taken how long, in ten buckets of which the last
one is open.  `ApproxPercentileMs` adds up the buckets until it has passed the rank that belongs
to a percentile, and reports the bound of the bucket that it has come to.

Times are rational numbers where the source has `double`, and the counters wrap around.
-/
import Mathlib.Algebra.Order.Floor.Semiring
import Mathlib.Data.Rat.Floor
import Mathlib.Order.Bounds.Basic
import Sf4e.Data.Histogram

namespace Sf4e
namespace Diag

open Histogram

/-- `NUM_BUCKETS`. -/
abbrev numBuckets : ℕ := 10

/-- `NUM_HITCH_THRESHOLDS`. -/
abbrev numHitchThresholds : ℕ := 5

/-- `kBucketUpperMs`. -/
def kBucketUpperMs : Vector ℚ numBuckets :=
  #v[1 / 4, 1 / 2, 1, 2, 4, 8, 1667 / 100, 33, 50, 10 ^ 300]

/-- `kHitchThresholdMs`. -/
def kHitchThresholdMs : Vector ℚ numHitchThresholds := #v[1667 / 100, 25, 3333 / 100, 50, 100]

/-- The bucket of a time. -/
abbrev bucketOfMs (ms : ℚ) : ℕ := bucketOf kBucketUpperMs.toList ms

/-- `TimingStat`. -/
structure TimingStat where
  count : UInt64
  totalMs : ℚ
  maxMs : ℚ
  lastMs : ℚ
  buckets : Fin numBuckets → UInt32
  hitchCounts : Fin numHitchThresholds → UInt64

namespace TimingStat

/-- `Reset`. -/
def reset : TimingStat := ⟨0, 0, 0, 0, fun _ => 0, fun _ => 0⟩

instance : Inhabited TimingStat := ⟨reset⟩

/-- `Record`. -/
def record (s : TimingStat) (ms : ℚ) : TimingStat :=
  let ms := if ms < 0 then 0 else ms
  { count := s.count + 1
    totalMs := s.totalMs + ms
    lastMs := ms
    maxMs := if ms > s.maxMs then ms else s.maxMs
    hitchCounts := fun i =>
      if kHitchThresholdMs[i] ≤ ms then s.hitchCounts i + 1 else s.hitchCounts i
    buckets := fun i =>
      if bucketOfMs ms = i.val then s.buckets i + 1 else s.buckets i }

/-- The loop of `ApproxPercentileMs` over the buckets that are left. -/
def searchRank (s : TimingStat) (rank : UInt64) : List (Fin numBuckets) → UInt64 → ℚ
  | [], _ => s.maxMs
  | i :: rest, cumulative =>
    let cumulative := cumulative + (s.buckets i).toUInt64
    if rank < cumulative then
      -- the last bucket has no bound to report
      if i.val = numBuckets - 1 then s.maxMs else kBucketUpperMs[i]
    else s.searchRank rank rest cumulative

/-- `ApproxPercentileMs`. -/
def approxPercentileMs (s : TimingStat) (p : ℚ) : ℚ :=
  if s.count = 0 then 0
  else
    let p := if p < 0 then 0 else p
    let p := if p > 1 then 1 else p
    let rank := UInt64.ofNat ⌊p * s.count.toNat⌋₊
    let rank := if rank ≥ s.count then s.count - 1 else rank
    s.searchRank rank (List.finRange numBuckets) 0

/-- `MeanMs`. -/
def meanMs (s : TimingStat) : ℚ := if s.count = 0 then 0 else s.totalMs / s.count.toNat

/-! ## What a percentile is -/

/-- The samples as they are counted. -/
def counted (samples : List ℚ) : List ℚ := samples.map fun ms => max 0 ms

/-- The histogram of a list of samples. -/
def recorded (samples : List ℚ) : TimingStat := samples.foldl record reset

/-- The rank that belongs to a percentile. -/
def rankOf (samples : List ℚ) (p : ℚ) : ℕ := min ⌊p * samples.length⌋₊ (samples.length - 1)

/-- No counter of the histogram has wrapped around. -/
structure NoOverflow (samples : List ℚ) : Prop where
  count : samples.length < 2 ^ 64
  buckets : ∀ i < numBuckets,
    (counted samples).countP (fun ms => bucketOfMs ms = i) < 2 ^ 32

/-- The percentile of the samples is reported as it should be. -/
structure PercentileRight (samples : List ℚ) (p : ℚ) : Prop where
  /-- `maxMs` is the largest sample. -/
  isGreatest : IsGreatest {ms | ms ∈ counted samples} (recorded samples).maxMs
  /-- The report is the bound of the bucket that the sample of the rank is in. -/
  report : ∃ ms i bound, ofRank (counted samples) (rankOf samples p) = some ms ∧
    InBucket kBucketUpperMs.toList i ms ∧ kBucketUpperMs.toList[i]? = some bound ∧
    (recorded samples).approxPercentileMs p =
      if i = numBuckets - 1 then (recorded samples).maxMs else bound
  /-- It is not below that sample. -/
  le_report : ∀ ms, ofRank (counted samples) (rankOf samples p) = some ms →
    ms ≤ (recorded samples).approxPercentileMs p
  /-- It is not above the report of a higher percentile. -/
  mono : ∀ q, p ≤ q → q ≤ 1 →
    (recorded samples).approxPercentileMs p ≤ (recorded samples).approxPercentileMs q

/-! ## Recording -/

/-- The histogram counts the samples, up to the size of its counters. -/
structure Counts (s : TimingStat) (samples : List ℚ) : Prop where
  count : s.count.toNat = samples.length % 2 ^ 64
  buckets : ∀ i : Fin numBuckets, (s.buckets i).toNat =
    samples.countP (fun ms => bucketOfMs ms = i.val) % 2 ^ 32
  maxMs_nonneg : 0 ≤ s.maxMs
  le_maxMs : ∀ ms ∈ samples, ms ≤ s.maxMs
  maxMs_mem : s.maxMs ∈ samples ∨ samples = [] ∧ s.maxMs = 0

lemma counts_reset : reset.Counts [] where
  count := rfl
  buckets _ := rfl
  maxMs_nonneg := le_rfl
  le_maxMs _ h := absurd h List.not_mem_nil
  maxMs_mem := .inr ⟨rfl, rfl⟩

variable {s : TimingStat} {samples : List ℚ} {p : ℚ}

lemma Counts.record (h : s.Counts samples) (ms : ℚ) :
    (s.record ms).Counts (samples ++ [max 0 ms]) := by
  have hms : (if ms < 0 then 0 else ms) = max 0 ms := by
    split
    · rename_i hneg
      rw [max_eq_left hneg.le]
    · rename_i hpos
      rw [max_eq_right (not_lt.1 hpos)]
  have hmax : (s.record ms).maxMs = max s.maxMs (max 0 ms) := by
    show (if (if ms < 0 then 0 else ms) > s.maxMs then _ else _) = _
    rw [hms]
    split
    · rename_i hgt
      rw [max_eq_right hgt.le]
    · rename_i hle
      rw [max_eq_left (not_lt.1 hle)]
  constructor
  · show (s.count + 1).toNat = _
    rw [UInt64.toNat_add, h.count, List.length_append, List.length_singleton]
    exact Nat.mod_add_mod _ _ _
  · intro i
    show (if bucketOfMs (if ms < 0 then 0 else ms) = i.val then s.buckets i + 1
      else s.buckets i).toNat = _
    rw [hms, List.countP_append, List.countP_singleton]
    by_cases hi : bucketOfMs (max 0 ms) = i.val
    · rw [if_pos hi, if_pos (decide_eq_true hi), UInt32.toNat_add, h.buckets]
      exact Nat.mod_add_mod _ _ _
    · rw [if_neg hi, if_neg (by simpa using hi), h.buckets, Nat.add_zero]
  · rw [hmax]
    exact h.maxMs_nonneg.trans (le_max_left _ _)
  · intro x hx
    rw [hmax]
    obtain hx | hx := List.mem_append.1 hx
    · exact (h.le_maxMs x hx).trans (le_max_left _ _)
    · rw [List.mem_singleton.1 hx]
      exact le_max_right _ _
  · left
    rw [hmax]
    obtain hle | hle := le_total s.maxMs (max 0 ms)
    · rw [max_eq_right hle]
      exact List.mem_append_right _ List.mem_cons_self
    · rw [max_eq_left hle]
      obtain hmem | ⟨-, hzero⟩ := h.maxMs_mem
      · exact List.mem_append_left _ hmem
      · -- The first sample is 0, like the maximum of none.
        have hms : max 0 ms = s.maxMs := le_antisymm (hzero.trans_le (le_max_left 0 ms)) hle |>.symm
        rw [hms]
        exact List.mem_append_right _ List.mem_cons_self

lemma Counts.foldl_record {done : List ℚ} (h : s.Counts done) (samples : List ℚ) :
    (samples.foldl TimingStat.record s).Counts (done ++ counted samples) := by
  induction samples generalizing s done with
  | nil => simpa [counted] using h
  | cons ms samples ih =>
    have hrest := ih (h.record ms)
    rwa [List.append_assoc] at hrest

lemma counts_recorded (samples : List ℚ) : (recorded samples).Counts (counted samples) :=
  counts_reset.foldl_record samples

lemma length_counted (samples : List ℚ) : (counted samples).length = samples.length :=
  List.length_map _

/-! ## Searching -/

lemma kBucketUpperMs_ne : kBucketUpperMs.toList ≠ [] := List.cons_ne_nil _ _

lemma getElem?_kBucketUpperMs (i : Fin numBuckets) :
    kBucketUpperMs.toList[i.val]? = some kBucketUpperMs[i] := by
  rw [List.getElem?_eq_getElem (by simp), Vector.getElem_toList]
  rfl

lemma bucketOf_lt_numBuckets (ms : ℚ) : bucketOfMs ms < numBuckets :=
  (bucketOf_lt kBucketUpperMs_ne ms).trans_eq (Vector.length_toList)

/-- What is reported for a bucket. -/
def reportMs (s : TimingStat) (i : Fin numBuckets) : ℚ :=
  if i.val = numBuckets - 1 then s.maxMs else kBucketUpperMs[i]

/-- The search from a bucket on, when the buckets before it have been added up. -/
lemma searchRank_eq {samples : List ℚ} {rank cumulative : UInt64} {l : List (Fin numBuckets)}
    {k : ℕ} {ms : ℚ} (hlen : samples.length < 2 ^ 64)
    (hcounts : ∀ i : Fin numBuckets, (s.buckets i).toNat =
      samples.countP fun ms => bucketOfMs ms = i.val)
    (hms : ofRank samples rank.toNat = some ms)
    (hl : l.map Fin.val = List.range' k l.length) (hend : k + l.length = numBuckets)
    (hcum : cumulative.toNat = samples.countP fun ms => bucketOfMs ms < k)
    (hk : k ≤ bucketOfMs ms) :
    s.searchRank rank l cumulative =
      s.reportMs ⟨bucketOfMs ms, bucketOf_lt_numBuckets ms⟩ := by
  induction l generalizing k cumulative with
  | nil =>
    have hlt := bucketOf_lt_numBuckets ms
    rw [List.length_nil] at hend
    omega
  | cons i l ih =>
    rw [List.map_cons, List.length_cons, List.range'_succ, List.cons.injEq] at hl
    obtain ⟨hi, hl⟩ := hl
    have hnext : (cumulative + (s.buckets i).toUInt64).toNat =
        samples.countP fun ms => bucketOfMs ms < k + 1 := by
      have hle := List.countP_le_length (l := samples)
        (p := fun ms => decide (bucketOfMs ms < k + 1))
      rw [UInt64.toNat_add, UInt32.toNat_toUInt64, hcum, hcounts, hi,
        ← countP_bucketOf_lt_succ]
      exact Nat.mod_eq_of_lt (hle.trans_lt hlen)
    have hiff : rank < cumulative + (s.buckets i).toUInt64 ↔
        bucketOfMs ms < k + 1 := by
      rw [UInt64.lt_iff_toNat_lt, hnext]
      exact lt_countP_bucketOf_iff hms
    rw [searchRank]
    by_cases hfound : bucketOfMs ms < k + 1
    · rw [if_pos (hiff.2 hfound)]
      have hieq : i = ⟨bucketOfMs ms, bucketOf_lt_numBuckets ms⟩ :=
        Fin.ext (by show i.val = bucketOfMs ms; omega)
      rw [← hieq]
      rfl
    · rw [if_neg (mt hiff.1 hfound)]
      refine ih hl ?_ hnext (not_lt.1 hfound)
      rw [List.length_cons] at hend
      omega

/-- The rank that is looked for. -/
lemma toNat_rank {count : UInt64} (hcount : count ≠ 0) {p : ℚ} (hp : p ≤ 1) :
    (if UInt64.ofNat ⌊p * count.toNat⌋₊ ≥ count then count - 1
      else UInt64.ofNat ⌊p * count.toNat⌋₊).toNat =
      min ⌊p * count.toNat⌋₊ (count.toNat - 1) := by
  have hpos : 0 < count.toNat := by
    by_contra hzero
    exact hcount (UInt64.toNat_inj.1 (by simpa using hzero))
  have hone : (1 : UInt64) ≤ count := UInt64.le_iff_toNat_le.2 hpos
  have hfloor : ⌊p * count.toNat⌋₊ ≤ count.toNat := by
    refine Nat.floor_le_of_le ?_
    have hnonneg : (0 : ℚ) ≤ count.toNat := Nat.cast_nonneg _
    calc p * count.toNat ≤ 1 * count.toNat := mul_le_mul_of_nonneg_right hp hnonneg
      _ = count.toNat := one_mul _
  have hto : (UInt64.ofNat ⌊p * count.toNat⌋₊).toNat = ⌊p * count.toNat⌋₊ :=
    UInt64.toNat_ofNat_of_lt' (hfloor.trans_lt count.toNat_lt)
  split
  · rename_i hge
    have hge' := UInt64.le_iff_toNat_le.1 hge
    rw [hto] at hge'
    rw [UInt64.toNat_sub_of_le _ _ hone, UInt64.toNat_one]
    omega
  · rename_i hlt
    have hlt' := UInt64.lt_iff_toNat_lt.1 (UInt64.not_le.1 hlt)
    rw [hto] at hlt' ⊢
    omega

/-- The report is that for the bucket of the sample of the rank. -/
lemma approxPercentileMs_eq (hne : samples ≠ []) (hno : NoOverflow samples) (h0 : 0 ≤ p)
    (h1 : p ≤ 1) :
    ∃ ms, ofRank (counted samples) (rankOf samples p) = some ms ∧
      (recorded samples).approxPercentileMs p =
        (recorded samples).reportMs ⟨bucketOfMs ms, bucketOf_lt_numBuckets ms⟩ := by
  have hcounts := counts_recorded samples
  have hcount : (recorded samples).count.toNat = samples.length := by
    rw [hcounts.count, length_counted, Nat.mod_eq_of_lt hno.count]
  have hpos : 0 < samples.length := List.length_pos_iff.2 hne
  have hzero : (recorded samples).count ≠ 0 := by
    intro hzero
    rw [hzero] at hcount
    exact hpos.ne hcount
  have hrank : rankOf samples p < (counted samples).length := by
    have hle : rankOf samples p ≤ samples.length - 1 := min_le_right _ _
    rw [length_counted]
    omega
  obtain ⟨ms, hms⟩ := exists_ofRank hrank
  refine ⟨ms, hms, ?_⟩
  rw [approxPercentileMs, if_neg hzero]
  dsimp only
  rw [if_neg (not_lt.2 h0), if_neg (not_lt.2 h1)]
  have hlen : (counted samples).length < 2 ^ 64 := by
    rw [length_counted]
    exact hno.count
  have hbuckets : ∀ i : Fin numBuckets, ((recorded samples).buckets i).toNat =
      (counted samples).countP fun ms => bucketOfMs ms = i.val := by
    intro i
    rw [hcounts.buckets, Nat.mod_eq_of_lt (hno.buckets i.val i.isLt)]
  refine searchRank_eq hlen hbuckets ?_ (k := 0) (by decide) rfl (by simp) (Nat.zero_le _)
  rw [toNat_rank hzero h1, hcount]
  exact hms

/-- The bound of a bucket that is not the last is not above a sample in a later one. -/
lemma reportMs_le {i j : Fin numBuckets} {ms : ℚ} (hin : InBucket kBucketUpperMs.toList j.val ms)
    (hlt : i.val < j.val) : s.reportMs i ≤ ms := by
  have hlast : i.val ≠ numBuckets - 1 := by
    have hj := j.isLt
    omega
  rw [reportMs, if_neg hlast]
  exact hin.bound_le i.val _ (getElem?_kBucketUpperMs i) hlt

/-- A sample is not above what is reported for its bucket. -/
lemma le_reportMs {i : Fin numBuckets} {ms : ℚ} (hin : InBucket kBucketUpperMs.toList i.val ms)
    (hmax : ms ≤ s.maxMs) : ms ≤ s.reportMs i := by
  rw [reportMs]
  split
  · exact hmax
  · rename_i hlast
    have hlt : i.val + 1 < kBucketUpperMs.toList.length := by
      have hi := i.isLt
      rw [Vector.length_toList]
      omega
    exact (hin.lt_bound _ (getElem?_kBucketUpperMs i) hlt).le

/-- **The report for a percentile is the bound of the bucket that the sample of its rank is in,
or the largest sample if that is the last bucket.** -/
theorem percentileRight (hne : samples ≠ []) (hno : NoOverflow samples) (h0 : 0 ≤ p)
    (h1 : p ≤ 1) : PercentileRight samples p := by
  have hcounts := counts_recorded samples
  have hne' : counted samples ≠ [] := by simpa [counted] using hne
  obtain ⟨ms, hms, hreport⟩ := approxPercentileMs_eq hne hno h0 h1
  have hmax := hcounts.le_maxMs ms (mem_of_ofRank hms)
  have hin := inBucket_bucketOf kBucketUpperMs_ne ms
  refine ⟨⟨?_, hcounts.le_maxMs⟩, ⟨ms, _, _, hms, hin,
    getElem?_kBucketUpperMs ⟨_, bucketOf_lt_numBuckets ms⟩, ?_⟩, ?_, ?_⟩
  · obtain hmem | ⟨hnil, -⟩ := hcounts.maxMs_mem
    · exact hmem
    · exact absurd hnil hne'
  · rw [hreport]
    rfl
  · intro ms' hms'
    obtain rfl : ms = ms' := Option.some.inj (hms.symm.trans hms')
    rw [hreport]
    exact le_reportMs hin hmax
  · intro q hpq hq
    obtain ⟨ms', hms', hreport'⟩ := approxPercentileMs_eq hne hno (h0.trans hpq) hq
    have hmax' := hcounts.le_maxMs ms' (mem_of_ofRank hms')
    have hin' := inBucket_bucketOf kBucketUpperMs_ne ms'
    have hranks : rankOf samples p ≤ rankOf samples q := by
      refine min_le_min (Nat.floor_mono ?_) le_rfl
      exact mul_le_mul_of_nonneg_right hpq (Nat.cast_nonneg _)
    have hle : bucketOfMs ms ≤ bucketOfMs ms' := bucketOf_mono (ofRank_le hranks hms hms')
    rw [hreport, hreport']
    obtain heq | hlt := hle.eq_or_lt
    · exact (congrArg (recorded samples).reportMs (Fin.ext heq)).le
    · have hle' : (recorded samples).reportMs ⟨bucketOfMs ms, bucketOf_lt_numBuckets ms⟩ ≤ ms' :=
        reportMs_le (j := ⟨bucketOfMs ms', bucketOf_lt_numBuckets ms'⟩) hin' hlt
      exact hle'.trans (le_reportMs (i := ⟨_, bucketOf_lt_numBuckets ms'⟩) hin' hmax')

/-- The median of samples some of which are at the bound of a bucket, in the last bucket or
negative. -/
theorem percentileRight_median : PercentileRight [-3, 1 / 4, 50, 1 / 4, 70] (1 / 2) := by
  refine percentileRight (List.cons_ne_nil _ _) ⟨by decide, fun i _ => ?_⟩ (by norm_num)
    (by norm_num)
  exact List.countP_le_length.trans_lt (by rw [length_counted]; decide)

end TimingStat
end Diag
end Sf4e
