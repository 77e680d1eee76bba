/-
# Reusing slots

Requests are served one after the other by slots, each of which is free or holds something.  A
request claims a slot that holds what it asks for and that no other request has claimed; when
there is none, what it asks for is put into a free slot, which is not claimed by that.

So a request may claim what an earlier one has had put there.  Of what the slots held at first,
`r` copies, and of `s` requests for it, there are `r` copies in the end if `s ≤ r`, and
`(s + r + 1) / 2` otherwise (`Serves.copies_eq`): as many as there are requests only when
`r ≤ s ≤ r + 1`.
-/
import Mathlib.Algebra.BigOperators.Group.Finset.Basic
import Mathlib.Algebra.Order.BigOperators.Group.Finset
import Mathlib.Data.Finset.Card
import Mathlib.Data.Fintype.Card

universe u v

/-- Slots that are free or hold something, those that are claimed, and the slots of the requests so
far, the latest first. -/
structure Reuse (ι : Type u) (κ : Type v) where
  slots : ι → Option κ
  claimed : Finset ι
  targets : List ι

namespace Reuse

variable {ι : Type u} {κ : Type v} [DecidableEq ι]

/-- A request is served. -/
inductive Serve (st : Reuse ι κ) (k : κ) : Reuse ι κ → Prop
  | claim {j : ι} (hj : st.slots j = some k) (hfree : j ∉ st.claimed) :
      Serve st k ⟨st.slots, insert j st.claimed, j :: st.targets⟩
  | start {j : ι} (hj : st.slots j = none) (hnone : ∀ i, st.slots i = some k → i ∈ st.claimed) :
      Serve st k ⟨Function.update st.slots j (some k), st.claimed, j :: st.targets⟩

/-- Requests, the latest first, are served from given slots on. -/
inductive Serves (slots : ι → Option κ) : List κ → Reuse ι κ → Prop
  | nil : Serves slots [] ⟨slots, ∅, []⟩
  | cons {ks : List κ} {st st' : Reuse ι κ} {k : κ} (h : Serves slots ks st)
      (hserve : st.Serve k st') : Serves slots (k :: ks) st'

namespace Serves

variable {slots : ι → Option κ} {ks : List κ} {st : Reuse ι κ}

/-- Every request has a slot that holds what it asks for. -/
lemma targets_spec (h : Serves slots ks st) :
    List.Forall₂ (fun j k => st.slots j = some k) st.targets ks := by
  induction h with
  | nil => exact .nil
  | cons _ hserve ih =>
    cases hserve with
    | claim hj hfree => exact .cons hj ih
    | start hj hnone =>
      refine .cons (Function.update_self ..) (ih.imp fun i k' hi => ?_)
      dsimp only
      rw [Function.update_of_ne, hi]
      rintro rfl
      rw [hj] at hi
      cases hi

/-- What a slot holds is not taken out. -/
lemma kept (h : Serves slots ks st) {j : ι} {k : κ} (hj : slots j = some k) :
    st.slots j = some k := by
  induction h with
  | nil => exact hj
  | cons _ hserve ih =>
    cases hserve with
    | claim => exact ih
    | start hj' =>
      dsimp only
      rw [Function.update_of_ne, ih]
      rintro rfl
      rw [hj'] at ih
      cases ih

/-- A slot that is claimed is not free. -/
lemma ne_none_of_claimed (h : Serves slots ks st) {j : ι} (hj : j ∈ st.claimed) :
    st.slots j ≠ none := by
  induction h with
  | nil => cases hj
  | cons _ hserve ih =>
    cases hserve with
    | claim hi =>
      rcases Finset.mem_insert.1 hj with rfl | hj
      · rw [hi]
        exact Option.some_ne_none _
      · exact ih hj
    | @start i hi =>
      dsimp only at hj ⊢
      by_cases hji : j = i
      · rw [hji, Function.update_self]
        exact Option.some_ne_none _
      · rw [Function.update_of_ne hji]
        exact ih hj

end Serves

/-! ## Counting -/

variable [Fintype ι] [DecidableEq κ]

/-- The number of slots that hold something. -/
def copies (slots : ι → Option κ) (k : κ) : ℕ := (Finset.univ.filter fun j => slots j = some k).card

/-- The number of slots that hold something and are claimed. -/
def claims (st : Reuse ι κ) (k : κ) : ℕ := (st.claimed.filter fun j => st.slots j = some k).card

omit [DecidableEq ι] in
/-- The slots that hold something are not more than the slots. -/
lemma copies_le_card (slots : ι → Option κ) (k : κ) : copies slots k ≤ Fintype.card ι :=
  Finset.card_le_univ _

lemma copies_update_self {slots : ι → Option κ} {j : ι} {k : κ} (hj : slots j = none) :
    copies (Function.update slots j (some k)) k = copies slots k + 1 := by
  have hnot : j ∉ Finset.univ.filter fun i => slots i = some k := by simp [hj]
  rw [copies, copies, ← Finset.card_insert_of_notMem hnot]
  refine congrArg Finset.card (Finset.ext fun i => ?_)
  by_cases hi : i = j <;> simp [hi]

lemma copies_update_of_ne {slots : ι → Option κ} {j : ι} {k k' : κ} (hj : slots j = none)
    (hne : k' ≠ k) : copies (Function.update slots j (some k)) k' = copies slots k' := by
  refine congrArg Finset.card (Finset.ext fun i => ?_)
  by_cases hi : i = j
  · subst hi
    simp [hj, hne.symm]
  · simp [hi]

omit [DecidableEq ι] in
/-- A free slot is left when nothing is held more often than it is asked for, and something less
often. -/
lemma exists_free {slots : ι → Option κ} {ks : List κ} {k : κ}
    (hle : ∀ k, copies slots k ≤ ks.count k) (hlt : copies slots k < ks.count k)
    (hlen : ks.length ≤ Fintype.card ι) : ∃ j, slots j = none := by
  by_contra hnone
  rw [not_exists] at hnone
  have hheld : ∀ j ∈ (Finset.univ : Finset ι), slots j ∈ (ks.toFinset.image some) := by
    intro j _
    obtain ⟨k', hk'⟩ := Option.ne_none_iff_exists'.1 (hnone j)
    have hpos : 0 < copies slots k' :=
      Finset.card_pos.2 ⟨j, Finset.mem_filter.2 ⟨Finset.mem_univ j, hk'⟩⟩
    have hmem : k' ∈ ks := List.count_pos_iff.1 (hpos.trans_le (hle k'))
    rw [hk']
    exact Finset.mem_image_of_mem _ (List.mem_toFinset.2 hmem)
  have hcard : Fintype.card ι = ∑ k ∈ ks.toFinset, copies slots k := by
    rw [← Finset.card_univ, Finset.card_eq_sum_card_fiberwise hheld,
      Finset.sum_image fun _ _ _ _ h => Option.some.inj h]
    rfl
  have hsum : ∑ k ∈ ks.toFinset, ks.count k = ks.length := List.sum_toFinset_count_eq_length ks
  have hmem : k ∈ ks.toFinset := List.mem_toFinset.2 (List.count_pos_iff.1 (by omega))
  have hless := Finset.sum_lt_sum (fun k _ => hle k) ⟨k, hmem, hlt⟩
  omega

namespace Serves

variable {slots : ι → Option κ} {ks : List κ} {st : Reuse ι κ}

omit [DecidableEq ι] in
lemma claims_le (st : Reuse ι κ) (k : κ) : st.claims k ≤ copies st.slots k :=
  Finset.card_le_card (Finset.filter_subset_filter _ (Finset.subset_univ _))

omit [DecidableEq ι] in
/-- All copies are claimed. -/
lemma copies_le_claims {k : κ} (h : ∀ i, st.slots i = some k → i ∈ st.claimed) :
    copies st.slots k ≤ st.claims k := by
  refine Finset.card_le_card fun i hi => ?_
  have hi' := (Finset.mem_filter.1 hi).2
  exact Finset.mem_filter.2 ⟨h i hi', hi'⟩

/-- **Counting invariant.** While there are copies that were there at first, requests claim them;
then a request whose copy is put there leaves it to the next one. -/
lemma counts (h : Serves slots ks st) (k : κ) :
    st.claims k + copies st.slots k = ks.count k + copies slots k ∧
      (ks.count k ≤ copies slots k → copies st.slots k = copies slots k) ∧
      (copies slots k ≤ ks.count k → copies st.slots k ≤ st.claims k + 1) := by
  induction h with
  | nil =>
    refine ⟨by simp [claims], fun _ => rfl, fun hle => ?_⟩
    exact Nat.le_succ_of_le (Nat.le_trans hle (Nat.zero_le _))
  | @cons ks st st' k' hserves hserve ih =>
    obtain ⟨hsum, hfew, hmany⟩ := ih
    cases hserve with
    | @claim j hj hfree =>
      by_cases hk : k = k'
      · subst hk
        have hnot : j ∉ st.claimed.filter fun i => st.slots i = some k := fun hmem =>
          hfree (Finset.mem_filter.1 hmem).1
        have hclaims : claims ⟨st.slots, insert j st.claimed, j :: st.targets⟩ k =
            st.claims k + 1 := by
          rw [claims, claims, Finset.filter_insert, if_pos hj, Finset.card_insert_of_notMem hnot]
        rw [hclaims, List.count_cons_self]
        simp only
        omega
      · have hclaims : claims ⟨st.slots, insert j st.claimed, j :: st.targets⟩ k =
            st.claims k := by
          have hother : st.slots j ≠ some k := by
            rw [hj]
            exact fun heq => hk (Option.some.inj heq).symm
          rw [claims, claims, Finset.filter_insert, if_neg hother]
        rw [hclaims, List.count_cons_of_ne (Ne.symm hk)]
        exact ⟨hsum, hfew, hmany⟩
    | @start j hj hnone =>
      have hclaims : ∀ k, claims ⟨Function.update st.slots j (some k'), st.claimed,
          j :: st.targets⟩ k = st.claims k := by
        intro k
        refine congrArg Finset.card (Finset.filter_congr fun i hi => ?_)
        dsimp only at hi ⊢
        have hij : i ≠ j := by
          rintro rfl
          exact hserves.ne_none_of_claimed hi hj
        rw [Function.update_of_ne hij]
      rw [hclaims]
      by_cases hk : k = k'
      · subst hk
        have hall := copies_le_claims hnone
        rw [List.count_cons_self, copies_update_self hj]
        omega
      · rw [List.count_cons_of_ne (Ne.symm hk), copies_update_of_ne hj hk]
        exact ⟨hsum, hfew, hmany⟩

/-- **How many copies there are in the end.** -/
theorem copies_eq (h : Serves slots ks st) (k : κ) :
    copies st.slots k =
      if ks.count k ≤ copies slots k then copies slots k
      else (ks.count k + copies slots k + 1) / 2 := by
  obtain ⟨hsum, hfew, hmany⟩ := h.counts k
  have hle := claims_le st k
  split
  · rename_i hcount
    exact hfew hcount
  · omega

/-- As many copies as requests. -/
lemma copies_eq_count_iff (h : Serves slots ks st) (k : κ) :
    copies st.slots k = ks.count k ↔
      copies slots k ≤ ks.count k ∧ ks.count k ≤ copies slots k + 1 := by
  rw [h.copies_eq]
  split <;> omega

/-- **When no slot is given to two requests.** -/
theorem nodup_targets (h : Serves slots ks st)
    (hle : ∀ k, ks.count k ≤ copies slots k + 1) :
    st.targets.Nodup ∧
      ∀ k, ks.count k ≤ copies slots k → ∀ j ∈ st.targets, st.slots j = some k →
        j ∈ st.claimed := by
  induction h with
  | nil => exact ⟨List.nodup_nil, by simp⟩
  | @cons ks st st' k' hserves hserve ih =>
    have hcount : ∀ k, ks.count k ≤ (k' :: ks).count k := fun k => by
      rw [List.count_cons]
      omega
    obtain ⟨hnodup, hclaimed⟩ := ih fun k => (hcount k).trans (hle k)
    have hself := hle k'
    rw [List.count_cons_self] at hself
    cases hserve with
    | @claim j hj hfree =>
      have hnot : j ∉ st.targets := fun hmem => hfree (hclaimed k' (by omega) j hmem hj)
      refine ⟨List.nodup_cons.2 ⟨hnot, hnodup⟩, fun k hk i hi hslot => ?_⟩
      rcases List.mem_cons.1 hi with rfl | hi
      · exact Finset.mem_insert_self _ _
      · exact Finset.mem_insert_of_mem (hclaimed k ((hcount k).trans hk) i hi hslot)
    | @start j hj hnone =>
      have hnot : j ∉ st.targets := by
        intro hmem
        obtain ⟨n, hn, rfl⟩ := List.getElem_of_mem hmem
        have hslot := (List.forall₂_iff_get.1 hserves.targets_spec).2 n hn
          ((List.Forall₂.length_eq hserves.targets_spec) ▸ hn)
        rw [List.get_eq_getElem, hj] at hslot
        cases hslot
      refine ⟨List.nodup_cons.2 ⟨hnot, hnodup⟩, fun k hk i hi hslot => ?_⟩
      dsimp only at hi hslot ⊢
      by_cases hij : i = j
      · -- a copy is put there only when all that there were are claimed
        subst hij
        rw [Function.update_self, Option.some.injEq] at hslot
        subst hslot
        obtain ⟨hsum, hfew, -⟩ := hserves.counts k'
        have hall := copies_le_claims hnone
        rw [List.count_cons_self] at hk
        omega
      · rw [Function.update_of_ne hij] at hslot
        have hi' := (List.mem_cons.1 hi).resolve_left hij
        exact hclaimed k ((hcount k).trans hk) i hi' hslot

/-- Where there were more copies than requests so far, one is not claimed. -/
lemma exists_unclaimed {k : κ} (h : Serves slots ks st) (hlt : ks.count k < copies slots k) :
    ∃ i, st.slots i = some k ∧ i ∉ st.claimed := by
  by_contra hnone
  have hall : copies st.slots k ≤ st.claims k := copies_le_claims fun i hi => by
    by_contra hnot
    exact hnone ⟨i, hi, hnot⟩
  obtain ⟨hsum, hfew, -⟩ := h.counts k
  have := hfew (by omega)
  omega

/-- A slot is free for a request that has to have its copy put there, when there are not too few
requests for anything, nor too many, and no more than slots altogether. -/
lemma exists_free {rest : List κ} {k : κ} (h : Serves slots ks st)
    (hbal : ∀ k', copies slots k' ≤ (rest ++ k :: ks).count k' ∧
      (rest ++ k :: ks).count k' ≤ copies slots k' + 1)
    (hlen : (rest ++ k :: ks).length ≤ Fintype.card ι)
    (hnone : ∀ i, st.slots i = some k → i ∈ st.claimed) : ∃ j, st.slots j = none := by
  have hcount : ∀ k', (rest ++ k :: ks).count k' =
      rest.count k' + (k :: ks).count k' := fun k' => List.count_append
  refine @Reuse.exists_free _ _ _ _ st.slots (rest ++ k :: ks) k (fun k' => ?_) ?_ hlen
  · obtain ⟨hle, hge⟩ := hbal k'
    have hmore : ks.count k' ≤ (k :: ks).count k' := by
      rw [List.count_cons]
      omega
    rw [hcount] at hle hge ⊢
    rw [h.copies_eq]
    split <;> omega
  · obtain ⟨hle, hge⟩ := hbal k
    have hall := copies_le_claims hnone
    obtain ⟨hsum, hfew, -⟩ := h.counts k
    rw [hcount, List.count_cons_self] at hle hge ⊢
    omega

end Serves

end Reuse
