/-
# Systems that publish a view of their state

A publisher sends its subscribers the whole of a view of its state, at moments of its own
choosing.  Between a change of the view and the next publication it is *behind*.  This file looks
at one subscriber of such a system, and at the copies of the view that it was sent in the course
of a run: at every moment at which the publisher is not behind, the last copy is the view of the
moment (`Publisher.current`), and the copies come from the run's entries in the order of the run
(`Publisher.exists_reach_eq_cons`, `Publisher.reach_mono`).
-/
import Sf4e.Trace.LTS

namespace Trace

universe u v w x

variable {σ : Type u} {α : Type v} {ω : Type w} {M : LTS σ α ω}

/-- A system that publishes a view of its state, as one subscriber sees it. -/
structure Publisher (M : LTS σ α ω) (ν : Type x) where
  /-- What is published. -/
  view : σ → ν
  /-- Is a publication due? -/
  Behind : σ → Prop
  /-- Is the subscriber on the list? -/
  Subscribed : σ → Prop
  /-- The copies of the view that an output brings the subscriber. -/
  news : ω → List ν
  /-- Every copy is the view at the time it was sent. -/
  eq_of_mem_news {e : Entry σ α ω} : M.Steps e → ∀ v ∈ news e.out, v = view e.pre
  /-- A step after which nothing is due has not changed the view, and it either publishes or has
  found the subscriber up to date. -/
  kept {e : Entry σ α ω} : M.Steps e → ¬ Behind e.post → Subscribed e.post →
    view e.post = view e.pre ∧ (news e.out ≠ [] ∨ ¬ Behind e.pre ∧ Subscribed e.pre)
  /-- Nobody starts as a subscriber. -/
  not_subscribed {s : σ} : M.init s → ¬ Subscribed s

namespace Publisher

variable {ν : Type x} (P : Publisher M ν)

/-- All copies sent in the course of a log, oldest first. -/
def published (log : List (Entry σ α ω)) : List ν := log.reverse.flatMap fun e => P.news e.out

@[simp] lemma published_nil : P.published [] = [] := rfl

@[simp] lemma published_cons (e : Entry σ α ω) (log : List (Entry σ α ω)) :
    P.published (e :: log) = P.published log ++ P.news e.out := by
  simp [published]

lemma published_append (newer older : List (Entry σ α ω)) :
    P.published (newer ++ older) = P.published older ++ P.published newer := by
  simp [published]

/-- **A subscriber is up to date.** Whenever nothing is due, the last copy that a subscriber was
sent is the view of the moment. -/
theorem current {log : List (Entry σ α ω)} {t : σ} (h : M.Run log t) (hbehind : ¬ P.Behind t)
    (hsub : P.Subscribed t) : (P.published log).getLast? = some (P.view t) := by
  have hinv := h.invariant_of_step
    (fun log t => ¬ P.Behind t → P.Subscribed t → (P.published log).getLast? = some (P.view t))
    (fun s hs _ hsub => absurd hsub (P.not_subscribed hs)) (fun log e ih hstep hb hs => ?_)
  · exact hinv hbehind hsub
  · obtain ⟨hview, hnews | ⟨hpre, hpresub⟩⟩ := P.kept hstep hb hs
    · rw [published_cons, List.getLast?_append_of_ne_nil _ hnews,
        List.getLast?_eq_some_getLast hnews, hview]
      exact congrArg some (P.eq_of_mem_news hstep _ (List.getLast_mem hnews))
    · have hlast := ih hpre hpresub
      -- whatever the step sends is still the same view
      cases hn : (P.news e.out).getLast? with
      | none =>
        rw [published_cons, List.getLast?_eq_none_iff.1 hn, List.append_nil, hlast, hview]
      | some v =>
        have hmem : v ∈ P.news e.out := List.mem_of_getLast? hn
        rw [published_cons, List.getLast?_append, hn, Option.some_or, hview,
          P.eq_of_mem_news hstep v hmem]

/-! ## Where a copy comes from -/

/-- The log up to the entry that sends the `n`-th copy; nothing for `n = 0`. -/
def reach (n : ℕ) : List (Entry σ α ω) → List (Entry σ α ω)
  | [] => []
  | e :: log => if n ≤ (P.published log).length then reach n log else e :: log

lemma reach_zero (log : List (Entry σ α ω)) : P.reach 0 log = [] := by
  induction log with
  | nil => rfl
  | cons e log ih => simpa [reach] using ih

lemma reach_suffix (n : ℕ) (log : List (Entry σ α ω)) : P.reach n log <:+ log := by
  induction log with
  | nil => exact List.suffix_rfl
  | cons e log ih =>
    rw [reach]
    split
    · exact ih.trans (List.suffix_cons e log)
    · exact List.suffix_rfl

/-- Later entries do not change where a copy came from. -/
lemma reach_append {n : ℕ} {older : List (Entry σ α ω)} (h : n ≤ (P.published older).length)
    (newer : List (Entry σ α ω)) : P.reach n (newer ++ older) = P.reach n older := by
  induction newer with
  | nil => rfl
  | cons e newer ih =>
    have hle : n ≤ (P.published (newer ++ older)).length := by
      rw [published_append, List.length_append]
      omega
    rw [List.cons_append, reach, if_pos hle, ih]

/-- A later copy does not come from an earlier entry. -/
lemma reach_mono {n m : ℕ} (h : n ≤ m) (log : List (Entry σ α ω)) :
    P.reach n log <:+ P.reach m log := by
  induction log with
  | nil => exact List.suffix_rfl
  | cons e log ih =>
    by_cases hm : m ≤ (P.published log).length
    · rw [reach, reach, if_pos (Nat.le_trans h hm), if_pos hm]
      exact ih
    · rw [show P.reach m (e :: log) = e :: log from if_neg hm]
      exact P.reach_suffix n (e :: log)

/-- **Every copy is a view of the past.** The entry that sent a copy was taken in a state with
that view. -/
lemma exists_reach_eq_cons {s t : σ} {log : List (Entry σ α ω)} (h : M.Path s log t) {n : ℕ}
    {v : ν} (hv : (P.published log)[n]? = some v) :
    ∃ e older, P.reach (n + 1) log = e :: older ∧ v = P.view e.pre := by
  induction h with
  | refl => simp at hv
  | @snoc log e hpath hstep ih =>
    rw [published_cons] at hv
    by_cases hn : n < (P.published log).length
    · rw [List.getElem?_append_left hn] at hv
      obtain ⟨e', older, hreach, hview⟩ := ih hv
      exact ⟨e', older, by rw [reach, if_pos (Nat.succ_le_of_lt hn), hreach], hview⟩
    · rw [List.getElem?_append_right (Nat.le_of_not_lt hn)] at hv
      exact ⟨e, log, if_neg hn, P.eq_of_mem_news hstep v (List.mem_of_getElem? hv)⟩

end Publisher

end Trace
