/-
# Jobs that are worked on by turns

A server starts a job for each request and works on the jobs at once, a turn of one of them at a
time.  A job is numbered when it begins; a turn leaves it at work, in a new state, or brings it to
an end with a result.

When every turn uses up some fuel, a job has exactly one result or is still at work without any,
and it has only so many turns (`LTS.Run.jobs`).
-/
import Mathlib.Data.List.Nodup
import Mathlib.Data.List.Perm.Basic
import Sf4e.Trace.LTS

namespace Trace

universe u v w x y

/-! ## Jobs -/

/-- The jobs at work, by their numbers. -/
structure Jobs (β : Type x) where
  /-- The number of jobs that have begun, which is the number of the next one. -/
  count : ℕ := 0
  work : List (ℕ × β) := []

namespace Jobs

variable {β : Type x} {ρ : Type y} {jobs : Jobs β} {id id' : ℕ} {b : β}

/-- The state of a job at work. -/
def at? (jobs : Jobs β) (id : ℕ) : Option β := jobs.work.lookup id

/-- The other jobs at work. -/
def others (jobs : Jobs β) (id : ℕ) : List (ℕ × β) := jobs.work.filter fun j => j.1 ≠ id

/-- The next number is taken. -/
def draw (jobs : Jobs β) : Jobs β := { jobs with count := jobs.count + 1 }

/-- A turn of a job leaves it at work or ends it. -/
def settle (jobs : Jobs β) (id : ℕ) : β ⊕ ρ → Jobs β
  | .inl b => { jobs with work := (id, b) :: jobs.others id }
  | .inr _ => { jobs with work := jobs.others id }

/-- The job that a turn ends, and its result. -/
def ended (id : ℕ) : β ⊕ ρ → Option (ℕ × ρ)
  | .inl _ => none
  | .inr result => some (id, result)

/-- The numbers are different, and those that are still to come are not among them. -/
structure Numbered (jobs : Jobs β) : Prop where
  nodup : (jobs.work.map Prod.fst).Nodup
  lt : ∀ j ∈ jobs.work, j.1 < jobs.count

lemma numbered_empty : ({} : Jobs β).Numbered := ⟨List.nodup_nil, by simp⟩

lemma mem_of_at? (h : jobs.at? id = some b) : (id, b) ∈ jobs.work := by
  obtain ⟨l₁, l₂, hwork, -⟩ := List.lookup_eq_some_iff.1 h
  rw [hwork]
  exact List.mem_append_right _ List.mem_cons_self

lemma at?_settle_self (progress : β ⊕ ρ) :
    (jobs.settle id progress).at? id = progress.elim some fun _ => none := by
  have hothers : (jobs.others id).lookup id = none := by
    rw [List.lookup_eq_none_iff]
    intro j hj
    obtain ⟨-, hne⟩ := List.mem_filter.1 hj
    have hne' : j.1 ≠ id := by simpa using hne
    simpa using hne'.symm
  cases progress with
  | inl b => exact List.lookup_cons_self
  | inr result => exact hothers

lemma count_settle (progress : β ⊕ ρ) : (jobs.settle id progress).count = jobs.count := by
  cases progress <;> rfl

/-- The job that a turn ends is its own. -/
lemma of_ended {progress : β ⊕ ρ} {result : ρ} (h : ended id progress = some (id', result)) :
    id' = id ∧ progress = .inr result := by
  cases progress with
  | inl b => cases h
  | inr result' =>
    obtain ⟨rfl, rfl⟩ := Prod.mk.inj (Option.some.inj h)
    exact ⟨rfl, rfl⟩

lemma lookup_filter_ne (l : List (ℕ × β)) (hne : id' ≠ id) :
    (l.filter fun j => j.1 ≠ id).lookup id' = l.lookup id' := by
  induction l with
  | nil => rfl
  | cons j l ih =>
    by_cases hj : j.1 = id
    · rw [List.filter_cons_of_neg (by simp [hj]), ih, List.lookup_cons]
      have hfalse : (id' == j.1) = false := by simpa [hj] using hne
      rw [hfalse]
    · rw [List.filter_cons_of_pos (by simp [hj]), List.lookup_cons, List.lookup_cons, ih]

lemma at?_settle_of_ne (progress : β ⊕ ρ) (hne : id' ≠ id) :
    (jobs.settle id progress).at? id' = jobs.at? id' := by
  have hothers : (jobs.others id).lookup id' = jobs.work.lookup id' := lookup_filter_ne _ hne
  cases progress with
  | inl b =>
    have hfalse : (id' == id) = false := by simpa using hne
    have hcons : ((id, b) :: jobs.others id).lookup id' = (jobs.others id).lookup id' := by
      rw [List.lookup_cons, hfalse]
    exact hcons.trans hothers
  | inr result => exact hothers

/-- A job at work after a turn is another one, or the turn has left it so. -/
lemma of_at?_settle {progress : β ⊕ ρ} (h : (jobs.settle id progress).at? id' = some b) :
    (id ≠ id' ∧ jobs.at? id' = some b) ∨ id = id' ∧ progress = .inl b := by
  by_cases hid : id = id'
  · subst hid
    rw [at?_settle_self] at h
    cases progress with
    | inl b' => exact .inr ⟨rfl, congrArg Sum.inl (Option.some.inj h)⟩
    | inr result => cases h
  · rw [at?_settle_of_ne progress (Ne.symm hid)] at h
    exact .inl ⟨hid, h⟩

namespace Numbered

/-- No job at work has the next number. -/
lemma others_count (h : jobs.Numbered) : jobs.others jobs.count = jobs.work := by
  refine List.filter_eq_self.2 fun j hj => ?_
  have hlt := h.lt j hj
  simp only [decide_eq_true_eq]
  omega

lemma at?_of_le (h : jobs.Numbered) (hle : jobs.count ≤ id) : jobs.at? id = none := by
  cases hat : jobs.at? id with
  | none => rfl
  | some b =>
    have hlt := h.lt _ (mem_of_at? hat)
    simp only at hlt
    omega

/-- A number is that of one job only. -/
lemma at?_of_mem (h : jobs.Numbered) (hmem : (id, b) ∈ jobs.work) : jobs.at? id = some b := by
  cases hat : jobs.at? id with
  | none =>
    rw [at?, List.lookup_eq_none_iff] at hat
    have hne := hat _ hmem
    simp at hne
  | some b' =>
    have heq : (id, b') = (id, b) := List.inj_on_of_nodup_map h.nodup (mem_of_at? hat) hmem rfl
    rw [(Prod.mk.inj heq).2]

/-- A job at work and the others are all. -/
lemma perm (h : jobs.Numbered) (hat : jobs.at? id = some b) :
    jobs.work.Perm ((id, b) :: jobs.others id) := by
  obtain ⟨l₁, l₂, hwork, -⟩ := List.lookup_eq_some_iff.1 hat
  have hnodup := h.nodup
  rw [hwork, List.map_append, List.map_cons, List.nodup_middle, List.nodup_cons,
    List.mem_append, not_or] at hnodup
  obtain ⟨⟨h₁, h₂⟩, -⟩ := hnodup
  have hfilter : ∀ l : List (ℕ × β), id ∉ l.map Prod.fst →
      (l.filter fun j => j.1 ≠ id) = l := by
    intro l hl
    refine List.filter_eq_self.2 fun j hj => ?_
    simp only [decide_eq_true_eq]
    rintro rfl
    exact hl (List.mem_map_of_mem hj)
  have hothers : jobs.others id = l₁ ++ l₂ := by
    rw [others, hwork, List.filter_append, List.filter_cons_of_neg (by simp), hfilter l₁ h₁,
      hfilter l₂ h₂]
  rw [hothers, hwork]
  exact List.perm_middle

lemma draw (h : jobs.Numbered) : jobs.draw.Numbered :=
  ⟨h.nodup, fun j hj => Nat.lt_succ_of_lt (h.lt j hj)⟩

lemma settle (h : jobs.Numbered) (hid : id < jobs.count) (progress : β ⊕ ρ) :
    (jobs.settle id progress).Numbered := by
  have hsub : ((jobs.others id).map Prod.fst).Sublist (jobs.work.map Prod.fst) :=
    List.filter_sublist.map _
  have hothers : ∀ j ∈ jobs.others id, j.1 < jobs.count := fun j hj =>
    h.lt j (List.mem_of_mem_filter hj)
  cases progress with
  | inl b =>
    refine ⟨?_, ?_⟩
    · show (id :: (jobs.others id).map Prod.fst).Nodup
      refine List.nodup_cons.2 ⟨?_, hsub.nodup h.nodup⟩
      rintro hmem
      obtain ⟨j, hj, rfl⟩ := List.mem_map.1 hmem
      have hne := (List.mem_filter.1 hj).2
      simp at hne
    · intro j hj
      rcases List.mem_cons.1 hj with rfl | hj
      · exact hid
      · exact hothers j hj
  | inr result => exact ⟨hsub.nodup h.nodup, hothers⟩

end Numbered

/-! ## Turns -/

/-- A step of a system with jobs: the job that has a turn, and the job that ends with its
result.  A turn uses up some fuel, so that `fuel` limits the turns that a job at work may have. -/
inductive Turn (fuel : β → ℕ) (limit : ℕ) (jobs : Jobs β) :
    Option ℕ → Option (ℕ × ρ) → Jobs β → Prop
  | idle : Turn fuel limit jobs none none jobs
  | begins (progress : β ⊕ ρ) (hfuel : ∀ b, progress = .inl b → fuel b ≤ limit) :
      Turn fuel limit jobs (some jobs.count) (ended jobs.count progress)
        (jobs.draw.settle jobs.count progress)
  | goesOn {id : ℕ} {b : β} (progress : β ⊕ ρ) (hat : jobs.at? id = some b) (hpos : 0 < fuel b)
      (hfuel : ∀ b', progress = .inl b' → fuel b' < fuel b) :
      Turn fuel limit jobs (some id) (ended id progress) (jobs.settle id progress)

variable {fuel : β → ℕ} {limit : ℕ} {who : Option ℕ} {ending : Option (ℕ × ρ)} {jobs' : Jobs β}

/-- A job at work has begun. -/
lemma Numbered.lt_of_at? (h : jobs.Numbered) (hat : jobs.at? id = some b) : id < jobs.count :=
  h.lt _ (mem_of_at? hat)

lemma Turn.numbered (h : Turn (ρ := ρ) fuel limit jobs who ending jobs') (hjobs : jobs.Numbered) :
    jobs'.Numbered := by
  cases h with
  | idle => exact hjobs
  | begins progress hfuel => exact hjobs.draw.settle (Nat.lt_succ_self _) progress
  | goesOn progress hat hpos hfuel => exact hjobs.settle (hjobs.lt_of_at? hat) progress

lemma Turn.count_le (h : Turn (ρ := ρ) fuel limit jobs who ending jobs') :
    jobs.count ≤ jobs'.count := by
  cases h with
  | idle => exact Nat.le_refl _
  | begins progress hfuel =>
    rw [count_settle]
    exact Nat.le_succ _
  | goesOn progress hat hpos hfuel => exact Nat.le_of_eq (count_settle progress).symm

/-- The job that has a turn has a number of its own. -/
lemma Turn.lt_count (h : Turn (ρ := ρ) fuel limit jobs (some id) ending jobs')
    (hjobs : jobs.Numbered) : id < jobs'.count := by
  cases h with
  | begins progress hfuel =>
    rw [count_settle]
    exact Nat.lt_succ_self _
  | goesOn progress hat hpos hfuel =>
    rw [count_settle]
    exact hjobs.lt_of_at? hat

/-! ## Turns that may fail -/

/-- Where a turn leaves a job: at work with less fuel, or at an end with a result, which is good
unless the turn fails. -/
inductive Leaves (fuel : β → ℕ) (good : ρ → Prop) (fails : Prop) (left : ℕ) : β ⊕ ρ → Prop
  | waits {b : β} (hfuel : fuel b < left) (hok : ¬ fails) : Leaves fuel good fails left (.inl b)
  | ends {result : ρ} (hgood : good result ↔ ¬ fails) : Leaves fuel good fails left (.inr result)

/-- A step of a system with jobs, which may fail. -/
inductive Settles (fuel : β → ℕ) (limit : ℕ) (good : ρ → Prop) (fails : Prop) (jobs : Jobs β) :
    Option ℕ → Option (ℕ × ρ) → Jobs β → Prop
  | idle (hok : ¬ fails) : Settles fuel limit good fails jobs none none jobs
  | begins {progress : β ⊕ ρ} (h : Leaves fuel good fails (limit + 1) progress) :
      Settles fuel limit good fails jobs (some jobs.count) (ended jobs.count progress)
        (jobs.draw.settle jobs.count progress)
  | goesOn {id : ℕ} {b : β} {progress : β ⊕ ρ} (hat : jobs.at? id = some b)
      (h : Leaves fuel good fails (fuel b) progress) (hpos : 0 < fuel b) :
      Settles fuel limit good fails jobs (some id) (ended id progress) (jobs.settle id progress)

section

variable {good : ρ → Prop} {fails : Prop} {left : ℕ} {progress : β ⊕ ρ}

lemma Leaves.fuel_lt (h : Leaves fuel good fails left progress) :
    ∀ b, progress = .inl b → fuel b < left := by
  cases h with
  | waits hfuel hok =>
    rintro _ ⟨⟩
    exact hfuel
  | ends hgood => rintro _ ⟨⟩

/-- A turn fails when it ends a job badly. -/
lemma Leaves.good_iff (h : Leaves fuel good fails left progress) :
    (∀ id' result, ended id progress = some (id', result) → good result) ↔ ¬ fails := by
  cases h with
  | waits hfuel hok =>
    refine iff_of_true ?_ hok
    rintro id' result ⟨⟩
  | @ends result hgood =>
    rw [← hgood]
    constructor
    · intro h
      exact h id result rfl
    · rintro h id' result' hended
      obtain ⟨-, hresult⟩ := of_ended hended
      obtain rfl := Sum.inr.inj hresult
      exact h

lemma Settles.turn (h : Settles fuel limit good fails jobs who ending jobs') :
    Turn fuel limit jobs who ending jobs' := by
  cases h with
  | idle hok => exact .idle
  | @begins progress h =>
    exact .begins progress fun b hb => Nat.le_of_lt_succ (h.fuel_lt b hb)
  | @goesOn id b progress hat h hpos => exact .goesOn progress hat hpos h.fuel_lt

lemma Settles.good_iff (h : Settles fuel limit good fails jobs who ending jobs') :
    (∀ id result, ending = some (id, result) → good result) ↔ ¬ fails := by
  cases h with
  | idle hok =>
    refine iff_of_true ?_ hok
    rintro id result ⟨⟩
  | begins h => exact h.good_iff
  | goesOn hat h hpos => exact h.good_iff

end

end Jobs

/-! ## Runs -/

section

variable {σ : Type u} {α : Type v} {ω : Type w} {β : Type x} {ρ : Type y}

/-- The results that a job has along a log. -/
def results (ended : Entry σ α ω → Option (ℕ × ρ)) (id : ℕ) (log : List (Entry σ α ω)) : List ρ :=
  log.filterMap fun e => (ended e).bind fun r => if r.1 = id then some r.2 else none

/-- The number of turns that a job has along a log. -/
def turns (who : Entry σ α ω → Option ℕ) (id : ℕ) (log : List (Entry σ α ω)) : ℕ :=
  log.countP fun e => who e = some id

/-- What has become of a job: it is to begin, or it is at work and has no result, or it is over
and has one. -/
inductive JobState (fuel : β → ℕ) (limit : ℕ) (jobs : Jobs β) (id turns : ℕ) (results : List ρ) :
    Prop
  | toBegin (hle : jobs.count ≤ id) (hturns : turns = 0) (hresults : results = [])
  | atWork {b : β} (hat : jobs.at? id = some b) (hturns : turns + fuel b ≤ limit + 1)
      (hresults : results = [])
  | gone {result : ρ} (hlt : id < jobs.count) (hat : jobs.at? id = none)
      (hturns : turns ≤ limit + 1) (hresults : results = [result])

namespace JobState

variable {fuel : β → ℕ} {limit : ℕ} {jobs jobs' : Jobs β} {id n : ℕ} {rs : List ρ}

/-- Another job has a turn. -/
lemma of_other {other : ℕ} {progress : β ⊕ ρ} (h : JobState fuel limit jobs id n rs)
    (hne : id ≠ other) : JobState fuel limit (jobs.settle other progress) id n rs := by
  have hcount : (jobs.settle other progress).count = jobs.count := Jobs.count_settle progress
  have hsame : (jobs.settle other progress).at? id = jobs.at? id :=
    Jobs.at?_settle_of_ne progress hne
  cases h with
  | toBegin hle hturns hresults => exact .toBegin (hcount ▸ hle) hturns hresults
  | atWork hat hturns hresults => exact .atWork (hsame.trans hat) hturns hresults
  | gone hlt hat hturns hresults => exact .gone (hcount ▸ hlt) (hsame.trans hat) hturns hresults

/-- Another job begins. -/
lemma draw (h : JobState fuel limit jobs id n rs) (hne : id ≠ jobs.count) :
    JobState fuel limit jobs.draw id n rs := by
  cases h with
  | toBegin hle hturns hresults =>
    exact .toBegin (Nat.lt_of_le_of_ne hle hne.symm) hturns hresults
  | atWork hat hturns hresults => exact .atWork hat hturns hresults
  | gone hlt hat hturns hresults => exact .gone (Nat.lt_succ_of_lt hlt) hat hturns hresults

/-- The job itself has had a turn. -/
lemma of_settle {progress : β ⊕ ρ} (hlt : id < jobs.count) (hn : n ≤ limit + 1)
    (hfuel : ∀ b, progress = .inl b → n + fuel b ≤ limit + 1) :
    JobState fuel limit (jobs.settle id progress) id n (progress.elim (fun _ => []) ([·])) := by
  have hself : (jobs.settle id progress).at? id = progress.elim some fun _ => none :=
    Jobs.at?_settle_self progress
  cases progress with
  | inl b => exact .atWork hself (hfuel b rfl) rfl
  | inr result => exact .gone hlt hself hn rfl

/-- **Step lemma.** -/
lemma step {who : Option ℕ} {ending : Option (ℕ × ρ)} (h : JobState fuel limit jobs id n rs)
    (hnumbered : jobs.Numbered) (hturn : Jobs.Turn fuel limit jobs who ending jobs') :
    JobState fuel limit jobs' id (n + if who = some id then 1 else 0)
      ((ending.bind fun r => if r.1 = id then some r.2 else none).toList ++ rs) := by
  have hended : ∀ (progress : β ⊕ ρ), ((Jobs.ended id progress).bind fun r =>
      if r.1 = id then some r.2 else none).toList = progress.elim (fun _ => []) ([·]) := by
    intro progress
    cases progress with
    | inl b => rfl
    | inr result => simp [Jobs.ended]
  have hother : ∀ {other : ℕ} (progress : β ⊕ ρ), id ≠ other →
      ((Jobs.ended other progress).bind fun r => if r.1 = id then some r.2 else none) = none := by
    intro other progress hne
    cases progress with
    | inl b => rfl
    | inr result => simp [Jobs.ended, hne.symm]
  cases hturn with
  | idle => simpa using h
  | begins progress hfuel =>
    by_cases hid : id = jobs.count
    · subst hid
      cases h with
      | toBegin hle hturns hresults =>
        subst hturns hresults
        rw [hended, if_pos rfl, List.append_nil]
        -- its first turn
        refine of_settle (Nat.lt_succ_self _) (by omega) fun b hb => ?_
        have := hfuel b hb
        omega
      | atWork hat =>
        -- no job at work has the number that is drawn
        rw [hnumbered.at?_of_le (Nat.le_refl _)] at hat
        cases hat
      | gone hlt => exact absurd hlt (Nat.lt_irrefl _)
    · rw [hother progress hid, if_neg (by simpa using Ne.symm hid)]
      exact (h.draw hid).of_other hid
  | @goesOn other b progress hat hpos hfuel =>
    by_cases hid : id = other
    · subst hid
      cases h with
      | toBegin hle =>
        rw [hnumbered.at?_of_le hle] at hat
        cases hat
      | @atWork b' hat' hturns hresults =>
        obtain rfl := Option.some.inj (hat.symm.trans hat')
        subst hresults
        rw [hended, if_pos rfl, List.append_nil]
        -- a turn is had, and the fuel is less
        refine of_settle (hnumbered.lt_of_at? hat) (by omega) fun b' hb' => ?_
        have := hfuel b' hb'
        omega
      | gone hlt hat' =>
        rw [hat'] at hat
        cases hat
    · rw [hother progress hid, if_neg (by simpa using Ne.symm hid)]
      exact h.of_other hid

end JobState

variable {M : LTS σ α ω} {fuel : β → ℕ} {limit : ℕ} {who : Entry σ α ω → Option ℕ}
  {ended : Entry σ α ω → Option (ℕ × ρ)}

/-- **Jobs rule.** In a system whose steps are turns of jobs, a job that has begun is at work and
has no result, or it is over and has exactly one.  The number of its turns is limited. -/
theorem LTS.Run.jobState {jobs : σ → Jobs β} {log : List (Entry σ α ω)} {t : σ} (h : M.Run log t)
    (hinit : ∀ s, M.init s → jobs s = {})
    (hstep : ∀ e, M.Steps e → Jobs.Turn fuel limit (jobs e.pre) (who e) (ended e) (jobs e.post))
    (id : ℕ) : JobState fuel limit (jobs t) id (turns who id log) (results ended id log) := by
  have hall : (jobs t).Numbered ∧
      JobState fuel limit (jobs t) id (turns who id log) (results ended id log) := by
    refine h.invariant_of_step (fun log t => (jobs t).Numbered ∧
      JobState fuel limit (jobs t) id (turns who id log) (results ended id log)) ?_ ?_
    · intro s hs
      rw [hinit s hs]
      exact ⟨Jobs.numbered_empty, .toBegin (Nat.zero_le _) rfl rfl⟩
    · rintro log e ⟨hnumbered, hstate⟩ hs
      have hturn := hstep e hs
      refine ⟨hturn.numbered hnumbered, ?_⟩
      have hpost := hstate.step hnumbered hturn
      have hturns : turns who id (e :: log) =
          turns who id log + if who e = some id then 1 else 0 := by
        simp [turns, List.countP_cons]
      have hresults : results ended id (e :: log) = ((ended e).bind fun r =>
          if r.1 = id then some r.2 else none).toList ++ results ended id log := by
        rw [results, List.filterMap_cons]
        split
        · rename_i hnone
          rw [hnone]
          rfl
        · rename_i result hsome
          rw [hsome]
          rfl
      rwa [hturns, hresults]
  exact hall.2

lemma mem_results_iff {id : ℕ} {result : ρ} {log : List (Entry σ α ω)} :
    result ∈ results ended id log ↔ ∃ e ∈ log, ended e = some (id, result) := by
  simp only [results, List.mem_filterMap, Option.bind_eq_some_iff]
  constructor
  · rintro ⟨e, he, ⟨id', result'⟩, hended, hif⟩
    split at hif
    · rename_i hid
      obtain rfl := Option.some.inj hif
      obtain rfl : id' = id := hid
      exact ⟨e, he, hended⟩
    · cases hif
  · rintro ⟨e, he, hended⟩
    exact ⟨e, he, (id, result), hended, if_pos rfl⟩

/-- Every job that has begun is still at work and has no result, or it is over and has exactly
one, which is good.  It has at most `limit + 1` turns. -/
def EachEndsWell (who : Entry σ α ω → Option ℕ) (ended : Entry σ α ω → Option (ℕ × ρ))
    (good : ρ → Prop) (limit : ℕ) (jobs : Jobs β) (log : List (Entry σ α ω)) : Prop :=
  ∀ id < jobs.count, turns who id log ≤ limit + 1 ∧
    (((jobs.at? id).isSome ∧ results ended id log = []) ∨
      (jobs.at? id = none ∧ ∃ result, good result ∧ results ended id log = [result]))

/-- The jobs end well when no step ends one of them badly. -/
theorem LTS.Run.eachEndsWell_iff {jobs : σ → Jobs β} {log : List (Entry σ α ω)} {t : σ}
    (h : M.Run log t) (hinit : ∀ s, M.init s → jobs s = {})
    (hstep : ∀ e, M.Steps e → Jobs.Turn fuel limit (jobs e.pre) (who e) (ended e) (jobs e.post))
    {good : ρ → Prop} : EachEndsWell who ended good limit (jobs t) log ↔
      ∀ e ∈ log, ∀ id result, ended e = some (id, result) → good result := by
  constructor
  · intro hwell e he id result hended
    have hmem : result ∈ results ended id log := mem_results_iff.2 ⟨e, he, hended⟩
    have hlt : id < (jobs t).count := by
      cases h.jobState hinit hstep id with
      | toBegin hle hturns hresults => simp [hresults] at hmem
      | atWork hat hturns hresults => simp [hresults] at hmem
      | gone hlt => exact hlt
    obtain ⟨-, ⟨-, hnone⟩ | ⟨-, result', hgood, hone⟩⟩ := hwell id hlt
    · simp [hnone] at hmem
    · rw [hone, List.mem_singleton] at hmem
      exact hmem ▸ hgood
  · intro hgood id hlt
    cases h.jobState hinit hstep id with
    | toBegin hle => omega
    | atWork hat hturns hresults => exact ⟨by omega, .inl ⟨by simp [hat], hresults⟩⟩
    | @gone result _ hat hturns hresults =>
      refine ⟨hturns, .inr ⟨hat, result, ?_, hresults⟩⟩
      -- its one result came with some step
      obtain ⟨e, he, hended⟩ := mem_results_iff.1 (hresults ▸ List.mem_singleton_self result)
      exact hgood e he id result hended

/-- **Failing turns.** In a system whose turns may fail, the jobs end well when no turn fails. -/
theorem LTS.Run.eachEndsWell_iff_of_settles {jobs : σ → Jobs β} {log : List (Entry σ α ω)} {t : σ}
    (h : M.Run log t) (hinit : ∀ s, M.init s → jobs s = {}) {good : ρ → Prop}
    {fails : Entry σ α ω → Prop} (hstep : ∀ e, M.Steps e →
      Jobs.Settles fuel limit good (fails e) (jobs e.pre) (who e) (ended e) (jobs e.post)) :
    EachEndsWell who ended good limit (jobs t) log ↔ ∀ e ∈ log, ¬ fails e := by
  rw [h.eachEndsWell_iff hinit fun e he => (hstep e he).turn]
  obtain ⟨s, -, hpath⟩ := h
  refine forall₂_congr fun e he => ?_
  exact (hstep e (hpath.steps_of_mem he)).good_iff

/-- When all results along a log are good, no turn has failed. -/
lemma LTS.Run.not_fails_of_good {jobs : σ → Jobs β} {log : List (Entry σ α ω)} {t : σ}
    (h : M.Run log t) {good : ρ → Prop} {fails : Entry σ α ω → Prop} (hstep : ∀ e, M.Steps e →
      Jobs.Settles fuel limit good (fails e) (jobs e.pre) (who e) (ended e) (jobs e.post))
    (hgood : ∀ r ∈ log.filterMap ended, good r.2) : ∀ e ∈ log, ¬ fails e := by
  intro e he
  obtain ⟨s, -, hpath⟩ := h
  refine (hstep e (hpath.steps_of_mem he)).good_iff.1 ?_
  intro id result hended
  exact hgood (id, result) (List.mem_filterMap.2 ⟨e, he, hended⟩)

end

end Trace
