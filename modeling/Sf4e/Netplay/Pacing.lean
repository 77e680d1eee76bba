/-
# Pacing

When this side is ahead of the other one, GGPO recommends to slow down by some frames.
`PacingController` keeps the recommendation as a debt in milliseconds, which the outer tick
repays in slices.  A new recommendation replaces the debt, a reset throws it away, and a wait
may be longer than what was proposed.

Every change of the debt is entered in one of the statistics, so that these add up.  Durations
are rational numbers where the source has `double`.
-/
import Mathlib.Algebra.Order.Floor.Semiring
import Mathlib.Data.Rat.Floor
import Mathlib.Tactic.Linarith
import Mathlib.Tactic.Positivity
import Mathlib.Tactic.FieldSimp

namespace Sf4e
namespace Pacing

/-- `PacingController`. -/
structure PacingController where
  /-- The bound on one recommendation. -/
  maxRecommendationFrames : ℚ
  /-- The bound on the wait of one outer frame. -/
  maxStepMs : ℚ
  /-- It is not worth waiting for less. -/
  minWaitMs : ℚ
  enabled : Bool
  /-- The debt. -/
  outstandingMs : ℚ
  recommendationsReceived : UInt32
  framesRecommendedTotal : UInt64
  /-- The debt that recommendations have made. -/
  msAcceptedTotal : ℚ
  /-- How long the host has waited. -/
  msAppliedTotal : ℚ
  maxSingleWaitMs : ℚ
  maxOutstandingMs : ℚ
  /-- The debt that resets have thrown away. -/
  msDiscardedOnReset : ℚ
  /-- The debt that recommendations have replaced. -/
  msReplacedTotal : ℚ
  msDiscardedDisabled : ℚ
  waitRequests : UInt64
  msRequestedTotal : ℚ
  maxRequestedWaitMs : ℚ
  waitFailures : UInt32
  waitTimeouts : UInt32
  fallbackSleeps : UInt32
deriving DecidableEq, Inhabited

/-- The time of a frame. -/
def frameMs : ℚ := 1000 / 60

namespace PacingController

/-- `ResetStats`. -/
def resetStats (p : PacingController) : PacingController :=
  { p with
    recommendationsReceived := 0
    framesRecommendedTotal := 0
    msAcceptedTotal := 0
    msAppliedTotal := 0
    maxSingleWaitMs := 0
    maxOutstandingMs := 0
    msDiscardedOnReset := 0
    msReplacedTotal := 0
    msDiscardedDisabled := 0
    waitRequests := 0
    msRequestedTotal := 0
    maxRequestedWaitMs := 0
    waitFailures := 0
    waitTimeouts := 0
    fallbackSleeps := 0 }

/-- `InitDefaults`. -/
def initDefaults (p : PacingController) : PacingController :=
  { p with
    maxRecommendationFrames := 9
    maxStepMs := 3
    minWaitMs := 1
    enabled := true
    outstandingMs := 0 }.resetStats

/-- `Reset`. -/
def reset (p : PacingController) : PacingController :=
  { p with msDiscardedOnReset := p.msDiscardedOnReset + p.outstandingMs, outstandingMs := 0 }

/-- `OnRecommendation`. -/
def onRecommendation (p : PacingController) (framesAhead : ℤ) : PacingController :=
  let p := { p with recommendationsReceived := p.recommendationsReceived + 1 }
  if framesAhead ≤ 0 then p
  else
    let p := { p with
      framesRecommendedTotal := p.framesRecommendedTotal + UInt64.ofNat framesAhead.toNat }
    let frames : ℚ := framesAhead
    let frames := if frames > p.maxRecommendationFrames then p.maxRecommendationFrames else frames
    let ms := frames * frameMs
    if !p.enabled then { p with msDiscardedDisabled := p.msDiscardedDisabled + ms }
    else
      { p with
        msReplacedTotal := p.msReplacedTotal + p.outstandingMs
        outstandingMs := ms
        msAcceptedTotal := p.msAcceptedTotal + ms
        maxOutstandingMs := if ms > p.maxOutstandingMs then ms else p.maxOutstandingMs }

/-- `NextWaitMs`. -/
def nextWaitMs (p : PacingController) : ℚ :=
  if !p.enabled || p.outstandingMs < p.minWaitMs then 0
  else if p.outstandingMs < p.maxStepMs then p.outstandingMs else p.maxStepMs

/-- `OnWaitRequested`. -/
def onWaitRequested (p : PacingController) (requestedMs : ℚ) : PacingController :=
  if requestedMs ≤ 0 then p
  else
    { p with
      waitRequests := p.waitRequests + 1
      msRequestedTotal := p.msRequestedTotal + requestedMs
      maxRequestedWaitMs :=
        if requestedMs > p.maxRequestedWaitMs then requestedMs else p.maxRequestedWaitMs }

/-- `OnWaitFailure`. -/
def onWaitFailure (p : PacingController) (timeout : Bool) : PacingController :=
  { p with
    waitFailures := p.waitFailures + 1
    waitTimeouts := if timeout then p.waitTimeouts + 1 else p.waitTimeouts }

/-- `OnFallbackSleep`. -/
def onFallbackSleep (p : PacingController) : PacingController :=
  { p with fallbackSleeps := p.fallbackSleeps + 1 }

/-- `OnWaited`. -/
def onWaited (p : PacingController) (actualMs : ℚ) : PacingController :=
  if actualMs ≤ 0 then p
  else
    { p with
      msAppliedTotal := p.msAppliedTotal + actualMs
      maxSingleWaitMs := if actualMs > p.maxSingleWaitMs then actualMs else p.maxSingleWaitMs
      outstandingMs :=
        if p.outstandingMs - actualMs < 0 then 0 else p.outstandingMs - actualMs }

end PacingController

/-! ## Runs -/

/-- A call of the controller by its host. -/
inductive Call
  /-- `OnRecommendation` -/
  | recommendation (framesAhead : ℤ)
  /-- `OnWaited` -/
  | waited (actualMs : ℚ)
  /-- `Reset` -/
  | reset
  /-- `OnWaitRequested` -/
  | waitRequested (requestedMs : ℚ)
  /-- `OnWaitFailure` -/
  | waitFailure (timeout : Bool)
  /-- `OnFallbackSleep` -/
  | fallbackSleep
deriving DecidableEq

namespace PacingController

/-- The controller after a call. -/
def after (p : PacingController) : Call → PacingController
  | .recommendation framesAhead => p.onRecommendation framesAhead
  | .waited actualMs => p.onWaited actualMs
  | .reset => p.reset
  | .waitRequested requestedMs => p.onWaitRequested requestedMs
  | .waitFailure timeout => p.onWaitFailure timeout
  | .fallbackSleep => p.onFallbackSleep

/-- The controller after a sequence of calls. -/
def run (p : PacingController) (calls : List Call) : PacingController := calls.foldl after p

/-- By how much a call repays the debt: only waits do. -/
def repays (p : PacingController) : Call → ℚ
  | .waited actualMs => p.outstandingMs - (p.onWaited actualMs).outstandingMs
  | _ => 0

/-- By how much the waits among the calls repay the debt. -/
def repaid (p : PacingController) : List Call → ℚ
  | [] => 0
  | call :: calls => p.repays call + (p.after call).repaid calls

/-- Every wait is as long as the controller has proposed just before it. -/
def MeetsProposals (p : PacingController) : List ℚ → Prop
  | [] => True
  | wait :: waits => p.nextWaitMs ≤ wait ∧ (p.onWaited wait).MeetsProposals waits

/-- The accounts of a controller after a sequence of calls. -/
structure Accounts (p : PacingController) (calls : List Call) : Prop where
  /-- There is no negative debt. -/
  nonneg : 0 ≤ (p.run calls).outstandingMs
  /-- The debt is at most the time of the frames that one recommendation may ask for. -/
  le_cap : (p.run calls).outstandingMs ≤ p.maxRecommendationFrames * frameMs
  /-- What has been accepted is still owed, or has been replaced, discarded or repaid. -/
  accepted : (p.run calls).msAcceptedTotal =
    (p.run calls).outstandingMs + (p.run calls).msReplacedTotal +
      (p.run calls).msDiscardedOnReset + p.repaid calls
  /-- What has been repaid has been waited. -/
  repaid_le : p.repaid calls ≤ (p.run calls).msAppliedTotal
  /-- No proposal is longer than a step or than the debt. -/
  nextWaitMs_le : (p.run calls).nextWaitMs ≤ min p.maxStepMs (p.run calls).outstandingMs
  /-- Waits that are as long as proposed settle the debt, in as many steps as it has. -/
  settles : ∀ waits, (p.run calls).MeetsProposals waits →
    ⌈(p.run calls).outstandingMs / p.maxStepMs⌉₊ ≤ waits.length →
      ((p.run calls).run (waits.map .waited)).nextWaitMs = 0

/-! ## Steps -/

section

variable {p : PacingController}

@[simp] lemma run_nil : p.run [] = p := rfl

@[simp] lemma run_cons (call : Call) (calls : List Call) :
    p.run (call :: calls) = (p.after call).run calls := rfl

/-- What calls leave alone. -/
structure SameConfig (p q : PacingController) : Prop where
  maxRecommendationFrames : q.maxRecommendationFrames = p.maxRecommendationFrames
  maxStepMs : q.maxStepMs = p.maxStepMs
  minWaitMs : q.minWaitMs = p.minWaitMs
  enabled : q.enabled = p.enabled

lemma SameConfig.refl (p : PacingController) : SameConfig p p := ⟨rfl, rfl, rfl, rfl⟩

lemma SameConfig.trans {p q r : PacingController} (h : SameConfig p q) (h' : SameConfig q r) :
    SameConfig p r :=
  ⟨h'.maxRecommendationFrames.trans h.maxRecommendationFrames, h'.maxStepMs.trans h.maxStepMs,
    h'.minWaitMs.trans h.minWaitMs, h'.enabled.trans h.enabled⟩

lemma sameConfig_onWaited (actualMs : ℚ) : SameConfig p (p.onWaited actualMs) := by
  rw [onWaited]
  split
  · exact .refl p
  · exact ⟨rfl, rfl, rfl, rfl⟩

lemma sameConfig_after (call : Call) : SameConfig p (p.after call) := by
  cases call with
  | recommendation framesAhead =>
    simp only [after, onRecommendation]
    split_ifs <;> exact ⟨rfl, rfl, rfl, rfl⟩
  | waited actualMs => exact sameConfig_onWaited actualMs
  | waitRequested requestedMs =>
    simp only [after, onWaitRequested]
    split_ifs <;> exact ⟨rfl, rfl, rfl, rfl⟩
  | reset | waitFailure timeout | fallbackSleep => exact ⟨rfl, rfl, rfl, rfl⟩

lemma sameConfig_run (calls : List Call) : SameConfig p (p.run calls) := by
  induction calls generalizing p with
  | nil => exact .refl p
  | cons call calls ih => exact (sameConfig_after call).trans ih

/-- A wait takes the debt down, but not below nothing. -/
lemma outstandingMs_onWaited (h : 0 ≤ p.outstandingMs) (actualMs : ℚ) :
    (p.onWaited actualMs).outstandingMs = max 0 (p.outstandingMs - max 0 actualMs) := by
  rw [onWaited]
  split
  · rename_i hneg
    rw [max_eq_left hneg, sub_zero, max_eq_right h]
  · rename_i hpos
    rw [max_eq_right (le_of_not_ge hpos)]
    dsimp only
    split
    · rename_i hlt
      rw [max_eq_left hlt.le]
    · rename_i hge
      rw [max_eq_right (le_of_not_gt hge)]

lemma msAppliedTotal_onWaited (actualMs : ℚ) :
    (p.onWaited actualMs).msAppliedTotal = p.msAppliedTotal + max 0 actualMs := by
  rw [onWaited]
  split
  · rename_i hneg
    rw [max_eq_left hneg, add_zero]
  · rename_i hpos
    rw [max_eq_right (le_of_not_ge hpos)]

/-- What a recommendation does to the accounts of a controller that is enabled: nothing, or it
replaces the debt by one within the bound. -/
lemma onRecommendation_cases (henabled : p.enabled = true) (hpos : 0 < p.maxRecommendationFrames)
    (framesAhead : ℤ) :
    let q := p.onRecommendation framesAhead
    q.msAppliedTotal = p.msAppliedTotal ∧ q.msDiscardedOnReset = p.msDiscardedOnReset ∧
      (q.outstandingMs = p.outstandingMs ∧ q.msAcceptedTotal = p.msAcceptedTotal ∧
          q.msReplacedTotal = p.msReplacedTotal ∨
        0 ≤ q.outstandingMs ∧ q.outstandingMs ≤ p.maxRecommendationFrames * frameMs ∧
          q.msAcceptedTotal = p.msAcceptedTotal + q.outstandingMs ∧
          q.msReplacedTotal = p.msReplacedTotal + p.outstandingMs) := by
  have hframe : 0 ≤ frameMs := by norm_num [frameMs]
  rw [onRecommendation]
  by_cases hnone : framesAhead ≤ 0
  · rw [if_pos hnone]
    exact ⟨rfl, rfl, .inl ⟨rfl, rfl, rfl⟩⟩
  · have hahead : (0 : ℚ) ≤ framesAhead := by exact_mod_cast (not_le.1 hnone).le
    rw [if_neg hnone]
    dsimp only
    rw [henabled, Bool.not_true, if_neg Bool.false_ne_true]
    refine ⟨rfl, rfl, .inr ⟨?_, ?_, rfl, rfl⟩⟩
    · refine mul_nonneg ?_ hframe
      split
      · exact hpos.le
      · exact hahead
    · refine mul_le_mul_of_nonneg_right ?_ hframe
      split
      · exact le_rfl
      · rename_i hle
        exact not_lt.1 hle

end

/-! ## The accounts -/

/-- The accounts of a controller that is enabled balance, with a given sum repaid. -/
structure Balanced (p : PacingController) (repaid : ℚ) : Prop where
  enabled : p.enabled = true
  frames_pos : 0 < p.maxRecommendationFrames
  nonneg : 0 ≤ p.outstandingMs
  le_cap : p.outstandingMs ≤ p.maxRecommendationFrames * frameMs
  accepted : p.msAcceptedTotal =
    p.outstandingMs + p.msReplacedTotal + p.msDiscardedOnReset + repaid
  repaid_le : repaid ≤ p.msAppliedTotal

section

variable {p : PacingController} {repaid : ℚ}

/-- A controller without debt whose statistics have been reset. -/
lemma balanced_resetStats (henabled : p.enabled = true) (hpos : 0 < p.maxRecommendationFrames)
    (hdebt : p.outstandingMs = 0) : p.resetStats.Balanced 0 where
  enabled := henabled
  frames_pos := hpos
  nonneg := hdebt.ge
  le_cap := by
    rw [show p.resetStats.outstandingMs = 0 from hdebt]
    exact mul_nonneg hpos.le (by norm_num [frameMs])
  accepted := by simp [resetStats, hdebt]
  repaid_le := le_rfl

/-- Each call moves the debt from one account to another. -/
lemma Balanced.after (h : p.Balanced repaid) (call : Call) :
    (p.after call).Balanced (repaid + p.repays call) := by
  have hcap : 0 ≤ p.maxRecommendationFrames * frameMs := h.nonneg.trans h.le_cap
  cases call with
  | recommendation framesAhead =>
    have hconfig := sameConfig_after (p := p) (.recommendation framesAhead)
    obtain ⟨happlied, hdiscarded, hdebt⟩ :=
      onRecommendation_cases h.enabled h.frames_pos framesAhead
    simp only [PacingController.after, repays, add_zero] at hconfig ⊢
    have hrepaid := h.repaid_le.trans happlied.ge
    -- the recommendation is ignored, or it replaces the debt
    obtain ⟨hsame, haccepted, hreplaced⟩ | ⟨hnonneg, hle, haccepted, hreplaced⟩ := hdebt
    · exact ⟨hconfig.enabled.trans h.enabled, h.frames_pos.trans_eq hconfig.1.symm,
        h.nonneg.trans_eq hsame.symm, by rw [hsame, hconfig.1]; exact h.le_cap,
        by rw [haccepted, hsame, hreplaced, hdiscarded, h.accepted], hrepaid⟩
    · exact ⟨hconfig.enabled.trans h.enabled, h.frames_pos.trans_eq hconfig.1.symm,
        hnonneg, by rw [hconfig.1]; exact hle,
        by rw [haccepted, hreplaced, hdiscarded, h.accepted]; ring, hrepaid⟩
  | waited actualMs =>
    have hconfig := sameConfig_onWaited (p := p) actualMs
    have hdebt := outstandingMs_onWaited h.nonneg actualMs
    have hle : (p.onWaited actualMs).outstandingMs ≤ p.outstandingMs := by
      rw [hdebt]
      exact max_le h.nonneg (sub_le_self _ (le_max_left _ _))
    have hrest : p.outstandingMs - max 0 actualMs ≤ (p.onWaited actualMs).outstandingMs := by
      rw [hdebt]
      exact le_max_right _ _
    -- a wait touches what is owed and what is applied
    have hother : (p.onWaited actualMs).msAcceptedTotal = p.msAcceptedTotal ∧
        (p.onWaited actualMs).msReplacedTotal = p.msReplacedTotal ∧
        (p.onWaited actualMs).msDiscardedOnReset = p.msDiscardedOnReset := by
      rw [onWaited]
      split <;> exact ⟨rfl, rfl, rfl⟩
    refine ⟨hconfig.enabled.trans h.enabled, h.frames_pos.trans_eq hconfig.1.symm, ?_, ?_, ?_, ?_⟩
    · exact (le_max_left _ _).trans_eq hdebt.symm
    · exact hle.trans (h.le_cap.trans_eq (by rw [← hconfig.1]; rfl))
    · simp only [PacingController.after, repays]
      rw [hother.1, hother.2.1, hother.2.2, h.accepted]
      ring
    · simp only [PacingController.after, repays]
      rw [msAppliedTotal_onWaited]
      have := h.repaid_le
      linarith
  | reset =>
    refine ⟨h.enabled, h.frames_pos, le_rfl, hcap, ?_, (add_zero repaid).trans_le h.repaid_le⟩
    show p.msAcceptedTotal = 0 + p.msReplacedTotal +
      (p.msDiscardedOnReset + p.outstandingMs) + (repaid + 0)
    rw [h.accepted]
    ring
  | waitRequested requestedMs =>
    simp only [PacingController.after, onWaitRequested, repays, add_zero]
    split
    · exact h
    · exact ⟨h.enabled, h.frames_pos, h.nonneg, h.le_cap, h.accepted, h.repaid_le⟩
  | waitFailure timeout | fallbackSleep =>
    simp only [repays, add_zero]
    exact ⟨h.enabled, h.frames_pos, h.nonneg, h.le_cap, h.accepted, h.repaid_le⟩

lemma Balanced.run (h : p.Balanced repaid) (calls : List Call) :
    (p.run calls).Balanced (repaid + p.repaid calls) := by
  induction calls generalizing p repaid with
  | nil => simpa [PacingController.repaid] using h
  | cons call calls ih =>
    have hrest := ih (h.after call)
    rwa [add_assoc] at hrest

/-! ## Settling a debt -/

lemma nextWaitMs_le_step (hstep : 0 < p.maxStepMs) : p.nextWaitMs ≤ p.maxStepMs := by
  rw [nextWaitMs]
  split
  · exact hstep.le
  · split
    · rename_i hlt
      exact hlt.le
    · exact le_rfl

lemma nextWaitMs_le_debt (hnonneg : 0 ≤ p.outstandingMs) : p.nextWaitMs ≤ p.outstandingMs := by
  rw [nextWaitMs]
  split
  · exact hnonneg
  · split
    · exact le_rfl
    · rename_i hge
      exact not_lt.1 hge

/-- Unless the debt is too small to wait for, the proposal is a step or all of it. -/
lemma min_le_nextWaitMs (henabled : p.enabled = true) (hmin : ¬ p.outstandingMs < p.minWaitMs) :
    min p.outstandingMs p.maxStepMs ≤ p.nextWaitMs := by
  have hgo : (!p.enabled || decide (p.outstandingMs < p.minWaitMs)) = false := by
    simp [henabled, hmin]
  rw [nextWaitMs, hgo, if_neg Bool.false_ne_true]
  split
  · exact min_le_left _ _
  · exact min_le_right _ _

/-- The debt is too small to wait for, or is settled in some steps. -/
def SettledIn (p : PacingController) (steps : ℕ) : Prop :=
  p.outstandingMs < p.minWaitMs ∨ p.outstandingMs ≤ steps * p.maxStepMs

/-- A wait that is as long as proposed is one of the steps. -/
lemma SettledIn.onWaited {steps : ℕ} {wait : ℚ} (henabled : p.enabled = true)
    (hnonneg : 0 ≤ p.outstandingMs) (hstep : 0 < p.maxStepMs) (h : p.SettledIn (steps + 1))
    (hwait : p.nextWaitMs ≤ wait) : (p.onWaited wait).SettledIn steps := by
  have hconfig := sameConfig_onWaited (p := p) wait
  have hdebt := outstandingMs_onWaited hnonneg wait
  have hle : (p.onWaited wait).outstandingMs ≤ p.outstandingMs := by
    rw [hdebt]
    exact max_le hnonneg (sub_le_self _ (le_max_left _ _))
  by_cases hmin : p.outstandingMs < p.minWaitMs
  · left
    rw [hconfig.minWaitMs]
    exact hle.trans_lt hmin
  · right
    have hsteps : p.outstandingMs ≤ (steps + 1) * p.maxStepMs := by
      have := h.resolve_left hmin
      exact_mod_cast this
    have hrest : (0 : ℚ) ≤ steps * p.maxStepMs := by positivity
    have hproposed := (min_le_nextWaitMs henabled hmin).trans (hwait.trans (le_max_right 0 wait))
    rw [hdebt, hconfig.maxStepMs]
    refine max_le hrest ?_
    -- The wait covers the whole debt or a step of it.
    obtain hall | hone := min_le_iff.1 hproposed
    · linarith
    · linarith

lemma nextWaitMs_of_settled (hnonneg : 0 ≤ p.outstandingMs) (hstep : 0 < p.maxStepMs)
    (h : p.SettledIn 0) : p.nextWaitMs = 0 := by
  rw [nextWaitMs]
  split
  · rfl
  · rename_i hgo
    have hdebt : p.outstandingMs ≤ 0 := by
      obtain hmin | hle := h
      · exact absurd hmin (by simp at hgo; exact not_lt.2 hgo.2)
      · simpa using hle
    rw [le_antisymm hdebt hnonneg, if_pos hstep]

lemma SettledIn.run {waits : List ℚ} (henabled : p.enabled = true)
    (hnonneg : 0 ≤ p.outstandingMs) (hstep : 0 < p.maxStepMs) (h : p.SettledIn waits.length)
    (hwaits : p.MeetsProposals waits) : (p.run (waits.map .waited)).nextWaitMs = 0 := by
  induction waits generalizing p with
  | nil => exact nextWaitMs_of_settled hnonneg hstep h
  | cons wait waits ih =>
    have hconfig := sameConfig_onWaited (p := p) wait
    refine ih (hconfig.enabled.trans henabled) ?_ (hstep.trans_eq hconfig.maxStepMs.symm)
      (h.onWaited henabled hnonneg hstep hwaits.1) hwaits.2
    exact (le_max_left _ _).trans_eq (outstandingMs_onWaited hnonneg wait).symm

/-- **The debt is bounded, the statistics account for all of it, and waiting as proposed settles
it.** -/
theorem accounts (henabled : p.enabled = true) (hframes : 0 < p.maxRecommendationFrames)
    (hstep : 0 < p.maxStepMs) (hdebt : p.outstandingMs = 0) (calls : List Call) :
    p.resetStats.Accounts calls := by
  have h := (balanced_resetStats henabled hframes hdebt).run calls
  have hconfig := sameConfig_run (p := p.resetStats) calls
  have hstep' : 0 < (p.resetStats.run calls).maxStepMs := hstep.trans_eq hconfig.maxStepMs.symm
  rw [zero_add] at h
  refine ⟨h.nonneg, by rw [← hconfig.1]; exact h.le_cap, h.accepted, h.repaid_le, ?_, ?_⟩
  · rw [← hconfig.maxStepMs]
    exact le_min (nextWaitMs_le_step hstep') (nextWaitMs_le_debt h.nonneg)
  · intro waits hwaits hlen
    refine SettledIn.run h.enabled h.nonneg hstep' (.inr ?_) hwaits
    rw [← hconfig.maxStepMs] at hlen
    exact (div_le_iff₀ hstep').1 (Nat.ceil_le.1 hlen)

/-- The default settings, a recommendation that is replaced after a wait, a wait that is too
long, and a reset. -/
theorem accounts_replaced :
    (initDefaults default).resetStats.Accounts
      [.recommendation 9, .waitRequested 3, .waited (13 / 4), .recommendation 1000,
        .recommendation 3, .waited 80, .recommendation (-5), .recommendation 4, .reset] :=
  accounts rfl (by norm_num [initDefaults, resetStats]) (by norm_num [initDefaults, resetStats])
    rfl _

end

end PacingController
end Pacing
end Sf4e
