/-
# Idle timers

A loop that gives up when nothing has happened for too long keeps in a variable when something
last did.  A variable that every active step sets to its time, and that the others leave alone,
is at any moment the time of the last active step, or that of the start.
-/
import Sf4e.Trace.LTS

namespace Trace

variable {σ α ω : Type*} {M : LTS σ α ω} {now : α → ℕ} {start : ℕ}
  {active : Entry σ α ω → Prop} [DecidablePred active] {e : Entry σ α ω}
  {log : List (Entry σ α ω)}

/-- The time of the last active entry, or that of the start. -/
def lastTime (active : Entry σ α ω → Prop) [DecidablePred active] (now : α → ℕ) (start : ℕ)
    (log : List (Entry σ α ω)) : ℕ :=
  ((log.find? fun e => decide (active e)).map fun e => now e.act).getD start

@[simp] lemma lastTime_nil : lastTime active now start [] = start := rfl

lemma lastTime_cons_of_active (h : active e) :
    lastTime active now start (e :: log) = now e.act := by
  simp [lastTime, h]

lemma lastTime_cons_of_not (h : ¬ active e) :
    lastTime active now start (e :: log) = lastTime active now start log := by
  simp [lastTime, h]

/-- No active entry is before the start. -/
lemma le_lastTime (h : ∀ e ∈ log, start ≤ now e.act) : start ≤ lastTime active now start log := by
  induction log with
  | nil => exact Nat.le_refl _
  | cons e log ih =>
    obtain ⟨hnow, hlog⟩ := List.forall_mem_cons.1 h
    by_cases hactive : active e
    · rwa [lastTime_cons_of_active hactive]
    · rw [lastTime_cons_of_not hactive]
      exact ih hlog

/-- **Idle timer rule.**  The steps of a path set the timer to their time when they are active, and
do not touch it otherwise, provided that it has not been set to before the start. -/
theorem LTS.Path.timer {s t : σ} (h : M.Path s log t) (timer : σ → ℕ)
    (hactive : ∀ e ∈ log, M.Steps e → active e → timer e.post = now e.act)
    (hquiet : ∀ e ∈ log, M.Steps e → timer s ≤ timer e.pre → ¬ active e →
      timer e.post = timer e.pre)
    (hstart : ∀ e ∈ log, timer s ≤ now e.act) :
    timer t = lastTime active now (timer s) log := by
  induction h with
  | refl => rfl
  | @snoc log e hpath hs ih =>
    obtain ⟨-, hstart⟩ := List.forall_mem_cons.1 hstart
    obtain ⟨hnow, hactive⟩ := List.forall_mem_cons.1 hactive
    obtain ⟨hkeeps, hquiet⟩ := List.forall_mem_cons.1 hquiet
    have hbefore := ih hactive hquiet hstart
    by_cases he : active e
    · rw [lastTime_cons_of_active he]
      exact hnow hs he
    · rw [lastTime_cons_of_not he, ← hbefore]
      refine hkeeps hs ?_ he
      rw [hbefore]
      exact le_lastTime hstart

end Trace
