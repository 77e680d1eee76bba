/-
# The simulation gate and its history

The gate is a state machine that is driven by events, and the events come late, twice and out of
order.  Here its two answers are read off the history of the events alone: whether a frame may
advance (`OpenTrace`) and whether an interruption is news (`WarnedTrace`).

A history has the newest event first, so that what has happened since an event is what stands
before it in the list.
-/
import Mathlib.Data.List.Basic
import Sf4e.Netplay.Gate

namespace Sf4e

/-- What happens to a gate. -/
inductive GateEvent
  | sessionStarted
  | running
  | battleClosing
  | sessionClosed
  | fatal
  | manualPause (paused : Bool)
  | interrupted (nowMs : UInt32)
  | resumed
  | predictionThreshold
  | frameAccepted
deriving DecidableEq

namespace GgpoGateModel

/-- The gate after an event. -/
def on (g : GgpoGateModel) : GateEvent → GgpoGateModel
  | .sessionStarted => g.onSessionStarted
  | .running => g.onRunning
  | .battleClosing => g.onBattleClosing
  | .sessionClosed => g.onSessionClosed
  | .fatal => g.onFatal
  | .manualPause paused => g.setManualPause paused
  | .interrupted nowMs => (g.onConnectionInterrupted nowMs).2
  | .resumed => g.onConnectionResumed.2
  | .predictionThreshold => g.onPredictionThreshold
  | .frameAccepted => g.onFrameAccepted

/-- The gate after a history, from `Reset` on. -/
def after : List GateEvent → GgpoGateModel
  | [] => {}
  | e :: history => (after history).on e

end GgpoGateModel

/-! ## What a history says -/

/-- There was a start, and the events since the latest one are such. -/
def SinceStart (p : List GateEvent → Prop) (history : List GateEvent) : Prop :=
  ∃ since before, history = since ++ .sessionStarted :: before ∧ .sessionStarted ∉ since ∧ p since

/-- Nothing has ended the session. -/
def Calm (since : List GateEvent) : Prop :=
  .battleClosing ∉ since ∧ .sessionClosed ∉ since ∧ .fatal ∉ since

/-- The last setting of the manual pause; there is none at first. -/
def lastManualPause : List GateEvent → Bool
  | [] => false
  | .manualPause paused :: _ => paused
  | _ :: history => lastManualPause history

/-- A session was started, it was reported to run after its start and has not been ended since, and
the last setting of the manual pause is off. -/
def OpenTrace (history : List GateEvent) : Prop :=
  SinceStart (fun since => .running ∈ since ∧ Calm since) history ∧ lastManualPause history = false

/-- The event puts an end to a warning. -/
def GateEvent.Clears (e : GateEvent) : Prop :=
  e = .sessionStarted ∨ e = .sessionClosed ∨ e = .resumed

/-- There was an interruption, and nothing has put an end to its warning since. -/
def WarnedTrace (history : List GateEvent) : Prop :=
  ∃ since nowMs before, history = since ++ .interrupted nowMs :: before ∧ ∀ e ∈ since, ¬ e.Clears

section

variable {p : List GateEvent → Prop} {e : GateEvent} {history : List GateEvent}

lemma not_sinceStart_nil : ¬ SinceStart p [] := by
  rintro ⟨since, before, heq, -⟩
  simp at heq

/-- Nothing has happened since a start that is the last event. -/
lemma sinceStart_started : SinceStart p (.sessionStarted :: history) ↔ p [] := by
  constructor
  · rintro ⟨since, before, heq, hnot, hp⟩
    cases since with
    | nil => exact hp
    | cons e since =>
      obtain ⟨rfl, -⟩ := List.cons.inj heq
      exact absurd List.mem_cons_self hnot
  · intro hp
    exact ⟨[], history, rfl, List.not_mem_nil, hp⟩

lemma sinceStart_cons (he : e ≠ .sessionStarted) :
    SinceStart p (e :: history) ↔ SinceStart (fun since => p (e :: since)) history := by
  constructor
  · rintro ⟨since, before, heq, hnot, hp⟩
    cases since with
    | nil => exact absurd (List.cons.inj heq).1 he
    | cons e' since =>
      obtain ⟨rfl, heq'⟩ := List.cons.inj heq
      exact ⟨since, before, heq', fun hmem => hnot (List.mem_cons_of_mem _ hmem), hp⟩
  · rintro ⟨since, before, rfl, hnot, hp⟩
    refine ⟨e :: since, before, rfl, ?_, hp⟩
    rw [List.mem_cons, not_or]
    exact ⟨he.symm, hnot⟩

lemma SinceStart.mono {q : List GateEvent → Prop} (h : SinceStart p history)
    (hpq : ∀ since, p since → q since) : SinceStart q history := by
  obtain ⟨since, before, heq, hnot, hp⟩ := h
  exact ⟨since, before, heq, hnot, hpq since hp⟩

lemma not_sinceStart_of_not (h : ∀ since, ¬ p since) : ¬ SinceStart p history := by
  rintro ⟨since, before, -, -, hp⟩
  exact h since hp

lemma calm_nil : Calm [] := ⟨List.not_mem_nil, List.not_mem_nil, List.not_mem_nil⟩

/-- An event that does not end the session. -/
lemma calm_cons {since : List GateEvent} (hclosing : e ≠ .battleClosing)
    (hclosed : e ≠ .sessionClosed) (hfatal : e ≠ .fatal) : Calm (e :: since) ↔ Calm since := by
  simp [Calm, hclosing.symm, hclosed.symm, hfatal.symm]

lemma not_warnedTrace_nil : ¬ WarnedTrace [] := by
  rintro ⟨since, nowMs, before, heq, -⟩
  simp at heq

lemma warnedTrace_interrupted (nowMs : UInt32) : WarnedTrace (.interrupted nowMs :: history) :=
  ⟨[], nowMs, history, rfl, by simp⟩

lemma not_warnedTrace_of_clears (he : e.Clears) : ¬ WarnedTrace (e :: history) := by
  rintro ⟨since, nowMs, before, heq, hclear⟩
  cases since with
  | nil =>
    obtain ⟨rfl, -⟩ := List.cons.inj heq
    rcases he with he | he | he <;> cases he
  | cons e' since =>
    obtain ⟨rfl, -⟩ := List.cons.inj heq
    exact hclear _ List.mem_cons_self he

lemma warnedTrace_cons (hclears : ¬ e.Clears) (hnot : ∀ nowMs, e ≠ .interrupted nowMs) :
    WarnedTrace (e :: history) ↔ WarnedTrace history := by
  constructor
  · rintro ⟨since, nowMs, before, heq, hclear⟩
    cases since with
    | nil => exact absurd (List.cons.inj heq).1 (hnot nowMs)
    | cons e' since =>
      obtain ⟨rfl, heq'⟩ := List.cons.inj heq
      exact ⟨since, nowMs, before, heq', fun e he => hclear e (List.mem_cons_of_mem _ he)⟩
  · rintro ⟨since, nowMs, before, rfl, hclear⟩
    refine ⟨e :: since, nowMs, before, rfl, fun e' he' => ?_⟩
    rcases List.mem_cons.1 he' with rfl | he'
    · exact hclears
    · exact hclear e' he'

end

/-! ## The gate -/

namespace GgpoGateModel

/-- **Invariant.** What each field says of the history. -/
structure Reads (g : GgpoGateModel) (history : List GateEvent) : Prop where
  manualPause : g.manualPause = lastManualPause history
  /-- The start is the last word. -/
  waiting : g.phase = .waitingForRunning ∧ g.fatalError = false ↔
    SinceStart (fun since => .running ∉ since ∧ Calm since) history
  running : g.phase = .running ∧ g.fatalError = false ↔
    SinceStart (fun since => .running ∈ since ∧ Calm since) history
  warning : g.connectionWarningActive = true ↔ WarnedTrace history

namespace Reads

variable {g g' : GgpoGateModel} {e : GateEvent} {history : List GateEvent}

/-- The session is over. -/
lemma of_ended (h : g.Reads history) (he : e = .battleClosing ∨ e = .sessionClosed ∨ e = .fatal)
    (hpause : g'.manualPause = g.manualPause)
    (hphase : ¬ (g'.phase = .waitingForRunning ∧ g'.fatalError = false))
    (hphase' : ¬ (g'.phase = .running ∧ g'.fatalError = false))
    (hwarning : g'.connectionWarningActive = true ↔ WarnedTrace (e :: history)) :
    g'.Reads (e :: history) := by
  have hstart : e ≠ .sessionStarted := by rcases he with rfl | rfl | rfl <;> simp
  have hcalm : ∀ since, ¬ Calm (e :: since) := by
    rintro since ⟨h₁, h₂, h₃⟩
    rcases he with rfl | rfl | rfl <;> simp at h₁ h₂ h₃
  refine ⟨?_, iff_of_false hphase ?_, iff_of_false hphase' ?_, hwarning⟩
  · rw [hpause, h.manualPause]
    rcases he with rfl | rfl | rfl <;> rfl
  · rw [sinceStart_cons hstart]
    exact not_sinceStart_of_not fun since hp => hcalm since hp.2
  · rw [sinceStart_cons hstart]
    exact not_sinceStart_of_not fun since hp => hcalm since hp.2

/-- The session goes on as it was. -/
lemma of_same (h : g.Reads history) (hstart : e ≠ .sessionStarted) (hrunning : e ≠ .running)
    (hclosing : e ≠ .battleClosing) (hclosed : e ≠ .sessionClosed) (hfatal : e ≠ .fatal)
    (hpause : g'.manualPause = lastManualPause (e :: history)) (hphase : g'.phase = g.phase)
    (herror : g'.fatalError = g.fatalError)
    (hwarning : g'.connectionWarningActive = true ↔ WarnedTrace (e :: history)) :
    g'.Reads (e :: history) := by
  refine ⟨hpause, ?_, ?_, hwarning⟩
  · rw [hphase, herror, h.waiting, sinceStart_cons hstart]
    simp only [calm_cons hclosing hclosed hfatal, List.mem_cons, hrunning.symm, false_or]
  · rw [hphase, herror, h.running, sinceStart_cons hstart]
    simp only [calm_cons hclosing hclosed hfatal, List.mem_cons, hrunning.symm, false_or]

lemma empty : ({} : GgpoGateModel).Reads [] where
  manualPause := rfl
  waiting := iff_of_false (by simp) not_sinceStart_nil
  running := iff_of_false (by simp) not_sinceStart_nil
  warning := iff_of_false (by simp) not_warnedTrace_nil

lemma sessionStarted (h : g.Reads history) :
    g.onSessionStarted.Reads (.sessionStarted :: history) where
  manualPause := h.manualPause
  waiting := by
    rw [sinceStart_started]
    exact iff_of_true ⟨rfl, rfl⟩ ⟨List.not_mem_nil, calm_nil⟩
  running := by
    rw [sinceStart_started]
    exact iff_of_false (by simp [onSessionStarted]) fun hp => List.not_mem_nil hp.1
  warning := iff_of_false (by simp [onSessionStarted]) (not_warnedTrace_of_clears (.inl rfl))

/-- A report of `RUNNING` is of effect only when the start was the last word. -/
lemma reportsRunning (h : g.Reads history) : g.onRunning.Reads (.running :: history) := by
  have hcalm : ∀ since, Calm (.running :: since) ↔ Calm since := fun since =>
    calm_cons (by simp) (by simp) (by simp)
  have hfield : g.onRunning.manualPause = g.manualPause ∧
      g.onRunning.fatalError = g.fatalError ∧
      g.onRunning.connectionWarningActive = g.connectionWarningActive := by
    unfold onRunning
    split <;> exact ⟨rfl, rfl, rfl⟩
  have hphase : g.onRunning.phase = .running ↔
      g.phase = .waitingForRunning ∨ g.phase = .running := by
    unfold onRunning
    split
    · simp [*]
    · simp [*]
  have hwaiting : g.onRunning.phase ≠ .waitingForRunning := by
    unfold onRunning
    split
    · simp
    · assumption
  obtain ⟨hpause, hfatal, hwarning⟩ := hfield
  refine ⟨?_, iff_of_false (fun hw => hwaiting hw.1) ?_, ?_, ?_⟩
  · rw [hpause, h.manualPause]
    rfl
  · rw [sinceStart_cons (by simp)]
    exact not_sinceStart_of_not fun since hp => hp.1 List.mem_cons_self
  · rw [sinceStart_cons (by simp), hphase, hfatal, or_and_right, h.waiting, h.running]
    constructor
    · rintro (hw | hr)
      · exact hw.mono fun since hp => ⟨List.mem_cons_self, (hcalm since).2 hp.2⟩
      · exact hr.mono fun since hp => ⟨List.mem_cons_self, (hcalm since).2 hp.2⟩
    · rintro ⟨since, before, heq, hnot, -, hp⟩
      by_cases hmem : .running ∈ since
      · exact .inr ⟨since, before, heq, hnot, hmem, (hcalm since).1 hp⟩
      · exact .inl ⟨since, before, heq, hnot, hmem, (hcalm since).1 hp⟩
  · rw [hwarning, h.warning, warnedTrace_cons (by simp [GateEvent.Clears]) (by simp)]

/-- **Step lemma.** -/
lemma on (h : g.Reads history) (e : GateEvent) : (g.on e).Reads (e :: history) := by
  -- most events leave the warning as it is
  have hsame : ∀ e : GateEvent, ¬ e.Clears → (∀ nowMs, e ≠ .interrupted nowMs) →
      (g.connectionWarningActive = true ↔ WarnedTrace (e :: history)) := by
    intro e hclears hnot
    rw [warnedTrace_cons hclears hnot]
    exact h.warning
  cases e with
  | sessionStarted => exact h.sessionStarted
  | running => exact h.reportsRunning
  | battleClosing =>
    have hwarning := hsame .battleClosing (by simp [GateEvent.Clears]) (by simp)
    simp only [GgpoGateModel.on, onBattleClosing]
    split
    · exact h.of_ended (.inl rfl) rfl (by simp) (by simp) hwarning
    · rename_i hnone
      rw [not_not] at hnone
      exact h.of_ended (.inl rfl) rfl (by simp [hnone]) (by simp [hnone]) hwarning
  | sessionClosed =>
    refine h.of_ended (.inr (.inl rfl)) rfl (by simp [GgpoGateModel.on, onSessionClosed])
      (by simp [GgpoGateModel.on, onSessionClosed]) ?_
    exact iff_of_false (by simp [GgpoGateModel.on, onSessionClosed])
      (not_warnedTrace_of_clears (.inr (.inl rfl)))
  | fatal =>
    refine h.of_ended (.inr (.inr rfl)) rfl (by simp [GgpoGateModel.on, onFatal])
      (by simp [GgpoGateModel.on, onFatal]) ?_
    exact hsame .fatal (by simp [GateEvent.Clears]) (by simp)
  | manualPause paused =>
    exact h.of_same (by simp) (by simp) (by simp) (by simp) (by simp) rfl rfl rfl
      (hsame _ (by simp [GateEvent.Clears]) (by simp))
  | interrupted nowMs =>
    simp only [GgpoGateModel.on, onConnectionInterrupted]
    split
    · rename_i hactive
      exact h.of_same (by simp) (by simp) (by simp) (by simp) (by simp) h.manualPause rfl rfl
        (iff_of_true hactive (warnedTrace_interrupted nowMs))
    · exact h.of_same (by simp) (by simp) (by simp) (by simp) (by simp) h.manualPause rfl rfl
        (iff_of_true rfl (warnedTrace_interrupted nowMs))
  | resumed =>
    have hcleared : ¬ WarnedTrace (.resumed :: history) :=
      not_warnedTrace_of_clears (.inr (.inr rfl))
    simp only [GgpoGateModel.on, onConnectionResumed]
    split
    · rename_i hnone
      exact h.of_same (by simp) (by simp) (by simp) (by simp) (by simp) h.manualPause rfl rfl
        (iff_of_false (by simpa using hnone) hcleared)
    · exact h.of_same (by simp) (by simp) (by simp) (by simp) (by simp) h.manualPause rfl rfl
        (iff_of_false (by simp) hcleared)
  | predictionThreshold =>
    exact h.of_same (by simp) (by simp) (by simp) (by simp) (by simp) h.manualPause rfl rfl
      (hsame _ (by simp [GateEvent.Clears]) (by simp))
  | frameAccepted =>
    exact h.of_same (by simp) (by simp) (by simp) (by simp) (by simp) h.manualPause rfl rfl
      (hsame _ (by simp [GateEvent.Clears]) (by simp))

end Reads

lemma reads_after (history : List GateEvent) : (after history).Reads history := by
  induction history with
  | nil => exact .empty
  | cons e history ih => exact ih.on e

end GgpoGateModel

/-- **The gate follows its history.** A frame may advance exactly when the history is one of an
open gate, and an interruption is news exactly when no earlier one still stands. -/
theorem gate_iff_trace (history : List GateEvent) :
    ((GgpoGateModel.after history).canAdvanceDeterministicFrame = true ↔ OpenTrace history) ∧
      ∀ nowMs, ((GgpoGateModel.after history).onConnectionInterrupted nowMs).1 = true ↔
        ¬ WarnedTrace history := by
  have h := GgpoGateModel.reads_after history
  refine ⟨?_, fun nowMs => ?_⟩
  · rw [OpenTrace, ← h.running, ← h.manualPause]
    simp only [GgpoGateModel.canAdvanceDeterministicFrame, Bool.and_eq_true, decide_eq_true_eq,
      Bool.not_eq_true']
    tauto
  · rw [← h.warning]
    unfold GgpoGateModel.onConnectionInterrupted
    split
    · simp [*]
    · simp [*]

example : (GgpoGateModel.after [.running, .sessionStarted, .fatal]).canAdvanceDeterministicFrame =
    true := by decide

end Sf4e
