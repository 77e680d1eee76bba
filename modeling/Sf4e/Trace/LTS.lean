/-
# Labelled transition systems and their logged runs

A transition system takes a state and an action to an output and a next state.  A run is
kept as its *log*: one entry per step, holding the states on both sides of the step, the
action and the output, newest entry first.  With the newest entry in front, "what happened
before this step" is the tail of the log, and an induction on a run is an induction on a
list.

The file also has the one past-time operator that protocol properties of this kind need:
`Since keep trig log` says that some entry satisfies `trig` and that every entry after it
satisfies `keep`.  Where the actions read a clock, `Chronological` says that it does not go back.
-/
import Mathlib.Data.List.Basic
import Mathlib.Logic.Basic

namespace Trace

universe u v w

variable {σ : Type u} {α : Type v} {ω : Type w}

/-- One step of a run, as the log keeps it. -/
structure Entry (σ : Type u) (α : Type v) (ω : Type w) where
  /-- The state before the step. -/
  pre : σ
  /-- The action taken. -/
  act : α
  /-- What the step put out. -/
  out : ω
  /-- The state after the step. -/
  post : σ

/-- A labelled transition system with outputs. -/
structure LTS (σ : Type u) (α : Type v) (ω : Type w) where
  /-- The states a run may start from. -/
  init : σ → Prop
  /-- `step s a o t`: in `s` the action `a` may put out `o` and lead to `t`. -/
  step : σ → α → ω → σ → Prop

namespace LTS

variable {M : LTS σ α ω}

/-- The entry records a step of the system. -/
def Steps (M : LTS σ α ω) (e : Entry σ α ω) : Prop := M.step e.pre e.act e.out e.post

/-- `M.Path s log t`: the log, newest entry first, leads from `s` to `t`. -/
inductive Path (M : LTS σ α ω) (s : σ) : List (Entry σ α ω) → σ → Prop
  | refl : Path M s [] s
  | snoc {log : List (Entry σ α ω)} {e : Entry σ α ω} :
      Path M s log e.pre → M.Steps e → Path M s (e :: log) e.post

/-- A run is a path from an initial state. -/
def Run (M : LTS σ α ω) (log : List (Entry σ α ω)) (t : σ) : Prop :=
  ∃ s, M.init s ∧ M.Path s log t

lemma path_nil_iff {s t : σ} : M.Path s [] t ↔ t = s := by
  constructor
  · rintro ⟨⟩
    rfl
  · rintro rfl
    exact .refl

lemma path_cons_iff {s t : σ} {e : Entry σ α ω} {log : List (Entry σ α ω)} :
    M.Path s (e :: log) t ↔ M.Path s log e.pre ∧ M.Steps e ∧ t = e.post := by
  constructor
  · rintro (_ | ⟨hpath, hstep⟩)
    exact ⟨hpath, hstep, rfl⟩
  · rintro ⟨hpath, hstep, rfl⟩
    exact .snoc hpath hstep

/-- A path whose log is cut in two passes through a state at the cut. -/
lemma path_append_iff {s u : σ} {newer older : List (Entry σ α ω)} :
    M.Path s (newer ++ older) u ↔ ∃ t, M.Path s older t ∧ M.Path t newer u := by
  induction newer generalizing u with
  | nil => simp [path_nil_iff]
  | cons e newer ih =>
    rw [List.cons_append, path_cons_iff, ih]
    constructor
    · rintro ⟨⟨t, h₁, h₂⟩, hstep, rfl⟩
      exact ⟨t, h₁, .snoc h₂ hstep⟩
    · rintro ⟨t, h₁, h₂⟩
      obtain ⟨h₃, hstep, rfl⟩ := path_cons_iff.1 h₂
      exact ⟨⟨t, h₁, h₃⟩, hstep, rfl⟩

/-- Cutting a path at one of its entries. -/
lemma Path.at_entry {s u : σ} {newer older : List (Entry σ α ω)} {e : Entry σ α ω}
    (h : M.Path s (newer ++ e :: older) u) :
    M.Path s older e.pre ∧ M.Steps e ∧ M.Path e.post newer u := by
  obtain ⟨t, h₁, h₂⟩ := path_append_iff.1 h
  obtain ⟨h₃, hstep, rfl⟩ := path_cons_iff.1 h₁
  exact ⟨h₃, hstep, h₂⟩

/-- A run with one more step. -/
lemma Run.snoc {log : List (Entry σ α ω)} {e : Entry σ α ω} (h : M.Run log e.pre)
    (hs : M.Steps e) : M.Run (e :: log) e.post := by
  obtain ⟨s, hinit, hpath⟩ := h
  exact ⟨s, hinit, .snoc hpath hs⟩

/-- Cutting a run at one of its entries. -/
lemma Run.at_entry {u : σ} {newer older : List (Entry σ α ω)} {e : Entry σ α ω}
    (h : M.Run (newer ++ e :: older) u) :
    M.Run older e.pre ∧ M.Steps e ∧ M.Path e.post newer u := by
  obtain ⟨s, hs, hpath⟩ := h
  obtain ⟨h₁, h₂, h₃⟩ := hpath.at_entry
  exact ⟨⟨s, hs, h₁⟩, h₂, h₃⟩

/-- Every entry of a path records a step. -/
lemma Path.steps_of_mem {s t : σ} {log : List (Entry σ α ω)} (h : M.Path s log t)
    {e : Entry σ α ω} (he : e ∈ log) : M.Steps e := by
  obtain ⟨newer, older, rfl⟩ := List.append_of_mem he
  exact h.at_entry.2.1

/-- Steps that lead nowhere can be left out of a path. -/
lemma Path.filter {s t : σ} {log : List (Entry σ α ω)} (h : M.Path s log t)
    {p : Entry σ α ω → Bool} (hp : ∀ e ∈ log, p e = false → e.post = e.pre) :
    M.Path s (log.filter p) t := by
  induction h with
  | refl => exact .refl
  | @snoc log e hpath hs ih =>
    have hlog : M.Path s (log.filter p) e.pre := ih fun e' he' => hp e' (List.mem_cons_of_mem _ he')
    cases hkeep : p e with
    | true =>
      rw [List.filter_cons_of_pos hkeep]
      exact .snoc hlog hs
    | false =>
      rw [List.filter_cons_of_neg (by simp [hkeep]), hp e List.mem_cons_self hkeep]
      exact hlog

/-- Steps that lead nowhere can be left out of a run. -/
lemma Run.filter {t : σ} {log : List (Entry σ α ω)} (h : M.Run log t)
    {p : Entry σ α ω → Bool} (hp : ∀ e ∈ log, p e = false → e.post = e.pre) :
    M.Run (log.filter p) t := by
  obtain ⟨s, hinit, hpath⟩ := h
  exact ⟨s, hinit, hpath.filter hp⟩

/-! ## Invariants

The invariant may look at the log as well as at the state, and it needs to be preserved
only by the steps that keep a side condition `ok`. -/

/-- **Invariant rule.** What holds of the empty log and is preserved by every step that
meets `ok` holds at the end of every path all of whose steps meet `ok`. -/
theorem Path.invariant {s t : σ} {log : List (Entry σ α ω)} (h : M.Path s log t)
    {ok : Entry σ α ω → Prop} (inv : List (Entry σ α ω) → σ → Prop) (hinit : inv [] s)
    (hstep : ∀ log e, inv log e.pre → M.Steps e → ok e → inv (e :: log) e.post)
    (hok : ∀ e ∈ log, ok e) : inv log t := by
  induction h with
  | refl => exact hinit
  | snoc _ hs ih =>
    rename_i log e _
    have hinv : inv log e.pre := ih fun e' he' => hok e' (List.mem_cons_of_mem _ he')
    exact hstep log e hinv hs (hok e List.mem_cons_self)

/-- The invariant rule for runs. -/
theorem Run.invariant {t : σ} {log : List (Entry σ α ω)} (h : M.Run log t)
    {ok : Entry σ α ω → Prop} (inv : List (Entry σ α ω) → σ → Prop)
    (hinit : ∀ s, M.init s → inv [] s)
    (hstep : ∀ log e, inv log e.pre → M.Steps e → ok e → inv (e :: log) e.post)
    (hok : ∀ e ∈ log, ok e) : inv log t := by
  obtain ⟨s, hs, hpath⟩ := h
  exact hpath.invariant inv (hinit s hs) hstep hok

/-- The invariant rule for runs, without a side condition. -/
theorem Run.invariant_of_step {t : σ} {log : List (Entry σ α ω)} (h : M.Run log t)
    (inv : List (Entry σ α ω) → σ → Prop) (hinit : ∀ s, M.init s → inv [] s)
    (hstep : ∀ log e, inv log e.pre → M.Steps e → inv (e :: log) e.post) : inv log t := by
  have hok : ∀ e ∈ log, (fun _ : Entry σ α ω => True) e := fun _ _ => trivial
  exact h.invariant inv hinit (fun log e hi hs _ => hstep log e hi hs) hok

/-! ## Projections

A system with several parts, seen from one of them.  What a part does not notice is no step of
its own. -/

lemma Path.trans {s t u : σ} {older newer : List (Entry σ α ω)} (h : M.Path s older t)
    (h' : M.Path t newer u) : M.Path s (newer ++ older) u :=
  path_append_iff.2 ⟨t, h, h'⟩

/-- **Projection rule.** When every step of a system is a path of another one, as the projection
shows it, so is every run a run. -/
theorem Run.project {σ' : Type*} {α' : Type*} {ω' : Type*} {N : LTS σ' α' ω'} {t : σ}
    {log : List (Entry σ α ω)} (h : M.Run log t) (f : σ → σ')
    (hinit : ∀ s, M.init s → N.init (f s))
    (hstep : ∀ e, M.Steps e → ∃ log', N.Path (f e.pre) log' (f e.post)) :
    ∃ log', N.Run log' (f t) := by
  refine h.invariant_of_step (fun _ t => ∃ log', N.Run log' (f t))
    (fun s hs => ⟨[], f s, hinit s hs, .refl⟩) ?_
  rintro log e ⟨older, s, hs, hpath⟩ he
  obtain ⟨newer, hnewer⟩ := hstep e he
  exact ⟨newer ++ older, s, hs, hpath.trans hnewer⟩

/-! ## Systems given by a partial function -/

/-- The system whose steps are those of a partial function; `none` means that the action
cannot be taken. -/
def ofFun (init : σ → Prop) (next : σ → α → Option (ω × σ)) : LTS σ α ω where
  init := init
  step s a o t := next s a = some (o, t)

/-- Run a list of actions, first action first, and keep the log. -/
def exec (next : σ → α → Option (ω × σ)) :
    σ → List (Entry σ α ω) → List α → Option (List (Entry σ α ω) × σ)
  | s, log, [] => some (log, s)
  | s, log, a :: acts =>
    match next s a with
    | none => none
    | some (o, t) => exec next t (⟨s, a, o, t⟩ :: log) acts

variable {init : σ → Prop} {next : σ → α → Option (ω × σ)}

lemma path_of_exec {s t u : σ} {log log' : List (Entry σ α ω)} {acts : List α}
    (hpath : (ofFun init next).Path s log t) (h : exec next t log acts = some (log', u)) :
    (ofFun init next).Path s log' u := by
  induction acts generalizing t log with
  | nil =>
    simp only [exec, Option.some.injEq, Prod.mk.injEq] at h
    obtain ⟨rfl, rfl⟩ := h
    exact hpath
  | cons a acts ih =>
    simp only [exec] at h
    cases hn : next t a with
    | none => simp [hn] at h
    | some r =>
      obtain ⟨o, t'⟩ := r
      rw [hn] at h
      have hstep : (ofFun init next).Path s (⟨t, a, o, t'⟩ :: log) t' :=
        Path.snoc (e := ⟨t, a, o, t'⟩) hpath hn
      exact ih hstep h

/-- A list of actions that can be carried out, and whose log passes a test, gives a path
whose log has the tested property. -/
theorem exists_path_of_exec {s : σ} (acts : List α) {p : List (Entry σ α ω) → σ → Prop}
    [∀ log t, Decidable (p log t)]
    (h : (exec next s [] acts).any (fun r => decide (p r.1 r.2)) = true) :
    ∃ log t, (ofFun init next).Path s log t ∧ p log t := by
  cases hexec : exec next s [] acts with
  | none => simp [hexec] at h
  | some r =>
    obtain ⟨log, t⟩ := r
    simp only [hexec, Option.any_some, decide_eq_true_eq] at h
    exact ⟨log, t, path_of_exec .refl hexec, h⟩

/-- Two lists of actions, carried out one after the other, with separate logs. -/
theorem exists_path_path_of_exec {s : σ} (acts₁ acts₂ : List α)
    {p : σ → List (Entry σ α ω) → σ → Prop} [∀ t log u, Decidable (p t log u)]
    (h : (exec next s [] acts₁).any (fun r =>
      (exec next r.2 [] acts₂).any (fun r' => decide (p r.2 r'.1 r'.2))) = true) :
    ∃ log₁ t log₂ u, (ofFun init next).Path s log₁ t ∧ (ofFun init next).Path t log₂ u ∧
      p t log₂ u := by
  cases hexec : exec next s [] acts₁ with
  | none => simp [hexec] at h
  | some r =>
    obtain ⟨log₁, t⟩ := r
    simp only [hexec, Option.any_some] at h
    obtain ⟨log₂, u, hpath, hp⟩ : ∃ log₂ u, (ofFun init next).Path t log₂ u ∧ p t log₂ u :=
      exists_path_of_exec acts₂ h
    exact ⟨log₁, t, log₂, u, path_of_exec .refl hexec, hpath, hp⟩

end LTS

/-! ## Clocks -/

section Clock

variable {now : α → ℕ} {e : Entry σ α ω} {log newer : List (Entry σ α ω)}

/-- The clock, which an action reads, does not go back. -/
def Chronological (now : α → ℕ) (log : List (Entry σ α ω)) : Prop :=
  log.Pairwise fun newer older => now older.act ≤ now newer.act

instance : DecidablePred (fun log : List (Entry σ α ω) => Chronological now log) := fun log =>
  inferInstanceAs (Decidable (log.Pairwise _))

/-- The latest time of a log. -/
def latest (now : α → ℕ) : List (Entry σ α ω) → ℕ
  | [] => 0
  | e :: _ => now e.act

lemma Chronological.tail (h : Chronological now (e :: log)) : Chronological now log :=
  (List.pairwise_cons.1 h).2

/-- What came before an entry. -/
lemma Chronological.at_entry (h : Chronological now (newer ++ e :: log)) :
    Chronological now (e :: log) :=
  (List.pairwise_append.1 h).2.1

lemma Chronological.latest_le (h : Chronological now (e :: log)) : latest now log ≤ now e.act := by
  cases log with
  | nil => exact Nat.zero_le _
  | cons e' log => exact (List.pairwise_cons.1 h).1 e' List.mem_cons_self

lemma Chronological.le_latest (h : Chronological now log) (he : e ∈ log) :
    now e.act ≤ latest now log := by
  cases log with
  | nil => exact absurd he List.not_mem_nil
  | cons e' log =>
    rcases List.mem_cons.1 he with rfl | he
    · exact Nat.le_refl _
    · exact (List.pairwise_cons.1 h).1 e he

/-- One more step, at a time that is not before the latest one. -/
lemma Chronological.cons (h : Chronological now log) (hle : latest now log ≤ now e.act) :
    Chronological now (e :: log) :=
  List.pairwise_cons.2 ⟨fun _ he' => Nat.le_trans (h.le_latest he') hle, h⟩

end Clock

/-! ## Since -/

section Since

variable {ε : Type*} {keep trig : ε → Prop}

/-- Some entry of the log, newest first, satisfies `trig`, and every later one satisfies
`keep`. -/
def Since (keep trig : ε → Prop) : List ε → Prop
  | [] => False
  | e :: log => trig e ∨ (keep e ∧ Since keep trig log)

@[simp] lemma since_nil : ¬ Since keep trig [] := id

@[simp] lemma since_cons {e : ε} {log : List ε} :
    Since keep trig (e :: log) ↔ trig e ∨ (keep e ∧ Since keep trig log) := Iff.rfl

/-- What held since a trigger has a trigger in the log. -/
lemma Since.exists_trig {log : List ε} (h : Since keep trig log) : ∃ e ∈ log, trig e := by
  induction log with
  | nil => exact absurd h since_nil
  | cons e log ih =>
    rcases h with htrig | ⟨-, h⟩
    · exact ⟨e, List.mem_cons_self, htrig⟩
    · obtain ⟨e', he', htrig⟩ := ih h
      exact ⟨e', List.mem_cons_of_mem _ he', htrig⟩

/-- A trigger and only entries that keep after it. -/
lemma since_append_cons {newer older : List ε} {e : ε} (hkeep : ∀ e' ∈ newer, keep e')
    (htrig : trig e) : Since keep trig (newer ++ e :: older) := by
  induction newer with
  | nil => exact .inl htrig
  | cons e' newer ih =>
    obtain ⟨hnow, hnewer⟩ := List.forall_mem_cons.1 hkeep
    exact .inr ⟨hnow, ih hnewer⟩

/-- An entry that does not keep, and no trigger from it on. -/
lemma not_since_append_cons {newer older : List ε} {e : ε} (hnewer : ∀ e' ∈ newer, ¬ trig e')
    (htrig : ¬ trig e) (hkeep : ¬ keep e) : ¬ Since keep trig (newer ++ e :: older) := by
  induction newer with
  | nil => exact fun h => h.elim htrig fun h => hkeep h.1
  | cons e' newer ih =>
    obtain ⟨hnow, hnewer⟩ := List.forall_mem_cons.1 hnewer
    exact fun h => h.elim hnow fun h => ih hnewer h.2

/-- When two triggers both break `keep`, the entries they were last seen at are one. -/
lemma Since.same {trig' : ε → Prop} {p : Prop} {log : List ε} (h : Since keep trig log)
    (h' : Since keep trig' log) (hbreak : ∀ e, trig e → ¬ keep e)
    (hbreak' : ∀ e, trig' e → ¬ keep e) (hp : ∀ e, trig e → trig' e → p) : p := by
  induction log with
  | nil => exact absurd h since_nil
  | cons e log ih =>
    rcases h with htrig | ⟨hkeep, h⟩ <;> rcases h' with htrig' | ⟨hkeep', h'⟩
    · exact hp e htrig htrig'
    · exact absurd hkeep' (hbreak e htrig)
    · exact absurd hkeep (hbreak' e htrig')
    · exact ih h h'

/-- **Since rule.**  What the trigger establishes and every later step preserves holds at the
end of the run. -/
theorem LTS.Run.since {M : LTS σ α ω} {t : σ} {log : List (Entry σ α ω)} (h : M.Run log t)
    {keep trig : Entry σ α ω → Prop} {inv : σ → Prop}
    (htrig : ∀ older e, M.Run older e.pre → M.Steps e → trig e → inv e.post)
    (hkeep : ∀ older e, M.Run older e.pre → M.Steps e → keep e → inv e.pre → inv e.post)
    (hsince : Since keep trig log) : inv t := by
  induction log generalizing t with
  | nil => exact absurd hsince since_nil
  | cons e older ih =>
    obtain ⟨s, hinit, hpath⟩ := h
    obtain ⟨holder, hstep, rfl⟩ := LTS.path_cons_iff.1 hpath
    have hbefore : M.Run older e.pre := ⟨s, hinit, holder⟩
    rcases hsince with hnow | ⟨hkeeps, hsince⟩
    · exact htrig older e hbefore hstep hnow
    · exact hkeep older e hbefore hstep hkeeps (ih hbefore hsince)

instance [DecidablePred keep] [DecidablePred trig] : DecidablePred (Since keep trig)
  | [] => inferInstanceAs (Decidable False)
  | e :: log =>
    have : Decidable (Since keep trig log) := instDecidablePredListSince log
    inferInstanceAs (Decidable (trig e ∨ (keep e ∧ Since keep trig log)))

end Since

end Trace
