/-
# Systems seen through functions

Three functions, of the states, the actions and the outputs, that take the steps of a system to
steps of another one take its runs to runs.  A system that is given by a partial function has to
commute with them.
-/
import Sf4e.Trace.Jobs

namespace Trace

universe u

variable {σ α ω σ' α' ω' : Type*}

/-- An entry seen through functions. -/
def Entry.map (f : σ → σ') (g : α → α') (k : ω → ω') (e : Entry σ α ω) : Entry σ' α' ω' :=
  ⟨f e.pre, g e.act, k e.out, f e.post⟩

namespace LTS

variable {M : LTS σ α ω} {N : LTS σ' α' ω'} {f : σ → σ'} {g : α → α'} {k : ω → ω'}

lemma Path.map {s t : σ} {log : List (Entry σ α ω)} (h : M.Path s log t)
    (hstep : ∀ e, M.Steps e → N.Steps (e.map f g k)) :
    N.Path (f s) (log.map (Entry.map f g k)) (f t) := by
  induction h with
  | refl => exact .refl
  | @snoc log e _ hs ih => exact Path.snoc (e := e.map f g k) ih (hstep e hs)

/-- **Morphism rule.**  Runs are taken to runs. -/
theorem Run.map {t : σ} {log : List (Entry σ α ω)} (h : M.Run log t)
    (hinit : ∀ s, M.init s → N.init (f s))
    (hstep : ∀ e, M.Steps e → N.Steps (e.map f g k)) :
    N.Run (log.map (Entry.map f g k)) (f t) := by
  obtain ⟨s, hs, hpath⟩ := h
  exact ⟨f s, hinit s hs, hpath.map hstep⟩

/-- A partial function that commutes with the three functions takes steps to steps. -/
lemma steps_map_of_comm {init : σ → Prop} {init' : σ' → Prop} {next : σ → α → Option (ω × σ)}
    {next' : σ' → α' → Option (ω' × σ')}
    (h : ∀ s a, next' (f s) (g a) = (next s a).map (Prod.map k f)) {e : Entry σ α ω}
    (hs : (ofFun init next).Steps e) : (ofFun init' next').Steps (e.map f g k) := by
  have hnext : next e.pre e.act = some (e.out, e.post) := hs
  show next' (f e.pre) (g e.act) = some (k e.out, f e.post)
  rw [h, hnext]
  rfl

end LTS

namespace Jobs

variable {β β' ρ : Type u} (f : β → β') (jobs : Jobs β)

/-- The jobs, their states seen through a function. -/
def map : Jobs β' := ⟨jobs.count, jobs.work.map fun j => (j.1, f j.2)⟩

@[simp] lemma count_map : (jobs.map f).count = jobs.count := rfl

@[simp] lemma at?_map (id : ℕ) : (jobs.map f).at? id = (jobs.at? id).map f := by
  obtain ⟨count, work⟩ := jobs
  show (work.map fun j => (j.1, f j.2)).lookup id = (work.lookup id).map f
  induction work with
  | nil => rfl
  | cons j work ih =>
    rw [List.map_cons, List.lookup_cons, List.lookup_cons]
    cases id == j.1 with
    | true => rfl
    | false => exact ih

@[simp] lemma draw_map : (jobs.map f).draw = jobs.draw.map f := rfl

lemma others_map (id : ℕ) :
    (jobs.map f).others id = (jobs.others id).map fun j => (j.1, f j.2) := by
  show (jobs.work.map fun j => (j.1, f j.2)).filter _ = (jobs.work.filter _).map _
  rw [List.filter_map]
  rfl

lemma settle_map (id : ℕ) (progress : β ⊕ ρ) :
    (jobs.map f).settle id (Sum.map f (fun result => result) progress) =
      (jobs.settle id progress).map f := by
  cases progress with
  | inl b =>
    show Jobs.mk _ (_ :: (jobs.map f).others id) = _
    rw [others_map]
    rfl
  | inr result =>
    show Jobs.mk _ ((jobs.map f).others id) = _
    rw [others_map]
    rfl

lemma ended_map (id : ℕ) (progress : β ⊕ ρ) :
    ended id (Sum.map f (fun result => result) progress) = ended id progress := by
  cases progress <;> rfl

end Jobs

end Trace
