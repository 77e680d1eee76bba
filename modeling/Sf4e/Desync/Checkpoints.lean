/-
# Checkpoints that rollbacks cannot reach

A rollback takes off at most eight frames and captures what it simulates again, so the ring
always holds the hashes of the present frames (`Records`), and what it holds of a frame more
than eight frames back is what it held before (`Inherits`).  A checkpoint is sent only when it
is thirty frames back, so it is sent once (`SentOnce`).
-/
import Sf4e.Desync.Steps

namespace Sf4e
namespace Desync

open HashRing Trace Client

variable {I : Type}

/-! ## The ring holds the present frames -/

/-- The hashes after the frame with this number, in a list of frames, newest first. -/
def hashesAt : List (Frame I) → ℕ → Option SemanticHashes
  | [], _ => none
  | frame :: older, n => if n = older.length + 1 then some frame.hashes else hashesAt older n

lemma hashesAt_of_append {newer older : List (Frame I)} {n : ℕ} (h : n ≤ older.length) :
    hashesAt (newer ++ older) n = hashesAt older n := by
  induction newer with
  | nil => rfl
  | cons frame newer ih =>
    rw [List.cons_append, hashesAt, if_neg, ih]
    rw [List.length_append]
    omega

lemma hashesAt_drop {frames : List (Frame I)} {n k : ℕ} (h : n + k ≤ frames.length) :
    hashesAt (frames.drop k) n = hashesAt frames n := by
  conv_rhs => rw [← List.take_append_drop k frames]
  rw [hashesAt_of_append]
  rw [List.length_drop]
  omega

/-- The slots that are in use belong to their frames. -/
def Placed (c : Client I) : Prop :=
  ∀ i, (c.hashCheckpoints i).valid = true → slotIndex (c.hashCheckpoints i).frameIdx = (i : ℕ)

/-- Two slots in use do not hold the same frame. -/
lemma Placed.eq_of_frameIdx_eq {c : Client I} (h : Placed c) {i j : Fin numHashCheckpoints}
    (hi : (c.hashCheckpoints i).valid = true) (hj : (c.hashCheckpoints j).valid = true)
    (heq : (c.hashCheckpoints i).frameIdx = (c.hashCheckpoints j).frameIdx) : i = j := by
  have hplace := h i hi
  rw [heq, h j hj] at hplace
  exact Fin.ext (by exact_mod_cast hplace.symm)

/-- The slots that are in use belong to their frames, which are at most `bound`, and those
of frames up to `settled` hold what the present frames have. -/
def Records (c : Client I) (bound settled : ℕ) : Prop :=
  ∀ i, (c.hashCheckpoints i).valid = true → ∃ f : ℕ, (c.hashCheckpoints i).frameIdx = f ∧
    0 < f ∧ IsCheckpoint f ∧ slotIndex f = (i : ℕ) ∧ f ≤ bound ∧
    (f ≤ settled → hashesAt c.timeline f = some (c.hashCheckpoints i).hashes)

lemma Records.placed {c : Client I} {bound settled : ℕ} (h : Records c bound settled) :
    Placed c := by
  intro i hi
  obtain ⟨f, hf, -, -, hfi, -⟩ := h i hi
  rw [hf]
  exact hfi

lemma Records.mono {c : Client I} {b b' s s' : ℕ} (h : Records c b s) (hb : b ≤ b')
    (hs : s' ≤ s) : Records c b' s' := by
  intro i hi
  obtain ⟨f, hf, hpos, hc, hfi, hle, hval⟩ := h i hi
  exact ⟨f, hf, hpos, hc, hfi, hle.trans hb, fun hfs => hval (hfs.trans hs)⟩

/-- Only what the present frames have up to `settled` matters. -/
lemma Records.of_timeline {c : Client I} {b s : ℕ} (h : Records c b s)
    {frames : List (Frame I)} (heq : ∀ f ≤ s, hashesAt frames f = hashesAt c.timeline f) :
    Records { c with timeline := frames } b s := by
  intro i hi
  obtain ⟨f, hf, hpos, hc, hfi, hle, hval⟩ := h i hi
  exact ⟨f, hf, hpos, hc, hfi, hle, fun hfs => (heq f hfs).trans (hval hfs)⟩

lemma Records.simulate {c : Client I} {b s : ℕ} (h : Records c b s)
    (hs : s ≤ c.timeline.length) (frame : Frame I) : Records (c.simulate frame) b s := by
  refine h.of_timeline fun f hf => ?_
  rw [hashesAt, if_neg]
  omega

lemma Records.drop {c : Client I} {b s k : ℕ} (h : Records c b s)
    (hs : s + k ≤ c.timeline.length) :
    Records { c with timeline := c.timeline.drop k } b s := by
  refine h.of_timeline fun f hf => ?_
  rw [hashesAt_drop]
  omega

/-- A capture settles the newest frame, whether or not its slot held an earlier version. -/
lemma Records.capture {c c' : Client I} {b s : ℕ} (h : Records c b s) (hwrap : c.NoWrap)
    (hs : c.timeline.length ≤ s + 1) (hb : c.timeline.length ≤ b)
    (hcap : c.capture = some c') : Records c' b c.timeline.length := by
  intro i hi
  rw [timeline_capture hcap]
  rcases slot_capture hcap i with heq | ⟨frame, older, hcons, hc, hci, heq⟩
  · rw [heq] at hi ⊢
    obtain ⟨f, hf, hpos, hc, hfi, hle, hval⟩ := h i hi
    refine ⟨f, hf, hpos, hc, hfi, hle, fun hlen => ?_⟩
    rcases Nat.lt_or_eq_of_le hlen with hlt | rfl
    · exact hval (by omega)
    · -- the slot of the newest frame has just been written
      obtain ⟨frame, older, hcons⟩ := List.exists_cons_of_length_pos hpos
      rw [← hwrap.frameIdx_eq] at hc hfi
      have hnew := slot_capture_of_slotIndex hcap hcons hc hfi
      rw [← heq, hnew, hcons]
      simp [hashesAt, captured]
  · have hpos : 0 < c.timeline.length := by simp [hcons]
    rw [hwrap.frameIdx_eq] at hc hci
    refine ⟨c.timeline.length, ?_, hpos, hc, hci, hb, fun _ => ?_⟩
    · rw [heq, hwrap.frameIdx_eq]
      rfl
    · rw [heq, hcons]
      simp [hashesAt, captured]

/-- What is simulated again is recorded again. -/
lemma Records.resimulate {c c' : Client I} {b : ℕ} {resim : List (Frame I)}
    (h : Records c b c.timeline.length) (hb : c.timeline.length + resim.length ≤ b)
    (hwrap : c.timeline.length + resim.length < 2 ^ 15) (hres : c.resimulate resim = some c') :
    Records c' b c'.timeline.length := by
  induction resim generalizing c with
  | nil =>
    obtain rfl := Option.some.inj hres
    exact h
  | cons frame resim ih =>
    obtain ⟨c₁, hcap, hrest⟩ := Option.bind_eq_some_iff.1 hres
    rw [List.length_cons] at hb hwrap
    have hlen : c₁.timeline.length = c.timeline.length + 1 := by
      rw [timeline_capture hcap]
      rfl
    have hwrap₁ : (c.simulate frame).NoWrap := by
      show c.timeline.length + 1 < 2 ^ 15
      omega
    have hc₁ : Records c₁ b c₁.timeline.length := by
      rw [hlen]
      exact (h.simulate le_rfl frame).capture hwrap₁ le_rfl (by simp; omega) hcap
    exact ih hc₁ (by omega) (by omega) hrest

/-! ## Rollbacks -/

/-- A rollback records what it simulates; without one, everything stays as it is. -/
lemma Records.rollback {c c' : Client I} {b s : ℕ} {resim : List (Frame I)}
    (h : Records c b s) (hs : c.timeline.length ≤ s + 1) (hb : c.timeline.length ≤ b)
    (hwrap : c.NoWrap) (hroll : c.rollback resim = some c') :
    Records c' b c'.timeline.length ∨ c' = c := by
  obtain ⟨-, hlen, hres⟩ := rollback_eq hroll
  cases resim with
  | nil => exact Or.inr (Option.some.inj hres).symm
  | cons frame resim =>
    rw [List.length_cons] at hlen hres
    have hwrap' : c.timeline.length < 2 ^ 15 := hwrap
    have hdrop : Records { c with timeline := c.timeline.drop (resim.length + 1) } b
        (c.timeline.drop (resim.length + 1)).length := by
      rw [List.length_drop]
      exact (h.mono le_rfl (by omega)).drop (by omega)
    exact Or.inl (hdrop.resimulate (by simp; omega) (by simp; omega) hres)

/-- The slots that are not as they were belong to frames beyond `n`. -/
def KeepsUpTo (n : ℤ) (ring ring' : Ring) : Prop :=
  ∀ i, ring' i = ring i ∨ n < (ring' i).frameIdx

lemma KeepsUpTo.trans {n : ℤ} {r₁ r₂ r₃ : Ring} (h₁ : KeepsUpTo n r₁ r₂)
    (h₂ : KeepsUpTo n r₂ r₃) : KeepsUpTo n r₁ r₃ := by
  intro i
  rcases h₂ i with h | h
  · rw [h]
    exact h₁ i
  · exact Or.inr h

lemma KeepsUpTo.mono {m n : ℤ} {r r' : Ring} (h : KeepsUpTo n r r') (hmn : m ≤ n) :
    KeepsUpTo m r r' := fun i => (h i).imp_right hmn.trans_lt

lemma keepsUpTo_capture {c c' : Client I} (hwrap : c.NoWrap) {n : ℤ}
    (hn : n < c.timeline.length) (h : c.capture = some c') :
    KeepsUpTo n c.hashCheckpoints c'.hashCheckpoints := by
  intro i
  rcases slot_capture h i with heq | ⟨_, _, -, -, -, heq⟩
  · exact Or.inl heq
  · rw [heq, hwrap.frameIdx_eq]
    exact Or.inr hn

lemma keepsUpTo_resimulate {c c' : Client I} {resim : List (Frame I)} {n : ℤ}
    (hwrap : c.timeline.length + resim.length < 2 ^ 15) (hn : n ≤ c.timeline.length)
    (h : c.resimulate resim = some c') :
    KeepsUpTo n c.hashCheckpoints c'.hashCheckpoints := by
  induction resim generalizing c with
  | nil =>
    obtain rfl := Option.some.inj h
    exact fun _ => Or.inl rfl
  | cons frame resim ih =>
    obtain ⟨c₁, hcap, hrest⟩ := Option.bind_eq_some_iff.1 h
    rw [List.length_cons] at hwrap
    have hlen : c₁.timeline.length = c.timeline.length + 1 := by
      rw [timeline_capture hcap]
      rfl
    have hwrap₁ : (c.simulate frame).NoWrap := by
      show c.timeline.length + 1 < 2 ^ 15
      omega
    have hn₁ : n < (c.simulate frame).timeline.length := by
      rw [timeline_simulate, List.length_cons]
      omega
    exact (keepsUpTo_capture hwrap₁ hn₁ hcap).trans (ih (by omega) (by omega) hrest)

/-- A rollback leaves what is more than eight frames back. -/
lemma keepsUpTo_rollback {c c' : Client I} {resim : List (Frame I)} (hwrap : c.NoWrap)
    (h : c.rollback resim = some c') :
    KeepsUpTo (c.timeline.length - maxPredictionFrames) c.hashCheckpoints
      c'.hashCheckpoints := by
  obtain ⟨hmax, hlen, hres⟩ := rollback_eq h
  have hwrap' : c.timeline.length < 2 ^ 15 := hwrap
  have hn : (c.timeline.length : ℤ) - maxPredictionFrames ≤
      (c.timeline.drop resim.length).length := by
    rw [List.length_drop]
    omega
  have hwrapₙ : (c.timeline.drop resim.length).length + resim.length < 2 ^ 15 := by
    rw [List.length_drop]
    omega
  exact keepsUpTo_resimulate (c := { c with timeline := c.timeline.drop resim.length })
    hwrapₙ hn hres

/-! ## One step -/

/-- What a client holds of frames that are more than eight frames back has been there
before. -/
structure Inherits (c c' : Client I) : Prop where
  /-- The simulation goes forward. -/
  length_le : c.timeline.length ≤ c'.timeline.length
  /-- An old checkpoint is the same as before, and stays sent. -/
  slot : ∀ i, (c'.hashCheckpoints i).valid = true →
    (c'.hashCheckpoints i).frameIdx + maxPredictionFrames ≤ c.timeline.length →
      (c.hashCheckpoints i).valid = true ∧
        (c.hashCheckpoints i).frameIdx = (c'.hashCheckpoints i).frameIdx ∧
        (c.hashCheckpoints i).hashes = (c'.hashCheckpoints i).hashes ∧
        ((c.hashCheckpoints i).sent = true → (c'.hashCheckpoints i).sent = true)

lemma Inherits.refl (c : Client I) : Inherits c c :=
  ⟨le_rfl, fun _ hi _ => ⟨hi, rfl, rfl, id⟩⟩

lemma Inherits.trans {c₁ c₂ c₃ : Client I} (h : Inherits c₁ c₂) (h' : Inherits c₂ c₃) :
    Inherits c₁ c₃ := by
  refine ⟨h.length_le.trans h'.length_le, fun i hi hold => ?_⟩
  have hlen := h.length_le
  obtain ⟨hv, hf, hh, hs⟩ := h'.slot i hi (by omega)
  obtain ⟨hv', hf', hh', hs'⟩ := h.slot i hv (by omega)
  exact ⟨hv', hf'.trans hf, hh'.trans hh, hs ∘ hs'⟩

lemma Inherits.of_keepsUpTo {c c' : Client I}
    (hlen : c.timeline.length ≤ c'.timeline.length)
    (h : KeepsUpTo (c.timeline.length - maxPredictionFrames) c.hashCheckpoints
      c'.hashCheckpoints) : Inherits c c' := by
  refine ⟨hlen, fun i hi hold => ?_⟩
  rcases h i with heq | hlt
  · rw [heq] at hi ⊢
    exact ⟨hi, rfl, rfl, id⟩
  · omega

lemma Exchanged.inherits {c c' : Client I} (h : Exchanged c c') : Inherits c c' := by
  refine ⟨le_of_eq (by rw [h.timeline]), fun i hi _ => ?_⟩
  obtain ⟨b, hb⟩ := h.ring i
  rw [hb] at hi ⊢
  exact ⟨hi, rfl, rfl, fun hs => by simp [hs]⟩

lemma Exchanged.records {c c' : Client I} {b s : ℕ} (h : Exchanged c c') (hrec : Records c b s) :
    Records c' b s := by
  intro i hi
  obtain ⟨sent, hsent⟩ := h.ring i
  rw [hsent] at hi ⊢
  rw [h.timeline]
  exact hrec i hi

lemma Exchanged.placed {c c' : Client I} (h : Exchanged c c') (hplaced : Placed c) :
    Placed c' := by
  intro i hi
  obtain ⟨sent, hsent⟩ := h.ring i
  rw [hsent] at hi ⊢
  exact hplaced i hi

lemma Placed.capture {c c' : Client I} (hcap : c.capture = some c') (h : Placed c) :
    Placed c' := by
  intro i hi
  rcases slot_capture hcap i with heq | ⟨frame, _, -, -, hci, heq⟩
  · rw [heq] at hi ⊢
    exact h i hi
  · rw [heq]
    exact hci

/-! ## Runs -/

/-- The ring holds the present frames. -/
def Recorded (c : Client I) : Prop := Records c c.timeline.length c.timeline.length

lemma Records.recorded {c : Client I} {b s : ℕ} (h : Records c b s) (hbs : b ≤ s)
    (hb : b ≤ c.timeline.length) : Recorded c := by
  intro i hi
  obtain ⟨f, hf, hpos, hc, hfi, hle, hval⟩ := h i hi
  exact ⟨f, hf, hpos, hc, hfi, hle.trans hb, fun _ => hval (hle.trans hbs)⟩

lemma Recorded.battleUpdate {c c' : Client I} {frame : Frame I} {resim : List (Frame I)}
    (h : Recorded c) (hwrap : c'.NoWrap) (hnext : c.battleUpdate frame resim = some c') :
    Recorded c' ∧ Inherits c c' := by
  have hlen := length_battleUpdate hnext
  have hwrap' : c'.timeline.length < 2 ^ 15 := hwrap
  obtain ⟨c₁, hroll, hcap⟩ := battleUpdate_eq hnext
  have hlen₁ : c₁.timeline.length = c.timeline.length + 1 := by
    rw [← timeline_capture hcap, hlen]
  have hwrapₛ : (c.simulate frame).NoWrap := by
    show c.timeline.length + 1 < 2 ^ 15
    omega
  have hwrap₁ : c₁.NoWrap := by
    show c₁.timeline.length < 2 ^ 15
    omega
  have hsim : Records (c.simulate frame) (c.timeline.length + 1) c.timeline.length :=
    (Records.simulate h le_rfl frame).mono (by omega) le_rfl
  -- with or without a rollback, all but the newest frame are settled
  have hsettled : Records c₁ (c.timeline.length + 1) c.timeline.length := by
    rcases hsim.rollback le_rfl le_rfl hwrapₛ hroll with hrec | rfl
    · exact hrec.mono le_rfl (by omega)
    · exact hsim
  constructor
  · have hnew := hsettled.capture hwrap₁ (by omega) (by omega) hcap
    rw [hlen₁, ← hlen] at hnew
    exact hnew
  · have hkeep := keepsUpTo_rollback hwrapₛ hroll
    rw [timeline_simulate, List.length_cons] at hkeep
    have hcapt : KeepsUpTo (c.timeline.length - maxPredictionFrames) c₁.hashCheckpoints
        c'.hashCheckpoints := keepsUpTo_capture hwrap₁ (by rw [hlen₁]; omega) hcap
    exact .of_keepsUpTo (by omega) ((hkeep.mono (by omega)).trans hcapt)

lemma Recorded.idle {c c' : Client I} {resim : List (Frame I)} (h : Recorded c)
    (hwrap : c'.NoWrap) (hnext : c.rollback resim = some c') : Recorded c' ∧ Inherits c c' := by
  have hlen := length_rollback hnext
  have hwrap₀ : c.NoWrap := by
    show c.timeline.length < 2 ^ 15
    rw [← hlen]
    exact hwrap
  refine ⟨?_, .of_keepsUpTo hlen.ge (keepsUpTo_rollback hwrap₀ hnext)⟩
  rcases Records.rollback h (by omega) le_rfl hwrap₀ hnext with hrec | rfl
  · exact hrec.mono hlen.ge le_rfl
  · exact h

lemma placed_of_clear {c : Client I} (h : c.hashCheckpoints = clearHashCheckpoints) :
    Placed c := by
  intro i hi
  rw [h] at hi
  exact absurd hi (by simp [clearHashCheckpoints])

/-- **Step lemma.** The slots belong to their frames, whatever happens. -/
lemma Placed.next {c c' : Client I} {act : Action I} {o : Out} (h : Placed c)
    (hnext : next c act = some (o, c')) : Placed c' := by
  cases act with
  | battleUpdate frame resim =>
    obtain ⟨c₁, hup, heq⟩ := Option.map_eq_some_iff.1 hnext
    obtain ⟨-, rfl⟩ := Prod.mk.inj heq
    exact battleUpdate_preserves (fun _ _ h => h) (fun _ _ h => h) (fun _ _ => Placed.capture)
      hup h
  | idle resim =>
    obtain ⟨c₁, hroll, heq⟩ := Option.map_eq_some_iff.1 hnext
    obtain ⟨-, rfl⟩ := Prod.mk.inj heq
    exact rollback_preserves (fun _ _ h => h) (fun _ _ h => h) (fun _ _ => Placed.capture)
      hroll h
  | receive m =>
    have heq : c' = (c.onMessage m).2 := (congrArg Prod.snd (Option.some.inj hnext)).symm
    intro i hi
    rw [heq, (onMessage_fields c m).2] at hi ⊢
    exact h i hi
  | pass poll =>
    have heq : c' = (c.pass poll).2 := (congrArg Prod.snd (Option.some.inj hnext)).symm
    rw [heq]
    exact (exchanged_pass c poll).placed h
  | clearBattleState | startMatch =>
    obtain ⟨-, rfl⟩ := Prod.mk.inj (Option.some.inj hnext)
    exact placed_of_clear rfl
  | engineUpdate | startBattle =>
    obtain ⟨-, rfl⟩ := Prod.mk.inj (Option.some.inj hnext)
    exact h

lemma placed_of_run {c : Client I} {log : List (ClientEntry I)}
    (h : (clientLTS I).Run log c) : Placed c := by
  refine h.invariant_of_step (fun _ c => Placed c) ?_ ?_
  · rintro s ⟨k, rfl⟩
    exact placed_of_clear rfl
  · exact fun log e hpre hstep => hpre.next hstep

/-- Nothing is recorded in an empty ring. -/
lemma recorded_of_clear {c : Client I} (h : c.hashCheckpoints = clearHashCheckpoints) :
    Recorded c := by
  intro i hi
  rw [h] at hi
  exact absurd hi (by simp [clearHashCheckpoints])

lemma inherits_of_clear {c c' : Client I} (hlen : c.timeline.length ≤ c'.timeline.length)
    (h : c'.hashCheckpoints = clearHashCheckpoints) : Inherits c c' := by
  refine ⟨hlen, fun i hi _ => ?_⟩
  rw [h] at hi
  exact absurd hi (by simp [clearHashCheckpoints])

/-- **Step lemma.** Short of the beginning of a battle, a step keeps the ring in line with
the present frames and what is old in it as it is. -/
lemma Recorded.next {c c' : Client I} {act : Action I} {o : Out} (h : Recorded c)
    (hact : act ≠ .startBattle) (hwrap : c'.NoWrap) (hnext : next c act = some (o, c')) :
    Recorded c' ∧ Inherits c c' := by
  cases act with
  | battleUpdate frame resim =>
    obtain ⟨c₁, hup, heq⟩ := Option.map_eq_some_iff.1 hnext
    obtain ⟨-, rfl⟩ := Prod.mk.inj heq
    exact h.battleUpdate hwrap hup
  | engineUpdate frame =>
    obtain ⟨-, rfl⟩ := Prod.mk.inj (Option.some.inj hnext)
    have hsim : Records (c.simulate frame) c.timeline.length c.timeline.length :=
      Records.simulate h le_rfl frame
    exact ⟨hsim.recorded le_rfl (by simp),
      .of_keepsUpTo (by simp) fun _ => Or.inl rfl⟩
  | idle resim =>
    obtain ⟨c₁, hroll, heq⟩ := Option.map_eq_some_iff.1 hnext
    obtain ⟨-, rfl⟩ := Prod.mk.inj heq
    exact h.idle hwrap hroll
  | receive m =>
    have heq : c' = (c.onMessage m).2 := (congrArg Prod.snd (Option.some.inj hnext)).symm
    obtain ⟨htime, hring⟩ := onMessage_fields c m
    rw [← heq] at htime hring
    refine ⟨fun i hi => ?_, .of_keepsUpTo (by rw [htime]) fun i => Or.inl (congrFun hring i)⟩
    rw [hring] at hi ⊢
    rw [htime]
    exact h i hi
  | pass poll =>
    have heq : c' = (c.pass poll).2 := (congrArg Prod.snd (Option.some.inj hnext)).symm
    subst heq
    have hex := exchanged_pass c poll
    refine ⟨?_, hex.inherits⟩
    show Records _ _ _
    rw [hex.timeline]
    exact hex.records h
  | clearBattleState =>
    obtain ⟨-, rfl⟩ := Prod.mk.inj (Option.some.inj hnext)
    exact ⟨recorded_of_clear rfl, inherits_of_clear le_rfl rfl⟩
  | startMatch k =>
    obtain ⟨-, rfl⟩ := Prod.mk.inj (Option.some.inj hnext)
    exact ⟨recorded_of_clear rfl, inherits_of_clear le_rfl rfl⟩
  | startBattle => exact absurd rfl hact

/-- A step within one battle, before the frame numbers wrap around. -/
def Within (e : ClientEntry I) : Prop := e.act ≠ .startBattle ∧ e.post.NoWrap

/-- **Run lemma.** Within one battle the ring stays in line with the present frames, and what
is old in it stays. -/
lemma recorded_of_path {c c' : Client I} {log : List (ClientEntry I)}
    (h : (clientLTS I).Path c log c') (hok : ∀ e ∈ log, Within e) (hrec : Recorded c) :
    Recorded c' ∧ Inherits c c' := by
  refine h.invariant (fun _ c' => Recorded c' ∧ Inherits c c') ⟨hrec, .refl c⟩ ?_ hok
  rintro log ⟨pre, act, out, post⟩ ⟨hpre, hinh⟩ hstep ⟨hact, hwrap⟩
  obtain ⟨hpost, hinh'⟩ := hpre.next hact hwrap hstep
  exact ⟨hpost, hinh.trans hinh'⟩

lemma recorded_of_run {c : Client I} {log : List (ClientEntry I)}
    (h : (clientLTS I).Run log c) (hok : ∀ e ∈ log, Within e) : Recorded c := by
  obtain ⟨s, ⟨k, rfl⟩, hpath⟩ := h
  exact (recorded_of_path hpath hok (recorded_of_clear rfl)).1

/-! ## Sending once -/

/-- The message is the hash of the frame. -/
def Message.isHashOf (f : ℤ) : Message → Bool
  | .snapshot _ => false
  | .hash m => m.frameIdx == f

/-- The number of times that the hash of a frame was sent in the course of a log. -/
def hashesSent (f : ℤ) (log : List (ClientEntry I)) : ℕ :=
  (log.flatMap fun e => e.out.sent).countP (Message.isHashOf f)

/-- The hash of the frame was sent `n` times: at most once, and if it was, then the frame is
old and the ring remembers. -/
structure SentOnce (f : ℤ) (n : ℕ) (c : Client I) : Prop where
  le_one : n ≤ 1
  aged : 0 < n → f + hashCheckpointAgeFrames ≤ c.timeline.length
  sent : 0 < n → ∀ i, (c.hashCheckpoints i).valid = true →
    (c.hashCheckpoints i).frameIdx = f → (c.hashCheckpoints i).sent = true

lemma SentOnce.of_inherits {f : ℤ} {n : ℕ} {c c' : Client I} (h : SentOnce f n c)
    (hinh : Inherits c c') : SentOnce f n c' := by
  have hlen := hinh.length_le
  refine ⟨h.le_one, fun hn => ?_, fun hn i hi hf => ?_⟩
  · have haged := h.aged hn
    omega
  · have haged := h.aged hn
    have hold : (c'.hashCheckpoints i).frameIdx + maxPredictionFrames ≤ c.timeline.length := by
      rw [hf]
      simp only [maxPredictionFrames, hashCheckpointAgeFrames] at haged ⊢
      omega
    obtain ⟨hv, hf', -, hs⟩ := hinh.slot i hi hold
    exact hs (h.sent hn i hv (hf'.trans hf))

lemma SentOnce.sendHash {f : ℤ} {n : ℕ} {c : Client I} (h : SentOnce f n c)
    (hrec : Recorded c) (poll : Poll) {i : Fin numHashCheckpoints}
    (hdue : c.Due c.timeline.length i) :
    SentOnce f (n + (c.sendHash poll i).1.sent.countP (Message.isHashOf f))
      (c.sendHash poll i).2 := by
  obtain ⟨hvalid, hage⟩ := hdue
  rcases sendHash_cases c poll i with hs | ⟨hunsent, hs⟩
  · rw [hs]
    exact h
  rw [hs]
  dsimp only
  have hcount : List.countP (Message.isHashOf f)
      [Message.hash (c.hashMessage (c.hashCheckpoints i))] =
        if (c.hashCheckpoints i).frameIdx = f then 1 else 0 := by
    simp [Message.isHashOf, hashMessage, List.countP_cons]
  rw [hcount]
  split
  · rename_i hf
    -- the frame has not been sent before
    have hn : n = 0 := by
      by_contra hn
      have hsent := h.sent (by omega) i hvalid hf
      simp [hunsent] at hsent
    subst hn
    refine ⟨le_rfl, fun _ => ?_, fun _ j hj hjf => ?_⟩
    · show f + _ ≤ (c.timeline.length : ℤ)
      omega
    · by_cases hji : j = i
      · subst hji
        rw [markSent_self]
      · rw [markSent_of_ne c hji] at hj hjf
        exact absurd (hrec.placed.eq_of_frameIdx_eq hj hvalid (hjf.trans hf.symm)) hji
  · refine ⟨h.le_one, h.aged, fun hn j hj hjf => ?_⟩
    by_cases hji : j = i
    · subst hji
      rw [markSent_self]
    · rw [markSent_of_ne c hji] at hj hjf ⊢
      exact h.sent hn j hj hjf

lemma SentOnce.exchangeHash {f : ℤ} {n : ℕ} {c : Client I} (h : SentOnce f n c)
    (hrec : Recorded c) (poll : Poll) (i : Fin numHashCheckpoints) :
    SentOnce f
      (n + (c.exchangeHash poll c.timeline.length i).1.sent.countP (Message.isHashOf f))
      (c.exchangeHash poll c.timeline.length i).2 := by
  by_cases hdue : c.Due c.timeline.length i
  · have hsending := h.sendHash hrec poll hdue
    rw [exchangeHash_of_due poll hdue]
    rcases reconcileHash_cases (c.sendHash poll i).2 poll i with ⟨-, hr⟩ | ⟨_, _, -, hr⟩
    all_goals
      rw [hr]
      simp only [Out.append, List.append_nil]
      exact ⟨hsending.le_one, hsending.aged, hsending.sent⟩
  · rw [exchangeHash_of_not_due poll hdue]
    exact h

lemma SentOnce.exchangeHashes {f : ℤ} {n : ℕ} {c : Client I} (h : SentOnce f n c)
    (hrec : Recorded c) (poll : Poll) (slots : List (Fin numHashCheckpoints)) :
    SentOnce f
      (n + (c.exchangeHashes poll c.timeline.length slots).1.sent.countP (Message.isHashOf f))
      (c.exchangeHashes poll c.timeline.length slots).2 := by
  induction slots generalizing c n with
  | nil => exact h
  | cons i slots ih =>
    have hfirst := h.exchangeHash hrec poll i
    have hex := exchanged_exchangeHash c poll c.timeline.length i
    have hrec' : Recorded (c.exchangeHash poll c.timeline.length i).2 := by
      show Records _ _ _
      rw [hex.timeline]
      exact hex.records hrec
    have hrest := ih hfirst hrec'
    rw [hex.timeline] at hrest
    simpa [Client.exchangeHashes, Out.append, Nat.add_assoc] using hrest

lemma SentOnce.pass {f : ℤ} {n : ℕ} {c : Client I} (h : SentOnce f n c) (hrec : Recorded c)
    (hwrap : c.NoWrap) (poll : Poll) :
    SentOnce f (n + (c.pass poll).1.sent.countP (Message.isHashOf f)) (c.pass poll).2 := by
  cases hen : poll.snapshotsEnabled with
  | false =>
    rw [pass_of_disabled c hen]
    exact h
  | true =>
    rw [pass_of_enabled c hen, hwrap.frameIdx_eq]
    generalize List.finRange numHashCheckpoints = slots
    dsimp only
    have hex := exchanged_exchangeSnapshots c poll c.timeline.length
    -- the snapshots that are sent are no hashes
    have hnone : (c.exchangeSnapshots poll c.timeline.length).1.sent.countP
        (Message.isHashOf f) = 0 := by
      refine List.countP_eq_zero.2 fun m hm => ?_
      obtain ⟨l, -, rfl⟩ := List.mem_map.1 (List.mem_filter.1 hm).1
      simp [Message.isHashOf]
    have hrec' : Recorded (c.exchangeSnapshots poll c.timeline.length).2 := by
      show Records _ _ _
      rw [hex.timeline]
      exact hex.records hrec
    have hhashes := (h.of_inherits hex.inherits).exchangeHashes hrec' poll slots
    rw [hex.timeline] at hhashes
    simp only [Out.append, List.countP_append, hnone, Nat.zero_add]
    exact hhashes

/-- **Step lemma.** A step sends the hash of a frame only if it has not been sent. -/
lemma SentOnce.next {f : ℤ} {n : ℕ} {c c' : Client I} {act : Action I} {o : Out}
    (h : SentOnce f n c) (hrec : Recorded c) (hact : act ≠ .startBattle) (hwrap : c'.NoWrap)
    (hnext : next c act = some (o, c')) :
    SentOnce f (n + o.sent.countP (Message.isHashOf f)) c' := by
  by_cases hpass : ∃ poll, act = .pass poll
  · obtain ⟨poll, rfl⟩ := hpass
    have heq : c.pass poll = (o, c') := Option.some.inj hnext
    have hwrap' : c.NoWrap := by
      have htime := (exchanged_pass c poll).timeline
      rw [heq] at htime
      show c.timeline.length < 2 ^ 15
      rw [← htime]
      exact hwrap
    have hpost := h.pass hrec hwrap' poll
    rw [heq] at hpost
    exact hpost
  · rw [not_exists] at hpass
    rw [(quiet_of_next hpass hnext).1]
    exact h.of_inherits (hrec.next hact hwrap hnext).2

/-- **Sent once.** Within one battle, the hash of a frame is sent at most once. -/
theorem sentOnce_of_run {c : Client I} {log : List (ClientEntry I)}
    (h : (clientLTS I).Run log c) (hok : ∀ e ∈ log, Within e) (f : ℤ) :
    SentOnce f (hashesSent f log) c := by
  refine (h.invariant (fun log c => Recorded c ∧ SentOnce f (hashesSent f log) c)
    ?_ ?_ hok).2
  · rintro s ⟨k, rfl⟩
    have hzero : SentOnce f 0 (Client.start k : Client I) := ⟨by simp, by simp, by simp⟩
    exact ⟨recorded_of_clear rfl, hzero⟩
  · rintro log ⟨pre, act, out, post⟩ ⟨hrec, hsent⟩ hstep ⟨hact, hwrap⟩
    have hcount : hashesSent f (⟨pre, act, out, post⟩ :: log) =
        hashesSent f log + out.sent.countP (Message.isHashOf f) := by
      simp [hashesSent, Nat.add_comm]
    rw [hcount]
    exact ⟨(hrec.next hact hwrap hstep).1, hsent.next hrec hact hwrap hstep⟩

end Desync
end Sf4e
