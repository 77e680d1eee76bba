/-
# The ring of hash checkpoints

A battle keeps the hashes of every thirtieth frame in a ring of 64 slots.  The frame number
is the integral part of a 16-bit fixed-point number, so a battle that goes on for long
enough reaches the maximum and continues with negative numbers, and C++ divides with
truncation.  A capture whose index leaves the ring is undefined behaviour, which the model
writes as `none`.

`RingSpec` says what the ring owes after any list of operations, newest first;
`ringSpec_iff` says that it does so exactly when no capture was taken at a negative
checkpoint frame.
-/
import Mathlib.Data.Int.Basic
import Mathlib.Logic.Function.Basic
import Mathlib.Tactic.LinearCombination

namespace Sf4e
namespace HashRing

/-! ## Data -/

/-- `Dimps::Math::FixedPoint`. -/
structure FixedPoint where
  fractional : UInt16
  integral : Int16
deriving DecidableEq, Repr

/-- `SemanticHashes`. -/
structure SemanticHashes where
  overall : UInt64 := 0
  flow : UInt64 := 0
  /-- One hash for each of the two characters. -/
  chara : UInt64 × UInt64 := (0, 0)
deriving DecidableEq, Repr

/-- `HashCheckpoint`. -/
structure HashCheckpoint where
  frameIdx : ℤ := -1
  valid : Bool := false
  sent : Bool := false
  hashes : SemanticHashes := {}
deriving DecidableEq, Repr

/-- `HASH_CHECKPOINT_INTERVAL`. -/
def hashCheckpointInterval : ℤ := 30

/-- `NUM_HASH_CHECKPOINTS`. -/
def numHashCheckpoints : ℕ := 64

/-- `hashCheckpoints`. -/
abbrev Ring := Fin numHashCheckpoints → HashCheckpoint

/-! ## The operations -/

/-- Is the frame one of those that are captured?  `frameIdx % HASH_CHECKPOINT_INTERVAL == 0`. -/
def IsCheckpoint (frameIdx : ℤ) : Prop := frameIdx.tmod hashCheckpointInterval = 0

instance (frameIdx : ℤ) : Decidable (IsCheckpoint frameIdx) :=
  inferInstanceAs (Decidable (_ = _))

/-- The index expression, `(frameIdx / HASH_CHECKPOINT_INTERVAL) % NUM_HASH_CHECKPOINTS`. -/
def slotIndex (frameIdx : ℤ) : ℤ :=
  (frameIdx.tdiv hashCheckpointInterval).tmod numHashCheckpoints

/-- The index lies in the ring. -/
def InRing (index : ℤ) : Prop := 0 ≤ index ∧ index < numHashCheckpoints

instance (index : ℤ) : Decidable (InRing index) := inferInstanceAs (Decidable (_ ∧ _))

/-- `hashCheckpoints[index]`, for an index in the ring. -/
def slotAt (index : ℤ) : Option (Fin numHashCheckpoints) :=
  if h : InRing index then some ⟨index.toNat, by obtain ⟨h₀, h₁⟩ := h; omega⟩ else none

/-- `CaptureHashCheckpoint`, where `computed` is what `ComputeSemanticHashes` returns. -/
def captureHashCheckpoint (ring : Ring) (numFramesSimulated : FixedPoint)
    (computed : SemanticHashes) : Option Ring :=
  let frameIdx := numFramesSimulated.integral.toInt
  if ¬ IsCheckpoint frameIdx then some ring
  else
    (slotAt (slotIndex frameIdx)).map fun i =>
      let slot :=
        if (ring i).frameIdx ≠ frameIdx then { ring i with frameIdx := frameIdx, sent := false }
        else ring i
      Function.update ring i { slot with hashes := computed, valid := true }

/-- `FindHashCheckpoint`. -/
def findHashCheckpoint (ring : Ring) (frameIdx : ℤ) : Option HashCheckpoint :=
  if frameIdx < 0 ∨ ¬ IsCheckpoint frameIdx then none
  else
    (slotAt (slotIndex frameIdx)).bind fun i =>
      if (ring i).valid ∧ (ring i).frameIdx = frameIdx then some (ring i) else none

/-- `ClearHashCheckpoints`, and the ring a process starts with. -/
def clearHashCheckpoints : Ring := fun _ => {}

/-- What is done to the ring. -/
inductive Op
  /-- A frame was accepted, with this frame number and these hashes. -/
  | capture (numFramesSimulated : FixedPoint) (computed : SemanticHashes)
  /-- The session client sent the checkpoint in this slot. -/
  | markSent (i : Fin numHashCheckpoints)
  /-- `ClearBattleState`. -/
  | clear
deriving DecidableEq, Repr

/-- One operation. -/
def Op.exec (ring : Ring) : Op → Option Ring
  | .capture numFramesSimulated computed => captureHashCheckpoint ring numFramesSimulated computed
  | .markSent i => some (Function.update ring i { ring i with sent := true })
  | .clear => some clearHashCheckpoints

/-- The ring after the operations, newest first. -/
def run : List Op → Option Ring
  | [] => some clearHashCheckpoints
  | op :: older => (run older).bind op.exec

/-! ## What the ring owes -/

/-- The most recent capture of the frame, unless the ring was cleared since or another
checkpoint frame was captured into the frame's slot. -/
def lastCapture (frameIdx : ℤ) : List Op → Option SemanticHashes
  | [] => none
  | .clear :: _ => none
  | .markSent _ :: older => lastCapture frameIdx older
  | .capture numFramesSimulated computed :: older =>
    let captured := numFramesSimulated.integral.toInt
    if ¬ IsCheckpoint captured then lastCapture frameIdx older
    else if captured = frameIdx then some computed
    else if slotIndex captured = slotIndex frameIdx then none
    else lastCapture frameIdx older

/-- The checkpoint frame was captured by one of the operations. -/
def Captures (ops : List Op) (frameIdx : ℤ) : Prop :=
  IsCheckpoint frameIdx ∧ ∃ numFramesSimulated computed,
    Op.capture numFramesSimulated computed ∈ ops ∧ numFramesSimulated.integral.toInt = frameIdx

/-- What the ring is to do over the operations, newest first. -/
structure RingSpec (ops : List Op) : Prop where
  /-- Every capture indexes inside the ring. -/
  inside : ∀ f, Captures ops f → InRing (slotIndex f)
  /-- Checkpoint frames less than 64 intervals apart do not share a slot. -/
  apart : ∀ f g, Captures ops f → Captures ops g → f ≠ g →
    |f - g| < numHashCheckpoints * hashCheckpointInterval → slotIndex f ≠ slotIndex g
  /-- In every state on the way, a checkpoint frame finds its most recent capture that is
  still there, and every other frame finds nothing. -/
  finds : ∀ newer older, ops = newer ++ older → ∃ ring, run older = some ring ∧
    ∀ f, (findHashCheckpoint ring f).map (·.hashes) = lastCapture f older

/-! ## Indices -/

lemma slotAt_eq_some_iff {index : ℤ} {i : Fin numHashCheckpoints} :
    slotAt index = some i ↔ index = (i : ℕ) := by
  unfold slotAt
  split
  · rename_i h
    obtain ⟨h₀, h₁⟩ := h
    rw [Option.some.injEq, Fin.ext_iff]
    show index.toNat = (i : ℕ) ↔ _
    omega
  · rename_i h
    have hi := i.isLt
    constructor
    · simp
    · rintro rfl
      exact absurd ⟨by omega, by omega⟩ h

/-- A frame number that is not negative has its slot in the ring. -/
lemma inRing_slotIndex {f : ℤ} (hf : 0 ≤ f) : InRing (slotIndex f) := by
  have hdiv : 0 ≤ f.tdiv hashCheckpointInterval := Int.tdiv_nonneg hf (by decide)
  exact ⟨Int.tmod_nonneg _ hdiv, Int.tmod_lt_of_pos _ (by decide)⟩

lemma exists_slot {f : ℤ} (h : InRing (slotIndex f)) :
    ∃ i : Fin numHashCheckpoints, slotIndex f = (i : ℕ) := by
  obtain ⟨h₀, h₁⟩ := h
  exact ⟨⟨(slotIndex f).toNat, by omega⟩, (Int.toNat_of_nonneg h₀).symm⟩

/-- A shared slot means a distance of a multiple of 64 intervals, whatever the signs. -/
lemma dvd_of_slotIndex_eq {f g : ℤ} (hf : IsCheckpoint f) (hg : IsCheckpoint g)
    (h : slotIndex f = slotIndex g) :
    (numHashCheckpoints : ℤ) * hashCheckpointInterval ∣ f - g := by
  unfold IsCheckpoint at hf hg
  unfold slotIndex at h
  have hf' := Int.tmod_add_tdiv_mul f hashCheckpointInterval
  have hg' := Int.tmod_add_tdiv_mul g hashCheckpointInterval
  have hfq := Int.tmod_add_tdiv_mul (f.tdiv hashCheckpointInterval) numHashCheckpoints
  have hgq := Int.tmod_add_tdiv_mul (g.tdiv hashCheckpointInterval) numHashCheckpoints
  refine ⟨(f.tdiv hashCheckpointInterval).tdiv numHashCheckpoints -
    (g.tdiv hashCheckpointInterval).tdiv numHashCheckpoints, ?_⟩
  linear_combination (-1 : ℤ) * hf' + hg' + hf - hg + hashCheckpointInterval * (hgq - hfq + h)

/-- **Slots apart.** Two checkpoint frames less than 64 intervals apart have different
slots. -/
lemma slotIndex_ne {f g : ℤ} (hf : IsCheckpoint f) (hg : IsCheckpoint g) (hne : f ≠ g)
    (hlt : |f - g| < numHashCheckpoints * hashCheckpointInterval) :
    slotIndex f ≠ slotIndex g := by
  intro h
  have hzero := Int.eq_zero_of_abs_lt_dvd (dvd_of_slotIndex_eq hf hg h) hlt
  exact hne (by omega)

/-! ## Captures and look-ups -/

/-- What a capture leaves in its slot. -/
def captured (old : HashCheckpoint) (f : ℤ) (computed : SemanticHashes) : HashCheckpoint :=
  { frameIdx := f, valid := true, sent := old.sent && old.frameIdx == f, hashes := computed }

lemma capture_of_not_isCheckpoint {ring : Ring} {fp : FixedPoint} {computed : SemanticHashes}
    (h : ¬ IsCheckpoint fp.integral.toInt) :
    captureHashCheckpoint ring fp computed = some ring := by
  simp [captureHashCheckpoint, h]

lemma capture_of_slot {ring : Ring} {fp : FixedPoint} {computed : SemanticHashes}
    {i : Fin numHashCheckpoints} (h : IsCheckpoint fp.integral.toInt)
    (hi : slotIndex fp.integral.toInt = (i : ℕ)) :
    captureHashCheckpoint ring fp computed =
      some (Function.update ring i (captured (ring i) fp.integral.toInt computed)) := by
  simp only [captureHashCheckpoint, h, not_true_eq_false, if_false, slotAt_eq_some_iff.2 hi,
    Option.map_some, captured]
  by_cases hf : (ring i).frameIdx = fp.integral.toInt
  · simp [hf]
  · simp [hf, beq_eq_false_iff_ne.2 hf]

/-- What a capture does to each slot. -/
lemma slot_of_capture {ring ring' : Ring} {fp : FixedPoint} {computed : SemanticHashes}
    (h : captureHashCheckpoint ring fp computed = some ring') (i : Fin numHashCheckpoints) :
    (IsCheckpoint fp.integral.toInt ∧ slotIndex fp.integral.toInt = (i : ℕ) ∧
        ring' i = captured (ring i) fp.integral.toInt computed) ∨
      (¬ (IsCheckpoint fp.integral.toInt ∧ slotIndex fp.integral.toInt = (i : ℕ)) ∧
        ring' i = ring i) := by
  by_cases hc : IsCheckpoint fp.integral.toInt
  · cases hs : slotAt (slotIndex fp.integral.toInt) with
    | none => simp [captureHashCheckpoint, hc, hs] at h
    | some j =>
      have hj := slotAt_eq_some_iff.1 hs
      rw [capture_of_slot hc hj, Option.some.injEq] at h
      subst h
      by_cases hij : i = j
      · subst hij
        exact Or.inl ⟨hc, hj, Function.update_self ..⟩
      · refine Or.inr ⟨fun hi => hij (Fin.ext ?_), Function.update_of_ne hij ..⟩
        exact_mod_cast hi.2.symm.trans hj
  · rw [capture_of_not_isCheckpoint hc, Option.some.injEq] at h
    exact Or.inr ⟨fun hi => hc hi.1, by rw [h]⟩

lemma find_of_slot {ring : Ring} {f : ℤ} {i : Fin numHashCheckpoints} (hf : 0 ≤ f)
    (h : IsCheckpoint f) (hi : slotIndex f = (i : ℕ)) :
    findHashCheckpoint ring f =
      if (ring i).valid ∧ (ring i).frameIdx = f then some (ring i) else none := by
  simp [findHashCheckpoint, not_lt.2 hf, h, slotAt_eq_some_iff.2 hi]

lemma find_of_neg {ring : Ring} {f : ℤ} (hf : f < 0) : findHashCheckpoint ring f = none := by
  simp [findHashCheckpoint, hf]

lemma find_of_not_isCheckpoint {ring : Ring} {f : ℤ} (hf : ¬ IsCheckpoint f) :
    findHashCheckpoint ring f = none := by
  simp [findHashCheckpoint, hf]

/-! ## One operation -/

/-- The ring finds what the operations captured last. -/
def Finds (ring : Ring) (ops : List Op) : Prop :=
  ∀ f, (findHashCheckpoint ring f).map (·.hashes) = lastCapture f ops

lemma finds_clear (older : List Op) : Finds clearHashCheckpoints (.clear :: older) := by
  intro f
  by_cases hf : 0 ≤ f ∧ IsCheckpoint f
  · obtain ⟨i, hi⟩ := exists_slot (inRing_slotIndex hf.1)
    simp [find_of_slot hf.1 hf.2 hi, clearHashCheckpoints, lastCapture]
  · by_cases hneg : f < 0
    · simp [find_of_neg hneg, lastCapture]
    · simp [find_of_not_isCheckpoint (fun h => hf ⟨by omega, h⟩), lastCapture]

lemma find_update_sent {ring : Ring} {i : Fin numHashCheckpoints} (f : ℤ) :
    (findHashCheckpoint (Function.update ring i { ring i with sent := true }) f).map (·.hashes) =
      (findHashCheckpoint ring f).map (·.hashes) := by
  by_cases hf : 0 ≤ f ∧ IsCheckpoint f
  · obtain ⟨j, hj⟩ := exists_slot (inRing_slotIndex hf.1)
    rw [find_of_slot hf.1 hf.2 hj, find_of_slot hf.1 hf.2 hj]
    by_cases hji : j = i
    · subst hji
      by_cases hv : (ring j).valid ∧ (ring j).frameIdx = f <;> simp [hv]
    · simp [Function.update_of_ne hji]
  · by_cases hneg : f < 0
    · rw [find_of_neg hneg, find_of_neg hneg]
    · rw [find_of_not_isCheckpoint fun h => hf ⟨by omega, h⟩,
        find_of_not_isCheckpoint fun h => hf ⟨by omega, h⟩]

/-- **Step lemma.** A capture whose frame is not negative is carried out, and afterwards the
ring finds it. -/
lemma Finds.capture {ring : Ring} {older : List Op} (h : Finds ring older) {fp : FixedPoint}
    (computed : SemanticHashes)
    (hfp : IsCheckpoint fp.integral.toInt → 0 ≤ fp.integral.toInt) :
    ∃ ring', captureHashCheckpoint ring fp computed = some ring' ∧
      Finds ring' (.capture fp computed :: older) := by
  by_cases hc : IsCheckpoint fp.integral.toInt
  · have hnn := hfp hc
    obtain ⟨i, hi⟩ := exists_slot (inRing_slotIndex hnn)
    refine ⟨_, capture_of_slot hc hi, fun f => ?_⟩
    simp only [lastCapture, hc, not_true_eq_false, if_false]
    by_cases heq : fp.integral.toInt = f
    · subst heq
      simp [find_of_slot hnn hc hi, captured]
    · rw [if_neg heq]
      by_cases hf : 0 ≤ f ∧ IsCheckpoint f
      · obtain ⟨j, hj⟩ := exists_slot (inRing_slotIndex hf.1)
        by_cases hji : j = i
        · -- the slot now belongs to another frame
          subst hji
          simp [find_of_slot hf.1 hf.2 hj, captured, heq, hi, hj]
        · have hne : slotIndex fp.integral.toInt ≠ slotIndex f := by
            rw [hi, hj]
            intro hij
            exact hji (Fin.ext (by exact_mod_cast hij.symm))
          rw [if_neg hne, ← h f, find_of_slot hf.1 hf.2 hj, find_of_slot hf.1 hf.2 hj,
            Function.update_of_ne hji]
      · have hnone : ∀ ring, findHashCheckpoint ring f = none := fun ring => by
          by_cases hneg : f < 0
          · exact find_of_neg hneg
          · exact find_of_not_isCheckpoint fun h => hf ⟨by omega, h⟩
        have hold := h f
        rw [hnone, Option.map_none] at hold ⊢
        split
        · rfl
        · exact hold
  · refine ⟨ring, capture_of_not_isCheckpoint hc, fun f => ?_⟩
    simp only [lastCapture, hc, not_false_eq_true, if_true]
    exact h f

/-! ## Runs -/

lemma Captures.cons {ops : List Op} {f : ℤ} (h : Captures ops f) (op : Op) :
    Captures (op :: ops) f := by
  obtain ⟨hf, fp, c, hmem, heq⟩ := h
  exact ⟨hf, fp, c, List.mem_cons_of_mem _ hmem, heq⟩

lemma Captures.append {ops : List Op} {f : ℤ} (h : Captures ops f) (newer : List Op) :
    Captures (newer ++ ops) f := by
  obtain ⟨hf, fp, c, hmem, heq⟩ := h
  exact ⟨hf, fp, c, List.mem_append_right _ hmem, heq⟩

/-- **Run lemma.** As long as no negative checkpoint frame is captured, the operations are
carried out and the ring finds what they captured last. -/
lemma exists_run_finds {ops : List Op} (h : ∀ f, Captures ops f → 0 ≤ f) :
    ∃ ring, run ops = some ring ∧ Finds ring ops := by
  induction ops with
  | nil =>
    refine ⟨clearHashCheckpoints, rfl, fun f => ?_⟩
    have hclear := finds_clear [] f
    rw [hclear]
    rfl
  | cons op older ih =>
    obtain ⟨ring, hrun, hfinds⟩ := ih fun f hf => h f (hf.cons op)
    cases op with
    | capture fp computed =>
      have hfp (hc : IsCheckpoint fp.integral.toInt) : 0 ≤ fp.integral.toInt :=
        h _ ⟨hc, fp, computed, List.mem_cons_self, rfl⟩
      obtain ⟨ring', hring', hfinds'⟩ := hfinds.capture computed hfp
      exact ⟨ring', by rw [run, hrun]; exact hring', hfinds'⟩
    | markSent i =>
      refine ⟨_, by rw [run, hrun]; rfl, fun f => ?_⟩
      rw [find_update_sent, hfinds f]
      rfl
    | clear => exact ⟨_, by rw [run, hrun]; rfl, finds_clear older⟩

/-- Without a negative checkpoint frame the ring does what it is to do. -/
lemma ringSpec_of_nonneg {ops : List Op} (h : ∀ f, Captures ops f → 0 ≤ f) : RingSpec ops := by
  refine ⟨fun f hf => inRing_slotIndex (h f hf),
    fun f g hf hg hne hlt => slotIndex_ne hf.1 hg.1 hne hlt, ?_⟩
  rintro newer older rfl
  exact exists_run_finds fun f hf => h f (hf.append newer)

/-- **The hash checkpoint ring.** The ring does what it is to do over a list of
operations, newest first, exactly when none of them captures a negative checkpoint frame. -/
theorem ringSpec_iff (ops : List Op) : RingSpec ops ↔ ∀ f, Captures ops f → 0 ≤ f := by
  constructor
  · rintro ⟨-, -, hfinds⟩ f ⟨hf, fp, computed, hmem, rfl⟩
    by_contra hneg
    rw [not_le] at hneg
    -- right after the capture the look-up refuses the frame
    obtain ⟨newer, older, rfl⟩ := List.append_of_mem hmem
    obtain ⟨ring, -, hring⟩ := hfinds newer _ rfl
    have hnow := hring fp.integral.toInt
    simp [find_of_neg hneg, lastCapture, hf] at hnow
  · exact ringSpec_of_nonneg

/-! ## Endless sparring -/

/-- A battle that accepts `n` frames in order, from frame 0 on: the captures, newest first. -/
def sparring (n : ℕ) : List Op :=
  (List.range n).reverse.map fun k => .capture ⟨0, Int16.ofNat k⟩ {}

/-- After the wrap the frame -32760 is captured, at index -4. -/
theorem not_ringSpec_sparring : ¬ RingSpec (sparring 32777) := by
  intro h
  have hmem : Op.capture ⟨0, Int16.ofNat 32776⟩ {} ∈ sparring 32777 :=
    List.mem_map.2 ⟨32776, by simp, rfl⟩
  have hslot := h.inside (-32760) ⟨by decide, _, _, hmem, by decide⟩
  exact absurd hslot (by decide)

/-- A battle that stops before the wrap keeps the ring. -/
lemma ringSpec_sparring {n : ℕ} (hn : n ≤ 32768) : RingSpec (sparring n) := by
  refine ringSpec_of_nonneg ?_
  rintro f ⟨-, fp, c, hmem, rfl⟩
  obtain ⟨k, hk, heq⟩ := List.mem_map.1 hmem
  rw [List.mem_reverse, List.mem_range] at hk
  cases heq
  show 0 ≤ (Int16.ofNat k).toInt
  rw [Int16.toInt_ofNat_of_lt (by omega)]
  omega

end HashRing
end Sf4e
