/-
# The snapshots of the present frames

`CaptureSnapshot` runs after every frame, and again after a frame that a rollback has simulated
again.  What the map of local snapshots holds of a frame is its state in the present list of
frames (`Current`), and what a step captures is new in the map, neither sent nor
compared (`Recaptures`).
-/
import Sf4e.Desync.Isolation

namespace Sf4e
namespace Desync

open HashRing Trace Client

variable {I : Type}

/-! ## Snapshots of frames -/

/-- The state after the frame with this number, in a list of frames, newest first. -/
def charaAt (frames : List (Frame I)) : ℕ → Option (List UInt8)
  | 0 => none
  | n + 1 => frames.reverse[n]?.map Frame.chara

/-- The snapshot of a frame, if one is captured. -/
def snapshotAt (frames : List (Frame I)) (battle : ℕ) (f : ℤ) : Option StateSnapshot :=
  if f % 60 = 0 then (charaAt frames f.toNat).map fun chara => ⟨f, chara, battle⟩ else none

/-- The snapshot of a frame of the present battle. -/
def Client.localSnapshot (c : Client I) (f : ℤ) : Option StateSnapshot :=
  snapshotAt c.timeline c.battle f

lemma charaAt_of_append {newer older : List (Frame I)} {n : ℕ} (h : n ≤ older.length) :
    charaAt (newer ++ older) n = charaAt older n := by
  cases n with
  | zero => rfl
  | succ n =>
    simp only [charaAt, List.reverse_append]
    have hlt : n < older.reverse.length := by
      rw [List.length_reverse]
      omega
    rw [List.getElem?_append_left hlt]

lemma charaAt_drop {frames : List (Frame I)} {n k : ℕ} (h : n + k ≤ frames.length) :
    charaAt (frames.drop k) n = charaAt frames n := by
  conv_rhs => rw [← List.take_append_drop k frames]
  rw [charaAt_of_append]
  rw [List.length_drop]
  omega

lemma charaAt_length (frame : Frame I) (older : List (Frame I)) :
    charaAt (frame :: older) (older.length + 1) = some frame.chara := by
  simp [charaAt]

lemma charaAt_some {frames : List (Frame I)} {n : ℕ} {chara : List UInt8}
    (h : charaAt frames n = some chara) : 0 < n ∧ n ≤ frames.length := by
  cases n with
  | zero => cases h
  | succ n =>
    obtain ⟨frame, hframe, -⟩ := Option.map_eq_some_iff.1 h
    have hlt := (List.getElem?_eq_some_iff.1 hframe).1
    rw [List.length_reverse] at hlt
    omega

lemma snapshotAt_some {frames : List (Frame I)} {battle : ℕ} {f : ℤ} {m : StateSnapshot}
    (h : snapshotAt frames battle f = some m) :
    m.frameIdx = f ∧ f % 60 = 0 ∧ 0 < f ∧ f ≤ frames.length := by
  unfold snapshotAt at h
  split at h
  · rename_i hmod
    obtain ⟨chara, hchara, rfl⟩ := Option.map_eq_some_iff.1 h
    obtain ⟨hpos, hle⟩ := charaAt_some hchara
    exact ⟨rfl, hmod, by omega, by omega⟩
  · cases h

lemma snapshotAt_congr {frames frames' : List (Frame I)} {battle : ℕ} {f : ℤ}
    (h : charaAt frames' f.toNat = charaAt frames f.toNat) :
    snapshotAt frames' battle f = snapshotAt frames battle f := by
  simp only [snapshotAt, h]

/-- A frame that there is and that is captured has a snapshot. -/
lemma exists_snapshotAt {frames : List (Frame I)} (battle : ℕ) {f : ℤ} (hmod : f % 60 = 0)
    (hpos : 0 < f) (hle : f ≤ frames.length) : ∃ m, snapshotAt frames battle f = some m := by
  obtain ⟨n, hn⟩ : ∃ n, f.toNat = n + 1 := ⟨f.toNat - 1, by omega⟩
  have hlt : n < frames.reverse.length := by
    rw [List.length_reverse]
    omega
  refine ⟨⟨f, frames.reverse[n].chara, battle⟩, ?_⟩
  rw [snapshotAt, if_pos hmod, hn, charaAt, List.getElem?_eq_getElem hlt]
  rfl

/-! ## One capture -/

/-- A local snapshot that is neither sent nor compared. -/
def LocalSnapshot.new (m : StateSnapshot) : LocalSnapshot := ⟨m, false, false⟩

/-- What a capture does to the map. -/
lemma mem_snapshotMap_capture {c c' : Client I} (hwrap : c.NoWrap) (h : c.capture = some c')
    (l : LocalSnapshot) : l ∈ c'.snapshotMap ↔
      c.localSnapshot c.timeline.length = some l.snapshot ∧ l = .new l.snapshot ∨
        l ∈ c.snapshotMap ∧ (c.localSnapshot c.timeline.length = none ∨
          l.snapshot.frameIdx ≠ c.timeline.length) := by
  rcases capture_eq h with ⟨hnil, rfl⟩ | ⟨frame, older, ring, hcons, -, rfl⟩
  · simp [localSnapshot, snapshotAt, charaAt, hnil]
  · have hlen : c.timeline.length = older.length + 1 := by rw [hcons, List.length_cons]
    have hchara : charaAt c.timeline (c.timeline.length : ℤ).toNat = some frame.chara := by
      rw [Int.toNat_natCast, hlen, hcons]
      exact charaAt_length frame older
    have hmod : c.frameIdx.tmod 60 = (c.timeline.length : ℤ) % 60 := by
      rw [hwrap.frameIdx_eq]
      exact Int.tmod_eq_emod_of_nonneg (Int.natCast_nonneg _)
    show l ∈ (c.captureSnapshot frame).snapshotMap ↔ _
    by_cases hzero : (c.timeline.length : ℤ) % 60 = 0
    · have hnew : c.localSnapshot c.timeline.length =
          some ⟨c.timeline.length, frame.chara, c.battle⟩ := by
        rw [localSnapshot, snapshotAt, if_pos hzero, hchara]
        rfl
      have hnot : ¬ c.frameIdx.tmod 60 ≠ 0 := by
        rw [hmod, not_not]
        exact hzero
      have hnone : (c.snapshotMap.erase (c.timeline.length : ℤ)).find? (c.timeline.length : ℤ) =
          none :=
        OrderedMap.find?_eq_none_iff.2 fun v hv => (OrderedMap.mem_erase_iff.1 hv).2
      rw [captureSnapshot, if_neg hnot, hnew, hwrap.frameIdx_eq]
      simp only [OrderedMap.emplace, hnone, Option.isSome_none, Bool.false_eq_true, if_false,
        OrderedMap.mem_insert_iff, OrderedMap.mem_erase_iff]
      constructor
      · rintro (rfl | ⟨⟨hl, hne⟩, -⟩)
        · exact .inl ⟨rfl, rfl⟩
        · exact .inr ⟨hl, .inr hne⟩
      · rintro (⟨hsome, heq⟩ | ⟨hl, hnone | hne⟩)
        · rw [heq, ← Option.some.inj hsome]
          exact .inl rfl
        · cases hnone
        · exact .inr ⟨⟨hl, hne⟩, hne⟩
    · have hnone : c.localSnapshot c.timeline.length = none := by
        rw [localSnapshot, snapshotAt, if_neg hzero]
      have hpos : c.frameIdx.tmod 60 ≠ 0 := by
        rw [hmod]
        exact hzero
      rw [captureSnapshot, if_pos hpos, hnone]
      simp

/-! ## A frame step -/

/-- The frames beyond `n` have been simulated again, and of these the snapshots up to `m` have
been captured. -/
structure Recaptures (n m : ℕ) (c c' : Client I) : Prop where
  battle : c'.battle = c.battle
  pendingRemoteSnapshots : c'.pendingRemoteSnapshots = c.pendingRemoteSnapshots
  le : n ≤ c'.timeline.length
  /-- The older frames are the same. -/
  older : ∀ f ≤ n, charaAt c'.timeline f = charaAt c.timeline f
  /-- So are their snapshots. -/
  kept : ∀ l : LocalSnapshot, l.snapshot.frameIdx ≤ n →
    (l ∈ c'.snapshotMap ↔ l ∈ c.snapshotMap)
  /-- The others are new. -/
  new : ∀ f : ℤ, n < f → f ≤ m → ∀ s, c'.localSnapshot f = some s →
    LocalSnapshot.new s ∈ c'.snapshotMap
  /-- Nothing else has come into the map. -/
  only : ∀ l ∈ c'.snapshotMap, l ∈ c.snapshotMap ∨
    c'.localSnapshot l.snapshot.frameIdx = some l.snapshot

namespace Recaptures

variable {n m k : ℕ} {c c₁ c₂ : Client I}

/-- Some frames are taken off. -/
lemma drop (c : Client I) (k : ℕ) :
    Recaptures (c.timeline.length - k) m c { c with timeline := c.timeline.drop k } where
  battle := rfl
  pendingRemoteSnapshots := rfl
  le := by simp
  older f hf := by
    by_cases hk : k ≤ c.timeline.length
    · exact charaAt_drop (by omega)
    · obtain rfl : f = 0 := by omega
      rfl
  kept _ _ := Iff.rfl
  new f hf _ s hs := by
    obtain ⟨-, -, -, hle⟩ := snapshotAt_some hs
    rw [List.length_drop] at hle
    omega
  only l hl := .inl hl

lemma simulate (h : Recaptures n m c c₁) (hm : m ≤ c₁.timeline.length) (frame : Frame I) :
    Recaptures n m c (c₁.simulate frame) := by
  have hsame : ∀ f : ℤ, f ≤ c₁.timeline.length →
      (c₁.simulate frame).localSnapshot f = c₁.localSnapshot f := fun f hf =>
    snapshotAt_congr (@charaAt_of_append I [frame] c₁.timeline f.toNat (by omega))
  refine ⟨h.battle, h.pendingRemoteSnapshots, ?_, fun f hf => ?_, h.kept, ?_, fun l hl => ?_⟩
  · exact h.le.trans (by simp)
  · rw [← h.older f hf]
    exact @charaAt_of_append I [frame] c₁.timeline f (hf.trans h.le)
  · intro f hlo hhi s hs
    rw [hsame f (by omega)] at hs
    exact h.new f hlo hhi s hs
  · rcases h.only l hl with hold | hnew
    · exact .inl hold
    · obtain ⟨-, -, -, hle⟩ := snapshotAt_some hnew
      exact .inr ((hsame _ hle).trans hnew)

lemma capture (h : Recaptures n m c c₁) (hwrap : c₁.NoWrap) (hm : c₁.timeline.length ≤ m + 1)
    (hn : n < c₁.timeline.length) (hcap : c₁.capture = some c₂) :
    Recaptures n c₁.timeline.length c c₂ := by
  have hmem := mem_snapshotMap_capture hwrap hcap
  have htime := timeline_capture hcap
  have hfields : c₂.battle = c₁.battle ∧
      c₂.pendingRemoteSnapshots = c₁.pendingRemoteSnapshots := by
    rcases capture_eq hcap with ⟨-, rfl⟩ | ⟨frame, -, ring, -, -, rfl⟩
    · exact ⟨rfl, rfl⟩
    · obtain ⟨map, hmap⟩ := captureSnapshot_eq c₁ frame
      rw [hmap]
      exact ⟨rfl, rfl⟩
  have hlocal : ∀ f, c₂.localSnapshot f = c₁.localSnapshot f := by
    intro f
    rw [localSnapshot, localSnapshot, htime, hfields.1]
  refine ⟨hfields.1.trans h.battle, hfields.2.trans h.pendingRemoteSnapshots, ?_, ?_, ?_, ?_, ?_⟩
  · rw [htime]
    exact h.le
  · intro f hf
    rw [htime]
    exact h.older f hf
  · intro l hl
    rw [hmem, ← h.kept l hl]
    constructor
    · rintro (⟨hsome, -⟩ | ⟨hold, -⟩)
      · obtain ⟨hframe, -⟩ := snapshotAt_some hsome
        omega
      · exact hold
    · intro hold
      exact .inr ⟨hold, .inr (by omega)⟩
  · intro f hlo hhi s hs
    rw [hlocal] at hs
    rw [hmem]
    by_cases hf : f = c₁.timeline.length
    · subst hf
      exact .inl ⟨hs, rfl⟩
    · obtain ⟨hframe, -⟩ := snapshotAt_some hs
      refine .inr ⟨h.new f hlo (by omega) s hs, .inr ?_⟩
      show s.frameIdx ≠ _
      rw [hframe]
      exact hf
  · intro l hl
    rw [hlocal]
    rcases (hmem l).1 hl with ⟨hsome, -⟩ | ⟨hold, -⟩
    · obtain ⟨hframe, -⟩ := snapshotAt_some hsome
      rw [hframe]
      exact .inr hsome
    · exact h.only l hold

lemma resimulate {resim : List (Frame I)} (h : Recaptures n c₁.timeline.length c c₁)
    (hwrap : c₁.timeline.length + resim.length < 2 ^ 15)
    (hres : c₁.resimulate resim = some c₂) : Recaptures n c₂.timeline.length c c₂ := by
  induction resim generalizing c₁ with
  | nil =>
    obtain rfl := Option.some.inj hres
    exact h
  | cons frame resim ih =>
    obtain ⟨c₃, hcap, hrest⟩ := Option.bind_eq_some_iff.1 hres
    rw [List.length_cons] at hwrap
    have hlen : c₃.timeline.length = c₁.timeline.length + 1 := by
      rw [timeline_capture hcap]
      rfl
    have hwrap₁ : (c₁.simulate frame).NoWrap := by
      show c₁.timeline.length + 1 < 2 ^ 15
      omega
    have hle := h.le
    have hnext : Recaptures n (c₁.simulate frame).timeline.length c c₃ :=
      (h.simulate le_rfl frame).capture hwrap₁ (by simp) (by simp; omega) hcap
    have hlen' : (c₁.simulate frame).timeline.length = c₃.timeline.length := by
      rw [timeline_capture hcap]
    rw [hlen'] at hnext
    exact ih hnext (by omega) hrest

/-- **A rollback** captures at most eight frames again. -/
lemma of_rollback {resim : List (Frame I)} (hwrap : c.NoWrap) (h : c.rollback resim = some c₁) :
    ∃ n, c.timeline.length ≤ n + maxPredictionFrames ∧ n ≤ c.timeline.length ∧
      Recaptures n c₁.timeline.length c c₁ := by
  obtain ⟨hmax, hlen, hres⟩ := rollback_eq h
  have hwrap' : c.timeline.length < 2 ^ 15 := hwrap
  refine ⟨c.timeline.length - resim.length, by omega, by omega, ?_⟩
  refine (drop c resim.length).resimulate ?_ hres
  simp only [List.length_drop]
  omega

/-- **A `BattleUpdate`** captures its frame, and at most seven frames again. -/
lemma of_battleUpdate {frame : Frame I} {resim : List (Frame I)}
    (hwrap : c₁.NoWrap) (h : c.battleUpdate frame resim = some c₁) :
    ∃ n, c.timeline.length ≤ n + maxPredictionFrames ∧ n ≤ c.timeline.length ∧
      Recaptures n c₁.timeline.length c c₁ := by
  have hlen := length_battleUpdate h
  have hwrap' : c₁.timeline.length < 2 ^ 15 := hwrap
  obtain ⟨c₂, hroll, hcap⟩ := battleUpdate_eq h
  have hlen₂ : c₂.timeline.length = c.timeline.length + 1 := by
    rw [← timeline_capture hcap, hlen]
  have hwrap₂ : c₂.NoWrap := by
    show c₂.timeline.length < 2 ^ 15
    omega
  obtain ⟨hmax, hle, hres⟩ := rollback_eq hroll
  have hsame : c₂.timeline.length = c₁.timeline.length := by rw [hlen₂, hlen]
  cases resim with
  | nil =>
    -- without a rollback the frame is captured once
    obtain rfl := Option.some.inj hres
    have hnone : Recaptures c.timeline.length c.timeline.length c c := by
      have hdrop : Recaptures (c.timeline.length - 0) c.timeline.length c
          { c with timeline := c.timeline.drop 0 } := drop c 0
      simpa using hdrop
    refine ⟨c.timeline.length, by omega, le_rfl, ?_⟩
    have hcapture := (hnone.simulate le_rfl frame).capture hwrap₂ (by simp) (by simp) hcap
    rw [← hsame]
    exact hcapture
  | cons frame' resim =>
    rw [List.length_cons] at hmax hle hres
    have hdrop : Recaptures (c.timeline.length - resim.length)
        (c.timeline.length - resim.length) c
        { c with timeline := c.timeline.drop resim.length } := drop c resim.length
    have hback : { c.simulate frame with
        timeline := (c.simulate frame).timeline.drop (resim.length + 1) } =
          { c with timeline := c.timeline.drop resim.length } := rfl
    rw [hback] at hres
    rw [timeline_simulate, List.length_cons] at hle
    refine ⟨c.timeline.length - resim.length, by omega, by omega, ?_⟩
    have hresim := Recaptures.resimulate (by simpa using hdrop) (by simp; omega) hres
    have hcapture := hresim.capture hwrap₂ (by omega) (by omega) hcap
    rw [← hsame]
    exact hcapture

/-- Nothing is simulated. -/
lemma of_same {c' : Client I} (htime : c'.timeline = c.timeline) (hbattle : c'.battle = c.battle)
    (hpending : c'.pendingRemoteSnapshots = c.pendingRemoteSnapshots)
    (hmap : c'.snapshotMap = c.snapshotMap) : Recaptures c.timeline.length m c c' where
  battle := hbattle
  pendingRemoteSnapshots := hpending
  le := by rw [htime]
  older f _ := by rw [htime]
  kept l _ := by rw [hmap]
  new f hf _ s hs := by
    obtain ⟨-, -, -, hle⟩ := snapshotAt_some hs
    rw [htime] at hle
    omega
  only l hl := .inl (hmap ▸ hl)

end Recaptures

/-- The map has the snapshots of the present frames. -/
def Current (c : Client I) : Prop :=
  ∀ l ∈ c.snapshotMap, c.localSnapshot l.snapshot.frameIdx = some l.snapshot

namespace Recaptures

variable {n : ℕ} {c c' : Client I}

/-- The snapshot of a frame that is not simulated again. -/
lemma localSnapshot_eq (h : Recaptures n c'.timeline.length c c') {f : ℤ} (hf : f ≤ n) :
    c'.localSnapshot f = c.localSnapshot f := by
  rw [localSnapshot, localSnapshot, h.battle]
  exact snapshotAt_congr (h.older _ (by omega))

/-- What is in the map afterwards has been there, or is new. -/
lemma mem_cases (h : Recaptures n c'.timeline.length c c') (hcurrent : Current c)
    (hlen : c.timeline.length ≤ c'.timeline.length) {l : LocalSnapshot}
    (hl : l ∈ c'.snapshotMap) : (l.snapshot.frameIdx ≤ n ∧ l ∈ c.snapshotMap) ∨
      (n < l.snapshot.frameIdx ∧ c'.localSnapshot l.snapshot.frameIdx = some l.snapshot ∧
        l = .new l.snapshot) := by
  by_cases hf : l.snapshot.frameIdx ≤ n
  · exact .inl ⟨hf, (h.kept l hf).1 hl⟩
  · have hsome : ∃ m, c'.localSnapshot l.snapshot.frameIdx = some m := by
      rcases h.only l hl with hold | hnew
      · obtain ⟨-, hmod, hpos, hle⟩ := snapshotAt_some (hcurrent l hold)
        exact exists_snapshotAt _ hmod hpos (by omega)
      · exact ⟨_, hnew⟩
    obtain ⟨m, hm⟩ := hsome
    obtain ⟨hframe, -, -, hle⟩ := snapshotAt_some hm
    have hnew := h.new _ (by omega) hle m hm
    have heq : l = .new m := OrderedMap.eq_of_key_eq hl hnew hframe.symm
    have hsnap : l.snapshot = m := by rw [heq]; rfl
    rw [hsnap]
    exact .inr ⟨by omega, by rw [← hsnap, hm, hsnap], heq⟩

lemma current (h : Recaptures n c'.timeline.length c c') (hcurrent : Current c)
    (hlen : c.timeline.length ≤ c'.timeline.length) : Current c' := by
  intro l hl
  rcases h.mem_cases hcurrent hlen hl with ⟨hf, hold⟩ | ⟨-, hnew, -⟩
  · rw [h.localSnapshot_eq hf]
    exact hcurrent l hold
  · exact hnew

/-- The snapshot of a frame stays in the map, in one version or another. -/
lemma exists_mem (h : Recaptures n c'.timeline.length c c') (hcurrent : Current c)
    (hlen : c.timeline.length ≤ c'.timeline.length) {l : LocalSnapshot}
    (hl : l ∈ c.snapshotMap) : ∃ l' ∈ c'.snapshotMap,
      l'.snapshot.frameIdx = l.snapshot.frameIdx ∧ (l' = l ∨ l' = .new l'.snapshot) := by
  by_cases hf : l.snapshot.frameIdx ≤ n
  · exact ⟨l, (h.kept l hf).2 hl, rfl, .inl rfl⟩
  · obtain ⟨-, hmod, hpos, hle⟩ := snapshotAt_some (hcurrent l hl)
    have hle' : l.snapshot.frameIdx ≤ c'.timeline.length := by omega
    obtain ⟨m, hm⟩ := exists_snapshotAt c'.battle hmod hpos hle'
    obtain ⟨hframe, -⟩ := snapshotAt_some hm
    exact ⟨_, h.new _ (by omega) (by omega) m hm, hframe, .inr rfl⟩

end Recaptures

end Desync
end Sf4e
