/-
# What a step of a client changes

A frame step simulates, goes back and captures, so that what these three preserve is preserved
(`battleUpdate_preserves`, `rollback_preserves`).  The exchange at the end of a
`SessionClient::Step` touches little (`Exchanged`), and what it sends and compares comes from
the tables (`Traced`).
-/
import Sf4e.Desync.Tables

namespace Sf4e
namespace Desync

open HashRing Trace

variable {I : Type}

/-! ## One capture -/

namespace Client

/-- The frame numbers have not wrapped around. -/
def NoWrap (c : Client I) : Prop := c.timeline.length < 2 ^ 15

instance (c : Client I) : Decidable c.NoWrap := inferInstanceAs (Decidable (_ < _))

lemma NoWrap.frameIdx_eq {c : Client I} (h : c.NoWrap) : c.frameIdx = c.timeline.length :=
  Int16.toInt_ofNat_of_lt h

@[simp] lemma timeline_simulate (c : Client I) (frame : Frame I) :
    (c.simulate frame).timeline = frame :: c.timeline := rfl

lemma captureSnapshot_eq (c : Client I) (frame : Frame I) :
    ∃ m, c.captureSnapshot frame = { c with snapshotMap := m } := by
  unfold captureSnapshot
  split
  · exact ⟨c.snapshotMap, rfl⟩
  · exact ⟨_, rfl⟩

/-- What a capture changes. -/
lemma capture_eq {c c' : Client I} (h : c.capture = some c') :
    (c.timeline = [] ∧ c' = c) ∨
      ∃ frame older ring, c.timeline = frame :: older ∧
        captureHashCheckpoint c.hashCheckpoints c.numFramesSimulated frame.hashes = some ring ∧
        c' = { c.captureSnapshot frame with
          hashCheckpoints := ring
          checkpointMatch := Function.update c.checkpointMatch c.frameIdx c.battle } := by
  unfold capture at h
  split at h
  · rename_i hnil
    exact Or.inl ⟨hnil, (Option.some.inj h).symm⟩
  · rename_i frame older hcons
    obtain ⟨m, hm⟩ := captureSnapshot_eq c frame
    obtain ⟨ring, hring, rfl⟩ := Option.map_eq_some_iff.1 h
    refine Or.inr ⟨frame, older, ring, hcons, ?_, ?_⟩
    · rw [hm] at hring
      exact hring
    · rw [hm]
      rfl

@[simp] lemma timeline_captureSnapshot (c : Client I) (frame : Frame I) :
    (c.captureSnapshot frame).timeline = c.timeline := by
  obtain ⟨m, hm⟩ := captureSnapshot_eq c frame
  rw [hm]

lemma timeline_capture {c c' : Client I} (h : c.capture = some c') :
    c'.timeline = c.timeline := by
  rcases capture_eq h with ⟨-, rfl⟩ | ⟨frame, -, -, -, -, rfl⟩
  · rfl
  · exact timeline_captureSnapshot c frame

/-- What a capture does to each slot of the ring. -/
lemma slot_capture {c c' : Client I} (h : c.capture = some c') (i : Fin numHashCheckpoints) :
    c'.hashCheckpoints i = c.hashCheckpoints i ∨
      ∃ frame older, c.timeline = frame :: older ∧ IsCheckpoint c.frameIdx ∧
        slotIndex c.frameIdx = (i : ℕ) ∧
        c'.hashCheckpoints i = captured (c.hashCheckpoints i) c.frameIdx frame.hashes := by
  rcases capture_eq h with ⟨-, rfl⟩ | ⟨frame, older, ring, hcons, hring, rfl⟩
  · exact Or.inl rfl
  · rcases slot_of_capture hring i with ⟨hc, hi, heq⟩ | ⟨-, heq⟩
    · exact Or.inr ⟨frame, older, hcons, hc, hi, heq⟩
    · exact Or.inl heq

/-- The slot of the newest frame holds it after the capture. -/
lemma slot_capture_of_slotIndex {c c' : Client I} {frame : Frame I} {older : List (Frame I)}
    (h : c.capture = some c') (hcons : c.timeline = frame :: older) {i : Fin numHashCheckpoints}
    (hc : IsCheckpoint c.frameIdx) (hi : slotIndex c.frameIdx = (i : ℕ)) :
    c'.hashCheckpoints i = captured (c.hashCheckpoints i) c.frameIdx frame.hashes := by
  rcases capture_eq h with ⟨hnil, -⟩ | ⟨frame', older', ring, hcons', hring, rfl⟩
  · simp [hcons] at hnil
  · rw [hcons, List.cons.injEq] at hcons'
    obtain ⟨rfl, rfl⟩ := hcons'
    rcases slot_of_capture hring i with ⟨-, -, heq⟩ | ⟨hno, -⟩
    · exact heq
    · exact absurd ⟨hc, hi⟩ hno

end Client

open Client

/-! ## The number of frames -/

lemma length_resimulate {c c' : Client I} {resim : List (Frame I)}
    (h : c.resimulate resim = some c') :
    c'.timeline.length = c.timeline.length + resim.length := by
  induction resim generalizing c with
  | nil =>
    obtain rfl := Option.some.inj h
    rfl
  | cons frame resim ih =>
    obtain ⟨c₁, hcap, hrest⟩ := Option.bind_eq_some_iff.1 h
    rw [ih hrest, timeline_capture hcap, timeline_simulate, List.length_cons, List.length_cons]
    omega

lemma rollback_eq {c c' : Client I} {resim : List (Frame I)} (h : c.rollback resim = some c') :
    resim.length ≤ maxPredictionFrames ∧ resim.length ≤ c.timeline.length ∧
      { c with timeline := c.timeline.drop resim.length }.resimulate resim = some c' := by
  unfold rollback at h
  split at h
  · rename_i hle
    exact ⟨hle.1, hle.2, h⟩
  · exact absurd h (by simp)

/-- A rollback comes back to the frame that it started from. -/
lemma length_rollback {c c' : Client I} {resim : List (Frame I)}
    (h : c.rollback resim = some c') : c'.timeline.length = c.timeline.length := by
  obtain ⟨-, hlen, hres⟩ := rollback_eq h
  rw [length_resimulate hres, List.length_drop]
  omega

lemma battleUpdate_eq {c c' : Client I} {frame : Frame I} {resim : List (Frame I)}
    (h : c.battleUpdate frame resim = some c') :
    ∃ c₁, (c.simulate frame).rollback resim = some c₁ ∧ c₁.capture = some c' :=
  Option.bind_eq_some_iff.1 h

lemma length_battleUpdate {c c' : Client I} {frame : Frame I} {resim : List (Frame I)}
    (h : c.battleUpdate frame resim = some c') :
    c'.timeline.length = c.timeline.length + 1 := by
  obtain ⟨c₁, hroll, hcap⟩ := battleUpdate_eq h
  rw [timeline_capture hcap, length_rollback hroll, timeline_simulate, List.length_cons]

lemma resimulate_preserves {p : Client I → Prop}
    (hsim : ∀ c frame, p c → p (c.simulate frame))
    (hcap : ∀ c c', c.capture = some c' → p c → p c') {c c' : Client I}
    {resim : List (Frame I)} (h : c.resimulate resim = some c') (hp : p c) : p c' := by
  induction resim generalizing c with
  | nil =>
    obtain rfl := Option.some.inj h
    exact hp
  | cons frame resim ih =>
    obtain ⟨c₁, hcap₁, hrest⟩ := Option.bind_eq_some_iff.1 h
    exact ih hrest (hcap _ _ hcap₁ (hsim _ frame hp))

/-- What simulating, going back and capturing preserve is preserved by a rollback. -/
lemma rollback_preserves {p : Client I → Prop}
    (hsim : ∀ c frame, p c → p (c.simulate frame))
    (hdrop : ∀ c k, p c → p { c with timeline := c.timeline.drop k })
    (hcap : ∀ c c', c.capture = some c' → p c → p c') {c c' : Client I}
    {resim : List (Frame I)} (h : c.rollback resim = some c') (hp : p c) : p c' := by
  obtain ⟨-, -, hres⟩ := rollback_eq h
  exact resimulate_preserves hsim hcap hres (hdrop c resim.length hp)

/-- And by a `BattleUpdate`. -/
lemma battleUpdate_preserves {p : Client I → Prop}
    (hsim : ∀ c frame, p c → p (c.simulate frame))
    (hdrop : ∀ c k, p c → p { c with timeline := c.timeline.drop k })
    (hcap : ∀ c c', c.capture = some c' → p c → p c') {c c' : Client I} {frame : Frame I}
    {resim : List (Frame I)} (h : c.battleUpdate frame resim = some c') (hp : p c) : p c' := by
  obtain ⟨c₁, hroll, hlast⟩ := battleUpdate_eq h
  exact hcap c₁ c' hlast (rollback_preserves hsim hdrop hcap hroll (hsim c frame hp))

/-! ## The exchange -/

/-- The rings agree but for what has been sent. -/
def SentMore (ring ring' : Ring) : Prop :=
  ∀ i, ∃ b, ring' i = { ring i with sent := (ring i).sent || b }

lemma SentMore.refl (ring : Ring) : SentMore ring ring := fun i => ⟨false, by simp⟩

lemma SentMore.trans {r₁ r₂ r₃ : Ring} (h : SentMore r₁ r₂) (h' : SentMore r₂ r₃) :
    SentMore r₁ r₃ := by
  intro i
  obtain ⟨b, hb⟩ := h i
  obtain ⟨b', hb'⟩ := h' i
  exact ⟨b || b', by rw [hb', hb, Bool.or_assoc]⟩

lemma exchangeHash_of_due {c : Client I} {f : ℤ} {i : Fin numHashCheckpoints} (poll : Poll)
    (h : c.Due f i) :
    c.exchangeHash poll f i =
      ((c.sendHash poll i).1.append ((c.sendHash poll i).2.reconcileHash poll i).1,
        ((c.sendHash poll i).2.reconcileHash poll i).2) := if_pos h

lemma exchangeHash_of_not_due {c : Client I} {f : ℤ} {i : Fin numHashCheckpoints} (poll : Poll)
    (h : ¬ c.Due f i) : c.exchangeHash poll f i = ({}, c) := if_neg h

@[simp] lemma markSent_self (c : Client I) (i : Fin numHashCheckpoints) :
    (c.markSent i).hashCheckpoints i = { c.hashCheckpoints i with sent := true } :=
  Function.update_self ..

@[simp] lemma markSent_of_ne (c : Client I) {i j : Fin numHashCheckpoints} (h : j ≠ i) :
    (c.markSent i).hashCheckpoints j = c.hashCheckpoints j := Function.update_of_ne h ..

/-- What the sending of a slot does. -/
lemma sendHash_cases (c : Client I) (poll : Poll) (i : Fin numHashCheckpoints) :
    c.sendHash poll i = ({}, c) ∨
      ((c.hashCheckpoints i).sent = false ∧ c.sendHash poll i =
        ({ sent := [.hash (c.hashMessage (c.hashCheckpoints i))] }, c.markSent i)) := by
  by_cases h : (c.hashCheckpoints i).sent = false ∧ poll.isPlayer = true ∧
      poll.sendOk (.hash (c.hashMessage (c.hashCheckpoints i))) = true
  · exact Or.inr ⟨h.1, if_pos h⟩
  · exact Or.inl (if_neg h)

/-- What the comparison of a slot does. -/
lemma reconcileHash_cases (c : Client I) (poll : Poll) (i : Fin numHashCheckpoints) :
    (c.pendingRemoteHashes.find? (c.hashCheckpoints i).frameIdx = none ∧
        c.reconcileHash poll i = ({}, c)) ∨
      ∃ remote leaving,
        c.pendingRemoteHashes.find? (c.hashCheckpoints i).frameIdx = some remote ∧
        c.reconcileHash poll i =
          ({ hashComparisons := [⟨c.hashCheckpoints i,
              c.checkpointMatch (c.hashCheckpoints i).frameIdx, remote⟩] },
            { c with
              leaving := leaving
              pendingRemoteHashes :=
                c.pendingRemoteHashes.erase (c.hashCheckpoints i).frameIdx }) := by
  unfold reconcileHash
  dsimp only
  cases h : c.pendingRemoteHashes.find? (c.hashCheckpoints i).frameIdx with
  | none => exact Or.inl ⟨rfl, rfl⟩
  | some remote => exact Or.inr ⟨remote, _, rfl, rfl⟩

/-- What the end of a `SessionClient::Step` does not touch, and where what is left in the
tables comes from. -/
structure Exchanged (c c' : Client I) : Prop where
  timeline : c'.timeline = c.timeline
  battle : c'.battle = c.battle
  startedMatch : c'.startedMatch = c.startedMatch
  checkpointMatch : c'.checkpointMatch = c.checkpointMatch
  pendingRemoteSnapshots : c'.pendingRemoteSnapshots = c.pendingRemoteSnapshots
  ring : SentMore c.hashCheckpoints c'.hashCheckpoints
  snapshots : ∀ l' ∈ c'.snapshotMap, ∃ l ∈ c.snapshotMap, l'.snapshot = l.snapshot
  hashes : ∀ m ∈ c'.pendingRemoteHashes, m ∈ c.pendingRemoteHashes

lemma Exchanged.refl (c : Client I) : Exchanged c c :=
  ⟨rfl, rfl, rfl, rfl, rfl, .refl _, fun l hl => ⟨l, hl, rfl⟩, fun _ h => h⟩

lemma Exchanged.trans {c₁ c₂ c₃ : Client I} (h : Exchanged c₁ c₂) (h' : Exchanged c₂ c₃) :
    Exchanged c₁ c₃ where
  timeline := h'.timeline.trans h.timeline
  battle := h'.battle.trans h.battle
  startedMatch := h'.startedMatch.trans h.startedMatch
  checkpointMatch := h'.checkpointMatch.trans h.checkpointMatch
  pendingRemoteSnapshots := h'.pendingRemoteSnapshots.trans h.pendingRemoteSnapshots
  ring := h.ring.trans h'.ring
  snapshots l hl := by
    obtain ⟨l', hl', heq⟩ := h'.snapshots l hl
    obtain ⟨l'', hl'', heq'⟩ := h.snapshots l' hl'
    exact ⟨l'', hl'', heq.trans heq'⟩
  hashes m hm := h.hashes m (h'.hashes m hm)

lemma exchanged_sendHash (c : Client I) (poll : Poll) (i : Fin numHashCheckpoints) :
    Exchanged c (c.sendHash poll i).2 := by
  rcases sendHash_cases c poll i with h | ⟨-, h⟩
  · rw [h]
    exact .refl c
  · rw [h]
    refine ⟨rfl, rfl, rfl, rfl, rfl, fun j => ?_, fun l hl => ⟨l, hl, rfl⟩, fun _ h => h⟩
    by_cases hj : j = i
    · subst hj
      exact ⟨true, by simp⟩
    · exact ⟨false, by simp [hj]⟩

lemma exchanged_reconcileHash (c : Client I) (poll : Poll) (i : Fin numHashCheckpoints) :
    Exchanged c (c.reconcileHash poll i).2 := by
  rcases reconcileHash_cases c poll i with ⟨-, h⟩ | ⟨remote, leaving, -, h⟩
  · rw [h]
    exact .refl c
  · rw [h]
    exact ⟨rfl, rfl, rfl, rfl, rfl, .refl _, fun l hl => ⟨l, hl, rfl⟩,
      fun _ h => (OrderedMap.mem_erase_iff.1 h).1⟩

lemma exchanged_exchangeHash (c : Client I) (poll : Poll) (f : ℤ)
    (i : Fin numHashCheckpoints) : Exchanged c (c.exchangeHash poll f i).2 := by
  by_cases hdue : c.Due f i
  · rw [exchangeHash_of_due poll hdue]
    exact (exchanged_sendHash c poll i).trans (exchanged_reconcileHash _ poll i)
  · rw [exchangeHash_of_not_due poll hdue]
    exact .refl c

lemma exchanged_exchangeHashes (c : Client I) (poll : Poll) (f : ℤ)
    (slots : List (Fin numHashCheckpoints)) :
    Exchanged c (c.exchangeHashes poll f slots).2 := by
  induction slots generalizing c with
  | nil => exact .refl c
  | cons i slots ih => exact (exchanged_exchangeHash c poll f i).trans (ih _)

lemma exchanged_exchangeSnapshots (c : Client I) (poll : Poll) (f : ℤ) :
    Exchanged c (c.exchangeSnapshots poll f).2 := by
  refine ⟨rfl, rfl, rfl, rfl, rfl, .refl _, fun l' hl' => ?_, fun _ h => h⟩
  obtain ⟨l, hl, heq⟩ := List.mem_filterMap.1 hl'
  refine ⟨l, hl, ?_⟩
  unfold reconcileSnapshot at heq
  split_ifs at heq
  all_goals
    obtain rfl := Option.some.inj heq
    rfl

lemma pass_of_enabled (c : Client I) {poll : Poll} (h : poll.snapshotsEnabled = true) :
    c.pass poll =
      let snapshots := c.exchangeSnapshots poll c.frameIdx
      let hashes :=
        snapshots.2.exchangeHashes poll c.frameIdx (List.finRange numHashCheckpoints)
      (snapshots.1.append hashes.1, hashes.2) := if_pos h

lemma pass_of_disabled (c : Client I) {poll : Poll} (h : poll.snapshotsEnabled = false) :
    c.pass poll = ({}, c) := if_neg (by simp [h])

lemma exchanged_pass (c : Client I) (poll : Poll) : Exchanged c (c.pass poll).2 := by
  cases h : poll.snapshotsEnabled with
  | true =>
    rw [pass_of_enabled c h]
    generalize List.finRange numHashCheckpoints = slots
    exact (exchanged_exchangeSnapshots c poll c.frameIdx).trans
      (exchanged_exchangeHashes _ poll c.frameIdx slots)
  | false =>
    rw [pass_of_disabled c h]
    exact .refl c

/-- The slot is due after some turns only if it was before. -/
lemma Exchanged.due {c c' : Client I} (h : Exchanged c c') {f : ℤ} {i : Fin numHashCheckpoints}
    (hdue : c'.Due f i) : c.Due f i := by
  obtain ⟨b, hb⟩ := h.ring i
  rw [Due, hb] at hdue
  exact hdue

/-- Where what is sent and compared comes from. -/
structure Traced (c : Client I) (f : ℤ) (o : Out) : Prop where
  hashSent : ∀ m, .hash m ∈ o.sent → ∃ i, c.Due f i ∧ m = c.hashMessage (c.hashCheckpoints i)
  snapshotSent : ∀ m, .snapshot m ∈ o.sent → ∃ l ∈ c.snapshotMap, l.snapshot = m
  hashCompared : ∀ cmp ∈ o.hashComparisons, ∃ i, c.Due f i ∧
    cmp.checkpoint.hashes = (c.hashCheckpoints i).hashes ∧
    cmp.checkpointMatch = c.checkpointMatch (c.hashCheckpoints i).frameIdx ∧
    cmp.remote ∈ c.pendingRemoteHashes ∧ cmp.remote.frameIdx = (c.hashCheckpoints i).frameIdx
  snapshotCompared : ∀ cmp ∈ o.snapshotComparisons, cmp.remote ∈ c.pendingRemoteSnapshots ∧
    ∃ l ∈ c.snapshotMap, l.snapshot = cmp.localSnapshot

lemma Traced.empty (c : Client I) (f : ℤ) : Traced c f {} :=
  ⟨fun _ h => absurd h List.not_mem_nil, fun _ h => absurd h List.not_mem_nil,
    fun _ h => absurd h List.not_mem_nil, fun _ h => absurd h List.not_mem_nil⟩

lemma Traced.append {c : Client I} {f : ℤ} {o o' : Out} (h : Traced c f o)
    (h' : Traced c f o') : Traced c f (o.append o') where
  hashSent m hm := (List.mem_append.1 hm).elim (h.hashSent m) (h'.hashSent m)
  snapshotSent m hm := (List.mem_append.1 hm).elim (h.snapshotSent m) (h'.snapshotSent m)
  hashCompared cmp hc := (List.mem_append.1 hc).elim (h.hashCompared cmp) (h'.hashCompared cmp)
  snapshotCompared cmp hc :=
    (List.mem_append.1 hc).elim (h.snapshotCompared cmp) (h'.snapshotCompared cmp)

/-- What comes from the tables after some turns comes from the tables before. -/
lemma Traced.of_exchanged {c c' : Client I} {f : ℤ} {o : Out} (h : Traced c' f o)
    (hex : Exchanged c c') : Traced c f o where
  hashSent m hm := by
    obtain ⟨i, hdue, rfl⟩ := h.hashSent m hm
    obtain ⟨b, hb⟩ := hex.ring i
    refine ⟨i, hex.due hdue, ?_⟩
    simp only [hashMessage, hb, hex.checkpointMatch]
  snapshotSent m hm := by
    obtain ⟨l', hl', rfl⟩ := h.snapshotSent m hm
    obtain ⟨l, hl, heq⟩ := hex.snapshots l' hl'
    exact ⟨l, hl, heq.symm⟩
  hashCompared cmp hc := by
    obtain ⟨i, hdue, hh, hmatch, hmem, hframe⟩ := h.hashCompared cmp hc
    obtain ⟨b, hb⟩ := hex.ring i
    rw [hb] at hh hframe hmatch
    rw [hex.checkpointMatch] at hmatch
    exact ⟨i, hex.due hdue, hh, hmatch, hex.hashes _ hmem, hframe⟩
  snapshotCompared cmp hc := by
    obtain ⟨hmem, l', hl', heq⟩ := h.snapshotCompared cmp hc
    obtain ⟨l, hl, heq'⟩ := hex.snapshots l' hl'
    rw [hex.pendingRemoteSnapshots] at hmem
    exact ⟨hmem, l, hl, heq'.symm.trans heq⟩

lemma traced_exchangeHash (c : Client I) (poll : Poll) (f : ℤ) (i : Fin numHashCheckpoints) :
    Traced c f (c.exchangeHash poll f i).1 := by
  by_cases hdue : c.Due f i
  · rw [exchangeHash_of_due poll hdue]
    have hsend : Traced c f (c.sendHash poll i).1 := by
      rcases sendHash_cases c poll i with h | ⟨-, h⟩
      · rw [h]
        exact .empty c f
      · rw [h]
        refine ⟨fun m hm => ?_, fun m hm => ?_, fun _ h => absurd h List.not_mem_nil,
          fun _ h => absurd h List.not_mem_nil⟩
        · exact ⟨i, hdue, Message.hash.inj (List.mem_singleton.1 hm)⟩
        · exact absurd (List.mem_singleton.1 hm) (by simp)
    have hex := exchanged_sendHash c poll i
    have hdue' : (c.sendHash poll i).2.Due f i := by
      obtain ⟨b, hb⟩ := hex.ring i
      rw [Due, hb]
      exact hdue
    refine hsend.append (Traced.of_exchanged ?_ hex)
    rcases reconcileHash_cases (c.sendHash poll i).2 poll i with ⟨-, h⟩ | ⟨remote, _, hfind, h⟩
    · rw [h]
      exact .empty _ f
    · rw [h]
      obtain ⟨hmem, hkey⟩ := OrderedMap.find?_eq_some_iff.1 hfind
      refine ⟨fun _ h => absurd h List.not_mem_nil, fun _ h => absurd h List.not_mem_nil,
        fun cmp hc => ?_, fun _ h => absurd h List.not_mem_nil⟩
      obtain rfl := List.mem_singleton.1 hc
      exact ⟨i, hdue', rfl, rfl, hmem, hkey⟩
  · rw [exchangeHash_of_not_due poll hdue]
    exact .empty c f

lemma traced_exchangeHashes (c : Client I) (poll : Poll) (f : ℤ)
    (slots : List (Fin numHashCheckpoints)) : Traced c f (c.exchangeHashes poll f slots).1 := by
  induction slots generalizing c with
  | nil => exact .empty c f
  | cons i slots ih =>
    exact (traced_exchangeHash c poll f i).append
      ((ih _).of_exchanged (exchanged_exchangeHash c poll f i))

lemma traced_exchangeSnapshots (c : Client I) (poll : Poll) (f : ℤ) :
    Traced c f (c.exchangeSnapshots poll f).1 where
  hashSent m hm := by
    obtain ⟨l, -, hl⟩ := List.mem_map.1 (List.mem_filter.1 hm).1
    exact absurd hl (by simp)
  snapshotSent m hm := by
    obtain ⟨l, hl, heq⟩ := List.mem_map.1 (List.mem_filter.1 hm).1
    exact ⟨l, (List.mem_filter.1 hl).1, Message.snapshot.inj heq⟩
  hashCompared _ h := absurd h List.not_mem_nil
  snapshotCompared cmp hc := by
    obtain ⟨l, hl, heq⟩ := List.mem_filterMap.1 hc
    unfold compareSnapshot at heq
    split at heq
    · exact absurd heq (by simp)
    · obtain ⟨remote, hfind, rfl⟩ := Option.map_eq_some_iff.1 heq
      exact ⟨(OrderedMap.find?_eq_some_iff.1 hfind).1, l, hl, rfl⟩

/-- What the end of a `SessionClient::Step` sends and compares comes from the tables. -/
lemma traced_pass (c : Client I) (poll : Poll) : Traced c c.frameIdx (c.pass poll).1 := by
  cases h : poll.snapshotsEnabled with
  | true =>
    rw [pass_of_enabled c h]
    generalize List.finRange numHashCheckpoints = slots
    exact (traced_exchangeSnapshots c poll c.frameIdx).append
      ((traced_exchangeHashes _ poll c.frameIdx slots).of_exchanged
        (exchanged_exchangeSnapshots c poll c.frameIdx))
  | false =>
    rw [pass_of_disabled c h]
    exact .empty c _

/-! ## Messages -/

/-- A message does not touch the simulation or the ring. -/
lemma onMessage_fields (c : Client I) (m : Message) :
    (c.onMessage m).2.timeline = c.timeline ∧
      (c.onMessage m).2.hashCheckpoints = c.hashCheckpoints := by
  cases m with
  | snapshot m =>
    simp only [onMessage, onSnapshot]
    split
    · exact ⟨rfl, rfl⟩
    · exact ⟨rfl, rfl⟩
  | hash m => exact ⟨rfl, rfl⟩

/-- Only the end of a `SessionClient::Step` sends and compares hashes. -/
lemma quiet_of_next {c c' : Client I} {act : Action I} {o : Out}
    (hact : ∀ poll, act ≠ .pass poll) (h : next c act = some (o, c')) :
    o.sent = [] ∧ o.hashComparisons = [] := by
  cases act with
  | battleUpdate frame resim =>
    obtain ⟨_, -, heq⟩ := Option.map_eq_some_iff.1 h
    obtain ⟨rfl, -⟩ := Prod.mk.inj heq
    exact ⟨rfl, rfl⟩
  | idle resim =>
    obtain ⟨_, -, heq⟩ := Option.map_eq_some_iff.1 h
    obtain ⟨rfl, -⟩ := Prod.mk.inj heq
    exact ⟨rfl, rfl⟩
  | receive m =>
    have heq : o = (c.onMessage m).1 := (congrArg Prod.fst (Option.some.inj h)).symm
    rw [heq]
    cases m with
    | snapshot m =>
      simp only [onMessage, onSnapshot]
      split
      · exact ⟨rfl, rfl⟩
      · exact ⟨rfl, rfl⟩
    | hash m => exact ⟨rfl, rfl⟩
  | pass poll => exact absurd rfl (hact poll)
  | engineUpdate | clearBattleState | startMatch | startBattle =>
    obtain ⟨rfl, -⟩ := Prod.mk.inj (Option.some.inj h)
    exact ⟨rfl, rfl⟩

end Desync
end Sf4e
