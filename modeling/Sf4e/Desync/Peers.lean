/-
# Peers without a false alarm

Several clients play or watch one match and receive each other's messages, in any order and any
number of times.  An aged checkpoint never changes while the ring retains it, is sent once and
is compared once for each hash received (`Reliable`).  Where a rollback cannot reach, the frames
of all peers have the confirmed inputs; if the simulation there is the same function of these
inputs, no peer reports a mismatch (`aged_checkpoints`).
-/
import Sf4e.Desync.Backlog

namespace Sf4e
namespace Desync

open HashRing Trace Client

variable {ι I : Type}

/-! ## One client -/

/-- What a client does with its aged checkpoints in the course of a log. -/
structure Reliable (log : List (ClientEntry I)) (c : Client I) : Prop where
  /-- A checkpoint that was eligible for sending has the same hash as long as the ring
  retains it. -/
  stable : ∀ newer e older, log = newer ++ e :: older → ∀ i, e.post.Due e.post.frameIdx i →
    (c.hashCheckpoints i).valid = true →
    (c.hashCheckpoints i).frameIdx = (e.post.hashCheckpoints i).frameIdx →
      (c.hashCheckpoints i).hashes = (e.post.hashCheckpoints i).hashes
  /-- The hash of a frame is sent at most once. -/
  sentOnce : ∀ f, hashesSent f log ≤ 1
  /-- A hash is compared at most as often as it is received. -/
  comparedOnce : ∀ m, (comparedHashes log).count m ≤ (receivedHashes log).count m

lemma reliable_of_run {log : List (ClientEntry I)} {c : Client I}
    (h : (clientLTS I).Run log c) (hok : ∀ e ∈ log, Within e) : Reliable log c := by
  refine ⟨?_, fun f => (sentOnce_of_run h hok f).le_one, fun m => ?_⟩
  · rintro newer e older rfl i ⟨-, hage⟩ hvalid hframe
    obtain ⟨holder, hstep, hnewer⟩ := h.at_entry
    have he : Within e := hok e (by simp)
    have hrec : Recorded e.pre :=
      recorded_of_run holder fun e' he' => hok e' (by simp [he'])
    have hrec' : Recorded e.post := (hrec.next he.1 he.2 hstep).1
    obtain ⟨-, hinh⟩ := recorded_of_path hnewer
      (fun e' he' => hok e' (List.mem_append_left _ he')) hrec'
    rw [he.2.frameIdx_eq] at hage
    have hold : (c.hashCheckpoints i).frameIdx + maxPredictionFrames ≤
        e.post.timeline.length := by
      rw [hframe]
      simp only [maxPredictionFrames, hashCheckpointAgeFrames] at hage ⊢
      omega
    obtain ⟨-, -, hh, -⟩ := hinh.slot i hvalid hold
    exact hh.symm
  · rw [balance_of_run h m]
    omega

/-! ## The peers -/

/-- Clients in one match, and all messages that they have sent. -/
structure Peers (ι I : Type) where
  clients : ι → Client I
  wire : List (ι × Message)

/-- The step begins another match or battle. -/
def Action.begins : Action I → Bool
  | .startMatch _ => true
  | .startBattle => true
  | _ => false

/-- What a step may receive: only what another peer has sent. -/
def Peers.Delivers [DecidableEq ι] (s : Peers ι I) (i : ι) : Action I → Prop
  | .receive m => ∃ p ∈ s.wire, p.1 ≠ i ∧ p.2 = m
  | _ => True

instance [DecidableEq ι] (s : Peers ι I) (i : ι) : (act : Action I) → Decidable (s.Delivers i act)
  | .receive _ => inferInstanceAs (Decidable (∃ p ∈ s.wire, _))
  | .battleUpdate _ _ | .engineUpdate _ | .idle _ | .pass _ | .clearBattleState | .startMatch _
  | .startBattle => .isTrue trivial

/-- One step of one peer, within the match. -/
def Peers.next [DecidableEq ι] (s : Peers ι I) (act : ι × Action I) : Option (Out × Peers ι I) :=
  if act.2.begins = false ∧ s.Delivers act.1 act.2 then
    (Desync.next (s.clients act.1) act.2).map fun r =>
      (r.1,
        { clients := Function.update s.clients act.1 r.2
          wire := s.wire ++ r.1.sent.map fun m => (act.1, m) })
  else none

/-- The runs of the peers, from the beginning of a match. -/
def peersLTS (ι I : Type) [DecidableEq ι] : LTS (Peers ι I) (ι × Action I) Out :=
  .ofFun (fun s => ∃ k, s = ⟨fun _ => Client.start k, []⟩) Peers.next

/-- One step of the peers. -/
abbrev PeersEntry (ι I : Type) := Entry (Peers ι I) (ι × Action I) Out

/-! ## Confirmed inputs -/

/-- The first inputs, newest first. -/
def confirmedInputs (confirmed : ℕ → I) : ℕ → List I
  | 0 => []
  | n + 1 => confirmed n :: confirmedInputs confirmed n

/-- Every frame has its confirmed input, and its hashes are the same function of the inputs. -/
def Settled (confirmed : ℕ → I) (simulation : List I → SemanticHashes) : List (Frame I) → Prop
  | [] => True
  | frame :: older =>
    frame.input = confirmed older.length ∧
      frame.hashes = simulation (frame.input :: older.map Frame.input) ∧
      Settled confirmed simulation older

/-- The frames that no rollback can reach any more are settled. -/
def Confirmed (confirmed : ℕ → I) (simulation : List I → SemanticHashes) (c : Client I) : Prop :=
  Settled confirmed simulation (c.timeline.drop maxPredictionFrames)

variable {confirmed : ℕ → I} {simulation : List I → SemanticHashes}

lemma Settled.inputs {frames : List (Frame I)} (h : Settled confirmed simulation frames) :
    frames.map Frame.input = confirmedInputs confirmed frames.length := by
  induction frames with
  | nil => rfl
  | cons frame older ih =>
    obtain ⟨hinput, -, hrest⟩ := h
    rw [List.map_cons, List.length_cons, confirmedInputs, hinput, ih hrest]

lemma Settled.hashesAt {frames : List (Frame I)} (h : Settled confirmed simulation frames)
    {n : ℕ} {hashes : SemanticHashes} (hat : hashesAt frames n = some hashes) :
    hashes = simulation (confirmedInputs confirmed n) := by
  induction frames with
  | nil => simp [Desync.hashesAt] at hat
  | cons frame older ih =>
    obtain ⟨hinput, hhashes, hrest⟩ := h
    rw [Desync.hashesAt] at hat
    split at hat
    · rename_i hn
      rw [hn, confirmedInputs, ← hrest.inputs, ← hinput, ← hhashes]
      exact (Option.some.inj hat).symm
    · exact ih hrest hat

/-- The hash is the one that the confirmed inputs lead to. -/
def Honest (confirmed : ℕ → I) (simulation : List I → SemanticHashes) (m : BattleHashV2) : Prop :=
  ∃ n : ℕ, m.frameIdx = n ∧ m.overall = (simulation (confirmedInputs confirmed n)).overall

/-- An aged checkpoint holds what the confirmed inputs lead to. -/
lemma hashes_of_due {c : Client I} (hrec : Recorded c) (hwrap : c.NoWrap)
    (hconf : Confirmed confirmed simulation c) {i : Fin numHashCheckpoints}
    (hdue : c.Due c.frameIdx i) :
    ∃ n : ℕ, (c.hashCheckpoints i).frameIdx = n ∧
      (c.hashCheckpoints i).hashes = simulation (confirmedInputs confirmed n) := by
  obtain ⟨hvalid, hage⟩ := hdue
  obtain ⟨n, hn, -, -, -, hle, hval⟩ := hrec i hvalid
  rw [hwrap.frameIdx_eq, hn] at hage
  simp only [hashCheckpointAgeFrames] at hage
  have hold : hashesAt (c.timeline.drop maxPredictionFrames) n =
      some (c.hashCheckpoints i).hashes := by
    rw [hashesAt_drop (by simp only [maxPredictionFrames]; omega)]
    exact hval hle
  exact ⟨n, hn, hconf.hashesAt hold⟩

/-! ## Runs of the peers -/

/-- What holds of honest peers: every ring is in line with its frames, and every hash that is
on the wire or waits somewhere is honest. -/
structure AllHonest (confirmed : ℕ → I) (simulation : List I → SemanticHashes) (s : Peers ι I) :
    Prop where
  recorded : ∀ i, Recorded (s.clients i)
  wire : ∀ i m, (i, .hash m) ∈ s.wire → Honest confirmed simulation m
  waiting : ∀ i, ∀ m ∈ (s.clients i).pendingRemoteHashes, Honest confirmed simulation m

/-- A hash that waits has waited before or is received. -/
lemma mem_pending_of_next {c c' : Client I} {act : Action I} {o : Out}
    (h : next c act = some (o, c')) {m : BattleHashV2} (hm : m ∈ c'.pendingRemoteHashes) :
    m ∈ c.pendingRemoteHashes ∨ m ∈ act.receivedHashes := by
  have hbal := balance_next h m
  have hpos : 0 < c'.waiting m := List.count_pos_iff.2 hm
  by_cases hwait : 0 < c.waiting m
  · exact Or.inl (List.count_pos_iff.1 hwait)
  · exact Or.inr (List.count_pos_iff.1 (by omega))

section

variable [DecidableEq ι]

lemma next_eq {s s' : Peers ι I} {i : ι} {act : Action I} {o : Out}
    (h : s.next (i, act) = some (o, s')) :
    act.begins = false ∧ s.Delivers i act ∧ ∃ c', next (s.clients i) act = some (o, c') ∧
      s' = { clients := Function.update s.clients i c'
             wire := s.wire ++ o.sent.map fun m => (i, m) } := by
  unfold Peers.next at h
  split at h
  · rename_i hok
    obtain ⟨⟨o', c'⟩, hnext, heq⟩ := Option.map_eq_some_iff.1 h
    obtain ⟨rfl, rfl⟩ := Prod.mk.inj heq
    exact ⟨hok.1, hok.2, c', hnext, rfl⟩
  · exact absurd h (by simp)

/-- **Step lemma.** Honest peers stay honest, and what they compare agrees. -/
lemma AllHonest.next {s s' : Peers ι I} {i : ι} {act : Action I} {o : Out}
    (h : AllHonest confirmed simulation s) (hwrap : (s'.clients i).NoWrap)
    (hconf : Confirmed confirmed simulation (s'.clients i))
    (hnext : s.next (i, act) = some (o, s')) :
    AllHonest confirmed simulation s' ∧ ∀ cmp ∈ o.hashComparisons, ¬ cmp.Mismatch := by
  obtain ⟨hbegins, hdelivers, c', hc', rfl⟩ := next_eq hnext
  simp only [Function.update_self] at hwrap hconf
  have hact : act ≠ .startBattle := by
    rintro rfl
    simp [Action.begins] at hbegins
  have hrec' : Recorded c' := ((h.recorded i).next hact hwrap hc').1
  -- only an exchange sends and compares, and there the aged checkpoints are confirmed
  have hexchange : (∀ m, .hash m ∈ o.sent → Honest confirmed simulation m) ∧
      ∀ cmp ∈ o.hashComparisons, ¬ cmp.Mismatch := by
    by_cases hpass : ∃ poll, act = .pass poll
    · obtain ⟨poll, rfl⟩ := hpass
      have heq : (s.clients i).pass poll = (o, c') := Option.some.inj hc'
      have htraced := traced_pass (s.clients i) poll
      have htime := (exchanged_pass (s.clients i) poll).timeline
      rw [heq] at htraced htime
      have hwrap₀ : (s.clients i).NoWrap := by
        show (s.clients i).timeline.length < 2 ^ 15
        rw [← htime]
        exact hwrap
      have hconf₀ : Confirmed confirmed simulation (s.clients i) := by
        rw [Confirmed, ← htime]
        exact hconf
      constructor
      · intro m hm
        obtain ⟨j, hdue, rfl⟩ := htraced.hashSent m hm
        obtain ⟨n, hn, hh⟩ := hashes_of_due (h.recorded i) hwrap₀ hconf₀ hdue
        refine ⟨n, hn, ?_⟩
        rw [← hh]
        rfl
      · intro cmp hcmp
        obtain ⟨j, hdue, hhashes, -, hmem, hframe⟩ := htraced.hashCompared cmp hcmp
        obtain ⟨n, hn, hh⟩ := hashes_of_due (h.recorded i) hwrap₀ hconf₀ hdue
        obtain ⟨n', hn', hremote⟩ := h.waiting i _ hmem
        obtain rfl : n' = n := by
          have hnn : (n' : ℤ) = n := by rw [← hn', hframe, hn]
          exact_mod_cast hnn
        rw [HashComparison.Mismatch, hhashes, hh, hremote]
        exact not_not.2 rfl
    · rw [not_exists] at hpass
      obtain ⟨hsent, hcmps⟩ := quiet_of_next hpass hc'
      rw [hsent, hcmps]
      exact ⟨fun _ hm => absurd hm List.not_mem_nil, fun _ hm => absurd hm List.not_mem_nil⟩
  refine ⟨⟨fun j => ?_, fun j m hm => ?_, fun j m hm => ?_⟩, hexchange.2⟩
  · dsimp only
    by_cases hji : j = i
    · subst hji
      rwa [Function.update_self]
    · rw [Function.update_of_ne hji]
      exact h.recorded j
  · rcases List.mem_append.1 hm with hm | hm
    · exact h.wire j m hm
    · obtain ⟨m', hm', heq⟩ := List.mem_map.1 hm
      obtain ⟨-, rfl⟩ := Prod.mk.inj heq
      exact hexchange.1 m hm'
  · dsimp only at hm
    by_cases hji : j = i
    · subst hji
      rw [Function.update_self] at hm
      rcases mem_pending_of_next hc' hm with hm | hm
      · exact h.waiting j m hm
      · -- what is received has been on the wire
        cases act with
        | receive msg =>
          cases msg with
          | hash m' =>
            obtain rfl : m = m' := List.mem_singleton.1 hm
            obtain ⟨⟨k, msg⟩, hwire, -, rfl⟩ := hdelivers
            exact h.wire k m hwire
          | snapshot m' => exact absurd hm List.not_mem_nil
        | _ => exact absurd hm List.not_mem_nil
    · rw [Function.update_of_ne hji] at hm
      exact h.waiting j m hm

/-- **Run lemma.** Peers whose confirmed frames agree never report a mismatch. -/
lemma no_mismatch_of_run {log : List (PeersEntry ι I)} {s : Peers ι I}
    (h : (peersLTS ι I).Run log s) (hwrap : ∀ e ∈ log, ∀ i, (e.post.clients i).NoWrap)
    (hconf : ∀ e ∈ log, ∀ i, Confirmed confirmed simulation (e.post.clients i)) :
    ∀ e ∈ log, ∀ cmp ∈ e.out.hashComparisons, ¬ cmp.Mismatch := by
  refine (h.invariant (fun log s => AllHonest confirmed simulation s ∧
    ∀ e ∈ log, ∀ cmp ∈ e.out.hashComparisons, ¬ cmp.Mismatch) ?_ ?_
    fun e he => And.intro (hwrap e he) (hconf e he)).2
  · rintro s ⟨k, rfl⟩
    refine ⟨⟨fun _ => recorded_of_clear rfl, fun _ _ hm => ?_, fun _ m hm => ?_⟩, by simp⟩
    · exact absurd hm List.not_mem_nil
    · exact absurd hm (OrderedMap.not_mem_empty m)
  · rintro log ⟨pre, ⟨i, act⟩, out, post⟩ ⟨hall, hnone⟩ hstep ⟨hw, hc⟩
    obtain ⟨hall', hcmps⟩ := hall.next (hw i) (hc i) hstep
    exact ⟨hall', List.forall_mem_cons.2 ⟨hcmps, hnone⟩⟩

end

/-- **Aged checkpoints.** Within one battle whose frame numbers do not wrap around, an aged
checkpoint keeps its hash while the ring retains it, is sent at most once, and is compared at
most once for each hash that is received.  Peers whose frames out of the reach of rollbacks are
the same function of the confirmed inputs never report a mismatch. -/
theorem aged_checkpoints (ι I : Type) [DecidableEq ι] (confirmed : ℕ → I)
    (simulation : List I → SemanticHashes) :
    (∀ (log : List (ClientEntry I)) (c : Client I), (clientLTS I).Run log c →
      (∀ e ∈ log, Within e) → Reliable log c) ∧
    ∀ (log : List (PeersEntry ι I)) (s : Peers ι I), (peersLTS ι I).Run log s →
      (∀ e ∈ log, ∀ i, (e.post.clients i).NoWrap) →
      (∀ e ∈ log, ∀ i, Confirmed confirmed simulation (e.post.clients i)) →
        ∀ e ∈ log, ∀ cmp ∈ e.out.hashComparisons, ¬ cmp.Mismatch :=
  ⟨fun _ _ => reliable_of_run, fun _ _ => no_mismatch_of_run⟩

/-! ## Two players -/

instance (act : Action I) : Decidable (act ≠ .startBattle) :=
  match act with
  | .startBattle => .isFalse fun h => h rfl
  | .battleUpdate _ _ | .engineUpdate _ | .idle _ | .receive _ | .pass _ | .clearBattleState
  | .startMatch _ => .isTrue nofun

instance (e : ClientEntry I) : Decidable (Within e) := inferInstanceAs (Decidable (_ ∧ _))

instance decidableSettled [DecidableEq I] : (frames : List (Frame I)) →
    Decidable (Settled confirmed simulation frames)
  | [] => .isTrue trivial
  | _ :: older =>
    have : Decidable (Settled confirmed simulation older) := decidableSettled older
    inferInstanceAs (Decidable (_ ∧ _ ∧ _))

instance [DecidableEq I] (c : Client I) : Decidable (Confirmed confirmed simulation c) :=
  inferInstanceAs (Decidable (Settled ..))

/-- A frame with an input that was not mispredicted. -/
def confirmedFrame : Frame Bool := ⟨false, { overall := 7 }, []⟩

/-- A frame with an input that was mispredicted. -/
def predictedFrame : Frame Bool := ⟨true, { overall := 8 }, []⟩

/-- What a player does who mispredicts frame 30 and comes to frame 60. -/
def playSixty : List (Action Bool) :=
  List.replicate 29 (.battleUpdate confirmedFrame []) ++
    [.battleUpdate predictedFrame [],
      .battleUpdate confirmedFrame [confirmedFrame, confirmedFrame]] ++
    List.replicate 29 (.battleUpdate confirmedFrame []) ++ [.pass {}]

/-- A list of actions that the peers can carry out at the beginning of a match, and whose log
passes a test. -/
lemma exists_peersRun_of_exec [DecidableEq ι] (acts : List (ι × Action I))
    {p : List (PeersEntry ι I) → Peers ι I → Prop} [∀ log s, Decidable (p log s)]
    (h : (LTS.exec Peers.next ⟨fun _ => Client.start 1, []⟩ [] acts).any
      (fun r => decide (p r.1 r.2)) = true) :
    ∃ log s, (peersLTS ι I).Run log s ∧ p log s := by
  obtain ⟨log, s, hpath, hp⟩ := LTS.exists_path_of_exec acts h
  exact ⟨log, s, ⟨_, ⟨1, rfl⟩, hpath⟩, hp⟩

/-- The hash of frame 30, as both players send it. -/
def frame30 : BattleHashV2 := ⟨30, 7, 0, 0, 0, true, 1⟩

/-- Two players roll back over a checkpoint, exchange it and find that it agrees. -/
theorem aged_checkpoints_two_players :
    (∃ log c, (clientLTS Unit).Run log c ∧ hashesSent 30 log = 1 ∧ Reliable log c) ∧
    ∃ log s, (peersLTS Bool Bool).Run log s ∧ (∃ e ∈ log, e.out.hashComparisons ≠ []) ∧
      ∀ e ∈ log, ∀ cmp ∈ e.out.hashComparisons, ¬ cmp.Mismatch := by
  have hsound := aged_checkpoints Bool Bool (fun _ => false) fun _ => { overall := 7 }
  constructor
  · obtain ⟨e₂, newer, e₁, c, hrun, hok, hsent⟩ := exists_clientRun_of_exec
      (accept 60 ++ [.pass {}, .pass {}])
      (p := fun e₁ newer e₂ => (∀ e ∈ e₂ :: newer ++ [e₁], Within e) ∧
        hashesSent 30 (e₂ :: newer ++ [e₁]) = 1) (by decide +kernel)
    exact ⟨_, c, hrun, hsent,
      (aged_checkpoints Bool Unit (fun _ => ()) fun _ => {}).1 _ c hrun hok⟩
  · obtain ⟨log, s, hrun, hcmps, hok⟩ := exists_peersRun_of_exec
      (playSixty.map (fun act => (true, act)) ++ playSixty.map (fun act => (false, act)) ++
        [(false, .receive (.hash frame30)), (false, .pass {})])
      (p := fun log _ => (∃ e ∈ log, e.out.hashComparisons ≠ []) ∧ ∀ e ∈ log, ∀ i,
        (e.post.clients i).NoWrap ∧
          Confirmed (fun _ => false) (fun _ => { overall := 7 }) (e.post.clients i))
      (by decide +kernel)
    exact ⟨log, s, hrun, hcmps,
      hsound.2 log s hrun (fun e he i => (hok e he i).1) fun e he i => (hok e he i).2⟩

end Desync
end Sf4e
