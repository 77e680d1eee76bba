/-
# The exchange of snapshots

A client sends its snapshot of a frame when the frame is sixty frames back, and drops it once it
has also been compared.  A snapshot that is received is compared at once if the client has its
own, which may still be captured again, and waits otherwise.

One mark tells that a local snapshot has been compared, whoever else may still send one of the
frame, and one place is there for a snapshot that waits.  `ExchangesWell` says what the exchange
is for; `Plain` runs have it, where this does not matter.
-/
import Sf4e.Desync.Backlog
import Sf4e.Desync.Captures

namespace Sf4e
namespace Desync

open HashRing Trace Client

variable {I : Type}

/-! ## What is sent, received and compared -/

/-- A step of a battle with GGPO. -/
def Action.ofBattle : Action I → Bool
  | .battleUpdate _ _ | .idle _ | .receive _ | .pass _ => true
  | _ => false

/-- The message is the snapshot of the frame. -/
def Message.isSnapshotOf (f : ℤ) : Message → Bool
  | .snapshot m => m.frameIdx == f
  | .hash _ => false

/-- The messages sent in the course of a log. -/
def sentMessages (log : List (ClientEntry I)) : List Message := log.flatMap fun e => e.out.sent

/-- The number of times that a snapshot of the frame was sent. -/
def snapshotsSent (f : ℤ) (log : List (ClientEntry I)) : ℕ :=
  (sentMessages log).countP (Message.isSnapshotOf f)

/-- The comparisons of snapshots in the course of a log. -/
def comparedSnapshots (log : List (ClientEntry I)) : List SnapshotComparison :=
  log.flatMap fun e => e.out.snapshotComparisons

/-- The snapshot that a step receives. -/
def Action.receivedSnapshots : Action I → List StateSnapshot
  | .receive (.snapshot m) => [m]
  | _ => []

/-- The snapshots received in the course of a log. -/
def receivedSnapshots (log : List (ClientEntry I)) : List StateSnapshot :=
  log.flatMap fun e => e.act.receivedSnapshots

/-- There has been an exchange at which the frame was old enough. -/
def ExchangedAt (f : ℤ) (log : List (ClientEntry I)) : Prop :=
  ∃ e ∈ log, e.act.exchanges = true ∧ f + snapshotAgeFrames ≤ e.pre.timeline.length

instance (f : ℤ) (log : List (ClientEntry I)) : Decidable (ExchangedAt f log) :=
  inferInstanceAs (Decidable (∃ e ∈ log, _ ∧ _))

/-- What the exchange is for. -/
structure ExchangesWell (log : List (ClientEntry I)) (c : Client I) : Prop where
  /-- The snapshot of a frame is sent once at most. -/
  once : ∀ f, snapshotsSent f log ≤ 1
  /-- It is dropped only when it has been sent and compared. -/
  dropped : ∀ newer e older, log = newer ++ e :: older → ∀ l ∈ e.pre.snapshotMap,
    (∀ l' ∈ e.post.snapshotMap, l'.snapshot.frameIdx ≠ l.snapshot.frameIdx) →
      Message.snapshot l.snapshot ∈ sentMessages (e :: older) ∧
      ∃ remote : StateSnapshot, remote.frameIdx = l.snapshot.frameIdx ∧
        ⟨remote, l.snapshot⟩ ∈ comparedSnapshots (e :: older)
  /-- What is received of a frame is compared with it, at the latest when it is exchanged. -/
  compared : ∀ remote ∈ receivedSnapshots log, ∀ m,
    c.localSnapshot remote.frameIdx = some m → ExchangedAt remote.frameIdx log →
      ⟨remote, m⟩ ∈ comparedSnapshots log
  /-- A difference ends the fight. -/
  detected : ∀ remote ∈ receivedSnapshots log, ∀ m,
    c.localSnapshot remote.frameIdx = some m → ExchangedAt remote.frameIdx log →
      remote.chara ≠ m.chara → c.leaving = true

/-! ## Plain runs -/

/-- The frames after a step. -/
def Action.framesAfter (c : Client I) : Action I → List (Frame I)
  | .battleUpdate frame resim => resim.reverse ++ (frame :: c.timeline).drop resim.length
  | .idle resim => resim.reverse ++ c.timeline.drop resim.length
  | _ => c.timeline

/-- The snapshots that the exchange would send can be sent. -/
def SendsDue (e : ClientEntry I) : Prop :=
  match e.act with
  | .pass poll => poll.snapshotsEnabled = true → ∀ l ∈ e.pre.snapshotMap.entries,
      snapshotAgeFrames ≤ e.pre.frameIdx - l.snapshot.frameIdx → l.sent = false →
        poll.sendOk (.snapshot l.snapshot) = true
  | _ => True

instance (e : ClientEntry I) : Decidable (SendsDue e) :=
  match h : e.act with
  | .pass poll => decidable_of_iff (poll.snapshotsEnabled = true →
      ∀ l ∈ e.pre.snapshotMap.entries,
        snapshotAgeFrames ≤ e.pre.frameIdx - l.snapshot.frameIdx → l.sent = false →
          poll.sendOk (.snapshot l.snapshot) = true) (by simp only [SendsDue, h])
  | .battleUpdate _ _ | .engineUpdate _ | .idle _ | .receive _ | .clearBattleState
  | .startMatch _ | .startBattle => .isTrue (by simp only [SendsDue, h])

/-- A snapshot is received while the local one waits for no other, and not after the local one
has been dropped; but one that has been received before may be received again. -/
def ReceivesOne (older : List (ClientEntry I)) (e : ClientEntry I) : Prop :=
  ∀ remote ∈ e.act.receivedSnapshots,
    (∀ l ∈ e.pre.snapshotMap.find? remote.frameIdx, l.confirmed = true ∨
      ∀ other ∈ e.pre.pendingRemoteSnapshots.entries,
        other.frameIdx = remote.frameIdx → other = remote) ∧
    ((e.pre.snapshotMap.find? remote.frameIdx).isNone = true →
      e.pre.localSnapshot remote.frameIdx = none ∨ remote ∈ receivedSnapshots older)

instance (older : List (ClientEntry I)) (e : ClientEntry I) : Decidable (ReceivesOne older e) :=
  inferInstanceAs (Decidable (∀ remote ∈ e.act.receivedSnapshots,
    (∀ l ∈ e.pre.snapshotMap.find? remote.frameIdx, l.confirmed = true ∨
      ∀ other ∈ e.pre.pendingRemoteSnapshots.entries,
        other.frameIdx = remote.frameIdx → other = remote) ∧
    ((e.pre.snapshotMap.find? remote.frameIdx).isNone = true →
      e.pre.localSnapshot remote.frameIdx = none ∨ remote ∈ receivedSnapshots older)))

/-- A frame that becomes another one, or is new, has been received of nobody, but for what still
waits. -/
def CapturesFirst (older : List (ClientEntry I)) (e : ClientEntry I) : Prop :=
  ∀ remote ∈ receivedSnapshots older,
    snapshotAt (e.act.framesAfter e.pre) e.pre.battle remote.frameIdx =
        e.pre.localSnapshot remote.frameIdx ∨
      remote ∈ e.pre.pendingRemoteSnapshots.entries

instance (older : List (ClientEntry I)) (e : ClientEntry I) : Decidable (CapturesFirst older e) :=
  inferInstanceAs (Decidable (∀ remote ∈ receivedSnapshots older,
    snapshotAt (e.act.framesAfter e.pre) e.pre.battle remote.frameIdx =
        e.pre.localSnapshot remote.frameIdx ∨
      remote ∈ e.pre.pendingRemoteSnapshots.entries))

/-- The step is a plain one, after a log. -/
structure PlainStep (older : List (ClientEntry I)) (e : ClientEntry I) : Prop where
  sends : SendsDue e
  receives : ReceivesOne older e
  captures : CapturesFirst older e
  /-- The frame numbers do not wrap around. -/
  noWrap : (e.act.framesAfter e.pre).length < 2 ^ 15

instance (older : List (ClientEntry I)) (e : ClientEntry I) : Decidable (PlainStep older e) :=
  decidable_of_iff (SendsDue e ∧ ReceivesOne older e ∧ CapturesFirst older e ∧
    (e.act.framesAfter e.pre).length < 2 ^ 15)
    ⟨fun ⟨h₁, h₂, h₃, h₄⟩ => ⟨h₁, h₂, h₃, h₄⟩, fun ⟨h₁, h₂, h₃, h₄⟩ => ⟨h₁, h₂, h₃, h₄⟩⟩

/-- All steps of a log are plain. -/
def Plain : List (ClientEntry I) → Prop
  | [] => True
  | e :: log => PlainStep log e ∧ Plain log

/-- Whether all steps of a log are plain. -/
def decidePlain : ∀ log : List (ClientEntry I), Decidable (Plain log)
  | [] => .isTrue trivial
  | e :: log =>
    have : Decidable (Plain log) := decidePlain log
    inferInstanceAs (Decidable (PlainStep log e ∧ Plain log))

instance : DecidablePred (Plain (I := I)) := decidePlain

lemma Plain.of_append {newer older : List (ClientEntry I)} (h : Plain (newer ++ older)) :
    Plain older := by
  induction newer with
  | nil => exact h
  | cons e newer ih => exact ih h.2

/-! ## The end of a `SessionClient::Step` -/

lemma snapshotMap_exchangeHash (c : Client I) (poll : Poll) (f : ℤ)
    (i : Fin numHashCheckpoints) : (c.exchangeHash poll f i).2.snapshotMap = c.snapshotMap := by
  by_cases hdue : c.Due f i
  · rw [exchangeHash_of_due poll hdue]
    have hsend : (c.sendHash poll i).2.snapshotMap = c.snapshotMap := by
      rcases sendHash_cases c poll i with h | ⟨-, h⟩
      · rw [h]
      · rw [h]
        rfl
    rw [← hsend]
    rcases reconcileHash_cases (c.sendHash poll i).2 poll i with ⟨-, h⟩ | ⟨remote, _, -, h⟩
    all_goals rw [h]
  · rw [exchangeHash_of_not_due poll hdue]

lemma snapshotMap_exchangeHashes (c : Client I) (poll : Poll) (f : ℤ)
    (slots : List (Fin numHashCheckpoints)) :
    (c.exchangeHashes poll f slots).2.snapshotMap = c.snapshotMap := by
  induction slots generalizing c with
  | nil => rfl
  | cons i slots ih => exact (ih _).trans (snapshotMap_exchangeHash c poll f i)

/-- The exchange of hashes sends no snapshots. -/
lemma isSnapshotOf_exchangeHashes {c : Client I} {poll : Poll} {f k : ℤ}
    {slots : List (Fin numHashCheckpoints)} {m : Message}
    (h : m ∈ (c.exchangeHashes poll f slots).1.sent) : m.isSnapshotOf k = false := by
  induction slots generalizing c with
  | nil => exact absurd h List.not_mem_nil
  | cons i slots ih =>
    rcases List.mem_append.1 h with hfirst | hrest
    · by_cases hdue : c.Due f i
      · rw [exchangeHash_of_due poll hdue, Out.append] at hfirst
        have hnone : ((c.sendHash poll i).2.reconcileHash poll i).1.sent = [] := by
          rcases reconcileHash_cases (c.sendHash poll i).2 poll i with ⟨-, h⟩ | ⟨remote, _, -, h⟩
          all_goals rw [h]
        rw [hnone, List.append_nil] at hfirst
        rcases sendHash_cases c poll i with hs | ⟨-, hs⟩
        · rw [hs] at hfirst
          exact absurd hfirst List.not_mem_nil
        · rw [hs] at hfirst
          rw [List.mem_singleton.1 hfirst]
          rfl
      · rw [exchangeHash_of_not_due poll hdue] at hfirst
        exact absurd hfirst List.not_mem_nil
    · exact ih hrest

/-- What becomes of the map. -/
lemma mem_snapshotMap_pass {c : Client I} {poll : Poll} (hen : poll.snapshotsEnabled = true)
    {l' : LocalSnapshot} : l' ∈ (c.pass poll).2.snapshotMap ↔ ∃ l ∈ c.snapshotMap,
      reconcileSnapshot c.pendingRemoteSnapshots c.frameIdx l = some l' := by
  rw [pass_of_enabled c hen]
  generalize List.finRange numHashCheckpoints = slots
  show l' ∈ ((c.exchangeSnapshots poll c.frameIdx).2.exchangeHashes poll c.frameIdx
    slots).2.snapshotMap ↔ _
  rw [snapshotMap_exchangeHashes]
  exact List.mem_filterMap

/-- What is sent. -/
lemma sent_pass {c : Client I} {poll : Poll} (hen : poll.snapshotsEnabled = true) (k : ℤ) :
    (c.pass poll).1.sent.filter (Message.isSnapshotOf k) =
      (((c.snapshotMap.entries.filter fun l =>
        snapshotAgeFrames ≤ c.frameIdx - l.snapshot.frameIdx ∧ l.sent = false).map
          fun l => Message.snapshot l.snapshot).filter poll.sendOk).filter
            (Message.isSnapshotOf k) := by
  rw [pass_of_enabled c hen]
  generalize List.finRange numHashCheckpoints = slots
  dsimp only [Out.append]
  rw [List.filter_append]
  have hnone : ((c.exchangeSnapshots poll c.frameIdx).2.exchangeHashes poll c.frameIdx
      slots).1.sent.filter (Message.isSnapshotOf k) = [] :=
    List.filter_eq_nil_iff.2 fun m hm => by simp [isSnapshotOf_exchangeHashes hm]
  rw [hnone, List.append_nil]
  rfl

/-- What is compared. -/
lemma mem_comparisons_pass {c : Client I} {poll : Poll} (hen : poll.snapshotsEnabled = true)
    {l : LocalSnapshot} (hl : l ∈ c.snapshotMap)
    (hage : snapshotAgeFrames ≤ c.frameIdx - l.snapshot.frameIdx) (hconf : l.confirmed = false)
    {remote : StateSnapshot}
    (hfind : c.pendingRemoteSnapshots.find? l.snapshot.frameIdx = some remote) :
    ⟨remote, l.snapshot⟩ ∈ (c.pass poll).1.snapshotComparisons := by
  rw [pass_of_enabled c hen]
  generalize List.finRange numHashCheckpoints = slots
  refine List.mem_append_left _ (List.mem_filterMap.2 ⟨l, hl, ?_⟩)
  rw [compareSnapshot, if_neg, hfind]
  · rfl
  · rw [not_or, not_lt, hconf]
    exact ⟨hage, by simp⟩

/-- A snapshot that is old enough stays only if it has not been compared. -/
lemma reconcileSnapshot_cases (pending : PendingSnapshots) (f : ℤ) (l : LocalSnapshot) :
    (f - l.snapshot.frameIdx < snapshotAgeFrames ∧ reconcileSnapshot pending f l = some l) ∨
      (snapshotAgeFrames ≤ f - l.snapshot.frameIdx ∧
        (l.confirmed = true ∨ (pending.find? l.snapshot.frameIdx).isSome = true) ∧
        reconcileSnapshot pending f l = none) ∨
      (snapshotAgeFrames ≤ f - l.snapshot.frameIdx ∧ l.confirmed = false ∧
        pending.find? l.snapshot.frameIdx = none ∧
        reconcileSnapshot pending f l = some { l with sent := true }) := by
  by_cases hage : f - l.snapshot.frameIdx < snapshotAgeFrames
  · exact .inl ⟨hage, by rw [reconcileSnapshot, if_pos hage]⟩
  · by_cases hdone : (l.confirmed || (pending.find? l.snapshot.frameIdx).isSome) = true
    · refine .inr (.inl ⟨not_lt.1 hage, by simpa using hdone, ?_⟩)
      rw [reconcileSnapshot, if_neg hage, if_pos hdone]
    · refine .inr (.inr ⟨not_lt.1 hage, ?_, ?_, ?_⟩)
      · cases hconf : l.confirmed with
        | false => rfl
        | true => simp [hconf] at hdone
      · cases hfind : pending.find? l.snapshot.frameIdx with
        | none => rfl
        | some remote => simp [hfind] at hdone
      · rw [reconcileSnapshot, if_neg hage, if_neg hdone]

/-! ## Frames -/

lemma timeline_resimulate {c c' : Client I} {resim : List (Frame I)}
    (h : c.resimulate resim = some c') : c'.timeline = resim.reverse ++ c.timeline := by
  induction resim generalizing c with
  | nil =>
    obtain rfl := Option.some.inj h
    rfl
  | cons frame resim ih =>
    obtain ⟨c₁, hcap, hrest⟩ := Option.bind_eq_some_iff.1 h
    rw [ih hrest, timeline_capture hcap, timeline_simulate, List.reverse_cons, List.append_assoc]
    rfl

lemma timeline_rollback {c c' : Client I} {resim : List (Frame I)}
    (h : c.rollback resim = some c') :
    c'.timeline = resim.reverse ++ c.timeline.drop resim.length := by
  obtain ⟨-, -, hres⟩ := rollback_eq h
  exact timeline_resimulate hres

/-- The frames after a step of a battle are given by the step. -/
lemma timeline_next {c c' : Client I} {act : Action I} {o : Out} (hact : act.ofBattle = true)
    (h : next c act = some (o, c')) : c'.timeline = act.framesAfter c := by
  cases act with
  | battleUpdate frame resim =>
    obtain ⟨c₁, hup, heq⟩ := Option.map_eq_some_iff.1 h
    obtain ⟨-, rfl⟩ := Prod.mk.inj heq
    obtain ⟨c₂, hroll, hcap⟩ := battleUpdate_eq hup
    rw [timeline_capture hcap, timeline_rollback hroll]
    rfl
  | idle resim =>
    obtain ⟨c₁, hroll, heq⟩ := Option.map_eq_some_iff.1 h
    obtain ⟨-, rfl⟩ := Prod.mk.inj heq
    exact timeline_rollback hroll
  | receive m =>
    obtain ⟨-, rfl⟩ := Prod.mk.inj (Option.some.inj h)
    exact (onMessage_fields c m).1
  | pass poll =>
    obtain ⟨-, rfl⟩ := Prod.mk.inj (Option.some.inj h)
    exact (exchanged_pass c poll).timeline
  | engineUpdate | clearBattleState | startMatch | startBattle => cases hact

/-! ## The invariant -/

section

variable {log : List (ClientEntry I)} {c c' : Client I} {e : ClientEntry I}

/-- The remote snapshot waits for the local one, which has been compared with no other. -/
structure Waits (log : List (ClientEntry I)) (c : Client I) (remote : StateSnapshot) : Prop where
  pending : remote ∈ c.pendingRemoteSnapshots
  unconfirmed : ∃ l ∈ c.snapshotMap, l.snapshot.frameIdx = remote.frameIdx ∧ l.confirmed = false
  early : ¬ ExchangedAt remote.frameIdx log

/-- What the tables say of the log. -/
structure Exchanging (log : List (ClientEntry I)) (c : Client I) : Prop where
  noWrap : c.NoWrap
  ages : ∀ e ∈ log, e.pre.timeline.length ≤ c.timeline.length
  current : Current c
  once : ∀ f, snapshotsSent f log ≤ 1
  /-- What has been sent is old, and marked. -/
  aged : ∀ f, 0 < snapshotsSent f log → f + snapshotAgeFrames ≤ c.timeline.length ∧
    ∀ l ∈ c.snapshotMap, l.snapshot.frameIdx = f → l.sent = true
  sent : ∀ l ∈ c.snapshotMap, l.sent = true → Message.snapshot l.snapshot ∈ sentMessages log
  confirmed : ∀ l ∈ c.snapshotMap, l.confirmed = true →
    ∃ remote : StateSnapshot, remote.frameIdx = l.snapshot.frameIdx ∧
      ⟨remote, l.snapshot⟩ ∈ comparedSnapshots log
  received : ∀ remote ∈ receivedSnapshots log, ∀ m,
    c.localSnapshot remote.frameIdx = some m →
      ⟨remote, m⟩ ∈ comparedSnapshots log ∨ Waits log c remote

lemma snapshotsSent_cons (f : ℤ) : snapshotsSent f (e :: log) =
    e.out.sent.countP (Message.isSnapshotOf f) + snapshotsSent f log := by
  simp only [snapshotsSent, sentMessages, List.flatMap_cons, List.countP_append]

lemma mem_sentMessages_cons {m : Message} :
    m ∈ sentMessages (e :: log) ↔ m ∈ e.out.sent ∨ m ∈ sentMessages log := by
  simp only [sentMessages, List.flatMap_cons, List.mem_append]

/-- A step that sends nothing. -/
lemma snapshotsSent_of_quiet (h : e.out.sent = []) (f : ℤ) :
    snapshotsSent f (e :: log) = snapshotsSent f log := by
  rw [snapshotsSent_cons, h, List.countP_nil, zero_add]

lemma mem_comparedSnapshots_cons {cmp : SnapshotComparison} :
    cmp ∈ comparedSnapshots (e :: log) ↔
      cmp ∈ e.out.snapshotComparisons ∨ cmp ∈ comparedSnapshots log := by
  simp only [comparedSnapshots, List.flatMap_cons, List.mem_append]

lemma mem_receivedSnapshots_cons {remote : StateSnapshot} :
    remote ∈ receivedSnapshots (e :: log) ↔
      remote ∈ e.act.receivedSnapshots ∨ remote ∈ receivedSnapshots log := by
  simp only [receivedSnapshots, List.flatMap_cons, List.mem_append]

/-- A step that receives no snapshot. -/
lemma mem_receivedSnapshots_of_none {remote : StateSnapshot} (h : e.act.receivedSnapshots = []) :
    remote ∈ receivedSnapshots (e :: log) ↔ remote ∈ receivedSnapshots log := by
  rw [mem_receivedSnapshots_cons, h, List.mem_nil_iff, false_or]

lemma exchangedAt_cons {f : ℤ} : ExchangedAt f (e :: log) ↔
    (e.act.exchanges = true ∧ f + snapshotAgeFrames ≤ e.pre.timeline.length) ∨
      ExchangedAt f log := by
  simp only [ExchangedAt, List.exists_mem_cons_iff]

lemma exchanging_start (k : ℕ) : Exchanging [] (Client.start k : Client I) where
  noWrap := by
    show 0 < 2 ^ 15
    omega
  ages := by simp
  current _ hl := absurd hl (OrderedMap.not_mem_empty _)
  once _ := Nat.zero_le _
  aged _ hpos := absurd hpos (lt_irrefl 0)
  sent _ hl := absurd hl (OrderedMap.not_mem_empty _)
  confirmed _ hl := absurd hl (OrderedMap.not_mem_empty _)
  received := by simp [receivedSnapshots]

/-! ## Frames are captured -/

/-- **Step lemma.** Capturing frames keeps the invariant. -/
lemma Exchanging.of_recaptures {n : ℕ} (h : Exchanging log e.pre)
    (hcap : Recaptures n e.post.timeline.length e.pre e.post)
    (hn : e.pre.timeline.length ≤ n + maxPredictionFrames)
    (hlen : e.pre.timeline.length ≤ e.post.timeline.length) (hwrap : e.post.NoWrap)
    (hsent : e.out.sent = []) (hcmp : e.out.snapshotComparisons = [])
    (hrecv : e.act.receivedSnapshots = []) (hex : e.act.exchanges = false)
    (hfirst : ∀ remote ∈ receivedSnapshots log,
      e.post.localSnapshot remote.frameIdx = e.pre.localSnapshot remote.frameIdx ∨
        remote ∈ e.pre.pendingRemoteSnapshots.entries) :
    Exchanging (e :: log) e.post := by
  have hcount : ∀ f, snapshotsSent f (e :: log) = snapshotsSent f log :=
    snapshotsSent_of_quiet hsent
  have hcmps : ∀ cmp, cmp ∈ comparedSnapshots (e :: log) ↔ cmp ∈ comparedSnapshots log := by
    intro cmp
    rw [mem_comparedSnapshots_cons, hcmp, List.mem_nil_iff, false_or]
  have hearly : ∀ f, ExchangedAt f (e :: log) ↔ ExchangedAt f log := by
    intro f
    rw [exchangedAt_cons, hex]
    simp
  have hcases := fun {l : LocalSnapshot} (hl : l ∈ e.post.snapshotMap) =>
    hcap.mem_cases h.current hlen hl
  refine ⟨hwrap, List.forall_mem_cons.2 ⟨hlen, fun e' he' => (h.ages e' he').trans hlen⟩,
    hcap.current h.current hlen, fun f => ?_, fun f hpos => ?_, fun l hl hs => ?_,
    fun l hl hconf => ?_, fun remote hremote m hm => ?_⟩
  · rw [hcount]
    exact h.once f
  · rw [hcount] at hpos
    obtain ⟨hold, hmark⟩ := h.aged f hpos
    refine ⟨by omega, fun l hl hf => ?_⟩
    rcases hcases hl with ⟨-, hpre⟩ | ⟨hlt, -, -⟩
    · exact hmark l hpre hf
    · -- a rollback does not come to a frame that is sixty frames back
      simp only [snapshotAgeFrames, maxPredictionFrames] at hold hn
      omega
  · rw [mem_sentMessages_cons]
    rcases hcases hl with ⟨-, hpre⟩ | ⟨-, -, hnew⟩
    · exact .inr (h.sent l hpre hs)
    · rw [hnew] at hs
      cases hs
  · rcases hcases hl with ⟨-, hpre⟩ | ⟨-, -, hnew⟩
    · obtain ⟨remote, hframe, hdone⟩ := h.confirmed l hpre hconf
      exact ⟨remote, hframe, (hcmps _).2 hdone⟩
    · rw [hnew] at hconf
      cases hconf
  · have hold := (mem_receivedSnapshots_of_none hrecv).1 hremote
    rw [hcmps]
    by_cases hsame : e.post.localSnapshot remote.frameIdx = e.pre.localSnapshot remote.frameIdx
    · rw [hsame] at hm
      refine (h.received remote hold m hm).imp_right fun hwaits => ?_
      obtain ⟨l, hl, hframe, hconf⟩ := hwaits.unconfirmed
      obtain ⟨l', hl', hframe', hnew⟩ := hcap.exists_mem h.current hlen hl
      refine ⟨?_, ⟨l', hl', hframe'.trans hframe, ?_⟩, ?_⟩
      · rw [hcap.pendingRemoteSnapshots]
        exact hwaits.pending
      · rcases hnew with rfl | hnew
        · exact hconf
        · rw [hnew]
          rfl
      · rw [hearly]
        exact hwaits.early
    · -- the frame is another one, and nobody has compared it yet
      have hpending := (hfirst remote hold).resolve_left hsame
      have hlt : (n : ℤ) < remote.frameIdx := by
        by_contra hle
        exact hsame (hcap.localSnapshot_eq (not_lt.1 hle))
      obtain ⟨hframe, -, -, hle⟩ := snapshotAt_some hm
      refine .inr ⟨?_, ⟨_, hcap.new _ hlt hle m hm, hframe, rfl⟩, ?_⟩
      · rw [hcap.pendingRemoteSnapshots]
        exact hpending
      · rw [hearly]
        rintro ⟨e', he', -, hage⟩
        have hpast := h.ages e' he'
        simp only [snapshotAgeFrames, maxPredictionFrames] at hage hn
        omega

/-! ## A snapshot is received -/

lemma onSnapshot_some {remote : StateSnapshot} {l : LocalSnapshot}
    (h : c.snapshotMap.find? remote.frameIdx = some l) : c.onSnapshot remote =
      ({ snapshotComparisons := [⟨remote, l.snapshot⟩] },
        { c with
          leaving := c.leaving || SnapshotComparison.Differs ⟨remote, l.snapshot⟩
          snapshotMap :=
            if l.sent then c.snapshotMap.erase remote.frameIdx
            else c.snapshotMap.insert { l with confirmed := true } }) := by
  simp only [onSnapshot, h]

lemma onSnapshot_none {remote : StateSnapshot}
    (h : c.snapshotMap.find? remote.frameIdx = none) : c.onSnapshot remote =
      ({}, { c with pendingRemoteSnapshots := c.pendingRemoteSnapshots.emplace remote }) := by
  simp only [onSnapshot, h]

/-- The local snapshot of the frame is marked, or taken out if it has been sent. -/
lemma mem_snapshotMap_onSnapshot {remote : StateSnapshot} {l l' : LocalSnapshot}
    (h : c.snapshotMap.find? remote.frameIdx = some l) :
    l' ∈ (c.onSnapshot remote).2.snapshotMap ↔
      (l' ∈ c.snapshotMap ∧ l'.snapshot.frameIdx ≠ remote.frameIdx) ∨
        (l.sent = false ∧ l' = { l with confirmed := true }) := by
  obtain ⟨-, hframe⟩ := OrderedMap.find?_eq_some_iff.1 h
  rw [onSnapshot_some h]
  dsimp only
  cases hsent : l.sent with
  | true =>
    rw [if_pos rfl, OrderedMap.mem_erase_iff]
    simp
  | false =>
    rw [if_neg Bool.false_ne_true, OrderedMap.mem_insert_iff]
    dsimp only
    rw [hframe, eq_self_iff_true, true_and, or_comm]

/-- **Step lemma.** A snapshot that is compared on receipt keeps the invariant. -/
lemma Exchanging.of_compared {remote : StateSnapshot} {l : LocalSnapshot}
    (h : Exchanging log e.pre) (hact : e.act = .receive (.snapshot remote))
    (hstep : e.pre.onSnapshot remote = (e.out, e.post))
    (hfind : e.pre.snapshotMap.find? remote.frameIdx = some l)
    (hone : ReceivesOne log e) : Exchanging (e :: log) e.post := by
  obtain ⟨hl, hframe⟩ := OrderedMap.find?_eq_some_iff.1 hfind
  have hmem : ∀ l', l' ∈ e.post.snapshotMap ↔
      (l' ∈ e.pre.snapshotMap ∧ l'.snapshot.frameIdx ≠ remote.frameIdx) ∨
        (l.sent = false ∧ l' = { l with confirmed := true }) := by
    intro l'
    rw [← mem_snapshotMap_onSnapshot hfind, hstep]
  rw [onSnapshot_some hfind] at hstep
  obtain ⟨hout, hpost⟩ := Prod.mk.inj hstep
  have htime : e.post.timeline = e.pre.timeline := by rw [← hpost]
  have hlocal : e.post.localSnapshot = e.pre.localSnapshot := by
    rw [← hpost]
    rfl
  have hcmps : ∀ cmp, cmp ∈ comparedSnapshots (e :: log) ↔
      cmp = ⟨remote, l.snapshot⟩ ∨ cmp ∈ comparedSnapshots log := by
    intro cmp
    rw [mem_comparedSnapshots_cons, ← hout, List.mem_singleton]
  have hcount : ∀ f, snapshotsSent f (e :: log) = snapshotsSent f log :=
    snapshotsSent_of_quiet (by rw [← hout])
  refine ⟨?_, ?_, fun l' hl' => ?_, fun f => ?_, fun f hpos => ?_, fun l' hl' hs => ?_,
    fun l' hl' hconf => ?_, fun other hother m hm => ?_⟩
  · show e.post.timeline.length < 2 ^ 15
    rw [htime]
    exact h.noWrap
  · rw [htime]
    exact List.forall_mem_cons.2 ⟨le_rfl, h.ages⟩
  · rw [hlocal]
    rcases (hmem l').1 hl' with ⟨hold, -⟩ | ⟨-, rfl⟩
    · exact h.current l' hold
    · exact h.current l hl
  · rw [hcount]
    exact h.once f
  · rw [hcount] at hpos
    rw [htime]
    obtain ⟨hold, hmark⟩ := h.aged f hpos
    refine ⟨hold, fun l' hl' hf => ?_⟩
    rcases (hmem l').1 hl' with ⟨hpre, -⟩ | ⟨-, rfl⟩
    · exact hmark l' hpre hf
    · exact hmark l hl hf
  · rw [mem_sentMessages_cons]
    rcases (hmem l').1 hl' with ⟨hpre, -⟩ | ⟨hnot, rfl⟩
    · exact .inr (h.sent l' hpre hs)
    · rw [hnot] at hs
      cases hs
  · rcases (hmem l').1 hl' with ⟨hpre, -⟩ | ⟨-, rfl⟩
    · obtain ⟨other, hsame, hdone⟩ := h.confirmed l' hpre hconf
      exact ⟨other, hsame, (hcmps _).2 (.inr hdone)⟩
    · exact ⟨remote, hframe.symm, (hcmps _).2 (.inl rfl)⟩
  · rw [hlocal] at hm
    rw [hcmps]
    by_cases heq : other = remote
    · subst heq
      rw [← hframe, h.current l hl] at hm
      rw [Option.some.inj hm]
      exact .inl (.inl rfl)
    · have hold : other ∈ receivedSnapshots log := by
        rcases mem_receivedSnapshots_cons.1 hother with hnow | hold
        · rw [hact] at hnow
          exact absurd (List.mem_singleton.1 hnow) heq
        · exact hold
      rcases h.received other hold m hm with hdone | hwaits
      · exact .inl (.inr hdone)
      · obtain ⟨l', hl', hframe', hconf'⟩ := hwaits.unconfirmed
        have hne : other.frameIdx ≠ remote.frameIdx := by
          -- otherwise the local snapshot would wait for another one
          intro hsame
          have hll : l' = l := OrderedMap.eq_of_key_eq hl' hl (by rw [hframe', hsame, hframe])
          have hin : remote ∈ e.act.receivedSnapshots := by
            rw [hact]
            exact List.mem_singleton.2 rfl
          rcases (hone remote hin).1 l hfind with hconf | hlone
          · rw [← hll, hconf'] at hconf
            cases hconf
          · exact heq (hlone other hwaits.pending hsame)
        refine .inr ⟨?_, ⟨l', (hmem l').2 (.inl ⟨hl', ?_⟩), hframe', hconf'⟩, ?_⟩
        · rw [← hpost]
          exact hwaits.pending
        · rw [hframe']
          exact hne
        · rw [exchangedAt_cons, hact]
          rintro (⟨hex, -⟩ | hex)
          · cases hex
          · exact hwaits.early hex

/-- **Step lemma.** A snapshot that has to wait keeps the invariant. -/
lemma Exchanging.of_waiting {remote : StateSnapshot}
    (h : Exchanging log e.pre) (hact : e.act = .receive (.snapshot remote))
    (hstep : e.pre.onSnapshot remote = (e.out, e.post))
    (hfind : e.pre.snapshotMap.find? remote.frameIdx = none)
    (hone : ReceivesOne log e) : Exchanging (e :: log) e.post := by
  rw [onSnapshot_none hfind] at hstep
  obtain ⟨hout, hpost⟩ := Prod.mk.inj hstep
  have htime : e.post.timeline = e.pre.timeline := by rw [← hpost]
  have hmap : e.post.snapshotMap = e.pre.snapshotMap := by rw [← hpost]
  have hlocal : e.post.localSnapshot = e.pre.localSnapshot := by
    rw [← hpost]
    rfl
  have hcount : ∀ f, snapshotsSent f (e :: log) = snapshotsSent f log :=
    snapshotsSent_of_quiet (by rw [← hout])
  refine ⟨?_, ?_, ?_, fun f => ?_, fun f hpos => ?_, fun l hl hs => ?_, fun l hl hconf => ?_,
    fun other hother m hm => ?_⟩
  · show e.post.timeline.length < 2 ^ 15
    rw [htime]
    exact h.noWrap
  · rw [htime]
    exact List.forall_mem_cons.2 ⟨le_rfl, h.ages⟩
  · rw [Current, hmap, hlocal]
    exact h.current
  · rw [hcount]
    exact h.once f
  · rw [hcount] at hpos
    rw [htime, hmap]
    exact h.aged f hpos
  · rw [hmap] at hl
    exact mem_sentMessages_cons.2 (.inr (h.sent l hl hs))
  · rw [hmap] at hl
    obtain ⟨other, hframe, hdone⟩ := h.confirmed l hl hconf
    exact ⟨other, hframe, mem_comparedSnapshots_cons.2 (.inr hdone)⟩
  · rw [hlocal] at hm
    -- the snapshot for a frame that waits is the one that came first
    have hold : other ∈ receivedSnapshots log := by
      rcases mem_receivedSnapshots_cons.1 hother with hnow | hold
      · have hin := hnow
        rw [hact] at hnow
        obtain rfl := List.mem_singleton.1 hnow
        have hisnone : (e.pre.snapshotMap.find? other.frameIdx).isNone = true := by rw [hfind]; rfl
        rcases (hone other hin).2 hisnone with hnone | hagain
        · rw [hm] at hnone
          cases hnone
        · exact hagain
      · exact hold
    refine (h.received other hold m hm).imp (fun hdone => ?_) fun hwaits => ⟨?_, ?_, ?_⟩
    · exact mem_comparedSnapshots_cons.2 (.inr hdone)
    · rw [← hpost]
      exact OrderedMap.mem_emplace_of_mem hwaits.pending
    · rw [hmap]
      exact hwaits.unconfirmed
    · rw [exchangedAt_cons, hact]
      rintro (⟨hex, -⟩ | hex)
      · cases hex
      · exact hwaits.early hex

/-! ## The exchange -/

/-- A snapshot that is due is sent, if it can be. -/
lemma mem_sent_pass {poll : Poll} (hen : poll.snapshotsEnabled = true) {l : LocalSnapshot}
    (hl : l ∈ c.snapshotMap) (hage : snapshotAgeFrames ≤ c.frameIdx - l.snapshot.frameIdx)
    (hsent : l.sent = false) (hok : poll.sendOk (.snapshot l.snapshot) = true) :
    Message.snapshot l.snapshot ∈ (c.pass poll).1.sent := by
  have hmem : Message.snapshot l.snapshot ∈
      (c.pass poll).1.sent.filter (Message.isSnapshotOf l.snapshot.frameIdx) := by
    rw [sent_pass hen]
    refine List.mem_filter.2 ⟨List.mem_filter.2 ⟨List.mem_map.2 ⟨l, ?_, rfl⟩, hok⟩, ?_⟩
    · exact List.mem_filter.2 ⟨hl, by simpa using ⟨hage, hsent⟩⟩
    · simp [Message.isSnapshotOf]
  exact (List.mem_filter.1 hmem).1

/-- Who is sent is due. -/
lemma exists_due_of_sent {poll : Poll} (hen : poll.snapshotsEnabled = true) {k : ℤ}
    (h : 0 < (c.pass poll).1.sent.countP (Message.isSnapshotOf k)) :
    ∃ l ∈ c.snapshotMap, l.snapshot.frameIdx = k ∧ l.sent = false ∧
      snapshotAgeFrames ≤ c.frameIdx - k := by
  rw [List.countP_eq_length_filter, sent_pass hen] at h
  obtain ⟨m, hm⟩ := List.exists_mem_of_length_pos h
  obtain ⟨hm, hk⟩ := List.mem_filter.1 hm
  obtain ⟨l, hl, rfl⟩ := List.mem_map.1 (List.mem_filter.1 hm).1
  obtain ⟨hl, hdue⟩ := List.mem_filter.1 hl
  have hframe : l.snapshot.frameIdx = k := by simpa [Message.isSnapshotOf] using hk
  obtain ⟨hage, hsent⟩ : snapshotAgeFrames ≤ c.frameIdx - l.snapshot.frameIdx ∧
      l.sent = false := by simpa using hdue
  exact ⟨l, hl, hframe, hsent, hframe ▸ hage⟩

/-- The map has one snapshot of a frame, so that an exchange sends one at most. -/
lemma countP_sent_pass_le {poll : Poll} (hen : poll.snapshotsEnabled = true) (k : ℤ) :
    (c.pass poll).1.sent.countP (Message.isSnapshotOf k) ≤ 1 := by
  rw [List.countP_eq_length_filter, sent_pass hen, ← List.countP_eq_length_filter]
  have hmap : ∀ ls : List LocalSnapshot,
      (ls.map fun l => Message.snapshot l.snapshot).countP (Message.isSnapshotOf k) =
        ls.countP fun l => l.snapshot.frameIdx == k := by
    intro ls
    rw [List.countP_map]
    rfl
  calc (((c.snapshotMap.entries.filter _).map _).filter poll.sendOk).countP _
      ≤ ((c.snapshotMap.entries.filter _).map _).countP (Message.isSnapshotOf k) :=
        (List.filter_sublist).countP_le
    _ = (c.snapshotMap.entries.filter _).countP fun l => l.snapshot.frameIdx == k := hmap _
    _ ≤ c.snapshotMap.entries.countP fun l => l.snapshot.frameIdx == k :=
        (List.filter_sublist).countP_le
    _ = (c.snapshotMap.find? k).toList.length := by
        rw [List.countP_eq_length_filter, c.snapshotMap.filter_key_eq]
    _ ≤ 1 := Option.length_toList_le

/-- **Step lemma.** An exchange that sends what is due keeps the invariant. -/
lemma Exchanging.of_pass {poll : Poll} (h : Exchanging log e.pre) (hact : e.act = .pass poll)
    (hen : poll.snapshotsEnabled = true) (hstep : e.pre.pass poll = (e.out, e.post))
    (hsends : SendsDue e) : Exchanging (e :: log) e.post := by
  have hidx := h.noWrap.frameIdx_eq
  have hsame := exchanged_pass e.pre poll
  have hmem : ∀ l', l' ∈ e.post.snapshotMap ↔ ∃ l ∈ e.pre.snapshotMap,
      reconcileSnapshot e.pre.pendingRemoteSnapshots e.pre.frameIdx l = some l' := by
    intro l'
    rw [← mem_snapshotMap_pass hen, hstep]
  have hout : e.out = (e.pre.pass poll).1 := by rw [hstep]
  rw [hstep] at hsame
  have hlocal : e.post.localSnapshot = e.pre.localSnapshot := by
    funext f
    rw [localSnapshot, localSnapshot, hsame.timeline, hsame.battle]
  -- what stays is the same snapshot, with the same second mark
  have hstays : ∀ l' ∈ e.post.snapshotMap, ∃ l ∈ e.pre.snapshotMap,
      l'.snapshot = l.snapshot ∧ l'.confirmed = l.confirmed ∧
        (l' = l ∨ snapshotAgeFrames ≤ e.pre.frameIdx - l.snapshot.frameIdx ∧
          l'.sent = true) := by
    intro l' hl'
    obtain ⟨l, hl, heq⟩ := (hmem l').1 hl'
    refine ⟨l, hl, ?_⟩
    rcases reconcileSnapshot_cases e.pre.pendingRemoteSnapshots e.pre.frameIdx l with
      ⟨-, h⟩ | ⟨-, -, h⟩ | ⟨hage, -, -, h⟩
    all_goals rw [heq] at h
    · obtain rfl := Option.some.inj h
      exact ⟨rfl, rfl, .inl rfl⟩
    · cases h
    · obtain rfl := Option.some.inj h
      exact ⟨rfl, rfl, .inr ⟨hage, rfl⟩⟩
  refine ⟨?_, ?_, fun l' hl' => ?_, fun f => ?_, fun f hpos => ?_, fun l' hl' hs => ?_,
    fun l' hl' hconf => ?_, fun other hother m hm => ?_⟩
  · show e.post.timeline.length < 2 ^ 15
    rw [hsame.timeline]
    exact h.noWrap
  · rw [hsame.timeline]
    exact List.forall_mem_cons.2 ⟨le_rfl, h.ages⟩
  · obtain ⟨l, hl, hsnap, -⟩ := hstays l' hl'
    rw [hlocal, hsnap]
    exact h.current l hl
  · rw [snapshotsSent_cons, hout]
    have hle := countP_sent_pass_le (c := e.pre) hen f
    rcases Nat.eq_zero_or_pos (snapshotsSent f log) with hzero | hpos
    · omega
    · -- the snapshot has been sent, and is marked
      obtain ⟨-, hmark⟩ := h.aged f hpos
      have hnone : (e.pre.pass poll).1.sent.countP (Message.isSnapshotOf f) = 0 := by
        refine Nat.eq_zero_of_not_pos fun hnow => ?_
        obtain ⟨l, hl, hframe, hnot, -⟩ := exists_due_of_sent hen hnow
        rw [hmark l hl hframe] at hnot
        cases hnot
      have honce := h.once f
      omega
  · rw [hsame.timeline]
    rw [snapshotsSent_cons, hout] at hpos
    rcases Nat.eq_zero_or_pos (snapshotsSent f log) with hzero | hbefore
    · obtain ⟨-, -, -, -, hage⟩ := exists_due_of_sent hen (k := f) (c := e.pre) (by omega)
      refine ⟨by omega, fun l' hl' hf => ?_⟩
      obtain ⟨l, hl, heq⟩ := (hmem l').1 hl'
      obtain ⟨_, -, hsnap, -, rfl | ⟨-, hs⟩⟩ := hstays l' hl'
      · rcases reconcileSnapshot_cases e.pre.pendingRemoteSnapshots e.pre.frameIdx l with
          ⟨hyoung, h⟩ | ⟨-, -, h⟩ | ⟨-, -, -, h⟩
        all_goals rw [heq] at h
        · obtain rfl := Option.some.inj h
          omega
        · cases h
        · rw [Option.some.inj h]
      · exact hs
    · obtain ⟨hold, hmark⟩ := h.aged f hbefore
      refine ⟨hold, fun l' hl' hf => ?_⟩
      obtain ⟨l, hl, hsnap, -, rfl | ⟨-, hs⟩⟩ := hstays l' hl'
      · exact hmark l' hl hf
      · exact hs
  · obtain ⟨l, hl, hsnap, -, hcase⟩ := hstays l' hl'
    rw [mem_sentMessages_cons, hsnap]
    cases hbefore : l.sent with
    | true => exact .inr (h.sent l hl hbefore)
    | false =>
      rcases hcase with rfl | ⟨hage, -⟩
      · rw [hbefore] at hs
        cases hs
      · have hok : poll.sendOk (.snapshot l.snapshot) = true := by
          simp only [SendsDue, hact] at hsends
          exact hsends hen l hl hage hbefore
        rw [hout]
        exact .inl (mem_sent_pass hen hl hage hbefore hok)
  · obtain ⟨l, hl, hsnap, hmark, -⟩ := hstays l' hl'
    rw [hmark] at hconf
    obtain ⟨other, hframe, hdone⟩ := h.confirmed l hl hconf
    rw [hsnap]
    exact ⟨other, hframe, mem_comparedSnapshots_cons.2 (.inr hdone)⟩
  · rw [hlocal] at hm
    have hold := (mem_receivedSnapshots_of_none (by rw [hact]; rfl)).1 hother
    rw [mem_comparedSnapshots_cons]
    rcases h.received other hold m hm with hdone | hwaits
    · exact .inl (.inr hdone)
    · obtain ⟨l, hl, hframe, hconf⟩ := hwaits.unconfirmed
      by_cases hage : snapshotAgeFrames ≤ e.pre.frameIdx - l.snapshot.frameIdx
      · -- it has waited for this
        have hfind : e.pre.pendingRemoteSnapshots.find? l.snapshot.frameIdx = some other :=
          OrderedMap.find?_eq_some_iff.2 ⟨hwaits.pending, hframe.symm⟩
        rw [← hframe, h.current l hl] at hm
        rw [hout, ← Option.some.inj hm]
        exact .inl (.inl (mem_comparisons_pass hen hl hage hconf hfind))
      · have hstay : l ∈ e.post.snapshotMap := by
          refine (hmem l).2 ⟨l, hl, ?_⟩
          rw [reconcileSnapshot, if_pos (not_le.1 hage)]
        refine .inr ⟨?_, ⟨l, hstay, hframe, hconf⟩, ?_⟩
        · rw [hsame.pendingRemoteSnapshots]
          exact hwaits.pending
        · rw [exchangedAt_cons]
          rintro (⟨-, hlate⟩ | hex)
          · omega
          · exact hwaits.early hex

/-! ## The steps of a battle -/

/-- What a step of a battle does to the tables of snapshots. -/
inductive BattleStep (e : ClientEntry I) : Prop
  /-- Frames are captured, or nothing happens to the tables. -/
  | captures (n : ℕ) (hcap : Recaptures n e.post.timeline.length e.pre e.post)
      (hn : e.pre.timeline.length ≤ n + maxPredictionFrames)
      (hlen : e.pre.timeline.length ≤ e.post.timeline.length)
      (hsent : e.out.sent = []) (hcmp : e.out.snapshotComparisons = [])
      (hrecv : e.act.receivedSnapshots = []) (hex : e.act.exchanges = false)
  /-- A snapshot is received. -/
  | receives (remote : StateSnapshot) (hact : e.act = .receive (.snapshot remote))
      (hstep : e.pre.onSnapshot remote = (e.out, e.post))
  /-- The snapshots are exchanged. -/
  | exchanges (poll : Poll) (hact : e.act = .pass poll) (hen : poll.snapshotsEnabled = true)
      (hstep : e.pre.pass poll = (e.out, e.post))

/-- **Inversion.** -/
lemma battleStep_of_steps (hs : (clientLTS I).Steps e) (hact : e.act.ofBattle = true)
    (hwrap : e.pre.NoWrap) (hwrap' : e.post.NoWrap) : BattleStep e := by
  obtain ⟨pre, act, out, post⟩ := e
  have hnext : next pre act = some (out, post) := hs
  cases act with
  | battleUpdate frame resim =>
    obtain ⟨c₁, hup, heq⟩ := Option.map_eq_some_iff.1 hnext
    obtain ⟨rfl, rfl⟩ := Prod.mk.inj heq
    obtain ⟨n, hn, -, hcap⟩ := Recaptures.of_battleUpdate hwrap' hup
    have hlen := length_battleUpdate hup
    exact .captures n hcap hn (by dsimp only; omega) rfl rfl rfl rfl
  | idle resim =>
    obtain ⟨c₁, hroll, heq⟩ := Option.map_eq_some_iff.1 hnext
    obtain ⟨rfl, rfl⟩ := Prod.mk.inj heq
    obtain ⟨n, hn, -, hcap⟩ := Recaptures.of_rollback hwrap hroll
    exact .captures n hcap hn (length_rollback hroll).ge rfl rfl rfl rfl
  | receive msg =>
    have heq : pre.onMessage msg = (out, post) := Option.some.inj hnext
    cases msg with
    | snapshot remote => exact .receives remote rfl heq
    | hash remote =>
      obtain ⟨rfl, rfl⟩ := Prod.mk.inj heq
      have hcap : Recaptures pre.timeline.length pre.timeline.length pre (pre.onHash remote).2 :=
        .of_same rfl rfl rfl rfl
      exact .captures pre.timeline.length hcap (Nat.le_add_right _ _) le_rfl rfl rfl rfl rfl
  | pass poll =>
    have heq : pre.pass poll = (out, post) := Option.some.inj hnext
    cases hen : poll.snapshotsEnabled with
    | true => exact .exchanges poll rfl hen heq
    | false =>
      rw [pass_of_disabled pre hen] at heq
      obtain ⟨rfl, rfl⟩ := Prod.mk.inj heq
      have hcap : Recaptures pre.timeline.length pre.timeline.length pre pre :=
        .of_same rfl rfl rfl rfl
      exact .captures pre.timeline.length hcap (Nat.le_add_right _ _) le_rfl rfl rfl rfl hen
  | engineUpdate | clearBattleState | startMatch | startBattle => cases hact

/-- **Step lemma.** A plain step of a battle keeps the invariant. -/
lemma Exchanging.next (h : Exchanging log e.pre) (hs : (clientLTS I).Steps e)
    (hact : e.act.ofBattle = true) (hplain : PlainStep log e) :
    Exchanging (e :: log) e.post := by
  have htime : e.post.timeline = e.act.framesAfter e.pre := timeline_next hact hs
  have hwrap : e.post.NoWrap := by
    show e.post.timeline.length < 2 ^ 15
    rw [htime]
    exact hplain.noWrap
  cases battleStep_of_steps hs hact h.noWrap hwrap with
  | captures n hcap hn hlen hsent hcmp hrecv hex =>
    refine h.of_recaptures hcap hn hlen hwrap hsent hcmp hrecv hex fun remote hremote => ?_
    rw [localSnapshot, htime, hcap.battle]
    exact hplain.captures remote hremote
  | receives remote hact hstep =>
    cases hfind : e.pre.snapshotMap.find? remote.frameIdx with
    | some l => exact h.of_compared hact hstep hfind hplain.receives
    | none => exact h.of_waiting hact hstep hfind hplain.receives
  | exchanges poll hact hen hstep => exact h.of_pass hact hen hstep hplain.sends

/-- **Step lemma.** What a plain step drops has been sent and compared. -/
lemma Exchanging.dropped (h : Exchanging log e.pre) (hstep : BattleStep e) (hsends : SendsDue e)
    {l : LocalSnapshot} (hl : l ∈ e.pre.snapshotMap)
    (hgone : ∀ l' ∈ e.post.snapshotMap, l'.snapshot.frameIdx ≠ l.snapshot.frameIdx) :
    Message.snapshot l.snapshot ∈ sentMessages (e :: log) ∧
      ∃ remote : StateSnapshot, remote.frameIdx = l.snapshot.frameIdx ∧
        ⟨remote, l.snapshot⟩ ∈ comparedSnapshots (e :: log) := by
  rw [mem_sentMessages_cons]
  simp only [mem_comparedSnapshots_cons]
  cases hstep with
  | captures n hcap hn hlen hsent hcmp hrecv hex =>
    obtain ⟨l', hl', hframe, -⟩ := hcap.exists_mem h.current hlen hl
    exact absurd hframe (hgone l' hl')
  | receives remote hact hstep =>
    cases hfind : e.pre.snapshotMap.find? remote.frameIdx with
    | none =>
      rw [onSnapshot_none hfind] at hstep
      obtain ⟨-, hpost⟩ := Prod.mk.inj hstep
      have hmap : e.post.snapshotMap = e.pre.snapshotMap := by rw [← hpost]
      rw [hmap] at hgone
      exact absurd rfl (hgone l hl)
    | some l₀ =>
      have hmem : ∀ l', l' ∈ e.post.snapshotMap ↔
          (l' ∈ e.pre.snapshotMap ∧ l'.snapshot.frameIdx ≠ remote.frameIdx) ∨
            (l₀.sent = false ∧ l' = { l₀ with confirmed := true }) := by
        intro l'
        rw [← mem_snapshotMap_onSnapshot hfind, hstep]
      obtain ⟨hl₀, hframe⟩ := OrderedMap.find?_eq_some_iff.1 hfind
      -- the snapshot is the one that is compared, and it has been sent
      have hsame : l.snapshot.frameIdx = remote.frameIdx := by
        by_contra hne
        exact hgone l ((hmem l).2 (.inl ⟨hl, hne⟩)) rfl
      obtain rfl : l₀ = l := OrderedMap.eq_of_key_eq hl₀ hl (hframe.trans hsame.symm)
      cases hsent : l₀.sent with
      | false =>
        have hstay := (hmem { l₀ with confirmed := true }).2 (.inr ⟨hsent, rfl⟩)
        exact (hgone _ hstay rfl).elim
      | true =>
        rw [onSnapshot_some hfind] at hstep
        obtain ⟨hout, -⟩ := Prod.mk.inj hstep
        refine ⟨.inr (h.sent l₀ hl hsent), remote, hsame.symm, .inl ?_⟩
        rw [← hout]
        exact List.mem_singleton.2 rfl
  | exchanges poll hact hen hstep =>
    have hmem : ∀ l', l' ∈ e.post.snapshotMap ↔ ∃ l ∈ e.pre.snapshotMap,
        reconcileSnapshot e.pre.pendingRemoteSnapshots e.pre.frameIdx l = some l' := by
      intro l'
      rw [← mem_snapshotMap_pass hen, hstep]
    have hnone : ∀ l', reconcileSnapshot e.pre.pendingRemoteSnapshots e.pre.frameIdx l ≠
        some l' := fun l' heq =>
      hgone l' ((hmem l').2 ⟨l, hl, heq⟩) (frameIdx_reconcileSnapshot _ _ l l' heq)
    have hout : e.out = (e.pre.pass poll).1 := by rw [hstep]
    rcases reconcileSnapshot_cases e.pre.pendingRemoteSnapshots e.pre.frameIdx l with
      ⟨-, heq⟩ | ⟨hage, hdone, -⟩ | ⟨-, -, -, heq⟩
    · exact absurd heq (hnone _)
    · constructor
      · cases hsent : l.sent with
        | true => exact .inr (h.sent l hl hsent)
        | false =>
          simp only [SendsDue, hact] at hsends
          rw [hout]
          exact .inl (mem_sent_pass hen hl hage hsent (hsends hen l hl hage hsent))
      · cases hconf : l.confirmed with
        | true =>
          obtain ⟨remote, hframe, hcmp⟩ := h.confirmed l hl hconf
          exact ⟨remote, hframe, .inr hcmp⟩
        | false =>
          rw [hconf] at hdone
          obtain ⟨remote, hfind⟩ := Option.isSome_iff_exists.1 (hdone.resolve_left (by simp))
          rw [hout]
          exact ⟨remote, (OrderedMap.find?_eq_some_iff.1 hfind).2,
            .inl (mem_comparisons_pass hen hl hage hconf hfind)⟩
    · exact absurd heq (hnone _)

end

/-! ## Runs -/

/-- **Run lemma.** A difference that has been found ends the fight. -/
lemma leaving_of_compared {c : Client I} {log : List (ClientEntry I)}
    (h : (clientLTS I).Run log c) :
    ∀ cmp ∈ comparedSnapshots log, cmp.Differs → c.leaving = true := by
  refine h.invariant_of_step
    (fun log c => ∀ cmp ∈ comparedSnapshots log, cmp.Differs → c.leaving = true) ?_ ?_
  · intro c _ cmp hcmp
    cases hcmp
  · intro log e ih hs cmp hcmp hdiff
    rw [leaving_of_next hs, Bool.or_eq_true]
    rcases mem_comparedSnapshots_cons.1 hcmp with hnow | hbefore
    · refine .inr ?_
      rw [Out.ends, Bool.or_eq_true]
      exact .inl (List.any_eq_true.2 ⟨cmp, hnow, decide_eq_true hdiff⟩)
    · exact .inl (ih cmp hbefore hdiff)

/-- **Run lemma.** A battle with plain steps keeps the invariant. -/
lemma exchanging_of_run {c : Client I} {log : List (ClientEntry I)}
    (h : (clientLTS I).Run log c) (hact : ∀ e ∈ log, e.act.ofBattle = true)
    (hplain : Plain log) : Exchanging log c := by
  refine h.invariant_of_step (fun log c => (∀ e ∈ log, e.act.ofBattle = true) → Plain log →
    Exchanging log c) ?_ ?_ hact hplain
  · rintro c ⟨k, rfl⟩ - -
    exact exchanging_start k
  · intro log e ih hs hact hplain
    obtain ⟨hnow, hbefore⟩ := List.forall_mem_cons.1 hact
    exact (ih hbefore hplain.2).next hs hnow hplain.1

/-- **The snapshots are exchanged well** in a battle with plain steps: the snapshot of a frame is
sent once at most, it is dropped after it has been sent and compared, and what is received of a
frame is compared with it, so that every difference is found. -/
theorem exchangesWell_of_plain {c : Client I} {log : List (ClientEntry I)}
    (h : (clientLTS I).Run log c) (hact : ∀ e ∈ log, e.act.ofBattle = true)
    (hplain : Plain log) : ExchangesWell log c := by
  have hinv := exchanging_of_run h hact hplain
  have hcompared : ∀ remote ∈ receivedSnapshots log, ∀ m,
      c.localSnapshot remote.frameIdx = some m → ExchangedAt remote.frameIdx log →
        (⟨remote, m⟩ : SnapshotComparison) ∈ comparedSnapshots log := by
    intro remote hremote m hm hex
    rcases hinv.received remote hremote m hm with hdone | hwaits
    · exact hdone
    · exact absurd hex hwaits.early
  refine ⟨hinv.once, ?_, hcompared, fun remote hremote m hm hex hne => ?_⟩
  · rintro newer e older rfl l hl hgone
    obtain ⟨hrun, hs, -⟩ := h.at_entry
    obtain ⟨hnow, hbefore⟩ := List.forall_mem_cons.1 fun e' he' =>
      hact e' (List.mem_append_right newer he')
    obtain ⟨hstep, hold⟩ := hplain.of_append
    have hpre := exchanging_of_run hrun hbefore hold
    have hpost := hpre.next hs hnow hstep
    exact hpre.dropped (battleStep_of_steps hs hnow hpre.noWrap hpost.noWrap) hstep.sends hl hgone
  · exact leaving_of_compared h ⟨remote, m⟩ (hcompared remote hremote m hm hex) (.inr hne)

/-- A list of actions that a client can carry out at the beginning of a match, and whose log
passes a test. -/
lemma exists_battle_of_exec (acts : List (Action I))
    {p : List (ClientEntry I) → Client I → Prop} [∀ log c, Decidable (p log c)]
    (h : (LTS.exec next (Client.start 1) [] acts).any (fun r => decide (p r.1 r.2)) = true) :
    ∃ log c, (clientLTS I).Run log c ∧ p log c := by
  obtain ⟨log, c, hpath, hp⟩ := LTS.exists_path_of_exec acts h
  exact ⟨log, c, ⟨_, ⟨1, rfl⟩, hpath⟩, hp⟩

/-- The opponent's snapshot of frame 60 is received before there is a local one.  The frame is
captured, rolled back and captured again, and the two are compared sixty frames later. -/
theorem exchangesWell_of_plain_early :
    ∃ (log : List (ClientEntry Unit)) (c : Client Unit), (clientLTS Unit).Run log c ∧
      ⟨⟨60, [], 2⟩, ⟨60, [], 1⟩⟩ ∈ comparedSnapshots log ∧ ExchangesWell log c := by
  obtain ⟨log, c, hrun, hact, hplain, hcmp⟩ := exists_battle_of_exec
    ([.receive (.snapshot ⟨60, [], 2⟩)] ++ accept 60 ++
      [.idle [⟨(), {}, [7]⟩, ⟨(), {}, []⟩]] ++ accept 60 ++ [.pass {}])
    (p := fun log _ => (∀ e ∈ log, e.act.ofBattle = true) ∧ Plain log ∧
      ⟨⟨60, [], 2⟩, ⟨60, [], 1⟩⟩ ∈ comparedSnapshots log) (by decide +kernel)
  exact ⟨log, c, hrun, hcmp, exchangesWell_of_plain hrun hact hplain⟩

/-- **The second snapshot of a frame is not compared.** A client compares the snapshot of its
opponent when it receives it, sends its own and drops it.  The one of a spectator, which differs,
comes later and waits for ever. -/
theorem not_exchangesWell_second :
    ¬ ∀ (log : List (ClientEntry Unit)) (c : Client Unit), (clientLTS Unit).Run log c →
      (∀ e ∈ log, e.act.ofBattle = true) → ExchangesWell log c := by
  intro h
  obtain ⟨log, c, hrun, hact, hremote, hlocal, hex, hstays⟩ := exists_battle_of_exec
    (accept 60 ++ [.receive (.snapshot ⟨60, [], 2⟩)] ++ accept 60 ++
      [.pass {}, .receive (.snapshot ⟨60, [7], 3⟩), .pass {}])
    (p := fun log c => (∀ e ∈ log, e.act.ofBattle = true) ∧
      (⟨60, [7], 3⟩ : StateSnapshot) ∈ receivedSnapshots log ∧
      c.localSnapshot 60 = some ⟨60, [], 1⟩ ∧ ExchangedAt 60 log ∧ c.leaving = false)
    (by decide +kernel)
  have hends := (h log c hrun hact).detected _ hremote _ hlocal hex (by decide)
  rw [hstays] at hends
  cases hends

end Desync
end Sf4e
