/-
# Matches that follow one another

The frame numbers begin at zero in every match, and a client clears its tables only when it
starts a match from the lobby or its battle ends.  A message that was captured in the last match
therefore fits the tables of the next.

The server announces the matches and passes verification messages on, each to every other
member, over reliable ordered channels.  The announcement of a match and the messages of the
match come to a client in the order in which the server sent them, so that every message that
is passed on before the next announcement finds the tables of its own match
(`sameMatch_of_timely`).  Nothing keeps a spectator that lags behind from sending later
(`not_sameMatch_spectator`).
-/
import Sf4e.Desync.Backlog

namespace Sf4e
namespace Desync

open HashRing Trace Client

variable {ι I : Type}

/-! ## The lobby -/

/-- The match that a message was captured in. -/
def Message.capturedIn : Message → ℕ
  | .snapshot m => m.capturedIn
  | .hash m => m.capturedIn

/-- What the server sends to a client. -/
inductive Broadcast
  /-- `MT_LOBBY_ALLREADY`, the start of the match with this number. -/
  | allReady (k : ℕ)
  /-- A verification message of another client, as it is. -/
  | verification (m : Message)
deriving DecidableEq, Repr

/-- The server, the clients and the channels between them. -/
structure Lobby (ι I : Type) where
  /-- The number of matches that were announced. -/
  announced : ℕ
  members : List ι
  clients : ι → Client I
  /-- The verification messages on their way to the server, oldest first. -/
  toServer : ι → List Message
  /-- The messages on their way to a client, oldest first. -/
  toClient : ι → List Broadcast

/-- What happens in the lobby. -/
inductive LobbyAction (ι I : Type)
  /-- All players are ready, and the server starts a match. -/
  | announce
  /-- The server passes a message of this client on. -/
  | relay (i : ι)
  /-- A client takes its next message. -/
  | deliver (i : ι)
  | join (i : ι)
  | leave (i : ι)
  /-- A client does something on its own. -/
  | client (i : ι) (act : Action I)

/-- The frames of the step are captured. -/
def Action.captures : Action I → Bool
  | .battleUpdate _ _ => true
  | .idle _ => true
  | _ => false

/-- The step is a client's own: it neither takes a message nor starts a match. -/
def Action.own : Action I → Bool
  | .receive _ => false
  | .startMatch _ => false
  | _ => true

namespace Lobby

variable [DecidableEq ι]

/-- Send to the members that pass a test. -/
def broadcast (s : Lobby ι I) (p : ι → Bool) (msg : Broadcast) : ι → List Broadcast :=
  fun j => if j ∈ s.members ∧ p j = true then s.toClient j ++ [msg] else s.toClient j

/-- One step of the lobby; `none` when it cannot be taken.  A client has a GGPO session, and
captures, only in the battle of a match. -/
def next (s : Lobby ι I) : LobbyAction ι I → Option (Out × Lobby ι I)
  | .announce =>
    some ({},
      { s with
        announced := s.announced + 1
        toClient := s.broadcast (fun _ => true) (.allReady (s.announced + 1)) })
  | .relay i =>
    match s.toServer i with
    | [] => none
    | m :: rest =>
      some ({},
        { s with
          toServer := Function.update s.toServer i rest
          toClient := s.broadcast (fun j => j ≠ i) (.verification m) })
  | .deliver i =>
    match s.toClient i with
    | [] => none
    | msg :: rest =>
      let r := match msg with
        | .allReady k => (s.clients i).startMatch k
        | .verification m => (s.clients i).onMessage m
      some (r.1,
        { s with
          clients := Function.update s.clients i r.2
          toClient := Function.update s.toClient i rest })
  | .join i =>
    if (s.clients i).startedMatch = 0 ∧ s.toClient i = [] then
      some ({}, { s with members := i :: s.members })
    else none
  | .leave i => some ({}, { s with members := s.members.filter fun j => j ≠ i })
  | .client i act =>
    if act.own = true ∧ (act.captures = true → (s.clients i).battle ≠ 0) then
      (Desync.next (s.clients i) act).map fun r =>
        (r.1,
          { s with
            clients := Function.update s.clients i r.2
            toServer := Function.update s.toServer i (s.toServer i ++ r.1.sent) })
    else none

end Lobby

/-- The runs of a lobby that is opened without a member. -/
def lobbyLTS (ι I : Type) [DecidableEq ι] : LTS (Lobby ι I) (LobbyAction ι I) Out :=
  .ofFun (fun s => s = ⟨0, [], fun _ => Client.start 0, fun _ => [], fun _ => []⟩) Lobby.next

/-- One step of the lobby. -/
abbrev LobbyEntry (ι I : Type) := Entry (Lobby ι I) (LobbyAction ι I) Out

/-! ## What is required -/

/-- Everything that a step compares was captured in one match. -/
structure SameMatch (o : Out) : Prop where
  hashes : ∀ cmp ∈ o.hashComparisons, cmp.checkpointMatch = cmp.remote.capturedIn
  snapshots : ∀ cmp ∈ o.snapshotComparisons,
    cmp.localSnapshot.capturedIn = cmp.remote.capturedIn

instance (o : Out) : Decidable (SameMatch o) :=
  decidable_of_iff ((∀ cmp ∈ o.hashComparisons, cmp.checkpointMatch = cmp.remote.capturedIn) ∧
    ∀ cmp ∈ o.snapshotComparisons, cmp.localSnapshot.capturedIn = cmp.remote.capturedIn)
    ⟨fun h => ⟨h.1, h.2⟩, fun h => ⟨h.hashes, h.snapshots⟩⟩

/-- Nobody is late: the server passes on only messages of the match that it announced last, and
a client captures only frames of the match that it started last. -/
def Timely (e : LobbyEntry ι I) : Prop :=
  match e.act with
  | .relay i => ∀ m ∈ (e.pre.toServer i).head?, m.capturedIn = e.pre.announced
  | .client i act =>
    act.captures = true → (e.pre.clients i).battle = (e.pre.clients i).startedMatch
  | _ => True

/-! ## The tables of one match -/

/-- What a client keeps belongs to the match that it started last.  Before its first match it
keeps nothing of its own. -/
structure OneMatch (c : Client I) : Prop where
  snapshots : ∀ l ∈ c.snapshotMap,
    c.startedMatch ≠ 0 ∧ l.snapshot.capturedIn = c.startedMatch
  checkpoints : ∀ i, (c.hashCheckpoints i).valid = true →
    c.startedMatch ≠ 0 ∧ c.checkpointMatch (c.hashCheckpoints i).frameIdx = c.startedMatch
  pendingSnapshots : c.startedMatch ≠ 0 →
    ∀ m ∈ c.pendingRemoteSnapshots, m.capturedIn = c.startedMatch
  pendingHashes : c.startedMatch ≠ 0 →
    ∀ m ∈ c.pendingRemoteHashes, m.capturedIn = c.startedMatch

/-- Empty tables belong to any match. -/
lemma oneMatch_of_clear {c : Client I} (hs : c.snapshotMap = .empty)
    (hr : c.hashCheckpoints = clearHashCheckpoints) (hps : c.pendingRemoteSnapshots = .empty)
    (hph : c.pendingRemoteHashes = .empty) : OneMatch c := by
  refine ⟨fun l hl => ?_, fun i hi => ?_, fun _ m hm => ?_, fun _ m hm => ?_⟩
  · rw [hs] at hl
    exact absurd hl (OrderedMap.not_mem_empty l)
  · rw [hr] at hi
    exact absurd hi (by simp [clearHashCheckpoints])
  · rw [hps] at hm
    exact absurd hm (OrderedMap.not_mem_empty m)
  · rw [hph] at hm
    exact absurd hm (OrderedMap.not_mem_empty m)

/-- What the end of a `SessionClient::Step` compares belongs to one match. -/
lemma OneMatch.sameMatch {c : Client I} (h : OneMatch c) {f : ℤ} {o : Out}
    (htraced : Traced c f o) : SameMatch o := by
  constructor
  · intro cmp hcmp
    obtain ⟨i, hdue, -, hmatch, hmem, -⟩ := htraced.hashCompared cmp hcmp
    obtain ⟨hne, hown⟩ := h.checkpoints i hdue.1
    rw [hmatch, hown, h.pendingHashes hne _ hmem]
  · intro cmp hcmp
    obtain ⟨hmem, l, hl, heq⟩ := htraced.snapshotCompared cmp hcmp
    obtain ⟨hne, hown⟩ := h.snapshots l hl
    rw [← heq, hown, h.pendingSnapshots hne _ hmem]

lemma OneMatch.of_exchanged {c c' : Client I} (h : OneMatch c) (hex : Exchanged c c') :
    OneMatch c' := by
  refine ⟨fun l' hl' => ?_, fun i hi => ?_, fun hne m hm => ?_, fun hne m hm => ?_⟩
  · obtain ⟨l, hl, heq⟩ := hex.snapshots l' hl'
    rw [hex.startedMatch, heq]
    exact h.snapshots l hl
  · obtain ⟨b, hb⟩ := hex.ring i
    rw [hb] at hi ⊢
    rw [hex.startedMatch, hex.checkpointMatch]
    exact h.checkpoints i hi
  · rw [hex.startedMatch] at hne ⊢
    rw [hex.pendingRemoteSnapshots] at hm
    exact h.pendingSnapshots hne m hm
  · rw [hex.startedMatch] at hne ⊢
    exact h.pendingHashes hne m (hex.hashes m hm)

/-- A snapshot that is captured belongs to the battle. -/
lemma mem_captureSnapshot {c : Client I} {frame : Frame I} {l : LocalSnapshot}
    (h : l ∈ (c.captureSnapshot frame).snapshotMap) :
    l ∈ c.snapshotMap ∨ l.snapshot.capturedIn = c.battle := by
  unfold captureSnapshot at h
  split at h
  · exact Or.inl h
  · rcases OrderedMap.mem_of_mem_emplace h with rfl | h
    · exact Or.inr rfl
    · exact Or.inl (OrderedMap.mem_erase_iff.1 h).1

lemma startedMatch_capture {c c' : Client I} (h : c.capture = some c') :
    c'.startedMatch = c.startedMatch := by
  rcases capture_eq h with ⟨-, rfl⟩ | ⟨frame, _, _, -, -, rfl⟩
  · rfl
  · obtain ⟨_, hm⟩ := captureSnapshot_eq c frame
    rw [hm]

/-- The client is in the battle of the match that it started last. -/
def InMatch (c : Client I) : Prop := c.battle = c.startedMatch ∧ c.startedMatch ≠ 0

/-- A capture in the battle of the match keeps the tables in one match. -/
lemma OneMatch.capture {c c' : Client I} (hcap : c.capture = some c')
    (h : OneMatch c ∧ InMatch c) : OneMatch c' ∧ InMatch c' := by
  obtain ⟨h, hbattle, hne⟩ := h
  have hslot := slot_capture hcap
  rcases capture_eq hcap with ⟨-, rfl⟩ | ⟨frame, older, ring, -, -, rfl⟩
  · exact ⟨h, hbattle, hne⟩
  obtain ⟨snapshotMap, hmap⟩ := captureSnapshot_eq c frame
  have hmem (l : LocalSnapshot) (hl : l ∈ snapshotMap) :
      l ∈ c.snapshotMap ∨ l.snapshot.capturedIn = c.battle := by
    have hl' : l ∈ (c.captureSnapshot frame).snapshotMap := by
      rw [hmap]
      exact hl
    exact mem_captureSnapshot hl'
  rw [hmap] at hslot ⊢
  refine ⟨⟨fun l hl => ?_, fun i hi => ?_, h.pendingSnapshots, h.pendingHashes⟩, hbattle, hne⟩
  · rcases hmem l hl with hold | hnew
    · exact h.snapshots l hold
    · exact ⟨hne, hnew.trans hbattle⟩
  · refine ⟨hne, ?_⟩
    show Function.update c.checkpointMatch c.frameIdx c.battle (ring i).frameIdx = c.startedMatch
    by_cases hf : (ring i).frameIdx = c.frameIdx
    · rw [hf, Function.update_self]
      exact hbattle
    · rw [Function.update_of_ne hf]
      -- another frame's slot has not been written
      rcases hslot i with heq | ⟨_, _, -, -, -, heq⟩
      · dsimp only at heq hi
        rw [heq] at hi ⊢
        exact (h.checkpoints i hi).2
      · exact absurd (congrArg HashCheckpoint.frameIdx heq) hf

lemma OneMatch.of_tables {c c' : Client I} (h : OneMatch c) (hk : c'.startedMatch = c.startedMatch)
    (hs : c'.snapshotMap = c.snapshotMap) (hr : c'.hashCheckpoints = c.hashCheckpoints)
    (hm : c'.checkpointMatch = c.checkpointMatch)
    (hps : c'.pendingRemoteSnapshots = c.pendingRemoteSnapshots)
    (hph : c'.pendingRemoteHashes = c.pendingRemoteHashes) : OneMatch c' := by
  obtain ⟨h₁, h₂, h₃, h₄⟩ := h
  constructor
  · rwa [hk, hs]
  · rwa [hk, hr, hm]
  · rwa [hk, hps]
  · rwa [hk, hph]

/-- **Step lemma.** What a client does on its own, capturing only in the battle of the match,
keeps its tables in one match, and compares only within it. -/
lemma OneMatch.next {c c' : Client I} {act : Action I} {o : Out} (h : OneMatch c)
    (hown : act.own = true) (hcap : act.captures = true → InMatch c)
    (hnext : next c act = some (o, c')) :
    OneMatch c' ∧ c'.startedMatch = c.startedMatch ∧ SameMatch o := by
  have hquiet : SameMatch {} := ⟨by simp, by simp⟩
  cases act with
  | battleUpdate frame resim =>
    obtain ⟨c₁, hup, heq⟩ := Option.map_eq_some_iff.1 hnext
    obtain ⟨rfl, rfl⟩ := Prod.mk.inj heq
    obtain ⟨h', -⟩ := battleUpdate_preserves (p := fun x => OneMatch x ∧ InMatch x)
      (fun _ _ hx => ⟨hx.1.of_tables rfl rfl rfl rfl rfl rfl, hx.2⟩)
      (fun _ _ hx => ⟨hx.1.of_tables rfl rfl rfl rfl rfl rfl, hx.2⟩)
      (fun _ _ => OneMatch.capture) hup ⟨h, hcap rfl⟩
    have hsame := battleUpdate_preserves
      (p := fun x => x.startedMatch = c.startedMatch) (fun _ _ hx => hx) (fun _ _ hx => hx)
      (fun _ _ hx hxs => (startedMatch_capture hx).trans hxs) hup rfl
    exact ⟨h', hsame, hquiet⟩
  | idle resim =>
    obtain ⟨c₁, hroll, heq⟩ := Option.map_eq_some_iff.1 hnext
    obtain ⟨rfl, rfl⟩ := Prod.mk.inj heq
    obtain ⟨h', -⟩ := rollback_preserves (p := fun x => OneMatch x ∧ InMatch x)
      (fun _ _ hx => ⟨hx.1.of_tables rfl rfl rfl rfl rfl rfl, hx.2⟩)
      (fun _ _ hx => ⟨hx.1.of_tables rfl rfl rfl rfl rfl rfl, hx.2⟩)
      (fun _ _ => OneMatch.capture) hroll ⟨h, hcap rfl⟩
    have hsame := rollback_preserves
      (p := fun x => x.startedMatch = c.startedMatch) (fun _ _ hx => hx) (fun _ _ hx => hx)
      (fun _ _ hx hxs => (startedMatch_capture hx).trans hxs) hroll rfl
    exact ⟨h', hsame, hquiet⟩
  | pass poll =>
    have heq : c.pass poll = (o, c') := Option.some.inj hnext
    have hex := exchanged_pass c poll
    have htraced := traced_pass c poll
    rw [heq] at hex htraced
    exact ⟨h.of_exchanged hex, hex.startedMatch, h.sameMatch htraced⟩
  | clearBattleState =>
    obtain ⟨rfl, rfl⟩ := Prod.mk.inj (Option.some.inj hnext)
    exact ⟨oneMatch_of_clear rfl rfl rfl rfl, rfl, ⟨by simp, by simp⟩⟩
  | engineUpdate | startBattle =>
    obtain ⟨rfl, rfl⟩ := Prod.mk.inj (Option.some.inj hnext)
    exact ⟨h.of_tables rfl rfl rfl rfl rfl rfl, rfl, hquiet⟩
  | receive | startMatch => simp [Action.own] at hown

/-- **Step lemma.** A message of the match keeps the tables in one match, and is compared only
within it.  Before the first match, any message does. -/
lemma OneMatch.onMessage {c : Client I} {m : Message} (h : OneMatch c)
    (hm : c.startedMatch ≠ 0 → m.capturedIn = c.startedMatch) :
    OneMatch (c.onMessage m).2 ∧ (c.onMessage m).2.startedMatch = c.startedMatch ∧
      SameMatch (c.onMessage m).1 := by
  cases m with
  | snapshot m =>
    simp only [Client.onMessage, onSnapshot]
    split
    · rename_i l hl
      obtain ⟨hmem, -⟩ := OrderedMap.find?_eq_some_iff.1 hl
      obtain ⟨hne, hown⟩ := h.snapshots l hmem
      refine ⟨⟨fun l' hl' => ?_, h.checkpoints, h.pendingSnapshots, h.pendingHashes⟩, rfl,
        ⟨by simp, fun cmp hcmp => ?_⟩⟩
      · dsimp only at hl' ⊢
        split at hl'
        · exact h.snapshots l' (OrderedMap.mem_erase_iff.1 hl').1
        · rcases OrderedMap.mem_insert_iff.1 hl' with rfl | ⟨hl', -⟩
          · exact ⟨hne, hown⟩
          · exact h.snapshots l' hl'
      · obtain rfl := List.mem_singleton.1 hcmp
        exact hown.trans (hm hne).symm
    · refine ⟨⟨h.snapshots, h.checkpoints, fun hne m' hm' => ?_, h.pendingHashes⟩, rfl,
        ⟨by simp, by simp⟩⟩
      rcases OrderedMap.mem_of_mem_emplace hm' with rfl | hm'
      · exact hm hne
      · exact h.pendingSnapshots hne m' hm'
  | hash m =>
    refine ⟨⟨h.snapshots, h.checkpoints, h.pendingSnapshots, fun hne m' hm' => ?_⟩, rfl,
      ⟨by simp [Client.onMessage, onHash], by simp [Client.onMessage, onHash]⟩⟩
    rcases OrderedMap.mem_insert_iff.1 hm' with rfl | ⟨hm', -⟩
    · exact hm hne
    · refine h.pendingHashes hne m' ?_
      unfold makeRoom at hm'
      split at hm'
      · exact OrderedMap.mem_of_mem_eraseBegin hm'
      · exact hm'

/-! ## The channels to the clients -/

/-- The match that a client has started last when it has taken the messages. -/
def lastMatch (k : ℕ) : List Broadcast → ℕ
  | [] => k
  | .allReady n :: rest => lastMatch n rest
  | .verification _ :: rest => lastMatch k rest

/-- A client in match `k` gets every message in its match, unless it has not started one. -/
def InOrder (k : ℕ) : List Broadcast → Prop
  | [] => True
  | .allReady n :: rest => n ≠ 0 ∧ InOrder n rest
  | .verification m :: rest => (k ≠ 0 → m.capturedIn = k) ∧ InOrder k rest

lemma lastMatch_append (k : ℕ) (l l' : List Broadcast) :
    lastMatch k (l ++ l') = lastMatch (lastMatch k l) l' := by
  induction l generalizing k with
  | nil => rfl
  | cons msg l ih =>
    cases msg with
    | allReady n => exact ih n
    | verification m => exact ih k

lemma inOrder_append {k : ℕ} {l l' : List Broadcast} :
    InOrder k (l ++ l') ↔ InOrder k l ∧ InOrder (lastMatch k l) l' := by
  induction l generalizing k with
  | nil => simp [InOrder, lastMatch]
  | cons msg l ih =>
    cases msg with
    | allReady n =>
      rw [List.cons_append, InOrder, InOrder, lastMatch, ih, and_assoc]
    | verification m =>
      rw [List.cons_append, InOrder, InOrder, lastMatch, ih, and_assoc]

/-- What holds as long as nobody is late. -/
structure Tidy (s : Lobby ι I) : Prop where
  oneMatch : ∀ i, OneMatch (s.clients i)
  inOrder : ∀ i, InOrder (s.clients i).startedMatch (s.toClient i)
  /-- A member hears of every match that is announced while it is one. -/
  current : ∀ i ∈ s.members, lastMatch (s.clients i).startedMatch (s.toClient i) ≠ 0 →
    lastMatch (s.clients i).startedMatch (s.toClient i) = s.announced

section

variable [DecidableEq ι]

/-- A broadcast that the members get in order. -/
lemma Tidy.broadcast {s : Lobby ι I} (h : Tidy s) {p : ι → Bool} {msg : Broadcast} {k : ℕ}
    (toServer : ι → List Message)
    (horder : ∀ n, (n ≠ 0 → n = s.announced) → InOrder n [msg])
    (hlast : ∀ n, (n ≠ 0 → n = s.announced) → lastMatch n [msg] ≠ 0 → lastMatch n [msg] = k)
    (hskip : ∀ i ∈ s.members, p i = false → k = s.announced) :
    Tidy { s with announced := k, toServer := toServer, toClient := s.broadcast p msg } := by
  refine ⟨h.oneMatch, fun i => ?_, fun i hi => ?_⟩
  · dsimp only [Lobby.broadcast]
    split
    · rename_i hsend
      exact inOrder_append.2 ⟨h.inOrder i, horder _ (h.current i hsend.1)⟩
    · exact h.inOrder i
  · dsimp only [Lobby.broadcast]
    split
    · rename_i hsend
      rw [lastMatch_append]
      exact hlast _ (h.current i hi)
    · rename_i hno
      have hp : p i = false := by simpa [hi] using hno
      rw [hskip i hi hp]
      exact h.current i hi

/-- A client that takes the next message of its channel, or does something on its own. -/
lemma Tidy.update {s : Lobby ι I} (h : Tidy s) {i : ι} {c : Client I} (rest : List Broadcast)
    (toServer : ι → List Message) (hc : OneMatch c) (horder : InOrder c.startedMatch rest)
    (hlast : lastMatch c.startedMatch rest =
      lastMatch (s.clients i).startedMatch (s.toClient i)) :
    Tidy { s with
      clients := Function.update s.clients i c
      toServer := toServer
      toClient := Function.update s.toClient i rest } := by
  refine ⟨fun j => ?_, fun j => ?_, fun j hj => ?_⟩
  all_goals
    dsimp only
    by_cases hji : j = i
  · rw [hji, Function.update_self]
    exact hc
  · rw [Function.update_of_ne hji]
    exact h.oneMatch j
  · rw [hji, Function.update_self, Function.update_self]
    exact horder
  · rw [Function.update_of_ne hji, Function.update_of_ne hji]
    exact h.inOrder j
  · subst hji
    rw [Function.update_self, Function.update_self, hlast]
    exact h.current j hj
  · rw [Function.update_of_ne hji, Function.update_of_ne hji]
    exact h.current j hj

/-- **Step lemma.** A timely step keeps the lobby tidy and compares only within one match. -/
lemma Tidy.next {e : LobbyEntry ι I} (h : Tidy e.pre) (htimely : Timely e)
    (hstep : (lobbyLTS ι I).Steps e) : Tidy e.post ∧ SameMatch e.out := by
  have hquiet : SameMatch {} := ⟨by simp, by simp⟩
  obtain ⟨s, act, out, t⟩ := e
  have hnext : s.next act = some (out, t) := hstep
  cases act with
  | announce =>
    obtain ⟨rfl, rfl⟩ := Prod.mk.inj (Option.some.inj hnext)
    refine ⟨h.broadcast s.toServer (fun n _ => ?_) (fun n _ _ => rfl) ?_, hquiet⟩
    · exact ⟨Nat.succ_ne_zero _, trivial⟩
    · simp
  | relay i =>
    simp only [Lobby.next] at hnext
    split at hnext
    · exact absurd hnext (by simp)
    · rename_i m rest hqueue
      obtain ⟨rfl, rfl⟩ := Prod.mk.inj (Option.some.inj hnext)
      -- a timely message is of the match that was announced last
      have hm : m.capturedIn = s.announced := htimely m (by simp [hqueue])
      refine ⟨h.broadcast _ (fun n hn => ?_) (fun n hn => hn) fun _ _ _ => rfl, hquiet⟩
      exact ⟨fun hne => hm.trans (hn hne).symm, trivial⟩
  | deliver i =>
    simp only [Lobby.next] at hnext
    split at hnext
    · exact absurd hnext (by simp)
    · rename_i msg rest hqueue
      obtain ⟨rfl, rfl⟩ := Prod.mk.inj (Option.some.inj hnext)
      have horder := h.inOrder i
      rw [hqueue] at horder
      have hlast : lastMatch (s.clients i).startedMatch (s.toClient i) =
          lastMatch (s.clients i).startedMatch (msg :: rest) := by rw [hqueue]
      cases msg with
      | allReady k =>
        exact ⟨h.update rest _ (oneMatch_of_clear rfl rfl rfl rfl) horder.2 hlast.symm,
          ⟨by simp [startMatch, clearBattleState], by simp [startMatch, clearBattleState]⟩⟩
      | verification m =>
        -- the messages come in order, so it is of the match that the client is in
        obtain ⟨hc, hk, hsame⟩ := (h.oneMatch i).onMessage horder.1
        refine ⟨h.update rest _ hc ?_ ?_, hsame⟩
        · rw [hk]
          exact horder.2
        · rw [hk]
          exact hlast.symm
  | join i =>
    simp only [Lobby.next] at hnext
    split at hnext
    · rename_i hfresh
      obtain ⟨rfl, rfl⟩ := Prod.mk.inj (Option.some.inj hnext)
      refine ⟨⟨h.oneMatch, h.inOrder, fun j hj => ?_⟩, hquiet⟩
      rcases List.mem_cons.1 hj with rfl | hj
      · dsimp only
        rw [hfresh.1, hfresh.2]
        exact fun hne => absurd rfl hne
      · exact h.current j hj
    · exact absurd hnext (by simp)
  | leave i =>
    obtain ⟨rfl, rfl⟩ := Prod.mk.inj (Option.some.inj hnext)
    exact ⟨⟨h.oneMatch, h.inOrder, fun j hj => h.current j (List.mem_filter.1 hj).1⟩, hquiet⟩
  | client i act =>
    simp only [Lobby.next] at hnext
    split at hnext
    · rename_i hown
      obtain ⟨⟨o, c⟩, hc, heq⟩ := Option.map_eq_some_iff.1 hnext
      obtain ⟨rfl, rfl⟩ := Prod.mk.inj heq
      -- what is captured belongs to the battle that is on
      have hmatch (hcap : act.captures = true) : InMatch (s.clients i) := by
        have hbattle : (s.clients i).battle = (s.clients i).startedMatch := htimely hcap
        exact ⟨hbattle, hbattle ▸ hown.2 hcap⟩
      obtain ⟨hone, hk, hsame⟩ := (h.oneMatch i).next hown.1 hmatch hc
      have hupdate := h.update (s.toClient i)
        (Function.update s.toServer i (s.toServer i ++ o.sent)) hone
        (by rw [hk]; exact h.inOrder i) (by rw [hk])
      rw [Function.update_eq_self] at hupdate
      exact ⟨hupdate, hsame⟩
    · exact absurd hnext (by simp)

/-- **One match at a time.** As long as nobody is late, what a client has captured is compared
only with what others have captured in the same match. -/
theorem sameMatch_of_timely {log : List (LobbyEntry ι I)} {s : Lobby ι I}
    (h : (lobbyLTS ι I).Run log s) (htimely : ∀ e ∈ log, Timely e) :
    ∀ e ∈ log, SameMatch e.out := by
  refine (h.invariant (fun log s => Tidy s ∧ ∀ e ∈ log, SameMatch e.out) ?_ ?_ htimely).2
  · rintro s rfl
    exact ⟨⟨fun _ => oneMatch_of_clear rfl rfl rfl rfl, fun _ => trivial,
      fun _ hi => absurd hi List.not_mem_nil⟩, by simp⟩
  · rintro log e ⟨htidy, hsame⟩ hstep hok
    obtain ⟨htidy', hsame'⟩ := htidy.next hok hstep
    exact ⟨htidy', List.forall_mem_cons.2 ⟨hsame', hsame⟩⟩

end

/-! ## A player and a spectator -/

instance [DecidableEq ι] (e : LobbyEntry ι I) : Decidable (Timely e) :=
  match e with
  | ⟨s, .relay i, _, _⟩ =>
    inferInstanceAs (Decidable (∀ m ∈ (s.toServer i).head?, m.capturedIn = s.announced))
  | ⟨s, .client i act, _, _⟩ =>
    inferInstanceAs (Decidable (act.captures = true →
      (s.clients i).battle = (s.clients i).startedMatch))
  | ⟨_, .announce, _, _⟩ | ⟨_, .deliver _, _, _⟩ | ⟨_, .join _, _, _⟩ | ⟨_, .leave _, _, _⟩ =>
    .isTrue trivial

/-- A list of actions that a lobby can carry out, and whose log passes a test. -/
lemma exists_lobbyRun_of_exec [DecidableEq ι] (acts : List (LobbyAction ι I))
    {p : List (LobbyEntry ι I) → Lobby ι I → Prop} [∀ log s, Decidable (p log s)]
    (h : (LTS.exec Lobby.next ⟨0, [], fun _ => Client.start 0, fun _ => [], fun _ => []⟩ []
      acts).any (fun r => decide (p r.1 r.2)) = true) :
    ∃ log s, (lobbyLTS ι I).Run log s ∧ p log s := by
  obtain ⟨log, s, hpath, hp⟩ := LTS.exists_path_of_exec acts h
  exact ⟨log, s, ⟨_, rfl, hpath⟩, hp⟩

/-- A client hears of the match and begins its battle. -/
def begins (i : Bool) : List (LobbyAction Bool Unit) :=
  [.deliver i, .client i .startBattle]

/-- A client accepts frames in which the characters look like this. -/
def plays (i : Bool) (n : ℕ) (chara : List UInt8) : List (LobbyAction Bool Unit) :=
  List.replicate n (.client i (.battleUpdate ⟨(), {}, chara⟩ []))

/-- A spectator watches a player's match and compares the player's snapshot of frame 60. -/
theorem sameMatch_of_timely_spectator :
    ∃ log s, (lobbyLTS Bool Unit).Run log s ∧ (∃ e ∈ log, e.out.snapshotComparisons ≠ []) ∧
      ∀ e ∈ log, SameMatch e.out := by
  obtain ⟨log, s, hrun, hcmps, htimely⟩ := exists_lobbyRun_of_exec
    ([.join true, .join false, .announce] ++ begins true ++ begins false ++
      plays true 120 [1] ++ [.client true (.pass {}), .relay true] ++ plays false 60 [1] ++
      [.deliver false])
    (p := fun log _ => (∃ e ∈ log, e.out.snapshotComparisons ≠ []) ∧ ∀ e ∈ log, Timely e)
    (by decide +kernel)
  exact ⟨log, s, hrun, hcmps, sameMatch_of_timely hrun htimely⟩

/-- **A spectator of the last match ends the next.** When the spectator comes to frame 120 of
the first match, the second has been announced.  Its snapshot of frame 60 waits at the player
until that has come as far, and ends the player's battle. -/
theorem not_sameMatch_spectator :
    ¬ ∀ log s, (lobbyLTS Bool Unit).Run log s → (∀ e ∈ log, SameMatch e.out) := by
  intro h
  obtain ⟨log, s, hrun, e, he, hnot, -⟩ := exists_lobbyRun_of_exec
    ([.join true, .join false, .announce] ++ begins true ++ begins false ++
      plays false 120 [1] ++ [.announce] ++ begins true ++
      [.client false (.pass { isPlayer := false }), .relay false, .deliver true] ++
      plays true 120 [2] ++ [.client true (.pass {})])
    (p := fun log s => ∃ e ∈ log, ¬ SameMatch e.out ∧ (s.clients true).leaving = true)
    (by decide +kernel)
  exact hnot (h log s hrun e he)

end Desync
end Sf4e
