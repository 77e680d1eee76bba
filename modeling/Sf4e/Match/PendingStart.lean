/-
# A deferred start and the broadcast it belongs to

A client that hears of `LOBBY_ALLREADY` outside its main menu, or before it knows of two
members, sets `s_pendingMatchStart`, and every later tick tries the start again.  Nothing but
a successful start clears the flag, whatever the data updates in between may say.

So a start always belongs to the latest `LOBBY_ALLREADY`, and no broadcast is answered twice,
but the line-up that the start finds need not be the one of the broadcast: a player may have
withdrawn, left or been replaced.  `startsTied_of_keepsLineUp` shows that the two agree in every
run in which no data update changes the line-up while a start is pending.
-/
import Sf4e.Match.Client

namespace Sf4e

open SessionProtocol SessionServer Trace

/-! ## Line-ups and starts -/

/-- Who is called to a match, and by which ready messages. -/
structure LineUp where
  /-- The two ready numbers. -/
  ready : Side → ℤ
  /-- The members in the two players' slots. -/
  member : Side → Option ConnectionID
deriving DecidableEq

/-- The line-up that an update shows. -/
def lineUp (l : LobbyData) (d : MatchData) : LineUp where
  ready := d.readyMessageNum
  member i := (l.members[i.val]?).map (·.connId)

/-- The line-up in the client's latest data. -/
def NetplayClient.lineUp (c : NetplayClient) : LineUp := Sf4e.lineUp c.lobbyData c.matchData

/-- Does the action make `StartMatchFromLobby` succeed? -/
def NetplayClient.starts (c : NetplayClient) : ClientAction → Bool
  | .deliver .lobbyAllReady mainMenu => (c.startMatchFromLobby mainMenu).isSome
  | .tick mainMenu => c.pendingMatchStart && (c.startMatchFromLobby mainMenu).isSome
  | _ => false

/-- The entry is a successful start. -/
def StartsMatch (e : ClientEntry) : Prop := e.pre.starts e.act = true

instance : DecidablePred StartsMatch := fun _ => inferInstanceAs (Decidable (_ = _))

/-- The entry delivers `LOBBY_ALLREADY`. -/
def HearsAllReady (e : ClientEntry) : Prop := e.act.delivery? = some .lobbyAllReady

instance : DecidablePred HearsAllReady := fun _ => inferInstanceAs (Decidable (_ = _))

/-- The latest `LOBBY_ALLREADY` of a log. -/
def latestAllReady (log : List ClientEntry) : Option ClientEntry :=
  log.find? fun e => decide (HearsAllReady e)

/-- The successful starts of a log from its latest `LOBBY_ALLREADY` on. -/
def startsSinceAllReady : List ClientEntry → ℕ
  | [] => 0
  | e :: log =>
    (if StartsMatch e then 1 else 0) + if HearsAllReady e then 0 else startsSinceAllReady log

/-- Every start of the log is tied to a `LOBBY_ALLREADY`. -/
structure StartsTied (log : List ClientEntry) : Prop where
  /-- A start finds the line-up of the latest `LOBBY_ALLREADY`. -/
  lineUp : ∀ e older, e :: older <:+ log → StartsMatch e →
    ∃ t ∈ latestAllReady (e :: older), e.pre.lineUp = t.pre.lineUp
  /-- No `LOBBY_ALLREADY` leads to a second start. -/
  once : ∀ older, older <:+ log → startsSinceAllReady older ≤ 1

/-- The step delivers no update that changes the line-up of a pending start. -/
def KeepsLineUp (e : ClientEntry) : Prop :=
  ∀ u ∈ updates e.act.delivery?.toList, e.pre.pendingMatchStart = true →
    lineUp u.1 u.2 = e.pre.lineUp

instance : DecidablePred KeepsLineUp := fun e =>
  inferInstanceAs (Decidable (∀ u ∈ updates e.act.delivery?.toList, _))

/-! ## What a step does to a pending start -/

namespace NetplayClient

lemma SameData.lineUp {c c' : NetplayClient} (h : SameData c c') : c'.lineUp = c.lineUp := by
  simp only [NetplayClient.lineUp, h.lobbyData, h.matchData]

/-- A start finds two members in the lobby. -/
lemma two_members_of_start {c c' : NetplayClient} {mainMenu : Bool}
    (h : c.startMatchFromLobby mainMenu = some c') : 2 ≤ c.lobbyData.members.length := by
  unfold startMatchFromLobby at h
  split at h
  · simp at h
  · rename_i hlen
    exact not_lt.1 hlen

/-- The counter of broadcasts plays no part in whether a start succeeds. -/
lemma isSome_startMatchFromLobby (c : NetplayClient) (n : ℕ) (mainMenu : Bool) :
    ({ c with allReadys := n }.startMatchFromLobby mainMenu).isSome =
      (c.startMatchFromLobby mainMenu).isSome := by
  unfold startMatchFromLobby
  dsimp only
  split_ifs <;> rfl

/-- `OnReady` leaves the start pending exactly when it fails. -/
lemma pendingMatchStart_onReady (c : NetplayClient) (mainMenu : Bool) :
    (c.onReady mainMenu).pendingMatchStart = !(c.startMatchFromLobby mainMenu).isSome := by
  unfold onReady
  cases c.startMatchFromLobby mainMenu <;> rfl

/-- A tick keeps a pending start pending exactly when the start fails. -/
lemma pendingMatchStart_tryStartPendingMatch (c : NetplayClient) (mainMenu : Bool) :
    (c.tryStartPendingMatch mainMenu).pendingMatchStart =
      (c.pendingMatchStart && !(c.startMatchFromLobby mainMenu).isSome) := by
  unfold tryStartPendingMatch
  split
  · rename_i hpending
    simp [hpending]
  · rename_i hpending
    have hpending' : c.pendingMatchStart = true := by simpa using hpending
    cases hstart : c.startMatchFromLobby mainMenu with
    | none => split <;> simp [hpending']
    | some c' =>
      have htwo := two_members_of_start hstart
      rw [if_neg (by omega)]
      simp

end NetplayClient

/-- The line-up that an update shows is the one that the client reads from it. -/
lemma lineUp_received (l : LobbyData) (d : MatchData) :
    lineUp { l with members := l.members.map MemberData.received } d = lineUp l d := by
  simp only [lineUp, List.getElem?_map, Option.map_map, LineUp.mk.injEq, true_and]
  rfl

/-- What an entry does, seen from a pending start. -/
inductive PendingMove (e : ClientEntry) : Prop
  /-- `LOBBY_ALLREADY` comes in; the start succeeds or is left pending. -/
  | hears (hhears : HearsAllReady e) (hlineUp : e.post.lineUp = e.pre.lineUp)
      (hpending : e.post.pendingMatchStart = true → ¬ StartsMatch e)
  /-- A pending start is tried again. -/
  | tries (hhears : ¬ HearsAllReady e) (hlineUp : e.post.lineUp = e.pre.lineUp)
      (hstarts : StartsMatch e → e.pre.pendingMatchStart = true)
      (hpending : e.post.pendingMatchStart = true →
        e.pre.pendingMatchStart = true ∧ ¬ StartsMatch e)
  /-- New data comes in. -/
  | updates (hhears : ¬ HearsAllReady e) (hstarts : ¬ StartsMatch e)
      (hpending : e.post.pendingMatchStart = e.pre.pendingMatchStart)
      (u : LobbyData × MatchData) (hmem : u ∈ updates e.act.delivery?.toList)
      (hlineUp : e.post.lineUp = lineUp u.1 u.2)
  /-- Anything else. -/
  | other (hhears : ¬ HearsAllReady e) (hstarts : ¬ StartsMatch e)
      (hpending : e.post.pendingMatchStart = e.pre.pendingMatchStart)
      (hlineUp : e.post.lineUp = e.pre.lineUp)

/-- The inversion of a step. -/
lemma pendingMove_of_steps {e : ClientEntry} (hstep : clientLTS.Steps e) : PendingMove e := by
  obtain ⟨c, act, out, c'⟩ := e
  have hnext : c.next act = some (out, c') := hstep
  cases act with
  | deliver msg mainMenu =>
    obtain ⟨rfl, rfl⟩ := Prod.mk.inj (Option.some.inj hnext)
    cases msg with
    | lobbyAllReady =>
      have hsame := NetplayClient.onReady_sameData
        { c with allReadys := c.allReadys + 1 } mainMenu
      -- a start in the handler itself leaves nothing pending
      refine .hears rfl hsame.lineUp fun hpending hstarts => ?_
      simp only [NetplayClient.receive, NetplayClient.pendingMatchStart_onReady,
        NetplayClient.isSome_startMatchFromLobby] at hpending
      simp only [StartsMatch, NetplayClient.starts] at hstarts
      simp [hstarts] at hpending
    | dataUpdate l d =>
      exact .updates (by simp [HearsAllReady, ClientAction.delivery?])
        (by simp [StartsMatch, NetplayClient.starts]) rfl (l, d)
        (by simp [updates, ClientAction.delivery?]) (lineUp_received l d)
    | helloResp | joinReject | battleSynced | punchGo | relayed =>
      exact .other (by simp [HearsAllReady, ClientAction.delivery?])
        (by simp [StartsMatch, NetplayClient.starts]) rfl rfl
  | tick mainMenu =>
    obtain ⟨rfl, rfl⟩ := Prod.mk.inj (Option.some.inj hnext)
    refine .tries (by simp [HearsAllReady, ClientAction.delivery?])
      (NetplayClient.tryStartPendingMatch_sameData c mainMenu).lineUp (fun hstarts => ?_)
      fun hpending => ?_
    · simp only [StartsMatch, NetplayClient.starts, Bool.and_eq_true] at hstarts
      exact hstarts.1
    · rw [NetplayClient.pendingMatchStart_tryStartPendingMatch, Bool.and_eq_true] at hpending
      obtain ⟨hpre, hfails⟩ := hpending
      refine ⟨hpre, fun hstarts => ?_⟩
      simp only [StartsMatch, NetplayClient.starts, Bool.and_eq_true] at hstarts
      simp [hstarts.2] at hfails
  | preBattle vsMode =>
    obtain ⟨rfl, rfl⟩ := Prod.mk.inj (Option.some.inj hnext)
    refine .other (by simp [HearsAllReady, ClientAction.delivery?])
      (by simp [StartsMatch, NetplayClient.starts]) ?_ ?_
    · dsimp only
      split
      · unfold NetplayClient.onVsPreBattleTasksRegistered
        split_ifs <;> rfl
      · rfl
    · dsimp only
      split
      · exact (NetplayClient.onVsPreBattle_sameData c vsMode).lineUp
      · rfl
  | battle udpRelay relayHealthy transportReady =>
    simp only [NetplayClient.next] at hnext
    split at hnext
    all_goals
      obtain ⟨rfl, rfl⟩ := Prod.mk.inj (Option.some.inj hnext)
      exact .other (by simp [HearsAllReady, ClientAction.delivery?])
        (by simp [StartsMatch, NetplayClient.starts]) rfl rfl

/-! ## Runs that keep the line-up -/

/-- A pending start belongs to the latest `LOBBY_ALLREADY`, which nothing has answered yet,
and the line-up is still the one of that broadcast. -/
def PendingTied (log : List ClientEntry) (c : NetplayClient) : Prop :=
  c.pendingMatchStart = true →
    startsSinceAllReady log = 0 ∧ ∃ t ∈ latestAllReady log, c.lineUp = t.pre.lineUp

lemma latestAllReady_cons_of_hears {e : ClientEntry} (log : List ClientEntry)
    (h : HearsAllReady e) : latestAllReady (e :: log) = some e := by
  simp [latestAllReady, h]

lemma latestAllReady_cons_of_not {e : ClientEntry} (log : List ClientEntry)
    (h : ¬ HearsAllReady e) : latestAllReady (e :: log) = latestAllReady log := by
  simp [latestAllReady, h]

/-- One more entry, seen from the starts: what the entry itself has to satisfy. -/
lemma StartsTied.cons {e : ClientEntry} {log : List ClientEntry} (h : StartsTied log)
    (hlineUp : StartsMatch e → ∃ t ∈ latestAllReady (e :: log), e.pre.lineUp = t.pre.lineUp)
    (honce : startsSinceAllReady (e :: log) ≤ 1) : StartsTied (e :: log) := by
  refine ⟨fun e' older hsuffix hstarts => ?_, fun older hsuffix => ?_⟩
  · rcases List.suffix_cons_iff.1 hsuffix with heq | hsuffix
    · obtain ⟨rfl, rfl⟩ := List.cons.inj heq
      exact hlineUp hstarts
    · exact h.lineUp e' older hsuffix hstarts
  · rcases List.suffix_cons_iff.1 hsuffix with rfl | hsuffix
    · exact honce
    · exact h.once older hsuffix

/-- **Step lemma.** A step that keeps the line-up of a pending start keeps every start tied. -/
lemma tied_step {log : List ClientEntry} {e : ClientEntry}
    (h : StartsTied log ∧ PendingTied log e.pre) (hstep : clientLTS.Steps e)
    (hkeep : KeepsLineUp e) : StartsTied (e :: log) ∧ PendingTied (e :: log) e.post := by
  obtain ⟨htied, hpending⟩ := h
  have honce := htied.once log (List.suffix_refl log)
  rcases pendingMove_of_steps hstep with ⟨hhears, hlineUp, hpost⟩ |
    ⟨hhears, hlineUp, hstarts, hpost⟩ | ⟨hhears, hstarts, hpost, u, hu, hlineUp⟩ |
    ⟨hhears, hstarts, hpost, hlineUp⟩
  · have hlatest := latestAllReady_cons_of_hears log hhears
    refine ⟨htied.cons (fun _ => ⟨e, hlatest, rfl⟩) ?_, fun hp => ⟨?_, e, hlatest, hlineUp⟩⟩
    · simp only [startsSinceAllReady, if_pos hhears]
      split_ifs <;> omega
    · simp [startsSinceAllReady, hhears, hpost hp]
  · have hlatest := latestAllReady_cons_of_not log hhears
    refine ⟨htied.cons (fun hs => ?_) ?_, fun hp => ?_⟩
    · rw [hlatest]
      exact (hpending (hstarts hs)).2
    · simp only [startsSinceAllReady, if_neg hhears]
      split_ifs with hs
      · -- the start answers a broadcast that nothing has answered before
        rw [(hpending (hstarts hs)).1]
      · omega
    · -- the attempt has failed and stays pending
      obtain ⟨hpre, hs⟩ := hpost hp
      obtain ⟨hnone, t, ht, hshows⟩ := hpending hpre
      exact ⟨by simp [startsSinceAllReady, hhears, hs, hnone], t, by rwa [hlatest],
        hlineUp.trans hshows⟩
  · have hlatest := latestAllReady_cons_of_not log hhears
    refine ⟨htied.cons (fun hs => absurd hs hstarts) ?_, fun hp => ?_⟩
    · simpa [startsSinceAllReady, hhears, hstarts] using honce
    · obtain ⟨hnone, t, ht, hshows⟩ := hpending (hpost ▸ hp)
      refine ⟨by simpa [startsSinceAllReady, hhears, hstarts] using hnone, t,
        by rwa [hlatest], ?_⟩
      rw [hlineUp, hkeep u hu (hpost ▸ hp)]
      exact hshows
  · have hlatest := latestAllReady_cons_of_not log hhears
    refine ⟨htied.cons (fun hs => absurd hs hstarts) ?_, fun hp => ?_⟩
    · simpa [startsSinceAllReady, hhears, hstarts] using honce
    · obtain ⟨hnone, t, ht, hshows⟩ := hpending (hpost ▸ hp)
      exact ⟨by simpa [startsSinceAllReady, hhears, hstarts] using hnone, t,
        by rwa [hlatest], hlineUp.trans hshows⟩

/-- **Deferred starts.** In every run in which no data update changes the line-up while a start
is pending, each start finds the line-up of the latest `LOBBY_ALLREADY`, and each
`LOBBY_ALLREADY` leads to at most one start. -/
theorem startsTied_of_keepsLineUp {log : List ClientEntry} {c : NetplayClient}
    (h : clientLTS.Run log c) (hkeep : ∀ e ∈ log, KeepsLineUp e) : StartsTied log := by
  refine (h.invariant (fun log c => StartsTied log ∧ PendingTied log c) ?_
    (fun _ _ hinv hstep hok => tied_step hinv hstep hok) hkeep).1
  rintro c rfl
  refine ⟨⟨fun e older hsuffix _ => ?_, fun older hsuffix => ?_⟩, fun hp => ?_⟩
  · simp at hsuffix
  · obtain rfl := List.suffix_nil.1 hsuffix
    simp [startsSinceAllReady]
  · simp [NetplayClient.new] at hp

/-- A client that hears everything outside its main menu and starts when it is back. -/
def comesBack (msgs : List ServerMessage) : List ClientAction :=
  msgs.map (.deliver · false) ++ [.tick true]

/-- Tied starts at work: `B` is not in its main menu when both get ready. -/
theorem startsTied_of_late_start :
    ∃ log c, clientLTS.Run log c ∧ (∃ e ∈ log, StartsMatch e) ∧ StartsTied log := by
  obtain ⟨slog, ph, -, ⟨log, c⟩, hexec, hkeep, hstarts⟩ := exists_run_of_exec Action.bothReady
    (p := fun slog _ => ∃ r ∈ LTS.exec NetplayClient.next .new [] (comesBack (received 2 slog)),
      (∀ e ∈ r.1, KeepsLineUp e) ∧ ∃ e ∈ r.1, StartsMatch e) (by decide +kernel)
  have hrun : clientLTS.Run log c := ⟨_, rfl, LTS.path_of_exec .refl hexec⟩
  exact ⟨log, c, hrun, hstarts, startsTied_of_keepsLineUp hrun hkeep⟩

/-- `A` withdraws: it resets the lobby in a `Step` of its own. -/
def Action.withdraws : List Action := [.beginStep, .message (.bare 1 4 .lobbyReset), .endStep]

/-- **A start without a broadcast behind it.** `A` and `B` get ready while `B` is not in its
main menu, and `A` resets the lobby.  When `B` is back it starts the match, although its own
data says that nobody is ready. -/
theorem not_startsTied_reset :
    ¬ ∀ (log : List ClientEntry) (c : NetplayClient), clientLTS.Run log c → StartsTied log := by
  intro h
  obtain ⟨slog, ph, -, ⟨log, c⟩, hexec, e, he, hstarts, hne⟩ :=
    exists_run_of_exec (Action.bothReady ++ Action.withdraws)
    (p := fun slog _ => ∃ r ∈ LTS.exec NetplayClient.next .new [] (comesBack (received 2 slog)),
      ∃ e ∈ r.1.head?, StartsMatch e ∧
        ∀ t ∈ latestAllReady r.1, e.pre.lineUp ≠ t.pre.lineUp) (by decide +kernel)
  have hrun : clientLTS.Run log c := ⟨_, rfl, LTS.path_of_exec .refl hexec⟩
  have hlog : e :: log.tail = log := (List.eq_cons_of_mem_head? he).symm
  obtain ⟨t, ht, hshows⟩ :=
    (h log c hrun).lineUp e log.tail (by rw [hlog]) hstarts
  rw [hlog] at ht
  exact hne t ht hshows

end Sf4e
