/-
# What a member sees

The server keeps the lobby and match data, and the members work on copies of them.  A copy comes
with a data update, which the server broadcasts at the end of a `Step` and only when the data
changed since the last one.  Here it is shown that this is enough: whenever no update is due,
everybody in the lobby has been sent the data as it is (`holds_current`), and a client shows
nothing but states the server has been in, one after the other (`shows_history`).

The flag that asks for an update has to be raised by every handler that touches the data; that
is `onMessage_sameData`.
-/
import Sf4e.Session.ReadyRequest
import Sf4e.Trace.Publish

namespace Sf4e

open SessionProtocol SessionServer Trace

/-! ## The handlers and the flag -/

/-- Two states of the server that look alike from outside, with the same update due. -/
structure SessionServer.SameData (s s' : SessionServer) : Prop where
  /-- The settings are the same. -/
  lobbyData : s'.lobbyData = s.lobbyData
  /-- The match data are the same. -/
  matchData : s'.matchData = s.matchData
  /-- The members are the same. -/
  clients : s'.clients = s.clients
  /-- The same update is due. -/
  dataDirty : s'.dataDirty = s.dataDirty

lemma SessionServer.SameData.refl (s : SessionServer) : s.SameData s := ⟨rfl, rfl, rfl, rfl⟩

namespace SessionServer

lemma registerToWait_sameData (s : SessionServer) (m : Incoming) (request : SessionJoinRequest)
    (cid : ConnectionID) (h : (s.registerToWait m request cid).1 ≠ .joinOk) :
    (s.registerToWait m request cid).2 = s := by
  obtain ⟨c, hreg⟩ | ⟨r, -, hreg⟩ := s.registerToWait_cases m request cid
  · exact absurd (by rw [hreg]) h
  · rw [hreg]

/-- A join that is turned down changes nothing; one that is not asks for an update. -/
lemma onJoinReq_sameData (s : SessionServer) (m : Incoming) (doc : Document)
    (cid : ConnectionID) :
    (s.onJoinReq m doc cid).1.dataDirty = true ∨ s.SameData (s.onJoinReq m doc cid).1 := by
  unfold onJoinReq
  split
  · exact .inr (.refl s)
  · rename_i request _
    split
    · exact .inl rfl
    · rename_i result s' hne hreg
      have hsame := s.registerToWait_sameData m request cid (by rw [hreg]; exact hne)
      rw [hreg] at hsame
      exact .inr (hsame ▸ .refl s)

lemma onSetChara_sameData (s : SessionServer) (conn : HSteamNetConnection) (doc : Document) :
    (s.onSetChara conn doc).dataDirty = true ∨ s.SameData (s.onSetChara conn doc) := by
  unfold onSetChara
  split
  · exact .inl rfl
  · exact .inr (.refl s)

lemma hostSetter_sameData {ρ : Type} (s : SessionServer) (conn : HSteamNetConnection)
    (request : Option ρ) (set : ρ → SessionServer) :
    (s.hostSetter conn request set).dataDirty = true ∨
      s.SameData (s.hostSetter conn request set) := by
  unfold hostSetter
  split
  · exact .inr (.refl s)
  · split
    · exact .inr (.refl s)
    · exact .inl rfl

lemma onReset_sameData (s : SessionServer) (conn : HSteamNetConnection) :
    (s.onReset conn).dataDirty = true ∨ s.SameData (s.onReset conn) := by
  unfold onReset
  split
  · exact .inr (.refl s)
  · exact .inl rfl

lemma onReportResults_sameData {s s' : SessionServer} {doc : Document}
    (h : s.onReportResults doc = some s') : s'.dataDirty = true ∨ s.SameData s' := by
  unfold onReportResults at h
  split at h
  · obtain rfl := Option.some.inj h
    exact .inr (.refl s)
  · obtain ⟨s₁, -, rfl⟩ := Option.map_eq_some_iff.1 h
    exact .inl rfl

lemma onPunchReady_sameData (s : SessionServer) (conn : HSteamNetConnection) :
    s.SameData (s.onPunchReady conn).1 := by
  unfold onPunchReady
  split
  · exact .refl s
  · dsimp only
    split
    · exact ⟨rfl, rfl, rfl, rfl⟩
    · exact ⟨rfl, rfl, rfl, rfl⟩

lemma statusChanged_sameData (s : SessionServer) (info : StatusChange) :
    (s.onSteamNetConnectionStatusChanged info).dataDirty = true ∨
      s.SameData (s.onSteamNetConnectionStatusChanged info) := by
  unfold onSteamNetConnectionStatusChanged
  split
  · split
    · exact .inr (.refl s)
    · exact .inl rfl
  · exact .inr (.refl s)

end SessionServer

namespace StepState

lemma onReady_sameData (st : StepState) (m : Incoming) :
    (st.onReady m).server.dataDirty = true ∨ st.server.SameData (st.onReady m).server := by
  unfold onReady
  split
  · exact .inr (.refl _)
  · exact .inl rfl

lemma onRegistered_sameData {st st' : StepState} {m : Incoming} {doc : Document}
    {type : MessageType} {cid : ConnectionID} {out : List Output}
    (h : st.onRegistered m doc type cid = some (st', out)) :
    st'.server.dataDirty = true ∨ st.server.SameData st'.server := by
  cases type
  case lobbyReportResults =>
    obtain ⟨s', hs', heq⟩ := Option.map_eq_some_iff.1 h
    obtain ⟨rfl, -⟩ := Prod.mk.inj heq
    exact onReportResults_sameData hs'
  all_goals obtain ⟨rfl, -⟩ := Prod.mk.inj (Option.some.inj h)
  case sessionJoinReq => exact onJoinReq_sameData _ m doc cid
  case preBattleSetChara => exact onSetChara_sameData _ m.conn doc
  case preBattleSetEnv => exact hostSetter_sameData _ m.conn _ _
  case preBattleSetStage => exact hostSetter_sameData _ m.conn _ _
  case lobbySetSettings => exact hostSetter_sameData _ m.conn _ _
  case battleLoaded => exact .inl rfl
  case lobbyReady => exact onReady_sameData st m
  case lobbyReset => exact onReset_sameData _ m.conn
  case punchReady => exact .inr (onPunchReady_sameData _ m.conn)
  all_goals exact .inr (.refl _)

/-- **Every change asks for an update.** After a message an update is due, or the message has
left everything as it was that an update tells. -/
lemma onMessage_sameData {st st' : StepState} {m : Incoming} {out : List Output}
    (h : st.onMessage m = some (st', out)) :
    st'.server.dataDirty = true ∨ st.server.SameData st'.server := by
  obtain ⟨type, doc, cid, -, -, hreg⟩ | ⟨-, rfl, -⟩ | ⟨-, -, rfl, -⟩ := onMessage_request h
  · exact onRegistered_sameData hreg
  · exact .inr (.refl _)
  · exact .inr ⟨rfl, rfl, rfl, rfl⟩

end StepState

/-! ## The server as a publisher -/

/-- What a data update tells. -/
def SessionServer.shared (s : SessionServer) : LobbyData × MatchData :=
  (StepState.sentLobbyData s, s.matchData)

lemma SessionServer.SameData.shared {s s' : SessionServer} (h : s.SameData s') :
    s'.shared = s.shared := by
  simp only [SessionServer.shared, StepState.sentLobbyData, h.lobbyData, h.matchData, h.clients]

/-- The copy that the end of a `Step` sends a member when an update is due. -/
lemma updates_broadcasts_ne_nil {st : StepState} {conn : HSteamNetConnection}
    (hdirty : st.server.dataDirty = true) (hconn : conn ∈ st.server.conns) :
    updates (st.broadcasts.flatMap (Output.deliveries conn)) ≠ [] := by
  have hmem : .dataUpdate (StepState.sentLobbyData st.server) st.server.matchData ∈
      st.broadcasts.flatMap (Output.deliveries conn) := by
    refine List.mem_flatMap.2 ⟨st.server.broadcastMessage (StepState.dataUpdate st.server), ?_, ?_⟩
    · simp [StepState.broadcasts, hdirty]
    · exact List.mem_replicate.2 ⟨(List.count_pos_iff.2 hconn).ne', rfl⟩
  exact List.ne_nil_of_mem ((@mem_updates _ st.server.shared).2 hmem)

/-- A step of the server after which no update is due. -/
lemma shared_of_steps {e : ServerEntry} (hstep : serverLTS.Steps e) {conn : HSteamNetConnection}
    (hdirty : ¬ e.post.server.dataDirty = true) (hconn : conn ∈ e.post.server.conns) :
    e.post.server.shared = e.pre.server.shared ∧
      (updates (e.out.flatMap (Output.deliveries conn)) ≠ [] ∨
        ¬ e.pre.server.dataDirty = true ∧ conn ∈ e.pre.server.conns) := by
  obtain ⟨pre, act, out, post⟩ := e
  have hsame {s s' : SessionServer} (h : s'.dataDirty = true ∨ s.SameData s')
      (hd : ¬ s'.dataDirty = true) (hc : conn ∈ s'.conns) :
      s'.shared = s.shared ∧ ¬ s.dataDirty = true ∧ conn ∈ s.conns := by
    obtain h := h.resolve_left hd
    exact ⟨h.shared, by rwa [← h.dataDirty], by rwa [conns, ← h.clients]⟩
  have hnext : pre.next act = some (out, post) := hstep
  have hmove := moves_of_next hnext
  cases hmove with
  | beginStep | pollError | nullMessage => exact ⟨rfl, .inr ⟨hdirty, hconn⟩⟩
  | statusChanged =>
    rename_i s info
    obtain ⟨hview, hpre⟩ := hsame (s.statusChanged_sameData info) hdirty hconn
    exact ⟨hview, .inr hpre⟩
  | resetLobbyForRematch => exact absurd rfl hdirty
  | message =>
    rename_i st st' m ev hev hids hh
    obtain ⟨r, hm, heq⟩ := Option.map_eq_some_iff.1 hnext
    obtain ⟨rfl, hpost⟩ := Prod.mk.inj heq
    obtain rfl := Phase.receiving.inj hpost
    obtain ⟨hview, hpre⟩ := hsame (StepState.onMessage_sameData hm) hdirty hconn
    exact ⟨hview, .inr hpre⟩
  | endStep =>
    rename_i st
    refine ⟨rfl, ?_⟩
    by_cases hd : st.server.dataDirty = true
    · exact .inl (updates_broadcasts_ne_nil hd hconn)
    · exact .inr ⟨hd, hconn⟩

/-- A copy that is sent is the data of the moment. -/
lemma eq_shared_of_mem_updates {e : ServerEntry} (hstep : serverLTS.Steps e)
    (conn : HSteamNetConnection) :
    ∀ u ∈ updates (e.out.flatMap (Output.deliveries conn)), u = e.pre.server.shared := by
  intro u hu
  obtain ⟨hl, hd⟩ := update_of_steps hstep (mem_updates.1 hu)
  exact Prod.ext hl hd

lemma not_mem_conns_of_fresh {ph : Phase} (h : Fresh ph) (conn : HSteamNetConnection) :
    conn ∉ ph.server.conns := by
  obtain ⟨identity, hash, edition, count, time, rfl⟩ := h
  exact List.not_mem_nil

/-- The session server publishes its data to the members on a connection. -/
def lobbyPublisher (conn : HSteamNetConnection) : Publisher serverLTS (LobbyData × MatchData) where
  view ph := ph.server.shared
  Behind ph := ph.server.dataDirty = true
  Subscribed ph := conn ∈ ph.server.conns
  news out := updates (out.flatMap (Output.deliveries conn))
  eq_of_mem_news hstep := eq_shared_of_mem_updates hstep conn
  kept hstep hdirty hconn := shared_of_steps hstep hdirty hconn
  not_subscribed hfresh := not_mem_conns_of_fresh hfresh conn

lemma published_lobbyPublisher (conn : HSteamNetConnection) (log : List ServerEntry) :
    (lobbyPublisher conn).published log = updates (received conn log) := by
  induction log with
  | nil => rfl
  | cons e log ih => rw [Publisher.published_cons, ih, received_cons, updates_append]; rfl

/-- The data as a peer reads them: the members' flags are not transmitted. -/
def SessionServer.shown (s : SessionServer) : LobbyData × MatchData :=
  ({ StepState.sentLobbyData s with
    members := (StepState.sentLobbyData s).members.map MemberData.received }, s.matchData)

/-- **Everybody in the lobby is told.** In every run, whenever no data update is due, what was
sent to a member last is the server's data; so any two members have been told the same. -/
theorem holds_current {log : List ServerEntry} {ph : Phase} (h : serverLTS.Run log ph)
    (hdirty : ph.server.dataDirty = false) {conn : HSteamNetConnection}
    (hconn : conn ∈ ph.server.conns) : holds (received conn log) = ph.server.shown := by
  have hbehind : ¬ (lobbyPublisher conn).Behind ph := Bool.not_eq_true _ ▸ hdirty
  have hlast := (lobbyPublisher conn).current h hbehind hconn
  rw [published_lobbyPublisher] at hlast
  rw [holds, hlast]
  rfl

/-! ## One client's copy -/

section Copy

variable {conn : HSteamNetConnection}

/-- The data a client shows. -/
def LobbyClient.data (c : LobbyClient) : LobbyData × MatchData := (c.lobbyData, c.matchData)

/-- What the server did in the course of a link's log. -/
def serverLog (conn : HSteamNetConnection) (log : List LinkEntry) : List ServerEntry :=
  log.filterMap fun e => (serverAction? conn e).map fun a => ⟨e.pre.phase, a, e.out, e.post.phase⟩

lemma serverLog_append (newer older : List LinkEntry) :
    serverLog conn (newer ++ older) = serverLog conn newer ++ serverLog conn older :=
  List.filterMap_append

/-- The server of a link runs like any server. -/
lemma serverLog_run {log : List LinkEntry} {t : Link} (h : (linkLTS conn).Run log t) :
    serverLTS.Run (serverLog conn log) t.phase := by
  refine h.invariant_of_step (fun log t => serverLTS.Run (serverLog conn log) t.phase) ?_ ?_
  · rintro t ⟨hfresh, -⟩
    exact ⟨_, hfresh, .refl⟩
  · rintro log ⟨t, act, out, t'⟩ hrun hstep
    have hmove : LinkMoves conn t act out t' := linkMoves_of_next hstep
    cases hmove with
    | server hconn hnext =>
      rename_i a ph'
      exact hrun.snoc (e := ⟨t.phase, a, out, ph'⟩) hnext
    | handle hup hnext =>
      rename_i addr loc p up ph'
      have hentry (t' : Link) : serverLog conn (⟨t, .handle addr loc, out, t'⟩ :: log) =
          ⟨t.phase, .message (incoming conn addr loc p), out, t'.phase⟩ :: serverLog conn log := by
        simp [serverLog, serverAction?, hup]
      rw [hentry]
      have hstep' : serverLTS.Steps
          ⟨t.phase, .message (incoming conn addr loc p), out, ph'⟩ := hnext
      exact hrun.snoc hstep'
    | deliver | ready | send => exact hrun

/-- What the client has received: the rest of what was sent is on its way, and the client holds
the data of it. -/
structure HasSeen (conn : HSteamNetConnection) (log : List LinkEntry) (t : Link)
    (seen : List ServerMessage) : Prop where
  /-- Nothing is lost, doubled or overtaken. -/
  sent : received conn (serverLog conn log) = seen ++ t.down
  /-- The client shows the last update. -/
  data : t.client.data = holds seen

/-- A message brings the client's data up to date, if it is an update. -/
lemma data_receive {c : LobbyClient} {seen : List ServerMessage} (h : c.data = holds seen)
    (msg : ServerMessage) : (c.receive msg).1.data = holds (seen ++ [msg]) := by
  cases msg with
  | dataUpdate l d =>
    rw [holds_snoc_update]
    show (c.onDataUpdate l d).data = _
    unfold LobbyClient.onDataUpdate
    dsimp only
    split
    · split
      · rfl
      · split <;> rfl
    · rfl
  | helloResp | joinReject | lobbyAllReady | battleSynced | punchGo | relayed =>
    rw [holds_snoc_of_not_update (by simp [updates])]
    exact h

/-- **Step lemma for a copy.** The client goes on from what it has seen. -/
lemma HasSeen.step {log : List LinkEntry} {e : LinkEntry} {seen : List ServerMessage}
    (h : HasSeen conn log e.pre seen) (hstep : (linkLTS conn).Steps e) :
    ∃ seen', seen <+: seen' ∧ HasSeen conn (e :: log) e.post seen' := by
  obtain ⟨t, act, out, t'⟩ := e
  have hmove : LinkMoves conn t act out t' := linkMoves_of_next hstep
  have hreceived : received conn (serverLog conn log) = seen ++ t.down := h.sent
  cases hmove with
  | server hconn hnext =>
    refine ⟨seen, List.prefix_rfl, ?_, h.data⟩
    simp [serverLog, serverAction?, ← List.append_assoc, ← hreceived]
  | handle hup hnext =>
    refine ⟨seen, List.prefix_rfl, ?_, h.data⟩
    simp [serverLog, serverAction?, hup, ← List.append_assoc, ← hreceived]
  | deliver hdown =>
    rename_i msg down
    refine ⟨seen ++ [msg], List.prefix_append seen [msg], ?_, data_receive h.data msg⟩
    show received conn (serverLog conn log) = (seen ++ [msg]) ++ down
    rw [hreceived, hdown, List.append_assoc, List.singleton_append]
  | ready | send => exact ⟨seen, List.prefix_rfl, h.sent, h.data⟩

lemma hasSeen_of_run {log : List LinkEntry} {t : Link} (h : (linkLTS conn).Run log t) :
    ∃ seen, HasSeen conn log t seen := by
  refine h.invariant_of_step (fun log t => ∃ seen, HasSeen conn log t seen) ?_ ?_
  · rintro t ⟨-, -, hdown, name, hash, port, hclient⟩
    exact ⟨[], by simp [hdown, serverLog], by rw [hclient]; rfl⟩
  · rintro log e ⟨seen, h⟩ hstep
    obtain ⟨seen', -, h'⟩ := h.step hstep
    exact ⟨seen', h'⟩

lemma HasSeen.path {log newer : List LinkEntry} {t t' : Link} {seen : List ServerMessage}
    (h : HasSeen conn log t seen) (hpath : (linkLTS conn).Path t newer t') :
    ∃ seen', seen <+: seen' ∧ HasSeen conn (newer ++ log) t' seen' := by
  induction hpath with
  | refl => exact ⟨seen, List.prefix_rfl, h⟩
  | snoc _ hstep ih =>
    obtain ⟨seen₁, hpre₁, h₁⟩ := ih
    obtain ⟨seen₂, hpre₂, h₂⟩ := h₁.step hstep
    exact ⟨seen₂, hpre₁.trans hpre₂, h₂⟩

/-- The data the server had before the last entry of a log, as a peer reads them; before the
first update a client shows an empty lobby. -/
def shownAt : List ServerEntry → LobbyData × MatchData
  | [] => (LobbyData.nullLobby, MatchData.clear)
  | e :: _ => e.pre.server.shown

/-- The client shows what the server had when it sent the last update the client has seen. -/
lemma HasSeen.data_eq_shownAt {log : List LinkEntry} {t : Link} {seen : List ServerMessage}
    (h : HasSeen conn log t seen) (hrun : (linkLTS conn).Run log t) :
    t.client.data =
      shownAt ((lobbyPublisher conn).reach (updates seen).length (serverLog conn log)) := by
  obtain ⟨s, -, hpath⟩ := serverLog_run hrun
  rw [h.data, holds]
  cases hlast : (updates seen).getLast? with
  | none =>
    rw [List.getLast?_eq_none_iff.1 hlast, List.length_nil, Publisher.reach_zero]
    rfl
  | some u =>
    obtain ⟨us, hus⟩ := List.getLast?_eq_some_iff.1 hlast
    have hget : ((lobbyPublisher conn).published (serverLog conn log))[us.length]? = some u := by
      rw [published_lobbyPublisher, h.sent, updates_append, hus]
      simp
    obtain ⟨e, older, hreach, hview⟩ := (lobbyPublisher conn).exists_reach_eq_cons hpath hget
    rw [hus, List.length_append, List.length_singleton, hreach, hview]
    rfl

/-- A client to which nothing is on its way shows what a member was told last. -/
lemma HasSeen.current {log : List LinkEntry} {t : Link} {seen : List ServerMessage}
    (h : HasSeen conn log t seen) (hrun : (linkLTS conn).Run log t)
    (hdirty : t.phase.server.dataDirty = false) (hconn : conn ∈ t.phase.server.conns)
    (hdown : updates t.down = []) : t.client.data = t.phase.server.shown := by
  rw [← holds_current (serverLog_run hrun) hdirty hconn, h.sent, h.data, holds, holds,
    updates_append, hdown, List.append_nil]

/-- **No client is left behind.** In every run of a server with a client, whenever no data update
is due at the server or on its way to the client, a client that is in the lobby shows the data
the server has. -/
theorem data_eq_shown {log : List LinkEntry} {t : Link} (h : (linkLTS conn).Run log t)
    (hdirty : t.phase.server.dataDirty = false) (hconn : conn ∈ t.phase.server.conns)
    (hdown : updates t.down = []) : t.client.data = t.phase.server.shown := by
  obtain ⟨seen, hseen⟩ := hasSeen_of_run h
  exact hseen.current h hdirty hconn hdown

/-- A client introduces itself and joins; the update about it is on its way. -/
def LinkAction.join : List LinkAction :=
  [.send (.bare .sessionHello), .server .beginStep, .handle "" true, .server .endStep, .deliver,
    .server .beginStep, .handle "" true, .server .endStep]

/-- A client that has joined and received the update about it. -/
theorem data_eq_shown_joined :
    ∃ log t, (linkLTS 1).Run log t ∧ t.phase.server.conns = [1] ∧
      t.client.data = t.phase.server.shown := by
  obtain ⟨log, t, hrun, hdirty, hconns, hdown⟩ :=
    exists_link_run_of_exec (LinkAction.join ++ [.deliver])
    (p := fun _ t => t.phase.server.dataDirty = false ∧ t.phase.server.conns = [1] ∧
      updates t.down = []) (by decide +kernel)
  exact ⟨log, t, hrun, hconns, data_eq_shown hrun hdirty (by simp [hconns]) hdown⟩

end Copy

end Sf4e
