/-
# The settings of a lobby

The settings of the matches to come (rounds, time, editions, training) are part of the lobby data.
The server starts with some, and the player on the first side may set others at any time.  All the
rest of what happens to a server leaves them alone (`settings_of_next`), and with the data updates
they come to everybody in the lobby.
-/
import Sf4e.Session.Network

namespace Sf4e

open SessionProtocol SessionServer Trace

/-! ## At the server -/

/-- The settings in the lobby data. -/
def SessionProtocol.LobbyData.settings (l : LobbyData) : LobbySetSettings :=
  ⟨l.editionSelect, l.roundCount, l.roundTime, l.trainingMode⟩

/-- The settings that a message sets: they can be read, and the sender is the first player. -/
def SessionServer.accepts (s : SessionServer) (m : Incoming) : Option LobbySetSettings :=
  match s.request m with
  | some (.lobbySetSettings, doc) => if s.side m.conn = some 0 then doc.setSettings else none
  | _ => none

/-- The settings that an action sets. -/
def Phase.accepts : Phase → Action → Option LobbySetSettings
  | .receiving st, .message m => st.server.accepts m
  | _, _ => none

section Handlers

variable (s : SessionServer) (conn : HSteamNetConnection)

lemma settings_hostSetter {ρ : Type} (request : Option ρ) {set : ρ → SessionServer}
    (h : ∀ r, (set r).lobbyData.settings = s.lobbyData.settings) :
    (s.hostSetter conn request set).lobbyData.settings = s.lobbyData.settings := by
  unfold hostSetter
  split
  · rfl
  · split
    · rfl
    · exact h _

/-- The handler of the settings. -/
lemma settings_onSetSettings (doc : Document) :
    (s.onSetSettings conn doc).lobbyData.settings =
      (if s.side conn = some 0 then doc.setSettings else none).getD s.lobbyData.settings := by
  unfold onSetSettings hostSetter
  by_cases hside : s.side conn = some 0
  · rw [if_neg (not_not.2 hside), if_pos hside]
    cases doc.setSettings with
    | none => rfl
    | some r => rfl
  · rw [if_pos hside, if_neg hside]
    rfl

lemma settings_onJoinReq (m : Incoming) (doc : Document) (cid : ConnectionID) :
    (s.onJoinReq m doc cid).1.lobbyData = s.lobbyData := by
  unfold onJoinReq
  split
  · rfl
  · rename_i request _
    obtain ⟨c, hreg⟩ | ⟨r, hr, hreg⟩ := s.registerToWait_cases m request cid
    · rw [hreg]
    · rw [hreg]
      split
      · rename_i heq
        exact absurd (Prod.mk.inj heq).1 hr
      · rename_i heq
        rw [(Prod.mk.inj heq).2]

lemma settings_onReportResults {s' : SessionServer} {doc : Document}
    (h : s.onReportResults doc = some s') : s'.lobbyData = s.lobbyData := by
  unfold onReportResults handleResults at h
  split at h
  · obtain rfl := Option.some.inj h
    rfl
  · split at h
    · exact absurd h (by simp)
    · split at h
      · exact absurd h (by simp)
      · obtain rfl := Option.some.inj h
        rfl

end Handlers

/-- The other handlers. -/
lemma settings_of_onRegistered {st st' : StepState} {m : Incoming} {doc : Document}
    {type : MessageType} {cid : ConnectionID} {out : List Output}
    (h : st.onRegistered m doc type cid = some (st', out)) (htype : type ≠ .lobbySetSettings) :
    st'.server.lobbyData.settings = st.server.lobbyData.settings := by
  cases type
  case lobbySetSettings => exact absurd rfl htype
  case lobbyReportResults =>
    obtain ⟨s', hs', heq⟩ := Option.map_eq_some_iff.1 h
    obtain ⟨rfl, -⟩ := Prod.mk.inj heq
    exact congrArg LobbyData.settings (settings_onReportResults _ hs')
  all_goals obtain ⟨rfl, -⟩ := Prod.mk.inj (Option.some.inj h)
  case sessionJoinReq => exact congrArg LobbyData.settings (settings_onJoinReq _ m doc cid)
  case preBattleSetChara =>
    show (st.server.onSetChara m.conn doc).lobbyData.settings = _
    unfold onSetChara
    split <;> rfl
  case preBattleSetEnv => exact settings_hostSetter _ _ _ fun _ => rfl
  case preBattleSetStage => exact settings_hostSetter _ _ _ fun _ => rfl
  case lobbyReady =>
    unfold StepState.onReady
    split <;> rfl
  case lobbyReset =>
    show (st.server.onReset m.conn).lobbyData.settings = _
    unfold onReset
    split <;> rfl
  case punchReady =>
    show (st.server.onPunchReady m.conn).1.lobbyData.settings = _
    unfold onPunchReady
    split
    · rfl
    · dsimp only
      split <;> rfl
  all_goals rfl

/-- **A message sets what it may set.** Of all messages only one leaves other settings behind. -/
lemma settings_of_onMessage {st st' : StepState} {m : Incoming} {out : List Output}
    (h : st.onMessage m = some (st', out)) :
    st'.server.lobbyData.settings =
      (st.server.accepts m).getD st.server.lobbyData.settings := by
  obtain ⟨type, doc, cid, hreq, -, hreg⟩ | ⟨hreq, rfl, -⟩ | ⟨hreq, -, rfl, -⟩ :=
    StepState.onMessage_request h
  · have hnone : type ≠ .lobbySetSettings → st.server.accepts m = none := by
      intro htype
      unfold SessionServer.accepts
      rw [hreq]
      split
      · rename_i heq
        exact absurd (Prod.mk.inj (Option.some.inj heq)).1 htype
      · rfl
    by_cases htype : type = .lobbySetSettings
    · subst htype
      obtain ⟨rfl, -⟩ := Prod.mk.inj (Option.some.inj hreg)
      rw [SessionServer.accepts, hreq]
      exact settings_onSetSettings st.server m.conn doc
    · rw [hnone htype]
      exact settings_of_onRegistered hreg htype
  · rw [SessionServer.accepts, hreq]
    rfl
  · rw [SessionServer.accepts, hreq]
    rfl

lemma settings_statusChanged (s : SessionServer) (info : StatusChange) :
    (s.onSteamNetConnectionStatusChanged info).lobbyData = s.lobbyData := by
  unfold onSteamNetConnectionStatusChanged
  split
  · split <;> rfl
  · rfl

/-- **Step lemma for the settings.** -/
lemma settings_of_next {ph ph' : Phase} {a : Action} {out : List Output}
    (h : ph.next a = some (out, ph')) :
    ph'.server.lobbyData.settings = (ph.accepts a).getD ph.server.lobbyData.settings := by
  have hmove := moves_of_next h
  cases hmove with
  | message =>
    obtain ⟨⟨st', out'⟩, hm, heq⟩ := Option.map_eq_some_iff.1 h
    obtain ⟨rfl, hst⟩ := Prod.mk.inj heq
    obtain rfl := Phase.receiving.inj hst
    exact settings_of_onMessage hm
  | statusChanged => exact congrArg LobbyData.settings (settings_statusChanged _ _)
  | beginStep | pollError | resetLobbyForRematch | nullMessage | endStep => rfl

/-! ## In the lobby -/

/-- The settings that a step of a network sets. -/
def NetworkEntry.accepts (e : NetworkEntry) : Option LobbySetSettings :=
  match e.act with
  | .client conn (.handle addr loc) =>
    ((e.pre.ends conn).up.head?).bind fun p =>
      e.pre.phase.accepts (.message (incoming conn addr loc p))
  | _ => none

lemma settings_of_steps {e : NetworkEntry} (h : networkLTS.Steps e) :
    e.post.phase.server.lobbyData.settings =
      e.accepts.getD e.pre.phase.server.lobbyData.settings := by
  obtain ⟨n, act, out, n'⟩ := e
  have hnext : n.next act = some (out, n') := h
  cases act with
  | server a =>
    simp only [Network.next] at hnext
    split at hnext
    · rename_i hnone
      obtain ⟨⟨out', ph'⟩, hphase, heq⟩ := Option.map_eq_some_iff.1 hnext
      obtain ⟨rfl, rfl⟩ := Prod.mk.inj heq
      rw [show NetworkEntry.accepts _ = none from rfl]
      have haccepts : n.phase.accepts a = none := by
        cases a with
        | message m => exact absurd hnone (by simp [Action.message?])
        | beginStep | nullMessage | endStep | pollError | statusChanged | resetLobbyForRematch =>
          cases hph : n.phase <;> rfl
      have hset := settings_of_next hphase
      rwa [haccepts] at hset
    · exact absurd hnext (by simp)
  | client c a =>
    simp only [Network.next] at hnext
    split at hnext
    · exact absurd hnext (by simp)
    · obtain ⟨⟨out', t'⟩, hlink, heq⟩ := Option.map_eq_some_iff.1 hnext
      obtain ⟨rfl, rfl⟩ := Prod.mk.inj heq
      have hmove := linkMoves_of_next hlink
      cases hmove with
      | server => exact absurd rfl ‹¬ _›
      | handle hup hphase =>
        have hhead : (n.ends c).up.head? = some _ := congrArg List.head? hup
        have hset := settings_of_next hphase
        simp only [NetworkEntry.accepts, hhead, Option.bind_some]
        exact hset
      | deliver | ready | send => rfl

/-- **Everybody plays by the host's settings.** In every run of a server and its clients, a client
in the lobby that is up to date shows the settings of the last request that a first player sent
and the server could read, or those the server was started with when there was none. -/
theorem settings_shown {n₀ n : Network} {log : List NetworkEntry} (hinit : FreshNetwork n₀)
    (h : networkLTS.Path n₀ log n) {conn : HSteamNetConnection} (hup : n.UpToDate conn) :
    (n.ends conn).client.lobbyData.settings =
      (log.findSome? NetworkEntry.accepts).getD n₀.phase.server.lobbyData.settings := by
  have hserver : n.phase.server.lobbyData.settings =
      (log.findSome? NetworkEntry.accepts).getD n₀.phase.server.lobbyData.settings := by
    refine h.invariant
      (fun log n => n.phase.server.lobbyData.settings =
        (log.findSome? NetworkEntry.accepts).getD n₀.phase.server.lobbyData.settings)
      rfl (fun log e hpre hs (_ : True) => ?_) fun _ _ => trivial
    rw [settings_of_steps hs, hpre, List.findSome?_cons]
    cases NetworkEntry.accepts e <;> rfl
  rw [← hserver]
  exact congrArg (fun d => d.1.settings) (hup.data ⟨n₀, hinit, h⟩)

/-- Settings of a short match. -/
def quickSettings : LobbySetSettings := ⟨false, 1, ⟨0, 30⟩, false⟩

/-- Two clients join, and the first one sets other settings. -/
def NetworkAction.setQuick : List NetworkAction :=
  join 1 ++ join 2 ++
    [.client 1 (.send { Document.bare .lobbySetSettings with setSettings := some quickSettings }),
      .server .beginStep, .client 1 (.handle "" true), .server .endStep, .client 1 .deliver,
      .client 1 .deliver, .client 2 .deliver]

/-- Other settings have come to the second player. -/
theorem settings_shown_quick :
    ∃ log n, networkLTS.Path .fresh log n ∧
      (n.ends 2).client.lobbyData.settings = quickSettings := by
  obtain ⟨log, n, hpath, hdirty, hconns, hdown, hlast⟩ :
      ∃ log n, networkLTS.Path .fresh log n ∧
        n.phase.server.dataDirty = false ∧ n.phase.server.conns = [1, 2] ∧
        updates (n.ends 2).down = [] ∧
        log.findSome? NetworkEntry.accepts = some quickSettings :=
    LTS.exists_path_of_exec NetworkAction.setQuick (by decide +kernel)
  have hinit : FreshNetwork .fresh :=
    ⟨⟨_, _, _, _, _, rfl⟩, fun _ => ⟨rfl, rfl, _, _, _, rfl⟩⟩
  refine ⟨log, n, hpath, ?_⟩
  rw [settings_shown hinit hpath ⟨hdirty, by simp [hconns], hdown⟩, hlast]
  rfl

end Sf4e
