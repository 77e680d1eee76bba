/-
# What a closed connection leaves behind

What the server knows of a connection is spread over the id map, the member list, the ready
numbers and the punch marks.  The handler of a lost connection erases one member and nothing
else, so that the id always stays, and the next connection that gets the handle is introduced
already.

A `Host` is the server together with the transport's view of the connections: their states
follow the life cycle of the transport, messages arrive on connected ones only, and a handle that
was closed may be given out again.  `nothingLeft_iff` finds exactly the steps that leave
something: the loss of a connection that has an id.
-/
import Sf4e.Session.Attribution

namespace Sf4e

open SessionProtocol SessionServer Trace

/-! ## Connections -/

namespace SessionServer.ConnectionState

/-- The life cycle of a connection. -/
def leadsTo : ConnectionState → ConnectionState → Bool
  | .none, .connecting => true
  | .connecting, s => s == .findingRoute || s == .connected || s == .closedByPeer ||
      s == .problemDetectedLocally
  | .findingRoute, s => s == .connected || s == .closedByPeer || s == .problemDetectedLocally
  | .connected, s => s == .closedByPeer || s == .problemDetectedLocally
  | _, _ => false

end SessionServer.ConnectionState

/-- The server and the transport's connections. -/
structure Host where
  phase : Phase
  /-- The state of the connection under each handle. -/
  link : HSteamNetConnection → ConnectionState

/-- What happens to the host. -/
inductive HostAction
  /-- Something happens to the server. -/
  | server (act : Action)
  /-- `AddConnection`: the hosting game's own client, over a pair of connected sockets. -/
  | addConnection (conn : HSteamNetConnection)
deriving DecidableEq

/-- The status change that an action reports. -/
def HostAction.statusChange? : HostAction → Option StatusChange
  | .server a => a.statusChange?
  | .addConnection _ => none

namespace Host

/-- The connection is open. -/
def Open (t : Host) (conn : HSteamNetConnection) : Prop := t.link conn = .connected

instance (t : Host) (conn : HSteamNetConnection) : Decidable (t.Open conn) :=
  inferInstanceAs (Decidable (_ = _))

/-- The state of the connection after a callback: `CloseConnection` frees the handle of one
that was connected. -/
def linkAfter (info : StatusChange) : ConnectionState := if info.drops then .none else info.state

/-- The transport can report what the action reports. -/
def Allows (t : Host) : Action → Prop
  | .message m => t.Open m.conn
  | .statusChanged info =>
    t.link info.conn = info.oldState ∧ info.oldState.leadsTo info.state = true
  | _ => True

instance (t : Host) : DecidablePred t.Allows := fun a => by
  unfold Allows
  split <;> infer_instance

/-- The connections after an action of the server. -/
def links (t : Host) : Action → HSteamNetConnection → ConnectionState
  | .statusChanged info => Function.update t.link info.conn (linkAfter info)
  | _ => t.link

/-- One step; `none` when it cannot be taken. -/
def next (t : Host) : HostAction → Option (List Output × Host)
  | .server a =>
    if t.Allows a then (t.phase.next a).map fun r => (r.1, ⟨r.2, t.links a⟩) else none
  | .addConnection conn =>
    if t.link conn = .none then
      some ([], { t with link := Function.update t.link conn .connected })
    else none

end Host

/-- The runs of a host, from a fresh server without connections. -/
def hostLTS : LTS Host HostAction (List Output) :=
  .ofFun (fun t => Fresh t.phase ∧ t.link = fun _ => .none) Host.next

/-- One step of the host. -/
abbrev HostEntry := Entry Host HostAction (List Output)

/-! ## The property and the condition -/

/-- Nothing is left of a connection that is not open. -/
structure Host.NothingLeft (t : Host) : Prop where
  /-- Every key of the id map is an open connection. -/
  ids : ∀ conn, (t.phase.server.cidMap conn).isSome = true → t.Open conn
  /-- Every member is on an open connection. -/
  members : ∀ m ∈ t.phase.server.clients, t.Open m.conn
  /-- Every slot with a ready number or a punch mark has a member on an open connection. -/
  marks : ∀ i, t.phase.server.matchData.readyMessageNum i ≠ -1 ∨
    t.phase.server.punchReady i = true →
      ∃ m, t.phase.server.player i = some m ∧ t.Open m.conn

/-- What becomes of a handle that is not open: no id and no member. -/
lemma Host.NothingLeft.unknown {t : Host} (h : t.NothingLeft) {conn : HSteamNetConnection}
    (hclosed : ¬ t.Open conn) :
    t.phase.server.cidMap conn = none ∧ conn ∉ t.phase.server.conns ∧
      t.phase.server.side conn = none := by
  have hconns : conn ∉ t.phase.server.conns := by
    intro hmem
    obtain ⟨m, hm, rfl⟩ := List.mem_map.1 hmem
    exact hclosed (h.members m hm)
  refine ⟨?_, hconns, ?_⟩
  · by_contra hsome
    exact hclosed (h.ids conn (Option.isSome_iff_ne_none.2 hsome))
  · by_contra hside
    obtain ⟨i, hi⟩ := Option.ne_none_iff_exists'.1 hside
    obtain ⟨m, hm, rfl⟩ := exists_player_of_side hi
    exact hconns (List.mem_map_of_mem (List.mem_of_getElem? hm))

/-- A connection that has an id is lost. -/
def LosesId (e : HostEntry) : Prop :=
  ∃ info ∈ e.act.statusChange?, info.drops = true ∧
    (e.pre.phase.server.cidMap info.conn).isSome = true

instance : DecidablePred LosesId := fun e =>
  inferInstanceAs (Decidable (∃ info ∈ e.act.statusChange?, info.drops = true ∧
    (e.pre.phase.server.cidMap info.conn).isSome = true))

/-! ## Steps of the server -/

namespace SessionServer

/-- The slots with a ready number or a punch mark are taken. -/
def MarksTaken (s : SessionServer) : Prop :=
  ∀ i, s.matchData.readyMessageNum i ≠ -1 ∨ s.punchReady i = true → i.val < s.clients.length

lemma lt_length_of_side {s : SessionServer} {conn : HSteamNetConnection} {i : Side}
    (h : s.side conn = some i) : i.val < s.clients.length := by
  obtain ⟨m, hm, -⟩ := exists_player_of_side h
  by_contra hge
  simp [player, List.getElem?_eq_none (not_lt.1 hge)] at hm

end SessionServer

namespace StepState

/-- No message makes the lobby smaller. -/
lemma length_clients_of_onMessage {st st' : StepState} {m : Incoming} {out : List Output}
    (h : st.onMessage m = some (st', out)) :
    st.server.clients.length ≤ st'.server.clients.length := by
  have hhandled := onMessage_loadHandled h
  generalize st.server.loadEvent m = ev at hhandled
  cases hhandled with
  | loaded => simp [onBattleLoaded]
  | reset => simp [SessionServer.resetLobbyForRematch, resetBattleSync]
  | join hclients => simp [hclients]
  | other hclients => exact hclients.length_eq.ge

/-- A ready number was there before or is that of a player who has just got ready. -/
lemma ready_of_onMessage {st st' : StepState} {m : Incoming} {out : List Output}
    (h : st.onMessage m = some (st', out)) {i : Side}
    (hready : st'.server.matchData.readyMessageNum i ≠ -1) :
    st.server.matchData.readyMessageNum i ≠ -1 ∨ st.server.side m.conn = some i := by
  have hhandled := onMessage_cases h
  generalize st.server.event m = ev at hhandled
  cases hhandled with
  | ready hside =>
    rename_i j
    by_cases hj : i = j
    · exact .inr (hj ▸ hside)
    · simp only [markReady, Function.update_of_ne hj] at hready
      exact .inl hready
  | reset hside => exact absurd rfl hready
  | results hs' =>
    unfold handleResults at hs'
    split_ifs at hs'
    split at hs'
    · exact absurd hs' (by simp)
    · obtain rfl := Option.some.inj hs'
      exact absurd rfl hready
  | setter hs' => exact .inl (hs'.ready ▸ hready)
  | other hquiet hlatch hout => exact .inl (hquiet.ready ▸ hready)

/-- A punch mark was there before or is that of a player who has just reported. -/
lemma punch_of_onMessage {st st' : StepState} {m : Incoming} {out : List Output}
    (h : st.onMessage m = some (st', out)) {i : Side} (hpunch : st'.server.punchReady i = true) :
    st.server.punchReady i = true ∨ st.server.side m.conn = some i := by
  have hhandled := onMessage_slotHandled h
  generalize st.server.slotEvent m = ev at hhandled
  cases hhandled with
  | select hside hchara hsame hclients => exact .inl (hsame ▸ hpunch)
  | punch hside hchara hmarks hclients hgo =>
    rename_i j _
    rw [hmarks] at hpunch
    simp only [punchedMarks] at hpunch
    split at hpunch
    · simp at hpunch
    · by_cases hj : i = j
      · exact .inr (hj ▸ hside)
      · rw [Function.update_of_ne hj] at hpunch
        exact .inl hpunch
  | reset hside => simp [SessionServer.resetLobbyForRematch] at hpunch
  | results hs' =>
    unfold handleResults at hs'
    split_ifs at hs'
    split at hs'
    · exact absurd hs' (by simp)
    · obtain rfl := Option.some.inj hs'
      exact .inl hpunch
  | other hkeep hgo => exact .inl (hkeep.punch ▸ hpunch)

lemma marksTaken_of_onMessage {st st' : StepState} {m : Incoming} {out : List Output}
    (h : st.onMessage m = some (st', out)) (hmarks : st.server.MarksTaken) :
    st'.server.MarksTaken := by
  intro i hset
  refine lt_of_lt_of_le ?_ (length_clients_of_onMessage h)
  have hold : (st.server.matchData.readyMessageNum i ≠ -1 ∨ st.server.punchReady i = true) ∨
      st.server.side m.conn = some i := by
    rcases hset with hready | hpunch
    · exact (ready_of_onMessage h hready).imp_left .inl
    · exact (punch_of_onMessage h hpunch).imp_left .inr
  rcases hold with hold | hside
  · exact hmarks i hold
  · exact lt_length_of_side hside

/-- A message gives an id to its own connection at most. -/
lemma cidMap_isSome_of_onMessage {st st' : StepState} {m : Incoming} {out : List Output}
    (h : st.onMessage m = some (st', out)) {conn : HSteamNetConnection}
    (hcid : (st'.server.cidMap conn).isSome = true) :
    (st.server.cidMap conn).isSome = true ∨ conn = m.conn := by
  rcases onMessage_request h with ⟨type, doc, cid, -, -, hreg⟩ | ⟨-, rfl, -⟩ | ⟨-, -, rfl, -⟩
  · exact .inl (onRegistered_cidMap hreg ▸ hcid)
  · exact .inl hcid
  · by_cases hc : conn = m.conn
    · exact .inr hc
    · simp only [onHello, Function.update_of_ne hc] at hcid
      exact .inl hcid

end StepState

/-! ## Runs -/

/-- **Invariant.** Ids are given on open connections, members have ids, and marks are on taken
slots. -/
structure Host.Kept (t : Host) : Prop where
  ids : ∀ conn, (t.phase.server.cidMap conn).isSome = true → t.Open conn
  hasIds : t.phase.server.HasIds
  marks : t.phase.server.MarksTaken

lemma Host.Kept.nothingLeft {t : Host} (h : t.Kept) : t.NothingLeft where
  ids := h.ids
  members m hm := h.ids m.conn (h.hasIds m hm)
  marks i hset := by
    have hi := h.marks i hset
    refine ⟨_, List.getElem?_eq_getElem hi, ?_⟩
    exact h.ids _ (h.hasIds _ (List.getElem_mem hi))

lemma kept_of_init {t : Host} (h : hostLTS.init t) : t.Kept := by
  obtain ⟨⟨identity, hash, edition, rounds, time, hph⟩, -⟩ := h
  refine ⟨?_, ?_, ?_⟩
  · intro conn hcid
    simp [hph, SessionServer.new] at hcid
  · intro c hc
    simp [hph, SessionServer.new] at hc
  · intro i hset
    simp [hph, SessionServer.new] at hset

/-- The step of the server behind a step of the host. -/
lemma Host.next_server {t t' : Host} {a : Action} {out : List Output}
    (h : t.next (.server a) = some (out, t')) :
    t.Allows a ∧ t.phase.next a = some (out, t'.phase) ∧ t'.link = t.links a := by
  simp only [Host.next] at h
  split at h
  · rename_i hallows
    obtain ⟨⟨o, ph⟩, hph, heq⟩ := Option.map_eq_some_iff.1 h
    obtain ⟨rfl, rfl⟩ := Prod.mk.inj heq
    exact ⟨hallows, hph, rfl⟩
  · exact absurd h (by simp)

/-- A lost connection without an id takes no member away. -/
lemma statusChanged_eq_self {s : SessionServer} (hids : s.HasIds) {info : StatusChange}
    (h : info.drops = true → s.cidMap info.conn = none) :
    s.onSteamNetConnectionStatusChanged info = s := by
  unfold onSteamNetConnectionStatusChanged
  split
  · rename_i hdrops
    split
    · rfl
    · rename_i k hk
      obtain ⟨hlt, hconn, -⟩ := List.findIdx?_eq_some_iff_getElem.1 hk
      have hsome := hids _ (List.getElem_mem hlt)
      rw [eq_of_beq hconn, h hdrops] at hsome
      simp at hsome
  · rfl

/-- A step of the server gives an id to the connection of its message at most. -/
lemma cidMap_isSome_of_next {ph ph' : Phase} {a : Action} {out : List Output}
    (h : ph.next a = some (out, ph')) {conn : HSteamNetConnection}
    (hcid : (ph'.server.cidMap conn).isSome = true) :
    (ph.server.cidMap conn).isSome = true ∨ ∃ m, a = .message m ∧ conn = m.conn := by
  cases moves_of_next h with
  | beginStep | pollError | nullMessage | endStep | resetLobbyForRematch => exact .inl hcid
  | statusChanged =>
    rw [Phase.server_idle, cidMap_statusChanged] at hcid
    exact .inl hcid
  | message hev hids hh =>
    rename_i m _
    obtain ⟨⟨st₁, out₁⟩, hmsg, heq⟩ := Option.map_eq_some_iff.1 h
    obtain rfl := Phase.receiving.inj (Prod.mk.inj heq).2
    exact (StepState.cidMap_isSome_of_onMessage hmsg hcid).imp_right fun hc => ⟨m, rfl, hc⟩

/-- The marks stay on taken slots while the server loses nobody. -/
lemma marksTaken_of_next {ph ph' : Phase} {a : Action} {out : List Output}
    (h : ph.next a = some (out, ph')) (hids : ph.server.HasIds)
    (hok : ∀ info, a = .statusChanged info → info.drops = true →
      ph.server.cidMap info.conn = none)
    (hmarks : ph.server.MarksTaken) : ph'.server.MarksTaken := by
  cases moves_of_next h with
  | beginStep | pollError | nullMessage | endStep => exact hmarks
  | resetLobbyForRematch =>
    intro i hset
    simp [SessionServer.resetLobbyForRematch, MatchData.clearReady] at hset
  | statusChanged =>
    rename_i s info
    have hself : s.onSteamNetConnectionStatusChanged info = s :=
      statusChanged_eq_self hids (hok info rfl)
    rw [hself]
    exact hmarks
  | message hev hids' hh =>
    obtain ⟨⟨st₁, out₁⟩, hmsg, heq⟩ := Option.map_eq_some_iff.1 h
    obtain rfl := Phase.receiving.inj (Prod.mk.inj heq).2
    exact StepState.marksTaken_of_onMessage hmsg hmarks

/-- **Step lemma.** A step that loses no connection with an id leaves nothing behind. -/
lemma Host.Kept.step {t t' : Host} {a : HostAction} {out : List Output} (h : t.Kept)
    (hnext : t.next a = some (out, t'))
    (hok : ∀ info, a = .server (.statusChanged info) → info.drops = true →
      t.phase.server.cidMap info.conn = none) : t'.Kept := by
  cases a with
  | addConnection conn =>
    simp only [Host.next] at hnext
    split at hnext
    · obtain ⟨-, rfl⟩ := Prod.mk.inj (Option.some.inj hnext)
      refine ⟨fun c hcid => ?_, h.hasIds, h.marks⟩
      by_cases hc : c = conn
      · simp [Open, hc]
      · simpa [Open, hc] using h.ids c hcid
    · exact absurd hnext (by simp)
  | server a =>
    obtain ⟨hallows, hph, hlink⟩ := Host.next_server hnext
    have hok' : ∀ info, a = .statusChanged info → info.drops = true →
        t.phase.server.cidMap info.conn = none := fun info ha => hok info (by rw [ha])
    refine ⟨fun c hcid => ?_, hasIds_of_next hph h.hasIds,
      marksTaken_of_next hph h.hasIds hok' h.marks⟩
    rw [Open, hlink]
    rcases cidMap_isSome_of_next hph hcid with hold | ⟨m, rfl, rfl⟩
    · have hopen := h.ids c hold
      cases a with
      | statusChanged info =>
        have hc : c ≠ info.conn := by
          rintro rfl
          -- an open connection can only be lost, and then it has no id
          obtain ⟨hlinked, hleads⟩ := hallows
          have hstate : info.oldState = .connected := hlinked.symm.trans hopen
          have hdrops : info.drops = true := by
            rw [hstate] at hleads
            simpa [StatusChange.drops, hstate, ConnectionState.leadsTo] using hleads
          rw [hok' info rfl hdrops] at hold
          simp at hold
        rw [links, Function.update_of_ne hc]
        exact hopen
      | beginStep | message | nullMessage | endStep | pollError | resetLobbyForRematch =>
        exact hopen
    · exact hallows

/-- **Step lemma.** The loss of a connection with an id leaves the id behind. -/
lemma not_nothingLeft_of_losesId {e : HostEntry} (hs : hostLTS.Steps e) (h : LosesId e) :
    ¬ e.post.NothingLeft := by
  obtain ⟨t, act, out, t'⟩ := e
  obtain ⟨info, hinfo, hdrops, hcid⟩ := h
  obtain rfl : act = .server (.statusChanged info) := by
    cases act with
    | server a => cases a <;> simp_all [HostAction.statusChange?, Action.statusChange?]
    | addConnection conn => simp [HostAction.statusChange?] at hinfo
  have hnext : t.next (.server (.statusChanged info)) = some (out, t') := hs
  obtain ⟨-, hph, hlink⟩ := Host.next_server hnext
  intro hleft
  have hopen : t'.link info.conn = .connected :=
    hleft.ids info.conn (keepsIds_of_next hph info.conn hcid)
  simp [hlink, Host.links, Host.linkAfter, hdrops] at hopen

/-- **Connection teardown.** In a run of the host nothing is ever left of a connection that is not
open exactly when no connection with an id is lost. -/
theorem nothingLeft_iff {log : List HostEntry} {t : Host} (h : hostLTS.Run log t) :
    (∀ e ∈ log, e.post.NothingLeft) ↔ ∀ e ∈ log, ¬ LosesId e := by
  constructor
  · intro hleft e he hloses
    obtain ⟨s, -, hpath⟩ := h
    exact not_nothingLeft_of_losesId (hpath.steps_of_mem he) hloses (hleft e he)
  · intro hok e he
    obtain ⟨newer, older, rfl⟩ := List.append_of_mem he
    obtain ⟨hrun, hs, -⟩ := h.at_entry
    have hkept : e.post.Kept := by
      have hrest : ∀ e' ∈ e :: older, (fun e => ¬ LosesId e) e' :=
        fun e' he' => hok e' (List.mem_append_right _ he')
      refine (hrun.snoc hs).invariant (fun _ t => t.Kept)
        (fun _ hinit => kept_of_init hinit) (fun _ e' hi hs' hno => ?_) hrest
      refine hi.step hs' fun info hact hdrops => ?_
      by_contra hcid
      exact hno ⟨info, by simp [hact, HostAction.statusChange?, Action.statusChange?], hdrops,
        Option.isSome_iff_ne_none.2 hcid⟩
    exact hkept.nothingLeft

/-- A list of actions that a fresh host can carry out, and whose log passes a test. -/
lemma exists_hostRun_of_exec (acts : List HostAction)
    {p : List HostEntry → Host → Prop} [∀ log t, Decidable (p log t)]
    (h : (LTS.exec Host.next ⟨.idle (.new "" "" true 3 ⟨0, 99⟩), fun _ => .none⟩ [] acts).any
      (fun r => decide (p r.1 r.2)) = true) :
    ∃ log t, hostLTS.Run log t ∧ p log t := by
  obtain ⟨log, t, hpath, hp⟩ := LTS.exists_path_of_exec acts h
  exact ⟨log, t, ⟨_, ⟨⟨_, _, _, _, _, rfl⟩, rfl⟩, hpath⟩, hp⟩

/-- The transport accepts a connection. -/
def HostAction.accept (conn : HSteamNetConnection) : List HostAction :=
  [.server (.statusChanged ⟨conn, .connecting, .none⟩),
    .server (.statusChanged ⟨conn, .connected, .connecting⟩)]

/-- One call of `Step`. -/
def HostAction.step (acts : List Action) : List HostAction :=
  (Action.beginStep :: acts ++ [Action.endStep]).map .server

/-- `A` joins over a pair of sockets and gets ready; a second connection is accepted and lost
again without a word. -/
theorem nothingLeft_silent_connection :
    ∃ log t, hostLTS.Run log t ∧ (t.phase.server.matchData.readyMessageNum 0 ≠ -1) ∧
      (∃ e ∈ log, ∃ info ∈ e.act.statusChange?, info.drops = true) ∧
      ∀ e ∈ log, e.post.NothingLeft := by
  obtain ⟨log, t, hrun, hready, hdrop, hok⟩ := exists_hostRun_of_exec
    (.addConnection 1 :: HostAction.accept 2 ++
      HostAction.step (Action.enter 1 "A" ++ [.message (.bare 1 3 .lobbyReady)]) ++
      [.server (.statusChanged ⟨2, .closedByPeer, .connected⟩)])
    (p := fun log t => t.phase.server.matchData.readyMessageNum 0 ≠ -1 ∧
      (∃ e ∈ log, ∃ info ∈ e.act.statusChange?, info.drops = true) ∧ ∀ e ∈ log, ¬ LosesId e)
    (by decide +kernel)
  exact ⟨log, t, hrun, hready, hdrop, (nothingLeft_iff hrun).2 hok⟩

/-- **A reused handle is introduced already.** `A` and `B` join, `B` gets ready and is lost.  Its
ready number stays on the empty slot, and the next connection under its handle has an id before
it says a word. -/
theorem not_nothingLeft_lost_member :
    ¬ ∀ log t, hostLTS.Run log t → ∀ e ∈ log, e.post.NothingLeft := by
  intro h
  obtain ⟨log, t, hrun, e, he, hready, hnobody, -⟩ := exists_hostRun_of_exec
    (HostAction.accept 1 ++ HostAction.accept 2 ++
      HostAction.step (Action.enter 1 "A" ++ Action.enter 2 "B" ++
        [.message (.bare 2 3 .lobbyReady)]) ++
      [.server (.statusChanged ⟨2, .closedByPeer, .connected⟩)] ++ HostAction.accept 2)
    (p := fun log t => ∃ e ∈ log, e.post.phase.server.matchData.readyMessageNum 1 ≠ -1 ∧
      e.post.phase.server.occupant 1 = none ∧
      t.Open 2 ∧ (t.phase.server.cidMap 2).isSome = true) (by decide +kernel)
  obtain ⟨m, hm, -⟩ := (h log t hrun e he).marks 1 (.inl hready)
  simp [occupant, hm] at hnobody

end Sf4e
