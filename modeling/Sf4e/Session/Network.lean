/-
# A server and all its clients

`Link` has one client and leaves the others open.  Here every connection has a client, with its
two directions, and all of them act in any order.  Seen from one connection this is a link
(`exists_link_run`), since the messages of the others are just messages to the server; so what
holds of every run of a link holds of each client of a network.

What is new is what the clients are to each other: those that are up to date show the same lobby
and the same match, and no two of them take themselves for the same player.
-/
import Sf4e.Session.Identity

namespace Sf4e

open SessionProtocol SessionServer Trace

/-! ## Networks -/

/-- A client and the messages between it and the server, oldest first. -/
structure ClientEnd where
  client : LobbyClient
  /-- Sent by the client and not handled yet, with the message numbers. -/
  up : List (Document × ℕ)
  /-- Sent to the client and not received yet. -/
  down : List ServerMessage

/-- A server and the clients of its connections. -/
structure Network where
  phase : Phase
  ends : HSteamNetConnection → ClientEnd

/-- What happens in a network. -/
inductive NetworkAction
  /-- The server does something else than take a message. -/
  | server (a : Action)
  /-- A client or its connection does something. -/
  | client (conn : HSteamNetConnection) (a : LinkAction)
deriving DecidableEq

/-- Is it the server's part of a link that acts? -/
def LinkAction.isServer : LinkAction → Bool
  | .server _ => true
  | .handle _ _ | .deliver | .ready _ | .send _ => false

/-- What the server has sent is on its way. -/
def ClientEnd.receive (e : ClientEnd) (conn : HSteamNetConnection) (out : List Output) :
    ClientEnd :=
  { e with down := e.down ++ out.flatMap (Output.deliveries conn) }

namespace Network

/-- The network as one client sees it. -/
def link (n : Network) (conn : HSteamNetConnection) : Link :=
  ⟨n.phase, (n.ends conn).client, (n.ends conn).up, (n.ends conn).down⟩

/-- A client's link after a step, and the outputs of the server for the other clients. -/
def setLink (n : Network) (conn : HSteamNetConnection) (out : List Output) (t : Link) :
    Network where
  phase := t.phase
  ends c := if c = conn then ⟨t.client, t.up, t.down⟩ else (n.ends c).receive c out

/-- The partial step function. -/
def next (n : Network) : NetworkAction → Option (List Output × Network)
  | .server a =>
    if a.message? = none then
      (n.phase.next a).map fun r => (r.1, ⟨r.2, fun c => (n.ends c).receive c r.1⟩)
    else none
  | .client conn a =>
    if a.isServer then none
    else ((n.link conn).next conn a).map fun r => (r.1, n.setLink conn r.1 r.2)

end Network

/-- A fresh server, and clients that have just connected to it. -/
def FreshNetwork (n : Network) : Prop :=
  Fresh n.phase ∧ ∀ conn, (n.ends conn).up = [] ∧ (n.ends conn).down = [] ∧
    ∃ name sidecarHash ggpoPort, (n.ends conn).client = LobbyClient.new name sidecarHash ggpoPort

/-- The runs of a network. -/
def networkLTS : LTS Network NetworkAction (List Output) := .ofFun FreshNetwork Network.next

/-- An entry of the log of a network. -/
abbrev NetworkEntry := Entry Network NetworkAction (List Output)

/-! ## One client of a network -/

/-- A message of another client is an action of the server that is not on this connection. -/
lemma link_server_steps {n : Network} {conn : HSteamNetConnection} {a : Action}
    {out : List Output} {ph' : Phase} (hnext : n.phase.next a = some (out, ph'))
    (hconn : ∀ m ∈ a.message?, m.conn ≠ conn) (n' : Network) (hphase : n'.phase = ph')
    (hends : n'.ends conn = (n.ends conn).receive conn out) :
    (linkLTS conn).Steps ⟨n.link conn, .server a, out, n'.link conn⟩ := by
  have hview : n'.link conn = ⟨ph', (n.ends conn).client, (n.ends conn).up,
      (n.ends conn).down ++ out.flatMap (Output.deliveries conn)⟩ := by
    rw [Network.link, hphase, hends]
    rfl
  show (n.link conn).next conn (.server a) = some (out, n'.link conn)
  rw [Link.next, if_pos hconn, Link.serve, show (n.link conn).phase = n.phase from rfl, hnext,
    hview]
  rfl

/-- A step that does not touch the server is not seen on another connection. -/
lemma link_setLink_of_ne {n : Network} {conn c : HSteamNetConnection} (hne : conn ≠ c) {t : Link}
    (hphase : t.phase = n.phase) : (n.setLink c [] t).link conn = n.link conn := by
  have hends : (n.setLink c [] t).ends conn = (n.ends conn).receive conn [] := if_neg hne
  rw [Network.link, hends, show (n.setLink c [] t).phase = n.phase from hphase]
  simp [ClientEnd.receive, Network.link]

/-- **A step of a network, seen from a connection,** is a step of its link or none. -/
lemma link_path_of_steps {e : NetworkEntry} (he : networkLTS.Steps e) (conn : HSteamNetConnection) :
    ∃ log, (linkLTS conn).Path (e.pre.link conn) log (e.post.link conn) := by
  obtain ⟨n, act, out, n'⟩ := e
  have hnext : n.next act = some (out, n') := he
  cases act with
  | server a =>
    simp only [Network.next] at hnext
    split at hnext
    · rename_i hnone
      obtain ⟨⟨out', ph'⟩, hphase, heq⟩ := Option.map_eq_some_iff.1 hnext
      obtain ⟨rfl, rfl⟩ := Prod.mk.inj heq
      exact ⟨_, .snoc .refl
        (link_server_steps hphase (by simp [hnone]) _ rfl rfl)⟩
    · exact absurd hnext (by simp)
  | client c a =>
    simp only [Network.next] at hnext
    split at hnext
    · exact absurd hnext (by simp)
    · obtain ⟨⟨out', t'⟩, hlink, heq⟩ := Option.map_eq_some_iff.1 hnext
      obtain ⟨rfl, rfl⟩ := Prod.mk.inj heq
      by_cases hc : conn = c
      · subst hc
        have hview : (n.setLink conn out' t').link conn = t' := by
          simp [Network.setLink, Network.link]
        exact ⟨_, .snoc (e := ⟨n.link conn, a, out', (n.setLink conn out' t').link conn⟩) .refl
          (hview.symm ▸ hlink)⟩
      · have hends : (n.setLink c out' t').ends conn = (n.ends conn).receive conn out' :=
          if_neg hc
        have hmove := linkMoves_of_next hlink
        cases hmove with
        | server => exact absurd rfl ‹¬ _›
        | handle hup hphase =>
          refine ⟨_, .snoc .refl (link_server_steps hphase (fun m hm => ?_) _ rfl hends)⟩
          obtain rfl := Option.some.inj hm
          exact Ne.symm hc
        | deliver | ready | send =>
          rw [link_setLink_of_ne hc rfl]
          exact ⟨[], .refl⟩

/-- **A client of a network is a client on a link.** -/
lemma exists_link_run {log : List NetworkEntry} {n : Network} (h : networkLTS.Run log n)
    (conn : HSteamNetConnection) : ∃ log', (linkLTS conn).Run log' (n.link conn) :=
  h.project (·.link conn)
    (fun _ hn => ⟨hn.1, (hn.2 conn).1, (hn.2 conn).2.1, (hn.2 conn).2.2⟩)
    fun _ he => link_path_of_steps he conn

/-! ## What the clients are to each other -/

/-- A client in the lobby for which no data update is due or on its way. -/
structure Network.UpToDate (n : Network) (conn : HSteamNetConnection) : Prop where
  settled : n.phase.server.dataDirty = false
  joined : conn ∈ n.phase.server.conns
  received : updates (n.ends conn).down = []

lemma Network.UpToDate.data {log : List NetworkEntry} {n : Network} {conn : HSteamNetConnection}
    (hup : n.UpToDate conn) (h : networkLTS.Run log n) :
    (n.ends conn).client.data = n.phase.server.shown := by
  obtain ⟨log', hlink⟩ := exists_link_run h conn
  obtain ⟨seen, hseen⟩ := hasSeen_of_run hlink
  exact hseen.current hlink hup.settled hup.joined hup.received

lemma Network.UpToDate.side {log : List NetworkEntry} {n : Network} {conn : HSteamNetConnection}
    (hup : n.UpToDate conn) (h : networkLTS.Run log n) :
    (n.ends conn).client.localLobbyActiveSide = n.phase.server.side conn := by
  obtain ⟨log', hlink⟩ := exists_link_run h conn
  exact localLobbyActiveSide_of_run hlink hup.settled hup.joined hup.received

/-- A side belongs to one connection. -/
lemma player_of_side {s : SessionServer} {conn : HSteamNetConnection} {i : Side}
    (h : s.side conn = some i) : (s.player i).map (·.conn) = some conn := by
  unfold SessionServer.side at h
  split at h
  · obtain rfl := Option.some.inj h
    assumption
  · split at h
    · obtain rfl := Option.some.inj h
      assumption
    · exact absurd h (by simp)

/-- **The clients agree.** In every run of a server and its clients, a client in the lobby that is
up to date finds itself on the side where the server has it, and any two such clients show the same
lobby and match data and are on different sides. -/
theorem agree_of_upToDate {log : List NetworkEntry} {n : Network} (h : networkLTS.Run log n)
    {conn conn' : HSteamNetConnection} (hup : n.UpToDate conn) (hup' : n.UpToDate conn') :
    (n.ends conn).client.localLobbyActiveSide = n.phase.server.side conn ∧
      (n.ends conn).client.data = (n.ends conn').client.data ∧
      ∀ i, (n.ends conn).client.localLobbyActiveSide = some i →
        (n.ends conn').client.localLobbyActiveSide = some i → conn = conn' := by
  refine ⟨hup.side h, (hup.data h).trans (hup'.data h).symm, fun i hi hi' => ?_⟩
  rw [hup.side h] at hi
  rw [hup'.side h] at hi'
  exact Option.some.inj ((player_of_side hi).symm.trans (player_of_side hi'))

/-- A fresh network, with a name for every client. -/
def Network.fresh : Network where
  phase := .idle (.new "" "" true 3 ⟨0, 99⟩)
  ends conn := ⟨.new (if conn = 1 then "A" else "B") "" 0, [], []⟩

/-- A client introduces itself and joins. -/
def NetworkAction.join (conn : HSteamNetConnection) : List NetworkAction :=
  [.client conn (.send (.bare .sessionHello)), .server .beginStep, .client conn (.handle "" true),
    .server .endStep, .client conn .deliver, .server .beginStep, .client conn (.handle "" true),
    .server .endStep, .client conn .deliver]

/-- Two clients that have joined are up to date and on different sides. -/
theorem agree_of_upToDate_two :
    ∃ log n, networkLTS.Run log n ∧ (n.ends 1).client.localLobbyActiveSide = some 0 ∧
      (n.ends 1).client.data = (n.ends 2).client.data ∧
      (n.ends 2).client.localLobbyActiveSide ≠ some 0 := by
  obtain ⟨log, n, hpath, hdirty, hconns, hdown₁, hdown₂, hside⟩ :
      ∃ log n, networkLTS.Path .fresh log n ∧
        n.phase.server.dataDirty = false ∧ n.phase.server.conns = [1, 2] ∧
        updates (n.ends 1).down = [] ∧ updates (n.ends 2).down = [] ∧
        (n.ends 1).client.localLobbyActiveSide = some 0 :=
    LTS.exists_path_of_exec
      (NetworkAction.join 1 ++ NetworkAction.join 2 ++ [.client 1 .deliver]) (by decide +kernel)
  have hrun : networkLTS.Run log n :=
    ⟨_, ⟨⟨_, _, _, _, _, rfl⟩, fun _ => ⟨rfl, rfl, _, _, _, rfl⟩⟩, hpath⟩
  have hup₁ : n.UpToDate 1 := ⟨hdirty, by simp [hconns], hdown₁⟩
  have hup₂ : n.UpToDate 2 := ⟨hdirty, by simp [hconns], hdown₂⟩
  obtain ⟨-, hdata, hsides⟩ := agree_of_upToDate hrun hup₁ hup₂
  exact ⟨log, n, hrun, hside, hdata, fun h => absurd (hsides 0 hside h) (by decide)⟩

end Sf4e
