/-
# Routing through the session

The members of a lobby have all started their relays on the same member list, and their GGPO
sessions send datagrams to the loopback ports that the relays have named.  A pump turns what
waits at the ports into messages to the server, the server passes each on, and the member
that gets it hands the data to its own GGPO.  Messages are taken to arrive; the order of
sending and pumping, of all members, is left open.

`routed_of_run` says where everything ends up: between any two members the tunnel is a queue.
-/
import Sf4e.Session.GgpoRelay
import Sf4e.Session.Roster

namespace Sf4e

open SessionProtocol SessionServer Trace

/-! ## The lobby -/

/-- A member's side of the tunnel. -/
structure TunnelEnd where
  /-- The session client. -/
  client : LobbyClient
  /-- The relay. -/
  relay : GgpoRelay
  /-- What GGPO has sent to the loopback ports and nobody has read, oldest first. -/
  waiting : UInt16 → List (List UInt8) := fun _ => []

/-- A datagram that arrives at a member's GGPO, with the connection of the member. -/
structure Arrival where
  conn : HSteamNetConnection
  datagram : Injected
deriving DecidableEq, Repr

/-- The members' ends, by connection. -/
abbrev TunnelEnds := HSteamNetConnection → TunnelEnd

/-- What happens at the ends of the tunnel. -/
inductive TunnelAction
  /-- The member's GGPO sends a datagram to a loopback port. -/
  | send (conn : HSteamNetConnection) (port : UInt16) (data : List UInt8)
  /-- The member's relay is pumped. -/
  | pump (conn : HSteamNetConnection)
deriving DecidableEq

/-- `OnGgpoFrameReceived`. -/
def TunnelEnd.onGgpoFrameReceived (t : TunnelEnd) (frame : BattleGgpoFrame) : Option Injected :=
  if frame.dest = t.client.cid then t.relay.injectFromPeer frame.src frame.data else none

/-- The branch of the client's `Step` that takes GGPO frames. -/
def TunnelEnd.receive (t : TunnelEnd) (doc : Document) : Option Injected :=
  if doc.type? = some .battleGgpoFrame then doc.ggpoFrame.bind t.onGgpoFrameReceived else none

/-- An output of the server reaches the member on its connection. -/
def TunnelEnds.deliver (ends : TunnelEnds) : Output → List Arrival
  | .respond conn (.relayed doc) => ((ends conn).receive doc).toList.map fun d => ⟨conn, d⟩
  | _ => []

/-- The messages of a member reach the server, and what the server sends reaches the
members. -/
def TunnelEnds.arrivals (s : SessionServer) (ends : TunnelEnds) (conn : HSteamNetConnection)
    (docs : List Document) : List Arrival :=
  (docs.flatMap (s.onGgpoFrame conn)).flatMap ends.deliver

/-- The step function of the tunnel. -/
def TunnelEnds.next (s : SessionServer) (ends : TunnelEnds) :
    TunnelAction → Option (List Arrival × TunnelEnds)
  | .send conn port data =>
    let t := ends conn
    some ([], Function.update ends conn
      { t with waiting := Function.update t.waiting port (t.waiting port ++ [data]) })
  | .pump conn =>
    let t := ends conn
    let r := t.relay.pump t.client t.waiting
    some (ends.arrivals s conn r.1, Function.update ends conn { t with waiting := r.2 })

/-- The tunnel as a transition system, for a server and the ends it starts from. -/
def tunnelLTS (s : SessionServer) (ends : TunnelEnds) :
    LTS TunnelEnds TunnelAction (List Arrival) := .ofFun (· = ends) (TunnelEnds.next s)

/-- An entry of the tunnel's log. -/
abbrev TunnelEntry := Entry TunnelEnds TunnelAction (List Arrival)

/-! ## The property -/

/-- The member has started its relay on a member list with the given connection ids. -/
structure TunnelEnd.Started (t : TunnelEnd) (cid : ConnectionID) (ids : List ConnectionID) :
    Prop where
  /-- The server gave the client this id. -/
  cid : t.client.cid = cid
  /-- The client is connected. -/
  connected : t.client.connected = true
  /-- The client was sent the member list. -/
  members : t.client.lobbyData.members.map (·.connId) = ids
  /-- The relay was started with the client. -/
  started : ∃ w r, GgpoRelay.start w r t.client.ggpoPort (some t.client) = (true, t.relay)
  /-- Nothing has been sent yet. -/
  waiting : t.waiting = fun _ => []

/-- The lobby's members have different connection ids, and have all started their relays on
the lobby's member list. -/
structure TunnelStarted (s : SessionServer) (ends : TunnelEnds) : Prop where
  /-- The ids are different. -/
  distinct : s.connIds.Nodup
  /-- The relays are started. -/
  started : ∀ c ∈ s.clients, (ends c.conn).Started c.data.connId s.connIds

/-- What a member's GGPO has sent to a port, oldest first. -/
def sentTo (conn : HSteamNetConnection) (port : UInt16) (log : List TunnelEntry) :
    List (List UInt8) :=
  log.reverse.filterMap fun e =>
    match e.act with
    | .send conn' port' data => if conn' = conn ∧ port' = port then some data else none
    | .pump _ => none

/-- What has arrived from a member, oldest first. -/
def arrivalsFrom (conn : HSteamNetConnection) (log : List TunnelEntry) : List Arrival :=
  log.reverse.flatMap fun e => if e.act = .pump conn then e.out else []

/-- Between the member `a` and the member `b` the tunnel is a queue: `port` is the endpoint
of `b` at `a`, and `back` that of `a` at `b`. -/
structure Routed (ends : TunnelEnds) (log : List TunnelEntry) (st : TunnelEnds)
    (a b : SessionMember) (port back : UInt16) : Prop where
  /-- The endpoint of `b` at `a`. -/
  endpoint : (ends a.conn).relay.getRemoteEndpoint b.data.connId = some port
  /-- The endpoint of `a` at `b`. -/
  reverse : (ends b.conn).relay.getRemoteEndpoint a.data.connId = some back
  /-- What `a` has sent to the endpoint, and can be carried, has arrived at the local port of
  `b`'s GGPO from the endpoint of `a`, unchanged and in order, or is waiting at `a`. -/
  queue : ((sentTo a.conn port log).filter carried).map
      (fun data => ⟨b.conn, ⟨back, (ends b.conn).client.ggpoPort, data⟩⟩) =
    (arrivalsFrom a.conn log).filter (·.conn = b.conn) ++
      (((st a.conn).waiting port).filter carried).map
        fun data => ⟨b.conn, ⟨back, (ends b.conn).client.ggpoPort, data⟩⟩
  /-- A pump reads from the endpoint: everything if all of it can be carried, and something
  in any case. -/
  pumped : ∀ e ∈ log, e.act = .pump a.conn →
    ((∀ data ∈ (e.pre a.conn).waiting port, carried data = true) →
      (e.post a.conn).waiting port = []) ∧
    ((e.pre a.conn).waiting port ≠ [] →
      ((e.post a.conn).waiting port).length < ((e.pre a.conn).waiting port).length)

/-- The tunnel connects every member with every other one. -/
structure TunnelRoutes (s : SessionServer) (ends : TunnelEnds) (log : List TunnelEntry)
    (st : TunnelEnds) : Prop where
  /-- Between two members there is a queue. -/
  routed : ∀ a ∈ s.clients, ∀ b ∈ s.clients, a.data.connId ≠ b.data.connId →
    ∃ port back, Routed ends log st a b port back
  /-- A member has different endpoints for different members. -/
  endpoints : ∀ a ∈ s.clients, ∀ b c port, (ends a.conn).relay.getRemoteEndpoint b = some port →
    (ends a.conn).relay.getRemoteEndpoint c = some port → b = c
  /-- What a member sends arrives at other members only. -/
  others : ∀ a ∈ s.clients, ∀ d ∈ arrivalsFrom a.conn log,
    ∃ b ∈ s.clients, b.data.connId ≠ a.data.connId ∧ d.conn = b.conn

/-! ## One message -/

variable {s : SessionServer} {ends st : TunnelEnds} {a b : SessionMember}

/-- The ends know each other. -/
structure Wired (s : SessionServer) (ends : TunnelEnds) : Prop where
  /-- The ids are different. -/
  distinct : s.connIds.Nodup
  /-- An id names its connection. -/
  names : IdsNameConns s
  /-- The clients know their ids. -/
  cid : ∀ c ∈ s.clients, (ends c.conn).client.cid = c.data.connId
  /-- The clients are connected. -/
  connected : ∀ c ∈ s.clients, (ends c.conn).client.connected = true
  /-- The relays have sockets for the others. -/
  serves : ∀ c ∈ s.clients, (ends c.conn).relay.Serves (ends c.conn).client.ggpoPort
    (s.connIds.filter (· ≠ c.data.connId))

lemma TunnelStarted.wired {log : List ServerEntry} {ph : Phase} (hrun : serverLTS.Run log ph)
    (h : TunnelStarted ph.server ends) : Wired ph.server ends := by
  refine ⟨h.distinct, idsNameConns_of_run hrun, fun c hc => (h.started c hc).cid,
    fun c hc => (h.started c hc).connected, fun c hc => ?_⟩
  have ht := h.started c hc
  have hids : otherIds (ends c.conn).client.cid (ends c.conn).client.lobbyData.members =
      ph.server.connIds.filter (· ≠ c.data.connId) := by
    rw [otherIds, ht.members, ht.cid]
  obtain ⟨w, r, hstart⟩ := ht.started
  rw [← hids]
  refine GgpoRelay.serves_of_start hstart ?_
  -- a lobby has four members at most
  have hfour := length_clients_of_run hrun
  have hle := List.length_filter_le (· ≠ c.data.connId) ph.server.connIds
  rw [hids]
  simp only [SessionServer.connIds, List.length_map, maxSf4eProtocolUsers] at hfour hle ⊢
  omega

lemma eq_of_connId_eq (h : s.connIds.Nodup) (ha : a ∈ s.clients) (hb : b ∈ s.clients)
    (heq : a.data.connId = b.data.connId) : a = b :=
  List.inj_on_of_nodup_map h ha hb heq

/-- Two members are on two connections. -/
lemma Wired.conn_ne (h : Wired s ends) (ha : a ∈ s.clients) (hb : b ∈ s.clients)
    (hne : a.data.connId ≠ b.data.connId) : a.conn ≠ b.conn := by
  intro heq
  have hcid := h.cid a ha
  rw [heq, h.cid b hb] at hcid
  exact hne hcid.symm

lemma Wired.nodup (h : Wired s ends) (c : ConnectionID) :
    (s.connIds.filter (· ≠ c)).Nodup := h.distinct.filter _

/-- A member's peers are the other members. -/
lemma Wired.exists_member (h : Wired s ends) (ha : a ∈ s.clients) {peer : VirtualPeer}
    (hpeer : peer ∈ (ends a.conn).relay.peers) :
    ∃ b ∈ s.clients, b.data.connId = peer.connId ∧ b.data.connId ≠ a.data.connId := by
  have hmem : peer.connId ∈ s.connIds.filter (· ≠ a.data.connId) := by
    rw [← (h.serves a ha).connIds]
    exact List.mem_map_of_mem hpeer
  obtain ⟨hid, hne⟩ := List.mem_filter.1 hmem
  obtain ⟨b, hb, heq⟩ := List.mem_map.1 hid
  have hother : peer.connId ≠ a.data.connId := by simpa using hne
  exact ⟨b, hb, heq, heq ▸ hother⟩

lemma Wired.exists_peer (h : Wired s ends) (ha : a ∈ s.clients) (hb : b ∈ s.clients)
    (hne : b.data.connId ≠ a.data.connId) :
    ∃ peer ∈ (ends a.conn).relay.peers, peer.connId = b.data.connId := by
  refine (h.serves a ha).exists_peer (List.mem_filter.2 ⟨List.mem_map_of_mem hb, ?_⟩)
  simpa using hne

/-- A member passes on a frame to the member that it is for. -/
lemma Wired.onGgpoFrame_eq (h : Wired s ends) (ha : a ∈ s.clients) (hb : b ∈ s.clients)
    {data : List UInt8} {doc : Document}
    (hdoc : doc.ggpoFrame = some ⟨a.data.connId, b.data.connId, data⟩) :
    s.onGgpoFrame a.conn doc = [.respond b.conn (.relayed doc)] := by
  have huser : a.data.connId.user = toString a.conn.toNat :=
    h.names.seats a.seat (List.mem_map_of_mem ha)
  have hfind : (s.clients.find? fun c => c.data.connId == b.data.connId) = some b := by
    have hsome : (s.clients.find? fun c => c.data.connId == b.data.connId).isSome = true :=
      List.find?_isSome.2 ⟨b, hb, beq_self_eq_true _⟩
    obtain ⟨c, hc⟩ := Option.isSome_iff_exists.1 hsome
    have heq : c.data.connId = b.data.connId := by simpa using List.find?_some hc
    rw [hc, eq_of_connId_eq h.distinct (List.mem_of_find?_eq_some hc) hb heq]
  simp only [onGgpoFrame, hdoc, huser, ne_eq, not_true_eq_false, and_false, if_false, relayTo,
    hfind]

/-- A frame from a member goes to GGPO from the member's endpoint. -/
lemma Wired.receive_eq (h : Wired s ends) (hb : b ∈ s.clients)
    {peer : VirtualPeer} (hpeer : peer ∈ (ends b.conn).relay.peers)
    (hid : peer.connId = a.data.connId) {data : List UInt8} (hdata : data ≠ []) {doc : Document}
    (htype : doc.type? = some .battleGgpoFrame)
    (hdoc : doc.ggpoFrame = some ⟨a.data.connId, b.data.connId, data⟩) :
    (ends b.conn).receive doc =
      some ⟨peer.virtualPort, (ends b.conn).client.ggpoPort, data⟩ := by
  have hcid := h.cid b hb
  rw [TunnelEnd.receive, if_pos htype, hdoc, Option.bind_some, TunnelEnd.onGgpoFrameReceived,
    if_pos hcid.symm, ← hid]
  exact (h.serves b hb).injectFromPeer_eq (h.nodup _) hpeer hdata

/-- What a member reads from its socket for another member arrives there. -/
lemma Wired.arrivals_eq (h : Wired s ends) (ha : a ∈ s.clients) (hb : b ∈ s.clients)
    {peer : VirtualPeer} (hpeer : peer ∈ (ends b.conn).relay.peers)
    (hid : peer.connId = a.data.connId) {read : List (List UInt8)}
    (hread : ∀ data ∈ read, data ≠ []) :
    ends.arrivals s a.conn (read.filterMap ((ends a.conn).client.sendGgpoFrame b.data.connId)) =
      read.map fun data =>
        ⟨b.conn, ⟨peer.virtualPort, (ends b.conn).client.ggpoPort, data⟩⟩ := by
  induction read with
  | nil => rfl
  | cons data read ih =>
    have hrest := ih fun d hd => hread d (List.mem_cons_of_mem _ hd)
    have hdata := hread data List.mem_cons_self
    have hsend : (ends a.conn).client.sendGgpoFrame b.data.connId data =
        some { Document.bare .battleGgpoFrame with
          ggpoFrame := some ⟨a.data.connId, b.data.connId, data⟩ } := by
      simp [LobbyClient.sendGgpoFrame, h.connected a ha, hdata, h.cid a ha]
    rw [List.filterMap_cons_some hsend, List.map_cons, ← hrest]
    simp only [TunnelEnds.arrivals, List.flatMap_cons, List.flatMap_append]
    rw [h.onGgpoFrame_eq ha hb rfl]
    simp only [List.flatMap_cons, List.flatMap_nil, List.append_nil, TunnelEnds.deliver]
    rw [h.receive_eq hb hpeer hid hdata (by simp [Document.type?]) rfl]
    rfl

/-! ## One pump -/

/-- The clients and the relays are those of the start. -/
def SameEnds (ends st : TunnelEnds) : Prop :=
  ∀ conn, (st conn).client = (ends conn).client ∧ (st conn).relay = (ends conn).relay

lemma Wired.of_same (h : Wired s ends) (hsame : SameEnds ends st) : Wired s st := by
  refine ⟨h.distinct, h.names, fun c hc => ?_, fun c hc => ?_, fun c hc => ?_⟩
  · rw [(hsame c.conn).1]
    exact h.cid c hc
  · rw [(hsame c.conn).1]
    exact h.connected c hc
  · rw [(hsame c.conn).1, (hsame c.conn).2]
    exact h.serves c hc

/-- In a concatenation of blocks, one block has all that is looked for. -/
lemma filter_flatMap_of_unique {α β : Type} {l : List α} {x : α} {f : α → List β}
    {p : β → Bool} (hl : l.Nodup) (hx : x ∈ l) (hp : ∀ y ∈ f x, p y = true)
    (hother : ∀ x' ∈ l, x' ≠ x → ∀ y ∈ f x', p y = false) : (l.flatMap f).filter p = f x := by
  have hnil : ∀ l' : List α, x ∉ l' → (∀ x' ∈ l', x' ∈ l) → (l'.flatMap f).filter p = [] := by
    intro l' hnot hsub
    rw [List.filter_eq_nil_iff]
    intro y hy
    obtain ⟨x', hx', hmem⟩ := List.mem_flatMap.1 hy
    rw [hother x' (hsub x' hx') (fun heq => hnot (heq ▸ hx')) y hmem]
    decide
  obtain ⟨l₁, l₂, rfl⟩ := List.append_of_mem hx
  rw [List.nodup_middle, List.nodup_cons, List.mem_append, not_or] at hl
  rw [List.flatMap_append, List.filter_append, List.flatMap_cons, List.filter_append,
    hnil l₁ hl.1.1 fun x' hx' => List.mem_append_left _ hx',
    hnil l₂ hl.1.2 fun x' hx' => List.mem_append_right _ (List.mem_cons_of_mem _ hx'),
    List.filter_eq_self.2 hp, List.nil_append, List.append_nil]

/-- What arrives when a member's relay is pumped: one block for each of its peers. -/
lemma Wired.arrivals_pump (h : Wired s st) (ha : a ∈ s.clients) :
    st.arrivals s a.conn ((st a.conn).relay.pump (st a.conn).client (st a.conn).waiting).1 =
      (st a.conn).relay.peers.flatMap fun peer => st.arrivals s a.conn
        ((drain ((st a.conn).waiting peer.virtualPort)).1.filterMap
          ((st a.conn).client.sendGgpoFrame peer.connId)) := by
  have hserves := h.serves a ha
  have hpump := GgpoRelay.pumpPeers_eq (st a.conn).client (st a.conn).waiting hserves.socks
    hserves.ports
  simp only [GgpoRelay.pump, hserves.active, hserves.hasClient, Bool.true_eq_false, or_self,
    if_false, hpump, TunnelEnds.arrivals, List.flatMap_assoc]

lemma Wired.waiting_pump (h : Wired s st) (ha : a ∈ s.clients) {peer : VirtualPeer}
    (hpeer : peer ∈ (st a.conn).relay.peers) :
    ((st a.conn).relay.pump (st a.conn).client (st a.conn).waiting).2 peer.virtualPort =
      (drain ((st a.conn).waiting peer.virtualPort)).2 := by
  have hserves := h.serves a ha
  have hpump := GgpoRelay.pumpPeers_eq (st a.conn).client (st a.conn).waiting hserves.socks
    hserves.ports
  simp only [GgpoRelay.pump, hserves.active, hserves.hasClient, Bool.true_eq_false, or_self,
    if_false, hpump]
  rw [if_pos (List.mem_map_of_mem hpeer)]

lemma nonempty_of_mem_drain {waiting : List (List UInt8)} :
    ∀ data ∈ (drain waiting).1, data ≠ [] :=
  fun _ hdata => (carried_iff.1 (carried_of_mem_drain hdata)).1

/-- Everything that arrives when a member's relay is pumped arrives at another member. -/
lemma Wired.others_of_pump (h : Wired s st) (ha : a ∈ s.clients) {d : Arrival}
    (hd : d ∈ st.arrivals s a.conn
      ((st a.conn).relay.pump (st a.conn).client (st a.conn).waiting).1) :
    ∃ b ∈ s.clients, b.data.connId ≠ a.data.connId ∧ d.conn = b.conn := by
  rw [h.arrivals_pump ha] at hd
  obtain ⟨peer, hpeer, hd⟩ := List.mem_flatMap.1 hd
  obtain ⟨b, hb, hid, hne⟩ := h.exists_member ha hpeer
  obtain ⟨back, hback, hbackid⟩ := h.exists_peer hb ha hne.symm
  rw [← hid, h.arrivals_eq ha hb hback hbackid nonempty_of_mem_drain] at hd
  obtain ⟨data, -, rfl⟩ := List.mem_map.1 hd
  exact ⟨b, hb, hne, rfl⟩

/-- What arrives at one member is what was read from that member's socket. -/
lemma Wired.arrivals_at (h : Wired s st) (ha : a ∈ s.clients) (hb : b ∈ s.clients)
    {peer back : VirtualPeer} (hpeer : peer ∈ (st a.conn).relay.peers)
    (hid : peer.connId = b.data.connId) (hback : back ∈ (st b.conn).relay.peers)
    (hbackid : back.connId = a.data.connId) :
    (st.arrivals s a.conn
        ((st a.conn).relay.pump (st a.conn).client (st a.conn).waiting).1).filter
          (·.conn = b.conn) =
      (drain ((st a.conn).waiting peer.virtualPort)).1.map fun data =>
        ⟨b.conn, ⟨back.virtualPort, (st b.conn).client.ggpoPort, data⟩⟩ := by
  have hdrained : ∀ data ∈ (drain ((st a.conn).waiting peer.virtualPort)).1, data ≠ [] :=
    nonempty_of_mem_drain
  have hblock := h.arrivals_eq ha hb hback hbackid hdrained
  have hids : ((st a.conn).relay.peers.map (·.connId)).Nodup := by
    rw [(h.serves a ha).connIds]
    exact h.nodup _
  rw [h.arrivals_pump ha, ← hblock, ← hid]
  refine filter_flatMap_of_unique (List.Nodup.of_map _ hids) hpeer ?_ ?_
  · intro d hd
    rw [hid, hblock] at hd
    obtain ⟨data, -, rfl⟩ := List.mem_map.1 hd
    simp
  · intro peer' hpeer' hne d hd
    -- the other blocks go to other members, who are on other connections
    obtain ⟨c, hc, hcid, hca⟩ := h.exists_member ha hpeer'
    obtain ⟨back', hback', hbackid'⟩ := h.exists_peer hc ha hca.symm
    rw [← hcid, h.arrivals_eq ha hc hback' hbackid' nonempty_of_mem_drain] at hd
    obtain ⟨data, -, rfl⟩ := List.mem_map.1 hd
    have hcb : c.data.connId ≠ b.data.connId := by
      rw [hcid, ← hid]
      exact fun heq => hne (List.inj_on_of_nodup_map hids hpeer' hpeer heq)
    simpa using h.conn_ne hc hb hcb

/-! ## Runs -/

lemma sentTo_cons (conn : HSteamNetConnection) (port : UInt16) (e : TunnelEntry)
    (log : List TunnelEntry) :
    sentTo conn port (e :: log) = sentTo conn port log ++ sentTo conn port [e] := by
  simp only [sentTo, List.reverse_cons, List.filterMap_append, List.reverse_nil, List.nil_append]

lemma arrivalsFrom_cons (conn : HSteamNetConnection) (e : TunnelEntry)
    (log : List TunnelEntry) : arrivalsFrom conn (e :: log) =
      arrivalsFrom conn log ++ if e.act = .pump conn then e.out else [] := by
  simp [arrivalsFrom]

/-- What a step of the tunnel does to the member `a`. -/
lemma tunnel_step {e : TunnelEntry} (hstep : (tunnelLTS s ends).Steps e)
    (conn : HSteamNetConnection) :
    SameEnds e.pre e.post ∧
      ((∃ port data, e.act = .send conn port data ∧ (e.post conn).waiting =
          Function.update (e.pre conn).waiting port ((e.pre conn).waiting port ++ [data])) ∨
        (e.act = .pump conn ∧
          e.out = e.pre.arrivals s conn
            ((e.pre conn).relay.pump (e.pre conn).client (e.pre conn).waiting).1 ∧
          (e.post conn).waiting =
            ((e.pre conn).relay.pump (e.pre conn).client (e.pre conn).waiting).2) ∨
        ((∀ port data, e.act ≠ .send conn port data) ∧ e.act ≠ .pump conn ∧
          (e.post conn).waiting = (e.pre conn).waiting)) := by
  obtain ⟨pre, act, out, post⟩ := e
  cases act with
  | send conn' port data =>
    have hnext : TunnelEnds.next s pre (.send conn' port data) = some (out, post) := hstep
    obtain ⟨rfl, rfl⟩ := Prod.mk.inj (Option.some.inj hnext)
    refine ⟨fun c => ?_, ?_⟩
    · by_cases hc : c = conn'
      · subst hc
        simp
      · simp [Function.update_of_ne hc]
    · by_cases hc : conn = conn'
      · subst hc
        exact .inl ⟨port, data, rfl, by simp⟩
      · exact .inr (.inr ⟨by simp [Ne.symm hc], by simp, by simp [Function.update_of_ne hc]⟩)
  | pump conn' =>
    have hnext : TunnelEnds.next s pre (.pump conn') = some (out, post) := hstep
    obtain ⟨rfl, rfl⟩ := Prod.mk.inj (Option.some.inj hnext)
    refine ⟨fun c => ?_, ?_⟩
    · by_cases hc : c = conn'
      · subst hc
        simp
      · simp [Function.update_of_ne hc]
    · by_cases hc : conn = conn'
      · subst hc
        exact .inr (.inl ⟨rfl, rfl, by simp⟩)
      · exact .inr (.inr ⟨by simp, by simp [Ne.symm hc], by simp [Function.update_of_ne hc]⟩)

lemma SameEnds.trans {st' : TunnelEnds} (h : SameEnds ends st) (h' : SameEnds st st') :
    SameEnds ends st' :=
  fun conn => ⟨(h' conn).1.trans (h conn).1, (h' conn).2.trans (h conn).2⟩

lemma sameEnds_of_run {log : List TunnelEntry} (h : (tunnelLTS s ends).Run log st) :
    SameEnds ends st := by
  refine h.invariant_of_step (fun _ st => SameEnds ends st) ?_ ?_
  · rintro _ rfl
    exact fun _ => ⟨rfl, rfl⟩
  · exact fun _ e hi hs => hi.trans (tunnel_step hs 0).1

/-- What arrives at `b`, for data from `a`. -/
def arrival (ends : TunnelEnds) (b : SessionMember) (back : UInt16) (data : List UInt8) :
    Arrival :=
  ⟨b.conn, ⟨back, (ends b.conn).client.ggpoPort, data⟩⟩

/-- **Step lemma.** A step of the tunnel keeps the queue between two members. -/
lemma Wired.queue_step (h : Wired s ends) {log : List TunnelEntry} {e : TunnelEntry}
    (hsame : SameEnds ends e.pre) (hstep : (tunnelLTS s ends).Steps e) (ha : a ∈ s.clients)
    (hb : b ∈ s.clients) {peer back : VirtualPeer}
    (hpeer : peer ∈ (ends a.conn).relay.peers) (hid : peer.connId = b.data.connId)
    (hback : back ∈ (ends b.conn).relay.peers) (hbackid : back.connId = a.data.connId)
    (hqueue : ((sentTo a.conn peer.virtualPort log).filter carried).map
        (arrival ends b back.virtualPort) =
      (arrivalsFrom a.conn log).filter (·.conn = b.conn) ++
        (((e.pre a.conn).waiting peer.virtualPort).filter carried).map
          (arrival ends b back.virtualPort)) :
    ((sentTo a.conn peer.virtualPort (e :: log)).filter carried).map
        (arrival ends b back.virtualPort) =
      (arrivalsFrom a.conn (e :: log)).filter (·.conn = b.conn) ++
        (((e.post a.conn).waiting peer.virtualPort).filter carried).map
          (arrival ends b back.virtualPort) := by
  have hwired := h.of_same hsame
  rw [sentTo_cons, arrivalsFrom_cons, List.filter_append, List.filter_append, List.map_append,
    hqueue]
  obtain ⟨-, ⟨port, data, hact, hwaiting⟩ | ⟨hact, hout, hwaiting⟩ | ⟨hsend, hpump, hwaiting⟩⟩ :=
    tunnel_step hstep a.conn
  · -- one more datagram waits, at this port or at another one
    by_cases hport : port = peer.virtualPort
    · subst hport
      simp [sentTo, hact, hwaiting]
    · have hother : peer.virtualPort ≠ port := Ne.symm hport
      simp [sentTo, hact, hwaiting, hport, Function.update_of_ne hother]
  · -- what is read arrives, and the rest of what can be carried goes on waiting
    have hrelay : (ends a.conn).relay = (e.pre a.conn).relay := (hsame a.conn).2.symm
    have hrelayb : (ends b.conn).relay = (e.pre b.conn).relay := (hsame b.conn).2.symm
    rw [hrelay] at hpeer
    rw [hrelayb] at hback
    have harrive := hwired.arrivals_at ha hb hpeer hid hback hbackid
    have hleft := hwired.waiting_pump ha hpeer
    rw [← hout, (hsame b.conn).1] at harrive
    rw [hwaiting, hleft, carried_drain ((e.pre a.conn).waiting peer.virtualPort), if_pos hact,
      harrive]
    simp only [sentTo, hact, List.reverse_cons, List.reverse_nil, List.nil_append,
      List.filterMap_cons, List.filterMap_nil, List.filter_nil, List.map_nil, List.append_nil,
      List.map_append, List.append_assoc]
    rfl
  · have hnone : sentTo a.conn peer.virtualPort [e] = [] := by
      cases hact : e.act with
      | send conn port data =>
        have hne : ¬ (conn = a.conn ∧ port = peer.virtualPort) := by
          rintro ⟨rfl, rfl⟩
          exact hsend _ _ hact
        simp [sentTo, hact, hne]
      | pump conn => simp [sentTo, hact]
    rw [hnone, if_neg hpump, hwaiting]
    simp

/-- The queue between two members, in every run. -/
lemma Wired.routed (h : Wired s ends)
    (hempty : ∀ c ∈ s.clients, (ends c.conn).waiting = fun _ => [])
    {log : List TunnelEntry} (hrun : (tunnelLTS s ends).Run log st) (ha : a ∈ s.clients)
    (hb : b ∈ s.clients) (hne : a.data.connId ≠ b.data.connId) :
    ∃ port back, Routed ends log st a b port back := by
  obtain ⟨peer, hpeer, hid⟩ := h.exists_peer ha hb hne.symm
  obtain ⟨back, hback, hbackid⟩ := h.exists_peer hb ha hne
  refine ⟨peer.virtualPort, back.virtualPort, ?_, ?_, ?_, fun e he hact => ?_⟩
  · rw [← hid]
    exact (h.serves a ha).getRemoteEndpoint_eq (h.nodup _) hpeer
  · rw [← hbackid]
    exact (h.serves b hb).getRemoteEndpoint_eq (h.nodup _) hback
  · refine (hrun.invariant_of_step (fun log st => SameEnds ends st ∧
      ((sentTo a.conn peer.virtualPort log).filter carried).map
          (arrival ends b back.virtualPort) =
        (arrivalsFrom a.conn log).filter (·.conn = b.conn) ++
          (((st a.conn).waiting peer.virtualPort).filter carried).map
            (arrival ends b back.virtualPort)) ?_ ?_).2
    · rintro _ rfl
      exact ⟨fun _ => ⟨rfl, rfl⟩, by simp [sentTo, arrivalsFrom, hempty a ha]⟩
    · rintro log e ⟨hsame, hqueue⟩ hstep
      exact ⟨hsame.trans (tunnel_step hstep 0).1,
        h.queue_step hsame hstep ha hb hpeer hid hback hbackid hqueue⟩
  · obtain ⟨newer, older, rfl⟩ := List.append_of_mem he
    obtain ⟨hbefore, hstep, -⟩ := hrun.at_entry
    have hsame := sameEnds_of_run hbefore
    have hrelay : (ends a.conn).relay = (e.pre a.conn).relay := (hsame a.conn).2.symm
    rw [hrelay] at hpeer
    have hleft := (h.of_same hsame).waiting_pump ha hpeer
    obtain ⟨-, ⟨port, data, hsend, -⟩ | ⟨-, -, hwaiting⟩ | ⟨-, hno, -⟩⟩ :=
      tunnel_step hstep a.conn
    · simp [hact] at hsend
    · rw [hwaiting, hleft]
      exact ⟨fun hall => drain_eq_nil hall, fun hsome => length_drain_lt hsome⟩
    · exact absurd hact hno

/-- **Session tunnel routing.** In every lobby that a server can reach, when all members have
started their relays, the tunnel routes what they send in every run. -/
theorem tunnelRoutes_of_run {slog : List ServerEntry} {ph : Phase}
    (hserver : serverLTS.Run slog ph) {ends st : TunnelEnds}
    (hstart : TunnelStarted ph.server ends) {log : List TunnelEntry}
    (h : (tunnelLTS ph.server ends).Run log st) : TunnelRoutes ph.server ends log st := by
  have hwired := hstart.wired hserver
  refine ⟨
    fun a ha b hb hne => hwired.routed (fun c hc => (hstart.started c hc).waiting) h ha hb hne,
    fun a ha b c port hb hc => (hwired.serves a ha).endpoint_inj hb hc, fun a ha d hd => ?_⟩
  obtain ⟨e, he, hd⟩ := List.mem_flatMap.1 hd
  split at hd
  · rename_i hact
    obtain ⟨newer, older, hlog⟩ := List.append_of_mem (List.mem_reverse.1 he)
    obtain ⟨hbefore, hstep, -⟩ := (hlog ▸ h).at_entry
    obtain ⟨-, ⟨port, data, hsend, -⟩ | ⟨-, hout, -⟩ | ⟨-, hno, -⟩⟩ := tunnel_step hstep a.conn
    · simp [hact] at hsend
    · rw [hout] at hd
      exact (hwired.of_same (sameEnds_of_run hbefore)).others_of_pump ha hd
    · exact absurd hact hno
  · simp at hd


/-- A host on which all ports but zero are free, for the example. -/
def freeHost : Winsock where
  startup := true
  bind used port := if port ≠ 0 ∧ port ∉ used then some port else none
  bind_eq used port bound _ h := by
    split at h
    · exact (Option.some.inj h).symm
    · simp at h
  bind_fresh used port bound h := by
    split at h
    · rename_i hfree
      exact Option.some.inj h ▸ hfree.2
    · simp at h

/-- The client of a member of a lobby with the connections `1` and `2`, for the example. -/
def tunnelClient (user : String) : LobbyClient :=
  { LobbyClient.new user "" 23457 with
    cid := ⟨"", user⟩
    lobbyData := { LobbyData.nullLobby with
      members := [⟨⟨"", "1"⟩, "A", "", 0, 0⟩, ⟨⟨"", "2"⟩, "B", "", 0, 0⟩] } }

/-- The ends of that lobby, with the relays started. -/
def tunnelEnds : TunnelEnds := fun conn =>
  let client := tunnelClient (toString conn.toNat)
  { client := client
    relay := (GgpoRelay.start freeHost {} client.ggpoPort (some client)).2 }

/-- Two members join, and each sends to the other. -/
theorem tunnelRoutes_two_members :
    ∃ slog ph log st, serverLTS.Run slog ph ∧ TunnelStarted ph.server tunnelEnds ∧
      (tunnelLTS ph.server tunnelEnds).Run log st ∧
      arrivalsFrom 1 log = [⟨2, ⟨40000, 23457, [7, 8]⟩⟩] ∧
      TunnelRoutes ph.server tunnelEnds log st := by
  obtain ⟨slog, ph, hserver, hids, hconns, hexec⟩ := exists_run_of_exec
    ([.beginStep] ++ Action.enter 1 "A" ++ Action.enter 2 "B" ++ [.endStep])
    (p := fun _ ph => ph.server.connIds = [⟨"", "1"⟩, ⟨"", "2"⟩] ∧ ph.server.conns = [1, 2] ∧
      (LTS.exec (TunnelEnds.next ph.server) tunnelEnds []
        [.send 1 40000 [7, 8], .send 2 40000 [9], .pump 2, .send 1 40000 [], .pump 1]).any
          (fun r => decide (arrivalsFrom 1 r.1 = [⟨2, ⟨40000, 23457, [7, 8]⟩⟩])) = true)
    (by decide +kernel)
  obtain ⟨log, st, hpath, harrives⟩ := LTS.exists_path_of_exec
    (p := fun log _ => arrivalsFrom 1 log = [⟨2, ⟨40000, 23457, [7, 8]⟩⟩]) _ hexec
  have hrun : (tunnelLTS ph.server tunnelEnds).Run log st := ⟨tunnelEnds, rfl, hpath⟩
  have hstart : TunnelStarted ph.server tunnelEnds := by
    refine ⟨by rw [hids]; decide, fun c hc => ?_⟩
    have huser := (idsNameConns_of_run hserver).seats c.seat (List.mem_map_of_mem hc)
    have hmem : c.data.connId ∈ ph.server.connIds := List.mem_map_of_mem hc
    have hconn : c.conn ∈ ph.server.conns := List.mem_map_of_mem hc
    rw [hids] at hmem ⊢
    rw [hconns] at hconn
    have hhost : c.data.connId.host = "" := by
      simp only [List.mem_cons, List.not_mem_nil, or_false] at hmem
      obtain heq | heq := hmem
      · rw [heq]
      · rw [heq]
    have hcid : (tunnelEnds c.conn).client.cid = c.data.connId := by
      show (⟨"", toString c.conn.toNat⟩ : ConnectionID) = c.data.connId
      rw [← hhost, ← show c.data.connId.user = toString c.conn.toNat from huser]
    refine ⟨hcid, rfl, rfl, ⟨freeHost, {}, ?_⟩, rfl⟩
    simp only [List.mem_cons, List.not_mem_nil, or_false] at hconn
    obtain heq | heq := hconn
    · rw [heq]
      decide +kernel
    · rw [heq]
      decide +kernel
  exact ⟨slog, ph, log, st, hserver, hstart, hrun, harrives,
    tunnelRoutes_of_run hserver hstart hrun⟩

end Sf4e
