/-
# Virtual peers on the loopback address

When GGPO is tunnelled through the session, `GgpoRelay` opens one loopback socket for each
other member of the lobby.  GGPO is told that the member lives at that socket's port; what
it sends there is read by `Pump` and goes out in an envelope, and what comes in from the
member is sent to GGPO from the same socket.

Winsock is a parameter (`Winsock`).  A socket stands for the port that it is bound to, and
what waits to be read from it is kept by port.  The counters of `TransportStats` are left out.
-/
import Mathlib.Data.List.Find
import Sf4e.Session.Link

namespace Sf4e

open SessionProtocol

/-! ## The relay -/

/-- The calls that `GgpoRelay` makes to Winsock. -/
structure Winsock where
  /-- Does `WSAStartup` succeed? -/
  startup : Bool
  /-- The port of a new loopback socket that is bound to the given port, beside sockets on
  the ports in the list; `none` when `socket` or `bind` fails. -/
  bind : List UInt16 → UInt16 → Option UInt16
  /-- A port is taken as asked for, unless it is zero. -/
  bind_eq : ∀ used port bound, port ≠ 0 → bind used port = some bound → bound = port
  /-- No port is given to two sockets. -/
  bind_fresh : ∀ used port bound, bind used port = some bound → bound ∉ used

/-- `GgpoRelay::VirtualPeer`. -/
structure VirtualPeer where
  connId : ConnectionID
  /-- The port that `sock` is bound to; `none` is `INVALID_SOCKET`. -/
  sock : Option UInt16
  virtualPort : UInt16
deriving DecidableEq, Repr

/-- `sf4e::GgpoRelay`. -/
structure GgpoRelay where
  /-- `_active`. -/
  active : Bool := false
  /-- `_winsockInit`. -/
  winsockInit : Bool := false
  /-- `_localGgpoPort`. -/
  localGgpoPort : UInt16 := 0
  /-- Is `_client` set? -/
  hasClient : Bool := false
  /-- `_peers`. -/
  peers : List VirtualPeer := []
deriving DecidableEq, Repr

/-- A datagram that the relay sends to a loopback port. -/
structure Injected where
  /-- The port of the socket that it is sent from. -/
  source : UInt16
  /-- The port it is sent to. -/
  dest : UInt16
  /-- The payload. -/
  payload : List UInt8
deriving DecidableEq, Repr

/-- `GGPO_RELAY_VIRTUAL_BASE`. -/
def ggpoRelayVirtualBase : UInt16 := 40000

/-- The size of the buffer of `Pump`. -/
def pumpBufferSize : ℕ := 2048

/-- `SessionClient::SendGgpoFrame`: the message that is sent, if any. -/
def LobbyClient.sendGgpoFrame (c : LobbyClient) (dest : ConnectionID) (data : List UInt8) :
    Option Document :=
  if c.connected = false ∨ data = [] then none
  else some { Document.bare .battleGgpoFrame with ggpoFrame := some ⟨c.cid, dest, data⟩ }

/-- The inner loop of `Pump`, over what waits at one socket: the data that is passed on, and
what is still waiting when the loop ends. -/
def drain : List (List UInt8) → List (List UInt8) × List (List UInt8)
  | [] => ([], [])
  | data :: waiting =>
    -- `recvfrom` fails on a datagram that is too long and returns zero on an empty one
    if data.length > pumpBufferSize ∨ data = [] then ([], waiting)
    else (data :: (drain waiting).1, (drain waiting).2)

namespace GgpoRelay

/-- `EnsureWinsock`. -/
def ensureWinsock (w : Winsock) (r : GgpoRelay) : Bool × GgpoRelay :=
  if r.winsockInit then (true, r)
  else if w.startup then (true, { r with winsockInit := true })
  else (false, r)

/-- `Reset`, with `CloseSockets`. -/
def reset (r : GgpoRelay) : GgpoRelay :=
  { r with active := false, localGgpoPort := 0, hasClient := false, peers := [] }

/-- `CreateVirtualPeer`. -/
def createVirtualPeer (w : Winsock) (r : GgpoRelay) (connId : ConnectionID)
    (virtualPort : UInt16) : Bool × GgpoRelay :=
  match r.ensureWinsock w with
  | (false, r) => (false, r)
  | (true, r) =>
    match w.bind (r.peers.filterMap (·.sock)) virtualPort with
    | none => (false, r)
    | some sock => (true, { r with peers := r.peers ++ [⟨connId, some sock, virtualPort⟩] })

/-- The loop of `Start` over the members. -/
def createPeers (w : Winsock) (cid : ConnectionID) :
    GgpoRelay → UInt16 → List MemberData → Bool × GgpoRelay
  | r, _, [] => (true, r)
  | r, nextVirtual, member :: members =>
    if member.connId = cid then createPeers w cid r nextVirtual members
    else
      match r.createVirtualPeer w member.connId nextVirtual with
      | (false, r) => (false, r.reset)
      | (true, r) => createPeers w cid r (nextVirtual + 1) members

/-- `Start`. -/
def start (w : Winsock) (r : GgpoRelay) (localGgpoPort : UInt16) (client : Option LobbyClient) :
    Bool × GgpoRelay :=
  match client with
  | none => (false, r.reset)
  | some c =>
    if localGgpoPort = 0 then (false, r.reset)
    else
      match r.reset.ensureWinsock w with
      | (false, r) => (false, r)
      | (true, r) =>
        createPeers w c.cid
          { r with active := true, localGgpoPort := localGgpoPort, hasClient := true }
          ggpoRelayVirtualBase c.lobbyData.members

/-- `GetRemoteEndpoint`: the port, on the address 127.0.0.1. -/
def getRemoteEndpoint (r : GgpoRelay) (remoteConn : ConnectionID) : Option UInt16 :=
  if r.active then (r.peers.find? fun peer => peer.connId == remoteConn).map (·.virtualPort)
  else none

/-- `InjectFromPeer`. -/
def injectFromPeer (r : GgpoRelay) (src : ConnectionID) (data : List UInt8) : Option Injected :=
  if r.active = false ∨ data = [] then none
  else
    match r.peers.find? fun peer => peer.connId == src && peer.sock.isSome with
    | none => none
    | some peer => peer.sock.map fun sock => ⟨sock, r.localGgpoPort, data⟩

/-- The loop of `Pump` over the peers: the messages that the client sends, and what is still
waiting at the sockets. -/
def pumpPeers (client : LobbyClient) :
    List VirtualPeer → (UInt16 → List (List UInt8)) →
      List Document × (UInt16 → List (List UInt8))
  | [], waiting => ([], waiting)
  | peer :: peers, waiting =>
    match peer.sock with
    | none => pumpPeers client peers waiting
    | some sock =>
      let read := drain (waiting sock)
      let rest := pumpPeers client peers (Function.update waiting sock read.2)
      (read.1.filterMap (client.sendGgpoFrame peer.connId) ++ rest.1, rest.2)

/-- `Pump`. -/
def pump (r : GgpoRelay) (client : LobbyClient) (waiting : UInt16 → List (List UInt8)) :
    List Document × (UInt16 → List (List UInt8)) :=
  if r.active = false ∨ r.hasClient = false then ([], waiting)
  else pumpPeers client r.peers waiting

end GgpoRelay

/-! ## Reading from a socket -/

/-- The datagrams that `Pump` passes on. -/
def carried (data : List UInt8) : Bool := !data.isEmpty && decide (data.length ≤ pumpBufferSize)

lemma carried_iff {data : List UInt8} :
    carried data = true ↔ data ≠ [] ∧ data.length ≤ pumpBufferSize := by
  simp [carried]

/-- Reading drops what cannot be carried, and keeps the order of the rest. -/
lemma carried_drain (waiting : List (List UInt8)) :
    waiting.filter carried = (drain waiting).1 ++ (drain waiting).2.filter carried := by
  induction waiting with
  | nil => rfl
  | cons data waiting ih =>
    unfold drain
    split
    · rename_i hbad
      have hnot : carried data = false := by
        rw [Bool.eq_false_iff, Ne, carried_iff]
        rintro ⟨hne, hlen⟩
        obtain hlong | hempty := hbad
        · omega
        · exact hne hempty
      rw [List.filter_cons_of_neg (by simp [hnot]), List.nil_append]
    · rename_i hgood
      rw [not_or] at hgood
      have hyes : carried data = true := carried_iff.2 ⟨hgood.2, by omega⟩
      rw [List.filter_cons_of_pos hyes, ih, List.cons_append]

lemma carried_of_mem_drain {waiting : List (List UInt8)} {data : List UInt8}
    (h : data ∈ (drain waiting).1) : carried data = true := by
  have hmem : data ∈ waiting.filter carried := by
    rw [carried_drain]
    exact List.mem_append_left _ h
  exact (List.mem_filter.1 hmem).2

/-- Every reading takes something off. -/
lemma length_drain_lt {waiting : List (List UInt8)} (h : waiting ≠ []) :
    (drain waiting).2.length < waiting.length := by
  induction waiting with
  | nil => exact absurd rfl h
  | cons data waiting ih =>
    unfold drain
    split
    · simp
    · cases waiting with
      | nil => simp [drain]
      | cons next waiting =>
        have hlt := ih (List.cons_ne_nil _ _)
        simp only [List.length_cons] at hlt ⊢
        omega

/-- A reading takes everything, when all of it can be carried. -/
lemma drain_eq_nil {waiting : List (List UInt8)} (h : ∀ data ∈ waiting, carried data = true) :
    (drain waiting).2 = [] := by
  induction waiting with
  | nil => rfl
  | cons data waiting ih =>
    obtain ⟨hne, hlen⟩ := carried_iff.1 (h data List.mem_cons_self)
    have hrest := ih fun d hd => h d (List.mem_cons_of_mem _ hd)
    have hgood : ¬ (data.length > pumpBufferSize ∨ data = []) :=
      not_or.2 ⟨by omega, hne⟩
    rw [drain, if_neg hgood, hrest]

/-! ## The table of peers -/

/-- The peers of the given members, on consecutive ports. -/
def peersFrom : UInt16 → List ConnectionID → List VirtualPeer
  | _, [] => []
  | port, id :: ids => ⟨id, some port, port⟩ :: peersFrom (port + 1) ids

/-- The connection ids of the other members. -/
def otherIds (cid : ConnectionID) (members : List MemberData) : List ConnectionID :=
  (members.map (·.connId)).filter (· ≠ cid)

lemma ensureWinsock_of_init {w : Winsock} {r : GgpoRelay} (h : r.winsockInit = true) :
    r.ensureWinsock w = (true, r) := by
  simp [GgpoRelay.ensureWinsock, h]

/-- A peer that is created has a socket at its port, as long as that is not zero. -/
lemma createVirtualPeer_eq {w : Winsock} {r r' : GgpoRelay} {connId : ConnectionID}
    {port : UInt16} (h : r.createVirtualPeer w connId port = (true, r'))
    (hinit : r.winsockInit = true) (hport : port ≠ 0) :
    r' = { r with peers := r.peers ++ [⟨connId, some port, port⟩] } := by
  simp only [GgpoRelay.createVirtualPeer, ensureWinsock_of_init hinit] at h
  split at h
  · simp at h
  · rename_i sock hsock
    obtain rfl := w.bind_eq _ _ _ hport hsock
    exact (Prod.mk.inj h).2.symm

lemma toNat_add_one_le (port : UInt16) : (port + 1).toNat ≤ port.toNat + 1 := by
  rw [UInt16.toNat_add]
  exact Nat.mod_le _ _

lemma toNat_add_one {port : UInt16} (h : port.toNat + 1 < 65536) :
    (port + 1).toNat = port.toNat + 1 := by
  rw [UInt16.toNat_add]
  exact Nat.mod_eq_of_lt h

/-- The loop of `Start`, when it succeeds before the ports run out. -/
lemma createPeers_eq {w : Winsock} {cid : ConnectionID} {r r' : GgpoRelay} {port : UInt16}
    {members : List MemberData} (h : r.createPeers w cid port members = (true, r'))
    (hinit : r.winsockInit = true) (hport : otherIds cid members ≠ [] → port ≠ 0)
    (hroom : port.toNat + (otherIds cid members).length ≤ 65536) :
    r' = { r with peers := r.peers ++ peersFrom port (otherIds cid members) } := by
  induction members generalizing r port with
  | nil =>
    obtain rfl := (Prod.mk.inj h).2
    simp [otherIds, peersFrom]
  | cons member members ih =>
    unfold GgpoRelay.createPeers at h
    split at h
    · rename_i hself
      have hids : otherIds cid (member :: members) = otherIds cid members := by
        simp [otherIds, hself]
      rw [hids] at hroom hport ⊢
      exact ih h hinit hport hroom
    · rename_i hother
      have hids : otherIds cid (member :: members) = member.connId :: otherIds cid members := by
        simp [otherIds, hother]
      rw [hids, List.length_cons] at hroom
      split at h
      · simp at h
      · rename_i r₁ hcreate
        obtain rfl := createVirtualPeer_eq hcreate hinit (hport (by simp [hids]))
        have hnext := toNat_add_one_le port
        -- the next port is zero only when nobody is left to get it
        have hne : otherIds cid members ≠ [] → port + 1 ≠ 0 := by
          intro hleft hzero
          have hpos := List.length_pos_iff.2 hleft
          have hsucc : (port + 1).toNat = port.toNat + 1 := toNat_add_one (by omega)
          rw [hzero] at hsucc
          simp at hsucc
        rw [hids, peersFrom, ih h hinit hne (by omega)]
        simp

lemma map_connId_peersFrom (port : UInt16) (ids : List ConnectionID) :
    (peersFrom port ids).map (·.connId) = ids := by
  induction ids generalizing port with
  | nil => rfl
  | cons id ids ih => rw [peersFrom, List.map_cons, ih]

lemma sock_of_mem_peersFrom {port : UInt16} {ids : List ConnectionID} {peer : VirtualPeer}
    (h : peer ∈ peersFrom port ids) : peer.sock = some peer.virtualPort := by
  induction ids generalizing port with
  | nil => simp [peersFrom] at h
  | cons id ids ih =>
    rw [peersFrom, List.mem_cons] at h
    obtain rfl | h := h
    · rfl
    · exact ih h

lemma le_of_mem_peersFrom {port : UInt16} {ids : List ConnectionID} {peer : VirtualPeer}
    (h : peer ∈ peersFrom port ids) (hroom : port.toNat + ids.length ≤ 65536) :
    port.toNat ≤ peer.virtualPort.toNat := by
  induction ids generalizing port with
  | nil => simp [peersFrom] at h
  | cons id ids ih =>
    rw [peersFrom, List.mem_cons] at h
    rw [List.length_cons] at hroom
    obtain rfl | h := h
    · exact le_rfl
    · have hpos : 0 < ids.length := by
        rw [← map_connId_peersFrom (port + 1) ids, List.length_map]
        exact List.length_pos_of_mem h
      have hnext : (port + 1).toNat = port.toNat + 1 := toNat_add_one (by omega)
      have hle := ih h (by omega)
      omega

/-- The ports are different, as long as they do not run out. -/
lemma nodup_peersFrom {port : UInt16} {ids : List ConnectionID}
    (hroom : port.toNat + ids.length ≤ 65536) :
    ((peersFrom port ids).map (·.virtualPort)).Nodup := by
  induction ids generalizing port with
  | nil => exact List.nodup_nil
  | cons id ids ih =>
    rw [List.length_cons] at hroom
    have hle := toNat_add_one_le port
    rw [peersFrom, List.map_cons, List.nodup_cons]
    refine ⟨fun hmem => ?_, ih (by omega)⟩
    obtain ⟨peer, hpeer, heq⟩ := List.mem_map.1 hmem
    have hpos : 0 < ids.length := by
      rw [← map_connId_peersFrom (port + 1) ids, List.length_map]
      exact List.length_pos_of_mem hpeer
    have hnext : (port + 1).toNat = port.toNat + 1 := toNat_add_one (by omega)
    have hge := le_of_mem_peersFrom hpeer (by omega)
    have hport : peer.virtualPort = port := heq
    rw [hport] at hge
    omega

/-! ## A relay that was started -/

namespace GgpoRelay

/-- The relay has one socket of its own for each of the members. -/
structure Serves (r : GgpoRelay) (localGgpoPort : UInt16) (ids : List ConnectionID) : Prop where
  /-- The relay runs. -/
  active : r.active = true
  /-- It has a client. -/
  hasClient : r.hasClient = true
  /-- It knows the port of the local GGPO. -/
  localPort : r.localGgpoPort = localGgpoPort
  /-- There is one peer for each member. -/
  connIds : r.peers.map (·.connId) = ids
  /-- The sockets are bound to the ports that GGPO is told. -/
  socks : ∀ peer ∈ r.peers, peer.sock = some peer.virtualPort
  /-- No two peers have one port. -/
  ports : (r.peers.map (·.virtualPort)).Nodup

/-- **`Start` makes the table.** There are 25536 ports from the base on. -/
lemma serves_of_start {w : Winsock} {r r' : GgpoRelay} {port : UInt16} {c : LobbyClient}
    (h : r.start w port (some c) = (true, r'))
    (hroom : (otherIds c.cid c.lobbyData.members).length ≤ 25536) :
    r'.Serves port (otherIds c.cid c.lobbyData.members) := by
  unfold start at h
  split at h
  · simp at h
  · rename_i c' heq
    obtain rfl := Option.some.inj heq
    split at h
    · simp at h
    · split at h
      · simp at h
      · rename_i r₁ hensure
        have hinit : r₁.winsockInit = true ∧ r₁.peers = [] := by
          unfold ensureWinsock at hensure
          split_ifs at hensure with hinit hstartup
          · obtain rfl := (Prod.mk.inj hensure).2
            exact ⟨hinit, rfl⟩
          · obtain rfl := (Prod.mk.inj hensure).2
            exact ⟨rfl, rfl⟩
          · simp at hensure
        have hbase : ggpoRelayVirtualBase.toNat = 40000 := rfl
        have heq := createPeers_eq h hinit.1 (fun _ => by decide) (by rw [hbase]; omega)
        rw [hinit.2, List.nil_append] at heq
        subst heq
        exact ⟨rfl, rfl, rfl, map_connId_peersFrom _ _, fun _ hp => sock_of_mem_peersFrom hp,
          nodup_peersFrom (by rw [hbase]; omega)⟩

variable {r : GgpoRelay} {localPort : UInt16} {ids : List ConnectionID}

/-- With different connection ids, a peer is found by its id. -/
lemma Serves.find_eq (h : r.Serves localPort ids) (hids : ids.Nodup) {peer : VirtualPeer}
    (hpeer : peer ∈ r.peers) : (r.peers.find? fun p => p.connId == peer.connId) = some peer := by
  have hfound : (r.peers.find? fun p => p.connId == peer.connId).isSome = true :=
    List.find?_isSome.2 ⟨peer, hpeer, beq_self_eq_true _⟩
  obtain ⟨found, hsome⟩ := Option.isSome_iff_exists.1 hfound
  have heq : found.connId = peer.connId := by simpa using List.find?_some hsome
  rw [← h.connIds] at hids
  rw [hsome, List.inj_on_of_nodup_map hids (List.mem_of_find?_eq_some hsome) hpeer heq]

lemma Serves.getRemoteEndpoint_eq (h : r.Serves localPort ids) (hids : ids.Nodup)
    {peer : VirtualPeer} (hpeer : peer ∈ r.peers) :
    r.getRemoteEndpoint peer.connId = some peer.virtualPort := by
  rw [getRemoteEndpoint, if_pos h.active, h.find_eq hids hpeer]
  rfl

/-- No two members have one endpoint. -/
lemma Serves.endpoint_inj (h : r.Serves localPort ids) {b c : ConnectionID} {port : UInt16}
    (hb : r.getRemoteEndpoint b = some port) (hc : r.getRemoteEndpoint c = some port) : b = c := by
  rw [getRemoteEndpoint, if_pos h.active, Option.map_eq_some_iff] at hb hc
  obtain ⟨p, hp, hpp⟩ := hb
  obtain ⟨q, hq, hqp⟩ := hc
  have heq : p = q := List.inj_on_of_nodup_map h.ports (List.mem_of_find?_eq_some hp)
    (List.mem_of_find?_eq_some hq) (hpp.trans hqp.symm)
  have hpb : p.connId = b := by simpa using List.find?_some hp
  have hqc : q.connId = c := by simpa using List.find?_some hq
  rw [← hpb, ← hqc, heq]

/-- Every member has an endpoint. -/
lemma Serves.exists_peer (h : r.Serves localPort ids) {id : ConnectionID} (hid : id ∈ ids) :
    ∃ peer ∈ r.peers, peer.connId = id := by
  rw [← h.connIds] at hid
  exact List.mem_map.1 hid

/-- What comes in from a member goes to GGPO from the member's endpoint. -/
lemma Serves.injectFromPeer_eq (h : r.Serves localPort ids) (hids : ids.Nodup)
    {peer : VirtualPeer} (hpeer : peer ∈ r.peers) {data : List UInt8} (hdata : data ≠ []) :
    r.injectFromPeer peer.connId data = some ⟨peer.virtualPort, localPort, data⟩ := by
  have hsame : (r.peers.find? fun p => p.connId == peer.connId && p.sock.isSome) = some peer := by
    have hall : ∀ p ∈ r.peers, (p.connId == peer.connId && p.sock.isSome) =
        (p.connId == peer.connId) := fun p hp => by simp [h.socks p hp]
    rw [List.find?_congr hall, h.find_eq hids hpeer]
  rw [injectFromPeer, hsame]
  simp [h.active, hdata, h.socks peer hpeer, h.localPort]

/-- One turn over the peers reads from each socket once. -/
lemma pumpPeers_eq (client : LobbyClient) {peers : List VirtualPeer}
    (waiting : UInt16 → List (List UInt8))
    (hsocks : ∀ peer ∈ peers, peer.sock = some peer.virtualPort)
    (hports : (peers.map (·.virtualPort)).Nodup) :
    pumpPeers client peers waiting =
      (peers.flatMap fun peer => (drain (waiting peer.virtualPort)).1.filterMap
          (client.sendGgpoFrame peer.connId),
        fun port => if port ∈ peers.map (·.virtualPort) then (drain (waiting port)).2
          else waiting port) := by
  induction peers generalizing waiting with
  | nil => simp [pumpPeers]
  | cons peer peers ih =>
    rw [List.map_cons, List.nodup_cons] at hports
    have hrest := ih (Function.update waiting peer.virtualPort (drain (waiting peer.virtualPort)).2)
      (fun p hp => hsocks p (List.mem_cons_of_mem _ hp)) hports.2
    -- the other sockets are not touched
    have hother : ∀ p ∈ peers, Function.update waiting peer.virtualPort
        (drain (waiting peer.virtualPort)).2 p.virtualPort = waiting p.virtualPort := by
      intro p hp
      refine Function.update_of_ne (fun heq => hports.1 ?_) _ _
      rw [← heq]
      exact List.mem_map_of_mem hp
    simp only [pumpPeers, hsocks peer List.mem_cons_self, hrest]
    rw [Prod.mk.injEq]
    constructor
    · rw [List.flatMap_cons, List.append_cancel_left_eq]
      refine List.flatMap_congr fun p hp => ?_
      rw [hother p hp]
    · funext port
      rw [List.map_cons]
      by_cases heq : port = peer.virtualPort
      · subst heq
        simp [hports.1]
      · simp [heq]

end GgpoRelay
end Sf4e
