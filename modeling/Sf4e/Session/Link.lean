/-
# One client and its connection

A server, one client and the two directions of the connection between them.  The other
clients are left open: their messages reach the server as any actions that are not on this
connection.  Of the client the file has what is behind the ready button: the request it
remembers, the data it shows, and the messages it sends.

Every message of the client is numbered on its connection, and is handled in the order of the
numbers.  A link keeps a few facts that tie the two ends together (`Upkeep`): the client's
member goes by the client's name, which nobody else has.
-/
import Sf4e.Session.Channel
import Sf4e.Session.Membership

namespace Sf4e

open SessionProtocol SessionServer Trace

/-! ## The client -/

/-- The loop over the two players' slots that looks for a member. -/
def firstSlot (p : MemberData → Bool) (members : List MemberData) : Option Side :=
  if (members[0]?).any p then some 0 else if (members[1]?).any p then some 1 else none

/-- The part of `SessionClient` and of the overlay that is behind the ready button. -/
structure LobbyClient where
  /-- `_name`. -/
  name : String
  /-- `_sidecarHash`. -/
  sidecarHash : String
  /-- `_ggpoPort`. -/
  ggpoPort : UInt16
  /-- Is `_conn` a valid connection? -/
  connected : Bool
  /-- `_cid`. -/
  cid : ConnectionID
  /-- `_lobbyData`. -/
  lobbyData : LobbyData
  /-- `_matchData`. -/
  matchData : MatchData
  /-- `_outstandingReadyRequestNumber`. -/
  outstandingReadyRequestNumber : ℤ
  /-- The number of messages sent on the connection, which is also the number of the last. -/
  sentMessages : ℕ

/-- The values a player brings to `TryLobbyReady`. -/
structure ReadyChoice where
  chara : ConfirmedCharaConditions
  rngSeed : UInt32
  stageID : Int32
deriving DecidableEq

/-- The type a document announces, as the server reads it. -/
def SessionProtocol.Document.type? (doc : Document) : Option MessageType :=
  doc.type.map MessageType.fromJson

namespace LobbyClient

/-- A client whose connection has just come up. -/
def new (name sidecarHash : String) (ggpoPort : UInt16) : LobbyClient :=
  { name := name
    sidecarHash := sidecarHash
    ggpoPort := ggpoPort
    connected := true
    cid := ⟨"", ""⟩
    lobbyData := LobbyData.nullLobby
    matchData := MatchData.clear
    outstandingReadyRequestNumber := -1
    sentMessages := 0 }

/-- `GetLocalLobbyActiveSide`. -/
def localLobbyActiveSide (c : LobbyClient) : Option Side :=
  firstSlot (fun m => m.connId == c.cid) c.lobbyData.members

/-- `CanLobbyReady`; `inLobby` is the status of the facade. -/
def canLobbyReady (c : LobbyClient) (inLobby : Bool) : Bool :=
  inLobby && c.localLobbyActiveSide.any fun i =>
    decide (c.outstandingReadyRequestNumber ≤ -1) && decide (c.matchData.readyMessageNum i ≤ -1)

/-- The messages of `TryLobbyReady`, for a player on side `i`. -/
def readyMessages (i : Side) (choice : ReadyChoice) : List Document :=
  [{ Document.bare .preBattleSetChara with setChara := some ⟨choice.chara⟩ }] ++
  (if i = 0 then
    [{ Document.bare .preBattleSetEnv with setEnv := some ⟨choice.rngSeed⟩ },
     { Document.bare .preBattleSetStage with setStage := some ⟨choice.stageID⟩ }]
  else []) ++
  [Document.bare .lobbyReady]

/-- The request that answers `HELLO_RESP`. -/
def joinMessage (c : LobbyClient) : Document :=
  { Document.bare .sessionJoinReq with
    joinRequest := some ⟨c.sidecarHash, c.name, c.ggpoPort⟩ }

/-- A data update comes in: the request is settled when its number stands in the own slot. -/
def onDataUpdate (c : LobbyClient) (l : LobbyData) (d : MatchData) : LobbyClient :=
  let c' := { c with
    lobbyData := { l with members := l.members.map MemberData.received }
    matchData := d }
  if c.outstandingReadyRequestNumber > -1 then
    match firstSlot (fun m => m.name == c.name) c'.lobbyData.members with
    | none => c'
    | some i =>
      if d.readyMessageNum i = c.outstandingReadyRequestNumber then
        { c' with outstandingReadyRequestNumber := -1 }
      else c'
  else c'

/-- The body of the loop of `SessionClient::Step`, as far as the lobby is concerned: the
client afterwards and what it sends. -/
def receive (c : LobbyClient) : ServerMessage → LobbyClient × List Document
  | .helloResp cid => ({ c with cid := cid }, [c.joinMessage])
  | .joinReject _ => ({ c with connected := false }, [])
  | .dataUpdate l d => (c.onDataUpdate l d, [])
  | .lobbyAllReady | .battleSynced | .punchGo | .relayed _ => (c, [])

/-- The request is settled, and the ready button works whenever the server shows the player
as not ready. -/
def CanReadyAgain (c : LobbyClient) : Prop :=
  c.outstandingReadyRequestNumber = -1 ∧
    ∀ i, c.localLobbyActiveSide = some i → c.matchData.readyMessageNum i ≤ -1 →
      c.canLobbyReady true = true

end LobbyClient

/-! ## The server, a client and their connection -/

/-- The server, one client and the messages between them, oldest first. -/
structure Link where
  /-- The server. -/
  phase : Phase
  /-- The client. -/
  client : LobbyClient
  /-- Sent by the client and not handled yet, with the message numbers. -/
  up : List (Document × ℕ)
  /-- Sent to the client and not received yet. -/
  down : List ServerMessage

/-- What happens on a link. -/
inductive LinkAction
  /-- The server does something else than take a message of the client. -/
  | server (a : Action)
  /-- The loop of the server's `Step` takes the client's next message. -/
  | handle (peerAddr : String) (isLocalHost : Bool)
  /-- The client's `Step` takes the next message. -/
  | deliver
  /-- The player presses the ready button. -/
  | ready (choice : ReadyChoice)
  /-- The client sends any other message. -/
  | send (doc : Document)
deriving DecidableEq

/-- A client's message as the server's poll hands it out. -/
def incoming (conn : HSteamNetConnection) (peerAddr : String) (isLocalHost : Bool)
    (p : Document × ℕ) : Incoming :=
  ⟨conn, p.2, peerAddr, isLocalHost, some p.1⟩

namespace Link

/-- The client sends some messages. -/
def post (t : Link) (docs : List Document) : Link :=
  { t with
    client := { t.client with sentMessages := t.client.sentMessages + docs.length }
    up := t.up ++ docs.zipIdx (t.client.sentMessages + 1) }

/-- The server takes an action; what it sends to the client is on its way. -/
def serve (conn : HSteamNetConnection) (t : Link) (a : Action) : Option (List Output × Link) :=
  (t.phase.next a).map fun r =>
    (r.1, { t with phase := r.2, down := t.down ++ r.1.flatMap (Output.deliveries conn) })

/-- `Send` hands back the number of the message it has sent, and `Lobby_Ready` keeps it. -/
def request (t : Link) : Link :=
  { t with
    client := { t.client with
      outstandingReadyRequestNumber := (t.client.sentMessages : ℤ) } }

/-- `TryLobbyReady`, for a client that is in the lobby. -/
def tryLobbyReady (t : Link) (choice : ReadyChoice) : Option Link :=
  match t.client.localLobbyActiveSide with
  | none => none
  | some i =>
    if t.client.canLobbyReady true then
      some (t.post (LobbyClient.readyMessages i choice)).request
    else none

/-- The partial step function of the link on the connection `conn`. -/
def next (conn : HSteamNetConnection) (t : Link) : LinkAction → Option (List Output × Link)
  | .server a => if ∀ m ∈ a.message?, m.conn ≠ conn then t.serve conn a else none
  | .handle peerAddr isLocalHost =>
    match t.up with
    | [] => none
    | p :: up => { t with up := up }.serve conn (.message (incoming conn peerAddr isLocalHost p))
  | .deliver =>
    match t.down with
    | [] => none
    | msg :: down =>
      if t.client.connected then
        let r := t.client.receive msg
        some ([], { t with client := r.1, down := down }.post r.2)
      else none
  | .ready choice =>
    if t.client.connected then (t.tryLobbyReady choice).map fun t' => ([], t') else none
  | .send doc =>
    -- a ready comes from `TryLobbyReady` only, and a join from `HELLO_RESP`
    if t.client.connected ∧ doc.type? ≠ some .lobbyReady ∧ doc.type? ≠ some .sessionJoinReq then
      some ([], t.post [doc])
    else none

end Link

/-- A fresh server and a client that has just connected to it. -/
def FreshLink (t : Link) : Prop :=
  Fresh t.phase ∧ t.up = [] ∧ t.down = [] ∧
    ∃ name sidecarHash ggpoPort, t.client = LobbyClient.new name sidecarHash ggpoPort

/-- The link as a transition system. -/
def linkLTS (conn : HSteamNetConnection) : LTS Link LinkAction (List Output) :=
  .ofFun FreshLink (Link.next conn)

/-- An entry of the log of a link. -/
abbrev LinkEntry := Entry Link LinkAction (List Output)

/-! ## Inversion of a step -/

/-- Everything a step of a link can be. -/
inductive LinkMoves (conn : HSteamNetConnection) (t : Link) :
    LinkAction → List Output → Link → Prop
  | server {a : Action} {out : List Output} {ph' : Phase}
      (hconn : ∀ m ∈ a.message?, m.conn ≠ conn) (hnext : t.phase.next a = some (out, ph')) :
      LinkMoves conn t (.server a) out
        { t with phase := ph', down := t.down ++ out.flatMap (Output.deliveries conn) }
  | handle {addr : String} {loc : Bool} {p : Document × ℕ} {up : List (Document × ℕ)}
      {out : List Output} {ph' : Phase} (hup : t.up = p :: up)
      (hnext : t.phase.next (.message (incoming conn addr loc p)) = some (out, ph')) :
      LinkMoves conn t (.handle addr loc) out
        { t with phase := ph', up := up, down := t.down ++ out.flatMap (Output.deliveries conn) }
  | deliver {msg : ServerMessage} {down : List ServerMessage} (hdown : t.down = msg :: down) :
      LinkMoves conn t .deliver []
        ({ t with client := (t.client.receive msg).1, down := down }.post (t.client.receive msg).2)
  | ready {choice : ReadyChoice} {i : Side} (hside : t.client.localLobbyActiveSide = some i)
      (hcan : t.client.canLobbyReady true = true) :
      LinkMoves conn t (.ready choice) [] ((t.post (LobbyClient.readyMessages i choice)).request)
  | send {doc : Document} (hready : doc.type? ≠ some .lobbyReady)
      (hjoin : doc.type? ≠ some .sessionJoinReq) : LinkMoves conn t (.send doc) [] (t.post [doc])

lemma linkMoves_of_next {conn : HSteamNetConnection} {t t' : Link} {a : LinkAction}
    {out : List Output} (h : t.next conn a = some (out, t')) : LinkMoves conn t a out t' := by
  cases a with
  | server a =>
    simp only [Link.next] at h
    split at h
    · rename_i hconn
      obtain ⟨⟨out', ph'⟩, hnext, heq⟩ := Option.map_eq_some_iff.1 h
      obtain ⟨rfl, rfl⟩ := Prod.mk.inj heq
      exact .server hconn hnext
    · simp at h
  | handle addr loc =>
    simp only [Link.next] at h
    split at h
    · simp at h
    · rename_i p up hup
      obtain ⟨⟨out', ph'⟩, hnext, heq⟩ := Option.map_eq_some_iff.1 h
      obtain ⟨rfl, rfl⟩ := Prod.mk.inj heq
      exact .handle hup hnext
  | deliver =>
    simp only [Link.next] at h
    split at h
    · simp at h
    · rename_i msg down hdown
      split at h
      · obtain ⟨rfl, rfl⟩ := Prod.mk.inj (Option.some.inj h)
        exact .deliver hdown
      · simp at h
  | ready choice =>
    simp only [Link.next] at h
    split at h
    · obtain ⟨t₁, htry, heq⟩ := Option.map_eq_some_iff.1 h
      obtain ⟨rfl, rfl⟩ := Prod.mk.inj heq
      unfold Link.tryLobbyReady at htry
      split at htry
      · simp at htry
      · rename_i i hside
        split at htry
        · rename_i hcan
          obtain rfl := Option.some.inj htry
          exact .ready hside hcan
        · simp at htry
    · simp at h
  | send doc =>
    simp only [Link.next] at h
    split at h
    · rename_i hok
      obtain ⟨rfl, rfl⟩ := Prod.mk.inj (Option.some.inj h)
      exact .send hok.2.1 hok.2.2
    · simp at h

/-! ## What a link keeps -/

/-- The facts that tie the two ends of a link together. -/
structure Upkeep (conn : HSteamNetConnection) (t : Link) : Prop where
  /-- No two members have the same name. -/
  names : t.phase.server.names.Nodup
  /-- Every member's connection has an id. -/
  ids : t.phase.server.HasIds
  /-- The members on the connection go by the client's name. -/
  own : ∀ c ∈ t.phase.server.clients, c.conn = conn → c.data.name = t.client.name
  /-- The client asks to join under its own name only. -/
  joins : ∀ p ∈ t.up, p.1.type? = some .sessionJoinReq →
    ∀ r ∈ p.1.joinRequest, r.username = t.client.name

/-- A step of the server: a new member on the connection has asked to join. -/
lemma Upkeep.serve {conn : HSteamNetConnection} {t : Link} (h : Upkeep conn t) {a : Action}
    {out : List Output} {ph' : Phase} (hnext : t.phase.next a = some (out, ph'))
    (hjoin : ∀ m ∈ a.message?, m.conn = conn → ∀ name, m.JoinsAs name → name = t.client.name)
    {up : List (Document × ℕ)} (hup : ∀ p ∈ up, p ∈ t.up) (down : List ServerMessage) :
    Upkeep conn { t with phase := ph', up := up, down := down } := by
  refine ⟨nodup_names_of_next hnext h.names, hasIds_of_next hnext h.ids, fun c hc hconn => ?_,
    fun p hp => h.joins p (hup p hp)⟩
  rcases who_of_next hnext hc with ⟨c₀, hc₀, hwho⟩ | ⟨m, hm, -, hmconn, hname⟩
  · obtain ⟨hconn₀, hname₀⟩ := Prod.mk.inj hwho
    rw [← hname₀]
    exact h.own c₀ hc₀ (hconn₀.trans hconn)
  · exact hjoin m hm (hmconn.symm.trans hconn) _ hname

/-- The client sends messages, of which only a join under its own name can be a join. -/
lemma Upkeep.post {conn : HSteamNetConnection} {t : Link} (h : Upkeep conn t)
    {docs : List Document} (hjoin : ∀ doc ∈ docs, doc.type? = some .sessionJoinReq →
      ∀ r ∈ doc.joinRequest, r.username = t.client.name) : Upkeep conn (t.post docs) := by
  refine ⟨h.names, h.ids, h.own, fun p hp => ?_⟩
  rcases List.mem_append.1 hp with hp | hp
  · exact h.joins p hp
  · exact hjoin p.1 (List.fst_mem_of_mem_zipIdx hp)

lemma receive_name (c : LobbyClient) (msg : ServerMessage) :
    (c.receive msg).1.name = c.name := by
  cases msg with
  | dataUpdate l d =>
    show (c.onDataUpdate l d).name = c.name
    unfold LobbyClient.onDataUpdate
    dsimp only
    split
    · split
      · rfl
      · split <;> rfl
    · rfl
  | helloResp | joinReject | lobbyAllReady | battleSynced | punchGo | relayed => rfl

lemma type?_readyMessages {i : Side} {choice : ReadyChoice} {doc : Document}
    (h : doc ∈ LobbyClient.readyMessages i choice) : doc.type? ≠ some .sessionJoinReq := by
  simp only [LobbyClient.readyMessages, List.mem_append, List.mem_singleton] at h
  rcases h with (rfl | h) | rfl
  · simp [Document.type?]
  · split_ifs at h
    · rcases List.mem_pair.1 h with rfl | rfl <;> simp [Document.type?]
    · simp at h
  · simp [Document.type?]

/-- **Step lemma for the upkeep.** -/
lemma Upkeep.step {conn : HSteamNetConnection} {e : LinkEntry} (h : Upkeep conn e.pre)
    (hstep : (linkLTS conn).Steps e) : Upkeep conn e.post := by
  obtain ⟨t, act, out, t'⟩ := e
  have hmove : LinkMoves conn t act out t' := linkMoves_of_next hstep
  cases hmove with
  | server hconn hnext =>
    exact h.serve hnext (fun m hm hmconn => absurd hmconn (hconn m hm)) (fun _ hp => hp) _
  | handle hup hnext =>
    rename_i addr loc p up ph'
    refine h.serve hnext (fun m hm _ name hname => ?_) (fun q hq => ?_) _
    · obtain rfl : incoming conn addr loc p = m := by simpa [Action.message?] using hm
      obtain ⟨htype, doc, hdoc, r, hr, rfl⟩ := hname
      obtain rfl : p.1 = doc := by simpa [incoming] using hdoc
      exact h.joins p (by simp [hup]) htype r hr
    · show q ∈ t.up
      rw [hup]
      exact List.mem_cons_of_mem p hq
  | deliver hdown =>
    rename_i msg down
    have hname := receive_name t.client msg
    have hpre : Upkeep conn { t with client := (t.client.receive msg).1, down := down } :=
      ⟨h.names, h.ids, fun c hc hconn => (h.own c hc hconn).trans hname.symm,
        fun p hp htype r hr => (h.joins p hp htype r hr).trans hname.symm⟩
    refine hpre.post fun doc hdoc htype r hr => ?_
    cases msg with
    | helloResp cid =>
      -- the answer to a hello is the join, under the client's name
      obtain rfl := List.mem_singleton.1 hdoc
      obtain rfl : _ = r := Option.some.inj hr
      rfl
    | dataUpdate | joinReject | lobbyAllReady | battleSynced | punchGo | relayed =>
      simp [LobbyClient.receive] at hdoc
  | ready hside hcan =>
    rename_i choice i
    have hpost : Upkeep conn (t.post (LobbyClient.readyMessages i choice)) :=
      h.post fun doc hdoc htype => absurd htype (type?_readyMessages hdoc)
    exact ⟨hpost.names, hpost.ids, hpost.own, hpost.joins⟩
  | send hready hjoin =>
    refine h.post fun doc hdoc htype => ?_
    obtain rfl := List.mem_singleton.1 hdoc
    exact absurd htype hjoin

lemma upkeep_of_run {conn : HSteamNetConnection} {log : List LinkEntry} {t : Link}
    (h : (linkLTS conn).Run log t) : Upkeep conn t := by
  refine h.invariant_of_step (fun _ t => Upkeep conn t) ?_ fun _ _ hi hs => hi.step hs
  rintro t ⟨⟨identity, hash, edition, count, time, hph⟩, hup, -, -⟩
  refine ⟨?_, ?_, ?_, ?_⟩
  · simp [hph, names, SessionServer.new]
  · intro c hc
    simp [hph, SessionServer.new] at hc
  · intro c hc
    simp [hph, SessionServer.new] at hc
  · simp [hup]

end Sf4e
