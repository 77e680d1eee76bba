/-
# The session server

`sf4e::SessionServer` as it is written: one handler per message type, `Step` as the loop
over one poll's messages followed by the deferred broadcasts, and the connection callback.

`Step` keeps two local flags, `bSendLobbyAllReady` and `bSendBattleSynced`, across all the
messages of one poll; `StepState` is the server together with these locals.  Handlers return
`none` where the source has undefined behaviour, which is in one place only: `HandleResults`
given an index outside the client list.
-/
import Sf4e.Session.Protocol

namespace Sf4e

open SessionProtocol

/-- `SessionServer::SessionMember`. -/
structure SessionMember where
  /-- What the lobby knows of the member. -/
  data : MemberData
  /-- The connection the member joined on. -/
  conn : HSteamNetConnection
deriving DecidableEq, Repr

/-- `sf4e::SessionServer`. -/
structure SessionServer where
  /-- The server's own identity, the host part of the connection ids it hands out. -/
  identity : String
  /-- The hash a joining client has to present. -/
  sidecarHash : String
  /-- The connection ids handed out so far. -/
  cidMap : HSteamNetConnection → Option ConnectionID
  /-- The members, players first. -/
  clients : List SessionMember
  /-- Must the next `Step` broadcast a data update? -/
  dataDirty : Bool
  /-- The lobby settings; the member list is filled in when they are sent. -/
  lobbyData : LobbyData
  /-- The match being prepared. -/
  matchData : MatchData
  /-- Per side, has the player reported a punched hole? -/
  punchReady : Side → Bool

/-- A message as the poll group hands it out. -/
structure Incoming where
  /-- The connection it arrived on. -/
  conn : HSteamNetConnection
  /-- `GetMessageNumber`: the number of the message on its connection. -/
  messageNumber : ℕ
  /-- The printed address of the sender. -/
  peerAddr : String := ""
  /-- `IsLocalHost` of that address. -/
  isLocalHost : Bool := true
  /-- The parsed message, or `none` when it is not JSON. -/
  payload : Option Document
deriving DecidableEq

namespace Incoming

/-- A message that has nothing but a type. -/
def bare (conn : HSteamNetConnection) (n : ℕ) (t : MessageType) : Incoming :=
  { conn := conn, messageNumber := n, payload := some (.bare t) }

/-- A join request. -/
def join (conn : HSteamNetConnection) (n : ℕ) (request : SessionJoinRequest) : Incoming :=
  { conn := conn
    messageNumber := n
    payload := some { Document.bare .sessionJoinReq with joinRequest := some request } }

end Incoming

/-- What the server sends. -/
inductive Output
  /-- `Respond`: one message on one connection. -/
  | respond (conn : HSteamNetConnection) (msg : ServerMessage)
  /-- `BroadcastMessage`, with the connections of the members at that moment. -/
  | broadcast (conns : List HSteamNetConnection) (msg : ServerMessage)
deriving DecidableEq

namespace SessionServer

/-- The constructor. -/
def new (identity sidecarHash : String) (editionSelect : Bool) (roundCount : Int32)
    (roundTime : FixedPoint) : SessionServer :=
  { identity := identity
    sidecarHash := sidecarHash
    cidMap := fun _ => none
    clients := []
    dataDirty := false
    lobbyData := { LobbyData.nullLobby with
      id := ⟨identity, "1"⟩
      editionSelect := editionSelect
      roundCount := roundCount
      roundTime := roundTime }
    matchData := MatchData.clear
    punchReady := fun _ => false }

/-- The connections of the members, in lobby order. -/
def conns (s : SessionServer) : List HSteamNetConnection := s.clients.map (·.conn)

/-- The member in a player's slot. -/
def player (s : SessionServer) (i : Side) : Option SessionMember := s.clients[i.val]?

/-- The side a connection plays on: the loop over the first two clients that starts most
handlers. -/
def side (s : SessionServer) (conn : HSteamNetConnection) : Option Side :=
  if (s.player 0).map (·.conn) = some conn then some 0
  else if (s.player 1).map (·.conn) = some conn then some 1
  else none

/-- `BroadcastMessage`. -/
def broadcastMessage (s : SessionServer) (msg : ServerMessage) : Output :=
  .broadcast s.conns msg

/-- The member with its battle-loaded flag cleared. -/
def markUnloaded (c : SessionMember) : SessionMember :=
  { c with data := { c.data with flags := c.data.flags &&& ~~~mfBattleLoaded } }

/-- `ResetBattleSync`. -/
def resetBattleSync (s : SessionServer) : SessionServer :=
  { s with clients := s.clients.map markUnloaded }

/-- `ResetLobbyForRematch`. -/
def resetLobbyForRematch (s : SessionServer) : SessionServer :=
  { s.resetBattleSync with
    matchData := s.matchData.clearReady
    punchReady := fun _ => false
    dataDirty := true }

/-- `HandleResults`: the loser goes to the end of the queue. -/
def handleResults (s : SessionServer) (loserIndex : ℤ) : Option SessionServer :=
  if loserIndex < 0 then none
  else
    match s.clients[loserIndex.toNat]? with
    | none => none
    | some loser =>
      some { s with
        clients := (s.clients ++ [loser]).eraseIdx loserIndex.toNat
        matchData := MatchData.clear }

/-- `RegisterToWait`. -/
def registerToWait (s : SessionServer) (m : Incoming) (request : SessionJoinRequest)
    (cid : ConnectionID) : JoinResult × SessionServer :=
  if request.sidecarHash ≠ s.sidecarHash then (.hashInvalid, s)
  else if s.clients.length ≥ maxSf4eProtocolUsers then (.lobbyFull, s)
  else if s.clients.any (fun c => c.data.name == request.username) then (.nameTaken, s)
  else
    let member : SessionMember :=
      { data :=
          { connId := cid
            name := request.username
            ip := if m.isLocalHost then "" else m.peerAddr
            port := request.port
            flags := 0 }
        conn := m.conn }
    (.joinOk, { s with clients := s.clients ++ [member] })

/-! ## Handlers -/

/-- `MT_SESSION_HELLO` on a connection without an id. -/
def onHello (s : SessionServer) (conn : HSteamNetConnection) : SessionServer × List Output :=
  let cid : ConnectionID := ⟨s.identity, toString conn.toNat⟩
  ({ s with cidMap := Function.update s.cidMap conn (some cid) },
    [.respond conn (.helloResp cid)])

/-- Pass a message on to the first member with the given connection id. -/
def relayTo (s : SessionServer) (dest : ConnectionID) (doc : Document) : List Output :=
  match s.clients.find? fun c => c.data.connId == dest with
  | none => []
  | some c => [.respond c.conn (.relayed doc)]

/-- `MT_FORWARD`.  The checks on the source and on the destination's host only log. -/
def onForward (s : SessionServer) (doc : Document) : List Output :=
  match doc.forward with
  | none => []
  | some fwd => s.relayTo fwd.dest doc

/-- `MT_SESSION_JOINREQ`. -/
def onJoinReq (s : SessionServer) (m : Incoming) (doc : Document) (cid : ConnectionID) :
    SessionServer × List Output :=
  match doc.joinRequest with
  | none => (s, [.respond m.conn (.joinReject .requestInvalid)])
  | some request =>
    match s.registerToWait m request cid with
    | (.joinOk, s') => ({ s' with dataDirty := true }, [])
    | (result, s') => (s', [.respond m.conn (.joinReject result)])

/-- `MT_PREBATTLE_SETCHARA`: either player may set the selection of the own side. -/
def onSetChara (s : SessionServer) (conn : HSteamNetConnection) (doc : Document) :
    SessionServer :=
  match s.side conn, doc.setChara with
  | some i, some request =>
    { s with
      matchData := { s.matchData with
        chara := Function.update s.matchData.chara i request.chara }
      dataDirty := true }
  | _, _ => s

/-- The three setters that only the player in slot 0 may use. -/
def hostSetter {ρ : Type} (s : SessionServer) (conn : HSteamNetConnection)
    (request : Option ρ) (set : ρ → SessionServer) : SessionServer :=
  if s.side conn ≠ some 0 then s
  else
    match request with
    | none => s
    | some r => { set r with dataDirty := true }

/-- `MT_PREBATTLE_SETENV`. -/
def onSetEnv (s : SessionServer) (conn : HSteamNetConnection) (doc : Document) :
    SessionServer :=
  s.hostSetter conn doc.setEnv fun r =>
    { s with matchData := { s.matchData with rngSeed := r.rngSeed } }

/-- `MT_PREBATTLE_SETSTAGE`. -/
def onSetStage (s : SessionServer) (conn : HSteamNetConnection) (doc : Document) :
    SessionServer :=
  s.hostSetter conn doc.setStage fun r =>
    { s with matchData := { s.matchData with stageID := r.stageID.toInt } }

/-- `MT_LOBBY_SETSETTINGS`. -/
def onSetSettings (s : SessionServer) (conn : HSteamNetConnection) (doc : Document) :
    SessionServer :=
  s.hostSetter conn doc.setSettings fun r =>
    { s with lobbyData := { s.lobbyData with
        editionSelect := r.editionSelect
        roundCount := r.roundCount
        roundTime := r.roundTime
        trainingMode := r.trainingMode } }

/-- `MT_LOBBY_RESET`: either player may reset. -/
def onReset (s : SessionServer) (conn : HSteamNetConnection) : SessionServer :=
  match s.side conn with
  | none => s
  | some _ => s.resetLobbyForRematch

/-- `MT_LOBBY_REPORTRESULTS`: any connection with an id may report. -/
def onReportResults (s : SessionServer) (doc : Document) : Option SessionServer :=
  match doc.reportResults with
  | none => some s
  | some request =>
    (s.handleResults request.loserSide.toInt).map fun s' => { s' with dataDirty := true }

/-- `MT_BATTLE_SNAPSHOT` and `MT_BATTLE_HASH`: to every other member. -/
def onVerification (s : SessionServer) (conn : HSteamNetConnection) (doc : Document) :
    List Output :=
  (s.clients.filter fun c => c.conn != conn).map fun c => .respond c.conn (.relayed doc)

/-- `MT_PUNCH_READY`. -/
def onPunchReady (s : SessionServer) (conn : HSteamNetConnection) :
    SessionServer × List Output :=
  match s.side conn with
  | none => (s, [])
  | some i =>
    let punchReady := Function.update s.punchReady i true
    if punchReady 0 && punchReady 1 then
      ({ s with punchReady := fun _ => false }, [s.broadcastMessage .punchGo])
    else ({ s with punchReady := punchReady }, [])

/-- `MT_BATTLE_GGPO_FRAME`. -/
def onGgpoFrame (s : SessionServer) (conn : HSteamNetConnection) (doc : Document) :
    List Output :=
  match doc.ggpoFrame with
  | none => []
  | some frame =>
    if frame.src.host = s.identity ∧ frame.src.user ≠ toString conn.toNat then []
    else s.relayTo frame.dest doc

/-- The member after a battle-loaded report from `conn`. -/
def markLoaded (conn : HSteamNetConnection) (c : SessionMember) : SessionMember :=
  if c.conn = conn then
    { c with data := { c.data with flags := c.data.flags ||| mfBattleLoaded } }
  else c

end SessionServer

open SessionServer

/-! ## `Step` -/

/-- The server in the middle of `Step`, with the locals of the call. -/
structure StepState where
  server : SessionServer
  bSendLobbyAllReady : Bool
  bSendBattleSynced : Bool

namespace StepState

/-- The state when the loop over the messages is entered. -/
def start (s : SessionServer) : StepState := ⟨s, false, false⟩

/-- `MT_BATTLE_LOADED`: the flag to send is recomputed over all members. -/
def onBattleLoaded (st : StepState) (conn : HSteamNetConnection) : StepState :=
  let clients := st.server.clients.map (markLoaded conn)
  { st with
    server := { st.server with clients := clients, dataDirty := true }
    bSendBattleSynced := clients.all fun c => c.data.battleLoaded }

/-- `MT_LOBBY_READY`. -/
def onReady (st : StepState) (m : Incoming) : StepState :=
  match st.server.side m.conn with
  | none => st
  | some i =>
    let matchData := { st.server.matchData with
      readyMessageNum :=
        Function.update st.server.matchData.readyMessageNum i (m.messageNumber : ℤ) }
    { st with
      server := { st.server with matchData := matchData, dataDirty := true }
      bSendLobbyAllReady := st.bSendLobbyAllReady || matchData.isAllReady }

/-- A message of a known type on a connection that has an id. -/
def onRegistered (st : StepState) (m : Incoming) (doc : Document) (type : MessageType)
    (cid : ConnectionID) : Option (StepState × List Output) :=
  let s := st.server
  match type with
  | .forward => some (st, s.onForward doc)
  | .sessionJoinReq =>
    some ({ st with server := (s.onJoinReq m doc cid).1 }, (s.onJoinReq m doc cid).2)
  | .preBattleSetChara => some ({ st with server := s.onSetChara m.conn doc }, [])
  | .preBattleSetEnv => some ({ st with server := s.onSetEnv m.conn doc }, [])
  | .preBattleSetStage => some ({ st with server := s.onSetStage m.conn doc }, [])
  | .lobbySetSettings => some ({ st with server := s.onSetSettings m.conn doc }, [])
  | .battleLoaded => some (st.onBattleLoaded m.conn, [])
  | .lobbyReady => some (st.onReady m, [])
  | .lobbyReportResults =>
    (s.onReportResults doc).map fun s' => ({ st with server := s' }, [])
  | .lobbyReset => some ({ st with server := s.onReset m.conn }, [])
  | .battleSnapshot | .battleHash => some (st, s.onVerification m.conn doc)
  | .punchReady =>
    some ({ st with server := (s.onPunchReady m.conn).1 }, (s.onPunchReady m.conn).2)
  | .battleGgpoFrame => some (st, s.onGgpoFrame m.conn doc)
  | .sessionHello | .sessionHelloResp | .sessionDataUpdate | .sessionJoinRej
  | .lobbyAllReady | .battleSynced | .punchGo => some (st, [])

/-- The body of the loop over the received messages. -/
def onMessage (st : StepState) (m : Incoming) : Option (StepState × List Output) :=
  match m.payload with
  | none => some (st, [])
  | some doc =>
    match doc.type with
    | none => some (st, [])
    | some field =>
      let type := MessageType.fromJson field
      match st.server.cidMap m.conn with
      | none =>
        if type = .sessionHello then
          some ({ st with server := (st.server.onHello m.conn).1 }, (st.server.onHello m.conn).2)
        else some (st, [])
      | some cid => st.onRegistered m doc type cid

/-- The lobby data as it is sent: with the members filled in. -/
def sentLobbyData (s : SessionServer) : LobbyData :=
  { s.lobbyData with members := s.clients.map (·.data) }

/-- The data update that `Step` sends when the data changed. -/
def dataUpdate (s : SessionServer) : ServerMessage := .dataUpdate (sentLobbyData s) s.matchData

/-- The deferred broadcasts at the end of `Step`. -/
def broadcasts (st : StepState) : List Output :=
  (if st.server.dataDirty then [st.server.broadcastMessage (dataUpdate st.server)] else []) ++
  (if st.bSendLobbyAllReady then [st.server.broadcastMessage .lobbyAllReady] else []) ++
  (if st.bSendBattleSynced then [st.server.broadcastMessage .battleSynced] else [])

/-- The server that `Step` leaves behind after its broadcasts. -/
def finish (st : StepState) : SessionServer := { st.server with dataDirty := false }

/-- The loop over the messages of one poll.  A message that was enumerated without its data
ends the call at once with `-1`. -/
def receive : StepState → List (Option Incoming) → Option (ℤ × SessionServer × List Output)
  | st, [] => some (0, st.finish, st.broadcasts)
  | st, none :: _ => some (-1, st.server, [])
  | st, some m :: ms =>
    match st.onMessage m with
    | none => none
    | some (st', out) =>
      match receive st' ms with
      | none => none
      | some (rc, s', out') => some (rc, s', out ++ out')

end StepState

namespace SessionServer

/-- `SessionServer::Step`: the return code, the server afterwards and everything sent.  The
argument is what the poll returned; `none` is a poll error. -/
def step (s : SessionServer) : Option (List (Option Incoming)) →
    Option (ℤ × SessionServer × List Output)
  | none => some (-1, s, [])
  | some msgs => (StepState.start s).receive msgs

/-! ## The connection callback -/

/-- `ESteamNetworkingConnectionState`. -/
inductive ConnectionState
  | none | connecting | findingRoute | connected | closedByPeer | problemDetectedLocally
deriving DecidableEq, Repr

/-- `SteamNetConnectionStatusChangedCallback_t`. -/
structure StatusChange where
  /-- The connection. -/
  conn : HSteamNetConnection
  /-- The state it is in now. -/
  state : ConnectionState
  /-- The state it was in before. -/
  oldState : ConnectionState
deriving DecidableEq, Repr

/-- Does the callback drop the connection's member? -/
def StatusChange.drops (info : StatusChange) : Bool :=
  (info.state == .closedByPeer || info.state == .problemDetectedLocally) &&
    info.oldState == .connected

/-- `OnSteamNetConnectionStatusChanged`: the first member on a lost connection is erased. -/
def onSteamNetConnectionStatusChanged (s : SessionServer) (info : StatusChange) :
    SessionServer :=
  if info.drops then
    match s.clients.findIdx? fun c => c.conn == info.conn with
    | none => s
    | some k => { s with clients := s.clients.eraseIdx k, dataDirty := true }
  else s

end SessionServer
end Sf4e
