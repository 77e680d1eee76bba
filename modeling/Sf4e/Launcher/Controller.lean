/-
# The launch controller

`NetplayLaunchController::HandleWebMessage` as far as it makes a `NetplayConfig`: creating a
room with the broker, and starting as host or guest.  A message is taken together with the
answers the broker client returns while it is handled, whatever they are.

The values of a room reach the configuration on three ways: through the persisted settings
(the room code), through the fields of the controller that the last created room left behind
(match id, token and GGPO port), and through the connect plan of the room being started.
-/
import Mathlib.Data.List.DropRight
import Sf4e.Broker.Decode
import Sf4e.Trace.LTS

namespace Sf4e
namespace Launcher

open Trace Wire Transport
open Broker (ConnectPlanResult Role applyConnectPlanToConfig)
open Relay (ascii)

/-! ## Room codes -/

/-- `NETPLAY_ROOM_KEY_LEN`. -/
def netplayRoomKeyLen : ℕ := 32

/-- `char relayRoomCode[32]` and the like. -/
abbrev RoomCodeField := CString netplayRoomKeyLen

/-- `strncpy_s` into a room code field. -/
def RoomCodeField.copy (src : Text) : RoomCodeField :=
  CString.copy netplayRoomKeyLen (by decide) src

/-- The characters that `TrimRoomCodeInPlace` takes off: space, tab, CR and LF. -/
def isBlank (c : UInt8) : Bool := c == 32 || c == 9 || c == 13 || c == 10

/-- `TrimRoomCodeInPlace`. -/
def trimRoomCode (s : Text) : Text := (s.dropWhile isBlank).rdropWhile isBlank

/-- A letter in upper case. -/
def toUpper (c : UInt8) : UInt8 := if 97 ≤ c ∧ c ≤ 122 then c - 32 else c

/-- `IsAlnumCodeChar`. -/
def isAlnumCodeChar (c : UInt8) : Bool :=
  (48 ≤ c && c ≤ 57) || (65 ≤ c && c ≤ 90) || (97 ≤ c && c ≤ 122)

/-- `_strnicmp(buf, "SF4-", 4) == 0`. -/
def hasCodePrefix (buf : Text) : Bool := (buf.take 4).map toUpper == ascii "SF4-"

/-- `IsShortRoomCode`. -/
def isShortRoomCode (roomCode : Text) : Bool :=
  let buf := trimRoomCode (CString.truncate netplayRoomKeyLen roomCode)
  let token := buf.drop 4
  hasCodePrefix buf && 4 ≤ token.length && token.length ≤ 20 && token.all isAlnumCodeChar

/-- `NormalizeRelayRoomCode`. -/
def normalizeRelayRoomCode (roomCode : Text) : Option Text :=
  let buf := trimRoomCode (CString.truncate netplayRoomKeyLen roomCode)
  -- `snprintf` into a buffer of the same size
  let buf := if hasCodePrefix buf then buf else (ascii "SF4-" ++ buf).take (netplayRoomKeyLen - 1)
  let buf := buf.map toUpper
  if isShortRoomCode buf then some buf else none

/-- A code keeps its meaning in a room code field. -/
lemma normalizeRelayRoomCode_copy (roomCode : Text) :
    normalizeRelayRoomCode (RoomCodeField.copy roomCode).bytes =
      normalizeRelayRoomCode roomCode := by
  have hfits : CString.truncate netplayRoomKeyLen (RoomCodeField.copy roomCode).bytes =
      CString.truncate netplayRoomKeyLen roomCode :=
    (CString.truncate_eq_self_iff (by decide)).2 (RoomCodeField.copy roomCode).fits
  simp only [normalizeRelayRoomCode, hfits]

/-! ## Answers of the broker -/

/-- `ResolvedEndpoint`. -/
structure Endpoint where
  host : HostField
  port : UInt16
deriving DecidableEq

/-- `BrokerHealth`. -/
structure BrokerHealth where
  ok : Bool
  forceVpsRelay : Bool
deriving DecidableEq

/-- A `RelayRoomCreateResult` that is `ok`. -/
structure RelayRoomCreateResult where
  shortCode : Text
  relayPort : UInt16
  ggpoPort : UInt16
  matchId : HexIdField
  roomToken : HexIdField
deriving DecidableEq

/-- The answer of the matchmaking queue when it has found a room.  The launcher reads the
code, the host and the port of it; the broker sends the rest along. -/
structure QueueAnswer where
  code : Text
  host : HostField
  port : UInt16
  ggpoPort : UInt16
  matchId : HexIdField
  roomToken : HexIdField
deriving DecidableEq

/-- What the broker client returns while a start is handled. -/
structure StartAnswers where
  /-- `POST /v1/queue/join`, or the text of its failure. -/
  queue : Except Text QueueAnswer
  /-- `GET /v1/rooms/:code`, or the text of its failure. -/
  lookup : Except Text Endpoint
  /-- What `ParseRoomCode` makes of an address that is no short code. -/
  address : Except Text Endpoint
  /-- `FetchBrokerHealth`. -/
  health : BrokerHealth
  /-- `FetchConnectPlan`. -/
  plan : ConnectPlanResult
  /-- `SpawnRelayHost`. -/
  spawned : Bool
  /-- `ProbeRemoteTcpConnect`, or the host is a private one, which is not probed. -/
  reachable : Bool

/-! ## The controller -/

/-- `PersistedSettings`, as far as a start reads and writes it. -/
structure PersistedSettings where
  relayRoomCode : RoomCodeField
  relaySessionPort : UInt16
  sessionPort : UInt16
  ggpoPort : UInt16
  defaultConnectMethod : UInt8
deriving DecidableEq

/-- `m_sessionMatchId`, `m_sessionRoomToken` and `m_sessionGgpoPort`. -/
structure SessionFields where
  matchId : HexIdField
  roomToken : HexIdField
  ggpoPort : UInt16
deriving DecidableEq

/-- The fields of a new controller. -/
def SessionFields.blank : SessionFields := ⟨.copy [], .copy [], 0⟩

/-- `NetplayMode`. -/
inductive NetplayMode
  | idle | host | join
deriving DecidableEq

/-- The `NetplayConfig` under construction: the part about the session and, extended, the part
about the transport. -/
structure LaunchConfig extends Transport.NetplayConfig where
  mode : NetplayMode
  sessionPort : UInt16
  /-- `0` is a session on the host's machine, `1` a local relay and `2` a relay on the VPS. -/
  useCentralSession : UInt8
  relayRoomCode : RoomCodeField
  /-- `1` is the host and `2` the guest. -/
  playerRole : UInt8
deriving DecidableEq

/-- The configuration a start begins with. -/
def LaunchConfig.fresh (mode : NetplayMode) (settings : PersistedSettings) : LaunchConfig where
  sessionHost := .copy []
  ggpoPort := settings.ggpoPort
  ggpoTransport := 0
  ggpoRemotePort := 0
  ggpoRemoteHost := .copy []
  matchId := .copy []
  ggpoRoomToken := .copy []
  mode := mode
  sessionPort := settings.sessionPort
  useCentralSession := 0
  relayRoomCode := .copy []
  playerRole := 0

/-- `NetplayLaunchController`. -/
structure Controller where
  lanIp : HostField
  settings : PersistedSettings
  session : SessionFields
  outConfig : LaunchConfig
  finished : Bool
  cancelled : Bool
deriving DecidableEq

/-! ## The transport of a relay session -/

/-- `transportEnv && _stricmp(transportEnv, name) == 0`. -/
def transportIs (transportEnv : Option Text) (name : String) : Bool :=
  transportEnv.any fun value => value.map toUpper == (ascii name).map toUpper

/-- The kept token stands in for a missing one. -/
def SessionFields.fillToken (session : SessionFields) (cfg : LaunchConfig) : LaunchConfig :=
  if session.roomToken.bytes ≠ [] ∧ cfg.ggpoRoomToken.bytes = [] then
    { cfg with ggpoRoomToken := .copy session.roomToken.bytes }
  else cfg

/-- The kept match id replaces any other. -/
def SessionFields.fillMatchId (session : SessionFields) (cfg : LaunchConfig) : LaunchConfig :=
  if session.matchId.bytes ≠ [] then { cfg with matchId := .copy session.matchId.bytes } else cfg

/-- The kept port, at the host of the session, stands in for a missing endpoint. -/
def SessionFields.fillEndpoint (session : SessionFields) (cfg : LaunchConfig) : LaunchConfig :=
  if session.ggpoPort ≠ 0 ∧ cfg.ggpoRemotePort = 0 then
    { cfg with ggpoRemotePort := session.ggpoPort, ggpoRemoteHost := .copy cfg.sessionHost.bytes }
  else cfg

/-- The fallbacks of `ConfigureGgpoTransportForRelay`: what the controller has kept of the last
created room. -/
def SessionFields.fill (session : SessionFields) (cfg : LaunchConfig) : LaunchConfig :=
  session.fillEndpoint (session.fillMatchId (session.fillToken cfg))

/-- `m_outConfig.playerRole` of a role. -/
def roleCode : Role → UInt8
  | .host => 1
  | .guest => 2

/-- `ConfigureGgpoTransportForRelay`; `plan` is what `FetchConnectPlan` returns. -/
def configureGgpoTransportForRelay (transportEnv : Option Text) (session : SessionFields)
    (plan : ConnectPlanResult) (role : Role) (cfg : LaunchConfig) : LaunchConfig :=
  if transportIs transportEnv "legacy" then { cfg with ggpoTransport := 0 }
  else
    let cfg := { cfg with toNetplayConfig := applyConnectPlanToConfig plan cfg.toNetplayConfig }
    let cfg := session.fill cfg
    let cfg := if cfg.ggpoTransport = 0 ∧ cfg.ggpoRemotePort ≠ 0 ∧ cfg.ggpoRoomToken.bytes ≠ [] then
        { cfg with ggpoTransport := 1 } else cfg
    let cfg := { cfg with playerRole := roleCode role }
    if transportIs transportEnv "udp" then { cfg with ggpoTransport := 1 }
    else if transportIs transportEnv "p2p" then { cfg with ggpoTransport := 2 }
    else cfg

/-! ## Resolving a room -/

/-- The connect methods that `start` tells apart; `direct` stands for every other text. -/
inductive ConnectMethod
  | relay | matchmaking | autoNat | direct
deriving DecidableEq

/-- `DefaultConnectMethodString`. -/
def defaultConnectMethod (method : UInt8) : ConnectMethod :=
  if method = 0 then .relay else if method = 2 then .autoNat else .direct

/-- `ResolveJoinRelayRoom`; `lookup` is the broker's answer. -/
def resolveJoinRelayRoom (roomCode : Text) (lookup : Except Text Endpoint) : Except Text Endpoint :=
  if roomCode = [] then
    .error (ascii "Enter a room code (example SF4-A1B2C3D4E5F67890).")
  else match normalizeRelayRoomCode roomCode with
    | none => .error (ascii "Invalid room code. Use the SF4- code from your host.")
    | some _ => lookup

/-- `ResolveJoinMatchmaking`. -/
def resolveJoinMatchmaking (ans : StartAnswers) : Except Text Endpoint :=
  match ans.queue with
  | .error text => .error text
  | .ok found =>
    -- the matched players join the room by its code
    if found.code ≠ [] then resolveJoinRelayRoom found.code ans.lookup
    else if found.host.bytes = [] ∨ found.port = 0 then
      .error (ascii "Matchmaking did not return a room.")
    else .ok ⟨found.host, found.port⟩

/-- `ResolveJoinDirectIp`. -/
def resolveJoinDirectIp (roomCode : Text) (ans : StartAnswers) : Except Text Endpoint :=
  if roomCode = [] then .error (ascii "Enter a room code or host address.")
  else if isShortRoomCode roomCode then
    .error (ascii
      "Short room codes require Relay mode. Switch to Relay or paste IP:port in Advanced.")
  else ans.address

/-- `ResolveJoinAutoNat`. -/
def resolveJoinAutoNat : Except Text Endpoint :=
  .error (ascii "Auto NAT runs on the host when you start a game. Join with a room code instead.")

/-- The strategy of a join. -/
def resolveJoin (method : ConnectMethod) (roomCode : Text) (ans : StartAnswers) :
    Except Text Endpoint :=
  match method with
  | .matchmaking => resolveJoinMatchmaking ans
  | .autoNat => resolveJoinAutoNat
  | .relay => resolveJoinRelayRoom roomCode ans.lookup
  | .direct => resolveJoinDirectIp roomCode ans

/-! ## Starting -/

/-- A `start` message. -/
structure StartMessage where
  mode : NetplayMode
  connectMethod : Option ConnectMethod
  sessionPort : Option ℤ
  /-- `""` when the message has none, here and below. -/
  relayRoomCode : Text
  joinAddress : Text
  roomCode : Text

/-- The code a host starts with: the message's, else the one in the settings. -/
def StartMessage.relayCode (msg : StartMessage) (settings : PersistedSettings) : Text :=
  if msg.relayRoomCode = [] then settings.relayRoomCode.bytes else msg.relayRoomCode

/-- The code a guest starts with. -/
def StartMessage.joinCode (msg : StartMessage) : Text :=
  if msg.joinAddress = [] then msg.roomCode else msg.joinAddress

/-- The connect method of a start. -/
def StartMessage.method (msg : StartMessage) (settings : PersistedSettings) : ConnectMethod :=
  msg.connectMethod.getD (defaultConnectMethod settings.defaultConnectMethod)

/-- A host with a relay room: on the VPS if the broker says so, else with a relay of its own.
`some text` is an error; the controller keeps what was done before it. -/
def startHostRelay (env : Option Text) (c : Controller) (msg : StartMessage) (ans : StartAnswers) :
    Controller × Option Text :=
  let relayCode := msg.relayCode c.settings
  if relayCode = [] then (c, some (ascii "Click Get code before starting."))
  else match resolveJoinRelayRoom relayCode ans.lookup with
    | .error text => (c, some text)
    | .ok endpoint =>
      let settings := { c.settings with
        relaySessionPort := endpoint.port
        relayRoomCode := .copy relayCode }
      let cfg := { c.outConfig with
        sessionHost := .copy endpoint.host.bytes
        sessionPort := endpoint.port
        useCentralSession := if ans.health.forceVpsRelay then 2 else 1
        relayRoomCode := .copy relayCode }
      if ans.health.forceVpsRelay then
        let cfg := configureGgpoTransportForRelay env c.session ans.plan .host cfg
        ({ c with settings := settings, outConfig := cfg }, none)
      else if ans.spawned then ({ c with settings := settings, outConfig := cfg }, none)
      else ({ c with settings := settings, outConfig := cfg }, some (
        ascii "Could not start RelayHost.exe. Rebuild/install, keep RelayHost.exe next to " ++
          ascii "Launcher.exe, and ensure the session port is free."))

/-- A host without a relay room. -/
def startHostDirect (c : Controller) : Controller × Option Text :=
  ({ c with outConfig.sessionHost := .copy c.lanIp.bytes }, none)

/-- The error of a guest who cannot reach the session. -/
def cannotReach (endpoint : Endpoint) : Text :=
  let port := ascii (toString endpoint.port.toNat)
  ascii "Cannot reach host at " ++ endpoint.host.bytes ++ ascii ":" ++ port ++
    ascii ". Ask the host to forward TCP+UDP " ++ port ++
    ascii " on their router and allow RelayHost in Windows Firewall. " ++
    ascii "Host must click Start game first."

/-- The guest's session is on the VPS. -/
def vpsRelayJoin (method : ConnectMethod) (health : BrokerHealth) : Bool :=
  health.ok && health.forceVpsRelay && (method == .relay || method == .matchmaking)

/-- The configuration of a guest whose room was found at `endpoint`. -/
def joinConfig (env : Option Text) (c : Controller) (method : ConnectMethod) (joinCode : Text)
    (ans : StartAnswers) (endpoint : Endpoint) : LaunchConfig :=
  let cfg := { c.outConfig with
    sessionHost := .copy endpoint.host.bytes
    sessionPort := endpoint.port
    useCentralSession := if vpsRelayJoin method ans.health then 2 else 0 }
  let cfg := if method = .relay then { cfg with relayRoomCode := .copy joinCode } else cfg
  if vpsRelayJoin method ans.health ∧ cfg.relayRoomCode.bytes ≠ [] then
    configureGgpoTransportForRelay env c.session ans.plan .guest cfg
  else cfg

/-- A guest. -/
def startJoin (env : Option Text) (c : Controller) (msg : StartMessage) (ans : StartAnswers) :
    Controller × Option Text :=
  let method := msg.method c.settings
  match resolveJoin method msg.joinCode ans with
  | .error text => (c, some text)
  | .ok endpoint =>
    let c := { c with outConfig := joinConfig env c method msg.joinCode ans endpoint }
    if isShortRoomCode msg.joinCode ∧ ¬ (ans.health.ok ∧ ans.health.forceVpsRelay) ∧
        ¬ ans.reachable then (c, some (cannotReach endpoint))
    else (c, none)

/-- The answer to a message: `error` is an error shown to the user, `finished` ends the
launcher's window, `reply` is any other answer. -/
inductive Reply
  | error (text : Text)
  | finished
  | reply
deriving DecidableEq

/-- The start of a session with the fresh configuration in place. -/
def startSession (env : Option Text) (c : Controller) (msg : StartMessage) (ans : StartAnswers) :
    Controller × Option Text :=
  match msg.mode with
  | .idle => (c, none)
  | .host =>
    if msg.method c.settings = .relay then startHostRelay env c msg ans else startHostDirect c
  | .join => startJoin env c msg ans

/-- The `start` message. -/
def start (env : Option Text) (c : Controller) (msg : StartMessage) (ans : StartAnswers) :
    Reply × Controller :=
  let port := msg.sessionPort.getD c.settings.sessionPort.toNat
  if port < 1 ∨ 65535 < port then
    (.error (ascii "Session port must be between 1 and 65535."), c)
  else
    let settings := { c.settings with sessionPort := port.toNat.toUInt16 }
    let c := { c with settings := settings, outConfig := .fresh msg.mode settings }
    match startSession env c msg ans with
    | (c, some text) => (.error text, c)
    | (c, none) => (.finished, { c with finished := true, cancelled := false })

/-! ## Messages -/

/-- A message of the launcher's window, with the answers of the broker client to it. -/
inductive Message
  /-- `createRelayRoom`. -/
  | createRelayRoom (created : Except Text RelayRoomCreateResult)
  /-- `saveSettings` with a new connect method. -/
  | saveSettings (method : UInt8)
  | start (msg : StartMessage) (ans : StartAnswers)
  | offlineStart
  | cancel
  /-- Any other message, and a refused one: nothing that is kept here changes. -/
  | other

/-- `createRelayRoom`. -/
def createRelayRoom (c : Controller) : Except Text RelayRoomCreateResult → Reply × Controller
  | .error text => (.error text, c)
  | .ok created => (.reply, { c with
      settings.relayRoomCode := .copy created.shortCode
      settings.relaySessionPort := created.relayPort
      session.matchId := .copy created.matchId.bytes
      session.roomToken := .copy created.roomToken.bytes
      session.ggpoPort := created.ggpoPort })

/-- `HandleWebMessage`. -/
def handleWebMessage (env : Option Text) (c : Controller) : Message → Reply × Controller
  | .createRelayRoom created => createRelayRoom c created
  | .saveSettings method => (.reply, { c with settings.defaultConnectMethod := method })
  | .start msg ans => start env c msg ans
  | .offlineStart => (.finished, { c with
      outConfig := .fresh .idle c.settings, finished := true, cancelled := false })
  | .cancel => (.finished, { c with finished := true, cancelled := true })
  | .other => (.reply, c)

/-- A controller as the launcher makes it: the settings are whatever was saved. -/
def Controller.Init (c : Controller) : Prop := c.session = .blank ∧ c.finished = false

/-- The window sends messages until the controller has finished. -/
def next (env : Option Text) (c : Controller) (m : Message) : Option (Reply × Controller) :=
  if c.finished then none else some (handleWebMessage env c m)

/-- The launcher's window, with `SF4E_GGPO_TRANSPORT` as the environment has it. -/
def launcher (env : Option Text) : LTS Controller Message Reply :=
  .ofFun Controller.Init (next env)

end Launcher
end Sf4e
