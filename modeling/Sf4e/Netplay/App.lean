/-
# The netplay side of the program

`fUserApp`, `fSystem` and `NetplayFacade` share what the main thread knows of a match: the
GGPO session with its gate, the client of the room and the server that the program may host,
the watch over the synchronisation, and the flags of degraded mode.  GGPO, the room's
connection and the engine call into it from many places.

`Ggpo.Process` has the part of this that belongs to the GGPO session, and what the functions
here do to that part is what its functions do.  What comes from outside is an input: GGPO's
behaviour as a `Script`, the events of the network, the time in milliseconds, and whether the
engine shows its main menu or is between battles.

A few components record what has happened: the calls of `AbortGgpoMatch`, the objects torn
down, the requests sent to the room, and what is known of the current session.
-/
import Sf4e.Ggpo.Session
import Sf4e.Transport.Config

namespace Sf4e
namespace UserApp

open Ggpo NetplayFacade Transport

/-! ## State -/

/-- `GgpoSyncPhase`. -/
inductive GgpoSyncPhase
  | none
  | starting
  | connected
  | synchronizing
  | running
deriving DecidableEq

/-- The variables of the watch over the synchronisation, with `s_ggpoTransportStatus`. -/
structure GgpoWatch where
  /-- `s_ggpoTransportStatus.effectiveMode`. -/
  effectiveMode : UInt8 := 0
  /-- `s_ggpoTransportStatus.legacyTunnelActive`. -/
  legacyTunnelActive : Bool := false
  /-- `s_ggpoSyncPhase`. -/
  syncPhase : GgpoSyncPhase := .none
  /-- `s_ggpoBattleStartTick`. -/
  battleStartTick : UInt32 := 0
  /-- `s_udpGgpoFallbackTried`. -/
  udpGgpoFallbackTried : Bool := false
deriving DecidableEq

/-- The client of the room. -/
structure Client where
  /-- `_conn` is a valid handle. -/
  conn : Bool
  /-- `_connected`. -/
  connected : Bool := false
  /-- The number of members in `_lobbyData`. -/
  members : ℕ := 0
  /-- `_useRelay`. -/
  useRelay : Bool
deriving DecidableEq

/-- What is torn down with a room. -/
inductive Object
  | client
  | server
deriving DecidableEq

/-- The requests of `ResetLobbyForRematch`. -/
inductive RematchRequest
  /-- `SessionServer::ResetLobbyForRematch`. -/
  | reset
  /-- `SessionClient::Lobby_ResetRematch`. -/
  | ask
deriving DecidableEq

/-- What is known of the current session. -/
structure SessionRecord where
  /-- The time at which the watch was reset for it, when it goes over the UDP relay. -/
  watchedSince : Option ℕ := none
  /-- GGPO has reported that it is running. -/
  ran : Bool := false
deriving DecidableEq

/-- The program. -/
structure App where
  /-- The session, its gate, the deferred close and `s_controlPlaneLost`. -/
  process : Process := {}
  watch : GgpoWatch := {}
  /-- `s_verificationLostAtFrame`. -/
  verificationLostAtFrame : ℤ := -1
  /-- `GgpoRelay::IsActive`: the session tunnel through the room. -/
  relayActive : Bool := false
  /-- `fUserApp::netplay`. -/
  netplay : Option Client := none
  /-- `fUserApp::server` is not null. -/
  server : Bool := false
  /-- `s_pendingMatchStart`. -/
  pendingMatchStart : Bool := false
  /-- `fVsBattle::OnTasksRegistered` is not null. -/
  onTasksRegistered : Bool := false
  /-- `fVsBattle::bSessionSynced`. -/
  bSessionSynced : Bool := false
  /-- `fVsBattle::bSessionSentLoaded`. -/
  bSessionSentLoaded : Bool := false
  /-- A battle of the engine has been set up and is not closed. -/
  battle : Bool := false
  /-- What the current session has been through. -/
  session : SessionRecord := {}
  /-- How often a match was aborted. -/
  aborts : ℕ := 0
  /-- What was torn down, newest first. -/
  tornDown : List Object := []
  /-- The rematch requests, newest first. -/
  requests : List RematchRequest := []

/-- `GetTickCount`, at a time in milliseconds. -/
def getTickCount (now : ℕ) : UInt32 := UInt32.ofNat now

namespace App

/-! ## The session -/

/-- A call is noted. -/
def note (a : App) (c : Ggpo.Call) : App :=
  { a with process := { a.process with trace := c :: a.process.trace } }

/-- `RetireGgpoSession`. -/
def retireGgpoSession (a : App) : App := { a with process := a.process.retireGgpoSession }

/-- `AbortGgpoMatch`. -/
def abortGgpoMatch (a : App) : App :=
  { a with
    process := a.process.abortGgpoMatch
    relayActive := false
    aborts := a.aborts + 1 }

/-- The calls of `NotifyGgpoSyncPhase` in the event callback. -/
def notifyGgpoSyncPhase (w : GgpoWatch) : EventCode → GgpoWatch
  | .connectedToPeer => { w with syncPhase := .connected }
  | .synchronizingWithPeer => { w with syncPhase := .synchronizing }
  | .running => { w with syncPhase := .running }
  | _ => w

/-- The session after an event. -/
def recordEvent (s : SessionRecord) : EventCode → SessionRecord
  | .running => { s with ran := true }
  | _ => s

/-- `ggpo_on_event_callback`. -/
def ggpo_on_event_callback (a : App) (code : EventCode) : App :=
  { a with
    process := a.process.ggpo_on_event_callback code
    watch := notifyGgpoSyncPhase a.watch code
    session := recordEvent a.session code }

/-- `ggpo_save_game_state_callback`. -/
def ggpo_save_game_state_callback (a : App) (full : Bool) : App :=
  if full then a.abortGgpoMatch else a

/-- Call an entry point of the current session, which does `body`. -/
def enter (a : App) (f : EntryPoint) (body : App → ℤ × App) : ℤ × App :=
  match a.process.ggpo with
  | none => (invalidSession, a)
  | some n =>
    let (result, a') := body (a.note (.enter f n))
    (result, a'.note .exit)

/-- `ggpo_advance_frame_callback`. -/
def ggpo_advance_frame_callback (a : App) (sync advance : App → ℤ × App) : App :=
  let (result, a) := a.enter .synchronizeInput sync
  if result ≠ 0 then a.abortGgpoMatch
  else
    let (result, a) := a.enter .advanceFrame advance
    if result ≠ 0 then a.abortGgpoMatch else a

/-- GGPO inside an entry point. -/
def runScript : Script → App → ℤ × App
  | .done result, a => (result, a)
  | .save full rest, a => runScript rest (a.ggpo_save_game_state_callback full)
  | .load rest, a => runScript rest a
  | .free rest, a => runScript rest a
  | .event code rest, a => runScript rest (a.ggpo_on_event_callback code)
  | .advance sync advance rest, a =>
    runScript rest (a.ggpo_advance_frame_callback (runScript sync) (runScript advance))

/-- Call an entry point of the current session. -/
def call (a : App) (f : EntryPoint) (script : Script) : ℤ × App := a.enter f (runScript script)

/-- The gate has let a frame pass. -/
def onFrameAccepted (a : App) : App :=
  { a with process := { a.process with simGate := a.process.simGate.onFrameAccepted } }

/-- GGPO has refused to predict further. -/
def onPredictionThreshold (a : App) : App :=
  { a with process := { a.process with simGate := a.process.simGate.onPredictionThreshold } }

/-- The rest of `BattleUpdate`, once local input is added. -/
def advanceBattle (a : App) (sync advance : Script) : App :=
  let (result, a) := a.call .synchronizeInput sync
  match classifyGgpoResult result with
  | .continue =>
    let (err, a) := a.call .advanceFrame advance
    if err ≠ 0 then a.abortGgpoMatch else a.onFrameAccepted
  | .fatal => a.abortGgpoMatch
  | _ => a

/-- `BattleUpdate`. -/
def battleUpdate (a : App) (flowIdle : Bool) (addInput sync advance : Script) : App :=
  if !a.process.mayAdvanceDeterministicFrame then a
  else if a.process.ggpo.isSome && !flowIdle then
    let (result, a) := if a.process.localPlayer then a.call .addLocalInput addInput else (0, a)
    match classifyGgpoResult result with
    | .continue => a.advanceBattle sync advance
    | .stallPrediction => a.onPredictionThreshold
    | .skipNotSynced => a
    | .skipOther => a
    | .fatal => a.abortGgpoMatch
  else a

/-- `ggpo_idle` in `Steam_PostUpdate`. -/
def idle (a : App) (script : Script) : App :=
  if a.process.ggpo.isSome then (a.call .idle script).2 else a

/-! ## The loss of the room -/

/-- `ShutdownNetplay(true)`, the only way it is called. -/
def shutdownNetplay (a : App) : App :=
  { a with
    process := a.process.shutdownNetplay true
    relayActive := false
    watch := {}
    netplay := none
    server := false
    verificationLostAtFrame := -1
    tornDown := (if a.server then [.server] else []) ++
      (if a.netplay.isSome then [.client] else []) ++ a.tornDown }

/-- `HandleNetplayFailure`. -/
def handleNetplayFailure (a : App) : App :=
  if a.process.ggpo.isSome then
    shutdownNetplay { a with process :=
      { a.process with simGate := a.process.simGate.onFatal, bUpdateAllowed := false } }
  else a.shutdownNetplay

/-- The engine, as the facade sees it when the room is lost. -/
structure Engine where
  /-- `CurrentBattleFlow` is `BF__IDLE`. -/
  flowIdle : Bool
  /-- `GetNumFramesSimulated_FixedPoint`. -/
  frame : ℤ
deriving DecidableEq

/-- `fightRunning` of `HandleControlPlaneLoss`. -/
def fightRunning (a : App) (engine : Engine) : Bool :=
  a.process.ggpo.isSome && (a.process.simGate.phase = .running : Bool) &&
    !a.process.simGate.fatalError && !engine.flowIdle

/-- `HandleControlPlaneLoss`. -/
def handleControlPlaneLoss (a : App) (engine : Engine) : App :=
  if a.process.controlPlaneLost then a
  -- with the session tunnel GGPO's traffic goes through the room, and is lost with it
  else if !a.fightRunning engine || a.relayActive then a.handleNetplayFailure
  else
    { a with
      process := { a.process with controlPlaneLost := true }
      verificationLostAtFrame := engine.frame }

/-- `FinalizeControlPlaneLossAfterBattle`. -/
def finalizeControlPlaneLossAfterBattle (a : App) : App :=
  if a.process.controlPlaneLost then a.shutdownNetplay else a

/-! ## The client of the room -/

/-- `ESteamNetworkingConnectionState`, as far as the client tells states apart. -/
inductive ConnectionState
  | connecting
  | connected
  | closedByPeer
  | problemDetectedLocally
  | other
deriving DecidableEq

/-- The connection is gone. -/
def ConnectionState.IsLoss (s : ConnectionState) : Prop :=
  s = .closedByPeer ∨ s = .problemDetectedLocally

instance : DecidablePred ConnectionState.IsLoss := fun s =>
  inferInstanceAs (Decidable (s = .closedByPeer ∨ s = .problemDetectedLocally))

/-- `SessionClient::OnSteamNetConnectionStatusChanged`. -/
def onSteamNetConnectionStatusChanged (a : App) (oldState newState : ConnectionState)
    (engine : Engine) : App :=
  match a.netplay with
  | none => a
  | some c =>
    let wasInMatch := oldState = .connected && a.process.ggpo.isSome
    if newState.IsLoss then
      let a := { a with netplay := some { c with conn := false, connected := false } }
      if wasInMatch then a.handleControlPlaneLoss engine else a
    else if newState = .connected then { a with netplay := some { c with connected := true } }
    else a

/-- `StartMatchFromLobby`: whether the match could be started. -/
def startMatchFromLobby (a : App) (c : Client) (mainMenu : Bool) : Bool × App :=
  let a := { a with bSessionSynced := false, bSessionSentLoaded := false }
  if c.members < 2 || !mainMenu then (false, a) else (true, { a with onTasksRegistered := true })

/-- `OnReady`. -/
def onReady (a : App) (c : Client) (mainMenu : Bool) : App :=
  let (started, a) := a.startMatchFromLobby c mainMenu
  { a with pendingMatchStart := !started }

/-- The messages of the room that change something here. -/
inductive RoomMessage
  | joinReject
  | dataUpdate (members : ℕ)
  | allReady
  | battleSynced
deriving DecidableEq

/-- The messages are handled in order, up to a rejection; whether they were all handled. -/
def handleMessages (mainMenu : Bool) : List RoomMessage → App → Bool × App
  | [], a => (true, a)
  | m :: ms, a =>
    match a.netplay with
    | none => (true, a)
    | some c =>
      match m with
      | .joinReject => (false, { a with netplay := some { c with conn := false } })
      | .dataUpdate members =>
        handleMessages mainMenu ms { a with netplay := some { c with members := members } }
      | .allReady => handleMessages mainMenu ms (a.onReady c mainMenu)
      | .battleSynced => handleMessages mainMenu ms { a with bSessionSynced := true }

/-- `SessionClient::Step`: whether it succeeds, with what the connection has for it. -/
def clientStep (a : App) (received : Option (List RoomMessage)) (mainMenu : Bool) : Bool × App :=
  match a.netplay with
  | none => (true, a)
  | some c =>
    if !c.conn || !c.connected then (true, a)
    else
      match received with
      | none => (false, a)
      | some messages => handleMessages mainMenu messages a

/-! ## The tick -/

/-- `TryStartPendingMatch`. -/
def tryStartPendingMatch (a : App) (mainMenu : Bool) : App :=
  match a.netplay with
  | none => a
  | some c =>
    if !a.pendingMatchStart || c.members < 2 then a
    else
      let (started, a) := a.startMatchFromLobby c mainMenu
      if started then { a with pendingMatchStart := false } else a

/-- The guard of the sync timeout. -/
def syncTimedOut (a : App) (now : ℕ) : Bool :=
  a.process.ggpo.isSome && !a.process.bUpdateAllowed && !a.watch.udpGgpoFallbackTried &&
    a.watch.effectiveMode == 1 && !a.watch.legacyTunnelActive &&
    (a.watch.syncPhase ≠ .running : Bool) && (a.watch.battleStartTick ≠ 0 : Bool) &&
    (20000 < getTickCount now - a.watch.battleStartTick : Bool)

/-- The sync timeout of `TickFrame`. -/
def checkSyncTimeout (a : App) (now : ℕ) : App :=
  if a.syncTimedOut now then
    abortGgpoMatch { a with watch := { a.watch with udpGgpoFallbackTried := true } }
  else a

/-- The deferred close of `TickFrame`. -/
def closeDeferred (a : App) (now : ℕ) : App :=
  if a.process.defer.deferredGgpoPending && a.process.ggpo.isSome then
    let (defers, defer) := a.process.defer.shouldDeferGgpoClose (getTickCount now)
    if defers then { a with process := { a.process with defer := defer } }
    else
      let a := retireGgpoSession { a with process := { a.process with defer := defer } }
      { a with
        process := { a.process with defer := a.process.defer.clearFlags }
        relayActive := false }
  else a

/-- `NetplayFacade::TickFrame`. -/
def tickFrame (a : App) (mainMenu : Bool) (now : ℕ) : App :=
  ((a.tryStartPendingMatch mainMenu).checkSyncTimeout now).closeDeferred now

/-- What `Steam_PostUpdate` meets on its way, from `RunCallbacks` on. -/
structure Tick where
  /-- The status changes of the client's connection. -/
  callbacks : List (ConnectionState × ConnectionState)
  /-- What the connection has received; `none` when it cannot be polled. -/
  received : Option (List RoomMessage)
  /-- The step of the server fails. -/
  serverFails : Bool
  engine : Engine
  mainMenu : Bool
  now : ℕ
  idle : Script

/-- `RunCallbacks`. -/
def runCallbacks (a : App) (engine : Engine) : List (ConnectionState × ConnectionState) → App
  | [] => a
  | (oldState, newState) :: changes =>
    runCallbacks (a.onSteamNetConnectionStatusChanged oldState newState engine) engine changes

/-- `Steam_PostUpdate` from `RunCallbacks` on. -/
def steamPostUpdate (a : App) (t : Tick) : App :=
  let a := a.runCallbacks t.engine t.callbacks
  let (clientOk, a) := a.clientStep t.received t.mainMenu
  let a := if !clientOk || a.server && t.serverFails then a.handleControlPlaneLoss t.engine else a
  (a.tickFrame t.mainMenu t.now).idle t.idle

/-! ## Battles -/

/-- What `CloseBattle` does with a session. -/
def closeSession (a : App) (now later : ℕ) : App :=
  if a.process.ggpo.isSome then
    let (defers, defer) := (a.process.defer.notifyMatchEnded
      ⟨a.process.controlPlaneLost, a.netplay.map (·.members)⟩
      (getTickCount now)).shouldDeferGgpoClose (getTickCount later)
    let a := { a with process :=
      { a.process with simGate := a.process.simGate.onBattleClosing, defer := defer } }
    if defers then a else { a.retireGgpoSession with relayActive := false }
  else a

/-- `CloseBattle`. -/
def closeBattle (a : App) (now later : ℕ) : App :=
  finalizeControlPlaneLossAfterBattle { a.closeSession now later with battle := false }

/-- The two players are added; each comes with GGPO's result and whether it is local. -/
def addPlayers : List (ℤ × Bool) → App → App
  | [], a => a
  | (result, isLocal) :: players, a =>
    if result ≠ 0 then a.abortGgpoMatch
    else
      addPlayers players
        { a with process := { a.process with localPlayer := a.process.localPlayer || isLocal } }

/-- The start of a session: the leftover one is retired. -/
def prepareSession (a : App) : App := { a with process := a.process.prepareSession }

/-- GGPO has made a new session. -/
def newSession (a : App) : App := { a with process := a.process.newSession, session := {} }

/-- `StartGGPO`. -/
def startGGPO (a : App) (result : ℤ) (players : List (ℤ × Bool)) : App :=
  if result ≠ 0 then a.prepareSession.abortGgpoMatch
  else addPlayers players a.prepareSession.newSession

/-- `StartSpectating`. -/
def startSpectating (a : App) (result : ℤ) : App :=
  if result ≠ 0 then a.prepareSession else a.prepareSession.newSession

/-- `ReportGgpoTransport`. -/
def reportGgpoTransport (a : App) (effectiveMode : UInt8) (legacyTunnelActive : Bool) : App :=
  { a with watch :=
    { a.watch with effectiveMode := effectiveMode, legacyTunnelActive := legacyTunnelActive } }

/-- `ResetGgpoBattleWatch`, for a session that goes over the UDP relay or not. -/
def resetGgpoBattleWatch (a : App) (now : ℕ) (udp : Bool) : App :=
  { a with
    watch := { a.watch with
      battleStartTick := getTickCount now
      udpGgpoFallbackTried := false
      syncPhase := .starting }
    session := { a.session with watchedSince := if udp then some now else none } }

/-- The transport of a match. -/
inductive MatchTransport
  /-- A session on the VPS; `PrepareForBattle` succeeds or not, and chooses a mode. -/
  | vps (prepared : Bool) (effective : GgpoTransportMode)
  /-- A session on the VPS without an endpoint or a token. -/
  | vpsMissing
  /-- Any other session. -/
  | local
deriving DecidableEq

/-- What a player's match starts with. -/
structure MatchStart where
  transport : MatchTransport
  /-- `GgpoRelay::Start` succeeds. -/
  relayStarts : Bool
  /-- The other player's endpoint is known. -/
  remoteResolved : Bool
  /-- The result of `ggpo_start_session`. -/
  result : ℤ
  players : List (ℤ × Bool)
  now : ℕ
deriving DecidableEq

/-- The rest of the start, once it is known whether the session tunnel is used. -/
def startTransport (a : App) (m : MatchStart) (useLegacyGgpoTunnel udp : Bool) : App :=
  -- a relay that is started is reset first
  let a := if useLegacyGgpoTunnel then { a with relayActive := m.relayStarts } else a
  if useLegacyGgpoTunnel && !m.relayStarts then a
  else if !m.remoteResolved then a.abortGgpoMatch
  else (a.startGGPO m.result m.players).resetGgpoBattleWatch m.now udp

/-- The registration with the UDP relay needs the port of a session that is still open. -/
def releasePrevious (a : App) : App :=
  if a.process.ggpo.isSome then
    let a := { a with process :=
      { a.process with defer := a.process.defer.cancelDeferredGgpoClose } }
    { a.retireGgpoSession with relayActive := false }
  else a

/-- `_OnVsBattleTasksRegistered` for a player. -/
def startPlayer (a : App) (c : Client) (m : MatchStart) : App :=
  match m.transport with
  | .vps prepared effective =>
    let a := a.releasePrevious
    let legacy : Bool := effective = .legacySessionTunnel
    if !prepared then (a.reportGgpoTransport effective.code false).abortGgpoMatch
    else
      (a.reportGgpoTransport effective.code legacy).startTransport m legacy
        (effective = .udpRelay : Bool)
  | .vpsMissing => (a.reportGgpoTransport 1 false).abortGgpoMatch
  | .local => a.startTransport m c.useRelay false

/-- The role in a match. -/
inductive Role
  | player (m : MatchStart)
  /-- A spectator, with the result of `ggpo_start_spectating`. -/
  | spectator (result : ℤ)
deriving DecidableEq

/-- `_OnVsBattleTasksRegistered`. -/
def onVsBattleTasksRegistered (a : App) (role : Role) : App :=
  match a.netplay with
  | none => a
  | some c =>
    if c.members < 2 then a
    else
      match role with
      | .player m => a.startPlayer c m
      | .spectator result => a.startSpectating result

/-- `VsBattle::RegisterTasks`, when the engine sets a battle up. -/
def registerTasks (a : App) (role : Role) : App :=
  let a := { a with battle := true }
  if a.onTasksRegistered then { a.onVsBattleTasksRegistered role with onTasksRegistered := false }
  else a

/-- A battle that is loaded waits for `BATTLE_SYNCED` from the room. -/
def waitsForSync (a : App) : Bool := a.netplay.isSome && !a.bSessionSynced

/-- `VsBattle::HasInitialized`: whether the battle may start, with what the engine says itself
and `bBlockInitialization`. -/
def hasInitialized (a : App) (initialized blocked : Bool) : Bool × App :=
  if !initialized || blocked then (false, a)
  else
    (!a.waitsForSync,
      if a.netplay.isSome then { a with bSessionSentLoaded := true } else a)

/-! ## The lobby and the overlay -/

/-- `ResetLobbyForRematch`. -/
def resetLobbyForRematch (a : App) : App :=
  if a.process.controlPlaneLost then a
  else if a.server then { a with requests := .reset :: a.requests }
  else if a.netplay.isSome then { a with requests := .ask :: a.requests }
  else a

/-- `VsBattle::ExitForeground`. -/
def exitForeground (a : App) : App :=
  let a := if a.netplay.isSome then a.resetLobbyForRematch else a
  { a with bSessionSentLoaded := false, bSessionSynced := false }

/-- `fUserApp::ShutdownNetplay`, from the overlay and at the end of the program. -/
def disconnect (a : App) : App := { a.shutdownNetplay with pendingMatchStart := false }

/-- `StartSession`, with a connection or not.  A client that there is goes. -/
def startSession (a : App) (conn useRelay : Bool) : App :=
  { a with
    netplay := some { conn := conn, useRelay := useRelay }
    tornDown := (if a.netplay.isSome then [.client] else []) ++ a.tornDown }

/-- `StartServer`, which can listen or not.  A server that there is goes. -/
def startServer (a : App) (listens : Bool) : App :=
  { a with
    server := listens
    tornDown := (if a.server then [.server] else []) ++ a.tornDown }

/-- The overlay pauses and resumes, and so does `BattleUpdate` after a single step. -/
def setPaused (a : App) (paused : Bool) : App :=
  { a with process :=
    { a.process with
      bUpdateAllowed := !paused
      simGate := a.process.simGate.setManualPause paused } }

end App

/-! ## Runs -/

/-- What the main thread may do next. -/
inductive Event
  | battleUpdate (flowIdle : Bool) (addInput sync advance : Script)
  | idle (script : Script)
  | tickFrame (mainMenu : Bool) (now : ℕ)
  | statusChanged (oldState newState : App.ConnectionState) (engine : App.Engine)
  | clientStep (received : Option (List App.RoomMessage)) (mainMenu : Bool)
  /-- A step of the client or the server has failed. -/
  | stepFailed (engine : App.Engine)
  | registerTasks (role : App.Role)
  | closeBattle (now later : ℕ)
  | hasInitialized (initialized blocked : Bool)
  | exitForeground
  | disconnect
  | startSession (conn useRelay : Bool)
  | startServer (listens : Bool)
  | setPaused (paused : Bool)

/-- One event.  The engine sets up one battle at a time. -/
def App.next (a : App) : Event → Option (Unit × App)
  | .battleUpdate flowIdle addInput sync advance =>
    some ((), a.battleUpdate flowIdle addInput sync advance)
  | .idle script => some ((), a.idle script)
  | .tickFrame mainMenu now => some ((), a.tickFrame mainMenu now)
  | .statusChanged oldState newState engine =>
    some ((), a.onSteamNetConnectionStatusChanged oldState newState engine)
  | .clientStep received mainMenu => some ((), (a.clientStep received mainMenu).2)
  | .stepFailed engine => some ((), a.handleControlPlaneLoss engine)
  | .registerTasks role => if a.battle then none else some ((), a.registerTasks role)
  | .closeBattle now later => if a.battle then some ((), a.closeBattle now later) else none
  | .hasInitialized initialized blocked => some ((), (a.hasInitialized initialized blocked).2)
  | .exitForeground => some ((), a.exitForeground)
  | .disconnect => some ((), a.disconnect)
  | .startSession conn useRelay => some ((), a.startSession conn useRelay)
  | .startServer listens => some ((), a.startServer listens)
  | .setPaused paused => some ((), a.setPaused paused)

/-- The program starts without netplay. -/
def appLTS : Trace.LTS App Event Unit := .ofFun (· = {}) App.next

/-- A run of the program. -/
abbrev AppLog := List (Trace.Entry App Event Unit)

end UserApp
end Sf4e
