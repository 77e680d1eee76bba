/-
# Room creation

`createRoomRecord` of `server.js`.  A creation reserves a session port, starts the relays, each
start an await, and commits the room; the reservation is released in the end, whatever the end
is.  The function is cut at its awaits: `Registry.createRoomRecord` runs up to the first one and
`Registry.resume` from one to the next.
-/
import Sf4e.Broker.Capacity
import Sf4e.Broker.RelayCalls

namespace Sf4e
namespace Broker

open Wire Transport
open Relay (isxdigit)

/-! ## Rooms -/

/-- The settings of a broker. -/
structure Settings extends Config where
  capacity : CapacityConfig
  /-- `ROOM_OCCUPIED_IDLE_MS`; `none` for `NaN`. -/
  roomOccupiedIdleMs : Option ℤ
  /-- `ROOM_LOBBY_IDLE_MS`; `none` for `NaN`. -/
  roomLobbyIdleMs : Option ℤ

/-- `BROKER_GGPO_TRANSPORT` is `auto`. -/
def Settings.auto (s : Settings) : Bool := s.brokerGgpoTransport == "auto"

/-- A room of the map `rooms`. -/
structure RoomRecord extends Room where
  code : Text
  displayName : Value
  createdAt : ℕ
  lastSeenAt : ℕ
  sidecarHash : Text
  /-- `transportRequested` is `auto` and not `legacy`. -/
  transportAuto : Bool
  transportActive : Option Text
  startedAt : Option ℕ
  endedAt : Option ℕ

/-- The rooms, in the order of the map, and the reserved ports. -/
structure Registry where
  rooms : List RoomRecord
  reservedPorts : List ℕ

namespace Registry

/-- `rooms.get`. -/
def find? (reg : Registry) (code : Text) : Option RoomRecord :=
  reg.rooms.find? fun room => room.code == code

/-- `rooms.delete`. -/
def delete (reg : Registry) (code : Text) : Registry :=
  { reg with rooms := reg.rooms.filter fun room => room.code != code }

/-- The session ports of the rooms. -/
def roomPorts (reg : Registry) : List ℕ := reg.rooms.map fun room => room.port

/-- `releasePortReservation`. -/
def release (reg : Registry) (port : ℕ) : Registry :=
  { reg with reservedPorts := releasePortReservation reg.reservedPorts port }

end Registry

/-! ## Creations -/

/-- The arguments of `createRoomRecord`. -/
structure CreateArgs where
  displayName : Option Value
  relayHost : Text
  sidecarHash : Text

/-- What is drawn and looked up in a call: the ids at its beginning, the rest when the room is
committed. -/
structure Draws where
  matchId : HexId
  roomToken : HexId
  /-- The first token that no room has. -/
  token : Text
  hostSecret : Text
  now : ℕ

/-- The await that a call is suspended at. -/
inductive CreationStage
  | startingSession
  | startingGgpo
deriving DecidableEq

/-- A call of `createRoomRecord` at one of its awaits. -/
structure Creation (config : CapacityConfig) where
  args : CreateArgs
  ports : PortPair config
  matchId : HexId
  roomToken : HexId
  stage : CreationStage

/-- A call that has got its ports. -/
def CreateArgs.creation {config : CapacityConfig} (args : CreateArgs) (draws : Draws)
    (ports : PortPair config) : Creation config :=
  ⟨args, ports, draws.matchId, draws.roomToken, .startingSession⟩

/-- The answer that the call waits for. -/
def Creation.awaited {config : CapacityConfig} (c : Creation config) : ManagerCall :=
  match c.stage with
  | .startingSession => .startSession c.ports.sessionPort c.args.sidecarHash
  | .startingGgpo => .startGgpo c.ports.sessionPort c.ports.ggpoPort c.roomToken.1

/-- What a call of `createRoomRecord` comes to. -/
inductive Created
  /-- `full`. -/
  | full
  /-- `invalid_hash`. -/
  | invalidHash (message : String)
  /-- `relay_start_failed`. -/
  | relayStartFailed (message : Value)
  | thrown
  | created (room : RoomRecord)

/-- Where a turn leaves a call. -/
inductive Progress (config : CapacityConfig)
  | awaits (c : Creation config)
  | done (result : Created)

/-- A turn of a call: the registry after it, the stop requests sent off, and where it leaves the
call. -/
structure Turn (config : CapacityConfig) where
  registry : Registry
  stops : List ManagerCall
  progress : Progress config

/-- `isValidSidecarHash`. -/
def isValidSidecarHash (hash : Text) : Bool := hash.length == 64 && hash.all isxdigit

/-- `stopRelaySession`, for a port that is not 0. -/
def stopRelaySession (port ggpoPort : ℕ) : List ManagerCall :=
  .stopSession port :: if ggpoPort = 0 then [] else [.stopGgpo ggpoPort]

/-- The room's code. -/
def roomCode (token : Text) : Text := utf8 "SF4-" ++ token

variable (s : Settings)

/-- The room that a call commits. -/
def Creation.room (c : Creation s.capacity) (draws : Draws) (ggpoRelayOk : Bool) :
    RoomRecord where
  host := if s.forceVpsRelay ∨ c.args.relayHost = [] then s.relayHost else c.args.relayHost
  port := c.ports.sessionPort
  ggpoPort := if s.auto ∧ ggpoRelayOk then c.ports.ggpoPort else 0
  matchId := c.matchId
  roomToken := c.roomToken
  hostSecret := draws.hostSecret
  hostEndpoint := none
  guestEndpoint := none
  host_ne := by
    split
    · exact s.relayHost_ne
    · rename_i h
      exact (not_or.1 h).2
  ggpoPort_le := by
    split
    · exact CapacityConfig.le_of_mem_ggpoPorts c.ports.ggpo_mem
    · exact Nat.zero_le _
  code := roomCode draws.token
  displayName := Value.orElse c.args.displayName (.str "Host")
  createdAt := draws.now
  lastSeenAt := draws.now
  sidecarHash := c.args.sidecarHash
  transportAuto := s.auto
  transportActive := none
  startedAt := none
  endedAt := none

namespace Registry

variable (reg : Registry)

/-- The call ends without a room; it stops the relay that it has started. -/
def abandon (c : Creation s.capacity) (startedRelay : Bool) (result : Created) :
    Turn s.capacity where
  registry := reg.release c.ports.sessionPort
  stops := if startedRelay then stopRelaySession c.ports.sessionPort c.ports.ggpoPort else []
  progress := .done result

/-- The room is committed and the reservation released.  A token that a room has is not taken. -/
def commit (c : Creation s.capacity) (draws : Draws) (ggpoRelayOk : Bool) :
    Option (Turn s.capacity) :=
  let room := c.room s draws ggpoRelayOk
  if (reg.find? room.code).isSome then none
  else some {
    registry := { reg with rooms := reg.rooms ++ [room] }.release c.ports.sessionPort
    stops := []
    progress := .done (.created room) }

/-- The call goes on to its next await. -/
def await (c : Creation s.capacity) : Turn s.capacity := ⟨reg, [], .awaits c⟩

/-- The call has got its ports. -/
def start (c : Creation s.capacity) (draws : Draws) : Option (Turn s.capacity) :=
  if s.forceVpsRelay then
    if c.args.sidecarHash = [] then
      some (reg.abandon s c false (.invalidHash "sidecarHash required for VPS relay."))
    else if isValidSidecarHash c.args.sidecarHash then some (reg.await s c)
    else
      some (reg.abandon s c false
        (.invalidHash "sidecarHash must be a 64-character SHA-256 hex string."))
  else reg.commit s c draws false

/-- `createRoomRecord` up to its first await; `none` when the draws cannot be those of the call. -/
def createRoomRecord (args : CreateArgs) (draws : Draws) : Option (Turn s.capacity) :=
  if s.capacity.maxRooms ≤ reg.rooms.length then some ⟨reg, [], .done .full⟩
  else
    match allocatePortPair s.capacity reg.roomPorts reg.reservedPorts with
    | none => some ⟨reg, [], .done .full⟩
    | some (ports, reserved) =>
      { reg with reservedPorts := reserved }.start s (args.creation draws ports) draws

/-- `createRoomRecord` from an await on, with the answer or the rejection of the request. -/
def resume (c : Creation s.capacity) (reply : Option HttpReply) (draws : Draws) :
    Option (Turn s.capacity) :=
  match c.stage with
  | .startingSession =>
    match startRelaySession reply with
    | .started =>
      if s.auto then some (reg.await s { c with stage := .startingGgpo })
      else reg.commit s c draws false
    | .failed message => some (reg.abandon s c false (.relayStartFailed message))
    | .thrown => some (reg.abandon s c false .thrown)
  | .startingGgpo =>
    match startGgpoRelaySession reply with
    | .started => reg.commit s c draws true
    | .failed message =>
      -- the message goes into a line of the log
      if message.toText.isSome then reg.commit s c draws false
      else some (reg.abandon s c true .thrown)
    | .thrown => some (reg.abandon s c true .thrown)

/-! ## What a turn of a call can be -/

variable {s reg}

/-- A call up to its first await. -/
inductive Begun (reg : Registry) (args : CreateArgs) (draws : Draws) : Turn s.capacity → Prop
  /-- There is no port. -/
  | full (hfull : s.capacity.maxRooms ≤ reg.rooms.length ∨
      allocatePortPair s.capacity reg.roomPorts reg.reservedPorts = none) :
      Begun reg args draws ⟨reg, [], .done .full⟩
  /-- The hash is missing or no hash. -/
  | refused {ports : PortPair s.capacity} {reserved : List ℕ} {message : String}
      (halloc : allocatePortPair s.capacity reg.roomPorts reg.reservedPorts =
        some (ports, reserved)) :
      Begun reg args draws ({ reg with reservedPorts := reserved }.abandon s
        (args.creation draws ports) false (.invalidHash message))
  /-- The session relay is being started. -/
  | await {ports : PortPair s.capacity} {reserved : List ℕ}
      (halloc : allocatePortPair s.capacity reg.roomPorts reg.reservedPorts =
        some (ports, reserved))
      (hhash : isValidSidecarHash args.sidecarHash = true) :
      Begun reg args draws
        ({ reg with reservedPorts := reserved }.await s (args.creation draws ports))
  /-- There are no relays to be started. -/
  | commit {ports : PortPair s.capacity} {reserved : List ℕ} {turn : Turn s.capacity}
      (halloc : allocatePortPair s.capacity reg.roomPorts reg.reservedPorts =
        some (ports, reserved))
      (hforce : s.forceVpsRelay = false)
      (hcommit : { reg with reservedPorts := reserved }.commit s (args.creation draws ports) draws
        false = some turn) :
      Begun reg args draws turn

lemma begun {args : CreateArgs} {draws : Draws} {turn : Turn s.capacity}
    (h : reg.createRoomRecord s args draws = some turn) : Begun reg args draws turn := by
  simp only [createRoomRecord] at h
  split at h
  · rename_i hmax
    obtain rfl := Option.some.inj h
    exact .full (.inl hmax)
  · split at h
    · rename_i hnone
      obtain rfl := Option.some.inj h
      exact .full (.inr hnone)
    · rename_i ports reserved halloc
      simp only [start] at h
      split_ifs at h with hforce hempty hvalid
      · obtain rfl := Option.some.inj h
        exact .refused halloc
      · obtain rfl := Option.some.inj h
        exact .await halloc hvalid
      · obtain rfl := Option.some.inj h
        exact .refused halloc
      · exact .commit halloc (by simpa using hforce) h

/-- A call from an await on. -/
inductive Resumed (reg : Registry) (c : Creation s.capacity) (reply : Option HttpReply)
    (draws : Draws) : Turn s.capacity → Prop
  /-- The GGPO relay is next. -/
  | await (hstage : c.stage = .startingSession) (hstarted : startRelaySession reply = .started) :
      Resumed reg c reply draws (reg.await s { c with stage := .startingGgpo })
  /-- The room is there. -/
  | commit {ggpoRelayOk : Bool} {turn : Turn s.capacity}
      (hok : ggpoRelayOk = true ↔
        c.stage = .startingGgpo ∧ startGgpoRelaySession reply = .started)
      (hsession : c.stage = .startingSession → startRelaySession reply = .started)
      (hcommit : reg.commit s c draws ggpoRelayOk = some turn) : Resumed reg c reply draws turn
  /-- The session relay could not be started. -/
  | failed {result : Created} (hstage : c.stage = .startingSession)
      (hfailed : startRelaySession reply ≠ .started)
      (hresult : (∃ message, result = .relayStartFailed message) ∨ result = .thrown) :
      Resumed reg c reply draws (reg.abandon s c false result)
  /-- The call throws, and its relays are stopped. -/
  | thrown (hstage : c.stage = .startingGgpo) :
      Resumed reg c reply draws (reg.abandon s c true .thrown)

lemma resumed {c : Creation s.capacity} {reply : Option HttpReply} {draws : Draws}
    {turn : Turn s.capacity} (h : reg.resume s c reply draws = some turn) :
    Resumed reg c reply draws turn := by
  simp only [resume] at h
  split at h
  · rename_i hstage
    split at h
    · rename_i hstarted
      split at h
      · obtain rfl := Option.some.inj h
        exact .await hstage hstarted
      · exact .commit (by simp [hstage]) (fun _ => hstarted) h
    · rename_i message hfailed
      obtain rfl := Option.some.inj h
      exact .failed hstage (by simp [hfailed]) (.inl ⟨message, rfl⟩)
    · rename_i hthrown
      obtain rfl := Option.some.inj h
      exact .failed hstage (by simp [hthrown]) (.inr rfl)
  · rename_i hstage
    have hsession : c.stage = .startingSession → startRelaySession reply = .started := by
      simp [hstage]
    split at h
    · rename_i hstarted
      exact .commit (by simp [hstage, hstarted]) hsession h
    · rename_i message hfailed
      split at h
      · exact .commit (by simp [hfailed]) hsession h
      · obtain rfl := Option.some.inj h
        exact .thrown hstage
    · obtain rfl := Option.some.inj h
      exact .thrown hstage

/-- The turn that commits a room. -/
lemma commit_eq_some {c : Creation s.capacity} {draws : Draws} {ggpoRelayOk : Bool}
    {turn : Turn s.capacity} (h : reg.commit s c draws ggpoRelayOk = some turn) :
    reg.find? (c.room s draws ggpoRelayOk).code = none ∧ turn =
      ⟨{ reg with rooms := reg.rooms ++ [c.room s draws ggpoRelayOk] }.release c.ports.sessionPort,
        [], .done (.created (c.room s draws ggpoRelayOk))⟩ := by
  simp only [commit] at h
  split at h
  · exact absurd h (by simp)
  · rename_i hnone
    exact ⟨by simpa using hnone, (Option.some.inj h).symm⟩

end Registry

end Broker
end Sf4e
