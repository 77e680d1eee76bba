/-
# The connect plan of the room broker

`server.js` as far as the connect plan is concerned: the room with the endpoints that its two
sides have registered, the plan built from it, and the two handlers that send it.  Whether the
relay session is healthy comes from outside, and so does the NAT probe of a request's address.

Strings are the bytes of their UTF-8 form, and a JSON object is the list of its members.
-/
import Sf4e.Transport.Config

namespace Sf4e
namespace Broker

open Wire Transport
open Relay (ascii isHexToken)

/-! ## JSON -/

/-- A JSON value, as far as the plan needs them. -/
inductive Json
  | bool (b : Bool)
  | num (n : ℤ)
  | str (s : Text)
deriving DecidableEq

/-- A JSON object. -/
abbrev Object := List (String × Json)

/-! ## Rooms -/

/-- The settings the broker reads from its environment. -/
structure Config where
  /-- `FORCE_VPS_RELAY`. -/
  forceVpsRelay : Bool
  /-- `RELAY_HOST`. -/
  relayHost : Text
  /-- `BROKER_GGPO_TRANSPORT`, in lower case. -/
  brokerGgpoTransport : String
  /-- `NAT_PROBE_PORT`. -/
  natProbePort : ℕ
  /-- An empty `RELAY_HOST` is replaced by the loopback address. -/
  relayHost_ne : relayHost ≠ []

/-- An endpoint that a side has registered. -/
structure Endpoint where
  /-- The port the client announced. -/
  ggpoPort : ℕ
  /-- The public address that the NAT probe has seen. -/
  observedPublic : Text
  /-- The public port that the NAT probe has seen. -/
  observedPort : ℕ
  /-- What the client makes of its NAT. -/
  natType : Text
  /-- The announced port has been checked. -/
  port_range : 1 ≤ ggpoPort ∧ ggpoPort ≤ 65535
  /-- A probe has a sender. -/
  public_ne : observedPublic ≠ []
deriving DecidableEq

/-- `makeMatchId` and `makeRoomToken`: 32 hexadecimal digits. -/
abbrev HexId := { s : Text // isHexToken s = true }

/-- A room. -/
structure Room where
  host : Text
  port : ℕ
  ggpoPort : ℕ
  matchId : HexId
  roomToken : HexId
  hostSecret : Text
  /-- `endpoints.host`. -/
  hostEndpoint : Option Endpoint
  /-- `endpoints.guest`. -/
  guestEndpoint : Option Endpoint
  /-- A room is created with a host. -/
  host_ne : host ≠ []
  /-- Ports come from the configured ranges. -/
  ggpoPort_le : ggpoPort ≤ 65535

/-- One of the two sides of a room. -/
inductive Role
  | host | guest
deriving DecidableEq

/-- The name of a role in a request. -/
def Role.name : Role → String
  | host => "host"
  | guest => "guest"

/-- The endpoint that a side has registered. -/
def Room.endpoint (room : Room) : Role → Option Endpoint
  | .host => room.hostEndpoint
  | .guest => room.guestEndpoint

/-- The room after a side has registered an endpoint. -/
def Room.setEndpoint (room : Room) (role : Role) (e : Endpoint) : Room :=
  match role with
  | .host => { room with hostEndpoint := some e }
  | .guest => { room with guestEndpoint := some e }

/-- The NAT types that a punched hole gets through. -/
def punchableNat : List Text := [ascii "full_cone", ascii "restricted_cone"]

/-- `predictP2pPossible`. -/
def predictP2pPossible (room : Room) : Bool :=
  match room.hostEndpoint, room.guestEndpoint with
  | some host, some guest =>
    if host.observedPublic = [] ∨ guest.observedPublic = [] then false
    else if host.observedPublic = guest.observedPublic then true
    else punchableNat.contains host.natType && punchableNat.contains guest.natType
  | _, _ => false

/-- The address under which the broker gives out its relay. -/
def relayAddress (config : Config) (room : Room) : Text :=
  if config.forceVpsRelay then config.relayHost else room.host

/-- The endpoint of the other side, as `buildConnectPlan` looks it up. -/
def peerEndpoint (room : Room) (role : String) : Option Endpoint :=
  if role = "host" then room.guestEndpoint else room.hostEndpoint

/-- Does the broker offer nothing but the session tunnel? -/
def legacyOnly (config : Config) (room : Room) : Bool :=
  config.brokerGgpoTransport == "legacy" || room.ggpoPort == 0

/-- The members that every plan has. -/
def planBase (config : Config) (room : Room) (includeSecrets : Bool) : Object :=
  [("matchId", .str room.matchId.1), ("host", .str (relayAddress config room)),
    ("sessionPort", .num room.port), ("ggpoPort", .num room.ggpoPort),
    ("natProbePort", .num config.natProbePort)] ++
  if includeSecrets then [("roomToken", .str room.roomToken.1)] else []

/-- The plan for a match over the relay. -/
def udpRelayPlan (config : Config) (room : Room) (includeSecrets : Bool) : Object :=
  planBase config room includeSecrets ++
    [("transport", .str (ascii "udp_relay")), ("ggpoRemoteHost", .str (relayAddress config room)),
      ("ggpoRemotePort", .num room.ggpoPort)]

/-- `buildConnectPlan`. -/
def buildConnectPlan (config : Config) (room : Room) (role : String) (includeSecrets : Bool) :
    Object :=
  if legacyOnly config room then
    planBase config room includeSecrets ++ [("transport", .str (ascii "legacy_session_tunnel"))]
  else if predictP2pPossible room then
    match peerEndpoint room role with
    | some peer =>
      if peer.observedPublic ≠ [] ∧ peer.ggpoPort ≠ 0 then
        planBase config room includeSecrets ++
          [("transport", .str (ascii "p2p")), ("peerHost", .str peer.observedPublic),
            ("peerPort", .num peer.ggpoPort)]
      else udpRelayPlan config room includeSecrets
    | none => udpRelayPlan config room includeSecrets
  else udpRelayPlan config room includeSecrets

/-! ## Requests -/

/-- What `ensureRelaySession` finds out. -/
structure RelayHealth where
  /-- Is the relay session up? -/
  ok : Bool
  /-- Does the GGPO relay listen? -/
  ggpoListening : Bool
deriving DecidableEq

/-- `GET connect-plan`, for the role in the query. -/
def getConnectPlan (config : Config) (room : Room) (code : Text) (role : String)
    (relay : RelayHealth) : Object :=
  let planRoom : Room :=
    if room.ggpoPort ≠ 0 ∧ relay.ok = false then { room with ggpoPort := 0, ggpoPort_le := by simp }
    else room
  [("ok", .bool true), ("code", .str code), ("relayOk", .bool relay.ok),
    ("ggpoRelayOk", .bool (relay.ggpoListening || planRoom.ggpoPort == 0))] ++
  buildConnectPlan config planRoom role.toLower true

/-- What a client sends to register an endpoint. -/
structure RegisterRequest where
  role : String
  hostSecret : Text
  ggpoPort : ℤ
  natType : Text
deriving DecidableEq

/-- What the broker knows of an address from a NAT probe. -/
structure NatProbe where
  observedIp : Text
  observedPort : ℕ
  /-- A probe has a sender. -/
  observedIp_ne : observedIp ≠ []
deriving DecidableEq

/-- Why a registration is refused, with the status of the answer. -/
inductive RegisterError
  /-- `400`: role must be host or guest. -/
  | invalidRole
  /-- `401`: host secret required for host role. -/
  | unauthorized
  /-- `400`: ggpoPort required. -/
  | invalidPort
  /-- `428`: send a probe first. -/
  | natProbeRequired
deriving DecidableEq

/-- The role a registration names, if it is one of the two. -/
def Role.parse (role : String) : Option Role :=
  if role.toLower = "host" then some .host
  else if role.toLower = "guest" then some .guest
  else none

/-- The endpoint that a registration amounts to. -/
def RegisterRequest.endpoint (req : RegisterRequest) (probe : NatProbe)
    (hport : 1 ≤ req.ggpoPort ∧ req.ggpoPort ≤ 65535) : Endpoint where
  ggpoPort := req.ggpoPort.toNat
  observedPublic := probe.observedIp
  observedPort := if probe.observedPort ≠ 0 then probe.observedPort else req.ggpoPort.toNat
  natType := (if req.natType = [] then ascii "unknown" else req.natType).take 32
  port_range := by omega
  public_ne := probe.observedIp_ne

/-- `POST register-endpoint`: the room afterwards and the plan in the answer. -/
def registerEndpoint (config : Config) (room : Room) (req : RegisterRequest)
    (probe : Option NatProbe) : Except RegisterError (Room × Object) :=
  match Role.parse req.role with
  | none => .error .invalidRole
  | some role =>
    if role = .host ∧ (room.hostSecret = [] ∨ req.hostSecret ≠ room.hostSecret) then
      .error .unauthorized
    else if hport : 1 ≤ req.ggpoPort ∧ req.ggpoPort ≤ 65535 then
      match probe with
      | none => .error .natProbeRequired
      | some probe =>
        let room' := room.setEndpoint role (req.endpoint probe hport)
        .ok (room', buildConnectPlan config room' role.name true)
    else .error .invalidPort

/-! ## What a plan selects -/

/-- The transport that the broker means a room to use. -/
def intendedTransport (config : Config) (room : Room) : GgpoTransportMode :=
  if legacyOnly config room then .legacySessionTunnel
  else if predictP2pPossible room then .p2p
  else .udpRelay

/-- The name of a transport on the wire. -/
def transportName : GgpoTransportMode → Text
  | .legacySessionTunnel => ascii "legacy_session_tunnel"
  | .udpRelay => ascii "udp_relay"
  | .p2p => ascii "p2p"

/-- The members by which the plans differ. -/
def planRest (config : Config) (room : Room) (role : String) : Object :=
  match intendedTransport config room, peerEndpoint room role with
  | .legacySessionTunnel, _ => []
  | .p2p, some peer =>
    [("peerHost", .str peer.observedPublic), ("peerPort", .num peer.ggpoPort)]
  | _, _ =>
    [("ggpoRemoteHost", .str (relayAddress config room)), ("ggpoRemotePort", .num room.ggpoPort)]

/-- P2P is predicted only when both endpoints are there. -/
lemma exists_endpoints_of_predictP2pPossible {room : Room}
    (h : predictP2pPossible room = true) :
    ∃ host guest, room.hostEndpoint = some host ∧ room.guestEndpoint = some guest := by
  unfold predictP2pPossible at h
  split at h
  · rename_i host guest hhost hguest
    exact ⟨host, guest, hhost, hguest⟩
  · simp at h

lemma exists_peer_of_predictP2pPossible {room : Room} (h : predictP2pPossible room = true)
    (role : String) : ∃ peer, peerEndpoint room role = some peer := by
  obtain ⟨host, guest, hhost, hguest⟩ := exists_endpoints_of_predictP2pPossible h
  unfold peerEndpoint
  split
  · exact ⟨guest, hguest⟩
  · exact ⟨host, hhost⟩

/-- **The plan says what it means**: the broker writes the intended transport into every plan,
for whatever role. -/
lemma buildConnectPlan_eq (config : Config) (room : Room) (role : String) (includeSecrets : Bool) :
    buildConnectPlan config room role includeSecrets =
      planBase config room includeSecrets ++
        ("transport", .str (transportName (intendedTransport config room))) ::
          planRest config room role := by
  unfold buildConnectPlan intendedTransport planRest intendedTransport
  by_cases hlegacy : legacyOnly config room = true
  · simp [hlegacy, transportName]
  · by_cases hp2p : predictP2pPossible room = true
    · obtain ⟨peer, hpeer⟩ := exists_peer_of_predictP2pPossible hp2p role
      have hport : peer.ggpoPort ≠ 0 := by
        have := peer.port_range
        omega
      simp [hlegacy, hp2p, hpeer, peer.public_ne, hport, transportName]
    · simp [hlegacy, hp2p, transportName, udpRelayPlan]

end Broker
end Sf4e
