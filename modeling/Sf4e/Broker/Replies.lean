/-
# What the broker says

The bodies of the answers of `server.js`, over the broker's runs.  An answer that `Server` only
gives a status and an error gets its body here, with the message of the place that it comes from.

Besides the rooms, a body takes from what the handlers have kept: the events of a room, and for a
handler at an await the role it was asked for, what it has found out about the relays so far, and
the object of its room.  A room that has ended in the meantime is no longer in the map, but the
handler still holds the object, as the room was when it ended; its events are not looked at again.
-/
import Sf4e.Broker.Queue

namespace Sf4e
namespace Broker

open Wire Trace

/-! ## Members of a body -/

/-- The members of a JSON object. -/
abbrev Members := List (String × Value)

/-- A string that is kept as bytes. -/
def Value.text (t : Text) : Value := .str (ofUtf8 t)

/-- A number that is not negative. -/
def Value.nat (n : ℕ) : Value := .int n

/-- `x || null`, of a time. -/
def Value.time : Option ℕ → Value
  | some n => if n = 0 then .null else .nat n
  | none => .null

/-- `x || null`, of a string. -/
def Value.mark : Option Text → Value
  | some t => if t = [] then .null else .text t
  | none => .null

/-- A number that may be `NaN`, which is written as `null`. -/
def Value.number : Option ℤ → Value
  | some n => .int n
  | none => .null

/-- A member of a plan. -/
def Json.toValue : Json → Value
  | .bool b => .bool b
  | .num n => .int n
  | .str s => .text s

/-- The members of a plan. -/
def Object.members (o : Object) : Members := o.map fun m => (m.1, m.2.toValue)

/-! ## Events -/

/-- `MAX_MATCH_EVENTS`. -/
def MAX_MATCH_EVENTS : ℕ := 50

/-- An event of a room. -/
structure MatchEvent where
  ts : ℕ
  type : String
  detail : Value

/-- An event in a listing. -/
def MatchEvent.toValue (e : MatchEvent) : Value :=
  .obj [("ts", .nat e.ts), ("type", .str e.type), ("detail", e.detail)]

/-- `pushMatchEvent`: the oldest events make room. -/
def pushMatchEvent (events : List MatchEvent) (e : MatchEvent) : List MatchEvent :=
  (events ++ [e]).drop (events.length + 1 - MAX_MATCH_EVENTS)

/-! ## Rooms -/

section Rooms

variable (s : ServerSettings) (room : RoomRecord)

/-- `transportRequested`. -/
def transportRequested : Value := .str (if room.transportAuto then "auto" else "legacy")

/-- A side in `endpointsSummary`. -/
def endpointSummary : Option Endpoint → Value
  | some e => .obj [("natType", .mark (some e.natType)), ("ggpoPort", .nat e.ggpoPort)]
  | none => .null

/-- A side in the endpoints of a match. -/
def matchEndpoint : Option Endpoint → Value
  | some e => .obj [("ggpoPort", .nat e.ggpoPort), ("natType", .text e.natType)]
  | none => .null

/-- `publicRoomFields`. -/
def publicRoomFields : Members :=
  [("code", .text room.code), ("host", .text (relayAddress s.toConfig room.toRoom)),
    ("port", .nat room.port), ("ggpoPort", .nat room.ggpoPort),
    ("matchId", .text room.matchId.1), ("ggpoTransport", transportRequested room),
    ("transportActive", .mark room.transportActive), ("displayName", room.displayName),
    ("createdAt", .nat room.createdAt), ("lastSeenAt", .nat room.lastSeenAt),
    ("startedAt", .time room.startedAt), ("endedAt", .time room.endedAt),
    ("roomOccupied", .bool (isRoomOccupied room)),
    ("idleLimitMs", .number (roomIdleLimitMs s room)),
    ("endpointsSummary", .obj
      [("host", endpointSummary room.hostEndpoint),
        ("guest", endpointSummary room.guestEndpoint)])]

/-- A room in the list of matches. -/
def matchFields (events : List MatchEvent) : Members :=
  publicRoomFields s room ++ [("events", .arr (events.map MatchEvent.toValue))]

/-- A match that is looked up. -/
def matchDetails (events : List MatchEvent) : Members :=
  matchFields s room events ++
    [("endpoints", .obj
      [("host", matchEndpoint room.hostEndpoint), ("guest", matchEndpoint room.guestEndpoint)])]

/-- What `createRoomRecord` returns. -/
def createdFields : Members :=
  [("code", .text room.code), ("host", .text room.host), ("port", .nat room.port),
    ("ggpoPort", .nat room.ggpoPort), ("matchId", .text room.matchId.1),
    ("roomToken", .text room.roomToken.1), ("ggpoTransport", transportRequested room),
    ("token", .text (room.code.drop (utf8 "SF4-").length)), ("hostSecret", .text room.hostSecret)]

/-- What the second of a pair from the queue is told. -/
def matchedFields : Members :=
  [("status", .str "matched"), ("code", .text room.code), ("host", .text room.host),
    ("port", .nat room.port), ("ggpoPort", .nat room.ggpoPort),
    ("matchId", .text room.matchId.1), ("roomToken", .text room.roomToken.1),
    ("hostSecret", .text room.hostSecret)]

/-- `GET` of a room, with the health of its relays; `none` for a room without a GGPO port. -/
def lookupFields (relay : Health) (ggpo : Option Health) : Members :=
  publicRoomFields s room ++
    [("relayOk", .bool relay.good), ("ggpoRelayOk", .bool (ggpo.any Health.good))]

/-- `GET health`. -/
def healthFields (relay : EnsureResult) (ggpo : Option Health) : Members :=
  [("ok", .bool relay.ok), ("code", .text room.code), ("port", .nat room.port),
    ("ggpoPort", .nat room.ggpoPort), ("relayOk", .bool relay.ok),
    ("relayListening", .bool relay.relay.listening), ("relayRunning", .bool relay.relay.running),
    ("ggpoRelayOk", .bool (ggpo.all Health.ok)),
    ("ggpoRelayListening", .bool (ggpo.any Health.listening)),
    ("restarted", .bool relay.restarted), ("message", Value.orElse relay.message (.str ""))]

/-- `POST heartbeat`. -/
def heartbeatFields (relay : EnsureResult) : Members :=
  [("ok", .bool relay.ok), ("heartbeatOk", .bool relay.ok), ("code", .text room.code),
    ("relayListening", .bool relay.relay.listening),
    ("ggpoRelayListening", .bool (relay.ggpoRelay.any Health.listening || room.ggpoPort == 0)),
    ("ggpoRelayRestarted", .bool relay.ggpoRestarted), ("restarted", .bool relay.restarted),
    ("message", Value.orElse relay.message (.str ""))]

end Rooms

/-- What the handlers find without relays on the VPS. -/
def EnsureResult.skipped : EnsureResult :=
  ⟨true, ⟨true, true, true⟩, none, false, false, .str ""⟩

/-- What a plan says of the relays. -/
def EnsureResult.health (r : EnsureResult) : RelayHealth :=
  ⟨r.ok, r.ggpoRelay.any Health.listening⟩

/-! ## Bodies -/

/-- The body of an answer, by what it is made of. -/
inductive AnswerBody
  /-- There is none. -/
  | empty
  | json (members : Members)
  /-- The room that was created for the client. -/
  | created (room : RoomRecord)
  /-- The room that was created for a pair from the queue. -/
  | matched (room : RoomRecord)
  /-- `GET connect-plan`. -/
  | plan (relay : RelayHealth) (room : RoomRecord) (role : String)
  /-- `POST register-endpoint`. -/
  | registered (room : RoomRecord) (role : Role)

/-- The JSON object that is sent. -/
def AnswerBody.body (s : ServerSettings) : AnswerBody → Option Members
  | .empty => none
  | .json members => some members
  | .created room => some (createdFields room)
  | .matched room => some (matchedFields room)
  | .plan relay room role =>
    some (Object.members (getConnectPlan s.toConfig room.toRoom room.code role relay))
  | .registered room role =>
    some [("ok", .bool true), ("code", .text room.code), ("role", .str role.name),
      ("connectPlan",
        .obj (Object.members (buildConnectPlan s.toConfig room.toRoom role.name true)))]

/-- The body of an error. -/
def failure (error : String) (message : Value) : AnswerBody :=
  .json [("error", .str error), ("message", message)]

/-! ## Messages -/

/-- `ROOM_FULL_MESSAGE`. -/
def ROOM_FULL_MESSAGE : String :=
  "The relay is currently at room capacity. Try again shortly or select another relay."

/-- The message for too many requests about a room. -/
def RoomVerb.limitMessage : RoomVerb → String
  | .connectPlan => "Too many connect-plan requests."
  | .registerEndpoint => "Too many endpoint registrations."
  | .events => "Too many event posts."
  | .lookup | .health => "Too many room lookup requests."
  | .delete | .heartbeat => "Too many room mutation requests."

/-- The message of an error before the first await of a handler. -/
def Route.message (enableRoomList : Bool) : Route → String
  | .matches => "Match listing requires BROKER_ENABLE_ROOM_LIST=1."
  | .matchById _ =>
    if enableRoomList then "Match not found or expired."
    else "Match lookup requires BROKER_ENABLE_ROOM_LIST=1."
  | .listRooms => "Room listing is disabled."
  | .createRoom => "Too many room create requests."
  | .room _ _ => "Room not found or expired."
  | .health | .queueJoin | .unknown => "Unknown API path."

/-- The message of an error before the first await, where a room may be asked about too often. -/
def requestMessage (s : ServerSettings) (route : Route) (error : String) : String :=
  match route with
  | .room verb _ =>
    if error = "rate_limited" then verb.limitMessage else route.message s.enableRoomList
  | _ => route.message s.enableRoomList

/-- The message for a body that is too large. -/
def BodyRoute.largeMessage : BodyRoute → String
  | .queueJoin => "Request body too large"
  | _ => "Request body too large."

/-- The type of an event is missing. -/
def noEventType (body : Value) : Bool :=
  ((Value.textOrEmpty (body.get "type")).map trim).any (· == "")

/-- The body of an error after the body of the request. -/
def bodyFailure (natProbePort : ℕ) (route : BodyRoute) (body : Value) (error : String) :
    AnswerBody :=
  match error with
  | "payload_too_large" => failure error (.str route.largeMessage)
  | "not_found" => failure error (.str "Room not found or expired.")
  | "invalid_role" => failure error (.str "role must be host or guest")
  | "unauthorized" =>
    failure error (.str (match route with
      | .registerEndpoint _ _ => "Host secret required for host role."
      | _ => "Host secret required."))
  | "invalid_port" => failure error (.str "ggpoPort required")
  | "nat_probe_required" =>
    .json [("error", .str error),
      ("message", .str "Send SF4E_PROBE to the broker NAT port before registering an endpoint."),
      ("natProbePort", .nat natProbePort)]
  | "invalid_event" =>
    failure error (.str (if noEventType body then "type required" else "Unknown event type."))
  | "queue_full" => failure error (.str "Matchmaking queue is full. Try again shortly.")
  | _ => failure error (.str "")

/-- The body for what a call of `createRoomRecord` has come to. -/
def creationReply (queued : Bool) : Created → AnswerBody
  | .full => failure "full" (.str ROOM_FULL_MESSAGE)
  | .invalidHash message => failure "invalid_hash" (.str message)
  | .relayStartFailed message => failure "relay_start_failed" message
  | .thrown => .empty
  | .created room => if queued then .matched room else .created room

/-! ## What the handlers keep -/

/-- What a handler of a request about a room has kept. -/
structure Note where
  /-- The role that a plan is asked for; `none` for what is no `GET connect-plan`. -/
  role : Option String := none
  /-- How many rooms of the code had ended before: the next one to end is the handler's own. -/
  ended : ℕ := 0
  /-- What `ensureRelaySession` has returned. -/
  ensured : EnsureResult := .skipped
  /-- What `getRelaySessionHealth` of a lookup has returned. -/
  session : Health := ⟨true, true, true⟩

/-- The broker with all that its answers are made of. -/
structure Desk (config : CapacityConfig) where
  server : Server config := {}
  /-- The events of the rooms in the map, by their codes. -/
  events : Text → List MatchEvent := fun _ => []
  /-- The rooms that have ended, by their codes, oldest first. -/
  ended : Text → List RoomRecord := fun _ => []
  /-- By the numbers of the requests. -/
  notes : ℕ → Note := fun _ => {}

variable (s : ServerSettings)

/-- The arguments of the room that a client of the queue gets, if it is the second of a pair. -/
def Server.queueArgs (t : Server s.capacity) (body : Value) : Option CreateArgs :=
  if s.maxQueue.any (fun limit => limit ≤ (t.queue.length : ℤ)) || body.isNull then none
  else
    match t.queue ++ [Value.orElse (body.get "displayName") (.str "Player")] with
    | a :: b :: _ => pairArgs s a b body
    | _ => none

/-- The turn of a call of `createRoomRecord` in a step, and whether it is for the queue. -/
def Server.creating (t : Server s.capacity) : ServerAction → Option (Bool × Turn s.capacity)
  | .body id (some body) draws =>
    match t.jobs.at? id with
    | some (.reading .createRoom) => (createArgs s body).bind fun args =>
      (t.registry.createRoomRecord s.toSettings args draws).map fun turn => (false, turn)
    | some (.reading .queueJoin) => (t.queueArgs s body).bind fun args =>
      (t.registry.createRoomRecord s.toSettings args draws).map fun turn => (true, turn)
    | _ => none
  | .reply id reply draws =>
    match t.jobs.at? id with
    | some (.creating c queued) =>
      (t.registry.resume s.toSettings c reply draws).map fun turn => (queued, turn)
    | _ => none
  | _ => none

/-- What a turn has come to. -/
def Progress.result {config : CapacityConfig} : Progress config → Option Created
  | .awaits _ => none
  | .done result => some result

/-- What a call of `createRoomRecord` comes to in a step, and whether it is for the queue. -/
def Server.creationResult (t : Server s.capacity) (a : ServerAction) : Option (Bool × Created) :=
  (t.creating s a).bind fun r => r.2.progress.result.map fun result => (r.1, result)

/-- The route of a request, with the role in its query. -/
def routeOf (newUrl : NewUrl) (req : HttpRequest) : Option (Route × String) :=
  (newUrl req.target).map fun url =>
    (route req.method url.pathname, (url.role.filter (· ≠ "")).getD "guest")

namespace Desk

variable (d : Desk s.capacity) (newUrl : NewUrl)

/-! ### Bookkeeping -/

/-- `endRoom`, of rooms that leave the map. -/
def endRooms (rooms : List RoomRecord) (now : ℕ) : Desk s.capacity :=
  let gone code := (rooms.filter fun room => room.code = code).map fun room =>
    { room with endedAt := some now }
  { d with ended := fun code => d.ended code ++ gone code }

/-- The rooms that `pruneRooms` ends. -/
def pruned (now : ℕ) : List RoomRecord :=
  d.server.registry.rooms.filter fun room => shouldPruneRoom s room now

/-- An event of the room with the code. -/
def push (code : Text) (e : MatchEvent) : Desk s.capacity :=
  { d with events := Function.update d.events code (pushMatchEvent (d.events code) e) }

/-- The first event of a room. -/
def open_ (room : RoomRecord) (now : ℕ) : Desk s.capacity :=
  let detail : Value := .obj [("transportRequested", transportRequested room)]
  let events := pushMatchEvent [] ⟨now, "room_created", detail⟩
  { d with events := Function.update d.events room.code events }

/-- What a handler keeps. -/
def note (id : ℕ) (n : Note) : Desk s.capacity :=
  { d with notes := Function.update d.notes id n }

/-- The object of the room that a handler holds. -/
def object (id : ℕ) (room : RoomRecord) : RoomRecord :=
  ((d.ended room.code)[(d.notes id).ended]?).getD
    ((d.server.registry.find? room.code).getD room)

/-- What is kept after the body of a request. -/
def keepBody (id : ℕ) (body : Value) (now : ℕ) : BodyRoute → Desk s.capacity
  | .registerEndpoint code _ =>
    d.push s code ⟨now, "endpoint_registered",
      .obj [("role", .str ((Value.textOrEmpty (body.get "role")).getD "").toLower)]⟩
  | .events code =>
    d.push s code ⟨now, ((Value.textOrEmpty (body.get "type")).map trim).getD "",
      Value.orElse (body.get "detail") .empty⟩
  | .delete code => d.endRooms s (d.server.registry.find? code).toList now
  | .heartbeat code => d.note s id { ended := (d.ended code).length }
  | .createRoom | .queueJoin => d

/-- What is kept after an answer of the relay manager to a handler at work on a room. -/
def keepReply (id : ℕ) (room : RoomRecord) (reply : HttpReply) : VisitStage → Desk s.capacity
  | .ensuring stage =>
    match ensureRelaySession room reply stage with
    | .done result => d.note s id { d.notes id with ensured := result }
    | .await _ | .thrown => d
  | .lookSession => d.note s id { d.notes id with session := getHealth reply }
  | .lookGgpo => d

/-- The note of a new request. -/
def requestNote (req : HttpRequest) : Note :=
  match routeOf newUrl req with
  | some (.room .connectPlan code, role) =>
    { role := some role, ended := (d.ended (utf8 code)).length }
  | some (.room _ code, _) => { ended := (d.ended (utf8 code)).length }
  | _ => {}

/-- The request was answered without an error. -/
def succeeded (out : ServerOut) : Bool :=
  match out.ended with
  | some (_, .answered a) => a.error.isNone
  | _ => false

/-- What is kept once the body of a request is read, unless it makes a room. -/
def keepRead (id : ℕ) (body : Option Value) (now : ℕ) (out : ServerOut) : Desk s.capacity :=
  match body, d.server.jobs.at? id with
  | some body, some (.reading (.heartbeat code)) => d.keepBody s id body now (.heartbeat code)
  | some body, some (.reading route) =>
    if succeeded out then d.keepBody s id body now route else d
  | _, _ => d

/-- What is kept after an answer of the relay manager, unless it makes a room. -/
def keepVisit (id : ℕ) (reply : Option HttpReply) : Desk s.capacity :=
  match reply, d.server.jobs.at? id with
  | some reply, some (.visiting room _ stage) => d.keepReply s id room reply stage
  | _, _ => d

/-- What is kept after a step, but for the server itself. -/
def keep (a : ServerAction) (out : ServerOut) : Desk s.capacity :=
  match a with
  | .request req now =>
    if req.method = "OPTIONS" then d
    else
      let d' := d.endRooms s (d.pruned s now) now
      d'.note s d.server.jobs.count (d'.requestNote s newUrl req)
  | .body id body draws =>
    match d.server.creationResult s a with
    | some (_, .created room) => d.open_ s room draws.now
    | _ => d.keepRead s id body draws.now out
  | .reply id reply draws =>
    match d.server.creationResult s a with
    | some (_, .created room) => d.open_ s room draws.now
    | _ => d.keepVisit s id reply
  | .prune now => d.endRooms s (d.pruned s now) now
  | .cleanRates _ | .probe _ _ _ => d

/-! ### Answers -/

/-- The answer to a request about a room, without relays on the VPS. -/
def unvisited (verb : RoomVerb) (role : String) (room : RoomRecord) : AnswerBody :=
  match verb with
  | .connectPlan => .plan EnsureResult.skipped.health room role
  | .lookup => .json (lookupFields s room ⟨true, true, true⟩
      (if room.ggpoPort = 0 then none else some ⟨true, true, true⟩))
  | .health => .json (healthFields room .skipped
      (if room.ggpoPort = 0 then none else some ⟨true, true, true⟩))
  | .registerEndpoint | .events | .delete | .heartbeat => .empty

/-- The members of `GET /v1/health`.  The ratio of two integers and a whole percentage are compared
as they are. -/
def healthMembers : Members :=
  let config := s.capacity
  let rooms := d.server.registry.rooms.length
  [("ok", .bool true), ("rooms", .nat rooms), ("maxRooms", .nat config.maxRooms),
    ("relayHost", .text s.relayHost), ("forceVpsRelay", .bool s.forceVpsRelay),
    ("queueSize", .nat d.server.queue.length), ("relayPortBase", .nat config.relayPortBase),
    ("relayPortEnd", .nat (config.relayPortBase + config.maxRooms - 1)),
    ("ggpoUdpPortBase", .nat config.ggpoUdpPortBase),
    ("ggpoUdpPortEnd", .nat (config.ggpoUdpPortBase + config.maxRooms - 1)),
    ("capacityWarningPercent", .nat config.roomCapacityWarningPercent),
    ("capacityWarning",
      .bool (config.roomCapacityWarningPercent * config.maxRooms ≤ 100 * rooms)),
    ("brokerGgpoTransport", .str s.brokerGgpoTransport), ("natProbePort", .nat s.natProbePort),
    ("roomIdleMs", .number s.roomOccupiedIdleMs),
    ("roomLobbyIdleMs", .number s.roomLobbyIdleMs),
    ("roomOccupiedIdleMs", .number s.roomOccupiedIdleMs)]

/-- The answer to a request before its first await. -/
def routeReply (role : String) (now : ℕ) (error : Option String) (route : Route) : AnswerBody :=
  match error with
  | some error => failure error (.str (requestMessage s route error))
  | none =>
    let rooms := d.server.registry.rooms
    match route with
    | .health => .json (d.healthMembers s)
    | .matches =>
      .json [("ok", .bool true), ("matches", .arr (rooms.map fun room =>
        .obj (matchFields s room (d.events room.code))))]
    | .matchById matchId =>
      match rooms.find? fun room => room.matchId.1 == utf8 matchId with
      | some room =>
        .json [("ok", .bool true), ("match", .obj (matchDetails s room (d.events room.code)))]
      | none => .empty
    | .listRooms =>
      .json [("rooms", .arr ((rooms.filter fun room => !shouldPruneRoom s room now).map fun room =>
        .obj (publicRoomFields s room)))]
    | .room verb code =>
      match d.server.registry.find? (utf8 code) with
      | some room => unvisited s verb role room
      | none => .empty
    | .createRoom | .queueJoin | .unknown => .empty

/-- The answer to a request whose body has been read, but for a creation. -/
def bodyReply (body : Value) (route : BodyRoute) : AnswerBody :=
  match route with
  | .registerEndpoint code _ =>
    match d.server.registry.find? code, (Value.textOrEmpty (body.get "role")).bind Role.parse with
    | some room, some role => .registered room role
    | _, _ => .empty
  | .events code =>
    match d.server.registry.find? code with
    | some room =>
      .json [("ok", .bool true), ("code", .text code), ("matchId", .text room.matchId.1)]
    | none => .empty
  | .delete code => .json [("ok", .bool true), ("code", .text code), ("stopped", .bool true)]
  | .heartbeat code =>
    match d.server.registry.find? code with
    | some room => .json (heartbeatFields room .skipped)
    | none => .empty
  | .queueJoin =>
    .json [("status", .str "waiting"), ("message", .str "Looking for an opponent…")]
  | .createRoom => .empty

/-- The answer of a handler that has been at work on a room, to the last answer that it needs. -/
def visitReply (id : ℕ) (room : RoomRecord) (purpose : Purpose) (reply : HttpReply) :
    VisitStage → AnswerBody
  | .ensuring stage =>
    match ensureRelaySession room reply stage with
    | .done result =>
      match purpose, (d.notes id).role with
      | .ensure, some role => .plan result.health (d.object s id room) role
      | .ensure, none => .json (heartbeatFields (d.object s id room) result)
      | .health, _ | .lookup, _ => .json (healthFields (d.object s id room) result none)
    | .await _ | .thrown => .empty
  | .lookSession => .json (lookupFields s (d.object s id room) (getHealth reply) none)
  | .lookGgpo =>
    if purpose = .health then
      .json (healthFields (d.object s id room) (d.notes id).ensured (some (getHealth reply)))
    else .json (lookupFields s (d.object s id room) (d.notes id).session (some (getHealth reply)))

/-- The body of the answer to a request that is answered at once. -/
def requestReply (req : HttpRequest) (now : ℕ) (error : Option String) : AnswerBody :=
  if req.method = "OPTIONS" then .empty
  else
    match routeOf newUrl req with
    | some (route, role) => d.routeReply s role now error route
    | none => .empty

/-- The body of the answer to a request whose body has been read, unless it makes a room. -/
def readReply (before : Server s.capacity) (id : ℕ) (body : Value) (error : Option String) :
    AnswerBody :=
  match before.jobs.at? id with
  | some (.reading route) =>
    match error with
    | some error => bodyFailure s.natProbePort route body error
    | none => d.bodyReply s body route
  | _ => .empty

/-- The body of the answer that the last answer of the relay manager leads to, unless it makes a
room. -/
def answerReply (before : Server s.capacity) (id : ℕ) (reply : Option HttpReply) : AnswerBody :=
  match reply, before.jobs.at? id with
  | some reply, some (.visiting room purpose stage) => d.visitReply s id room purpose reply stage
  | _, _ => .empty

/-- The body of the answer that a step ends a handler with.  The desk is the one after the step. -/
def replyTo (before : Server s.capacity) (a : ServerAction) (error : Option String) : AnswerBody :=
  match a with
  | .request req now => d.requestReply s newUrl req now error
  | .body id body _ =>
    match before.creationResult s a with
    | some (queued, result) => creationReply queued result
    | none => d.readReply s before id (body.getD .empty) error
  | .reply id reply _ =>
    match before.creationResult s a with
    | some (queued, result) => creationReply queued result
    | none => d.answerReply s before id reply
  | .prune _ | .cleanRates _ | .probe _ _ _ => .empty

/-- The body of the answer, if a step ends a handler with one. -/
def reply (before : Server s.capacity) (a : ServerAction) (out : ServerOut) : Option AnswerBody :=
  match out.ended with
  | some (_, .answered answer) => some (d.replyTo s newUrl before a answer.error)
  | _ => none

/-- One step of the broker, with what it says. -/
def next (a : ServerAction) : Option ((ServerOut × Option AnswerBody) × Desk s.capacity) :=
  (d.server.next s newUrl a).map fun r =>
    let d' := { d.keep s newUrl a r.1 with server := r.2 }
    ((r.1, d'.reply s newUrl d.server a r.1), d')

end Desk

/-- The runs of a broker, with what it says. -/
def deskLTS (newUrl : NewUrl) :
    LTS (Desk s.capacity) ServerAction (ServerOut × Option AnswerBody) :=
  .ofFun (· = {}) (Desk.next s · newUrl)

/-- A step of a broker, with what it says. -/
abbrev DeskEntry := Entry (Desk s.capacity) ServerAction (ServerOut × Option AnswerBody)

end Broker
end Sf4e
