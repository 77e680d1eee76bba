/-
# The room broker's server

The handler of `server.js`, cut at its awaits: a request is accepted, its body is read, and the
relay manager answers the requests that the handler waits for.  Between these turns the handlers
of other requests run, the timers fire and probes come in.

A handler ends with one answer or with an exception, after which nothing is sent.  What it does
before an exception stays done.  A turn is taken at one time; the time of a turn that may commit
a room is that of its draws.
-/
import Sf4e.Broker.Ensure
import Sf4e.Broker.Http
import Sf4e.Trace.Jobs

namespace Sf4e
namespace Broker

open Wire Trace

/-! ## State -/

/-- The settings of a broker, with those that its handler reads. -/
structure ServerSettings extends Settings where
  /-- `TRUST_PROXY`. -/
  trustProxy : Bool
  /-- `ENABLE_ROOM_LIST`. -/
  enableRoomList : Bool
  /-- `MAX_QUEUE`; `none` for `NaN`. -/
  maxQueue : Option ℤ
  /-- `NAT_PROBE_TTL_MS`; `none` for `NaN`. -/
  natProbeTtlMs : Option ℤ

/-- An entry of `natProbeByIp`. -/
structure ProbeEntry where
  probe : NatProbe
  ts : ℕ

/-- The branches that read the body. -/
inductive BodyRoute
  | createRoom
  | registerEndpoint (code : Text) (ip : String)
  | events (code : Text)
  | delete (code : Text)
  | heartbeat (code : Text)
  | queueJoin

/-- A handler at one of its awaits. -/
inductive Suspended (config : CapacityConfig)
  /-- `readBody`. -/
  | reading (route : BodyRoute)
  /-- `createRoomRecord`, for `POST /v1/rooms` or for a match from the queue. -/
  | creating (c : Creation config) (queued : Bool)
  /-- A request about the relays of a room. -/
  | visiting (room : RoomRecord) (purpose : Purpose) (stage : VisitStage)

/-- The broker. -/
structure Server (config : CapacityConfig) where
  registry : Registry := ⟨[], []⟩
  rateBuckets : RateBuckets := fun _ => []
  natProbeByIp : String → Option ProbeEntry := fun _ => none
  queue : List Value := []
  /-- The handlers of requests. -/
  jobs : Jobs (Suspended config) := {}

/-- A turn of a handler: the broker after it, the stops sent to the relay manager, and where the
handler is. -/
structure HandlerTurn (config : CapacityConfig) where
  server : Server config
  stops : List ManagerCall
  progress : Suspended config ⊕ Ending

variable (s : ServerSettings)

/-! ## Rooms -/

/-- A time in a condition. -/
def isSet (time : Option ℕ) : Bool := time.any (· != 0)

/-- `isRoomOccupied`. -/
def isRoomOccupied (room : RoomRecord) : Bool :=
  isSet room.startedAt || room.hostEndpoint.isSome && room.guestEndpoint.isSome

/-- `roomIdleLimitMs`; `none` for `NaN`. -/
def roomIdleLimitMs (room : RoomRecord) : Option ℤ :=
  if isRoomOccupied room then s.roomOccupiedIdleMs else s.roomLobbyIdleMs

/-- `shouldPruneRoom`. -/
def shouldPruneRoom (room : RoomRecord) (now : ℕ) : Bool :=
  (roomIdleLimitMs s room).any fun limit =>
    0 < limit && limit < (now : ℤ) - room.lastSeenAt

/-- `verifyHostSecret`. -/
def verifyHostSecret (room : RoomRecord) (hostSecret : Option Value) : Bool :=
  room.hostSecret != [] &&
    match hostSecret with
    | some (.str secret) => secret != "" && utf8 secret == room.hostSecret
    | _ => false

/-- `ALLOWED_MATCH_EVENTS`. -/
def allowedMatchEvents : List String :=
  ["room_created", "endpoint_registered", "battle_start", "transport_fallback", "desync",
    "disconnect", "match_ended"]

/-- `hostOnlyEvents`. -/
def hostOnlyEvents : List String := ["battle_start", "transport_fallback", "desync", "disconnect"]

/-- The room object with the code is changed. -/
def Registry.modify (reg : Registry) (code : Text) (f : RoomRecord → RoomRecord) : Registry :=
  { reg with rooms := reg.rooms.map fun room => if room.code = code then f room else room }

/-- `pruneRooms`: the registry and the stops. -/
def Registry.prune (reg : Registry) (now : ℕ) : Registry × List ManagerCall :=
  ({ reg with rooms := reg.rooms.filter fun room => !shouldPruneRoom s room now },
    (reg.rooms.filter fun room => shouldPruneRoom s room now).flatMap fun room =>
      stopRelaySession room.port room.ggpoPort)

namespace Server

variable (t : Server s.capacity)

/-! ## Turns -/

/-- The handler answers. -/
def answer (status : ℕ) (error : Option String := none) : HandlerTurn s.capacity :=
  ⟨t, [], .inr (.answered ⟨status, error⟩)⟩

/-- The handler throws. -/
def throw : HandlerTurn s.capacity := ⟨t, [], .inr .thrown⟩

/-- The handler waits. -/
def suspend (h : Suspended s.capacity) : HandlerTurn s.capacity := ⟨t, [], .inl h⟩

/-- A change of the room with the code. -/
def modify (code : Text) (f : RoomRecord → RoomRecord) : Server s.capacity :=
  { t with registry := t.registry.modify code f }

/-- The room is seen. -/
def touch (code : Text) (now : ℕ) : Server s.capacity :=
  t.modify s code fun room => { room with lastSeenAt := now }

/-- `checkRate` with a window of a minute, and what a request that is allowed does. -/
def checkRate (req : HttpRequest) (bucket : String) (limit now : ℕ)
    (allowed : Server s.capacity → HandlerTurn s.capacity) : HandlerTurn s.capacity :=
  let r := allowRate t.rateBuckets (bucket ++ ":" ++ clientIp s.trustProxy req) limit 60000 now
  let t := { t with rateBuckets := r.2 }
  if r.1 then allowed t else t.answer s 429 "rate_limited"

/-- `lookupNatProbe`. -/
def lookupNatProbe (ip : String) (now : ℕ) : Option NatProbe × Server s.capacity :=
  match t.natProbeByIp ip with
  | none => (none, t)
  | some entry =>
    if s.natProbeTtlMs.any fun ttl => ttl < (now : ℤ) - entry.ts then
      (none, { t with natProbeByIp := Function.update t.natProbeByIp ip none })
    else (some entry.probe, t)

/-- A look at the probes drops one at most. -/
lemma lookupNatProbe_eq (ip : String) (now : ℕ) :
    ∃ f, (t.lookupNatProbe s ip now).2 = { t with natProbeByIp := f } := by
  unfold lookupNatProbe
  split
  · exact ⟨_, rfl⟩
  · split
    · exact ⟨_, rfl⟩
    · exact ⟨_, rfl⟩

/-! ### The relays of a room -/

/-- A handler begins its work on a room.  Without relays on the VPS there is nothing to ask. -/
def visit (room : RoomRecord) (purpose : Purpose) : HandlerTurn s.capacity :=
  if s.forceVpsRelay then t.suspend s (.visiting room purpose purpose.first) else t.answer s 200

/-- A handler that has asked for all it wants, but for the GGPO relay at the end. -/
def lookLast (room : RoomRecord) (purpose : Purpose) : HandlerTurn s.capacity :=
  match lastLook room with
  | some stage => t.suspend s (.visiting room purpose stage)
  | none => t.answer s 200

/-- A handler at work on a room, from an await on. -/
def visitReply (room : RoomRecord) (purpose : Purpose) (reply : HttpReply) :
    VisitStage → HandlerTurn s.capacity
  | .ensuring stage =>
    match ensureRelaySession room reply stage with
    | .await stage => t.suspend s (.visiting room purpose (.ensuring stage))
    | .done _ => if purpose = .health then t.lookLast s room purpose else t.answer s 200
    | .thrown => t.throw s
  | .lookSession => t.lookLast s room purpose
  | .lookGgpo => t.answer s 200

/-! ### Creations -/

/-- The end of a handler whose call of `createRoomRecord` has come to something. -/
def creationEnding (queued : Bool) : Created → Ending
  | .full => .answered ⟨503, "full"⟩
  | .relayStartFailed _ => .answered ⟨503, "relay_start_failed"⟩
  | .invalidHash _ => .answered ⟨if queued then 503 else 400, "invalid_hash"⟩
  | .thrown => .thrown
  | .created _ => .answered ⟨if queued then 200 else 201, none⟩

/-- The handler of a call of `createRoomRecord` after a turn of it. -/
def creationTurn (queued : Bool) (turn : Turn s.capacity) : HandlerTurn s.capacity where
  server := { t with registry := turn.registry }
  stops := turn.stops
  progress :=
    match turn.progress with
    | .awaits c => .inl (.creating c queued)
    | .done result => .inr (creationEnding queued result)

/-- A call of `createRoomRecord`. -/
def create (args : CreateArgs) (draws : Draws) (queued : Bool) : Option (HandlerTurn s.capacity) :=
  (t.registry.createRoomRecord s.toSettings args draws).map (t.creationTurn s queued)

/-! ### Bodies -/

/-- The arguments that `POST /v1/rooms` makes of a body; `none` when that throws. -/
def createArgs (body : Value) : Option CreateArgs :=
  if body.isNull then none
  else do
    let sidecarHash ← Value.textOrEmpty (body.get "sidecarHash")
    let relayHost ← if s.forceVpsRelay then some "" else Value.textOrEmpty (body.get "relayHost")
    return ⟨body.get "displayName", utf8 (trim relayHost), utf8 (trim sidecarHash)⟩

/-- `POST /v1/rooms`. -/
def createRoom (body : Value) (draws : Draws) : Option (HandlerTurn s.capacity) :=
  match createArgs s body with
  | none => some (t.throw s)
  | some args => t.create s args draws false

lemma toNat_port {port : ℤ} (h : 1 ≤ port ∧ port ≤ 65535) :
    1 ≤ port.toNat ∧ port.toNat ≤ 65535 := by
  omega

/-- The endpoint that a registration makes for a room. -/
def registeredEndpoint (port : ℕ) (hport : 1 ≤ port ∧ port ≤ 65535) (probe : NatProbe)
    (natType : String) : Endpoint where
  ggpoPort := port
  observedPublic := probe.observedIp
  observedPort := if probe.observedPort ≠ 0 then probe.observedPort else port
  natType := utf8 (.ofList (natType.toList.take 32))
  port_range := hport
  public_ne := probe.observedIp_ne

/-- `POST register-endpoint`, of a side that may, from its port on. -/
def registerPort (room : RoomRecord) (role : Role) (ip : String) (body : Value) (now : ℕ)
    (port : Option ℤ) : HandlerTurn s.capacity :=
  if hport : 1 ≤ port.getD 0 ∧ port.getD 0 ≤ 65535 then
    let r := t.lookupNatProbe s ip now
    match r.1 with
    | none => r.2.answer s 428 "nat_probe_required"
    | some probe =>
      match (Value.orElse (body.get "natType") (.str "unknown")).toText with
      | none => r.2.throw s
      | some natType =>
        let endpoint := registeredEndpoint (port.getD 0).toNat (toNat_port hport) probe natType
        (r.2.modify s room.code fun room =>
          { room with toRoom := room.setEndpoint role endpoint, lastSeenAt := now }).answer s 200
  else t.answer s 400 "invalid_port"

/-- `POST register-endpoint`, for a role. -/
def registerRole (room : RoomRecord) (role : Role) (ip : String) (body : Value) (now : ℕ) :
    HandlerTurn s.capacity :=
  if role = .host ∧ verifyHostSecret room (body.get "hostSecret") = false then
    t.answer s 401 "unauthorized"
  else
    match parseIntOf (body.get "ggpoPort") with
    | none => t.throw s
    | some port => t.registerPort s room role ip body now port

/-- `POST register-endpoint`. -/
def registerEndpoint (code : Text) (ip : String) (body : Value) (now : ℕ) :
    HandlerTurn s.capacity :=
  match t.registry.find? code with
  | none => t.answer s 404 "not_found"
  | some room =>
    if body.isNull then t.throw s
    else
      match Value.textOrEmpty (body.get "role") with
      | none => t.throw s
      | some text =>
        match Role.parse text with
        | none => t.answer s 400 "invalid_role"
        | some role => t.registerRole s room role ip body now

/-- The mark of the transport that a body brings; the outer `none` when that throws. -/
def transportMark (body : Value) : Option (Option Text) :=
  match body.get "transportActive" with
  | none => some none
  | some v => if v.truthy then v.toText.map fun text => some (utf8 text) else some none

/-- The start of the battle is noted once. -/
def startBattle (room : RoomRecord) (now : ℕ) : RoomRecord :=
  if isSet room.startedAt then room else { room with startedAt := some now }

/-- `POST events`, of a type that is allowed, by a client that may. -/
def postEvent (room : RoomRecord) (eventType : String) (body : Value) (now : ℕ) :
    HandlerTurn s.capacity :=
  let t := if eventType = "battle_start" then t.modify s room.code (startBattle · now) else t
  match transportMark body with
  | none => t.throw s
  | some mark =>
    (t.modify s room.code fun room =>
      { room with
        transportActive := if mark.isSome then mark else room.transportActive
        lastSeenAt := now }).answer s 200

/-- `POST events`. -/
def events (code : Text) (body : Value) (now : ℕ) : HandlerTurn s.capacity :=
  match t.registry.find? code with
  | none => t.answer s 404 "not_found"
  | some room =>
    if body.isNull then t.throw s
    else
      match Value.textOrEmpty (body.get "type") with
      | none => t.throw s
      | some text =>
        if trim text ∉ allowedMatchEvents then t.answer s 400 "invalid_event"
        else if trim text ∈ hostOnlyEvents ∧
            verifyHostSecret room (body.get "hostSecret") = false then
          t.answer s 401 "unauthorized"
        else t.postEvent s room (trim text) body now

/-- What the host of a room may do, when the body has its secret. -/
def asHost (code : Text) (body : Value) (act : RoomRecord → HandlerTurn s.capacity) :
    HandlerTurn s.capacity :=
  match t.registry.find? code with
  | none => t.answer s 404 "not_found"
  | some room =>
    if body.isNull then t.throw s
    else if verifyHostSecret room (body.get "hostSecret") then act room
    else t.answer s 401 "unauthorized"

/-- `DELETE` of a room. -/
def delete (code : Text) (body : Value) : HandlerTurn s.capacity :=
  t.asHost s code body fun room =>
    ⟨{ t with registry := t.registry.delete room.code }, stopRelaySession room.port room.ggpoPort,
      .inr (.answered ⟨200, none⟩)⟩

/-- `POST heartbeat`. -/
def heartbeat (code : Text) (body : Value) (now : ℕ) : HandlerTurn s.capacity :=
  t.asHost s code body fun room =>
    (t.touch s room.code now).visit s { room with lastSeenAt := now } .ensure

/-- The pair at the front of the queue is to be matched. -/
def matchPair (a b : Value) (body : Value) (draws : Draws) : Option (HandlerTurn s.capacity) :=
  match Value.textOrEmpty (body.get "sidecarHash"), a.toText, b.toText with
  | some sidecarHash, some a, some b =>
    t.create s ⟨some (.str (a ++ " vs " ++ b)), s.relayHost, utf8 (trim sidecarHash)⟩ draws true
  | _, _, _ => some (t.throw s)

/-- `POST /v1/queue/join`. -/
def queueJoin (body : Value) (draws : Draws) : Option (HandlerTurn s.capacity) :=
  if s.maxQueue.any fun limit => limit ≤ (t.queue.length : ℤ) then
    some (t.answer s 503 "queue_full")
  else if body.isNull then some (t.throw s)
  else
    match t.queue ++ [Value.orElse (body.get "displayName") (.str "Player")] with
    | a :: b :: rest => matchPair s { t with queue := rest } a b body draws
    | queue => some (answer s { t with queue := queue } 202)

/-- The handler once its body is read; the body is `none` when it is too large. -/
def readBody (route : BodyRoute) (body : Option Value) (draws : Draws) :
    Option (HandlerTurn s.capacity) :=
  match body with
  | none => some (t.answer s 413 "payload_too_large")
  | some body =>
    match route with
    | .createRoom => t.createRoom s body draws
    | .registerEndpoint code ip => some (t.registerEndpoint s code ip body draws.now)
    | .events code => some (t.events s code body draws.now)
    | .delete code => some (t.delete s code body)
    | .heartbeat code => some (t.heartbeat s code body draws.now)
    | .queueJoin => t.queueJoin s body draws

/-! ### Requests -/

/-- A listing, which may be disabled. -/
def listing (found : Bool) : HandlerTurn s.capacity :=
  if s.enableRoomList ∧ found = true then t.answer s 200 else t.answer s 404 "not_found"

/-- A request about a room that is seen by it. -/
def seen (code : Text) (now : ℕ) (purpose : Purpose) : HandlerTurn s.capacity :=
  match t.registry.find? code with
  | none => t.answer s 404 "not_found"
  | some room => (t.touch s code now).visit s { room with lastSeenAt := now } purpose

/-- A request about a room, up to the first await. -/
def roomRequest (req : HttpRequest) (verb : RoomVerb) (code : Text) (now : ℕ) :
    HandlerTurn s.capacity :=
  match verb with
  | .connectPlan => t.checkRate s req "resolve" 30 now fun t => t.seen s code now .ensure
  | .lookup => t.checkRate s req "resolve" 30 now fun t => t.seen s code now .lookup
  | .health =>
    match t.registry.find? code with
    | none => t.answer s 404 "not_found"
    | some room => t.visit s room .health
  | .registerEndpoint =>
    t.checkRate s req "register" 20 now fun t =>
      t.suspend s (.reading (.registerEndpoint code (clientIp s.trustProxy req)))
  | .events => t.checkRate s req "events" 60 now fun t => t.suspend s (.reading (.events code))
  | .delete => t.checkRate s req "mutate" 60 now fun t => t.suspend s (.reading (.delete code))
  | .heartbeat =>
    t.checkRate s req "mutate" 60 now fun t => t.suspend s (.reading (.heartbeat code))

/-- The handler from the parsed target on. -/
def dispatch (req : HttpRequest) (url : Url) (now : ℕ) : HandlerTurn s.capacity :=
  match route req.method url.pathname with
  | .health => t.answer s 200
  | .matches | .listRooms => t.listing s true
  | .matchById matchId =>
    t.listing s (t.registry.rooms.any fun room => room.matchId.1 == utf8 matchId)
  | .createRoom =>
    t.checkRate s req "create" 10 now fun t => t.suspend s (.reading .createRoom)
  | .room verb code => t.roomRequest s req verb (utf8 code) now
  | .queueJoin => t.suspend s (.reading .queueJoin)
  | .unknown => t.answer s 404 "not_found"

/-- The handler of a request up to its first await. -/
def accept (newUrl : NewUrl) (req : HttpRequest) (now : ℕ) : HandlerTurn s.capacity :=
  if req.method = "OPTIONS" then t.answer s 204
  else
    let (registry, stops) := t.registry.prune s now
    let t := { t with registry := registry }
    match newUrl req.target with
    | none => ⟨t, stops, .inr .thrown⟩
    | some url => { t.dispatch s req url now with stops := stops }

/-- The handler from an await on that the relay manager has answered, or that is rejected. -/
def receive (reply : Option HttpReply) (draws : Draws) :
    Suspended s.capacity → Option (HandlerTurn s.capacity)
  | .reading _ => none
  | .creating c queued =>
    (t.registry.resume s.toSettings c reply draws).map (t.creationTurn s queued)
  | .visiting room purpose stage =>
    match reply with
    | none => some (t.throw s)
    | some reply => some (t.visitReply s room purpose reply stage)

end Server

/-! ## Runs -/

/-- What happens to a broker. -/
inductive ServerAction
  | request (req : HttpRequest) (now : ℕ)
  /-- The body of a request is read. -/
  | body (id : ℕ) (body : Option Value) (draws : Draws)
  /-- The relay manager answers the handler of a request, or cannot be reached. -/
  | reply (id : ℕ) (reply : Option HttpReply) (draws : Draws)
  /-- A timer. -/
  | prune (now : ℕ)
  /-- The other timer. -/
  | cleanRates (now : ℕ)
  /-- A NAT probe. -/
  | probe (address : String) (probe : NatProbe) (now : ℕ)

/-- What a step puts out: the request whose handler has ended, and the stops. -/
structure ServerOut where
  ended : Option (ℕ × Ending) := none
  stops : List ManagerCall := []

namespace Server

variable {s}

/-- A turn of the handler of a request is over. -/
def settle (id : ℕ) (turn : HandlerTurn s.capacity) : ServerOut × Server s.capacity :=
  (⟨Jobs.ended id turn.progress, turn.stops⟩,
    { turn.server with jobs := turn.server.jobs.settle id turn.progress })

variable (s)

/-- One step. -/
def next (newUrl : NewUrl) (t : Server s.capacity) :
    ServerAction → Option (ServerOut × Server s.capacity)
  | .request req now =>
    some (settle t.jobs.count ({ t with jobs := t.jobs.draw }.accept s newUrl req now))
  | .body id body draws =>
    match t.jobs.at? id with
    | some (.reading route) => (t.readBody s route body draws).map (settle id)
    | _ => none
  | .reply id reply draws =>
    (t.jobs.at? id).bind fun h => (t.receive s reply draws h).map (settle id)
  | .prune now =>
    some (⟨none, (t.registry.prune s now).2⟩, { t with registry := (t.registry.prune s now).1 })
  | .cleanRates now => some ({}, { t with rateBuckets := Broker.cleanRates t.rateBuckets now })
  | .probe address probe now =>
    let r := allowRate t.rateBuckets ("nat:" ++ address) 30 60000 now
    let t := { t with rateBuckets := r.2 }
    some ({}, if r.1 then
      { t with natProbeByIp := Function.update t.natProbeByIp address (some ⟨probe, now⟩) } else t)

end Server

/-- The runs of a broker, from its start. -/
def serverLTS (newUrl : NewUrl) : LTS (Server s.capacity) ServerAction ServerOut :=
  .ofFun (· = {}) (Server.next s newUrl)

/-- A step of a broker. -/
abbrev ServerEntry := Entry (Server s.capacity) ServerAction ServerOut

end Broker
end Sf4e
