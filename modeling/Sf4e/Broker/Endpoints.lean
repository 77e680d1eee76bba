/-
# Where an endpoint comes from

The broker hands each side of a room the address of the other one, and the games send their
traffic there.  An address must not come from nowhere: whoever registers an endpoint has to be at
the address, has to have sent a probe from it a short time ago, and has to know the secret of the
room to register for the host.

`Registers` says this of a step of the broker and of what came before it, and `traced_of_run` that
every endpoint of every room goes back to such a step.
-/
import Sf4e.Broker.HostIntegrity

namespace Sf4e
namespace Broker

open Wire Trace

/-! ## What is kept -/

/-- A room and what it may become without a registration. -/
structure SameParty (room room' : RoomRecord) : Prop where
  code : room'.code = room.code
  hostSecret : room'.hostSecret = room.hostSecret
  hostEndpoint : room'.hostEndpoint = room.hostEndpoint
  guestEndpoint : room'.guestEndpoint = room.guestEndpoint

lemma SameParty.refl (room : RoomRecord) : SameParty room room := ⟨rfl, rfl, rfl, rfl⟩

lemma SameParty.endpoint {room room' : RoomRecord} (h : SameParty room room') (role : Role) :
    room'.endpoint role = room.endpoint role := by
  cases role with
  | host => exact h.hostEndpoint
  | guest => exact h.guestEndpoint

/-- No room has an endpoint that it did not have before. -/
def Registry.KeepsEndpoints (reg reg' : Registry) : Prop :=
  ∀ room' ∈ reg'.rooms, (∃ room ∈ reg.rooms, SameParty room room') ∨
    ∀ role, room'.endpoint role = none

namespace Registry

variable {reg reg' reg'' : Registry}

lemma KeepsEndpoints.refl (reg : Registry) : reg.KeepsEndpoints reg := fun room hroom =>
  .inl ⟨room, hroom, .refl room⟩

lemma KeepsEndpoints.trans (h : reg.KeepsEndpoints reg') (h' : reg'.KeepsEndpoints reg'') :
    reg.KeepsEndpoints reg'' := by
  intro room'' hroom''
  rcases h' room'' hroom'' with ⟨room', hroom', hsame'⟩ | hnone
  · rcases h room' hroom' with ⟨room, hroom, hsame⟩ | hnone
    · exact .inl ⟨room, hroom, hsame'.code.trans hsame.code,
        hsame'.hostSecret.trans hsame.hostSecret, hsame'.hostEndpoint.trans hsame.hostEndpoint,
        hsame'.guestEndpoint.trans hsame.guestEndpoint⟩
    · exact .inr fun role => (hsame'.endpoint role).trans (hnone role)
  · exact .inr hnone

/-- Some rooms go. -/
lemma KeepsEndpoints.of_subset (h : ∀ room ∈ reg'.rooms, room ∈ reg.rooms) :
    reg.KeepsEndpoints reg' := fun room hroom => .inl ⟨room, h room hroom, .refl room⟩

lemma keepsEndpoints_modify {f : RoomRecord → RoomRecord} (hf : ∀ room, SameParty room (f room))
    (reg : Registry) (code : Text) : reg.KeepsEndpoints (reg.modify code f) := by
  intro room' hroom'
  obtain ⟨room, hroom, rfl⟩ := List.mem_map.1 hroom'
  refine .inl ⟨room, hroom, ?_⟩
  split
  · exact hf room
  · exact .refl room

lemma keepsEndpoints_commit {s : Settings} {c : Creation s.capacity} {draws : Draws}
    {ggpoRelayOk : Bool} {turn : Turn s.capacity}
    (h : reg.commit s c draws ggpoRelayOk = some turn) : reg.KeepsEndpoints turn.registry := by
  obtain ⟨-, rfl⟩ := commit_eq_some h
  intro room' hroom'
  rcases List.mem_append.1 hroom' with hroom' | hroom'
  · exact .inl ⟨room', hroom', .refl room'⟩
  · obtain rfl := List.mem_singleton.1 hroom'
    exact .inr fun role => by cases role <;> rfl

lemma keepsEndpoints_createRoomRecord {s : Settings} {args : CreateArgs} {draws : Draws}
    {turn : Turn s.capacity} (h : reg.createRoomRecord s args draws = some turn) :
    reg.KeepsEndpoints turn.registry := by
  cases begun h with
  | full | refused | await => exact .of_subset fun _ hroom => hroom
  | commit _ _ hcommit => exact fun room' hroom' => keepsEndpoints_commit hcommit room' hroom'

lemma keepsEndpoints_resume {s : Settings} {c : Creation s.capacity} {reply : Option HttpReply}
    {draws : Draws} {turn : Turn s.capacity} (h : reg.resume s c reply draws = some turn) :
    reg.KeepsEndpoints turn.registry := by
  cases resumed h with
  | await | failed | thrown => exact .of_subset fun _ hroom => hroom
  | commit _ _ hcommit => exact keepsEndpoints_commit hcommit

end Registry

/-! ## Turns -/

variable {s : ServerSettings}

/-- The address of the request whose registration the handler goes on to read. -/
def HandlerTurn.reads (turn : HandlerTurn s.capacity) : Option String :=
  match turn.progress with
  | .inl (.reading (.registerEndpoint _ ip)) => some ip
  | _ => none

/-- A turn that registers nothing.  It may go on to read a registration from an address. -/
structure Calm (t : Server s.capacity) (turn : HandlerTurn s.capacity) (ip : Option String) :
    Prop where
  registry : t.registry.KeepsEndpoints turn.server.registry
  probes : ∀ a entry, turn.server.natProbeByIp a = some entry → t.natProbeByIp a = some entry
  reads : ∀ ip' ∈ turn.reads, ip = some ip'

namespace Calm

variable {t t' : Server s.capacity} {turn : HandlerTurn s.capacity} {ip : Option String}

lemma of_same {stops : List ManagerCall} {progress : Suspended s.capacity ⊕ Ending}
    (hregistry : t'.registry = t.registry) (hprobes : t'.natProbeByIp = t.natProbeByIp)
    (hreads : ∀ ip' ∈ HandlerTurn.reads ⟨t', stops, progress⟩, ip = some ip') :
    Calm t ⟨t', stops, progress⟩ ip where
  registry := hregistry ▸ .refl _
  probes := fun _ _ h => hprobes ▸ h
  reads := hreads

lemma answer (t : Server s.capacity) (status : ℕ) (error : Option String) (ip : Option String) :
    Calm t (t.answer s status error) ip :=
  of_same rfl rfl fun _ h => absurd h (by simp [HandlerTurn.reads])

lemma throw (t : Server s.capacity) (ip : Option String) : Calm t (t.throw s) ip :=
  of_same rfl rfl fun _ h => absurd h (by simp [HandlerTurn.reads])

/-- What was done before has kept the endpoints and the probes. -/
lemma of_before (h : Calm t' turn ip) (hregistry : t.registry.KeepsEndpoints t'.registry)
    (hprobes : ∀ a entry, t'.natProbeByIp a = some entry → t.natProbeByIp a = some entry) :
    Calm t turn ip where
  registry := hregistry.trans h.registry
  probes := fun a entry hentry => hprobes a entry (h.probes a entry hentry)
  reads := h.reads

/-- A room is changed, but its endpoints are not. -/
lemma of_modify {code : Text} {f : RoomRecord → RoomRecord} (h : Calm (t.modify s code f) turn ip)
    (hf : ∀ room, SameParty room (f room)) : Calm t turn ip :=
  h.of_before (Registry.keepsEndpoints_modify hf _ _) fun _ _ hentry => hentry

end Calm

namespace Server

variable (t : Server s.capacity) {code : Text} {ip : Option String}

/-- A look at the probes forgets one at most. -/
lemma lookupNatProbe_keeps (address : String) (now : ℕ) :
    (t.lookupNatProbe s address now).2.registry = t.registry ∧
      ∀ a entry, (t.lookupNatProbe s address now).2.natProbeByIp a = some entry →
        t.natProbeByIp a = some entry := by
  unfold lookupNatProbe
  split
  · exact ⟨rfl, fun _ _ h => h⟩
  · split
    · refine ⟨rfl, fun a entry h => ?_⟩
      by_cases ha : a = address
      · subst ha
        simp at h
      · exact (Function.update_of_ne ha none t.natProbeByIp).symm.trans h
    · exact ⟨rfl, fun _ _ h => h⟩

/-! ### Requests -/

lemma calm_visit (room : RoomRecord) (purpose : Purpose) : Calm t (t.visit s room purpose) ip := by
  unfold visit
  split
  · exact .of_same rfl rfl fun _ h => absurd h (by simp [HandlerTurn.reads])
  · exact .answer t _ _ _

lemma calm_lookLast (room : RoomRecord) (purpose : Purpose) :
    Calm t (t.lookLast s room purpose) ip := by
  unfold lookLast
  split
  · exact .of_same rfl rfl fun _ h => absurd h (by simp [HandlerTurn.reads])
  · exact .answer t _ _ _

lemma calm_visitReply (room : RoomRecord) (purpose : Purpose) (reply : HttpReply)
    (stage : VisitStage) : Calm t (t.visitReply s room purpose reply stage) ip := by
  cases stage with
  | ensuring stage =>
    simp only [visitReply]
    split
    · exact .of_same rfl rfl fun _ h => absurd h (by simp [HandlerTurn.reads])
    · split
      · exact t.calm_lookLast room purpose
      · exact .answer t _ _ _
    · exact .throw t _
  | lookSession => exact t.calm_lookLast room purpose
  | lookGgpo => exact .answer t _ _ _

lemma calm_touch_visit (room : RoomRecord) (now : ℕ) (purpose : Purpose) :
    Calm t ((t.touch s code now).visit s room purpose) ip :=
  ((t.touch s code now).calm_visit room purpose).of_modify fun _ => ⟨rfl, rfl, rfl, rfl⟩

lemma calm_checkRate (req : HttpRequest) (bucket : String) (limit now : ℕ)
    {allowed : Server s.capacity → HandlerTurn s.capacity}
    (hallowed : ∀ t, Calm t (allowed t) ip) :
    Calm t (t.checkRate s req bucket limit now allowed) ip := by
  simp only [checkRate]
  split
  · exact (hallowed _).of_before (.refl _) fun _ _ h => h
  · exact (Calm.answer _ _ _ _).of_before (.refl _) fun _ _ h => h

lemma calm_seen (now : ℕ) (purpose : Purpose) : Calm t (t.seen s code now purpose) ip := by
  unfold seen
  split
  · exact .answer t _ _ _
  · exact t.calm_touch_visit _ now purpose

/-- The body is to be read, and if it is a registration the address is that of its request. -/
lemma calm_reading (route : BodyRoute)
    (hroute : ∀ code ip', route = .registerEndpoint code ip' → ip = some ip') :
    Calm t (t.suspend s (.reading route)) ip := by
  refine .of_same rfl rfl fun ip' h => ?_
  cases route with
  | registerEndpoint code ip'' =>
    obtain rfl := Option.some.inj h
    exact hroute code _ rfl
  | createRoom | events | delete | heartbeat | queueJoin =>
    exact absurd h (by simp [HandlerTurn.reads])

lemma calm_listing (found : Bool) : Calm t (t.listing s found) ip := by
  unfold listing
  split
  · exact .answer t _ _ _
  · exact .answer t _ _ _

lemma calm_roomRequest (req : HttpRequest) (verb : RoomVerb) (now : ℕ) :
    Calm t (t.roomRequest s req verb code now) (some (clientIp s.trustProxy req)) := by
  cases verb with
  | health =>
    simp only [roomRequest]
    split
    · exact .answer t _ _ _
    · exact t.calm_visit _ _
  | connectPlan => exact t.calm_checkRate req _ _ now fun t => t.calm_seen now _
  | lookup => exact t.calm_checkRate req _ _ now fun t => t.calm_seen now _
  | registerEndpoint =>
    refine t.calm_checkRate req _ _ now fun t => t.calm_reading _ fun code ip' hroute => ?_
    rw [(BodyRoute.registerEndpoint.inj hroute).2]
  | events => exact t.calm_checkRate req _ _ now fun t => t.calm_reading _ (by simp)
  | delete => exact t.calm_checkRate req _ _ now fun t => t.calm_reading _ (by simp)
  | heartbeat => exact t.calm_checkRate req _ _ now fun t => t.calm_reading _ (by simp)

lemma calm_dispatch (req : HttpRequest) (url : Url) (now : ℕ) :
    Calm t (t.dispatch s req url now) (some (clientIp s.trustProxy req)) := by
  unfold dispatch
  cases route req.method url.pathname with
  | health => exact .answer t _ _ _
  | «matches» => exact t.calm_listing _
  | matchById matchId => exact t.calm_listing _
  | listRooms => exact t.calm_listing _
  | createRoom => exact t.calm_checkRate req _ _ now fun t => t.calm_reading _ (by simp)
  | room verb code => exact t.calm_roomRequest req verb now
  | queueJoin => exact t.calm_reading _ (by simp)
  | unknown => exact .answer t _ _ _

/-- **The turn that a request begins with.** -/
lemma calm_accept (newUrl : NewUrl) (req : HttpRequest) (now : ℕ) :
    Calm t (t.accept s newUrl req now) (some (clientIp s.trustProxy req)) := by
  have hprune : t.registry.KeepsEndpoints (t.registry.prune s now).1 :=
    .of_subset fun _ hroom => (List.mem_filter.1 hroom).1
  unfold accept
  split
  · exact .answer t _ _ _
  · dsimp only
    split
    · exact ⟨hprune, fun _ _ h => h, fun _ h => absurd h (by simp [HandlerTurn.reads])⟩
    · rename_i url _
      have hcalm := calm_dispatch { t with registry := (t.registry.prune s now).1 } req url now
      exact ⟨hprune.trans hcalm.registry, hcalm.probes, hcalm.reads⟩

/-! ### Bodies -/

lemma calm_creationTurn {queued : Bool} {turn : Turn s.capacity}
    (h : t.registry.KeepsEndpoints turn.registry) : Calm t (t.creationTurn s queued turn) ip where
  registry := h
  probes := fun _ _ h => h
  reads := by
    intro ip' hread
    unfold HandlerTurn.reads creationTurn at hread
    cases hprogress : turn.progress with
    | awaits c => simp [hprogress] at hread
    | done result => simp [hprogress] at hread

lemma calm_create {args : CreateArgs} {draws : Draws} {queued : Bool}
    {turn : HandlerTurn s.capacity} (h : t.create s args draws queued = some turn) :
    Calm t turn ip := by
  obtain ⟨ct, hct, rfl⟩ := Option.map_eq_some_iff.1 h
  exact t.calm_creationTurn (Registry.keepsEndpoints_createRoomRecord hct)

lemma calm_createRoom {body : Value} {draws : Draws} {turn : HandlerTurn s.capacity}
    (h : t.createRoom s body draws = some turn) : Calm t turn ip := by
  unfold createRoom at h
  split at h
  · obtain rfl := Option.some.inj h
    exact .throw t _
  · exact t.calm_create h

lemma calm_postEvent (room : RoomRecord) (eventType : String) (body : Value) (now : ℕ) :
    Calm t (t.postEvent s room eventType body now) ip := by
  have hstart : ∀ room, SameParty room (startBattle room now) := fun room => by
    unfold startBattle
    split
    · exact .refl room
    · exact ⟨rfl, rfl, rfl, rfl⟩
  have hrest : ∀ t : Server s.capacity, ∀ mark : Option Text, Calm t
      ((t.modify s room.code fun room =>
        { room with
          transportActive := if mark.isSome then mark else room.transportActive
          lastSeenAt := now }).answer s 200) ip := fun t mark =>
    (Calm.answer _ _ _ _).of_modify fun _ => ⟨rfl, rfl, rfl, rfl⟩
  unfold postEvent
  dsimp only
  split
  · split
    · exact (Calm.throw _ _).of_modify hstart
    · exact Calm.throw _ _
  · rename_i mark _
    split
    · exact (hrest _ mark).of_modify hstart
    · exact hrest _ mark

lemma calm_events (body : Value) (now : ℕ) : Calm t (t.events s code body now) ip := by
  unfold events
  split
  · exact .answer t _ _ _
  · split
    · exact .throw t _
    · split
      · exact .throw t _
      · split
        · exact .answer t _ _ _
        · split
          · exact .answer t _ _ _
          · exact t.calm_postEvent _ _ body now

lemma calm_asHost (body : Value) {act : RoomRecord → HandlerTurn s.capacity}
    (hact : ∀ room, Calm t (act room) ip) : Calm t (t.asHost s code body act) ip := by
  unfold asHost
  split
  · exact .answer t _ _ _
  · split
    · exact .throw t _
    · split
      · exact hact _
      · exact .answer t _ _ _

lemma calm_queueJoin {body : Value} {draws : Draws} {turn : HandlerTurn s.capacity}
    (h : t.queueJoin s body draws = some turn) : Calm t turn ip := by
  unfold queueJoin at h
  split at h
  · obtain rfl := Option.some.inj h
    exact .answer t _ _ _
  · split at h
    · obtain rfl := Option.some.inj h
      exact .throw t _
    · split at h
      · rename_i a b rest _
        unfold matchPair at h
        split at h
        · exact (calm_create _ h).of_before (.refl _) fun _ _ h => h
        · obtain rfl := Option.some.inj h
          exact (Calm.throw _ _).of_before (.refl _) fun _ _ h => h
      · obtain rfl := Option.some.inj h
        exact (Calm.answer _ _ _ _).of_before (.refl _) fun _ _ h => h

/-- **The turn that reads a body,** if it is not a registration. -/
lemma calm_readBody {route : BodyRoute} {body : Option Value} {draws : Draws}
    {turn : HandlerTurn s.capacity} (h : t.readBody s route body draws = some turn)
    (hroute : ∀ code ip body', route = .registerEndpoint code ip → body ≠ some body') :
    Calm t turn none := by
  cases body with
  | none =>
    obtain rfl := Option.some.inj h
    exact .answer t _ _ _
  | some body =>
    cases route with
    | createRoom => exact t.calm_createRoom h
    | registerEndpoint code ip => exact absurd rfl (hroute code ip body rfl)
    | events code =>
      obtain rfl := Option.some.inj h
      exact t.calm_events body draws.now
    | delete code =>
      obtain rfl := Option.some.inj h
      refine t.calm_asHost body fun room => ⟨.of_subset fun _ hroom => ?_, fun _ _ h => h, ?_⟩
      · exact (List.mem_filter.1 hroom).1
      · exact fun _ h => absurd h (by simp [HandlerTurn.reads])
    | heartbeat code =>
      obtain rfl := Option.some.inj h
      exact t.calm_asHost body fun room => t.calm_touch_visit _ draws.now _
    | queueJoin => exact t.calm_queueJoin h

/-- **The turn that gets an answer of the relay manager.** -/
lemma calm_receive {reply : Option HttpReply} {draws : Draws} {h : Suspended s.capacity}
    {turn : HandlerTurn s.capacity} (hturn : t.receive s reply draws h = some turn) :
    Calm t turn none := by
  cases h with
  | reading route => cases hturn
  | creating c queued =>
    obtain ⟨ct, hct, rfl⟩ := Option.map_eq_some_iff.1 hturn
    exact t.calm_creationTurn (Registry.keepsEndpoints_resume hct)
  | visiting room purpose stage =>
    cases reply with
    | none =>
      obtain rfl := Option.some.inj hturn
      exact .throw t _
    | some reply =>
      obtain rfl := Option.some.inj hturn
      exact t.calm_visitReply room purpose reply stage

end Server

/-! ## Registrations -/

/-- The body asks for an endpoint of a side, and its sender may have it. -/
structure Asks (body : Value) (secret : Text) (role : Role) (e : Endpoint) : Prop where
  side : (Value.textOrEmpty (body.get "role")).bind Role.parse = some role
  port : parseIntOf (body.get "ggpoPort") = some (some (e.ggpoPort : ℤ))
  /-- The host is who knows the secret. -/
  secret : role = .host → CarriesSecret body secret

/-- A probe is not too old at a time. -/
def Recent (s : ServerSettings) (ts now : ℕ) : Prop :=
  ∀ ttl ∈ s.natProbeTtlMs, (now : ℤ) - ts ≤ ttl

/-- The broker has a recent probe from an address, and the address is an endpoint's. -/
def Server.Knows (t : Server s.capacity) (ip : String) (now : ℕ) (e : Endpoint) : Prop :=
  ∃ entry, t.natProbeByIp ip = some entry ∧ entry.probe.observedIp = e.observedPublic ∧
    Recent s entry.ts now

/-- A turn in which a side of a room gets an endpoint. -/
structure Gives (t : Server s.capacity) (turn : HandlerTurn s.capacity) (code : Text)
    (ip : String) (body : Value) (now : ℕ) (role : Role) (e : Endpoint) : Prop where
  registry : turn.server.registry = t.registry.modify code fun room =>
    { room with toRoom := room.setEndpoint role e, lastSeenAt := now }
  asks : ∀ room, t.registry.find? code = some room → Asks body room.hostSecret role e
  knows : t.Knows ip now e
  probes : ∀ a entry, turn.server.natProbeByIp a = some entry → t.natProbeByIp a = some entry
  reads : turn.reads = none

namespace Server

variable (t : Server s.capacity)

lemma knows_of_lookupNatProbe {ip : String} {now port : ℕ} {probe : NatProbe} {natType : String}
    {hport : 1 ≤ port ∧ port ≤ 65535} (h : (t.lookupNatProbe s ip now).1 = some probe) :
    t.Knows ip now (registeredEndpoint port hport probe natType) := by
  unfold lookupNatProbe at h
  split at h
  · exact absurd h (by simp)
  · rename_i entry hentry
    split at h
    · exact absurd h (by simp)
    · rename_i hold
      obtain rfl := Option.some.inj h
      refine ⟨entry, hentry, rfl, fun ttl httl => ?_⟩
      rw [Option.mem_def.1 httl] at hold
      simpa using hold

lemma some_toNat_of_range {port : Option ℤ} (h : 1 ≤ port.getD 0 ∧ port.getD 0 ≤ 65535) :
    port = some ((port.getD 0).toNat : ℤ) := by
  cases port with
  | none => exact absurd h.1 (by decide)
  | some n =>
    have hn : 1 ≤ n := h.1
    exact congrArg some (Int.toNat_of_nonneg (by omega)).symm

/-- **The turn that reads a registration.** -/
lemma registerEndpoint_cases (code : Text) (ip : String) (body : Value) (now : ℕ) :
    Calm t (t.registerEndpoint s code ip body now) none ∨
      ∃ role e, Gives t (t.registerEndpoint s code ip body now) code ip body now role e := by
  unfold registerEndpoint
  split
  · exact .inl (.answer t _ _ _)
  · rename_i room hroom
    split
    · exact .inl (.throw t _)
    · split
      · exact .inl (.throw t _)
      · rename_i text htext
        split
        · exact .inl (.answer t _ _ _)
        · rename_i role hrole
          unfold registerRole
          split
          · exact .inl (.answer t _ _ _)
          · rename_i hsecret
            split
            · exact .inl (.throw t _)
            · rename_i port hport
              unfold registerPort
              split
              · rename_i hrange
                obtain ⟨hreg, hprobes⟩ := t.lookupNatProbe_keeps ip now
                dsimp only
                split
                · exact .inl ((Calm.answer _ _ _ _).of_before (hreg ▸ .refl _) hprobes)
                · rename_i probe hprobe
                  split
                  · exact .inl ((Calm.throw _ _).of_before (hreg ▸ .refl _) hprobes)
                  · rename_i natType _
                    refine .inr ⟨role,
                      registeredEndpoint (port.getD 0).toNat (toNat_port hrange) probe natType,
                      ?_, fun room' hroom' => ⟨?_, ?_, fun hhost => ?_⟩,
                      t.knows_of_lookupNatProbe hprobe, hprobes, rfl⟩
                    · rw [← hreg, (Registry.find?_some hroom).2]
                      rfl
                    · rw [htext, Option.bind_some, hrole]
                    · rw [hport]
                      exact congrArg some (some_toNat_of_range hrange)
                    · obtain rfl := Option.some.inj (hroom.symm.trans hroom')
                      exact carriesSecret_of_verifyHostSecret (by simpa [hhost] using hsecret)
              · exact .inl (.answer t _ _ _)

end Server

/-! ## Runs -/

/-- The request with a number has come from an address. -/
def Requested (log : List (ServerEntry s)) (id : ℕ) (ip : String) : Prop :=
  ∃ q ∈ log, ∃ req now, q.act = .request req now ∧ q.pre.jobs.count = id ∧
    clientIp s.trustProxy req = ip

lemma Requested.cons {log : List (ServerEntry s)} {id : ℕ} {ip : String} (h : Requested log id ip)
    (entry : ServerEntry s) : Requested (entry :: log) id ip :=
  h.imp fun _ hq => ⟨List.mem_cons_of_mem _ hq.1, hq.2⟩

/-- A step that registers an endpoint for somebody at an address, and what came before it: the
request of the registration, and a recent probe. -/
structure Registers (older : List (ServerEntry s)) (entry : ServerEntry s) (code secret : Text)
    (role : Role) (e : Endpoint) (ip : String) (now : ℕ) : Prop where
  body : ∃ id body draws, entry.act = .body id (some body) draws ∧ draws.now = now ∧
    entry.pre.jobs.at? id = some (.reading (.registerEndpoint code ip)) ∧
    Asks body secret role e ∧ Requested older id ip
  probe : ∃ p ∈ older, ∃ probe ts, p.act = .probe ip probe ts ∧
    probe.observedIp = e.observedPublic ∧ Recent s ts now

/-- An endpoint goes back to a registration. -/
def Traced (log : List (ServerEntry s)) (code secret : Text) (role : Role) (e : Endpoint)
    (ip : String) : Prop :=
  ∃ newer entry older now, log = newer ++ entry :: older ∧
    Registers older entry code secret role e ip now

lemma Traced.cons {log : List (ServerEntry s)} {code secret : Text} {role : Role} {e : Endpoint}
    {ip : String} (h : Traced log code secret role e ip) (entry : ServerEntry s) :
    Traced (entry :: log) code secret role e ip := by
  obtain ⟨newer, entry', older, now, rfl, h⟩ := h
  exact ⟨entry :: newer, entry', older, now, rfl, h⟩

/-- **Invariant.** Every endpoint goes back to a registration, every probe was received, and every
registration that is being read has been requested from its address. -/
structure EndpointsTraced (log : List (ServerEntry s)) (t : Server s.capacity) : Prop where
  endpoints : ∀ room ∈ t.registry.rooms, ∀ role e, room.endpoint role = some e →
    ∃ ip, Traced log room.code room.hostSecret role e ip
  probes : ∀ ip entry, t.natProbeByIp ip = some entry →
    ∃ p ∈ log, p.act = .probe ip entry.probe entry.ts
  reading : ∀ id code ip, t.jobs.at? id = some (.reading (.registerEndpoint code ip)) →
    Requested log id ip

namespace EndpointsTraced

variable {log : List (ServerEntry s)} {t : Server s.capacity} {turn : HandlerTurn s.capacity}
  {id : ℕ} {ip : Option String}

/-- What is kept from a step to the next one. -/
lemma cons (h : EndpointsTraced log t) (entry : ServerEntry s) :
    EndpointsTraced (entry :: log) t where
  endpoints := fun room hroom role e he =>
    (h.endpoints room hroom role e he).imp fun _ ht => ht.cons entry
  probes := fun ip e he =>
    (h.probes ip e he).imp fun _ hp => ⟨List.mem_cons_of_mem _ hp.1, hp.2⟩
  reading := fun id code ip hat => (h.reading id code ip hat).cons entry

/-- The handlers at work after a turn. -/
lemma reading_settle (h : EndpointsTraced log t) (hjobs : turn.server.jobs = t.jobs)
    (hreads : ∀ ip ∈ turn.reads, Requested log id ip) {id' : ℕ} {code : Text} {ip : String}
    (hat : (turn.server.jobs.settle id turn.progress).at? id' =
      some (.reading (.registerEndpoint code ip))) : Requested log id' ip := by
  by_cases hid : id' = id
  · subst hid
    rw [Jobs.at?_settle_self] at hat
    refine hreads ip ?_
    unfold HandlerTurn.reads
    cases hprogress : turn.progress with
    | inl b =>
      rw [hprogress] at hat
      obtain rfl : b = _ := Option.some.inj hat
      rfl
    | inr ending =>
      rw [hprogress] at hat
      exact absurd hat (by simp)
  · rw [Jobs.at?_settle_of_ne _ hid, hjobs] at hat
    exact h.reading id' code ip hat

/-- A turn that registers nothing. -/
lemma calm (h : EndpointsTraced log t) (hcalm : Calm t turn ip) (hjobs : turn.server.jobs = t.jobs)
    (hip : ∀ ip' ∈ ip, Requested log id ip') :
    EndpointsTraced log (Server.settle id turn).2 where
  endpoints := by
    intro room' hroom' role e he
    rcases hcalm.registry room' hroom' with ⟨room, hroom, hsame⟩ | hnone
    · rw [hsame.endpoint] at he
      rw [hsame.code, hsame.hostSecret]
      exact h.endpoints room hroom role e he
    · rw [hnone role] at he
      exact absurd he (by simp)
  probes := fun ip entry hentry => h.probes ip entry (hcalm.probes ip entry hentry)
  reading := fun _ _ _ hat =>
    h.reading_settle hjobs (fun ip' hip' => hip ip' (hcalm.reads ip' hip')) hat

/-- A registration. -/
lemma gives (h : EndpointsTraced log t) (hcodes : t.registry.codes.Nodup)
    (hjobs : turn.server.jobs = t.jobs) {entry : ServerEntry s} {body : Value} {draws : Draws}
    {code : Text} {ip : String} {role : Role} {e : Endpoint} (hpre : entry.pre = t)
    (hact : entry.act = .body id (some body) draws)
    (hat : t.jobs.at? id = some (.reading (.registerEndpoint code ip)))
    (hgives : Gives t turn code ip body draws.now role e) :
    EndpointsTraced (entry :: log) (Server.settle id turn).2 where
  endpoints := by
    intro room' hroom' role' e' he'
    rw [Server.settle, hgives.registry] at hroom'
    obtain ⟨room, hroom, rfl⟩ := List.mem_map.1 hroom'
    by_cases hcode : room.code = code
    · subst hcode
      rw [if_pos rfl] at he' ⊢
      have hsecret : (room.setEndpoint role e).hostSecret = room.hostSecret := by
        cases role <;> rfl
      show ∃ ip, Traced _ room.code (room.setEndpoint role e).hostSecret role' e' ip
      rw [hsecret]
      by_cases hrole : role' = role
      · -- the endpoint that is given
        subst hrole
        obtain rfl : e = e' := by cases role' <;> exact Option.some.inj he'
        obtain ⟨probed, hentry, haddress, hrecent⟩ := hgives.knows
        obtain ⟨p, hp, hpact⟩ := h.probes ip probed hentry
        have hasks := hgives.asks room (Registry.find?_of_mem hcodes hroom)
        exact ⟨ip, [], entry, log, draws.now, rfl,
          ⟨⟨id, body, draws, hact, rfl, hpre ▸ hat, hasks, h.reading id _ ip hat⟩,
            ⟨p, hp, _, _, hpact, haddress, hrecent⟩⟩⟩
      · -- the other side's
        have hother : room.endpoint role' = some e' := by
          cases role <;> cases role' <;> first | exact absurd rfl hrole | exact he'
        exact (h.cons entry).endpoints room hroom role' e' hother
    · rw [if_neg hcode] at he' ⊢
      exact (h.cons entry).endpoints room hroom role' e' he'
  probes := fun a e' he' => (h.cons entry).probes a e' (hgives.probes a e' he')
  reading := fun _ _ _ hat' =>
    (h.cons entry).reading_settle hjobs (by simp [hgives.reads]) hat'

/-- A probe comes in. -/
lemma probe (h : EndpointsTraced log t) {entry : ServerEntry s} {address : String}
    {probe : NatProbe} {now : ℕ} (hact : entry.act = .probe address probe now)
    (rateBuckets : RateBuckets) :
    EndpointsTraced (entry :: log) { t with
      rateBuckets := rateBuckets
      natProbeByIp := Function.update t.natProbeByIp address (some ⟨probe, now⟩) } where
  endpoints := (h.cons entry).endpoints
  probes := by
    intro ip e he
    by_cases hip : ip = address
    · subst hip
      obtain rfl := Option.some.inj ((Function.update_self ip _ _).symm.trans he)
      exact ⟨entry, List.mem_cons_self, hact⟩
    · exact (h.cons entry).probes ip e ((Function.update_of_ne hip _ _).symm.trans he)
  reading := (h.cons entry).reading

end EndpointsTraced

/-- **Step lemma for the endpoints.** -/
lemma EndpointsTraced.step {newUrl : NewUrl} {log : List (ServerEntry s)} {entry : ServerEntry s}
    (h : EndpointsTraced log entry.pre) (hsound : entry.pre.Sound)
    (hs : (serverLTS s newUrl).Steps entry) : EndpointsTraced (entry :: log) entry.post := by
  obtain ⟨t, act, out, t'⟩ := entry
  have hnext : t.next s newUrl act = some (out, t') := hs
  have hcons := h.cons ⟨t, act, out, t'⟩
  cases act with
  | request req now =>
    obtain rfl := (Prod.mk.inj (Option.some.inj hnext)).2
    have hjobs : (({ t with jobs := t.jobs.draw } : Server s.capacity).accept s newUrl req
        now).server.jobs = t.jobs.draw := by
      obtain ⟨turn, heffect, -, hturn⟩ :=
        Server.accept_eq { t with jobs := t.jobs.draw } newUrl req now
      rw [hturn]
      exact heffect.jobs.trans (Server.jobs_pruned _)
    have hdraw : EndpointsTraced (⟨t, .request req now, out, _⟩ :: log)
        { t with jobs := t.jobs.draw } := ⟨hcons.endpoints, hcons.probes, hcons.reading⟩
    exact hdraw.calm (Server.calm_accept _ newUrl req now) hjobs fun ip hip =>
      ⟨_, List.mem_cons_self, req, now, rfl, rfl, Option.some.inj hip⟩
  | body id body draws =>
    simp only [Server.next] at hnext
    split at hnext
    · rename_i route hat
      obtain ⟨turn, hturn, heq⟩ := Option.map_eq_some_iff.1 hnext
      obtain rfl := (congrArg Prod.snd heq).symm
      have hjobs : turn.server.jobs = t.jobs := (Server.effect_readBody hturn).jobs
      by_cases hroute : ∃ code ip body', route = .registerEndpoint code ip ∧ body = some body'
      · obtain ⟨code, ip, body, rfl, rfl⟩ := hroute
        obtain rfl := Option.some.inj hturn
        rcases t.registerEndpoint_cases code ip body draws.now with hcalm | ⟨role, e, hgives⟩
        · exact hcons.calm hcalm hjobs (by simp)
        · exact h.gives hsound.codes hjobs rfl rfl hat hgives
      · refine hcons.calm (t.calm_readBody hturn fun code ip body' hr hb => ?_) hjobs (by simp)
        exact hroute ⟨code, ip, body', hr, hb⟩
    · exact absurd hnext (by simp)
  | reply id reply draws =>
    obtain ⟨hd, hat, hmap⟩ := Option.bind_eq_some_iff.1 hnext
    obtain ⟨turn, hturn, heq⟩ := Option.map_eq_some_iff.1 hmap
    obtain rfl := (congrArg Prod.snd heq).symm
    exact hcons.calm (t.calm_receive hturn) (Server.effect_receive hturn).jobs (by simp)
  | prune now =>
    obtain rfl := (Prod.mk.inj (Option.some.inj hnext)).2
    exact ⟨fun room hroom => hcons.endpoints room (List.mem_filter.1 hroom).1, hcons.probes,
      hcons.reading⟩
  | cleanRates now =>
    obtain rfl := (Prod.mk.inj (Option.some.inj hnext)).2
    exact ⟨hcons.endpoints, hcons.probes, hcons.reading⟩
  | probe address probe now =>
    have hpost := (Prod.mk.inj (Option.some.inj hnext)).2
    split at hpost
    · subst hpost
      exact h.probe rfl _
    · subst hpost
      exact ⟨hcons.endpoints, hcons.probes, hcons.reading⟩

lemma endpointsTraced_of_run {newUrl : NewUrl} {log : List (ServerEntry s)}
    {t : Server s.capacity} (h : (serverLTS s newUrl).Run log t) : EndpointsTraced log t := by
  have hinv := h.invariant_of_step (fun log t => t.Sound ∧ EndpointsTraced log t) ?_
    fun log e hi hs => ⟨hi.1.step (Server.step_of_next hs), hi.2.step hi.1 hs⟩
  · exact hinv.2
  · rintro _ rfl
    exact ⟨Server.sound_empty, ⟨fun _ hroom => absurd hroom List.not_mem_nil,
      fun _ _ hentry => absurd hentry (by simp), fun _ _ _ hat => absurd hat (by simp [Jobs.at?])⟩⟩

/-! ## Peers -/

/-- A probe has come from the address that is noted for it: `observedIp` is `rinfo.address`. -/
def ServerAction.genuine : ServerAction → Bool
  | .probe address noted _ => noted.observedIp == utf8 address
  | .request .. | .body .. | .reply .. | .prune _ | .cleanRates _ => true

/-- The peer of a plan is an endpoint of the room. -/
lemma exists_endpoint_of_peerHost {config : Config} {room : Room} {role : String}
    {includeSecrets : Bool} {address : Text}
    (h : ("peerHost", .str address) ∈ buildConnectPlan config room role includeSecrets) :
    ∃ side e, room.endpoint side = some e ∧ e.observedPublic = address := by
  have hbase : ∀ rest : Object, ("peerHost", Json.str address) ∉ rest →
      ("peerHost", Json.str address) ∉ planBase config room includeSecrets ++ rest := by
    intro rest hrest hmem
    rcases List.mem_append.1 hmem with hmem | hmem
    · unfold planBase at hmem
      cases includeSecrets <;> simp at hmem
    · exact hrest hmem
  have hrelay : ("peerHost", Json.str address) ∉ udpRelayPlan config room includeSecrets :=
    hbase _ (by simp)
  unfold buildConnectPlan at h
  split at h
  · exact absurd h (hbase _ (by simp))
  · split at h
    · split at h
      · rename_i peer hpeer
        split at h
        · have haddress : address = peer.observedPublic := by
            by_contra hne
            exact hbase _ (by simp [hne]) h
          unfold peerEndpoint at hpeer
          split at hpeer
          · exact ⟨.guest, peer, hpeer, haddress.symm⟩
          · exact ⟨.host, peer, hpeer, haddress.symm⟩
        · exact absurd h hrelay
      · exact absurd h hrelay
    · exact absurd h hrelay

/-- A side of the room registers, as request number `id`. -/
def registerFrom (id : ℕ) (address role : String) (probe : NatProbe) (draws : Draws) :
    List ServerAction :=
  [.probe address probe 1,
    .request ⟨"POST", "/v1/rooms/SF4-1111111111111111/register-endpoint", some address, none⟩ 2,
    .body id (some (.obj [("role", .str role), ("ggpoPort", .int 7000),
      ("natType", .str "full_cone"), ("hostSecret", .str (.ofList (.replicate 64 '1')))]))
      draws]

/-- A room in which both sides have registered, each from its address. -/
def registerBoth (opened registered : Draws) : List ServerAction :=
  openRoom opened ++
    registerFrom 1 "198.51.100.1" "host" ⟨utf8 "198.51.100.1", 7000, by decide +kernel⟩
      registered ++
    registerFrom 2 "203.0.113.2" "guest" ⟨utf8 "203.0.113.2", 7000, by decide +kernel⟩ registered

end Broker
end Sf4e
