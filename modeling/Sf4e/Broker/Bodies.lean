/-
# Every answer of the broker says what it is

An answer has a body, but for that to a preflight request.  The body of an error names the error,
and no other body does.  A handler may wait several times before it answers, and other handlers
have their turns in between; yet a success that is about a room names the room that was asked for.
-/
import Sf4e.Broker.Answers
import Sf4e.Broker.Secrecy

namespace Sf4e
namespace Broker

open Wire Trace

variable {s : ServerSettings}

/-! ## Bodies -/

/-- The body of an answer says how the request has gone, and for a success which room it is
about. -/
def Tells (s : ServerSettings) (error : Option String) (code : Option Text)
    (reply : AnswerBody) : Prop :=
  ∃ members, reply.body s = some members ∧ members.lookup "error" = error.map Value.str ∧
    (error = none → ∀ c, code = some c → members.lookup "code" = some (.text c))

lemma tells_failure (error : String) (message : Value) (code : Option Text) :
    Tells s (some error) code (failure error message) :=
  ⟨_, rfl, List.lookup_cons_self, fun h => by cases h⟩

lemma tells_bodyFailure (natProbePort : ℕ) (route : BodyRoute) (body : Value) (error : String)
    (code : Option Text) :
    Tells s (some error) code (bodyFailure natProbePort route body error) := by
  unfold bodyFailure
  split <;> exact ⟨_, rfl, List.lookup_cons_self, fun h => by cases h⟩

/-- A success that is about no room. -/
lemma tells_success {reply : AnswerBody} {members : Members} (hbody : reply.body s = some members)
    (herror : members.lookup "error" = none) : Tells s none none reply :=
  ⟨members, hbody, herror, fun _ _ h => by cases h⟩

/-- A success about a room. -/
lemma tells_room {reply : AnswerBody} {members : Members} {code : Text}
    (hbody : reply.body s = some members) (herror : members.lookup "error" = none)
    (hcode : members.lookup "code" = some (.text code)) : Tells s none (some code) reply := by
  refine ⟨members, hbody, herror, fun _ c hc => ?_⟩
  obtain rfl := Option.some.inj hc
  exact hcode

lemma lookup_members (o : Object) (key : String) :
    o.members.lookup key = (o.lookup key).map Json.toValue := by
  induction o with
  | nil => rfl
  | cons m o ih =>
    obtain ⟨k, j⟩ := m
    show List.lookup key ((k, j.toValue) :: Object.members o) = _
    rw [List.lookup_cons, List.lookup_cons, ih]
    cases key == k <;> rfl

lemma lookup_buildConnectPlan_error (config : Config) (room : Room) (role : String) (b : Bool) :
    (buildConnectPlan config room role b).lookup "error" = none := by
  have hbase : (planBase config room b).lookup "error" = none := by
    cases b <;> simp [planBase, List.lookup_cons]
  rw [buildConnectPlan_eq, List.lookup_append, hbase]
  unfold planRest
  split <;> simp [List.lookup_cons]

lemma tells_plan (relay : RelayHealth) (room : RoomRecord) (role : String) :
    Tells s none (some room.code) (.plan relay room role) := by
  refine tells_room rfl ?_ ?_
  · rw [lookup_members]
    unfold getConnectPlan
    dsimp only
    rw [List.lookup_append, lookup_buildConnectPlan_error]
    simp [List.lookup_cons]
  · rw [lookup_members]
    unfold getConnectPlan
    simp [List.lookup_cons, Json.toValue]

lemma tells_registered (room : RoomRecord) (role : Role) :
    Tells s none (some room.code) (.registered room role) := by
  refine tells_room rfl ?_ ?_ <;> simp [List.lookup_cons]

lemma tells_lookup (room : RoomRecord) (relay : Health) (ggpo : Option Health) :
    Tells s none (some room.code) (.json (lookupFields s room relay ggpo)) := by
  refine tells_room rfl ?_ ?_ <;> simp [lookupFields, publicRoomFields, List.lookup_cons]

lemma tells_health (room : RoomRecord) (relay : EnsureResult) (ggpo : Option Health) :
    Tells s none (some room.code) (.json (healthFields room relay ggpo)) := by
  refine tells_room rfl ?_ ?_ <;> simp [healthFields, List.lookup_cons]

lemma tells_heartbeat (room : RoomRecord) (relay : EnsureResult) :
    Tells s none (some room.code) (.json (heartbeatFields room relay)) := by
  refine tells_room rfl ?_ ?_ <;> simp [heartbeatFields, List.lookup_cons]

lemma tells_creation {queued : Bool} {result : Created} {status : ℕ} {error : Option String}
    (h : Server.creationEnding queued result = .answered ⟨status, error⟩) :
    Tells s error none (creationReply queued result) := by
  cases result with
  | created room =>
    obtain ⟨-, rfl⟩ := Answer.mk.inj (Ending.answered.inj h)
    cases queued
    · exact tells_success rfl (by simp [createdFields, List.lookup_cons])
    · exact tells_success rfl (by simp [matchedFields, List.lookup_cons])
  | thrown => cases h
  | full | invalidHash | relayStartFailed =>
    obtain ⟨-, rfl⟩ := Answer.mk.inj (Ending.answered.inj h)
    exact tells_failure _ _ _

/-! ## Turns -/

/-- The code of the room that a body is about. -/
def BodyRoute.code : BodyRoute → Option Text
  | .registerEndpoint code _ | .events code | .delete code | .heartbeat code => some code
  | .createRoom | .queueJoin => none

/-- The code of the room that a handler is asked about. -/
def Suspended.code {config : CapacityConfig} : Suspended config → Option Text
  | .reading route => route.code
  | .creating _ _ => none
  | .visiting room _ _ => some room.code

/-- A turn of a handler that is asked about a room: if it waits it still is, and if it succeeds the
room has been there. -/
structure IsAbout (t : Server s.capacity) (turn : HandlerTurn s.capacity) (code : Text) :
    Prop where
  waits : ∀ h, turn.progress = .inl h → h.code = some code
  found : ∀ status, turn.progress = .inr (.answered ⟨status, none⟩) →
    (t.registry.find? code).isSome

namespace Server

variable (t : Server s.capacity) {t' : Server s.capacity} {code : Text}

/-! ### Requests -/

lemma isAbout_error (status : ℕ) (error : String) :
    IsAbout t (t'.answer s status (some error)) code :=
  ⟨fun _ h => (by cases h), fun _ h => (by cases h)⟩

lemma isAbout_throw : IsAbout t (t'.throw s) code :=
  ⟨fun _ h => (by cases h), fun _ h => (by cases h)⟩

lemma isAbout_success (hfound : (t.registry.find? code).isSome) (status : ℕ) :
    IsAbout t (t'.answer s status) code :=
  ⟨fun _ h => (by cases h), fun _ _ => hfound⟩

lemma isAbout_suspend {h : Suspended s.capacity} (hcode : h.code = some code) :
    IsAbout t (t'.suspend s h) code := by
  refine ⟨fun h' hprogress => ?_, fun _ hprogress => by cases hprogress⟩
  obtain rfl := Sum.inl.inj hprogress
  exact hcode

lemma isAbout_visit {room : RoomRecord} (hcode : room.code = code)
    (hfound : (t.registry.find? code).isSome) (purpose : Purpose) :
    IsAbout t (t'.visit s room purpose) code := by
  unfold visit
  split
  · exact t.isAbout_suspend (congrArg some hcode)
  · exact t.isAbout_success hfound 200

lemma isAbout_checkRate (req : HttpRequest) (bucket : String) (limit now : ℕ)
    {allowed : Server s.capacity → HandlerTurn s.capacity}
    (h : ∀ t', t'.registry = t.registry → IsAbout t (allowed t') code) :
    IsAbout t (t.checkRate s req bucket limit now allowed) code := by
  unfold checkRate
  dsimp only
  split
  · exact h _ rfl
  · exact t.isAbout_error _ _

lemma isAbout_seen (ht' : t'.registry = t.registry) (now : ℕ) (purpose : Purpose) :
    IsAbout t (t'.seen s code now purpose) code := by
  unfold seen
  rw [ht']
  cases hfind : t.registry.find? code with
  | none => exact t.isAbout_error _ _
  | some room =>
    dsimp only
    refine t.isAbout_visit ?_ (Option.isSome_of_eq_some hfind) purpose
    exact (Registry.find?_some hfind).2

lemma isAbout_roomRequest (req : HttpRequest) (verb : RoomVerb) (now : ℕ) :
    IsAbout t (t.roomRequest s req verb code now) code := by
  unfold roomRequest
  cases verb with
  | connectPlan => exact t.isAbout_checkRate _ _ _ _ fun t' ht' => t.isAbout_seen ht' now .ensure
  | lookup => exact t.isAbout_checkRate _ _ _ _ fun t' ht' => t.isAbout_seen ht' now .lookup
  | health =>
    dsimp only
    cases hfind : t.registry.find? code with
    | none => exact t.isAbout_error _ _
    | some room =>
      exact t.isAbout_visit (Registry.find?_some hfind).2 (Option.isSome_of_eq_some hfind) .health
  | registerEndpoint | events | delete | heartbeat =>
    exact t.isAbout_checkRate _ _ _ _ fun t' _ => t.isAbout_suspend rfl

/-! ### Bodies -/

lemma isAbout_registerPort (hfound : (t.registry.find? code).isSome) (room : RoomRecord)
    (role : Role) (ip : String) (body : Value) (now : ℕ) (port : Option ℤ) :
    IsAbout t (t.registerPort s room role ip body now port) code := by
  unfold registerPort
  split
  · dsimp only
    split
    · exact t.isAbout_error _ _
    · split
      · exact t.isAbout_throw
      · exact t.isAbout_success hfound 200
  · exact t.isAbout_error _ _

lemma isAbout_registerEndpoint (ip : String) (body : Value) (now : ℕ) :
    IsAbout t (t.registerEndpoint s code ip body now) code := by
  unfold registerEndpoint
  cases hfind : t.registry.find? code with
  | none => exact t.isAbout_error _ _
  | some room =>
    have hfound := Option.isSome_of_eq_some hfind
    dsimp only
    split
    · exact t.isAbout_throw
    · split
      · exact t.isAbout_throw
      · split
        · exact t.isAbout_error _ _
        · unfold registerRole
          split
          · exact t.isAbout_error _ _
          · split
            · exact t.isAbout_throw
            · exact t.isAbout_registerPort hfound _ _ _ _ _ _

lemma isAbout_events (body : Value) (now : ℕ) : IsAbout t (t.events s code body now) code := by
  unfold events
  cases hfind : t.registry.find? code with
  | none => exact t.isAbout_error _ _
  | some room =>
    have hfound := Option.isSome_of_eq_some hfind
    dsimp only
    split
    · exact t.isAbout_throw
    · split
      · exact t.isAbout_throw
      · split
        · exact t.isAbout_error _ _
        · split
          · exact t.isAbout_error _ _
          · unfold postEvent
            dsimp only
            split
            · exact t.isAbout_throw
            · exact t.isAbout_success hfound 200

lemma isAbout_asHost (body : Value) {act : RoomRecord → HandlerTurn s.capacity}
    (h : ∀ room, t.registry.find? code = some room → IsAbout t (act room) code) :
    IsAbout t (t.asHost s code body act) code := by
  unfold asHost
  cases hfind : t.registry.find? code with
  | none => exact t.isAbout_error _ _
  | some room =>
    dsimp only
    split
    · exact t.isAbout_throw
    · split
      · exact h room hfind
      · exact t.isAbout_error _ _

lemma isAbout_delete (body : Value) : IsAbout t (t.delete s code body) code := by
  refine t.isAbout_asHost body fun room hfind => ?_
  exact ⟨fun _ h => (by cases h), fun _ _ => Option.isSome_of_eq_some hfind⟩

lemma isAbout_heartbeat (body : Value) (now : ℕ) :
    IsAbout t (t.heartbeat s code body now) code := by
  refine t.isAbout_asHost body fun room hfind => ?_
  refine t.isAbout_visit ?_ (Option.isSome_of_eq_some hfind) .ensure
  exact (Registry.find?_some hfind).2

/-- A body that is about a room. -/
lemma isAbout_readBody {route : BodyRoute} {body : Option Value} {draws : Draws}
    {turn : HandlerTurn s.capacity} (h : t.readBody s route body draws = some turn)
    (hcode : route.code = some code) : IsAbout t turn code := by
  cases body with
  | none =>
    obtain rfl := Option.some.inj h
    exact t.isAbout_error _ _
  | some body =>
    cases route with
    | registerEndpoint code' ip =>
      obtain rfl := Option.some.inj hcode
      obtain rfl := Option.some.inj h
      exact t.isAbout_registerEndpoint ip body draws.now
    | events code' =>
      obtain rfl := Option.some.inj hcode
      obtain rfl := Option.some.inj h
      exact t.isAbout_events body draws.now
    | delete code' =>
      obtain rfl := Option.some.inj hcode
      obtain rfl := Option.some.inj h
      exact t.isAbout_delete body
    | heartbeat code' =>
      obtain rfl := Option.some.inj hcode
      obtain rfl := Option.some.inj h
      exact t.isAbout_heartbeat body draws.now
    | createRoom | queueJoin => cases hcode

/-! ### Creations -/

/-- A turn of a call of `createRoomRecord` that is over ends its handler. -/
lemma ending_of_creationTurn {queued : Bool} {ct : Turn s.capacity} {ending : Ending}
    (h : (t'.creationTurn s queued ct).progress = .inr ending) :
    ∃ result, ct.progress.result = some result ∧ ending = creationEnding queued result := by
  obtain ⟨registry, stops, progress⟩ := ct
  cases progress with
  | awaits c => cases h
  | done result => exact ⟨result, rfl, (Sum.inr.inj h).symm⟩

lemma code_of_creationTurn {queued : Bool} {ct : Turn s.capacity} {h : Suspended s.capacity}
    (hprogress : (t'.creationTurn s queued ct).progress = .inl h) : h.code = none := by
  obtain ⟨registry, stops, progress⟩ := ct
  cases progress with
  | awaits c =>
    obtain rfl := Sum.inl.inj hprogress
    rfl
  | done result => cases hprogress

lemma creationResult_of_creating {a : ServerAction} {queued : Bool} {ct : Turn s.capacity}
    {result : Created} (h : t.creating s a = some (queued, ct))
    (hresult : ct.progress.result = some result) :
    t.creationResult s a = some (queued, result) := by
  unfold creationResult
  rw [h, Option.bind_some, hresult]
  rfl

/-- A body that asks for a room ends its handler with a creation, or it throws. -/
lemma createRoom_throws {id : ℕ} {body : Value} {draws : Draws} {turn : HandlerTurn s.capacity}
    (hat : t.jobs.at? id = some (.reading .createRoom))
    (hturn : t.createRoom s body draws = some turn) {ending : Ending}
    (hprogress : turn.progress = .inr ending)
    (hnone : t.creationResult s (.body id (some body) draws) = none) : ending = .thrown := by
  unfold createRoom at hturn
  cases hargs : createArgs s body with
  | none =>
    rw [hargs] at hturn
    obtain rfl := Option.some.inj hturn
    exact (Sum.inr.inj hprogress).symm
  | some args =>
    rw [hargs] at hturn
    obtain ⟨ct, hct, rfl⟩ := Option.map_eq_some_iff.1 hturn
    have hcreating : t.creating s (.body id (some body) draws) = some (false, ct) := by
      simp only [creating, hat, hargs, Option.bind_some, hct, Option.map_some]
    obtain ⟨result, hresult, -⟩ := ending_of_creationTurn hprogress
    rw [t.creationResult_of_creating hcreating hresult] at hnone
    cases hnone

/-- The client that completes a pair gets a room. -/
lemma queueJoin_of_queueArgs {body : Value} {args : CreateArgs}
    (h : t.queueArgs s body = some args) (draws : Draws) :
    ∃ queue, t.queueJoin s body draws = create s { t with queue := queue } args draws true := by
  unfold queueArgs at h
  unfold queueJoin
  split at h
  · cases h
  · rename_i hopen
    rw [Bool.or_eq_true, not_or] at hopen
    rw [if_neg hopen.1, if_neg hopen.2]
    cases hqueue : t.queue ++ [Value.orElse (body.get "displayName") (.str "Player")] with
    | nil =>
      rw [hqueue] at h
      cases h
    | cons a rest =>
      cases rest with
      | nil =>
        rw [hqueue] at h
        cases h
      | cons b rest =>
        rw [hqueue] at h
        obtain ⟨hash, hhash, h⟩ := Option.bind_eq_some_iff.1 h
        obtain ⟨a', ha, h⟩ := Option.bind_eq_some_iff.1 h
        obtain ⟨b', hb, h⟩ := Option.bind_eq_some_iff.1 h
        obtain rfl := Option.some.inj h
        refine ⟨rest, ?_⟩
        show matchPair s { t with queue := rest } a b body draws = _
        unfold matchPair
        rw [hhash, ha, hb]

/-- A body that makes a room is read by a call of `createRoomRecord`. -/
lemma turn_of_creating_body {id : ℕ} {route : BodyRoute} {body : Value} {draws : Draws}
    {turn : HandlerTurn s.capacity} (hat : t.jobs.at? id = some (.reading route))
    (hturn : t.readBody s route (some body) draws = some turn) {queued : Bool}
    {ct : Turn s.capacity} (h : t.creating s (.body id (some body) draws) = some (queued, ct)) :
    ∃ t' : Server s.capacity, turn = t'.creationTurn s queued ct := by
  unfold creating at h
  dsimp only at h
  rw [hat] at h
  cases route with
  | createRoom =>
    obtain ⟨args, hargs, hmap⟩ := Option.bind_eq_some_iff.1 h
    obtain ⟨ct', hct, heq⟩ := Option.map_eq_some_iff.1 hmap
    obtain ⟨rfl, rfl⟩ := Prod.mk.inj heq
    have hcreate : t.createRoom s body draws = some (t.creationTurn s false ct') := by
      unfold createRoom create
      rw [hargs]
      dsimp only
      rw [hct]
      rfl
    exact ⟨t, Option.some.inj (hturn.symm.trans hcreate)⟩
  | queueJoin =>
    obtain ⟨args, hargs, hmap⟩ := Option.bind_eq_some_iff.1 h
    obtain ⟨ct', hct, heq⟩ := Option.map_eq_some_iff.1 hmap
    obtain ⟨rfl, rfl⟩ := Prod.mk.inj heq
    obtain ⟨queue, hqueue⟩ := t.queueJoin_of_queueArgs hargs draws
    have hcreate : t.queueJoin s body draws =
        some (creationTurn s { t with queue := queue } true ct') := by
      rw [hqueue]
      unfold create
      dsimp only
      rw [hct]
      rfl
    exact ⟨_, Option.some.inj (hturn.symm.trans hcreate)⟩
  | registerEndpoint | events | delete | heartbeat => cases h

lemma code_of_creating_body {id : ℕ} {route : BodyRoute} {body : Option Value} {draws : Draws}
    (hat : t.jobs.at? id = some (.reading route)) {result : Bool × Turn s.capacity}
    (h : t.creating s (.body id body draws) = some result) : route.code = none := by
  cases body with
  | none => cases h
  | some body =>
    unfold creating at h
    dsimp only at h
    rw [hat] at h
    cases route with
    | createRoom | queueJoin => rfl
    | registerEndpoint | events | delete | heartbeat => cases h

/-- The end of a handler whose step makes a room, or is to make one. -/
lemma ending_of_creationResult {a : ServerAction} {turn : HandlerTurn s.capacity}
    (hturn : ∀ queued ct, t.creating s a = some (queued, ct) →
      ∃ t' : Server s.capacity, turn = t'.creationTurn s queued ct)
    {ending : Ending} (hprogress : turn.progress = .inr ending) {queued : Bool} {result : Created}
    (h : t.creationResult s a = some (queued, result)) :
    ending = creationEnding queued result := by
  obtain ⟨⟨queued', ct⟩, hcreating, hmap⟩ := Option.bind_eq_some_iff.1 h
  obtain ⟨result', hresult, heq⟩ := Option.map_eq_some_iff.1 hmap
  obtain ⟨rfl, rfl⟩ := Prod.mk.inj heq
  obtain ⟨t', rfl⟩ := hturn _ _ hcreating
  obtain ⟨result'', hresult', rfl⟩ := ending_of_creationTurn hprogress
  obtain rfl := Option.some.inj (hresult.symm.trans hresult')
  rfl

/-! ### Awaits -/

lemma code_of_create {args : CreateArgs} {draws : Draws} {queued : Bool}
    {turn : HandlerTurn s.capacity} (hturn : t.create s args draws queued = some turn)
    {h : Suspended s.capacity} (hprogress : turn.progress = .inl h) : h.code = none := by
  obtain ⟨ct, -, rfl⟩ := Option.map_eq_some_iff.1 hturn
  exact code_of_creationTurn hprogress

/-- A handler that has read a body is asked about the same room. -/
lemma code_of_readBody {route : BodyRoute} {body : Option Value} {draws : Draws}
    {turn : HandlerTurn s.capacity} (hturn : t.readBody s route body draws = some turn)
    {h : Suspended s.capacity} (hprogress : turn.progress = .inl h) : h.code = route.code := by
  cases hcode : route.code with
  | some code => exact (t.isAbout_readBody hturn hcode).waits h hprogress
  | none =>
    cases body with
    | none =>
      obtain rfl := Option.some.inj hturn
      cases hprogress
    | some body =>
      cases route with
      | createRoom =>
        have hread : t.createRoom s body draws = some turn := hturn
        unfold createRoom at hread
        split at hread
        · obtain rfl := Option.some.inj hread
          cases hprogress
        · exact t.code_of_create hread hprogress
      | queueJoin =>
        have hread : t.queueJoin s body draws = some turn := hturn
        unfold queueJoin at hread
        split at hread
        · obtain rfl := Option.some.inj hread
          cases hprogress
        · split at hread
          · obtain rfl := Option.some.inj hread
            cases hprogress
          · split at hread
            · unfold matchPair at hread
              split at hread
              · exact code_of_create _ hread hprogress
              · obtain rfl := Option.some.inj hread
                cases hprogress
            · obtain rfl := Option.some.inj hread
              cases hprogress
      | registerEndpoint | events | delete | heartbeat => cases hcode

/-- A handler that has got an answer is asked about the same room. -/
lemma code_of_receive {hd h : Suspended s.capacity} {reply : Option HttpReply} {draws : Draws}
    {turn : HandlerTurn s.capacity} (hturn : t.receive s reply draws hd = some turn)
    (hprogress : turn.progress = .inl h) : h.code = hd.code := by
  cases hd with
  | reading route => cases hturn
  | creating c queued =>
    obtain ⟨ct, -, rfl⟩ := Option.map_eq_some_iff.1 hturn
    exact code_of_creationTurn hprogress
  | visiting room purpose stage =>
    cases reply with
    | none =>
      obtain rfl := Option.some.inj hturn
      cases hprogress
    | some reply =>
      obtain rfl := Option.some.inj hturn
      have hlook : ∀ h, (t.lookLast s room purpose).progress = .inl h →
          h.code = some room.code := by
        intro h hprogress
        unfold lookLast at hprogress
        split at hprogress
        · obtain rfl := Sum.inl.inj hprogress
          rfl
        · cases hprogress
      cases stage with
      | ensuring stage =>
        unfold visitReply at hprogress
        dsimp only at hprogress
        split at hprogress
        · obtain rfl := Sum.inl.inj hprogress
          rfl
        · split at hprogress
          · exact hlook h hprogress
          · cases hprogress
        · cases hprogress
      | lookSession => exact hlook h hprogress
      | lookGgpo => cases hprogress

end Server

/-! ## Steps -/

/-- The code of the room that a request is about. -/
def Route.code : Route → Option Text
  | .room _ name => some (utf8 name)
  | _ => none

/-- The code of the room that the handler is asked about which has a turn. -/
def Server.asked (t : Server s.capacity) (newUrl : NewUrl) : ServerAction → Option Text
  | .request req _ => (routeOf newUrl req).bind fun r => r.1.code
  | .body id _ _ | .reply id _ _ => (t.jobs.at? id).bind Suspended.code
  | .prune _ | .cleanRates _ | .probe _ _ _ => none

namespace Server

variable {t : Server s.capacity}

/-- A request up to its first await. -/
lemma code_of_accept {newUrl : NewUrl} {req : HttpRequest} {now : ℕ} {h : Suspended s.capacity}
    (hprogress : (t.accept s newUrl req now).progress = .inl h) {code : Text}
    (hcode : t.asked newUrl (.request req now) = some code) : h.code = some code := by
  have hroom : (routeOf newUrl req).bind (fun r => r.1.code) = some code := hcode
  unfold accept at hprogress
  unfold routeOf at hroom
  split at hprogress
  · cases hprogress
  · dsimp only at hprogress
    cases hurl : newUrl req.target with
    | none =>
      rw [hurl] at hroom
      cases hroom
    | some url =>
      rw [hurl] at hprogress hroom
      dsimp only [Option.map_some, Option.bind_some] at hprogress hroom
      unfold dispatch at hprogress
      cases hroute : route req.method url.pathname with
      | room verb name =>
        rw [hroute] at hprogress hroom
        obtain rfl := Option.some.inj hroom
        exact (isAbout_roomRequest _ req verb now).waits h hprogress
      | _ =>
        rw [hroute] at hroom
        cases hroom

/-- **A step leaves a handler asked about the room that it has been asked about.** -/
lemma code_of_next {newUrl : NewUrl} {a : ServerAction} {r : ServerOut × Server s.capacity}
    (h : t.next s newUrl a = some r) {id : ℕ} {hd : Suspended s.capacity}
    (hat : r.2.jobs.at? id = some hd) :
    (t.who a ≠ some id ∧ t.jobs.at? id = some hd) ∨
      t.who a = some id ∧ ∀ code, t.asked newUrl a = some code → hd.code = some code := by
  cases a with
  | request req now =>
    obtain rfl := Option.some.inj h
    obtain ⟨turn, heffect, -, hturn⟩ := accept_eq { t with jobs := t.jobs.draw } newUrl req now
    have hjobs : (accept s { t with jobs := t.jobs.draw } newUrl req now).server.jobs =
        t.jobs.draw := by
      rw [hturn]
      exact heffect.jobs.trans (jobs_pruned _)
    simp only [settle, hjobs] at hat
    rcases Jobs.of_at?_settle hat with ⟨hne, hold⟩ | ⟨rfl, hprogress⟩
    · exact .inl ⟨fun hwho => hne (Option.some.inj hwho), hold⟩
    · exact .inr ⟨rfl, fun code hcode => code_of_accept hprogress hcode⟩
  | body own body draws =>
    simp only [next] at h
    split at h
    · rename_i route hreading
      obtain ⟨turn, hturn, rfl⟩ := Option.map_eq_some_iff.1 h
      simp only [settle, (effect_readBody hturn).jobs] at hat
      rcases Jobs.of_at?_settle hat with ⟨hne, hold⟩ | ⟨rfl, hprogress⟩
      · exact .inl ⟨fun hwho => hne (Option.some.inj hwho), hold⟩
      · refine .inr ⟨rfl, fun code hcode => ?_⟩
        rw [t.code_of_readBody hturn hprogress, ← hcode]
        show _ = (t.jobs.at? own).bind Suspended.code
        rw [hreading]
        rfl
    · cases h
  | reply own reply draws =>
    obtain ⟨hold, hwork, hmap⟩ := Option.bind_eq_some_iff.1 h
    obtain ⟨turn, hturn, rfl⟩ := Option.map_eq_some_iff.1 hmap
    simp only [settle, (effect_receive hturn).jobs] at hat
    rcases Jobs.of_at?_settle hat with ⟨hne, hold⟩ | ⟨rfl, hprogress⟩
    · exact .inl ⟨fun hwho => hne (Option.some.inj hwho), hold⟩
    · refine .inr ⟨rfl, fun code hcode => ?_⟩
      rw [t.code_of_receive hturn hprogress, ← hcode]
      show _ = (t.jobs.at? own).bind Suspended.code
      rw [hwork]
      rfl
  | prune now =>
    obtain rfl := Option.some.inj h
    exact .inl ⟨by rintro ⟨⟩, hat⟩
  | cleanRates now =>
    obtain rfl := Option.some.inj h
    exact .inl ⟨by rintro ⟨⟩, hat⟩
  | probe address seen now =>
    obtain rfl := Option.some.inj h
    refine .inl ⟨by rintro ⟨⟩, ?_⟩
    dsimp only at hat
    split at hat <;> exact hat

end Server

/-! ## Answers -/

/-- A room that is there before a gentle turn is there after it. -/
lemma Gentle.find?_isSome {t : Server s.capacity} {turn : HandlerTurn s.capacity}
    {code code' : Text} {mark : Option Text} {carries : Text → Prop}
    (h : Gentle t turn code mark carries) (hfound : (t.registry.find? code').isSome) :
    ∃ room, turn.server.registry.find? code' = some room ∧ room.code = code' := by
  obtain ⟨f, hf, hsame, -⟩ := h.registry
  obtain ⟨room, hroom⟩ := Option.isSome_iff_exists.1 hfound
  have hfind : turn.server.registry.find? code' =
      some (if room.code = code then f room else room) := by
    rw [hf, Registry.find?_modify hsame, hroom]
    rfl
  exact ⟨_, hfind, (Registry.find?_some hfind).2⟩

/-- A request that has to bring a body does not succeed before it is read. -/
lemma not_success_of_reading {t : Server s.capacity} {req : HttpRequest} {bucket : String}
    {limit now status : ℕ} {route : BodyRoute} :
    (t.checkRate s req bucket limit now fun t => t.suspend s (.reading route)).progress ≠
      .inr (.answered ⟨status, none⟩) := by
  unfold Server.checkRate
  dsimp only
  split
  · rintro ⟨⟩
  · rintro ⟨⟩

namespace Desk

variable {d : Desk s.capacity} {t : Server s.capacity} {status : ℕ}

/-- A success about a room before the first await. -/
lemma tells_roomRequest {req : HttpRequest} {verb : RoomVerb} {name : String} {now : ℕ}
    (hprogress : (t.roomRequest s req verb (utf8 name) now).progress =
      .inr (.answered ⟨status, none⟩))
    (hreg : d.server.registry = (t.roomRequest s req verb (utf8 name) now).server.registry)
    (role : String) :
    Tells s none (some (utf8 name)) (d.routeReply s role now none (.room verb name)) := by
  have hgentle : Gentle t (t.roomRequest s req verb (utf8 name) now) (utf8 name) none
      fun _ => False := t.gentle_roomRequest req verb now
  obtain ⟨room, hroom, hcode⟩ :=
    hgentle.find?_isSome ((t.isAbout_roomRequest req verb now).found status hprogress)
  rw [← hreg] at hroom
  have hreply : d.routeReply s role now none (.room verb name) = unvisited s verb role room := by
    unfold routeReply
    dsimp only
    rw [hroom]
  rw [hreply, ← hcode]
  cases verb with
  | connectPlan => exact tells_plan _ room role
  | lookup => exact tells_lookup room _ _
  | health => exact tells_health room _ _
  | registerEndpoint | events | delete | heartbeat =>
    exact absurd hprogress not_success_of_reading

/-- **An answer before the first await.** -/
lemma tells_routeReply {req : HttpRequest} {url : Url} {now : ℕ} {error : Option String}
    (hprogress : (t.dispatch s req url now).progress = .inr (.answered ⟨status, error⟩))
    (hreg : d.server.registry = (t.dispatch s req url now).server.registry) (role : String) :
    Tells s error (route req.method url.pathname).code
      (d.routeReply s role now error (route req.method url.pathname)) := by
  cases error with
  | some error => exact tells_failure _ _ _
  | none =>
    unfold Server.dispatch at hprogress hreg
    cases hroute : route req.method url.pathname with
    | health => exact tells_success rfl (by simp [healthMembers, List.lookup_cons])
    | «matches» => exact tells_success rfl (by simp [List.lookup_cons])
    | listRooms => exact tells_success rfl (by simp [List.lookup_cons])
    | matchById matchId =>
      rw [hroute] at hprogress hreg
      dsimp only at hprogress hreg
      unfold Server.listing at hprogress hreg
      split at hprogress
      · rename_i hfound
        rw [if_pos hfound] at hreg
        obtain ⟨room, hroom⟩ := Option.isSome_iff_exists.1 (List.find?_isSome.2
          (List.any_eq_true.1 hfound.2))
        have hreply : d.routeReply s role now none (.matchById matchId) =
            .json [("ok", .bool true),
              ("match", .obj (matchDetails s room (d.events room.code)))] := by
          unfold routeReply
          rw [hreg]
          dsimp only [Server.answer]
          rw [hroom]
        rw [hreply]
        exact tells_success rfl (by simp [List.lookup_cons])
      · cases hprogress
    | createRoom =>
      rw [hroute] at hprogress
      exact absurd hprogress not_success_of_reading
    | room verb name =>
      rw [hroute] at hprogress hreg
      exact tells_roomRequest hprogress hreg role
    | queueJoin =>
      rw [hroute] at hprogress
      cases hprogress
    | unknown =>
      rw [hroute] at hprogress
      cases hprogress

/-- **An answer to a request that is no preflight, before its first await.** -/
lemma tells_request {newUrl : NewUrl} {req : HttpRequest} {now : ℕ} {error : Option String}
    (hoptions : req.method ≠ "OPTIONS")
    (hprogress : (t.accept s newUrl req now).progress = .inr (.answered ⟨status, error⟩))
    (hreg : d.server.registry = (t.accept s newUrl req now).server.registry) :
    Tells s error ((routeOf newUrl req).bind fun r => r.1.code)
      (d.requestReply s newUrl req now error) := by
  unfold Server.accept at hprogress hreg
  unfold requestReply routeOf
  rw [if_neg hoptions] at hprogress hreg ⊢
  dsimp only at hprogress hreg ⊢
  cases hurl : newUrl req.target with
  | none =>
    rw [hurl] at hprogress
    cases hprogress
  | some url =>
    rw [hurl] at hprogress hreg
    exact tells_routeReply hprogress hreg _

/-- A registration that succeeds is one for a role. -/
lemma role_of_registerEndpoint {code : Text} {ip : String} {body : Value} {now : ℕ}
    (hprogress : (t.registerEndpoint s code ip body now).progress =
      .inr (.answered ⟨status, none⟩)) :
    ∃ role, (Value.textOrEmpty (body.get "role")).bind Role.parse = some role := by
  unfold Server.registerEndpoint at hprogress
  split at hprogress
  · cases hprogress
  · split at hprogress
    · cases hprogress
    · split at hprogress
      · cases hprogress
      · rename_i text htext
        split at hprogress
        · cases hprogress
        · rename_i role hrole
          rw [htext]
          exact ⟨role, hrole⟩

/-- A success about a room, once the body is read. -/
lemma tells_bodyReply {route : BodyRoute} {body : Value} {draws : Draws}
    {turn : HandlerTurn s.capacity} (hturn : t.readBody s route (some body) draws = some turn)
    (hprogress : turn.progress = .inr (.answered ⟨status, none⟩))
    (hreg : d.server.registry = turn.server.registry) (hroute : route ≠ .createRoom) :
    Tells s none route.code (d.bodyReply s body route) := by
  have hfound : ∀ code, route.code = some code → ∀ {mark carries},
      Gentle t turn code mark carries →
        ∃ room, d.server.registry.find? code = some room ∧ room.code = code := by
    intro code hcode mark carries hgentle
    rw [hreg]
    exact hgentle.find?_isSome ((t.isAbout_readBody hturn hcode).found status hprogress)
  cases route with
  | createRoom => exact absurd rfl hroute
  | registerEndpoint code ip =>
    obtain rfl := Option.some.inj hturn
    obtain ⟨role, hrole⟩ := role_of_registerEndpoint hprogress
    have hgentle : Gentle t (t.registerEndpoint s code ip body draws.now) code none
        (CarriesSecret body) := t.gentle_registerEndpoint ip body draws.now
    obtain ⟨room, hroom, hcode⟩ := hfound code rfl hgentle
    have hreply : d.bodyReply s body (.registerEndpoint code ip) = .registered room role := by
      unfold bodyReply
      dsimp only
      rw [hroom, hrole]
    rw [hreply]
    show Tells s none (some code) _
    rw [← hcode]
    exact tells_registered room role
  | events code =>
    obtain rfl := Option.some.inj hturn
    obtain ⟨room, hroom, -⟩ := hfound code rfl (t.gentle_events body draws.now)
    have hreply : d.bodyReply s body (.events code) =
        .json [("ok", .bool true), ("code", .text code), ("matchId", .text room.matchId.1)] := by
      unfold bodyReply
      dsimp only
      rw [hroom]
    rw [hreply]
    exact tells_room rfl (by simp [List.lookup_cons]) (by simp [List.lookup_cons])
  | delete code => exact tells_room rfl (by simp [List.lookup_cons]) (by simp [List.lookup_cons])
  | heartbeat code =>
    obtain rfl := Option.some.inj hturn
    have hgentle : Gentle t (t.heartbeat s code body draws.now) code none fun _ => False :=
      t.gentle_heartbeat body draws.now
    obtain ⟨room, hroom, hcode⟩ := hfound code rfl hgentle
    have hreply : d.bodyReply s body (.heartbeat code) = .json (heartbeatFields room .skipped) := by
      unfold bodyReply
      dsimp only
      rw [hroom]
    rw [hreply]
    show Tells s none (some code) _
    rw [← hcode]
    exact tells_heartbeat room _
  | queueJoin => exact tells_success rfl (by simp [List.lookup_cons])

/-- **An answer once the body is read.** -/
lemma tells_body {newUrl : NewUrl} {id : ℕ} {route : BodyRoute} {body : Option Value}
    {draws : Draws} {turn : HandlerTurn s.capacity} {error : Option String}
    (hat : t.jobs.at? id = some (.reading route))
    (hturn : t.readBody s route body draws = some turn)
    (hprogress : turn.progress = .inr (.answered ⟨status, error⟩))
    (hreg : d.server.registry = turn.server.registry) :
    Tells s error route.code (d.replyTo s newUrl t (.body id body draws) error) := by
  unfold replyTo
  dsimp only
  cases hresult : t.creationResult s (.body id body draws) with
  | some result =>
    obtain ⟨queued, result⟩ := result
    cases body with
    | none => cases hresult
    | some body =>
      obtain ⟨creating, hcreating, -⟩ := Option.bind_eq_some_iff.1 hresult
      rw [t.code_of_creating_body hat hcreating]
      have hending := Server.ending_of_creationResult t
        (fun queued ct h => t.turn_of_creating_body hat hturn h) hprogress hresult
      exact tells_creation hending.symm
  | none =>
    show Tells s error route.code (d.readReply s t id (body.getD .empty) error)
    unfold readReply
    rw [hat]
    dsimp only
    cases error with
    | some error => exact tells_bodyFailure _ _ _ _ _
    | none =>
      cases body with
      | none =>
        obtain rfl := Option.some.inj hturn
        cases hprogress
      | some body =>
        refine tells_bodyReply hturn hprogress hreg ?_
        rintro rfl
        cases t.createRoom_throws hat hturn hprogress hresult

/-- The rooms that have ended are kept by their codes. -/
def Filed (d : Desk s.capacity) : Prop := ∀ code, ∀ room ∈ d.ended code, room.code = code

/-- The object of a room that a handler holds has the code of the room. -/
lemma code_object (hfiled : d.Filed) (id : ℕ) (room : RoomRecord) :
    (d.object s id room).code = room.code := by
  unfold object
  cases hroom : (d.ended room.code)[(d.notes id).ended]? with
  | some room' => exact hfiled _ room' (List.mem_of_getElem? hroom)
  | none =>
    cases hfind : d.server.registry.find? room.code with
    | some room' => exact (Registry.find?_some hfind).2
    | none => rfl

/-- The last answer that a handler at work on a room needs. -/
lemma tells_visitReply (hfiled : d.Filed) {id : ℕ}
    {room : RoomRecord} {purpose : Purpose} {reply : HttpReply} {stage : VisitStage}
    {error : Option String} (hprogress : (t.visitReply s room purpose reply stage).progress =
      .inr (.answered ⟨status, error⟩)) :
    Tells s error (some room.code) (d.visitReply s id room purpose reply stage) := by
  have hobject := code_object hfiled id room
  have hlook : (t.lookLast s room purpose).progress = .inr (.answered ⟨status, error⟩) →
      error = none := by
    intro hprogress
    unfold Server.lookLast at hprogress
    split at hprogress
    · cases hprogress
    · obtain ⟨-, rfl⟩ := Answer.mk.inj (Ending.answered.inj (Sum.inr.inj hprogress))
      rfl
  rw [← hobject]
  cases stage with
  | ensuring stage =>
    unfold Server.visitReply at hprogress
    unfold visitReply
    dsimp only at hprogress ⊢
    cases hensure : ensureRelaySession room reply stage with
    | await stage =>
      rw [hensure] at hprogress
      cases hprogress
    | thrown =>
      rw [hensure] at hprogress
      cases hprogress
    | done result =>
      rw [hensure] at hprogress
      have herror : error = none := by
        dsimp only at hprogress
        split at hprogress
        · exact hlook hprogress
        · obtain ⟨-, rfl⟩ := Answer.mk.inj (Ending.answered.inj (Sum.inr.inj hprogress))
          rfl
      subst herror
      cases purpose with
      | ensure =>
        cases hrole : (d.notes id).role with
        | some role => exact tells_plan _ _ role
        | none => exact tells_heartbeat _ _
      | health | lookup => exact tells_health _ _ _
  | lookSession =>
    obtain rfl := hlook hprogress
    exact tells_lookup _ _ _
  | lookGgpo =>
    obtain ⟨-, rfl⟩ := Answer.mk.inj (Ending.answered.inj (Sum.inr.inj hprogress))
    unfold visitReply
    dsimp only
    split
    · exact tells_health _ _ _
    · exact tells_lookup _ _ _

/-- **An answer after the last answer of the relay manager.** -/
lemma tells_reply {newUrl : NewUrl} (hfiled : d.Filed)
    {id : ℕ} {hd : Suspended s.capacity} {reply : Option HttpReply} {draws : Draws}
    {turn : HandlerTurn s.capacity} {error : Option String} (hat : t.jobs.at? id = some hd)
    (hturn : t.receive s reply draws hd = some turn)
    (hprogress : turn.progress = .inr (.answered ⟨status, error⟩)) :
    Tells s error hd.code (d.replyTo s newUrl t (.reply id reply draws) error) := by
  unfold replyTo
  dsimp only
  cases hd with
  | reading route => cases hturn
  | creating c queued =>
    obtain ⟨ct, hct, rfl⟩ := Option.map_eq_some_iff.1 hturn
    have hcreating : t.creating s (.reply id reply draws) = some (queued, ct) := by
      simp only [Server.creating, hat, hct, Option.map_some]
    obtain ⟨result, hresult, hending⟩ := Server.ending_of_creationTurn hprogress
    rw [t.creationResult_of_creating hcreating hresult]
    exact tells_creation hending.symm
  | visiting room purpose stage =>
    have hnone : t.creationResult s (.reply id reply draws) = none := by
      unfold Server.creationResult Server.creating
      dsimp only
      rw [hat]
      rfl
    rw [hnone]
    cases reply with
    | none =>
      obtain rfl := Option.some.inj hturn
      cases hprogress
    | some reply =>
      obtain rfl := Option.some.inj hturn
      show Tells s error (some room.code) (d.answerReply s t id (some reply))
      unfold answerReply
      rw [hat]
      exact tells_visitReply hfiled hprogress

/-! ### Rooms that have ended -/

lemma filed_endRooms (h : d.Filed) (rooms : List RoomRecord) (now : ℕ) :
    (d.endRooms s rooms now).Filed := by
  intro code room hroom
  rcases List.mem_append.1 hroom with hold | hnew
  · exact h code room hold
  · obtain ⟨room', hroom', rfl⟩ := List.mem_map.1 hnew
    simpa using (List.mem_filter.1 hroom').2

lemma filed_keepBody (h : d.Filed) (id : ℕ) (body : Value) (now : ℕ) (route : BodyRoute) :
    (d.keepBody s id body now route).Filed := by
  cases route with
  | delete code => exact filed_endRooms h _ now
  | registerEndpoint | events | heartbeat | createRoom | queueJoin => exact h

lemma filed_keepRead (h : d.Filed) (id : ℕ) (body : Option Value) (now : ℕ) (out : ServerOut) :
    (d.keepRead s id body now out).Filed := by
  unfold keepRead
  split
  · exact filed_keepBody h id _ now _
  · split
    · exact filed_keepBody h id _ now _
    · exact h
  · exact h

lemma filed_keepVisit (h : d.Filed) (id : ℕ) (reply : Option HttpReply) :
    (d.keepVisit s id reply).Filed := by
  unfold keepVisit
  split
  · unfold keepReply
    split
    · split <;> exact h
    · exact h
    · exact h
  · exact h

lemma filed_keep (h : d.Filed) (newUrl : NewUrl) (a : ServerAction) (out : ServerOut) :
    (d.keep s newUrl a out).Filed := by
  cases a with
  | request req now =>
    unfold keep
    dsimp only
    split
    · exact h
    · exact filed_endRooms h _ now
  | body id body draws =>
    unfold keep
    dsimp only
    split
    · exact h
    · exact filed_keepRead h id body draws.now out
  | reply id reply draws =>
    unfold keep
    dsimp only
    split
    · exact h
    · exact filed_keepVisit h id reply
  | prune now => exact filed_endRooms h _ now
  | cleanRates | probe => exact h

/-! ### Steps -/

/-- **Step lemma.** -/
lemma tells_next {newUrl : NewUrl} {a : ServerAction} {out : ServerOut} {reply : Option AnswerBody}
    {d' : Desk s.capacity} (h : d.next s newUrl a = some ((out, reply), d')) (hfiled : d.Filed)
    {id : ℕ} {answer : Answer} (hout : out.ended = some (id, .answered answer))
    (hoptions : ∀ req now, a = .request req now → req.method ≠ "OPTIONS") :
    d.server.who a = some id ∧
      ∃ body, reply = some body ∧ Tells s answer.error (d.server.asked newUrl a) body := by
  obtain ⟨⟨out', server⟩, hnext, heq⟩ := Option.map_eq_some_iff.1 h
  obtain ⟨houts, rfl⟩ := Prod.mk.inj heq
  obtain ⟨rfl, rfl⟩ := Prod.mk.inj houts
  obtain ⟨status, error⟩ := answer
  have hreply : ∀ d' : Desk s.capacity, d'.reply s newUrl d.server a out' =
      some (d'.replyTo s newUrl d.server a error) := fun d' => by
    unfold reply
    rw [hout]
  suffices d.server.who a = some id ∧ ∀ d' : Desk s.capacity, d'.Filed → d'.server = server →
      Tells s error (d.server.asked newUrl a) (d'.replyTo s newUrl d.server a error) from
    ⟨this.1, _, hreply _, this.2 _ (filed_keep hfiled newUrl a out') rfl⟩
  cases a with
  | request req now =>
    obtain ⟨rfl, rfl⟩ := Prod.mk.inj (Option.some.inj hnext)
    obtain ⟨rfl, hprogress⟩ := Jobs.of_ended hout
    refine ⟨rfl, fun d' _ hserver => ?_⟩
    exact tells_request (hoptions req now rfl) hprogress (by rw [hserver])
  | body own body draws =>
    simp only [Server.next] at hnext
    split at hnext
    · rename_i route hat
      obtain ⟨turn, hturn, hsettle⟩ := Option.map_eq_some_iff.1 hnext
      obtain ⟨rfl, rfl⟩ := Prod.mk.inj hsettle
      obtain ⟨rfl, hprogress⟩ := Jobs.of_ended hout
      refine ⟨rfl, fun d' _ hserver => ?_⟩
      have hasked : d.server.asked newUrl (.body id body draws) = route.code := by
        show (d.server.jobs.at? id).bind Suspended.code = _
        rw [hat]
        rfl
      rw [hasked]
      exact tells_body hat hturn hprogress (by rw [hserver])
    · cases hnext
  | reply own reply draws =>
    obtain ⟨hd, hat, hmap⟩ := Option.bind_eq_some_iff.1 hnext
    obtain ⟨turn, hturn, hsettle⟩ := Option.map_eq_some_iff.1 hmap
    obtain ⟨rfl, rfl⟩ := Prod.mk.inj hsettle
    obtain ⟨rfl, hprogress⟩ := Jobs.of_ended hout
    refine ⟨rfl, fun d' hfiled' _ => ?_⟩
    have hasked : d.server.asked newUrl (.reply id reply draws) = hd.code := by
      show (d.server.jobs.at? id).bind Suspended.code = _
      rw [hat]
      rfl
    rw [hasked]
    exact tells_reply hfiled' hat hturn hprogress
  | prune | cleanRates | probe =>
    obtain ⟨rfl, rfl⟩ := Prod.mk.inj (Option.some.inj hnext)
    cases hout

end Desk

/-! ## Runs -/

/-- The code of the room that a new request is about. -/
def ServerAction.requested (newUrl : NewUrl) : ServerAction → Option Text
  | .request req _ => (routeOf newUrl req).bind fun r => r.1.code
  | _ => none

/-- The request with the number is about the room with the code. -/
def AsksAbout (newUrl : NewUrl) (id : ℕ) (code : Text) (log : List (DeskEntry s)) : Prop :=
  ∃ e ∈ log, e.pre.server.jobs.count = id ∧ e.act.requested newUrl = some code

instance (newUrl : NewUrl) (id : ℕ) (code : Text) (log : List (DeskEntry s)) :
    Decidable (AsksAbout newUrl id code log) :=
  inferInstanceAs (Decidable (∃ e ∈ log, _))

/-- **Invariant.** A handler at work is about the room that its request has been about. -/
structure KeepsCodes (newUrl : NewUrl) (log : List (DeskEntry s)) (d : Desk s.capacity) :
    Prop where
  filed : d.Filed
  numbered : d.server.jobs.Numbered
  /-- The numbers of the requests are taken. -/
  taken : ∀ id code, AsksAbout newUrl id code log → id < d.server.jobs.count
  code : ∀ id code hd, AsksAbout newUrl id code log → d.server.jobs.at? id = some hd →
    hd.code = some code

namespace KeepsCodes

variable {newUrl : NewUrl} {log : List (DeskEntry s)} {e : DeskEntry s}

lemma asksAbout_cons {id : ℕ} {code : Text} (h : AsksAbout newUrl id code (e :: log)) :
    AsksAbout newUrl id code log ∨ e.pre.server.jobs.count = id ∧ e.pre.server.who e.act = some id ∧
      e.pre.server.asked newUrl e.act = some code := by
  obtain ⟨e', he', hid, hcode⟩ := h
  rcases List.mem_cons.1 he' with rfl | hold
  · refine .inr ⟨hid, ?_⟩
    generalize e'.act = a at hcode
    cases a with
    | request req now => exact ⟨congrArg some hid, hcode⟩
    | body | reply | prune | cleanRates | probe => cases hcode
  · exact .inl ⟨e', hold, hid, hcode⟩

/-- The handler that has a turn is about the room that its request has been about. -/
lemma asked {out : ServerOut} (h : KeepsCodes newUrl log e.pre) {id : ℕ} {code : Text}
    (hasks : AsksAbout newUrl id code (e :: log)) (hwho : e.pre.server.who e.act = some id)
    {server : Server s.capacity} (hnext : e.pre.server.next s newUrl e.act = some (out, server)) :
    e.pre.server.asked newUrl e.act = some code := by
  rcases asksAbout_cons hasks with hold | ⟨-, -, hcode⟩
  · have hlt := h.taken id code hold
    generalize e.act = a at hwho hnext
    cases a with
    | request req now => exact absurd (Option.some.inj hwho) (Nat.ne_of_gt hlt)
    | body own body draws =>
      obtain rfl := Option.some.inj hwho
      simp only [Server.next] at hnext
      split at hnext
      · rename_i route hat
        show (e.pre.server.jobs.at? own).bind Suspended.code = some code
        rw [hat]
        exact h.code own code _ hold hat
      · cases hnext
    | reply own reply draws =>
      obtain rfl := Option.some.inj hwho
      obtain ⟨hd, hat, -⟩ := Option.bind_eq_some_iff.1 hnext
      show (e.pre.server.jobs.at? own).bind Suspended.code = some code
      rw [hat]
      exact h.code own code hd hold hat
    | prune | cleanRates | probe => cases hwho
  · exact hcode

/-- **Step lemma.** -/
lemma step (h : KeepsCodes newUrl log e.pre) (hs : (deskLTS s newUrl).Steps e) :
    KeepsCodes newUrl (e :: log) e.post := by
  obtain ⟨⟨out, server⟩, hnext, heq⟩ := Option.map_eq_some_iff.1 hs
  obtain ⟨-, hpost⟩ := Prod.mk.inj heq
  have hserver : e.post.server = server := by rw [← hpost]
  have hturn := (Server.settles_of_next hnext).turn
  refine ⟨?_, ?_, fun id code hasks => ?_, fun id code hd hasks hat => ?_⟩
  · rw [← hpost]
    exact Desk.filed_keep h.filed newUrl e.act out
  · rw [hserver]
    exact hturn.numbered h.numbered
  · rw [hserver]
    rcases asksAbout_cons hasks with hold | ⟨-, hwho, -⟩
    · exact Nat.lt_of_lt_of_le (h.taken id code hold) hturn.count_le
    · rw [hwho] at hturn
      exact hturn.lt_count h.numbered
  · rw [hserver] at hat
    rcases Server.code_of_next hnext hat with ⟨hwho, hbefore⟩ | ⟨hwho, hcode⟩
    · rcases asksAbout_cons hasks with hold | ⟨-, hwho', -⟩
      · exact h.code id code hd hold hbefore
      · exact absurd hwho' hwho
    · exact hcode code (h.asked hasks hwho hnext)

end KeepsCodes

lemma keepsCodes_of_run {newUrl : NewUrl} {log : List (DeskEntry s)} {d : Desk s.capacity}
    (h : (deskLTS s newUrl).Run log d) : KeepsCodes newUrl log d := by
  refine h.invariant_of_step (KeepsCodes newUrl) ?_ fun _ e hkeeps hs => hkeeps.step hs
  rintro _ rfl
  exact ⟨fun _ _ h => (by cases h), Jobs.numbered_empty, fun _ _ ⟨_, h, _⟩ => (by cases h),
    fun _ _ _ ⟨_, h, _⟩ => (by cases h)⟩

/-- A preflight request comes in. -/
def ServerAction.isPreflight : ServerAction → Bool
  | .request req _ => req.method == "OPTIONS"
  | _ => false

/-- **Every answer says what it is.**  A step that ends a request with an answer, if the request is
no preflight, sends a JSON object.  It has a member `error` exactly for an error, and names it; a
success that is about a room names the room that the request has asked for. -/
theorem answer_tells {newUrl : NewUrl} {log : List (DeskEntry s)} {e : DeskEntry s}
    {d : Desk s.capacity} (h : (deskLTS s newUrl).Run (e :: log) d) {id : ℕ} {answer : Answer}
    (hended : e.out.1.ended = some (id, .answered answer)) (hact : e.act.isPreflight = false) :
    ∃ reply members, e.out.2 = some reply ∧ reply.body s = some members ∧
      members.lookup "error" = answer.error.map Value.str ∧
      ∀ code, answer.error = none → AsksAbout newUrl id code (e :: log) →
        members.lookup "code" = some (.text code) := by
  have hcut : (deskLTS s newUrl).Run ([] ++ e :: log) d := h
  obtain ⟨hrun, hs, -⟩ := hcut.at_entry
  have hkeeps := keepsCodes_of_run hrun
  have hoptions : ∀ req now, e.act = .request req now → req.method ≠ "OPTIONS" := by
    intro req now heq
    rw [heq] at hact
    exact ne_of_beq_false hact
  obtain ⟨⟨out, server⟩, hnext, heq⟩ := Option.map_eq_some_iff.1 hs
  obtain ⟨hwho, reply, hreply, members, hbody, herror, hcode⟩ :=
    Desk.tells_next hs hkeeps.filed hended hoptions
  refine ⟨reply, members, hreply, hbody, herror, fun code hnone hasks => ?_⟩
  exact hcode hnone code (hkeeps.asked hasks hwho hnext)

/-- A room is opened, and looked up while somebody else asks for the health of the broker. -/
def lookUp (opened seen : Draws) : List ServerAction :=
  openRoom opened ++
    [.request ⟨"GET", "/v1/rooms/SF4-1111111111111111", none, none⟩ 1,
      .reply 1 (some .created201) seen, .request ⟨"GET", "/v1/health", none, none⟩ 2,
      .reply 1 (some .created201) seen]

/-- The room is in the answer. -/
theorem answer_tells_lookUp :
    ∃ (log : List (DeskEntry .twoRooms)) (e : DeskEntry .twoRooms)
      (d : Desk ServerSettings.twoRooms.capacity), (deskLTS .twoRooms plainUrl).Run (e :: log) d ∧
        ∃ reply members, e.out.2 = some reply ∧ reply.body .twoRooms = some members ∧
          members.lookup "error" = none ∧ members.lookup "code" = some (.text openCode) := by
  obtain ⟨log, d, hrun, hne, hlast, hasks⟩ : ∃ (log : List (DeskEntry .twoRooms))
      (d : Desk ServerSettings.twoRooms.capacity), (deskLTS .twoRooms plainUrl).Run log d ∧
        log.length = 8 ∧
        (∀ e ∈ log.head?, e.out.1.ended = some (1, .answered ⟨200, none⟩) ∧
          e.act.isPreflight = false) ∧ AsksAbout plainUrl 1 openCode log :=
    exists_deskRun_of_exec (lookUp (.ofDigit 1) (.ofDigit 2)) (by decide +kernel)
  obtain ⟨e, log, rfl⟩ := List.exists_cons_of_length_eq_add_one hne
  obtain ⟨hended, hact⟩ := hlast e rfl
  obtain ⟨reply, members, hreply, hbody, herror, hcode⟩ := answer_tells hrun hended hact
  exact ⟨log, e, d, hrun, reply, members, hreply, hbody, herror, hcode openCode rfl hasks⟩

end Broker
end Sf4e
