/-
# What a turn of a handler does to the rooms

Most turns change at most the room that their request names (`Gentle`); the others are those of
`createRoomRecord`, of a deletion and of the pruning.  What the host alone may change stays
unless the body of the request has the room's secret, with one exception: the mark that an event
of some types leaves (`postedMark`).

`Effect` has all the turns together, one case for each kind.
-/
import Sf4e.Broker.Server

namespace Sf4e
namespace Broker

open Wire Trace

/-! ## Rooms -/

/-- A room and what it may become. -/
structure SameRoom (room room' : RoomRecord) : Prop where
  code : room'.code = room.code
  port : room'.port = room.port
  ggpoPort : room'.ggpoPort = room.ggpoPort
  hostSecret : room'.hostSecret = room.hostSecret

lemma SameRoom.refl (room : RoomRecord) : SameRoom room room := ⟨rfl, rfl, rfl, rfl⟩

lemma SameRoom.trans {room room' room'' : RoomRecord} (h : SameRoom room room')
    (h' : SameRoom room' room'') : SameRoom room room'' :=
  ⟨h'.code.trans h.code, h'.port.trans h.port, h'.ggpoPort.trans h.ggpoPort,
    h'.hostSecret.trans h.hostSecret⟩

/-- What belongs to the host is kept, but for a mark that is posted. -/
structure Kept (mark : Option Text) (room room' : RoomRecord) : Prop where
  hostEndpoint : room'.hostEndpoint = room.hostEndpoint
  startedAt : room'.startedAt = room.startedAt
  transportActive : room'.transportActive = mark.or room.transportActive

lemma Kept.refl (room : RoomRecord) : Kept none room room := ⟨rfl, rfl, rfl⟩

/-- The mark that the post of an event leaves without the host's secret. -/
def postedMark (body : Value) : Option Text :=
  match Value.textOrEmpty (body.get "type") with
  | none => none
  | some text =>
    if trim text ∈ allowedMatchEvents ∧ trim text ∉ hostOnlyEvents then
      (Server.transportMark body).join
    else none

/-- The body has the secret. -/
def CarriesSecret (body : Value) (secret : Text) : Prop :=
  ∃ text, body.get "hostSecret" = some (.str text) ∧ utf8 text = secret

/-- Who passes the check has the secret. -/
lemma carriesSecret_of_verifyHostSecret {room : RoomRecord} {body : Value}
    (h : verifyHostSecret room (body.get "hostSecret") = true) :
    CarriesSecret body room.hostSecret := by
  simp only [verifyHostSecret, Bool.and_eq_true] at h
  obtain ⟨-, h⟩ := h
  split at h
  · rename_i secret hsecret
    simp only [Bool.and_eq_true, beq_iff_eq] at h
    exact ⟨secret, hsecret, h.2⟩
  · cases h

namespace Registry

variable {reg : Registry} {code : Text} {room : RoomRecord}

/-- The codes of the rooms. -/
def codes (reg : Registry) : List Text := reg.rooms.map fun room => room.code

lemma find?_some (h : reg.find? code = some room) : room ∈ reg.rooms ∧ room.code = code :=
  ⟨List.mem_of_find?_eq_some h, by simpa using List.find?_some h⟩

/-- A room is found by its code when the codes are different. -/
lemma find?_of_mem (hcodes : reg.codes.Nodup) (hroom : room ∈ reg.rooms) :
    reg.find? room.code = some room := by
  cases hfind : reg.find? room.code with
  | none =>
    have hnot := List.find?_eq_none.1 hfind room hroom
    simp at hnot
  | some room' =>
    obtain ⟨hmem, hcode⟩ := find?_some hfind
    rw [List.inj_on_of_nodup_map hcodes hmem hroom hcode]

lemma mem_of_find?_none (h : reg.find? code = none) (hroom : room ∈ reg.rooms) :
    room.code ≠ code := by
  simpa using List.find?_eq_none.1 h room hroom

/-- A change that leaves the room what it is. -/
lemma find?_modify {f : RoomRecord → RoomRecord} (hsame : ∀ room, SameRoom room (f room))
    (code code' : Text) : (reg.modify code f).find? code' =
      (reg.find? code').map fun room => if room.code = code then f room else room := by
  have hcode : ∀ room : RoomRecord,
      (if room.code = code then f room else room).code = room.code := by
    intro room
    split
    · exact (hsame room).code
    · rfl
  have hcomp : ((fun room : RoomRecord => room.code == code') ∘ fun room =>
      if room.code = code then f room else room) = fun room => room.code == code' := by
    funext room
    rw [Function.comp_apply, hcode]
  rw [find?, modify, List.find?_map, hcomp, find?]

lemma map_modify {β : Type} {f : RoomRecord → RoomRecord} (g : RoomRecord → β)
    (hg : ∀ room, g (f room) = g room) : (reg.modify code f).rooms.map g = reg.rooms.map g := by
  simp only [modify, List.map_map]
  refine List.map_congr_left fun room _ => ?_
  show g (if room.code = code then f room else room) = g room
  split
  · exact hg room
  · rfl

lemma modify_self (f : RoomRecord → RoomRecord) (hf : ∀ room, f room = room) :
    reg.modify code f = reg := by
  have hmap : (fun room : RoomRecord => if room.code = code then f room else room) = id := by
    funext room
    simp [hf]
  simp [modify, hmap]

end Registry

/-! ## Turns that change one room -/

variable {s : ServerSettings}

/-- A turn that changes at most the room with the code.  What is the host's in it is kept if the
secret is not carried, but for the mark. -/
structure Gentle (t : Server s.capacity) (turn : HandlerTurn s.capacity) (code : Text)
    (mark : Option Text) (carries : Text → Prop) : Prop where
  registry : ∃ f, turn.server.registry = t.registry.modify code f ∧
    (∀ room, SameRoom room (f room)) ∧
    ∀ room, t.registry.find? code = some room → ¬ carries room.hostSecret →
      Kept mark room (f room)
  jobs : turn.server.jobs = t.jobs
  stops : turn.stops = []
  quiet : ∀ c queued, turn.progress ≠ .inl (.creating c queued)

namespace Gentle

variable {t t' : Server s.capacity} {turn : HandlerTurn s.capacity} {code : Text}
  {mark : Option Text} {carries : Text → Prop}

/-- Nothing is done to the rooms. -/
lemma of_same {progress : Suspended s.capacity ⊕ Ending} (hregistry : t'.registry = t.registry)
    (hjobs : t'.jobs = t.jobs) (hquiet : ∀ c queued, progress ≠ .inl (.creating c queued))
    (hmark : ∀ room, t.registry.find? code = some room → ¬ carries room.hostSecret → mark = none) :
    Gentle t ⟨t', [], progress⟩ code mark carries where
  registry := by
    refine ⟨id, ?_, SameRoom.refl, fun room hroom hcarries => ?_⟩
    · rw [hregistry, Registry.modify_self id fun _ => rfl]
    · rw [hmark room hroom hcarries]
      exact .refl room
  jobs := hjobs
  stops := rfl
  quiet := hquiet

lemma answer (t : Server s.capacity) (status : ℕ) (error : Option String) :
    Gentle t (t.answer s status error) code none carries :=
  of_same rfl rfl (by simp) fun _ _ _ => rfl

lemma throw (t : Server s.capacity) : Gentle t (t.throw s) code none carries :=
  of_same rfl rfl (by simp) fun _ _ _ => rfl

/-- What was done before is of no concern to the rooms. -/
lemma of_before (h : Gentle t' turn code mark carries) (hregistry : t'.registry = t.registry)
    (hjobs : t'.jobs = t.jobs) :
    Gentle t turn code mark carries where
  registry := hregistry ▸ h.registry
  jobs := h.jobs.trans hjobs
  stops := h.stops
  quiet := h.quiet

/-- There is no mark where there is no room. -/
lemma of_not_found (h : Gentle t turn code none carries) (hnone : t.registry.find? code = none) :
    Gentle t turn code mark carries where
  registry := by
    obtain ⟨f, hf, hsame, -⟩ := h.registry
    refine ⟨f, hf, hsame, fun room hroom => ?_⟩
    simp [hnone] at hroom
  jobs := h.jobs
  stops := h.stops
  quiet := h.quiet

/-- There is nothing to keep where the secret is carried. -/
lemma of_carries (h : Gentle t turn code none carries)
    (hcarries : ∀ room, t.registry.find? code = some room → carries room.hostSecret) :
    Gentle t turn code mark carries where
  registry := by
    obtain ⟨f, hf, hsame, -⟩ := h.registry
    exact ⟨f, hf, hsame, fun room hroom hnot => absurd (hcarries room hroom) hnot⟩
  jobs := h.jobs
  stops := h.stops
  quiet := h.quiet

/-- The room is changed, and then nothing more is done to it. -/
lemma of_modify {f : RoomRecord → RoomRecord}
    (h : Gentle (t.modify s code f) turn code none carries)
    (hturn : turn.server.registry = (t.modify s code f).registry)
    (hsame : ∀ room, SameRoom room (f room))
    (hkept : ∀ room, t.registry.find? code = some room → ¬ carries room.hostSecret →
      Kept mark room (f room)) : Gentle t turn code mark carries where
  registry := ⟨f, hturn, hsame, hkept⟩
  jobs := h.jobs
  stops := h.stops
  quiet := h.quiet

end Gentle

namespace Server

variable (t : Server s.capacity) {code : Text} {mark : Option Text} {carries : Text → Prop}

/-! ### Requests -/

lemma gentle_visit (room : RoomRecord) (purpose : Purpose) :
    Gentle t (t.visit s room purpose) code none carries := by
  unfold visit
  split
  · exact .of_same rfl rfl (by simp) fun _ _ _ => rfl
  · exact .answer t 200 none

lemma gentle_lookLast (room : RoomRecord) (purpose : Purpose) :
    Gentle t (t.lookLast s room purpose) code none carries := by
  unfold lookLast
  split
  · exact .of_same rfl rfl (by simp) fun _ _ _ => rfl
  · exact .answer t 200 none

lemma gentle_visitReply (room : RoomRecord) (purpose : Purpose) (reply : HttpReply)
    (stage : VisitStage) :
    Gentle t (t.visitReply s room purpose reply stage) code none carries := by
  cases stage with
  | ensuring stage =>
    simp only [visitReply]
    split
    · exact .of_same rfl rfl (by simp) fun _ _ _ => rfl
    · split
      · exact t.gentle_lookLast room purpose
      · exact .answer t 200 none
    · exact .throw t
  | lookSession => exact t.gentle_lookLast room purpose
  | lookGgpo => exact .answer t 200 none

/-- The room is seen, and its relays are asked for. -/
lemma gentle_touch_visit (room : RoomRecord) (now : ℕ) (purpose : Purpose) :
    Gentle t ((t.touch s code now).visit s room purpose) code none carries := by
  have hvisit : Gentle (t.touch s code now) ((t.touch s code now).visit s room purpose) code none
      carries := (t.touch s code now).gentle_visit room purpose
  refine Gentle.of_modify (f := fun room => { room with lastSeenAt := now }) hvisit ?_
    (fun _ => ⟨rfl, rfl, rfl, rfl⟩) fun _ _ _ => ⟨rfl, rfl, rfl⟩
  unfold visit
  split <;> rfl

lemma gentle_checkRate (req : HttpRequest) (bucket : String) (limit now : ℕ)
    {allowed : Server s.capacity → HandlerTurn s.capacity}
    (hallowed : ∀ t, Gentle t (allowed t) code none carries) :
    Gentle t (t.checkRate s req bucket limit now allowed) code none carries := by
  simp only [checkRate]
  split
  · exact (hallowed _).of_before rfl rfl
  · exact (Gentle.answer _ _ _).of_before rfl rfl

lemma gentle_seen (now : ℕ) (purpose : Purpose) :
    Gentle t (t.seen s code now purpose) code none carries := by
  unfold seen
  split
  · exact .answer t _ _
  · exact t.gentle_touch_visit _ now purpose

lemma gentle_reading (route : BodyRoute) :
    Gentle t (t.suspend s (.reading route)) code none carries :=
  .of_same rfl rfl (by simp) fun _ _ _ => rfl

lemma gentle_listing (found : Bool) : Gentle t (t.listing s found) code none carries := by
  unfold listing
  split
  · exact .answer t _ _
  · exact .answer t _ _

lemma gentle_roomRequest (req : HttpRequest) (verb : RoomVerb) (now : ℕ) :
    Gentle t (t.roomRequest s req verb code now) code none carries := by
  cases verb with
  | health =>
    simp only [roomRequest]
    split
    · exact .answer t _ _
    · exact t.gentle_visit _ _
  | connectPlan => exact t.gentle_checkRate req _ _ now fun t => t.gentle_seen now _
  | lookup => exact t.gentle_checkRate req _ _ now fun t => t.gentle_seen now _
  | registerEndpoint => exact t.gentle_checkRate req _ _ now fun t => t.gentle_reading _
  | events => exact t.gentle_checkRate req _ _ now fun t => t.gentle_reading _
  | delete => exact t.gentle_checkRate req _ _ now fun t => t.gentle_reading _
  | heartbeat => exact t.gentle_checkRate req _ _ now fun t => t.gentle_reading _

/-- The handler of a request up to its first await changes no more than when a room was last
seen. -/
lemma gentle_dispatch (req : HttpRequest) (url : Url) (now : ℕ) :
    ∃ code, Gentle t (t.dispatch s req url now) code none carries := by
  unfold dispatch
  cases route req.method url.pathname with
  | health => exact ⟨[], .answer t _ _⟩
  | «matches» => exact ⟨[], t.gentle_listing _⟩
  | matchById matchId => exact ⟨[], t.gentle_listing _⟩
  | listRooms => exact ⟨[], t.gentle_listing _⟩
  | createRoom => exact ⟨[], t.gentle_checkRate req _ _ now fun t => t.gentle_reading _⟩
  | room verb code => exact ⟨utf8 code, t.gentle_roomRequest req verb now⟩
  | queueJoin => exact ⟨[], t.gentle_reading _⟩
  | unknown => exact ⟨[], .answer t _ _⟩

/-! ### Bodies -/

/-- A registration for the host needs the host's secret. -/
lemma gentle_registerRole {room : RoomRecord} (hroom : t.registry.find? code = some room)
    (role : Role) (ip : String) (body : Value) (now : ℕ) :
    Gentle t (t.registerRole s room role ip body now) code none (CarriesSecret body) := by
  obtain ⟨-, hcode⟩ := Registry.find?_some hroom
  unfold registerRole
  split
  · exact .answer t _ _
  · rename_i hmay
    have hguest : ¬ CarriesSecret body room.hostSecret → role = .guest := by
      intro hcarries
      cases role with
      | guest => rfl
      | host =>
        refine absurd (carriesSecret_of_verifyHostSecret ?_) hcarries
        simpa using hmay
    split
    · exact .throw t
    · unfold registerPort
      split
      · obtain ⟨f, hf⟩ := t.lookupNatProbe_eq s ip now
        have hregistry : (t.lookupNatProbe s ip now).2.registry = t.registry := by rw [hf]
        have hjobs : (t.lookupNatProbe s ip now).2.jobs = t.jobs := by rw [hf]
        simp only
        split
        · exact (Gentle.answer _ _ _).of_before hregistry hjobs
        · split
          · exact (Gentle.throw _).of_before hregistry hjobs
          · refine Gentle.of_before ?_ hregistry hjobs
            rw [hcode]
            refine Gentle.of_modify (.answer _ _ _) rfl (fun room => ?_)
              fun room' hroom' hcarries => ?_
            · cases role <;> exact ⟨rfl, rfl, rfl, rfl⟩
            · -- without the secret it is the guest's endpoint
              rw [hregistry, hroom, Option.some.injEq] at hroom'
              subst hroom'
              rw [hguest hcarries]
              exact ⟨rfl, rfl, rfl⟩
      · exact .answer t _ _

lemma gentle_registerEndpoint (ip : String) (body : Value) (now : ℕ) :
    Gentle t (t.registerEndpoint s code ip body now) code none (CarriesSecret body) := by
  unfold registerEndpoint
  split
  · exact .answer t _ _
  · rename_i room hroom
    split
    · exact .throw t
    · split
      · exact .throw t
      · split
        · exact .answer t _ _
        · exact t.gentle_registerRole hroom _ ip body now

/-- Two changes of a room, one after the other. -/
lemma modify_modify {f g : RoomRecord → RoomRecord} (hf : ∀ room, SameRoom room (f room)) :
    (t.modify s code f).modify s code g = t.modify s code (g ∘ f) := by
  have hrooms : ((t.registry.modify code f).modify code g) = t.registry.modify code (g ∘ f) := by
    simp only [Registry.modify, List.map_map]
    congr 1
    refine List.map_congr_left fun room _ => ?_
    simp only [Function.comp_apply]
    by_cases hcode : room.code = code
    · rw [if_pos hcode, if_pos ((hf room).code.trans hcode), if_pos hcode]
    · rw [if_neg hcode, if_neg hcode, if_neg hcode]
  simp only [modify, hrooms]

/-- A mark that is posted without the secret is a mark of an event that a guest may post. -/
lemma postedMark_of_text {body : Value} {text : String} {mark : Option Text}
    (htext : Value.textOrEmpty (body.get "type") = some text)
    (hallowed : trim text ∈ allowedMatchEvents) (hguest : trim text ∉ hostOnlyEvents)
    (hmark : transportMark body = some mark) : postedMark body = mark := by
  simp [postedMark, htext, hallowed, hguest, hmark]

lemma postedMark_of_not_allowed {body : Value} {text : String}
    (htext : Value.textOrEmpty (body.get "type") = some text)
    (hallowed : trim text ∉ allowedMatchEvents) : postedMark body = none := by
  simp [postedMark, htext, hallowed]

lemma postedMark_of_hostOnly {body : Value} {text : String}
    (htext : Value.textOrEmpty (body.get "type") = some text)
    (hhost : trim text ∈ hostOnlyEvents) : postedMark body = none := by
  simp [postedMark, htext, hhost]

lemma sameRoom_startBattle (room : RoomRecord) (now : ℕ) :
    SameRoom room (startBattle room now) := by
  unfold startBattle
  split <;> exact ⟨rfl, rfl, rfl, rfl⟩

/-- An event that the host posts. -/
lemma gentle_postEvent_host {room : RoomRecord} (hroom : t.registry.find? code = some room)
    {eventType : String} {body : Value} (now : ℕ)
    (hcarries : CarriesSecret body room.hostSecret) :
    Gentle t (t.postEvent s room eventType body now) code mark (CarriesSecret body) := by
  obtain ⟨-, hcode⟩ := Registry.find?_some hroom
  refine Gentle.of_carries ?_ fun room' hroom' => by
    rw [hroom, Option.some.injEq] at hroom'
    exact hroom' ▸ hcarries
  have hnot : ∀ {p : Prop} (room' : RoomRecord), t.registry.find? code = some room' →
      ¬ CarriesSecret body room'.hostSecret → p := by
    intro p room' hroom' hnot
    rw [hroom, Option.some.injEq] at hroom'
    exact absurd (hroom' ▸ hcarries) hnot
  simp only [postEvent, hcode]
  split
  · split
    · exact .of_modify (.throw _) rfl (sameRoom_startBattle · now) fun room' h => hnot room' h
    · exact .throw t
  · split
    · rw [modify_modify t (sameRoom_startBattle · now)]
      refine .of_modify (.answer _ _ _) rfl (fun room' => ?_) fun room' h => hnot room' h
      exact (sameRoom_startBattle room' now).trans ⟨rfl, rfl, rfl, rfl⟩
    · exact .of_modify (.answer _ _ _) rfl (fun room' => ⟨rfl, rfl, rfl, rfl⟩)
        fun room' h => hnot room' h

/-- An event that anyone may post leaves its mark, and nothing else. -/
lemma gentle_postEvent_guest {room : RoomRecord} (hroom : t.registry.find? code = some room)
    {eventType : String} {body : Value} (now : ℕ) (hguest : eventType ∉ hostOnlyEvents)
    (hmark : ∀ m, transportMark body = some m → mark = m) (hthrow : transportMark body = none →
      mark = none) :
    Gentle t (t.postEvent s room eventType body now) code mark (CarriesSecret body) := by
  obtain ⟨-, hcode⟩ := Registry.find?_some hroom
  have hstart : eventType ≠ "battle_start" := by
    rintro rfl
    exact hguest (by decide)
  simp only [postEvent, hcode, if_neg hstart]
  split
  · rename_i hnone
    exact .of_same rfl rfl (by simp) fun _ _ _ => hthrow hnone
  · rename_i m hsome
    obtain rfl := hmark m hsome
    refine .of_modify (.answer _ _ _) rfl (fun room' => ⟨rfl, rfl, rfl, rfl⟩) fun room' _ _ => ?_
    refine ⟨rfl, rfl, ?_⟩
    cases mark <;> rfl

/-- An event leaves its mark; more it may do only for the host. -/
lemma gentle_events (body : Value) (now : ℕ) :
    Gentle t (t.events s code body now) code (postedMark body) (CarriesSecret body) := by
  unfold events
  split
  · rename_i hnone
    exact (Gentle.answer t _ _).of_not_found hnone
  · rename_i room hroom
    split
    · rename_i hnull
      obtain rfl : body = .null := by
        cases body <;> simp_all [Value.isNull]
      have hmark : postedMark .null = none := by decide +kernel
      rw [hmark]
      exact .throw t
    · split
      · rename_i hnone
        have hmark : postedMark body = none := by simp [postedMark, hnone]
        rw [hmark]
        exact .throw t
      · rename_i text htext
        split
        · rename_i hallowed
          rw [postedMark_of_not_allowed htext hallowed]
          exact .answer t _ _
        · rename_i hallowed
          rw [not_not] at hallowed
          split
          · rename_i hhost
            rw [postedMark_of_hostOnly htext hhost.1]
            exact .answer t _ _
          · rename_i hmay
            by_cases hhost : trim text ∈ hostOnlyEvents
            · refine t.gentle_postEvent_host hroom now (carriesSecret_of_verifyHostSecret ?_)
              simpa [hhost] using hmay
            · refine t.gentle_postEvent_guest hroom now hhost ?_ ?_
              · exact fun m hm => postedMark_of_text htext hallowed hhost hm
              · intro hnone
                simp [postedMark, htext, hnone]

lemma gentle_heartbeat (body : Value) (now : ℕ) :
    Gentle t (t.heartbeat s code body now) code none carries := by
  unfold heartbeat asHost
  split
  · exact .answer t _ _
  · rename_i room hroom
    obtain ⟨-, hcode⟩ := Registry.find?_some hroom
    split
    · exact .throw t
    · split
      · show Gentle t ((t.touch s room.code now).visit s _ _) code none carries
        rw [hcode]
        exact t.gentle_touch_visit _ now _
      · exact .answer t _ _

end Server

/-! ## Turns -/

/-- What a turn of a handler may be.  `mark` is the mark that it may leave on the room of a code,
`carries` tells which secrets its body has, and `own` the call of `createRoomRecord` that the
handler has been at. -/
inductive Effect (t : Server s.capacity) (mark : Text → Option Text) (carries : Text → Prop) :
    Option (Creation s.capacity) → HandlerTurn s.capacity → Prop
  | gentle {turn : HandlerTurn s.capacity} {code : Text}
      (h : Gentle t turn code (mark code) carries)
      (hmark : ∀ code', code' ≠ code → mark code' = none) : Effect t mark carries none turn
  /-- A call of `createRoomRecord` begins. -/
  | begins {t' : Server s.capacity} {args : CreateArgs} {draws : Draws} {queued : Bool}
      {ct : Turn s.capacity} (hregistry : t'.registry = t.registry) (hjobs : t'.jobs = t.jobs)
      (hturn : t.registry.createRoomRecord s.toSettings args draws = some ct)
      (hmark : ∀ code, mark code = none) :
      Effect t mark carries none (t'.creationTurn s queued ct)
  /-- A call of `createRoomRecord` goes on. -/
  | goesOn {c : Creation s.capacity} {reply : Option HttpReply} {draws : Draws} {queued : Bool}
      {ct : Turn s.capacity} (hturn : t.registry.resume s.toSettings c reply draws = some ct)
      (hmark : ∀ code, mark code = none) :
      Effect t mark carries (some c) (t.creationTurn s queued ct)
  /-- The host deletes the room. -/
  | deletes {room : RoomRecord} {code : Text} {status : ℕ}
      (hroom : t.registry.find? code = some room) (hcarries : carries room.hostSecret)
      (hmark : ∀ code, mark code = none) :
      Effect t mark carries none ⟨{ t with registry := t.registry.delete code },
        stopRelaySession room.port room.ggpoPort, .inr (.answered ⟨status, none⟩)⟩

/-- The mark that the body of a request leaves on the room of a code without its secret. -/
def BodyRoute.mark (route : BodyRoute) (body : Option Value) (code : Text) : Option Text :=
  match route, body with
  | .events code', some body => if code = code' then postedMark body else none
  | _, _ => none

/-- The body of a request has the secret. -/
def BodyCarries (body : Option Value) (secret : Text) : Prop :=
  ∃ value, body = some value ∧ CarriesSecret value secret

namespace Server

variable {t : Server s.capacity} {turn : HandlerTurn s.capacity} {draws : Draws}

/-- A turn that leaves no mark. -/
lemma effect_of_gentle {carries : Text → Prop} {code : Text} (h : Gentle t turn code none carries) :
    Effect t (fun _ => none) carries none turn :=
  .gentle h fun _ _ => rfl

lemma effect_of_gentle_nil {carries : Text → Prop} (h : Gentle t turn [] none carries) :
    Effect t (fun _ => none) carries none turn :=
  effect_of_gentle h

lemma effect_createRoom {carries : Text → Prop} {body : Value}
    (h : t.createRoom s body draws = some turn) :
    Effect t (fun _ => none) carries none turn := by
  unfold createRoom at h
  split at h
  · obtain rfl := Option.some.inj h
    exact effect_of_gentle_nil (.throw t)
  · obtain ⟨ct, hct, rfl⟩ := Option.map_eq_some_iff.1 h
    exact .begins rfl rfl hct fun _ => rfl

lemma effect_queueJoin {carries : Text → Prop} {body : Value}
    (h : t.queueJoin s body draws = some turn) :
    Effect t (fun _ => none) carries none turn := by
  unfold queueJoin at h
  split at h
  · obtain rfl := Option.some.inj h
    exact effect_of_gentle_nil (.answer t _ _)
  · split at h
    · obtain rfl := Option.some.inj h
      exact effect_of_gentle_nil (.throw t)
    · split at h
      · -- a pair is taken from the queue before anything may throw
        unfold matchPair at h
        split at h
        · obtain ⟨ct, hct, rfl⟩ := Option.map_eq_some_iff.1 h
          exact .begins rfl rfl hct fun _ => rfl
        · obtain rfl := Option.some.inj h
          exact effect_of_gentle_nil ((Gentle.throw _).of_before rfl rfl)
      · obtain rfl := Option.some.inj h
        exact effect_of_gentle_nil ((Gentle.answer _ _ _).of_before rfl rfl)

lemma effect_delete {code : Text} {body : Value} :
    Effect t (fun _ => none) (CarriesSecret body) none (t.delete s code body) := by
  unfold delete asHost
  split
  · exact effect_of_gentle_nil (.answer t _ _)
  · rename_i room hroom
    split
    · exact effect_of_gentle_nil (.throw t)
    · split
      · rename_i hsecret
        obtain ⟨-, hcode⟩ := Registry.find?_some hroom
        subst hcode
        exact .deletes hroom (carriesSecret_of_verifyHostSecret hsecret) fun _ => rfl
      · exact effect_of_gentle_nil (.answer t _ _)

/-- **The turn that reads the body.** -/
lemma effect_readBody {route : BodyRoute} {body : Option Value}
    (h : t.readBody s route body draws = some turn) :
    Effect t (route.mark body) (BodyCarries body) none turn := by
  cases body with
  | none =>
    obtain rfl := Option.some.inj h
    have hmark : route.mark none = fun _ => none := by
      funext code
      cases route <;> rfl
    rw [hmark]
    exact effect_of_gentle_nil (.answer t _ _)
  | some body =>
    have hcarries : BodyCarries (some body) = CarriesSecret body := by
      funext secret
      simp [BodyCarries]
    rw [hcarries]
    cases route with
    | createRoom => exact effect_createRoom h
    | registerEndpoint code ip =>
      obtain rfl := Option.some.inj h
      exact effect_of_gentle (t.gentle_registerEndpoint ip body draws.now)
    | events code =>
      obtain rfl := Option.some.inj h
      have hmark : (BodyRoute.events code).mark (some body) code = postedMark body := if_pos rfl
      have hgentle : Gentle t (t.events s code body draws.now) code
          ((BodyRoute.events code).mark (some body) code) (CarriesSecret body) := by
        rw [hmark]
        exact t.gentle_events body draws.now
      exact .gentle hgentle fun code' hne => if_neg hne
    | delete code =>
      obtain rfl := Option.some.inj h
      exact effect_delete
    | heartbeat code =>
      obtain rfl := Option.some.inj h
      exact effect_of_gentle (t.gentle_heartbeat body draws.now)
    | queueJoin => exact effect_queueJoin h

/-- The creation that a handler is at. -/
def creation? : Suspended s.capacity → Option (Creation s.capacity)
  | .creating c _ => some c
  | _ => none

/-- **The turn that gets an answer of the relay manager.** -/
lemma effect_receive {reply : Option HttpReply} {h : Suspended s.capacity}
    (hturn : t.receive s reply draws h = some turn) :
    Effect t (fun _ => none) (fun _ => False) (creation? h) turn := by
  cases h with
  | reading route => cases hturn
  | creating c queued =>
    obtain ⟨ct, hct, rfl⟩ := Option.map_eq_some_iff.1 hturn
    exact .goesOn hct fun _ => rfl
  | visiting room purpose stage =>
    cases reply with
    | none =>
      obtain rfl := Option.some.inj hturn
      exact effect_of_gentle_nil (.throw t)
    | some reply =>
      obtain rfl := Option.some.inj hturn
      exact effect_of_gentle_nil (t.gentle_visitReply room purpose reply stage)

end Server

end Broker
end Sf4e
