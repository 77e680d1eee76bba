/-
# What the steps of a broker do to its queue

The body of a request for a match is read in one turn, which puts the name into the queue and, if
there are two, takes a pair out again and begins the creation of its room.  The turns in which
this creation goes on are the others of matchmaking; no other turn has to do with the queue
(`Aside`).

`QueueStep` has all the steps together, one case for each kind.
-/
import Sf4e.Broker.Server

namespace Sf4e
namespace Broker

open Trace

variable {s : ServerSettings}

/-! ## Requests for a match -/

/-- A request that has been put into the queue. -/
structure Waiting where
  id : ℕ
  name : Value

namespace Server

variable (t : Server s.capacity)

variable (s) in
/-- The name that a body is put into the queue with; `none` when it is not put there. -/
def joining (body : Option Value) : Option Value :=
  body.bind fun body =>
    if s.maxQueue.any fun limit => limit ≤ (t.queue.length : ℤ) then none
    else if body.isNull then none
    else some (Value.orElse (body.get "displayName") (.str "Player"))

/-- The request for a match whose body is read. -/
def polled : ServerAction → Option (ℕ × Option Value)
  | .body id body _ =>
    match t.jobs.at? id with
    | some (.reading .queueJoin) => some (id, body)
    | _ => none
  | _ => none

/-- The request that is put into the queue. -/
def joined (act : ServerAction) : Option Waiting :=
  (t.polled act).bind fun r => (t.joining s r.2).map fun name => ⟨r.1, name⟩

variable (s) in
/-- The arguments of the creation for a pair; `none` when they cannot be put together. -/
def pairArgs (a b : Value) (body : Value) : Option CreateArgs := do
  let sidecarHash ← Value.textOrEmpty (body.get "sidecarHash")
  let a ← a.toText
  let b ← b.toText
  return ⟨some (.str (a ++ " vs " ++ b)), s.relayHost, utf8 (trim sidecarHash)⟩

/-- The pair at the front of the queue once a name is in it, with its body. -/
def pairOf (body : Option Value) : Option (Value × Value × Value) :=
  match body, t.joining s body with
  | some body, some name =>
    match t.queue ++ [name] with
    | a :: b :: _ => some (a, b, body)
    | _ => none
  | _, _ => none

/-- The turn of the creation for a pair, and the request whose handler it is a turn of. -/
def pairTurn : ServerAction → Option (ℕ × Turn s.capacity)
  | .body id body draws => do
    let (id, body) ← t.polled (.body id body draws)
    let (a, b, body) ← t.pairOf body
    let args ← pairArgs s a b body
    let turn ← t.registry.createRoomRecord s.toSettings args draws
    return (id, turn)
  | .reply id reply draws =>
    match t.jobs.at? id with
    | some (.creating c true) =>
      (t.registry.resume s.toSettings c reply draws).map fun turn => (id, turn)
    | _ => none
  | _ => none

/-- The room that is sent to a request for a match. -/
def obtained (act : ServerAction) : Option (ℕ × RoomRecord) :=
  (t.pairTurn act).bind fun r =>
    match r.2.progress with
    | .done (.created room) => some (r.1, room)
    | _ => none

end Server

/-! ## Other turns -/

/-- The turn has nothing to do with the queue. -/
structure Aside (t : Server s.capacity) (turn : HandlerTurn s.capacity) : Prop where
  queue : turn.server.queue = t.queue
  jobs : turn.server.jobs = t.jobs
  /-- It does not begin a creation for a pair. -/
  unpaired : ∀ c, turn.progress ≠ .inl (.creating c true)

namespace Aside

variable {t t' : Server s.capacity} {turn : HandlerTurn s.capacity}

lemma answer (t : Server s.capacity) (status : ℕ) (error : Option String) :
    Aside t (t.answer s status error) :=
  ⟨rfl, rfl, by simp [Server.answer]⟩

lemma throw (t : Server s.capacity) : Aside t (t.throw s) := ⟨rfl, rfl, by simp [Server.throw]⟩

lemma reading (t : Server s.capacity) (route : BodyRoute) :
    Aside t (t.suspend s (.reading route)) :=
  ⟨rfl, rfl, by simp [Server.suspend]⟩

lemma visiting (t : Server s.capacity) (room : RoomRecord) (purpose : Purpose)
    (stage : VisitStage) : Aside t (t.suspend s (.visiting room purpose stage)) :=
  ⟨rfl, rfl, by simp [Server.suspend]⟩

/-- What was done before is of no concern to the queue. -/
lemma of_before (h : Aside t' turn) (hqueue : t'.queue = t.queue) (hjobs : t'.jobs = t.jobs) :
    Aside t turn :=
  ⟨h.queue.trans hqueue, h.jobs.trans hjobs, h.unpaired⟩

end Aside

namespace Server

variable (t : Server s.capacity)

/-! ### Requests -/

lemma aside_visit (room : RoomRecord) (purpose : Purpose) : Aside t (t.visit s room purpose) := by
  unfold visit
  split
  · exact .visiting t _ _ _
  · exact .answer t _ _

lemma aside_lookLast (room : RoomRecord) (purpose : Purpose) :
    Aside t (t.lookLast s room purpose) := by
  unfold lookLast
  split
  · exact .visiting t _ _ _
  · exact .answer t _ _

lemma aside_visitReply (room : RoomRecord) (purpose : Purpose) (reply : HttpReply)
    (stage : VisitStage) : Aside t (t.visitReply s room purpose reply stage) := by
  cases stage with
  | ensuring stage =>
    simp only [visitReply]
    split
    · exact .visiting t _ _ _
    · split
      · exact t.aside_lookLast room purpose
      · exact .answer t _ _
    · exact .throw t
  | lookSession => exact t.aside_lookLast room purpose
  | lookGgpo => exact .answer t _ _

lemma aside_checkRate (req : HttpRequest) (bucket : String) (limit now : ℕ)
    {allowed : Server s.capacity → HandlerTurn s.capacity}
    (hallowed : ∀ t, Aside t (allowed t)) :
    Aside t (t.checkRate s req bucket limit now allowed) := by
  simp only [checkRate]
  split
  · exact (hallowed _).of_before rfl rfl
  · exact (Aside.answer _ _ _).of_before rfl rfl

lemma aside_listing (found : Bool) : Aside t (t.listing s found) := by
  unfold listing
  split
  · exact .answer t _ _
  · exact .answer t _ _

lemma aside_seen (code : Wire.Text) (now : ℕ) (purpose : Purpose) :
    Aside t (t.seen s code now purpose) := by
  unfold seen
  split
  · exact .answer t _ _
  · exact (aside_visit _ _ _).of_before rfl rfl

lemma aside_roomRequest (req : HttpRequest) (verb : RoomVerb) (code : Wire.Text) (now : ℕ) :
    Aside t (t.roomRequest s req verb code now) := by
  cases verb with
  | health =>
    simp only [roomRequest]
    split
    · exact .answer t _ _
    · exact t.aside_visit _ _
  | connectPlan => exact t.aside_checkRate req _ _ now fun t => t.aside_seen code now _
  | lookup => exact t.aside_checkRate req _ _ now fun t => t.aside_seen code now _
  | registerEndpoint => exact t.aside_checkRate req _ _ now fun t => .reading t _
  | events => exact t.aside_checkRate req _ _ now fun t => .reading t _
  | delete => exact t.aside_checkRate req _ _ now fun t => .reading t _
  | heartbeat => exact t.aside_checkRate req _ _ now fun t => .reading t _

lemma aside_dispatch (req : HttpRequest) (url : Url) (now : ℕ) :
    Aside t (t.dispatch s req url now) := by
  unfold dispatch
  cases route req.method url.pathname with
  | health => exact .answer t _ _
  | «matches» => exact t.aside_listing _
  | matchById matchId => exact t.aside_listing _
  | listRooms => exact t.aside_listing _
  | createRoom => exact t.aside_checkRate req _ _ now fun t => .reading t _
  | room verb code => exact t.aside_roomRequest req verb _ now
  | queueJoin => exact .reading t _
  | unknown => exact .answer t _ _

/-- **The turn in which a request is accepted.** -/
lemma aside_accept (newUrl : NewUrl) (req : HttpRequest) (now : ℕ) :
    Aside t (t.accept s newUrl req now) := by
  unfold accept
  split
  · exact .answer t _ _
  · simp only
    split
    · exact ⟨rfl, rfl, by simp⟩
    · rename_i url hurl
      have h := aside_dispatch { t with registry := (t.registry.prune s now).1 } req url now
      exact ⟨h.queue, h.jobs, h.unpaired⟩

/-! ### Bodies -/

lemma aside_registerPort (room : RoomRecord) (role : Role) (ip : String) (body : Value) (now : ℕ)
    (port : Option ℤ) : Aside t (t.registerPort s room role ip body now port) := by
  obtain ⟨f, hf⟩ := t.lookupNatProbe_eq s ip now
  have hqueue : (t.lookupNatProbe s ip now).2.queue = t.queue := by rw [hf]
  have hjobs : (t.lookupNatProbe s ip now).2.jobs = t.jobs := by rw [hf]
  unfold registerPort
  split
  · simp only
    split
    · exact (Aside.answer _ _ _).of_before hqueue hjobs
    · split
      · exact (Aside.throw _).of_before hqueue hjobs
      · exact (Aside.answer _ _ _).of_before hqueue hjobs
  · exact .answer t _ _

lemma aside_registerEndpoint (code : Wire.Text) (ip : String) (body : Value) (now : ℕ) :
    Aside t (t.registerEndpoint s code ip body now) := by
  unfold registerEndpoint
  split
  · exact .answer t _ _
  · split
    · exact .throw t
    · split
      · exact .throw t
      · split
        · exact .answer t _ _
        · unfold registerRole
          split
          · exact .answer t _ _
          · split
            · exact .throw t
            · exact t.aside_registerPort _ _ _ _ _ _

lemma aside_postEvent (room : RoomRecord) (eventType : String) (body : Value) (now : ℕ) :
    Aside t (t.postEvent s room eventType body now) := by
  simp only [postEvent]
  split
  · split
    · exact (Aside.throw _).of_before rfl rfl
    · exact .throw t
  · split
    · exact (Aside.answer _ _ _).of_before rfl rfl
    · exact (Aside.answer _ _ _).of_before rfl rfl

lemma aside_events (code : Wire.Text) (body : Value) (now : ℕ) :
    Aside t (t.events s code body now) := by
  unfold events
  split
  · exact .answer t _ _
  · split
    · exact .throw t
    · split
      · exact .throw t
      · split
        · exact .answer t _ _
        · split
          · exact .answer t _ _
          · exact t.aside_postEvent _ _ _ _

lemma aside_asHost (code : Wire.Text) (body : Value)
    {act : RoomRecord → HandlerTurn s.capacity} (hact : ∀ room, Aside t (act room)) :
    Aside t (t.asHost s code body act) := by
  unfold asHost
  split
  · exact .answer t _ _
  · split
    · exact .throw t
    · split
      · exact hact _
      · exact .answer t _ _

/-- A turn of a creation that is not for a pair. -/
lemma aside_creationTurn (turn : Turn s.capacity) : Aside t (t.creationTurn s false turn) := by
  refine ⟨rfl, rfl, fun c => ?_⟩
  simp only [creationTurn]
  split <;> simp

lemma aside_createRoom {body : Value} {draws : Draws} {turn : HandlerTurn s.capacity}
    (h : t.createRoom s body draws = some turn) : Aside t turn := by
  unfold createRoom at h
  split at h
  · obtain rfl := Option.some.inj h
    exact .throw t
  · obtain ⟨ct, -, rfl⟩ := Option.map_eq_some_iff.1 h
    exact t.aside_creationTurn ct

lemma aside_receive {reply : Option HttpReply} {draws : Draws} {h : Suspended s.capacity}
    {turn : HandlerTurn s.capacity} (hunpaired : ∀ c, h ≠ .creating c true)
    (hturn : t.receive s reply draws h = some turn) : Aside t turn := by
  cases h with
  | reading route => cases hturn
  | creating c queued =>
    cases queued with
    | true => exact absurd rfl (hunpaired c)
    | false =>
      obtain ⟨ct, -, rfl⟩ := Option.map_eq_some_iff.1 hturn
      exact t.aside_creationTurn ct
  | visiting room purpose stage =>
    cases reply with
    | none =>
      obtain rfl := Option.some.inj hturn
      exact .throw t
    | some reply =>
      obtain rfl := Option.some.inj hturn
      exact t.aside_visitReply room purpose reply stage

/-- **The turn that reads a body**, if it is not one of a request for a match. -/
lemma aside_readBody {route : BodyRoute} {body : Option Value} {draws : Draws}
    {turn : HandlerTurn s.capacity} (hroute : route ≠ .queueJoin)
    (h : t.readBody s route body draws = some turn) : Aside t turn := by
  cases body with
  | none =>
    obtain rfl := Option.some.inj h
    exact .answer t _ _
  | some body =>
    cases route with
    | createRoom => exact t.aside_createRoom h
    | registerEndpoint code ip =>
      obtain rfl := Option.some.inj h
      exact t.aside_registerEndpoint code ip body _
    | events code =>
      obtain rfl := Option.some.inj h
      exact t.aside_events code body _
    | delete code =>
      obtain rfl := Option.some.inj h
      exact t.aside_asHost code body fun room => ⟨rfl, rfl, by simp⟩
    | heartbeat code =>
      obtain rfl := Option.some.inj h
      exact t.aside_asHost code body fun room => (aside_visit _ _ _).of_before rfl rfl
    | queueJoin => exact absurd rfl hroute

end Server

/-! ## The turn of a request for a match -/

/-- The turn in which a name is put into the queue. -/
inductive JoinTurn (t : Server s.capacity) (body name : Value) (draws : Draws) :
    HandlerTurn s.capacity → Prop
  /-- It is alone there. -/
  | waits (hqueue : t.queue = []) :
      JoinTurn t body name draws (Server.answer s { t with queue := [name] } 202)
  /-- A pair is taken out, and then something about it is no text. -/
  | throws {a b : Value} {rest : List Value} (hqueue : t.queue ++ [name] = a :: b :: rest)
      (hargs : Server.pairArgs s a b body = none) :
      JoinTurn t body name draws (Server.throw s { t with queue := rest })
  /-- A pair is taken out, and the creation of its room begins. -/
  | creates {a b : Value} {rest : List Value} {args : CreateArgs} {ct : Turn s.capacity}
      (hqueue : t.queue ++ [name] = a :: b :: rest)
      (hargs : Server.pairArgs s a b body = some args)
      (hct : t.registry.createRoomRecord s.toSettings args draws = some ct) :
      JoinTurn t body name draws (Server.creationTurn s { t with queue := rest } true ct)

namespace Server

variable {t : Server s.capacity} {body : Value} {draws : Draws} {turn : HandlerTurn s.capacity}

/-- A request that is not put into the queue. -/
lemma aside_queueJoin (hnone : t.joining s (some body) = none)
    (h : t.queueJoin s body draws = some turn) : Aside t turn := by
  unfold queueJoin at h
  simp only [joining, Option.bind_some] at hnone
  split at h
  · obtain rfl := Option.some.inj h
    exact .answer t _ _
  · rename_i hroom
    rw [if_neg hroom] at hnone
    split at h
    · obtain rfl := Option.some.inj h
      exact .throw t
    · rename_i hnull
      rw [if_neg hnull] at hnone
      cases hnone

lemma joinTurn {name : Value} (hname : t.joining s (some body) = some name)
    (h : t.queueJoin s body draws = some turn) : JoinTurn t body name draws turn := by
  unfold queueJoin at h
  simp only [joining, Option.bind_some] at hname
  split at h
  · rename_i hfull
    rw [if_pos hfull] at hname
    cases hname
  · rename_i hroom
    rw [if_neg hroom] at hname
    split at h
    · rename_i hnull
      rw [if_pos hnull] at hname
      cases hname
    · rename_i hnull
      rw [if_neg hnull] at hname
      obtain rfl := Option.some.inj hname
      split at h
      · rename_i a b rest hqueue
        unfold matchPair at h
        split at h
        · rename_i sidecarHash a' b' hsidecarHash ha hb
          obtain ⟨ct, hct, rfl⟩ := Option.map_eq_some_iff.1 h
          refine .creates hqueue ?_ hct
          simp [pairArgs, hsidecarHash, ha, hb]
        · rename_i hnot
          obtain rfl := Option.some.inj h
          refine .throws hqueue ?_
          -- all three would have to be texts
          cases hsidecarHash : Value.textOrEmpty (body.get "sidecarHash") with
          | none => simp [pairArgs, hsidecarHash]
          | some sidecarHash =>
            cases ha : a.toText with
            | none => simp [pairArgs, ha]
            | some a' =>
              cases hb : b.toText with
              | none => simp [pairArgs, hb]
              | some b' => exact (hnot sidecarHash a' b' hsidecarHash ha hb).elim
      · rename_i hshort
        obtain rfl := Option.some.inj h
        have hempty : t.queue = [] := by
          cases hqueue : t.queue with
          | nil => rfl
          | cons a queue =>
            cases queue with
            | nil => exact (hshort a _ [] (by rw [hqueue]; rfl)).elim
            | cons b queue => exact (hshort a b (queue ++ [_]) (by rw [hqueue]; rfl)).elim
        rw [hempty]
        exact .waits hempty

end Server

/-! ## Steps -/

/-- What a step of a broker does to its queue. -/
inductive QueueStep (t : Server s.capacity) :
    ServerAction → ServerOut × Server s.capacity → Prop
  /-- A timer or a probe. -/
  | timer {act : ServerAction} {out : ServerOut} {t' : Server s.capacity}
      (hpolled : t.polled act = none) (hpair : t.pairTurn act = none) (hended : out.ended = none)
      (hqueue : t'.queue = t.queue) (hjobs : t'.jobs = t.jobs) : QueueStep t act (out, t')
  /-- A request is accepted. -/
  | request {req : HttpRequest} {now : ℕ} {turn : HandlerTurn s.capacity}
      (hturn : Aside { t with jobs := t.jobs.draw } turn) :
      QueueStep t (.request req now) (Server.settle t.jobs.count turn)
  /-- A handler goes on that has nothing to do with the queue. -/
  | aside {act : ServerAction} {id : ℕ} {h : Suspended s.capacity}
      {turn : HandlerTurn s.capacity} (hat : t.jobs.at? id = some h)
      (hunpaired : ∀ c, h ≠ .creating c true) (hjoined : t.joined act = none)
      (hpair : t.pairTurn act = none) (hturn : Aside t turn) :
      QueueStep t act (Server.settle id turn)
  /-- A request is put into the queue. -/
  | joins {id : ℕ} {body name : Value} {draws : Draws} {turn : HandlerTurn s.capacity}
      (hat : t.jobs.at? id = some (.reading .queueJoin))
      (hname : t.joining s (some body) = some name) (hturn : JoinTurn t body name draws turn) :
      QueueStep t (.body id (some body) draws) (Server.settle id turn)
  /-- The creation of the room for a pair goes on. -/
  | goesOn {id : ℕ} {c : Creation s.capacity} {reply : Option HttpReply} {draws : Draws}
      {ct : Turn s.capacity} (hat : t.jobs.at? id = some (.creating c true))
      (hct : t.registry.resume s.toSettings c reply draws = some ct) :
      QueueStep t (.reply id reply draws) (Server.settle id (t.creationTurn s true ct))

namespace Server

variable {t : Server s.capacity} {newUrl : NewUrl}

lemma polled_body (id : ℕ) (body : Option Value) (draws : Draws)
    (hat : t.jobs.at? id = some (.reading .queueJoin)) :
    t.polled (.body id body draws) = some (id, body) := by
  simp [polled, hat]

lemma polled_body_of_ne {id : ℕ} {body : Option Value} {draws : Draws} {route : BodyRoute}
    (hat : t.jobs.at? id = some (.reading route)) (hroute : route ≠ .queueJoin) :
    t.polled (.body id body draws) = none := by
  simp only [polled, hat]
  split
  · rename_i heq
    exact absurd (by simpa using heq) hroute
  · rfl

lemma pairOf_of_joining {body : Option Value} (hnone : t.joining s body = none) :
    t.pairOf body = none := by
  unfold pairOf
  split
  · rename_i heq
    rw [hnone] at heq
    cases heq
  · rfl

/-- A request that is not put into the queue begins no creation for a pair. -/
lemma pairTurn_body {id : ℕ} {body : Option Value} {draws : Draws}
    (hnone : t.joined (.body id body draws) = none) : t.pairTurn (.body id body draws) = none := by
  simp only [pairTurn]
  cases hpolled : t.polled (.body id body draws) with
  | none => rfl
  | some r =>
    simp only [joined, hpolled, Option.bind_some, Option.map_eq_none_iff] at hnone
    simp [pairOf_of_joining hnone]

/-- **Every step does one of these.** -/
lemma queueStep {act : ServerAction} {r : ServerOut × Server s.capacity}
    (h : t.next s newUrl act = some r) : QueueStep t act r := by
  cases act with
  | request req now =>
    obtain rfl := Option.some.inj h
    exact .request (aside_accept _ newUrl req now)
  | body id body draws =>
    simp only [next] at h
    split at h
    · rename_i route hat
      obtain ⟨turn, hturn, rfl⟩ := Option.map_eq_some_iff.1 h
      by_cases hroute : route = .queueJoin
      · subst hroute
        have hpolled := polled_body id body draws hat
        -- nobody joins a full queue, or with a body that is null or that cannot be parsed
        cases hname : t.joining s body with
        | none =>
          have hjoined : t.joined (.body id body draws) = none := by
            simp [joined, hpolled, hname]
          refine .aside hat (by simp) hjoined (pairTurn_body hjoined) ?_
          cases body with
          | none =>
            obtain rfl := Option.some.inj hturn
            exact .answer t _ _
          | some body => exact aside_queueJoin hname hturn
        | some name =>
          cases body with
          | none => cases hname
          | some body => exact .joins hat hname (joinTurn hname hturn)
      · have hpolled : t.polled (.body id body draws) = none := polled_body_of_ne hat hroute
        have hjoined : t.joined (.body id body draws) = none := by simp [joined, hpolled]
        exact .aside hat (by simp) hjoined (pairTurn_body hjoined) (aside_readBody t hroute hturn)
    · cases h
  | reply id reply draws =>
    obtain ⟨hd, hat, hrec⟩ := Option.bind_eq_some_iff.1 h
    obtain ⟨turn, hturn, rfl⟩ := Option.map_eq_some_iff.1 hrec
    -- only the creation of a room for a pair is of the queue
    by_cases hpaired : ∃ c, hd = .creating c true
    · obtain ⟨c, rfl⟩ := hpaired
      obtain ⟨ct, hct, rfl⟩ := Option.map_eq_some_iff.1 hturn
      exact .goesOn hat hct
    · have hunpaired : ∀ c, hd ≠ .creating c true := fun c hc => hpaired ⟨c, hc⟩
      refine .aside hat hunpaired rfl ?_ (aside_receive t hunpaired hturn)
      simp only [pairTurn, hat]
      split
      · rename_i c heq
        exact absurd (Option.some.inj heq) (hunpaired c)
      · rfl
  | prune now =>
    obtain rfl := Option.some.inj h
    exact .timer rfl rfl rfl rfl rfl
  | cleanRates now =>
    obtain rfl := Option.some.inj h
    exact .timer rfl rfl rfl rfl rfl
  | probe address probe now =>
    obtain rfl := Option.some.inj h
    refine .timer rfl rfl rfl ?_ ?_
    · split <;> rfl
    · split <;> rfl

end Server

end Broker
end Sf4e
