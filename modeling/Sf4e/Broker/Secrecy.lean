/-
# The broker keeps the secrets of its rooms

The broker with all that its answers are made of, seen through a renaming of secrets.  A run of
the broker is taken to a run with the same answers, but for those that hold a renamed secret; so
nothing else that the broker says depends on the secret of a room.
-/
import Sf4e.Broker.HostIntegrity
import Sf4e.Broker.Renaming
import Sf4e.Broker.Replies

namespace Sf4e
namespace Broker

open Wire Trace Transport

/-! ## Renamed answers -/

/-- The answer of the renamed broker. -/
def AnswerBody.rename (r : Renaming) : AnswerBody → AnswerBody
  | .created room => .created (room.rename r)
  | .matched room => .matched (room.rename r)
  | .plan relay room role => .plan relay (room.rename r) role
  | .registered room role => .registered (room.rename r) role
  | .empty => .empty
  | .json members => .json members

variable {s : ServerSettings}

/-- The broker with what its handlers have kept. -/
def Desk.rename (r : Renaming) (d : Desk s.capacity) : Desk s.capacity :=
  { d with
    server := d.server.rename r
    ended := fun code => (d.ended code).map (RoomRecord.rename r) }

/-- What a step of the renamed broker puts out. -/
def renameOut (r : Renaming) (out : ServerOut × Option AnswerBody) :
    ServerOut × Option AnswerBody :=
  (out.1, out.2.map (AnswerBody.rename r))

/-! ## Creations -/

section Creations

variable (r : Renaming) (t : Server s.capacity)

lemma queueArgs_rename (body : Value) :
    (t.rename r).queueArgs s (body.rename r) = t.queueArgs s body := by
  have hpair : ∀ a b, Server.pairArgs s a b (body.rename r) = Server.pairArgs s a b body := by
    intro a b
    unfold Server.pairArgs
    rw [Value.get_rename_of_ne r (by decide)]
  unfold Server.queueArgs
  rw [show (t.rename r).queue = t.queue from rfl, Value.isNull_rename,
    Value.get_rename_of_ne r (by decide)]
  split
  · rfl
  · split
    · exact hpair _ _
    · rfl

/-- A call with given arguments, on its way to a renamed room. -/
lemma bind_createRoomRecord_rename (args : Option CreateArgs) (draws : Draws) (queued : Bool) :
    (args.bind fun args => ((t.rename r).registry.createRoomRecord s.toSettings args
        (draws.rename r)).map fun turn => (queued, turn)) =
      (args.bind fun args => (t.registry.createRoomRecord s.toSettings args draws).map
        fun turn => (queued, turn)).map fun c => (c.1, c.2.rename r) := by
  cases args with
  | none => rfl
  | some args =>
    dsimp only [Option.bind_some]
    rw [show (t.rename r).registry = t.registry.rename r from rfl, createRoomRecord_rename,
      Option.map_map, Option.map_map]
    rfl

lemma creating_rename (a : ServerAction) :
    (t.rename r).creating s (a.rename r) =
      (t.creating s a).map fun c => (c.1, c.2.rename r) := by
  have hjobs : ∀ id, (t.rename r).jobs.at? id = (t.jobs.at? id).map (Suspended.rename r) :=
    fun id => Jobs.at?_map _ _ id
  cases a with
  | body id body draws =>
    cases body with
    | none => rfl
    | some body =>
      unfold Server.creating ServerAction.rename
      dsimp only [Option.map_some]
      rw [hjobs, Server.createArgs_rename, queueArgs_rename]
      cases t.jobs.at? id with
      | none => rfl
      | some h =>
        cases h with
        | reading route =>
          cases route with
          | createRoom => exact bind_createRoomRecord_rename r t _ draws false
          | queueJoin => exact bind_createRoomRecord_rename r t _ draws true
          | registerEndpoint | events | delete | heartbeat => rfl
        | creating | visiting => rfl
  | reply id reply draws =>
    unfold Server.creating ServerAction.rename
    dsimp only
    rw [hjobs]
    cases t.jobs.at? id with
    | none => rfl
    | some h =>
      cases h with
      | creating c queued =>
        dsimp only [Option.map_some, Suspended.rename]
        rw [show (t.rename r).registry = t.registry.rename r from rfl, resume_rename,
          Option.map_map, Option.map_map]
        rfl
      | reading | visiting => rfl
  | request | prune | cleanRates | probe => rfl

/-- What a creation comes to, in a renamed room. -/
lemma creationResult_rename (a : ServerAction) :
    (t.rename r).creationResult s (a.rename r) =
      (t.creationResult s a).map fun c => (c.1, c.2.rename r) := by
  have hresult : ∀ p : Progress s.capacity,
      (p.rename r).result = p.result.map (Created.rename r) := fun p => by cases p <;> rfl
  unfold Server.creationResult
  rw [creating_rename]
  cases t.creating s a with
  | none => rfl
  | some c =>
    show ((c.2.progress.rename r).result).map _ = (c.2.progress.result.map _).map _
    rw [hresult, Option.map_map, Option.map_map]
    rfl

end Creations

/-! ## What the handlers keep -/

namespace Desk

section Kept

variable (r : Renaming) (d : Desk s.capacity)

lemma endRooms_rename (rooms : List RoomRecord) (now : ℕ) :
    (d.rename r).endRooms s (rooms.map (RoomRecord.rename r)) now =
      (d.endRooms s rooms now).rename r := by
  unfold endRooms Desk.rename
  dsimp only
  congr 1
  funext code
  rw [List.map_append, List.filter_map, List.map_map, List.map_map]
  rfl

lemma pruned_rename (now : ℕ) :
    (d.rename r).pruned s now = (d.pruned s now).map (RoomRecord.rename r) := by
  show (d.server.registry.rooms.map _).filter _ = (d.server.registry.rooms.filter _).map _
  rw [List.filter_map]
  rfl

lemma find?_eq (code : Text) : (d.rename r).server.registry.find? code =
    (d.server.registry.find? code).map (RoomRecord.rename r) :=
  find?_rename r d.server.registry code

lemma object_rename (id : ℕ) (room : RoomRecord) :
    (d.rename r).object s id (room.rename r) = (d.object s id room).rename r := by
  have hended : ((d.rename r).ended (room.rename r).code)[((d.rename r).notes id).ended]? =
      ((d.ended room.code)[(d.notes id).ended]?).map (RoomRecord.rename r) := List.getElem?_map
  have hfind := find?_eq r d room.code
  unfold object
  rw [hended, show (room.rename r).code = room.code from rfl, hfind]
  cases (d.ended room.code)[(d.notes id).ended]? with
  | some _ => rfl
  | none => cases d.server.registry.find? room.code <;> rfl

lemma keepBody_rename (id : ℕ) (body : Value) (now : ℕ) (route : BodyRoute) :
    (d.rename r).keepBody s id (body.rename r) now route =
      (d.keepBody s id body now route).rename r := by
  cases route with
  | registerEndpoint code ip =>
    unfold keepBody
    dsimp only
    rw [Value.get_rename_of_ne r (by decide)]
    rfl
  | events code =>
    unfold keepBody
    dsimp only
    rw [Value.get_rename_of_ne r (by decide), Value.get_rename_of_ne r (by decide)]
    rfl
  | delete code =>
    have hlist : ((d.rename r).server.registry.find? code).toList =
        (d.server.registry.find? code).toList.map (RoomRecord.rename r) := by
      rw [find?_eq]
      cases d.server.registry.find? code <;> rfl
    unfold keepBody
    dsimp only
    rw [hlist]
    exact endRooms_rename r d _ now
  | heartbeat code =>
    unfold keepBody
    dsimp only
    rw [show (d.rename r).ended code = (d.ended code).map _ from rfl, List.length_map]
    rfl
  | createRoom | queueJoin => rfl

lemma keepReply_rename (id : ℕ) (room : RoomRecord) (reply : HttpReply) (stage : VisitStage) :
    (d.rename r).keepReply s id (room.rename r) reply stage =
      (d.keepReply s id room reply stage).rename r := by
  cases stage with
  | ensuring stage =>
    unfold keepReply
    dsimp only
    rw [Server.ensureRelaySession_rename]
    cases ensureRelaySession room reply stage <;> rfl
  | lookSession | lookGgpo => rfl

lemma requestNote_rename (newUrl : NewUrl) (req : HttpRequest) :
    (d.rename r).requestNote s newUrl req = d.requestNote s newUrl req := by
  have hended : ∀ code, ((d.rename r).ended code).length = (d.ended code).length :=
    fun code => List.length_map _
  unfold requestNote
  split
  · rw [hended]
  · rw [hended]
  · rfl

lemma jobs_rename (id : ℕ) : (d.rename r).server.jobs.at? id =
    (d.server.jobs.at? id).map (Suspended.rename r) :=
  Jobs.at?_map _ _ id

lemma keepRead_rename (id : ℕ) (body : Option Value) (now : ℕ) (out : ServerOut) :
    (d.rename r).keepRead s id (body.map (Value.rename r)) now out =
      (d.keepRead s id body now out).rename r := by
  unfold keepRead
  rw [jobs_rename]
  cases body with
  | none => rfl
  | some body =>
    cases d.server.jobs.at? id with
    | none => rfl
    | some h =>
      cases h with
      | reading route =>
        have hkeep := keepBody_rename r d id body now route
        cases route with
        | heartbeat code => exact hkeep
        | createRoom | registerEndpoint | events | delete | queueJoin =>
          dsimp only [Option.map_some, Suspended.rename]
          rw [hkeep]
          split <;> rfl
      | creating | visiting => rfl

lemma keepVisit_rename (id : ℕ) (reply : Option HttpReply) :
    (d.rename r).keepVisit s id reply = (d.keepVisit s id reply).rename r := by
  unfold keepVisit
  rw [jobs_rename]
  cases reply with
  | none => rfl
  | some reply =>
    cases d.server.jobs.at? id with
    | none => rfl
    | some h =>
      cases h with
      | visiting room purpose stage => exact keepReply_rename r d id room reply stage
      | reading | creating => rfl

lemma keep_rename (newUrl : NewUrl) (a : ServerAction) (out : ServerOut) :
    (d.rename r).keep s newUrl (a.rename r) out = (d.keep s newUrl a out).rename r := by
  have hcreation := creationResult_rename r d.server a
  cases a with
  | request req now =>
    unfold keep ServerAction.rename
    dsimp only
    rw [pruned_rename, endRooms_rename, requestNote_rename]
    split <;> rfl
  | body id body draws =>
    have hread := keepRead_rename r d id body draws.now out
    unfold ServerAction.rename at hcreation ⊢
    unfold keep
    dsimp only at hcreation ⊢
    rw [show (d.rename r).server = d.server.rename r from rfl, hcreation]
    rcases d.server.creationResult s (.body id body draws) with _ | ⟨queued, result⟩
    · exact hread
    · cases result with
      | created room => rfl
      | full | invalidHash | relayStartFailed | thrown => exact hread
  | reply id reply draws =>
    have hvisit := keepVisit_rename r d id reply
    unfold ServerAction.rename at hcreation ⊢
    unfold keep
    dsimp only at hcreation ⊢
    rw [show (d.rename r).server = d.server.rename r from rfl, hcreation]
    rcases d.server.creationResult s (.reply id reply draws) with _ | ⟨queued, result⟩
    · exact hvisit
    · cases result with
      | created room => rfl
      | full | invalidHash | relayStartFailed | thrown => exact hvisit
  | prune now =>
    unfold keep ServerAction.rename
    dsimp only
    rw [pruned_rename, endRooms_rename]
  | cleanRates | probe => rfl

end Kept

/-! ## What the broker says -/

section Said

variable (r : Renaming) (d : Desk s.capacity)

lemma unvisited_rename (verb : RoomVerb) (role : String) (room : RoomRecord) :
    unvisited s verb role (room.rename r) = (unvisited s verb role room).rename r := by
  cases verb <;> rfl

lemma rooms_rename : (d.rename r).server.registry.rooms =
    d.server.registry.rooms.map (RoomRecord.rename r) := rfl

lemma healthMembers_rename : (d.rename r).healthMembers s = d.healthMembers s := by
  unfold healthMembers
  rw [rooms_rename, List.length_map]
  rfl

lemma routeReply_rename (role : String) (now : ℕ) (error : Option String) (route : Route) :
    (d.rename r).routeReply s role now error route =
      (d.routeReply s role now error route).rename r := by
  cases error with
  | some error => rfl
  | none =>
    unfold routeReply
    dsimp only
    cases route with
    | health => exact congrArg AnswerBody.json (healthMembers_rename r d)
    | «matches» =>
      dsimp only
      rw [rooms_rename, List.map_map]
      rfl
    | matchById matchId =>
      have hfind : ((d.rename r).server.registry.rooms.find? fun room =>
          room.matchId.1 == utf8 matchId) = (d.server.registry.rooms.find? fun room =>
            room.matchId.1 == utf8 matchId).map (RoomRecord.rename r) := List.find?_map
      dsimp only
      rw [hfind]
      generalize d.server.registry.rooms.find? _ = found
      cases found <;> rfl
    | listRooms =>
      dsimp only
      rw [rooms_rename, List.filter_map, List.map_map]
      rfl
    | room verb code =>
      dsimp only
      rw [find?_eq]
      cases d.server.registry.find? (utf8 code) with
      | none => rfl
      | some room => exact unvisited_rename r verb role room
    | createRoom | queueJoin | unknown => rfl

lemma requestReply_rename (newUrl : NewUrl) (req : HttpRequest) (now : ℕ)
    (error : Option String) : (d.rename r).requestReply s newUrl req now error =
      (d.requestReply s newUrl req now error).rename r := by
  unfold requestReply
  split
  · rfl
  · split
    · exact routeReply_rename r d _ now error _
    · rfl

lemma bodyFailure_rename (natProbePort : ℕ) (route : BodyRoute) (body : Value) (error : String) :
    bodyFailure natProbePort route (body.rename r) error =
      (bodyFailure natProbePort route body error).rename r := by
  have htype : noEventType (body.rename r) = noEventType body := by
    unfold noEventType
    rw [Value.get_rename_of_ne r (by decide)]
  unfold bodyFailure
  rw [htype]
  split <;> rfl

lemma bodyReply_rename (body : Value) (route : BodyRoute) :
    (d.rename r).bodyReply s (body.rename r) route = (d.bodyReply s body route).rename r := by
  cases route with
  | registerEndpoint code ip =>
    unfold bodyReply
    dsimp only
    rw [find?_eq, Value.get_rename_of_ne r (by decide)]
    cases d.server.registry.find? code with
    | none => rfl
    | some room => cases (Value.textOrEmpty (body.get "role")).bind Role.parse <;> rfl
  | events code | heartbeat code =>
    unfold bodyReply
    dsimp only
    rw [find?_eq]
    cases d.server.registry.find? code <;> rfl
  | delete | queueJoin | createRoom => rfl

lemma readReply_rename (before : Server s.capacity) (id : ℕ) (body : Value)
    (error : Option String) :
    (d.rename r).readReply s (before.rename r) id (body.rename r) error =
      (d.readReply s before id body error).rename r := by
  unfold readReply
  rw [show (before.rename r).jobs.at? id = (before.jobs.at? id).map (Suspended.rename r) from
    Jobs.at?_map _ _ id]
  cases before.jobs.at? id with
  | none => rfl
  | some h =>
    cases h with
    | reading route =>
      cases error with
      | some error => exact bodyFailure_rename r _ route body error
      | none => exact bodyReply_rename r d body route
    | creating | visiting => rfl

lemma visitReply_rename (id : ℕ) (room : RoomRecord) (purpose : Purpose) (reply : HttpReply)
    (stage : VisitStage) :
    (d.rename r).visitReply s id (room.rename r) purpose reply stage =
      (d.visitReply s id room purpose reply stage).rename r := by
  have hnotes : (d.rename r).notes = d.notes := rfl
  unfold visitReply
  rw [object_rename, hnotes]
  cases stage with
  | ensuring stage =>
    dsimp only
    rw [Server.ensureRelaySession_rename]
    cases ensureRelaySession room reply stage with
    | done result =>
      cases purpose with
      | ensure => cases (d.notes id).role <;> rfl
      | health | lookup => rfl
    | await | thrown => rfl
  | lookSession => rfl
  | lookGgpo => cases purpose <;> rfl

lemma answerReply_rename (before : Server s.capacity) (id : ℕ) (reply : Option HttpReply) :
    (d.rename r).answerReply s (before.rename r) id reply =
      (d.answerReply s before id reply).rename r := by
  unfold answerReply
  rw [show (before.rename r).jobs.at? id = (before.jobs.at? id).map (Suspended.rename r) from
    Jobs.at?_map _ _ id]
  cases reply with
  | none => rfl
  | some reply =>
    cases before.jobs.at? id with
    | none => rfl
    | some h =>
      cases h with
      | visiting room purpose stage => exact visitReply_rename r d id room purpose reply stage
      | reading | creating => rfl

lemma creationReply_rename (queued : Bool) (result : Created) :
    creationReply queued (result.rename r) = (creationReply queued result).rename r := by
  cases result with
  | created room => cases queued <;> rfl
  | full | invalidHash | relayStartFailed | thrown => rfl

lemma replyTo_rename (newUrl : NewUrl) (before : Server s.capacity) (a : ServerAction)
    (error : Option String) :
    (d.rename r).replyTo s newUrl (before.rename r) (a.rename r) error =
      (d.replyTo s newUrl before a error).rename r := by
  have hcreation := creationResult_rename r before a
  cases a with
  | request req now => exact requestReply_rename r d newUrl req now error
  | body id body draws =>
    have hbody : (body.map (Value.rename r)).getD .empty = (body.getD .empty).rename r := by
      cases body <;> rfl
    unfold ServerAction.rename at hcreation ⊢
    unfold replyTo
    dsimp only at hcreation ⊢
    rw [hcreation, hbody]
    rcases before.creationResult s (.body id body draws) with _ | ⟨queued, result⟩
    · exact readReply_rename r d before id _ error
    · exact creationReply_rename r queued result
  | reply id reply draws =>
    unfold ServerAction.rename at hcreation ⊢
    unfold replyTo
    dsimp only at hcreation ⊢
    rw [hcreation]
    rcases before.creationResult s (.reply id reply draws) with _ | ⟨queued, result⟩
    · exact answerReply_rename r d before id reply
    · exact creationReply_rename r queued result
  | prune | cleanRates | probe => rfl

lemma reply_rename (newUrl : NewUrl) (before : Server s.capacity) (a : ServerAction)
    (out : ServerOut) :
    (d.rename r).reply s newUrl (before.rename r) (a.rename r) out =
      (d.reply s newUrl before a out).map (AnswerBody.rename r) := by
  obtain ⟨ended, stops⟩ := out
  rcases ended with _ | ⟨id, ending⟩
  · rfl
  · cases ending with
    | answered answer => exact congrArg some (replyTo_rename r d newUrl before a answer.error)
    | thrown => rfl

/-- **A step of the broker, with what it says, commutes with a renaming.** -/
lemma next_rename (newUrl : NewUrl) (a : ServerAction) :
    (d.rename r).next s newUrl (a.rename r) =
      (d.next s newUrl a).map (Prod.map (renameOut r) (Desk.rename r)) := by
  unfold next
  rw [show (d.rename r).server = d.server.rename r from rfl, Server.next_rename, Option.map_map,
    Option.map_map]
  congr 1
  funext step
  obtain ⟨out, server⟩ := step
  have hdesk : { (d.rename r).keep s newUrl (a.rename r) out with server := server.rename r } =
      ({ d.keep s newUrl a out with server := server } : Desk s.capacity).rename r := by
    rw [keep_rename]
    rfl
  dsimp only [Function.comp_apply, Prod.map]
  rw [hdesk, reply_rename]
  rfl

end Said

end Desk

/-! ## Runs -/

/-- **A run of the broker, its secrets renamed, is a run of the broker.** -/
lemma run_rename (r : Renaming) {newUrl : NewUrl} {log : List (DeskEntry s)} {d : Desk s.capacity}
    (h : (deskLTS s newUrl).Run log d) :
    (deskLTS s newUrl).Run
      (log.map (Entry.map (Desk.rename r) (ServerAction.rename r) (renameOut r))) (d.rename r) := by
  refine h.map ?_ fun e hs => LTS.steps_map_of_comm (fun d a => Desk.next_rename r d newUrl a) hs
  rintro _ rfl
  rfl

/-- The host secret in an answer. -/
def AnswerBody.secret : AnswerBody → Option Text
  | .created room | .matched room => some room.hostSecret
  | .plan _ _ _ | .registered _ _ | .empty | .json _ => none

/-- The room token in an answer. -/
def AnswerBody.token : AnswerBody → Option HexId
  | .created room | .matched room | .plan _ room _ | .registered room _ => some room.roomToken
  | .empty | .json _ => none

lemma RoomRecord.rename_eq_self {r : Renaming} {room : RoomRecord}
    (hsecret : r.kept room.hostSecret = room.hostSecret)
    (htoken : r.token room.roomToken = room.roomToken) : room.rename r = room := by
  unfold RoomRecord.rename
  rw [hsecret, htoken]

lemma RoomRecord.toRoom_rename {r : Renaming} {room : RoomRecord}
    (htoken : r.token room.roomToken = room.roomToken) :
    (room.rename r).toRoom = { room.toRoom with hostSecret := r.kept room.hostSecret } := by
  unfold RoomRecord.rename
  rw [htoken]

lemma getConnectPlan_hostSecret (config : Config) (room : Room) (secret code : Text)
    (role : String) (relay : RelayHealth) :
    getConnectPlan config { room with hostSecret := secret } code role relay =
      getConnectPlan config room code role relay := by
  unfold getConnectPlan
  dsimp only
  split <;> rfl

/-- **An answer that holds no renamed secret keeps its body.** -/
lemma body_rename {r : Renaming} {reply : AnswerBody}
    (hsecret : ∀ x, reply.secret = some x → r.kept x = x)
    (htoken : ∀ t, reply.token = some t → r.token t = t) :
    (reply.rename r).body s = reply.body s := by
  cases reply with
  | created room =>
    show some (createdFields (room.rename r)) = some (createdFields room)
    rw [RoomRecord.rename_eq_self (hsecret _ rfl) (htoken _ rfl)]
  | matched room =>
    show some (matchedFields (room.rename r)) = some (matchedFields room)
    rw [RoomRecord.rename_eq_self (hsecret _ rfl) (htoken _ rfl)]
  | plan relay room role =>
    have hroom := RoomRecord.toRoom_rename (htoken _ rfl)
    show some (Object.members (getConnectPlan _ (room.rename r).toRoom _ _ _)) = _
    rw [hroom, getConnectPlan_hostSecret]
    rfl
  | registered room role =>
    have hroom := RoomRecord.toRoom_rename (htoken _ rfl)
    show some [_, _, _, (_, Value.obj (Object.members
      (buildConnectPlan _ (room.rename r).toRoom _ _)))] = _
    rw [hroom]
    rfl
  | empty | json => rfl

/-- Two steps say the same, unless the answer shows something. -/
def SameBut (s : ServerSettings) (shows : AnswerBody → Prop) (e e' : DeskEntry s) : Prop :=
  e'.out.1 = e.out.1 ∧
    Option.Rel (fun reply reply' => shows reply ∨ reply'.body s = reply.body s) e.out.2 e'.out.2

/-- The renamed run says the same, but for the answers that hold a renamed secret. -/
lemma forall₂_sameBut (r : Renaming) {shows : AnswerBody → Prop}
    (h : ∀ reply, ¬ shows reply → (reply.rename r).body s = reply.body s)
    (log : List (DeskEntry s)) :
    List.Forall₂ (fun e e' => e'.act = e.act.rename r ∧ SameBut s shows e e') log
      (log.map (Entry.map (Desk.rename r) (ServerAction.rename r) (renameOut r))) := by
  rw [List.forall₂_map_right_iff, List.forall₂_same]
  refine fun e _ => ⟨rfl, rfl, ?_⟩
  show Option.Rel _ e.out.2 (e.out.2.map (AnswerBody.rename r))
  cases e.out.2 with
  | none => exact .none
  | some reply => exact .some (or_iff_not_imp_left.2 (h reply))

/-! ### The host secret -/

/-- Two secrets change places. -/
def Renaming.swapSecrets (x y : String) (hx : x ≠ "") (hy : y ≠ "") : Renaming where
  secret := Equiv.swap x y
  kept := Equiv.swap (utf8 x) (utf8 y)
  token t := t
  kept_utf8 := utf8_injective.swap_apply x y
  kept_injective := (Equiv.swap (utf8 x) (utf8 y)).injective
  kept_nil := Equiv.swap_apply_of_ne_of_ne (fun h => hx (utf8_eq_nil_iff.1 h.symm))
    fun h => hy (utf8_eq_nil_iff.1 h.symm)

/-- **The host secret of a room shows in the answer to its creation alone.**  Had the broker drawn
another secret, and had everyone who presented the one presented the other, then every step would
have gone the same way, and every answer would have had the same body, but for the answers that
give the secret to the creator of the room. -/
theorem host_secret_hidden {newUrl : NewUrl} {log : List (DeskEntry s)} {d : Desk s.capacity}
    (h : (deskLTS s newUrl).Run log d) {x y : String} (hx : x ≠ "") (hy : y ≠ "") :
    ∃ log' d', (deskLTS s newUrl).Run log' d' ∧
      List.Forall₂ (fun e e' => e'.act = e.act.rename (.swapSecrets x y hx hy) ∧
        SameBut s (fun reply => reply.secret = some (utf8 x) ∨ reply.secret = some (utf8 y)) e e')
        log log' := by
  refine ⟨_, _, run_rename (.swapSecrets x y hx hy) h,
    forall₂_sameBut _ (fun reply hshows => ?_) log⟩
  rw [not_or] at hshows
  refine body_rename (fun z hz => ?_) fun t _ => rfl
  refine Equiv.swap_apply_of_ne_of_ne ?_ ?_
  · rintro rfl
    exact hshows.1 hz
  · rintro rfl
    exact hshows.2 hz

/-- A list of actions that a new broker can carry out, and whose log passes a test. -/
lemma exists_deskRun_of_exec (acts : List ServerAction)
    {p : List (DeskEntry s) → Desk s.capacity → Prop} {newUrl : NewUrl}
    [∀ log d, Decidable (p log d)]
    (h : (LTS.exec (Desk.next s · newUrl) {} [] acts).any
      (fun r => decide (p r.1 r.2)) = true) :
    ∃ log d, (deskLTS s newUrl).Run log d ∧ p log d := by
  obtain ⟨log, d, hpath, hp⟩ := LTS.exists_path_of_exec acts h
  exact ⟨log, d, ⟨_, rfl, hpath⟩, hp⟩

/-- The secret of the room that is opened. -/
def openSecret : String := .ofList (.replicate 64 '1')

/-- The host closes its room. -/
def closeRoom (draws : Draws) : List ServerAction :=
  [.request ⟨"DELETE", "/v1/rooms/SF4-1111111111111111", none, none⟩ 1,
    .body 1 (some (.obj [("hostSecret", .str openSecret)])) draws]

/-- A room that is opened and closed, and then with another secret. -/
theorem host_secret_hidden_closed :
    ∃ (log : List (DeskEntry .twoRooms)) (d : Desk ServerSettings.twoRooms.capacity),
      (deskLTS .twoRooms plainUrl).Run log d ∧
      log.map (fun e => e.out.1.ended) = [some (1, .answered ⟨200, none⟩), none,
        some (0, .answered ⟨201, none⟩), none, none, none] ∧
      ∃ log' d', (deskLTS .twoRooms plainUrl).Run log' d' ∧
        List.Forall₂ (fun e e' =>
          e'.act = e.act.rename (.swapSecrets openSecret "2" (by decide) (by decide)) ∧
          SameBut .twoRooms (fun reply => reply.secret = some (utf8 openSecret) ∨
            reply.secret = some (utf8 "2")) e e') log log' := by
  obtain ⟨log, d, hrun, hended⟩ : ∃ (log : List (DeskEntry .twoRooms))
      (d : Desk ServerSettings.twoRooms.capacity), (deskLTS .twoRooms plainUrl).Run log d ∧
        log.map (fun e => e.out.1.ended) = [some (1, .answered ⟨200, none⟩), none,
          some (0, .answered ⟨201, none⟩), none, none, none] :=
    exists_deskRun_of_exec (openRoom (.ofDigit 1) ++ closeRoom (.ofDigit 2)) (by decide +kernel)
  exact ⟨log, d, hrun, hended, host_secret_hidden hrun (by decide) (by decide)⟩

/-! ### The room token -/

/-- The broker draws other tokens. -/
def Renaming.ofTokens (f : HexId → HexId) : Renaming where
  secret g := g
  kept t := t
  token := f
  kept_utf8 _ := rfl
  kept_injective _ _ h := h
  kept_nil := rfl

/-- The same action, with other tokens drawn. -/
def ServerAction.withTokens (f : HexId → HexId) : ServerAction → ServerAction
  | .body id data draws => .body id data { draws with roomToken := f draws.roomToken }
  | .reply id answer draws => .reply id answer { draws with roomToken := f draws.roomToken }
  | a => a

lemma rename_ofTokens (f : HexId → HexId) (a : ServerAction) :
    a.rename (.ofTokens f) = a.withTokens f := by
  have hsecret : ∀ v : Value, v.renameSecret (.ofTokens f) = v := fun v => by cases v <;> rfl
  have hmember : ∀ m : String × Value, renameMember (.ofTokens f) m = m := fun m => by
    unfold renameMember
    split
    · rw [hsecret]
    · rfl
  have hbody : ∀ v : Value, v.rename (.ofTokens f) = v := fun v => by
    cases v with
    | obj members => exact congrArg Value.obj ((List.map_congr_left fun m _ => hmember m).trans
        members.map_id)
    | null | bool | num | str | arr => rfl
  cases a with
  | body id data draws =>
    have hdata : data.map (Value.rename (.ofTokens f)) = data := by
      cases data with
      | none => rfl
      | some v => exact congrArg some (hbody v)
    exact congrArg (ServerAction.body id · _) hdata
  | reply | request | prune | cleanRates | probe => rfl

/-- **The broker decides nothing by a room token.**  Had it drawn other tokens, every step would
have gone the same way, and every answer would have had the same body, but for the answers that
give a token away: that of a creation, a connect plan and that of a registration. -/
theorem room_token_hidden {newUrl : NewUrl} {log : List (DeskEntry s)} {d : Desk s.capacity}
    (h : (deskLTS s newUrl).Run log d) (f : HexId → HexId) :
    ∃ log' d', (deskLTS s newUrl).Run log' d' ∧
      List.Forall₂ (fun e e' => e'.act = e.act.withTokens f ∧
        SameBut s (fun reply => ∃ t, reply.token = some t ∧ f t ≠ t) e e') log log' := by
  have hbody : ∀ reply : AnswerBody, (¬ ∃ t, reply.token = some t ∧ f t ≠ t) →
      (reply.rename (.ofTokens f)).body s = reply.body s := by
    intro reply hshows
    refine body_rename (fun _ _ => rfl) fun t ht => ?_
    by_contra hne
    exact hshows ⟨t, ht, hne⟩
  refine ⟨_, _, run_rename (.ofTokens f) h, (forall₂_sameBut _ hbody log).imp fun e e' he => ?_⟩
  rw [← rename_ofTokens]
  exact he

/-- The same with another token. -/
theorem room_token_hidden_closed :
    ∃ (log : List (DeskEntry .twoRooms)) (d : Desk ServerSettings.twoRooms.capacity),
      (deskLTS .twoRooms plainUrl).Run log d ∧ log.length = 6 ∧
      ∃ log' d', (deskLTS .twoRooms plainUrl).Run log' d' ∧
        List.Forall₂ (fun e e' => e'.act = e.act.withTokens (fun _ => .ofDigit 7) ∧
          SameBut .twoRooms (fun reply => ∃ t, reply.token = some t ∧ .ofDigit 7 ≠ t) e e')
          log log' := by
  obtain ⟨log, d, hrun, hlength⟩ : ∃ (log : List (DeskEntry .twoRooms))
      (d : Desk ServerSettings.twoRooms.capacity), (deskLTS .twoRooms plainUrl).Run log d ∧
        log.length = 6 :=
    exists_deskRun_of_exec (openRoom (.ofDigit 1) ++ closeRoom (.ofDigit 2)) (by decide +kernel)
  exact ⟨log, d, hrun, hlength, room_token_hidden hrun _⟩

end Broker
end Sf4e
