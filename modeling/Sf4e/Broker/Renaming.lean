/-
# Renaming the secrets of a broker

The broker draws two secrets for a room: the host secret, which it gives to the creator and later
compares with what a request presents, and the room token, which it hands to the relays.  A
renaming replaces secrets by others, wherever they stand: in the rooms and in the calls at work,
in what is drawn, and in what a request presents as its host secret.

Every function of the broker commutes with a renaming: it does nothing with a secret but to
compare it, and to put it where it belongs.
-/
import Sf4e.Broker.Server
import Sf4e.Trace.Morphism

namespace Sf4e
namespace Broker

open Wire Trace Transport

/-! ## The bytes of a string -/

lemma toList_loop (bytes : ByteArray) (i : ℕ) (front : List UInt8) :
    ByteArray.toList.loop bytes i front = front.reverse ++ bytes.data.toList.drop i := by
  fun_induction ByteArray.toList.loop bytes i front with
  | case1 i front h ih =>
    have hlt : i < bytes.data.toList.length := h
    have hget : bytes.get! i = bytes.data.toList[i] := by
      show bytes.data[i]! = _
      rw [getElem!_pos bytes.data i h, Array.getElem_toList]
    rw [ih, List.drop_eq_getElem_cons hlt, hget, List.reverse_cons, List.append_assoc]
    rfl
  | case2 i front h =>
    have hle : bytes.data.toList.length ≤ i := Nat.le_of_not_lt h
    rw [List.drop_eq_nil_of_le hle, List.append_nil]

/-- Different strings have different bytes. -/
lemma utf8_injective : Function.Injective utf8 := by
  intro a b h
  have hdata : ∀ bytes : ByteArray, bytes.toList = bytes.data.toList := fun bytes => by
    rw [ByteArray.toList, toList_loop]
    rfl
  have hbytes : a.toUTF8.data.toList = b.toUTF8.data.toList := by
    rw [← hdata, ← hdata]
    exact h
  exact String.toByteArray_inj.1 (ByteArray.ext (Array.toList_inj.1 hbytes))

lemma utf8_empty : utf8 "" = [] := by decide +kernel

lemma utf8_eq_nil_iff {g : String} : utf8 g = [] ↔ g = "" := by
  rw [← utf8_empty, utf8_injective.eq_iff]

/-! ## Renamings -/

/-- A renaming of secrets. -/
structure Renaming where
  /-- A secret that a request presents. -/
  secret : String → String
  /-- A secret that a room keeps. -/
  kept : Text → Text
  /-- A room token. -/
  token : HexId → HexId
  /-- The two are the same secret. -/
  kept_utf8 : ∀ g, kept (utf8 g) = utf8 (secret g)
  /-- Different secrets stay different. -/
  kept_injective : Function.Injective kept
  /-- A room without a secret stays without one. -/
  kept_nil : kept [] = []

lemma Renaming.kept_eq_nil_iff (r : Renaming) {t : Text} : r.kept t = [] ↔ t = [] := by
  conv_lhs => rw [← r.kept_nil]
  exact r.kept_injective.eq_iff

/-- What the renamed broker has drawn. -/
def Draws.rename (r : Renaming) (draws : Draws) : Draws :=
  { draws with roomToken := r.token draws.roomToken, hostSecret := r.kept draws.hostSecret }

/-- A member of a body that is the host secret, if it is a string. -/
def Value.renameSecret (r : Renaming) : Value → Value
  | .str g => .str (r.secret g)
  | v => v

/-- A member of a body. -/
def renameMember (r : Renaming) (m : String × Value) : String × Value :=
  if m.1 = "hostSecret" then (m.1, m.2.renameSecret r) else m

/-- A body that presents the renamed secret. -/
def Value.rename (r : Renaming) : Value → Value
  | .obj members => .obj (members.map (renameMember r))
  | v => v

/-- What happens to the renamed broker. -/
def ServerAction.rename (r : Renaming) : ServerAction → ServerAction
  | .body id data draws => .body id (data.map (Value.rename r)) (draws.rename r)
  | .reply id answer draws => .reply id answer (draws.rename r)
  | .request req now => .request req now
  | .prune now => .prune now
  | .cleanRates now => .cleanRates now
  | .probe address seen now => .probe address seen now

/-- A room. -/
def RoomRecord.rename (r : Renaming) (room : RoomRecord) : RoomRecord :=
  { room with roomToken := r.token room.roomToken, hostSecret := r.kept room.hostSecret }

/-- The rooms and the reserved ports. -/
def Registry.rename (r : Renaming) (reg : Registry) : Registry :=
  { reg with rooms := reg.rooms.map (RoomRecord.rename r) }

variable {s : ServerSettings} {config : CapacityConfig}

/-- A call of `createRoomRecord`. -/
def Creation.rename (r : Renaming) (c : Creation config) : Creation config :=
  { c with roomToken := r.token c.roomToken }

/-- What a call comes to. -/
def Created.rename (r : Renaming) : Created → Created
  | .created room => .created (room.rename r)
  | .full => .full
  | .invalidHash message => .invalidHash message
  | .relayStartFailed message => .relayStartFailed message
  | .thrown => .thrown

/-- Where a turn leaves a call. -/
def Progress.rename (r : Renaming) : Progress config → Progress config
  | .awaits c => .awaits (c.rename r)
  | .done result => .done (result.rename r)

/-- A turn of a call. -/
def Turn.rename (r : Renaming) (turn : Turn config) : Turn config :=
  ⟨turn.registry.rename r, turn.stops, turn.progress.rename r⟩

/-- A handler at an await. -/
def Suspended.rename (r : Renaming) : Suspended config → Suspended config
  | .reading route => .reading route
  | .creating c queued => .creating (c.rename r) queued
  | .visiting room purpose stage => .visiting (room.rename r) purpose stage

/-- The broker. -/
def Server.rename (r : Renaming) (t : Server config) : Server config :=
  { t with registry := t.registry.rename r, jobs := t.jobs.map (Suspended.rename r) }

/-- A turn of a handler. -/
def HandlerTurn.rename (r : Renaming) (turn : HandlerTurn config) : HandlerTurn config :=
  ⟨turn.server.rename r, turn.stops, turn.progress.map (Suspended.rename r) fun ending => ending⟩

/-! ## Bodies -/

section Bodies

variable (r : Renaming)

@[simp] lemma Value.isNull_rename (body : Value) : (body.rename r).isNull = body.isNull := by
  cases body <;> rfl

lemma lookup_map_renameMember (key : String) (members : List (String × Value)) :
    (members.map (renameMember r)).lookup key =
      (members.lookup key).map fun v => if key = "hostSecret" then v.renameSecret r else v := by
  induction members with
  | nil => rfl
  | cons m members ih =>
    obtain ⟨k, v⟩ := m
    have hname : (renameMember r (k, v)).1 = k := by
      unfold renameMember
      split <;> rfl
    rw [List.map_cons, List.lookup_cons, List.lookup_cons, hname, ih]
    by_cases hk : key = k
    · subst hk
      rw [beq_self_eq_true]
      by_cases hsecret : key = "hostSecret" <;> simp [renameMember, hsecret]
    · rw [beq_false_of_ne hk]

/-- The other members of a body stay as they are. -/
lemma Value.get_rename_of_ne {key : String} (h : key ≠ "hostSecret") (body : Value) :
    (body.rename r).get key = body.get key := by
  cases body with
  | obj members =>
    show (members.map (renameMember r)).lookup key = members.lookup key
    rw [lookup_map_renameMember]
    simp [h]
  | null | bool | num | str | arr => rfl

lemma Value.get_rename_hostSecret (body : Value) :
    (body.rename r).get "hostSecret" = (body.get "hostSecret").map (Value.renameSecret r) := by
  cases body with
  | obj members =>
    show (members.map (renameMember r)).lookup "hostSecret" = _
    rw [lookup_map_renameMember]
    rfl
  | null | bool | num | str | arr => rfl

/-- Whether a request may act as the host does not depend on the names of the secrets. -/
lemma verifyHostSecret_rename (room : RoomRecord) (body : Value) :
    verifyHostSecret (room.rename r) ((body.rename r).get "hostSecret") =
      verifyHostSecret room (body.get "hostSecret") := by
  have hnil : (r.kept room.hostSecret != []) = (room.hostSecret != []) := by
    rw [Bool.eq_iff_iff, bne_iff_ne, bne_iff_ne, ne_eq, ne_eq, r.kept_eq_nil_iff]
  rw [Value.get_rename_hostSecret]
  cases body.get "hostSecret" with
  | none =>
    show (r.kept room.hostSecret != [] && _) = (room.hostSecret != [] && _)
    rw [hnil]
    rfl
  | some v =>
    cases v with
    | str g =>
      have hempty : (r.secret g != "") = (g != "") := by
        rw [Bool.eq_iff_iff, bne_iff_ne, bne_iff_ne, ne_eq, ne_eq, ← utf8_eq_nil_iff,
          ← utf8_eq_nil_iff, ← r.kept_utf8, r.kept_eq_nil_iff]
      have hsame : (utf8 (r.secret g) == r.kept room.hostSecret) =
          (utf8 g == room.hostSecret) := by
        rw [Bool.eq_iff_iff, beq_iff_eq, beq_iff_eq, ← r.kept_utf8, r.kept_injective.eq_iff]
      show (r.kept room.hostSecret != [] && (r.secret g != "" &&
        utf8 (r.secret g) == r.kept room.hostSecret)) = (room.hostSecret != [] &&
          (g != "" && utf8 g == room.hostSecret))
      rw [hnil, hempty, hsame]
    | null | bool | num | arr | obj =>
      show (r.kept room.hostSecret != [] && false) = (room.hostSecret != [] && false)
      rw [hnil]

end Bodies

/-! ## Rooms -/

section Rooms

variable (r : Renaming) (reg : Registry)

lemma find?_rename (code : Text) :
    (reg.rename r).find? code = (reg.find? code).map (RoomRecord.rename r) := by
  show (reg.rooms.map _).find? _ = (reg.rooms.find? _).map _
  rw [List.find?_map]
  rfl

lemma prune_rename (now : ℕ) :
    (reg.rename r).prune s now = ((reg.prune s now).1.rename r, (reg.prune s now).2) := by
  refine Prod.ext ?_ ?_
  · show Registry.mk ((reg.rooms.map _).filter _) _ = Registry.mk ((reg.rooms.filter _).map _) _
    rw [List.filter_map]
    rfl
  · show ((reg.rooms.map _).filter _).flatMap _ = (reg.rooms.filter _).flatMap _
    rw [List.filter_map, List.flatMap_map]
    rfl

lemma delete_rename (code : Text) : (reg.rename r).delete code = (reg.delete code).rename r := by
  show Registry.mk ((reg.rooms.map _).filter _) _ = Registry.mk ((reg.rooms.filter _).map _) _
  rw [List.filter_map]
  rfl

lemma modify_rename (code : Text) {f f' : RoomRecord → RoomRecord}
    (h : ∀ room, f' (room.rename r) = (f room).rename r) :
    (reg.rename r).modify code f' = (reg.modify code f).rename r := by
  show Registry.mk ((reg.rooms.map _).map _) _ = Registry.mk ((reg.rooms.map _).map _) _
  rw [List.map_map, List.map_map]
  congr 1
  refine List.map_congr_left fun room _ => ?_
  show (if room.code = code then f' (room.rename r) else room.rename r) =
    (if room.code = code then f room else room).rename r
  rw [h]
  split <;> rfl

lemma roomPorts_rename : (reg.rename r).roomPorts = reg.roomPorts := by
  show (reg.rooms.map _).map _ = reg.rooms.map _
  rw [List.map_map]
  rfl

/-! ## Creations -/

lemma commit_rename (c : Creation s.capacity) (draws : Draws) (ok : Bool) :
    (reg.rename r).commit s.toSettings (c.rename r) (draws.rename r) ok =
      (reg.commit s.toSettings c draws ok).map (Turn.rename r) := by
  have hroom : (c.rename r).room s.toSettings (draws.rename r) ok =
      (c.room s.toSettings draws ok).rename r := rfl
  unfold Registry.commit
  dsimp only
  rw [hroom]
  have hcode : ((c.room s.toSettings draws ok).rename r).code =
      (c.room s.toSettings draws ok).code := rfl
  rw [hcode, find?_rename, Option.isSome_map]
  split
  · rfl
  · show some (Turn.mk (Registry.mk (reg.rooms.map _ ++ _) _) _ _) =
      some (Turn.mk (Registry.mk ((reg.rooms ++ _).map _) _) _ _)
    rw [List.map_append]
    rfl

lemma abandon_rename (c : Creation s.capacity) (started : Bool) (result : Created)
    (h : result.rename r = result) :
    (reg.rename r).abandon s.toSettings (c.rename r) started result =
      (reg.abandon s.toSettings c started result).rename r := by
  unfold Registry.abandon Turn.rename
  rw [Progress.rename, h]
  rfl

lemma start_rename (c : Creation s.capacity) (draws : Draws) :
    (reg.rename r).start s.toSettings (c.rename r) (draws.rename r) =
      (reg.start s.toSettings c draws).map (Turn.rename r) := by
  have hargs : (c.rename r).args = c.args := rfl
  unfold Registry.start
  rw [hargs]
  split
  · split
    · exact congrArg some (abandon_rename r reg c false _ rfl)
    · split
      · rfl
      · exact congrArg some (abandon_rename r reg c false _ rfl)
  · exact commit_rename r reg c draws false

/-- **A creation commutes with a renaming**, up to its first await. -/
lemma createRoomRecord_rename (args : CreateArgs) (draws : Draws) :
    (reg.rename r).createRoomRecord s.toSettings args (draws.rename r) =
      (reg.createRoomRecord s.toSettings args draws).map (Turn.rename r) := by
  have hcount : (reg.rename r).rooms.length = reg.rooms.length := List.length_map _
  have hreserved : (reg.rename r).reservedPorts = reg.reservedPorts := rfl
  unfold Registry.createRoomRecord
  rw [hcount, roomPorts_rename, hreserved]
  split
  · rfl
  · cases allocatePortPair s.capacity reg.roomPorts reg.reservedPorts with
    | none => rfl
    | some drawn =>
      obtain ⟨ports, reserved⟩ := drawn
      exact start_rename r { reg with reservedPorts := reserved } (args.creation draws ports) draws

/-- **A creation commutes with a renaming**, from an await on. -/
lemma resume_rename (c : Creation s.capacity) (reply : Option HttpReply) (draws : Draws) :
    (reg.rename r).resume s.toSettings (c.rename r) reply (draws.rename r) =
      (reg.resume s.toSettings c reply draws).map (Turn.rename r) := by
  have hstage : (c.rename r).stage = c.stage := rfl
  unfold Registry.resume
  rw [hstage]
  cases c.stage with
  | startingSession =>
    dsimp only
    cases startRelaySession reply with
    | started =>
      dsimp only
      split
      · rfl
      · exact commit_rename r reg c draws false
    | failed message => exact congrArg some (abandon_rename r reg c false _ rfl)
    | thrown => exact congrArg some (abandon_rename r reg c false _ rfl)
  | startingGgpo =>
    dsimp only
    cases startGgpoRelaySession reply with
    | started => exact commit_rename r reg c draws true
    | failed message =>
      dsimp only
      split
      · exact commit_rename r reg c draws false
      · exact congrArg some (abandon_rename r reg c true _ rfl)
    | thrown => exact congrArg some (abandon_rename r reg c true _ rfl)

end Rooms

/-! ## Handlers -/

namespace Server

section Handlers

variable (r : Renaming) (t : Server s.capacity)

/-- A change that commutes with a renaming. -/
lemma modify_rename (code : Text) {f f' : RoomRecord → RoomRecord}
    (h : ∀ room, f' (room.rename r) = (f room).rename r) :
    (t.rename r).modify s code f' = (t.modify s code f).rename r := by
  unfold modify Server.rename
  rw [Broker.modify_rename r t.registry code h]

lemma touch_rename (code : Text) (now : ℕ) :
    (t.rename r).touch s code now = (t.touch s code now).rename r :=
  modify_rename r t code fun _ => rfl

lemma checkRate_rename (req : HttpRequest) (bucket : String) (limit now : ℕ)
    {allowed allowed' : Server s.capacity → HandlerTurn s.capacity}
    (h : ∀ t, allowed' (t.rename r) = (allowed t).rename r) :
    (t.rename r).checkRate s req bucket limit now allowed' =
      (t.checkRate s req bucket limit now allowed).rename r := by
  have hbuckets : (t.rename r).rateBuckets = t.rateBuckets := rfl
  unfold checkRate
  rw [hbuckets]
  generalize allowRate t.rateBuckets _ limit 60000 now = rate
  dsimp only
  split
  · exact h { t with rateBuckets := rate.2 }
  · rfl

lemma lookupNatProbe_rename (ip : String) (now : ℕ) :
    (t.rename r).lookupNatProbe s ip now =
      ((t.lookupNatProbe s ip now).1, (t.lookupNatProbe s ip now).2.rename r) := by
  have hprobes : (t.rename r).natProbeByIp = t.natProbeByIp := rfl
  unfold lookupNatProbe
  rw [hprobes]
  split
  · rfl
  · split <;> rfl

lemma visit_rename (room : RoomRecord) (purpose : Purpose) :
    (t.rename r).visit s (room.rename r) purpose = (t.visit s room purpose).rename r := by
  unfold visit
  split <;> rfl

lemma lookLast_rename (room : RoomRecord) (purpose : Purpose) :
    (t.rename r).lookLast s (room.rename r) purpose = (t.lookLast s room purpose).rename r := by
  have hlast : lastLook (room.rename r) = lastLook room := rfl
  unfold lookLast
  rw [hlast]
  cases lastLook room <;> rfl

lemma ensureRelaySession_rename (room : RoomRecord) (reply : HttpReply) (stage : EnsureStage) :
    ensureRelaySession (room.rename r) reply stage = ensureRelaySession room reply stage := by
  cases stage <;> rfl

lemma visitReply_rename (room : RoomRecord) (purpose : Purpose) (reply : HttpReply)
    (stage : VisitStage) :
    (t.rename r).visitReply s (room.rename r) purpose reply stage =
      (t.visitReply s room purpose reply stage).rename r := by
  cases stage with
  | ensuring stage =>
    unfold visitReply
    dsimp only
    rw [ensureRelaySession_rename]
    cases ensureRelaySession room reply stage with
    | await stage => rfl
    | done result =>
      dsimp only
      split
      · exact lookLast_rename r t room purpose
      · rfl
    | thrown => rfl
  | lookSession => exact lookLast_rename r t room purpose
  | lookGgpo => rfl

/-! ### Creations -/

lemma creationTurn_rename (queued : Bool) (turn : Turn s.capacity) :
    (t.rename r).creationTurn s queued (turn.rename r) =
      (t.creationTurn s queued turn).rename r := by
  obtain ⟨registry, stops, progress⟩ := turn
  cases progress with
  | awaits c => rfl
  | done result => cases result <;> rfl

lemma create_rename (args : CreateArgs) (draws : Draws) (queued : Bool) :
    (t.rename r).create s args (draws.rename r) queued =
      (t.create s args draws queued).map (HandlerTurn.rename r) := by
  unfold create
  rw [show (t.rename r).registry = t.registry.rename r from rfl, createRoomRecord_rename,
    Option.map_map, Option.map_map]
  congr 1
  funext turn
  exact creationTurn_rename r t queued turn

lemma createArgs_rename (body : Value) : createArgs s (body.rename r) = createArgs s body := by
  unfold createArgs
  rw [Value.isNull_rename, Value.get_rename_of_ne r (by decide),
    Value.get_rename_of_ne r (by decide), Value.get_rename_of_ne r (by decide)]

lemma createRoom_rename (body : Value) (draws : Draws) :
    (t.rename r).createRoom s (body.rename r) (draws.rename r) =
      (t.createRoom s body draws).map (HandlerTurn.rename r) := by
  unfold createRoom
  rw [createArgs_rename]
  cases createArgs s body with
  | none => rfl
  | some args => exact create_rename r t args draws false

/-! ### The other bodies -/

lemma find?_eq (code : Text) :
    (t.rename r).registry.find? code = (t.registry.find? code).map (RoomRecord.rename r) :=
  find?_rename r t.registry code

lemma registerPort_rename (room : RoomRecord) (role : Role) (ip : String) (body : Value)
    (now : ℕ) (port : Option ℤ) :
    (t.rename r).registerPort s (room.rename r) role ip (body.rename r) now port =
      (t.registerPort s room role ip body now port).rename r := by
  unfold registerPort
  rw [lookupNatProbe_rename, Value.get_rename_of_ne r (by decide)]
  split
  · dsimp only
    split
    · rfl
    · split
      · rfl
      · refine congrArg (answer s · 200 none) (modify_rename r _ _ fun room => ?_)
        cases role <;> rfl
  · rfl

lemma registerEndpoint_rename (code : Text) (ip : String) (body : Value) (now : ℕ) :
    (t.rename r).registerEndpoint s code ip (body.rename r) now =
      (t.registerEndpoint s code ip body now).rename r := by
  unfold registerEndpoint
  rw [find?_eq, Value.isNull_rename, Value.get_rename_of_ne r (by decide)]
  cases t.registry.find? code with
  | none => rfl
  | some room =>
    dsimp only [Option.map_some]
    split
    · rfl
    · split
      · rfl
      · split
        · rfl
        · unfold registerRole
          rw [verifyHostSecret_rename, Value.get_rename_of_ne r (by decide)]
          split
          · rfl
          · split
            · rfl
            · exact registerPort_rename r t room _ ip body now _

lemma postEvent_rename (room : RoomRecord) (eventType : String) (body : Value) (now : ℕ) :
    (t.rename r).postEvent s (room.rename r) eventType (body.rename r) now =
      (t.postEvent s room eventType body now).rename r := by
  have hmark : transportMark (body.rename r) = transportMark body := by
    unfold transportMark
    rw [Value.get_rename_of_ne r (by decide)]
  have hstart : (if eventType = "battle_start" then
      (t.rename r).modify s (room.rename r).code (startBattle · now) else t.rename r) =
      (if eventType = "battle_start" then t.modify s room.code (startBattle · now)
        else t).rename r := by
    split
    · refine modify_rename r t room.code fun room => ?_
      unfold startBattle
      rw [show (room.rename r).startedAt = room.startedAt from rfl]
      split <;> rfl
    · rfl
  unfold postEvent
  dsimp only
  rw [hmark, hstart]
  cases transportMark body with
  | none => rfl
  | some mark => exact congrArg (answer s · 200 none) (modify_rename r _ room.code fun _ => rfl)

lemma events_rename (code : Text) (body : Value) (now : ℕ) :
    (t.rename r).events s code (body.rename r) now = (t.events s code body now).rename r := by
  unfold events
  rw [find?_eq, Value.isNull_rename, Value.get_rename_of_ne r (by decide)]
  cases t.registry.find? code with
  | none => rfl
  | some room =>
    dsimp only [Option.map_some]
    rw [verifyHostSecret_rename]
    split
    · rfl
    · split
      · rfl
      · split
        · rfl
        · split
          · rfl
          · exact postEvent_rename r t room _ body now

lemma asHost_rename (code : Text) (body : Value)
    {act act' : RoomRecord → HandlerTurn s.capacity}
    (h : ∀ room, act' (room.rename r) = (act room).rename r) :
    (t.rename r).asHost s code (body.rename r) act' = (t.asHost s code body act).rename r := by
  unfold asHost
  rw [find?_eq, Value.isNull_rename]
  cases t.registry.find? code with
  | none => rfl
  | some room =>
    dsimp only [Option.map_some]
    rw [verifyHostSecret_rename]
    split
    · rfl
    · split
      · exact h room
      · rfl

lemma delete_rename (code : Text) (body : Value) :
    (t.rename r).delete s code (body.rename r) = (t.delete s code body).rename r := by
  refine asHost_rename r t code body fun room => ?_
  unfold HandlerTurn.rename Server.rename
  dsimp only
  rw [← Broker.delete_rename]
  rfl

lemma heartbeat_rename (code : Text) (body : Value) (now : ℕ) :
    (t.rename r).heartbeat s code (body.rename r) now = (t.heartbeat s code body now).rename r := by
  refine asHost_rename r t code body fun room => ?_
  rw [show (room.rename r).code = room.code from rfl, touch_rename]
  exact visit_rename r _ { room with lastSeenAt := now } .ensure

lemma matchPair_rename (a b body : Value) (draws : Draws) :
    (t.rename r).matchPair s a b (body.rename r) (draws.rename r) =
      (t.matchPair s a b body draws).map (HandlerTurn.rename r) := by
  unfold matchPair
  rw [Value.get_rename_of_ne r (by decide)]
  split
  · exact create_rename r t _ draws true
  · rfl

lemma queueJoin_rename (body : Value) (draws : Draws) :
    (t.rename r).queueJoin s (body.rename r) (draws.rename r) =
      (t.queueJoin s body draws).map (HandlerTurn.rename r) := by
  unfold queueJoin
  rw [show (t.rename r).queue = t.queue from rfl, Value.isNull_rename,
    Value.get_rename_of_ne r (by decide)]
  split
  · rfl
  · split
    · rfl
    · split
      · exact matchPair_rename r { t with queue := _ } _ _ body draws
      · rfl

/-- **The handlers commute with a renaming**, once the body of a request is read. -/
lemma readBody_rename (route : BodyRoute) (body : Option Value) (draws : Draws) :
    (t.rename r).readBody s route (body.map (Value.rename r)) (draws.rename r) =
      (t.readBody s route body draws).map (HandlerTurn.rename r) := by
  cases body with
  | none => rfl
  | some body =>
    cases route with
    | createRoom => exact createRoom_rename r t body draws
    | registerEndpoint code ip =>
      exact congrArg some (registerEndpoint_rename r t code ip body draws.now)
    | events code => exact congrArg some (events_rename r t code body draws.now)
    | delete code => exact congrArg some (delete_rename r t code body)
    | heartbeat code => exact congrArg some (heartbeat_rename r t code body draws.now)
    | queueJoin => exact queueJoin_rename r t body draws

/-! ### Requests -/

lemma seen_rename (code : Text) (now : ℕ) (purpose : Purpose) :
    (t.rename r).seen s code now purpose = (t.seen s code now purpose).rename r := by
  unfold seen
  rw [find?_eq, touch_rename]
  cases t.registry.find? code with
  | none => rfl
  | some room => exact visit_rename r (t.touch s code now) { room with lastSeenAt := now } purpose

lemma roomRequest_rename (req : HttpRequest) (verb : RoomVerb) (code : Text) (now : ℕ) :
    (t.rename r).roomRequest s req verb code now =
      (t.roomRequest s req verb code now).rename r := by
  unfold roomRequest
  cases verb with
  | connectPlan => exact checkRate_rename r t _ _ _ _ fun t => seen_rename r t code now .ensure
  | lookup => exact checkRate_rename r t _ _ _ _ fun t => seen_rename r t code now .lookup
  | health =>
    dsimp only
    rw [find?_eq]
    cases t.registry.find? code with
    | none => rfl
    | some room => exact visit_rename r t room .health
  | registerEndpoint | events | delete | heartbeat =>
    exact checkRate_rename r t _ _ _ _ fun _ => rfl

lemma listing_rename (found : Bool) :
    (t.rename r).listing s found = (t.listing s found).rename r := by
  unfold listing
  split <;> rfl

lemma dispatch_rename (req : HttpRequest) (url : Url) (now : ℕ) :
    (t.rename r).dispatch s req url now = (t.dispatch s req url now).rename r := by
  unfold dispatch
  cases route req.method url.pathname with
  | health => rfl
  | «matches» => exact listing_rename r t true
  | listRooms => exact listing_rename r t true
  | matchById matchId =>
    have hany : ((t.rename r).registry.rooms.any fun room => room.matchId.1 == utf8 matchId) =
        t.registry.rooms.any fun room => room.matchId.1 == utf8 matchId := List.any_map
    dsimp only
    rw [hany]
    exact listing_rename r t _
  | createRoom => exact checkRate_rename r t _ _ _ _ fun _ => rfl
  | room verb code => exact roomRequest_rename r t req verb (utf8 code) now
  | queueJoin => rfl
  | unknown => rfl

lemma accept_rename (newUrl : NewUrl) (req : HttpRequest) (now : ℕ) :
    (t.rename r).accept s newUrl req now = (t.accept s newUrl req now).rename r := by
  have hprune : (t.rename r).registry.prune s now =
      ((t.registry.prune s now).1.rename r, (t.registry.prune s now).2) :=
    prune_rename r t.registry now
  unfold accept
  rw [hprune]
  split
  · rfl
  · cases newUrl req.target with
    | none => rfl
    | some url =>
      have h := dispatch_rename r { t with registry := (t.registry.prune s now).1 } req url now
      exact congrArg (fun turn => HandlerTurn.mk turn.server (t.registry.prune s now).2
        turn.progress) h

lemma receive_rename (reply : Option HttpReply) (draws : Draws) (h : Suspended s.capacity) :
    (t.rename r).receive s reply (draws.rename r) (h.rename r) =
      (t.receive s reply draws h).map (HandlerTurn.rename r) := by
  cases h with
  | reading route => rfl
  | creating c queued =>
    show ((t.registry.rename r).resume s.toSettings (c.rename r) reply (draws.rename r)).map _ = _
    rw [resume_rename, Option.map_map]
    show _ = (((t.registry.resume s.toSettings c reply draws).map _).map _)
    rw [Option.map_map]
    congr 1
    funext turn
    exact creationTurn_rename r t queued turn
  | visiting room purpose stage =>
    cases reply with
    | none => rfl
    | some reply => exact congrArg some (visitReply_rename r t room purpose reply stage)

/-! ### Steps -/

lemma settle_rename (id : ℕ) (turn : HandlerTurn s.capacity) :
    settle id (turn.rename r) = ((settle id turn).1, (settle id turn).2.rename r) := by
  obtain ⟨server, stops, progress⟩ := turn
  simp only [settle, HandlerTurn.rename, rename, Jobs.ended_map, Jobs.settle_map]

lemma map_settle_rename (id : ℕ) (turn : Option (HandlerTurn s.capacity)) :
    (turn.map (HandlerTurn.rename r)).map (settle id) =
      (turn.map (settle id)).map (Prod.map (fun out => out) (Server.rename r)) := by
  rw [Option.map_map, Option.map_map]
  congr 1
  funext turn
  exact settle_rename r id turn

/-- **A step commutes with a renaming.** -/
lemma next_rename (newUrl : NewUrl) (a : ServerAction) :
    (t.rename r).next s newUrl (a.rename r) =
      (t.next s newUrl a).map (Prod.map (fun out => out) (Server.rename r)) := by
  cases a with
  | request req now =>
    have h := accept_rename r { t with jobs := t.jobs.draw } newUrl req now
    show some (settle _
      (accept s { t.rename r with jobs := (t.rename r).jobs.draw } newUrl req now)) = _
    rw [show ({ t.rename r with jobs := (t.rename r).jobs.draw } : Server s.capacity) =
      ({ t with jobs := t.jobs.draw } : Server s.capacity).rename r from rfl, h, settle_rename]
    rfl
  | body id body draws =>
    have hat : (t.rename r).jobs.at? id = (t.jobs.at? id).map (Suspended.rename r) :=
      Jobs.at?_map _ _ _
    unfold next ServerAction.rename
    dsimp only
    rw [hat]
    cases t.jobs.at? id with
    | none => rfl
    | some h =>
      cases h with
      | reading route =>
        show ((t.rename r).readBody s route _ _).map _ = _
        rw [readBody_rename]
        exact map_settle_rename r id _
      | creating | visiting => rfl
  | reply id reply draws =>
    show ((t.jobs.map (Suspended.rename r)).at? id).bind _ = Option.map _ ((t.jobs.at? id).bind _)
    rw [Jobs.at?_map]
    cases t.jobs.at? id with
    | none => rfl
    | some h =>
      show ((t.rename r).receive s reply (draws.rename r) (h.rename r)).map _ = _
      rw [receive_rename]
      exact map_settle_rename r id _
  | prune now =>
    have hprune : (t.rename r).registry.prune s now =
        ((t.registry.prune s now).1.rename r, (t.registry.prune s now).2) :=
      prune_rename r t.registry now
    unfold next ServerAction.rename
    dsimp only
    rw [hprune]
    rfl
  | cleanRates now => rfl
  | probe address seen now =>
    have hbuckets : (t.rename r).rateBuckets = t.rateBuckets := rfl
    unfold next ServerAction.rename
    dsimp only
    rw [hbuckets]
    split <;> rfl

end Handlers

end Server

end Broker
end Sf4e
