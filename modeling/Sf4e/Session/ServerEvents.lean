/-
# What one message can do to the server

Of all the messages a server handles, only four kinds touch what the two players agree on:
a player's ready, a player's reset, a reported result, and a setter that changes one of the
values the match is configured from.  `SessionServer.event` sorts a message into these kinds
by the state it arrives in, and `onMessage_cases` says everything the handler does to the
ready numbers, the setup, the slots and the locals of `Step`.  The run proofs use this
inversion and never unfold a handler.
-/
import Sf4e.Session.Server

namespace Sf4e

open SessionProtocol

/-- The identity of a member: the connection it joined on and its name, which is unique in
the lobby. -/
abbrev Who := HSteamNetConnection × String

/-- Who a member is. -/
def SessionMember.who (m : SessionMember) : Who := (m.conn, m.data.name)

/-- The values a match is configured from. -/
structure MatchSetup where
  /-- Per side, the character selection. -/
  chara : Side → ConfirmedCharaConditions
  /-- The stage index. -/
  stageID : ℤ
  /-- The seed of the random numbers. -/
  rngSeed : UInt32
  /-- Are edition selects allowed? -/
  editionSelect : Bool
  /-- The number of rounds. -/
  roundCount : Int32
  /-- The time limit of a round. -/
  roundTime : FixedPoint
  /-- Is this a training match? -/
  trainingMode : Bool
deriving DecidableEq

/-- The setup that a data update carries. -/
def setupOf (l : LobbyData) (d : MatchData) : MatchSetup :=
  ⟨d.chara, d.stageID, d.rngSeed, l.editionSelect, l.roundCount, l.roundTime, l.trainingMode⟩

/-- What a message amounts to, for the two players' agreement. -/
inductive Event
  /-- The player on this side is ready. -/
  | ready (i : Side)
  /-- The player on this side resets the lobby. -/
  | reset (i : Side)
  /-- Somebody reports a loser. -/
  | results (loserIndex : ℤ)
  /-- A value of the setup changes. -/
  | setter
  /-- Anything else. -/
  | other
deriving DecidableEq

/-- Is the event a reported result? -/
def Event.isResults : Event → Bool
  | .results _ => true
  | .ready _ | .reset _ | .setter | .other => false

/-- Does the event clear the ready state? -/
def Event.clears : Event → Bool
  | .reset _ | .results _ => true
  | .ready _ | .setter | .other => false

/-- A message that is neither a data update nor one of the deferred broadcasts. -/
def ServerMessage.routine : ServerMessage → Bool
  | .dataUpdate _ _ | .lobbyAllReady | .battleSynced => false
  | .helloResp _ | .joinReject _ | .punchGo | .relayed _ => true

/-- An output with such a message. -/
def Output.routine : Output → Bool
  | .respond _ msg | .broadcast _ msg => ServerMessage.routine msg

/-- The type a message announces, as the server reads it. -/
def Incoming.type? (m : Incoming) : Option MessageType :=
  (m.payload.bind (·.type)).map MessageType.fromJson

namespace SessionServer

/-- Who is in a player's slot. -/
def occupant (s : SessionServer) (i : Side) : Option Who := (s.player i).map SessionMember.who

/-- The setup the server holds. -/
def setup (s : SessionServer) : MatchSetup := setupOf s.lobbyData s.matchData

/-- The typed request in a message, when its connection has an id. -/
def request (s : SessionServer) (m : Incoming) : Option (MessageType × Document) :=
  match m.payload with
  | none => none
  | some doc =>
    match doc.type with
    | none => none
    | some field =>
      match s.cidMap m.conn with
      | none => none
      | some _ => some (MessageType.fromJson field, doc)

/-- A handler that leads from `s` to `s'` is a setter when it changes the setup. -/
def setterEvent (s s' : SessionServer) : Event := if s'.setup = s.setup then .other else .setter

/-- What a message amounts to in this state. -/
def event (s : SessionServer) (m : Incoming) : Event :=
  match s.request m with
  | none => .other
  | some (type, doc) =>
    match type with
    | .lobbyReady => (s.side m.conn).elim .other .ready
    | .lobbyReset => (s.side m.conn).elim .other .reset
    | .lobbyReportResults =>
      doc.reportResults.elim .other fun r => .results r.loserSide.toInt
    | .preBattleSetChara => s.setterEvent (s.onSetChara m.conn doc)
    | .preBattleSetEnv => s.setterEvent (s.onSetEnv m.conn doc)
    | .preBattleSetStage => s.setterEvent (s.onSetStage m.conn doc)
    | .lobbySetSettings => s.setterEvent (s.onSetSettings m.conn doc)
    | _ => .other

/-- The request in a message, in terms of its parts. -/
lemma request_eq_some_iff {s : SessionServer} {m : Incoming} {type : MessageType}
    {doc : Document} :
    s.request m = some (type, doc) ↔
      m.payload = some doc ∧ m.type? = some type ∧ (s.cidMap m.conn).isSome = true := by
  constructor
  · intro h
    unfold request at h
    split at h
    · exact absurd h (by simp)
    · rename_i doc' hp
      split at h
      · exact absurd h (by simp)
      · rename_i field hf
        split at h
        · exact absurd h (by simp)
        · rename_i cid hcid
          obtain ⟨rfl, rfl⟩ := Prod.mk.inj (Option.some.inj h)
          exact ⟨hp, by simp [Incoming.type?, hp, hf], by simp [hcid]⟩
  · rintro ⟨hp, htype, hcid⟩
    obtain ⟨field, hf, rfl⟩ : ∃ f, doc.type = some f ∧ MessageType.fromJson f = type := by
      simpa [Incoming.type?, hp] using htype
    obtain ⟨cid, hcid⟩ := Option.isSome_iff_exists.1 hcid
    simp [request, hp, hf, hcid]

lemma exists_request {s : SessionServer} {m : Incoming} {type : MessageType}
    (htype : m.type? = some type) (hcid : (s.cidMap m.conn).isSome = true) :
    ∃ doc, s.request m = some (type, doc) := by
  cases hp : m.payload with
  | none => simp [Incoming.type?, hp] at htype
  | some doc => exact ⟨doc, request_eq_some_iff.2 ⟨hp, htype, hcid⟩⟩

lemma setterEvent_ne {s s' : SessionServer} {ev : Event} (h₁ : ev ≠ .other) (h₂ : ev ≠ .setter) :
    s.setterEvent s' ≠ ev := by
  unfold setterEvent
  split
  · exact h₁.symm
  · exact h₂.symm

/-- A player's ready, in terms of the message. -/
lemma event_eq_ready_iff {s : SessionServer} {m : Incoming} {i : Side} :
    s.event m = .ready i ↔
      m.type? = some .lobbyReady ∧ (s.cidMap m.conn).isSome = true ∧ s.side m.conn = some i := by
  constructor
  · intro h
    unfold event at h
    split at h
    · exact absurd h (by simp)
    · rename_i type doc hreq
      obtain ⟨-, htype, hcid⟩ := request_eq_some_iff.1 hreq
      cases type <;> simp only [reduceCtorEq] at h
      case lobbyReady => exact ⟨htype, hcid, by cases hside : s.side m.conn <;> simp_all⟩
      case lobbyReset => cases hside : s.side m.conn <;> simp [hside] at h
      case lobbyReportResults => cases hr : doc.reportResults <;> simp [hr] at h
      all_goals exact absurd h (setterEvent_ne (by simp) (by simp))
  · rintro ⟨htype, hcid, hside⟩
    obtain ⟨doc, hreq⟩ := exists_request htype hcid
    simp [event, hreq, hside]

/-- A player's reset, in terms of the message. -/
lemma event_eq_reset_iff {s : SessionServer} {m : Incoming} {i : Side} :
    s.event m = .reset i ↔
      m.type? = some .lobbyReset ∧ (s.cidMap m.conn).isSome = true ∧ s.side m.conn = some i := by
  constructor
  · intro h
    unfold event at h
    split at h
    · exact absurd h (by simp)
    · rename_i type doc hreq
      obtain ⟨-, htype, hcid⟩ := request_eq_some_iff.1 hreq
      cases type <;> simp only [reduceCtorEq] at h
      case lobbyReset => exact ⟨htype, hcid, by cases hside : s.side m.conn <;> simp_all⟩
      case lobbyReady => cases hside : s.side m.conn <;> simp [hside] at h
      case lobbyReportResults => cases hr : doc.reportResults <;> simp [hr] at h
      all_goals exact absurd h (setterEvent_ne (by simp) (by simp))
  · rintro ⟨htype, hcid, hside⟩
    obtain ⟨doc, hreq⟩ := exists_request htype hcid
    simp [event, hreq, hside]

/-! ## Slots -/

lemma exists_player_of_side {s : SessionServer} {conn : HSteamNetConnection} {i : Side}
    (h : s.side conn = some i) : ∃ m, s.player i = some m ∧ m.conn = conn := by
  unfold side at h
  split_ifs at h with h₀ h₁
  · obtain rfl : (0 : Side) = i := by simpa using h
    simpa using h₀
  · obtain rfl : (1 : Side) = i := by simpa using h
    simpa using h₁

/-- The player found by `side` occupies the slot under that connection. -/
lemma exists_occupant_of_side {s : SessionServer} {conn : HSteamNetConnection} {i : Side}
    (h : s.side conn = some i) : ∃ name, s.occupant i = some (conn, name) := by
  obtain ⟨m, hm, rfl⟩ := exists_player_of_side h
  exact ⟨m.data.name, by simp [occupant, hm, SessionMember.who]⟩

/-- A change of the members' data that keeps connections and names keeps the slots. -/
lemma occupant_map {s s' : SessionServer} (f : SessionMember → SessionMember)
    (hf : ∀ c, (f c).who = c.who) (h : s'.clients = s.clients.map f) (i : Side) :
    s'.occupant i = s.occupant i := by
  simp [occupant, player, h, Option.map_map, Function.comp_def, hf]

@[simp] lemma occupant_resetLobbyForRematch (s : SessionServer) (i : Side) :
    s.resetLobbyForRematch.occupant i = s.occupant i :=
  occupant_map markUnloaded (fun _ => rfl) rfl i

/-! ## Quiet steps -/

/-- A step of the server that touches nothing the players agree on: it may fill empty slots,
and it never takes back the promise of a data update. -/
structure Quiet (s s' : SessionServer) : Prop where
  /-- The ready numbers stay. -/
  ready : s'.matchData.readyMessageNum = s.matchData.readyMessageNum
  /-- The setup stays. -/
  setup : s'.setup = s.setup
  /-- Nobody leaves a slot. -/
  occupant : ∀ i w, s.occupant i = some w → s'.occupant i = some w
  /-- A pending data update stays pending. -/
  dirty : s.dataDirty = true → s'.dataDirty = true

lemma Quiet.refl (s : SessionServer) : Quiet s s := ⟨rfl, rfl, fun _ _ h => h, id⟩

lemma onHello_quiet (s : SessionServer) (conn : HSteamNetConnection) :
    Quiet s (s.onHello conn).1 := ⟨rfl, rfl, fun _ _ h => h, id⟩

/-- Joining appends at the end, so occupied slots keep their occupants. -/
lemma occupant_append {s s' : SessionServer} {c : SessionMember}
    (h : s'.clients = s.clients ++ [c]) {i : Side} {w : Who} (hw : s.occupant i = some w) :
    s'.occupant i = some w := by
  simp only [occupant, player, Option.map_eq_some_iff] at hw ⊢
  obtain ⟨m, hm, rfl⟩ := hw
  have hlt : i.val < s.clients.length := by
    by_contra hge
    simp [List.getElem?_eq_none (not_lt.1 hge)] at hm
  exact ⟨m, by rw [h, List.getElem?_append_left hlt, hm], rfl⟩

lemma registerToWait_cases (s : SessionServer) (m : Incoming) (request : SessionJoinRequest)
    (cid : ConnectionID) :
    (∃ c, s.registerToWait m request cid = (.joinOk, { s with clients := s.clients ++ [c] })) ∨
      ∃ r, r ≠ .joinOk ∧ s.registerToWait m request cid = (r, s) := by
  unfold registerToWait
  split_ifs
  · exact .inr ⟨.hashInvalid, by simp, rfl⟩
  · exact .inr ⟨.lobbyFull, by simp, rfl⟩
  · exact .inr ⟨.nameTaken, by simp, rfl⟩
  all_goals exact .inl ⟨_, rfl⟩

lemma onJoinReq_quiet (s : SessionServer) (m : Incoming) (doc : Document) (cid : ConnectionID) :
    Quiet s (s.onJoinReq m doc cid).1 := by
  unfold onJoinReq
  split
  · exact .refl s
  · rename_i request _
    obtain ⟨c, h⟩ | ⟨r, hr, h⟩ := s.registerToWait_cases m request cid
    · rw [h]
      exact ⟨rfl, rfl, fun i w hw => occupant_append rfl hw, fun _ => rfl⟩
    · rw [h]
      cases r with
      | joinOk => exact absurd rfl hr
      | requestInvalid | lobbyFull | nameTaken | hashInvalid => exact .refl s

lemma onPunchReady_quiet (s : SessionServer) (conn : HSteamNetConnection) :
    Quiet s (s.onPunchReady conn).1 := by
  unfold onPunchReady
  split
  · exact .refl s
  · dsimp only
    split
    all_goals exact ⟨rfl, rfl, fun _ _ h => h, id⟩

lemma who_markLoaded (conn : HSteamNetConnection) (c : SessionMember) :
    (markLoaded conn c).who = c.who := by
  unfold markLoaded
  split <;> rfl

/-- A setter leaves the ready numbers and the members alone and asks for a data update. -/
structure Sets (s s' : SessionServer) : Prop where
  /-- The ready numbers stay. -/
  ready : s'.matchData.readyMessageNum = s.matchData.readyMessageNum
  /-- The members stay. -/
  clients : s'.clients = s.clients
  /-- A pending data update stays pending. -/
  dirty : s.dataDirty = true → s'.dataDirty = true

lemma Sets.occupant {s s' : SessionServer} (h : Sets s s') (i : Side) :
    s'.occupant i = s.occupant i := by
  simp [SessionServer.occupant, player, h.clients]

lemma Sets.quiet {s s' : SessionServer} (h : Sets s s') (hs : s'.setup = s.setup) :
    Quiet s s' :=
  ⟨h.ready, hs, fun i w hw => by rw [h.occupant i, hw], h.dirty⟩

lemma onSetChara_sets (s : SessionServer) (conn : HSteamNetConnection) (doc : Document) :
    Sets s (s.onSetChara conn doc) := by
  unfold onSetChara
  split
  · exact ⟨rfl, rfl, fun _ => rfl⟩
  · exact ⟨rfl, rfl, id⟩

lemma hostSetter_sets {ρ : Type} (s : SessionServer) (conn : HSteamNetConnection)
    (request : Option ρ) {set : ρ → SessionServer}
    (hready : ∀ r, (set r).matchData.readyMessageNum = s.matchData.readyMessageNum)
    (hclients : ∀ r, (set r).clients = s.clients) : Sets s (s.hostSetter conn request set) := by
  unfold hostSetter
  split
  · exact ⟨rfl, rfl, id⟩
  · split
    · exact ⟨rfl, rfl, id⟩
    · exact ⟨hready _, hclients _, fun _ => rfl⟩

lemma onSetEnv_sets (s : SessionServer) (conn : HSteamNetConnection) (doc : Document) :
    Sets s (s.onSetEnv conn doc) :=
  hostSetter_sets _ _ _ (fun _ => rfl) (fun _ => rfl)

lemma onSetStage_sets (s : SessionServer) (conn : HSteamNetConnection) (doc : Document) :
    Sets s (s.onSetStage conn doc) :=
  hostSetter_sets _ _ _ (fun _ => rfl) (fun _ => rfl)

lemma onSetSettings_sets (s : SessionServer) (conn : HSteamNetConnection) (doc : Document) :
    Sets s (s.onSetSettings conn doc) :=
  hostSetter_sets _ _ _ (fun _ => rfl) (fun _ => rfl)

/-- A step that takes no connection id back. -/
def KeepsIds (s s' : SessionServer) : Prop :=
  ∀ c, (s.cidMap c).isSome = true → (s'.cidMap c).isSome = true

/-! ## Outputs of a handler -/

lemma relayTo_routine (s : SessionServer) (dest : ConnectionID) (doc : Document) :
    ∀ o ∈ s.relayTo dest doc, Output.routine o := by
  unfold relayTo
  split <;> simp [Output.routine, ServerMessage.routine]

lemma onForward_routine (s : SessionServer) (doc : Document) :
    ∀ o ∈ s.onForward doc, Output.routine o := by
  unfold onForward
  split
  · simp
  · exact s.relayTo_routine _ doc

lemma onGgpoFrame_routine (s : SessionServer) (conn : HSteamNetConnection) (doc : Document) :
    ∀ o ∈ s.onGgpoFrame conn doc, Output.routine o := by
  unfold onGgpoFrame
  split
  · simp
  · split
    · simp
    · exact s.relayTo_routine _ doc

lemma onVerification_routine (s : SessionServer) (conn : HSteamNetConnection) (doc : Document) :
    ∀ o ∈ s.onVerification conn doc, Output.routine o := by
  intro o ho
  obtain ⟨c, _, rfl⟩ := List.mem_map.1 ho
  rfl

lemma onJoinReq_routine (s : SessionServer) (m : Incoming) (doc : Document)
    (cid : ConnectionID) : ∀ o ∈ (s.onJoinReq m doc cid).2, Output.routine o := by
  unfold onJoinReq
  split
  · simp [Output.routine, ServerMessage.routine]
  · split <;> simp [Output.routine, ServerMessage.routine]

lemma onPunchReady_routine (s : SessionServer) (conn : HSteamNetConnection) :
    ∀ o ∈ (s.onPunchReady conn).2, Output.routine o := by
  unfold onPunchReady
  split
  · simp
  · dsimp only
    split <;> simp [Output.routine, ServerMessage.routine, broadcastMessage]

end SessionServer

open SessionServer

/-! ## Inversion of `onMessage` -/

namespace StepState

/-- The state after the player on side `i` got ready with message number `n`. -/
def markReady (st : StepState) (i : Side) (n : ℕ) : StepState :=
  let matchData := { st.server.matchData with
    readyMessageNum := Function.update st.server.matchData.readyMessageNum i (n : ℤ) }
  { st with
    server := { st.server with matchData := matchData, dataDirty := true }
    bSendLobbyAllReady := st.bSendLobbyAllReady || matchData.isAllReady }

/-- Everything that handling a message can do, by the kind of the message. -/
inductive Handled (st : StepState) (m : Incoming) : Event → StepState → List Output → Prop
  | ready {i : Side} (hside : st.server.side m.conn = some i) :
      Handled st m (.ready i) (st.markReady i m.messageNumber) []
  | reset {i : Side} (hside : st.server.side m.conn = some i) :
      Handled st m (.reset i) { st with server := st.server.resetLobbyForRematch } []
  | results {l : ℤ} {s' : SessionServer} (hs' : st.server.handleResults l = some s') :
      Handled st m (.results l) { st with server := { s' with dataDirty := true } } []
  | setter {s' : SessionServer} (hs' : Sets st.server s') :
      Handled st m .setter { st with server := s' } []
  | other {st' : StepState} {out : List Output} (hquiet : Quiet st.server st'.server)
      (hlatch : st'.bSendLobbyAllReady = st.bSendLobbyAllReady)
      (hout : ∀ o ∈ out, Output.routine o) : Handled st m .other st' out

/-- A message that changes nothing but the server, quietly. -/
lemma Handled.of_quiet {st : StepState} {m : Incoming} {s' : SessionServer} {out : List Output}
    (hquiet : Quiet st.server s') (hout : ∀ o ∈ out, Output.routine o) :
    Handled st m .other { st with server := s' } out :=
  .other hquiet rfl hout

/-- A message that leaves everything as it is. -/
lemma Handled.of_same {st : StepState} {m : Incoming} {out : List Output}
    (hout : ∀ o ∈ out, Output.routine o) : Handled st m .other st out :=
  .other (.refl _) rfl hout

lemma Handled.of_sets {st : StepState} {m : Incoming} {s' : SessionServer}
    (h : Sets st.server s') :
    Handled st m (st.server.setterEvent s') { st with server := s' } [] := by
  unfold setterEvent
  split
  · exact .of_quiet (h.quiet ‹_›) (by simp)
  · exact .setter h

lemma onBattleLoaded_quiet (st : StepState) (conn : HSteamNetConnection) :
    Quiet st.server (st.onBattleLoaded conn).server :=
  ⟨rfl, rfl, fun i w hw => by rw [← hw]; exact occupant_map _ (who_markLoaded conn) rfl i,
    fun _ => rfl⟩

lemma onReady_eq_markReady {st : StepState} {m : Incoming} {i : Side}
    (h : st.server.side m.conn = some i) : st.onReady m = st.markReady i m.messageNumber := by
  simp only [onReady, h]
  rfl

/-- The handlers of registered connections, by the kind of the message. -/
lemma onRegistered_cases {st st' : StepState} {m : Incoming} {doc : Document}
    {field : TypeField} {cid : ConnectionID} {out : List Output}
    (hp : m.payload = some doc) (ht : doc.type = some field)
    (hc : st.server.cidMap m.conn = some cid)
    (h : st.onRegistered m doc (MessageType.fromJson field) cid = some (st', out)) :
    Handled st m (st.server.event m) st' out := by
  have hreq : st.server.request m = some (MessageType.fromJson field, doc) := by
    simp [request, hp, ht, hc]
  rw [event, hreq]
  generalize MessageType.fromJson field = type at h
  cases type <;> simp only [onRegistered, Option.some.injEq, Prod.mk.injEq] at h ⊢
  case lobbyReportResults =>
    unfold onReportResults at h
    cases hr : doc.reportResults with
    | none =>
      simp only [hr, Option.map_some, Option.some.injEq, Prod.mk.injEq] at h
      obtain ⟨rfl, rfl⟩ := h
      exact .of_same (by simp)
    | some request =>
      simp only [hr, Option.map_map, Option.map_eq_some_iff, Function.comp_apply,
        Prod.mk.injEq] at h
      obtain ⟨s', hs', rfl, rfl⟩ := h
      exact .results hs'
  all_goals obtain ⟨rfl, rfl⟩ := h
  case lobbyReady =>
    cases hside : st.server.side m.conn with
    | none =>
      have hsame : st.onReady m = st := by simp [onReady, hside]
      rw [hsame]
      exact .of_same (by simp)
    | some i =>
      rw [onReady_eq_markReady hside]
      exact .ready hside
  case lobbyReset =>
    unfold onReset
    cases hside : st.server.side m.conn with
    | none => exact .of_same (by simp)
    | some i => exact .reset hside
  case preBattleSetChara => exact .of_sets (onSetChara_sets _ _ _)
  case preBattleSetEnv => exact .of_sets (onSetEnv_sets _ _ _)
  case preBattleSetStage => exact .of_sets (onSetStage_sets _ _ _)
  case lobbySetSettings => exact .of_sets (onSetSettings_sets _ _ _)
  case sessionJoinReq => exact .of_quiet (onJoinReq_quiet _ _ _ _) (onJoinReq_routine _ _ _ _)
  case punchReady => exact .of_quiet (onPunchReady_quiet _ _) (onPunchReady_routine _ _)
  case battleLoaded => exact .other (onBattleLoaded_quiet _ _) rfl (by simp)
  case forward => exact .of_same (onForward_routine _ _)
  case battleSnapshot => exact .of_same (onVerification_routine _ _ _)
  case battleHash => exact .of_same (onVerification_routine _ _ _)
  case battleGgpoFrame => exact .of_same (onGgpoFrame_routine _ _ _)
  all_goals exact .of_same (by simp)

/-- A message is a request on a connection with an id, or it is dropped, or it introduces a
connection that has no id. -/
lemma onMessage_request {st st' : StepState} {m : Incoming} {out : List Output}
    (h : st.onMessage m = some (st', out)) :
    (∃ type doc cid, st.server.request m = some (type, doc) ∧
      st.server.cidMap m.conn = some cid ∧
      st.onRegistered m doc type cid = some (st', out)) ∨
    st.server.request m = none ∧ st' = st ∧ out = [] ∨
    st.server.request m = none ∧ m.type? = some .sessionHello ∧
      st' = { st with server := (st.server.onHello m.conn).1 } ∧
      out = (st.server.onHello m.conn).2 := by
  unfold onMessage at h
  cases hp : m.payload with
  | none =>
    obtain ⟨rfl, rfl⟩ := Prod.mk.inj (Option.some.inj (by simpa only [hp] using h))
    exact .inr (.inl ⟨by simp [request, hp], rfl, rfl⟩)
  | some doc =>
    cases ht : doc.type with
    | none =>
      obtain ⟨rfl, rfl⟩ := Prod.mk.inj (Option.some.inj (by simpa only [hp, ht] using h))
      exact .inr (.inl ⟨by simp [request, hp, ht], rfl, rfl⟩)
    | some field =>
      cases hc : st.server.cidMap m.conn with
      | some cid =>
        simp only [hp, ht, hc] at h
        exact .inl ⟨_, doc, cid, by simp [request, hp, ht, hc], rfl, h⟩
      | none =>
        simp only [hp, ht, hc] at h
        split_ifs at h with htype
        all_goals obtain ⟨rfl, rfl⟩ := Prod.mk.inj (Option.some.inj h)
        · exact .inr (.inr ⟨by simp [request, hp, ht, hc], by simp [Incoming.type?, hp, ht, htype],
            rfl, rfl⟩)
        · exact .inr (.inl ⟨by simp [request, hp, ht, hc], rfl, rfl⟩)

/-- A request is handled for the id of its connection. -/
lemma onMessage_of_request {st : StepState} {m : Incoming} {type : MessageType} {doc : Document}
    (h : st.server.request m = some (type, doc)) :
    ∃ cid, st.server.cidMap m.conn = some cid ∧
      st.onMessage m = st.onRegistered m doc type cid := by
  unfold request at h
  cases hp : m.payload with
  | none => simp [hp] at h
  | some doc' =>
    cases ht : doc'.type with
    | none => simp [hp, ht] at h
    | some field =>
      cases hc : st.server.cidMap m.conn with
      | none => simp [hp, ht, hc] at h
      | some cid =>
        simp only [hp, ht, hc, Option.some.injEq, Prod.mk.injEq] at h
        obtain ⟨rfl, rfl⟩ := h
        exact ⟨cid, rfl, by simp only [onMessage, hp, ht, hc]⟩

/-- **Inversion.** What handling a message does is determined by the kind of the message. -/
theorem onMessage_cases {st st' : StepState} {m : Incoming} {out : List Output}
    (h : st.onMessage m = some (st', out)) : Handled st m (st.server.event m) st' out := by
  unfold onMessage at h
  cases hp : m.payload with
  | none =>
    simp only [hp, Option.some.injEq, Prod.mk.injEq] at h
    obtain ⟨rfl, rfl⟩ := h
    simpa [event, request, hp] using Handled.of_same (by simp)
  | some doc =>
    cases ht : doc.type with
    | none =>
      simp only [hp, ht, Option.some.injEq, Prod.mk.injEq] at h
      obtain ⟨rfl, rfl⟩ := h
      simpa [event, request, hp, ht] using Handled.of_same (by simp)
    | some field =>
      cases hc : st.server.cidMap m.conn with
      | some cid =>
        simp only [hp, ht, hc] at h
        exact onRegistered_cases hp ht hc h
      | none =>
        -- an unknown connection can do nothing but introduce itself
        have hev : st.server.event m = .other := by simp [event, request, hp, ht, hc]
        rw [hev]
        simp only [hp, ht, hc] at h
        split_ifs at h
        all_goals
          simp only [Option.some.injEq, Prod.mk.injEq] at h
          obtain ⟨rfl, rfl⟩ := h
        · exact .of_quiet (onHello_quiet _ _)
            (by simp [onHello, Output.routine, ServerMessage.routine])
        · exact .of_same (by simp)

/-! ## What no message changes -/

lemma onHello_keepsIds (s : SessionServer) (conn : HSteamNetConnection) :
    KeepsIds s (s.onHello conn).1 := by
  intro c hc
  by_cases hcc : c = conn
  · subst hcc
    simp [onHello]
  · simpa [onHello, Function.update_of_ne hcc] using hc

lemma keepsIds_of_eq {s s' : SessionServer} (h : s'.cidMap = s.cidMap) : KeepsIds s s' :=
  fun c hc => by rw [h]; exact hc

lemma onJoinReq_cidMap (s : SessionServer) (m : Incoming) (doc : Document)
    (cid : ConnectionID) : (s.onJoinReq m doc cid).1.cidMap = s.cidMap := by
  unfold onJoinReq
  split
  · rfl
  · rename_i request _
    obtain ⟨c, h⟩ | ⟨r, hr, h⟩ := s.registerToWait_cases m request cid
    · rw [h]
    · rw [h]
      cases r <;> rfl

lemma onPunchReady_cidMap (s : SessionServer) (conn : HSteamNetConnection) :
    (s.onPunchReady conn).1.cidMap = s.cidMap := by
  unfold onPunchReady
  split
  · rfl
  · dsimp only
    split <;> rfl

lemma onSetChara_cidMap (s : SessionServer) (conn : HSteamNetConnection) (doc : Document) :
    (s.onSetChara conn doc).cidMap = s.cidMap := by
  unfold onSetChara
  split <;> rfl

lemma hostSetter_cidMap {ρ : Type} (s : SessionServer) (conn : HSteamNetConnection)
    (request : Option ρ) {set : ρ → SessionServer} (h : ∀ r, (set r).cidMap = s.cidMap) :
    (s.hostSetter conn request set).cidMap = s.cidMap := by
  unfold hostSetter
  split
  · rfl
  · split
    · rfl
    · exact h _

lemma onReset_cidMap (s : SessionServer) (conn : HSteamNetConnection) :
    (s.onReset conn).cidMap = s.cidMap := by
  unfold onReset
  split <;> rfl

lemma handleResults_cidMap {s s' : SessionServer} {l : ℤ} (h : s.handleResults l = some s') :
    s'.cidMap = s.cidMap := by
  unfold handleResults at h
  split_ifs at h
  split at h
  · exact absurd h (by simp)
  · obtain rfl := Option.some.inj h
    rfl

lemma onReportResults_cidMap {s s' : SessionServer} {doc : Document}
    (h : s.onReportResults doc = some s') : s'.cidMap = s.cidMap := by
  unfold onReportResults at h
  split at h
  · obtain rfl := Option.some.inj h
    rfl
  · obtain ⟨s₁, hs₁, rfl⟩ := Option.map_eq_some_iff.1 h
    have hcid := handleResults_cidMap hs₁
    exact hcid

lemma onReady_cidMap (st : StepState) (m : Incoming) :
    (st.onReady m).server.cidMap = st.server.cidMap := by
  unfold onReady
  split <;> rfl

lemma onRegistered_cidMap {st st' : StepState} {m : Incoming} {doc : Document}
    {type : MessageType} {cid : ConnectionID} {out : List Output}
    (h : st.onRegistered m doc type cid = some (st', out)) :
    st'.server.cidMap = st.server.cidMap := by
  cases type <;> simp only [onRegistered, Option.some.injEq, Prod.mk.injEq] at h
  case lobbyReportResults =>
    obtain ⟨s', hs', heq⟩ := Option.map_eq_some_iff.1 h
    obtain ⟨rfl, -⟩ := Prod.mk.injEq _ _ _ _ ▸ heq
    exact onReportResults_cidMap hs'
  all_goals obtain ⟨rfl, -⟩ := h
  case lobbyReady => exact onReady_cidMap _ _
  case lobbyReset => exact onReset_cidMap _ _
  case preBattleSetChara => exact onSetChara_cidMap _ _ _
  case preBattleSetEnv => exact hostSetter_cidMap _ _ _ fun _ => rfl
  case preBattleSetStage => exact hostSetter_cidMap _ _ _ fun _ => rfl
  case lobbySetSettings => exact hostSetter_cidMap _ _ _ fun _ => rfl
  case sessionJoinReq => exact onJoinReq_cidMap _ _ _ _
  case punchReady => exact onPunchReady_cidMap _ _
  all_goals rfl

/-- The connection ids a server has handed out stay through every message. -/
lemma onMessage_keepsIds {st st' : StepState} {m : Incoming} {out : List Output}
    (h : st.onMessage m = some (st', out)) : KeepsIds st.server st'.server := by
  unfold onMessage at h
  split at h
  · obtain ⟨rfl, -⟩ := Prod.mk.inj (Option.some.inj h)
    exact keepsIds_of_eq rfl
  · split at h
    · obtain ⟨rfl, -⟩ := Prod.mk.inj (Option.some.inj h)
      exact keepsIds_of_eq rfl
    · dsimp only at h
      split at h
      · split at h
        all_goals obtain ⟨rfl, -⟩ := Prod.mk.inj (Option.some.inj h)
        · exact onHello_keepsIds _ _
        · exact keepsIds_of_eq rfl
      · exact keepsIds_of_eq (onRegistered_cidMap h)

end StepState
end Sf4e
