/-
# Which room a started session belongs to

A start that ends with a session on the VPS has given the game a room code, a match id, a room
token and a GGPO endpoint.  They should all be those of the room that is being started.  The
match id, the token and the port that `createRelayRoom` keeps in the controller are never
cleared, so they are also filled in for a room of another code; and a room that the matchmaking
queue has found is left without any of them.

`coherent_iff_ownRoom` says for every history of the launcher's window which starts are right:
those where what the controller has kept agrees with the started room, or is not consulted
because the plan has the value.
-/
import Sf4e.Launcher.Controller

namespace Sf4e
namespace Launcher

open Trace Wire Transport
open Broker (ConnectPlanResult Role applyConnectPlanToConfig)
open Relay (ascii)

/-- One message of the window, as the log keeps it. -/
abbrev LaunchEntry := Entry Controller Message Reply

/-! ## Values from several sources -/

section Taken

variable {α : Type*} {blank value : α} {offered : List α}

/-- The value is one of those offered, and it is missing only where none was offered. -/
def Taken (blank : α) (offered : List α) (value : α) : Prop :=
  value ∈ blank :: offered ∧ (value = blank → ∀ v ∈ offered, v = blank)

instance [DecidableEq α] : Decidable (Taken blank offered value) :=
  inferInstanceAs (Decidable (_ ∧ (_ → _)))

lemma taken_pair {created planned : α} : Taken blank [created, planned] value ↔
    (value = blank ∨ value = created ∨ value = planned) ∧
      (value = blank → created = blank ∧ planned = blank) := by
  simp [Taken]

lemma taken_pair_blank {created planned : α} :
    Taken blank [created, planned] blank ↔ created = blank ∧ planned = blank := by
  simp [Taken]

variable [DecidableEq α] {kept created planned : α}

/-- A plan's value that gives way to a kept one. -/
lemma taken_keptFirst :
    Taken blank [created, planned] (if kept = blank then planned else kept) ↔
      kept = created ∨ (planned ≠ blank ∧ (kept = blank ∨ kept = planned)) := by
  rw [taken_pair]
  by_cases hkept : kept = blank
  · by_cases hplanned : planned = blank
    · simp [hkept, hplanned, eq_comm]
    · simp [hkept, hplanned]
  · rw [if_neg hkept]
    constructor
    · rintro ⟨h | h | h, -⟩
      · exact absurd h hkept
      · exact .inl h
      · exact .inr ⟨fun hplanned => hkept (h.trans hplanned), .inr h⟩
    · rintro (h | ⟨-, h | h⟩)
      · exact ⟨.inr (.inl h), fun hblank => absurd hblank hkept⟩
      · exact absurd h hkept
      · exact ⟨.inr (.inr h), fun hblank => absurd hblank hkept⟩

/-- A plan's value that a kept one stands in for. -/
lemma taken_plannedFirst :
    Taken blank [created, planned] (if planned = blank then kept else planned) ↔
      planned ≠ blank ∨ kept = created := by
  rw [taken_pair]
  by_cases hplanned : planned = blank
  · by_cases hkept : kept = blank
    · simp [hkept, hplanned, eq_comm]
    · simp [hkept, hplanned]
  · simp [hplanned]

end Taken

/-! ## The values of a room -/

/-- The GGPO endpoint in a pair of fields; port `0` is none. -/
def ggpoEndpoint (host : HostField) (port : UInt16) : Option (HostField × UInt16) :=
  if port = 0 then none else some (host, port)

/-- What identifies the match of a room. -/
@[ext] structure RoomValues where
  matchId : HexIdField
  roomToken : HexIdField
  endpoint : Option (HostField × UInt16)
deriving DecidableEq

/-- Nothing. -/
def RoomValues.blank : RoomValues := ⟨.copy [], .copy [], none⟩

/-- The values in a configuration. -/
def LaunchConfig.values (cfg : LaunchConfig) : RoomValues :=
  ⟨cfg.matchId, cfg.ggpoRoomToken, ggpoEndpoint cfg.ggpoRemoteHost cfg.ggpoRemotePort⟩

/-- The values of a created room that the broker says is at `host`. -/
def SessionFields.values (session : SessionFields) (host : HostField) : RoomValues :=
  ⟨session.matchId, session.roomToken, ggpoEndpoint host session.ggpoPort⟩

/-- The values of a connect plan; a failed request has none. -/
def planValues (plan : ConnectPlanResult) : RoomValues :=
  if plan.ok then
    ⟨plan.matchId, plan.roomToken, ggpoEndpoint plan.ggpoRemoteHost plan.ggpoRemotePort⟩
  else .blank

/-- The values that the matchmaking queue sends along with a room. -/
def QueueAnswer.values (found : QueueAnswer) : RoomValues :=
  ⟨found.matchId, found.roomToken, ggpoEndpoint found.host found.ggpoPort⟩

/-- What `createRelayRoom` keeps of a room. -/
def RelayRoomCreateResult.session (created : RelayRoomCreateResult) : SessionFields :=
  ⟨created.matchId, created.roomToken, created.ggpoPort⟩

/-! ## The room of a start -/

/-- A room that the message creates. -/
def Message.created? : Message → Option RelayRoomCreateResult
  | .createRelayRoom (.ok created) => some created
  | _ => none

/-- What the broker said of the last created room. -/
def lastCreated (log : List LaunchEntry) : SessionFields :=
  ((log.filterMap (·.act.created?)).head?).elim .blank (·.session)

/-- What the broker said of a room when this window created it. -/
def createdAs (room : Text) (log : List LaunchEntry) : SessionFields :=
  (((log.filterMap (·.act.created?)).filter
    (normalizeRelayRoomCode ·.shortCode = some room)).head?).elim .blank (·.session)

/-- A guest whose room is found by the matchmaking queue. -/
def StartMessage.ByQueue (msg : StartMessage) (settings : PersistedSettings) : Prop :=
  msg.mode = .join ∧ msg.method settings = .matchmaking

instance (msg : StartMessage) (settings : PersistedSettings) : Decidable (msg.ByQueue settings) :=
  inferInstanceAs (Decidable (_ ∧ _))

/-- The code of the room that is hosted or joined. -/
def StartMessage.code (msg : StartMessage) (settings : PersistedSettings) (ans : StartAnswers) :
    Text :=
  match msg.mode, ans.queue with
  | .host, _ => msg.relayCode settings
  | .join, .ok found => if msg.method settings = .matchmaking then found.code else msg.joinCode
  | .join, .error _ => msg.joinCode
  | .idle, _ => []

/-- The room that is hosted or joined: two codes with one normal form are one room. -/
def StartMessage.room? (msg : StartMessage) (settings : PersistedSettings) (ans : StartAnswers) :
    Option Text := normalizeRelayRoomCode (msg.code settings ans)

/-- The host that the broker gives for the room. -/
def StartAnswers.roomHost (ans : StartAnswers) : HostField :=
  match ans.lookup with
  | .ok endpoint => endpoint.host
  | .error _ => .copy []

/-- What was created of the started room. -/
def StartMessage.createdRoom (msg : StartMessage) (settings : PersistedSettings)
    (ans : StartAnswers) (older : List LaunchEntry) : SessionFields :=
  (msg.room? settings ans).elim .blank (createdAs · older)

/-- What the broker has answered while the room is started: the queue's answer to a guest who
asked it, and else the connect plan, unless the tunnel is demanded and no plan is fetched. -/
def StartMessage.answered (env : Option Text) (msg : StartMessage) (settings : PersistedSettings)
    (ans : StartAnswers) : RoomValues :=
  if msg.ByQueue settings then
    match ans.queue with
    | .ok found => found.values
    | .error _ => .blank
  else if transportIs env "legacy" then .blank else planValues ans.plan

/-- Everything that the broker has answered about the room of a start. -/
def StartMessage.offers (env : Option Text) (msg : StartMessage) (settings : PersistedSettings)
    (ans : StartAnswers) (older : List LaunchEntry) : List RoomValues :=
  [(msg.createdRoom settings ans older).values ans.roomHost, msg.answered env settings ans]

/-- The configuration is that of the started room: its code, match id, token and endpoint are
the broker's for this room, and none is missing that the broker has answered. -/
structure Coherent (env : Option Text) (older : List LaunchEntry) (settings : PersistedSettings)
    (msg : StartMessage) (ans : StartAnswers) (cfg : LaunchConfig) : Prop where
  code : ∀ room ∈ msg.room? settings ans,
    normalizeRelayRoomCode cfg.relayRoomCode.bytes = some room
  matchId : Taken (.copy []) ((msg.offers env settings ans older).map (·.matchId))
    cfg.values.matchId
  roomToken : Taken (.copy []) ((msg.offers env settings ans older).map (·.roomToken))
    cfg.values.roomToken
  endpoint : Taken none ((msg.offers env settings ans older).map (·.endpoint))
    cfg.values.endpoint

/-- What the controller keeps (of the room last created) does for a room that was created with
`created`, if at all, and whose plan has `planned`. -/
structure Suits (kept created planned : RoomValues) : Prop where
  /-- The kept match id comes before the plan's. -/
  matchId : kept.matchId = created.matchId ∨ (planned.matchId ≠ .copy [] ∧
    (kept.matchId = .copy [] ∨ kept.matchId = planned.matchId))
  /-- The plan's token comes before the kept one. -/
  roomToken : planned.roomToken ≠ .copy [] ∨ kept.roomToken = created.roomToken
  /-- The plan's endpoint comes before the kept one. -/
  endpoint : planned.endpoint ≠ none ∨ kept.endpoint = created.endpoint

instance (kept created planned : RoomValues) : Decidable (Suits kept created planned) :=
  decidable_of_iff (_ ∧ _ ∧ _)
    ⟨fun h => ⟨h.1, h.2.1, h.2.2⟩, fun h => ⟨h.matchId, h.roomToken, h.endpoint⟩⟩

/-- A start that gets the values of its own room: by the queue only if the queue has no room
to tell of, with the tunnel demanded only if nothing was created, and else if what the
controller keeps suits the room. -/
def OwnRoom (env : Option Text) (older : List LaunchEntry) (settings : PersistedSettings)
    (msg : StartMessage) (ans : StartAnswers) : Prop :=
  if msg.ByQueue settings then
    msg.room? settings ans = none ∧ msg.answered env settings ans = .blank
  else if transportIs env "legacy" then
    (msg.createdRoom settings ans older).values ans.roomHost = .blank
  else
    Suits ((lastCreated older).values ans.roomHost)
      ((msg.createdRoom settings ans older).values ans.roomHost) (planValues ans.plan)

instance (env : Option Text) (older : List LaunchEntry) (settings : PersistedSettings)
    (msg : StartMessage) (ans : StartAnswers) : Decidable (OwnRoom env older settings msg ans) :=
  inferInstanceAs (Decidable (@ite Prop _ _ _ (@ite Prop _ _ _ _)))

/-! ## What the launcher fills in -/

@[simp] lemma copy_hexId (a : HexIdField) : HexIdField.copy a.bytes = a :=
  CString.copy_bytes_self _ a

@[simp] lemma copy_host (a : HostField) : HostField.copy a.bytes = a :=
  CString.copy_bytes_self _ a

/-- The launcher tells a blank field by its first byte. -/
lemma bytes_eq_nil {a : HexIdField} : a.bytes = [] ↔ a = .copy [] := by
  constructor
  · intro h
    rw [← copy_hexId a, h]
  · rintro rfl
    rfl

@[simp] lemma ggpoEndpoint_eq_none {host : HostField} {port : UInt16} :
    ggpoEndpoint host port = none ↔ port = 0 := by simp [ggpoEndpoint]

variable {env : Option Text} {session : SessionFields} {plan : ConnectPlanResult} {role : Role}
  {cfg : LaunchConfig}

/-- The plan is the first to fill the configuration. -/
lemma values_applyConnectPlan (h : cfg.values = .blank) :
    LaunchConfig.values { cfg with
      toNetplayConfig := applyConnectPlanToConfig plan cfg.toNetplayConfig } = planValues plan := by
  unfold applyConnectPlanToConfig planValues
  split
  · simp [LaunchConfig.values]
  · exact h

lemma values_fillToken : (session.fillToken cfg).values = { cfg.values with
    roomToken := if cfg.values.roomToken = .copy [] then session.roomToken
      else cfg.values.roomToken } := by
  simp only [SessionFields.fillToken, LaunchConfig.values, ne_eq, bytes_eq_nil, copy_hexId]
  by_cases hcfg : cfg.ggpoRoomToken = .copy []
  · by_cases hkept : session.roomToken = .copy []
    · simp [hcfg, hkept]
    · simp [hcfg, hkept]
  · simp [hcfg]

lemma values_fillMatchId : (session.fillMatchId cfg).values = { cfg.values with
    matchId := if session.matchId = .copy [] then cfg.values.matchId else session.matchId } := by
  simp only [SessionFields.fillMatchId, LaunchConfig.values, ne_eq, bytes_eq_nil, copy_hexId]
  split <;> simp_all

lemma values_fillEndpoint : (session.fillEndpoint cfg).values = { cfg.values with
    endpoint := if cfg.values.endpoint = none then (session.values cfg.sessionHost).endpoint
      else cfg.values.endpoint } := by
  simp only [SessionFields.fillEndpoint, LaunchConfig.values, SessionFields.values, ne_eq,
    ggpoEndpoint_eq_none, copy_host]
  by_cases hcfg : cfg.ggpoRemotePort = 0
  · by_cases hkept : session.ggpoPort = 0
    · simp [hcfg, hkept, ggpoEndpoint]
    · simp [hcfg, hkept]
  · simp [hcfg]

@[simp] lemma sessionHost_fillToken :
    (session.fillToken cfg).sessionHost = cfg.sessionHost := by
  unfold SessionFields.fillToken
  split <;> rfl

@[simp] lemma sessionHost_fillMatchId :
    (session.fillMatchId cfg).sessionHost = cfg.sessionHost := by
  unfold SessionFields.fillMatchId
  split <;> rfl

/-- The controller's own match id replaces the plan's; its other values stand in for missing
ones. -/
lemma values_fill : (session.fill cfg).values =
    { matchId := if session.matchId = .copy [] then cfg.values.matchId else session.matchId
      roomToken :=
        if cfg.values.roomToken = .copy [] then session.roomToken else cfg.values.roomToken
      endpoint :=
        if cfg.values.endpoint = none then (session.values cfg.sessionHost).endpoint
        else cfg.values.endpoint } := by
  simp only [SessionFields.fill, values_fillEndpoint, values_fillMatchId, values_fillToken,
    sessionHost_fillMatchId, sessionHost_fillToken]

/-- With the tunnel demanded nothing is filled in. -/
lemma values_configure_legacy (hlegacy : transportIs env "legacy" = true) :
    (configureGgpoTransportForRelay env session plan role cfg).values = cfg.values := by
  rw [configureGgpoTransportForRelay, if_pos hlegacy]
  rfl

/-- The transport is chosen without touching the values. -/
lemma values_configure (hlegacy : transportIs env "legacy" = false) :
    (configureGgpoTransportForRelay env session plan role cfg).values =
      (session.fill { cfg with
        toNetplayConfig := applyConnectPlanToConfig plan cfg.toNetplayConfig }).values := by
  rw [configureGgpoTransportForRelay, if_neg (by simp [hlegacy])]
  dsimp only
  split_ifs <;> rfl

/-- Filling in is about the transport alone. -/
lemma fill_eq : ∃ net, session.fill cfg = { cfg with toNetplayConfig := net } := by
  refine ⟨(session.fill cfg).toNetplayConfig, ?_⟩
  unfold SessionFields.fill SessionFields.fillEndpoint SessionFields.fillMatchId
    SessionFields.fillToken
  split_ifs <;> rfl

/-- Apart from the transport, only the player's role is set. -/
lemma configure_eq (env : Option Text) (session : SessionFields) (plan : ConnectPlanResult)
    (role : Role) (cfg : LaunchConfig) :
    ∃ net code, configureGgpoTransportForRelay env session plan role cfg =
      { cfg with toNetplayConfig := net, playerRole := code } := by
  unfold configureGgpoTransportForRelay
  obtain ⟨net, hfill⟩ : ∃ net, session.fill
      { cfg with toNetplayConfig := applyConnectPlanToConfig plan cfg.toNetplayConfig } =
        { cfg with toNetplayConfig := net } := fill_eq
  dsimp only
  rw [hfill]
  split_ifs <;> exact ⟨_, _, rfl⟩

@[simp] lemma relayRoomCode_configure :
    (configureGgpoTransportForRelay env session plan role cfg).relayRoomCode =
      cfg.relayRoomCode := by
  obtain ⟨net, code, h⟩ := configure_eq env session plan role cfg
  rw [h]

@[simp] lemma useCentralSession_configure :
    (configureGgpoTransportForRelay env session plan role cfg).useCentralSession =
      cfg.useCentralSession := by
  obtain ⟨net, code, h⟩ := configure_eq env session plan role cfg
  rw [h]

/-! ## Starts on the VPS -/

/-- A start that ends with a session on the VPS, and its configuration. -/
inductive Launched (env : Option Text) (c : Controller) (msg : StartMessage)
    (ans : StartAnswers) : LaunchConfig → Prop
  /-- A room with a known code: its plan is fetched. -/
  | relay {role : Role} {room : Text} {base : LaunchConfig} :
      ¬ msg.ByQueue c.settings → msg.room? c.settings ans = some room →
      base.values = .blank → base.sessionHost = ans.roomHost →
      base.relayRoomCode = .copy (msg.code c.settings ans) →
      Launched env c msg ans
        (configureGgpoTransportForRelay env c.session ans.plan role base)
  /-- A room from the queue: nothing is filled in. -/
  | matched {cfg : LaunchConfig} :
      msg.ByQueue c.settings → cfg.values = .blank → cfg.relayRoomCode = .copy [] →
      Launched env c msg ans cfg

variable {c c' : Controller} {msg : StartMessage} {ans : StartAnswers} {code : Text}

/-- A room that the broker has looked up has a well-formed code. -/
lemma eq_ok_of_resolveJoinRelayRoom {endpoint : Endpoint}
    (h : resolveJoinRelayRoom code ans.lookup = .ok endpoint) :
    (∃ room, normalizeRelayRoomCode code = some room) ∧ ans.roomHost = endpoint.host := by
  unfold resolveJoinRelayRoom at h
  split at h
  · cases h
  · cases hroom : normalizeRelayRoomCode code with
    | none => simp [hroom] at h
    | some room =>
      simp only [hroom] at h
      exact ⟨⟨room, rfl⟩, by rw [StartAnswers.roomHost, h]⟩

/-- A well-formed code is not blank. -/
lemma copy_bytes_ne_nil {room : Text} (h : normalizeRelayRoomCode code = some room) :
    (RoomCodeField.copy code).bytes ≠ [] := by
  intro hnil
  rw [← normalizeRelayRoomCode_copy, hnil] at h
  have hnone : normalizeRelayRoomCode [] = none := by decide
  rw [hnone] at h
  cases h

lemma values_fresh (mode : NetplayMode) (settings : PersistedSettings) :
    (LaunchConfig.fresh mode settings).values = .blank := rfl

/-- A host on the VPS. -/
lemma launched_of_startHostRelay (hmode : msg.mode = .host)
    (hvalues : c.outConfig.values = .blank)
    (h : startHostRelay env c msg ans = (c', none)) (hvps : c'.outConfig.useCentralSession = 2) :
    Launched env c msg ans c'.outConfig := by
  have hcode : msg.code c.settings ans = msg.relayCode c.settings := by
    rw [StartMessage.code, hmode]
  unfold startHostRelay at h
  dsimp only at h
  split at h
  · cases h
  · cases hlookup : resolveJoinRelayRoom (msg.relayCode c.settings) ans.lookup with
    | error text =>
      simp only [hlookup] at h
      cases h
    | ok endpoint =>
      obtain ⟨⟨room, hroom⟩, hhost⟩ := eq_ok_of_resolveJoinRelayRoom hlookup
      simp only [hlookup] at h
      split at h
      · obtain rfl := (Prod.mk.inj h).1
        refine .relay ?_ (hcode ▸ hroom) hvalues ?_ ?_
        · rintro ⟨hjoin, -⟩
          simp [hmode] at hjoin
        · rw [hhost, copy_host]
        · rw [hcode]
      · split at h
        · obtain rfl := (Prod.mk.inj h).1
          simp at hvps
        · cases h

/-- A guest's session is on the VPS only in a relay room or a room of the queue. -/
lemma vpsRelayJoin_of_vps {method : ConnectMethod} {endpoint : Endpoint}
    (h : (joinConfig env c method code ans endpoint).useCentralSession = 2) :
    vpsRelayJoin method ans.health = true := by
  by_contra hno
  simp only [joinConfig, hno, false_and, if_false] at h
  split at h
  · simp at h
  · simp at h

/-- The configuration of a guest by code. -/
lemma joinConfig_relay {endpoint : Endpoint} (hvps : vpsRelayJoin .relay ans.health = true)
    (hcode : (RoomCodeField.copy code).bytes ≠ []) :
    joinConfig env c .relay code ans endpoint =
      configureGgpoTransportForRelay env c.session ans.plan .guest { c.outConfig with
        sessionHost := .copy endpoint.host.bytes
        sessionPort := endpoint.port
        useCentralSession := 2
        relayRoomCode := .copy code } := by
  simp only [joinConfig, hvps, if_true, true_and]
  rw [if_pos hcode]

/-- The configuration of a guest by the queue. -/
lemma joinConfig_matchmaking {endpoint : Endpoint} (hcode : c.outConfig.relayRoomCode = .copy []) :
    joinConfig env c .matchmaking code ans endpoint = { c.outConfig with
      sessionHost := .copy endpoint.host.bytes
      sessionPort := endpoint.port
      useCentralSession := if vpsRelayJoin .matchmaking ans.health then 2 else 0 } := by
  have hblank : (RoomCodeField.copy []).bytes = [] := rfl
  simp only [joinConfig, reduceCtorEq, if_false, hcode, hblank, ne_eq, not_true_eq_false, and_false]

/-- A guest on the VPS. -/
lemma launched_of_startJoin (hmode : msg.mode = .join) (hvalues : c.outConfig.values = .blank)
    (hcode : c.outConfig.relayRoomCode = .copy [])
    (h : startJoin env c msg ans = (c', none)) (hvps : c'.outConfig.useCentralSession = 2) :
    Launched env c msg ans c'.outConfig := by
  unfold startJoin at h
  cases hresolve : resolveJoin (msg.method c.settings) msg.joinCode ans with
  | error text =>
    simp only [hresolve] at h
    cases h
  | ok endpoint =>
    simp only [hresolve] at h
    have hout : c'.outConfig =
        joinConfig env c (msg.method c.settings) msg.joinCode ans endpoint := by
      split at h
      · cases h
      · rw [← (Prod.mk.inj h).1]
    rw [hout] at hvps ⊢
    have hjoin := vpsRelayJoin_of_vps hvps
    cases hmethod : msg.method c.settings with
    | relay =>
      rw [hmethod] at hresolve hjoin
      rw [resolveJoin] at hresolve
      obtain ⟨⟨room, hroom⟩, hhost⟩ := eq_ok_of_resolveJoinRelayRoom hresolve
      have hmsg : msg.code c.settings ans = msg.joinCode := by
        unfold StartMessage.code
        cases hqueue : ans.queue <;> simp [hmode, hmethod]
      rw [joinConfig_relay hjoin (copy_bytes_ne_nil hroom)]
      refine .relay ?_ (hmsg ▸ hroom) hvalues ?_ ?_
      · rintro ⟨-, hqueue⟩
        simp [hmethod] at hqueue
      · rw [hhost, copy_host]
      · rw [hmsg]
    | matchmaking =>
      rw [joinConfig_matchmaking hcode]
      exact .matched ⟨hmode, hmethod⟩ hvalues hcode
    | autoNat => simp [hmethod, vpsRelayJoin] at hjoin
    | direct => simp [hmethod, vpsRelayJoin] at hjoin

/-- A session that starts on the VPS. -/
lemma launched_of_startSession (hvalues : c.outConfig.values = .blank)
    (hcode : c.outConfig.relayRoomCode = .copy []) (hlocal : c.outConfig.useCentralSession = 0)
    (h : startSession env c msg ans = (c', none)) (hvps : c'.outConfig.useCentralSession = 2) :
    Launched env c msg ans c'.outConfig := by
  unfold startSession at h
  cases hmode : msg.mode with
  | idle =>
    simp only [hmode] at h
    obtain rfl := (Prod.mk.inj h).1
    simp [hlocal] at hvps
  | host =>
    simp only [hmode] at h
    split at h
    · exact launched_of_startHostRelay hmode hvalues h hvps
    · obtain rfl := (Prod.mk.inj h).1
      simp [hlocal] at hvps
  | join =>
    simp only [hmode] at h
    exact launched_of_startJoin hmode hvalues hcode h hvps

/-- **Every start that ends on the VPS is one in a relay room or one by the queue.** -/
theorem launched_of_start (h : start env c msg ans = (.finished, c'))
    (hvps : c'.outConfig.useCentralSession = 2) : Launched env c msg ans c'.outConfig := by
  unfold start at h
  dsimp only at h
  split at h
  · cases h
  · generalize (msg.sessionPort.getD c.settings.sessionPort.toNat).toNat.toUInt16 = port at h
    generalize hsession : startSession env _ msg ans = r at h
    obtain ⟨c₁, error⟩ := r
    cases error with
    | some text => cases h
    | none =>
      obtain rfl := (Prod.mk.inj h).2
      have hlaunched := launched_of_startSession rfl rfl rfl hsession hvps
      show Launched env c msg ans c₁.outConfig
      generalize c₁.outConfig = cfg at hlaunched
      -- the session port is the only thing in the settings that has changed
      cases hlaunched with
      | relay hqueue hroom hvalues hhost hcode =>
        exact .relay hqueue hroom hvalues hhost hcode
      | matched hqueue hvalues hcode => exact .matched hqueue hvalues hcode

/-! ## The values of a started room -/

section Room

variable {older : List LaunchEntry}

/-- With the right code, coherence is about three values from two sources each. -/
lemma coherent_iff_taken {created answered : RoomValues}
    (hcode : ∀ room ∈ msg.room? c.settings ans,
      normalizeRelayRoomCode cfg.relayRoomCode.bytes = some room)
    (hoffers : msg.offers env c.settings ans older = [created, answered]) :
    Coherent env older c.settings msg ans cfg ↔
      Taken (.copy []) [created.matchId, answered.matchId] cfg.values.matchId ∧
      Taken (.copy []) [created.roomToken, answered.roomToken] cfg.values.roomToken ∧
      Taken none [created.endpoint, answered.endpoint] cfg.values.endpoint := by
  constructor
  · intro h
    have hmatch := h.matchId
    have htoken := h.roomToken
    have hendpoint := h.endpoint
    rw [hoffers] at hmatch htoken hendpoint
    exact ⟨hmatch, htoken, hendpoint⟩
  · rintro ⟨hmatch, htoken, hendpoint⟩
    refine ⟨hcode, ?_, ?_, ?_⟩
    · rw [hoffers]
      exact hmatch
    · rw [hoffers]
      exact htoken
    · rw [hoffers]
      exact hendpoint

/-- Where nothing is filled in, nothing must have been answered. -/
lemma coherent_iff_of_blank {created answered : RoomValues}
    (hcode : ∀ room ∈ msg.room? c.settings ans,
      normalizeRelayRoomCode cfg.relayRoomCode.bytes = some room)
    (hoffers : msg.offers env c.settings ans older = [created, answered])
    (hvalues : cfg.values = .blank) :
    Coherent env older c.settings msg ans cfg ↔ created = .blank ∧ answered = .blank := by
  rw [coherent_iff_taken hcode hoffers, hvalues]
  constructor
  · rintro ⟨hmatch, htoken, hendpoint⟩
    obtain ⟨hmatch, hmatch'⟩ := taken_pair_blank.1 hmatch
    obtain ⟨htoken, htoken'⟩ := taken_pair_blank.1 htoken
    obtain ⟨hendpoint, hendpoint'⟩ := taken_pair_blank.1 hendpoint
    exact ⟨RoomValues.ext hmatch htoken hendpoint, RoomValues.ext hmatch' htoken' hendpoint'⟩
  · rintro ⟨rfl, rfl⟩
    exact ⟨taken_pair_blank.2 ⟨rfl, rfl⟩, taken_pair_blank.2 ⟨rfl, rfl⟩,
      taken_pair_blank.2 ⟨rfl, rfl⟩⟩

/-- The values of a start by code, without the demand for the tunnel: the kept match id first,
then the plan's token and endpoint. -/
lemma values_launched (hlegacy : transportIs env "legacy" = false)
    (hvalues : cfg.values = .blank) :
    (configureGgpoTransportForRelay env session plan role cfg).values =
      { matchId := if session.matchId = .copy [] then (planValues plan).matchId
          else session.matchId
        roomToken := if (planValues plan).roomToken = .copy [] then session.roomToken
          else (planValues plan).roomToken
        endpoint := if (planValues plan).endpoint = none then
            (session.values cfg.sessionHost).endpoint
          else (planValues plan).endpoint } := by
  have hhost : (applyConnectPlanToConfig plan cfg.toNetplayConfig).sessionHost =
      cfg.sessionHost := by
    unfold applyConnectPlanToConfig
    split <;> rfl
  rw [values_configure hlegacy, values_fill, values_applyConnectPlan hvalues]
  simp only [hhost]

/-- **A start has the values of its room exactly when what the controller has kept suits it.** -/
theorem coherent_iff_of_launched (hkept : c.session = lastCreated older)
    (h : Launched env c msg ans cfg) :
    Coherent env older c.settings msg ans cfg ↔ OwnRoom env older c.settings msg ans := by
  cases h with
  | relay hqueue hroom hvalues hhost hcode =>
    rename_i role room base
    have hown : ∀ room' ∈ msg.room? c.settings ans,
        normalizeRelayRoomCode
          (configureGgpoTransportForRelay env c.session ans.plan role base).relayRoomCode.bytes =
            some room' := by
      rw [relayRoomCode_configure, hcode, normalizeRelayRoomCode_copy]
      exact fun room' hroom' => hroom'
    cases hlegacy : transportIs env "legacy" with
    | true =>
      have hanswered : msg.answered env c.settings ans = .blank := by
        rw [StartMessage.answered, if_neg hqueue, if_pos hlegacy]
      rw [OwnRoom, if_neg hqueue, if_pos hlegacy,
        coherent_iff_of_blank hown (by rw [StartMessage.offers, hanswered])
          (by rw [values_configure_legacy hlegacy, hvalues])]
      exact and_iff_left rfl
    | false =>
      have hplain : ¬ transportIs env "legacy" = true := by simp [hlegacy]
      have hanswered : msg.answered env c.settings ans = planValues ans.plan := by
        rw [StartMessage.answered, if_neg hqueue, if_neg hplain]
      rw [OwnRoom, if_neg hqueue, if_neg hplain,
        coherent_iff_taken hown (by rw [StartMessage.offers, hanswered]),
        values_launched hlegacy hvalues, hhost, hkept]
      dsimp only
      rw [taken_keptFirst, taken_plannedFirst, taken_plannedFirst]
      exact ⟨fun h => ⟨h.1, h.2.1, h.2.2⟩, fun h => ⟨h.matchId, h.roomToken, h.endpoint⟩⟩
  | matched hqueue hvalues hcode =>
    rw [OwnRoom, if_pos hqueue]
    cases hroom : msg.room? c.settings ans with
    | some room =>
      -- the queue has told of a room whose code is lost
      refine iff_of_false (fun h => ?_) (by simp)
      have hlost := h.code room hroom
      rw [hcode] at hlost
      have hnone : normalizeRelayRoomCode (RoomCodeField.copy []).bytes = none := by decide
      rw [hnone] at hlost
      cases hlost
    | none =>
      have hcreated : (msg.createdRoom c.settings ans older).values ans.roomHost = .blank := by
        rw [StartMessage.createdRoom, hroom]
        rfl
      have hown : ∀ room ∈ msg.room? c.settings ans,
          normalizeRelayRoomCode cfg.relayRoomCode.bytes = some room := by simp [hroom]
      rw [coherent_iff_of_blank hown (by rw [StartMessage.offers, hcreated]) hvalues]
      simp

end Room

/-! ## Runs of the window -/

lemma session_startHostRelay (c : Controller) (msg : StartMessage) (ans : StartAnswers) :
    (startHostRelay env c msg ans).1.session = c.session := by
  unfold startHostRelay
  dsimp only
  split
  · rfl
  · split
    · rfl
    · split_ifs <;> rfl

lemma session_startJoin (c : Controller) (msg : StartMessage) (ans : StartAnswers) :
    (startJoin env c msg ans).1.session = c.session := by
  unfold startJoin
  dsimp only
  split
  · rfl
  · split_ifs <;> rfl

/-- A start leaves what is kept of the last created room alone. -/
lemma session_start (c : Controller) (msg : StartMessage) (ans : StartAnswers) :
    (start env c msg ans).2.session = c.session := by
  have hsession (c : Controller) : (startSession env c msg ans).1.session = c.session := by
    unfold startSession
    split
    · rfl
    · split
      · exact session_startHostRelay c msg ans
      · rfl
    · exact session_startJoin c msg ans
  unfold start
  dsimp only
  split
  · rfl
  · split
    · rename_i heq
      exact (congrArg (·.1.session) heq).symm.trans (hsession _)
    · rename_i heq
      exact (congrArg (·.1.session) heq).symm.trans (hsession _)

/-- What one message does to it. -/
lemma session_handleWebMessage (c : Controller) (m : Message) :
    (handleWebMessage env c m).2.session = m.created?.elim c.session (·.session) := by
  cases m with
  | createRelayRoom created =>
    cases created with
    | error text => rfl
    | ok created =>
      simp [handleWebMessage, createRelayRoom, Message.created?, RelayRoomCreateResult.session]
  | start msg ans => exact session_start c msg ans
  | saveSettings method => rfl
  | offlineStart => rfl
  | cancel => rfl
  | other => rfl

/-- The controller keeps what the broker said of the last created room. -/
lemma session_of_run {log : List LaunchEntry} {s : Controller} (h : (launcher env).Run log s) :
    s.session = lastCreated log := by
  refine h.invariant_of_step (fun log s => s.session = lastCreated log) ?_ ?_
  · rintro s ⟨hblank, -⟩
    exact hblank
  · rintro log ⟨pre, m, out, post⟩ ih hstep
    have hnext : next env pre m = some (out, post) := hstep
    unfold next at hnext
    split at hnext
    · cases hnext
    · have hpost : (handleWebMessage env pre m).2 = post := by rw [Option.some.inj hnext]
      dsimp only at ih ⊢
      rw [← hpost, session_handleWebMessage, lastCreated, List.filterMap_cons]
      cases hcreated : m.created? with
      | none => exact ih
      | some created => rfl

/-- The entry of a message. -/
def entryOf (env : Option Text) (c : Controller) (m : Message) : LaunchEntry :=
  ⟨c, m, (handleWebMessage env c m).1, (handleWebMessage env c m).2⟩

lemma Run.message {log : List LaunchEntry} {c : Controller} (h : (launcher env).Run log c)
    (m : Message) (hopen : c.finished = false) :
    (launcher env).Run (entryOf env c m :: log) (handleWebMessage env c m).2 := by
  have hstep : (launcher env).Steps (entryOf env c m) := by
    show next env c m = some (handleWebMessage env c m)
    rw [next, if_neg (by simp [hopen])]
  exact LTS.Run.snoc (e := entryOf env c m) h hstep

/-- A window that was just opened. -/
def openedWindow : Controller where
  lanIp := .copy []
  settings := ⟨.copy [], 0, 23456, 23457, 0⟩
  session := .blank
  outConfig := .fresh .idle ⟨.copy [], 0, 23456, 23457, 0⟩
  finished := false
  cancelled := false

/-- A room with its GGPO relay, created from the window. -/
def roomOne : RelayRoomCreateResult :=
  ⟨ascii "SF4-AAAA", 31001, 32001, .copy (ascii "11"), .copy (ascii "12")⟩

/-- The window after the creation. -/
def createdOne : Controller := (createRelayRoom openedWindow (.ok roomOne)).2

/-- The host of the relays. -/
def relayHost : HostField := .copy (ascii "1.2.3.4")

/-- The answers to the start of a room whose session is at port `port`. -/
def answersAt (port : UInt16) (plan : ConnectPlanResult) : StartAnswers where
  queue := .error []
  lookup := .ok ⟨relayHost, port⟩
  address := .error []
  health := ⟨true, true⟩
  plan := plan
  spawned := false
  reachable := false

/-- The host's plan of the created room. -/
def planOne : ConnectPlanResult :=
  ⟨true, 1, relayHost, 32001, .copy (ascii "11"), .copy (ascii "12")⟩

/-- The guest's plan of another room. -/
def planTwo : ConnectPlanResult :=
  ⟨true, 1, relayHost, 32002, .copy (ascii "21"), .copy (ascii "22")⟩

/-- Host the room that was created. -/
def hostMessage : StartMessage := ⟨.host, some .relay, none, [], [], []⟩

/-- Join a room by its code. -/
def joinMessage : StartMessage := ⟨.join, some .relay, none, [], ascii "SF4-BBBB", []⟩

end Launcher
end Sf4e
