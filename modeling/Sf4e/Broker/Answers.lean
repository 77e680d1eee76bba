/-
# Is every request to the broker answered?

The handler of a request is an async function, and what it throws is caught by nobody: then
nothing is sent.  `Server.Fails` lists where it throws, place by place, in terms of the request
and of the state before the turn.  Each part of the handler has a lemma that tells where it may
leave the handler (`HandlerTurn.Leaves`): it throws at one of these places and nowhere else, and
otherwise it answers or waits with fewer turns left.

Whatever happens, a port is reserved for a handler at work only, and a handler at work can go on.
-/
import Sf4e.Broker.ServerSound

namespace Sf4e
namespace Broker

open Wire Trace

/-! ## Conversions -/

/-- `String(body.transportActive)` comes after a look at its truth value. -/
lemma transportMark_eq_none_iff {body : Value} :
    Server.transportMark body = none ↔ Unprintable (body.get "transportActive") := by
  rw [← textOrEmpty_eq_none_iff]
  simp only [Server.transportMark, Value.textOrEmpty]
  cases body.get "transportActive" with
  | none => simp [Value.orElse, Value.toText]
  | some v =>
    simp only [Value.orElse]
    split
    · simp
    · simp [Value.toText]

/-! ## The answers of the relay manager -/

/-- The call of a start is rejected, or its failure has no message and a status that cannot be
put into the text. -/
def Unusable : Option HttpReply → Prop
  | none => True
  | some r => r.holds "skipped" = false ∧ r.created = false ∧ r.holds "message" = false ∧
      Unprintable (r.get "status")

/-- The call of a start has failed with a message that cannot be put into a line of the log. -/
def Unloggable : Option HttpReply → Prop
  | none => False
  | some r => r.holds "skipped" = false ∧ r.created = false ∧ r.holds "message" = true ∧
      Unprintable (r.get "message")

/-- What `startRelaySession` and `startGgpoRelaySession` come to. -/
inductive Starts (reply : Option HttpReply) : StartResult → Prop
  | started (hok : ¬ Unusable reply) (hmessage : ¬ Unloggable reply) : Starts reply .started
  | failed {message : Value} (hok : ¬ Unusable reply)
      (hmessage : message.toText = none ↔ Unloggable reply) : Starts reply (.failed message)
  | thrown (h : Unusable reply) : Starts reply .thrown

lemma starts (text : String) (reply : Option HttpReply) :
    Starts reply (startResult text reply) := by
  cases reply with
  | none => exact .thrown trivial
  | some r =>
    simp only [startResult]
    split
    · rename_i hok
      rw [Bool.or_eq_true] at hok
      refine .started ?_ ?_
      · rintro ⟨hskipped, hcreated, -⟩
        simp [hskipped, hcreated] at hok
      · rintro ⟨hskipped, hcreated, -⟩
        simp [hskipped, hcreated] at hok
    · rename_i hno
      obtain ⟨hskipped, hcreated⟩ : r.holds "skipped" = false ∧ r.created = false := by
        simpa using hno
      -- the text that stands in for a message has the status in it
      have hstandIn (hmessage : r.holds "message" = false) :
          Starts (some r) (failureMessage.standIn text r) := by
        obtain ⟨status, hstatus⟩ : ∃ status, r.get "status" = some status := by
          simp only [HttpReply.get]
          split
          · exact ⟨_, rfl⟩
          · exact ⟨_, rfl⟩
        simp only [failureMessage.standIn, hstatus, Option.bind_some]
        split
        · rename_i txt htext
          refine .failed ?_ ?_
          · rintro ⟨-, -, -, w, hw, hnone⟩
            obtain rfl := Option.some.inj (hstatus.symm.trans hw)
            rw [htext] at hnone
            cases hnone
          · simp [Value.toText, Unloggable, hmessage]
        · rename_i hnone
          exact .thrown ⟨hskipped, hcreated, hmessage, status, hstatus, hnone⟩
      simp only [failureMessage]
      split
      · rename_i v hv
        split
        · rename_i htrue
          have hmessage : r.holds "message" = true := by simp [HttpReply.holds, hv, htrue]
          refine .failed ?_ ?_
          · rintro ⟨-, -, hnone, -⟩
            rw [hmessage] at hnone
            cases hnone
          · simp [Unloggable, hskipped, hcreated, hmessage, hv, Unprintable]
        · rename_i hfalse
          exact hstandIn (by simpa [HttpReply.holds, hv] using hfalse)
      · rename_i hnone
        exact hstandIn (by simp [HttpReply.holds, hnone])

/-! ## Turns -/

/-- The turns that `ensureRelaySession` may still have. -/
def EnsureStage.turnsLeft : EnsureStage → ℕ
  | .health => 8
  | .start _ => 7
  | .after => 6
  | .ggpoHealth _ _ => 5
  | .ggpoStart _ _ _ => 4
  | .ggpoAfter _ _ => 3
  | .ggpoRetry _ _ _ => 2
  | .ggpoAfterRetry _ _ _ => 1

/-- The turns that a handler at work on a room may still have. -/
def VisitStage.turnsLeft : VisitStage → ℕ
  | .ensuring stage => stage.turnsLeft + 1
  | .lookSession => 2
  | .lookGgpo => 1

/-- The turns that a call of `createRoomRecord` may still have. -/
def Creation.turnsLeft {config : CapacityConfig} (c : Creation config) : ℕ :=
  match c.stage with
  | .startingSession => 2
  | .startingGgpo => 1

/-- The turns that a handler may still have. -/
def Suspended.turnsLeft {config : CapacityConfig} : Suspended config → ℕ
  | .reading _ => 10
  | .creating c _ => c.turnsLeft
  | .visiting _ _ stage => stage.turnsLeft

lemma EnsureStage.turnsLeft_pos (stage : EnsureStage) : 0 < stage.turnsLeft := by
  cases stage <;> exact Nat.succ_pos _

lemma Suspended.turnsLeft_pos {config : CapacityConfig} (h : Suspended config) :
    0 < h.turnsLeft := by
  cases h with
  | reading route => exact Nat.succ_pos 9
  | creating c queued =>
    simp only [turnsLeft, Creation.turnsLeft]
    split <;> omega
  | visiting room purpose stage => cases stage <;> exact Nat.succ_pos _

/-- Where a turn leaves a handler: it throws if the turn fails, and otherwise it has answered or
waits with fewer turns left. -/
abbrev HandlerTurn.Leaves {config : CapacityConfig} (turn : HandlerTurn config) (fails : Prop)
    (left : ℕ) : Prop :=
  Jobs.Leaves Suspended.turnsLeft Ending.Answered fails left turn.progress

/-- The awaits of a restart. -/
def EnsureStage.starts : EnsureStage → Bool
  | .start _ | .ggpoStart _ _ _ | .ggpoRetry _ _ _ => true
  | .health | .after | .ggpoHealth _ _ | .ggpoAfter _ _ | .ggpoAfterRetry _ _ _ => false

/-- What a step of `ensureRelaySession` may be. -/
inductive Ensures (stage : EnsureStage) (reply : HttpReply) : EnsureStep → Prop
  | await {stage' : EnsureStage} (hleft : stage'.turnsLeft < stage.turnsLeft)
      (hok : stage.starts = true → ¬ Unusable (some reply)) : Ensures stage reply (.await stage')
  | done {result : EnsureResult} (hok : stage.starts = true → ¬ Unusable (some reply)) :
      Ensures stage reply (.done result)
  | thrown (hstarts : stage.starts = true) (h : Unusable (some reply)) :
      Ensures stage reply .thrown

lemma ensures (room : RoomRecord) (reply : HttpReply) (stage : EnsureStage) :
    Ensures stage reply (ensureRelaySession room reply stage) := by
  -- the GGPO relay is next, if there is one
  have hggpo (relay : Health) (restarted : Bool) (hleft : 5 < stage.turnsLeft)
      (hlooks : stage.starts = false) :
      Ensures stage reply (ensureGgpoRelaySession room relay restarted) := by
    unfold ensureGgpoRelaySession
    split
    · exact .done (by simp [hlooks])
    · exact .await hleft (by simp [hlooks])
  cases stage with
  | health =>
    simp only [ensureRelaySession]
    split
    · exact hggpo _ _ (by decide) rfl
    · split
      · exact .done (by simp [EnsureStage.starts])
      · exact .await (by simp [EnsureStage.turnsLeft]) (by simp [EnsureStage.starts])
  | start health =>
    simp only [ensureRelaySession]
    have hstarts : Starts (some reply) (startRelaySession (some reply)) := starts _ _
    generalize startRelaySession (some reply) = result at hstarts
    cases hstarts with
    | started hok hmessage => exact .await (by simp [EnsureStage.turnsLeft]) fun _ => hok
    | failed hok hmessage => exact .done fun _ => hok
    | thrown h => exact .thrown rfl h
  | after =>
    simp only [ensureRelaySession]
    split
    · exact hggpo _ _ (by decide) rfl
    · exact .done (by simp [EnsureStage.starts])
  | ggpoHealth relay restarted =>
    simp only [ensureRelaySession]
    split
    · exact .done (by simp [EnsureStage.starts])
    · exact .await (by simp [EnsureStage.turnsLeft]) (by simp [EnsureStage.starts])
  | ggpoStart relay restarted health =>
    simp only [ensureRelaySession]
    have hstarts : Starts (some reply) (startGgpoRelaySession (some reply)) := starts _ _
    generalize startGgpoRelaySession (some reply) = result at hstarts
    cases hstarts with
    | started hok hmessage => exact .await (by simp [EnsureStage.turnsLeft]) fun _ => hok
    | failed hok hmessage => exact .done fun _ => hok
    | thrown h => exact .thrown rfl h
  | ggpoAfter relay restarted =>
    simp only [ensureRelaySession]
    split
    · exact .done (by simp [EnsureStage.starts])
    · exact .await (by simp [EnsureStage.turnsLeft]) (by simp [EnsureStage.starts])
  | ggpoRetry relay restarted after =>
    simp only [ensureRelaySession]
    have hstarts : Starts (some reply) (startGgpoRelaySession (some reply)) := starts _ _
    generalize startGgpoRelaySession (some reply) = result at hstarts
    cases hstarts with
    | started hok hmessage => exact .await (by simp [EnsureStage.turnsLeft]) fun _ => hok
    | failed hok hmessage => exact .done fun _ => hok
    | thrown h => exact .thrown rfl h
  | ggpoAfterRetry relay restarted after =>
    simp only [ensureRelaySession]
    split
    · exact .done (by simp [EnsureStage.starts])
    · exact .done (by simp [EnsureStage.starts])

/-! ## Where the handler throws -/

variable {s : ServerSettings}

/-- A call of `createRoomRecord` throws when it gets the answer. -/
def CreationFails (reply : Option HttpReply) : CreationStage → Prop
  | .startingSession => Unusable reply
  | .startingGgpo => Unusable reply ∨ Unloggable reply

/-- A handler at work on a room throws when it gets the answer. -/
def VisitFails (reply : Option HttpReply) : VisitStage → Prop
  | .ensuring stage => reply = none ∨ stage.starts = true ∧ Unusable reply
  | .lookSession | .lookGgpo => reply = none

/-- A handler throws when it gets the answer of the relay manager. -/
def ReplyFails (reply : Option HttpReply) : Suspended s.capacity → Prop
  | .reading _ => False
  | .creating c _ => CreationFails reply c.stage
  | .visiting _ _ stage => VisitFails reply stage

namespace Server

variable (t : Server s.capacity)

/-- `registerPort` throws: `String(body.natType || "unknown")`. -/
def RegisterPortFails (ip : String) (body : Value) (now : ℕ) (port : Option ℤ) : Prop :=
  (1 ≤ port.getD 0 ∧ port.getD 0 ≤ 65535) ∧ (t.lookupNatProbe s ip now).1 ≠ none ∧
    Unprintable (body.get "natType")

/-- `registerRole` throws: `parseInt(body.ggpoPort, 10)`, or later on. -/
def RegisterRoleFails (room : RoomRecord) (role : Role) (ip : String) (body : Value) (now : ℕ) :
    Prop :=
  (role = .host → verifyHostSecret room (body.get "hostSecret") = true) ∧
    (Unprintable (body.get "ggpoPort") ∨
      ∃ port, parseIntOf (body.get "ggpoPort") = some port ∧ t.RegisterPortFails ip body now port)

/-- `events` throws for an event that the client may post: `String(body.transportActive)`. -/
def PostFails (room : RoomRecord) (eventType : String) (body : Value) : Prop :=
  eventType ∈ allowedMatchEvents ∧
    (eventType ∈ hostOnlyEvents → verifyHostSecret room (body.get "hostSecret") = true) ∧
    Unprintable (body.get "transportActive")

/-- `createArgs` throws. -/
def CreateFails (s : ServerSettings) (body : Value) : Prop :=
  body.isNull = true ∨ Unprintable (body.get "sidecarHash") ∨
    s.forceVpsRelay = false ∧ Unprintable (body.get "relayHost")

/-- `queueJoin` throws: on `null`, or when a pair is there and cannot be put into a text. -/
def JoinFails (body : Value) : Prop :=
  (s.maxQueue.any fun limit => limit ≤ (t.queue.length : ℤ)) = false ∧
    (body.isNull = true ∨
      ∃ a b rest, t.queue ++ [Value.orElse (body.get "displayName") (.str "Player")] =
          a :: b :: rest ∧
        (Unprintable (body.get "sidecarHash") ∨ a.toText = none ∨ b.toText = none))

/-- The handler throws when it has read the body. -/
def BodyFails (body : Value) (now : ℕ) : BodyRoute → Prop
  | .createRoom => CreateFails s body
  | .registerEndpoint code ip => ∃ room, t.registry.find? code = some room ∧
      (body.isNull = true ∨ Unprintable (body.get "role") ∨
        ∃ text role, Value.textOrEmpty (body.get "role") = some text ∧
          Role.parse text = some role ∧ t.RegisterRoleFails room role ip body now)
  | .events code => ∃ room, t.registry.find? code = some room ∧
      (body.isNull = true ∨ Unprintable (body.get "type") ∨
        ∃ text, Value.textOrEmpty (body.get "type") = some text ∧
          PostFails room (trim text) body)
  | .delete code | .heartbeat code => ∃ room, t.registry.find? code = some room ∧
      body.isNull = true
  | .queueJoin => t.JoinFails body

/-- The turn of a handler throws. -/
def Fails (newUrl : NewUrl) : ServerAction → Prop
  | .request req _ => req.method ≠ "OPTIONS" ∧ newUrl req.target = none
  | .body id body draws => ∃ route value, t.jobs.at? id = some (.reading route) ∧
      body = some value ∧ t.BodyFails value draws.now route
  | .reply id reply _ => ∃ h, t.jobs.at? id = some h ∧ ReplyFails reply h
  | .prune _ | .cleanRates _ | .probe _ _ _ => False

/-! ## Where a turn leaves the handler -/

variable {t} {fails : Prop} {left : ℕ}

lemma leaves_answer (t : Server s.capacity) (status : ℕ) (error : Option String)
    (hok : ¬ fails) : (t.answer s status error).Leaves fails left :=
  .ends (iff_of_true ⟨_, rfl⟩ hok)

lemma leaves_throw (t : Server s.capacity) (h : fails) : (t.throw s).Leaves fails left := by
  refine .ends (iff_of_false ?_ (not_not.2 h))
  rintro ⟨a, ⟨⟩⟩

lemma leaves_suspend (t : Server s.capacity) {h : Suspended s.capacity}
    (hleft : h.turnsLeft < left) (hok : ¬ fails) : (t.suspend s h).Leaves fails left :=
  .waits hleft hok

/-! ### Requests -/

lemma leaves_visit (t : Server s.capacity) (room : RoomRecord) (purpose : Purpose)
    (hleft : 9 < left) (hok : ¬ fails) : (t.visit s room purpose).Leaves fails left := by
  unfold visit
  split
  · refine t.leaves_suspend ?_ hok
    -- the longest visit is a restart: 8 turns, and one for what follows
    have hfirst : purpose.first.turnsLeft ≤ 9 := by cases purpose <;> decide
    exact Nat.lt_of_le_of_lt hfirst hleft
  · exact t.leaves_answer _ _ hok

lemma leaves_checkRate (t : Server s.capacity) (req : HttpRequest) (bucket : String)
    (limit now : ℕ) {allowed : Server s.capacity → HandlerTurn s.capacity} (hok : ¬ fails)
    (hallowed : ∀ t, (allowed t).Leaves fails left) :
    (t.checkRate s req bucket limit now allowed).Leaves fails left := by
  simp only [checkRate]
  split
  · exact hallowed _
  · exact leaves_answer _ _ _ hok

lemma leaves_seen (t : Server s.capacity) (code : Text) (now : ℕ) (purpose : Purpose)
    (hok : ¬ fails) : (t.seen s code now purpose).Leaves fails 11 := by
  unfold seen
  split
  · exact t.leaves_answer _ _ hok
  · exact leaves_visit _ _ _ (by omega) hok

lemma leaves_reading (t : Server s.capacity) (route : BodyRoute) (hok : ¬ fails) :
    (t.suspend s (.reading route)).Leaves fails 11 :=
  t.leaves_suspend (Nat.lt_succ_self 10) hok

lemma leaves_listing (t : Server s.capacity) (found : Bool) (hok : ¬ fails) :
    (t.listing s found).Leaves fails left := by
  unfold listing
  split
  · exact t.leaves_answer _ _ hok
  · exact t.leaves_answer _ _ hok

lemma leaves_roomRequest (t : Server s.capacity) (req : HttpRequest) (verb : RoomVerb)
    (code : Text) (now : ℕ) (hok : ¬ fails) :
    (t.roomRequest s req verb code now).Leaves fails 11 := by
  cases verb with
  | health =>
    simp only [roomRequest]
    split
    · exact t.leaves_answer _ _ hok
    · exact t.leaves_visit _ _ (by omega) hok
  | connectPlan | lookup =>
    exact t.leaves_checkRate req _ _ now hok fun t => t.leaves_seen code now _ hok
  | registerEndpoint | events | delete | heartbeat =>
    exact t.leaves_checkRate req _ _ now hok fun t => t.leaves_reading _ hok

/-- Once the target is parsed, nothing throws up to the first await. -/
lemma leaves_dispatch (t : Server s.capacity) (req : HttpRequest) (url : Url) (now : ℕ)
    (hok : ¬ fails) : (t.dispatch s req url now).Leaves fails 11 := by
  unfold dispatch
  cases route req.method url.pathname with
  | health | unknown => exact t.leaves_answer _ _ hok
  | «matches» | matchById | listRooms => exact t.leaves_listing _ hok
  | createRoom => exact t.leaves_checkRate req _ _ now hok fun t => t.leaves_reading _ hok
  | room verb code => exact t.leaves_roomRequest req verb (utf8 code) now hok
  | queueJoin => exact t.leaves_reading _ hok

/-- **A request.** -/
lemma leaves_accept (t : Server s.capacity) (newUrl : NewUrl) (req : HttpRequest) (now : ℕ) :
    (t.accept s newUrl req now).Leaves (t.Fails newUrl (.request req now)) 11 := by
  unfold accept
  split
  · rename_i hoptions
    exact t.leaves_answer _ _ fun h => h.1 hoptions
  · rename_i hmethod
    simp only
    split
    · rename_i hnone
      exact leaves_throw t ⟨hmethod, hnone⟩
    · rename_i url hurl
      refine leaves_dispatch _ req url now ?_
      rintro ⟨-, hnone⟩
      rw [hurl] at hnone
      cases hnone

/-! ### Creations -/

lemma leaves_creationTurn (t : Server s.capacity) {queued : Bool} {ct : Turn s.capacity}
    (hawait : ∀ c, ct.progress = .awaits c → c.turnsLeft < left ∧ ¬ fails)
    (hdone : ∀ result, ct.progress = .done result → (result = .thrown ↔ fails)) :
    (t.creationTurn s queued ct).Leaves fails left := by
  unfold HandlerTurn.Leaves creationTurn
  cases hprogress : ct.progress with
  | awaits c =>
    obtain ⟨hleft, hok⟩ := hawait c hprogress
    exact .waits hleft hok
  | done result =>
    refine .ends ?_
    rw [← hdone result hprogress]
    cases result with
    | thrown => exact iff_of_false (by rintro ⟨a, ⟨⟩⟩) (not_not.2 rfl)
    | full | invalidHash | relayStartFailed | created =>
      exact iff_of_true ⟨_, rfl⟩ (by simp)

/-- A call of `createRoomRecord` that is over. -/
lemma leaves_done (t : Server s.capacity) {queued : Bool} {reg : Registry}
    {stops : List ManagerCall} {result : Created} (h : result = .thrown ↔ fails) :
    (t.creationTurn s queued ⟨reg, stops, .done result⟩).Leaves fails left := by
  refine t.leaves_creationTurn (by rintro c ⟨⟩) ?_
  rintro _ ⟨⟩
  exact h

lemma leaves_commit (t : Server s.capacity) {queued : Bool} {reg : Registry}
    {c : Creation s.capacity} {draws : Draws} {ok : Bool} {ct : Turn s.capacity}
    (h : reg.commit s.toSettings c draws ok = some ct) (hok : ¬ fails) :
    (t.creationTurn s queued ct).Leaves fails left := by
  obtain ⟨-, rfl⟩ := Registry.commit_eq_some h
  exact t.leaves_done (iff_of_false (by simp) hok)

/-- A call of `createRoomRecord` does not throw before its first await. -/
lemma leaves_create (t : Server s.capacity) {args : CreateArgs} {draws : Draws} {queued : Bool}
    {turn : HandlerTurn s.capacity} (h : t.create s args draws queued = some turn)
    (hok : ¬ fails) : turn.Leaves fails 10 := by
  obtain ⟨ct, hct, rfl⟩ := Option.map_eq_some_iff.1 h
  cases Registry.begun hct with
  | full | refused => exact t.leaves_done (iff_of_false (by simp) hok)
  | await =>
    refine t.leaves_creationTurn ?_ (by rintro c ⟨⟩)
    rintro _ ⟨⟩
    exact ⟨by simp [Creation.turnsLeft, CreateArgs.creation], hok⟩
  | commit halloc hforce hcommit => exact t.leaves_commit hcommit hok

/-- A call of `createRoomRecord` that gets an answer. -/
lemma leaves_resume (t : Server s.capacity) {c : Creation s.capacity} {draws : Draws}
    {queued : Bool} {reply : Option HttpReply} {ct : Turn s.capacity}
    (h : t.registry.resume s.toSettings c reply draws = some ct) :
    (t.creationTurn s queued ct).Leaves (CreationFails reply c.stage) c.turnsLeft := by
  cases hstage : c.stage with
  | startingSession =>
    have hstarts : Starts reply (startRelaySession reply) := starts _ _
    simp only [Registry.resume, hstage] at h
    generalize startRelaySession reply = result at h hstarts
    cases hstarts with
    | started hok =>
      simp only at h
      split at h
      · obtain rfl := Option.some.inj h
        refine t.leaves_creationTurn ?_ (by rintro c ⟨⟩)
        rintro _ ⟨⟩
        exact ⟨by simp [Creation.turnsLeft, hstage], hok⟩
      · exact t.leaves_commit h hok
    | failed hok =>
      obtain rfl := Option.some.inj h
      exact t.leaves_done (iff_of_false (by simp) hok)
    | thrown hunusable =>
      obtain rfl := Option.some.inj h
      exact t.leaves_done (iff_of_true rfl hunusable)
  | startingGgpo =>
    have hstarts : Starts reply (startGgpoRelaySession reply) := starts _ _
    simp only [Registry.resume, hstage] at h
    generalize startGgpoRelaySession reply = result at h hstarts
    cases hstarts with
    | started hok hmessage => exact t.leaves_commit h (not_or.2 ⟨hok, hmessage⟩)
    | @failed message hok hmessage =>
      simp only at h
      split at h
      · rename_i htext
        refine t.leaves_commit h (not_or.2 ⟨hok, ?_⟩)
        rw [← hmessage]
        simpa [Option.isSome_iff_ne_none] using htext
      · rename_i htext
        obtain rfl := Option.some.inj h
        refine t.leaves_done (iff_of_true rfl (.inr ?_))
        rw [← hmessage]
        simpa using htext
    | thrown hunusable =>
      obtain rfl := Option.some.inj h
      exact t.leaves_done (iff_of_true rfl (.inl hunusable))

/-! ### Answers of the relay manager -/

lemma leaves_lookLast (t : Server s.capacity) (room : RoomRecord) (purpose : Purpose)
    (hleft : 1 < left) (hok : ¬ fails) : (t.lookLast s room purpose).Leaves fails left := by
  unfold lookLast lastLook
  split
  · rename_i stage hstage
    split at hstage
    · cases hstage
    · obtain rfl := Option.some.inj hstage
      exact t.leaves_suspend hleft hok
  · exact t.leaves_answer _ _ hok

lemma leaves_visitReply (t : Server s.capacity) (room : RoomRecord) (purpose : Purpose)
    (reply : HttpReply) (stage : VisitStage) :
    (t.visitReply s room purpose reply stage).Leaves (VisitFails (some reply) stage)
      stage.turnsLeft := by
  cases stage with
  | ensuring stage =>
    have hok (hno : stage.starts = true → ¬ Unusable (some reply)) :
        ¬ VisitFails (some reply) (.ensuring stage) := by
      rintro (hnone | ⟨hstarts, hunusable⟩)
      · cases hnone
      · exact hno hstarts hunusable
    have hensures := ensures room reply stage
    simp only [visitReply]
    generalize ensureRelaySession room reply stage = r at hensures
    cases hensures with
    | await hleft hno => exact t.leaves_suspend (Nat.succ_lt_succ hleft) (hok hno)
    | done hno =>
      simp only
      split
      · exact t.leaves_lookLast _ _ (Nat.succ_lt_succ stage.turnsLeft_pos) (hok hno)
      · exact t.leaves_answer _ _ (hok hno)
    | thrown hstarts hunusable =>
      exact t.leaves_throw (.inr ⟨hstarts, hunusable⟩)
  | lookSession =>
    refine t.leaves_lookLast room purpose (Nat.lt_succ_self 1) ?_
    rintro ⟨⟩
  | lookGgpo =>
    refine t.leaves_answer _ _ ?_
    rintro ⟨⟩

/-- **An answer of the relay manager, or none.** -/
lemma leaves_receive (t : Server s.capacity) {h : Suspended s.capacity} {draws : Draws}
    {reply : Option HttpReply} {turn : HandlerTurn s.capacity}
    (hturn : t.receive s reply draws h = some turn) :
    turn.Leaves (ReplyFails reply h) h.turnsLeft := by
  cases h with
  | reading route => cases hturn
  | creating c queued =>
    obtain ⟨ct, hct, rfl⟩ := Option.map_eq_some_iff.1 hturn
    exact t.leaves_resume hct
  | visiting room purpose stage =>
    cases reply with
    | none =>
      obtain rfl := Option.some.inj hturn
      have hfails : VisitFails none stage := by
        cases stage with
        | ensuring stage => exact .inl rfl
        | lookSession | lookGgpo => rfl
      exact t.leaves_throw hfails
    | some reply =>
      obtain rfl := Option.some.inj hturn
      exact t.leaves_visitReply room purpose reply stage

/-! ### Bodies -/

lemma createArgs_eq_none_iff {body : Value} : createArgs s body = none ↔ CreateFails s body := by
  rw [CreateFails, ← textOrEmpty_eq_none_iff, ← textOrEmpty_eq_none_iff]
  unfold createArgs
  split
  · rename_i hnull
    simp [hnull]
  · rename_i hnull
    cases hforce : s.forceVpsRelay <;> cases Value.textOrEmpty (body.get "sidecarHash") <;>
      cases Value.textOrEmpty (body.get "relayHost") <;> simp [hnull]

lemma leaves_createRoom (t : Server s.capacity) {body : Value} {draws : Draws}
    {turn : HandlerTurn s.capacity} (h : t.createRoom s body draws = some turn) :
    turn.Leaves (CreateFails s body) 10 := by
  unfold createRoom at h
  split at h
  · rename_i hnone
    obtain rfl := Option.some.inj h
    exact t.leaves_throw (createArgs_eq_none_iff.1 hnone)
  · rename_i args hargs
    refine t.leaves_create h ?_
    rw [← createArgs_eq_none_iff, hargs]
    simp

/-- The lookup of a probe may forget it. -/
lemma leaves_registerPort (t : Server s.capacity) (room : RoomRecord) (role : Role)
    (ip : String) (body : Value) (now : ℕ) (port : Option ℤ) :
    (t.registerPort s room role ip body now port).Leaves
      (t.RegisterPortFails ip body now port) left := by
  unfold registerPort
  split
  · rename_i hport
    simp only
    split
    · rename_i hnone
      exact leaves_answer _ _ _ fun h => h.2.1 hnone
    · rename_i probe hprobe
      split
      · rename_i htext
        refine leaves_throw _ ⟨hport, by simp [hprobe], ?_⟩
        rwa [toText_orElse_eq_none_iff] at htext
      · rename_i natType htext
        refine leaves_answer _ _ _ ?_
        rintro ⟨-, -, hunprintable⟩
        -- the text was made, so there was nothing unprintable
        rw [← toText_orElse_eq_none_iff "unknown", htext] at hunprintable
        cases hunprintable
  · rename_i hport
    exact t.leaves_answer _ _ fun h => hport h.1

lemma leaves_registerRole (t : Server s.capacity) (room : RoomRecord) (role : Role)
    (ip : String) (body : Value) (now : ℕ) :
    (t.registerRole s room role ip body now).Leaves
      (t.RegisterRoleFails room role ip body now) left := by
  unfold registerRole
  split
  · rename_i hhost
    -- a host without the secret is answered before anything is read
    refine t.leaves_answer _ _ ?_
    rintro ⟨hsecret, -⟩
    rw [hsecret hhost.1] at hhost
    cases hhost.2
  · rename_i hmay
    have hsecret : role = .host → verifyHostSecret room (body.get "hostSecret") = true := by
      simpa using hmay
    split
    · rename_i hnone
      exact t.leaves_throw ⟨hsecret, .inl (parseIntOf_eq_none_iff.1 hnone)⟩
    · rename_i port hport
      have hleaves : (t.registerPort s room role ip body now port).Leaves
          (t.RegisterPortFails ip body now port) left :=
        t.leaves_registerPort room role ip body now port
      have hiff : t.RegisterPortFails ip body now port ↔
          t.RegisterRoleFails room role ip body now := by
        constructor
        · intro h
          exact ⟨hsecret, .inr ⟨port, hport, h⟩⟩
        · rintro ⟨-, hunprintable | ⟨port', hport', h⟩⟩
          · rw [← parseIntOf_eq_none_iff, hport] at hunprintable
            cases hunprintable
          · obtain rfl := Option.some.inj (hport.symm.trans hport')
            exact h
      rwa [hiff] at hleaves

/-- A handler that looks for the room first. -/
lemma leaves_of_find (t : Server s.capacity) {code : Text} {turn : HandlerTurn s.capacity}
    {p : RoomRecord → Prop}
    (hnone : t.registry.find? code = none → turn = t.answer s 404 "not_found")
    (hsome : ∀ room, t.registry.find? code = some room → turn.Leaves (p room) left) :
    turn.Leaves (∃ room, t.registry.find? code = some room ∧ p room) left := by
  cases hfind : t.registry.find? code with
  | none =>
    rw [hnone hfind]
    refine t.leaves_answer _ _ ?_
    rintro ⟨room, ⟨⟩, -⟩
  | some room =>
    have hiff : (∃ room', some room = some room' ∧ p room') ↔ p room := by simp
    rw [hiff]
    exact hsome room hfind

lemma leaves_registerEndpoint (t : Server s.capacity) (code : Text) (ip : String) (body : Value)
    (now : ℕ) : (t.registerEndpoint s code ip body now).Leaves
      (t.BodyFails body now (.registerEndpoint code ip)) left := by
  refine t.leaves_of_find (fun hnone => by simp [registerEndpoint, hnone]) fun room hroom => ?_
  simp only [registerEndpoint, hroom]
  split
  · rename_i hnull
    exact t.leaves_throw (.inl hnull)
  · rename_i hnull
    split
    · rename_i hnone
      exact t.leaves_throw (.inr (.inl (textOrEmpty_eq_none_iff.1 hnone)))
    · rename_i text htext
      have hprintable : ¬ Unprintable (body.get "role") := by
        rw [← textOrEmpty_eq_none_iff, htext]
        simp
      split
      · rename_i hrole
        refine t.leaves_answer _ _ ?_
        rintro (hyes | hunprintable | ⟨text', role, htext', hrole', -⟩)
        · exact hnull hyes
        · exact hprintable hunprintable
        · obtain rfl := Option.some.inj (htext.symm.trans htext')
          rw [hrole] at hrole'
          cases hrole'
      · rename_i role hrole
        have hleaves : (t.registerRole s room role ip body now).Leaves
            (t.RegisterRoleFails room role ip body now) left :=
          t.leaves_registerRole room role ip body now
        have hiff : t.RegisterRoleFails room role ip body now ↔
            (body.isNull = true ∨ Unprintable (body.get "role") ∨
              ∃ text role, Value.textOrEmpty (body.get "role") = some text ∧
                Role.parse text = some role ∧ t.RegisterRoleFails room role ip body now) := by
          simp [hnull, hprintable, htext, hrole]
        rwa [hiff] at hleaves

lemma leaves_postEvent (t : Server s.capacity) (room : RoomRecord) (eventType : String)
    (body : Value) (now : ℕ) : (t.postEvent s room eventType body now).Leaves
      (Unprintable (body.get "transportActive")) left := by
  rw [← transportMark_eq_none_iff]
  simp only [postEvent]
  split
  · rename_i hnone
    exact leaves_throw _ hnone
  · rename_i mark hmark
    refine leaves_answer _ _ _ ?_
    rw [hmark]
    simp

lemma leaves_events (t : Server s.capacity) (code : Text) (body : Value) (now : ℕ) :
    (t.events s code body now).Leaves (t.BodyFails body now (.events code)) left := by
  refine t.leaves_of_find (fun hnone => by simp [events, hnone]) fun room hroom => ?_
  simp only [events, hroom]
  split
  · rename_i hnull
    exact t.leaves_throw (.inl hnull)
  · rename_i hnull
    split
    · rename_i hnone
      exact t.leaves_throw (.inr (.inl (textOrEmpty_eq_none_iff.1 hnone)))
    · rename_i text htext
      have hprintable : ¬ Unprintable (body.get "type") := by
        rw [← textOrEmpty_eq_none_iff, htext]
        simp
      have hiff : (body.isNull = true ∨ Unprintable (body.get "type") ∨
          ∃ text, Value.textOrEmpty (body.get "type") = some text ∧
            PostFails room (trim text) body) ↔ PostFails room (trim text) body := by
        simp [hnull, hprintable, htext]
      rw [hiff]
      split
      · rename_i hnot
        exact t.leaves_answer _ _ fun h => hnot h.1
      · rename_i hallowed
        split
        · rename_i hhost
          refine t.leaves_answer _ _ ?_
          rintro ⟨-, hsecret, -⟩
          rw [hsecret hhost.1] at hhost
          cases hhost.2
        · rename_i hmay
          have hleaves : (t.postEvent s room (trim text) body now).Leaves
              (Unprintable (body.get "transportActive")) left :=
            t.leaves_postEvent room (trim text) body now
          have hpost : Unprintable (body.get "transportActive") ↔
              PostFails room (trim text) body := by
            refine (and_iff_right (not_not.1 hallowed)).symm.trans ?_
            refine and_congr_right fun _ => (and_iff_right ?_).symm
            simpa using hmay
          rwa [hpost] at hleaves

/-- What the host alone may do does not throw once the body is looked into. -/
lemma leaves_asHost (t : Server s.capacity) (code : Text) {body : Value}
    {act : RoomRecord → HandlerTurn s.capacity}
    (hact : ∀ room p, ¬ p → (act room).Leaves p left) : (t.asHost s code body act).Leaves
      (∃ room, t.registry.find? code = some room ∧ body.isNull = true) left := by
  refine t.leaves_of_find (fun hnone => by simp [asHost, hnone]) fun room hroom => ?_
  simp only [asHost, hroom]
  split
  · rename_i hnull
    exact t.leaves_throw hnull
  · rename_i hnull
    split
    · -- from here on the handler is the host
      exact hact room _ hnull
    · exact t.leaves_answer _ _ hnull

lemma leaves_delete (t : Server s.capacity) (code : Text) (body : Value) (now : ℕ) :
    (t.delete s code body).Leaves (t.BodyFails body now (.delete code)) left :=
  t.leaves_asHost code fun _ _ hok => .ends (iff_of_true ⟨_, rfl⟩ hok)

lemma leaves_heartbeat (t : Server s.capacity) (code : Text) (body : Value) (now : ℕ) :
    (t.heartbeat s code body now).Leaves (t.BodyFails body now (.heartbeat code)) 10 :=
  t.leaves_asHost code fun _ _ hok => leaves_visit _ _ _ (by omega) hok

lemma leaves_matchPair (t : Server s.capacity) {a b body : Value} {draws : Draws}
    {turn : HandlerTurn s.capacity} (h : matchPair s t a b body draws = some turn) :
    turn.Leaves (Unprintable (body.get "sidecarHash") ∨ a.toText = none ∨ b.toText = none) 10 := by
  rw [← textOrEmpty_eq_none_iff]
  unfold matchPair at h
  split at h
  · rename_i sidecarHash a' b' hsidecarHash ha hb
    refine t.leaves_create h ?_
    simp [hsidecarHash, ha, hb]
  · rename_i hnot
    obtain rfl := Option.some.inj h
    refine t.leaves_throw ?_
    -- all three would have to be texts
    by_contra hno
    obtain ⟨hsidecarHash, ha, hb⟩ := by simpa only [not_or] using hno
    obtain ⟨sidecarHash, hsidecarHash⟩ := Option.ne_none_iff_exists'.1 hsidecarHash
    obtain ⟨a', ha⟩ := Option.ne_none_iff_exists'.1 ha
    obtain ⟨b', hb⟩ := Option.ne_none_iff_exists'.1 hb
    exact hnot sidecarHash a' b' hsidecarHash ha hb

lemma leaves_queueJoin (t : Server s.capacity) {body : Value} {draws : Draws}
    {turn : HandlerTurn s.capacity} (h : t.queueJoin s body draws = some turn) :
    turn.Leaves (t.JoinFails body) 10 := by
  unfold queueJoin at h
  split at h
  · rename_i hfull
    obtain rfl := Option.some.inj h
    refine t.leaves_answer _ _ ?_
    rintro ⟨hnot, -⟩
    rw [hfull] at hnot
    cases hnot
  · rename_i hfull
    have hroom := Bool.eq_false_of_not_eq_true hfull
    split at h
    · rename_i hnull
      obtain rfl := Option.some.inj h
      exact t.leaves_throw ⟨hroom, .inl hnull⟩
    · rename_i hnull
      split at h
      · rename_i a b rest hqueue
        -- a pair is there: what throws is the making of its room
        have hiff : (Unprintable (body.get "sidecarHash") ∨ a.toText = none ∨ b.toText = none) ↔
            t.JoinFails body := by
          simp [JoinFails, hroom, hnull, hqueue]
        rw [← hiff]
        exact leaves_matchPair _ h
      · rename_i hshort
        -- nobody to be matched with: no text is made
        obtain rfl := Option.some.inj h
        refine leaves_answer _ _ _ ?_
        rintro ⟨-, hyes | ⟨a, b, rest, hqueue, -⟩⟩
        · exact hnull hyes
        · exact hshort a b rest hqueue

/-- **A body.** -/
lemma leaves_readBody (t : Server s.capacity) {route : BodyRoute} {body : Value} {draws : Draws}
    {turn : HandlerTurn s.capacity} (h : t.readBody s route (some body) draws = some turn) :
    turn.Leaves (t.BodyFails body draws.now route) 10 := by
  cases route with
  | createRoom => exact t.leaves_createRoom h
  | registerEndpoint code ip =>
    obtain rfl := Option.some.inj h
    exact t.leaves_registerEndpoint code ip body draws.now
  | events code =>
    obtain rfl := Option.some.inj h
    exact t.leaves_events code body draws.now
  | delete code =>
    obtain rfl := Option.some.inj h
    exact t.leaves_delete code body draws.now
  | heartbeat code =>
    obtain rfl := Option.some.inj h
    exact t.leaves_heartbeat code body draws.now
  | queueJoin => exact t.leaves_queueJoin h

/-! ## Steps -/

/-- The handler that has a turn. -/
def who (t : Server s.capacity) : ServerAction → Option ℕ
  | .request _ _ => some t.jobs.count
  | .body id _ _ | .reply id _ _ => some id
  | .prune _ | .cleanRates _ | .probe _ _ _ => none

/-- **Step lemma.** -/
lemma settles_of_next {t : Server s.capacity} {newUrl : NewUrl} {act : ServerAction}
    {r : ServerOut × Server s.capacity} (h : t.next s newUrl act = some r) :
    Jobs.Settles Suspended.turnsLeft 10 Ending.Answered (t.Fails newUrl act) t.jobs (t.who act)
      r.1.ended r.2.jobs := by
  cases act with
  | request req now =>
    obtain rfl := Option.some.inj h
    have hleaves := leaves_accept { t with jobs := t.jobs.draw } newUrl req now
    obtain ⟨turn, heffect, -, hturn⟩ := accept_eq { t with jobs := t.jobs.draw } newUrl req now
    rw [hturn] at hleaves ⊢
    have hjobs : turn.server.jobs = t.jobs.draw := by rw [heffect.jobs, jobs_pruned]
    simp only [settle, hjobs, who]
    exact .begins hleaves
  | body id body draws =>
    simp only [next] at h
    split at h
    · rename_i route hat
      obtain ⟨turn, hturn, rfl⟩ := Option.map_eq_some_iff.1 h
      have hleaves : turn.Leaves (t.Fails newUrl (.body id body draws)) 10 := by
        cases body with
        | none =>
          -- a body that cannot be parsed is answered
          obtain rfl := Option.some.inj hturn
          refine t.leaves_answer _ _ ?_
          rintro ⟨route, value, -, ⟨⟩, -⟩
        | some body =>
          have hiff : t.Fails newUrl (.body id (some body) draws) ↔
              t.BodyFails body draws.now route := by
            simp [Fails, hat]
          rw [hiff]
          exact t.leaves_readBody hturn
      simp only [settle, (effect_readBody hturn).jobs, who]
      -- the handler that read the body goes on under its number
      exact .goesOn hat hleaves (Nat.succ_pos 9)
    · cases h
  | reply id reply draws =>
    obtain ⟨hd, hat, hmap⟩ := Option.bind_eq_some_iff.1 h
    obtain ⟨turn, hturn, rfl⟩ := Option.map_eq_some_iff.1 hmap
    have hleaves := t.leaves_receive hturn
    have hiff : t.Fails newUrl (.reply id reply draws) ↔ ReplyFails reply hd := by
      simp [Fails, hat]
    rw [← hiff] at hleaves
    simp only [settle, (effect_receive hturn).jobs, who]
    exact .goesOn hat hleaves hd.turnsLeft_pos
  | prune now =>
    obtain rfl := Option.some.inj h
    exact .idle id
  | cleanRates now =>
    obtain rfl := Option.some.inj h
    exact .idle id
  | probe address probe now =>
    obtain rfl := Option.some.inj h
    simp only
    split
    · exact .idle id
    · exact .idle id

/-! ## What holds in every run -/

/-- What the handler waits for has come. -/
def Resumes {config : CapacityConfig} (id : ℕ) (draws : Draws) (act : ServerAction) :
    Suspended config → Prop
  | .reading _ => ∃ body, act = .body id body draws
  | .creating _ _ | .visiting _ _ _ => ∃ reply, act = .reply id reply draws

/-- A handler at work can go on, whatever the body or the answer is that it gets. -/
def GoesOn (newUrl : NewUrl) (t : Server s.capacity) : Prop :=
  ∀ id h draws act, t.jobs.at? id = some h → Resumes id draws act h →
    t.registry.find? (roomCode draws.token) = none → (t.next s newUrl act).isSome = true

/-- The ports that are reserved are those of handlers at work. -/
def ReservesForWork (t : Server s.capacity) : Prop :=
  ∀ port ∈ t.registry.reservedPorts, ∃ id h, t.jobs.at? id = some h ∧ port ∈ heldBy h

lemma isSome_commit {reg : Registry} {c : Creation s.capacity} {draws : Draws} {ok : Bool}
    (hfresh : reg.find? (roomCode draws.token) = none) :
    (reg.commit s.toSettings c draws ok).isSome = true := by
  have hcode : (c.room s.toSettings draws ok).code = roomCode draws.token := rfl
  simp [Registry.commit, hcode, hfresh]

lemma isSome_create {t : Server s.capacity} {args : CreateArgs} {draws : Draws} {queued : Bool}
    (hfresh : t.registry.find? (roomCode draws.token) = none) :
    (t.create s args draws queued).isSome = true := by
  rw [create, Option.isSome_map]
  simp only [Registry.createRoomRecord]
  split
  · rfl
  · split
    · rfl
    · simp only [Registry.start]
      split_ifs
      · rfl
      · rfl
      · rfl
      · exact isSome_commit hfresh

lemma isSome_resume {t : Server s.capacity} {c : Creation s.capacity} {reply : Option HttpReply}
    {draws : Draws} (hfresh : t.registry.find? (roomCode draws.token) = none) :
    (t.registry.resume s.toSettings c reply draws).isSome = true := by
  simp only [Registry.resume]
  split
  · split
    · split
      · rfl
      · exact isSome_commit hfresh
    · rfl
    · rfl
  · split
    · exact isSome_commit hfresh
    · split
      · exact isSome_commit hfresh
      · rfl
    · rfl

lemma isSome_readBody {t : Server s.capacity} {route : BodyRoute} {body : Option Value}
    {draws : Draws} (hfresh : t.registry.find? (roomCode draws.token) = none) :
    (t.readBody s route body draws).isSome = true := by
  cases body with
  | none => rfl
  | some body =>
    cases route with
    | registerEndpoint | events | delete | heartbeat => rfl
    | createRoom =>
      simp only [readBody, createRoom]
      split
      · rfl
      · exact isSome_create hfresh
    | queueJoin =>
      simp only [readBody, queueJoin]
      split
      · rfl
      · split
        · rfl
        · split
          · unfold matchPair
            split
            · exact isSome_create hfresh
            · rfl
          · rfl

lemma goesOn (newUrl : NewUrl) (t : Server s.capacity) : t.GoesOn newUrl := by
  intro id h draws act hat hresumes hfresh
  cases h with
  | reading route =>
    obtain ⟨body, rfl⟩ := hresumes
    simp only [next, hat, Option.isSome_map]
    exact isSome_readBody hfresh
  | creating c queued =>
    obtain ⟨reply, rfl⟩ := hresumes
    simp only [next, hat, Option.bind_some, receive, Option.isSome_map]
    exact isSome_resume hfresh
  | visiting room purpose stage =>
    obtain ⟨reply, rfl⟩ := hresumes
    simp only [next, hat, Option.bind_some, receive, Option.isSome_map]
    cases reply <;> rfl

lemma Sound.reservesForWork {t : Server s.capacity} (h : t.Sound) : t.ReservesForWork := by
  intro port hport
  obtain ⟨⟨id, hd⟩, hwork, hheld⟩ := List.mem_flatMap.1 ((h.holds.reserved port).1 hport)
  exact ⟨id, hd, h.numbered.at?_of_mem hwork, hheld⟩

end Server

/-- **The requests to a broker are answered.** Every handler has at most 11 turns and ends with
exactly one answer; until then it can go on; and nothing stays reserved for it. -/
structure Answers (newUrl : NewUrl) (log : List (ServerEntry s)) (t : Server s.capacity) :
    Prop where
  eachAnswered : EachEndsWell (fun e => e.pre.who e.act) (fun e => e.out.ended) Ending.Answered 10
    t.jobs log
  goesOn : t.GoesOn newUrl
  reserves : t.ReservesForWork

/-- **The requests to a broker are answered unless a turn throws.** -/
lemma answers_iff_of_run {newUrl : NewUrl} {log : List (ServerEntry s)} {t : Server s.capacity}
    (h : (serverLTS s newUrl).Run log t) :
    Answers newUrl log t ↔ ∀ e ∈ log, ¬ e.pre.Fails newUrl e.act := by
  have heach : EachEndsWell (fun e => e.pre.who e.act) (fun e => e.out.ended) Ending.Answered 10
      t.jobs log ↔ ∀ e ∈ log, ¬ e.pre.Fails newUrl e.act := by
    refine h.eachEndsWell_iff_of_settles ?_ fun e he => Server.settles_of_next he
    rintro _ rfl
    rfl
  rw [← heach]
  constructor
  · intro hanswers
    exact hanswers.eachAnswered
  · intro heach
    -- the other two hold in every run
    exact ⟨heach, t.goesOn newUrl, (sound_of_run h).reservesForWork⟩

end Broker
end Sf4e
