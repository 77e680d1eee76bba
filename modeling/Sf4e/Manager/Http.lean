/-
# The relay manager's server

The handler of `relay-manager.js` from a request to its answer.  The target is parsed, a start
waits for its body, and then the work on the relays is done as in `Relays.accept` and
`Relays.resume`.

As in the broker, what the handler throws is caught by nobody, and then nothing is sent.  It
throws on a target that is no URL, on a body that is too large, `null`, or has a member that
cannot be converted to a text, and when `spawn` refuses the hash of a session relay
(`Server.Fails`).  A GGPO relay is spawned where a refusal would be caught.
-/
import Sf4e.Broker.Http
import Sf4e.Manager.Tracking
import Sf4e.Trace.Jobs

namespace Sf4e
namespace RelayManager

open Wire Trace Broker

/-! ## Routes -/

/-- The path of the relays of a kind. -/
def Kind.path : Kind → String
  | .session => "/v1/sessions"
  | .ggpo => "/v1/ggpo-sessions"

/-- The branches of the manager's handler. -/
inductive Route
  /-- `GET` of the health of the manager or of a list of relays. -/
  | info
  | health (kind : Kind) (port : ℕ)
  | start (kind : Kind)
  | delete (kind : Kind) (port : ℕ)
  | unknown
deriving DecidableEq

/-- The port in a path below that of the relays of the kind, and the part after it. -/
def portPath (kind : Kind) (path : List Char) : Option (ℕ × List Char) :=
  let base := (kind.path ++ "/").toList
  if base.isPrefixOf path then
    let rest := path.drop base.length
    match rest.takeWhile Char.isDigit with
    | [] => none
    | digits => some (digitsValue digits, rest.dropWhile Char.isDigit)
  else none

/-- The branch for a path that is about the relays of the kind. -/
def routeOf (kind : Kind) (method pathname : String) : Option Route :=
  if pathname = kind.path then
    if method = "GET" then some .info else if method = "POST" then some (.start kind) else none
  else
    match portPath kind pathname.toList with
    | some (port, rest) =>
      if rest = [] ∧ method = "DELETE" then some (.delete kind port)
      else if rest = "/health".toList ∧ method = "GET" then some (.health kind port)
      else none
    | none => none

/-- The branch of the manager's handler that a request takes. -/
def route (method pathname : String) : Route :=
  if pathname = "/v1/health" then if method = "GET" then .info else .unknown
  else ((routeOf .session method pathname).or (routeOf .ggpo method pathname)).getD .unknown

example : route "DELETE" "/v1/ggpo-sessions/24456" = .delete .ggpo 24456 := by decide +kernel

/-! ## Bodies -/

/-- The request that the body of a start makes; `none` when a conversion throws. -/
def startRequest (kind : Kind) (body : Value) : Option Request :=
  if body.isNull then none
  else
    match kind with
    | .session => do
      let port ← parseIntOf (body.get "port")
      let sidecarHash ← Value.textOrEmpty (body.get "sidecarHash")
      return .postSession port (utf8 (trim sidecarHash))
    | .ggpo => do
      let ggpoPort ← parseIntOf (body.get "ggpoPort")
      let sessionPort ← parseIntOf (body.get "sessionPort")
      let roomToken ← Value.textOrEmpty (body.get "roomToken")
      return .postGgpo ggpoPort sessionPort (utf8 (trim roomToken))

/-- The members of a body that are converted. -/
def Kind.members : Kind → List String
  | .session => ["port", "sidecarHash"]
  | .ggpo => ["ggpoPort", "sessionPort", "roomToken"]

/-- The port of a session relay that `spawn` refuses to start: no argument may have a NUL. -/
def Request.refused : Request → Option ℕ
  | .postSession port sidecarHash => if 0 ∈ sidecarHash then validPort port else none
  | .postGgpo _ _ _ | .delete _ _ | .health _ _ => none

/-- The status of an answer and its `error` member. -/
def Reply.answer (reply : Reply) : Answer :=
  ⟨reply.http.status, (reply.http.body.get "error").bind Value.str?⟩

/-! ## Turns -/

/-- A handler at one of its awaits. -/
inductive Suspended
  /-- `readBody` of a start. -/
  | reading (kind : Kind)
  /-- The work on the relays. -/
  | working (h : Handler)
deriving DecidableEq

/-- A turn of a handler: the relays after it, and where the handler is. -/
abbrev ServerTurn := Relays × (Suspended ⊕ Ending)

/-- The turn of a handler that works on the relays. -/
def ofOutcome : Outcome → ServerTurn
  | (r, .inl h) => (r, .inl (.working h))
  | (r, .inr reply) => (r, .inr (.answered reply.answer))

namespace Relays

variable (r : Relays)

/-- The handler of a start from its checks on.  The relay that is there has been stopped when
`spawn` throws. -/
def start (req : Request) : ServerTurn :=
  match req.refused with
  | some port => (r.stop .session port, .inr .thrown)
  | none => ofOutcome (r.accept req)

/-- The handler once its body is read; the body is `none` when it is too large. -/
def readBody (kind : Kind) (body : Option Value) : ServerTurn :=
  match body.bind (startRequest kind) with
  | none => (r, .inr .thrown)
  | some req => r.start req

/-- The handler of a request up to its first await. -/
def arrive (newUrl : NewUrl) (req : HttpRequest) : ServerTurn :=
  match newUrl req.target with
  | none => (r, .inr .thrown)
  | some url =>
    match route req.method url.pathname with
    | .info => (r, .inr (.answered ⟨200, none⟩))
    | .health kind port => ofOutcome (r.accept (.health kind port))
    | .start kind => (r, .inl (.reading kind))
    | .delete kind port => ofOutcome (r.accept (.delete kind port))
    | .unknown => (r, .inr (.answered ⟨404, some "not_found"⟩))

end Relays

/-! ## Runs -/

/-- The manager's server. -/
structure Server where
  relays : Relays := ⟨[], fun _ _ => none⟩
  /-- The handlers of requests. -/
  jobs : Jobs Suspended := {}

/-- What happens to the server. -/
inductive ServerAction
  | request (req : HttpRequest)
  /-- The body of a start is read. -/
  | body (id : ℕ) (body : Option Value)
  /-- Another await of a handler is over. -/
  | resume (id : ℕ) (answer : Bool)
  /-- A process exits, or it turns out that it could not be spawned. -/
  | exit (pid : ℕ)
  /-- A process begins or ceases to listen. -/
  | listen (pid : ℕ) (on : Bool)

namespace Server

/-- A turn of the handler of a request is over. -/
def settle (jobs : Jobs Suspended) (id : ℕ) (turn : ServerTurn) : Option (ℕ × Ending) × Server :=
  (Jobs.ended id turn.2, ⟨turn.1, jobs.settle id turn.2⟩)

/-- One step, with the request whose handler has ended. -/
def next (newUrl : NewUrl) (t : Server) : ServerAction → Option (Option (ℕ × Ending) × Server)
  | .request req => some (settle t.jobs.draw t.jobs.count (t.relays.arrive newUrl req))
  | .body id body =>
    match t.jobs.at? id with
    | some (.reading kind) => some (settle t.jobs id (t.relays.readBody kind body))
    | _ => none
  | .resume id answer =>
    match t.jobs.at? id with
    | some (.working h) =>
      if h.probes = true → t.relays.Probes h.kind h.port answer then
        some (settle t.jobs id (ofOutcome (t.relays.resume h answer)))
      else none
    | _ => none
  | .exit pid =>
    if t.relays.hasExited pid then none else some (none, { t with relays := t.relays.exit pid })
  | .listen pid on => (t.relays.listen pid on).map fun relays => (none, { t with relays := relays })

end Server

/-- The runs of the server, from its start. -/
def serverLTS (newUrl : NewUrl) : LTS Server ServerAction (Option (ℕ × Ending)) :=
  .ofFun (· = {}) (Server.next newUrl)

/-- A step of the server. -/
abbrev ServerEntry := Entry Server ServerAction (Option (ℕ × Ending))

/-! ## Where the handler throws -/

/-- A handler throws when it has read the body of a start. -/
def BodyFails (kind : Kind) : Option Value → Prop
  | none => True
  | some body => body.isNull = true ∨ (∃ key ∈ kind.members, Unprintable (body.get key)) ∨
      ∃ req, startRequest kind body = some req ∧ req.refused ≠ none

/-- The turn of a handler throws. -/
def Server.Fails (newUrl : NewUrl) (t : Server) : ServerAction → Prop
  | .request req => newUrl req.target = none
  | .body id body => ∃ kind, t.jobs.at? id = some (.reading kind) ∧ BodyFails kind body
  | .resume _ _ | .exit _ | .listen _ _ => False

lemma startRequest_eq_none_iff {kind : Kind} {body : Value} : startRequest kind body = none ↔
    body.isNull = true ∨ ∃ key ∈ kind.members, Unprintable (body.get key) := by
  unfold startRequest
  split
  · rename_i hnull
    simp [hnull]
  · rename_i hnull
    cases kind with
    | session =>
      simp only [Kind.members, List.mem_cons, List.not_mem_nil, or_false, exists_eq_or_imp,
        exists_eq_left, ← parseIntOf_eq_none_iff (v := body.get "port"),
        ← textOrEmpty_eq_none_iff (v := body.get "sidecarHash")]
      cases parseIntOf (body.get "port") <;>
        cases Value.textOrEmpty (body.get "sidecarHash") <;> simp [hnull]
    | ggpo =>
      simp only [Kind.members, List.mem_cons, List.not_mem_nil, or_false, exists_eq_or_imp,
        exists_eq_left, ← parseIntOf_eq_none_iff (v := body.get "ggpoPort"),
        ← parseIntOf_eq_none_iff (v := body.get "sessionPort"),
        ← textOrEmpty_eq_none_iff (v := body.get "roomToken")]
      cases parseIntOf (body.get "ggpoPort") <;> cases parseIntOf (body.get "sessionPort") <;>
        cases Value.textOrEmpty (body.get "roomToken") <;> simp [hnull]

/-! ## Where a turn leaves the handler -/

/-- The turns that `stopGgpoSessionAndWait` may still have. -/
def StopWait.turnsLeft : StopWait → ℕ
  | .exit => 41
  | .release left => 2 * left + 2
  | .pause left => 2 * left + 1

/-- The turns that a handler at work on a relay may still have.  A start that has probed in vain
stops what it has started, and one that has stopped another relay is yet to begin. -/
def Stage.turnsLeft : Stage → ℕ
  | .stopping .replace _ wait => wait.turnsLeft + 122
  | .stopping .cleanup _ wait | .stopping .delete _ wait => wait.turnsLeft
  | .settling _ => 122
  | .probing _ _ left => 2 * left + 43
  | .pausing _ _ left => 2 * left + 42
  | .health => 1

/-- The turns that a handler may still have. -/
def Suspended.turnsLeft : Suspended → ℕ
  | .reading _ => 164
  | .working h => h.stage.turnsLeft

/-- Where a turn leaves a handler: it throws if the turn fails, and otherwise it has answered or
waits with fewer turns left. -/
abbrev Leaves (fails : Prop) (left : ℕ) (turn : ServerTurn) : Prop :=
  Jobs.Leaves Suspended.turnsLeft Ending.Answered fails left turn.2

lemma StopWait.turnsLeft_pos (wait : StopWait) : 0 < wait.turnsLeft := by
  cases wait <;> exact Nat.succ_pos _

lemma Suspended.turnsLeft_pos (h : Suspended) : 0 < h.turnsLeft := by
  cases h with
  | reading kind => exact Nat.succ_pos _
  | working h =>
    obtain ⟨kind, port, wanted, stage⟩ := h
    cases stage with
    | stopping reason pid wait =>
      cases reason with
      | replace => exact Nat.succ_pos _
      | cleanup | delete => exact wait.turnsLeft_pos
    | settling | probing | pausing | health => exact Nat.succ_pos _

section

variable {fails : Prop} {left : ℕ}

lemma leaves_answered (r : Relays) (a : Answer) (hok : ¬ fails) :
    Leaves fails left (r, .inr (.answered a)) :=
  .ends (iff_of_true ⟨a, rfl⟩ hok)

lemma leaves_thrown (r : Relays) (h : fails) : Leaves fails left (r, .inr .thrown) := by
  refine .ends (iff_of_false ?_ (not_not.2 h))
  rintro ⟨a, ⟨⟩⟩

lemma leaves_ofOutcome {o : Outcome} (hok : ¬ fails)
    (hleft : ∀ h, o.2 = .inl h → h.stage.turnsLeft < left) : Leaves fails left (ofOutcome o) := by
  obtain ⟨r, h | reply⟩ := o
  · exact .waits (hleft h rfl) hok
  · exact leaves_answered r _ hok

end

namespace Relays

lemma Accepted.turnsLeft_lt {r : Relays} {req : Request} {o : Outcome} (ho : Accepted r req o) :
    ∀ h, o.2 = .inl h → h.stage.turnsLeft < 164 := by
  cases ho with
  | session | launch | reuse | replace | deleteGgpo | health =>
    rintro _ ⟨⟩
    simp [Stage.turnsLeft, StopWait.turnsLeft]
  | deleteSession | answer => rintro _ ⟨⟩

/-- `stopGgpoSessionAndWait` throws to somebody who answers. -/
lemma stopThrows_ne (r : Relays) (h : Handler) (message : String) (reason : StopReason) :
    ∀ h', (r.stopThrows h message reason).2 ≠ .inl h' := by
  cases reason <;> rintro h' ⟨⟩

lemma turnsLeft_resume {r : Relays} {h : Handler} {answer : Bool} :
    ∀ h', (r.resume h answer).2 = .inl h' → h'.stage.turnsLeft < h.stage.turnsLeft := by
  obtain ⟨kind, port, wanted, stage⟩ := h
  cases stage with
  | stopping reason pid wait =>
    cases wait with
    | exit =>
      simp only [resume]
      split
      · rintro _ ⟨⟩
        cases reason <;> simp [Stage.turnsLeft, StopWait.turnsLeft]
      · -- the relay has not gone: nobody waits any longer
        intro h' hh'
        exact absurd hh' (r.stopThrows_ne _ _ reason h')
    | release left =>
      cases answer with
      | true =>
        rintro _ ⟨⟩
        cases reason <;> simp [Stage.turnsLeft, StopWait.turnsLeft]
      | false =>
        cases reason with
        | replace =>
          -- the port is free for the relay of the start
          rintro _ ⟨⟩
          simp only [Stage.turnsLeft, StopWait.turnsLeft]
          omega
        | cleanup | delete => rintro _ ⟨⟩
    | pause left =>
      cases left with
      | zero =>
        intro h' hh'
        exact absurd hh' (r.stopThrows_ne _ _ reason h')
      | succ left =>
        rintro _ ⟨⟩
        cases reason <;> simp only [Stage.turnsLeft, StopWait.turnsLeft] <;> omega
  | settling pid =>
    rintro _ ⟨⟩
    simp [Stage.turnsLeft]
  | probing pid reused left =>
    cases answer with
    | true => rintro _ ⟨⟩
    | false =>
      rintro _ ⟨⟩
      simp [Stage.turnsLeft]
  | pausing pid reused left =>
    cases left with
    | succ left =>
      rintro _ ⟨⟩
      simp only [Stage.turnsLeft]
      omega
    | zero =>
      cases kind with
      | session => rintro _ ⟨⟩
      | ggpo =>
        simp only [resume, giveUp]
        split
        · rintro _ ⟨⟩
        · rintro _ ⟨⟩
        · -- what the start has launched is stopped before it answers
          rintro _ ⟨⟩
          simp [Stage.turnsLeft, StopWait.turnsLeft]
  | health => rintro _ ⟨⟩

end Relays

namespace Server

variable {t : Server} {newUrl : NewUrl}

lemma leaves_arrive (r : Relays) (newUrl : NewUrl) (req : HttpRequest) :
    Leaves (newUrl req.target = none) 165 (r.arrive newUrl req) := by
  unfold Relays.arrive
  cases hurl : newUrl req.target with
  | none => exact leaves_thrown r rfl
  | some url =>
    have hok : ¬ some url = none := by simp
    have haccept (req : Request) : Leaves (some url = none) 165 (ofOutcome (r.accept req)) :=
      leaves_ofOutcome hok fun h hh =>
        Nat.lt_succ_of_lt ((Relays.accepted r req).turnsLeft_lt h hh)
    simp only
    cases route req.method url.pathname with
    | info | unknown => exact leaves_answered r _ hok
    | health kind port => exact haccept _
    | start kind => exact .waits (Nat.lt_succ_self 164) hok
    | delete kind port => exact haccept _

lemma leaves_readBody (r : Relays) (kind : Kind) (body : Option Value) :
    Leaves (BodyFails kind body) 164 (r.readBody kind body) := by
  cases body with
  | none => exact leaves_thrown r trivial
  | some body =>
    simp only [Relays.readBody, Option.bind_some]
    cases hreq : startRequest kind body with
    | none =>
      rcases startRequest_eq_none_iff.1 hreq with hnull | hmember
      · exact leaves_thrown r (.inl hnull)
      · exact leaves_thrown r (.inr (.inl hmember))
    | some req =>
      have hiff : BodyFails kind (some body) ↔ req.refused ≠ none := by
        have hread : ¬ (body.isNull = true ∨
            ∃ key ∈ kind.members, Unprintable (body.get key)) := by
          rw [← startRequest_eq_none_iff, hreq]
          simp
        rw [BodyFails, ← or_assoc, or_iff_right hread, hreq]
        simp
      -- the members are read: only the port may be refused
      rw [hiff]
      simp only [Relays.start]
      split
      · rename_i port hrefused
        exact leaves_thrown _ (by simp [hrefused])
      · rename_i hnone
        exact leaves_ofOutcome (not_not.2 hnone) (Relays.accepted r req).turnsLeft_lt

/-! ## Steps -/

/-- The handler that has a turn. -/
def who (t : Server) : ServerAction → Option ℕ
  | .request _ => some t.jobs.count
  | .body id _ | .resume id _ => some id
  | .exit _ | .listen _ _ => none

/-- **Step lemma.** -/
lemma settles_of_next {act : ServerAction} {r : Option (ℕ × Ending) × Server}
    (h : t.next newUrl act = some r) :
    Jobs.Settles Suspended.turnsLeft 164 Ending.Answered (t.Fails newUrl act) t.jobs (t.who act)
      r.1 r.2.jobs := by
  cases act with
  | request req =>
    obtain rfl := Option.some.inj h
    exact .begins (leaves_arrive t.relays newUrl req)
  | body id body =>
    simp only [next] at h
    split at h
    · rename_i kind hat
      obtain rfl := Option.some.inj h
      have hleaves := leaves_readBody t.relays kind body
      have hiff : BodyFails kind body ↔ t.Fails newUrl (.body id body) := by simp [Fails, hat]
      rw [hiff] at hleaves
      exact .goesOn hat hleaves (Suspended.turnsLeft_pos _)
    · cases h
  | resume id answer =>
    simp only [next] at h
    split at h
    · rename_i hd hat
      split at h
      · obtain rfl := Option.some.inj h
        exact .goesOn hat (leaves_ofOutcome (fun hno => hno) Relays.turnsLeft_resume)
          (Suspended.turnsLeft_pos _)
      · cases h
    · cases h
  | exit pid =>
    simp only [next] at h
    split at h
    · cases h
    · obtain rfl := Option.some.inj h
      exact .idle id
  | listen pid on =>
    obtain ⟨relays, -, rfl⟩ := Option.map_eq_some_iff.1 h
    exact .idle id

/-- A handler at work can go on, whatever the body is that it gets. -/
def GoesOn (newUrl : NewUrl) (t : Server) : Prop :=
  (∀ id kind body, t.jobs.at? id = some (.reading kind) →
    (t.next newUrl (.body id body)).isSome = true) ∧
  ∀ id h, t.jobs.at? id = some (.working h) →
    ∃ answer, (t.next newUrl (.resume id answer)).isSome = true

lemma goesOn (newUrl : NewUrl) (t : Server) : t.GoesOn newUrl := by
  constructor
  · intro id kind body hat
    simp [next, hat]
  · intro id h hat
    -- what is on the port answers, and nothing else does
    refine ⟨t.relays.answers h.kind h.port, ?_⟩
    have hprobes : t.relays.Probes h.kind h.port (t.relays.answers h.kind h.port) :=
      ⟨fun hyes => hyes, fun _ hyes => hyes⟩
    simp [next, hat, hprobes]

end Server

/-! ## Ports -/

/-- A port that a packet may be sent to. -/
def PortInRange (port : ℕ) : Prop := 1 ≤ port ∧ port ≤ 65535

lemma portInRange_of_validPort {n : Option ℤ} {port : ℕ} (h : validPort n = some port) :
    PortInRange port := by
  cases n with
  | none => cases h
  | some n =>
    simp only [validPort] at h
    split at h
    · rename_i hrange
      obtain rfl := Option.some.inj h
      constructor <;> omega
    · cases h

namespace Relays

variable {r r' : Relays} {kind : Kind} {port : ℕ}

/-- The ports of the relays that are tracked. -/
def PortsInRange (r : Relays) : Prop :=
  ∀ kind port entry, r.tracked kind port = some entry → PortInRange port

/-- Entries may go. -/
lemma PortsInRange.mono (hr : r.PortsInRange) (h : ∀ kind port entry,
    r'.tracked kind port = some entry → r.tracked kind port = some entry) : r'.PortsInRange :=
  fun kind port entry hentry => hr kind port entry (h kind port entry hentry)

lemma PortsInRange.stop (hr : r.PortsInRange) (kind : Kind) (port : ℕ) :
    (r.stop kind port).PortsInRange := by
  refine hr.mono fun k q entry hentry => ?_
  rw [tracked_stop] at hentry
  split_ifs at hentry
  exact hentry

lemma PortsInRange.spawn (hr : r.PortsInRange) (kind : Kind) (hport : PortInRange port)
    (secret : Text) (sessionPort : Option ℤ) :
    (r.spawn kind port secret sessionPort).PortsInRange := by
  intro k q entry hentry
  rw [tracked_spawn] at hentry
  split_ifs at hentry with hkq
  · exact hkq.2 ▸ hport
  · exact hr k q entry hentry

/-- The ports of the relays and of the handler that is at work. -/
def OutcomeInRange (o : Outcome) : Prop :=
  o.1.PortsInRange ∧ ∀ h, o.2 = .inl h → PortInRange h.port

lemma Accepted.inRange {req : Request} {o : Outcome} (hr : r.PortsInRange)
    (ho : Accepted r req o) : OutcomeInRange o := by
  cases ho with
  | session hport =>
    have hrange := portInRange_of_validPort hport
    refine ⟨(hr.stop _ _).spawn _ hrange _ _, ?_⟩
    rintro _ ⟨⟩
    exact hrange
  | launch hport =>
    have hrange := portInRange_of_validPort hport
    refine ⟨hr.spawn _ hrange _ _, ?_⟩
    rintro _ ⟨⟩
    exact hrange
  | reuse hport =>
    refine ⟨hr, ?_⟩
    rintro _ ⟨⟩
    exact portInRange_of_validPort hport
  | replace hport =>
    refine ⟨hr.stop _ _, ?_⟩
    rintro _ ⟨⟩
    exact portInRange_of_validPort hport
  | deleteSession => exact ⟨hr.stop _ _, by rintro _ ⟨⟩⟩
  | deleteGgpo hentry =>
    refine ⟨hr.stop _ _, ?_⟩
    rintro _ ⟨⟩
    exact hr _ _ _ hentry
  | health hentry =>
    refine ⟨hr, ?_⟩
    rintro _ ⟨⟩
    exact hr _ _ _ hentry
  | answer => exact ⟨hr, by rintro _ ⟨⟩⟩

lemma Resumed.inRange {h : Handler} {answer : Bool} {o : Outcome} (hr : r.PortsInRange)
    (hport : PortInRange h.port) (ho : Resumed r h answer o) : OutcomeInRange o := by
  cases ho with
  | wait =>
    refine ⟨hr, ?_⟩
    rintro _ ⟨⟩
    exact hport
  | launch =>
    refine ⟨hr.spawn _ hport _ _, ?_⟩
    rintro _ ⟨⟩
    exact hport
  | giveUpSession => exact ⟨hr.stop _ _, by rintro _ ⟨⟩⟩
  | giveUpGgpo =>
    refine ⟨hr.stop _ _, ?_⟩
    rintro _ ⟨⟩
    exact hport
  | succeed | gone | stopped | health => exact ⟨hr, by rintro _ ⟨⟩⟩

end Relays

namespace Server

variable {t : Server} {newUrl : NewUrl}

/-- **Invariant.** The ports of the relays and of the handlers at work. -/
structure InRange (t : Server) : Prop where
  tracked : t.relays.PortsInRange
  working : ∀ id h, (id, .working h) ∈ t.jobs.work → PortInRange h.port

/-- A turn that begins no work on a relay. -/
lemma inRange_turn {turn : ServerTurn} (hr : turn.1.PortsInRange)
    (hno : ∀ h, turn.2 ≠ .inl (.working h)) :
    turn.1.PortsInRange ∧ ∀ h, turn.2 = .inl (.working h) → PortInRange h.port :=
  ⟨hr, fun h hh => absurd hh (hno h)⟩

lemma inRange_ofOutcome {o : Outcome} (ho : Relays.OutcomeInRange o) :
    (ofOutcome o).1.PortsInRange ∧
      ∀ h, (ofOutcome o).2 = .inl (.working h) → PortInRange h.port := by
  obtain ⟨r, h | reply⟩ := o
  · refine ⟨ho.1, ?_⟩
    rintro _ ⟨⟩
    exact ho.2 h rfl
  · exact ⟨ho.1, by rintro _ ⟨⟩⟩

lemma InRange.settle {jobs : Jobs Suspended} {id : ℕ} {turn : ServerTurn}
    (hjobs : ∀ id h, (id, .working h) ∈ jobs.work → PortInRange h.port)
    (hturn : turn.1.PortsInRange ∧ ∀ h, turn.2 = .inl (.working h) → PortInRange h.port) :
    (Server.settle jobs id turn).2.InRange := by
  obtain ⟨relays, progress⟩ := turn
  refine ⟨hturn.1, ?_⟩
  intro id' h hmem
  cases progress with
  | inl hd =>
    rcases List.mem_cons.1 hmem with heq | hmem
    · obtain ⟨-, rfl⟩ := Prod.mk.inj heq
      exact hturn.2 h rfl
    · exact hjobs id' h (List.mem_of_mem_filter hmem)
  | inr ending => exact hjobs id' h (List.mem_of_mem_filter hmem)

lemma inRange_arrive {r : Relays} (hr : r.PortsInRange) (newUrl : NewUrl) (req : HttpRequest) :
    (r.arrive newUrl req).1.PortsInRange ∧
      ∀ h, (r.arrive newUrl req).2 = .inl (.working h) → PortInRange h.port := by
  unfold Relays.arrive
  split
  · exact inRange_turn hr (by simp)
  · split
    · exact inRange_turn hr (by simp)
    · exact inRange_ofOutcome ((Relays.accepted r _).inRange hr)
    · exact inRange_turn hr (by simp)
    · exact inRange_ofOutcome ((Relays.accepted r _).inRange hr)
    · exact inRange_turn hr (by simp)

lemma inRange_readBody {r : Relays} (hr : r.PortsInRange) (kind : Kind) (body : Option Value) :
    (r.readBody kind body).1.PortsInRange ∧
      ∀ h, (r.readBody kind body).2 = .inl (.working h) → PortInRange h.port := by
  unfold Relays.readBody
  split
  · exact inRange_turn hr (by simp)
  · unfold Relays.start
    split
    · exact inRange_turn (hr.stop _ _) (by simp)
    · exact inRange_ofOutcome ((Relays.accepted r _).inRange hr)

/-- **Step lemma.** -/
lemma InRange.step (h : t.InRange) {act : ServerAction} {r : Option (ℕ × Ending) × Server}
    (hstep : t.next newUrl act = some r) : r.2.InRange := by
  cases act with
  | request req =>
    obtain rfl := Option.some.inj hstep
    exact InRange.settle h.working (inRange_arrive h.tracked newUrl req)
  | body id body =>
    simp only [next] at hstep
    split at hstep
    · obtain rfl := Option.some.inj hstep
      exact InRange.settle h.working (inRange_readBody h.tracked _ body)
    · cases hstep
  | resume id answer =>
    simp only [next] at hstep
    split at hstep
    · rename_i hd hat
      split at hstep
      · obtain rfl := Option.some.inj hstep
        have hport := h.working id hd (Jobs.mem_of_at? hat)
        exact InRange.settle h.working
          (inRange_ofOutcome ((Relays.resumed t.relays hd answer).inRange h.tracked hport))
      · cases hstep
    · cases hstep
  | exit pid =>
    simp only [next] at hstep
    split at hstep
    · cases hstep
    · obtain rfl := Option.some.inj hstep
      refine ⟨h.tracked.mono fun k q entry hentry => ?_, h.working⟩
      exact (Relays.tracked_exit_eq_some_iff.1 hentry).1
  | listen pid on =>
    obtain ⟨relays, hlisten, rfl⟩ := Option.map_eq_some_iff.1 hstep
    obtain ⟨rfl, -⟩ := Relays.listen_eq_some hlisten
    exact ⟨h.tracked, h.working⟩

lemma inRange_of_run {log : List ServerEntry} (h : (serverLTS newUrl).Run log t) : t.InRange := by
  refine h.invariant_of_step (fun _ t => t.InRange) ?_ fun _ e hrange hstep => hrange.step hstep
  rintro _ rfl
  exact ⟨by rintro kind port entry ⟨⟩, by rintro id h ⟨⟩⟩

end Server

/-! ## The manager behind the server -/

/-- The work of a handler on the relays. -/
def Suspended.handler? : Suspended → Option Handler
  | .reading _ => none
  | .working h => some h

namespace Server

variable {t : Server} {newUrl : NewUrl}

/-- The manager behind the server: a start is a request to it once its body is read. -/
def manager (t : Server) : Manager :=
  ⟨t.relays, fun id => (t.jobs.at? id).bind Suspended.handler?⟩

lemma manager_settle (jobs : Jobs Suspended) (id : ℕ) (turn : ServerTurn) :
    (settle jobs id turn).2.manager = ⟨turn.1,
      Function.update (fun id => (jobs.at? id).bind Suspended.handler?) id
        (turn.2.elim Suspended.handler? fun _ => none)⟩ := by
  obtain ⟨relays, progress⟩ := turn
  simp only [manager, settle, Manager.mk.injEq, true_and]
  ext1 id'
  -- only the handler that had the turn has changed
  by_cases hid : id' = id
  · subst hid
    rw [Jobs.at?_settle_self, Function.update_self]
    cases progress <;> rfl
  · rw [Jobs.at?_settle_of_ne _ hid, Function.update_of_ne hid]

/-- A turn that works on the relays is one of the manager. -/
lemma manager_settle_ofOutcome {jobs : Jobs Suspended} (hjobs : jobs.work = t.jobs.work) (id : ℕ)
    (o : Outcome) : (settle jobs id (ofOutcome o)).2.manager = (t.manager.settle id o).2 := by
  rw [manager_settle]
  have hsame : (fun id => (jobs.at? id).bind Suspended.handler?) = t.manager.handlers := by
    simp only [manager, Jobs.at?, hjobs]
  rw [hsame]
  obtain ⟨relays, h | reply⟩ := o <;> rfl

/-- A turn of a handler that does not work on the relays. -/
lemma manager_settle_of_aside {jobs : Jobs Suspended} (hjobs : jobs.work = t.jobs.work) {id : ℕ}
    {turn : ServerTurn} (hid : t.manager.handlers id = none) (hrelays : turn.1 = t.relays)
    (haside : ∀ h, turn.2 ≠ .inl (.working h)) :
    (settle jobs id turn).2.manager = t.manager := by
  have hsame : (fun id => (jobs.at? id).bind Suspended.handler?) = t.manager.handlers := by
    simp only [manager, Jobs.at?, hjobs]
  have hnone : (turn.2.elim Suspended.handler? fun _ => none) = none := by
    rcases hturn : turn.2 with (kind | h) | ending
    · rfl
    · exact absurd hturn (haside h)
    · rfl
  rw [manager_settle, hsame, hnone, ← hid, Function.update_eq_self, hrelays]
  rfl

/-- The manager takes a step, or none. -/
def Follows (m m' : Manager) : Prop := m' = m ∨ ∃ act out, m.next act = some (out, m')

lemma follows_request {jobs : Jobs Suspended} (hjobs : jobs.work = t.jobs.work) {id : ℕ}
    (hid : t.manager.handlers id = none) (req : Request) :
    Follows t.manager (settle jobs id (ofOutcome (t.relays.accept req))).2.manager := by
  refine .inr ⟨.request id req, (t.manager.settle id (t.relays.accept req)).1, ?_⟩
  rw [manager_settle_ofOutcome hjobs]
  exact if_pos hid

/-- **Step lemma.** -/
lemma follows_of_next (hjobs : t.jobs.Numbered) {act : ServerAction}
    {r : Option (ℕ × Ending) × Server} (h : t.next newUrl act = some r) :
    Follows t.manager r.2.manager := by
  cases act with
  | request req =>
    obtain rfl := Option.some.inj h
    have hid : t.manager.handlers t.jobs.count = none := by
      simp [manager, hjobs.at?_of_le (Nat.le_refl _)]
    have hwork : t.jobs.draw.work = t.jobs.work := rfl
    unfold Relays.arrive
    split
    · exact .inl (manager_settle_of_aside hwork hid rfl (by simp))
    · split
      · exact .inl (manager_settle_of_aside hwork hid rfl (by simp))
      · exact follows_request hwork hid _
      · exact .inl (manager_settle_of_aside hwork hid rfl (by simp))
      · exact follows_request hwork hid _
      · exact .inl (manager_settle_of_aside hwork hid rfl (by simp))
  | body id body =>
    simp only [next] at h
    split at h
    · rename_i kind hat
      obtain rfl := Option.some.inj h
      -- a handler that reads its body is no handler of the manager yet
      have hid : t.manager.handlers id = none := by simp [manager, hat, Suspended.handler?]
      unfold Relays.readBody
      split
      · exact .inl (manager_settle_of_aside rfl hid rfl (by simp))
      · unfold Relays.start
        split
        · -- what is left of a start that is refused is the stop of the relay
          rename_i port hrefused
          refine .inr ⟨.request id (.delete .session port),
            some (id, .stopped port (t.relays.tracked .session port).isSome), ?_⟩
          simp only [Manager.next, if_pos hid]
          rw [manager_settle]
          rfl
        · exact follows_request rfl hid _
    · cases h
  | resume id answer =>
    simp only [next] at h
    split at h
    · rename_i hd hat
      split at h
      · rename_i hprobes
        obtain rfl := Option.some.inj h
        have hhandler : t.manager.handlers id = some hd := by
          simp [manager, hat, Suspended.handler?]
        refine .inr ⟨.resume id answer, (t.manager.settle id (t.relays.resume hd answer)).1, ?_⟩
        rw [manager_settle_ofOutcome rfl]
        simp only [Manager.next, hhandler, Option.bind_some]
        exact if_pos hprobes
      · cases h
    · cases h
  | exit pid =>
    refine .inr ⟨.exit pid, none, ?_⟩
    simp only [next] at h
    split at h
    · cases h
    · rename_i hno
      obtain rfl := Option.some.inj h
      exact if_neg hno
  | listen pid on =>
    obtain ⟨relays, hlisten, rfl⟩ := Option.map_eq_some_iff.1 h
    refine .inr ⟨.listen pid on, none, ?_⟩
    exact Option.map_eq_some_iff.2 ⟨relays, hlisten, rfl⟩

/-- **Refinement.** Behind every run of the server there is a run of the manager. -/
theorem managerRun_of_run {log : List ServerEntry} (h : (serverLTS newUrl).Run log t) :
    ∃ mlog, managerLTS.Run mlog t.manager := by
  have hall : t.jobs.Numbered ∧ ∃ mlog, managerLTS.Run mlog t.manager := by
    refine h.invariant_of_step
      (fun _ t => t.jobs.Numbered ∧ ∃ mlog, managerLTS.Run mlog t.manager) ?_ ?_
    · rintro _ rfl
      exact ⟨Jobs.numbered_empty, [], _, rfl, .refl⟩
    · rintro log ⟨pre, act, out, post⟩ ⟨hjobs, mlog, hrun⟩ hstep
      have hnext : pre.next newUrl act = some (out, post) := hstep
      refine ⟨(settles_of_next hnext).turn.numbered hjobs, ?_⟩
      -- a step of the server is one of the manager, or leaves it alone
      rcases follows_of_next hjobs hnext with heq | ⟨mact, mout, hmnext⟩
      · exact ⟨mlog, heq ▸ hrun⟩
      · exact ⟨⟨pre.manager, mact, mout, post.manager⟩ :: mlog, hrun.snoc hmnext⟩
  exact hall.2

end Server

/-! ## Answers -/

/-- **The requests to the manager are answered.** Every handler has at most 165 turns and ends
with exactly one answer; until then it can go on; and it probes no port that is none. -/
structure Answers (newUrl : NewUrl) (log : List ServerEntry) (t : Server) : Prop where
  eachAnswered : EachEndsWell (fun e => e.pre.who e.act) (fun e => e.out) Ending.Answered 164
    t.jobs log
  goesOn : t.GoesOn newUrl
  probes : ∀ id h, t.jobs.at? id = some (.working h) → h.probes = true → PortInRange h.port

/-- **The requests to the manager are answered unless a turn throws.** -/
lemma answers_iff_of_run {newUrl : NewUrl} {log : List ServerEntry} {t : Server}
    (h : (serverLTS newUrl).Run log t) :
    Answers newUrl log t ↔ ∀ e ∈ log, ¬ e.pre.Fails newUrl e.act := by
  have heach : EachEndsWell (fun e => e.pre.who e.act) (fun e => e.out) Ending.Answered 164
      t.jobs log ↔ ∀ e ∈ log, ¬ e.pre.Fails newUrl e.act := by
    refine h.eachEndsWell_iff_of_settles ?_ fun e he => Server.settles_of_next he
    rintro _ rfl
    rfl
  rw [← heach]
  constructor
  · intro hanswers
    exact hanswers.eachAnswered
  · intro heach
    -- the other two hold in every run
    refine ⟨heach, t.goesOn newUrl, fun id hd hat _ => ?_⟩
    exact (Server.inRange_of_run h).working id hd (Jobs.mem_of_at? hat)

end RelayManager
end Sf4e
