/-
# Do the broker and the manager agree on a start?

The broker takes `201` with `ok` for success.  The manager answers `200` when the relay was there
already, so that a start which is repeated fails for the broker while the relay is up.  A start
may also succeed, or fail, on the relay of another start that overlaps it.

A `ServedStart` is a start request in a run of the manager, from its arrival to its answer.
`agrees_of_alone` says that the broker is right about every one that finds no relay to reuse and
is served alone.
-/
import Sf4e.Manager.Tracking

namespace Sf4e
namespace RelayManager

open Wire Trace Broker
open Relay (isHexToken)

/-! ## Answers -/

/-- The answer has the status `201`. -/
def Reply.isCreated : Reply → Bool
  | .sessionStarted _ _ => true
  | .ggpoStarted _ _ reused => !reused
  | _ => false

lemma repr_created : Int.repr 201 = "201" := by decide +kernel

lemma repr_ok_ne : Int.repr 200 ≠ "201" := by decide +kernel

/-- The broker takes the answers with `201` for success, and no others. -/
lemma startResult_http (text : String) (reply : Reply) :
    startResult text (some reply.http) = .started ↔ reply.isCreated = true := by
  rw [startResult_eq_started_iff]
  cases reply with
  | ggpoStarted ggpoPort sessionPort reused =>
    cases reused <;>
      simp [Reply.http, Reply.isCreated, HttpReply.holds, HttpReply.created, HttpReply.get,
        Value.get, Value.truthy, Value.int, List.lookup_cons, repr_created, repr_ok_ne]
  | _ =>
    simp [Reply.http, Reply.isCreated, HttpReply.holds, HttpReply.created, HttpReply.get,
      Value.get, Value.truthy, Value.int, List.lookup_cons, repr_created, repr_ok_ne]

lemma startGgpoRelaySession_http (reply : Reply) :
    startGgpoRelaySession (some reply.http) = .started ↔ reply.isCreated = true :=
  startResult_http _ reply

lemma startRelaySession_http (reply : Reply) :
    startRelaySession (some reply.http) = .started ↔ reply.isCreated = true :=
  startResult_http _ reply

/-! ## Starts -/

/-- A call of `startGgpoRelaySession`, with the id of its request. -/
structure StartCall where
  id : ℕ
  sessionPort : ℕ
  ggpoPort : ℕ
  roomToken : Text
  port_range : 1 ≤ ggpoPort ∧ ggpoPort ≤ 65535
  token_hex : isHexToken roomToken = true

/-- The request that the manager makes of it. -/
def StartCall.request (c : StartCall) : Request :=
  .ofCall (.startGgpo c.sessionPort c.ggpoPort c.roomToken)

/-- What the start is to bring about. -/
def StartCall.wanted (c : StartCall) : Wanted := ⟨c.roomToken, some c.sessionPort⟩

/-- A start request in a run of the manager, from its arrival to its answer. -/
structure ServedStart where
  call : StartCall
  /-- The request comes in. -/
  first : ManagerEntry
  /-- The request is answered. -/
  last : ManagerEntry
  /-- What happens in between. -/
  mid : List ManagerEntry
  /-- What has happened before. -/
  older : List ManagerEntry
  reply : Reply
  run : managerLTS.Run (last :: (mid ++ first :: older)) last.post
  arrives : first.act = .request call.id call.request
  answered : last.out = some (call.id, reply)
  pending : ∀ e ∈ mid, ∀ out ∈ e.out, out.1 ≠ call.id

/-- The manager has a relay for the port and the token, and it answers. -/
def Relays.Healthy (r : Relays) (ggpoPort : ℕ) (roomToken : Text) : Prop :=
  ∃ entry ∈ r.tracked .ggpo ggpoPort, entry.secret = roomToken ∧
    ∃ p ∈ r.procs[entry.pid]?, p.secret = roomToken ∧ p.exited = false ∧ p.listening = true

instance (r : Relays) (ggpoPort : ℕ) (roomToken : Text) :
    Decidable (r.Healthy ggpoPort roomToken) :=
  inferInstanceAs (Decidable (∃ entry ∈ r.tracked .ggpo ggpoPort, entry.secret = roomToken ∧
    ∃ p ∈ r.procs[entry.pid]?, p.secret = roomToken ∧ p.exited = false ∧ p.listening = true))

/-- A GGPO relay of the port is there. -/
def Relays.Alive (r : Relays) (ggpoPort pid : ℕ) : Prop :=
  ∃ p, r.procs[pid]? = some p ∧ p.kind = .ggpo ∧ p.port = ggpoPort ∧ p.exited = false

/-- The request starts or stops a GGPO relay of the port. -/
def Request.Governs (ggpoPort : ℕ) : Request → Prop
  | .postGgpo n _ _ => validPort n = some ggpoPort
  | .delete .ggpo port => port = ggpoPort
  | _ => False

namespace ServedStart

/-- **The property.** The broker reports success exactly when the relay is up. -/
def Agrees (s : ServedStart) : Prop :=
  startGgpoRelaySession (some s.reply.http) = .started ↔
    s.last.post.relays.Healthy s.call.ggpoPort s.call.roomToken

/-- **The condition.** The start finds nothing to reuse and nobody else is at its port. -/
structure Alone (s : ServedStart) : Prop where
  /-- No relay for the same session port and token is there. -/
  fresh : ∀ entry ∈ s.first.pre.relays.tracked .ggpo s.call.ggpoPort,
    s.first.pre.relays.reusable entry (some s.call.sessionPort) s.call.roomToken = false
  /-- No start or stop for the port is being handled. -/
  unattended : ∀ id h, s.first.pre.handlers id = some h → h.kind = .ggpo →
    h.port = s.call.ggpoPort → h.stage = .health
  /-- None comes in before the answer. -/
  undisturbed : ∀ e ∈ s.mid, ∀ id req, e.act = .request id req → ¬ req.Governs s.call.ggpoPort
  /-- No relay that the manager has lost is on the port. -/
  tracked : ∀ pid, s.first.pre.relays.Alive s.call.ggpoPort pid →
    s.first.pre.relays.Records .ggpo s.call.ggpoPort pid

end ServedStart

/-! ## The relays of one port -/

namespace Relays

variable {r r' : Relays} {port : ℕ}

@[simp] lemma alive_stop_iff {kind : Kind} {q pid : ℕ} :
    (r.stop kind q).Alive port pid ↔ r.Alive port pid := by
  simp only [Alive, getElem?_stop, Option.map_eq_some_iff]
  constructor
  · rintro ⟨_, ⟨p, hp, rfl⟩, hkind, hport, hexited⟩
    refine ⟨p, hp, ?_⟩
    split_ifs at hkind hport hexited <;> exact ⟨hkind, hport, hexited⟩
  · rintro ⟨p, hp, hkind, hport, hexited⟩
    refine ⟨_, ⟨p, hp, rfl⟩, ?_⟩
    split_ifs <;> exact ⟨hkind, hport, hexited⟩

lemma alive_spawn_iff {kind : Kind} {q pid : ℕ} {secret : Text} {sessionPort : Option ℤ} :
    (r.spawn kind q secret sessionPort).Alive port pid ↔
      r.Alive port pid ∨ (pid = r.procs.length ∧ kind = .ggpo ∧ q = port) := by
  simp only [Alive, getElem?_spawn]
  by_cases hpid : pid = r.procs.length
  · subst hpid
    simp [Proc.new]
  · simp [hpid]

lemma alive_exit_iff {pid' pid : ℕ} :
    (r.exit pid').Alive port pid ↔ r.Alive port pid ∧ pid ≠ pid' := by
  simp only [Alive, getElem?_exit, Option.map_eq_some_iff]
  constructor
  · rintro ⟨_, ⟨p, hp, rfl⟩, hkind, hport, hexited⟩
    split_ifs at hkind hport hexited with hpid
    · exact absurd hexited (by simp [Proc.exit])
    · exact ⟨⟨p, hp, hkind, hport, hexited⟩, Ne.symm hpid⟩
  · rintro ⟨⟨p, hp, hkind, hport, hexited⟩, hne⟩
    refine ⟨_, ⟨p, hp, rfl⟩, ?_⟩
    rw [if_neg (Ne.symm hne)]
    exact ⟨hkind, hport, hexited⟩

lemma alive_listen_iff {pid' pid : ℕ} {on : Bool} (h : r.listen pid' on = some r') :
    r'.Alive port pid ↔ r.Alive port pid := by
  obtain ⟨rfl, -⟩ := listen_eq_some h
  simp only [Alive, List.getElem?_modify, Option.map_eq_map, Option.map_eq_some_iff]
  constructor
  · rintro ⟨_, ⟨p, hp, rfl⟩, hkind, hport, hexited⟩
    refine ⟨p, hp, ?_⟩
    split_ifs at hkind hport hexited <;> exact ⟨hkind, hport, hexited⟩
  · rintro ⟨p, hp, hkind, hport, hexited⟩
    refine ⟨_, ⟨p, hp, rfl⟩, ?_⟩
    split_ifs <;> exact ⟨hkind, hport, hexited⟩

/-- A process that has exited is not there. -/
lemma not_alive_of_hasExited {pid : ℕ} (h : r.hasExited pid = true) : ¬ r.Alive port pid := by
  rintro ⟨p, hp, -, -, hexited⟩
  simp [hasExited, hp, hexited] at h

/-- Nothing happens at the port. -/
structure Away (r r' : Relays) (port : ℕ) : Prop where
  tracked : r'.tracked .ggpo port = r.tracked .ggpo port
  alive : ∀ pid, r'.Alive port pid ↔ r.Alive port pid

lemma away_refl (r : Relays) (port : ℕ) : r.Away r port := ⟨rfl, fun _ => Iff.rfl⟩

lemma away_stop {kind : Kind} {q : ℕ} (h : ¬ (kind = .ggpo ∧ q = port)) :
    r.Away (r.stop kind q) port where
  tracked := by
    rw [tracked_stop, if_neg]
    rintro ⟨rfl, rfl⟩
    exact h ⟨rfl, rfl⟩
  alive _ := alive_stop_iff

lemma away_spawn {kind : Kind} {q : ℕ} {secret : Text} {sessionPort : Option ℤ}
    (h : ¬ (kind = .ggpo ∧ q = port)) : r.Away (r.spawn kind q secret sessionPort) port where
  tracked := by
    rw [tracked_spawn, if_neg]
    rintro ⟨rfl, rfl⟩
    exact h ⟨rfl, rfl⟩
  alive pid := by
    rw [alive_spawn_iff]
    exact or_iff_left fun h' => h h'.2

lemma Away.trans {r'' : Relays} (h : r.Away r' port) (h' : r'.Away r'' port) :
    r.Away r'' port :=
  ⟨h'.tracked.trans h.tracked, fun pid => (h'.alive pid).trans (h.alive pid)⟩

end Relays

/-! ## A start on its way -/

/-- The relays while a start is at the given stage. -/
def StartCall.At (c : StartCall) (r : Relays) : Stage → Prop
  | .stopping .replace pid wait => r.tracked .ggpo c.ggpoPort = none ∧
      ∀ pid', r.Alive c.ggpoPort pid' → pid' = pid ∧ wait = .exit
  | .stopping .cleanup _ _ => r.tracked .ggpo c.ggpoPort = none
  | .settling pid | .probing pid false _ | .pausing pid false _ =>
    (∀ pid', r.Alive c.ggpoPort pid' → pid' = pid) ∧
      (∀ entry ∈ r.tracked .ggpo c.ggpoPort, entry.pid = pid) ∧
        (r.Alive c.ggpoPort pid →
          ∃ entry ∈ r.tracked .ggpo c.ggpoPort, entry.secret = c.roomToken)
  | _ => False

/-- **Invariant.** The start is under way, and nobody else is at its port. -/
structure StartCall.Serving (c : StartCall) (m : Manager) : Prop where
  others : ∀ id h, id ≠ c.id → m.handlers id = some h → h.kind = .ggpo → h.port = c.ggpoPort →
    h.stage = .health
  handler : ∃ h, m.handlers c.id = some h ∧ h.kind = .ggpo ∧ h.port = c.ggpoPort ∧
    h.wanted = c.wanted ∧ c.At m.relays h.stage

namespace StartCall

variable {c : StartCall} {r r' : Relays} {stage : Stage}

lemma At.of_away (h : c.At r stage) (haway : r.Away r' c.ggpoPort) : c.At r' stage := by
  unfold At at h ⊢
  split at h
  · simpa only [haway.tracked, haway.alive] using h
  · simpa only [haway.tracked] using h
  · simpa only [haway.tracked, haway.alive] using h
  · simpa only [haway.tracked, haway.alive] using h
  · simpa only [haway.tracked, haway.alive] using h
  · exact h

/-- A process may exit at any time. -/
lemma At.exit (h : c.At r stage) (pid : ℕ) : c.At (r.exit pid) stage := by
  have htracked {entry : Tracked} (hentry : entry ∈ (r.exit pid).tracked .ggpo c.ggpoPort) :
      entry ∈ r.tracked .ggpo c.ggpoPort := (Relays.tracked_exit_eq_some_iff.1 hentry).1
  have hnone (hn : r.tracked .ggpo c.ggpoPort = none) :
      (r.exit pid).tracked .ggpo c.ggpoPort = none := by
    refine Option.eq_none_iff_forall_not_mem.2 fun entry hentry => ?_
    have hold := htracked hentry
    rw [hn] at hold
    exact absurd hold (by simp)
  have hown {own : ℕ} (ho : (∀ pid', r.Alive c.ggpoPort pid' → pid' = own) ∧
      (∀ entry ∈ r.tracked .ggpo c.ggpoPort, entry.pid = own) ∧
        (r.Alive c.ggpoPort own →
          ∃ entry ∈ r.tracked .ggpo c.ggpoPort, entry.secret = c.roomToken)) :
      (∀ pid', (r.exit pid).Alive c.ggpoPort pid' → pid' = own) ∧
      (∀ entry ∈ (r.exit pid).tracked .ggpo c.ggpoPort, entry.pid = own) ∧
        ((r.exit pid).Alive c.ggpoPort own →
          ∃ entry ∈ (r.exit pid).tracked .ggpo c.ggpoPort, entry.secret = c.roomToken) := by
    obtain ⟨halive, hentries, hrec⟩ := ho
    refine ⟨fun pid' h' => halive pid' (Relays.alive_exit_iff.1 h').1,
      fun entry hentry => hentries entry (htracked hentry), fun h' => ?_⟩
    obtain ⟨hold, hne⟩ := Relays.alive_exit_iff.1 h'
    obtain ⟨entry, hentry, hsecret⟩ := hrec hold
    exact ⟨entry, Relays.tracked_exit_eq_some_iff.2 ⟨hentry, by rwa [hentries entry hentry]⟩,
      hsecret⟩
  unfold At at h ⊢
  split at h
  · exact ⟨hnone h.1, fun pid' h' => h.2 pid' (Relays.alive_exit_iff.1 h').1⟩
  · exact hnone h
  · exact hown h
  · exact hown h
  · exact hown h
  · exact h

/-- The relay of the start has just been spawned on a port where nobody is. -/
lemma at_spawn (hempty : ∀ pid, ¬ r.Alive c.ggpoPort pid) :
    c.At (r.launchGgpo c.ggpoPort c.wanted).1 (.settling r.procs.length) := by
  refine ⟨fun pid hpid => ?_, fun entry hentry => ?_, fun _ => ?_⟩
  · rcases Relays.alive_spawn_iff.1 hpid with hold | ⟨hnew, -⟩
    · exact absurd hold (hempty pid)
    · exact hnew
  · rw [Relays.launchGgpo, Relays.tracked_spawn, if_pos ⟨rfl, rfl⟩] at hentry
    obtain rfl := Option.some.inj hentry
    rfl
  · exact ⟨_, by rw [Relays.launchGgpo, Relays.tracked_spawn, if_pos ⟨rfl, rfl⟩]; rfl, rfl⟩

/-- Nothing is done to a relay while the start goes on to its next await. -/
lemma At.leadsTo {stage' : Stage} (hat : c.At r stage) (hstage : stage.LeadsTo stage')
    (hexited : ∀ reason pid, stage = .stopping reason pid .exit → r.hasExited pid = true) :
    c.At r stage' := by
  cases hstage with
  | @exited reason pid left =>
    cases reason with
    | replace =>
      refine ⟨hat.1, fun pid' halive => ?_⟩
      obtain ⟨rfl, -⟩ := hat.2 pid' halive
      exact absurd halive (Relays.not_alive_of_hasExited (hexited _ _ rfl))
    | cleanup => exact hat
    | delete => exact hat.elim
  | @pause reason pid left | @release reason pid left =>
    cases reason with
    | replace => exact ⟨hat.1, fun pid' halive => by simpa using (hat.2 pid' halive).2⟩
    | cleanup => exact hat
    | delete => exact hat.elim
  | settled => exact hat
  | @missed pid left reused | @again pid left reused =>
    cases reused with
    | false => exact hat
    | true => exact hat.elim

/-- What the handler of the start does when it is resumed, if it does not answer. -/
lemma At.resumed {h : Handler} {answer : Bool} {o : Outcome} (hat : c.At r h.stage)
    (hkind : h.kind = .ggpo) (hport : h.port = c.ggpoPort) (hwanted : h.wanted = c.wanted)
    (ho : Relays.Resumed r h answer o) {h' : Handler} (hh' : o.2 = .inl h') :
    h'.kind = .ggpo ∧ h'.port = c.ggpoPort ∧ h'.wanted = c.wanted ∧ c.At o.1 h'.stage := by
  obtain ⟨kind, port, wanted, stage⟩ := h
  obtain rfl : kind = .ggpo := hkind
  obtain rfl : port = c.ggpoPort := hport
  obtain rfl : wanted = c.wanted := hwanted
  cases ho with
  | wait hstage hexited =>
    obtain rfl := Sum.inl.inj hh'
    exact ⟨rfl, rfl, rfl, hat.leadsTo hstage hexited⟩
  | launch hstage =>
    obtain rfl := Sum.inl.inj hh'
    obtain rfl : stage = _ := hstage
    refine ⟨rfl, rfl, rfl, at_spawn fun pid halive => ?_⟩
    simpa using (hat.2 pid halive).2
  | giveUpGgpo hstage =>
    obtain rfl := Sum.inl.inj hh'
    refine ⟨rfl, rfl, rfl, ?_⟩
    show (r.stop .ggpo c.ggpoPort).tracked .ggpo c.ggpoPort = none
    rw [Relays.tracked_stop, if_pos ⟨rfl, rfl⟩]
  | succeed | giveUpSession | gone | stopped | health => cases hh'

end StartCall

/-! ## The handlers at other ports -/

/-- The handler does not start or stop a GGPO relay of the port. -/
def Handler.Off (port : ℕ) (h : Handler) : Prop :=
  h.kind = .ggpo → h.port = port → h.stage = .health

namespace Relays

variable {r : Relays} {o : Outcome} {port : ℕ}

lemma Accepted.away {req : Request} (hreq : ¬ req.Governs port) (ho : Accepted r req o) :
    r.Away o.1 port ∧ ∀ h, o.2 = .inl h → h.Off port := by
  cases ho with
  | session =>
    refine ⟨(away_stop (by simp)).trans (away_spawn (by simp)), ?_⟩
    rintro _ ⟨⟩ hkind
    exact absurd hkind (by simp)
  | launch hport =>
    refine ⟨away_spawn ?_, ?_⟩
    · rintro ⟨-, rfl⟩
      exact hreq hport
    · rintro _ ⟨⟩ - rfl
      exact absurd hport hreq
  | reuse hport =>
    refine ⟨away_refl r port, ?_⟩
    rintro _ ⟨⟩ - rfl
    exact absurd hport hreq
  | replace hport =>
    refine ⟨away_stop ?_, ?_⟩
    · rintro ⟨-, rfl⟩
      exact hreq hport
    · rintro _ ⟨⟩ - rfl
      exact absurd hport hreq
  | deleteSession => exact ⟨away_stop (by simp), fun _ hh => by cases hh⟩
  | deleteGgpo =>
    refine ⟨away_stop fun h => hreq h.2, ?_⟩
    rintro _ ⟨⟩ - hport
    exact absurd hport hreq
  | health =>
    refine ⟨away_refl r port, ?_⟩
    rintro _ ⟨⟩ - -
    rfl
  | answer => exact ⟨away_refl r port, fun _ hh => by cases hh⟩

lemma Resumed.away {h : Handler} {answer : Bool} (hfits : h.Fits r) (hoff : h.Off port)
    (ho : Resumed r h answer o) : r.Away o.1 port ∧ ∀ h', o.2 = .inl h' → h'.Off port := by
  obtain ⟨kind, q, wanted, stage⟩ := h
  cases ho with
  | wait hstage =>
    refine ⟨away_refl r port, ?_⟩
    rintro _ ⟨⟩ hkind hport
    obtain rfl : stage = .health := hoff hkind hport
    cases hstage
  | launch hstage =>
    obtain rfl : stage = _ := hstage
    obtain rfl : kind = .ggpo := hfits
    have hq : q ≠ port := fun hq => by cases hoff rfl hq
    refine ⟨away_spawn fun h => hq h.2, ?_⟩
    rintro _ ⟨⟩ - hport
    exact absurd hport hq
  | giveUpSession => exact ⟨away_stop (by simp), fun _ hh => by cases hh⟩
  | giveUpGgpo hstage hkind =>
    obtain rfl : stage = _ := hstage
    have hq : q ≠ port := fun hq => by cases hoff hkind hq
    refine ⟨away_stop fun h => hq h.2, ?_⟩
    rintro _ ⟨⟩ - hport
    exact absurd hport hq
  | succeed | gone | stopped | health => exact ⟨away_refl r port, fun _ hh => by cases hh⟩

end Relays

/-! ## The whole start -/

namespace StartCall

variable {c : StartCall} {m m' : Manager}

/-- **Step lemma.** Until it is answered, the start goes on undisturbed. -/
lemma Serving.step {a : ManagerAction} {out : Option (ℕ × Reply)} (h : c.Serving m)
    (hsound : m.Sound) (hnext : m.next a = some (out, m'))
    (hquiet : ∀ id req, a = .request id req → ¬ req.Governs c.ggpoPort)
    (hpending : ∀ o ∈ out, o.1 ≠ c.id) : c.Serving m' := by
  obtain ⟨hd, hhd, hkind, hport, hwanted, hat⟩ := h.handler
  -- a step of another handler, or of a request that comes in
  have hother {id : ℕ} {o : Outcome} (hid : id ≠ c.id)
      (haway : m.relays.Away o.1 c.ggpoPort ∧ ∀ h', o.2 = .inl h' → h'.Off c.ggpoPort) :
      c.Serving (m.settle id o).2 := by
    refine ⟨fun id' h' hne hh' => ?_, hd, ?_, hkind, hport, hwanted, ?_⟩
    · by_cases hid' : id' = id
      · obtain ⟨relays, h'' | reply⟩ := o
        · obtain rfl : h'' = h' := by simpa [Manager.settle, hid'] using hh'
          exact haway.2 h'' rfl
        · simp [Manager.settle, hid'] at hh'
      · rw [Manager.settle_handlers hid'] at hh'
        exact h.others id' h' hne hh'
    · rw [Manager.settle_handlers (Ne.symm hid)]
      exact hhd
    · rw [Manager.settle_relays]
      exact hat.of_away haway.1
  cases a with
  | request id req =>
    obtain ⟨hnone, heq⟩ := Manager.next_request hnext
    have hid : id ≠ c.id := by
      rintro rfl
      rw [hhd] at hnone
      exact absurd hnone (by simp)
    obtain rfl : m' = (m.settle id (m.relays.accept req)).2 := by rw [← heq]
    exact hother hid ((m.relays.accepted req).away (hquiet id req rfl))
  | resume id answer =>
    obtain ⟨hd', hhd', -, heq⟩ := Manager.next_resume hnext
    have ho := m.relays.resumed hd' answer
    obtain rfl : m' = (m.settle id (m.relays.resume hd' answer)).2 := by rw [← heq]
    by_cases hid : id = c.id
    · subst hid
      obtain rfl : hd' = hd := Option.some.inj (hhd'.symm.trans hhd)
      generalize m.relays.resume hd' answer = o at ho heq ⊢
      obtain ⟨relays, h' | reply⟩ := o
      · obtain ⟨hkind', hport', hwanted', hat'⟩ := hat.resumed hkind hport hwanted ho rfl
        refine ⟨fun id' h'' hne hh'' => ?_, h', by simp [Manager.settle], hkind', hport', hwanted',
          hat'⟩
        rw [Manager.settle_handlers hne] at hh''
        exact h.others id' h'' hne hh''
      · obtain ⟨rfl, -⟩ := Prod.mk.inj heq
        exact absurd rfl (hpending _ rfl)
    · exact hother hid (ho.away (hsound.handlers id hd' hhd') (h.others id hd' hid hhd'))
  | exit pid =>
    obtain ⟨-, rfl⟩ := Manager.next_exit hnext
    exact ⟨h.others, hd, hhd, hkind, hport, hwanted, hat.exit pid⟩
  | listen pid on =>
    obtain ⟨-, relays, hlisten, rfl⟩ := Manager.next_listen hnext
    refine ⟨h.others, hd, hhd, hkind, hport, hwanted, hat.of_away ⟨?_, fun _ =>
      Relays.alive_listen_iff hlisten⟩⟩
    obtain ⟨rfl, -⟩ := Relays.listen_eq_some hlisten
    rfl

lemma validPort_ggpoPort (c : StartCall) : validPort (some (c.ggpoPort : ℤ)) = some c.ggpoPort := by
  have hrange := c.port_range
  simp only [validPort]
  rw [if_pos (by omega), Int.toNat_natCast]

/-- The start sets off, and does not answer at once. -/
lemma serving_of_request {out : Option (ℕ × Reply)}
    (hnext : m.next (.request c.id c.request) = some (out, m'))
    (hfresh : ∀ entry ∈ m.relays.tracked .ggpo c.ggpoPort,
      m.relays.reusable entry (some c.sessionPort) c.roomToken = false)
    (hothers : ∀ id h, m.handlers id = some h → h.Off c.ggpoPort)
    (htracked : ∀ pid, m.relays.Alive c.ggpoPort pid → m.relays.Records .ggpo c.ggpoPort pid) :
    c.Serving m' ∧ out = none := by
  obtain ⟨-, heq⟩ := Manager.next_request hnext
  have hserving {relays : Relays} {h : Handler} (hkind : h.kind = .ggpo)
      (hport : h.port = c.ggpoPort) (hwanted : h.wanted = c.wanted) (hat : c.At relays h.stage)
      (ho : m.relays.accept c.request = (relays, .inl h)) : c.Serving m' ∧ out = none := by
    rw [ho] at heq
    obtain ⟨rfl, rfl⟩ := Prod.mk.inj heq
    refine ⟨⟨fun id h' hid hh' => ?_, h, by simp, hkind, hport, hwanted, hat⟩, rfl⟩
    simp only [Function.update_of_ne hid] at hh'
    exact hothers id h' hh'
  cases hentry : m.relays.tracked .ggpo c.ggpoPort with
  | none =>
    have ho : m.relays.accept c.request = m.relays.launchGgpo c.ggpoPort c.wanted := by
      simp only [request, Request.ofCall, Relays.accept, validPort_ggpoPort, if_pos c.token_hex,
        hentry]
      rfl
    refine hserving ?_ ?_ ?_ ?_ ho
    · rfl
    · rfl
    · rfl
    · refine at_spawn fun pid halive => ?_
      obtain ⟨entry, hmem, -⟩ := htracked pid halive
      rw [hentry] at hmem
      exact absurd hmem (by simp)
  | some entry =>
    have ho : m.relays.accept c.request = (m.relays.stop .ggpo c.ggpoPort,
        .inl ⟨.ggpo, c.ggpoPort, c.wanted, .stopping .replace entry.pid .exit⟩) := by
      simp only [request, Request.ofCall, Relays.accept, validPort_ggpoPort, if_pos c.token_hex,
        hentry, hfresh entry hentry, Bool.false_eq_true, if_false]
      rfl
    refine hserving ?_ ?_ ?_ ?_ ho
    · rfl
    · rfl
    · rfl
    · refine ⟨by rw [Relays.tracked_stop, if_pos ⟨rfl, rfl⟩], fun pid halive => ?_⟩
      obtain ⟨entry', hmem, rfl⟩ := htracked pid (Relays.alive_stop_iff.1 halive)
      rw [Option.mem_unique hmem hentry]
      exact ⟨rfl, rfl⟩

/-- **Step lemma.** The start is answered with `201` exactly when its relay is up. -/
lemma Serving.answered {a : ManagerAction} {reply : Reply} (h : c.Serving m) (hsound : m.Sound)
    (hnext : m.next a = some (some (c.id, reply), m')) :
    reply.isCreated = true ↔ m'.relays.Healthy c.ggpoPort c.roomToken := by
  obtain ⟨hd, hhd, hkind, hport, hwanted, hat⟩ := h.handler
  obtain ⟨answer, rfl⟩ : ∃ answer, a = .resume c.id answer := by
    cases a with
    | request id req =>
      obtain ⟨hnone, heq⟩ := Manager.next_request hnext
      obtain rfl : c.id = id := (Manager.settle_reply (by rw [← heq])).1
      rw [hhd] at hnone
      exact absurd hnone (by simp)
    | resume id answer =>
      obtain ⟨hd', -, -, heq⟩ := Manager.next_resume hnext
      obtain rfl : c.id = id := (Manager.settle_reply (by rw [← heq])).1
      exact ⟨answer, rfl⟩
    | exit pid => exact absurd (Manager.next_exit hnext).1 (by simp)
    | listen pid on => exact absurd (Manager.next_listen hnext).1 (by simp)
  obtain ⟨hd', hhd', hprobe, heq⟩ := Manager.next_resume hnext
  obtain rfl : hd' = hd := Option.some.inj (hhd'.symm.trans hhd)
  have ho := m.relays.resumed hd' answer
  obtain rfl : m' = (m.settle c.id (m.relays.resume hd' answer)).2 := by rw [← heq]
  have hreply : (m.relays.resume hd' answer).2 = .inr reply :=
    (Manager.settle_reply (by rw [← heq])).2
  rw [Manager.settle_relays]
  generalize m.relays.resume hd' answer = o at ho hreply ⊢
  -- without an entry there is no relay
  have hdown {r : Relays} (hnone : r.tracked .ggpo c.ggpoPort = none) :
      ¬ r.Healthy c.ggpoPort c.roomToken := by
    rintro ⟨entry, hentry, -⟩
    rw [hnone] at hentry
    exact absurd hentry (by simp)
  obtain ⟨kind, port, wanted, stage⟩ := hd'
  obtain rfl : kind = .ggpo := hkind
  obtain rfl : port = c.ggpoPort := hport
  obtain rfl : wanted = c.wanted := hwanted
  cases ho with
  | @succeed pid left reused hstage hanswer =>
    obtain rfl : stage = _ := hstage
    obtain rfl := Sum.inr.inj hreply
    cases reused with
    | true => exact hat.elim
    | false =>
      refine ⟨fun _ => ?_, fun _ => rfl⟩
      have hanswers : m.relays.answers .ggpo c.ggpoPort = true := (hprobe rfl).2 rfl hanswer
      obtain ⟨p, hmem, hp⟩ := List.any_eq_true.1 hanswers
      obtain ⟨hpkind, hpport, hlisten⟩ : p.kind = .ggpo ∧ p.port = c.ggpoPort ∧
        p.listening = true := by simpa using hp
      obtain ⟨pid', hpid'⟩ := List.mem_iff_getElem?.1 hmem
      obtain ⟨honly, hentries, hrec⟩ := hat
      have hexited : p.exited = false := p.exited_eq_false hlisten
      obtain rfl : pid' = pid := honly pid' ⟨p, hpid', hpkind, hpport, hexited⟩
      obtain ⟨entry, hentry, hsecret⟩ := hrec ⟨p, hpid', hpkind, hpport, hexited⟩
      have hpid : entry.pid = pid' := hentries entry hentry
      obtain ⟨p', hp', -, -, hsecret', -⟩ := hsound.relays _ _ _ hentry
      rw [hpid, hpid'] at hp'
      obtain rfl := Option.some.inj hp'
      exact ⟨entry, hentry, hsecret, p, by rw [hpid]; exact hpid', hsecret'.trans hsecret, hexited,
        hlisten⟩
  | gone hstage hkind hnone =>
    obtain rfl := Sum.inr.inj hreply
    exact iff_of_false (by simp [Reply.isCreated]) (hdown hnone)
  | @stopped reason pid wait reply' hstage hno =>
    obtain rfl : stage = _ := hstage
    obtain rfl := Sum.inr.inj hreply
    have hcreated : ¬ reply'.isCreated = true := by
      cases reply' <;> simp_all [Reply.isStarted, Reply.isCreated]
    refine iff_of_false hcreated (hdown ?_)
    cases reason with
    | replace => exact hat.1
    | cleanup => exact hat
    | delete => exact hat.elim
  | giveUpSession hstage hkind => cases hkind
  | health hstage =>
    obtain rfl : stage = _ := hstage
    exact hat.elim
  | wait | launch | giveUpGgpo => cases hreply

end StartCall

/-- **The broker and the manager agree** on every start that finds nothing to reuse and is served
alone. -/
theorem agrees_of_alone (s : ServedStart) (h : s.Alone) : s.Agrees := by
  obtain ⟨start, hinit, hpath⟩ := s.run
  obtain ⟨hbefore, hlast, -⟩ := LTS.path_cons_iff.1 hpath
  obtain ⟨holder, hfirst, hmid⟩ := hbefore.at_entry
  have hsound : s.first.pre.Sound := Manager.sound_of_run ⟨start, hinit, holder⟩
  have hrequest : s.first.pre.next (.request s.call.id s.call.request) =
      some (s.first.out, s.first.post) := s.arrives ▸ hfirst
  obtain ⟨hserving, -⟩ := StartCall.serving_of_request hrequest h.fresh h.unattended h.tracked
  have hok : ∀ e ∈ s.mid, (fun e : ManagerEntry =>
      (∀ id req, e.act = .request id req → ¬ req.Governs s.call.ggpoPort) ∧
        ∀ o ∈ e.out, o.1 ≠ s.call.id) e :=
    fun e he => ⟨h.undisturbed e he, s.pending e he⟩
  -- the start is under way until the last step
  obtain ⟨hsound', hserving'⟩ : s.last.pre.Sound ∧ s.call.Serving s.last.pre := by
    refine hmid.invariant (fun _ m => m.Sound ∧ s.call.Serving m)
      ⟨hsound.step hfirst, hserving⟩ ?_ hok
    rintro _ e ⟨hs, hserv⟩ hstep ⟨hquiet, hpending⟩
    exact ⟨hs.step hstep, hserv.step hs hstep hquiet hpending⟩
  have hanswer : s.last.pre.next s.last.act =
      some (some (s.call.id, s.reply), s.last.post) := s.answered ▸ hlast
  rw [ServedStart.Agrees, startGgpoRelaySession_http]
  exact hserving'.answered hsound' hanswer

/-- The call of a start on the first port of the default range. -/
def StartCall.ofDigit (id : ℕ) (d : Fin 10) : StartCall where
  id := id
  sessionPort := 23456
  ggpoPort := 24456
  roomToken := digitToken d
  port_range := by decide
  token_hex := by revert d; decide

/-- A log of four steps. -/
lemma exists_of_length_four {log : List ManagerEntry} (h : log.length = 4) :
    ∃ e₄ e₃ e₂ e₁, log = [e₄, e₃, e₂, e₁] := by
  obtain ⟨e₄, rest, rfl⟩ := List.exists_cons_of_length_eq_add_one h
  obtain ⟨e₃, e₂, e₁, rfl⟩ := List.length_eq_three.1 (Nat.succ.inj h)
  exact ⟨e₄, e₃, e₂, e₁, rfl⟩

/-- The first start of a relay succeeds on both sides. -/
theorem agrees_first_start : ∃ s : ServedStart, s.reply.isCreated = true ∧ s.Agrees := by
  obtain ⟨log, m, ⟨start, rfl, hpath⟩, hacts, houts⟩ := exists_managerRun_of_exec
    (ManagerAction.startGgpo 1 0 (digitToken 1))
    (p := fun log _ => log.map (·.act) = (ManagerAction.startGgpo 1 0 (digitToken 1)).reverse ∧
      log.map (·.out) = [some (1, .ggpoStarted 24456 (some 23456) false), none, none, none])
    (by decide +kernel)
  obtain ⟨last, e₃, e₂, first, rfl⟩ : ∃ e₄ e₃ e₂ e₁, log = [e₄, e₃, e₂, e₁] :=
    exists_of_length_four (by simpa using congrArg List.length houts)
  simp only [ManagerAction.startGgpo, List.map_cons, List.map_nil, List.reverse_cons,
    List.reverse_nil, List.nil_append, List.cons_append, List.cons.injEq, and_true] at hacts houts
  obtain ⟨-, hact₃, hact₂, hact⟩ := hacts
  obtain ⟨hout, hout₃, hout₂, -⟩ := houts
  obtain ⟨-, -, rfl⟩ := LTS.path_cons_iff.1 hpath
  have hcut : managerLTS.Path .new ([last, e₃, e₂] ++ first :: []) last.post := hpath
  obtain ⟨hnil, -, -⟩ := hcut.at_entry
  have hpre : first.pre = .new := LTS.path_nil_iff.1 hnil
  let s : ServedStart :=
    { call := .ofDigit 1 1, first, last, mid := [e₃, e₂], older := [],
      reply := .ggpoStarted 24456 (some 23456) false, run := ⟨_, rfl, hpath⟩, arrives := hact,
      answered := hout, pending := by simp [hout₂, hout₃] }
  have halone : s.Alone := by
    refine ⟨?_, ?_, ?_, ?_⟩
    · simp [s, hpre, Manager.new]
    · simp [s, hpre, Manager.new]
    · simp [s, hact₂, hact₃]
    · simp [s, hpre, Manager.new, Relays.Alive]
  exact ⟨s, rfl, agrees_of_alone s halone⟩

/-- **A repeated start.** The relay is up when the start comes in a second time, and the manager
says so with a `200`.  The broker reports a failure. -/
theorem not_agrees_repeated_start : ¬ ∀ s : ServedStart, s.Agrees := by
  intro h
  obtain ⟨log, m, ⟨start, hinit, hpath⟩, hacts, houts, hhealthy⟩ := exists_managerRun_of_exec
    (ManagerAction.startGgpo 1 0 (digitToken 1) ++
      [.request 2 (StartCall.ofDigit 2 1).request, .resume 2 true])
    (p := fun log m => (log.map (·.act)).take 2 =
        [.resume 2 true, .request 2 (StartCall.ofDigit 2 1).request] ∧
      (log.map (·.out)).head? = some (some (2, .ggpoStarted 24456 (some 23456) true)) ∧
        m.relays.Healthy 24456 (digitToken 1))
    (by decide +kernel)
  match log, hacts with
  | [], hacts | [_], hacts => simp at hacts
  | last :: first :: older, hacts =>
    simp only [List.map_cons, List.take_succ_cons, List.take_zero, List.head?_cons,
      Option.some.injEq, List.cons.injEq, and_true] at hacts houts
    obtain ⟨-, -, rfl⟩ := LTS.path_cons_iff.1 hpath
    let s : ServedStart :=
      { call := .ofDigit 2 1, first, last, mid := [], older,
        reply := .ggpoStarted 24456 (some 23456) true, run := ⟨start, hinit, hpath⟩,
        arrives := hacts.2, answered := houts, pending := by simp }
    have hagrees : s.Agrees := h s
    rw [ServedStart.Agrees, startGgpoRelaySession_http] at hagrees
    exact absurd (hagrees.2 hhealthy) (by simp [s, Reply.isCreated])

end RelayManager
end Sf4e
