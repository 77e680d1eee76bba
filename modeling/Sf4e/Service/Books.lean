/-
# Whose request is it?

Every request of the broker is made for one life, and it asks for the relays of that life: with
the ports, the hash and the token that the life was begun with.  A port belongs to one life at a
time, a life that is being created waits for one request, and the rooms of the broker are those
of the lives that are open (`Books`).

The manager has its handlers and entries from those requests (`Ties`).  Both hold in every run.
-/
import Sf4e.Service.Steps

namespace Sf4e
namespace Service

open Wire Trace Broker RelayManager

variable {s : VpsSettings}

/-! ## Handlers -/

/-- A handler comes to the GGPO relay of a room with a GGPO port only, and stays with it. -/
lemma ggpoPort_of_next {room : RoomRecord} {purpose : Purpose} {reply : HttpReply}
    {stage stage' : VisitStage} (h : stage.next room purpose reply = some stage')
    (hkind : kindOf (stage'.awaited room) = .ggpo) :
    room.ggpoPort ≠ 0 ∨ kindOf (stage.awaited room) = .ggpo := by
  have hlast (h : lastLook room = some stage') : room.ggpoPort ≠ 0 := by
    intro hport
    rw [lastLook, if_pos hport] at h
    cases h
  have hensure {relay : Health} {restarted : Bool} {next : EnsureStage}
      (h : ensureGgpoRelaySession room relay restarted = .await next) : room.ggpoPort ≠ 0 := by
    intro hport
    rw [ensureGgpoRelaySession, if_pos hport] at h
    cases h
  cases stage with
  | ensuring stage =>
    simp only [VisitStage.next] at h
    split at h
    · rename_i next hnext
      obtain rfl := Option.some.inj h
      cases stage with
      | health =>
        simp only [ensureRelaySession] at hnext
        split_ifs at hnext
        · exact .inl (hensure hnext)
        · cases hnext
        · obtain rfl := EnsureStep.await.inj hnext
          cases hkind
      | start =>
        simp only [ensureRelaySession] at hnext
        split at hnext
        · obtain rfl := EnsureStep.await.inj hnext
          cases hkind
        · cases hnext
        · cases hnext
      | after =>
        simp only [ensureRelaySession] at hnext
        split_ifs at hnext
        · exact .inl (hensure hnext)
        · cases hnext
      | ggpoHealth | ggpoStart | ggpoAfter | ggpoRetry | ggpoAfterRetry => exact .inr rfl
    · split_ifs at h
      exact .inl (hlast h)
    · cases h
  | lookSession => exact .inl (hlast h)
  | lookGgpo => cases h

/-! ## Lives -/

namespace Life

variable (life : Life s)

/-- The port of a relay of the life. -/
def port : Kind → ℕ
  | .session => life.ports.sessionPort
  | .ggpo => life.ports.ggpoPort

/-- What its relays are started with. -/
def wanted : Kind → Wanted
  | .session => ⟨life.sidecarHash, none⟩
  | .ggpo => ⟨life.roomToken, some life.ports.sessionPort⟩

/-- The requests that can be made for it. -/
def request : Verb → Kind → ManagerCall
  | .start, .session => .startSession life.ports.sessionPort life.sidecarHash
  | .start, .ggpo => .startGgpo life.ports.sessionPort life.ports.ggpoPort life.roomToken
  | .stop, .session => .stopSession life.ports.sessionPort
  | .stop, .ggpo => .stopGgpo life.ports.ggpoPort
  | .look, .session => .sessionHealth life.ports.sessionPort
  | .look, .ggpo => .ggpoHealth life.ports.ggpoPort

/-- The room is one of the life. -/
structure Fits (room : RoomRecord) : Prop where
  port : room.port = life.ports.sessionPort
  ggpoPort : room.ggpoPort = 0 ∨ room.ggpoPort = life.ports.ggpoPort
  sidecarHash : room.sidecarHash = life.sidecarHash
  roomToken : room.roomToken.1 = life.roomToken

/-- The creation is the one of the life. -/
structure Began (c : Creation s.capacity) : Prop where
  ports : c.ports = life.ports
  sidecarHash : c.args.sidecarHash = life.sidecarHash
  roomToken : c.roomToken.1 = life.roomToken
  auto : c.stage = .startingGgpo → s.auto = true

/-- The life may have made the request. -/
def Allows (call : Call s) : Prop :=
  match call.task with
  | .creation c =>
    life.Began c ∧ (call.status ≠ .received → ∃ id, life.phase = .creating id)
  | .visit v => life.Fits v.room ∧ (life.phase = .opened v.room ∨ life.phase = .ended) ∧
      (call.kind = .ggpo → v.room.ggpoPort ≠ 0)
  | .stop request => life.phase = .ended ∧ ∃ kind, request = life.request .stop kind

variable {life}

@[simp] lemma verbOf_request (verb : Verb) (kind : Kind) :
    verbOf (life.request verb kind) = verb := by
  cases verb <;> cases kind <;> rfl

@[simp] lemma kindOf_request (verb : Verb) (kind : Kind) :
    kindOf (life.request verb kind) = kind := by
  cases verb <;> cases kind <;> rfl

@[simp] lemma portOf_request (verb : Verb) (kind : Kind) :
    portOf (life.request verb kind) = life.port kind := by
  cases verb <;> cases kind <;> rfl

lemma port_range (life : Life s) (kind : Kind) : 1 ≤ life.port kind ∧ life.port kind ≤ 65535 := by
  cases kind with
  | session =>
    have hmem := life.ports.session_mem
    have hle := s.capacity.relayPort_le
    have hpos := CapacityConfig.pos_of_mem_sessionPorts hmem
    obtain ⟨i, hi, heq⟩ := CapacityConfig.mem_sessionPorts_iff.1 hmem
    simp only [port, MAX_PORT] at *
    omega
  | ggpo =>
    have hmem := life.ports.ggpo_mem
    have hle := CapacityConfig.le_of_mem_ggpoPorts hmem
    have hpos := s.capacity.ggpoUdpPortBase_pos
    obtain ⟨i, hi, heq⟩ := CapacityConfig.mem_ggpoPorts_iff.1 hmem
    simp only [port, MAX_PORT] at *
    omega

lemma validPort_port (life : Life s) (kind : Kind) :
    validPort (some (life.port kind : ℤ)) = some (life.port kind) := by
  have h := life.port_range kind
  rw [validPort, if_pos (by omega), Int.toNat_natCast]

lemma starts?_request (life : Life s) (kind : Kind) :
    (Request.ofCall (life.request .start kind)).starts? =
      some (kind, life.port kind, life.wanted kind) := by
  have h := life.validPort_port kind
  cases kind with
  | session =>
    simp only [request, Request.ofCall, Request.starts?, port, wanted] at h ⊢
    rw [h]
    rfl
  | ggpo =>
    simp only [request, Request.ofCall, Request.starts?, port, wanted] at h ⊢
    rw [h]
    rfl

lemma ofCall_stop (life : Life s) (kind : Kind) :
    Request.ofCall (life.request .stop kind) = .delete kind (life.port kind) := by
  cases kind <;> rfl

lemma ofCall_look (life : Life s) (kind : Kind) :
    Request.ofCall (life.request .look kind) = .health kind (life.port kind) := by
  cases kind <;> rfl

/-- Two lives that share one port share both. -/
lemma sessionPort_eq {life' : Life s} {kind : Kind} (h : life.port kind = life'.port kind) :
    life.ports.sessionPort = life'.ports.sessionPort := by
  cases kind with
  | session => exact h
  | ggpo =>
    refine ggpoPortForSessionPort_inj life.ports.session_mem life'.ports.session_mem ?_
    rw [← life.ports.ggpo_eq, ← life'.ports.ggpo_eq]
    exact h

lemma port_eq {life' : Life s} (h : life.ports.sessionPort = life'.ports.sessionPort)
    (kind : Kind) : life.port kind = life'.port kind := by
  cases kind with
  | session => exact h
  | ggpo =>
    show life.ports.ggpoPort = life'.ports.ggpoPort
    rw [life.ports.ggpo_eq, life'.ports.ggpo_eq, h]

/-- A handler at work on a room asks for the relays of its life. -/
lemma Fits.awaited_eq {room : RoomRecord} (h : life.Fits room) (stage : VisitStage)
    (hkind : kindOf (stage.awaited room) = .ggpo → room.ggpoPort ≠ 0) :
    stage.awaited room =
      life.request (verbOf (stage.awaited room)) (kindOf (stage.awaited room)) := by
  have hggpo (hk : kindOf (stage.awaited room) = .ggpo) : room.ggpoPort = life.ports.ggpoPort :=
    h.ggpoPort.resolve_left (hkind hk)
  cases stage with
  | ensuring stage =>
    cases stage with
    | health | after =>
      simp [VisitStage.awaited, EnsureStage.awaited, verbOf, kindOf, Life.request, h.port]
    | start =>
      simp [VisitStage.awaited, EnsureStage.awaited, verbOf, kindOf, Life.request, h.port,
        h.sidecarHash]
    | ggpoHealth | ggpoAfter | ggpoAfterRetry =>
      simp [VisitStage.awaited, EnsureStage.awaited, verbOf, kindOf, Life.request, hggpo rfl]
    | ggpoStart | ggpoRetry =>
      simp [VisitStage.awaited, EnsureStage.awaited, verbOf, kindOf, Life.request, h.port,
        hggpo rfl, h.roomToken]
  | lookSession => simp [VisitStage.awaited, verbOf, kindOf, Life.request, h.port]
  | lookGgpo => simp [VisitStage.awaited, verbOf, kindOf, Life.request, hggpo rfl]

/-- Whatever a life asks for is asked for its own relays. -/
lemma Allows.request_eq {call : Call s} (h : life.Allows call) :
    call.request = life.request call.verb call.kind := by
  obtain ⟨owner, task, status⟩ := call
  cases task with
  | creation c =>
    obtain ⟨⟨hports, hhash, htoken, -⟩, -⟩ := h
    cases hstage : c.stage <;>
      simp [Call.request, Call.verb, Call.kind, Task.request, Creation.awaited, hstage, verbOf,
        kindOf, Life.request, hports, hhash, htoken]
  | visit v => exact h.1.awaited_eq v.stage h.2.2
  | stop request =>
    obtain ⟨-, kind, rfl⟩ := h
    simp [Call.request, Call.verb, Call.kind, Task.request]

/-- A call goes on as the life goes on. -/
lemma Allows.becomes {call call' : Call s} (h : life.Allows call) (hb : call.Becomes call') :
    life.Allows call' := by
  have hkind := hb.kind
  have hreceived := hb.received
  obtain ⟨owner, task, status⟩ := call
  obtain ⟨owner', task', status'⟩ := call'
  have htask : task' = task ∨ ∃ b, task' = task.mark b := hb.task
  cases task with
  | creation c =>
    obtain rfl : task' = .creation c := by
      rcases htask with rfl | ⟨b, rfl⟩ <;> rfl
    exact ⟨h.1, fun hstatus => h.2 fun hno => hstatus (hreceived.2 hno)⟩
  | visit v =>
    obtain ⟨b, rfl⟩ : ∃ b, task' = .visit { v with overtaken := b } := by
      rcases htask with rfl | ⟨b, rfl⟩
      · exact ⟨v.overtaken, rfl⟩
      · exact ⟨b, rfl⟩
    exact ⟨h.1, h.2.1, fun hk => h.2.2 (hkind ▸ hk)⟩
  | stop request =>
    obtain rfl : task' = .stop request := by
      rcases htask with rfl | ⟨b, rfl⟩ <;> rfl
    exact h

lemma Allows.receive {call : Call s} (h : life.Allows call) :
    life.Allows { call with status := .received } := by
  obtain ⟨owner, task, status⟩ := call
  cases task with
  | creation c => exact ⟨h.1, fun hno => absurd rfl hno⟩
  | visit v => exact h
  | stop request => exact h

/-- A life that is being created has made no requests but those of its creation. -/
lemma Allows.exists_creation {call : Call s} (h : life.Allows call) {id : ℕ}
    (hphase : life.phase = .creating id) : ∃ c, call.task = .creation c := by
  obtain ⟨owner, task, status⟩ := call
  cases task with
  | creation c => exact ⟨c, rfl⟩
  | visit v =>
    obtain ⟨-, hopened | hover, -⟩ := h
    · rw [hphase] at hopened
      cases hopened
    · rw [hphase] at hover
      cases hover
  | stop request =>
    have hover : life.phase = .ended := h.1
    rw [hphase] at hover
    cases hover

lemma Allows.setPhase {call : Call s} (h : life.Allows call) {phase : LifePhase}
    (hcreation : ∀ c, call.task = .creation c → call.status ≠ .received →
      ∃ id, phase = .creating id)
    (hvisit : ∀ v, call.task = .visit v → phase = .opened v.room ∨ phase = .ended)
    (hstop : ∀ request, call.task = .stop request → phase = .ended) :
    Allows { life with phase := phase } call := by
  obtain ⟨owner, task, status⟩ := call
  cases task with
  | creation c => exact ⟨⟨h.1.1, h.1.2, h.1.3, h.1.4⟩, hcreation c rfl⟩
  | visit v => exact ⟨⟨h.1.1, h.1.2, h.1.3, h.1.4⟩, hvisit v rfl, h.2.2⟩
  | stop request =>
    obtain ⟨-, kind, rfl⟩ := h
    exact ⟨hstop _ rfl, kind, by cases kind <;> rfl⟩

/-- A life that is over may stop its relays. -/
lemma allows_stops {owner port ggpoPort : ℕ} (hphase : life.phase = .ended)
    (hport : port = life.ports.sessionPort)
    (hggpo : ggpoPort = 0 ∨ ggpoPort = life.ports.ggpoPort) :
    ∀ task ∈ (stopRelaySession port ggpoPort).map Task.stop,
      life.Allows (Call.mk owner task .sent) := by
  intro task htask
  obtain ⟨request, hrequest, rfl⟩ := List.mem_map.1 htask
  refine ⟨hphase, ?_⟩
  rcases List.mem_cons.1 hrequest with rfl | hrequest
  · exact ⟨.session, by rw [hport]; rfl⟩
  · split_ifs at hrequest with hzero
    · cases hrequest
    · obtain rfl := List.mem_singleton.1 hrequest
      exact ⟨.ggpo, by rw [hggpo.resolve_left hzero]; rfl⟩

end Life

/-! ## The books of the broker -/

/-- The creation of the life waits for the answer to the request; before it there was only the
start of the session relay. -/
def World.Pending (w : World s) (owner id : ℕ) : Prop :=
  ∃ c status, w.calls[id]? = some (Call.mk owner (.creation c) status) ∧ status ≠ .received ∧
    ∀ (id' : ℕ) (call : Call s), w.calls[id']? = some call → call.owner = owner → id' ≠ id →
      call.status = .received ∧ call.kind = .session ∧ c.stage = .startingGgpo

/-- **Invariant.** Rooms, reservations and requests are those of the lives. -/
structure Books (w : World s) : Prop where
  /-- Of the lives that share a port, only the last one may still go on. -/
  latest : ∀ (i j : ℕ) (a b : Life s), w.lives[i]? = some a → w.lives[j]? = some b → i < j →
    a.ports.sessionPort = b.ports.sessionPort → a.phase = .ended
  reserved : ∀ (i : ℕ) (life : Life s) (id : ℕ), w.lives[i]? = some life →
    life.phase = .creating id → life.ports.sessionPort ∈ w.registry.reservedPorts
  pending : ∀ (i : ℕ) (life : Life s) (id : ℕ), w.lives[i]? = some life →
    life.phase = .creating id → w.Pending i id
  opened : ∀ (i : ℕ) (life : Life s) (room : RoomRecord), w.lives[i]? = some life →
    life.phase = .opened room → room ∈ w.registry.rooms ∧ life.Fits room
  codes : ∀ (i j : ℕ) (a b : Life s) (room room' : RoomRecord), w.lives[i]? = some a →
    w.lives[j]? = some b → a.phase = .opened room → b.phase = .opened room' →
    room.code = room'.code → i = j
  rooms : ∀ room ∈ w.registry.rooms, ∃ (i : ℕ) (life : Life s), w.lives[i]? = some life ∧
    life.phase = .opened room
  calls : ∀ (id : ℕ) (call : Call s), w.calls[id]? = some call → ∃ life : Life s,
    w.lives[call.owner]? = some life ∧ life.Allows call

/-! ## The handlers and the entries of the manager -/

/-- **Invariant.** The manager works for the requests that have arrived, and its entries are those
of processes that were spawned for starts. -/
structure Ties (w : World s) : Prop where
  sound : w.manager.Sound
  handlers : ∀ (id : ℕ) (h : Handler), w.manager.handlers id = some h → ∃ call : Call s,
    w.calls[id]? = some call ∧ call.status = .arrived ∧ h.Serves (.ofCall call.request)
  length : w.spawnedFor.length = w.manager.relays.procs.length
  entries : ∀ (kind : Kind) (port : ℕ) (entry : Tracked),
    w.manager.relays.tracked kind port = some entry → ∃ (id : ℕ) (call : Call s),
      w.spawnedFor[entry.pid]? = some id ∧ w.calls[id]? = some call ∧ call.status ≠ .sent ∧
        (Request.ofCall call.request).starts? = some (kind, port, ⟨entry.secret, entry.sessionPort⟩)

namespace Ties

variable {w w' : World s}

/-- The manager does nothing. -/
lemma keep (h : Ties w) (hmanager : w'.manager = w.manager)
    (hspawned : w'.spawnedFor = w.spawnedFor)
    (hcalls : ∀ (id : ℕ) (call : Call s), w.calls[id]? = some call → ∃ call' : Call s,
      w'.calls[id]? = some call' ∧ call'.request = call.request ∧
        (call.status = .arrived → call'.status = .arrived) ∧
          (call.status ≠ .sent → call'.status ≠ .sent)) : Ties w' := by
  refine ⟨hmanager ▸ h.sound, ?_, by rw [hmanager, hspawned, h.length], ?_⟩
  · rw [hmanager]
    intro id hd hhd
    obtain ⟨call, hcall, hstatus, hserves⟩ := h.handlers id hd hhd
    obtain ⟨call', hcall', hrequest, harrived, -⟩ := hcalls id call hcall
    exact ⟨call', hcall', harrived hstatus, hrequest ▸ hserves⟩
  · rw [hmanager, hspawned]
    intro kind port entry hentry
    obtain ⟨id, call, hid, hcall, hstatus, hstarts⟩ := h.entries kind port entry hentry
    obtain ⟨call', hcall', hrequest, -, hsent⟩ := hcalls id call hcall
    exact ⟨id, call', hid, hcall', hsent hstatus, hrequest ▸ hstarts⟩

lemma send (h : Ties w) (owner : ℕ) (tasks : List (Task s)) : Ties (w.send owner tasks) :=
  h.keep rfl rfl fun _ call hcall => ⟨call, World.getElem?_send_of hcall, rfl, id, id⟩

lemma setStatus (h : Ties w) {id : ℕ} {call : Call s} {status : Status}
    (hcall : w.calls[id]? = some call) (harrived : call.status ≠ .arrived)
    (hsent : status ≠ .sent) : Ties (w.setStatus id status) := by
  refine h.keep rfl rfl fun id' call' hcall' => ?_
  by_cases heq : id = id'
  · subst heq
    obtain rfl : call' = call := Option.some.inj (hcall'.symm.trans hcall)
    refine ⟨{ call' with status := status }, ?_, rfl, fun hno => absurd hno harrived,
      fun _ => hsent⟩
    rw [World.getElem?_setStatus, hcall, Option.map_some, if_pos rfl]
  · refine ⟨call', ?_, rfl, fun h => h, fun h => h⟩
    rw [World.getElem?_setStatus, hcall', Option.map_some, if_neg heq]

/-- The manager's handler of a request comes to something. -/
lemma serve (h : Ties w) {id : ℕ} {call : Call s} {o : Outcome} (hcall : w.calls[id]? = some call)
    (hstatus : call.status = .arrived) (hsound : o.1.Sound) (hgrows : w.manager.relays.Grows o.1)
    (hfits : ∀ h', o.2 = .inl h' → h'.Fits o.1)
    (hserves : ∀ h', o.2 = .inl h' → h'.Serves (.ofCall call.request))
    (hchanges : w.manager.relays.Changes o.1 (.ofCall call.request)) : Ties (w.serve id o) := by
  have hadvances := World.advances_serve hcall (by simp [hstatus]) o
  refine ⟨?_, ?_, ?_, ?_⟩
  · rw [World.serve, World.observe_manager]
    exact h.sound.settle hsound hgrows hfits
  · intro id' hd hhd
    rw [World.serve, World.observe_manager] at hhd
    by_cases hid : id' = id
    · subst hid
      obtain ⟨r, hd' | reply⟩ := o
      · obtain rfl : hd' = hd := by simpa [Manager.settle] using hhd
        exact ⟨call, by rw [World.serve_inl, hcall], hstatus, hserves hd' rfl⟩
      · simp [Manager.settle] at hhd
    · rw [Manager.settle_handlers hid] at hhd
      obtain ⟨call', hcall', hstatus', hserves'⟩ := h.handlers id' hd hhd
      obtain ⟨call'', hcall'', -, hrequest, hkeep, -⟩ := hadvances.forth id' call' hcall'
      exact ⟨call'', hcall'', (hkeep hid).trans hstatus', hrequest ▸ hserves'⟩
  · rw [World.serve_spawnedFor, World.serve_relays]
    cases hchanges with
    | kept hlen => rw [if_neg (by omega), h.length, hlen]
    | spawned hlen => rw [if_pos (by omega), List.length_append, h.length, hlen]; rfl
  · rw [World.serve_spawnedFor, World.serve_relays]
    intro kind port entry hentry
    have hold (hentry : w.manager.relays.tracked kind port = some entry) (spawnedFor : List ℕ)
        (hspawned : ∀ (pid id : ℕ), w.spawnedFor[pid]? = some id → spawnedFor[pid]? = some id) :
        ∃ (id' : ℕ) (call' : Call s), spawnedFor[entry.pid]? = some id' ∧
          (w.serve id o).calls[id']? = some call' ∧ call'.status ≠ .sent ∧
            (Request.ofCall call'.request).starts? =
              some (kind, port, ⟨entry.secret, entry.sessionPort⟩) := by
      obtain ⟨id', call', hid', hcall', hsent, hstarts⟩ := h.entries kind port entry hentry
      obtain ⟨call'', hcall'', -, hrequest, -, hsent'⟩ := hadvances.forth id' call' hcall'
      exact ⟨id', call'', hspawned _ _ hid', hcall'', hsent' hsent, hrequest ▸ hstarts⟩
    cases hchanges with
    | kept hlen hentries =>
      rw [if_neg (by omega)]
      exact hold (hentries _ _ _ hentry) _ fun _ _ hid => hid
    | spawned hlen hentries =>
      rw [if_pos (by omega)]
      rcases hentries _ _ _ hentry with hentry | ⟨hpid, hstarts⟩
      · refine hold hentry _ fun pid id' hid' => ?_
        rw [List.getElem?_append_left (List.getElem?_eq_some_iff.1 hid').1, hid']
      · obtain ⟨call', hcall', -, hrequest, -, hsent⟩ := hadvances.forth id call hcall
        refine ⟨id, call', ?_, hcall', hsent (by simp [hstatus]), hrequest ▸ hstarts⟩
        rw [hpid, ← h.length, List.getElem?_concat_length]

/-- The manager does something by itself, and spawns nothing. -/
lemma withRelays (h : Ties w) {relays : Relays} (hsound : relays.Sound)
    (hgrows : w.manager.relays.Grows relays)
    (hlen : relays.procs.length = w.manager.relays.procs.length)
    (hentries : ∀ kind port entry, relays.tracked kind port = some entry →
      w.manager.relays.tracked kind port = some entry) : Ties (w.withRelays relays) :=
  ⟨⟨hsound, fun id hd hhd => (h.sound.handlers id hd hhd).mono hgrows⟩, h.handlers,
    h.length.trans hlen.symm, fun kind port entry hentry =>
      h.entries kind port entry (hentries kind port entry hentry)⟩

/-- A step of the manager. -/
lemma handled (h : Ties w) {a : WorldAction} (hh : w.Handled a w') : Ties w' := by
  cases hh with
  | @arrive id call hcall hsent hfree =>
    have ho := w.manager.relays.accepted (.ofCall call.request)
    have hcall' : (w.setStatus id .arrived).calls[id]? = some { call with status := .arrived } := by
      rw [World.getElem?_setStatus, hcall, Option.map_some, if_pos rfl]
    exact (h.setStatus hcall (by simp [hsent]) (by simp)).serve hcall' rfl
      (ho.sound h.sound.relays) ho.grows (ho.fits h.sound.relays) ho.serves ho.changes
  | @resume id answer hd hhd hprobe =>
    have ho := w.manager.relays.resumed hd answer
    obtain ⟨call, hcall, hstatus, hserves⟩ := h.handlers id hd hhd
    have hfits := h.sound.handlers id hd hhd
    exact h.serve hcall hstatus (ho.sound h.sound.relays) ho.grows (ho.fits hfits)
      (ho.serves hserves hfits) (ho.changes hserves hfits)
  | @exit pid =>
    refine h.withRelays (Relays.sound_exit h.sound.relays pid) (Relays.grows_exit _ _)
      (by simp [Relays.exit]) fun kind port entry hentry => ?_
    exact (Relays.tracked_exit_eq_some_iff.1 hentry).1
  | listen hlisten =>
    refine h.withRelays (Relays.sound_listen h.sound.relays hlisten) (Relays.grows_listen hlisten)
      ?_ ?_
    · obtain ⟨rfl, -⟩ := Relays.listen_eq_some hlisten
      simp
    · obtain ⟨rfl, -⟩ := Relays.listen_eq_some hlisten
      exact fun _ _ _ hentry => hentry

/-- A step of the manager changes nothing for the broker but the status of requests. -/
lemma relabels (h : Ties w) {a : WorldAction} (hh : w.Handled a w') : w.Relabels w' := by
  cases hh with
  | @arrive id call hcall hsent hfree =>
    have hcall' : (w.setStatus id .arrived).calls[id]? = some { call with status := .arrived } := by
      rw [World.getElem?_setStatus, hcall, Option.map_some, if_pos rfl]
    exact (World.relabels_setStatus hcall hsent (by simp)).trans
      (World.relabels_serve hcall' (by simp) _)
  | @resume id answer hd hhd hprobe =>
    obtain ⟨call, hcall, hstatus, -⟩ := h.handlers id hd hhd
    exact World.relabels_serve hcall (by simp [hstatus]) _
  | exit | listen => exact World.relabels_withRelays _

/-- **Step lemma.** The ties are kept. -/
lemma step (h : Ties w) {a : WorldAction} (hm : w.Moves a w') : Ties w' := by
  have hbroker {w₁ w₂ : World s} (h₁ : Ties w₁) (hm : w₂.manager = w₁.manager)
      (hs : w₂.spawnedFor = w₁.spawnedFor) (hc : w₂.calls = w₁.calls) : Ties w₂ :=
    h₁.keep hm hs fun id call hcall => ⟨call, hc ▸ hcall, rfl, fun h => h, fun h => h⟩
  cases hm with
  | refused => exact h
  | begun =>
    refine Ties.send ?_ _ _
    exact hbroker h rfl rfl rfl
  | visit => exact h.send _ _
  | endRoom =>
    refine Ties.send ?_ _ _
    exact hbroker h rfl rfl rfl
  | handled hh => exact h.handled hh
  | @delivered id draws call reply w' hcall hstatus hd =>
    have hreceived : Ties (w.setStatus id .received) :=
      h.setStatus hcall (by simp [hstatus]) (by simp)
    cases hd with
    | done => exact hreceived
    | goOn => exact hreceived.send _ _
    | await =>
      refine Ties.send ?_ _ _
      exact hbroker hreceived rfl rfl rfl
    | commit | failed => exact hbroker hreceived rfl rfl rfl
    | thrown => exact hbroker (hreceived.send _ _) rfl rfl rfl

end Ties

namespace Books

variable {w w' : World s}

/-- The life of a room that is found. -/
lemma life_of_find (h : Books w) {code : Text} {room : RoomRecord}
    (hfind : w.registry.find? code = some room) :
    ∃ life : Life s, w.lives[w.ownerOf code]? = some life ∧ life.phase = .opened room := by
  have hmem : room ∈ w.registry.rooms := List.mem_of_find?_eq_some hfind
  have hcode : room.code = code := by simpa using List.find?_some hfind
  obtain ⟨i, life, hlife, hphase⟩ := h.rooms room hmem
  have hlt : w.ownerOf code < w.lives.length := by
    refine List.findIdx_lt_length_of_exists ⟨life, List.mem_of_getElem? hlife, ?_⟩
    simp [hphase, hcode]
  have hget : w.lives[w.ownerOf code]? = some w.lives[w.ownerOf code] :=
    List.getElem?_eq_getElem hlt
  have hfound := List.findIdx_getElem (w := hlt)
  split at hfound
  · rename_i room' hphase'
    have heq : w.ownerOf code = i := by
      refine h.codes _ _ _ _ room' room hget hlife hphase' hphase ?_
      rw [hcode]
      simpa using hfound
    rw [heq]
    exact ⟨life, hlife, hphase⟩
  · cases hfound

lemma lt_of_call (h : Books w) {id : ℕ} {call : Call s} (hcall : w.calls[id]? = some call) :
    call.owner < w.lives.length := by
  obtain ⟨life, hlife, -⟩ := h.calls id call hcall
  exact (List.getElem?_eq_some_iff.1 hlife).1

/-- The requests go on. -/
lemma relabel (h : Books w) (hr : w.Relabels w') : Books w' := by
  obtain ⟨hlives, hreg⟩ := And.intro hr.lives hr.registry
  refine ⟨?_, ?_, ?_, ?_, ?_, ?_, ?_⟩
  · rw [hlives]
    exact h.latest
  · rw [hlives, hreg]
    exact h.reserved
  · rw [hlives]
    intro i life id hlife hphase
    obtain ⟨c, status, hcall, hstatus, hall⟩ := h.pending i life id hlife hphase
    obtain ⟨⟨owner, task, status'⟩, hcall', hb⟩ := hr.forth hcall
    obtain rfl : owner = i := hb.owner
    obtain rfl : task = .creation c := hb.creation_iff.2 rfl
    refine ⟨c, status', hcall', fun hno => hstatus (hb.received.1 hno), ?_⟩
    intro id' call' hcall' howner hne
    obtain ⟨call, hcall, hb'⟩ := hr.back hcall'
    obtain ⟨hreceived, hkind, hstage⟩ := hall id' call hcall (hb'.owner ▸ howner) hne
    exact ⟨hb'.received.2 hreceived, hb'.kind.trans hkind, hstage⟩
  · rw [hlives, hreg]
    exact h.opened
  · rw [hlives]
    exact h.codes
  · rw [hlives, hreg]
    exact h.rooms
  · rw [hlives]
    intro id call' hcall'
    obtain ⟨call, hcall, hb⟩ := hr.back hcall'
    obtain ⟨life, hlife, hallows⟩ := h.calls id call hcall
    exact ⟨life, hb.owner ▸ hlife, hallows.becomes hb⟩

/-- One life goes on, with its requests, its reservation and its room; the others are left
alone. -/
lemma turn (h : Books w) {owner : ℕ} {life life' : Life s} (hlife : w.lives[owner]? = some life)
    (hlife' : w'.lives[owner]? = some life')
    (hlives : ∀ i, i ≠ owner → w'.lives[i]? = w.lives[i]?) (hports : life'.ports = life.ports)
    (hover : life.phase = .ended → life'.phase = .ended)
    (hothers : ∀ (id : ℕ) (call : Call s), call.owner ≠ owner →
      (w'.calls[id]? = some call ↔ w.calls[id]? = some call))
    (hcalls : ∀ (id : ℕ) (call : Call s), w'.calls[id]? = some call → call.owner = owner →
      life'.Allows call)
    (hreserved : ∀ port ∈ w.registry.reservedPorts, port ≠ life.ports.sessionPort ∨
      (∀ id, life.phase ≠ .creating id) → port ∈ w'.registry.reservedPorts)
    (hkept : ∀ room ∈ w.registry.rooms, room ∈ w'.registry.rooms ∨
      ∃ r, life.phase = .opened r ∧ r.code = room.code)
    (hrooms : ∀ room ∈ w'.registry.rooms, life'.phase = .opened room ∨
      room ∈ w.registry.rooms ∧ life.phase ≠ .opened room)
    (hcreating : ∀ id, life'.phase = .creating id →
      life.ports.sessionPort ∈ w'.registry.reservedPorts ∧ w'.Pending owner id)
    (hopened : ∀ room, life'.phase = .opened room → room ∈ w'.registry.rooms ∧
      life'.Fits room ∧ (life.phase = .opened room ∨ ∀ r ∈ w.registry.rooms, r.code ≠ room.code)) :
    Books w' := by
  -- every other life is as it was
  have hcases {i : ℕ} {a : Life s} (ha : w'.lives[i]? = some a) :
      i = owner ∧ a = life' ∨ i ≠ owner ∧ w.lives[i]? = some a := by
    by_cases hi : i = owner
    · subst hi
      exact .inl ⟨rfl, Option.some.inj (ha.symm.trans hlife')⟩
    · exact .inr ⟨hi, hlives i hi ▸ ha⟩
  refine ⟨?_, ?_, ?_, ?_, ?_, ?_, ?_⟩
  · intro i j a b ha hb hlt hport
    rcases hcases ha with ⟨rfl, rfl⟩ | ⟨hi, ha⟩ <;> rcases hcases hb with ⟨rfl, rfl⟩ | ⟨hj, hb⟩
    · exact absurd hlt (lt_irrefl _)
    · rw [hports] at hport
      exact hover (h.latest _ _ _ _ hlife hb hlt hport)
    · rw [hports] at hport
      exact h.latest _ _ _ _ ha hlife hlt hport
    · exact h.latest _ _ _ _ ha hb hlt hport
  · intro i a id ha hphase
    rcases hcases ha with ⟨rfl, rfl⟩ | ⟨hi, ha⟩
    · rw [hports]
      exact (hcreating id hphase).1
    · refine hreserved _ (h.reserved i a id ha hphase) ?_
      by_contra hno
      obtain ⟨hport, hsome⟩ := not_or.1 hno
      obtain ⟨id', hid'⟩ := not_forall_not.1 hsome
      -- two lives that wait cannot have one port
      rcases lt_or_gt_of_ne hi with hlt | hlt
      · rw [h.latest _ _ _ _ ha hlife hlt (not_not.1 hport)] at hphase
        cases hphase
      · rw [h.latest _ _ _ _ hlife ha hlt (not_not.1 hport).symm] at hid'
        cases hid'
  · intro i a id ha hphase
    rcases hcases ha with ⟨rfl, rfl⟩ | ⟨hi, ha⟩
    · exact (hcreating id hphase).2
    · obtain ⟨c, status, hcall, hstatus, hall⟩ := h.pending i a id ha hphase
      refine ⟨c, status, (hothers _ _ hi).2 hcall, hstatus, ?_⟩
      rintro id' call hcall' rfl hne
      exact hall id' call ((hothers _ _ hi).1 hcall') rfl hne
  · intro i a room ha hphase
    rcases hcases ha with ⟨rfl, rfl⟩ | ⟨hi, ha⟩
    · exact ⟨(hopened room hphase).1, (hopened room hphase).2.1⟩
    · obtain ⟨hmem, hfits⟩ := h.opened i a room ha hphase
      refine ⟨(hkept room hmem).resolve_right ?_, hfits⟩
      rintro ⟨r, hr, hcode⟩
      exact hi (h.codes _ _ _ _ _ _ ha hlife hphase hr hcode.symm)
  · have hfresh {j : ℕ} {b : Life s} {room room' : RoomRecord} (hj : j ≠ owner)
        (hb : w.lives[j]? = some b) (hphase : life'.phase = .opened room)
        (hphase' : b.phase = .opened room') : room.code ≠ room'.code := by
      intro hcode
      rcases (hopened room hphase).2.2 with hold | hnew
      · exact hj (h.codes _ _ _ _ _ _ hlife hb hold hphase' hcode).symm
      · exact hnew room' (h.opened j b room' hb hphase').1 hcode.symm
    intro i j a b room room' ha hb hphase hphase' hcode
    rcases hcases ha with ⟨rfl, rfl⟩ | ⟨hi, ha⟩ <;> rcases hcases hb with ⟨rfl, rfl⟩ | ⟨hj, hb⟩
    · rfl
    · exact absurd hcode (hfresh hj hb hphase hphase')
    · exact absurd hcode.symm (hfresh hi ha hphase' hphase)
    · exact h.codes _ _ _ _ _ _ ha hb hphase hphase' hcode
  · intro room hroom
    rcases hrooms room hroom with hphase | ⟨hmem, hne⟩
    · exact ⟨owner, life', hlife', hphase⟩
    · obtain ⟨i, a, ha, hphase⟩ := h.rooms room hmem
      -- the room of another life is still there
      have hi : i ≠ owner := by
        rintro rfl
        rw [hlife] at ha
        obtain rfl := Option.some.inj ha
        exact hne hphase
      exact ⟨i, a, (hlives i hi).trans ha, hphase⟩
  · intro id call hcall
    by_cases howner : call.owner = owner
    · exact ⟨life', howner ▸ hlife', hcalls id call hcall howner⟩
    · obtain ⟨a, ha, hallows⟩ := h.calls id call ((hothers id call howner).1 hcall)
      exact ⟨a, (hlives _ howner).trans ha, hallows⟩

/-- A life that is not being created sends requests. -/
lemma send (h : Books w) {owner : ℕ} {life : Life s} {tasks : List (Task s)}
    (hlife : w.lives[owner]? = some life) (hphase : ∀ id, life.phase ≠ .creating id)
    (htasks : ∀ task ∈ tasks, life.Allows (Call.mk owner task .sent)) :
    Books (w.send owner tasks) := by
  refine h.turn hlife hlife (fun _ _ => rfl) rfl id ?_ ?_ (fun _ hp _ => hp)
    (fun _ hroom => .inl hroom) ?_ (fun id hid => absurd hid (hphase id)) ?_
  · exact fun id call hne => World.getElem?_send_of_ne hne
  · intro id call hcall howner
    rcases World.getElem?_send.1 hcall with hold | ⟨-, task, htask, rfl⟩
    · subst howner
      obtain ⟨life', hlife', hallows⟩ := h.calls id call hold
      rw [hlife] at hlife'
      obtain rfl := Option.some.inj hlife'
      exact hallows
    · exact htasks task (List.mem_of_getElem? htask)
  · intro room hroom
    by_cases hopened : life.phase = .opened room
    · exact .inl hopened
    · exact .inr ⟨hroom, hopened⟩
  · intro room hroom
    obtain ⟨hmem, hfits⟩ := h.opened owner life room hlife hroom
    exact ⟨hmem, hfits, .inl hroom⟩

/-- The answer to a request is received that no creation waits for. -/
lemma receive (h : Books w) {id : ℕ} {call : Call s} (hcall : w.calls[id]? = some call)
    (htask : ∀ c, call.task ≠ .creation c) : Books (w.setStatus id .received) := by
  obtain ⟨life, hlife, hallows⟩ := h.calls id call hcall
  refine h.turn hlife hlife (fun _ _ => rfl) rfl (fun hover => hover) ?_ ?_ (fun _ hp _ => hp)
    (fun _ hroom => .inl hroom) ?_ ?_ ?_
  · exact fun id' call' hne => World.getElem?_setStatus_of_ne hcall hne
  · intro id' call' hcall' howner
    rw [World.getElem?_setStatus] at hcall'
    obtain ⟨old, hold, rfl⟩ := Option.map_eq_some_iff.1 hcall'
    have hallows' : life.Allows old := by
      obtain ⟨life', hlife', hallows'⟩ := h.calls id' old hold
      have howner' : old.owner = call.owner := by split_ifs at howner <;> exact howner
      rw [howner', hlife] at hlife'
      obtain rfl := Option.some.inj hlife'
      exact hallows'
    split_ifs
    · exact hallows'.receive
    · exact hallows'
  · intro room hroom
    by_cases hopened : life.phase = .opened room
    · exact .inl hopened
    · exact .inr ⟨hroom, hopened⟩
  · intro id' hphase
    obtain ⟨c, hc⟩ := hallows.exists_creation hphase
    exact absurd hc (htask c)
  · intro room hroom
    obtain ⟨hmem, hfits⟩ := h.opened _ life room hlife hroom
    exact ⟨hmem, hfits, .inl hroom⟩

/-- A room is there no longer. -/
lemma close (h : Books w) {owner : ℕ} {life : Life s} {room : RoomRecord}
    (hlife : w.lives[owner]? = some life) (hphase : life.phase = .opened room) :
    Books ({ w with registry := w.registry.delete room.code }.setPhase owner .ended) := by
  have hlife' : (w.setPhase owner .ended).lives[owner]? = some { life with phase := .ended } :=
    World.lives_setPhase_self hlife
  refine h.turn hlife hlife' ?_ rfl (fun _ => rfl) (fun _ _ _ => Iff.rfl) ?_
    (fun _ hp _ => hp) ?_ ?_ ?_ ?_
  · exact fun i hi => World.lives_setPhase_of_ne hi
  · rintro id call hcall rfl
    obtain ⟨life', hlife', hallows⟩ := h.calls id call hcall
    rw [hlife] at hlife'
    obtain rfl := Option.some.inj hlife'
    refine hallows.setPhase ?_ (fun _ _ => .inr rfl) (fun _ _ => rfl)
    rintro c hc hreceived
    obtain ⟨owner, task, status⟩ := call
    obtain rfl : task = .creation c := hc
    obtain ⟨id', hid'⟩ := hallows.2 hreceived
    rw [hphase] at hid'
    cases hid'
  · intro r hr
    by_cases hcode : room.code = r.code
    · exact .inr ⟨room, hphase, hcode⟩
    · refine .inl (List.mem_filter.2 ⟨hr, ?_⟩)
      simpa using Ne.symm hcode
  · intro r hr
    obtain ⟨hmem, hcode⟩ := List.mem_filter.1 hr
    refine .inr ⟨hmem, fun hr' => ?_⟩
    rw [hphase] at hr'
    obtain rfl := LifePhase.opened.inj hr'
    simp at hcode
  · intro id hid
    cases hid
  · intro r hr
    cases hr

/-- The request of a creation that has not been answered is the one that its life waits for. -/
lemma creating_of_call (h : Books w) {id : ℕ} {call : Call s} {c : Creation s.capacity}
    (hcall : w.calls[id]? = some call) (htask : call.task = .creation c)
    (hstatus : call.status ≠ .received) : ∃ life : Life s, w.lives[call.owner]? = some life ∧
      life.phase = .creating id ∧ life.Began c ∧
      ∀ (id' : ℕ) (call' : Call s), w.calls[id']? = some call' → call'.owner = call.owner →
        id' ≠ id → call'.status = .received ∧ call'.kind = .session ∧ c.stage = .startingGgpo := by
  obtain ⟨life, hlife, hallows⟩ := h.calls id call hcall
  obtain ⟨owner, task, status⟩ := call
  obtain rfl : task = .creation c := htask
  obtain ⟨hbegan, hcreating⟩ := hallows
  obtain ⟨id₀, hphase⟩ := hcreating hstatus
  obtain ⟨c', status', hcall', -, hall⟩ := h.pending owner life id₀ hlife hphase
  have hid : id = id₀ := by
    by_contra hne
    exact hstatus (hall id _ hcall rfl hne).1
  subst hid
  rw [hcall] at hcall'
  obtain ⟨-, htask, -⟩ := Call.mk.inj (Option.some.inj hcall')
  obtain rfl := Task.creation.inj htask
  exact ⟨life, hlife, hphase, hbegan, hall⟩

/-- The calls of a life that is being created allow it to go on once the last is received. -/
lemma allows_of_received (h : Books w) {id : ℕ} {call : Call s} {c : Creation s.capacity}
    {life : Life s} (hcall : w.calls[id]? = some call) (htask : call.task = .creation c)
    (hstatus : call.status ≠ .received) (hlife : w.lives[call.owner]? = some life)
    (phase : LifePhase) {id' : ℕ} {call' : Call s}
    (hcall' : (w.setStatus id .received).calls[id']? = some call')
    (howner : call'.owner = call.owner) :
    Life.Allows { life with phase := phase } call' ∧ call'.status = .received ∧
      (call'.kind = .session ∨ id' = id) := by
  obtain ⟨life₀, hlife₀, hphase, -, hall⟩ := h.creating_of_call hcall htask hstatus
  rw [hlife] at hlife₀
  obtain rfl := Option.some.inj hlife₀
  rw [World.getElem?_setStatus] at hcall'
  obtain ⟨old, hold, rfl⟩ := Option.map_eq_some_iff.1 hcall'
  have howner' : old.owner = call.owner := by split_ifs at howner <;> exact howner
  obtain ⟨life', hlife', hallows⟩ := h.calls id' old hold
  rw [howner', hlife] at hlife'
  obtain rfl := Option.some.inj hlife'
  obtain ⟨c', hc'⟩ := hallows.exists_creation hphase
  have hmove {call : Call s} (hallows : life.Allows call) (hc' : call.task = .creation c')
      (hreceived : call.status = .received) : Life.Allows { life with phase := phase } call := by
    refine hallows.setPhase (fun _ _ hno => absurd hreceived hno) ?_ ?_
    · intro v hv
      rw [hc'] at hv
      cases hv
    · intro request hrequest
      rw [hc'] at hrequest
      cases hrequest
  split_ifs with heq
  · exact ⟨hmove hallows.receive hc' rfl, rfl, .inr heq.symm⟩
  · obtain ⟨hreceived, hkind, -⟩ := hall id' old hold howner' (Ne.symm heq)
    exact ⟨hmove hallows hc' hreceived, hreceived, .inl hkind⟩

/-- A creation is over, with a room or without one. -/
lemma finish (h : Books w) {id : ℕ} {call : Call s} {c : Creation s.capacity} {reg : Registry}
    {phase : LifePhase} (hcall : w.calls[id]? = some call) (htask : call.task = .creation c)
    (hstatus : call.status ≠ .received) (hphase : ∀ id, phase ≠ .creating id)
    (hreserved : ∀ port ∈ w.registry.reservedPorts, port ≠ c.ports.sessionPort →
      port ∈ reg.reservedPorts)
    (hkept : ∀ room ∈ w.registry.rooms, room ∈ reg.rooms)
    (hrooms : ∀ room ∈ reg.rooms, phase = .opened room ∨ room ∈ w.registry.rooms)
    (hopened : ∀ room, phase = .opened room → room ∈ reg.rooms ∧
      (∀ life : Life s, life.Began c → life.Fits room) ∧
      ∀ r ∈ w.registry.rooms, r.code ≠ room.code) :
    Books (({ w with registry := reg }.setStatus id .received).setPhase call.owner phase) := by
  obtain ⟨life, hlife, hcreating, hbegan, -⟩ := h.creating_of_call hcall htask hstatus
  have hlife' : (w.setPhase call.owner phase).lives[call.owner]? =
      some { life with phase := phase } :=
    World.lives_setPhase_self hlife
  refine h.turn hlife hlife' ?_ rfl ?_ ?_ ?_ ?_ (fun room hroom => .inl (hkept room hroom)) ?_
    (fun id hid => absurd hid (hphase id)) ?_
  · exact fun i hi => World.lives_setPhase_of_ne (w := w) hi
  · intro hover
    rw [hcreating] at hover
    cases hover
  · exact fun id' call' hne => World.getElem?_setStatus_of_ne hcall hne
  · intro id' call' hcall' howner
    exact (h.allows_of_received hcall htask hstatus hlife phase hcall' howner).1
  · rintro port hport (hne | hno)
    · rw [← hbegan.ports] at hne
      exact hreserved port hport hne
    · exact absurd hcreating (hno id)
  · intro room hroom
    refine (hrooms room hroom).imp (fun hp => hp) fun hmem => ⟨hmem, fun hopen => ?_⟩
    rw [hcreating] at hopen
    cases hopen
  · intro room hroom
    obtain ⟨hmem, hfits, hfresh⟩ := hopened room hroom
    obtain ⟨h₁, h₂, h₃, h₄⟩ := hfits life hbegan
    exact ⟨hmem, ⟨h₁, h₂, h₃, h₄⟩, .inr hfresh⟩

/-- A creation goes on to the start of its GGPO relay. -/
lemma await (h : Books w) {id : ℕ} {call : Call s} {c : Creation s.capacity}
    (hcall : w.calls[id]? = some call) (htask : call.task = .creation c)
    (hstatus : call.status ≠ .received) (hstage : c.stage = .startingSession)
    (hauto : s.auto = true) :
    Books (((w.setStatus id .received).setPhase call.owner (.creating w.calls.length)).send
      call.owner [.creation { c with stage := .startingGgpo }]) := by
  obtain ⟨life, hlife, hcreating, hbegan, hall⟩ := h.creating_of_call hcall htask hstatus
  have hlife' : (w.setPhase call.owner (.creating w.calls.length)).lives[call.owner]? =
      some { life with phase := .creating w.calls.length } :=
    World.lives_setPhase_self hlife
  have hbegan' : Life.Began { life with phase := .creating w.calls.length }
      { c with stage := .startingGgpo } :=
    ⟨hbegan.ports, hbegan.sidecarHash, hbegan.roomToken, fun _ => hauto⟩
  have hlen : ((w.setStatus id .received).setPhase call.owner
      (.creating w.calls.length)).calls.length = w.calls.length := by
    simp [World.setStatus, World.setPhase]
  refine h.turn hlife hlife' ?_ rfl ?_ ?_ ?_ (fun _ hp _ => hp) (fun _ hroom => .inl hroom) ?_ ?_
    ?_
  · exact fun i hi => World.lives_setPhase_of_ne (w := w) hi
  · intro hover
    rw [hcreating] at hover
    cases hover
  · intro id' call' hne
    rw [World.getElem?_send_of_ne hne]
    exact World.getElem?_setStatus_of_ne hcall hne
  · intro id' call' hcall' howner
    rcases World.getElem?_send.1 hcall' with hold | ⟨-, task, hnew, rfl⟩
    · exact (h.allows_of_received hcall htask hstatus hlife _ hold howner).1
    · obtain rfl := List.mem_singleton.1 (List.mem_of_getElem? hnew)
      exact ⟨hbegan', fun _ => ⟨_, rfl⟩⟩
  · intro room hroom
    refine .inr ⟨hroom, fun hopen => ?_⟩
    rw [hcreating] at hopen
    cases hopen
  · intro id' hid'
    obtain rfl := LifePhase.creating.inj hid'
    refine ⟨h.reserved _ life id hlife hcreating, { c with stage := .startingGgpo }, .sent,
      World.getElem?_send.2 (.inr ⟨hlen.le, _, by rw [hlen]; simp, rfl⟩), by simp, ?_⟩
    intro id' call' hcall' howner hne
    rcases World.getElem?_send.1 hcall' with hold | ⟨hle, task, hnew, rfl⟩
    · obtain ⟨-, hreceived, hkind⟩ :=
        h.allows_of_received hcall htask hstatus hlife (.creating 0) hold howner
      -- the older calls are the start of the session relay, and what was received before
      refine ⟨hreceived, hkind.elim (fun hk => hk) fun heq => ?_, rfl⟩
      subst heq
      have hold' : (w.setStatus id' .received).calls[id']? = some call' := hold
      rw [World.getElem?_setStatus, hcall, Option.map_some, if_pos rfl] at hold'
      obtain rfl := Option.some.inj hold'
      simp [Call.kind, Call.request, htask, Task.request, Creation.awaited, hstage, kindOf]
    · obtain ⟨hlt, -⟩ := List.getElem?_eq_some_iff.1 hnew
      rw [List.length_singleton] at hlt
      omega
  · intro room hroom
    cases hroom

/-- A life begins. -/
lemma begin (h : Books w) {c : Creation s.capacity} (hstage : c.stage = .startingSession)
    (hroom : c.ports.sessionPort ∉ w.registry.roomPorts)
    (hreserved : c.ports.sessionPort ∉ w.registry.reservedPorts) :
    Books ((({ w with registry := { w.registry with
      reservedPorts := w.registry.reservedPorts ++ [c.ports.sessionPort] } } : World s).beginLife
        c).send w.lives.length [.creation c]) := by
  -- a life with the port would have it reserved, or a room on it
  have hfree {i : ℕ} {a : Life s} (ha : w.lives[i]? = some a)
      (hport : a.ports.sessionPort = c.ports.sessionPort) : a.phase = .ended := by
    cases hphase : a.phase with
    | creating id =>
      have hmem := h.reserved i a id ha hphase
      rw [hport] at hmem
      exact absurd hmem hreserved
    | opened room =>
      obtain ⟨hmem, hfits⟩ := h.opened i a room ha hphase
      refine absurd ?_ hroom
      rw [← hport, ← hfits.port]
      exact List.mem_map_of_mem hmem
    | ended => rfl
  have hold {i : ℕ} {a : Life s} (ha : w.lives[i]? = some a) :
      (w.lives ++ [Life.mk c.ports c.args.sidecarHash c.roomToken.1
        (.creating w.calls.length)])[i]? = some a := by
    rw [List.getElem?_append_left (List.getElem?_eq_some_iff.1 ha).1, ha]
  have hcases {i : ℕ} {a : Life s} (ha : (w.lives ++ [Life.mk c.ports c.args.sidecarHash
      c.roomToken.1 (.creating w.calls.length)])[i]? = some a) :
      w.lives[i]? = some a ∨ i = w.lives.length ∧
        a = Life.mk c.ports c.args.sidecarHash c.roomToken.1 (.creating w.calls.length) := by
    rw [List.getElem?_append] at ha
    split_ifs at ha with hlt
    · exact .inl ha
    · obtain ⟨hlt', heq⟩ := List.getElem?_eq_some_iff.1 ha
      rw [List.length_singleton] at hlt'
      have hi : i = w.lives.length := by omega
      subst hi
      simp at heq
      exact .inr ⟨rfl, heq.symm⟩
  refine ⟨?_, ?_, ?_, ?_, ?_, ?_, ?_⟩
  · intro i j a b ha hb hlt hport
    rcases hcases ha with ha | ⟨rfl, rfl⟩ <;> rcases hcases hb with hb | ⟨rfl, rfl⟩
    · exact h.latest i j a b ha hb hlt hport
    · exact hfree ha hport
    · have := (List.getElem?_eq_some_iff.1 hb).1
      omega
    · exact absurd hlt (lt_irrefl _)
  · intro i a id ha hphase
    rcases hcases ha with ha | ⟨rfl, rfl⟩
    · exact List.mem_append_left _ (h.reserved i a id ha hphase)
    · exact List.mem_append_right _ (List.mem_singleton.2 rfl)
  · intro i a id ha hphase
    rcases hcases ha with ha | ⟨rfl, rfl⟩
    · obtain ⟨c', status, hcall, hstatus, hall⟩ := h.pending i a id ha hphase
      refine ⟨c', status, World.getElem?_send_of hcall, hstatus, ?_⟩
      intro id' call hcall' howner hne
      have hlt := (List.getElem?_eq_some_iff.1 ha).1
      rcases World.getElem?_send.1 hcall' with hcall' | ⟨-, task, -, rfl⟩
      · exact hall id' call hcall' howner hne
      · have howner' : w.lives.length = i := howner
        omega
    · obtain rfl := LifePhase.creating.inj hphase
      refine ⟨c, .sent, World.getElem?_send.2 (.inr ⟨le_rfl, _, by simp [World.beginLife], rfl⟩),
        by simp, ?_⟩
      intro id' call hcall' howner hne
      -- the new life has made one call only
      rcases World.getElem?_send.1 hcall' with hcall' | ⟨hle, task, hnew, rfl⟩
      · have hlt := h.lt_of_call hcall'
        omega
      · obtain ⟨hlt, -⟩ := List.getElem?_eq_some_iff.1 hnew
        have hle' : w.calls.length ≤ id' := hle
        have hlt' : id' - w.calls.length < 1 := hlt
        omega
  · intro i a room ha hphase
    rcases hcases ha with ha | ⟨rfl, rfl⟩
    · exact h.opened i a room ha hphase
    · cases hphase
  · intro i j a b room room' ha hb hphase hphase' hcode
    rcases hcases ha with ha | ⟨rfl, rfl⟩
    · rcases hcases hb with hb | ⟨rfl, rfl⟩
      · exact h.codes i j a b room room' ha hb hphase hphase' hcode
      · cases hphase'
    · cases hphase
  · intro room hmem
    obtain ⟨i, a, ha, hphase⟩ := h.rooms room hmem
    exact ⟨i, a, hold ha, hphase⟩
  · intro id call hcall
    rcases World.getElem?_send.1 hcall with hcall | ⟨-, task, hnew, rfl⟩
    · obtain ⟨a, ha, hallows⟩ := h.calls id call hcall
      exact ⟨a, hold ha, hallows⟩
    · obtain rfl := List.mem_singleton.1 (List.mem_of_getElem? hnew)
      refine ⟨_, List.getElem?_concat_length, ⟨rfl, rfl, rfl, fun hno => ?_⟩, fun _ => ⟨_, rfl⟩⟩
      rw [hstage] at hno
      cases hno

/-- What the rooms of a registry and a creation come to when the creation commits its room. -/
lemma commit (h : Books w) {id : ℕ} {call : Call s} {c : Creation s.capacity} {draws : Draws}
    {ggpoRelayOk : Bool} (hcall : w.calls[id]? = some call) (htask : call.task = .creation c)
    (hstatus : call.status ≠ .received)
    (hcode : w.registry.find? (c.room s.toSettings draws ggpoRelayOk).code = none) :
    Books (({ w with
      registry := { w.registry with
        rooms := w.registry.rooms ++ [c.room s.toSettings draws ggpoRelayOk] }.release
          c.ports.sessionPort }.setStatus id .received).setPhase call.owner
      (.opened (c.room s.toSettings draws ggpoRelayOk))) := by
  refine h.finish hcall htask hstatus (fun _ => by simp) ?_ ?_ ?_ ?_
  · intro port hport hne
    exact List.mem_filter.2 ⟨hport, by simpa using hne⟩
  · intro room hroom
    exact List.mem_append_left _ hroom
  · intro room hroom
    rcases List.mem_append.1 hroom with hroom | hroom
    · exact .inr hroom
    · rw [List.mem_singleton.1 hroom]
      exact .inl rfl
  · intro room hphase
    obtain rfl := LifePhase.opened.inj hphase
    refine ⟨List.mem_append_right _ (List.mem_singleton.2 rfl), ?_, ?_⟩
    · rintro life ⟨hports, hhash, htoken, -⟩
      refine ⟨?_, ?_, hhash, htoken⟩
      · rw [← hports]
        rfl
      · rw [← hports]
        simp only [Creation.room]
        split
        · exact .inr rfl
        · exact .inl rfl
    · intro r hr
      have hne := List.find?_eq_none.1 hcode r hr
      simpa using hne

/-- **Step lemma.** An answer is delivered. -/
lemma deliver (h : Books w) {id : ℕ} {call : Call s} {reply : Reply}
    (hcall : w.calls[id]? = some call) (hstatus : call.status = .answered reply)
    (hd : w.Delivered id call reply w') : Books w' := by
  have hunreceived : call.status ≠ .received := by simp [hstatus]
  cases hd with
  | done htask => exact h.receive hcall htask
  | @goOn v stage htask hnext =>
    have hreceived := h.receive hcall fun c hc => by rw [htask] at hc; cases hc
    obtain ⟨life, hlife, hallows⟩ := h.calls id call hcall
    obtain ⟨owner, task, status⟩ := call
    obtain rfl : task = .visit v := htask
    obtain ⟨hfits, hphase, hkind⟩ := hallows
    refine hreceived.send hlife ?_ ?_
    · intro id' hid'
      rw [hid'] at hphase
      rcases hphase with hphase | hphase <;> cases hphase
    · intro task htask
      obtain rfl := List.mem_singleton.1 htask
      refine ⟨hfits, hphase, fun hk => ?_⟩
      rcases ggpoPort_of_next hnext hk with hport | hsame
      · exact hport
      · exact hkind hsame
  | await htask hstage hauto => exact h.await hcall htask hunreceived hstage hauto
  | commit htask hok hcode => exact h.commit hcall htask hunreceived hcode
  | failed htask =>
    refine h.finish hcall htask hunreceived (fun _ => by simp) ?_ (fun _ hroom => hroom)
      (fun _ hroom => .inr hroom) (by simp)
    intro port hport hne
    exact List.mem_filter.2 ⟨hport, by simpa using hne⟩
  | @thrown c htask =>
    have hfinish : Books (({ w with registry := w.registry.release c.ports.sessionPort }.setStatus
        id .received).setPhase call.owner .ended) := by
      refine h.finish hcall htask hunreceived (fun _ => by simp) ?_ (fun _ hroom => hroom)
        (fun _ hroom => .inr hroom) (by simp)
      intro port hport hne
      exact List.mem_filter.2 ⟨hport, by simpa using hne⟩
    obtain ⟨life, hlife, -, hbegan, -⟩ := h.creating_of_call hcall htask hunreceived
    have hlife' : (w.setPhase call.owner .ended).lives[call.owner]? =
        some { life with phase := .ended } := World.lives_setPhase_self hlife
    exact hfinish.send hlife' (fun _ => by simp) (Life.allows_stops rfl
      (congrArg PortPair.sessionPort hbegan.ports) (.inr (congrArg PortPair.ggpoPort hbegan.ports)))

/-- **Step lemma.** The books are kept. -/
lemma step (h : Books w) (ht : Ties w) {a : WorldAction} (hm : w.Moves a w') : Books w' := by
  cases hm with
  | refused => exact h
  | begun hstage hroom hreserved => exact h.begin hstage hroom hreserved
  | @visit code purpose room hfind =>
    obtain ⟨life, hlife, hphase⟩ := h.life_of_find hfind
    refine h.send hlife (fun id hid => ?_) ?_
    · rw [hphase] at hid
      cases hid
    · intro task htask
      obtain rfl := List.mem_singleton.1 htask
      refine ⟨(h.opened _ life _ hlife hphase).2, .inl hphase, fun hk => absurd hk ?_⟩
      cases purpose <;>
        simp [Call.kind, Call.request, Task.request, Purpose.first, VisitStage.awaited,
          EnsureStage.awaited, kindOf]
  | @endRoom code room hfind =>
    obtain ⟨life, hlife, hphase⟩ := h.life_of_find hfind
    have hcode : room.code = code := by simpa using List.find?_some hfind
    subst hcode
    have hlife' : (w.setPhase (w.ownerOf room.code) .ended).lives[w.ownerOf room.code]? =
        some { life with phase := .ended } := by
      exact World.lives_setPhase_self hlife
    obtain ⟨-, hfits⟩ := h.opened _ life _ hlife hphase
    exact (h.close hlife hphase).send hlife' (fun _ => by simp)
      (Life.allows_stops rfl hfits.port hfits.ggpoPort)
  | handled hh => exact h.relabel (ht.relabels hh)
  | delivered hcall hstatus hd => exact h.deliver hcall hstatus hd

end Books

/-- The books and the ties are kept in every run. -/
lemma books_of_run {log : List (WorldEntry s)} {w : World s} (h : (worldLTS s).Run log w) :
    Books w ∧ Ties w := by
  refine h.invariant_of_step (fun _ w => Books w ∧ Ties w) ?_ ?_
  · rintro _ rfl
    refine ⟨⟨?_, ?_, ?_, ?_, ?_, ?_, ?_⟩, ⟨Manager.sound_of_run ⟨_, rfl, .refl⟩, ?_, rfl, ?_⟩⟩
    all_goals simp [World.new, Manager.new]
  · rintro _ e ⟨hbooks, hties⟩ hs
    have hm := World.moves hs
    exact ⟨hbooks.step hties hm, hties.step hm⟩

end Service
end Sf4e
