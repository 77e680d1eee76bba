/-
# Do rooms that share a port keep out of each other's way?

A room frees its port at once when it ends, while its stops are still on their way, and a start
that was sent for it may come in or time out after that.  Both can hit the relays of the room
that gets the port next.

`isolates_of_inTurn` says that nothing else can go wrong: if no stop is overtaken by a start for a
later room, and no start comes in or times out for a room whose own stop has been there already,
then no request of an ended room touches a later one's relays, and no relay outlives its room.
-/
import Sf4e.Service.Books

namespace Sf4e
namespace Service

open Wire Trace Broker RelayManager

variable {s : VpsSettings}

/-! ## The property -/

/-- The request that the step is taken for. -/
def WorldAction.served? : WorldAction → Option ℕ
  | .arrive id => some id
  | .manage act => World.handled? act
  | _ => none

def LifePhase.isOver : LifePhase → Bool
  | .ended => true
  | _ => false

/-- The process is one of the room: it has its port, and its hash or its token. -/
def owns (room : RoomRecord) (p : Proc) : Prop :=
  match p.kind with
  | .session => p.port = room.port ∧ p.secret = room.sidecarHash
  | .ggpo => p.port = room.ggpoPort ∧ p.secret = room.roomToken.1

namespace World

/-- The room of the life has ended, or its creation has. -/
def Over (w : World s) (owner : ℕ) : Prop := ∃ life ∈ w.lives[owner]?, life.phase.isOver = true

/-- The process was spawned for a later life. -/
def SpawnedAfter (w : World s) (owner pid : ℕ) : Prop :=
  ∃ id ∈ w.spawnedFor[pid]?, ∃ call ∈ w.calls[id]?, owner < call.owner

/-- A stop of the life is on its way. -/
def StopSent (w : World s) (owner : ℕ) (kind : Kind) : Prop :=
  ∃ call ∈ w.calls, call.owner = owner ∧ call.verb = .stop ∧ call.kind = kind ∧
    call.status = .sent

/-- A later life has got the port of the life. -/
def Reallocated (w : World s) (owner : ℕ) : Prop :=
  ∃ life ∈ w.lives[owner]?, ∃ later ∈ w.lives.drop (owner + 1),
    later.ports.sessionPort = life.ports.sessionPort

instance (w : World s) (owner : ℕ) : Decidable (w.Over owner) :=
  inferInstanceAs (Decidable (∃ life ∈ w.lives[owner]?, life.phase.isOver = true))

instance (w : World s) (owner pid : ℕ) : Decidable (w.SpawnedAfter owner pid) :=
  inferInstanceAs (Decidable (∃ id ∈ w.spawnedFor[pid]?, ∃ call ∈ w.calls[id]?, _))

instance (w : World s) (owner : ℕ) (kind : Kind) : Decidable (w.StopSent owner kind) :=
  inferInstanceAs (Decidable (∃ call ∈ w.calls, _))

instance (w : World s) (owner : ℕ) : Decidable (w.Reallocated owner) :=
  inferInstanceAs (Decidable (∃ life ∈ w.lives[owner]?, ∃ later ∈ w.lives.drop (owner + 1), _))

end World

/-- What the two services owe at every step. -/
structure Isolates (e : WorldEntry s) : Prop where
  /-- A start or a stop for a room that has ended touches no relay of a later one. -/
  spares : ∀ id ∈ e.act.served?, ∀ call ∈ e.pre.calls[id]?, call.verb ≠ .look →
    e.pre.Over call.owner → ∀ pid, e.pre.SpawnedAfter call.owner pid →
      ¬ Tells e.pre.manager.relays e.post.manager.relays pid ∧
        ∀ kind port, e.pre.manager.relays.Records kind port pid →
          e.post.manager.relays.Records kind port pid
  /-- Once the broker has got the answer to every request, a relay that runs, and was not told to
  terminate, is one of a room that is there. -/
  belongs : (∀ call ∈ e.post.calls, call.status = .received) → ∀ (pid : ℕ) (p : Proc),
    e.post.manager.relays.procs[pid]? = some p → p.Running →
      ∃ room ∈ e.post.registry.rooms, owns room p

/-! ## The condition -/

/-- The calls are about one relay. -/
def Call.SameRelay (call call' : Call s) : Prop := call.kind = call'.kind ∧ call.port = call'.port

instance (call call' : Call s) : Decidable (call.SameRelay call') :=
  inferInstanceAs (Decidable (_ ∧ _))

/-- A start comes in in turn: no stop of an earlier life for the relay is on its way, and if the
start's own life is over, its own stop is. -/
def World.Awaits (w : World s) (call : Call s) : Prop :=
  (w.Over call.owner → w.StopSent call.owner call.kind) ∧
    ∀ stop ∈ w.calls, stop.verb = .stop → stop.status = .sent → call.SameRelay stop →
      call.owner ≤ stop.owner

instance (w : World s) (call : Call s) : Decidable (w.Awaits call) :=
  inferInstanceAs (Decidable (_ ∧ _))

/-- The start has probed its relay in vain for the last time. -/
def givesUp (h : Handler) : Bool :=
  match h.stage with
  | .pausing _ _ 0 => true
  | _ => false

/-- **The condition.** Starts come in in turn, and one that gives up does so before its own stop
has come in, or before a later life has got the port. -/
def InTurn (e : WorldEntry s) : Prop :=
  match e.act with
  | .arrive id => ∀ call ∈ e.pre.calls[id]?, call.verb = .start → e.pre.Awaits call
  | .manage (.resume id _) => ∀ h ∈ e.pre.manager.handlers id, ∀ call ∈ e.pre.calls[id]?,
      givesUp h = true → e.pre.StopSent call.owner call.kind ∨ ¬ e.pre.Reallocated call.owner
  | _ => True

instance : DecidablePred (InTurn (s := s)) := fun e => by
  unfold InTurn
  split <;> infer_instance

/-! ## Owners -/

section Owners

variable {w w' : World s}

lemma verb_eq_start {request : ManagerCall} {x : Kind × ℕ × Wanted}
    (h : (Request.ofCall request).starts? = some x) : verbOf request = .start := by
  cases request <;> first | rfl | cases h

/-- The entry of a relay is that of a process spawned for a start of the life, which has come
in. -/
structure World.Owned (w : World s) (kind : Kind) (entry : Tracked) (id : ℕ) (call : Call s)
    (life : Life s) : Prop where
  spawned_eq : w.spawnedFor[entry.pid]? = some id
  call_eq : w.calls[id]? = some call
  arrived : call.status ≠ .sent
  life_eq : w.lives[call.owner]? = some life
  verb_eq : call.verb = .start
  kind_eq : call.kind = kind
  wanted : life.wanted kind = ⟨entry.secret, entry.sessionPort⟩

/-- Every entry has an owner. -/
lemma exists_owned (hb : Books w) (ht : Ties w) {kind : Kind} {port : ℕ} {entry : Tracked}
    (h : w.manager.relays.tracked kind port = some entry) :
    ∃ id call life, w.Owned kind entry id call life ∧ port = life.port kind := by
  obtain ⟨id, call, hid, hcall, harrived, hstarts⟩ := ht.entries kind port entry h
  obtain ⟨life, hlife, hallows⟩ := hb.calls id call hcall
  have hverb : call.verb = .start := verb_eq_start hstarts
  rw [hallows.request_eq, hverb, life.starts?_request] at hstarts
  obtain ⟨hkind, hport, hwanted⟩ :
      call.kind = kind ∧ life.port call.kind = port ∧ life.wanted call.kind = _ := by
    simpa using hstarts
  subst hkind
  exact ⟨id, call, life, ⟨hid, hcall, harrived, hlife, hverb, rfl, hwanted⟩, hport.symm⟩

lemma World.Owned.unique {kind : Kind} {entry : Tracked} {id id' : ℕ} {call call' : Call s}
    {life : Life s} (h : w.Owned kind entry id call life)
    (hid : w.spawnedFor[entry.pid]? = some id') (hcall : w.calls[id']? = some call') :
    call' = call := by
  rw [h.spawned_eq] at hid
  obtain rfl := Option.some.inj hid
  exact Option.some.inj (hcall.symm.trans h.call_eq)

/-- The port of a call is that of its life. -/
lemma port_eq_of_call (hb : Books w) {id : ℕ} {call : Call s} {life : Life s}
    (hcall : w.calls[id]? = some call) (hlife : w.lives[call.owner]? = some life) :
    call.port = life.port call.kind := by
  obtain ⟨life', hlife', hallows⟩ := hb.calls id call hcall
  rw [hlife] at hlife'
  obtain rfl := Option.some.inj hlife'
  rw [Call.port, hallows.request_eq, Life.portOf_request]

/-- The calls of a life ask the manager for its relays. -/
lemma ofCall_eq (hb : Books w) {id : ℕ} {call : Call s} {life : Life s} {verb : Verb}
    (hcall : w.calls[id]? = some call) (hlife : w.lives[call.owner]? = some life)
    (hverb : call.verb = verb) :
    Request.ofCall call.request = Request.ofCall (life.request verb call.kind) := by
  obtain ⟨life', hlife', hallows⟩ := hb.calls id call hcall
  obtain rfl : life = life' := Option.some.inj (hlife.symm.trans hlife')
  rw [← hverb, ← hallows.request_eq]

/-- A start asks for the relay of its life. -/
lemma starts?_ofCall (hb : Books w) {id : ℕ} {call : Call s} {life : Life s}
    (hcall : w.calls[id]? = some call) (hlife : w.lives[call.owner]? = some life)
    (hverb : call.verb = .start) : (Request.ofCall call.request).starts? =
      some (call.kind, call.port, life.wanted call.kind) := by
  rw [ofCall_eq hb hcall hlife hverb, life.starts?_request, port_eq_of_call hb hcall hlife]

/-- The call that a creation waits for is a start. -/
lemma verbOf_creation (c : Creation s.capacity) : verbOf c.awaited = .start := by
  rw [Creation.awaited]
  split <;> rfl

lemma verb_of_creating (hb : Books w) {id : ℕ} {call : Call s} {life : Life s}
    (hcall : w.calls[id]? = some call) (hlife : w.lives[call.owner]? = some life)
    (hphase : life.phase = .creating id) : call.verb = .start := by
  obtain ⟨c, status, hpending, -⟩ := hb.pending _ life id hlife hphase
  have htask : call.task = .creation c :=
    congrArg Call.task (Option.some.inj (hcall.symm.trans hpending))
  rw [Call.verb, Call.request, htask]
  exact verbOf_creation c

lemma sameRelay_iff (hb : Books w) {id id' : ℕ} {call call' : Call s} {life life' : Life s}
    (hcall : w.calls[id]? = some call) (hlife : w.lives[call.owner]? = some life)
    (hcall' : w.calls[id']? = some call') (hlife' : w.lives[call'.owner]? = some life') :
    call.SameRelay call' ↔
      call.kind = call'.kind ∧ life.ports.sessionPort = life'.ports.sessionPort := by
  rw [Call.SameRelay, port_eq_of_call hb hcall hlife, port_eq_of_call hb hcall' hlife']
  constructor
  · rintro ⟨hkind, hport⟩
    rw [hkind] at hport
    exact ⟨hkind, Life.sessionPort_eq hport⟩
  · rintro ⟨hkind, hport⟩
    rw [hkind]
    exact ⟨rfl, Life.port_eq hport _⟩

/-- Of the lives that share a port, one that is not over is the last. -/
lemma Books.le_of_active (hb : Books w) {i j : ℕ} {a b : Life s} (ha : w.lives[i]? = some a)
    (hb' : w.lives[j]? = some b) (hport : a.ports.sessionPort = b.ports.sessionPort)
    (hactive : a.phase.isOver = false) : j ≤ i := by
  by_contra hlt
  rw [hb.latest i j a b ha hb' (by omega) hport] at hactive
  cases hactive

end Owners

/-! ## What holds while starts come in in turn -/

/-- The life has a use for the relay. -/
def Life.Holds (life : Life s) (kind : Kind) : Prop :=
  match life.phase with
  | .creating _ => True
  | .opened room => kind = .session ∨ room.ggpoPort ≠ 0
  | .ended => False

/-- The start of a creation has its port for itself. -/
def Alone (r : Relays) (h : Handler) : Prop :=
  match h.stage with
  | .stopping _ _ _ => r.tracked h.kind h.port = none
  | .probing _ reused _ | .pausing _ reused _ => reused = false
  | .settling _ | .health => True

/-- **Invariant.** Every relay has an owner that wants it or is about to stop it. -/
structure Settled (w : World s) : Prop where
  knows : w.manager.relays.Knows
  /-- The owner of a relay has a use for it, or has a stop for it on its way. -/
  held : ∀ (kind : Kind) (port : ℕ) (entry : Tracked),
    w.manager.relays.tracked kind port = some entry → ∃ id call life,
      w.Owned kind entry id call life ∧ port = life.port kind ∧
        (life.Holds kind ∨ w.StopSent call.owner kind)
  /-- A start that has come in is not followed by a stop of an earlier life. -/
  order : ∀ (id id' : ℕ) (start stop : Call s), w.calls[id]? = some start → start.verb = .start →
    start.status ≠ .sent → w.calls[id']? = some stop → stop.verb = .stop → stop.status = .sent →
    start.SameRelay stop → start.owner ≤ stop.owner
  noReplace : ∀ (id : ℕ) (h : Handler), w.manager.handlers id = some h →
    ∀ pid wait, h.stage ≠ .stopping .replace pid wait
  /-- The start of a creation spawns its own relay, and a failure leaves none. -/
  alone : ∀ (i : ℕ) (life : Life s) (id : ℕ) (call : Call s), w.lives[i]? = some life →
    life.phase = .creating id → w.calls[id]? = some call →
      (∀ h, w.manager.handlers id = some h → Alone w.manager.relays h) ∧
        ∀ reply, call.status = .answered reply → reply.isCreated = true ∨
          w.manager.relays.tracked call.kind call.port = none

namespace Settled

variable {w w' : World s}

lemma stopSent_of_extends (he : w.Extends w') {owner : ℕ} {kind : Kind}
    (h : w.StopSent owner kind) : w'.StopSent owner kind := by
  obtain ⟨call, hmem, howner, hverb, hkind, hsent⟩ := h
  obtain ⟨id, hcall⟩ := List.mem_iff_getElem?.1 hmem
  obtain ⟨call', hcall', hsame⟩ := he.forth id call hcall
  exact ⟨call', List.mem_of_getElem? hcall', hsame.owner.trans howner, hsame.verb.trans hverb,
    hsame.kind.trans hkind, hsame.sent.2 hsent⟩

/-- The broker takes a step: the owners keep their relays, and a stop comes from a life that no
start is later than. -/
lemma keep (h : Settled w) (ht : Ties w) (he : w.Extends w')
    (hheld : ∀ kind port entry id call (life life' : Life s),
      w.manager.relays.tracked kind port = some entry → w.Owned kind entry id call life →
      port = life.port kind → w'.lives[call.owner]? = some life' → life.Holds kind →
      life'.Holds kind ∨ w'.StopSent call.owner kind)
    (hstops : ∀ (id id' : ℕ) (start stop : Call s), w.calls[id]? = some start →
      start.verb = .start → w'.calls[id']? = some stop → w.calls.length ≤ id' →
      stop.verb = .stop → start.SameRelay stop → start.owner ≤ stop.owner)
    (halone : ∀ (i : ℕ) (life : Life s) (id : ℕ) (call : Call s), w'.lives[i]? = some life →
      life.phase = .creating id → w'.calls[id]? = some call →
        (w.lives[i]? = some life ∧ w.calls[id]? = some call) ∨
          w.calls.length ≤ id ∧ call.status = .sent) : Settled w' := by
  refine ⟨he.manager ▸ h.knows, ?_, ?_, he.manager ▸ h.noReplace, ?_⟩
  · rw [he.manager]
    intro kind port entry hentry
    obtain ⟨id, call, life, howned, hport, hkeeps⟩ := h.held kind port entry hentry
    obtain ⟨call', hcall', hsame⟩ := he.forth id call howned.call_eq
    obtain ⟨phase, hlife'⟩ := he.lives _ life howned.life_eq
    refine ⟨id, call', { life with phase := phase }, ⟨?_, hcall', ?_, ?_, ?_, ?_, ?_⟩, ?_, ?_⟩
    · rw [he.spawnedFor]
      exact howned.spawned_eq
    · exact fun hsent => howned.arrived (hsame.sent.1 hsent)
    · rw [hsame.owner]
      exact hlife'
    · exact hsame.verb.trans howned.verb_eq
    · exact hsame.kind.trans howned.kind_eq
    · rw [← howned.wanted]
      cases kind <;> rfl
    · rw [hport]
      cases kind <;> rfl
    · rw [hsame.owner]
      rcases hkeeps with hholds | hstop
      · exact hheld kind port entry id call life _ hentry howned hport hlife' hholds
      · exact .inr (stopSent_of_extends he hstop)
  · intro id id' start stop hstart hverb harrived hstop hverb' hsent hrelay
    -- a new request has not come in, so the start is an old one
    rcases he.back id start hstart with ⟨start₀, hstart₀, hsame⟩ | ⟨-, hsent₀⟩
    · rcases he.back id' stop hstop with ⟨stop₀, hstop₀, hsame'⟩ | ⟨hle, -⟩
      · rw [hsame.owner, hsame'.owner]
        refine h.order id id' start₀ stop₀ hstart₀ (hsame.verb.symm.trans hverb)
          (fun hno => harrived (hsame.sent.2 hno)) hstop₀ (hsame'.verb.symm.trans hverb')
          (hsame'.sent.1 hsent) ?_
        rw [Call.SameRelay, ← hsame.kind, ← hsame'.kind, ← hsame.port, ← hsame'.port]
        exact hrelay
      · rw [hsame.owner]
        refine hstops id id' start₀ stop hstart₀ (hsame.verb.symm.trans hverb) hstop hle hverb' ?_
        rw [Call.SameRelay, ← hsame.kind, ← hsame.port]
        exact hrelay
    · exact absurd hsent₀ harrived
  · rw [he.manager]
    intro i life id call hlife hphase hcall
    rcases halone i life id call hlife hphase hcall with ⟨hlife₀, hcall₀⟩ | ⟨hle, hsent⟩
    · exact h.alone i life id call hlife₀ hphase hcall₀
    · refine ⟨fun hd hhd => ?_, fun reply hreply => ?_⟩
      · obtain ⟨call₀, hcall₀, -⟩ := ht.handlers id hd hhd
        have hlt := (List.getElem?_eq_some_iff.1 hcall₀).1
        omega
      · rw [hsent] at hreply
        cases hreply

/-- The life of a call that is there is found again with its phase. -/
lemma lt_of_pending (hb : Books w) {i id : ℕ} {life : Life s} (hlife : w.lives[i]? = some life)
    (hphase : life.phase = .creating id) : id < w.calls.length := by
  obtain ⟨c, status, hcall, -⟩ := hb.pending i life id hlife hphase
  exact (List.getElem?_eq_some_iff.1 hcall).1

lemma getElem?_of_send_of_lt {owner id : ℕ} {tasks : List (Task s)} {call : Call s}
    (hcall : (w.send owner tasks).calls[id]? = some call) (hlt : id < w.calls.length) :
    w.calls[id]? = some call := by
  rcases World.getElem?_send.1 hcall with hold | ⟨hle, -⟩
  · exact hold
  · omega

/-- The phase of one life is set: the others are as they were. -/
lemma eq_of_setPhase_of_ne {i owner : ℕ} {life life' : Life s} {phase : LifePhase}
    (hne : i ≠ owner) (hlife : w.lives[i]? = some life)
    (hlife' : (w.setPhase owner phase).lives[i]? = some life') : life = life' :=
  Option.some.inj (hlife.symm.trans ((World.lives_setPhase_of_ne hne).symm.trans hlife'))

/-- An answer is received and its life goes on: the other lives wait for what they waited for. -/
lemma getElem?_of_receive_of_ne (hb : Books w) {i id id' : ℕ} {call call' : Call s} {life : Life s}
    {phase : LifePhase} {tasks : List (Task s)} (hcall : w.calls[id]? = some call)
    (hne : i ≠ call.owner) (hlife : (w.setPhase call.owner phase).lives[i]? = some life)
    (hphase : life.phase = .creating id')
    (hcall' : ((w.setStatus id .received).send call.owner tasks).calls[id']? = some call') :
    w.lives[i]? = some life ∧ w.calls[id']? = some call' := by
  have hsame : w.lives[i]? = some life := (World.lives_setPhase_of_ne hne).symm.trans hlife
  obtain ⟨c, status, hpending, -⟩ := hb.pending i life id' hsame hphase
  have hkept : (w.setStatus id .received).calls[id']? = some (Call.mk i (.creation c) status) :=
    (World.getElem?_setStatus_of_ne hcall hne).2 hpending
  have hold := getElem?_of_send_of_lt hcall' (List.getElem?_eq_some_iff.1 hkept).1
  rw [hold] at hkept
  rw [Option.some.inj hkept]
  exact ⟨hsame, hpending⟩

/-- Requests are sent that are no stops. -/
lemma send (h : Settled w) (hb : Books w) (ht : Ties w) {owner : ℕ} {tasks : List (Task s)}
    (htasks : ∀ task ∈ tasks, verbOf task.request ≠ .stop) : Settled (w.send owner tasks) := by
  refine h.keep ht (World.extends_send owner tasks) ?_ ?_ ?_
  · intro kind port entry id call life life' hentry howned hport hlife' hholds
    obtain rfl : life = life' := Option.some.inj (howned.life_eq.symm.trans hlife')
    exact .inl hholds
  · intro id id' start stop hstart hverb hstop hle hverb' hrelay
    rcases World.getElem?_send.1 hstop with hold | ⟨-, task, htask, rfl⟩
    · have hlt := (List.getElem?_eq_some_iff.1 hold).1
      omega
    · exact absurd hverb' (htasks task (List.mem_of_getElem? htask))
  · intro i life id call hlife hphase hcall
    exact .inl ⟨hlife, getElem?_of_send_of_lt hcall (lt_of_pending hb hlife hphase)⟩

/-- The answer to a request is received that no creation waits for. -/
lemma receive (h : Settled w) (hb : Books w) (ht : Ties w) {id : ℕ} {call : Call s}
    (hcall : w.calls[id]? = some call) (hsent : call.status ≠ .sent)
    (htask : ∀ c, call.task ≠ .creation c) : Settled (w.setStatus id .received) := by
  refine h.keep ht (World.extends_receive hcall hsent) ?_ ?_ ?_
  · intro kind port entry id' call' life life' hentry howned hport hlife' hholds
    obtain rfl : life = life' := Option.some.inj (howned.life_eq.symm.trans hlife')
    exact .inl hholds
  · intro id₁ id₂ start stop hstart hverb hstop hle hverb' hrelay
    have hlt := (List.getElem?_eq_some_iff.1 hstop).1
    rw [World.length_setStatus] at hlt
    omega
  · intro i life id' call' hlife hphase hcall'
    refine .inl ⟨hlife, ?_⟩
    rw [World.getElem?_setStatus] at hcall'
    obtain ⟨old, hold, rfl⟩ := Option.map_eq_some_iff.1 hcall'
    split_ifs with heq
    · subst heq
      obtain ⟨c, status, hpending, -⟩ := hb.pending i life id hlife hphase
      rw [hcall] at hpending
      obtain rfl := Option.some.inj hpending
      exact absurd rfl (htask c)
    · exact hold

/-- The stops of a life are on their way once they are sent. -/
lemma stopSent_send {owner port ggpoPort : ℕ} {kind : Kind}
    (hkind : kind = .session ∨ ggpoPort ≠ 0) :
    (w.send owner ((stopRelaySession port ggpoPort).map .stop)).StopSent owner kind := by
  have hsent (request : ManagerCall) (hmem : request ∈ stopRelaySession port ggpoPort)
      (hverb : verbOf request = .stop) (hkind : kindOf request = kind) :
      (w.send owner ((stopRelaySession port ggpoPort).map .stop)).StopSent owner kind := by
    obtain ⟨id, hid⟩ : ∃ id : ℕ, (w.send owner ((stopRelaySession port ggpoPort).map
        Task.stop)).calls[id]? = some (Call.mk owner (.stop request) .sent) :=
      World.exists_getElem?_send (List.mem_map_of_mem hmem)
    exact ⟨_, List.mem_of_getElem? hid, rfl, hverb, hkind, rfl⟩
  cases kind with
  | session => exact hsent _ List.mem_cons_self rfl rfl
  | ggpo =>
    have hne : ggpoPort ≠ 0 := hkind.resolve_left (by simp)
    exact hsent (.stopGgpo ggpoPort) (by simp [stopRelaySession, hne]) rfl rfl

/-- A life that is not over sends stops: no start is later. -/
lemma le_of_stop (hb : Books w) {owner port ggpoPort id : ℕ} {life : Life s} {start stop : Call s}
    (hlife : w.lives[owner]? = some life) (hactive : life.phase.isOver = false)
    (hport : port = life.ports.sessionPort) (hggpo : ggpoPort = 0 ∨ ggpoPort = life.ports.ggpoPort)
    (hstart : w.calls[id]? = some start) (howner : stop.owner = owner)
    (htask : ∃ task ∈ (stopRelaySession port ggpoPort).map Task.stop, stop.task = task)
    (hrelay : start.SameRelay stop) : start.owner ≤ stop.owner := by
  obtain ⟨_, hmem, htask⟩ := htask
  obtain ⟨request, hrequest, rfl⟩ := List.mem_map.1 hmem
  obtain ⟨life₀, hlife₀, hallows⟩ := hb.calls id start hstart
  have hstop : stop.request = life.request .stop stop.kind := by
    have hreq : stop.request = request := by rw [Call.request, htask]; rfl
    rw [Call.kind, hreq]
    rcases List.mem_cons.1 hrequest with rfl | hrequest
    · rw [hport]
      rfl
    · split_ifs at hrequest with hzero
      · cases hrequest
      · obtain rfl := List.mem_singleton.1 hrequest
        rw [hggpo.resolve_left hzero]
        rfl
  have hstopPort : stop.port = life.port stop.kind := by
    rw [Call.port, hstop, Life.portOf_request]
  have heq : life.port stop.kind = life₀.port stop.kind := by
    rw [← hstopPort, ← hrelay.2, port_eq_of_call hb hstart hlife₀, hrelay.1]
  rw [howner]
  exact hb.le_of_active hlife hlife₀ (Life.sessionPort_eq heq) hactive

/-- A room ends and stops its relays. -/
lemma close (h : Settled w) (hb : Books w) (ht : Ties w) {owner : ℕ} {life : Life s}
    {room : RoomRecord} (reg : Registry) (hlife : w.lives[owner]? = some life)
    (hphase : life.phase = .opened room) :
    Settled (({ w with registry := reg }.setPhase owner .ended).send owner
      ((stopRelaySession room.port room.ggpoPort).map .stop)) := by
  have hfits := (hb.opened owner life room hlife hphase).2
  refine h.keep ht ((World.extends_setPhase reg owner .ended).trans (World.extends_send _ _))
    ?_ ?_ ?_
  · intro kind port entry id call life' life'' hentry howned hport hlife'' hholds
    by_cases howner : call.owner = owner
    · subst howner
      obtain rfl : life = life' := Option.some.inj (hlife.symm.trans howned.life_eq)
      rw [Life.Holds, hphase] at hholds
      exact .inr (stopSent_send hholds)
    · obtain rfl := eq_of_setPhase_of_ne howner howned.life_eq hlife''
      exact .inl hholds
  · intro id id' start stop hstart hverb hstop hle hverb' hrelay
    rcases World.getElem?_send.1 hstop with hold | ⟨-, task, htask, rfl⟩
    · have hlt := (List.getElem?_eq_some_iff.1 hold).1
      have hle' : w.calls.length ≤ id' := hle
      exact absurd hlt (not_lt.2 hle')
    · exact le_of_stop hb hlife (by rw [hphase]; rfl) hfits.port hfits.ggpoPort hstart rfl
        ⟨task, List.mem_of_getElem? htask, rfl⟩ hrelay
  · intro i life' id call hlife' hphase' hcall
    by_cases hi : i = owner
    · subst hi
      have hself : (w.setPhase i .ended).lives[i]? = _ := World.lives_setPhase_self hlife
      obtain rfl := Option.some.inj (hself.symm.trans hlife')
      cases hphase'
    · have hsame : w.lives[i]? = some life' :=
        (World.lives_setPhase_of_ne (w := w) hi).symm.trans hlife'
      exact .inl ⟨hsame, getElem?_of_send_of_lt hcall (lt_of_pending hb hsame hphase')⟩

/-- A creation that is answered has a relay of a kind only if it has started it. -/
lemma created_of_owned (h : Settled w) (hb : Books w) {id id' : ℕ} {call call' : Call s}
    {c : Creation s.capacity} {life life' : Life s} {reply : Reply} {kind : Kind} {entry : Tracked}
    (hcall : w.calls[id]? = some call) (htask : call.task = .creation c)
    (hstatus : call.status = .answered reply) (hlife : w.lives[call.owner]? = some life)
    (hentry : w.manager.relays.tracked kind (life.port kind) = some entry)
    (howned : w.Owned kind entry id' call' life') (howner : call'.owner = call.owner) :
    c.stage = .startingGgpo ∧ kind = .session ∨ kind = call.kind ∧ reply.isCreated = true := by
  obtain ⟨life₀, hlife₀, hphase, -, hall⟩ :=
    hb.creating_of_call hcall htask (by simp [hstatus])
  obtain rfl : life = life₀ := Option.some.inj (hlife.symm.trans hlife₀)
  by_cases hid : id' = id
  · subst hid
    obtain rfl : call' = call := Option.some.inj (howned.call_eq.symm.trans hcall)
    refine .inr ⟨howned.kind_eq.symm, ?_⟩
    refine ((h.alone _ life id' call' hlife hphase hcall).2 reply hstatus).resolve_right ?_
    rw [port_eq_of_call hb hcall hlife, howned.kind_eq, hentry]
    simp
  · obtain ⟨-, hkind, hstage⟩ := hall id' call' howned.call_eq howner hid
    exact .inl ⟨hstage, howned.kind_eq.symm.trans hkind⟩

/-- A creation is over, with a room or with stops. -/
lemma finish (h : Settled w) (hb : Books w) (ht : Ties w) {id : ℕ} {call : Call s}
    {c : Creation s.capacity} {life : Life s} {reg : Registry} {phase : LifePhase}
    {tasks : List (Task s)} (hw' : w' = (({ w with registry := reg }.setStatus id
      .received).setPhase call.owner phase).send call.owner tasks)
    (hcall : w.calls[id]? = some call) (htask : call.task = .creation c)
    (hsent : call.status ≠ .sent) (hreceived : call.status ≠ .received)
    (hlife : w.lives[call.owner]? = some life) (hphase : ∀ id, phase ≠ .creating id)
    (htasks : ∀ task ∈ tasks,
      task ∈ (stopRelaySession c.ports.sessionPort c.ports.ggpoPort).map Task.stop)
    (hheld : ∀ kind entry id' call', w.manager.relays.tracked kind (life.port kind) = some entry →
      w.Owned kind entry id' call' life → call'.owner = call.owner →
      Life.Holds { life with phase := phase } kind ∨
        (w.send call.owner tasks).StopSent call.owner kind) : Settled w' := by
  subst hw'
  obtain ⟨life₀, hlife₀, hcreating, hbegan, -⟩ := hb.creating_of_call hcall htask hreceived
  obtain rfl : life = life₀ := Option.some.inj (hlife.symm.trans hlife₀)
  have hext := (World.extends_receive hcall hsent).trans
    (World.extends_setPhase reg call.owner phase)
  have hlen := w.length_setStatus id .received
  refine h.keep ht (hext.trans (World.extends_send call.owner tasks)) ?_ ?_ ?_
  · intro kind port entry id' call' life' life'' hentry howned hport hlife'' hholds
    by_cases howner : call'.owner = call.owner
    · -- the life itself: it has a use for its relays, or stops them now
      obtain rfl : life = life' := by
        have hlife' := howned.life_eq
        rw [howner, hlife] at hlife'
        exact Option.some.inj hlife'
      have hself : (w.setPhase call.owner phase).lives[call.owner]? = _ :=
        World.lives_setPhase_self hlife
      have hlife₂ : (w.setPhase call.owner phase).lives[call.owner]? = some life'' :=
        howner ▸ hlife''
      obtain rfl := Option.some.inj (hself.symm.trans hlife₂)
      rw [howner]
      refine (hheld kind entry id' call' (hport ▸ hentry) howned howner).imp (fun hh => hh) ?_
      rintro ⟨stop, hmem, hstop⟩
      obtain ⟨i, hi⟩ := List.mem_iff_getElem?.1 hmem
      rcases World.getElem?_send.1 hi with hold | ⟨hle, task, hnew, rfl⟩
      · obtain ⟨stop', hstop', hsame⟩ := (World.extends_receive hcall hsent).forth i stop hold
        exact ⟨stop', List.mem_append_left _ (List.mem_of_getElem? hstop'),
          hsame.owner.trans hstop.1, hsame.verb.trans hstop.2.1, hsame.kind.trans hstop.2.2.1,
          hsame.sent.2 hstop.2.2.2⟩
      · exact ⟨_, List.mem_append_right _ (List.mem_map_of_mem (List.mem_of_getElem? hnew)), hstop⟩
    · obtain rfl := eq_of_setPhase_of_ne howner howned.life_eq hlife''
      exact .inl hholds
  · intro id₁ id₂ start stop hstart hverb hstop hle hverb' hrelay
    rcases World.getElem?_send.1 hstop with hold | ⟨-, task, hnew, rfl⟩
    · have hlt : id₂ < (w.setStatus id .received).calls.length :=
        (List.getElem?_eq_some_iff.1 hold).1
      omega
    · exact le_of_stop hb hlife (by rw [hcreating]; rfl)
        (congrArg PortPair.sessionPort hbegan.ports)
        (.inr (congrArg PortPair.ggpoPort hbegan.ports)) hstart rfl
        ⟨task, htasks task (List.mem_of_getElem? hnew), rfl⟩ hrelay
  · intro i life' id' call' hlife' hphase' hcall'
    by_cases hi : i = call.owner
    · subst hi
      have hself : (w.setPhase call.owner phase).lives[call.owner]? = _ :=
        World.lives_setPhase_self hlife
      obtain rfl := Option.some.inj (hself.symm.trans hlife')
      exact absurd hphase' (hphase id')
    · exact .inl (getElem?_of_receive_of_ne hb hcall hi hlife' hphase' hcall')

/-- A creation goes on to the start of its GGPO relay. -/
lemma await (h : Settled w) (hb : Books w) (ht : Ties w) {id : ℕ} {call : Call s}
    {c c' : Creation s.capacity} (hcall : w.calls[id]? = some call)
    (htask : call.task = .creation c) (hsent : call.status ≠ .sent)
    (hreceived : call.status ≠ .received) :
    Settled (((w.setStatus id .received).setPhase call.owner (.creating w.calls.length)).send
      call.owner [.creation c']) := by
  obtain ⟨life, hlife, hcreating, -, -⟩ := hb.creating_of_call hcall htask hreceived
  have hself : (w.setPhase call.owner (.creating w.calls.length)).lives[call.owner]? = _ :=
    World.lives_setPhase_self hlife
  have hlen := w.length_setStatus id .received
  refine h.keep ht (((World.extends_receive hcall hsent).trans (World.extends_setPhase w.registry
    call.owner (.creating w.calls.length))).trans (World.extends_send call.owner _)) ?_ ?_ ?_
  · intro kind port entry id' call' life' life'' hentry howned hport hlife'' hholds
    by_cases howner : call'.owner = call.owner
    · have hlife₂ : (w.setPhase call.owner (.creating w.calls.length)).lives[call.owner]? =
          some life'' := howner ▸ hlife''
      obtain rfl := Option.some.inj (hself.symm.trans hlife₂)
      exact .inl trivial
    · obtain rfl := eq_of_setPhase_of_ne howner howned.life_eq hlife''
      exact .inl hholds
  · intro id₁ id₂ start stop hstart hverb hstop hle hverb' hrelay
    rcases World.getElem?_send.1 hstop with hold | ⟨-, task, hnew, rfl⟩
    · have hlt : id₂ < (w.setStatus id .received).calls.length :=
        (List.getElem?_eq_some_iff.1 hold).1
      omega
    · obtain rfl := List.mem_singleton.1 (List.mem_of_getElem? hnew)
      refine absurd hverb' ?_
      cases hstage : c'.stage <;>
        simp [Call.verb, Call.request, Task.request, Creation.awaited, hstage, verbOf]
  · intro i life' id' call' hlife' hphase' hcall'
    by_cases hi : i = call.owner
    · subst hi
      obtain rfl := Option.some.inj (hself.symm.trans hlife')
      obtain rfl := LifePhase.creating.inj hphase'
      rcases World.getElem?_send.1 hcall' with hold | ⟨-, task, -, rfl⟩
      · have hlt : w.calls.length < (w.setStatus id .received).calls.length :=
          (List.getElem?_eq_some_iff.1 hold).1
        omega
      · exact .inr ⟨le_rfl, rfl⟩
    · exact .inl (getElem?_of_receive_of_ne hb hcall hi hlife' hphase' hcall')

/-- A life begins. -/
lemma begin (h : Settled w) (hb : Books w) (ht : Ties w) {c : Creation s.capacity}
    (hstage : c.stage = .startingSession) (reg : Registry) :
    Settled ((({ w with registry := reg } : World s).beginLife c).send w.lives.length
      [.creation c]) := by
  have hcases {i : ℕ} {a : Life s} (ha : (w.beginLife c).lives[i]? = some a) :
      w.lives[i]? = some a ∨ a.phase = .creating w.calls.length := by
    simp only [World.beginLife, List.getElem?_append] at ha
    split_ifs at ha with hlt
    · exact .inl ha
    · obtain rfl := List.mem_singleton.1 (List.mem_of_getElem? ha)
      exact .inr rfl
  have hext : w.Extends (({ w with registry := reg } : World s).beginLife c) := by
    refine ⟨rfl, rfl, le_rfl, fun _ call hcall => ⟨call, hcall, Call.same_refl call⟩,
      fun _ call hcall => .inl ⟨call, hcall, Call.same_refl call⟩, fun i life hlife => ?_⟩
    refine ⟨life.phase, ?_⟩
    exact (List.getElem?_append_left (List.getElem?_eq_some_iff.1 hlife).1).trans hlife
  refine h.keep ht (hext.trans (World.extends_send _ _)) ?_ ?_ ?_
  · intro kind port entry id call life life' hentry howned hport hlife' hholds
    have hsame : (w.lives ++ _)[call.owner]? = some life' := hlife'
    rw [List.getElem?_append_left (List.getElem?_eq_some_iff.1 howned.life_eq).1,
      howned.life_eq] at hsame
    obtain rfl := Option.some.inj hsame
    exact .inl hholds
  · intro id₁ id₂ start stop hstart hverb hstop hle hverb' hrelay
    rcases World.getElem?_send.1 hstop with hold | ⟨-, task, hnew, rfl⟩
    · have hlt : id₂ < w.calls.length := (List.getElem?_eq_some_iff.1 hold).1
      omega
    · obtain rfl := List.mem_singleton.1 (List.mem_of_getElem? hnew)
      refine absurd hverb' ?_
      simp [Call.verb, Call.request, Task.request, Creation.awaited, hstage, verbOf]
  · intro i life id call hlife hphase hcall
    rcases hcases hlife with hold | hnew
    · exact .inl ⟨hold, getElem?_of_send_of_lt (w := w) hcall (lt_of_pending hb hold hphase)⟩
    · rw [hphase] at hnew
      obtain rfl := LifePhase.creating.inj hnew
      rcases World.getElem?_send.1 hcall with hold | ⟨-, task, -, rfl⟩
      · have hlt : w.calls.length < w.calls.length := (List.getElem?_eq_some_iff.1 hold).1
        omega
      · exact .inr ⟨le_rfl, rfl⟩

/-- **Step lemma.** An answer is delivered. -/
lemma deliver (h : Settled w) (hb : Books w) (ht : Ties w) {id : ℕ} {call : Call s} {reply : Reply}
    (hcall : w.calls[id]? = some call) (hstatus : call.status = .answered reply)
    (hd : w.Delivered id call reply w') : Settled w' := by
  have hsent : call.status ≠ .sent := by simp [hstatus]
  have hreceived : call.status ≠ .received := by simp [hstatus]
  cases hd with
  | done htask => exact h.receive hb ht hcall hsent htask
  | @goOn v stage htask hnext =>
    have hno (c) : call.task ≠ .creation c := by
      rw [htask]
      simp
    refine (h.receive hb ht hcall hsent hno).send (hb.receive hcall hno)
      (ht.setStatus hcall (by simp [hstatus]) (by simp)) ?_
    intro task hmem
    obtain rfl := List.mem_singleton.1 hmem
    cases stage with
    | ensuring stage => cases stage <;> simp [Task.request, VisitStage.awaited,
        EnsureStage.awaited, verbOf]
    | lookSession | lookGgpo => simp [Task.request, VisitStage.awaited, verbOf]
  | await htask => exact h.await hb ht hcall htask hsent hreceived
  | @commit c draws ggpoRelayOk htask hok =>
    obtain ⟨life, hlife, -, hbegan, -⟩ := hb.creating_of_call hcall htask hreceived
    refine h.finish hb ht (World.send_nil call.owner).symm hcall htask hsent hreceived hlife
      (fun _ => by simp) (fun _ hmem => absurd hmem List.not_mem_nil) ?_
    intro kind entry id' call' hentry howned howner
    rcases h.created_of_owned hb hcall htask hstatus hlife hentry howned howner with
      ⟨-, rfl⟩ | ⟨rfl, hcreated⟩
    · exact .inl (.inl rfl)
    · refine .inl ?_
      cases hkind : call.kind with
      | session => exact .inl rfl
      | ggpo =>
        -- only the second call of a creation is about the GGPO relay
        have hstage : c.stage = .startingGgpo := by
          cases hstage : c.stage with
          | startingSession =>
            simp [Call.kind, Call.request, htask, Task.request, Creation.awaited, hstage,
              kindOf] at hkind
          | startingGgpo => rfl
        have hrelay : ggpoRelayOk = true :=
          hok.2 ⟨hstage, (startGgpoRelaySession_http reply).2 hcreated⟩
        refine .inr ?_
        have hpos := (life.port_range .ggpo).1
        have hport : c.ports.ggpoPort = life.port .ggpo :=
          congrArg PortPair.ggpoPort hbegan.ports
        simp only [Creation.room, hrelay, hbegan.auto hstage, and_self, if_true]
        omega
  | @failed c htask hstage hfailed =>
    obtain ⟨life, hlife, -, -, -⟩ := hb.creating_of_call hcall htask hreceived
    refine h.finish hb ht (World.send_nil call.owner).symm hcall htask hsent hreceived hlife
      (fun _ => by simp) (fun _ hmem => absurd hmem List.not_mem_nil) ?_
    intro kind entry id' call' hentry howned howner
    rcases h.created_of_owned hb hcall htask hstatus hlife hentry howned howner with
      ⟨hno, -⟩ | ⟨-, hcreated⟩
    · rw [hstage] at hno
      cases hno
    · exact absurd ((startRelaySession_http reply).2 hcreated) hfailed
  | @thrown c htask hstage =>
    obtain ⟨life, hlife, -, hbegan, -⟩ := hb.creating_of_call hcall htask hreceived
    refine h.finish hb ht rfl hcall htask hsent hreceived hlife (fun _ => by simp)
      (fun _ hmem => hmem) ?_
    intro kind entry id' call' hentry howned howner
    refine .inr (stopSent_send ?_)
    have hpos := (life.port_range .ggpo).1
    have hport : c.ports.ggpoPort = life.port .ggpo := congrArg PortPair.ggpoPort hbegan.ports
    exact .inr (by omega)

/-! ## The manager's steps -/

lemma verb_eq_of_request {call call' : Call s} (h : call'.request = call.request) :
    call'.verb = call.verb := by
  rw [Call.verb, h, Call.verb]

lemma kind_eq_of_request {call call' : Call s} (h : call'.request = call.request) :
    call'.kind = call.kind := by
  rw [Call.kind, h, Call.kind]

lemma sameRelay_of_request {start start' stop stop' : Call s} (h : start'.request = start.request)
    (h' : stop'.request = stop.request) (hrelay : start'.SameRelay stop') :
    start.SameRelay stop := by
  simpa [Call.SameRelay, Call.kind, Call.port, h, h'] using hrelay

/-- The manager serves a request: a stop that was on its way still is, if it is another one. -/
lemma stopSent_of_advances {id owner : ℕ} {call : Call s} {kind : Kind} (hadv : w.Advances id w')
    (hcall : w.calls[id]? = some call) (h : w.StopSent owner kind) :
    w'.StopSent owner kind ∨
      call.owner = owner ∧ call.verb = .stop ∧ call.kind = kind ∧ call.status = .sent := by
  obtain ⟨stop, hmem, hstop⟩ := h
  obtain ⟨id', hid'⟩ := List.mem_iff_getElem?.1 hmem
  by_cases heq : id' = id
  · subst heq
    obtain rfl : stop = call := Option.some.inj (hid'.symm.trans hcall)
    exact .inr hstop
  · obtain ⟨howner, hverb, hkind, hsent⟩ := hstop
    obtain ⟨stop', hstop', howner', hrequest, hstatus, -⟩ := hadv.forth id' stop hid'
    exact .inl ⟨stop', List.mem_of_getElem? hstop', howner'.trans howner,
      (verb_eq_of_request hrequest).trans hverb, (kind_eq_of_request hrequest).trans hkind,
      (hstatus heq).trans hsent⟩

/-- A step for a request of the life: it spawns a relay only for a start, and then one that the
life has a use for, and it leaves the entries of others alone that are said to be free. -/
lemma serve (h : Settled w) (hb : Books w) (ht : Ties w) {id : ℕ} {call call₁ : Call s}
    {life : Life s} {w₁ : World s} {o : Outcome} (hcall : w.calls[id]? = some call)
    (hlife : w.lives[call.owner]? = some life) (hmanager : w₁.manager = w.manager)
    (hspawned : w₁.spawnedFor = w.spawnedFor) (hadv₁ : w.Advances id w₁)
    (hcall₁ : w₁.calls[id]? = some call₁) (harrived : call₁.status = .arrived)
    (hknows : o.1.Knows)
    (hentries : ∀ kind port entry, o.1.tracked kind port = some entry →
      w.manager.relays.tracked kind port = some entry ∧ ¬ (call.verb = .stop ∧
        call.status = .sent ∧ kind = call.kind ∧ port = call.port) ∨
      call.verb = .start ∧ kind = call.kind ∧ port = call.port ∧
        entry.pid = w.manager.relays.procs.length ∧
        w.manager.relays.procs.length < o.1.procs.length ∧
        life.wanted kind = ⟨entry.secret, entry.sessionPort⟩ ∧
        (life.Holds kind ∨ w.StopSent call.owner kind))
    (horder : call.verb = .start → ∀ stop ∈ w.calls, stop.verb = .stop → stop.status = .sent →
      call.SameRelay stop → call.owner ≤ stop.owner)
    (hstage : ∀ hd, o.2 = .inl hd → ∀ pid wait, hd.stage ≠ .stopping .replace pid wait)
    (hown : life.phase = .creating id → (∀ hd, o.2 = .inl hd → Alone o.1 hd) ∧
      ∀ reply, o.2 = .inr reply → reply.isCreated = true ∨
        o.1.tracked call.kind call.port = none)
    (hfree : ∀ i life' id' c status, id' ≠ id → w.lives[i]? = some life' →
      life'.phase = .creating id' → w.calls[id']? = some (Call.mk i (.creation c) status) →
      status ≠ .sent →
      w.manager.relays.tracked (kindOf c.awaited) (portOf c.awaited) = none →
        o.1.tracked (kindOf c.awaited) (portOf c.awaited) = none) :
    Settled (w₁.serve id o) := by
  have hadv : w.Advances id (w₁.serve id o) :=
    hadv₁.trans (World.advances_serve hcall₁ (by simp [harrived]) o)
  have hspawnedFor : (w₁.serve id o).spawnedFor =
      if w.manager.relays.procs.length < o.1.procs.length then w.spawnedFor ++ [id]
      else w.spawnedFor := by
    rw [World.serve_spawnedFor, hmanager, hspawned]
  have hhandlers {id' : ℕ} (hne : id' ≠ id) :
      (w₁.serve id o).manager.handlers id' = w.manager.handlers id' := by
    rw [World.serve, World.observe_manager, Manager.settle_handlers hne, hmanager]
  have hhandler {hd : Handler} (hhd : (w₁.serve id o).manager.handlers id = some hd) :
      o.2 = .inl hd := by
    rw [World.serve, World.observe_manager] at hhd
    obtain ⟨r, hd' | reply⟩ := o
    · obtain rfl : hd' = hd := by simpa [Manager.settle] using hhd
      rfl
    · simp [Manager.settle] at hhd
  refine ⟨by rwa [World.serve_relays], ?_, ?_, ?_, ?_⟩
  · rw [World.serve_relays]
    intro kind port entry hentry
    rcases hentries kind port entry hentry with ⟨hold, hno⟩ |
      ⟨hverb, hkind, hport, hpid, hlen, hwanted, hkeeps⟩
    · obtain ⟨id', call', life', howned, hport, hkeeps⟩ := h.held kind port entry hold
      obtain ⟨call'', hcall'', howner, hrequest, hstatus, hsent⟩ :=
        hadv.forth id' call' howned.call_eq
      refine ⟨id', call'', life', ⟨?_, hcall'', hsent howned.arrived, ?_,
        (verb_eq_of_request hrequest).trans howned.verb_eq,
        (kind_eq_of_request hrequest).trans howned.kind_eq, howned.wanted⟩, hport, ?_⟩
      · rw [hspawnedFor]
        have hlt := (List.getElem?_eq_some_iff.1 howned.spawned_eq).1
        split_ifs
        · rw [List.getElem?_append_left hlt]
          exact howned.spawned_eq
        · exact howned.spawned_eq
      · rw [hadv.lives, howner]
        exact howned.life_eq
      · rw [howner]
        refine hkeeps.imp (fun hh => hh) fun hstop => ?_
        refine (stopSent_of_advances hadv hcall hstop).resolve_right ?_
        -- the stop is not the request itself: the entry would be gone
        rintro ⟨hstop, hverb, hkind, hsent⟩
        refine hno ⟨hverb, hsent, hkind.symm, ?_⟩
        have hlife' : w.lives[call.owner]? = some life' := hstop ▸ howned.life_eq
        rw [port_eq_of_call hb hcall hlife', hport, hkind]
    · obtain ⟨call', hcall', howner, hrequest, -, -⟩ := hadv.forth id call hcall
      have hstatus : call'.status ≠ .sent := by
        rcases World.status_serve hcall₁ harrived hcall' with ⟨-, hstatus⟩ | ⟨reply, -, hstatus⟩
        · simp [hstatus]
        · simp [hstatus]
      refine ⟨id, call', life, ⟨?_, hcall', hstatus, ?_, (verb_eq_of_request hrequest).trans hverb,
        (kind_eq_of_request hrequest).trans hkind.symm, hwanted⟩, ?_, ?_⟩
      · rw [hspawnedFor, if_pos hlen, hpid, ← ht.length, List.getElem?_concat_length]
      · rw [hadv.lives, howner]
        exact hlife
      · rw [hport, port_eq_of_call hb hcall hlife, hkind]
      · rw [howner]
        rw [hkind] at hkeeps ⊢
        refine hkeeps.imp (fun hh => hh) fun hstop => ?_
        refine (stopSent_of_advances hadv hcall hstop).resolve_right ?_
        rintro ⟨-, hverb', -⟩
        rw [hverb] at hverb'
        cases hverb'
  · intro id₁ id₂ start stop hstart hverb hstatus hstop hverb' hsent hrelay
    obtain ⟨start₀, hstart₀, howner, hrequest, hsame, -⟩ := hadv.back id₁ start hstart
    obtain ⟨stop₀, hstop₀, howner', hrequest', -, hsent'⟩ := hadv.back id₂ stop hstop
    have hrelay₀ := sameRelay_of_request hrequest hrequest' hrelay
    have hverb₀ := (verb_eq_of_request hrequest).symm.trans hverb
    have hverb₀' := (verb_eq_of_request hrequest').symm.trans hverb'
    have hsent₀ : stop₀.status = .sent := by
      by_contra hno
      exact hsent' hno hsent
    rw [howner, howner']
    by_cases heq : id₁ = id
    · subst heq
      obtain rfl : start₀ = call := Option.some.inj (hstart₀.symm.trans hcall)
      exact horder hverb₀ stop₀ (List.mem_of_getElem? hstop₀) hverb₀' hsent₀ hrelay₀
    · exact h.order id₁ id₂ start₀ stop₀ hstart₀ hverb₀ (hsame heq ▸ hstatus) hstop₀ hverb₀'
        hsent₀ hrelay₀
  · intro id' hd hhd
    by_cases heq : id' = id
    · subst heq
      exact hstage hd (hhandler hhd)
    · rw [hhandlers heq] at hhd
      exact h.noReplace id' hd hhd
  · rw [World.serve_relays, hadv.lives]
    intro i life' id' call' hlife' hphase hcall'
    obtain ⟨c, status, hpending, -⟩ := hb.pending i life' id' hlife' hphase
    obtain ⟨call₀, hcall₀, howner, hrequest, hsame, -⟩ := hadv.back id' call' hcall'
    obtain rfl : call₀ = _ := Option.some.inj (hcall₀.symm.trans hpending)
    by_cases heq : id' = id
    · subst heq
      obtain rfl : call = _ := Option.some.inj (hcall.symm.trans hpending)
      obtain rfl : life = life' := Option.some.inj (hlife.symm.trans hlife')
      obtain ⟨hhandled, hanswered⟩ := hown hphase
      refine ⟨fun hd hhd => hhandled hd (hhandler hhd), fun reply hreply => ?_⟩
      rcases World.status_serve hcall₁ harrived hcall' with ⟨-, hstatus⟩ | ⟨reply', ho, hstatus⟩
      · rw [hreply] at hstatus
        cases hstatus
      · rw [hreply] at hstatus
        obtain rfl := Status.answered.inj hstatus
        rw [kind_eq_of_request hrequest, Call.port, hrequest]
        exact hanswered reply ho
    · obtain ⟨hhandled, hanswered⟩ := h.alone i life' id' _ hlife' hphase hcall₀
      refine ⟨fun hd hhd => ?_, fun reply hreply => ?_⟩
      · rw [hhandlers heq] at hhd
        have halone := hhandled hd hhd
        obtain ⟨call₂, hcall₂, hstatus₂, hserves⟩ := ht.handlers id' hd hhd
        obtain rfl : call₂ = _ := Option.some.inj (hcall₂.symm.trans hpending)
        have hstarts := starts?_ofCall hb hpending hlife' (verbOf_creation c)
        obtain ⟨hkind, hport, -⟩ := hserves.eq_of_starts hstarts
        obtain ⟨k, q, wanted, stage⟩ := hd
        cases stage with
        | stopping reason pid wait =>
          have hnone : w.manager.relays.tracked k q = none := halone
          obtain rfl : k = _ := hkind
          obtain rfl : portOf c.awaited = q := hport.symm
          have hsent : status ≠ .sent := by
            rintro rfl
            cases hstatus₂
          exact hfree i life' id' c status heq hlife' hphase hpending hsent hnone
        | settling | health => trivial
        | probing | pausing => exact halone
      · rw [kind_eq_of_request hrequest, Call.port, hrequest]
        refine (hanswered reply ((hsame heq).symm.trans hreply)).imp (fun hc => hc) fun hnone => ?_
        refine hfree i life' id' c status heq hlife' hphase hpending ?_ hnone
        have hstatus : status = .answered reply := (hsame heq).symm.trans hreply
        simp [hstatus]

/-- A start that comes in in turn finds no relay but its own life's. -/
lemma owner_of_awaits (h : Settled w) (hb : Books w) {id id' : ℕ} {call call' : Call s}
    {life life' : Life s} {entry : Tracked} (hcall : w.calls[id]? = some call)
    (hlife : w.lives[call.owner]? = some life) (hawaits : w.Awaits call)
    (hentry : w.manager.relays.tracked call.kind call.port = some entry)
    (howned : w.Owned call.kind entry id' call' life') : call'.owner = call.owner := by
  obtain ⟨id'', call'', life'', howned', hport, hkeeps⟩ := h.held _ _ _ hentry
  obtain rfl : call' = call'' := howned'.unique howned.spawned_eq howned.call_eq
  obtain rfl : life' = life'' := Option.some.inj (howned.life_eq.symm.trans howned'.life_eq)
  rw [port_eq_of_call hb hcall hlife] at hport
  have hsession := Life.sessionPort_eq hport
  rcases lt_trichotomy call'.owner call.owner with hlt | heq | hgt
  · -- an earlier life has no use for the relay, and its stop would still be on its way
    rcases hkeeps with hholds | ⟨stop, hmem, howner, hverb, hkind, hsent⟩
    · have hover := hb.latest _ _ _ _ howned.life_eq hlife hlt hsession.symm
      rw [Life.Holds, hover] at hholds
      exact hholds.elim
    · obtain ⟨i, hi⟩ := List.mem_iff_getElem?.1 hmem
      have hstop : w.lives[stop.owner]? = some life' := howner ▸ howned.life_eq
      have hle := hawaits.2 stop hmem hverb hsent
        ((sameRelay_iff hb hcall hlife hi hstop).2 ⟨hkind.symm, hsession⟩)
      omega
  · exact heq
  · -- the life of the start is over, so that its stop is on its way after a later start
    have hover : w.Over call.owner := ⟨life, hlife, by
      rw [hb.latest _ _ _ _ hlife howned.life_eq hgt hsession]
      rfl⟩
    obtain ⟨stop, hmem, howner, hverb, hkind, hsent⟩ := hawaits.1 hover
    obtain ⟨i, hi⟩ := List.mem_iff_getElem?.1 hmem
    have hstop : w.lives[stop.owner]? = some life := howner ▸ hlife
    have hle := h.order _ _ call' stop howned.call_eq howned.verb_eq howned.arrived hi hverb hsent
      ((sameRelay_iff hb howned.call_eq howned.life_eq hi hstop).2
        ⟨howned.kind_eq.trans hkind.symm, hsession.symm⟩)
    omega

/-- The life of a start that comes in in turn has a use for the relay, or stops it. -/
lemma holds_of_awaits (hb : Books w) {id : ℕ} {call : Call s} {life : Life s}
    (hcall : w.calls[id]? = some call) (hlife : w.lives[call.owner]? = some life)
    (hsent : call.status = .sent) (hverb : call.verb = .start) (hawaits : w.Awaits call) :
    life.Holds call.kind ∨ w.StopSent call.owner call.kind := by
  obtain ⟨life', hlife', hallows⟩ := hb.calls id call hcall
  obtain rfl : life = life' := Option.some.inj (hlife.symm.trans hlife')
  cases hphase : life.phase with
  | creating id => exact .inl (by rw [Life.Holds, hphase]; trivial)
  | ended => exact .inr (hawaits.1 ⟨life, hlife, by rw [hphase]; rfl⟩)
  | opened room =>
    refine .inl ?_
    rw [Life.Holds, hphase]
    show call.kind = .session ∨ room.ggpoPort ≠ 0
    cases hkind : call.kind with
    | session => exact .inl rfl
    | ggpo =>
      refine .inr ?_
      obtain ⟨owner, task, status⟩ := call
      cases task with
      | creation c =>
        obtain ⟨id', hid'⟩ := hallows.2 fun hno => by
          rw [hno] at hsent
          cases hsent
        rw [hphase] at hid'
        cases hid'
      | visit v =>
        obtain ⟨-, hopened, hggpo⟩ := hallows
        rw [hphase] at hopened
        rcases hopened with hopened | hover
        · rw [LifePhase.opened.inj hopened]
          exact hggpo hkind
        · cases hover
      | stop request =>
        have hover : life.phase = .ended := hallows.1
        rw [hphase] at hover
        cases hover

/-- The start of a creation finds nothing on its port. -/
lemma tracked_eq_none_of_creating (h : Settled w) (hb : Books w) (ht : Ties w) {id : ℕ}
    {call : Call s} {life : Life s} (hcall : w.calls[id]? = some call)
    (hlife : w.lives[call.owner]? = some life) (hsent : call.status = .sent)
    (hawaits : w.Awaits call) (hphase : life.phase = .creating id) :
    w.manager.relays.tracked call.kind call.port = none := by
  by_contra hsome
  obtain ⟨entry, hentry⟩ := Option.ne_none_iff_exists'.1 hsome
  obtain ⟨id', call', life', howned, -⟩ := exists_owned hb ht hentry
  have howner := h.owner_of_awaits hb hcall hlife hawaits hentry howned
  obtain ⟨c, status, hpending, -, hall⟩ := hb.pending _ life id hlife hphase
  have htask : call.task = .creation c :=
    congrArg Call.task (Option.some.inj (hcall.symm.trans hpending))
  have hne : id' ≠ id := by
    rintro rfl
    obtain rfl : call' = _ := Option.some.inj (howned.call_eq.symm.trans hcall)
    exact howned.arrived hsent
  obtain ⟨-, hkind, hstage⟩ := hall id' call' howned.call_eq howner hne
  have hkind' := howned.kind_eq.symm.trans hkind
  simp [Call.kind, Call.request, htask, Task.request, Creation.awaited, hstage, kindOf] at hkind'

/-- What the owner of an entry asks for again is there already. -/
lemma reusable_of_owned (ht : Ties w) {id : ℕ} {call : Call s} {life : Life s} {port : ℕ}
    {entry : Tracked} (hentry : w.manager.relays.tracked .ggpo port = some entry)
    (howned : w.Owned .ggpo entry id call life) :
    w.manager.relays.reusable entry (life.wanted .ggpo).sessionPort
      (life.wanted .ggpo).secret = true := by
  obtain ⟨p, hp, -, -, -, hexited, -⟩ := ht.sound.relays _ _ _ hentry
  have hsession : entry.sessionPort = some (life.ports.sessionPort : ℤ) :=
    (congrArg Wanted.sessionPort howned.wanted).symm
  have hsecret : entry.secret = life.roomToken := (congrArg Wanted.secret howned.wanted).symm
  simp [Relays.reusable, Life.wanted, hsession, hsecret, Relays.hasExited, hp, hexited]

/-- A creation that has its port to itself is not the one of a start that comes in in turn. -/
lemma not_sameRelay_of_creating (h : Settled w) (hb : Books w) {i id id' : ℕ} {call : Call s}
    {life life' : Life s} {c : Creation s.capacity} {status : Status}
    (hcall : w.calls[id]? = some call) (hlife : w.lives[call.owner]? = some life)
    (hsent : call.status = .sent) (hawaits : w.Awaits call) (hne : id' ≠ id)
    (hlife' : w.lives[i]? = some life') (hphase : life'.phase = .creating id')
    (hpending : w.calls[id']? = some (Call.mk i (.creation c) status)) (hstatus : status ≠ .sent) :
    ¬ (Call.mk (s := s) i (.creation c) status).SameRelay call := by
  intro hrelay
  obtain ⟨hkind, hsession⟩ := (sameRelay_iff hb hpending hlife' hcall hlife).1 hrelay
  rcases lt_trichotomy call.owner i with hlt | heq | hgt
  · have hover : w.Over call.owner := ⟨life, hlife, by
      rw [hb.latest _ _ _ _ hlife hlife' hlt hsession.symm]
      rfl⟩
    obtain ⟨stop, hmem, howner, hverb, hstopKind, hstopSent⟩ := hawaits.1 hover
    obtain ⟨j, hj⟩ := List.mem_iff_getElem?.1 hmem
    have hstop : w.lives[stop.owner]? = some life := howner ▸ hlife
    have hle := h.order _ _ _ stop hpending (verbOf_creation c) hstatus hj hverb hstopSent
      ((sameRelay_iff hb hpending hlife' hj hstop).2 ⟨hkind.trans hstopKind.symm, hsession⟩)
    have hle' : i ≤ stop.owner := hle
    omega
  · obtain ⟨c', status', -, -, hall⟩ := hb.pending i life' id' hlife' hphase
    obtain ⟨hreceived, -⟩ := hall id call hcall heq (Ne.symm hne)
    rw [hsent] at hreceived
    cases hreceived
  · have hover := hb.latest _ _ _ _ hlife' hlife hgt hsession
    rw [hphase] at hover
    cases hover

/-- **Step lemma.** A request comes in, a start in turn. -/
lemma arrive (h : Settled w) (hb : Books w) (ht : Ties w) {id : ℕ} {call : Call s}
    (hcall : w.calls[id]? = some call) (hsent : call.status = .sent)
    (hawaits : call.verb = .start → w.Awaits call) :
    Settled ((w.setStatus id .arrived).serve id
      (w.manager.relays.accept (.ofCall call.request))) := by
  obtain ⟨life, hlife, -⟩ := hb.calls id call hcall
  have hport := port_eq_of_call hb hcall hlife
  have hcall₁ : (w.setStatus id .arrived).calls[id]? = some { call with status := .arrived } := by
    rw [World.getElem?_setStatus, hcall, Option.map_some, if_pos rfl]
  have hadv := World.advances_arrived hcall hsent
  have hknows := (w.manager.relays.accepted (.ofCall call.request)).knows h.knows
  have hserves := (w.manager.relays.accepted (.ofCall call.request)).serves
  have horder (hverb : call.verb = .start) := (hawaits hverb).2
  -- only a start is a request of a creation
  have hpending (hphase : life.phase = .creating id) : call.verb = .start :=
    verb_of_creating hb hcall hlife hphase
  cases hverb : call.verb with
  | look =>
    have hreq : Request.ofCall call.request = .health call.kind call.port := by
      rw [ofCall_eq hb hcall hlife hverb, Life.ofCall_look, hport]
    rw [hreq] at hknows hserves ⊢
    refine h.serve hb ht hcall hlife rfl rfl hadv hcall₁ rfl hknows ?_ ?_ ?_ ?_ ?_
    · rw [Relays.accept_health]
      exact fun _ _ _ hentry => .inl ⟨hentry, fun hno => by simp [hverb] at hno⟩
    · simp [hverb]
    · intro hd hhd pid wait hstage
      have hs := hserves hd hhd
      rw [Handler.Serves, hstage] at hs
      cases hs
    · intro hphase
      rw [hpending hphase] at hverb
      cases hverb
    · rw [Relays.accept_health]
      exact fun _ _ _ _ _ _ _ _ _ _ hnone => hnone
  | stop =>
    have hreq : Request.ofCall call.request = .delete call.kind call.port := by
      rw [ofCall_eq hb hcall hlife hverb, Life.ofCall_stop, hport]
    rw [hreq] at hknows hserves ⊢
    refine h.serve hb ht hcall hlife rfl rfl hadv hcall₁ rfl hknows ?_ ?_ ?_ ?_ ?_
    · rw [Relays.accept_delete]
      intro kind port entry hentry
      rw [Relays.tracked_stop] at hentry
      split_ifs at hentry with heq
      exact .inl ⟨hentry, fun hno => heq ⟨hno.2.2.1, hno.2.2.2⟩⟩
    · simp [hverb]
    · intro hd hhd pid wait hstage
      have hs := hserves hd hhd
      rw [Handler.Serves, hstage] at hs
      cases hs
    · intro hphase
      rw [hpending hphase] at hverb
      cases hverb
    · rw [Relays.accept_delete]
      intro i life' id' c status hne hlife' hphase hcall' hstatus hnone
      rw [Relays.tracked_stop]
      split_ifs
      · rfl
      · exact hnone
  | start =>
    have ho := w.manager.relays.started (starts?_ofCall hb hcall hlife hverb)
    have hturn := hawaits hverb
    have hnone (hphase : life.phase = .creating id) :=
      h.tracked_eq_none_of_creating hb ht hcall hlife hsent hturn hphase
    have hholds := holds_of_awaits hb hcall hlife hsent hverb hturn
    have hold (kind : Kind) (port : ℕ) (entry : Tracked)
        (hentry : w.manager.relays.tracked kind port = some entry) :
        w.manager.relays.tracked kind port = some entry ∧ ¬ (call.verb = .stop ∧
          call.status = .sent ∧ kind = call.kind ∧ port = call.port) :=
      ⟨hentry, fun hno => by simp [hverb] at hno⟩
    generalize w.manager.relays.accept (.ofCall call.request) = o at ho hknows ⊢
    cases ho with
    | @spawn stage hstage =>
      refine h.serve hb ht hcall hlife rfl rfl hadv hcall₁ rfl hknows ?_ (fun _ => hturn.2) ?_ ?_ ?_
      · intro kind port entry hentry
        have htracked := hentry
        simp only [Relays.restart, Relays.tracked_spawn, Relays.tracked_stop,
          Relays.length_stop] at htracked
        split_ifs at htracked with heq
        · obtain ⟨rfl, rfl⟩ := heq
          obtain rfl := Option.some.inj htracked
          exact .inr ⟨hverb, rfl, rfl, rfl, by simp [Relays.restart, Relays.spawn], rfl, hholds⟩
        · exact .inl (hold _ _ _ htracked)
      · rintro _ ⟨⟩ pid wait rfl
        rcases hstage with ⟨_, hno⟩ | ⟨_, _, hno⟩ <;> cases hno
      · intro hphase
        refine ⟨?_, by simp⟩
        rintro _ ⟨⟩
        rcases hstage with ⟨pid, rfl⟩ | ⟨pid, left, rfl⟩
        · trivial
        · rfl
      · intro i life' id' c status hne hlife' hphase hcall' hstatus hnone'
        have hno : ¬ (kindOf c.awaited = call.kind ∧ portOf c.awaited = call.port) :=
          h.not_sameRelay_of_creating hb hcall hlife hsent hturn hne hlife' hphase hcall' hstatus
        simp only [Relays.restart, Relays.tracked_spawn, Relays.tracked_stop]
        rw [if_neg hno, if_neg hno]
        exact hnone'
    | reuse hentry =>
      refine h.serve hb ht hcall hlife rfl rfl hadv hcall₁ rfl hknows
        (fun _ _ _ hentry => .inl (hold _ _ _ hentry)) (fun _ => hturn.2) ?_ ?_
        (fun _ _ _ _ _ _ _ _ _ _ hnone => hnone)
      · rintro _ ⟨⟩ pid wait hno
        cases hno
      · intro hphase
        rw [hnone hphase] at hentry
        cases hentry
    | @replace entry hkind hentry hreuse =>
      obtain ⟨id', call', life', howned, -⟩ := exists_owned hb ht hentry
      have howner := h.owner_of_awaits hb hcall hlife hturn hentry howned
      obtain rfl : life = life' := by
        have hlife' := howned.life_eq
        rw [howner, hlife] at hlife'
        exact Option.some.inj hlife'
      rw [hkind] at hentry howned hreuse
      rw [reusable_of_owned ht hentry howned] at hreuse
      cases hreuse
    | refuse =>
      refine h.serve hb ht hcall hlife rfl rfl hadv hcall₁ rfl hknows
        (fun _ _ _ hentry => .inl (hold _ _ _ hentry)) (fun _ => hturn.2) (by simp) ?_
        (fun _ _ _ _ _ _ _ _ _ _ hnone => hnone)
      exact fun hphase => ⟨by simp, fun _ _ => .inr (hnone hphase)⟩

/-- A creation's start that has its port to itself keeps it so. -/
lemma alone_of_resumed {r : Relays} {hd : Handler} {answer : Bool} {o : Outcome}
    (halone : Alone r hd) (hhealth : hd.stage ≠ .health)
    (hno : ∀ pid wait, hd.stage ≠ .stopping .replace pid wait) (ho : r.Resumed hd answer o) :
    (∀ hd', o.2 = .inl hd' → Alone o.1 hd') ∧
      ∀ reply, o.2 = .inr reply → reply.isCreated = true ∨ o.1.tracked hd.kind hd.port = none := by
  obtain ⟨kind, port, wanted, stage⟩ := hd
  cases ho with
  | wait hstage =>
    refine ⟨?_, by simp⟩
    rintro _ ⟨⟩
    cases hstage with
    | exited | pause | release | missed | again => exact halone
    | settled => rfl
  | launch hstage => exact absurd hstage (hno _ _)
  | @succeed pid left reused hstage =>
    obtain rfl : stage = _ := hstage
    have hreused : reused = false := halone
    refine ⟨fun _ h => (by cases h), ?_⟩
    rintro _ ⟨⟩
    refine .inl ?_
    cases kind with
    | session => rfl
    | ggpo => simp [Reply.isCreated, hreused]
  | giveUpSession hstage hkind =>
    obtain rfl : kind = .session := hkind
    exact ⟨by simp, fun _ _ => .inr (by rw [Relays.tracked_stop, if_pos ⟨rfl, rfl⟩])⟩
  | giveUpGgpo hstage hkind =>
    obtain rfl : kind = .ggpo := hkind
    refine ⟨?_, by simp⟩
    rintro _ ⟨⟩
    show Relays.tracked _ _ _ = none
    rw [Relays.tracked_stop, if_pos ⟨rfl, rfl⟩]
  | gone hstage hkind hnone =>
    obtain rfl : kind = .ggpo := hkind
    exact ⟨by simp, fun _ _ => .inr hnone⟩
  | stopped hstage =>
    obtain rfl : stage = _ := hstage
    exact ⟨by simp, fun _ _ => .inr halone⟩
  | health hstage => exact absurd hstage hhealth

/-- **Step lemma.** A handler goes on. -/
lemma resume (h : Settled w) (hb : Books w) (ht : Ties w) {id : ℕ} {answer : Bool} {hd : Handler}
    (hhd : w.manager.handlers id = some hd) :
    Settled (w.serve id (w.manager.relays.resume hd answer)) := by
  obtain ⟨call, hcall, harrived, hserves⟩ := ht.handlers id hd hhd
  obtain ⟨life, hlife, -⟩ := hb.calls id call hcall
  have ho := w.manager.relays.resumed hd answer
  have hno := h.noReplace id hd hhd
  have hadv : w.Advances id w := (World.relabels_refl w).advances fun id' call₁ call₂ h₁ h₂ _ => by
    rw [Option.some.inj (h₂.symm.trans h₁)]
  refine h.serve hb ht hcall hlife rfl rfl hadv hcall harrived (ho.knows_of_ne h.knows hno) ?_ ?_
    (ho.ne_replace hno) ?_ ?_
  · intro kind port entry hentry
    refine .inl ⟨?_, fun hsent => by simp [harrived] at hsent⟩
    rcases ho.eq_or_stop hno with heq | ⟨heq, -⟩
    · rwa [heq] at hentry
    · rw [heq, Relays.tracked_stop] at hentry
      split_ifs at hentry
      exact hentry
  · intro hverb stop hmem hverb' hsent hrelay
    obtain ⟨id', hid'⟩ := List.mem_iff_getElem?.1 hmem
    exact h.order id id' call stop hcall hverb (by simp [harrived]) hid' hverb' hsent hrelay
  · intro hphase
    have hstarts := starts?_ofCall hb hcall hlife (verb_of_creating hb hcall hlife hphase)
    obtain ⟨hkind, hport, -⟩ := hserves.eq_of_starts hstarts
    have hhealth : hd.stage ≠ .health := by
      intro hstage
      rw [Handler.Serves, hstage] at hserves
      rw [hserves] at hstarts
      cases hstarts
    rw [← hkind, ← hport]
    exact alone_of_resumed ((h.alone _ life id call hlife hphase hcall).1 hd hhd) hhealth hno ho
  · intro i life' id' c status hne hlife' hphase hcall' hstatus hnone
    rcases ho.eq_or_stop hno with heq | ⟨heq, -⟩
    · rwa [heq]
    · rw [heq, Relays.tracked_stop]
      split_ifs
      · rfl
      · exact hnone

/-- The manager does something by itself, and no entry is new. -/
lemma withRelays (h : Settled w) {relays : Relays} (hknows : relays.Knows)
    (hentries : ∀ kind port entry, relays.tracked kind port = some entry →
      w.manager.relays.tracked kind port = some entry) : Settled (w.withRelays relays) := by
  have hnone {kind : Kind} {port : ℕ} (hnone : w.manager.relays.tracked kind port = none) :
      relays.tracked kind port = none := by
    by_contra hsome
    obtain ⟨entry, hentry⟩ := Option.ne_none_iff_exists'.1 hsome
    rw [hentries kind port entry hentry] at hnone
    cases hnone
  refine ⟨hknows, ?_, h.order, h.noReplace, ?_⟩
  · intro kind port entry hentry
    obtain ⟨id, call, life, ⟨h₁, h₂, h₃, h₄, h₅, h₆, h₇⟩, hport, hkeeps⟩ :=
      h.held kind port entry (hentries kind port entry hentry)
    exact ⟨id, call, life, ⟨h₁, h₂, h₃, h₄, h₅, h₆, h₇⟩, hport, hkeeps⟩
  · intro i life id call hlife hphase hcall
    obtain ⟨hhandled, hanswered⟩ := h.alone i life id call hlife hphase hcall
    refine ⟨fun hd hhd => ?_, fun reply hreply => (hanswered reply hreply).imp (fun hc => hc) hnone⟩
    have halone := hhandled hd hhd
    obtain ⟨kind, port, wanted, stage⟩ := hd
    cases stage with
    | stopping => exact hnone halone
    | settling | probing | pausing | health => exact halone

/-- **Step lemma.** A step in turn. -/
lemma step (h : Settled w) (hb : Books w) (ht : Ties w) {a : WorldAction} {out : Unit}
    (hm : w.Moves a w') (hin : InTurn ⟨w, a, out, w'⟩) : Settled w' := by
  cases hm with
  | refused => exact h
  | begun hstage => exact h.begin hb ht hstage _
  | @visit code purpose room hfind =>
    refine h.send hb ht fun task htask => ?_
    obtain rfl := List.mem_singleton.1 htask
    cases purpose <;> simp [Task.request, Purpose.first, VisitStage.awaited, EnsureStage.awaited,
      verbOf]
  | endRoom hfind =>
    obtain ⟨life, hlife, hphase⟩ := hb.life_of_find hfind
    exact h.close hb ht _ hlife hphase
  | handled hh =>
    cases hh with
    | @arrive id call hcall hsent hfree =>
      exact h.arrive hb ht hcall hsent (hin call hcall)
    | resume hhandler => exact h.resume hb ht hhandler
    | @exit pid =>
      exact h.withRelays (Relays.knows_exit h.knows pid) fun kind port entry hentry =>
        (Relays.tracked_exit_eq_some_iff.1 hentry).1
    | listen hlisten =>
      refine h.withRelays (Relays.knows_listen h.knows hlisten) ?_
      obtain ⟨rfl, -⟩ := Relays.listen_eq_some hlisten
      exact fun _ _ _ hentry => hentry
  | delivered hcall hstatus hd => exact h.deliver hb ht hcall hstatus hd

end Settled

/-- While starts come in in turn, every relay has an owner. -/
lemma settled_of_run {log : List (WorldEntry s)} {w : World s} (h : (worldLTS s).Run log w)
    (hok : ∀ e ∈ log, InTurn e) : Books w ∧ Ties w ∧ Settled w := by
  refine h.invariant (fun _ w => Books w ∧ Ties w ∧ Settled w) ?_ ?_ hok
  · rintro w rfl
    obtain ⟨hb, ht⟩ := books_of_run ⟨.new, rfl, .refl⟩
    refine ⟨hb, ht, ⟨fun pid p hp => ?_, ?_, ?_, ?_, ?_⟩⟩
    · exact absurd hp (by simp [World.new, Manager.new])
    all_goals simp [World.new, Manager.new]
  · rintro _ e ⟨hb, ht, hsettled⟩ hs hin
    have hm := World.moves hs
    exact ⟨hb.step ht hm, ht.step hm, hsettled.step hb ht hm hin⟩

/-! ## Every step -/

section Every

variable {w w' : World s}

/-- A relay that a life is about to stop was not spawned for a later one. -/
lemma le_of_stopSent (h : Settled w) (hb : Books w) {owner id : ℕ} {call : Call s}
    {life life' : Life s} {kind : Kind} {entry : Tracked} (hlife : w.lives[owner]? = some life)
    (hstop : w.StopSent owner kind) (howned : w.Owned kind entry id call life')
    (hport : life'.ports.sessionPort = life.ports.sessionPort) : call.owner ≤ owner := by
  obtain ⟨stop, hmem, rfl, hverb, hkind, hsent⟩ := hstop
  obtain ⟨i, hi⟩ := List.mem_iff_getElem?.1 hmem
  exact h.order id i call stop howned.call_eq howned.verb_eq howned.arrived hi hverb hsent
    ((sameRelay_iff hb howned.call_eq howned.life_eq hi hlife).2
      ⟨howned.kind_eq.trans hkind.symm, hport⟩)

/-- A request that finds no relay of a later life on its port touches none. -/
lemma spares_of_le {r' : Relays} {call : Call s} (hb : Books w) (ht : Ties w) (wanted : Wanted)
    (hr' : r' = w.manager.relays ∨ r' = w.manager.relays.stop call.kind call.port ∨
      r' = w.manager.relays.restart call.kind call.port wanted)
    (hle : ∀ entry id' call' life', w.manager.relays.tracked call.kind call.port = some entry →
      w.Owned call.kind entry id' call' life' → call'.owner ≤ call.owner) {pid : ℕ}
    (hafter : w.SpawnedAfter call.owner pid) : ¬ Tells w.manager.relays r' pid ∧
      ∀ kind port, w.manager.relays.Records kind port pid → r'.Records kind port pid := by
  refine Relays.spares_of_not_records hr' ?_
  rintro ⟨entry, hentry, rfl⟩
  obtain ⟨id', hid', call', hcall', hlt⟩ := hafter
  obtain ⟨id, call₀, life₀, howned, -⟩ := exists_owned hb ht hentry
  have hle' := hle entry id call₀ life₀ hentry howned
  rw [howned.unique hid' hcall'] at hlt
  omega

lemma handled_of_served {a : WorldAction} {id : ℕ} (hm : w.Moves a w')
    (hserved : a.served? = some id) : w.Handled a w' := by
  cases hm with
  | handled hh => exact hh
  | refused | begun | visit | endRoom | delivered =>
    exact absurd hserved (by simp [WorldAction.served?])

/-- A step in turn, taken for a start or a stop, touches no relay of a later life. -/
lemma spares_of_handled (h : Settled w) (hb : Books w) (ht : Ties w) {a : WorldAction} {out : Unit}
    (hh : w.Handled a w') (hin : InTurn ⟨w, a, out, w'⟩) {id : ℕ} {call : Call s}
    (hserved : a.served? = some id) (hcall : w.calls[id]? = some call) (hverb : call.verb ≠ .look)
    {pid : ℕ} (hafter : w.SpawnedAfter call.owner pid) :
    ¬ Tells w.manager.relays w'.manager.relays pid ∧ ∀ kind port,
      w.manager.relays.Records kind port pid → w'.manager.relays.Records kind port pid := by
  obtain ⟨life, hlife, -⟩ := hb.calls id call hcall
  have hport := port_eq_of_call hb hcall hlife
  have hsession {entry : Tracked} {id' : ℕ} {call' : Call s} {life' : Life s}
      (hentry : w.manager.relays.tracked call.kind call.port = some entry)
      (howned : w.Owned call.kind entry id' call' life') :
      life'.ports.sessionPort = life.ports.sessionPort := by
    obtain ⟨id'', call'', life'', howned', hport'⟩ := exists_owned hb ht hentry
    obtain rfl := howned'.unique howned.spawned_eq howned.call_eq
    obtain rfl := Option.some.inj (howned.life_eq.symm.trans howned'.life_eq)
    exact Life.sessionPort_eq (hport'.symm.trans hport)
  cases hh with
  | @arrive id' call' hcall' hsent hfree =>
    obtain rfl : id' = id := Option.some.inj hserved
    obtain rfl : call' = call := Option.some.inj (hcall'.symm.trans hcall)
    rw [World.serve_relays]
    cases hv : call'.verb with
    | look => exact absurd hv hverb
    | stop =>
      have hreq : Request.ofCall call'.request = .delete call'.kind call'.port := by
        rw [ofCall_eq hb hcall hlife hv, Life.ofCall_stop, hport]
      rw [hreq, Relays.accept_delete]
      refine spares_of_le hb ht (life.wanted .session) (.inr (.inl rfl)) ?_ hafter
      intro entry id₀ call₀ life₀ hentry howned
      exact le_of_stopSent h hb hlife ⟨call', List.mem_of_getElem? hcall, rfl, hv, rfl, hsent⟩
        howned (hsession hentry howned)
    | start =>
      have hle {entry : Tracked} {id₀ : ℕ} {call₀ : Call s} {life₀ : Life s}
          (hentry : w.manager.relays.tracked call'.kind call'.port = some entry)
          (howned : w.Owned call'.kind entry id₀ call₀ life₀) : call₀.owner ≤ call'.owner :=
        (h.owner_of_awaits hb hcall hlife (hin call' hcall hv) hentry howned).le
      exact spares_of_le hb ht (life.wanted call'.kind)
        (Relays.restart_of_started (starts?_ofCall hb hcall hlife hv)) (fun _ _ _ _ => hle) hafter
  | @resume id' answer hd hhd hprobe =>
    obtain rfl : id' = id := Option.some.inj hserved
    rw [World.serve_relays]
    have ho := w.manager.relays.resumed hd answer
    rcases ho.eq_or_stop (h.noReplace id' hd hhd) with heq | ⟨heq, pid', reused, hstage⟩
    · rw [heq]
      exact ⟨not_tells_self _ pid, fun _ _ hrec => hrec⟩
    · obtain ⟨call', hcall', -, hserves⟩ := ht.handlers id' hd hhd
      obtain rfl : call' = call := Option.some.inj (hcall'.symm.trans hcall)
      have hstart : call'.verb = .start := by
        rw [Handler.Serves, hstage] at hserves
        exact verb_eq_start hserves
      obtain ⟨hkind, hport', -⟩ := hserves.eq_of_starts (starts?_ofCall hb hcall hlife hstart)
      rw [heq, hkind, hport']
      refine spares_of_le hb ht (life.wanted .session) (.inr (.inl rfl)) ?_ hafter
      intro entry id₀ call₀ life₀ hentry howned
      have hsame := hsession hentry howned
      rcases hin hd hhd call' hcall (by simp [givesUp, hstage]) with hstop | hnot
      · exact le_of_stopSent h hb hlife hstop howned hsame
      · by_contra hlt
        refine hnot ⟨life, hlife, life₀, ?_, hsame⟩
        refine List.mem_of_getElem? (i := call₀.owner - (call'.owner + 1)) ?_
        rw [List.getElem?_drop, ← howned.life_eq]
        congr 1
        omega
  | exit | listen => cases hserved

/-- What runs when every request is answered is a relay of a room. -/
lemma belongs_of_settled (h : Settled w) (hb : Books w) (ht : Ties w)
    (hreceived : ∀ call ∈ w.calls, call.status = .received) {pid : ℕ} {p : Proc}
    (hp : w.manager.relays.procs[pid]? = some p) (hrun : p.Running) :
    ∃ room ∈ w.registry.rooms, owns room p := by
  obtain ⟨entry, hentry, rfl⟩ := h.knows pid p hp hrun
  obtain ⟨id, call, life, howned, hport, hkeeps⟩ := h.held _ _ _ hentry
  obtain ⟨p', hp', -, -, hsecret, -⟩ := ht.sound.relays _ _ _ hentry
  obtain rfl : p' = p := Option.some.inj (hp'.symm.trans hp)
  have hholds : life.Holds p'.kind := by
    rcases hkeeps with hholds | ⟨stop, hmem, -, -, -, hsent⟩
    · exact hholds
    · rw [hreceived stop hmem] at hsent
      cases hsent
  have hwanted : p'.secret = (life.wanted p'.kind).secret := by rw [hsecret, howned.wanted]
  cases hphase : life.phase with
  | creating id' =>
    obtain ⟨c, status, hpending, hstatus, -⟩ := hb.pending _ life id' howned.life_eq hphase
    exact absurd (hreceived _ (List.mem_of_getElem? hpending)) hstatus
  | ended =>
    rw [Life.Holds, hphase] at hholds
    exact hholds.elim
  | opened room =>
    obtain ⟨hmem, hfits⟩ := hb.opened _ life room howned.life_eq hphase
    refine ⟨room, hmem, ?_⟩
    rw [Life.Holds, hphase] at hholds
    rw [owns]
    split
    · rename_i hkind
      rw [hkind] at hport hwanted
      exact ⟨hport.trans hfits.port.symm, hwanted.trans hfits.sidecarHash.symm⟩
    · rename_i hkind
      rw [hkind] at hport hwanted
      have hne : room.ggpoPort ≠ 0 := hholds.resolve_left (by rw [hkind]; simp)
      exact ⟨hport.trans (hfits.ggpoPort.resolve_left hne).symm,
        hwanted.trans hfits.roomToken.symm⟩

end Every

/-- **Port reuse.** While starts come in in turn, and give up before their port is given to
another room, the requests for a room touch no relay of a later one, and no relay outlives its
room. -/
theorem isolates_of_inTurn {log : List (WorldEntry s)} {w : World s}
    (h : (worldLTS s).Run log w) (hok : ∀ e ∈ log, InTurn e) : ∀ e ∈ log, Isolates e := by
  intro e he
  obtain ⟨newer, older, rfl⟩ := List.append_of_mem he
  obtain ⟨hrun, hstep, -⟩ := h.at_entry
  have hokOlder : ∀ e' ∈ older, InTurn e' := fun e' he' =>
    hok e' (List.mem_append_right _ (List.mem_cons_of_mem _ he'))
  obtain ⟨hb, ht, hsettled⟩ := settled_of_run hrun hokOlder
  have hm := World.moves hstep
  have hpost := hsettled.step hb ht hm (hok e he)
  refine ⟨fun id hserved call hcall hverb _ pid hafter => ?_, fun hreceived pid p hp hrun => ?_⟩
  · exact spares_of_handled hsettled hb ht (handled_of_served hm hserved) (hok e he) hserved hcall
      hverb hafter
  · exact belongs_of_settled hpost (hb.step ht hm) (ht.step hm) hreceived hp hrun

/-- A list of actions that two new services can carry out, and whose log passes a test. -/
lemma exists_worldRun_of_exec (acts : List WorldAction)
    {p : List (WorldEntry s) → World s → Prop} [∀ log w, Decidable (p log w)]
    (h : (LTS.exec World.next .new [] acts).any (fun r => decide (p r.1 r.2)) = true) :
    ∃ log w, (worldLTS s).Run log w ∧ p log w := by
  obtain ⟨log, w, hpath, hp⟩ := LTS.exists_path_of_exec acts h
  exact ⟨log, w, ⟨_, rfl, hpath⟩, hp⟩

/-- A broker for two rooms. -/
def VpsSettings.twoRooms : VpsSettings := { Settings.twoRooms with force := rfl }

/-- A room is created, with requests and processes from the given numbers on. -/
def WorldAction.openRoom (d : Fin 10) (id pid : ℕ) : List WorldAction :=
  [.create (.ofHash d) (.ofDigit d), .arrive id, .manage (.listen pid true),
    .manage (.resume id true), .deliver id (.ofDigit d), .arrive (id + 1),
    .manage (.listen (pid + 1) true), .manage (.resume (id + 1) true),
    .manage (.resume (id + 1) true), .deliver (id + 1) (.ofDigit d)]

/-- A room ends, its relays exit, and another room gets the port. -/
theorem isolates_two_rooms : ∃ log w, (worldLTS .twoRooms).Run log w ∧ w.Reallocated 0 ∧
    (∀ call ∈ w.calls, call.status = .received) ∧ w.manager.relays.procs.length = 4 ∧
    ∀ e ∈ log, Isolates e := by
  obtain ⟨log, w, hrun, hport, hreceived, hlen, hok⟩ := exists_worldRun_of_exec (s := .twoRooms)
    (WorldAction.openRoom 1 0 0 ++
      [.endRoom (roomCode (Draws.ofDigit 1).token), .arrive 2, .arrive 3, .manage (.exit 0),
        .manage (.exit 1), .manage (.resume 3 true), .manage (.resume 3 false),
        .deliver 2 (.ofDigit 1), .deliver 3 (.ofDigit 1)] ++
      WorldAction.openRoom 2 4 2)
    (p := fun log w => w.Reallocated 0 ∧ (∀ call ∈ w.calls, call.status = .received) ∧
      w.manager.relays.procs.length = 4 ∧ ∀ e ∈ log, InTurn e) (by decide +kernel)
  exact ⟨log, w, hrun, hport, hreceived, hlen, isolates_of_inTurn hrun hok⟩

/-- **A stale stop.** A room ends, the next one gets its port and starts its relay, and then the
stops of the first one come in. -/
theorem not_isolates_stale_stop :
    ¬ ∀ log w, (worldLTS .twoRooms).Run log w → ∀ e ∈ log, Isolates e := by
  intro h
  obtain ⟨log, w, hrun, e, he, hact, ⟨call, hcall, hverb, hover, hafter⟩, ⟨p, hp, hrunning⟩, p',
      hp', htold⟩ :=
    exists_worldRun_of_exec (s := .twoRooms)
      (WorldAction.openRoom 1 0 0 ++
        [.endRoom (roomCode (Draws.ofDigit 1).token), .create (.ofHash 2) (.ofDigit 2), .arrive 4,
          .arrive 2])
      (p := fun log _ => ∃ e ∈ log, e.act.served? = some 2 ∧
        (∃ call ∈ e.pre.calls[2]?, call.verb ≠ .look ∧ e.pre.Over call.owner ∧
          e.pre.SpawnedAfter call.owner 2) ∧
        (∃ p ∈ e.pre.manager.relays.procs[2]?, p.told = false) ∧
        ∃ p ∈ e.post.manager.relays.procs[2]?, p.told = true) (by decide +kernel)
  exact ((h log w hrun e he).spares 2 hact call hcall hverb hover 2 hafter).1
    ⟨p, p', hp, hp', hrunning, htold⟩

end Service
end Sf4e
