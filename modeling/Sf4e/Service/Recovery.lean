/-
# Can the recovery of a relay kill one that is up?

A handler that finds a relay down starts it, and the look and the start are two requests.  Two
handlers of a room can both find the relay down; the start of the first brings it up, the manager
says so, and the start of the second takes it down again.

`sparesReported_of_inTime` says that nothing else can go wrong: if no start comes in or gives up
after the manager has told another handler of the room that the relay is up, while a relay
answers there, then a relay that was reported and has listened ever since is left alone by all
requests for its room.
-/
import Sf4e.Service.PortReuse

namespace Sf4e
namespace Service

open Wire Trace Broker RelayManager

variable {s : VpsSettings}

/-! ## The property -/

/-- The answer is there, and tells that the relay is up. -/
def Status.tellsUp : Status → Bool
  | .answered reply => isUp reply
  | _ => false

def LifePhase.isOpened : LifePhase → Bool
  | .opened _ => true
  | _ => false

namespace World

/-- The process is bound to its port and answers. -/
def Listens (w : World s) (pid : ℕ) : Prop := ∃ p ∈ w.manager.relays.procs[pid]?, p.listening = true

/-- The room of the life is there. -/
def Opened (w : World s) (owner : ℕ) : Prop := ∃ life ∈ w.lives[owner]?, life.phase.isOpened = true

instance (w : World s) (pid : ℕ) : Decidable (w.Listens pid) :=
  inferInstanceAs (Decidable (∃ p ∈ w.manager.relays.procs[pid]?, p.listening = true))

instance (w : World s) (owner : ℕ) : Decidable (w.Opened owner) :=
  inferInstanceAs (Decidable (∃ life ∈ w.lives[owner]?, life.phase.isOpened = true))

end World

/-- The manager reports the relay of a life as started or healthy, and it is the process. -/
def Reports (owner pid : ℕ) (e : WorldEntry s) : Prop :=
  ∃ id ∈ e.act.served?, ∃ call ∈ e.post.calls[id]?, call.owner = owner ∧
    call.status.tellsUp = true ∧ e.post.manager.relays.Records call.kind call.port pid

instance (owner pid : ℕ) : DecidablePred (Reports (s := s) owner pid) := fun e =>
  inferInstanceAs (Decidable (∃ id ∈ e.act.served?, ∃ call ∈ e.post.calls[id]?, _))

/-- The process was reported as a relay of the life, and has listened ever since. -/
def Reported (log : List (WorldEntry s)) (owner pid : ℕ) : Prop :=
  Since (fun e => e.post.Listens pid) (fun e => Reports owner pid e ∧ e.post.Listens pid) log

instance (log : List (WorldEntry s)) (owner pid : ℕ) : Decidable (Reported log owner pid) :=
  inferInstanceAs (Decidable (Since _ _ log))

/-- What the two services owe at every step: no request for a room that is there makes the manager
terminate a relay of it that was reported, or put another one in its place. -/
def SparesReported (older : List (WorldEntry s)) (e : WorldEntry s) : Prop :=
  ∀ id ∈ e.act.served?, ∀ call ∈ e.pre.calls[id]?, e.pre.Opened call.owner →
    ∀ pid, Reported older call.owner pid →
      ¬ Tells e.pre.manager.relays e.post.manager.relays pid ∧
        ∀ kind port, e.pre.manager.relays.Records kind port pid →
          e.post.manager.relays.Records kind port pid

/-! ## The condition -/

/-- The manager has told another handler of the room that the relay is up. -/
def Task.overtaken : Task s → Bool
  | .visit v => v.overtaken
  | _ => false

/-- The manager has told another handler of the room that the relay is up, and one answers. -/
def World.Stale (w : World s) (call : Call s) : Prop :=
  call.task.overtaken = true ∧ w.manager.relays.answers call.kind call.port = true

instance (w : World s) (call : Call s) : Decidable (w.Stale call) :=
  inferInstanceAs (Decidable (_ ∧ _))

/-- A start of a GGPO relay finds the very relay that it is for. -/
def reuses (r : Relays) : Request → Bool
  | .postGgpo ggpoPort sessionPort roomToken => (validPort ggpoPort).any fun port =>
    (r.tracked .ggpo port).any fun entry => r.reusable entry sessionPort roomToken
  | _ => false

/-- **The condition.** A start that is stale neither comes in, unless it finds the relay that it
is for, nor gives up. -/
def InTime (e : WorldEntry s) : Prop :=
  match e.act with
  | .arrive id => ∀ call ∈ e.pre.calls[id]?, call.verb = .start →
      reuses e.pre.manager.relays (.ofCall call.request) = false → ¬ e.pre.Stale call
  | .manage (.resume id _) => ∀ h ∈ e.pre.manager.handlers id, givesUp h = true →
      ∀ call ∈ e.pre.calls[id]?, ¬ e.pre.Stale call
  | _ => True

instance : DecidablePred (InTime (s := s)) := fun ⟨pre, act, out, post⟩ => by
  cases act with
  | arrive id => exact inferInstanceAs (Decidable (∀ call ∈ pre.calls[id]?, _ → _ → ¬ _))
  | manage act =>
    cases act with
    | resume id answer =>
      exact inferInstanceAs (Decidable (∀ h ∈ pre.manager.handlers id, _ → ∀ call ∈ _, ¬ _))
    | request | exit | listen => exact .isTrue trivial
  | create | visit | endRoom | deliver => exact .isTrue trivial

/-! ## What the manager tells and does -/

section Relays

variable {r : Relays} {kind : Kind} {port pid : ℕ} {wanted : Wanted}

/-- A relay that is recorded and listens is one that answers. -/
lemma answers_of_records (hr : r.Sound) (hrec : r.Records kind port pid)
    (hlistens : ∃ p ∈ r.procs[pid]?, p.listening = true) : r.answers kind port = true := by
  obtain ⟨entry, hentry, rfl⟩ := hrec
  obtain ⟨p, hp, hlistening⟩ := hlistens
  obtain ⟨p', hp', hkind, hport, -⟩ := hr kind port entry hentry
  obtain rfl : p' = p := Option.some.inj (hp'.symm.trans hp)
  exact List.any_eq_true.2 ⟨p', List.mem_of_getElem? hp, by simp [hkind, hport, hlistening]⟩

/-- What was there before a change and is recorded after it was recorded before. -/
lemma records_of_changes {r' : Relays} {req : Request} (h : r.Changes r' req)
    (hlt : pid < r.procs.length) (hrec : r'.Records kind port pid) : r.Records kind port pid := by
  obtain ⟨entry, hentry, rfl⟩ := hrec
  cases h with
  | kept _ hentries => exact ⟨entry, hentries kind port entry hentry, rfl⟩
  | spawned _ hentries =>
    rcases hentries kind port entry hentry with hold | ⟨hnew, -⟩
    · exact ⟨entry, hold, rfl⟩
    · omega

/-- A relay that is spawned touches none but the one that is recorded for its port. -/
lemma spares_spawn (hno : ¬ r.Records kind port pid) (secret : Text) (sessionPort : Option ℤ) :
    ¬ Tells r (r.spawn kind port secret sessionPort) pid ∧ ∀ k q, r.Records k q pid →
      (r.spawn kind port secret sessionPort).Records k q pid := by
  constructor
  · rintro ⟨p, p', hp, hp', htold, htold'⟩
    have hlt := (List.getElem?_eq_some_iff.1 hp).1
    rw [Relays.getElem?_spawn, if_neg (by omega), hp] at hp'
    obtain rfl := Option.some.inj hp'
    rw [htold] at htold'
    cases htold'
  · rintro k q ⟨entry, hentry, rfl⟩
    refine ⟨entry, ?_, rfl⟩
    rw [Relays.tracked_spawn, if_neg]
    · exact hentry
    · rintro ⟨rfl, rfl⟩
      exact hno ⟨entry, hentry, rfl⟩

lemma spares_stop (hno : ¬ r.Records kind port pid) : ¬ Tells r (r.stop kind port) pid ∧
    ∀ k q, r.Records k q pid → (r.stop kind port).Records k q pid := by
  have hstop : r.stop kind port = r ∨ r.stop kind port = r.stop kind port ∨
      r.stop kind port = r.restart kind port ⟨[], none⟩ := .inr (.inl rfl)
  exact Relays.spares_of_not_records hstop hno

/-- A start that finds its relay does nothing to it. -/
lemma accept_of_reuses {req : Request} (h : reuses r req = true) : (r.accept req).1 = r := by
  cases req with
  | postGgpo n sessionPort roomToken =>
    obtain ⟨port, hport, hentry⟩ := (Option.any_eq_true _ _).1 h
    obtain ⟨entry, hentry, hreuse⟩ := (Option.any_eq_true _ _).1 hentry
    simp only [Relays.accept, hport, hentry, hreuse, if_true]
    split <;> rfl
  | postSession | delete | health => cases h

end Relays

lemma ofCall_look {call : Call s} (h : call.verb = .look) :
    Request.ofCall call.request = .health call.kind call.port := by
  unfold Call.verb Call.kind Call.port at *
  cases hrequest : call.request <;> rw [hrequest] at h <;> first | rfl | cases h

/-- The handler of a look waits for its probe. -/
lemma eq_of_serves_health {h : Handler} {kind : Kind} {port : ℕ}
    (hserves : h.Serves (.health kind port)) :
    h.stage = .health ∧ h.kind = kind ∧ h.port = port := by
  obtain ⟨k, q, wanted, stage⟩ := h
  cases stage with
  | health =>
    obtain ⟨rfl, rfl⟩ := Request.health.inj hserves
    exact ⟨rfl, rfl, rfl⟩
  | stopping reason => cases reason <;> cases hserves
  | settling | probing | pausing => cases hserves

/-- What a look is answered. -/
lemma accept_look {r : Relays} {kind : Kind} {port : ℕ} {reply : Reply}
    (h : (r.accept (.health kind port)).2 = .inr reply) :
    reply = .health port false false ∧ r.tracked kind port = none := by
  simp only [Relays.accept] at h
  split_ifs at h with hsome
  · exact ⟨(Sum.inr.inj h).symm, by simpa using hsome⟩

/-- A health answer is good when it tells that the relay is up. -/
lemma getHealth_health (port : ℕ) (running listening : Bool) :
    (getHealth (Reply.health port running listening).http).good =
      isUp (.health port running listening) := by
  cases running <;> cases listening <;> rfl

/-! ## What a handler does between its look and its start -/

/-- A handler starts a relay only after a look at it that was not good. -/
lemma look_of_next {room : RoomRecord} {purpose : Purpose} {reply : HttpReply}
    {stage stage' : VisitStage} (h : stage.next room purpose reply = some stage')
    (hverb : verbOf (stage'.awaited room) = .start) :
    verbOf (stage.awaited room) = .look ∧ (getHealth reply).good = false ∧
      kindOf (stage'.awaited room) = kindOf (stage.awaited room) ∧
      portOf (stage'.awaited room) = portOf (stage.awaited room) := by
  -- what follows a restart is a look
  have hlast (h : lastLook room = some stage') : False := by
    unfold lastLook at h
    split_ifs at h
    obtain rfl := Option.some.inj h
    cases hverb
  have hensure {relay : Health} {restarted : Bool} {next : EnsureStage}
      (h : ensureGgpoRelaySession room relay restarted = .await next)
      (hverb : verbOf (next.awaited room) = .start) : False := by
    unfold ensureGgpoRelaySession at h
    split_ifs at h
    obtain rfl := EnsureStep.await.inj h
    cases hverb
  cases stage with
  | ensuring stage =>
    simp only [VisitStage.next] at h
    split at h
    · rename_i next hnext
      obtain rfl := Option.some.inj h
      cases stage with
      | health =>
        simp only [ensureRelaySession] at hnext
        split_ifs at hnext with hgood hhash
        · exact (hensure hnext hverb).elim
        · cases hnext
        · obtain rfl := EnsureStep.await.inj hnext
          exact ⟨rfl, by simpa using hgood, rfl, rfl⟩
      | after =>
        simp only [ensureRelaySession] at hnext
        split_ifs at hnext
        · exact (hensure hnext hverb).elim
        · cases hnext
      | ggpoHealth | ggpoAfter =>
        simp only [ensureRelaySession] at hnext
        split_ifs at hnext with hgood
        · cases hnext
        · obtain rfl := EnsureStep.await.inj hnext
          exact ⟨rfl, by simpa using hgood, rfl, rfl⟩
      | ggpoAfterRetry =>
        simp only [ensureRelaySession] at hnext
        split_ifs at hnext <;> cases hnext
      | start | ggpoStart | ggpoRetry =>
        simp only [ensureRelaySession] at hnext
        split at hnext
        · obtain rfl := EnsureStep.await.inj hnext
          cases hverb
        · cases hnext
        · cases hnext
    · split_ifs at h
      exact (hlast h).elim
    · cases h
  | lookSession => exact (hlast h).elim
  | lookGgpo => cases h

/-- A handler at work on a room stops nothing. -/
lemma verbOf_awaited_ne (room : RoomRecord) (stage : VisitStage) :
    verbOf (stage.awaited room) ≠ .stop := by
  cases stage with
  | ensuring stage => cases stage <;> simp [VisitStage.awaited, EnsureStage.awaited, verbOf]
  | lookSession | lookGgpo => simp [VisitStage.awaited, verbOf]

/-! ## What holds while starts come in in time -/

/-- The task of a handler that has not been overtaken. -/
def Task.current : Task s → Bool
  | .visit v => !v.overtaken
  | _ => false

/-- The request is a start on its way, or a look after which there will be one. -/
def Call.Acts (call : Call s) : Prop :=
  match call.status with
  | .sent | .arrived => call.verb = .start
  | .answered reply => call.verb = .look ∧ (getHealth reply.http).good = false
  | .received => False

/-- **Invariant.** A handler that is about to start a relay, and has not been overtaken, comes upon
none that was reported. -/
structure Clear (log : List (WorldEntry s)) (w : World s) : Prop where
  listens : ∀ owner pid, Reported log owner pid → w.Listens pid
  clear : ∀ (id : ℕ) (call : Call s), w.calls[id]? = some call → call.Acts →
    call.task.current = true → ∀ pid, Reported log call.owner pid →
      ¬ w.manager.relays.Records call.kind call.port pid

section Tasks

variable {task : Task s} {call : Call s}

lemma current_mark_true : (task.mark true).current = false := by
  cases task <;> rfl

lemma current_of_overtake {owner : ℕ} {kind : Kind}
    (h : (call.overtake owner kind).task.current = true) :
    call.overtake owner kind = call ∧ ¬ (call.owner = owner ∧ call.kind = kind) := by
  unfold Call.overtake at h ⊢
  split_ifs at h ⊢ with hsame
  · rw [current_mark_true] at h
    cases h
  · exact ⟨rfl, hsame⟩

end Tasks

/-- What was reported before the last step still listens after it. -/
lemma Reported.listens_post {log : List (WorldEntry s)} {e : WorldEntry s} {owner pid : ℕ}
    (h : Reported (e :: log) owner pid) : e.post.Listens pid := by
  rcases h with ⟨-, hlistens⟩ | ⟨hlistens, -⟩
  · exact hlistens
  · exact hlistens

namespace Clear

variable {w w' : World s} {log : List (WorldEntry s)}

/-- The step is taken for no request, and every request that acts is one that did, for the same
relay. -/
lemma keep (h : Clear log w) {a : WorldAction} (hserved : a.served? = none)
    (hrecords : ∀ kind port pid, w'.manager.relays.Records kind port pid →
      w.manager.relays.Records kind port pid)
    (hcalls : ∀ (id : ℕ) (call' : Call s), w'.calls[id]? = some call' → call'.Acts →
      call'.task.current = true → ∃ (id' : ℕ) (call : Call s), w.calls[id']? = some call ∧
        call.Acts ∧ call.task.current = true ∧ call.owner = call'.owner ∧
        call.kind = call'.kind ∧ call.port = call'.port) : Clear (⟨w, a, (), w'⟩ :: log) w' := by
  refine ⟨fun owner pid hrep => hrep.listens_post,
    fun id call' hcall' hacts hcurrent pid hrep => ?_⟩
  obtain ⟨id', call, hcall, hacts', hcurrent', howner, hkind, hport⟩ :=
    hcalls id call' hcall' hacts hcurrent
  intro hrec
  rcases hrep with ⟨⟨id'', hid, -⟩, -⟩ | ⟨-, hrep⟩
  · have hid' : a.served? = some id'' := hid
    rw [hserved] at hid'
    cases hid'
  · refine h.clear id' call hcall hacts' hcurrent' pid (howner ▸ hrep) ?_
    rw [hkind, hport]
    exact hrecords _ _ _ hrec

/-- Requests are sent that are no starts. -/
lemma send (h : Clear log w) {a : WorldAction} (hserved : a.served? = none) {w₁ : World s}
    (hcalls : w₁.calls = w.calls) (hmanager : w₁.manager = w.manager) {owner : ℕ}
    {tasks : List (Task s)} (htasks : ∀ task ∈ tasks, task.current = true →
      verbOf task.request ≠ .start) :
    Clear (⟨w, a, (), w₁.send owner tasks⟩ :: log) (w₁.send owner tasks) := by
  refine h.keep hserved (fun kind port pid hrec => ?_) fun id call' hcall' hacts hcurrent => ?_
  · rw [← hmanager]
    exact hrec
  · rcases World.getElem?_send.1 hcall' with hold | ⟨-, task, htask, rfl⟩
    · rw [hcalls] at hold
      exact ⟨id, call', hold, hacts, hcurrent, rfl, rfl, rfl⟩
    · exact absurd hacts (htasks task (List.mem_of_getElem? htask) hcurrent)

/-- A request of the broker arrives at the manager. -/
lemma setStatus (h : Clear log w) {id : ℕ} {call : Call s} (hcall : w.calls[id]? = some call)
    (hsent : call.status = .sent) : Clear log (w.setStatus id .arrived) := by
  refine ⟨h.listens, fun id' call' hcall' hacts hcurrent pid hrep => ?_⟩
  rw [World.getElem?_setStatus, Option.map_eq_some_iff] at hcall'
  obtain ⟨old, hold, rfl⟩ := hcall'
  split_ifs at hacts hcurrent hrep ⊢ with heq
  · subst heq
    obtain rfl : old = call := Option.some.inj (hold.symm.trans hcall)
    refine h.clear id old hold ?_ hcurrent pid hrep
    rw [Call.Acts, hsent]
    exact hacts
  · exact h.clear id' old hold hacts hcurrent pid hrep

/-- **Step lemma.** The handler of a request comes to something. -/
lemma serve (h : Clear log w) {a : WorldAction} {id : ℕ} {call : Call s} {o : Outcome}
    {w₀ : World s} (hserved : a.served? = some id) (hcall : w.calls[id]? = some call)
    (hstatus : call.status = .arrived) (hsound : o.1.Sound) {req : Request}
    (hchanges : w.manager.relays.Changes o.1 req)
    (hlook : ∀ reply, o.2 = .inr reply → call.verb = .look →
      (getHealth reply.http).good = isUp reply ∧
        (isUp reply = false → ∀ pid, o.1.Records call.kind call.port pid →
          ¬ ∃ p ∈ o.1.procs[pid]?, p.listening = true)) :
    Clear (⟨w₀, a, (), w.serve id o⟩ :: log) (w.serve id o) := by
  refine ⟨fun owner pid hrep => hrep.listens_post,
    fun id' call' hcall' hacts hcurrent pid hrep => ?_⟩
  rw [World.serve_relays]
  intro hrec
  have hold {call₀ : Call s} (hcall₀ : w.calls[id']? = some call₀) (hacts : call₀.Acts)
      (hcurrent : call₀.task.current = true) (hrep : Reported log call₀.owner pid)
      (hrec : o.1.Records call₀.kind call₀.port pid) : False := by
    obtain ⟨p, hp, -⟩ := h.listens _ _ hrep
    have hlt := (List.getElem?_eq_some_iff.1 hp).1
    exact h.clear id' call₀ hcall₀ hacts hcurrent pid hrep (records_of_changes hchanges hlt hrec)
  have hlistens : ∃ p ∈ o.1.procs[pid]?, p.listening = true := by
    have hlistens := hrep.listens_post
    rwa [World.Listens, World.serve_relays] at hlistens
  obtain ⟨r, hd | reply⟩ := o
  · -- The handler goes on, and nothing is reported.
    rw [World.serve_inl] at hcall'
    rcases hrep with ⟨⟨id₀, hid₀, told, htold, -, hup, -⟩, -⟩ | ⟨-, hrep⟩
    · obtain rfl : id = id₀ := Option.some.inj (hserved.symm.trans hid₀)
      have htold' : w.calls[id]? = some told := htold
      obtain rfl : told = call := Option.some.inj (htold'.symm.trans hcall)
      rw [hstatus] at hup
      cases hup
    · exact hold hcall' hacts hcurrent hrep hrec
  · rw [World.serve_inr] at hcall'
    have hrelabels : w.Relabels (w.answer id reply) :=
      World.relabels_answer hcall (by simp [hstatus])
    obtain ⟨call₀, hcall₀, hbecomes⟩ := hrelabels.back hcall'
    rw [World.getElem?_answer hcall, hcall₀, Option.map_some] at hcall'
    by_cases heq : id = id'
    · -- The answer itself: a start is through, and a look that is not good has found nothing.
      subst heq
      obtain rfl : call₀ = call := Option.some.inj (hcall₀.symm.trans hcall)
      have hstatus' : call'.status = .answered reply := by
        rw [← Option.some.inj hcall']
        simp [Call.answer]
      rw [Call.Acts, hstatus', Call.verb, hbecomes.request] at hacts
      obtain ⟨hverb, hbad⟩ := hacts
      obtain ⟨hgood, hdown⟩ := hlook reply rfl hverb
      rw [Call.kind, Call.port, hbecomes.request] at hrec
      exact hdown (hgood ▸ hbad) pid hrec hlistens
    · -- Another request: it is unchanged, and the report is not for its relay.
      simp only [if_neg heq, Option.some.injEq] at hcall'
      have hsame : call' = call₀ ∧
          (isUp reply = true → ¬ (call₀.owner = call.owner ∧ call₀.kind = call.kind)) := by
        split_ifs at hcall' with hup
        · rw [← hcall'] at hcurrent ⊢
          obtain ⟨h₁, h₂⟩ := current_of_overtake hcurrent
          exact ⟨h₁, fun _ => h₂⟩
        · exact ⟨hcall'.symm, fun h => absurd h hup⟩
      obtain ⟨rfl, hother⟩ := hsame
      rcases hrep with ⟨⟨id₀, hid₀, told, htold, howner, hup, htoldRec⟩, -⟩ | ⟨-, hrep⟩
      · obtain rfl : id = id₀ := Option.some.inj (hserved.symm.trans hid₀)
        have htold' : (w.answer id reply).calls[id]? = some told := by
          rw [← World.serve_inr]
          exact htold
        obtain ⟨call₁, hcall₁, hbecomes₁⟩ := hrelabels.back htold'
        obtain rfl : call₁ = call := Option.some.inj (hcall₁.symm.trans hcall)
        have hstatus' : told.status = .answered reply := by
          rw [World.getElem?_answer hcall, hcall, Option.map_some] at htold'
          rw [← Option.some.inj htold']
          simp [Call.answer]
        rw [hstatus'] at hup
        rw [World.serve_relays] at htoldRec
        obtain ⟨hkind, -⟩ := hsound.records_unique htoldRec hrec
        exact hother hup ⟨howner.symm.trans hbecomes₁.owner, hkind.trans hbecomes₁.kind⟩
      · exact hold hcall₀ hacts hcurrent hrep hrec

/-- **Step lemma.** A step of the manager. -/
lemma handled (h : Clear log w) (ht : Ties w) {a : WorldAction} (hh : w.Handled a w') :
    Clear (⟨w, a, (), w'⟩ :: log) w' := by
  cases hh with
  | @arrive id call hcall hsent hfree =>
    have hcall' : (w.setStatus id .arrived).calls[id]? = some { call with status := .arrived } := by
      rw [World.getElem?_setStatus, hcall, Option.map_some, if_pos rfl]
    have ho := w.manager.relays.accepted (.ofCall call.request)
    refine (h.setStatus hcall hsent).serve rfl hcall' rfl (ho.sound ht.sound.relays) ho.changes ?_
    intro reply hreply hverb
    have hreq : Request.ofCall call.request = .health call.kind call.port := ofCall_look hverb
    rw [hreq] at hreply ⊢
    obtain ⟨rfl, hnone⟩ := accept_look hreply
    refine ⟨getHealth_health _ _ _, ?_⟩
    rintro - pid ⟨entry, hentry, -⟩
    rw [Relays.accept_health] at hentry
    exact absurd (hentry.symm.trans hnone) (by simp)
  | @resume id answer hd hhd hprobe =>
    obtain ⟨call, hcall, hstatus, hserves⟩ := ht.handlers id hd hhd
    have hfits := ht.sound.handlers id hd hhd
    have ho := w.manager.relays.resumed hd answer
    refine h.serve rfl hcall hstatus (ho.sound ht.sound.relays) (ho.changes hserves hfits) ?_
    intro reply hreply hverb
    rw [ofCall_look hverb] at hserves
    obtain ⟨hstage, hkind, hport⟩ := eq_of_serves_health hserves
    simp only [Relays.resume, hstage] at hreply ⊢
    obtain rfl := Sum.inr.inj hreply
    refine ⟨getHealth_health _ _ _, fun hdown pid hrec hlistens => ?_⟩
    have hup : answer = true :=
      (hprobe (by simp [Handler.probes, hstage])).1
        (hkind ▸ hport ▸ answers_of_records ht.sound.relays hrec hlistens)
    rw [hup] at hdown
    cases hdown
  | @exit pid =>
    refine h.keep rfl (fun kind port pid' hrec => ?_) fun id call' hcall' hacts hcurrent =>
      ⟨id, call', hcall', hacts, hcurrent, rfl, rfl, rfl⟩
    obtain ⟨entry, hentry, rfl⟩ := hrec
    exact ⟨entry, (Relays.tracked_exit_eq_some_iff.1 hentry).1, rfl⟩
  | listen hlisten =>
    obtain ⟨rfl, -⟩ := Relays.listen_eq_some hlisten
    exact h.keep rfl (fun _ _ _ hrec => hrec) fun id call' hcall' hacts hcurrent =>
      ⟨id, call', hcall', hacts, hcurrent, rfl, rfl, rfl⟩

/-- An answer is delivered, and if that makes a handler start a relay, it has looked at it. -/
lemma receive (h : Clear log w) {a : WorldAction} {id : ℕ} {call : Call s} {tasks : List (Task s)}
    (hserved : a.served? = none) (hcall : w.calls[id]? = some call)
    (hmanager : w'.manager = w.manager)
    (hcalls : w'.calls = ((w.setStatus id .received).send call.owner tasks).calls)
    (htasks : ∀ task ∈ tasks, verbOf task.request = .start → task.current = true →
      call.Acts ∧ call.task.current = true ∧ kindOf task.request = call.kind ∧
        portOf task.request = call.port) : Clear (⟨w, a, (), w'⟩ :: log) w' := by
  refine h.keep hserved (fun kind port pid hrec => hmanager ▸ hrec) ?_
  intro id' call' hcall' hacts hcurrent
  rw [hcalls] at hcall'
  rcases World.getElem?_send.1 hcall' with hold | ⟨-, task, htask, rfl⟩
  · rw [World.getElem?_setStatus, Option.map_eq_some_iff] at hold
    obtain ⟨old, hold, rfl⟩ := hold
    split_ifs at hacts hcurrent ⊢ with heq
    · exact hacts.elim
    · exact ⟨id', old, hold, hacts, hcurrent, rfl, rfl, rfl⟩
  · obtain ⟨hacts', hcurrent', hkind, hport⟩ :=
      htasks task (List.mem_of_getElem? htask) hacts hcurrent
    exact ⟨id, call, hcall, hacts', hcurrent', rfl, hkind.symm, hport.symm⟩

/-- **Step lemma.** An answer is delivered. -/
lemma deliver (h : Clear log w) {id : ℕ} {draws : Draws} {call : Call s} {reply : Reply}
    (hcall : w.calls[id]? = some call) (hstatus : call.status = .answered reply)
    (hd : w.Delivered id call reply w') : Clear (⟨w, .deliver id draws, (), w'⟩ :: log) w' := by
  have hnil : ((w.setStatus id .received).send call.owner []).calls =
      (w.setStatus id .received).calls := by rw [World.send_nil]
  cases hd with
  | done | commit | failed => exact h.receive rfl hcall rfl hnil.symm (List.forall_mem_nil _)
  | @goOn v stage htask hnext =>
    refine h.receive rfl hcall rfl rfl fun task htask' hverb hcurrent => ?_
    obtain rfl := List.mem_singleton.1 htask'
    obtain ⟨hlook, hbad, hkind, hport⟩ := look_of_next hnext hverb
    refine ⟨?_, ?_, ?_, ?_⟩
    · rw [Call.Acts, hstatus, Call.verb, Call.request, htask]
      exact ⟨hlook, hbad⟩
    · rw [htask]
      exact hcurrent
    · rw [Call.kind, Call.request, htask]
      exact hkind
    · rw [Call.port, Call.request, htask]
      exact hport
  | await =>
    refine h.receive rfl hcall rfl rfl fun task htask _ hcurrent => ?_
    obtain rfl := List.mem_singleton.1 htask
    cases hcurrent
  | thrown =>
    refine h.receive rfl hcall rfl rfl fun task htask _ hcurrent => ?_
    obtain ⟨request, -, rfl⟩ := List.mem_map.1 htask
    cases hcurrent

/-- **Step lemma.** Any step. -/
lemma step (h : Clear log w) (ht : Ties w) {a : WorldAction} (hm : w.Moves a w') :
    Clear (⟨w, a, (), w'⟩ :: log) w' := by
  cases hm with
  | refused =>
    exact h.keep rfl (fun _ _ _ hrec => hrec) fun id call' hcall' hacts hcurrent =>
      ⟨id, call', hcall', hacts, hcurrent, rfl, rfl, rfl⟩
  | begun =>
    refine h.send (by rfl) (by rfl) (by rfl) fun task htask hcurrent => ?_
    obtain rfl := List.mem_singleton.1 htask
    cases hcurrent
  | @visit code purpose room hfind =>
    refine h.send (by rfl) (by rfl) (by rfl) fun task htask _ => ?_
    obtain rfl := List.mem_singleton.1 htask
    cases purpose <;> simp [Task.request, Purpose.first, VisitStage.awaited, EnsureStage.awaited,
      verbOf]
  | endRoom hfind =>
    refine h.send (by rfl) (by rfl) (by rfl) fun task htask hcurrent => ?_
    obtain ⟨request, -, rfl⟩ := List.mem_map.1 htask
    cases hcurrent
  | handled hh => exact h.handled ht hh
  | delivered hcall hstatus hd => exact h.deliver hcall hstatus hd

end Clear

/-- While starts come in in time, no handler that has not been overtaken comes upon a relay that was
reported. -/
lemma clear_of_run {log : List (WorldEntry s)} {w : World s} (h : (worldLTS s).Run log w) :
    Books w ∧ Ties w ∧ Clear log w := by
  refine h.invariant_of_step (fun log w => Books w ∧ Ties w ∧ Clear log w) ?_ ?_
  · rintro w rfl
    obtain ⟨hb, ht⟩ := books_of_run ⟨.new, rfl, .refl⟩
    exact ⟨hb, ht, ⟨fun _ _ hrep => hrep.elim, fun _ _ _ _ _ _ hrep => hrep.elim⟩⟩
  · rintro log ⟨w, a, ⟨⟩, w'⟩ ⟨hb, ht, hclear⟩ hs
    have hm := World.moves hs
    exact ⟨hb.step ht hm, ht.step hm, hclear.step ht hm⟩

/-! ## Every step -/

section Every

variable {w w' : World s} {log : List (WorldEntry s)}

/-- The request of an open room that a step is taken for is one of a handler at work on it. -/
lemma exists_visit (hb : Books w) {id : ℕ} {call : Call s} (hcall : w.calls[id]? = some call)
    (hopened : w.Opened call.owner) (hstatus : call.status ≠ .received) :
    ∃ v, call.task = .visit v := by
  obtain ⟨life, hlife, hphase⟩ := hopened
  obtain ⟨life', hlife', hallows⟩ := hb.calls id call hcall
  obtain rfl : life' = life := Option.some.inj (hlife'.symm.trans hlife)
  have hnot {phase : LifePhase} (h : life'.phase = phase) (hno : phase.isOpened = false) :
      False := by
    rw [h, hno] at hphase
    cases hphase
  obtain ⟨owner, task, status⟩ := call
  cases task with
  | creation c =>
    obtain ⟨id', hid'⟩ := hallows.2 hstatus
    exact (hnot hid' rfl).elim
  | visit v => exact ⟨v, rfl⟩
  | stop request => exact (hnot hallows.1 rfl).elim

/-- A start in time comes upon no relay that was reported. -/
lemma not_records_of_not_stale (h : Clear log w) (ht : Ties w) {id : ℕ} {call : Call s} {v : Visit}
    (hcall : w.calls[id]? = some call) (htask : call.task = .visit v) (hacts : call.Acts)
    (hstale : ¬ w.Stale call) {pid : ℕ} (hrep : Reported log call.owner pid) :
    ¬ w.manager.relays.Records call.kind call.port pid := by
  intro hrec
  have hanswers := answers_of_records ht.sound.relays hrec (h.listens _ _ hrep)
  cases hv : v.overtaken with
  | false => exact h.clear id call hcall hacts (by rw [htask, Task.current, hv]; rfl) pid hrep hrec
  | true => exact hstale ⟨by rw [htask]; exact hv, hanswers⟩

/-- A step in time leaves the relays alone that were reported. -/
lemma spares_of_inTime (h : Clear log w) (hb : Books w) (ht : Ties w) {a : WorldAction} {out : Unit}
    (hh : w.Handled a w') (hin : InTime ⟨w, a, out, w'⟩) {id : ℕ} {call : Call s}
    (hserved : a.served? = some id) (hcall : w.calls[id]? = some call)
    (hopened : w.Opened call.owner) {pid : ℕ} (hrep : Reported log call.owner pid) :
    ¬ Tells w.manager.relays w'.manager.relays pid ∧ ∀ kind port,
      w.manager.relays.Records kind port pid → w'.manager.relays.Records kind port pid := by
  have hself : ¬ Tells w.manager.relays w.manager.relays pid ∧ ∀ kind port,
      w.manager.relays.Records kind port pid → w.manager.relays.Records kind port pid :=
    ⟨not_tells_self _ pid, fun _ _ hrec => hrec⟩
  obtain ⟨life, hlife, -⟩ := hb.calls id call hcall
  have hstarts (hv : call.verb = .start) := starts?_ofCall hb hcall hlife hv
  cases hh with
  | @arrive id' call' hcall' hsent hfree =>
    obtain rfl : id' = id := Option.some.inj hserved
    obtain rfl : call' = call := Option.some.inj (hcall'.symm.trans hcall)
    -- the room is there, so the request is one of a handler at work on it
    obtain ⟨v, htask⟩ := exists_visit hb hcall hopened (by simp [hsent])
    rw [World.serve_relays]
    cases hv : call'.verb with
    | look =>
      rw [ofCall_look hv, Relays.accept_health]
      exact hself
    | stop =>
      rw [Call.verb, Call.request, htask] at hv
      exact absurd hv (verbOf_awaited_ne v.room v.stage)
    | start =>
      -- a relay that is reused is left alone, and one that is not was not reported
      cases hreuses : reuses w.manager.relays (.ofCall call'.request) with
      | true =>
        rw [accept_of_reuses hreuses]
        exact hself
      | false =>
        refine Relays.spares_of_not_records (Relays.restart_of_started (hstarts hv)) ?_
        refine not_records_of_not_stale h ht hcall htask ?_ (hin call' hcall hv hreuses) hrep
        rw [Call.Acts, hsent]
        exact hv
  | @resume id' answer hd hhd hprobe =>
    obtain rfl : id' = id := Option.some.inj hserved
    obtain ⟨call', hcall', harrived, hserves⟩ := ht.handlers id' hd hhd
    obtain rfl : call' = call := Option.some.inj (hcall'.symm.trans hcall)
    obtain ⟨v, htask⟩ := exists_visit hb hcall hopened (by simp [harrived])
    have hstop {pid' : ℕ} {reused : Bool} (hstage : hd.stage = .pausing pid' reused 0) :
        ¬ w.manager.relays.Records hd.kind hd.port pid := by
      have hv : call'.verb = .start := by
        rw [Handler.Serves, hstage] at hserves
        exact verb_eq_start hserves
      obtain ⟨hkind, hport', -⟩ := hserves.eq_of_starts (hstarts hv)
      rw [hkind, hport']
      refine not_records_of_not_stale h ht hcall htask ?_ (hin hd hhd ?_ call' hcall) hrep
      · rw [Call.Acts, harrived]
        exact hv
      · simp [givesUp, hstage]
    rw [World.serve_relays]
    have ho := w.manager.relays.resumed hd answer
    generalize w.manager.relays.resume hd answer = o at ho ⊢
    cases ho with
    | launch hstage hanswer =>
      have hkind : hd.kind = .ggpo := by
        have hfits := ht.sound.handlers id' hd hhd
        rwa [Handler.Fits, hstage] at hfits
      refine spares_spawn (fun hrec => ?_) _ _
      have hup := (hprobe (by simp [Handler.probes, hstage])).1 (hkind ▸
        answers_of_records ht.sound.relays hrec (h.listens _ _ hrep))
      rw [hanswer] at hup
      cases hup
    | giveUpSession hstage hkind | giveUpGgpo hstage hkind =>
      exact spares_stop (hkind ▸ hstop hstage)
    | wait | succeed | gone | stopped | health => exact hself
  | exit | listen => cases hserved

end Every

end Service
end Sf4e
