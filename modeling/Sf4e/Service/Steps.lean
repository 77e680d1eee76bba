/-
# The steps of the two services

What the steps of a `World` do to its requests and lives, one lemma for each operation, and the
ways in which an answer can be delivered.
-/
import Sf4e.Service.World

namespace Sf4e
namespace Service

open Wire Trace Broker RelayManager

variable {s : VpsSettings}

/-! ## Calls -/

namespace Call

variable {call call' call'' : Call s}

@[simp] lemma request_mark (b : Bool) (task : Task s) : (task.mark b).request = task.request := by
  cases task <;> rfl

/-- The second call is the first one at a later time. -/
structure Becomes (call call' : Call s) : Prop where
  owner : call'.owner = call.owner
  task : call'.task = call.task ∨ ∃ b, call'.task = call.task.mark b
  received : call'.status = .received ↔ call.status = .received
  sent : call'.status = .sent → call.status = .sent

lemma Becomes.request (h : call.Becomes call') : call'.request = call.request := by
  rcases h.task with htask | ⟨b, htask⟩
  · rw [Call.request, htask, Call.request]
  · rw [Call.request, htask, request_mark, Call.request]

lemma Becomes.kind (h : call.Becomes call') : call'.kind = call.kind := by
  rw [Call.kind, h.request, Call.kind]

lemma Becomes.creation_iff (h : call.Becomes call') {c : Creation s.capacity} :
    call'.task = .creation c ↔ call.task = .creation c := by
  rcases h.task with htask | ⟨b, htask⟩
  · rw [htask]
  · rw [htask]
    cases call.task <;> simp [Task.mark]

lemma becomes_refl (call : Call s) : call.Becomes call := ⟨rfl, .inl rfl, Iff.rfl, id⟩

lemma Becomes.trans (h : call.Becomes call') (h' : call'.Becomes call'') : call.Becomes call'' := by
  refine ⟨h'.owner.trans h.owner, ?_, h'.received.trans h.received, h.sent ∘ h'.sent⟩
  rcases h'.task with htask' | ⟨b', htask'⟩
  · rw [htask']
    exact h.task
  · refine .inr ⟨b', ?_⟩
    rw [htask']
    rcases h.task with htask | ⟨b, htask⟩
    · rw [htask]
    · rw [htask]
      cases call.task <;> rfl

lemma becomes_overtake (call : Call s) (owner : ℕ) (kind : Kind) :
    call.Becomes (call.overtake owner kind) := by
  unfold overtake
  split
  · exact ⟨rfl, .inr ⟨true, rfl⟩, Iff.rfl, id⟩
  · exact becomes_refl call

lemma becomes_answer {reply : Reply} (h : call.status ≠ .received) :
    call.Becomes (call.answer reply) :=
  ⟨rfl, .inr ⟨false, rfl⟩, by simp [Call.answer, h], by simp [Call.answer]⟩

/-- The calls are one, apart from the delivery of the answer. -/
structure Same (call call' : Call s) : Prop where
  owner : call'.owner = call.owner
  request : call'.request = call.request
  sent : call'.status = .sent ↔ call.status = .sent

lemma same_refl (call : Call s) : call.Same call := ⟨rfl, rfl, Iff.rfl⟩

lemma Same.trans (h : call.Same call') (h' : call'.Same call'') : call.Same call'' :=
  ⟨h'.owner.trans h.owner, h'.request.trans h.request, h'.sent.trans h.sent⟩

lemma Same.verb (h : call.Same call') : call'.verb = call.verb := by
  rw [Call.verb, h.request, Call.verb]

lemma Same.kind (h : call.Same call') : call'.kind = call.kind := by
  rw [Call.kind, h.request, Call.kind]

lemma Same.port (h : call.Same call') : call'.port = call.port := by
  rw [Call.port, h.request, Call.port]

@[simp] lemma status_overtake (call : Call s) (owner : ℕ) (kind : Kind) :
    (call.overtake owner kind).status = call.status := by
  unfold overtake
  split <;> rfl

end Call

/-! ## Operations -/

namespace World

variable {w w' w'' : World s}

lemma getElem?_send {owner id : ℕ} {tasks : List (Task s)} {call : Call s} :
    (w.send owner tasks).calls[id]? = some call ↔ w.calls[id]? = some call ∨
      w.calls.length ≤ id ∧ ∃ task, tasks[id - w.calls.length]? = some task ∧
        call = ⟨owner, task, .sent⟩ := by
  simp only [send, List.getElem?_append]
  split_ifs with hlt
  · simp [hlt]
  · rw [List.getElem?_eq_none (by omega : w.calls.length ≤ id), List.getElem?_map,
      Option.map_eq_some_iff]
    constructor
    · rintro ⟨task, htask, rfl⟩
      exact .inr ⟨by omega, task, htask, rfl⟩
    · rintro (hno | ⟨-, task, htask, rfl⟩)
      · cases hno
      · exact ⟨task, htask, rfl⟩

@[simp] lemma send_nil (owner : ℕ) : w.send owner [] = w := by simp [send]

/-- A call that is there stays when others are sent. -/
lemma getElem?_send_of {owner id : ℕ} {tasks : List (Task s)} {call : Call s}
    (h : w.calls[id]? = some call) : (w.send owner tasks).calls[id]? = some call :=
  getElem?_send.2 (.inl h)

lemma exists_getElem?_send {owner : ℕ} {tasks : List (Task s)} {task : Task s}
    (h : task ∈ tasks) :
    ∃ id : ℕ, (w.send owner tasks).calls[id]? = some (Call.mk owner task .sent) := by
  obtain ⟨i, hi⟩ := List.mem_iff_getElem?.1 h
  have hnew : tasks[w.calls.length + i - w.calls.length]? = some task := by
    rw [Nat.add_sub_cancel_left, hi]
  exact ⟨w.calls.length + i, getElem?_send.2 (.inr ⟨Nat.le_add_right _ _, task, hnew, rfl⟩)⟩

lemma length_setStatus (id : ℕ) (status : Status) :
    (w.setStatus id status).calls.length = w.calls.length := by
  simp [setStatus]

lemma getElem?_setStatus {id id' : ℕ} {status : Status} :
    (w.setStatus id status).calls[id']? = (w.calls[id']?).map fun call =>
      if id = id' then { call with status := status } else call := by
  simp only [setStatus, List.getElem?_modify]
  rfl

/-- The calls of the other lives are left alone. -/
lemma getElem?_send_of_ne {owner id : ℕ} {tasks : List (Task s)} {call : Call s}
    (h : call.owner ≠ owner) :
    (w.send owner tasks).calls[id]? = some call ↔ w.calls[id]? = some call := by
  rw [getElem?_send]
  constructor
  · rintro (hcall | ⟨-, task, -, rfl⟩)
    · exact hcall
    · exact absurd rfl h
  · exact .inl

lemma getElem?_setStatus_of_ne {id id' : ℕ} {status : Status} {call call' : Call s}
    (hcall : w.calls[id]? = some call) (h : call'.owner ≠ call.owner) :
    (w.setStatus id status).calls[id']? = some call' ↔ w.calls[id']? = some call' := by
  rw [getElem?_setStatus, Option.map_eq_some_iff]
  constructor
  · rintro ⟨old, hold, rfl⟩
    split_ifs at h ⊢ with heq
    · subst heq
      rw [hcall] at hold
      obtain rfl := Option.some.inj hold
      exact absurd rfl h
    · exact hold
  · intro hcall'
    refine ⟨call', hcall', if_neg ?_⟩
    rintro rfl
    rw [hcall] at hcall'
    obtain rfl := Option.some.inj hcall'
    exact h rfl

lemma getElem?_setPhase {owner i : ℕ} {phase : LifePhase} :
    (w.setPhase owner phase).lives[i]? = (w.lives[i]?).map fun life =>
      if owner = i then { life with phase := phase } else life := by
  simp only [setPhase, List.getElem?_modify]
  rfl

lemma lives_setPhase_of_ne {owner i : ℕ} {phase : LifePhase} (h : i ≠ owner) :
    (w.setPhase owner phase).lives[i]? = w.lives[i]? := by
  rw [getElem?_setPhase]
  simp only [if_neg (Ne.symm h), Option.map_id']

lemma lives_setPhase_self {owner : ℕ} {phase : LifePhase} {life : Life s}
    (h : w.lives[owner]? = some life) :
    (w.setPhase owner phase).lives[owner]? = some { life with phase := phase } := by
  rw [getElem?_setPhase, h, Option.map_some, if_pos rfl]

/-- Nothing happens but that requests go on. -/
structure Relabels (w w' : World s) : Prop where
  lives : w'.lives = w.lives
  registry : w'.registry = w.registry
  calls : ∀ id : ℕ, ∃ g : Call s → Call s, w'.calls[id]? = (w.calls[id]?).map g ∧
    ∀ call : Call s, w.calls[id]? = some call → call.Becomes (g call)

lemma Relabels.back (h : w.Relabels w') {id : ℕ} {call' : Call s}
    (hcall' : w'.calls[id]? = some call') : ∃ call, w.calls[id]? = some call ∧
      call.Becomes call' := by
  obtain ⟨g, hg, hbecomes⟩ := h.calls id
  rw [hg] at hcall'
  obtain ⟨call, hcall, rfl⟩ := Option.map_eq_some_iff.1 hcall'
  exact ⟨call, hcall, hbecomes call hcall⟩

lemma Relabels.forth (h : w.Relabels w') {id : ℕ} {call : Call s}
    (hcall : w.calls[id]? = some call) : ∃ call', w'.calls[id]? = some call' ∧
      call.Becomes call' := by
  obtain ⟨g, hg, hbecomes⟩ := h.calls id
  exact ⟨g call, by rw [hg, hcall, Option.map_some], hbecomes call hcall⟩

lemma relabels_refl (w : World s) : w.Relabels w :=
  ⟨rfl, rfl, fun _ => ⟨id, by simp, fun call _ => call.becomes_refl⟩⟩

lemma Relabels.trans (h : w.Relabels w') (h' : w'.Relabels w'') : w.Relabels w'' := by
  refine ⟨h'.lives.trans h.lives, h'.registry.trans h.registry, fun id => ?_⟩
  obtain ⟨g, hg, hbecomes⟩ := h.calls id
  obtain ⟨g', hg', hbecomes'⟩ := h'.calls id
  refine ⟨g' ∘ g, by rw [hg', hg, Option.map_map], fun call hcall => ?_⟩
  have hcall' : w'.calls[id]? = some (g call) := by rw [hg, hcall, Option.map_some]
  exact (hbecomes call hcall).trans (hbecomes' _ hcall')

/-- A call that has not been received goes on. -/
lemma relabels_setStatus {id : ℕ} {call : Call s} {status : Status}
    (hcall : w.calls[id]? = some call) (hsent : call.status = .sent)
    (hstatus : status ≠ .received) : w.Relabels (w.setStatus id status) := by
  refine ⟨rfl, rfl, fun id' => ⟨_, getElem?_setStatus, fun call' hcall' => ?_⟩⟩
  split_ifs with heq
  · obtain rfl := heq
    obtain rfl : call' = call := Option.some.inj (hcall'.symm.trans hcall)
    exact ⟨rfl, .inl rfl, by simp [hstatus, hsent], fun _ => hsent⟩
  · exact call'.becomes_refl

/-! ## What the broker leaves alone -/

/-- The broker takes a step: calls are sent or their answers delivered, and lives go on. -/
structure Extends (w w' : World s) : Prop where
  manager : w'.manager = w.manager
  spawnedFor : w'.spawnedFor = w.spawnedFor
  length_le : w.calls.length ≤ w'.calls.length
  forth : ∀ (id : ℕ) (call : Call s), w.calls[id]? = some call → ∃ call' : Call s,
    w'.calls[id]? = some call' ∧ call.Same call'
  back : ∀ (id : ℕ) (call' : Call s), w'.calls[id]? = some call' →
    (∃ call : Call s, w.calls[id]? = some call ∧ call.Same call') ∨
      w.calls.length ≤ id ∧ call'.status = .sent
  lives : ∀ (i : ℕ) (life : Life s), w.lives[i]? = some life →
    ∃ phase, w'.lives[i]? = some { life with phase := phase }

lemma Extends.trans (h : w.Extends w') (h' : w'.Extends w'') : w.Extends w'' := by
  refine ⟨h'.manager.trans h.manager, h'.spawnedFor.trans h.spawnedFor,
    h.length_le.trans h'.length_le, ?_, ?_, ?_⟩
  · intro id call hcall
    obtain ⟨call', hcall', hsame⟩ := h.forth id call hcall
    obtain ⟨call'', hcall'', hsame'⟩ := h'.forth id call' hcall'
    exact ⟨call'', hcall'', hsame.trans hsame'⟩
  · intro id call'' hcall''
    rcases h'.back id call'' hcall'' with ⟨call', hcall', hsame'⟩ | ⟨hle, hsent⟩
    · rcases h.back id call' hcall' with ⟨call, hcall, hsame⟩ | ⟨hle, hsent⟩
      · exact .inl ⟨call, hcall, hsame.trans hsame'⟩
      · exact .inr ⟨hle, hsame'.sent.2 hsent⟩
    · exact .inr ⟨h.length_le.trans hle, hsent⟩
  · intro i life hlife
    obtain ⟨phase, hlife'⟩ := h.lives i life hlife
    obtain ⟨phase', hlife''⟩ := h'.lives i _ hlife'
    exact ⟨phase', hlife''⟩

/-- The broker changes its registry and the phase of a life. -/
lemma extends_setPhase (reg : Registry) (owner : ℕ) (phase : LifePhase) :
    w.Extends ({ w with registry := reg }.setPhase owner phase) := by
  refine ⟨rfl, rfl, le_rfl, fun _ call hcall => ⟨call, hcall, Call.same_refl call⟩,
    fun _ call hcall => .inl ⟨call, hcall, Call.same_refl call⟩, fun i life hlife => ?_⟩
  have hget : ({ w with registry := reg }.setPhase owner phase).lives[i]? = _ := getElem?_setPhase
  rw [hget, hlife, Option.map_some]
  split_ifs
  · exact ⟨phase, rfl⟩
  · exact ⟨life.phase, rfl⟩

lemma extends_send (owner : ℕ) (tasks : List (Task s)) : w.Extends (w.send owner tasks) := by
  refine ⟨rfl, rfl, by simp [send],
    fun _ call hcall => ⟨call, getElem?_send_of hcall, Call.same_refl call⟩,
    fun id call hcall => ?_, fun i life hlife => ⟨life.phase, hlife⟩⟩
  rcases getElem?_send.1 hcall with hold | ⟨hle, task, -, rfl⟩
  · exact .inl ⟨call, hold, Call.same_refl call⟩
  · exact .inr ⟨hle, rfl⟩

lemma extends_receive {id : ℕ} {call : Call s} (hcall : w.calls[id]? = some call)
    (hsent : call.status ≠ .sent) : w.Extends (w.setStatus id .received) := by
  have hsame (id' : ℕ) (call' : Call s) (hcall' : w.calls[id']? = some call') :
      call'.Same (if id = id' then { call' with status := .received } else call') := by
    split_ifs with heq
    · subst heq
      obtain rfl : call' = call := Option.some.inj (hcall'.symm.trans hcall)
      exact ⟨rfl, rfl, by simp [hsent]⟩
    · exact Call.same_refl call'
  refine ⟨rfl, rfl, by simp [setStatus], fun id' call' hcall' => ?_, fun id' call'' hcall'' => ?_,
    fun i life hlife => ⟨life.phase, hlife⟩⟩
  · exact ⟨_, by rw [getElem?_setStatus, hcall', Option.map_some], hsame id' call' hcall'⟩
  · rw [getElem?_setStatus] at hcall''
    obtain ⟨call', hcall', rfl⟩ := Option.map_eq_some_iff.1 hcall''
    exact .inl ⟨call', hcall', hsame id' call' hcall'⟩

/-! ## Answers -/

lemma getElem?_answer {id id' : ℕ} {reply : Reply} {call : Call s}
    (hcall : w.calls[id]? = some call) :
    (w.answer id reply).calls[id']? = (w.calls[id']?).map fun call' =>
      let told := if isUp reply then call'.overtake call.owner call.kind else call'
      if id = id' then told.answer reply else told := by
  simp only [answer, hcall, List.getElem?_modify]
  by_cases hup : isUp reply = true
  · simp only [hup, if_true, List.getElem?_map]
    cases w.calls[id']? with
    | none => rfl
    | some call' => rfl
  · simp only [hup, if_false, Bool.false_eq_true]
    cases w.calls[id']? with
    | none => rfl
    | some call' => rfl

lemma relabels_answer {id : ℕ} {call : Call s} {reply : Reply} (hcall : w.calls[id]? = some call)
    (hstatus : call.status ≠ .received) : w.Relabels (w.answer id reply) := by
  refine ⟨by simp only [answer, hcall], by simp only [answer, hcall], fun id' =>
    ⟨_, getElem?_answer hcall, fun call' hcall' => ?_⟩⟩
  have htold : call'.Becomes
      (if isUp reply then call'.overtake call.owner call.kind else call') := by
    split_ifs
    · exact call'.becomes_overtake _ _
    · exact call'.becomes_refl
  by_cases heq : id = id'
  · subst heq
    obtain rfl : call' = call := Option.some.inj (hcall'.symm.trans hcall)
    simp only [if_true]
    exact htold.trans (Call.becomes_answer fun h => hstatus (htold.received.1 h))
  · simp only [if_neg heq]
    exact htold

@[simp] lemma answer_manager (id : ℕ) (reply : Reply) :
    (w.answer id reply).manager = w.manager := by
  unfold answer
  split <;> rfl

@[simp] lemma answer_spawnedFor (id : ℕ) (reply : Reply) :
    (w.answer id reply).spawnedFor = w.spawnedFor := by
  unfold answer
  split <;> rfl

@[simp] lemma observe_manager (id : Option ℕ) (r : Option (ℕ × Reply) × Manager) :
    (w.observe id r).manager = r.2 := by
  obtain ⟨_ | ⟨id', reply⟩, m⟩ := r
  · rfl
  · exact answer_manager id' reply

lemma observe_spawnedFor (id : Option ℕ) (r : Option (ℕ × Reply) × Manager) :
    (w.observe id r).spawnedFor =
      if w.manager.relays.procs.length < r.2.relays.procs.length then w.spawnedFor ++ id.toList
      else w.spawnedFor := by
  obtain ⟨_ | ⟨id', reply⟩, m⟩ := r
  · rfl
  · exact answer_spawnedFor id' reply

/-- The world after a step of the manager, apart from the manager and the processes. -/
lemma observe_calls (id : Option ℕ) (r : Option (ℕ × Reply) × Manager) :
    (w.observe id r).calls = match r.1 with
      | some (id, reply) => (w.answer id reply).calls
      | none => w.calls := by
  obtain ⟨_ | ⟨id', reply⟩, m⟩ := r
  · rfl
  · simp only [observe, answer]
    split <;> rfl

/-! ## The manager's steps -/

/-- The manager's handler of a request comes to something. -/
def serve (w : World s) (id : ℕ) (o : Outcome) : World s :=
  w.observe (some id) (w.manager.settle id o)

lemma serve_inl (id : ℕ) (r : Relays) (h : Handler) : (w.serve id (r, .inl h)).calls = w.calls :=
  rfl

lemma serve_inr (id : ℕ) (r : Relays) (reply : Reply) :
    (w.serve id (r, .inr reply)).calls = (w.answer id reply).calls := observe_calls _ _

@[simp] lemma serve_relays (id : ℕ) (o : Outcome) : (w.serve id o).manager.relays = o.1 := by
  rw [serve, observe_manager, Manager.settle_relays]

lemma serve_spawnedFor (id : ℕ) (o : Outcome) : (w.serve id o).spawnedFor =
    if w.manager.relays.procs.length < o.1.procs.length then w.spawnedFor ++ [id]
    else w.spawnedFor := by
  rw [serve, observe_spawnedFor, Manager.settle_relays]
  rfl

lemma relabels_serve {id : ℕ} {call : Call s} (hcall : w.calls[id]? = some call)
    (hstatus : call.status ≠ .received) (o : Outcome) : w.Relabels (w.serve id o) := by
  obtain ⟨r, h | reply⟩ := o
  · exact ⟨rfl, rfl, (relabels_refl w).calls⟩
  · have hanswer : w.Relabels (w.answer id reply) := relabels_answer hcall hstatus
    obtain ⟨hlives, hreg, hcalls⟩ := hanswer
    refine ⟨?_, ?_, fun id' => ?_⟩
    · rw [← hlives]
      simp only [serve, observe, Manager.settle, answer, hcall]
    · rw [← hreg]
      simp only [serve, observe, Manager.settle, answer, hcall]
    · rw [serve_inr]
      exact hcalls id'

/-- The request is served, and nothing else happens to the requests. -/
structure Advances (w : World s) (id : ℕ) (w' : World s) : Prop where
  lives : w'.lives = w.lives
  forth : ∀ (id' : ℕ) (call : Call s), w.calls[id']? = some call → ∃ call' : Call s,
    w'.calls[id']? = some call' ∧ call'.owner = call.owner ∧ call'.request = call.request ∧
      (id' ≠ id → call'.status = call.status) ∧ (call.status ≠ .sent → call'.status ≠ .sent)
  back : ∀ (id' : ℕ) (call' : Call s), w'.calls[id']? = some call' → ∃ call : Call s,
    w.calls[id']? = some call ∧ call'.owner = call.owner ∧ call'.request = call.request ∧
      (id' ≠ id → call'.status = call.status) ∧ (call.status ≠ .sent → call'.status ≠ .sent)

lemma Advances.trans {id : ℕ} (h : w.Advances id w') (h' : w'.Advances id w'') :
    w.Advances id w'' := by
  refine ⟨h'.lives.trans h.lives, fun id' call hcall => ?_, fun id' call'' hcall'' => ?_⟩
  · obtain ⟨call', hcall', howner, hrequest, hstatus, hsent⟩ := h.forth id' call hcall
    obtain ⟨call'', hcall'', howner', hrequest', hstatus', hsent'⟩ := h'.forth id' call' hcall'
    exact ⟨call'', hcall'', howner'.trans howner, hrequest'.trans hrequest,
      fun hne => (hstatus' hne).trans (hstatus hne), fun hno => hsent' (hsent hno)⟩
  · obtain ⟨call', hcall', howner', hrequest', hstatus', hsent'⟩ := h'.back id' call'' hcall''
    obtain ⟨call, hcall, howner, hrequest, hstatus, hsent⟩ := h.back id' call' hcall'
    exact ⟨call, hcall, howner'.trans howner, hrequest'.trans hrequest,
      fun hne => (hstatus' hne).trans (hstatus hne), fun hno => hsent' (hsent hno)⟩

/-- Requests that go on, the other ones with the status that they have. -/
lemma Relabels.advances (h : w.Relabels w') {id : ℕ}
    (hstatus : ∀ (id' : ℕ) (call call' : Call s), w.calls[id']? = some call →
      w'.calls[id']? = some call' → id' ≠ id → call'.status = call.status) : w.Advances id w' := by
  refine ⟨h.lives, fun id' call hcall => ?_, fun id' call' hcall' => ?_⟩
  · obtain ⟨call', hcall', hb⟩ := h.forth hcall
    exact ⟨call', hcall', hb.owner, hb.request, hstatus id' call call' hcall hcall',
      fun hno hsent => hno (hb.sent hsent)⟩
  · obtain ⟨call, hcall, hb⟩ := h.back hcall'
    exact ⟨call, hcall, hb.owner, hb.request, hstatus id' call call' hcall hcall',
      fun hno hsent => hno (hb.sent hsent)⟩

lemma advances_arrived {id : ℕ} {call : Call s} (hcall : w.calls[id]? = some call)
    (hsent : call.status = .sent) : w.Advances id (w.setStatus id .arrived) := by
  refine (relabels_setStatus hcall hsent (by simp)).advances
    fun id' call₀ call' hcall₀ hcall' hne => ?_
  rw [getElem?_setStatus, hcall₀, Option.map_some, if_neg (Ne.symm hne)] at hcall'
  rw [Option.some.inj hcall']

lemma advances_serve {id : ℕ} {call : Call s} (hcall : w.calls[id]? = some call)
    (hstatus : call.status ≠ .received) (o : Outcome) : w.Advances id (w.serve id o) := by
  refine (relabels_serve hcall hstatus o).advances fun id' call₀ call' hcall₀ hcall' hne => ?_
  obtain ⟨r, h | reply⟩ := o
  · rw [serve_inl, hcall₀] at hcall'
    rw [Option.some.inj hcall']
  · rw [serve_inr, getElem?_answer hcall, hcall₀, Option.map_some] at hcall'
    obtain rfl := Option.some.inj hcall'
    simp only [if_neg (Ne.symm hne)]
    split_ifs
    · exact Call.status_overtake _ _ _
    · rfl

/-- The status of the request that is served. -/
lemma status_serve {id : ℕ} {call call' : Call s} {o : Outcome} (hcall : w.calls[id]? = some call)
    (hstatus : call.status = .arrived) (hcall' : (w.serve id o).calls[id]? = some call') :
    (∃ h, o.2 = .inl h) ∧ call'.status = .arrived ∨
      ∃ reply, o.2 = .inr reply ∧ call'.status = .answered reply := by
  obtain ⟨r, h | reply⟩ := o
  · rw [serve_inl, hcall] at hcall'
    obtain rfl := Option.some.inj hcall'
    exact .inl ⟨⟨h, rfl⟩, hstatus⟩
  · rw [serve_inr, getElem?_answer hcall, hcall, Option.map_some] at hcall'
    obtain rfl := Option.some.inj hcall'
    exact .inr ⟨reply, rfl, by simp [Call.answer]⟩

/-- The world after the manager has done something by itself. -/
def withRelays (w : World s) (relays : Relays) : World s :=
  { w with manager := { w.manager with relays := relays } }

lemma relabels_withRelays (relays : Relays) : w.Relabels (w.withRelays relays) :=
  ⟨rfl, rfl, (relabels_refl w).calls⟩

/-- A step of the manager. -/
inductive Handled (w : World s) : WorldAction → World s → Prop
  /-- A request arrives. -/
  | arrive {id : ℕ} {call : Call s} (hcall : w.calls[id]? = some call)
      (hsent : call.status = .sent) (hfree : w.manager.handlers id = none) :
      Handled w (.arrive id) ((w.setStatus id .arrived).serve id
        (w.manager.relays.accept (.ofCall call.request)))
  /-- A handler goes on. -/
  | resume {id : ℕ} {answer : Bool} {h : Handler} (hhandler : w.manager.handlers id = some h)
      (hprobe : h.probes = true → w.manager.relays.Probes h.kind h.port answer) :
      Handled w (.manage (.resume id answer)) (w.serve id (w.manager.relays.resume h answer))
  /-- A process exits. -/
  | exit {pid : ℕ} : Handled w (.manage (.exit pid)) (w.withRelays (w.manager.relays.exit pid))
  /-- A process begins or ceases to listen. -/
  | listen {pid : ℕ} {on : Bool} {relays : Relays}
      (hlisten : w.manager.relays.listen pid on = some relays) :
      Handled w (.manage (.listen pid on)) (w.withRelays relays)

lemma handled_of_arrive {id : ℕ} (h : w.arrive id = some w') : w.Handled (.arrive id) w' := by
  obtain ⟨call, hcall, hmap⟩ := Option.bind_eq_some_iff.1 h
  split at hmap
  · rename_i hsent
    obtain ⟨⟨out, m⟩, hnext, rfl⟩ := Option.map_eq_some_iff.1 hmap
    obtain ⟨hfree, heq⟩ := Manager.next_request hnext
    rw [heq]
    exact .arrive hcall hsent hfree
  · cases hmap

lemma handled_of_manage {act : ManagerAction} (h : w.manage act = some w') :
    w.Handled (.manage act) w' := by
  cases act with
  | request id req => cases h
  | resume id answer =>
    obtain ⟨⟨out, m⟩, hnext, rfl⟩ := Option.map_eq_some_iff.1 h
    obtain ⟨hd, hhd, hprobe, heq⟩ := Manager.next_resume hnext
    rw [heq]
    exact .resume hhd hprobe
  | exit pid =>
    obtain ⟨⟨out, m⟩, hnext, rfl⟩ := Option.map_eq_some_iff.1 h
    obtain ⟨rfl, rfl⟩ := Manager.next_exit hnext
    have hlen : (w.manager.relays.exit pid).procs.length = w.manager.relays.procs.length := by
      simp [Relays.exit]
    simp only [observe, hlen, lt_irrefl, if_false]
    exact .exit
  | listen pid on =>
    obtain ⟨⟨out, m⟩, hnext, rfl⟩ := Option.map_eq_some_iff.1 h
    obtain ⟨rfl, relays, hlisten, rfl⟩ := Manager.next_listen hnext
    have hlen : relays.procs.length = w.manager.relays.procs.length := by
      obtain ⟨rfl, -⟩ := Relays.listen_eq_some hlisten
      simp
    simp only [observe, hlen, lt_irrefl, if_false]
    exact .listen hlisten

/-! ## The broker's steps -/

/-- An answer is delivered to the handler that waits for it. -/
inductive Delivered (w : World s) (id : ℕ) (call : Call s) (reply : Reply) : World s → Prop
  /-- Nobody waits, or the handler is through. -/
  | done (htask : ∀ c, call.task ≠ .creation c) :
      Delivered w id call reply (w.setStatus id .received)
  /-- A handler at work on a room goes on to its next request. -/
  | goOn {v : Visit} {stage : VisitStage} (htask : call.task = .visit v)
      (hnext : v.stage.next v.room v.purpose reply.http = some stage) :
      Delivered w id call reply ((w.setStatus id .received).send call.owner
        [.visit { v with stage := stage }])
  /-- A creation goes on to the start of its GGPO relay. -/
  | await {c : Creation s.capacity} (htask : call.task = .creation c)
      (hstage : c.stage = .startingSession) (hauto : s.auto = true) :
      Delivered w id call reply
        (((w.setStatus id .received).setPhase call.owner (.creating w.calls.length)).send
          call.owner [.creation { c with stage := .startingGgpo }])
  /-- A room is there. -/
  | commit {c : Creation s.capacity} {draws : Draws} {ggpoRelayOk : Bool}
      (htask : call.task = .creation c)
      (hok : ggpoRelayOk = true ↔
        c.stage = .startingGgpo ∧ startGgpoRelaySession (some reply.http) = .started)
      (hcode : w.registry.find? (c.room s.toSettings draws ggpoRelayOk).code = none) :
      Delivered w id call reply
        (({ w with
          registry := { w.registry with
            rooms := w.registry.rooms ++ [c.room s.toSettings draws ggpoRelayOk] }.release
              c.ports.sessionPort }.setStatus id .received).setPhase call.owner
          (.opened (c.room s.toSettings draws ggpoRelayOk)))
  /-- A creation has failed to start its session relay. -/
  | failed {c : Creation s.capacity} (htask : call.task = .creation c)
      (hstage : c.stage = .startingSession)
      (hfailed : startRelaySession (some reply.http) ≠ .started) :
      Delivered w id call reply
        (({ w with registry := w.registry.release c.ports.sessionPort }.setStatus id
          .received).setPhase call.owner .ended)
  /-- A creation throws, and its relays are stopped. -/
  | thrown {c : Creation s.capacity} (htask : call.task = .creation c)
      (hstage : c.stage = .startingGgpo) :
      Delivered w id call reply
        ((({ w with registry := w.registry.release c.ports.sessionPort }.setStatus id
          .received).send call.owner
            ((stopRelaySession c.ports.sessionPort c.ports.ggpoPort).map .stop)).setPhase
          call.owner .ended)

/-- A creation that goes on to another await is one of a broker with GGPO relays. -/
lemma auto_of_awaits {reg : Registry} {c c' : Creation s.capacity} {reply : Option HttpReply}
    {draws : Draws} {turn : Turn s.capacity}
    (h : reg.resume s.toSettings c reply draws = some turn)
    (hprogress : turn.progress = .awaits c') : s.auto = true := by
  have hcommit {ok : Bool} (h : reg.commit s.toSettings c draws ok = some turn) :
      s.auto = true := by
    obtain ⟨-, rfl⟩ := Registry.commit_eq_some h
    cases hprogress
  simp only [Registry.resume] at h
  split at h
  · split at h
    · split_ifs at h with hauto
      · exact hauto
      · exact hcommit h
    · obtain rfl := Option.some.inj h
      cases hprogress
    · obtain rfl := Option.some.inj h
      cases hprogress
  · split at h
    · exact hcommit h
    · split_ifs at h
      · exact hcommit h
      · obtain rfl := Option.some.inj h
        cases hprogress
    · obtain rfl := Option.some.inj h
      cases hprogress

lemma delivered {id : ℕ} {draws : Draws} (h : w.deliver id draws = some w') :
    ∃ call reply, w.calls[id]? = some call ∧ call.status = .answered reply ∧
      w.Delivered id call reply w' := by
  obtain ⟨call, hcall, h⟩ := Option.bind_eq_some_iff.1 h
  split at h
  · rename_i reply hstatus
    refine ⟨call, reply, hcall, hstatus, ?_⟩
    split at h
    · rename_i c htask
      obtain ⟨turn, hturn, rfl⟩ := Option.map_eq_some_iff.1 h
      have hauto {c' : Creation s.capacity} (hprogress : turn.progress = .awaits c') :
          s.auto = true := auto_of_awaits hturn hprogress
      cases Registry.resumed hturn with
      | await hstage hstarted =>
        simp only [Registry.await, List.map_nil, send_nil]
        rw [length_setStatus]
        exact .await htask hstage (hauto rfl)
      | commit hok hsession hcommit =>
        obtain ⟨hcode, rfl⟩ := Registry.commit_eq_some hcommit
        simp only [List.map_nil, send_nil]
        exact .commit htask hok hcode
      | failed hstage hfailed hresult =>
        obtain ⟨message, rfl⟩ | rfl := hresult
        all_goals
          simp only [Registry.abandon, Bool.false_eq_true, if_false, List.map_nil, send_nil]
          exact .failed htask hstage hfailed
      | thrown hstage => exact .thrown htask hstage
    · rename_i v htask
      obtain rfl := Option.some.inj h
      simp only [resumeVisit]
      split
      · rename_i stage hnext
        exact .goOn htask hnext
      · exact .done fun c hc => by rw [htask] at hc; cases hc
    · rename_i request htask
      obtain rfl := Option.some.inj h
      exact .done fun c hc => by rw [htask] at hc; cases hc
  · cases h

/-- What a step of the two services can be. -/
inductive Moves (w : World s) : WorldAction → World s → Prop
  /-- A creation is refused at once. -/
  | refused {args : CreateArgs} {draws : Draws} : Moves w (.create args draws) w
  /-- A creation has got its ports and starts its session relay. -/
  | begun {args : CreateArgs} {draws : Draws} {c : Creation s.capacity}
      (hstage : c.stage = .startingSession)
      (hroom : c.ports.sessionPort ∉ w.registry.roomPorts)
      (hreserved : c.ports.sessionPort ∉ w.registry.reservedPorts) :
      Moves w (.create args draws)
        ((({ w with registry := { w.registry with
          reservedPorts := w.registry.reservedPorts ++ [c.ports.sessionPort] } } :
            World s).beginLife c).send w.lives.length [.creation c])
  /-- A handler begins. -/
  | visit {code : Text} {purpose : Purpose} {room : RoomRecord}
      (hfind : w.registry.find? code = some room) :
      Moves w (.visit code purpose)
        (w.send (w.ownerOf code) [.visit ⟨room, purpose, purpose.first, false⟩])
  /-- A room ends. -/
  | endRoom {code : Text} {room : RoomRecord} (hfind : w.registry.find? code = some room) :
      Moves w (.endRoom code)
        (({ w with registry := w.registry.delete code }.setPhase (w.ownerOf code) .ended).send
          (w.ownerOf code) ((stopRelaySession room.port room.ggpoPort).map .stop))
  /-- The manager takes a step. -/
  | handled {a : WorldAction} {w' : World s} (h : w.Handled a w') : Moves w a w'
  /-- An answer is delivered. -/
  | delivered {id : ℕ} {draws : Draws} {call : Call s} {reply : Reply} {w' : World s}
      (hcall : w.calls[id]? = some call) (hstatus : call.status = .answered reply)
      (h : w.Delivered id call reply w') : Moves w (.deliver id draws) w'

/-- A port that has just been reserved is released. -/
lemma release_reserve {reg : Registry} {port : ℕ} (h : port ∉ reg.reservedPorts) :
    Registry.release { reg with reservedPorts := reg.reservedPorts ++ [port] } port = reg := by
  have hfilter : (reg.reservedPorts ++ [port]).filter (· ≠ port) = reg.reservedPorts := by
    rw [List.filter_append, List.filter_eq_self.2]
    · simp
    · intro p hp
      simp only [decide_eq_true_eq]
      rintro rfl
      exact h hp
  simp only [Registry.release, releasePortReservation, hfilter]

lemma moves_of_create {args : CreateArgs} {draws : Draws} (h : w.create args draws = some w') :
    w.Moves (.create args draws) w' := by
  obtain ⟨turn, hturn, rfl⟩ := Option.map_eq_some_iff.1 h
  cases Registry.begun hturn with
  | full => exact .refused
  | @refused ports reserved message halloc =>
    obtain ⟨-, hreserved, rfl⟩ := allocatePortPair_some halloc
    simp only [Registry.abandon, CreateArgs.creation, release_reserve hreserved]
    exact .refused
  | @await ports reserved halloc =>
    obtain ⟨hroom, hreserved, rfl⟩ := allocatePortPair_some halloc
    exact .begun (c := args.creation draws ports) rfl hroom hreserved
  | commit halloc hforce => exact absurd (hforce.symm.trans s.force) (by simp)

lemma moves {a : WorldAction} {out : Unit} (h : w.next a = some (out, w')) : w.Moves a w' := by
  cases a with
  | create args draws =>
    obtain ⟨w'', hw'', heq⟩ := Option.map_eq_some_iff.1 h
    obtain ⟨-, rfl⟩ := Prod.mk.inj heq
    exact moves_of_create hw''
  | visit code purpose =>
    obtain ⟨w'', hw'', heq⟩ := Option.map_eq_some_iff.1 h
    obtain ⟨-, rfl⟩ := Prod.mk.inj heq
    obtain ⟨room, hfind, rfl⟩ := Option.map_eq_some_iff.1 hw''
    exact .visit hfind
  | endRoom code =>
    obtain ⟨w'', hw'', heq⟩ := Option.map_eq_some_iff.1 h
    obtain ⟨-, rfl⟩ := Prod.mk.inj heq
    obtain ⟨room, hfind, rfl⟩ := Option.map_eq_some_iff.1 hw''
    exact .endRoom hfind
  | arrive id =>
    obtain ⟨w'', hw'', heq⟩ := Option.map_eq_some_iff.1 h
    obtain ⟨-, rfl⟩ := Prod.mk.inj heq
    exact .handled (handled_of_arrive hw'')
  | manage act =>
    obtain ⟨w'', hw'', heq⟩ := Option.map_eq_some_iff.1 h
    obtain ⟨-, rfl⟩ := Prod.mk.inj heq
    exact .handled (handled_of_manage hw'')
  | deliver id draws =>
    obtain ⟨w'', hw'', heq⟩ := Option.map_eq_some_iff.1 h
    obtain ⟨-, rfl⟩ := Prod.mk.inj heq
    obtain ⟨call, reply, hcall, hstatus, hdelivered⟩ := delivered hw''
    exact .delivered hcall hstatus hdelivered

end World

end Service
end Sf4e
