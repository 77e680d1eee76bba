/-
# Batches of messages

How the messages that reach the server are divided into polls is an accident of timing.  A
server that handles some messages in `Step`s of their own differs, message by message, from
one that handles them in a single `Step` only in the promise of a data update, which no
handler looks at (`onMessage_core`).  What the locals of the one `Step` add up over its
messages is another matter.
-/
import Sf4e.Session.Loading

namespace Sf4e

open SessionProtocol SessionServer Trace

namespace SessionServer

/-- The server without the promise of a data update. -/
def core (s : SessionServer) : SessionServer := { s with dataDirty := false }

/-- The server with the promise of a data update set or taken back. -/
def withDirty (s : SessionServer) (b : Bool) : SessionServer := { s with dataDirty := b }

@[simp] lemma core_withDirty (s : SessionServer) (b : Bool) : (s.withDirty b).core = s.core := rfl

@[simp] lemma withDirty_clients (s : SessionServer) (b : Bool) :
    (s.withDirty b).clients = s.clients := rfl
@[simp] lemma withDirty_sidecarHash (s : SessionServer) (b : Bool) :
    (s.withDirty b).sidecarHash = s.sidecarHash := rfl
@[simp] lemma withDirty_cidMap (s : SessionServer) (b : Bool) :
    (s.withDirty b).cidMap = s.cidMap := rfl
@[simp] lemma withDirty_side (s : SessionServer) (b : Bool) (conn : HSteamNetConnection) :
    (s.withDirty b).side conn = s.side conn := rfl
@[simp] lemma withDirty_request (s : SessionServer) (b : Bool) (m : Incoming) :
    (s.withDirty b).request m = s.request m := rfl

lemma eq_withDirty_of_core_eq {s s' : SessionServer} (h : s'.core = s.core) :
    s' = s.withDirty s'.dataDirty := by
  obtain ⟨i, sh, cm, cl, dd, ld, md, pr⟩ := s
  obtain ⟨i', sh', cm', cl', dd', ld', md', pr'⟩ := s'
  simp only [core, withDirty, mk.injEq] at h ⊢
  tauto

variable (s : SessionServer) (b : Bool)

lemma handleResults_withDirty (l : ℤ) :
    (s.withDirty b).handleResults l = (s.handleResults l).map fun s' => s'.withDirty b := by
  unfold handleResults
  split_ifs
  · rfl
  · have hclients : (s.withDirty b).clients[l.toNat]? = s.clients[l.toNat]? := rfl
    rw [hclients]
    cases s.clients[l.toNat]? <;> rfl

lemma onReportResults_withDirty (doc : Document) :
    ((s.withDirty b).onReportResults doc).map core = (s.onReportResults doc).map core := by
  unfold onReportResults
  split
  · rfl
  · rw [handleResults_withDirty, Option.map_map, Option.map_map, Option.map_map]
    rfl

lemma registerToWait_withDirty (m : Incoming) (request : SessionJoinRequest)
    (cid : ConnectionID) :
    (s.withDirty b).registerToWait m request cid =
      ((s.registerToWait m request cid).1, (s.registerToWait m request cid).2.withDirty b) := by
  by_cases hhash : request.sidecarHash = s.sidecarHash
  · by_cases hfull : s.clients.length ≥ maxSf4eProtocolUsers
    · simp [registerToWait, hhash, hfull]
    · by_cases hname : (s.clients.any fun c => c.data.name == request.username) = true
      · simp [registerToWait, hhash, hfull, hname]
      · simp only [registerToWait, withDirty_clients, withDirty_sidecarHash, hhash, hfull, hname,
          ne_eq, not_true_eq_false, if_false, Bool.false_eq_true]
        rfl
  · simp [registerToWait, hhash]

lemma onJoinReq_withDirty (m : Incoming) (doc : Document) (cid : ConnectionID) :
    ((s.withDirty b).onJoinReq m doc cid).1.core = (s.onJoinReq m doc cid).1.core ∧
      ((s.withDirty b).onJoinReq m doc cid).2 = (s.onJoinReq m doc cid).2 := by
  unfold onJoinReq
  cases doc.joinRequest with
  | none => exact ⟨rfl, rfl⟩
  | some request =>
    simp only [registerToWait_withDirty]
    obtain ⟨result, s'⟩ := s.registerToWait m request cid
    cases result <;> exact ⟨rfl, rfl⟩

lemma onSetChara_withDirty (conn : HSteamNetConnection) (doc : Document) :
    ((s.withDirty b).onSetChara conn doc).core = (s.onSetChara conn doc).core := by
  unfold onSetChara
  rw [withDirty_side]
  cases s.side conn with
  | none => rfl
  | some i => cases doc.setChara <;> rfl

lemma hostSetter_withDirty {ρ : Type} (conn : HSteamNetConnection) (request : Option ρ)
    {set : ρ → SessionServer} {set' : ρ → SessionServer} (h : ∀ r, (set' r).core = (set r).core) :
    ((s.withDirty b).hostSetter conn request set').core = (s.hostSetter conn request set).core := by
  unfold hostSetter
  rw [withDirty_side]
  split
  · rfl
  · cases request with
    | none => rfl
    | some r =>
      have hr := h r
      simp only [core, mk.injEq] at hr ⊢
      tauto

lemma onReset_withDirty (conn : HSteamNetConnection) :
    ((s.withDirty b).onReset conn).core = (s.onReset conn).core := by
  unfold onReset
  rw [withDirty_side]
  cases s.side conn <;> rfl

lemma onPunchReady_withDirty (conn : HSteamNetConnection) :
    ((s.withDirty b).onPunchReady conn).1.core = (s.onPunchReady conn).1.core ∧
      ((s.withDirty b).onPunchReady conn).2 = (s.onPunchReady conn).2 := by
  unfold onPunchReady
  rw [withDirty_side]
  cases s.side conn with
  | none => exact ⟨rfl, rfl⟩
  | some i =>
    dsimp only
    have hpunch : (s.withDirty b).punchReady = s.punchReady := rfl
    rw [hpunch]
    split
    all_goals exact ⟨rfl, rfl⟩

/-- What a message amounts to for the flags does not depend on the promise. -/
lemma loadEvent_withDirty (m : Incoming) : (s.withDirty b).loadEvent m = s.loadEvent m := by
  unfold loadEvent
  rw [withDirty_request]
  cases s.request m with
  | none => rfl
  | some r =>
    obtain ⟨type, doc⟩ := r
    cases type
    case sessionJoinReq =>
      simp only [withDirty_cidMap, registerToWait_withDirty]
    all_goals rfl

end SessionServer

namespace StepState

/-- A handled message, up to the promise of a data update and the locals of `Step`. -/
def outcome (r : StepState × List Output) : SessionServer × List Output := (r.1.server.core, r.2)

lemma onReady_withDirty (st : StepState) (m : Incoming) (b l₁ l₂ : Bool) :
    (StepState.onReady ⟨st.server.withDirty b, l₁, l₂⟩ m).server.core =
      (st.onReady m).server.core := by
  unfold onReady
  dsimp only
  rw [withDirty_side]
  cases st.server.side m.conn <;> rfl

lemma onRegistered_withDirty (st : StepState) (m : Incoming) (doc : Document)
    (type : MessageType) (cid : ConnectionID) (b l₁ l₂ : Bool) :
    (StepState.onRegistered ⟨st.server.withDirty b, l₁, l₂⟩ m doc type cid).map outcome =
      (st.onRegistered m doc type cid).map outcome := by
  cases type <;> simp only [onRegistered]
  case lobbyReportResults =>
    have hres := st.server.onReportResults_withDirty b doc
    cases h : st.server.onReportResults doc with
    | none =>
      rw [h, Option.map_none, Option.map_eq_none_iff] at hres
      rw [hres]
      rfl
    | some s' =>
      rw [h, Option.map_some, Option.map_eq_some_iff] at hres
      obtain ⟨s'', hs'', hcore⟩ := hres
      rw [hs'']
      simp [outcome, hcore]
  case sessionJoinReq =>
    obtain ⟨h₁, h₂⟩ := st.server.onJoinReq_withDirty b m doc cid
    simp [outcome, h₁, h₂]
  case punchReady =>
    obtain ⟨h₁, h₂⟩ := st.server.onPunchReady_withDirty b m.conn
    simp [outcome, h₁, h₂]
  case preBattleSetChara => simp [outcome, onSetChara_withDirty]
  case preBattleSetEnv =>
    simp only [Option.map_some, outcome]
    rw [onSetEnv, onSetEnv, hostSetter_withDirty]
    exact fun _ => rfl
  case preBattleSetStage =>
    simp only [Option.map_some, outcome]
    rw [onSetStage, onSetStage, hostSetter_withDirty]
    exact fun _ => rfl
  case lobbySetSettings =>
    simp only [Option.map_some, outcome]
    rw [onSetSettings, onSetSettings, hostSetter_withDirty]
    exact fun _ => rfl
  case lobbyReset => simp [outcome, onReset_withDirty]
  case lobbyReady => simp [outcome, onReady_withDirty]
  all_goals rfl

/-- **No handler looks at the promise of a data update**, nor at the locals of `Step`. -/
theorem onMessage_core {st st₂ : StepState} (h : st₂.server.core = st.server.core)
    (m : Incoming) : (st₂.onMessage m).map outcome = (st.onMessage m).map outcome := by
  obtain ⟨s₂, l₁, l₂⟩ := st₂
  obtain ⟨b, rfl⟩ : ∃ b, s₂ = st.server.withDirty b := ⟨_, eq_withDirty_of_core_eq h⟩
  unfold onMessage
  cases m.payload with
  | none => rfl
  | some doc =>
    cases ht : doc.type with
    | none => simp [ht, outcome]
    | some field =>
      simp only [ht, withDirty_cidMap]
      cases st.server.cidMap m.conn with
      | some cid => exact onRegistered_withDirty st m doc _ cid b l₁ l₂
      | none =>
        dsimp only
        split_ifs
        all_goals rfl

end StepState

/-! ## One `Step` and many -/

namespace SessionServer

/-- The messages in a single `Step`. -/
def together (s : SessionServer) (ms : List Incoming) : Option (SessionServer × List Output) :=
  s.calls [.step (some (ms.map some))]

/-- The messages in `Step`s of their own. -/
def oneByOne (s : SessionServer) (ms : List Incoming) : Option (SessionServer × List Output) :=
  s.calls (ms.map fun m => .step (some [some m]))

lemma together_eq {s : SessionServer} {ms : List Incoming} {st : StepState} {out : List Output}
    (h : (StepState.start s).receiveAll ms = some (st, out)) :
    s.together ms = some (st.finish, out ++ st.broadcasts) := by
  have hrec := StepState.receive_of_receiveAll h []
  rw [List.append_nil] at hrec
  simp [together, calls, call, step, hrec, StepState.receive]

lemma oneByOne_snoc {s s₂ : SessionServer} {ms : List Incoming} {m : Incoming} {st : StepState}
    {out out' : List Output} (h : s.oneByOne ms = some (s₂, out))
    (hm : (StepState.start s₂).onMessage m = some (st, out')) :
    s.oneByOne (ms ++ [m]) = some (st.finish, out ++ (out' ++ st.broadcasts)) := by
  rw [oneByOne, List.map_append]
  refine calls_append h ?_
  simp [calls, call, step, StepState.receive, hm]

end SessionServer

/-- The messages taken in a log, oldest first. -/
def messages (log : List ServerEntry) : List Incoming :=
  log.reverse.filterMap fun e => e.act.message?

@[simp] lemma messages_nil : messages [] = [] := rfl

lemma messages_cons_message (log : List ServerEntry) (ph ph' : Phase) (m : Incoming)
    (out : List Output) : messages (⟨ph, .message m, out, ph'⟩ :: log) = messages log ++ [m] := by
  simp [messages, Action.message?]

/-- The log of the messages of a `Step` that started at `s`. -/
structure StepLog (s : SessionServer) (log : List ServerEntry) (st : StepState) : Prop where
  path : serverLTS.Path (.receiving (.start s)) log (.receiving st)
  message : ∀ e ∈ log, e.act.message?.isSome = true

/-- **Induction rule for the messages of a `Step`.** -/
lemma StepLog.rec_message {s : SessionServer} {motive : List ServerEntry → StepState → Prop}
    (hnil : motive [] (.start s))
    (hcons : ∀ log st m st' out, StepLog s log st → motive log st →
      st.onMessage m = some (st', out) →
        motive (⟨.receiving st, .message m, out, .receiving st'⟩ :: log) st')
    {log : List ServerEntry} {st : StepState} (h : StepLog s log st) : motive log st := by
  induction log generalizing st with
  | nil =>
    obtain ⟨hpath, -⟩ := h
    obtain rfl := Phase.receiving.inj (LTS.path_nil_iff.1 hpath)
    exact hnil
  | cons e log ih =>
    obtain ⟨hpath, hmsg⟩ := h
    obtain ⟨hpath, hstep, hpost⟩ := LTS.path_cons_iff.1 hpath
    obtain ⟨pre, act, out, post⟩ := e
    obtain rfl : post = .receiving st := hpost.symm
    have hsome := hmsg _ List.mem_cons_self
    cases act with
    | beginStep | nullMessage | endStep | pollError | statusChanged | resetLobbyForRematch =>
      simp [Action.message?] at hsome
    | message m =>
      have hnext : pre.next (.message m) = some (out, .receiving st) := hstep
      cases pre with
      | idle s' => simp [Phase.next] at hnext
      | receiving st₀ =>
        simp only [Phase.next, Option.map_eq_some_iff, Prod.mk.injEq, Phase.receiving.injEq]
          at hnext
        obtain ⟨⟨st₁, out₁⟩, hm, rfl, rfl⟩ := hnext
        have hlog : StepLog s log st₀ :=
          ⟨hpath, fun e he => hmsg e (List.mem_cons_of_mem _ he)⟩
        exact hcons log st₀ m st₁ out₁ hlog (ih hlog) hm

/-- A message that was handled in the one `Step` is handled alike in a `Step` of its own. -/
lemma exists_onMessage_start {st st' : StepState} {s₂ : SessionServer} {m : Incoming}
    {out : List Output} (hcore : s₂.core = st.server.core)
    (h : st.onMessage m = some (st', out)) :
    ∃ st₂, (StepState.start s₂).onMessage m = some (st₂, out) ∧
      st₂.server.core = st'.server.core := by
  have hmap := @StepState.onMessage_core st (.start s₂) hcore m
  rw [h, Option.map_some, Option.map_eq_some_iff] at hmap
  obtain ⟨⟨st₂, out₂⟩, hm, heq⟩ := hmap
  obtain ⟨hc, rfl⟩ := Prod.mk.inj heq
  exact ⟨st₂, hm, hc⟩

end Sf4e
