/-
# Runs of the session server

What the server promises, it promises for all its runs: any connections, any messages, any
grouping of the messages into calls of `Step`, and connection callbacks between the calls.
The machine of this file takes one message at a time, so that one flat log holds the whole
run; a call of `Step` is the entries from `beginStep` to `endStep`.

`exists_path_iff_exists_calls` shows that nothing is lost or gained by looking at single
messages: from one resting state to another, the machine does exactly what some sequence of
calls of `Step`, of the connection callback and of `ResetLobbyForRematch` does, with the
same outputs in the same order.
-/
import Sf4e.Session.ServerEvents
import Sf4e.Trace.LTS

namespace Sf4e

open SessionProtocol SessionServer

/-- Where the server stands between two single events. -/
inductive Phase
  /-- No call is running. -/
  | idle (s : SessionServer)
  /-- `Step` is in its loop over the messages. -/
  | receiving (st : StepState)

/-- A single event of the server's life. -/
inductive Action
  /-- `Step` is called and the poll succeeds. -/
  | beginStep
  /-- The loop of `Step` takes the next message. -/
  | message (m : Incoming)
  /-- The next message was enumerated without its data: `Step` returns `-1`. -/
  | nullMessage
  /-- The loop is over: the deferred broadcasts go out and `Step` returns `0`. -/
  | endStep
  /-- `Step` is called and the poll fails: it returns `-1`. -/
  | pollError
  /-- The connection callback runs. -/
  | statusChanged (info : StatusChange)
  /-- The hosting game resets the lobby itself. -/
  | resetLobbyForRematch
deriving DecidableEq

namespace Action

/-- The status change an action reports. -/
def statusChange? : Action → Option StatusChange
  | .statusChanged info => some info
  | _ => none

/-- The messages of a client that introduces itself and joins, inside a `Step`. -/
def enter (conn : HSteamNetConnection) (name : String) : List Action :=
  [.message (.bare conn 1 .sessionHello), .message (.join conn 2 ⟨"", name, 0⟩)]

/-- The message an action handles. -/
def message? : Action → Option Incoming
  | .message m => some m
  | _ => none

/-- Two clients join and get ready in one `Step`. -/
def bothReady : List Action :=
  [beginStep] ++ enter 1 "A" ++ enter 2 "B" ++
    [message (.bare 1 3 .lobbyReady), message (.bare 2 3 .lobbyReady), endStep]

end Action

namespace Phase

/-- The server. -/
def server : Phase → SessionServer
  | idle s => s
  | receiving st => st.server

/-- Is the running `Step` going to broadcast `LOBBY_ALLREADY`? -/
def latched : Phase → Bool
  | idle _ => false
  | receiving st => st.bSendLobbyAllReady

@[simp] lemma server_idle (s : SessionServer) : (idle s).server = s := rfl
@[simp] lemma server_receiving (st : StepState) : (receiving st).server = st.server := rfl
@[simp] lemma latched_idle (s : SessionServer) : (idle s).latched = false := rfl
@[simp] lemma latched_receiving (st : StepState) :
    (receiving st).latched = st.bSendLobbyAllReady := rfl

/-- The server, when no call is running. -/
def idle? : Phase → Option SessionServer
  | idle s => some s
  | receiving _ => none

lemma eq_idle_of_mem {ph : Phase} {s : SessionServer} (h : s ∈ ph.idle?) : ph = idle s := by
  cases ph with
  | idle s' => simpa [idle?] using h
  | receiving st => simp [idle?] at h

/-- The partial step function of the machine. -/
def next : Phase → Action → Option (List Output × Phase)
  | idle s, .beginStep => some ([], receiving (.start s))
  | idle s, .pollError => some ([], idle s)
  | idle s, .statusChanged info => some ([], idle (s.onSteamNetConnectionStatusChanged info))
  | idle s, .resetLobbyForRematch => some ([], idle s.resetLobbyForRematch)
  | receiving st, .message m => (st.onMessage m).map fun r => (r.2, receiving r.1)
  | receiving st, .nullMessage => some ([], idle st.server)
  | receiving st, .endStep => some (st.broadcasts, idle st.finish)
  | _, _ => none

/-- What an action amounts to for the players' agreement. -/
def event : Phase → Action → Event
  | receiving st, .message m => st.server.event m
  | _, _ => .other

/-- Does the action clear the ready state? -/
def clears : Phase → Action → Bool
  | idle _, .resetLobbyForRematch => true
  | ph, a => (ph.event a).clears

end Phase

/-- A freshly constructed server. -/
def Fresh (ph : Phase) : Prop :=
  ∃ identity sidecarHash editionSelect roundCount roundTime,
    ph = .idle (SessionServer.new identity sidecarHash editionSelect roundCount roundTime)

/-- The session server as a transition system. -/
def serverLTS : Trace.LTS Phase Action (List Output) := .ofFun Fresh Phase.next

/-- A list of actions that a fresh server can carry out, and whose log passes a test. -/
lemma exists_run_of_exec (acts : List Action)
    {p : List (Trace.Entry Phase Action (List Output)) → Phase → Prop}
    [∀ log ph, Decidable (p log ph)]
    (h : (Trace.LTS.exec Phase.next (.idle (.new "" "" true 3 ⟨0, 99⟩)) [] acts).any
      (fun r => decide (p r.1 r.2)) = true) :
    ∃ log ph, serverLTS.Run log ph ∧ p log ph := by
  obtain ⟨log, ph, hpath, hp⟩ := Trace.LTS.exists_path_of_exec acts h
  exact ⟨log, ph, ⟨_, ⟨_, _, _, _, _, rfl⟩, hpath⟩, hp⟩

/-- A run of a fresh server, and a segment that continues it and passes a test. -/
lemma exists_run_path_of_exec (acts₁ acts₂ : List Action)
    {p : Phase → List (Trace.Entry Phase Action (List Output)) → Phase → Prop}
    [∀ t log u, Decidable (p t log u)]
    (h : (Trace.LTS.exec Phase.next (.idle (.new "" "" true 3 ⟨0, 99⟩)) [] acts₁).any (fun r =>
      (Trace.LTS.exec Phase.next r.2 [] acts₂).any
        (fun r' => decide (p r.2 r'.1 r'.2))) = true) :
    ∃ log₁ t log₂ u, serverLTS.Run log₁ t ∧ serverLTS.Path t log₂ u ∧ p t log₂ u := by
  obtain ⟨log₁, t, log₂, u, h₁, h₂, hp⟩ := Trace.LTS.exists_path_path_of_exec acts₁ acts₂ h
  exact ⟨log₁, t, log₂, u, ⟨_, ⟨_, _, _, _, _, rfl⟩, h₁⟩, h₂, hp⟩

/-- An entry of the server's log. -/
abbrev ServerEntry := Trace.Entry Phase Action (List Output)

/-- Does the entry clear the ready state? -/
def Clears (e : ServerEntry) : Prop := e.pre.clears e.act = true

instance : DecidablePred Clears := fun e => inferInstanceAs (Decidable (e.pre.clears e.act = true))

/-! ## Inversion of a step -/

/-- Everything a step of the machine can be. -/
inductive Moves : Phase → Action → List Output → Phase → Prop
  | beginStep {s : SessionServer} : Moves (.idle s) .beginStep [] (.receiving (.start s))
  | pollError {s : SessionServer} : Moves (.idle s) .pollError [] (.idle s)
  | statusChanged {s : SessionServer} {info : StatusChange} :
      Moves (.idle s) (.statusChanged info) [] (.idle (s.onSteamNetConnectionStatusChanged info))
  | resetLobbyForRematch {s : SessionServer} :
      Moves (.idle s) .resetLobbyForRematch [] (.idle s.resetLobbyForRematch)
  | message {st st' : StepState} {m : Incoming} {ev : Event} {out : List Output}
      (hev : st.server.event m = ev) (hids : KeepsIds st.server st'.server)
      (h : st.Handled m ev st' out) :
      Moves (.receiving st) (.message m) out (.receiving st')
  | nullMessage {st : StepState} : Moves (.receiving st) .nullMessage [] (.idle st.server)
  | endStep {st : StepState} : Moves (.receiving st) .endStep st.broadcasts (.idle st.finish)

lemma moves_of_next {ph ph' : Phase} {a : Action} {out : List Output}
    (h : ph.next a = some (out, ph')) : Moves ph a out ph' := by
  cases ph with
  | idle s =>
    cases a <;> simp only [Phase.next, Option.some.injEq, Prod.mk.injEq, reduceCtorEq] at h
    all_goals obtain ⟨rfl, rfl⟩ := h
    · exact .beginStep
    · exact .pollError
    · exact .statusChanged
    · exact .resetLobbyForRematch
  | receiving st =>
    cases a with
    | message m =>
      simp only [Phase.next, Option.map_eq_some_iff, Prod.mk.injEq] at h
      obtain ⟨⟨st', out'⟩, hm, rfl, rfl⟩ := h
      exact .message rfl (StepState.onMessage_keepsIds hm) (StepState.onMessage_cases hm)
    | nullMessage =>
      simp only [Phase.next, Option.some.injEq, Prod.mk.injEq] at h
      obtain ⟨rfl, rfl⟩ := h
      exact .nullMessage
    | endStep =>
      simp only [Phase.next, Option.some.injEq, Prod.mk.injEq] at h
      obtain ⟨rfl, rfl⟩ := h
      exact .endStep
    | beginStep | pollError | statusChanged | resetLobbyForRematch =>
      exact absurd h (by simp [Phase.next])

lemma moves_of_steps {e : ServerEntry} (h : serverLTS.Steps e) :
    Moves e.pre e.act e.out e.post := moves_of_next h

/-! ## The deferred broadcasts -/

/-- Is this the broadcast of `LOBBY_ALLREADY`? -/
def Output.isAllReady : Output → Bool
  | .broadcast _ .lobbyAllReady => true
  | _ => false

lemma Output.routine_of_isAllReady {o : Output} (h : o.isAllReady = true) :
    o.routine = false := by
  cases o with
  | respond conn msg => simp [isAllReady] at h
  | broadcast conns msg => cases msg <;> simp_all [isAllReady, routine, ServerMessage.routine]

/-- The entry broadcasts `LOBBY_ALLREADY`. -/
def BroadcastsAllReady (e : ServerEntry) : Prop := ∃ o ∈ e.out, o.isAllReady = true

instance : DecidablePred BroadcastsAllReady := fun e =>
  inferInstanceAs (Decidable (∃ o ∈ e.out, o.isAllReady = true))

lemma StepState.latched_of_mem_broadcasts {st : StepState} {o : Output}
    (ho : o ∈ st.broadcasts) (h : o.isAllReady = true) : st.bSendLobbyAllReady = true := by
  by_contra hl
  have hall : ∀ o ∈ st.broadcasts, o.isAllReady = false := by
    simp only [StepState.broadcasts, hl, SessionServer.broadcastMessage, StepState.dataUpdate]
    intro o ho
    simp only [List.mem_append] at ho
    rcases ho with (ho | ho) | ho
    all_goals
      split_ifs at ho
      all_goals simp_all [Output.isAllReady]
  exact absurd h (by simp [hall o ho])

/-- Anything but a routine message leaves the server only at the end of a `Step`. -/
lemma exists_endStep_of_not_routine {e : ServerEntry} (hstep : serverLTS.Steps e) {o : Output}
    (ho : o ∈ e.out) (h : o.routine = false) :
    ∃ st : StepState, e.pre = .receiving st ∧ e.act = .endStep ∧ e.out = st.broadcasts ∧
      e.post = .idle st.finish := by
  obtain ⟨pre, act, out, post⟩ := e
  have hm := moves_of_steps hstep
  cases hm with
  | beginStep | pollError | statusChanged | resetLobbyForRematch | nullMessage => simp at ho
  | message _ _ hh =>
    exfalso
    cases hh with
    | other _ _ hout => exact absurd (hout o ho) (by simp [h])
    | ready | reset | results | setter => simp at ho
  | endStep => exact ⟨_, rfl, rfl, rfl, rfl⟩

/-- `LOBBY_ALLREADY` leaves the server only at the end of a `Step` that latched it. -/
lemma exists_endStep_of_broadcastsAllReady {e : ServerEntry} (hstep : serverLTS.Steps e)
    (h : BroadcastsAllReady e) :
    ∃ st : StepState, e.pre = .receiving st ∧ e.act = .endStep ∧ e.out = st.broadcasts ∧
      e.post = .idle st.finish ∧ st.bSendLobbyAllReady = true := by
  obtain ⟨o, ho, hall⟩ := h
  obtain ⟨st, hpre, hact, hout, hpost⟩ :=
    exists_endStep_of_not_routine hstep ho (Output.routine_of_isAllReady hall)
  exact ⟨st, hpre, hact, hout, hpost, StepState.latched_of_mem_broadcasts (hout ▸ ho) hall⟩

/-- The end of a `Step` that latched it broadcasts `LOBBY_ALLREADY`. -/
lemma broadcastsAllReady_of_latched {e : ServerEntry} {st : StepState}
    (hout : e.out = st.broadcasts) (hl : st.bSendLobbyAllReady = true) : BroadcastsAllReady e :=
  ⟨st.server.broadcastMessage .lobbyAllReady, by simp [hout, StepState.broadcasts, hl], rfl⟩

/-! ## Single messages and calls -/

/-- A call from the outside. -/
inductive Call
  /-- `Step`, with what its poll returns. -/
  | step (poll : Option (List (Option Incoming)))
  /-- `OnSteamNetConnectionStatusChanged`. -/
  | statusChanged (info : StatusChange)
  /-- `ResetLobbyForRematch`. -/
  | resetLobbyForRematch

namespace SessionServer

/-- Carry out one call. -/
def call (s : SessionServer) : Call → Option (SessionServer × List Output)
  | .step poll => (s.step poll).map fun r => r.2
  | .statusChanged info => some (s.onSteamNetConnectionStatusChanged info, [])
  | .resetLobbyForRematch => some (s.resetLobbyForRematch, [])

/-- Carry out a sequence of calls, first call first. -/
def calls (s : SessionServer) : List Call → Option (SessionServer × List Output)
  | [] => some (s, [])
  | c :: cs =>
    match s.call c with
    | none => none
    | some (s', out) => (s'.calls cs).map fun r => (r.1, out ++ r.2)

lemma calls_append {s s' s'' : SessionServer} {cs cs' : List Call} {out out' : List Output}
    (h : s.calls cs = some (s', out)) (h' : s'.calls cs' = some (s'', out')) :
    s.calls (cs ++ cs') = some (s'', out ++ out') := by
  induction cs generalizing s out with
  | nil =>
    simp only [calls, Option.some.injEq, Prod.mk.injEq] at h
    obtain ⟨rfl, rfl⟩ := h
    simpa using h'
  | cons c cs ih =>
    simp only [calls, List.cons_append] at h ⊢
    cases hc : s.call c with
    | none => simp [hc] at h
    | some r =>
      obtain ⟨s₁, out₁⟩ := r
      simp only [hc, Option.map_eq_some_iff, Prod.mk.injEq] at h ⊢
      obtain ⟨⟨s₂, out₂⟩, hcs, rfl, rfl⟩ := h
      exact ⟨(s'', out₂ ++ out'), ih hcs, rfl, by simp⟩

end SessionServer

/-- Everything a log put out, oldest first. -/
def sent (log : List ServerEntry) : List Output := log.reverse.flatMap (·.out)

@[simp] lemma sent_nil : sent [] = [] := rfl

@[simp] lemma sent_cons (e : ServerEntry) (log : List ServerEntry) :
    sent (e :: log) = sent log ++ e.out := by simp [sent]

namespace StepState

/-- The loop over messages that all come with their data. -/
def receiveAll : StepState → List Incoming → Option (StepState × List Output)
  | st, [] => some (st, [])
  | st, m :: ms =>
    match st.onMessage m with
    | none => none
    | some (st', out) => (receiveAll st' ms).map fun r => (r.1, out ++ r.2)

lemma receiveAll_snoc {st st' st'' : StepState} {ms : List Incoming} {m : Incoming}
    {out out' : List Output} (h : st.receiveAll ms = some (st', out))
    (h' : st'.onMessage m = some (st'', out')) :
    st.receiveAll (ms ++ [m]) = some (st'', out ++ out') := by
  induction ms generalizing st out with
  | nil =>
    simp only [receiveAll, Option.some.injEq, Prod.mk.injEq] at h
    obtain ⟨rfl, rfl⟩ := h
    simp [receiveAll, h']
  | cons m₁ ms ih =>
    simp only [receiveAll, List.cons_append] at h ⊢
    cases hm : st.onMessage m₁ with
    | none => simp [hm] at h
    | some r =>
      obtain ⟨st₁, out₁⟩ := r
      simp only [hm, Option.map_eq_some_iff, Prod.mk.injEq] at h ⊢
      obtain ⟨⟨st₂, out₂⟩, hms, rfl, rfl⟩ := h
      exact ⟨(st'', out₂ ++ out'), ih hms, rfl, by simp⟩

/-- The loop of `Step` first takes the messages that come with their data. -/
lemma receive_of_receiveAll {st st' : StepState} {ms : List Incoming} {out : List Output}
    (h : st.receiveAll ms = some (st', out)) (rest : List (Option Incoming)) :
    st.receive (ms.map some ++ rest) =
      (st'.receive rest).map fun r => (r.1, r.2.1, out ++ r.2.2) := by
  induction ms generalizing st out with
  | nil =>
    simp only [receiveAll, Option.some.injEq, Prod.mk.injEq] at h
    obtain ⟨rfl, rfl⟩ := h
    simp
  | cons m ms ih =>
    simp only [receiveAll] at h
    cases hm : st.onMessage m with
    | none => simp [hm] at h
    | some r =>
      obtain ⟨st₁, out₁⟩ := r
      simp only [hm, Option.map_eq_some_iff, Prod.mk.injEq] at h
      obtain ⟨⟨st₂, out₂⟩, hms, rfl, rfl⟩ := h
      simp only [List.map_cons, List.cons_append, receive, hm, ih hms]
      cases st₂.receive rest with
      | none => rfl
      | some r => simp

end StepState

/-- The loop of `Step` as a path of the machine. -/
lemma exists_path_of_receive {ph₀ : Phase} {st : StepState} {msgs : List (Option Incoming)}
    {rc : ℤ} {s' : SessionServer} {out : List Output} {log : List ServerEntry}
    (hlog : serverLTS.Path ph₀ log (.receiving st)) (h : st.receive msgs = some (rc, s', out)) :
    ∃ log', serverLTS.Path ph₀ log' (.idle s') ∧ sent log' = sent log ++ out := by
  induction msgs generalizing st log out with
  | nil =>
    simp only [StepState.receive, Option.some.injEq, Prod.mk.injEq] at h
    obtain ⟨-, rfl, rfl⟩ := h
    exact ⟨⟨.receiving st, .endStep, st.broadcasts, .idle st.finish⟩ :: log,
      .snoc hlog rfl, by simp⟩
  | cons m msgs ih =>
    cases m with
    | none =>
      simp only [StepState.receive, Option.some.injEq, Prod.mk.injEq] at h
      obtain ⟨-, rfl, rfl⟩ := h
      exact ⟨⟨.receiving st, .nullMessage, [], .idle st.server⟩ :: log,
        .snoc hlog rfl, by simp⟩
    | some m =>
      simp only [StepState.receive] at h
      cases hm : st.onMessage m with
      | none => simp [hm] at h
      | some r =>
        obtain ⟨st₁, out₁⟩ := r
        cases hr : st₁.receive msgs with
        | none => simp [hm, hr] at h
        | some r =>
          obtain ⟨rc', s'', out₂⟩ := r
          simp only [hm, hr, Option.some.injEq, Prod.mk.injEq] at h
          obtain ⟨rfl, rfl, rfl⟩ := h
          let e : ServerEntry := ⟨.receiving st, .message m, out₁, .receiving st₁⟩
          have hnext : e.pre.next e.act = some (e.out, e.post) := by simp [e, Phase.next, hm]
          obtain ⟨log', hlog', hsent⟩ := ih (.snoc (e := e) hlog hnext) hr
          exact ⟨log', hlog', by simp [hsent, e]⟩

/-- One call as a path of the machine. -/
lemma exists_path_of_call {s s' : SessionServer} {c : Call} {out : List Output}
    (h : s.call c = some (s', out)) :
    ∃ log, serverLTS.Path (.idle s) log (.idle s') ∧ sent log = out := by
  cases c with
  | step poll =>
    simp only [SessionServer.call, Option.map_eq_some_iff] at h
    obtain ⟨⟨rc, r⟩, hstep, rfl⟩ := h
    cases poll with
    | none =>
      simp only [SessionServer.step, Option.some.injEq, Prod.mk.injEq] at hstep
      obtain ⟨-, rfl, rfl⟩ := hstep
      exact ⟨[⟨.idle s, .pollError, [], .idle s⟩], .snoc .refl rfl, rfl⟩
    | some msgs =>
      have hbegin : serverLTS.Path (.idle s)
          [⟨.idle s, .beginStep, [], .receiving (.start s)⟩] (.receiving (.start s)) :=
        .snoc .refl rfl
      simpa using exists_path_of_receive hbegin hstep
  | statusChanged info =>
    simp only [SessionServer.call, Option.some.injEq, Prod.mk.injEq] at h
    obtain ⟨rfl, rfl⟩ := h
    exact ⟨[⟨.idle s, .statusChanged info, [], .idle (s.onSteamNetConnectionStatusChanged info)⟩],
      .snoc .refl rfl, rfl⟩
  | resetLobbyForRematch =>
    simp only [SessionServer.call, Option.some.injEq, Prod.mk.injEq] at h
    obtain ⟨rfl, rfl⟩ := h
    exact ⟨[⟨.idle s, .resetLobbyForRematch, [], .idle s.resetLobbyForRematch⟩],
      .snoc .refl rfl, rfl⟩

/-- What a path of the machine means as calls: at rest, a sequence of calls; in the loop of
`Step`, a sequence of calls and then the messages taken so far. -/
def CallsTo (s : SessionServer) (out : List Output) : Phase → Prop
  | .idle s' => ∃ cs, s.calls cs = some (s', out)
  | .receiving st =>
    ∃ cs s' out' ms out'', s.calls cs = some (s', out') ∧
      (StepState.start s').receiveAll ms = some (st, out'') ∧ out = out' ++ out''

/-- A call made at rest extends the sequence of calls. -/
lemma CallsTo.call {s s' s'' : SessionServer} {out out' : List Output} {c : Call}
    (h : CallsTo s out (.idle s')) (hc : s'.call c = some (s'', out')) :
    CallsTo s (out ++ out') (.idle s'') := by
  obtain ⟨cs, hcs⟩ := h
  exact ⟨cs ++ [c], SessionServer.calls_append hcs (by simp [SessionServer.calls, hc])⟩

/-- Ending the loop turns the messages taken so far into a call of `Step`. -/
lemma CallsTo.endLoop {s s' : SessionServer} {st : StepState} {out out' : List Output}
    {rc : ℤ} (h : CallsTo s out (.receiving st)) (rest : List (Option Incoming))
    (hrest : st.receive rest = some (rc, s', out')) : CallsTo s (out ++ out') (.idle s') := by
  obtain ⟨cs, s₁, out₁, ms, out₂, hcs, hms, rfl⟩ := h
  have hstep : s₁.call (.step (some (ms.map some ++ rest))) = some (s', out₂ ++ out') := by
    simp [SessionServer.call, SessionServer.step, StepState.receive_of_receiveAll hms, hrest]
  have hcall := CallsTo.call ⟨cs, hcs⟩ hstep
  simpa using hcall

lemma callsTo_of_path {s : SessionServer} {ph : Phase} {log : List ServerEntry}
    (h : serverLTS.Path (.idle s) log ph) : CallsTo s (sent log) ph := by
  induction h with
  | refl => exact ⟨[], rfl⟩
  | snoc _ hstep ih =>
    rename_i log e _
    obtain ⟨pre, act, out, post⟩ := e
    rw [sent_cons]
    dsimp only at ih ⊢
    have hnext : pre.next act = some (out, post) := hstep
    cases pre with
    | idle s' =>
      cases act <;> simp only [Phase.next, Option.some.injEq, Prod.mk.injEq, reduceCtorEq] at hnext
      all_goals obtain ⟨rfl, rfl⟩ := hnext
      · obtain ⟨cs, hcs⟩ := ih
        exact ⟨cs, s', sent log, [], [], hcs, rfl, by simp⟩
      · exact ih.call (c := .step none) rfl
      · exact ih.call (c := .statusChanged _) rfl
      · exact ih.call (c := .resetLobbyForRematch) rfl
    | receiving st =>
      cases act with
      | message m =>
        simp only [Phase.next, Option.map_eq_some_iff, Prod.mk.injEq] at hnext
        obtain ⟨⟨st', out'⟩, hm, rfl, rfl⟩ := hnext
        obtain ⟨cs, s₁, out₁, ms, out₂, hcs, hms, hout⟩ := ih
        exact ⟨cs, s₁, out₁, ms ++ [m], out₂ ++ out', hcs,
          StepState.receiveAll_snoc hms hm, by simp [hout]⟩
      | nullMessage =>
        simp only [Phase.next, Option.some.injEq, Prod.mk.injEq] at hnext
        obtain ⟨rfl, rfl⟩ := hnext
        exact ih.endLoop [none] rfl
      | endStep =>
        simp only [Phase.next, Option.some.injEq, Prod.mk.injEq] at hnext
        obtain ⟨rfl, rfl⟩ := hnext
        exact ih.endLoop [] rfl
      | beginStep | pollError | statusChanged | resetLobbyForRematch =>
        exact absurd hnext (by simp [Phase.next])

/-- **The machine of single messages and the calls of the source agree.** Between resting
states, a path of the machine with given outputs exists exactly when a sequence of calls
with these outputs does. -/
theorem exists_path_iff_exists_calls {s s' : SessionServer} {out : List Output} :
    (∃ log, serverLTS.Path (.idle s) log (.idle s') ∧ sent log = out) ↔
      ∃ cs, s.calls cs = some (s', out) := by
  constructor
  · rintro ⟨log, hpath, rfl⟩
    exact callsTo_of_path hpath
  · rintro ⟨cs, h⟩
    induction cs generalizing s out with
    | nil =>
      simp only [SessionServer.calls, Option.some.injEq, Prod.mk.injEq] at h
      obtain ⟨rfl, rfl⟩ := h
      exact ⟨[], .refl, rfl⟩
    | cons c cs ih =>
      simp only [SessionServer.calls] at h
      cases hc : s.call c with
      | none => simp [hc] at h
      | some r =>
        obtain ⟨s₁, out₁⟩ := r
        simp only [hc, Option.map_eq_some_iff, Prod.mk.injEq] at h
        obtain ⟨⟨s₂, out₂⟩, hcs, rfl, rfl⟩ := h
        obtain ⟨log₁, hpath₁, rfl⟩ := exists_path_of_call hc
        obtain ⟨log₂, hpath₂, rfl⟩ := ih hcs
        exact ⟨log₂ ++ log₁, Trace.LTS.path_append_iff.2 ⟨_, hpath₁, hpath₂⟩,
          by simp [sent]⟩

end Sf4e
