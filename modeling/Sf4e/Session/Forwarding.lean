/-
# The source of what the server passes on

Two message types carry a source address that the sender writes itself: a forwarded message
and a GGPO frame.  When the address belongs to this server, the server can check it against
the connection the message came in on.  For a GGPO frame the check ends the handling; for a
forwarded message it writes a log line that speaks of a dropped packet, and the packet goes
on.  `sourceChecked_iff` says that this is the only hole.
-/
import Sf4e.Session.ServerRun

namespace Sf4e

open SessionProtocol SessionServer Trace

/-! ## The property -/

/-- The source that a forwarded message or a GGPO frame claims. -/
def SessionProtocol.Document.source (doc : Document) : Option ConnectionID :=
  match doc.type.map MessageType.fromJson with
  | some .forward => doc.forward.map (·.src)
  | some .battleGgpoFrame => doc.ggpoFrame.map (·.src)
  | _ => none

/-- The message an output passes on. -/
def Output.relayed? : Output → Option Document
  | .respond _ (.relayed doc) => some doc
  | _ => none

/-- The source is an address on this server, but not that of the connection. -/
def SessionServer.Masquerades (s : SessionServer) (conn : HSteamNetConnection)
    (src : ConnectionID) : Prop :=
  src.host = s.identity ∧ src.user ≠ toString conn.toNat

instance (s : SessionServer) (conn : HSteamNetConnection) : DecidablePred (s.Masquerades conn) :=
  fun src => inferInstanceAs (Decidable (src.host = s.identity ∧ src.user ≠ toString conn.toNat))

/-- The server has checked the source of what it passes on in this step. -/
structure SourceChecked (e : ServerEntry) : Prop where
  /-- A source on this server names the connection the message came in on. -/
  names : ∀ m ∈ e.act.message?, ∀ o ∈ e.out, ∀ doc ∈ o.relayed?, ∀ src ∈ doc.source,
    src.host = e.pre.server.identity → src.user = toString m.conn.toNat
  /-- A message under the address of somebody else is delivered to nobody. -/
  drops : ∀ m ∈ e.act.message?, ∀ doc ∈ m.payload, ∀ src ∈ doc.source,
    e.pre.server.Masquerades m.conn src → e.out = []

/-- The message is a forwarded one under the address of somebody else, for a member. -/
def SpoofsForward (e : ServerEntry) : Prop :=
  ∃ m ∈ e.act.message?, ∃ doc ∈ m.payload, e.pre.server.request m = some (.forward, doc) ∧
    ∃ fwd ∈ doc.forward, e.pre.server.Masquerades m.conn fwd.src ∧
      ∃ c ∈ e.pre.server.clients, c.data.connId = fwd.dest

instance : DecidablePred SpoofsForward := fun e =>
  inferInstanceAs (Decidable (∃ m ∈ e.act.message?, ∃ doc ∈ m.payload,
    e.pre.server.request m = some (.forward, doc) ∧
    ∃ fwd ∈ doc.forward, e.pre.server.Masquerades m.conn fwd.src ∧
      ∃ c ∈ e.pre.server.clients, c.data.connId = fwd.dest))

/-! ## What the handlers pass on -/

lemma relayTo_eq_nil_iff {s : SessionServer} {dest : ConnectionID} {doc : Document} :
    s.relayTo dest doc = [] ↔ ∀ c ∈ s.clients, c.data.connId ≠ dest := by
  unfold relayTo
  split
  · rename_i hnone
    simpa using hnone
  · rename_i c hc
    have hmem := List.mem_of_find?_eq_some hc
    have hdest : c.data.connId = dest := by simpa using List.find?_some hc
    simpa using ⟨c, hmem, hdest⟩

/-- A handler passes on the message it handles and nothing else. -/
lemma relayed_relayTo {s : SessionServer} {dest : ConnectionID} {doc doc' : Document}
    {o : Output} (ho : o ∈ s.relayTo dest doc) (h : o.relayed? = some doc') : doc' = doc := by
  unfold relayTo at ho
  split at ho
  · simp at ho
  · obtain rfl := List.mem_singleton.1 ho
    simpa [Output.relayed?] using h.symm

/-- The request in a message has the type that decides its source. -/
lemma source_of_request {s : SessionServer} {m : Incoming} {type : MessageType} {doc : Document}
    (h : s.request m = some (type, doc)) :
    doc.source = match type with
      | .forward => doc.forward.map (·.src)
      | .battleGgpoFrame => doc.ggpoFrame.map (·.src)
      | _ => none := by
  obtain ⟨hp, htype, -⟩ := request_eq_some_iff.1 h
  have hfield : doc.type.map MessageType.fromJson = some type := by
    simpa [Incoming.type?, hp] using htype
  rw [Document.source, hfield]
  cases type <;> rfl

/-- What a handler passes on is the message it handles. -/
lemma relayed_onRegistered {st st' : StepState} {m : Incoming} {doc doc' : Document}
    {type : MessageType} {cid : ConnectionID} {out : List Output} {o : Output}
    (h : st.onRegistered m doc type cid = some (st', out)) (ho : o ∈ out)
    (hdoc : o.relayed? = some doc') : doc' = doc := by
  cases type <;> simp only [StepState.onRegistered, Option.some.injEq, Prod.mk.injEq] at h
  case lobbyReportResults =>
    obtain ⟨s', -, heq⟩ := Option.map_eq_some_iff.1 h
    obtain ⟨-, rfl⟩ := Prod.mk.inj heq
    simp at ho
  all_goals obtain ⟨-, rfl⟩ := h
  case forward =>
    unfold onForward at ho
    split at ho
    · simp at ho
    · exact relayed_relayTo ho hdoc
  case battleGgpoFrame =>
    unfold onGgpoFrame at ho
    split at ho
    · simp at ho
    · split at ho
      · simp at ho
      · exact relayed_relayTo ho hdoc
  case battleSnapshot =>
    obtain ⟨c, -, rfl⟩ := List.mem_map.1 ho
    simpa [Output.relayed?] using hdoc.symm
  case battleHash =>
    obtain ⟨c, -, rfl⟩ := List.mem_map.1 ho
    simpa [Output.relayed?] using hdoc.symm
  case sessionJoinReq =>
    unfold onJoinReq at ho
    split at ho
    · obtain rfl := List.mem_singleton.1 ho
      simp [Output.relayed?] at hdoc
    · split at ho
      · simp at ho
      · obtain rfl := List.mem_singleton.1 ho
        simp [Output.relayed?] at hdoc
  case punchReady =>
    unfold onPunchReady at ho
    split at ho
    · simp at ho
    · dsimp only at ho
      split at ho
      · obtain rfl := List.mem_singleton.1 ho
        simp [Output.relayed?, broadcastMessage] at hdoc
      · simp at ho
  all_goals simp at ho

/-- A GGPO frame under the address of somebody else is dropped. -/
lemma onGgpoFrame_of_masquerades {s : SessionServer} {conn : HSteamNetConnection}
    {doc : Document} {frame : BattleGgpoFrame} (hframe : doc.ggpoFrame = some frame)
    (h : s.Masquerades conn frame.src) : s.onGgpoFrame conn doc = [] := by
  simp only [onGgpoFrame, hframe]
  exact if_pos h

/-- A forwarded message is passed on, whatever its source, when its destination is a member. -/
lemma onForward_eq_nil_iff {s : SessionServer} {doc : Document} {fwd : ForwardMessage}
    (hfwd : doc.forward = some fwd) :
    s.onForward doc = [] ↔ ∀ c ∈ s.clients, c.data.connId ≠ fwd.dest := by
  simp only [onForward, hfwd]
  exact relayTo_eq_nil_iff

/-- **Step lemma.** What a masquerading message does is decided by its type: a forwarded one
to a member goes through, everything else stops. -/
lemma out_of_masquerades {st st' : StepState} {m : Incoming} {doc : Document}
    {src : ConnectionID} {out : List Output} (h : st.onMessage m = some (st', out))
    (hp : m.payload = some doc) (hsrc : doc.source = some src)
    (hmask : st.server.Masquerades m.conn src) :
    out = [] ∨ st.server.request m = some (.forward, doc) ∧
      ∃ fwd ∈ doc.forward, fwd.src = src ∧ ∃ c ∈ st.server.clients, c.data.connId = fwd.dest := by
  rcases StepState.onMessage_request h with ⟨type, doc', cid, hreq, -, hreg⟩ | ⟨-, -, rfl⟩ |
    ⟨-, htype, -, -⟩
  · obtain rfl : doc = doc' :=
      Option.some.inj (hp.symm.trans (request_eq_some_iff.1 hreq).1)
    rw [source_of_request hreq] at hsrc
    cases type <;> simp only [reduceCtorEq] at hsrc
    case forward =>
      obtain ⟨fwd, hfwd, rfl⟩ := Option.map_eq_some_iff.1 hsrc
      simp only [StepState.onRegistered, Option.some.injEq, Prod.mk.injEq] at hreg
      obtain ⟨-, rfl⟩ := hreg
      by_cases hnil : st.server.onForward doc = []
      · exact .inl hnil
      · rw [onForward_eq_nil_iff hfwd] at hnil
        push Not at hnil
        exact .inr ⟨hreq, fwd, hfwd, rfl, hnil⟩
    case battleGgpoFrame =>
      obtain ⟨frame, hframe, rfl⟩ := Option.map_eq_some_iff.1 hsrc
      simp only [StepState.onRegistered, Option.some.injEq, Prod.mk.injEq] at hreg
      obtain ⟨-, rfl⟩ := hreg
      exact .inl (onGgpoFrame_of_masquerades hframe hmask)
  · exact .inl rfl
  · -- a hello has no source
    obtain ⟨field, hfield, hhello⟩ : ∃ f, doc.type = some f ∧ MessageType.fromJson f =
        .sessionHello := by simpa [Incoming.type?, hp] using htype
    simp [Document.source, hfield, hhello] at hsrc

/-- **Step lemma.** A step checks its sources unless it handles a spoofed forwarded message. -/
lemma sourceChecked_entry_iff {e : ServerEntry} (hs : serverLTS.Steps e) :
    SourceChecked e ↔ ¬ SpoofsForward e := by
  constructor
  · rintro hchecked ⟨m, hm, doc, hp, hreq, fwd, hfwd, hmask, c, hc, hdest⟩
    have hsrc : doc.source = some fwd.src := by
      rw [source_of_request hreq]
      exact Option.map_eq_some_iff.2 ⟨fwd, hfwd, rfl⟩
    have hnil := hchecked.drops m hm doc hp fwd.src hsrc hmask
    obtain ⟨pre, act, out, post⟩ := e
    obtain rfl : act = .message m := by cases act <;> simp_all [Action.message?]
    cases pre with
    | idle s => simp [Trace.LTS.Steps, serverLTS, Trace.LTS.ofFun, Phase.next] at hs
    | receiving st =>
      obtain ⟨⟨st', out'⟩, hmsg, heq⟩ := Option.map_eq_some_iff.1 hs
      obtain ⟨rfl, -⟩ := Prod.mk.inj heq
      rcases StepState.onMessage_request hmsg with ⟨type, doc', cid, hreq', -, hreg⟩ |
        ⟨hnone, -⟩ | ⟨hnone, -⟩
      · obtain ⟨rfl, rfl⟩ := Prod.mk.inj (Option.some.inj (hreq.symm.trans hreq'))
        simp only [StepState.onRegistered, Option.some.injEq, Prod.mk.injEq] at hreg
        obtain ⟨-, rfl⟩ := hreg
        exact (onForward_eq_nil_iff hfwd).1 hnil c hc hdest
      all_goals
        have hsome : st.server.request m = some (.forward, doc) := hreq
        rw [hnone] at hsome
        exact absurd hsome (by simp)
  · intro hno
    obtain ⟨pre, act, out, post⟩ := e
    have hstep : ∀ m ∈ act.message?, ∃ st st', pre = .receiving st ∧
        st.onMessage m = some (st', out) := by
      intro m hm
      obtain rfl : act = .message m := by cases act <;> simp_all [Action.message?]
      cases pre with
      | idle s => simp [Trace.LTS.Steps, serverLTS, Trace.LTS.ofFun, Phase.next] at hs
      | receiving st =>
        obtain ⟨⟨st', out'⟩, hmsg, heq⟩ := Option.map_eq_some_iff.1 hs
        obtain ⟨rfl, -⟩ := Prod.mk.inj heq
        exact ⟨st, st', rfl, hmsg⟩
    have hdrops : ∀ m ∈ act.message?, ∀ doc ∈ m.payload, ∀ src ∈ doc.source,
        pre.server.Masquerades m.conn src → out = [] := by
      intro m hm doc hp src hsrc hmask
      obtain ⟨st, st', rfl, hmsg⟩ := hstep m hm
      rcases out_of_masquerades hmsg hp hsrc hmask with hnil | ⟨hreq, fwd, hfwd, rfl, hmem⟩
      · exact hnil
      · exact absurd ⟨m, hm, doc, hp, hreq, fwd, hfwd, hmask, hmem⟩ hno
    refine ⟨fun m hm o ho doc hdoc src hsrc hhost => ?_, hdrops⟩
    obtain ⟨st, st', rfl, hmsg⟩ := hstep m hm
    -- what is passed on is the message itself
    rcases StepState.onMessage_request hmsg with ⟨type, doc', cid, hreq, -, hreg⟩ |
      ⟨-, -, rfl⟩ | ⟨-, -, -, rfl⟩
    · obtain rfl := relayed_onRegistered hreg ho hdoc
      by_contra huser
      have hnil := hdrops m hm doc (request_eq_some_iff.1 hreq).1 src hsrc ⟨hhost, huser⟩
      rw [hnil] at ho
      exact absurd ho (by simp)
    · exact absurd ho (by simp)
    · obtain rfl := List.mem_singleton.1 ho
      exact absurd hdoc (by simp [Output.relayed?])

/-! ## Runs -/

/-- **No spoofing but of forwarded messages.** In a run of the server every source on this
server that is passed on names the connection it came from, and every message under the address
of somebody else stops, exactly when nobody forwards a message to a member under such an
address. -/
theorem sourceChecked_iff {log : List ServerEntry} {ph : Phase} (h : serverLTS.Run log ph) :
    (∀ e ∈ log, SourceChecked e) ↔ ∀ e ∈ log, ¬ SpoofsForward e := by
  obtain ⟨s, -, hpath⟩ := h
  refine forall₂_congr fun e he => ?_
  exact sourceChecked_entry_iff (hpath.steps_of_mem he)

/-- Two members join and the first sends the second a GGPO frame under its own address, and
another one, which is dropped, under the address of the second. -/
theorem sourceChecked_two_members :
    ∃ log ph, serverLTS.Run log ph ∧ (∃ e ∈ log, ∃ o ∈ e.out, o.relayed?.isSome = true) ∧
      ∀ e ∈ log, SourceChecked e := by
  obtain ⟨log, ph, hrun, hsent, hno⟩ := exists_run_of_exec
    ([.beginStep] ++ Action.enter 1 "A" ++ Action.enter 2 "B" ++
      [.message ⟨1, 3, "", true, some { Document.bare .battleGgpoFrame with
          ggpoFrame := some ⟨⟨"", "1"⟩, ⟨"", "2"⟩, [7]⟩ }⟩,
        .message ⟨1, 4, "", true, some { Document.bare .battleGgpoFrame with
          ggpoFrame := some ⟨⟨"", "2"⟩, ⟨"", "1"⟩, [7]⟩ }⟩, .endStep])
    (p := fun log _ => (∃ e ∈ log, ∃ o ∈ e.out, o.relayed?.isSome = true) ∧
      ∀ e ∈ log, ¬ SpoofsForward e) (by decide +kernel)
  exact ⟨log, ph, hrun, hsent, (sourceChecked_iff hrun).2 hno⟩

/-- **A forwarded message can be spoofed.** `A`, `B` and `C` join, and `C` forwards a message
to `B` under the address of `A`. -/
theorem not_sourceChecked_forward :
    ¬ ∀ log ph, serverLTS.Run log ph → ∀ e ∈ log, SourceChecked e := by
  intro h
  obtain ⟨log, ph, hrun, e, he, hmask, hout⟩ := exists_run_of_exec
    ([.beginStep] ++ Action.enter 1 "A" ++ Action.enter 2 "B" ++ Action.enter 3 "C" ++
      [.message ⟨3, 3, "", true, some { Document.bare .forward with
          forward := some ⟨⟨"", "1"⟩, ⟨"", "2"⟩, "1"⟩ }⟩])
    (p := fun log _ => ∃ e ∈ log, (∃ m ∈ e.act.message?, ∃ doc ∈ m.payload,
      ∃ src ∈ doc.source, e.pre.server.Masquerades m.conn src) ∧ e.out ≠ [])
    (by decide +kernel)
  obtain ⟨m, hm, doc, hp, src, hsrc, hmask⟩ := hmask
  exact hout ((h log ph hrun e he).drops m hm doc hp src hsrc hmask)

end Sf4e
