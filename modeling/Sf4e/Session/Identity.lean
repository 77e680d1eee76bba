/-
# Which player a client is

A client finds itself in the lobby by its connection id, which it was told when it introduced
itself, and the server finds a client by its connection.  The two agree: the id a client holds is
the one its seat has (`Introduced`), so a client that is up to date takes itself to be on the
side on which the server has it (`localLobbyActiveSide_eq_side`).
-/
import Sf4e.Session.Replica
import Sf4e.Session.Roster

namespace Sf4e

open SessionProtocol SessionServer Trace

/-! ## The ids of a server -/

/-- The id that the server makes for a connection. -/
def SessionServer.cidOf (s : SessionServer) (conn : HSteamNetConnection) : ConnectionID :=
  ⟨s.identity, toString conn.toNat⟩

lemma cidOf_injective {s : SessionServer} {a b : HSteamNetConnection}
    (h : s.cidOf a = s.cidOf b) : a = b :=
  toString_conn_injective (ConnectionID.mk.inj h).2

namespace SessionServer

lemma hostSetter_identity {ρ : Type} (s : SessionServer) (conn : HSteamNetConnection)
    (request : Option ρ) (set : ρ → SessionServer) (h : ∀ r, (set r).identity = s.identity) :
    (s.hostSetter conn request set).identity = s.identity := by
  unfold hostSetter
  split
  · rfl
  · split
    · rfl
    · exact h _

lemma onJoinReq_identity (s : SessionServer) (m : Incoming) (doc : Document)
    (cid : ConnectionID) : (s.onJoinReq m doc cid).1.identity = s.identity := by
  unfold onJoinReq
  split
  · rfl
  · rename_i request _
    obtain ⟨c, h⟩ | ⟨r, -, h⟩ := s.registerToWait_cases m request cid
    · rw [h]
    · rw [h]
      split <;> rename_i heq
      · rw [← (Prod.mk.inj heq).2]
      · rw [← (Prod.mk.inj heq).2]

lemma onReportResults_identity {s s' : SessionServer} {doc : Document}
    (h : s.onReportResults doc = some s') : s'.identity = s.identity := by
  unfold onReportResults at h
  split at h
  · rw [Option.some.inj h]
  · obtain ⟨s₁, hs₁, rfl⟩ := Option.map_eq_some_iff.1 h
    unfold handleResults at hs₁
    split at hs₁
    · exact absurd hs₁.symm (Option.some_ne_none s₁)
    · split at hs₁
      · exact absurd hs₁.symm (Option.some_ne_none s₁)
      · rw [← Option.some.inj hs₁]

end SessionServer

namespace StepState

lemma onRegistered_identity {st st' : StepState} {m : Incoming} {doc : Document}
    {type : MessageType} {cid : ConnectionID} {out : List Output}
    (h : st.onRegistered m doc type cid = some (st', out)) :
    st'.server.identity = st.server.identity := by
  cases type
  case lobbyReportResults =>
    obtain ⟨s', hs', heq⟩ := Option.map_eq_some_iff.1 h
    obtain ⟨rfl, -⟩ := Prod.mk.inj heq
    exact onReportResults_identity hs'
  all_goals obtain ⟨rfl, -⟩ := Prod.mk.inj (Option.some.inj h)
  case sessionJoinReq => exact onJoinReq_identity _ m doc cid
  case preBattleSetEnv => exact hostSetter_identity _ m.conn _ _ fun _ => rfl
  case preBattleSetStage => exact hostSetter_identity _ m.conn _ _ fun _ => rfl
  case lobbySetSettings => exact hostSetter_identity _ m.conn _ _ fun _ => rfl
  case preBattleSetChara =>
    show (st.server.onSetChara m.conn doc).identity = _
    unfold onSetChara
    split <;> rfl
  case lobbyReady =>
    show (st.onReady m).server.identity = _
    unfold onReady
    split <;> rfl
  case lobbyReset =>
    show (st.server.onReset m.conn).identity = _
    unfold onReset
    split <;> rfl
  case punchReady =>
    show (st.server.onPunchReady m.conn).1.identity = _
    unfold onPunchReady
    split
    · rfl
    · dsimp only
      split <;> rfl
  all_goals rfl

lemma onMessage_identity {st st' : StepState} {m : Incoming} {out : List Output}
    (h : st.onMessage m = some (st', out)) : st'.server.identity = st.server.identity := by
  obtain ⟨type, doc, cid, -, -, hreg⟩ | ⟨-, rfl, -⟩ | ⟨-, -, rfl, -⟩ := onMessage_request h
  · exact onRegistered_identity hreg
  · rfl
  · rfl

end StepState

/-- A server keeps its identity. -/
lemma identity_of_next {ph ph' : Phase} {a : Action} {out : List Output}
    (h : ph.next a = some (out, ph')) : ph'.server.identity = ph.server.identity := by
  have hmove := moves_of_next h
  cases hmove with
  | beginStep | pollError | resetLobbyForRematch | nullMessage | endStep => rfl
  | statusChanged =>
    rename_i s info
    show (s.onSteamNetConnectionStatusChanged info).identity = s.identity
    unfold onSteamNetConnectionStatusChanged
    split
    · split <;> rfl
    · rfl
  | message =>
    obtain ⟨r, hm, heq⟩ := Option.map_eq_some_iff.1 h
    obtain ⟨-, hpost⟩ := Prod.mk.inj heq
    rw [← hpost]
    exact StepState.onMessage_identity hm

lemma cidOf_of_next {ph ph' : Phase} {a : Action} {out : List Output}
    (h : ph.next a = some (out, ph')) (conn : HSteamNetConnection) :
    ph'.server.cidOf conn = ph.server.cidOf conn := by
  rw [cidOf, cidOf, identity_of_next h]

/-- The ids in use are those the server makes. -/
structure IdsMade (s : SessionServer) : Prop where
  /-- The ids that were handed out. -/
  cidMap : ∀ conn cid, s.cidMap conn = some cid → cid = s.cidOf conn
  /-- The ids of the seats. -/
  seats : ∀ x ∈ s.seats, x.2.1 = s.cidOf x.1

lemma cidMap_of_onMessage {st st' : StepState} {m : Incoming} {out : List Output}
    (h : st.onMessage m = some (st', out)) {conn : HSteamNetConnection} {cid : ConnectionID}
    (hcid : st'.server.cidMap conn = some cid) :
    st.server.cidMap conn = some cid ∨ cid = st.server.cidOf conn := by
  obtain ⟨type, doc, cid', -, -, hreg⟩ | ⟨-, rfl, -⟩ | ⟨-, -, rfl, -⟩ :=
    StepState.onMessage_request h
  · exact .inl (by rwa [StepState.onRegistered_cidMap hreg] at hcid)
  · exact .inl hcid
  · by_cases hconn : conn = m.conn
    · subst hconn
      have hnew : some (st.server.cidOf m.conn) = some cid := by
        simpa [onHello, cidOf] using hcid
      exact .inr (Option.some.inj hnew).symm
    · exact .inl (by simpa [onHello, Function.update_of_ne hconn] using hcid)

/-- **Step lemma for the ids.** -/
lemma IdsMade.step {ph ph' : Phase} {a : Action} {out : List Output} (hids : IdsMade ph.server)
    (h : ph.next a = some (out, ph')) : IdsMade ph'.server := by
  constructor
  · intro conn cid hcid
    rw [cidOf_of_next h]
    have hsame : ph'.server.cidMap = ph.server.cidMap → cid = ph.server.cidOf conn :=
      fun heq => hids.cidMap conn cid (heq ▸ hcid)
    cases moves_of_next h with
    | beginStep | pollError | resetLobbyForRematch | nullMessage | endStep => exact hsame rfl
    | statusChanged => exact hsame (cidMap_statusChanged _ _)
    | message =>
      obtain ⟨r, hm, heq⟩ := Option.map_eq_some_iff.1 h
      obtain ⟨-, hpost⟩ := Prod.mk.inj heq
      rw [← hpost] at hcid
      exact (cidMap_of_onMessage hm hcid).elim (hids.cidMap conn cid) id
  · intro x hx
    rw [cidOf_of_next h]
    rcases seats_of_next h with ⟨m, -, r, -, -, cid, hcid, hseats⟩ | hsub
    · rw [hseats] at hx
      rcases List.mem_append.1 hx with hx | hx
      · exact hids.seats x hx
      · obtain rfl := List.mem_singleton.1 hx
        exact hids.cidMap m.conn cid hcid
    · exact hids.seats x (hsub.subset hx)

/-! ## Introductions -/

/-- The output does not tell anybody an id. -/
def Output.isPlain : Output → Bool
  | .respond _ (.helloResp _) | .broadcast _ (.helloResp _) => false
  | _ => true

/-- Plain outputs bring nobody an id. -/
lemma not_mem_deliveries_of_isPlain {o : Output} (h : o.isPlain = true)
    (conn : HSteamNetConnection) (cid : ConnectionID) : .helloResp cid ∉ o.deliveries conn := by
  intro hmem
  obtain ⟨c, cs, rfl | rfl⟩ := eq_of_mem_deliveries hmem
  · exact Bool.false_ne_true h
  · exact Bool.false_ne_true h

lemma relayTo_isPlain (s : SessionServer) (dest : ConnectionID) (doc : Document) :
    ∀ o ∈ s.relayTo dest doc, o.isPlain = true := by
  intro o ho
  unfold relayTo at ho
  split at ho
  · exact absurd ho List.not_mem_nil
  · rw [List.mem_singleton.1 ho]
    rfl

lemma onJoinReq_isPlain (s : SessionServer) (m : Incoming) (doc : Document)
    (cid : ConnectionID) : ∀ o ∈ (s.onJoinReq m doc cid).2, o.isPlain = true := by
  intro o ho
  unfold onJoinReq at ho
  split at ho
  · rw [List.mem_singleton.1 ho]
    rfl
  · split at ho
    · exact absurd ho List.not_mem_nil
    · rw [List.mem_singleton.1 ho]
      rfl

lemma onPunchReady_isPlain (s : SessionServer) (conn : HSteamNetConnection) :
    ∀ o ∈ (s.onPunchReady conn).2, o.isPlain = true := by
  intro o ho
  unfold onPunchReady at ho
  split at ho
  · exact absurd ho List.not_mem_nil
  · dsimp only at ho
    split at ho
    · rw [List.mem_singleton.1 ho]
      rfl
    · exact absurd ho List.not_mem_nil

lemma onRegistered_isPlain {st st' : StepState} {m : Incoming} {doc : Document}
    {type : MessageType} {cid : ConnectionID} {out : List Output}
    (h : st.onRegistered m doc type cid = some (st', out)) : ∀ o ∈ out, o.isPlain = true := by
  have hnil : ∀ o ∈ ([] : List Output), o.isPlain = true := fun o ho => absurd ho List.not_mem_nil
  have hverification : ∀ o ∈ st.server.onVerification m.conn doc, o.isPlain = true := by
    intro o ho
    obtain ⟨c, -, rfl⟩ := List.mem_map.1 ho
    rfl
  cases type
  case lobbyReportResults =>
    obtain ⟨s', -, heq⟩ := Option.map_eq_some_iff.1 h
    obtain ⟨-, rfl⟩ := Prod.mk.inj heq
    exact hnil
  all_goals obtain ⟨-, rfl⟩ := Prod.mk.inj (Option.some.inj h)
  case forward =>
    show ∀ o ∈ st.server.onForward doc, o.isPlain = true
    unfold onForward
    split
    · exact hnil
    · exact relayTo_isPlain _ _ _
  case battleGgpoFrame =>
    show ∀ o ∈ st.server.onGgpoFrame m.conn doc, o.isPlain = true
    unfold onGgpoFrame
    split
    · exact hnil
    · split
      · exact hnil
      · exact relayTo_isPlain _ _ _
  case battleSnapshot => exact hverification
  case battleHash => exact hverification
  case sessionJoinReq => exact onJoinReq_isPlain _ m doc cid
  case punchReady => exact onPunchReady_isPlain _ m.conn
  all_goals exact hnil

/-- The end of a `Step` introduces nobody. -/
lemma broadcasts_isPlain (st : StepState) : ∀ o ∈ st.broadcasts, o.isPlain = true := by
  intro o ho
  simp only [StepState.broadcasts, List.mem_append] at ho
  rcases ho with (ho | ho) | ho
  all_goals
    split at ho
    · rw [List.mem_singleton.1 ho]
      rfl
    · exact absurd ho List.not_mem_nil

/-- **A connection is told its own id.** Whoever is told an id, it is the id of its connection. -/
lemma helloResp_of_next {ph ph' : Phase} {a : Action} {out : List Output}
    (h : ph.next a = some (out, ph')) {conn : HSteamNetConnection} {cid : ConnectionID}
    (hmem : .helloResp cid ∈ out.flatMap (Output.deliveries conn)) :
    cid = ph.server.cidOf conn := by
  obtain ⟨o, ho, hmsg⟩ := List.mem_flatMap.1 hmem
  have hplain : o.isPlain ≠ true := fun hp => not_mem_deliveries_of_isPlain hp conn cid hmsg
  cases moves_of_next h with
  | beginStep | pollError | resetLobbyForRematch | nullMessage | statusChanged =>
    exact absurd ho List.not_mem_nil
  | endStep => exact absurd (broadcasts_isPlain _ o ho) hplain
  | message =>
    rename_i st st' m ev hev hids hh
    obtain ⟨r, hm, heq⟩ := Option.map_eq_some_iff.1 h
    obtain ⟨hout, -⟩ := Prod.mk.inj heq
    subst hout
    obtain ⟨type, doc, cid', -, -, hreg⟩ | ⟨-, -, hnil⟩ | ⟨-, -, -, hhello⟩ :=
      StepState.onMessage_request hm
    · exact absurd (onRegistered_isPlain hreg o ho) hplain
    · rw [hnil] at ho
      exact absurd ho List.not_mem_nil
    · rw [hhello] at ho
      obtain rfl := List.mem_singleton.1 ho
      simp only [Output.deliveries] at hmsg
      split_ifs at hmsg with hconn
      · subst hconn
        exact ServerMessage.helloResp.inj (List.mem_singleton.1 hmsg)
      · exact absurd hmsg List.not_mem_nil

/-! ## One client -/

/-- What a client and the server know of the client's id. -/
structure Introduced (conn : HSteamNetConnection) (t : Link) : Prop where
  /-- The ids in use are those the server makes. -/
  made : IdsMade t.phase.server
  /-- An id on its way to the client is the connection's. -/
  coming : ∀ cid, .helloResp cid ∈ t.down → cid = t.phase.server.cidOf conn
  /-- A client that has asked to join knows its id. -/
  joining : ∀ p ∈ t.up, p.1.type? = some .sessionJoinReq →
    t.client.cid = t.phase.server.cidOf conn
  /-- A client in the lobby knows its id. -/
  joined : conn ∈ t.phase.server.conns → t.client.cid = t.phase.server.cidOf conn

/-- A step of the server: a new member on the connection has asked to join. -/
lemma Introduced.serve {conn : HSteamNetConnection} {t : Link} (h : Introduced conn t)
    {a : Action} {out : List Output} {ph' : Phase} (hnext : t.phase.next a = some (out, ph'))
    (hjoin : ∀ m ∈ a.message?, m.conn = conn → ∀ name, m.JoinsAs name →
      t.client.cid = t.phase.server.cidOf conn)
    {up : List (Document × ℕ)} (hup : ∀ p ∈ up, p ∈ t.up) :
    Introduced conn { t with
      phase := ph', up := up, down := t.down ++ out.flatMap (Output.deliveries conn) } := by
  have hcid : ph'.server.cidOf conn = t.phase.server.cidOf conn := cidOf_of_next hnext conn
  refine ⟨h.made.step hnext, fun cid hmem => ?_, fun p hp htype => ?_, fun hmem => ?_⟩
  · rw [hcid]
    rcases List.mem_append.1 hmem with hmem | hmem
    · exact h.coming cid hmem
    · exact helloResp_of_next hnext hmem
  · rw [hcid]
    exact h.joining p (hup p hp) htype
  · rw [hcid]
    obtain ⟨c, hc, hconn⟩ := List.mem_map.1 hmem
    rcases who_of_next hnext hc with ⟨c₀, hc₀, hwho⟩ | ⟨m, hm, -, hmconn, hname⟩
    · exact h.joined (List.mem_map.2 ⟨c₀, hc₀, (Prod.mk.inj hwho).1.trans hconn⟩)
    · exact hjoin m hm (hmconn.symm.trans hconn) _ hname

/-- The client sends messages, and asks to join only when it knows its id. -/
lemma Introduced.post {conn : HSteamNetConnection} {t : Link} (h : Introduced conn t)
    {docs : List Document} (hjoin : ∀ doc ∈ docs, doc.type? = some .sessionJoinReq →
      t.client.cid = t.phase.server.cidOf conn) : Introduced conn (t.post docs) := by
  refine ⟨h.made, h.coming, fun p hp htype => ?_, h.joined⟩
  rcases List.mem_append.1 hp with hp | hp
  · exact h.joining p hp htype
  · exact hjoin p.1 (List.fst_mem_of_mem_zipIdx hp) htype

lemma cid_receive (c : LobbyClient) (msg : ServerMessage) :
    (∃ cid, msg = .helloResp cid ∧ (c.receive msg).1.cid = cid) ∨
      (c.receive msg).1.cid = c.cid ∧ (c.receive msg).2 = [] := by
  cases msg with
  | helloResp cid => exact .inl ⟨cid, rfl, rfl⟩
  | dataUpdate l d =>
    refine .inr ⟨?_, rfl⟩
    show (c.onDataUpdate l d).cid = c.cid
    unfold LobbyClient.onDataUpdate
    dsimp only
    split
    · split
      · rfl
      · split <;> rfl
    · rfl
  | joinReject | lobbyAllReady | battleSynced | punchGo | relayed => exact .inr ⟨rfl, rfl⟩

/-- **Step lemma for a client's id.** -/
lemma Introduced.step {conn : HSteamNetConnection} {e : LinkEntry} (h : Introduced conn e.pre)
    (hstep : (linkLTS conn).Steps e) : Introduced conn e.post := by
  obtain ⟨t, act, out, t'⟩ := e
  have hmove : LinkMoves conn t act out t' := linkMoves_of_next hstep
  cases hmove with
  | server hconn hnext =>
    exact h.serve hnext (fun m hm hmconn => absurd hmconn (hconn m hm)) fun _ hp => hp
  | handle hup hnext =>
    rename_i addr loc p up ph'
    refine h.serve hnext (fun m hm _ name hname => ?_) fun q hq => ?_
    · obtain rfl : incoming conn addr loc p = m := by simpa [Action.message?] using hm
      obtain ⟨htype, doc, hdoc, -⟩ := hname
      exact h.joining p (by simp [hup]) htype
    · show q ∈ t.up
      rw [hup]
      exact List.mem_cons_of_mem p hq
  | deliver hdown =>
    rename_i msg down
    have hrest : ∀ cid, .helloResp cid ∈ down → cid = t.phase.server.cidOf conn := fun cid hcid =>
      h.coming cid (hdown ▸ List.mem_cons_of_mem msg hcid)
    rcases cid_receive t.client msg with ⟨cid, rfl, hcid⟩ | ⟨hsame, hnil⟩
    · -- from now on the client knows its id
      have hknown := h.coming cid (hdown ▸ List.mem_cons_self)
      have hpre : Introduced conn
          { t with client := (t.client.receive (.helloResp cid)).1, down := down } :=
        ⟨h.made, hrest, fun _ _ _ => hknown, fun _ => hknown⟩
      exact hpre.post fun _ _ _ => hknown
    · have hpre : Introduced conn { t with client := (t.client.receive msg).1, down := down } :=
        ⟨h.made, hrest, fun p hp htype => hsame.trans (h.joining p hp htype),
          fun hmem => hsame.trans (h.joined hmem)⟩
      rw [hnil]
      exact hpre.post fun doc hdoc => absurd hdoc List.not_mem_nil
  | ready hside hcan =>
    rename_i choice i
    have hpost : Introduced conn (t.post (LobbyClient.readyMessages i choice)) :=
      h.post fun doc hdoc htype => absurd htype (type?_readyMessages hdoc)
    exact ⟨hpost.made, hpost.coming, hpost.joining, hpost.joined⟩
  | send hready hjoin =>
    refine h.post fun doc hdoc htype => ?_
    obtain rfl := List.mem_singleton.1 hdoc
    exact absurd htype hjoin

lemma introduced_of_run {conn : HSteamNetConnection} {log : List LinkEntry} {t : Link}
    (h : (linkLTS conn).Run log t) : Introduced conn t := by
  refine h.invariant_of_step (fun _ t => Introduced conn t) ?_ fun _ _ hi hs => hi.step hs
  rintro t ⟨⟨identity, hash, edition, count, time, hph⟩, hup, hdown, -⟩
  refine ⟨?_, ?_, ?_, ?_⟩
  · rw [hph]
    exact ⟨fun conn cid hcid => absurd hcid.symm (Option.some_ne_none cid),
      fun x hx => absurd hx List.not_mem_nil⟩
  · rw [hdown]
    exact fun cid hcid => absurd hcid List.not_mem_nil
  · rw [hup]
    exact fun p hp => absurd hp List.not_mem_nil
  · rw [hph]
    exact fun hmem => absurd hmem List.not_mem_nil

/-! ## Sides -/

/-- The first of two slots with a member: the loop over the list and the loop over the players
stop at the same slot when they look for the same members. -/
lemma firstSlot_eq_side {s : SessionServer} {conn : HSteamNetConnection} {cid : ConnectionID}
    (h : ∀ c ∈ s.clients, c.data.connId = cid ↔ c.conn = conn) :
    firstSlot (fun m => m.connId == cid) ((s.clients.map (·.data)).map MemberData.received) =
      s.side conn := by
  have hslot : ∀ i : ℕ, (((s.clients.map (·.data)).map MemberData.received)[i]?).any
      (fun m => m.connId == cid) = true ↔ (s.clients[i]?).map (·.conn) = some conn := by
    intro i
    rw [List.getElem?_map, List.getElem?_map]
    cases hc : s.clients[i]? with
    | none => simp
    | some c =>
      have hiff := h c (List.mem_of_getElem? hc)
      simpa [MemberData.received] using hiff
  simp only [firstSlot, hslot 0, hslot 1]
  rfl

/-- **The client knows which player it is.** A client in the lobby that is up to date finds itself
where the server has it. -/
lemma localLobbyActiveSide_of_run {conn : HSteamNetConnection} {log : List LinkEntry}
    {t : Link} (h : (linkLTS conn).Run log t) (hdirty : t.phase.server.dataDirty = false)
    (hconn : conn ∈ t.phase.server.conns) (hdown : updates t.down = []) :
    t.client.localLobbyActiveSide = t.phase.server.side conn := by
  obtain ⟨seen, hseen⟩ := hasSeen_of_run h
  have hdata := hseen.current h hdirty hconn hdown
  have hintro := introduced_of_run h
  have hmembers : t.client.lobbyData.members =
      (t.phase.server.clients.map (·.data)).map MemberData.received :=
    congrArg (fun u => u.1.members) hdata
  unfold LobbyClient.localLobbyActiveSide
  rw [hmembers]
  refine firstSlot_eq_side fun c hc => ?_
  have hseat : c.data.connId = t.phase.server.cidOf c.conn :=
    hintro.made.seats _ (List.mem_map.2 ⟨c, hc, rfl⟩)
  rw [hseat, hintro.joined hconn]
  exact ⟨cidOf_injective, fun heq => heq ▸ rfl⟩

end Sf4e
