/-
# The battle-loaded flags

Every member carries a flag that says whether it has loaded the battle.  A report sets the
flag of its sender, a reset clears all of them, and a member that joins starts without it.
The file sorts messages by what they do to the flags (`loadEvent`), says in one inversion
what each kind does to the members and to the latch of `BATTLE_SYNCED`
(`onMessage_loadHandled`), and shows that in every run a flag is set exactly when its member
has reported since the flag was last cleared (`flags_of_run`).
-/
import Mathlib.Data.List.Perm.Basic
import Sf4e.Session.ServerRun

namespace Sf4e

open SessionProtocol SessionServer Trace

/-- What a message amounts to, for the battle-loaded flags. -/
inductive LoadEvent
  /-- A member reports that it has loaded the battle. -/
  | loaded
  /-- A player resets the lobby. -/
  | reset
  /-- A new member joins. -/
  | join
  /-- Anything else. -/
  | other
deriving DecidableEq

namespace SessionServer

/-- What a message amounts to in this state, for the battle-loaded flags. -/
def loadEvent (s : SessionServer) (m : Incoming) : LoadEvent :=
  match s.request m with
  | none => .other
  | some (type, doc) =>
    match type with
    | .battleLoaded => .loaded
    | .lobbyReset => if (s.side m.conn).isSome then .reset else .other
    | .sessionJoinReq =>
      match s.cidMap m.conn, doc.joinRequest with
      | some cid, some request =>
        if (s.registerToWait m request cid).1 = .joinOk then .join else .other
      | _, _ => .other
    | _ => .other

/-- Has every member loaded the battle? -/
def allLoaded (s : SessionServer) : Bool := s.clients.all fun c => c.data.battleLoaded

lemma allLoaded_iff {s : SessionServer} :
    s.allLoaded = true ↔ ∀ c ∈ s.clients, c.data.battleLoaded = true := by
  simp [allLoaded]

/-! ## The flags of single members -/

lemma or_and_cancel (flags f : UInt64) : (flags ||| f) &&& f = f := by
  apply UInt64.toBitVec_inj.1
  ext i hi
  simp only [UInt64.toBitVec_and, UInt64.toBitVec_or, BitVec.getElem_and, BitVec.getElem_or,
    Bool.and_eq_right_iff_imp, Bool.or_eq_true]
  exact Or.inr

lemma battleLoaded_markLoaded (conn : HSteamNetConnection) (c : SessionMember) :
    (markLoaded conn c).data.battleLoaded = (decide (c.conn = conn) || c.data.battleLoaded) := by
  unfold markLoaded
  split
  · rename_i h
    simp only [h, decide_true, Bool.true_or]
    show ((c.data.flags ||| mfBattleLoaded) &&& mfBattleLoaded != 0) = true
    rw [or_and_cancel]
    rfl
  · rename_i h
    simp [h]

lemma battleLoaded_markUnloaded (c : SessionMember) :
    (markUnloaded c).data.battleLoaded = false := by
  show ((c.data.flags &&& ~~~mfBattleLoaded) &&& mfBattleLoaded != 0) = false
  have hbit : ~~~mfBattleLoaded &&& mfBattleLoaded = 0 := by decide
  rw [UInt64.and_assoc, hbit, UInt64.and_zero]
  rfl

/-! ## What a message does to the members -/

/-- A reported result only moves the loser. -/
lemma handleResults_perm {s s' : SessionServer} {l : ℤ} (h : s.handleResults l = some s') :
    s'.clients.Perm s.clients := by
  unfold handleResults at h
  split_ifs at h
  split at h
  · exact absurd h (by simp)
  · rename_i loser hget
    obtain rfl := Option.some.inj h
    obtain ⟨hlt, hloser⟩ := List.getElem?_eq_some_iff.1 hget
    show ((s.clients ++ [loser]).eraseIdx l.toNat).Perm s.clients
    rw [List.eraseIdx_append_of_lt_length hlt, ← hloser]
    exact (List.perm_append_singleton _ _).trans (List.getElem_cons_eraseIdx_perm hlt)

lemma onReportResults_perm {s s' : SessionServer} {doc : Document}
    (h : s.onReportResults doc = some s') : s'.clients.Perm s.clients := by
  unfold onReportResults at h
  split at h
  · obtain rfl := Option.some.inj h
    exact .refl _
  · obtain ⟨s₁, hs₁, rfl⟩ := Option.map_eq_some_iff.1 h
    have hperm := handleResults_perm hs₁
    exact hperm

/-- A successful join appends a member with a new name and no flags. -/
lemma registerToWait_joinOk {s : SessionServer} {m : Incoming} {request : SessionJoinRequest}
    {cid : ConnectionID} (h : (s.registerToWait m request cid).1 = .joinOk) :
    ∃ c, (s.registerToWait m request cid).2 = { s with clients := s.clients ++ [c] } ∧
      c.data.flags = 0 ∧ ∀ c' ∈ s.clients, c'.data.name ≠ c.data.name := by
  unfold registerToWait at h ⊢
  split_ifs at h ⊢ with hhash hfull hname
  all_goals
    refine ⟨_, rfl, rfl, fun c' hc' heq => hname ?_⟩
    exact List.any_eq_true.2 ⟨c', hc', beq_iff_eq.2 heq⟩

lemma registerToWait_of_ne {s : SessionServer} {m : Incoming} {request : SessionJoinRequest}
    {cid : ConnectionID} (h : (s.registerToWait m request cid).1 ≠ .joinOk) :
    s.registerToWait m request cid = ((s.registerToWait m request cid).1, s) := by
  obtain ⟨c, hc⟩ | ⟨r, -, hr⟩ := s.registerToWait_cases m request cid
  · exact absurd (by rw [hc]) h
  · rw [hr]

end SessionServer

namespace StepState

/-- Everything that handling a message can do to the members and to the latch of
`BATTLE_SYNCED`, by the kind of the message. -/
inductive LoadHandled (st : StepState) (m : Incoming) : LoadEvent → StepState → Prop
  | loaded : LoadHandled st m .loaded (st.onBattleLoaded m.conn)
  | reset {i : Side} (hside : st.server.side m.conn = some i) :
      LoadHandled st m .reset { st with server := st.server.resetLobbyForRematch }
  | join {st' : StepState} {c : SessionMember}
      (hclients : st'.server.clients = st.server.clients ++ [c])
      (hloaded : c.data.battleLoaded = false)
      (hname : ∀ c' ∈ st.server.clients, c'.data.name ≠ c.data.name)
      (hlatch : st'.bSendBattleSynced = st.bSendBattleSynced) : LoadHandled st m .join st'
  | other {st' : StepState} (hclients : st'.server.clients.Perm st.server.clients)
      (hlatch : st'.bSendBattleSynced = st.bSendBattleSynced) : LoadHandled st m .other st'

/-- A message that leaves the members as they are. -/
lemma LoadHandled.of_clients {st : StepState} {m : Incoming} {s' : SessionServer}
    (h : s'.clients = st.server.clients) : LoadHandled st m .other { st with server := s' } :=
  .other (by rw [h]) rfl

lemma onJoinReq_loadHandled {st : StepState} {m : Incoming} {doc : Document}
    {cid : ConnectionID} (hreq : st.server.request m = some (.sessionJoinReq, doc))
    (hc : st.server.cidMap m.conn = some cid) :
    LoadHandled st m (st.server.loadEvent m)
      { st with server := (st.server.onJoinReq m doc cid).1 } := by
  simp only [loadEvent, hreq, hc]
  unfold onJoinReq
  cases hr : doc.joinRequest with
  | none => exact .of_clients rfl
  | some request =>
    dsimp only
    split
    · rename_i hok
      obtain ⟨c, hs', hflags, hname⟩ := registerToWait_joinOk hok
      have hpair : st.server.registerToWait m request cid =
          (.joinOk, { st.server with clients := st.server.clients ++ [c] }) := Prod.ext hok hs'
      rw [hpair]
      refine .join rfl ?_ hname rfl
      simp [MemberData.battleLoaded, hflags]
    · rename_i hne
      rw [registerToWait_of_ne hne]
      split
      · rename_i heq
        exact absurd (Prod.mk.inj heq).1 hne
      · rename_i heq
        rw [← (Prod.mk.inj heq).2]
        exact .of_clients rfl

lemma onRegistered_loadHandled {st st' : StepState} {m : Incoming} {doc : Document}
    {type : MessageType} {cid : ConnectionID} {out : List Output}
    (hreq : st.server.request m = some (type, doc)) (hc : st.server.cidMap m.conn = some cid)
    (h : st.onRegistered m doc type cid = some (st', out)) :
    LoadHandled st m (st.server.loadEvent m) st' := by
  cases type <;> simp only [onRegistered, Option.some.injEq, Prod.mk.injEq] at h
  case lobbyReportResults =>
    simp only [loadEvent, hreq]
    obtain ⟨s', hs', heq⟩ := Option.map_eq_some_iff.1 h
    obtain ⟨rfl, -⟩ := Prod.mk.inj heq
    exact .other (onReportResults_perm hs') rfl
  all_goals obtain ⟨rfl, -⟩ := h
  case sessionJoinReq => exact onJoinReq_loadHandled hreq hc
  all_goals simp only [loadEvent, hreq]
  case battleLoaded => exact .loaded
  case lobbyReset =>
    unfold onReset
    cases hside : st.server.side m.conn with
    | none => exact .of_clients rfl
    | some i => exact .reset hside
  case lobbyReady =>
    unfold onReady
    split
    · exact .of_clients rfl
    · exact .other (.refl _) rfl
  case preBattleSetChara => exact .of_clients (onSetChara_sets _ _ _).clients
  case preBattleSetEnv => exact .of_clients (onSetEnv_sets _ _ _).clients
  case preBattleSetStage => exact .of_clients (onSetStage_sets _ _ _).clients
  case lobbySetSettings => exact .of_clients (onSetSettings_sets _ _ _).clients
  case punchReady =>
    refine .of_clients ?_
    unfold onPunchReady
    split
    · rfl
    · dsimp only
      split <;> rfl
  all_goals exact .of_clients rfl

/-- **Inversion.** What handling a message does to the flags is determined by the kind of
the message. -/
theorem onMessage_loadHandled {st st' : StepState} {m : Incoming} {out : List Output}
    (h : st.onMessage m = some (st', out)) : LoadHandled st m (st.server.loadEvent m) st' := by
  have hother : st.server.request m = none → st.server.loadEvent m = .other := by
    intro hreq
    simp [loadEvent, hreq]
  unfold onMessage at h
  cases hp : m.payload with
  | none =>
    obtain ⟨rfl, -⟩ := Prod.mk.inj (Option.some.inj (by simpa only [hp] using h))
    rw [hother (by simp [request, hp])]
    exact .of_clients rfl
  | some doc =>
    cases ht : doc.type with
    | none =>
      obtain ⟨rfl, -⟩ := Prod.mk.inj (Option.some.inj (by simpa only [hp, ht] using h))
      rw [hother (by simp [request, hp, ht])]
      exact .of_clients rfl
    | some field =>
      cases hc : st.server.cidMap m.conn with
      | some cid =>
        simp only [hp, ht, hc] at h
        exact onRegistered_loadHandled (by simp [request, hp, ht, hc]) hc h
      | none =>
        rw [hother (by simp [request, hp, ht, hc])]
        simp only [hp, ht, hc] at h
        split_ifs at h
        all_goals
          obtain ⟨rfl, -⟩ := Prod.mk.inj (Option.some.inj h)
          exact .of_clients rfl

end StepState

/-! ## Reports and clearings in a run -/

/-- What an action amounts to, for the battle-loaded flags. -/
def Phase.loadEvent : Phase → Action → LoadEvent
  | .receiving st, .message m => st.server.loadEvent m
  | .idle _, .resetLobbyForRematch => .reset
  | _, _ => .other

/-- Is the running `Step` going to broadcast `BATTLE_SYNCED`? -/
def Phase.synced : Phase → Bool
  | .idle _ => false
  | .receiving st => st.bSendBattleSynced

@[simp] lemma Phase.synced_idle (s : SessionServer) : (Phase.idle s).synced = false := rfl
@[simp] lemma Phase.synced_receiving (st : StepState) :
    (Phase.receiving st).synced = st.bSendBattleSynced := rfl

/-- Is this a member of the lobby? -/
def IsMember (s : SessionServer) (w : Who) : Prop := ∃ c ∈ s.clients, c.who = w

/-- The member reports that it has loaded the battle. -/
def ReportsLoaded (w : Who) (e : ServerEntry) : Prop :=
  e.pre.loadEvent e.act = .loaded ∧ (∃ m ∈ e.act.message?, m.conn = w.1) ∧
    IsMember e.pre.server w

/-- The member comes to the lobby. -/
def Joins (w : Who) (e : ServerEntry) : Prop :=
  ¬ IsMember e.pre.server w ∧ IsMember e.post.server w

/-- The flag of the member is cleared: all flags are, or the member is new. -/
def ClearsFlag (w : Who) (e : ServerEntry) : Prop :=
  e.pre.loadEvent e.act = .reset ∨ Joins w e

/-- The member has reported that it has loaded the battle since its flag was last cleared. -/
def LoadedSince (w : Who) (log : List ServerEntry) : Prop :=
  Since (fun e => ¬ ClearsFlag w e) (ReportsLoaded w) log

instance (s : SessionServer) : DecidablePred (IsMember s) := fun w =>
  inferInstanceAs (Decidable (∃ c ∈ s.clients, c.who = w))

instance (w : Who) : DecidablePred (ReportsLoaded w) := fun e =>
  inferInstanceAs (Decidable (e.pre.loadEvent e.act = .loaded ∧
    (∃ m ∈ e.act.message?, m.conn = w.1) ∧ IsMember e.pre.server w))

instance (w : Who) : DecidablePred (Joins w) := fun e =>
  inferInstanceAs (Decidable (¬ IsMember e.pre.server w ∧ IsMember e.post.server w))

instance (w : Who) : DecidablePred (ClearsFlag w) := fun e =>
  inferInstanceAs (Decidable (e.pre.loadEvent e.act = .reset ∨ Joins w e))

instance (w : Who) : DecidablePred (LoadedSince w) := fun log =>
  inferInstanceAs (Decidable (Since (fun e => ¬ ClearsFlag w e) (ReportsLoaded w) log))

/-- A flag that is not cleared stays as it was reported. -/
lemma loadedSince_cons_of_other {w : Who} {e : ServerEntry} {log : List ServerEntry}
    (hloaded : e.pre.loadEvent e.act ≠ .loaded) (hreset : e.pre.loadEvent e.act ≠ .reset)
    (hw : IsMember e.pre.server w) : LoadedSince w (e :: log) ↔ LoadedSince w log := by
  have hkeep : ¬ ClearsFlag w e := by
    rintro (h | ⟨h, -⟩)
    · exact hreset h
    · exact h hw
  constructor
  · rintro (⟨h, -, -⟩ | ⟨-, h⟩)
    · exact absurd h hloaded
    · exact h
  · exact fun h => Or.inr ⟨hkeep, h⟩

lemma not_loadedSince_of_clearsFlag {w : Who} {e : ServerEntry} {log : List ServerEntry}
    (hloaded : e.pre.loadEvent e.act ≠ .loaded) (h : ClearsFlag w e) :
    ¬ LoadedSince w (e :: log) := by
  rintro (⟨h', -, -⟩ | ⟨h', -⟩)
  · exact hloaded h'
  · exact h' h

lemma isMember_of_mem {s : SessionServer} {c : SessionMember} (h : c ∈ s.clients) :
    IsMember s c.who := ⟨c, h, rfl⟩

/-- A message entry of the log, by what it does to the flags. -/
lemma loadHandled_of_steps {st st' : StepState} {m : Incoming} {out : List Output}
    (h : serverLTS.Steps ⟨.receiving st, .message m, out, .receiving st'⟩) :
    st.LoadHandled m (st.server.loadEvent m) st' := by
  have hnext : (Phase.receiving st).next (.message m) = some (out, .receiving st') := h
  simp only [Phase.next, Option.map_eq_some_iff, Prod.mk.injEq, Phase.receiving.injEq] at hnext
  obtain ⟨⟨st'', out'⟩, hm, rfl, rfl⟩ := hnext
  exact StepState.onMessage_loadHandled hm

lemma mem_of_mem_statusChanged {s : SessionServer} {info : StatusChange} {c : SessionMember}
    (h : c ∈ (s.onSteamNetConnectionStatusChanged info).clients) : c ∈ s.clients := by
  unfold onSteamNetConnectionStatusChanged at h
  split at h
  · split at h
    · exact h
    · exact List.mem_of_mem_eraseIdx h
  · exact h

/-! ## The flags tell the truth -/

/-- Every flag says whether its member has reported since the flag was last cleared. -/
def FlagsTrue (log : List ServerEntry) (ph : Phase) : Prop :=
  ∀ c ∈ ph.server.clients, c.data.battleLoaded = true ↔ LoadedSince c.who log

/-- A step that keeps or drops members and is neither a report nor a clearing. -/
lemma FlagsTrue.keep {log : List ServerEntry} {e : ServerEntry} (h : FlagsTrue log e.pre)
    (hev : e.pre.loadEvent e.act = .other ∨ e.pre.loadEvent e.act = .join)
    {c : SessionMember} (hc : c ∈ e.pre.server.clients) :
    c.data.battleLoaded = true ↔ LoadedSince c.who (e :: log) := by
  rw [loadedSince_cons_of_other _ _ (isMember_of_mem hc)]
  · exact h c hc
  · rcases hev with hev | hev <;> simp [hev]
  · rcases hev with hev | hev <;> simp [hev]

/-- A reset leaves no flag set and nobody reported. -/
lemma flagsTrue_of_reset {log : List ServerEntry} {e : ServerEntry}
    (hev : e.pre.loadEvent e.act = .reset)
    (hclients : e.post.server.clients = e.pre.server.clients.map markUnloaded) :
    FlagsTrue (e :: log) e.post := by
  intro c hc
  rw [hclients] at hc
  obtain ⟨c₀, -, rfl⟩ := List.mem_map.1 hc
  rw [battleLoaded_markUnloaded]
  refine iff_of_false (by simp) (not_loadedSince_of_clearsFlag (by simp [hev]) (Or.inl hev))

/-- A report sets the flag of its sender and no other. -/
lemma FlagsTrue.report {log : List ServerEntry} {st : StepState} {m : Incoming}
    {out : List Output} (h : FlagsTrue log (.receiving st))
    (hev : st.server.loadEvent m = .loaded) :
    FlagsTrue (⟨.receiving st, .message m, out, .receiving (st.onBattleLoaded m.conn)⟩ :: log)
      (.receiving (st.onBattleLoaded m.conn)) := by
  intro c hc
  obtain ⟨c₀, hc₀, rfl⟩ := List.mem_map.1 hc
  have hold := h c₀ hc₀
  rw [battleLoaded_markLoaded, who_markLoaded, Bool.or_eq_true, decide_eq_true_eq, hold]
  constructor
  · rintro (hconn | hsince)
    · exact Or.inl ⟨hev, ⟨m, rfl, hconn.symm⟩, isMember_of_mem hc₀⟩
    · refine Or.inr ⟨?_, hsince⟩
      rintro (hreset | ⟨hjoin, -⟩)
      · simp [Phase.loadEvent, hev] at hreset
      · exact hjoin (isMember_of_mem hc₀)
  · rintro (⟨-, ⟨m', hm', hconn⟩, -⟩ | ⟨-, hsince⟩)
    · obtain rfl : m = m' := by simpa [Action.message?] using hm'
      exact Or.inl hconn.symm
    · exact Or.inr hsince

/-- **Step lemma for the flags.** -/
lemma FlagsTrue.step {log : List ServerEntry} {e : ServerEntry} (h : FlagsTrue log e.pre)
    (hstep : serverLTS.Steps e) : FlagsTrue (e :: log) e.post := by
  obtain ⟨pre, act, out, post⟩ := e
  have hmove := moves_of_steps hstep
  dsimp only at h
  cases hmove with
  | beginStep | pollError | nullMessage | endStep =>
    intro c hc
    exact h.keep (Or.inl rfl) hc
  | statusChanged =>
    intro c hc
    exact h.keep (Or.inl rfl) (mem_of_mem_statusChanged hc)
  | resetLobbyForRematch => exact flagsTrue_of_reset rfl rfl
  | message hev hids hh =>
    rename_i st st' m ev
    clear hh
    have hload := loadHandled_of_steps hstep
    cases hkind : st.server.loadEvent m with
    | loaded =>
      rw [hkind] at hload
      cases hload
      exact h.report hkind
    | reset =>
      rw [hkind] at hload
      cases hload
      exact flagsTrue_of_reset hkind rfl
    | join =>
      rw [hkind] at hload
      cases hload with
      | join hclients hloaded hname hlatch =>
        rename_i c
        intro c' hc'
        rw [Phase.server_receiving, hclients, List.mem_append, List.mem_singleton] at hc'
        rcases hc' with hc' | rfl
        · exact h.keep (e := ⟨_, .message m, out, .receiving st'⟩) (Or.inr hkind) hc'
        · -- nobody of this name was there before, so no report of the new member counts
          refine iff_of_false (by simp [hloaded]) ?_
          refine not_loadedSince_of_clearsFlag (by simp [Phase.loadEvent, hkind]) (Or.inr ?_)
          refine ⟨?_, c', by simp [hclients], rfl⟩
          rintro ⟨c₀, hc₀, hwho⟩
          exact hname c₀ hc₀ (Prod.mk.inj hwho).2
    | other =>
      rw [hkind] at hload
      cases hload with
      | other hclients hlatch =>
        intro c hc
        exact h.keep (e := ⟨_, .message m, out, .receiving st'⟩) (Or.inl hkind)
          (hclients.mem_iff.1 hc)

/-- **The flags tell the truth in every run.** -/
theorem flags_of_run {log : List ServerEntry} {ph : Phase} (h : serverLTS.Run log ph) :
    FlagsTrue log ph := by
  refine h.invariant_of_step FlagsTrue ?_ fun _ _ hi hs => hi.step hs
  rintro s ⟨_, _, _, _, _, rfl⟩ c hc
  simp [SessionServer.new] at hc

lemma allLoaded_iff_of_run {log : List ServerEntry} {ph : Phase} (h : serverLTS.Run log ph) :
    ph.server.allLoaded = true ↔ ∀ c ∈ ph.server.clients, LoadedSince c.who log := by
  rw [allLoaded_iff]
  exact forall₂_congr fun c hc => flags_of_run h c hc

end Sf4e
