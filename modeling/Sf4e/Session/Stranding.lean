/-
# Nobody waits for the battle forever

A client that has loaded the battle waits for `BATTLE_SYNCED`.  The server looks whether all
members have loaded when a report arrives and at no other time, so the announcement is missed
when the condition becomes true without a report: the one member that had not loaded
disconnects.  It is also missed when a null message ends the `Step` that would have sent it.

`Told` is the invariant: when all members have loaded, they have been told, or the running
`Step` is going to tell them.
-/
import Sf4e.Session.BattleBarrier

namespace Sf4e

open SessionProtocol SessionServer Trace

/-! ## The property -/

/-- The connections that an output tells of `BATTLE_SYNCED`. -/
def Output.tells : Output → List HSteamNetConnection
  | .broadcast conns .battleSynced => conns
  | _ => []

/-- `BATTLE_SYNCED` is sent to the member. -/
def SendsSynced (w : Who) (e : ServerEntry) : Prop := w.1 ∈ e.out.flatMap Output.tells

/-- `BATTLE_SYNCED` has been sent to the member since its flag was last cleared. -/
def SyncedSince (w : Who) (log : List ServerEntry) : Prop :=
  Since (fun e => ¬ ClearsFlag w e) (SendsSynced w) log

instance (w : Who) : DecidablePred (SendsSynced w) := fun e =>
  inferInstanceAs (Decidable (w.1 ∈ e.out.flatMap Output.tells))

instance (w : Who) : DecidablePred (SyncedSince w) := fun log =>
  inferInstanceAs (Decidable (Since (fun e => ¬ ClearsFlag w e) (SendsSynced w) log))

/-- A call of `Step` returns. -/
def EndsStep (e : ServerEntry) : Prop :=
  e.act = .endStep ∨ e.act = .nullMessage ∨ e.act = .pollError

/-- When there are members and all have reported since their flags were last cleared, all
have been told since then. -/
def NotStranded (log : List ServerEntry) (s : SessionServer) : Prop :=
  s.clients ≠ [] → (∀ c ∈ s.clients, LoadedSince c.who log) →
    ∀ c ∈ s.clients, SyncedSince c.who log

/-- **The loading barrier never strands the room**: not after any `Step` of the log. -/
def NeverStrands (log : List ServerEntry) : Prop :=
  ∀ newer e older, log = newer ++ e :: older → EndsStep e → NotStranded (e :: older) e.post.server

/-! ## The condition -/

/-- These members have all loaded, and not all of them have been told. -/
def Waiting (log : List ServerEntry) (cs : List SessionMember) : Prop :=
  cs ≠ [] ∧ (∀ c ∈ cs, c.data.battleLoaded = true) ∧ ∃ c ∈ cs, ¬ SyncedSince c.who log

/-- A member that has not loaded is lost while the others wait. -/
def LosesLast (older : List ServerEntry) (e : ServerEntry) : Prop :=
  ∃ info ∈ e.act.statusChange?, info.drops = true ∧
    ∃ k ∈ e.pre.server.clients.findIdx? (fun c => c.conn == info.conn),
      (∃ c ∈ e.pre.server.clients[k]?, c.data.battleLoaded = false) ∧
        Waiting older (e.pre.server.clients.eraseIdx k)

/-- A null message ends a `Step` while all members wait. -/
def DropsLatch (older : List ServerEntry) (e : ServerEntry) : Prop :=
  e.act = .nullMessage ∧ Waiting older e.pre.server.clients

/-- Neither happens in the log. -/
def Unstranded : List ServerEntry → Prop
  | [] => True
  | e :: log => ¬ LosesLast log e ∧ ¬ DropsLatch log e ∧ Unstranded log

instance (log : List ServerEntry) (cs : List SessionMember) : Decidable (Waiting log cs) :=
  inferInstanceAs (Decidable (cs ≠ [] ∧ (∀ c ∈ cs, c.data.battleLoaded = true) ∧
    ∃ c ∈ cs, ¬ SyncedSince c.who log))

instance (older : List ServerEntry) : DecidablePred (LosesLast older) := fun e =>
  inferInstanceAs (Decidable (∃ info ∈ e.act.statusChange?, info.drops = true ∧
    ∃ k ∈ e.pre.server.clients.findIdx? (fun c => c.conn == info.conn),
      (∃ c ∈ e.pre.server.clients[k]?, c.data.battleLoaded = false) ∧
        Waiting older (e.pre.server.clients.eraseIdx k)))

instance (older : List ServerEntry) : DecidablePred (DropsLatch older) := fun e =>
  inferInstanceAs (Decidable (e.act = .nullMessage ∧ Waiting older e.pre.server.clients))

instance : DecidablePred Unstranded
  | [] => inferInstanceAs (Decidable True)
  | e :: log =>
    have : Decidable (Unstranded log) := instDecidablePredListServerEntryUnstranded log
    inferInstanceAs (Decidable (¬ LosesLast log e ∧ ¬ DropsLatch log e ∧ Unstranded log))

lemma Unstranded.of_append {newer older : List ServerEntry} (h : Unstranded (newer ++ older)) :
    Unstranded older := by
  induction newer with
  | nil => exact h
  | cons e newer ih => exact ih h.2.2

/-! ## The invariant -/

/-- When there are members and all have loaded, they have been told, or the running `Step`
is going to tell them. -/
def Told (log : List ServerEntry) (ph : Phase) : Prop :=
  ph.server.clients ≠ [] → ph.server.allLoaded = true →
    ph.synced = true ∨ ∀ c ∈ ph.server.clients, SyncedSince c.who log

/-- What a member was told it stays told, as long as no flag is cleared. -/
lemma SyncedSince.keep {w : Who} {e : ServerEntry} {log : List ServerEntry}
    (h : SyncedSince w log) (hev : e.pre.loadEvent e.act ≠ .reset)
    (hw : IsMember e.pre.server w) : SyncedSince w (e :: log) := by
  refine Or.inr ⟨?_, h⟩
  rintro (hreset | ⟨hjoin, -⟩)
  · exact hev hreset
  · exact hjoin hw

/-- A step that keeps the members and the latch. -/
lemma Told.keep {log : List ServerEntry} {e : ServerEntry} (h : Told log e.pre)
    (hev : e.pre.loadEvent e.act ≠ .reset)
    (hclients : e.post.server.clients.Perm e.pre.server.clients)
    (hlatch : e.pre.synced = true → e.post.synced = true) : Told (e :: log) e.post := by
  intro hne hall
  rw [allLoaded_congr hclients] at hall
  have hne' : e.pre.server.clients ≠ [] := fun hnil => hne (by simpa [hnil] using hclients)
  rcases h hne' hall with hl | hsynced
  · exact Or.inl (hlatch hl)
  · refine Or.inr fun c hc => ?_
    have hmem := hclients.mem_iff.1 hc
    exact (hsynced c hmem).keep hev (isMember_of_mem hmem)

/-- The end of a `Step` that latched it tells every member. -/
lemma sendsSynced_endStep {st : StepState} (hl : st.bSendBattleSynced = true)
    {c : SessionMember} (hc : c ∈ st.server.clients) :
    SendsSynced c.who ⟨.receiving st, .endStep, st.broadcasts, .idle st.finish⟩ := by
  show c.conn ∈ st.broadcasts.flatMap Output.tells
  rw [List.mem_flatMap]
  refine ⟨st.server.broadcastMessage .battleSynced, by simp [StepState.broadcasts, hl], ?_⟩
  exact List.mem_map_of_mem hc

/-- The members that a disconnect leaves behind. -/
lemma clients_statusChanged (s : SessionServer) (info : StatusChange) :
    (s.onSteamNetConnectionStatusChanged info).clients = s.clients ∨
      info.drops = true ∧ ∃ k, s.clients.findIdx? (fun c => c.conn == info.conn) = some k ∧
        (s.onSteamNetConnectionStatusChanged info).clients = s.clients.eraseIdx k := by
  unfold onSteamNetConnectionStatusChanged
  split
  · rename_i hdrops
    split
    · exact Or.inl rfl
    · rename_i k hk
      exact Or.inr ⟨hdrops, k, hk, rfl⟩
  · exact Or.inl rfl

/-- A disconnect keeps everybody told, unless it loses the one member that had not loaded. -/
lemma Told.statusChanged {log : List ServerEntry} {s : SessionServer} {info : StatusChange}
    (h : Told log (.idle s))
    (hok : ¬ LosesLast log ⟨.idle s, .statusChanged info, [],
      .idle (s.onSteamNetConnectionStatusChanged info)⟩) :
    Told (⟨.idle s, .statusChanged info, [], .idle (s.onSteamNetConnectionStatusChanged info)⟩ ::
      log) (.idle (s.onSteamNetConnectionStatusChanged info)) := by
  obtain hsame | ⟨hdrops, k, hk, herase⟩ := clients_statusChanged s info
  · refine Told.keep (e := ⟨.idle s, .statusChanged info, [], _⟩) h (by simp [Phase.loadEvent]) ?_
      (by simp)
    exact List.Perm.of_eq hsame
  · intro hne hall
    rw [Phase.server_idle, herase] at hne ⊢
    rw [Phase.server_idle, allLoaded_iff, herase] at hall
    refine Or.inr fun c hc => ?_
    have hmem : c ∈ s.clients := List.mem_of_mem_eraseIdx hc
    refine SyncedSince.keep ?_ (by simp [Phase.loadEvent]) (isMember_of_mem hmem)
    have hlt : k < s.clients.length := by
      obtain ⟨hlt, -⟩ := List.findIdx?_eq_some_iff_getElem.1 hk
      exact hlt
    by_cases hloaded : (s.clients[k]).data.battleLoaded = true
    · -- everybody had loaded, and so had been told, before
      have hall' : s.allLoaded = true := by
        rw [allLoaded_iff]
        intro c' hc'
        rcases List.mem_cons.1 ((List.getElem_cons_eraseIdx_perm hlt).mem_iff.2 hc') with rfl | hc'
        · exact hloaded
        · exact hall c' hc'
      rcases h (List.ne_nil_of_mem hmem) hall' with hl | hsynced
      · simp at hl
      · exact hsynced c hmem
    · by_contra hnot
      refine hok ⟨info, rfl, hdrops, k, hk, ⟨_, List.getElem?_eq_getElem hlt, ?_⟩, hne, hall,
        c, hc, hnot⟩
      simpa using hloaded

/-- **Step lemma.** -/
lemma Told.step {log : List ServerEntry} {e : ServerEntry} (h : Told log e.pre)
    (hstep : serverLTS.Steps e) (hlast : ¬ LosesLast log e) (hnull : ¬ DropsLatch log e) :
    Told (e :: log) e.post := by
  obtain ⟨pre, act, out, post⟩ := e
  have hmove := moves_of_steps hstep
  dsimp only at h
  cases hmove with
  | beginStep | pollError =>
    exact Told.keep h (by simp [Phase.loadEvent]) (.refl _) (by simp)
  | statusChanged => exact h.statusChanged hlast
  | resetLobbyForRematch =>
    -- a reset leaves members that have not loaded
    rename_i s
    intro hne hall
    obtain ⟨c, hc⟩ := List.exists_mem_of_ne_nil _ hne
    obtain ⟨c₀, hc₀, -⟩ := List.mem_map.1 hc
    exact absurd hall (by simp [allLoaded_resetLobbyForRematch hc₀])
  | nullMessage =>
    -- the `Step` returns without its end, and with it the latch is gone
    rename_i st
    intro hne hall
    refine Or.inr fun c hc => SyncedSince.keep ?_ (by simp [Phase.loadEvent]) (isMember_of_mem hc)
    by_contra hnot
    exact hnull ⟨rfl, hne, allLoaded_iff.1 hall, c, hc, hnot⟩
  | endStep =>
    rename_i st
    intro hne hall
    by_cases hl : st.bSendBattleSynced = true
    · exact Or.inr fun c hc => Or.inl (sendsSynced_endStep hl hc)
    · exact Told.keep (e := ⟨_, .endStep, st.broadcasts, .idle st.finish⟩) h
        (by simp [Phase.loadEvent]) (.refl _) (fun hl' => absurd hl' hl) hne hall
  | message hev hids hh =>
    rename_i st st' m ev
    clear hh
    have hload := loadHandled_of_steps hstep
    cases hkind : st.server.loadEvent m with
    | loaded =>
      rw [hkind] at hload
      cases hload
      exact fun _ hall => Or.inl hall
    | reset =>
      rw [hkind] at hload
      cases hload with
      | reset hside =>
        obtain ⟨c, hc, -⟩ := mem_clients_of_side hside
        exact fun _ hall => absurd hall (by simp [allLoaded_resetLobbyForRematch hc])
    | join =>
      rw [hkind] at hload
      cases hload with
      | join hclients hloaded hname hlatch =>
        -- who joins has not loaded
        intro _ hall
        simp [SessionServer.allLoaded, hclients, hloaded] at hall
    | other =>
      rw [hkind] at hload
      cases hload with
      | other hclients hlatch =>
        exact Told.keep (e := ⟨_, .message m, out, .receiving st'⟩) h
          (by simp [Phase.loadEvent, hkind]) hclients (fun hl => hlatch.trans hl)

lemma told_of_run {log : List ServerEntry} {ph : Phase} (h : serverLTS.Run log ph) :
    Unstranded log → Told log ph := by
  refine h.invariant_of_step (fun log ph => Unstranded log → Told log ph) ?_
    fun _ _ hi hs hok => (hi hok.2.2).step hs hok.1 hok.2.1
  rintro s ⟨_, _, _, _, _, rfl⟩ - hne
  exact absurd rfl hne

/-- **The room is never stranded** in a run in which no member that has not loaded is lost
while all the others wait, and no null message ends a `Step` while all members wait. -/
theorem neverStrands_of_unstranded {log : List ServerEntry} {ph : Phase}
    (h : serverLTS.Run log ph) (hok : Unstranded log) : NeverStrands log := by
  rintro newer e older rfl hends hne hloaded
  obtain ⟨hrun, hstep, -⟩ := h.at_entry
  have hrun' := hrun.snoc hstep
  have hall := (allLoaded_iff_of_run hrun').2 hloaded
  rcases told_of_run hrun' hok.of_append hne hall with hl | hsynced
  · -- no `Step` is running any more
    exfalso
    have hmove := moves_of_steps hstep
    obtain ⟨pre, act, out, post⟩ := e
    dsimp only at hmove hl
    cases hmove with
    | beginStep | message => rcases hends with h | h | h <;> simp at h
    | pollError | statusChanged | resetLobbyForRematch | nullMessage | endStep => simp at hl
  · exact hsynced

instance (log : List ServerEntry) (s : SessionServer) : Decidable (NotStranded log s) :=
  inferInstanceAs (Decidable (s.clients ≠ [] → (∀ c ∈ s.clients, LoadedSince c.who log) →
    ∀ c ∈ s.clients, SyncedSince c.who log))

instance : DecidablePred EndsStep := fun e =>
  inferInstanceAs (Decidable (e.act = .endStep ∨ e.act = .nullMessage ∨ e.act = .pollError))

/-- Two members load the battle and are told; then one of them leaves. -/
theorem neverStrands_two_members :
    ∃ log ph, serverLTS.Run log ph ∧ (∃ e ∈ log, SendsSynced (1, "A") e) ∧ NeverStrands log := by
  obtain ⟨log, ph, hrun, hsent, hok⟩ := exists_run_of_exec
    ([.beginStep] ++ Action.enter 1 "A" ++ Action.enter 2 "B" ++
      [.message (.bare 1 3 .battleLoaded), .message (.bare 2 3 .battleLoaded), .endStep,
        .statusChanged ⟨2, .closedByPeer, .connected⟩, .beginStep, .endStep])
    (p := fun log _ => (∃ e ∈ log, SendsSynced (1, "A") e) ∧ Unstranded log) (by decide +kernel)
  exact ⟨log, ph, hrun, hsent, neverStrands_of_unstranded hrun hok⟩

/-- **A disconnect strands the room.** `A` and `B` join and `A` reports that it has loaded.
`B` disconnects before it has: `A` is alone and has loaded, and is never told. -/
theorem not_neverStrands_disconnect :
    ¬ ∀ log ph, serverLTS.Run log ph → NeverStrands log := by
  intro h
  obtain ⟨log, ph, hrun, e, he, hends, hnot⟩ := exists_run_of_exec
    ([.beginStep] ++ Action.enter 1 "A" ++ Action.enter 2 "B" ++
      [.message (.bare 1 3 .battleLoaded), .endStep,
        .statusChanged ⟨2, .closedByPeer, .connected⟩, .beginStep, .endStep])
    (p := fun log _ => ∃ e ∈ log.head?, EndsStep e ∧ ¬ NotStranded (e :: log.tail) e.post.server)
    (by decide +kernel)
  have hlog : log = [] ++ e :: log.tail := List.eq_cons_of_mem_head? he
  exact hnot (h log ph hrun [] e log.tail hlog hends)

end Sf4e
