/-
# The ready barrier

`LOBBY_ALLREADY` is to be broadcast only when both players have said that they are ready:
each of them since the ready state was last cleared and since they came to their slot.  The
ready numbers are kept per slot while the members are a list that shifts, so what carries the
property is the correspondence between a set number and the member in its slot.

Two steps of the server break the correspondence.  A disconnect erases a member, and the
numbers of that slot and the later ones stay behind for whoever moves up; and a reset or a
result in the same `Step` after the latch clears the numbers but not the latch.
`readyBarrier_of_kept` proves the barrier for every run without such steps.
-/
import Sf4e.Session.ServerRun

namespace Sf4e

open SessionProtocol SessionServer Trace

/-! ## The property -/

/-- The member `w` in slot `i` says that it is ready. -/
def ReadyBy (i : Side) (w : Who) (e : ServerEntry) : Prop :=
  e.pre.event e.act = .ready i ∧ e.pre.server.occupant i = some w

/-- The member `w` stays in slot `i`, and the ready state is not cleared. -/
def Stays (i : Side) (w : Who) (e : ServerEntry) : Prop :=
  ¬ Clears e ∧ e.post.server.occupant i = some w

/-- The member now in slot `i` has said that it is ready, since the ready state was last
cleared and since it came to that slot. -/
def SinceReady (i : Side) (log : List ServerEntry) (ph : Phase) : Prop :=
  ∃ w ∈ ph.server.occupant i, Since (Stays i w) (ReadyBy i w) log

instance (i : Side) (w : Who) : DecidablePred (ReadyBy i w) := fun e =>
  inferInstanceAs (Decidable (e.pre.event e.act = .ready i ∧ e.pre.server.occupant i = some w))

instance (i : Side) (w : Who) : DecidablePred (Stays i w) := fun e =>
  inferInstanceAs (Decidable (¬ Clears e ∧ e.post.server.occupant i = some w))

instance (i : Side) (log : List ServerEntry) (ph : Phase) : Decidable (SinceReady i log ph) :=
  inferInstanceAs (Decidable (∃ w ∈ ph.server.occupant i, Since (Stays i w) (ReadyBy i w) log))

/-- A broadcast of `LOBBY_ALLREADY` is in order when both players have said that they are
ready and the data update just before it is all-ready. -/
structure InOrder (older : List ServerEntry) (e : ServerEntry) : Prop where
  /-- Both players are ready. -/
  since : ∀ i, SinceReady i older e.pre
  /-- The data update is all-ready. -/
  update : ∃ conns l d rest, d.isAllReady = true ∧
    e.out = .broadcast conns (.dataUpdate l d) :: .broadcast conns .lobbyAllReady :: rest

/-- **The ready barrier**: every broadcast of `LOBBY_ALLREADY` in the log is in order. -/
def ReadyBarrier (log : List ServerEntry) : Prop :=
  ∀ newer e older, log = newer ++ e :: older → BroadcastsAllReady e → InOrder older e

/-! ## The two conditions -/

/-- The entry clears the ready state in a `Step` that has already latched
`LOBBY_ALLREADY`. -/
def ClearsLatched (e : ServerEntry) : Prop := e.pre.latched = true ∧ Clears e

/-- A disconnect of the member at index `k` leaves no ready number behind, on this slot or a
later one. -/
def LeavesNoMark (e : ServerEntry) : Prop :=
  ∀ info ∈ e.act.statusChange?, info.drops = true →
    ∀ k ∈ e.pre.server.clients.findIdx? (fun c => c.conn == info.conn),
      ∀ i : Side, k ≤ i.val → e.pre.server.matchData.readyMessageNum i = -1

instance : DecidablePred ClearsLatched := fun e =>
  inferInstanceAs (Decidable (e.pre.latched = true ∧ Clears e))

instance : DecidablePred LeavesNoMark := fun e =>
  inferInstanceAs (Decidable (∀ info ∈ e.act.statusChange?, info.drops = true →
    ∀ k ∈ e.pre.server.clients.findIdx? (fun c => c.conn == info.conn),
      ∀ i : Side, k ≤ i.val → e.pre.server.matchData.readyMessageNum i = -1))

/-! ## The latch -/

/-- A latched broadcast comes with a data update: nothing takes the promise of one back
before the end of the `Step`. -/
lemma dirty_of_latched_step {e : ServerEntry}
    (h : e.pre.latched = true → e.pre.server.dataDirty = true) (hstep : serverLTS.Steps e) :
    e.post.latched = true → e.post.server.dataDirty = true := by
  obtain ⟨pre, act, out, post⟩ := e
  have hmove := moves_of_steps hstep
  dsimp only at h
  cases hmove with
  | beginStep | pollError | statusChanged | resetLobbyForRematch | nullMessage | endStep =>
    simp [StepState.start]
  | message hev hids hh =>
    cases hh with
    | ready hside | reset hside | results hs' => exact fun _ => rfl
    | setter hs' => exact fun hl => hs'.dirty (h hl)
    | other hquiet hlatch hout =>
      intro hl
      simp only [Phase.latched_receiving, hlatch] at hl
      exact hquiet.dirty (h hl)

lemma dirty_of_latched {log : List ServerEntry} {ph : Phase} (h : serverLTS.Run log ph) :
    ph.latched = true → ph.server.dataDirty = true := by
  refine h.invariant_of_step (fun _ ph => ph.latched = true → ph.server.dataDirty = true) ?_
    fun _ _ hi hs => dirty_of_latched_step hi hs
  rintro s ⟨_, _, _, _, _, rfl⟩
  simp

/-- As long as nothing clears the ready state after the latch, a latched broadcast finds
the match data all-ready. -/
def LatchReady (ph : Phase) : Prop :=
  ph.latched = true → ph.server.matchData.isAllReady = true

lemma isAllReady_update {d : MatchData} (i : Side) (n : ℕ)
    (h : d.isAllReady = true) :
    ({ d with readyMessageNum := Function.update d.readyMessageNum i (n : ℤ) } :
      MatchData).isAllReady = true := by
  rw [MatchData.isAllReady_iff] at h ⊢
  intro j
  by_cases hj : j = i
  · subst hj
    simp only [Function.update_self]
    omega
  · simpa [Function.update_of_ne hj] using h j

lemma isAllReady_congr {d d' : MatchData} (h : d'.readyMessageNum = d.readyMessageNum) :
    d'.isAllReady = d.isAllReady := by
  simp [MatchData.isAllReady, h]

/-- **Step lemma for the latch.** -/
lemma LatchReady.step {e : ServerEntry} (h : LatchReady e.pre) (hstep : serverLTS.Steps e)
    (hok : ¬ ClearsLatched e) : LatchReady e.post := by
  obtain ⟨pre, act, out, post⟩ := e
  have hmove := moves_of_steps hstep
  dsimp only at h
  cases hmove with
  | beginStep | pollError | statusChanged | resetLobbyForRematch | nullMessage | endStep =>
    simp [LatchReady, StepState.start]
  | message hev hids hh =>
    cases hh with
    | ready hside =>
      rename_i st m i
      intro hl
      simp only [Phase.latched_receiving, StepState.markReady, Bool.or_eq_true] at hl
      rcases hl with hl | hl
      · exact isAllReady_update i m.messageNumber (h hl)
      · exact hl
    | reset hside | results hs' =>
      intro hl
      refine absurd ⟨hl, ?_⟩ hok
      simp [Clears, Phase.clears, Phase.event, hev, Event.clears]
    | setter hs' =>
      intro hl
      exact (isAllReady_congr hs'.ready).trans (h hl)
    | other hquiet hlatch hout =>
      intro hl
      simp only [Phase.latched_receiving, hlatch] at hl
      exact (isAllReady_congr hquiet.ready).trans (h hl)

/-- The latch in every run without a clearing after the latch. -/
lemma latchReady_of_run {log : List ServerEntry} {ph : Phase} (h : serverLTS.Run log ph)
    (hok : ∀ e ∈ log, ¬ ClearsLatched e) : LatchReady ph := by
  refine h.invariant (fun _ ph => LatchReady ph) ?_ (fun _ _ => LatchReady.step) hok
  rintro s ⟨_, _, _, _, _, rfl⟩
  simp [LatchReady]

/-! ## The ready numbers -/

/-- Every ready number that is set belongs to the member in its slot. -/
def MarksOwned (log : List ServerEntry) (ph : Phase) : Prop :=
  ∀ i, ph.server.matchData.readyMessageNum i ≠ -1 → SinceReady i log ph

lemma SinceReady.keep {i : Side} {log : List ServerEntry} {e : ServerEntry}
    (h : SinceReady i log e.pre) (hclear : ¬ Clears e)
    (hocc : ∀ w, e.pre.server.occupant i = some w → e.post.server.occupant i = some w) :
    SinceReady i (e :: log) e.post := by
  obtain ⟨w, hw, hsince⟩ := h
  exact ⟨w, hocc w hw, Or.inr ⟨⟨hclear, hocc w hw⟩, hsince⟩⟩

/-- A step that keeps the ready numbers and the slots of the players that are ready. -/
lemma MarksOwned.keep {log : List ServerEntry} {e : ServerEntry} (h : MarksOwned log e.pre)
    (hclear : ¬ Clears e)
    (hready : e.post.server.matchData.readyMessageNum = e.pre.server.matchData.readyMessageNum)
    (hocc : ∀ i, e.pre.server.matchData.readyMessageNum i ≠ -1 →
      ∀ w, e.pre.server.occupant i = some w → e.post.server.occupant i = some w) :
    MarksOwned (e :: log) e.post := by
  intro i hi
  rw [hready] at hi
  exact (h i hi).keep hclear (hocc i hi)

/-- Clearing the ready numbers makes the correspondence hold trivially. -/
lemma marksOwned_of_noneReady {log : List ServerEntry} {ph : Phase}
    (h : ph.server.matchData.readyMessageNum = MatchData.noneReady) : MarksOwned log ph := by
  intro i hi
  exact absurd (by simp [h]) hi

lemma readyMessageNum_of_handleResults {s s' : SessionServer} {l : ℤ}
    (h : s.handleResults l = some s') : s'.matchData.readyMessageNum = MatchData.noneReady := by
  unfold handleResults at h
  split_ifs at h
  split at h
  · exact absurd h (by simp)
  · obtain rfl := Option.some.inj h
    rfl

/-- A disconnect that leaves no mark keeps the slots of the players that are ready. -/
lemma occupant_of_leavesNoMark {s : SessionServer} {info : StatusChange} {i : Side} {w : Who}
    (hmark : info.drops = true → ∀ k,
      s.clients.findIdx? (fun c => c.conn == info.conn) = some k → i.val < k)
    (hw : s.occupant i = some w) :
    (s.onSteamNetConnectionStatusChanged info).occupant i = some w := by
  unfold onSteamNetConnectionStatusChanged
  split
  · rename_i hdrops
    split
    · exact hw
    · rename_i k hk
      have hlt : i.val < k := hmark hdrops k hk
      simpa [occupant, player, List.getElem?_eraseIdx_of_lt hlt] using hw
  · exact hw

lemma readyMessageNum_statusChanged (s : SessionServer) (info : StatusChange) :
    (s.onSteamNetConnectionStatusChanged info).matchData = s.matchData := by
  unfold onSteamNetConnectionStatusChanged
  split
  · split <;> rfl
  · rfl

/-- **Step lemma for the ready numbers.** -/
lemma MarksOwned.step {log : List ServerEntry} {e : ServerEntry} (h : MarksOwned log e.pre)
    (hstep : serverLTS.Steps e) (hok : LeavesNoMark e) : MarksOwned (e :: log) e.post := by
  obtain ⟨pre, act, out, post⟩ := e
  have hmove := moves_of_steps hstep
  dsimp only at h
  cases hmove with
  | beginStep | pollError | nullMessage | endStep =>
    exact h.keep (by simp [Clears, Phase.clears, Phase.event, Event.clears]) rfl
      fun _ _ _ hw => hw
  | resetLobbyForRematch => exact marksOwned_of_noneReady rfl
  | statusChanged =>
    rename_i s info
    refine h.keep (by simp [Clears, Phase.clears, Phase.event, Event.clears])
      (by simp [readyMessageNum_statusChanged]) fun i hi w hw => ?_
    refine occupant_of_leavesNoMark (fun hdrops k hk => ?_) hw
    by_contra hge
    exact hi (hok info rfl hdrops k hk i (not_lt.1 hge))
  | message hev hids hh =>
    cases hh with
    | ready hside =>
      rename_i st m i
      have hclear : ¬ Clears ⟨.receiving st, .message m, [],
          .receiving (st.markReady i m.messageNumber)⟩ := by
        simp [Clears, Phase.clears, Phase.event, hev, Event.clears]
      intro j hj
      by_cases hji : j = i
      · -- the number just set belongs to the sender, who is in the slot
        subst hji
        obtain ⟨name, hw⟩ := exists_occupant_of_side hside
        exact ⟨(m.conn, name), hw, Or.inl ⟨hev, hw⟩⟩
      · have hold : st.server.matchData.readyMessageNum j ≠ -1 := by
          simpa [StepState.markReady, Function.update_of_ne hji] using hj
        exact (h j hold).keep hclear fun _ hw => hw
    | reset hside => exact marksOwned_of_noneReady rfl
    | results hs' =>
      have hnone := readyMessageNum_of_handleResults hs'
      exact marksOwned_of_noneReady hnone
    | setter hs' =>
      refine h.keep (by simp [Clears, Phase.clears, Phase.event, hev, Event.clears]) hs'.ready
        fun i _ w hw => ?_
      exact (hs'.occupant i).trans hw
    | other hquiet hlatch hout =>
      exact h.keep (by simp [Clears, Phase.clears, Phase.event, hev, Event.clears]) hquiet.ready
        fun i _ => hquiet.occupant i

/-- The ready numbers in every run whose disconnects leave no mark. -/
lemma marksOwned_of_run {log : List ServerEntry} {ph : Phase} (h : serverLTS.Run log ph)
    (hok : ∀ e ∈ log, LeavesNoMark e) : MarksOwned log ph := by
  refine h.invariant MarksOwned ?_ (fun _ _ => MarksOwned.step) hok
  rintro s ⟨_, _, _, _, _, rfl⟩
  exact marksOwned_of_noneReady rfl

/-! ## The barrier -/

/-- **The ready barrier holds in every run in which no disconnect leaves a ready number
behind and nothing clears the ready state between the latch and the end of its `Step`.** -/
theorem readyBarrier_of_kept {log : List ServerEntry} {ph : Phase} (h : serverLTS.Run log ph)
    (hok : ∀ e ∈ log, LeavesNoMark e ∧ ¬ ClearsLatched e) : ReadyBarrier log := by
  rintro newer e older rfl hall
  obtain ⟨hrun, hstep, -⟩ := h.at_entry
  have hmarks : MarksOwned older e.pre :=
    marksOwned_of_run hrun fun e' he' => (hok e' (by simp [he'])).1
  have hlatch : LatchReady e.pre :=
    latchReady_of_run hrun fun e' he' => (hok e' (by simp [he'])).2
  obtain ⟨st, hpre, -, hout, -, hl⟩ := exists_endStep_of_broadcastsAllReady hstep hall
  have hl' : e.pre.latched = true := by simpa [hpre] using hl
  have hready := hlatch hl'
  refine ⟨fun i => hmarks i (MatchData.isAllReady_iff.1 hready i), ?_⟩
  have hdirty : st.server.dataDirty = true := by
    simpa [hpre] using dirty_of_latched hrun hl'
  refine ⟨st.server.conns, StepState.sentLobbyData st.server, st.server.matchData,
    if st.bSendBattleSynced then [st.server.broadcastMessage .battleSynced] else [], ?_, ?_⟩
  · simpa [hpre] using hready
  · simp [hout, StepState.broadcasts, hdirty, hl, SessionServer.broadcastMessage,
      StepState.dataUpdate]

/-- The barrier at work: two members join, get ready, and `LOBBY_ALLREADY` goes out. -/
theorem readyBarrier_two_members :
    ∃ log ph, serverLTS.Run log ph ∧ (∃ e ∈ log, BroadcastsAllReady e) ∧ ReadyBarrier log := by
  obtain ⟨log, ph, hrun, hall, hok⟩ := exists_run_of_exec Action.bothReady
    (p := fun log _ => (∃ e ∈ log, BroadcastsAllReady e) ∧
      ∀ e ∈ log, LeavesNoMark e ∧ ¬ ClearsLatched e) (by decide +kernel)
  exact ⟨log, ph, hrun, hall, readyBarrier_of_kept hrun hok⟩

/-- **A disconnect breaks the barrier.** `A`, `B` and `C` join and `B` gets ready in slot 1.
When `A` disconnects, `B` moves to slot 0 and `C` to slot 1, where the number of `B` still
stands; `B` gets ready once more, and `LOBBY_ALLREADY` goes out although `C` never was. -/
theorem not_readyBarrier_disconnect :
    ¬ ∀ log ph, serverLTS.Run log ph → ReadyBarrier log := by
  intro h
  obtain ⟨log, ph, hrun, e, he, hall, hnot⟩ := exists_run_of_exec
    ([.beginStep] ++ Action.enter 1 "A" ++ Action.enter 2 "B" ++ Action.enter 3 "C" ++
      [.message (.bare 2 3 .lobbyReady), .endStep,
        .statusChanged ⟨1, .closedByPeer, .connected⟩,
        .beginStep, .message (.bare 2 4 .lobbyReady), .endStep])
    (p := fun log _ => ∃ e ∈ log.head?, BroadcastsAllReady e ∧ ¬ SinceReady 1 log.tail e.pre)
    (by decide +kernel)
  have hlog : log = [] ++ e :: log.tail := List.eq_cons_of_mem_head? he
  exact hnot ((h log ph hrun [] e log.tail hlog hall).since 1)

end Sf4e
