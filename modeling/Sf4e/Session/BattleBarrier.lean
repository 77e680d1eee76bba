/-
# The battle-synced barrier

`BATTLE_SYNCED` is to be broadcast when every member has loaded the battle, and a `Step` with
several messages is to announce it when the same messages in `Step`s of their own would.
The announcement is decided by the last report of a `Step` and goes out at its end, while a
reset or a join in between takes flags away again.

`Standing` follows an announcement through a `Step`.  Both parts hold as long as
no announcement is spoilt, and `battleBarrier_of_kept` says for a single `Step` that they do
not otherwise.
-/
import Sf4e.Session.Batches

namespace Sf4e

open SessionProtocol SessionServer Trace

/-! ## The broadcast -/

/-- Is this the broadcast of `BATTLE_SYNCED`? -/
def Output.isBattleSynced : Output → Bool
  | .broadcast _ .battleSynced => true
  | _ => false

/-- Is `BATTLE_SYNCED` among the outputs? -/
def announces (out : List Output) : Bool := out.any Output.isBattleSynced

@[simp] lemma announces_nil : announces [] = false := rfl

@[simp] lemma announces_append (out out' : List Output) :
    announces (out ++ out') = (announces out || announces out') := by simp [announces]

lemma announces_of_routine {out : List Output} (h : ∀ o ∈ out, o.routine = true) :
    announces out = false := by
  rw [announces, List.any_eq_false]
  intro o ho
  cases o with
  | respond conn msg => simp [Output.isBattleSynced]
  | broadcast conns msg =>
    have hr := h _ ho
    cases msg <;> simp_all [Output.isBattleSynced, Output.routine, ServerMessage.routine]

@[simp] lemma announces_broadcasts (st : StepState) :
    announces st.broadcasts = st.bSendBattleSynced := by
  simp only [StepState.broadcasts, announces_append]
  have hdata : announces (if st.server.dataDirty then
      [st.server.broadcastMessage (StepState.dataUpdate st.server)] else []) = false := by
    split <;> rfl
  have hready : announces (if st.bSendLobbyAllReady then
      [st.server.broadcastMessage .lobbyAllReady] else []) = false := by
    split <;> rfl
  rw [hdata, hready]
  cases st.bSendBattleSynced <;> rfl

/-- A message is handled without announcing anything. -/
lemma announces_onMessage {st st' : StepState} {m : Incoming} {out : List Output}
    (h : st.onMessage m = some (st', out)) : announces out = false := by
  have hh := StepState.onMessage_cases h
  generalize st.server.event m = ev at hh
  cases hh with
  | ready | reset | results | setter => rfl
  | other _ _ hout => exact announces_of_routine hout

/-- `BATTLE_SYNCED` leaves the server only at the end of a `Step` that latched it. -/
lemma exists_endStep_of_announces {e : ServerEntry} (hstep : serverLTS.Steps e)
    (h : announces e.out = true) :
    ∃ st : StepState, e.pre = .receiving st ∧ e.act = .endStep ∧ e.post = .idle st.finish ∧
      st.bSendBattleSynced = true := by
  obtain ⟨o, ho, hsynced⟩ := List.any_eq_true.1 h
  have hroutine : o.routine = false := by
    cases o with
    | respond conn msg => simp [Output.isBattleSynced] at hsynced
    | broadcast conns msg =>
      cases msg <;> simp_all [Output.isBattleSynced, Output.routine, ServerMessage.routine]
  obtain ⟨st, hpre, hact, hout, hpost⟩ := exists_endStep_of_not_routine hstep ho hroutine
  rw [hout, announces_broadcasts] at h
  exact ⟨st, hpre, hact, hpost, h⟩

/-! ## How an announcement stands -/

/-- How an announcement stands in the middle of a `Step`. -/
inductive Standing
  /-- No report has completed the members yet. -/
  | quiet
  /-- A report has, and nothing has taken a flag away since. -/
  | due
  /-- A reset or a join came after the last such report. -/
  | spoilt
deriving DecidableEq

/-- The message reports that the sender has loaded the battle, as everybody else has. -/
def Completes (s : SessionServer) (m : Incoming) : Prop :=
  s.loadEvent m = .loaded ∧ ∀ c ∈ s.clients, c.conn = m.conn ∨ c.data.battleLoaded = true

instance (s : SessionServer) (m : Incoming) : Decidable (Completes s m) :=
  inferInstanceAs (Decidable (s.loadEvent m = .loaded ∧
    ∀ c ∈ s.clients, c.conn = m.conn ∨ c.data.battleLoaded = true))

/-- The standing after one more message. -/
def Standing.after (x : Standing) (s : SessionServer) (m : Incoming) : Standing :=
  match s.loadEvent m with
  | .loaded => if Completes s m then .due else x
  | .reset | .join => if x = .quiet then .quiet else .spoilt
  | .other => x

/-- The standing after a log whose newest entries are the messages of a `Step`. -/
def standing : List ServerEntry → Standing
  | [] => .quiet
  | e :: log =>
    match e.act with
    | .message m => (standing log).after e.pre.server m
    | _ => .quiet

/-- What the standing says about the locals and the flags. -/
def Standing.Means (st : StepState) : Standing → Prop
  | .quiet => st.bSendBattleSynced = false
  | .due => st.bSendBattleSynced = true ∧ st.server.allLoaded = true
  | .spoilt => st.server.allLoaded = false

lemma onBattleLoaded_latch (st : StepState) (conn : HSteamNetConnection) :
    (st.onBattleLoaded conn).bSendBattleSynced = (st.onBattleLoaded conn).server.allLoaded := rfl

lemma allLoaded_onBattleLoaded_iff {st : StepState} {m : Incoming}
    (h : st.server.loadEvent m = .loaded) :
    (st.onBattleLoaded m.conn).server.allLoaded = true ↔ Completes st.server m := by
  rw [allLoaded_iff]
  constructor
  · intro hall
    refine ⟨h, fun c hc => ?_⟩
    have hmarked := hall _ (List.mem_map_of_mem hc)
    simpa [battleLoaded_markLoaded] using hmarked
  · rintro ⟨-, hall⟩ c hc
    obtain ⟨c₀, hc₀, rfl⟩ := List.mem_map.1 hc
    simpa [battleLoaded_markLoaded] using hall c₀ hc₀

lemma allLoaded_congr {s s' : SessionServer} (h : s'.clients.Perm s.clients) :
    s'.allLoaded = s.allLoaded := by
  rw [Bool.eq_iff_iff, allLoaded_iff, allLoaded_iff]
  exact forall_congr' fun c => imp_congr_left h.mem_iff

lemma allLoaded_resetLobbyForRematch {s : SessionServer} {c : SessionMember}
    (hc : c ∈ s.clients) : s.resetLobbyForRematch.allLoaded = false := by
  rw [Bool.eq_false_iff, ne_eq, allLoaded_iff]
  intro hall
  have hcleared := hall (markUnloaded c) (List.mem_map_of_mem hc)
  rw [battleLoaded_markUnloaded] at hcleared
  exact absurd hcleared (by simp)

lemma mem_clients_of_side {s : SessionServer} {conn : HSteamNetConnection} {i : Side}
    (h : s.side conn = some i) : ∃ c ∈ s.clients, c.conn = conn := by
  obtain ⟨c, hc, hconn⟩ := exists_player_of_side h
  exact ⟨c, List.mem_of_getElem? hc, hconn⟩

/-- **Step lemma for the standing.** -/
lemma Standing.Means.after {x : Standing} {st st' : StepState} {m : Incoming} (h : x.Means st)
    (hh : st.LoadHandled m (st.server.loadEvent m) st') : (x.after st.server m).Means st' := by
  unfold Standing.after
  cases hkind : st.server.loadEvent m with
  | loaded =>
    rw [hkind] at hh
    cases hh
    have hiff := allLoaded_onBattleLoaded_iff hkind
    by_cases hcomp : Completes st.server m
    · simp only [hcomp, if_true]
      exact ⟨hiff.2 hcomp, hiff.2 hcomp⟩
    · simp only [hcomp, if_false]
      have hnot : (st.onBattleLoaded m.conn).server.allLoaded = false := by
        rw [Bool.eq_false_iff, ne_eq, hiff]
        exact hcomp
      -- an announcement that is due cannot be undone by one more report
      cases x with
      | quiet => exact (onBattleLoaded_latch st m.conn).trans hnot
      | due => exact absurd ⟨hkind, fun c hc => Or.inr (allLoaded_iff.1 h.2 c hc)⟩ hcomp
      | spoilt => exact hnot
  | reset =>
    rw [hkind] at hh
    cases hh with
    | reset hside =>
      obtain ⟨c, hc, -⟩ := mem_clients_of_side hside
      cases x with
      | quiet => exact h
      | due | spoilt => exact allLoaded_resetLobbyForRematch hc
  | join =>
    rw [hkind] at hh
    cases hh with
    | join hclients hloaded hname hlatch =>
      cases x with
      | quiet => exact hlatch.trans h
      | due | spoilt =>
        show st'.server.allLoaded = false
        simp [SessionServer.allLoaded, hclients, hloaded]
  | other =>
    rw [hkind] at hh
    cases hh with
    | other hclients hlatch =>
      have hall := allLoaded_congr hclients
      cases x with
      | quiet => exact hlatch.trans h
      | due => exact ⟨hlatch.trans h.1, hall.trans h.2⟩
      | spoilt => exact hall.trans h

/-- The standing in the middle of a `Step`. -/
def StandingHolds (log : List ServerEntry) : Phase → Prop
  | .idle _ => True
  | .receiving st => (standing log).Means st

lemma StandingHolds.step {log : List ServerEntry} {e : ServerEntry} (h : StandingHolds log e.pre)
    (hstep : serverLTS.Steps e) : StandingHolds (e :: log) e.post := by
  obtain ⟨pre, act, out, post⟩ := e
  have hmove := moves_of_steps hstep
  cases hmove with
  | pollError | statusChanged | resetLobbyForRematch | nullMessage | endStep => trivial
  | beginStep => exact rfl
  | message hev hids hh => exact Standing.Means.after h (loadHandled_of_steps hstep)

lemma standingHolds_of_run {log : List ServerEntry} {ph : Phase} (h : serverLTS.Run log ph) :
    StandingHolds log ph := by
  refine h.invariant_of_step StandingHolds ?_ fun _ _ hi hs => hi.step hs
  rintro s ⟨_, _, _, _, _, rfl⟩
  trivial

/-- A latched announcement that is not spoilt is due. -/
lemma Standing.Means.allLoaded {x : Standing} {st : StepState} (h : x.Means st)
    (hx : x ≠ .spoilt) (hl : st.bSendBattleSynced = true) : st.server.allLoaded = true := by
  cases x with
  | quiet => exact absurd (h.symm.trans hl) (by simp)
  | due => exact h.2
  | spoilt => exact absurd rfl hx

/-! ## One `Step` and many -/

lemma after_ne_quiet_iff {x : Standing} {s : SessionServer} {m : Incoming} :
    x.after s m ≠ .quiet ↔ x ≠ .quiet ∨ Completes s m := by
  unfold Standing.after
  by_cases hcomp : Completes s m
  · simp [hcomp.1, hcomp]
  · simp only [hcomp, or_false]
    cases s.loadEvent m with
    | loaded | other => simp
    | reset | join => by_cases hx : x = .quiet <;> simp [hx]

/-- In a `Step` of its own, a message announces exactly when it completes the members. -/
lemma latch_start_iff {s : SessionServer} {m : Incoming} {st : StepState}
    (h : (StepState.start s).LoadHandled m (s.loadEvent m) st) :
    st.bSendBattleSynced = true ↔ Completes s m := by
  cases hkind : s.loadEvent m with
  | loaded =>
    rw [hkind] at h
    cases h
    rw [onBattleLoaded_latch]
    exact allLoaded_onBattleLoaded_iff hkind
  | reset | join | other =>
    have hnot : ¬ Completes s m := fun hc => absurd (hkind.symm.trans hc.1) (by simp)
    rw [hkind] at h
    refine iff_of_false ?_ hnot
    cases h
    all_goals simp_all [StepState.start]

/-- What one `Step` and the `Step`s of the single messages come to. -/
structure Compared (s : SessionServer) (log : List ServerEntry) (st : StepState) : Prop where
  /-- The locals and the flags of the one `Step`. -/
  locals : (standing log).Means st
  /-- The one `Step` has sent no announcement yet. -/
  together : ∃ out, (StepState.start s).receiveAll (messages log) = some (st, out) ∧
    announces out = false
  /-- The other `Step`s announce exactly when some report completes the members. -/
  oneByOne : ∃ s₂ out, s.oneByOne (messages log) = some (s₂, out) ∧ s₂.core = st.server.core ∧
    (announces out = true ↔ standing log ≠ .quiet)

lemma compared_of_stepLog {s : SessionServer} {log : List ServerEntry} {st : StepState}
    (h : StepLog s log st) : Compared s log st := by
  refine h.rec_message (motive := Compared s) ?_ ?_
  · exact ⟨rfl, ⟨[], rfl, rfl⟩, ⟨s, [], rfl, rfl, by simp [standing]⟩⟩
  · rintro log st m st' out - ⟨hmeans, ⟨out₁, hall, hout₁⟩, ⟨s₂, out₂, hone, hcore, hiff⟩⟩ hm
    have hquiet := announces_onMessage hm
    obtain ⟨st₂, hm₂, hcore₂⟩ := exists_onMessage_start hcore hm
    have hlatch := latch_start_iff (StepState.onMessage_loadHandled hm₂)
    have hcomp : Completes s₂ m ↔ Completes st.server m := by
      rw [SessionServer.eq_withDirty_of_core_eq hcore]
      simp [Completes, loadEvent_withDirty]
    refine ⟨hmeans.after (StepState.onMessage_loadHandled hm), ⟨out₁ ++ out, ?_, ?_⟩,
      ⟨st₂.finish, out₂ ++ (out ++ st₂.broadcasts), ?_, hcore₂, ?_⟩⟩
    · rw [messages_cons_message]
      exact StepState.receiveAll_snoc hall hm
    · simp [hout₁, hquiet]
    · rw [messages_cons_message]
      exact oneByOne_snoc hone hm₂
    · show _ ↔ (standing log).after st.server m ≠ .quiet
      rw [after_ne_quiet_iff, ← hiff, ← hcomp, ← hlatch]
      simp [hquiet]

/-! ## The barrier -/

/-- Every broadcast of `BATTLE_SYNCED` in the log finds every member to have reported since
its flag was last cleared. -/
def SyncedInOrder (log : List ServerEntry) : Prop :=
  ∀ newer e older, log = newer ++ e :: older → announces e.out = true →
    ∀ c ∈ e.pre.server.clients, LoadedSince c.who older

/-- One `Step` for the messages announces when `Step`s of their own do. -/
def SameAnnouncement (s : SessionServer) (ms : List Incoming) : Prop :=
  (s.together ms).map (fun r => announces r.2) = (s.oneByOne ms).map fun r => announces r.2

instance (s : SessionServer) (ms : List Incoming) : Decidable (SameAnnouncement s ms) :=
  inferInstanceAs (Decidable (_ = _))

/-- **The battle-synced barrier**, in all runs and for all messages. -/
def BattleBarrier : Prop :=
  (∀ log ph, serverLTS.Run log ph → SyncedInOrder log) ∧ ∀ s ms, SameAnnouncement s ms

/-- No `Step` of the log ends on a spoilt announcement. -/
def Unspoilt : List ServerEntry → Prop
  | [] => True
  | e :: log => (e.act = .endStep → standing log ≠ .spoilt) ∧ Unspoilt log

instance : DecidablePred Unspoilt
  | [] => inferInstanceAs (Decidable True)
  | e :: log =>
    have : Decidable (Unspoilt log) := instDecidablePredListServerEntryUnspoilt log
    inferInstanceAs (Decidable ((e.act = .endStep → standing log ≠ .spoilt) ∧ Unspoilt log))

lemma Unspoilt.at_entry {newer older : List ServerEntry} {e : ServerEntry}
    (h : Unspoilt (newer ++ e :: older)) : e.act = .endStep → standing older ≠ .spoilt := by
  induction newer with
  | nil => exact h.1
  | cons a newer ih => exact ih h.2

/-- The runs without a spoilt announcement. -/
lemma syncedInOrder_of_unspoilt {log : List ServerEntry} {ph : Phase}
    (h : serverLTS.Run log ph) (hok : Unspoilt log) : SyncedInOrder log := by
  rintro newer e older rfl hann
  obtain ⟨hrun, hstep, -⟩ := h.at_entry
  obtain ⟨st, hpre, hact, -, hl⟩ := exists_endStep_of_announces hstep hann
  have hmeans : StandingHolds older e.pre := standingHolds_of_run hrun
  rw [hpre] at hmeans
  have hall := Standing.Means.allLoaded hmeans (hok.at_entry hact) hl
  have hloaded := (allLoaded_iff_of_run hrun).1 (by rw [hpre]; exact hall)
  exact hloaded

/-- The messages of a `Step`, in that `Step` and in `Step`s of their own. -/
lemma sameAnnouncement_iff {s : SessionServer} {log : List ServerEntry} {st : StepState}
    (h : StepLog s log st) :
    SameAnnouncement s (messages log) ↔
      (st.bSendBattleSynced = true ↔ standing log ≠ .quiet) := by
  obtain ⟨-, ⟨out₁, hall, hout₁⟩, ⟨s₂, out₂, hone, -, hiff⟩⟩ := compared_of_stepLog h
  rw [SameAnnouncement, together_eq hall, hone, ← hiff, ← Bool.eq_iff_iff]
  simp [hout₁]

/-- A `Step` announces rightly, and as its messages would by themselves, exactly when its
announcement is not spoilt. -/
lemma announcement_iff {s : SessionServer} {log : List ServerEntry} {st : StepState}
    (h : StepLog s log st) :
    (SameAnnouncement s (messages log) ∧
        (st.bSendBattleSynced = true → st.server.allLoaded = true)) ↔
      standing log ≠ .spoilt := by
  rw [sameAnnouncement_iff h]
  have hmeans := (compared_of_stepLog h).locals
  generalize standing log = x at hmeans ⊢
  cases x with
  | quiet =>
    have hl : st.bSendBattleSynced = false := hmeans
    simp [hl]
  | due =>
    obtain ⟨hl, hall⟩ := hmeans
    simp [hl, hall]
  | spoilt =>
    have hall : st.server.allLoaded = false := hmeans
    simp [hall]

/-- **The barrier holds in every run in which no `Step` handles a player's reset or a join
after its last completing report**; and a `Step`, at the end of any run, announces rightly
and as its messages would one by one exactly when it does not. -/
theorem battleBarrier_of_kept {older : List ServerEntry} {ph : Phase}
    (h : serverLTS.Run older ph) :
    (Unspoilt older → SyncedInOrder older) ∧
    ∀ s log st, ph = .idle s → StepLog s log st →
      ((SameAnnouncement s (messages log) ∧
          (st.bSendBattleSynced = true → ∀ c ∈ st.server.clients,
            LoadedSince c.who (log ++ ⟨.idle s, .beginStep, [], .receiving (.start s)⟩ :: older))) ↔
        standing log ≠ .spoilt) := by
  refine ⟨fun hok => syncedInOrder_of_unspoilt h hok, ?_⟩
  obtain ⟨s₀, hs₀, hpath⟩ := h
  rintro s log st rfl hlog
  have hbegin : serverLTS.Path s₀ (⟨.idle s, .beginStep, [], .receiving (.start s)⟩ :: older)
      (.receiving (.start s)) := LTS.path_cons_iff.2 ⟨hpath, rfl, rfl⟩
  have hrun : serverLTS.Run
      (log ++ ⟨.idle s, .beginStep, [], .receiving (.start s)⟩ :: older) (.receiving st) :=
    ⟨s₀, hs₀, LTS.path_append_iff.2 ⟨_, hbegin, hlog.path⟩⟩
  have hflags := allLoaded_iff_of_run hrun
  rw [Phase.server_receiving] at hflags
  rw [← hflags]
  exact announcement_iff hlog

/-- The barrier at work: two members join, load the battle, and `BATTLE_SYNCED` goes out. -/
theorem battleBarrier_two_members :
    ∃ log ph, serverLTS.Run log ph ∧ (∃ e ∈ log, announces e.out = true) ∧ SyncedInOrder log := by
  obtain ⟨log, ph, hrun, hann, hok⟩ := exists_run_of_exec
    ([.beginStep] ++ Action.enter 1 "A" ++ Action.enter 2 "B" ++
      [.message (.bare 1 3 .battleLoaded), .message (.bare 2 3 .battleLoaded), .endStep])
    (p := fun log _ => (∃ e ∈ log, announces e.out = true) ∧ Unspoilt log) (by decide +kernel)
  exact ⟨log, ph, hrun, hann, (battleBarrier_of_kept hrun).1 hok⟩

/-- **A reset or a join at the wrong place breaks both parts.** `A` and `B` report and `A`
resets the lobby, all in one `Step`: `BATTLE_SYNCED` goes out and no flag is set.  And when
`A` is alone and reports, `B` joins and `A` reports again, the one `Step` announces nothing,
although the first report in a `Step` of its own would have been announced. -/
theorem not_battleBarrier :
    ¬ BattleBarrier ∧ (¬ ∀ log ph, serverLTS.Run log ph → SyncedInOrder log) ∧
      ¬ ∀ s ms, SameAnnouncement s ms := by
  have hrun : ¬ ∀ log ph, serverLTS.Run log ph → SyncedInOrder log := by
    intro h
    obtain ⟨log, ph, hrun, e, he, hann, c, hc, hnot⟩ := exists_run_of_exec
      ([.beginStep] ++ Action.enter 1 "A" ++ Action.enter 2 "B" ++
        [.message (.bare 1 3 .battleLoaded), .message (.bare 2 3 .battleLoaded),
          .message (.bare 1 4 .lobbyReset), .endStep])
      (p := fun log _ => ∃ e ∈ log.head?, announces e.out = true ∧
        ∃ c ∈ e.pre.server.clients, ¬ LoadedSince c.who log.tail) (by decide +kernel)
    have hlog : log = [] ++ e :: log.tail := List.eq_cons_of_mem_head? he
    exact hnot (h log ph hrun [] e log.tail hlog hann c hc)
  have hsame : ¬ SameAnnouncement (.new "" "" true 3 ⟨0, 99⟩)
      [.bare 1 1 .sessionHello, .join 1 2 ⟨"", "A", 0⟩, .bare 1 3 .battleLoaded,
        .bare 2 1 .sessionHello, .join 2 2 ⟨"", "B", 0⟩, .bare 1 4 .battleLoaded] := by
    decide +kernel
  exact ⟨fun h => hrun h.1, hrun, fun h => hsame (h _ _)⟩

end Sf4e
