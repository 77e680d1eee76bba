/-
# The watch over the synchronisation

A session over the UDP relay that GGPO does not report as running within twenty seconds is to be
aborted by the tick.  The variables that the tick looks at agree with what is known of the
session (`Watched`), but for `bUpdateAllowed`: while a session is open, it is false exactly if
the player has paused.
-/
import Sf4e.Netplay.Callbacks

namespace Sf4e
namespace UserApp

open Ggpo NetplayFacade Trace

/-! ## Sessions that wait too long -/

/-- A session over the UDP relay, watched since `s`, has waited for more than twenty seconds. -/
structure Overdue (a : App) (s now : ℕ) : Prop where
  session : a.process.ggpo.isSome = true
  watched : a.session.watchedSince = some s
  waits : a.session.ran = false
  late : s + 20000 < now

instance (a : App) (s now : ℕ) : Decidable (Overdue a s now) :=
  decidable_of_iff (a.process.ggpo.isSome = true ∧ a.session.watchedSince = some s ∧
      a.session.ran = false ∧ s + 20000 < now)
    ⟨fun ⟨h₁, h₂, h₃, h₄⟩ => ⟨h₁, h₂, h₃, h₄⟩, fun ⟨h₁, h₂, h₃, h₄⟩ => ⟨h₁, h₂, h₃, h₄⟩⟩

/-- A tick closes the session that is overdue. -/
def ClosesOverdue (e : Entry App Event Unit) : Prop :=
  ∀ mainMenu now s, e.act = .tickFrame mainMenu now → Overdue e.pre s now →
    e.post.process.ggpo = none

/-- A tick aborts no session that has been running. -/
def SparesRunning (e : Entry App Event Unit) : Prop :=
  ∀ mainMenu now, e.act = .tickFrame mainMenu now → e.pre.process.ggpo.isSome = true →
    e.pre.session.ran = true → e.post.aborts = e.pre.aborts

/-- The timeout sees that the session is overdue: the player has paused, and the 32-bit clock
shows the wait. -/
def TimeoutSees (a : App) (s now : ℕ) : Prop :=
  a.process.simGate.manualPause = true ∧ s % 2 ^ 32 ≠ 0 ∧ 20000 < (now - s) % 2 ^ 32

/-- A deferred close of the session is due. -/
def CloseIsDue (a : App) (now : ℕ) : Prop :=
  a.process.defer.deferredGgpoPending = true ∧
    (a.process.defer.shouldDeferGgpoClose (getTickCount now)).1 = false

/-- Whenever the session is overdue at a tick, the timeout sees it or its deferred close is
due. -/
def SeenWhenOverdue (e : Entry App Event Unit) : Prop :=
  ∀ mainMenu now s, e.act = .tickFrame mainMenu now → Overdue e.pre s now →
    TimeoutSees e.pre s now ∨ CloseIsDue e.pre now

/-- The events that GGPO may report in an event of the program, in order. -/
def Event.codes : Event → List EventCode
  | .battleUpdate _ addInput sync advance => addInput.codes ++ (sync.codes ++ advance.codes)
  | .idle script => script.codes
  | _ => []

/-- All players are synchronised. -/
def startsRunning : EventCode → Bool
  | .running => true
  | _ => false

/-- A player is still to be synchronised. -/
def synchronises : EventCode → Bool
  | .connectedToPeer => true
  | .synchronizingWithPeer => true
  | _ => false

/-- Once GGPO has reported that all players are synchronised, no player is still to be. -/
def OrderlyEvents : Bool → List EventCode → Prop
  | _, [] => True
  | ran, code :: codes =>
    (ran = true → synchronises code = false) ∧ OrderlyEvents (ran || startsRunning code) codes

instance : ∀ ran codes, Decidable (OrderlyEvents ran codes)
  | _, [] => inferInstanceAs (Decidable True)
  | ran, code :: codes =>
    have : Decidable (OrderlyEvents (ran || startsRunning code) codes) :=
      instDecidableOrderlyEvents _ codes
    inferInstanceAs (Decidable ((ran = true → synchronises code = false) ∧
      OrderlyEvents (ran || startsRunning code) codes))

/-- GGPO is orderly in a step. -/
def Orderly (e : Entry App Event Unit) : Prop :=
  e.pre.process.ggpo.isSome = true → OrderlyEvents e.pre.session.ran e.act.codes

instance : DecidablePred Orderly := fun e =>
  inferInstanceAs (Decidable (e.pre.process.ggpo.isSome = true →
    OrderlyEvents e.pre.session.ran e.act.codes))

/-! ## What leaves the watch alone -/

/-- From `a` to `b` an open session and its watch stay as they are. -/
def KeepsWatch (a b : App) : Prop :=
  b.process.ggpo.isSome = true → a.process.ggpo.isSome = true ∧
    b.process.bUpdateAllowed = a.process.bUpdateAllowed ∧
    b.process.simGate.manualPause = a.process.simGate.manualPause ∧
    b.watch = a.watch ∧ b.session = a.session

lemma ggpo_abortGgpoMatch (a : App) : a.abortGgpoMatch.process.ggpo = none :=
  ggpo_retireGgpoSession _

namespace KeepsWatch

variable {a b c : App}

lemma refl : KeepsWatch a a := fun h => ⟨h, rfl, rfl, rfl, rfl⟩

lemma trans (h : KeepsWatch a b) (h' : KeepsWatch b c) : KeepsWatch a c := by
  intro hc
  obtain ⟨hb, hallowed', hpause', hwatch', hsession'⟩ := h' hc
  obtain ⟨ha, hallowed, hpause, hwatch, hsession⟩ := h hb
  exact ⟨ha, hallowed'.trans hallowed, hpause'.trans hpause, hwatch'.trans hwatch,
    hsession'.trans hsession⟩

lemma of_closed (h : b.process.ggpo = none) : KeepsWatch a b := by
  intro hb
  simp [h] at hb

lemma of_roomStep (h : RoomStep a b) : KeepsWatch a b := by
  cases h
  exact fun h => ⟨h, rfl, rfl, rfl, rfl⟩

lemma closeDeferred (a : App) (now : ℕ) : KeepsWatch a (a.closeDeferred now) := by
  unfold App.closeDeferred
  split
  · simp only
    split
    · exact fun h => ⟨h, rfl, rfl, rfl, rfl⟩
    · exact of_closed (ggpo_retireGgpoSession _)
  · exact .refl

lemma tickFrame (a : App) (mainMenu : Bool) (now : ℕ) :
    KeepsWatch a (a.tickFrame mainMenu now) := by
  refine (of_roomStep (.tryStartPendingMatch a mainMenu)).trans (.trans ?_ (closeDeferred _ now))
  unfold App.checkSyncTimeout
  split
  · exact of_closed (ggpo_abortGgpoMatch _)
  · exact .refl

lemma shutdownNetplay (a : App) : KeepsWatch a a.shutdownNetplay :=
  of_closed (ggpo_retireGgpoSession a.process)

lemma handleControlPlaneLoss (a : App) (engine : App.Engine) :
    KeepsWatch a (a.handleControlPlaneLoss engine) := by
  unfold App.handleControlPlaneLoss
  split
  · exact .refl
  · split
    · unfold App.handleNetplayFailure
      split
      · exact of_closed (ggpo_retireGgpoSession _)
      · exact shutdownNetplay a
    · exact fun h => ⟨h, rfl, rfl, rfl, rfl⟩

lemma statusChanged (a : App) (oldState newState : App.ConnectionState) (engine : App.Engine) :
    KeepsWatch a (a.onSteamNetConnectionStatusChanged oldState newState engine) := by
  have hclient : ∀ netplay : Option Client, KeepsWatch a { a with netplay := netplay } :=
    fun _ h => ⟨h, rfl, rfl, rfl, rfl⟩
  unfold App.onSteamNetConnectionStatusChanged
  split
  · exact .refl
  · simp only
    split
    · split
      · exact (hclient _).trans (handleControlPlaneLoss _ engine)
      · exact hclient _
    · split
      · exact hclient _
      · exact .refl

lemma closeBattle (a : App) (now later : ℕ) : KeepsWatch a (a.closeBattle now later) := by
  have hpause : a.process.simGate.onBattleClosing.manualPause = a.process.simGate.manualPause := by
    unfold GgpoGateModel.onBattleClosing
    split <;> rfl
  have hsession : KeepsWatch a (a.closeSession now later) := by
    unfold App.closeSession
    split
    · simp only
      split
      · exact fun h => ⟨h, rfl, hpause, rfl, rfl⟩
      · exact of_closed (ggpo_retireGgpoSession _)
    · exact .refl
  have hclosed : KeepsWatch a { a.closeSession now later with battle := false } :=
    hsession.trans fun h => ⟨h, rfl, rfl, rfl, rfl⟩
  unfold App.closeBattle App.finalizeControlPlaneLossAfterBattle
  split
  · exact hclosed.trans (shutdownNetplay _)
  · exact hclosed

end KeepsWatch

/-! ## The invariant of the watch -/

/-- What holds of an open session and its watch; the last part needs GGPO to be orderly. -/
structure Watched (orderly : Prop) (a : App) : Prop where
  /-- The player's pause alone makes `bUpdateAllowed` false. -/
  pause : a.process.bUpdateAllowed = !a.process.simGate.manualPause
  /-- The phase of a watched session that has not been running says so. -/
  waits : ∀ s, a.session.watchedSince = some s → a.session.ran = false →
    a.watch.syncPhase ≠ .running
  /-- A watched session is watched as one over the UDP relay. -/
  relay : ∀ s, a.session.watchedSince = some s → a.watch.effectiveMode = 1 ∧
    a.watch.legacyTunnelActive = false ∧ a.watch.udpGgpoFallbackTried = false ∧
    a.watch.battleStartTick = getTickCount s
  /-- The phase of a session that has been running is the last one. -/
  runs : orderly → a.session.ran = true → a.watch.syncPhase = .running

/-- The invariant: an open session is watched rightly. -/
def App.WatchInv (orderly : Prop) (a : App) : Prop :=
  a.process.ggpo.isSome = true → Watched orderly a

namespace OrderlyEvents

variable {ran ran' : Bool} {codes codes' : List EventCode}

/-- What is in order after more events is in order. -/
lemma of_or (h : OrderlyEvents (ran || ran') codes) : OrderlyEvents ran codes := by
  induction codes generalizing ran with
  | nil => trivial
  | cons code codes ih =>
    obtain ⟨hcode, hcodes⟩ := h
    refine ⟨fun hran => hcode (by simp [hran]), ih ?_⟩
    rwa [Bool.or_right_comm] at hcodes

/-- Fewer events are in order too. -/
lemma sublist (h : OrderlyEvents ran codes) (hsub : codes'.Sublist codes) :
    OrderlyEvents ran codes' := by
  induction hsub generalizing ran with
  | slnil => trivial
  | cons code _ ih => exact ih h.2.of_or
  | cons_cons code _ ih => exact ⟨h.1, ih h.2⟩

end OrderlyEvents

lemma App.ran_recordEvent (s : SessionRecord) (code : EventCode) :
    (App.recordEvent s code).ran = (s.ran || startsRunning code) := by
  cases code <;> simp [App.recordEvent, startsRunning]

lemma CallbackStep.session {a b : App} (h : CallbackStep a b) : b.session = a.session := by
  cases h <;> rfl

namespace App.WatchInv

variable {a b : App} {orderly : Prop}

lemma of_closed (h : a.process.ggpo = none) : a.WatchInv orderly := by
  intro ha
  simp [h] at ha

lemma of_keeps (h : a.WatchInv orderly) (hkeeps : KeepsWatch a b) : b.WatchInv orderly := by
  intro hb
  obtain ⟨ha, hallowed, hpause, hwatch, hsession⟩ := hkeeps hb
  obtain ⟨hpaused, hwaits, hrelay, hruns⟩ := h ha
  refine ⟨?_, ?_, ?_, ?_⟩
  · rw [hallowed, hpause]
    exact hpaused
  · rw [hsession, hwatch]
    exact hwaits
  · rw [hsession, hwatch]
    exact hrelay
  · rw [hsession, hwatch]
    exact hruns

/-- An event of GGPO keeps the watch over a session right. -/
lemma event (h : a.WatchInv orderly) (code : EventCode)
    (horder : orderly → a.session.ran = true → synchronises code = false) :
    (a.ggpo_on_event_callback code).WatchInv orderly := by
  have hgate : (a.process.ggpo_on_event_callback code).simGate.manualPause =
      a.process.simGate.manualPause := by
    cases code <;> simp only [Process.ggpo_on_event_callback, GgpoGateModel.onRunning,
      GgpoGateModel.onConnectionInterrupted, GgpoGateModel.onConnectionResumed]
    all_goals split <;> rfl
  have hsame : (a.ggpo_on_event_callback code).process.ggpo = a.process.ggpo ∧
      (a.ggpo_on_event_callback code).process.bUpdateAllowed = a.process.bUpdateAllowed := by
    cases code <;> exact ⟨rfl, rfl⟩
  intro hopen
  obtain ⟨hpause, hwaits, hrelay, hruns⟩ := h (hsame.1 ▸ hopen)
  refine ⟨hsame.2.trans (hpause.trans (congrArg not hgate.symm)), fun s hs hran => ?_,
    fun s hs => ?_, fun ho hran => ?_⟩
  · cases code with
    | running => cases hran
    | connectedToPeer => simp [App.ggpo_on_event_callback, App.notifyGgpoSyncPhase]
    | synchronizingWithPeer => simp [App.ggpo_on_event_callback, App.notifyGgpoSyncPhase]
    | _ => exact hwaits s hs hran
  · cases code <;> exact hrelay s hs
  · cases code with
    | running => rfl
    | connectedToPeer => cases horder ho hran
    | synchronizingWithPeer => cases horder ho hran
    | _ => exact hruns ho hran

lemma of_callbackStep (h : a.WatchInv orderly) (hstep : CallbackStep a b) :
    b.WatchInv orderly := by
  cases hstep with
  | abort => exact of_closed (ggpo_abortGgpoMatch a)
  | note _ => exact h.of_keeps fun h => ⟨h, rfl, rfl, rfl, rfl⟩
  | frameAccepted => exact h.of_keeps fun h => ⟨h, rfl, rfl, rfl, rfl⟩
  | predictionThreshold => exact h.of_keeps fun h => ⟨h, rfl, rfl, rfl, rfl⟩

/-- Callbacks keep the watch right, by the order of their events. -/
lemma of_callbacks {codes : List EventCode} (hcallbacks : Callbacks codes a b)
    (h : a.WatchInv orderly) (horder : orderly → OrderlyEvents a.session.ran codes) :
    b.WatchInv orderly := by
  induction hcallbacks with
  | nil => exact h
  | silent hstep _ ih =>
    have hsession := hstep.session
    exact ih (h.of_callbackStep hstep) (hsession ▸ horder)
  | event code _ ih =>
    refine ih (h.event code fun ho => (horder ho).1) fun ho => ?_
    simp only [App.ggpo_on_event_callback, App.ran_recordEvent]
    exact (horder ho).2

lemma of_delivers {codes : List EventCode} (h : a.WatchInv orderly)
    (hdelivers : Delivers codes a b) (horder : orderly → OrderlyEvents a.session.ran codes) :
    b.WatchInv orderly := by
  obtain ⟨some, hsome, hcallbacks⟩ := hdelivers
  exact of_callbacks hcallbacks h fun ho => (horder ho).sublist hsome

end App.WatchInv

/-! ### The start of a session -/

/-- Adding players leaves the watch, the session and the flags of the gate, if the session
survives it. -/
lemma KeepsWatch.addPlayers (players : List (ℤ × Bool)) (a : App) :
    KeepsWatch a (App.addPlayers players a) := by
  induction players generalizing a with
  | nil => exact .refl
  | cons player players ih =>
    have hlocal : ∀ localPlayer : Bool,
        KeepsWatch a { a with process := { a.process with localPlayer := localPlayer } } :=
      fun _ h => ⟨h, rfl, rfl, rfl, rfl⟩
    unfold App.addPlayers
    split
    · exact .of_closed (ggpo_abortGgpoMatch a)
    · exact (hlocal _).trans (ih _)

namespace App.WatchInv

variable {a b : App} {orderly : Prop}

/-- A new session is watched from its start on. -/
lemma startGGPO (result : ℤ) (players : List (ℤ × Bool)) (now : ℕ) {udp : Bool}
    (hudp : udp = true → a.watch.effectiveMode = 1 ∧ a.watch.legacyTunnelActive = false) :
    ((a.startGGPO result players).resetGgpoBattleWatch now udp).WatchInv orderly := by
  intro hopen
  by_cases hresult : result = 0
  · have hadded : a.startGGPO result players =
        App.addPlayers players a.prepareSession.newSession := by
      simp [App.startGGPO, hresult]
    rw [hadded] at hopen ⊢
    obtain ⟨-, hallowed, hpause, hwatch, hsession⟩ :=
      KeepsWatch.addPlayers players a.prepareSession.newSession hopen
    generalize App.addPlayers players a.prepareSession.newSession = b
      at hallowed hpause hwatch hsession ⊢
    refine ⟨?_, fun s _ _ => ?_, fun s hs => ?_, fun _ hran => ?_⟩
    · show b.process.bUpdateAllowed = !b.process.simGate.manualPause
      rw [hallowed, hpause]
      rfl
    · simp [App.resetGgpoBattleWatch]
    · simp only [App.resetGgpoBattleWatch, Option.ite_none_right_eq_some,
        Option.some.injEq] at hs
      obtain ⟨hrelayed, rfl⟩ := hs
      obtain ⟨hmode, hlegacy⟩ := hudp hrelayed
      have hsame : a.prepareSession.newSession.watch = a.watch := rfl
      refine ⟨?_, ?_, rfl, rfl⟩
      · show b.watch.effectiveMode = 1
        rw [hwatch, hsame, hmode]
      · show b.watch.legacyTunnelActive = false
        rw [hwatch, hsame, hlegacy]
    · have hfresh : b.session = {} := hsession
      simp [App.resetGgpoBattleWatch, hfresh] at hran
  · have hclosed : (a.startGGPO result players).process.ggpo = none := by
      simp only [App.startGGPO, if_pos hresult]
      exact ggpo_abortGgpoMatch _
    simp [App.resetGgpoBattleWatch, hclosed] at hopen

lemma startTransport (h : a.WatchInv orderly) (m : App.MatchStart) (legacy : Bool) {udp : Bool}
    (hudp : udp = true → a.watch.effectiveMode = 1 ∧ a.watch.legacyTunnelActive = false) :
    (a.startTransport m legacy udp).WatchInv orderly := by
  have hrelay : KeepsWatch a (if legacy then { a with relayActive := m.relayStarts } else a) ∧
      (if legacy then { a with relayActive := m.relayStarts } else a).watch = a.watch := by
    split
    · exact ⟨fun h => ⟨h, rfl, rfl, rfl, rfl⟩, rfl⟩
    · exact ⟨.refl, rfl⟩
  unfold App.startTransport
  generalize (if legacy then { a with relayActive := m.relayStarts } else a) = b at hrelay ⊢
  obtain ⟨hkeeps, hwatch⟩ := hrelay
  simp only
  split
  · exact h.of_keeps hkeeps
  · split
    · exact of_closed (ggpo_abortGgpoMatch b)
    · exact startGGPO m.result m.players m.now (by rwa [hwatch])

lemma startPlayer (h : a.WatchInv orderly) (c : Client) (m : App.MatchStart) :
    (a.startPlayer c m).WatchInv orderly := by
  have hreleased : a.releasePrevious.process.ggpo = none := by
    unfold App.releasePrevious
    split
    · exact ggpo_retireGgpoSession _
    · rename_i hnone
      simpa using hnone
  unfold App.startPlayer
  generalize a.releasePrevious = b at hreleased
  split
  · rename_i prepared effective _
    simp only
    split
    · exact of_closed (ggpo_abortGgpoMatch _)
    · have hreported : ∀ mode legacy, (b.reportGgpoTransport mode legacy).WatchInv orderly :=
        fun mode legacy => of_closed hreleased
      refine (hreported _ _).startTransport m _ fun hrelay => ?_
      -- the UDP relay has the mode 1 and does not use the tunnel
      obtain rfl : effective = .udpRelay := by simpa using hrelay
      exact ⟨rfl, rfl⟩
  · exact of_closed (ggpo_abortGgpoMatch _)
  · exact h.startTransport m _ (by simp)

lemma registerTasks (h : a.WatchInv orderly) (role : App.Role) :
    (a.registerTasks role).WatchInv orderly := by
  have hset : App.WatchInv orderly { a with battle := true } :=
    h.of_keeps fun h => ⟨h, rfl, rfl, rfl, rfl⟩
  have hregister : ∀ b : App, b.WatchInv orderly →
      (b.onVsBattleTasksRegistered role).WatchInv orderly := by
    intro b hb
    unfold App.onVsBattleTasksRegistered
    split
    · exact hb
    · split
      · exact hb
      · cases role with
        | player m => exact hb.startPlayer _ m
        | spectator result =>
          unfold App.startSpectating
          simp only
          split
          · exact of_closed (ggpo_retireGgpoSession _)
          · exact fun _ => ⟨rfl, by simp [App.newSession], by simp [App.newSession],
            by simp [App.newSession]⟩
  unfold App.registerTasks
  simp only
  split
  · exact (hregister _ hset).of_keeps fun h => ⟨h, rfl, rfl, rfl, rfl⟩
  · exact hset

/-- GGPO is called for an open session only. -/
lemma battleUpdate_of_closed (h : a.process.ggpo = none) (flowIdle : Bool)
    (addInput sync adv : Script) : a.battleUpdate flowIdle addInput sync adv = a := by
  simp [App.battleUpdate, h]

/-- **The step lemma.**  An open session stays watched rightly, whatever happens. -/
lemma next {e : Entry App Event Unit} (h : e.pre.WatchInv orderly)
    (hstep : e.pre.next e.act = some (e.out, e.post)) (horder : orderly → Orderly e) :
    e.post.WatchInv orderly := by
  obtain ⟨a, event, o, b⟩ := e
  simp only at h hstep ⊢
  cases event with
  | battleUpdate flowIdle addInput sync adv =>
    cases hstep
    by_cases hopen : a.process.ggpo.isSome = true
    · exact h.of_delivers (App.delivers_battleUpdate ..) fun ho => horder ho hopen
    · rw [battleUpdate_of_closed (by simpa using hopen)]
      exact h
  | idle script =>
    cases hstep
    by_cases hopen : a.process.ggpo.isSome = true
    · exact h.of_delivers (App.delivers_idle script) fun ho => horder ho hopen
    · rw [App.idle, if_neg hopen]
      exact h
  | tickFrame mainMenu now =>
    cases hstep
    exact h.of_keeps (.tickFrame a mainMenu now)
  | statusChanged oldState newState engine =>
    cases hstep
    exact h.of_keeps (.statusChanged a oldState newState engine)
  | clientStep received mainMenu =>
    cases hstep
    exact h.of_keeps (.of_roomStep (.clientStep a received mainMenu))
  | stepFailed engine =>
    cases hstep
    exact h.of_keeps (.handleControlPlaneLoss a engine)
  | registerTasks role =>
    simp only [App.next] at hstep
    split at hstep
    · cases hstep
    · cases hstep
      exact h.registerTasks role
  | closeBattle now later =>
    simp only [App.next] at hstep
    split at hstep
    · cases hstep
      exact h.of_keeps (.closeBattle a now later)
    · cases hstep
  | hasInitialized initialized blocked =>
    cases hstep
    exact h.of_keeps (.of_roomStep (.hasInitialized a initialized blocked))
  | exitForeground =>
    cases hstep
    refine h.of_keeps ?_
    unfold App.exitForeground App.resetLobbyForRematch
    simp only
    repeat' split
    all_goals exact fun h => ⟨h, rfl, rfl, rfl, rfl⟩
  | disconnect =>
    cases hstep
    -- the session is closed: there is nothing to watch
    exact of_closed (ggpo_retireGgpoSession a.process)
  | startSession conn useRelay =>
    cases hstep
    exact h.of_keeps fun h => ⟨h, rfl, rfl, rfl, rfl⟩
  | startServer listens =>
    cases hstep
    exact h.of_keeps fun h => ⟨h, rfl, rfl, rfl, rfl⟩
  | setPaused paused =>
    cases hstep
    intro hopen
    obtain ⟨-, hwaits, hrelay, hruns⟩ := h hopen
    exact ⟨rfl, hwaits, hrelay, hruns⟩

end App.WatchInv

/-- In every run the open sessions are watched rightly. -/
lemma watchInv_of_run {log : AppLog} {a : App} {orderly : Prop} (hrun : appLTS.Run log a)
    (horder : orderly → ∀ e ∈ log, Orderly e) : a.WatchInv orderly := by
  have hok : ∀ e ∈ log, (fun e => orderly → Orderly e) e := fun e he ho => horder ho e he
  refine hrun.invariant (fun _ a => a.WatchInv orderly) (fun a ha => ?_)
    (fun log e h hstep horder => h.next hstep horder) hok
  obtain rfl : a = {} := ha
  exact .of_closed rfl

/-! ## The tick -/

/-- The clock of 32 bits measures a wait up to a multiple of its range. -/
lemma lt_getTickCount_sub {s now : ℕ} (h : s ≤ now) :
    20000 < getTickCount now - getTickCount s ↔ 20000 < (now - s) % 2 ^ 32 := by
  have hsub : getTickCount now - getTickCount s = getTickCount (now - s) := by
    rw [← UInt32.toNat_inj, UInt32.toNat_sub]
    simp only [getTickCount, UInt32.toNat_ofNat']
    omega
  rw [hsub, UInt32.lt_iff_toNat_lt]
  simp only [getTickCount, UInt32.toNat_ofNat']
  rfl

lemma getTickCount_eq_zero {s : ℕ} : getTickCount s = 0 ↔ s % 2 ^ 32 = 0 := by
  rw [← UInt32.toNat_inj]
  simp [getTickCount]

/-- The guard of the timeout, for a session that is overdue. -/
lemma syncTimedOut_iff {a : App} {orderly : Prop} {s now : ℕ} (h : a.WatchInv orderly)
    (hover : Overdue a s now) : a.syncTimedOut now = true ↔ TimeoutSees a s now := by
  obtain ⟨hpause, hwaits, hrelay, -⟩ := h hover.session
  obtain ⟨hmode, hlegacy, htried, hstart⟩ := hrelay s hover.watched
  have hphase := hwaits s hover.watched hover.waits
  have hle : s ≤ now := by
    have hlate := hover.late
    omega
  simp only [App.syncTimedOut, hover.session, hpause, htried, hmode, hlegacy, hphase, hstart,
    Bool.not_not, Bool.not_false, Bool.true_and, Bool.and_true, beq_self_eq_true, ne_eq,
    not_false_eq_true, decide_true, getTickCount_eq_zero, lt_getTickCount_sub hle,
    Bool.and_eq_true, decide_eq_true_eq, TimeoutSees, and_assoc]

/-- The deferred close closes an open session when it is due. -/
lemma closeDeferred_closes_iff {a : App} (hopen : a.process.ggpo.isSome = true) (now : ℕ) :
    (a.closeDeferred now).process.ggpo = none ↔ CloseIsDue a now := by
  unfold App.closeDeferred CloseIsDue
  split
  · rename_i hpending
    simp only [Bool.and_eq_true] at hpending
    simp only
    split
    · rename_i hdefers
      simp [hdefers, Option.isSome_iff_ne_none.1 hopen]
    · rename_i hdefers
      refine iff_of_true (ggpo_retireGgpoSession _) ⟨hpending.1, by simpa using hdefers⟩
  · rename_i hpending
    simp only [hopen, Bool.and_true, Bool.not_eq_true] at hpending
    simp [hpending, Option.isSome_iff_ne_none.1 hopen]

/-- The start of a pending match is of no concern to the timeout and the deferred close. -/
lemma tickFrame_eq (a : App) (mainMenu : Bool) (now : ℕ) :
    ∃ b, RoomStep a b ∧ a.tickFrame mainMenu now = (b.checkSyncTimeout now).closeDeferred now ∧
      b.syncTimedOut now = a.syncTimedOut now ∧ (CloseIsDue b now ↔ CloseIsDue a now) := by
  have hroom := RoomStep.tryStartPendingMatch a mainMenu
  refine ⟨a.tryStartPendingMatch mainMenu, hroom, rfl, ?_⟩
  generalize a.tryStartPendingMatch mainMenu = b at hroom
  cases hroom
  exact ⟨rfl, Iff.rfl⟩

/-- A tick closes a session that is overdue exactly if the timeout sees it or its deferred close
is due. -/
lemma tickFrame_closes_iff {a : App} {orderly : Prop} {s now : ℕ} (h : a.WatchInv orderly)
    (hover : Overdue a s now) (mainMenu : Bool) :
    (a.tickFrame mainMenu now).process.ggpo = none ↔ TimeoutSees a s now ∨ CloseIsDue a now := by
  have hsees := syncTimedOut_iff h hover
  obtain ⟨b, hroom, htick, htimeout, hdue⟩ := tickFrame_eq a mainMenu now
  rw [htick, ← hdue, ← hsees, ← htimeout]
  unfold App.checkSyncTimeout
  split
  · rename_i hfires
    refine iff_of_true ?_ (.inl hfires)
    have hclosed : (App.abortGgpoMatch
        { b with watch := { b.watch with udpGgpoFallbackTried := true } }).process.ggpo = none :=
      ggpo_abortGgpoMatch _
    simp [App.closeDeferred, hclosed]
  · rename_i hfires
    have hopen : b.process.ggpo.isSome = true := hroom.process ▸ hover.session
    rw [closeDeferred_closes_iff hopen]
    simp [hfires]

/-- The tick aborts no session that has been running. -/
lemma tickFrame_spares {a : App} (h : a.WatchInv True) (hopen : a.process.ggpo.isSome = true)
    (hran : a.session.ran = true) (mainMenu : Bool) (now : ℕ) :
    (a.tickFrame mainMenu now).aborts = a.aborts := by
  obtain ⟨b, hroom, htick, htimeout, -⟩ := tickFrame_eq a mainMenu now
  have hphase := (h hopen).runs trivial hran
  have hquiet : b.syncTimedOut now = false := by
    rw [htimeout]
    simp [App.syncTimedOut, hphase]
  rw [htick, aborts_closeDeferred]
  simp [App.checkSyncTimeout, hquiet, hroom.aborts]

/-- **When a stuck synchronisation is aborted.**  In a run every tick closes the session that is
overdue exactly if, whenever one is overdue at a tick, the player has paused and the clock shows
the wait, or its deferred close is due; and when GGPO is orderly, no tick aborts a session that
has been running. -/
theorem overdue_closed_iff {log : AppLog} {a : App} (hrun : appLTS.Run log a) :
    ((∀ e ∈ log, ClosesOverdue e) ↔ ∀ e ∈ log, SeenWhenOverdue e) ∧
      ((∀ e ∈ log, Orderly e) → ∀ e ∈ log, SparesRunning e) := by
  have htick : ∀ e ∈ log, ∀ mainMenu now, e.act = .tickFrame mainMenu now →
      e.post = e.pre.tickFrame mainMenu now := by
    intro e he mainMenu now hact
    obtain ⟨newer, older, rfl⟩ := List.append_of_mem he
    have hstep : e.pre.next e.act = some (e.out, e.post) := hrun.at_entry.2.1
    rw [hact] at hstep
    simpa [App.next] using hstep.symm
  have hwatched : ∀ orderly : Prop, (orderly → ∀ e ∈ log, Orderly e) →
      ∀ e ∈ log, e.pre.WatchInv orderly := by
    intro orderly horder e he
    obtain ⟨newer, older, rfl⟩ := List.append_of_mem he
    exact watchInv_of_run hrun.at_entry.1 fun ho e' he' =>
      horder ho e' (List.mem_append_right _ (List.mem_cons_of_mem _ he'))
  refine ⟨?_, ?_⟩
  · -- the two properties agree on each entry
    refine forall₂_congr fun e he => ?_
    have hinv := hwatched False (fun ho => ho.elim) e he
    refine forall₄_congr fun mainMenu now s hact => ?_
    refine forall_congr' fun hover => ?_
    rw [htick e he mainMenu now hact]
    exact tickFrame_closes_iff hinv hover mainMenu
  · intro horder e he mainMenu now hact hopen hran
    have hinv := hwatched True (fun _ => horder) e he
    rw [htick e he mainMenu now hact]
    exact tickFrame_spares hinv hopen hran mainMenu now

/-- A paused player's session is aborted after 21 seconds; the next one is running and stays. -/
theorem overdue_closed_iff_paused : ∃ (log : AppLog) (a : App), appLTS.Run log a ∧
    a.aborts = 1 ∧ a.process.ggpo = some 1 ∧
    ((∀ e ∈ log, ClosesOverdue e) ↔ ∀ e ∈ log, SeenWhenOverdue e) ∧
    ∀ e ∈ log, SparesRunning e := by
  obtain ⟨log, a, hrun, haborts, hggpo, horder⟩ := exists_appRun_of_exec
    [.startSession true false, .statusChanged .connecting .connected ⟨true, 0⟩,
      .clientStep (some [.dataUpdate 2, .allReady]) true,
      .registerTasks (.player ⟨.vps true .udpRelay, true, true, 0, [(0, true), (0, false)], 1000⟩),
      .setPaused true, .tickFrame false 22000, .closeBattle 23000 23000, .setPaused false,
      .clientStep (some [.allReady]) true,
      .registerTasks (.player ⟨.vps true .udpRelay, true, true, 0, [(0, true), (0, false)], 30000⟩),
      .idle (.event .connectedToPeer (.event .running (.done 0))), .setPaused true,
      .tickFrame false 60000]
    (p := fun log a => a.aborts = 1 ∧ a.process.ggpo = some 1 ∧ ∀ e ∈ log, Orderly e)
    (by decide +kernel)
  obtain ⟨hiff, hspares⟩ := overdue_closed_iff hrun
  exact ⟨log, a, hrun, haborts, hggpo, hiff, hspares horder⟩

/-- Without a pause the session is still open after 21 seconds. -/
theorem not_closesOverdue_unpaused : ¬ ∀ (log : AppLog) (a : App), appLTS.Run log a →
    (∀ e ∈ log, ClosesOverdue e) ∧ ((∀ e ∈ log, Orderly e) → ∀ e ∈ log, SparesRunning e) := by
  intro h
  obtain ⟨log, a, hrun, hover, hopen⟩ := exists_appRun_of_exec
    [.startSession true false, .statusChanged .connecting .connected ⟨true, 0⟩,
      .clientStep (some [.dataUpdate 2, .allReady]) true,
      .registerTasks (.player ⟨.vps true .udpRelay, true, true, 0, [(0, true), (0, false)], 1000⟩)]
    (p := fun _ a => Overdue a 1000 22000 ∧ (a.tickFrame false 22000).process.ggpo = some 0)
    (by decide +kernel)
  have hstep : appLTS.Steps ⟨a, .tickFrame false 22000, (), a.tickFrame false 22000⟩ := rfl
  have hcloses := (h _ _ (LTS.Run.snoc hrun hstep)).1 _ List.mem_cons_self
  have hclosed : (a.tickFrame false 22000).process.ggpo = none := hcloses _ _ _ rfl hover
  simp [hopen] at hclosed

end UserApp
end Sf4e
