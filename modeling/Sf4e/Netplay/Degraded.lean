/-
# A fight that goes on without its room

When the room is lost during a healthy fight that does not go through it, only
`s_controlPlaneLost` is set.  A step that aborts no match leaves such a fight as it is
(`Degraded`, `Continues`), and the close of its battle tears everything down that is left
(`TornDown`).
-/
import Sf4e.Netplay.Callbacks

namespace Sf4e
namespace UserApp

open Ggpo NetplayFacade Trace

/-! ## The fight -/

/-- The engine, when an event reports that the room is lost during a match. -/
def Event.lossReport (a : App) : Event → Option App.Engine
  | .statusChanged oldState newState engine =>
    if a.netplay.isSome ∧ oldState = .connected ∧ newState.IsLoss then some engine else none
  | .stepFailed engine => some engine
  | _ => none

/-- The room is lost during a healthy fight of session `n` that does not go through it. -/
def RoomLostIn (n : ℕ) (e : Entry App Event Unit) : Prop :=
  e.pre.process.ggpo = some n ∧ e.pre.relayActive = false ∧
    ∃ engine ∈ e.act.lossReport e.pre, e.pre.fightRunning engine = true

instance (n : ℕ) : DecidablePred (RoomLostIn n) := fun e =>
  inferInstanceAs (Decidable (e.pre.process.ggpo = some n ∧ e.pre.relayActive = false ∧
    ∃ engine ∈ e.act.lossReport e.pre, e.pre.fightRunning engine = true))

/-- The battle is closed, or the player disconnects. -/
def Event.Leaves : Event → Prop
  | .closeBattle _ _ => True
  | .disconnect => True
  | _ => False

instance : DecidablePred Event.Leaves
  | .closeBattle _ _ => inferInstanceAs (Decidable True)
  | .disconnect => inferInstanceAs (Decidable True)
  | .battleUpdate _ _ _ _ => inferInstanceAs (Decidable False)
  | .idle _ => inferInstanceAs (Decidable False)
  | .tickFrame _ _ => inferInstanceAs (Decidable False)
  | .statusChanged _ _ _ => inferInstanceAs (Decidable False)
  | .clientStep _ _ => inferInstanceAs (Decidable False)
  | .stepFailed _ => inferInstanceAs (Decidable False)
  | .registerTasks _ => inferInstanceAs (Decidable False)
  | .hasInitialized _ _ => inferInstanceAs (Decidable False)
  | .exitForeground => inferInstanceAs (Decidable False)
  | .startSession _ _ => inferInstanceAs (Decidable False)
  | .startServer _ => inferInstanceAs (Decidable False)
  | .setPaused _ => inferInstanceAs (Decidable False)

/-- GGPO or the tick may abort the match in this event. -/
def Event.MayAbort : Event → Prop
  | .battleUpdate _ _ _ _ => True
  | .idle _ => True
  | .tickFrame _ _ => True
  | _ => False

/-- The fight ends: its battle is closed, the player disconnects, or the match is aborted by
GGPO or by the tick. -/
def EndsFight (e : Entry App Event Unit) : Prop :=
  e.act.Leaves ∨ e.act.MayAbort ∧ e.post.aborts ≠ e.pre.aborts

/-- The overlay pauses or resumes. -/
def Event.Pauses : Event → Prop
  | .setPaused _ => True
  | _ => False

/-- The player starts another client or another server. -/
def Event.Replaces : Event → Prop
  | .startSession _ _ => True
  | .startServer _ => True
  | _ => False

/-- The fight of session `n` goes on without the room. -/
structure Degraded (n : ℕ) (a : App) : Prop where
  session : a.process.ggpo = some n
  running : a.process.simGate.phase = .running
  healthy : a.process.simGate.fatalError = false
  lost : a.process.controlPlaneLost = true

/-- A step leaves the fight of session `n` as it is. -/
structure FightGoesOn (n : ℕ) (e : Entry App Event Unit) : Prop where
  degraded : Degraded n e.post
  /-- Frames are forbidden by the player's pause at most. -/
  frames : ¬ e.act.Pauses → e.post.process.mayAdvanceDeterministicFrame =
    e.pre.process.mayAdvanceDeterministicFrame
  /-- The client and the server stay. -/
  objects : ¬ e.act.Replaces → e.post.tornDown = e.pre.tornDown

/-- When the battle is closed, what is left goes. -/
structure TornDown (n : ℕ) (a b : App) : Prop where
  session : b.process.ggpo = none
  closed : b.process.trace.count (.close n) = 1
  client : b.netplay = none
  server : b.server = false
  objects : b.tornDown = (if a.server then [.server] else []) ++
    (if a.netplay.isSome then [.client] else []) ++ a.tornDown
  lost : b.process.controlPlaneLost = false
  frame : b.verificationLostAtFrame = -1

/-! ## Steps that abort no match -/

/-- From `a` to `b` the session goes on. -/
structure Continues (a b : App) : Prop where
  ggpo : b.process.ggpo = a.process.ggpo
  running : a.process.simGate.phase = .running → b.process.simGate.phase = .running
  fatal : b.process.simGate.fatalError = a.process.simGate.fatalError
  pause : b.process.simGate.manualPause = a.process.simGate.manualPause
  allowed : b.process.bUpdateAllowed = a.process.bUpdateAllowed
  lost : b.process.controlPlaneLost = a.process.controlPlaneLost
  tornDown : b.tornDown = a.tornDown

namespace Continues

variable {a b c : App} {n : ℕ}

lemma refl : Continues a a := ⟨rfl, id, rfl, rfl, rfl, rfl, rfl⟩

lemma trans (h : Continues a b) (h' : Continues b c) : Continues a c where
  ggpo := h'.ggpo.trans h.ggpo
  running := h'.running ∘ h.running
  fatal := h'.fatal.trans h.fatal
  pause := h'.pause.trans h.pause
  allowed := h'.allowed.trans h.allowed
  lost := h'.lost.trans h.lost
  tornDown := h'.tornDown.trans h.tornDown

lemma of_roomStep (h : RoomStep a b) : Continues a b := by
  cases h
  exact ⟨rfl, id, rfl, rfl, rfl, rfl, rfl⟩

lemma of_callbackStep (h : CallbackStep a b) :
    a.aborts ≤ b.aborts ∧ (b.aborts = a.aborts → Continues a b) := by
  cases h with
  | abort => exact ⟨Nat.le_succ _, fun heq => absurd heq (Nat.succ_ne_self _)⟩
  | note _ => exact ⟨le_rfl, fun _ => ⟨rfl, id, rfl, rfl, rfl, rfl, rfl⟩⟩
  | frameAccepted => exact ⟨le_rfl, fun _ => ⟨rfl, id, rfl, rfl, rfl, rfl, rfl⟩⟩
  | predictionThreshold => exact ⟨le_rfl, fun _ => ⟨rfl, id, rfl, rfl, rfl, rfl, rfl⟩⟩

lemma event (a : App) (code : EventCode) : Continues a (a.ggpo_on_event_callback code) := by
  have hrunning : ∀ g : GgpoGateModel, g.phase = .running → g.onRunning = g := by
    intro g hg
    simp [GgpoGateModel.onRunning, hg]
  have hresumed : ∀ g : GgpoGateModel, g.onConnectionResumed.2.phase = g.phase ∧
      g.onConnectionResumed.2.fatalError = g.fatalError ∧
      g.onConnectionResumed.2.manualPause = g.manualPause := by
    intro g
    unfold GgpoGateModel.onConnectionResumed
    split <;> exact ⟨rfl, rfl, rfl⟩
  cases code with
  | running =>
    refine ⟨rfl, fun h => ?_, ?_, ?_, rfl, rfl, rfl⟩
    · simp [App.ggpo_on_event_callback, Process.ggpo_on_event_callback, hrunning _ h, h]
    · simp only [App.ggpo_on_event_callback, Process.ggpo_on_event_callback,
        GgpoGateModel.onRunning]
      split <;> rfl
    · simp only [App.ggpo_on_event_callback, Process.ggpo_on_event_callback,
        GgpoGateModel.onRunning]
      split <;> rfl
  | connectionInterrupted now =>
    have hsame : ∀ g : GgpoGateModel, (g.onConnectionInterrupted now).2.phase = g.phase ∧
        (g.onConnectionInterrupted now).2.fatalError = g.fatalError ∧
        (g.onConnectionInterrupted now).2.manualPause = g.manualPause := by
      intro g
      unfold GgpoGateModel.onConnectionInterrupted
      split <;> exact ⟨rfl, rfl, rfl⟩
    obtain ⟨hphase, hfatal, hpause⟩ := hsame a.process.simGate
    exact ⟨rfl, fun h => hphase.trans h, hfatal, hpause, rfl, rfl, rfl⟩
  | connectionResumed =>
    obtain ⟨hphase, hfatal, hpause⟩ := hresumed a.process.simGate
    exact ⟨rfl, fun h => hphase.trans h, hfatal, hpause, rfl, rfl, rfl⟩
  | disconnectedFromPeer =>
    obtain ⟨hphase, hfatal, hpause⟩ := hresumed a.process.simGate
    exact ⟨rfl, fun h => hphase.trans h, hfatal, hpause, rfl, rfl, rfl⟩
  | _ => exact ⟨rfl, id, rfl, rfl, rfl, rfl, rfl⟩

/-- Callbacks abort a match or let it go on. -/
lemma of_callbacks {codes : List EventCode} (h : Callbacks codes a b) :
    a.aborts ≤ b.aborts ∧ (b.aborts = a.aborts → Continues a b) := by
  induction h with
  | nil => exact ⟨le_rfl, fun _ => .refl⟩
  | silent hstep _ ih =>
    obtain ⟨hle, hcontinues⟩ := ih
    obtain ⟨hle', hcontinues'⟩ := of_callbackStep hstep
    refine ⟨hle'.trans hle, fun heq => ?_⟩
    exact (hcontinues' (by omega)).trans (hcontinues (by omega))
  | event code _ ih => exact ⟨ih.1, fun heq => (event _ code).trans (ih.2 heq)⟩

lemma of_delivers {codes : List EventCode} (h : Delivers codes a b)
    (haborts : b.aborts = a.aborts) : Continues a b := by
  obtain ⟨_, -, hcallbacks⟩ := h
  exact (of_callbacks hcallbacks).2 haborts

lemma degraded (h : Continues a b) (ha : Degraded n a) : Degraded n b where
  session := h.ggpo.trans ha.session
  running := h.running ha.running
  healthy := h.fatal.trans ha.healthy
  lost := h.lost.trans ha.lost

/-- While the fight goes on, frames may advance unless the player pauses. -/
lemma mayAdvance (h : Continues a b) (ha : a.process.simGate.phase = .running) :
    b.process.mayAdvanceDeterministicFrame = a.process.mayAdvanceDeterministicFrame := by
  simp only [Process.mayAdvanceDeterministicFrame, GgpoGateModel.canAdvanceDeterministicFrame,
    h.ggpo, h.allowed, h.pause, h.fatal, ha, h.running ha]

end Continues

/-! ## The step lemma -/

/-- A connection that was up goes down during a match. -/
lemma App.statusChanged_loss {a : App} {c : Client} {newState : App.ConnectionState}
    {engine : App.Engine} (hc : a.netplay = some c) (hloss : newState.IsLoss)
    (hggpo : a.process.ggpo.isSome = true) :
    a.onSteamNetConnectionStatusChanged .connected newState engine =
      App.handleControlPlaneLoss
        { a with netplay := some { c with conn := false, connected := false } } engine := by
  simp [App.onSteamNetConnectionStatusChanged, hc, hloss, hggpo]

namespace Degraded

variable {a b : App} {n : ℕ}

/-- The tick closes no session of a battle that goes on. -/
lemma closeDeferred (hinv : a.Inv) (h : Degraded n a) (now : ℕ) : a.closeDeferred now = a := by
  unfold App.closeDeferred
  split
  · rename_i hpending
    simp only [Bool.and_eq_true] at hpending
    have hclosing := SessionInv.pending hinv n h.session hpending.1
    rw [h.running] at hclosing
    cases hclosing
  · rfl

lemma tickFrame (hinv : a.Inv) (h : Degraded n a) (mainMenu : Bool) (now : ℕ)
    (haborts : (a.tickFrame mainMenu now).aborts = a.aborts) :
    Continues a (a.tickFrame mainMenu now) := by
  have hstart := RoomStep.tryStartPendingMatch a mainMenu
  unfold App.tickFrame App.checkSyncTimeout at haborts ⊢
  generalize a.tryStartPendingMatch mainMenu = b at hstart haborts ⊢
  split at haborts
  · -- the timeout would abort the match
    rw [aborts_closeDeferred] at haborts
    have hmore : b.aborts + 1 = a.aborts := haborts
    have hkept := hstart.aborts
    omega
  · rename_i htimeout
    have hb := (Continues.of_roomStep hstart).degraded h
    rw [if_neg htimeout, closeDeferred (hinv.of_roomStep hstart) hb now]
    exact .of_roomStep hstart

/-- **The step lemma.**  A step that does not end the fight lets it go on. -/
lemma next {e : Entry App Event Unit} (hinv : e.pre.Inv) (h : Degraded n e.pre)
    (hstep : e.pre.next e.act = some (e.out, e.post)) (hends : ¬ EndsFight e) :
    FightGoesOn n e := by
  have hcontinues : Continues e.pre e.post → FightGoesOn n e := fun hc =>
    ⟨hc.degraded h, fun _ => hc.mayAdvance h.running, fun _ => hc.tornDown⟩
  obtain ⟨a, event, o, b⟩ := e
  simp only at hinv h hstep hcontinues
  have haborts : event.MayAbort → b.aborts = a.aborts := fun hmay =>
    not_not.1 fun hne => hends (.inr ⟨hmay, hne⟩)
  cases event with
  | battleUpdate flowIdle addInput sync adv =>
    cases hstep
    exact hcontinues (.of_delivers (App.delivers_battleUpdate ..) (haborts trivial))
  | idle script =>
    cases hstep
    exact hcontinues (.of_delivers (App.delivers_idle script) (haborts trivial))
  | tickFrame mainMenu now =>
    cases hstep
    exact hcontinues (h.tickFrame hinv mainMenu now (haborts trivial))
  | statusChanged oldState newState engine =>
    cases hstep
    exact hcontinues (.of_roomStep (.statusChanged h.lost oldState newState engine))
  | clientStep received mainMenu =>
    cases hstep
    exact hcontinues (.of_roomStep (.clientStep a received mainMenu))
  | stepFailed engine =>
    cases hstep
    refine hcontinues ?_
    rw [App.handleControlPlaneLoss_of_lost h.lost]
    exact .refl
  | registerTasks role =>
    -- the battle is not closed
    have hbattle := SessionInv.fought hinv n h.session (by simp [h.running])
    simp [App.next, hbattle] at hstep
  | closeBattle now later => exact absurd (.inl trivial) hends
  | hasInitialized initialized blocked =>
    cases hstep
    exact hcontinues (.of_roomStep (.hasInitialized a initialized blocked))
  | exitForeground =>
    cases hstep
    exact hcontinues (.of_roomStep (.exitForeground h.lost))
  | disconnect => exact absurd (.inl trivial) hends
  | startSession conn useRelay =>
    cases hstep
    exact ⟨⟨h.session, h.running, h.healthy, h.lost⟩, fun _ => rfl, fun hnot => absurd trivial hnot⟩
  | startServer listens =>
    cases hstep
    exact ⟨⟨h.session, h.running, h.healthy, h.lost⟩, fun _ => rfl, fun hnot => absurd trivial hnot⟩
  | setPaused paused =>
    cases hstep
    exact ⟨⟨h.session, h.running, h.healthy, h.lost⟩, fun hnot => absurd trivial hnot, fun _ => rfl⟩

/-- A healthy fight that does not go through the room survives it. -/
lemma degrades {engine : App.Engine} (hggpo : a.process.ggpo = some n)
    (hrelay : a.relayActive = false) (hfight : a.fightRunning engine = true) :
    Degraded n (a.handleControlPlaneLoss engine) ∧
      (a.handleControlPlaneLoss engine).process.mayAdvanceDeterministicFrame =
        a.process.mayAdvanceDeterministicFrame ∧
      (a.handleControlPlaneLoss engine).tornDown = a.tornDown := by
  obtain ⟨⟨hphase, hfatal⟩, -⟩ : (a.process.simGate.phase = .running ∧
      a.process.simGate.fatalError = false) ∧ engine.flowIdle = false := by
    simpa [App.fightRunning, hggpo] using hfight
  unfold App.handleControlPlaneLoss
  split
  · rename_i hlost
    exact ⟨⟨hggpo, hphase, hfatal, hlost⟩, rfl, rfl⟩
  · rw [hfight, hrelay]
    exact ⟨⟨hggpo, hphase, hfatal, rfl⟩, rfl, rfl⟩

/-- The loss itself lets the fight go on. -/
lemma of_roomLostIn {e : Entry App Event Unit} (hstep : e.pre.next e.act = some (e.out, e.post))
    (hloss : RoomLostIn n e) : FightGoesOn n e := by
  obtain ⟨a, event, o, b⟩ := e
  obtain ⟨hggpo, hrelay, engine, hreport, hfight⟩ := hloss
  simp only at hstep hggpo hrelay hreport hfight
  cases event with
  | statusChanged oldState newState engine' =>
    cases hstep
    simp only [Event.lossReport, Option.mem_def, Option.ite_none_right_eq_some,
      Option.some.injEq] at hreport
    obtain ⟨⟨hsome, rfl, hloss⟩, rfl⟩ := hreport
    obtain ⟨c, hc⟩ := Option.isSome_iff_exists.1 hsome
    rw [App.statusChanged_loss hc hloss (by simp [hggpo])]
    have hdegrades := degrades (a := { a with
      netplay := some { c with conn := false, connected := false } }) hggpo hrelay hfight
    exact ⟨hdegrades.1, fun _ => hdegrades.2.1, fun _ => hdegrades.2.2⟩
  | stepFailed engine' =>
    cases hstep
    obtain rfl : engine' = engine := by simpa [Event.lossReport] using hreport
    have hdegrades := degrades hggpo hrelay hfight
    exact ⟨hdegrades.1, fun _ => hdegrades.2.1, fun _ => hdegrades.2.2⟩
  | _ => simp [Event.lossReport] at hreport

end Degraded

/-! ## What the room survives -/

/-- From `a` to `b` nothing happens to the room; the session may change. -/
structure KeepsRoom (a b : App) : Prop where
  lost : b.process.controlPlaneLost = a.process.controlPlaneLost
  frame : b.verificationLostAtFrame = a.verificationLostAtFrame
  client : b.netplay.isSome = a.netplay.isSome
  server : b.server = a.server
  tornDown : b.tornDown = a.tornDown
  sessions : a.process.sessions ≤ b.process.sessions

namespace KeepsRoom

variable {a b c : App}

lemma refl : KeepsRoom a a := ⟨rfl, rfl, rfl, rfl, rfl, le_rfl⟩

lemma trans (h : KeepsRoom a b) (h' : KeepsRoom b c) : KeepsRoom a c where
  lost := h'.lost.trans h.lost
  frame := h'.frame.trans h.frame
  client := h'.client.trans h.client
  server := h'.server.trans h.server
  tornDown := h'.tornDown.trans h.tornDown
  sessions := h.sessions.trans h'.sessions

lemma of_roomStep (h : RoomStep a b) : KeepsRoom a b := by
  cases h with
  | mk _ _ _ _ _ hclient => exact ⟨rfl, rfl, hclient, rfl, rfl, le_rfl⟩

/-- A session that is closed, whatever else is done to it. -/
lemma retire (h : KeepsRoom a b) : KeepsRoom a b.retireGgpoSession := by
  refine h.trans ?_
  unfold App.retireGgpoSession Process.retireGgpoSession
  split
  · exact .refl
  · exact ⟨rfl, rfl, rfl, rfl, rfl, le_rfl⟩

lemma abort (h : KeepsRoom a b) : KeepsRoom a b.abortGgpoMatch := by
  have hfatal : KeepsRoom b { b with process :=
      { b.process with simGate := b.process.simGate.onFatal, bUpdateAllowed := false } } :=
    ⟨rfl, rfl, rfl, rfl, rfl, le_rfl⟩
  exact h.trans (hfatal.retire.trans ⟨rfl, rfl, rfl, rfl, rfl, le_rfl⟩)

lemma of_delivers {codes : List EventCode} (h : Delivers codes a b) : KeepsRoom a b := by
  obtain ⟨_, -, hcallbacks⟩ := h
  refine hcallbacks.preserves (p := KeepsRoom a) (fun b c hstep hb => ?_) (fun b code hb => ?_)
    .refl
  · cases hstep with
    | abort => exact hb.abort
    | note _ => exact hb.trans ⟨rfl, rfl, rfl, rfl, rfl, le_rfl⟩
    | frameAccepted => exact hb.trans ⟨rfl, rfl, rfl, rfl, rfl, le_rfl⟩
    | predictionThreshold => exact hb.trans ⟨rfl, rfl, rfl, rfl, rfl, le_rfl⟩
  · cases code <;> exact hb.trans ⟨rfl, rfl, rfl, rfl, rfl, le_rfl⟩

lemma closeDeferred (a : App) (now : ℕ) : KeepsRoom a (a.closeDeferred now) := by
  have hasked : ∀ defer : DeferState,
      KeepsRoom a { a with process := { a.process with defer := defer } } :=
    fun _ => ⟨rfl, rfl, rfl, rfl, rfl, le_rfl⟩
  unfold App.closeDeferred
  split
  · simp only
    split
    · exact hasked _
    · exact (hasked (a.process.defer.shouldDeferGgpoClose (getTickCount now)).2).retire.trans
        ⟨rfl, rfl, rfl, rfl, rfl, le_rfl⟩
  · exact .refl

lemma tickFrame (a : App) (mainMenu : Bool) (now : ℕ) :
    KeepsRoom a (a.tickFrame mainMenu now) := by
  have hstart := of_roomStep (.tryStartPendingMatch a mainMenu)
  refine trans ?_ (closeDeferred _ now)
  unfold App.checkSyncTimeout
  split
  · exact hstart.trans (abort ⟨rfl, rfl, rfl, rfl, rfl, le_rfl⟩)
  · exact hstart

lemma closeSession (a : App) (now later : ℕ) : KeepsRoom a (a.closeSession now later) := by
  have hclosing : ∀ defer : DeferState, KeepsRoom a { a with process :=
      { a.process with simGate := a.process.simGate.onBattleClosing, defer := defer } } :=
    fun _ => ⟨rfl, rfl, rfl, rfl, rfl, le_rfl⟩
  unfold App.closeSession
  split
  · simp only
    split
    · exact hclosing _
    · exact trans (retire (hclosing _)) ⟨rfl, rfl, rfl, rfl, rfl, le_rfl⟩
  · exact .refl

/-! ### The start of a match -/

lemma prepareSession (a : App) : KeepsRoom a a.prepareSession := by
  have hcancelled : KeepsRoom a { a with process := { a.process with defer := {} } } :=
    ⟨rfl, rfl, rfl, rfl, rfl, le_rfl⟩
  exact hcancelled.retire.trans ⟨rfl, rfl, rfl, rfl, rfl, le_rfl⟩

lemma addPlayers (players : List (ℤ × Bool)) (a : App) :
    KeepsRoom a (App.addPlayers players a) := by
  induction players generalizing a with
  | nil => exact .refl
  | cons player players ih =>
    have hlocal : ∀ localPlayer : Bool,
        KeepsRoom a { a with process := { a.process with localPlayer := localPlayer } } :=
      fun _ => ⟨rfl, rfl, rfl, rfl, rfl, le_rfl⟩
    unfold App.addPlayers
    split
    · exact abort .refl
    · exact (hlocal _).trans (ih _)

lemma startGGPO (a : App) (result : ℤ) (players : List (ℤ × Bool)) :
    KeepsRoom a (a.startGGPO result players) := by
  have hprepared := prepareSession a
  have hnew : KeepsRoom a.prepareSession a.prepareSession.newSession :=
    ⟨rfl, rfl, rfl, rfl, rfl, Nat.le_succ _⟩
  unfold App.startGGPO
  split
  · exact hprepared.abort
  · exact (hprepared.trans hnew).trans (addPlayers players _)

lemma startTransport (a : App) (m : App.MatchStart) (legacy udp : Bool) :
    KeepsRoom a (a.startTransport m legacy udp) := by
  have hrelay : KeepsRoom a (if legacy then { a with relayActive := m.relayStarts } else a) := by
    split
    · exact ⟨rfl, rfl, rfl, rfl, rfl, le_rfl⟩
    · exact .refl
  unfold App.startTransport
  generalize (if legacy then { a with relayActive := m.relayStarts } else a) = b at hrelay ⊢
  simp only
  split
  · exact hrelay
  · split
    · exact hrelay.abort
    · exact (hrelay.trans (startGGPO b m.result m.players)).trans
        ⟨rfl, rfl, rfl, rfl, rfl, le_rfl⟩

lemma releasePrevious (a : App) : KeepsRoom a a.releasePrevious := by
  have hcancelled : KeepsRoom a { a with process := { a.process with
      defer := a.process.defer.cancelDeferredGgpoClose } } := ⟨rfl, rfl, rfl, rfl, rfl, le_rfl⟩
  unfold App.releasePrevious
  split
  · exact hcancelled.retire.trans ⟨rfl, rfl, rfl, rfl, rfl, le_rfl⟩
  · exact .refl

lemma startPlayer (a : App) (c : Client) (m : App.MatchStart) :
    KeepsRoom a (a.startPlayer c m) := by
  have hreported : ∀ (b : App) (mode : UInt8) (legacy : Bool),
      KeepsRoom b (b.reportGgpoTransport mode legacy) :=
    fun _ _ _ => ⟨rfl, rfl, rfl, rfl, rfl, le_rfl⟩
  have hreleased := releasePrevious a
  unfold App.startPlayer
  generalize a.releasePrevious = b at hreleased
  split
  · simp only
    split
    · exact (hreleased.trans (hreported b _ _)).abort
    · exact (hreleased.trans (hreported b _ _)).trans (startTransport _ m _ _)
  · exact (hreported a _ _).abort
  · exact startTransport a m _ _

/-- A battle that is set up has no effect on the room. -/
lemma registerTasks (a : App) (role : App.Role) : KeepsRoom a (a.registerTasks role) := by
  have hset : KeepsRoom a { a with battle := true } := ⟨rfl, rfl, rfl, rfl, rfl, le_rfl⟩
  have hregister : ∀ b : App, KeepsRoom b (b.onVsBattleTasksRegistered role) := by
    intro b
    unfold App.onVsBattleTasksRegistered
    split
    · exact .refl
    · split
      · exact .refl
      · cases role with
        | player m => exact startPlayer b _ m
        | spectator result =>
          unfold App.startSpectating
          simp only
          split
          · exact prepareSession b
          · exact (prepareSession b).trans ⟨rfl, rfl, rfl, rfl, rfl, Nat.le_succ _⟩
  unfold App.registerTasks
  simp only
  split
  · exact (hset.trans (hregister _)).trans ⟨rfl, rfl, rfl, rfl, rfl, le_rfl⟩
  · exact hset

end KeepsRoom

/-- What an event does to the room. -/
inductive RoomChange (event : Event) (a : App) : App → Prop
  /-- Nothing. -/
  | keeps {b : App} : KeepsRoom a b → RoomChange event a b
  /-- The room is lost. -/
  | loses {c : App} (engine : App.Engine) :
      KeepsRoom a c → RoomChange event a (c.handleControlPlaneLoss engine)
  /-- The battle is closed. -/
  | closes {c : App} :
      event.Leaves → KeepsRoom a c → RoomChange event a c.finalizeControlPlaneLossAfterBattle
  /-- The player disconnects. -/
  | disconnects : event.Leaves → RoomChange event a a.disconnect
  /-- The player starts another client or server. -/
  | replaces (netplay : Option Client) (server : Bool) (tornDown : List Object) :
      RoomChange event a { a with netplay := netplay, server := server, tornDown := tornDown }

lemma roomChange_of_next {a b : App} {event : Event} {o : Unit}
    (hnext : a.next event = some (o, b)) : RoomChange event a b := by
  cases event with
  | battleUpdate flowIdle addInput sync adv =>
    cases hnext
    exact .keeps (.of_delivers (App.delivers_battleUpdate ..))
  | idle script =>
    cases hnext
    exact .keeps (.of_delivers (App.delivers_idle script))
  | tickFrame mainMenu now =>
    cases hnext
    exact .keeps (.tickFrame a mainMenu now)
  | statusChanged oldState newState engine =>
    cases hnext
    unfold App.onSteamNetConnectionStatusChanged
    split
    · exact .keeps .refl
    · rename_i c hc
      -- the client may change, the battle does not
      have hclient : ∀ c' : Client, KeepsRoom a { a with netplay := some c' } := fun c' =>
        ⟨rfl, rfl, by simp [hc], rfl, rfl, le_rfl⟩
      simp only
      split
      · split
        · exact .loses engine (hclient _)
        · exact .keeps (hclient _)
      · split
        · exact .keeps (hclient _)
        · exact .keeps .refl
  | clientStep received mainMenu =>
    cases hnext
    exact .keeps (.of_roomStep (.clientStep a received mainMenu))
  | stepFailed engine =>
    cases hnext
    exact .loses engine .refl
  | registerTasks role =>
    simp only [App.next] at hnext
    split at hnext
    · cases hnext
    · cases hnext
      exact .keeps (.registerTasks a role)
  | closeBattle now later =>
    simp only [App.next] at hnext
    split at hnext
    · cases hnext
      exact .closes trivial ((KeepsRoom.closeSession a now later).trans
        ⟨rfl, rfl, rfl, rfl, rfl, le_rfl⟩)
    · cases hnext
  | hasInitialized initialized blocked =>
    cases hnext
    exact .keeps (.of_roomStep (.hasInitialized a initialized blocked))
  | exitForeground =>
    cases hnext
    refine .keeps ?_
    unfold App.exitForeground App.resetLobbyForRematch
    simp only
    repeat' split
    all_goals exact ⟨rfl, rfl, rfl, rfl, rfl, le_rfl⟩
  | disconnect =>
    cases hnext
    exact .disconnects trivial
  | startSession conn useRelay =>
    cases hnext
    exact .replaces _ _ _
  | startServer listens =>
    cases hnext
    exact .replaces _ _ _
  | setPaused paused =>
    cases hnext
    exact .keeps ⟨rfl, rfl, rfl, rfl, rfl, le_rfl⟩

/-! ## The close of the battle -/

/-- The room is lost in the battle of session `n`. -/
structure RoomGone (n : ℕ) (a : App) : Prop where
  lost : a.process.controlPlaneLost = true
  made : n < a.process.sessions

namespace RoomGone

variable {a b : App} {n : ℕ}

lemma of_keepsRoom (h : RoomGone n a) (hroom : KeepsRoom a b) : RoomGone n b :=
  ⟨hroom.lost.trans h.lost, h.made.trans_le hroom.sessions⟩

/-- The room stays lost until the battle is closed or the player disconnects. -/
lemma next {event : Event} {o : Unit} (h : RoomGone n a) (hnext : a.next event = some (o, b))
    (hstays : ¬ event.Leaves) : RoomGone n b := by
  cases roomChange_of_next hnext with
  | keeps hroom => exact h.of_keepsRoom hroom
  | loses engine hroom =>
    have hgone := h.of_keepsRoom hroom
    rwa [App.handleControlPlaneLoss_of_lost hgone.lost]
  | closes hleaves _ => exact absurd hleaves hstays
  | disconnects hleaves => exact absurd hleaves hstays
  | replaces _ _ _ => exact ⟨h.lost, h.made⟩

/-- The close of the battle tears down what is left. -/
lemma tornDown (hinv : a.Inv) (h : RoomGone n a) (now later : ℕ) :
    TornDown n a (a.closeBattle now later) := by
  have hkeeps := KeepsRoom.closeSession a now later
  have hgone := h.of_keepsRoom hkeeps
  have hafter := hinv.closeBattle now later
  have hclose : a.closeBattle now later =
      App.shutdownNetplay { a.closeSession now later with battle := false } := by
    simp [App.closeBattle, App.finalizeControlPlaneLossAfterBattle, hgone.lost]
  rw [hclose] at hafter ⊢
  generalize a.closeSession now later = b at *
  have hggpo : (App.shutdownNetplay { b with battle := false }).process.ggpo = none :=
    ggpo_retireGgpoSession b.process
  have hmade : n < (App.shutdownNetplay { b with battle := false }).process.sessions :=
    (hgone.of_keepsRoom (KeepsRoom.refl.retire)).made
  refine ⟨hggpo, ?_, rfl, rfl, ?_, rfl, rfl⟩
  · rw [SessionInv.closed hafter n]
    simp [hggpo, hmade]
  · simp only [App.shutdownNetplay, hkeeps.server, hkeeps.client, hkeeps.tornDown]

end RoomGone

/-- No frame is kept while the room is not lost. -/
def App.FlagsAgree (a : App) : Prop :=
  a.process.controlPlaneLost = false → a.verificationLostAtFrame = -1

namespace App.FlagsAgree

variable {a b : App}

lemma of_keepsRoom (h : a.FlagsAgree) (hroom : KeepsRoom a b) : b.FlagsAgree := by
  intro hlost
  rw [hroom.frame]
  exact h (hroom.lost ▸ hlost)

lemma shutdownNetplay (a : App) : a.shutdownNetplay.FlagsAgree := fun _ => rfl

lemma handleControlPlaneLoss (h : a.FlagsAgree) (engine : App.Engine) :
    (a.handleControlPlaneLoss engine).FlagsAgree := by
  unfold App.handleControlPlaneLoss
  split
  · exact h
  · split
    · unfold App.handleNetplayFailure
      split <;> exact shutdownNetplay _
    · intro hlost
      cases hlost

lemma next {event : Event} {o : Unit} (h : a.FlagsAgree) (hnext : a.next event = some (o, b)) :
    b.FlagsAgree := by
  cases roomChange_of_next hnext with
  | keeps hroom => exact h.of_keepsRoom hroom
  | loses engine hroom => exact (h.of_keepsRoom hroom).handleControlPlaneLoss engine
  | closes _ hroom =>
    unfold App.finalizeControlPlaneLossAfterBattle
    split
    · exact shutdownNetplay _
    · exact h.of_keepsRoom hroom
  | disconnects _ => exact shutdownNetplay a
  | replaces _ _ _ => exact h

end App.FlagsAgree

lemma flagsAgree_of_run {log : AppLog} {a : App} (hrun : appLTS.Run log a) : a.FlagsAgree := by
  refine hrun.invariant_of_step (fun _ a => a.FlagsAgree) (fun a ha => ?_)
    fun log e h hstep => h.next (o := e.out) hstep
  obtain rfl : a = {} := ha
  exact fun _ => rfl

/-! ## Runs -/

/-- After the loss the fight goes on until it ends. -/
lemma fightGoesOn_of_since {older : AppLog} {e : Entry App Event Unit} {n : ℕ}
    (hrun : appLTS.Run older e.pre) (hstep : appLTS.Steps e)
    (hsince : Since (fun e => ¬ EndsFight e) (RoomLostIn n) (e :: older)) : FightGoesOn n e := by
  rcases hsince with hloss | ⟨hends, hsince⟩
  · exact Degraded.of_roomLostIn hstep hloss
  · have hdegraded : Degraded n e.pre := hrun.since
      (fun _ e _ hstep hloss => (Degraded.of_roomLostIn hstep hloss).degraded)
      (fun _ e hrun hstep hends h => (h.next (inv_of_run hrun) hstep hends).degraded) hsince
    exact hdegraded.next (inv_of_run hrun) hstep hends

/-- After the loss the room is lost until the battle is closed or the player disconnects. -/
lemma roomGone_of_since {log : AppLog} {a : App} {n : ℕ} (hrun : appLTS.Run log a)
    (hsince : Since (fun e => ¬ e.act.Leaves) (RoomLostIn n) log) : RoomGone n a := by
  refine hrun.since (fun _ e hrun hstep hloss => ?_) (fun _ e _ hstep hstays h => ?_) hsince
  · have hdegraded := (Degraded.of_roomLostIn hstep hloss).degraded
    have hinv := (inv_of_run hrun).next hstep
    exact ⟨hdegraded.lost, (SessionInv.opened hinv n hdegraded.session).2⟩
  · exact h.next (o := e.out) hstep hstays

end UserApp
end Sf4e
