/-
# What GGPO's callbacks and the other events do to a session

GGPO's entry points make the program do four kinds of things and report events (`Callbacks`);
everything about a call of an entry point follows from these.  `SessionInv` is the invariant of
all runs: a session that is open and not closing has its battle, a deferred close is one of a
closing battle, the room is lost at most while there is a battle, and each session is closed
once.
-/
import Sf4e.Netplay.App

namespace Sf4e

/-! ## The events of a script -/

/-- The events that GGPO reports in a script, in order. -/
def Ggpo.Script.codes : Ggpo.Script → List Ggpo.EventCode
  | .done _ => []
  | .save _ rest => rest.codes
  | .load rest => rest.codes
  | .free rest => rest.codes
  | .event code rest => code :: rest.codes
  | .advance sync adv rest => sync.codes ++ adv.codes ++ rest.codes

namespace UserApp

open Ggpo NetplayFacade Trace

/-- One thing that a call of an entry point does besides reporting events. -/
inductive CallbackStep : App → App → Prop
  | abort {a : App} : CallbackStep a a.abortGgpoMatch
  | note {a : App} {c : Ggpo.Call} : (∀ n, c ≠ .close n) → CallbackStep a (a.note c)
  | frameAccepted {a : App} : CallbackStep a a.onFrameAccepted
  | predictionThreshold {a : App} : CallbackStep a a.onPredictionThreshold

/-- What a call of an entry point does, with the events it reports. -/
inductive Callbacks : List EventCode → App → App → Prop
  | nil {a : App} : Callbacks [] a a
  | silent {codes : List EventCode} {a b c : App} :
      CallbackStep a b → Callbacks codes b c → Callbacks codes a c
  | event {codes : List EventCode} {a c : App} (code : EventCode) :
      Callbacks codes (a.ggpo_on_event_callback code) c → Callbacks (code :: codes) a c

lemma Callbacks.trans {codes codes' : List EventCode} {a b c : App} (h : Callbacks codes a b)
    (h' : Callbacks codes' b c) : Callbacks (codes ++ codes') a c := by
  induction h with
  | nil => exact h'
  | silent hstep _ ih => exact .silent hstep (ih h')
  | event code _ ih => exact .event code (ih h')

/-- What every callback preserves, a call of an entry point preserves. -/
lemma Callbacks.preserves {codes : List EventCode} {a b : App} (h : Callbacks codes a b)
    {p : App → Prop} (hstep : ∀ a b, CallbackStep a b → p a → p b)
    (hevent : ∀ a code, p a → p (a.ggpo_on_event_callback code)) (hp : p a) : p b := by
  induction h with
  | nil => exact hp
  | silent hs _ ih => exact ih (hstep _ _ hs hp)
  | event code _ ih => exact ih (hevent _ code hp)

/-- Callbacks with some of the events, in order. -/
def Delivers (codes : List EventCode) (a b : App) : Prop :=
  ∃ some, some.Sublist codes ∧ Callbacks some a b

namespace Delivers

variable {codes codes' : List EventCode} {a b c : App}

lemma refl : Delivers codes a a := ⟨[], List.nil_sublist _, .nil⟩

lemma step (h : CallbackStep a b) : Delivers codes a b :=
  ⟨[], List.nil_sublist _, .silent h .nil⟩

lemma trans (h : Delivers codes a b) (h' : Delivers codes' b c) :
    Delivers (codes ++ codes') a c := by
  obtain ⟨some, hsome, hcallbacks⟩ := h
  obtain ⟨some', hsome', hcallbacks'⟩ := h'
  exact ⟨some ++ some', hsome.append hsome', hcallbacks.trans hcallbacks'⟩

/-- A step after the callbacks. -/
lemma snoc (h : Delivers codes a b) (hstep : CallbackStep b c) : Delivers codes a c := by
  have hlast : Delivers [] b c := step hstep
  simpa using h.trans hlast

end Delivers

/-! ## Calls of entry points -/

namespace App

variable {a : App} {codes codes' : List EventCode}

lemma delivers_enter {f : EntryPoint} {body : App → ℤ × App}
    (hbody : ∀ a, Delivers codes a (body a).2) : Delivers codes a (a.enter f body).2 := by
  unfold enter
  split
  · exact .refl
  · rename_i n _
    have henter : Delivers [] a (a.note (.enter f n)) := .step (.note (by simp))
    exact (henter.trans (hbody _)).snoc (.note (by simp))

lemma delivers_advance {sync advance : App → ℤ × App}
    (hsync : ∀ a, Delivers codes a (sync a).2) (hadvance : ∀ a, Delivers codes' a (advance a).2) :
    Delivers (codes ++ codes') a (a.ggpo_advance_frame_callback sync advance) := by
  have h₁ : Delivers codes a (a.enter .synchronizeInput sync).2 := delivers_enter hsync
  simp only [ggpo_advance_frame_callback]
  split
  · exact (h₁.snoc .abort).trans .refl
  · refine h₁.trans ?_
    have h₂ : Delivers codes' (a.enter .synchronizeInput sync).2
        ((a.enter .synchronizeInput sync).2.enter .advanceFrame advance).2 :=
      delivers_enter hadvance
    split
    · exact h₂.snoc .abort
    · exact h₂

/-- A script reports its events, or fewer after a match is aborted. -/
lemma delivers_runScript (script : Script) (a : App) :
    Delivers script.codes a (runScript script a).2 := by
  induction script generalizing a with
  | done result => exact .refl
  | save full rest ih =>
    have hsave : Delivers [] a (a.ggpo_save_game_state_callback full) := by
      unfold ggpo_save_game_state_callback
      split
      · exact .step .abort
      · exact .refl
    exact hsave.trans (ih _)
  | load rest ih => exact ih a
  | free rest ih => exact ih a
  | event code rest ih =>
    obtain ⟨some, hsome, hcallbacks⟩ := ih (a.ggpo_on_event_callback code)
    exact ⟨code :: some, hsome.cons_cons code, .event code hcallbacks⟩
  | advance sync advance rest ihsync ihadvance ihrest =>
    exact (delivers_advance ihsync ihadvance).trans (ihrest _)

lemma delivers_call (f : EntryPoint) (script : Script) :
    Delivers script.codes a (a.call f script).2 :=
  delivers_enter (delivers_runScript script)

lemma delivers_advanceBattle (sync advance : Script) :
    Delivers (sync.codes ++ advance.codes) a (a.advanceBattle sync advance) := by
  have h₁ : Delivers sync.codes a (a.call .synchronizeInput sync).2 := delivers_call _ sync
  simp only [advanceBattle]
  split
  · refine h₁.trans ?_
    have h₂ := delivers_call (a := (a.call .synchronizeInput sync).2) .advanceFrame advance
    split
    · exact h₂.snoc .abort
    · exact h₂.snoc .frameAccepted
  · exact (h₁.snoc .abort).trans .refl
  · exact h₁.trans .refl

lemma delivers_battleUpdate (flowIdle : Bool) (addInput sync advance : Script) :
    Delivers (addInput.codes ++ (sync.codes ++ advance.codes)) a
      (a.battleUpdate flowIdle addInput sync advance) := by
  have h₁ : Delivers addInput.codes a
      (if a.process.localPlayer then a.call .addLocalInput addInput else (0, a)).2 := by
    split
    · exact delivers_call _ addInput
    · exact .refl
  simp only [battleUpdate]
  split
  · exact .refl
  · split
    · split
      · exact h₁.trans (delivers_advanceBattle sync advance)
      · exact (h₁.snoc .predictionThreshold).trans .refl
      · exact h₁.trans .refl
      · exact h₁.trans .refl
      · exact (h₁.snoc .abort).trans .refl
    · exact .refl

lemma delivers_idle (script : Script) : Delivers script.codes a (a.idle script) := by
  unfold idle
  split
  · exact delivers_call _ script
  · exact .refl

end App

/-! ## What the room does -/

/-- A loss that is reported again changes nothing. -/
lemma App.handleControlPlaneLoss_of_lost {a : App} {engine : App.Engine}
    (hlost : a.process.controlPlaneLost = true) : a.handleControlPlaneLoss engine = a := by
  simp [App.handleControlPlaneLoss, hlost]

/-- From `a` to `b` the room has changed the data of the client and the flags of the start of
a match. -/
inductive RoomStep (a : App) : App → Prop
  | mk (netplay : Option Client) (pending armed synced sentLoaded : Bool) :
      netplay.isSome = a.netplay.isSome → RoomStep a { a with
        netplay := netplay
        pendingMatchStart := pending
        onTasksRegistered := armed
        bSessionSynced := synced
        bSessionSentLoaded := sentLoaded }

namespace RoomStep

variable {a b c : App}

lemma refl : RoomStep a a := ⟨_, _, _, _, _, rfl⟩

lemma process (h : RoomStep a b) : b.process = a.process := by
  cases h
  rfl

lemma aborts (h : RoomStep a b) : b.aborts = a.aborts := by
  cases h
  rfl

lemma trans (h : RoomStep a b) (h' : RoomStep b c) : RoomStep a c := by
  cases h with
  | mk _ _ _ _ _ hsome =>
    cases h' with
    | mk netplay pending armed synced sentLoaded hsome' =>
      exact ⟨netplay, pending, armed, synced, sentLoaded, hsome'.trans hsome⟩

lemma startMatchFromLobby (a : App) (cl : Client) (mainMenu : Bool) :
    RoomStep a (a.startMatchFromLobby cl mainMenu).2 := by
  unfold App.startMatchFromLobby
  split
  · exact ⟨_, _, _, _, _, rfl⟩
  · exact ⟨_, _, _, _, _, rfl⟩

lemma onReady (a : App) (cl : Client) (mainMenu : Bool) :
    RoomStep a (a.onReady cl mainMenu) :=
  (startMatchFromLobby a cl mainMenu).trans ⟨_, _, _, _, _, rfl⟩

lemma tryStartPendingMatch (a : App) (mainMenu : Bool) :
    RoomStep a (a.tryStartPendingMatch mainMenu) := by
  unfold App.tryStartPendingMatch
  split
  · exact .refl
  · rename_i cl _
    split
    · exact .refl
    · have hstart := startMatchFromLobby a cl mainMenu
      simp only
      split
      · exact hstart.trans ⟨_, _, _, _, _, rfl⟩
      · exact hstart

lemma handleMessages (mainMenu : Bool) (messages : List App.RoomMessage) (a : App) :
    RoomStep a (App.handleMessages mainMenu messages a).2 := by
  induction messages generalizing a with
  | nil => exact .refl
  | cons m messages ih =>
    unfold App.handleMessages
    split
    · exact .refl
    · rename_i cl hcl
      have hsome : ∀ cl' : Client, (some cl').isSome = a.netplay.isSome := fun cl' => by simp [hcl]
      cases m with
      | joinReject => exact ⟨_, _, _, _, _, hsome _⟩
      | dataUpdate members => exact RoomStep.trans ⟨_, _, _, _, _, hsome _⟩ (ih _)
      | allReady => exact (onReady a cl mainMenu).trans (ih _)
      | battleSynced => exact RoomStep.trans ⟨_, _, _, _, _, rfl⟩ (ih _)

lemma clientStep (a : App) (received : Option (List App.RoomMessage)) (mainMenu : Bool) :
    RoomStep a (a.clientStep received mainMenu).2 := by
  unfold App.clientStep
  split
  · exact .refl
  · split
    · exact .refl
    · split
      · exact .refl
      · exact handleMessages mainMenu _ a

lemma hasInitialized (a : App) (initialized blocked : Bool) :
    RoomStep a (a.hasInitialized initialized blocked).2 := by
  unfold App.hasInitialized
  split
  · exact .refl
  · simp only
    split
    · exact ⟨_, _, _, _, _, rfl⟩
    · exact .refl

/-- A connection that goes down once the room is lost only loses its handle. -/
lemma statusChanged (hlost : a.process.controlPlaneLost = true)
    (oldState newState : App.ConnectionState) (engine : App.Engine) :
    RoomStep a (a.onSteamNetConnectionStatusChanged oldState newState engine) := by
  have hsame : ∀ netplay, App.handleControlPlaneLoss { a with netplay := netplay } engine =
      { a with netplay := netplay } := fun netplay => App.handleControlPlaneLoss_of_lost hlost
  unfold App.onSteamNetConnectionStatusChanged
  split
  · exact .refl
  · rename_i c hc
    have hsome : ∀ c' : Client, (some c').isSome = a.netplay.isSome := fun c' => by simp [hc]
    simp only
    split
    · split
      · rw [hsame]
        exact ⟨_, _, _, _, _, hsome _⟩
      · exact ⟨_, _, _, _, _, hsome _⟩
    · split
      · exact ⟨_, _, _, _, _, hsome _⟩
      · exact .refl

/-- Without the room no rematch is asked for. -/
lemma exitForeground (hlost : a.process.controlPlaneLost = true) :
    RoomStep a a.exitForeground := by
  have hreset : a.resetLobbyForRematch = a := by simp [App.resetLobbyForRematch, hlost]
  unfold App.exitForeground
  rw [hreset, ite_self]
  exact ⟨_, _, _, _, _, rfl⟩

end RoomStep

/-- The deferred close aborts no match. -/
lemma aborts_closeDeferred (a : App) (now : ℕ) : (a.closeDeferred now).aborts = a.aborts := by
  unfold App.closeDeferred
  split
  · simp only
    split <;> rfl
  · rfl

/-! ## The sessions -/

/-- The invariant of the GGPO sessions, with the battle of the engine. -/
structure SessionInv (p : Process) (battle : Bool) : Prop where
  /-- The gate knows of a session that is open. -/
  opened : ∀ n, p.ggpo = some n → p.simGate.phase ≠ .noSession ∧ n < p.sessions
  /-- A session that is not closing is that of a battle. -/
  fought : ∀ n, p.ggpo = some n → p.simGate.phase ≠ .battleClosing → battle = true
  /-- A session is closed later only if its battle is closed. -/
  pending : ∀ n, p.ggpo = some n → p.defer.deferredGgpoPending = true →
    p.simGate.phase = .battleClosing
  /-- Without a battle the room is not lost. -/
  lost : p.controlPlaneLost = true → battle = true
  /-- The earlier sessions have been closed once each. -/
  closed : ∀ n, p.trace.count (.close n) = if n < p.sessions ∧ p.ggpo ≠ some n then 1 else 0

@[simp] lemma ggpo_retireGgpoSession (p : Process) : p.retireGgpoSession.ggpo = none := by
  unfold Process.retireGgpoSession
  split
  · assumption
  · rfl

namespace SessionInv

variable {p p' : Process} {battle battle' : Bool}

/-- What touches neither the session nor its phase. -/
lemma of_same (h : SessionInv p battle) (hggpo : p'.ggpo = p.ggpo)
    (hsessions : p'.sessions = p.sessions) (hphase : p'.simGate.phase = p.simGate.phase)
    (hpending : p'.defer.deferredGgpoPending = true → p.defer.deferredGgpoPending = true)
    (hlost : p'.controlPlaneLost = true → p.controlPlaneLost = true)
    (htrace : ∀ n, p'.trace.count (.close n) = p.trace.count (.close n)) :
    SessionInv p' battle where
  opened := by
    rw [hggpo, hsessions, hphase]
    exact h.opened
  fought := by
    rw [hggpo, hphase]
    exact h.fought
  pending n hn hp := hphase ▸ h.pending n (hggpo ▸ hn) (hpending hp)
  lost hl := h.lost (hlost hl)
  closed n := by
    rw [htrace, hggpo, hsessions]
    exact h.closed n

/-- The battle does not matter to a session that is closed or closing. -/
lemma of_closing (h : SessionInv p battle) (hlost : p.controlPlaneLost = false)
    (hclosing : ∀ n, p.ggpo = some n → p.simGate.phase = .battleClosing) :
    SessionInv p battle' where
  opened := h.opened
  fought n hn hphase := absurd (hclosing n hn) hphase
  pending := h.pending
  lost hl := by simp [hlost] at hl
  closed := h.closed

lemma start_battle (h : SessionInv p battle) : SessionInv p true where
  opened := h.opened
  fought _ _ _ := rfl
  pending := h.pending
  lost _ := rfl
  closed := h.closed

lemma retireGgpoSession (h : SessionInv p battle) : SessionInv p.retireGgpoSession battle := by
  unfold Process.retireGgpoSession
  split
  · exact h
  · rename_i n hn
    refine ⟨by simp, by simp, by simp, h.lost, fun m => ?_⟩
    have hclosed := h.closed m
    rw [hn] at hclosed
    simp only [List.count_cons, hclosed]
    by_cases hm : m = n
    · subst hm
      simp [(h.opened m hn).2]
    · simp [Ne.symm hm]

lemma onFatal (h : SessionInv p battle) (allowed : Bool) :
    SessionInv { p with simGate := p.simGate.onFatal, bUpdateAllowed := allowed } battle :=
  h.of_same rfl rfl rfl id id fun _ => rfl

lemma abortGgpoMatch (h : SessionInv p battle) : SessionInv p.abortGgpoMatch battle :=
  (h.onFatal false).retireGgpoSession

lemma shutdownNetplay (h : SessionInv p battle) :
    SessionInv (p.shutdownNetplay true) battle' := by
  have hretired := h.retireGgpoSession
  have hshut : SessionInv (p.shutdownNetplay true) battle := by
    refine hretired.of_same rfl rfl rfl (fun hp => ?_) (fun hl => ?_) fun _ => rfl
    · simp [Process.shutdownNetplay, DeferState.clearFlags] at hp
    · simp [Process.shutdownNetplay] at hl
  refine hshut.of_closing rfl fun n hn => ?_
  have hggpo : (p.shutdownNetplay true).ggpo = p.retireGgpoSession.ggpo := rfl
  simp [hggpo] at hn

/-- A new session, of a battle that is set up. -/
lemma newSession (h : SessionInv p true) (hnone : p.ggpo = none)
    (hphase : p.simGate.phase = .waitingForRunning)
    (hpending : p.defer.deferredGgpoPending = false) : SessionInv p.newSession true := by
  refine ⟨fun n hn => ?_, fun _ _ _ => rfl, fun n _ hp => ?_, fun _ => rfl, fun n => ?_⟩
  · obtain rfl : p.sessions = n := Option.some.inj hn
    exact ⟨by simp [Process.newSession, hphase], Nat.lt_succ_self _⟩
  · simp [Process.newSession, hpending] at hp
  · have hclosed := h.closed n
    simp only [hnone, ne_eq, reduceCtorEq, not_false_eq_true, and_true] at hclosed
    simp only [Process.newSession, hclosed, ne_eq, Option.some.injEq]
    congr 1
    rw [eq_iff_iff]
    omega

lemma event (h : SessionInv p battle) (code : EventCode) :
    SessionInv (p.ggpo_on_event_callback code) battle := by
  cases code with
  | running =>
    unfold Process.ggpo_on_event_callback GgpoGateModel.onRunning
    simp only
    split
    · rename_i hphase
      refine ⟨fun n hn => ⟨by simp, (h.opened n hn).2⟩, fun n hn _ => ?_, fun n hn hp => ?_,
        h.lost, h.closed⟩
      · exact h.fought n hn (by simp [hphase])
      · have hclosing := h.pending n hn hp
        rw [hphase] at hclosing
        cases hclosing
    · exact h
  | connectionInterrupted now =>
    refine h.of_same rfl rfl ?_ id id fun _ => rfl
    simp only [Process.ggpo_on_event_callback, GgpoGateModel.onConnectionInterrupted]
    split <;> rfl
  | connectionResumed =>
    refine h.of_same rfl rfl ?_ id id fun _ => rfl
    simp only [Process.ggpo_on_event_callback, GgpoGateModel.onConnectionResumed]
    split <;> rfl
  | disconnectedFromPeer =>
    refine h.of_same rfl rfl ?_ id id fun _ => rfl
    simp only [Process.ggpo_on_event_callback, GgpoGateModel.onConnectionResumed]
    split <;> rfl
  | _ => exact h

end SessionInv

/-- The invariant of the program. -/
def App.Inv (a : App) : Prop := SessionInv a.process a.battle

namespace App.Inv

variable {a b : App}

lemma of_callbackStep (h : CallbackStep a b) (ha : a.Inv) : b.Inv := by
  cases h with
  | abort => exact ha.abortGgpoMatch
  | note hc =>
    refine ha.of_same rfl rfl rfl id id fun n => ?_
    simp [App.note, hc n]
  | frameAccepted => exact ha.of_same rfl rfl rfl id id fun _ => rfl
  | predictionThreshold => exact ha.of_same rfl rfl rfl id id fun _ => rfl

lemma of_delivers {codes : List EventCode} (h : Delivers codes a b) (ha : a.Inv) : b.Inv := by
  obtain ⟨some, -, hcallbacks⟩ := h
  exact hcallbacks.preserves (p := App.Inv) (fun a b hstep h => h.of_callbackStep hstep)
    (fun a code h => h.event code) ha

lemma of_roomStep (h : RoomStep a b) (ha : a.Inv) : b.Inv := by
  cases h
  exact ha

lemma shutdownNetplay (h : a.Inv) : a.shutdownNetplay.Inv := SessionInv.shutdownNetplay h

lemma handleNetplayFailure (h : a.Inv) : a.handleNetplayFailure.Inv := by
  unfold App.handleNetplayFailure
  split
  · exact (SessionInv.onFatal h false).shutdownNetplay
  · exact h.shutdownNetplay

lemma handleControlPlaneLoss (h : a.Inv) (engine : App.Engine) :
    (a.handleControlPlaneLoss engine).Inv := by
  unfold App.handleControlPlaneLoss
  split
  · exact h
  · split
    · exact h.handleNetplayFailure
    · -- the fight that goes on has its battle
      rename_i hfight
      simp only [App.fightRunning, Bool.or_eq_true, Bool.not_eq_true', Bool.and_eq_false_iff,
        not_or, Bool.not_eq_false, Bool.not_eq_true] at hfight
      obtain ⟨⟨⟨⟨hsome, hphase⟩, -⟩, -⟩, -⟩ := hfight
      obtain ⟨n, hn⟩ := Option.isSome_iff_exists.1 hsome
      have hbattle := SessionInv.fought h n hn (by simp_all)
      exact ⟨h.opened, h.fought, h.pending, fun _ => hbattle, h.closed⟩

lemma checkSyncTimeout (h : a.Inv) (now : ℕ) : (a.checkSyncTimeout now).Inv := by
  unfold App.checkSyncTimeout
  split
  · exact SessionInv.abortGgpoMatch h
  · exact h

lemma closeDeferred (h : a.Inv) (now : ℕ) : (a.closeDeferred now).Inv := by
  have hasked : ∀ d : DeferState, d.deferredGgpoPending = a.process.defer.deferredGgpoPending →
      SessionInv { a.process with defer := d } a.battle := fun d hd =>
    SessionInv.of_same h rfl rfl rfl (fun hp => hd ▸ hp) id fun _ => rfl
  have hpending : (a.process.defer.shouldDeferGgpoClose
      (getTickCount now)).2.deferredGgpoPending = a.process.defer.deferredGgpoPending := by
    unfold DeferState.shouldDeferGgpoClose
    split
    · rfl
    · split <;> rfl
  unfold App.closeDeferred
  split
  · simp only
    split
    · exact hasked _ hpending
    · refine SessionInv.of_same (hasked _ hpending).retireGgpoSession rfl rfl rfl (fun hp => ?_)
        id fun _ => rfl
      simp [DeferState.clearFlags] at hp
  · exact h

lemma tickFrame (h : a.Inv) (mainMenu : Bool) (now : ℕ) : (a.tickFrame mainMenu now).Inv :=
  ((h.of_roomStep (.tryStartPendingMatch a mainMenu)).checkSyncTimeout now).closeDeferred now

lemma statusChanged (h : a.Inv) (oldState newState : App.ConnectionState) (engine : App.Engine) :
    (a.onSteamNetConnectionStatusChanged oldState newState engine).Inv := by
  unfold App.onSteamNetConnectionStatusChanged
  split
  · exact h
  · rename_i c _
    have hclosed :
        App.Inv { a with netplay := some { c with conn := false, connected := false } } := h
    split
    · simp only
      split
      · exact hclosed.handleControlPlaneLoss engine
      · exact hclosed
    · split
      · exact h
      · exact h

/-- After `CloseBattle` has dealt with the session, it is closed or closing. -/
lemma closeSession (h : a.Inv) (now later : ℕ) : (a.closeSession now later).Inv ∧
    ∀ n, (a.closeSession now later).process.ggpo = some n →
      (a.closeSession now later).process.simGate.phase = .battleClosing := by
  unfold App.closeSession
  split
  · rename_i hsome
    obtain ⟨n, hn⟩ := Option.isSome_iff_exists.1 hsome
    have hphase : a.process.simGate.onBattleClosing.phase = .battleClosing := by
      simp [GgpoGateModel.onBattleClosing, (SessionInv.opened h n hn).1]
    have hclosing : ∀ d : DeferState, SessionInv
        { a.process with simGate := a.process.simGate.onBattleClosing, defer := d } a.battle := by
      refine fun d => ⟨fun m hm => ⟨by simp [hphase], (SessionInv.opened h m hm).2⟩,
        fun m hm hne => absurd hphase hne, fun m hm _ => hphase, h.lost, h.closed⟩
    simp only
    split
    · exact ⟨hclosing _, fun m _ => hphase⟩
    · refine ⟨(hclosing _).retireGgpoSession, fun m hm => ?_⟩
      simp [App.retireGgpoSession, Process.retireGgpoSession, hn] at hm
  · rename_i hnone
    exact ⟨h, fun n hn => absurd (by simp [hn]) hnone⟩

lemma closeBattle (h : a.Inv) (now later : ℕ) : (a.closeBattle now later).Inv := by
  obtain ⟨hinv, hclosing⟩ := h.closeSession now later
  unfold App.closeBattle App.finalizeControlPlaneLossAfterBattle
  split
  · exact SessionInv.shutdownNetplay hinv
  · rename_i hlost
    exact SessionInv.of_closing hinv (by simpa using hlost) hclosing

/-- What a battle's session starts from. -/
lemma prepareSession (h : a.Inv) : a.prepareSession.Inv ∧ a.prepareSession.process.ggpo = none ∧
    a.prepareSession.process.simGate.phase = .waitingForRunning ∧
    a.prepareSession.process.defer.deferredGgpoPending = false := by
  have hcancelled : SessionInv { a.process with defer := {} } a.battle :=
    SessionInv.of_same h rfl rfl rfl (fun hp => by simp at hp) id fun _ => rfl
  have hretired := hcancelled.retireGgpoSession
  have hggpo : a.prepareSession.process.ggpo = none := ggpo_retireGgpoSession _
  have hpending : a.prepareSession.process.defer.deferredGgpoPending = false := by
    simp only [App.prepareSession, Process.prepareSession, Process.retireGgpoSession]
    split <;> rfl
  refine ⟨?_, hggpo, rfl, hpending⟩
  exact ⟨fun n hn => absurd hn (by simp [hggpo]), fun n hn => absurd hn (by simp [hggpo]),
    fun n hn => absurd hn (by simp [hggpo]), hretired.lost, hretired.closed⟩

lemma addPlayers (h : a.Inv) (players : List (ℤ × Bool)) : (App.addPlayers players a).Inv := by
  induction players generalizing a with
  | nil => exact h
  | cons player players ih =>
    obtain ⟨result, isLocal⟩ := player
    unfold App.addPlayers
    split
    · exact SessionInv.abortGgpoMatch h
    · exact ih (SessionInv.of_same h rfl rfl rfl id id fun _ => rfl)

lemma newSession (h : a.Inv) (hbattle : a.battle = true) : a.prepareSession.newSession.Inv := by
  obtain ⟨hinv, hnone, hphase, hpending⟩ := h.prepareSession
  have hbattle' : a.prepareSession.newSession.battle = true := hbattle
  unfold App.Inv
  rw [hbattle']
  exact SessionInv.newSession hinv.start_battle hnone hphase hpending

lemma startTransport (h : a.Inv) (hbattle : a.battle = true) (m : App.MatchStart)
    (legacy udp : Bool) : (a.startTransport m legacy udp).Inv := by
  have hrelay : ∀ active : Bool, App.Inv { a with relayActive := active } := fun _ => h
  have hstart : ∀ b : App, b.Inv → b.battle = true →
      ((b.startGGPO m.result m.players).resetGgpoBattleWatch m.now udp).Inv := by
    intro b hb hbattle
    unfold App.startGGPO
    split
    · exact SessionInv.abortGgpoMatch hb.prepareSession.1
    · exact (hb.newSession hbattle).addPlayers _
  unfold App.startTransport
  simp only
  split
  · split
    · exact hrelay _
    · exact h
  · split
    · split
      · exact SessionInv.abortGgpoMatch (hrelay _)
      · exact SessionInv.abortGgpoMatch h
    · split
      · exact hstart _ (hrelay _) hbattle
      · exact hstart _ h hbattle

lemma releasePrevious (h : a.Inv) : a.releasePrevious.Inv ∧
    a.releasePrevious.battle = a.battle := by
  unfold App.releasePrevious
  split
  · refine ⟨SessionInv.retireGgpoSession ?_, rfl⟩
    exact SessionInv.of_same h rfl rfl rfl
      (fun hp => by simp [DeferState.cancelDeferredGgpoClose] at hp) id fun _ => rfl
  · exact ⟨h, rfl⟩

lemma startPlayer (h : a.Inv) (hbattle : a.battle = true) (c : Client) (m : App.MatchStart) :
    (a.startPlayer c m).Inv := by
  obtain ⟨hinv, hbattle'⟩ := h.releasePrevious
  unfold App.startPlayer
  generalize a.releasePrevious = b at hinv hbattle'
  have hstart : ∀ mode legacy legacy' udp,
      ((b.reportGgpoTransport mode legacy).startTransport m legacy' udp).Inv :=
    fun mode legacy legacy' udp =>
      startTransport (a := b.reportGgpoTransport mode legacy) hinv (hbattle'.trans hbattle) m
        legacy' udp
  split
  · simp only
    split
    · exact SessionInv.abortGgpoMatch hinv
    · apply hstart
  · exact SessionInv.abortGgpoMatch h
  · exact h.startTransport hbattle m _ _

lemma registerTasks (h : a.Inv) (role : App.Role) : (a.registerTasks role).Inv := by
  have hset : App.Inv { a with battle := true } := SessionInv.start_battle h
  unfold App.registerTasks
  simp only
  split
  · unfold App.onVsBattleTasksRegistered
    split
    · exact hset
    · split
      · exact hset
      · cases role with
        | player m => exact hset.startPlayer rfl _ m
        | spectator result =>
          unfold App.startSpectating
          simp only
          split
          · exact hset.prepareSession.1
          · exact hset.newSession rfl
  · exact hset

/-- **The step lemma.**  Every event preserves the invariant. -/
lemma next {event : Event} {o : Unit} (h : a.Inv) (hnext : a.next event = some (o, b)) :
    b.Inv := by
  cases event with
  | registerTasks role =>
    simp only [App.next] at hnext
    split at hnext
    · cases hnext
    · cases hnext
      exact h.registerTasks role
  | closeBattle now later =>
    simp only [App.next] at hnext
    split at hnext
    · cases hnext
      exact h.closeBattle now later
    · cases hnext
  | battleUpdate flowIdle addInput sync adv =>
    cases hnext
    -- the callbacks come while GGPO is called
    exact h.of_delivers (App.delivers_battleUpdate flowIdle addInput sync adv)
  | idle script =>
    cases hnext
    exact h.of_delivers (App.delivers_idle script)
  | tickFrame mainMenu now =>
    cases hnext
    exact h.tickFrame mainMenu now
  | statusChanged oldState newState engine =>
    cases hnext
    exact h.statusChanged oldState newState engine
  | clientStep received mainMenu =>
    cases hnext
    exact h.of_roomStep (.clientStep a received mainMenu)
  | stepFailed engine =>
    cases hnext
    exact h.handleControlPlaneLoss engine
  | hasInitialized initialized blocked =>
    cases hnext
    exact h.of_roomStep (.hasInitialized a initialized blocked)
  | exitForeground =>
    cases hnext
    unfold App.exitForeground App.resetLobbyForRematch
    simp only
    repeat' split
    all_goals exact h
  | disconnect =>
    cases hnext
    exact h.shutdownNetplay
  | startSession conn useRelay =>
    cases hnext
    exact h
  | startServer listens =>
    cases hnext
    exact h
  | setPaused paused =>
    cases hnext
    exact SessionInv.of_same h rfl rfl rfl id id fun _ => rfl

end App.Inv

/-- The invariant holds after every run. -/
lemma inv_of_run {log : AppLog} {a : App} (hrun : appLTS.Run log a) : a.Inv := by
  refine hrun.invariant_of_step (fun _ a => a.Inv) (fun a ha => ?_) fun log e h hstep =>
    h.next (o := e.out) hstep
  obtain rfl : a = {} := ha
  exact ⟨by simp, by simp, by simp, by simp, by simp⟩

/-- A list of events whose log passes a test gives a run. -/
lemma exists_appRun_of_exec (events : List Event) {p : AppLog → App → Prop}
    [∀ log a, Decidable (p log a)]
    (h : (LTS.exec App.next {} [] events).any (fun r => decide (p r.1 r.2)) = true) :
    ∃ log a, appLTS.Run log a ∧ p log a := by
  obtain ⟨log, a, hpath, hp⟩ := LTS.exists_path_of_exec events h
  exact ⟨log, a, ⟨{}, rfl, hpath⟩, hp⟩

end UserApp
end Sf4e
