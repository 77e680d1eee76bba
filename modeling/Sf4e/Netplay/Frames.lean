/-
# Frames after netplay

Without a session `bUpdateAllowed` alone says whether the next frame may advance, and it is
written by the overlay, by the halt after a single step, at the start of a session, and where a
match is aborted or given up with its room.  The last two forbid frames and close the session;
nothing allows frames again before the next start or the overlay's Play.

`FailsWhen` says for each function when it is such a failure.  Everything else keeps frames
allowed, so that in a run frames resume after each session exactly if the failures come while
the player has paused (`framesResume_iff`).
-/
import Sf4e.Netplay.Callbacks

namespace Sf4e
namespace UserApp

open Ggpo NetplayFacade Trace

/-! ## The controls of the overlay -/

/-- The program with `fSystem::bHaltAfterNext`. -/
structure Console where
  app : App := {}
  /-- `fSystem::bHaltAfterNext`. -/
  bHaltAfterNext : Bool := false

/-- The buttons of the overlay's simulation control. -/
inductive Button
  | pause
  | play
  | haltAfterNext
  | step
deriving DecidableEq

/-- `BattleUpdate` gets to its end: no result of GGPO makes it return before. -/
def App.reachesEnd (a : App) (flowIdle : Bool) (addInput sync : Script) : Bool :=
  if !a.process.mayAdvanceDeterministicFrame then false
  else if a.process.ggpo.isSome && !flowIdle then
    let (result, a) := if a.process.localPlayer then a.call .addLocalInput addInput else (0, a)
    (classifyGgpoResult result = .continue : Bool) &&
      (classifyGgpoResult (a.call .synchronizeInput sync).1 = .continue : Bool)
  else true

/-- The events that have actions of their own here. -/
def Event.IsControl : Event → Prop
  | .battleUpdate _ _ _ _ => True
  | .setPaused _ => True
  | _ => False

instance : DecidablePred Event.IsControl
  | .battleUpdate _ _ _ _ => isTrue trivial
  | .setPaused _ => isTrue trivial
  | .idle _ => isFalse id
  | .tickFrame _ _ => isFalse id
  | .statusChanged _ _ _ => isFalse id
  | .clientStep _ _ => isFalse id
  | .stepFailed _ => isFalse id
  | .registerTasks _ => isFalse id
  | .closeBattle _ _ => isFalse id
  | .hasInitialized _ _ => isFalse id
  | .exitForeground => isFalse id
  | .disconnect => isFalse id
  | .startSession _ _ => isFalse id
  | .startServer _ => isFalse id

/-- What the main thread may do next. -/
inductive ConsoleAction
  | press (b : Button)
  | battleUpdate (flowIdle : Bool) (addInput sync advance : Script)
  /-- Anything else. -/
  | event (event : Event)

namespace Console

/-- The overlay's handling of a button. -/
def press (c : Console) : Button → Console
  | .pause => { c with app := c.app.setPaused true }
  | .play => { c with app := c.app.setPaused false }
  | .haltAfterNext => { c with bHaltAfterNext := true }
  | .step => { app := c.app.setPaused false, bHaltAfterNext := true }

/-- `BattleUpdate`, with the halt at its end. -/
def battleUpdate (c : Console) (flowIdle : Bool) (addInput sync advance : Script) : Console :=
  let a := c.app.battleUpdate flowIdle addInput sync advance
  if c.app.reachesEnd flowIdle addInput sync && c.bHaltAfterNext then
    { app := a.setPaused true, bHaltAfterNext := false }
  else { c with app := a }

/-- One action. -/
def next (c : Console) : ConsoleAction → Option (Unit × Console)
  | .press b => some ((), c.press b)
  | .battleUpdate flowIdle addInput sync advance =>
    some ((), c.battleUpdate flowIdle addInput sync advance)
  | .event event =>
    if event.IsControl then none
    else (c.app.next event).map fun r => (r.1, { c with app := r.2 })

end Console

/-- The program starts without netplay, and nothing is pressed. -/
def consoleLTS : LTS Console ConsoleAction Unit := .ofFun (· = {}) Console.next

/-- A run with the overlay. -/
abbrev ConsoleLog := List (Entry Console ConsoleAction Unit)

/-! ## Failures -/

/-- The player has paused. -/
abbrev App.paused (a : App) : Bool := a.process.simGate.manualPause

/-- Without a session, frames are forbidden by the player's pause only. -/
def Console.FramesResume (c : Console) : Prop :=
  c.app.process.ggpo = none → c.app.process.mayAdvanceDeterministicFrame = false →
    c.app.paused = true

instance : DecidablePred Console.FramesResume := fun c =>
  inferInstanceAs (Decidable (c.app.process.ggpo = none →
    c.app.process.mayAdvanceDeterministicFrame = false → c.app.paused = true))

/-- The match is aborted once local input is added: GGPO finds the save pool full, one of the
frames it rolls back fails, or its result is an error. -/
def SyncFails (sync advance : Script) : Prop :=
  ¬ sync.Clean ∨ classifyGgpoResult sync.result = .fatal ∨
    classifyGgpoResult sync.result = .continue ∧ (¬ advance.Clean ∨ advance.result ≠ 0)

/-- The match is aborted in a frame. -/
def FrameFails (localPlayer : Bool) (addInput sync advance : Script) : Prop :=
  localPlayer = true ∧ (¬ addInput.Clean ∨ classifyGgpoResult addInput.result = .fatal) ∨
    (localPlayer = true → classifyGgpoResult addInput.result = .continue) ∧ SyncFails sync advance

/-- A frame gets past the results of its input. -/
def FramePasses (localPlayer : Bool) (addInput sync : Script) : Prop :=
  (localPlayer = true → addInput.Clean ∧ classifyGgpoResult addInput.result = .continue) ∧
    classifyGgpoResult sync.result = .continue

/-- The loss of the room is one that gives up an open session. -/
def App.LossFails (a : App) (engine : App.Engine) : Prop :=
  a.process.ggpo.isSome = true ∧ a.process.controlPlaneLost = false ∧
    (a.fightRunning engine = false ∨ a.relayActive = true)

/-- The start of a session is given up or fails, once the transport is chosen. -/
def App.MatchStart.Fails (m : App.MatchStart) (legacy : Bool) : Prop :=
  (legacy = true → m.relayStarts = true) ∧
    (m.remoteResolved = false ∨ m.result ≠ 0 ∨ ∃ player ∈ m.players, player.1 ≠ 0)

/-- The start of a player's session fails. -/
def App.MatchStart.FailsFor (m : App.MatchStart) (c : Client) : Prop :=
  match m.transport with
  | .vps prepared effective =>
    prepared = false ∨ m.Fails (effective = .legacySessionTunnel : Bool)
  | .vpsMissing => True
  | .local => m.Fails c.useRelay

/-- The start of a session fails. -/
def App.StartFails (a : App) : App.Role → Prop
  | .player m => ∃ c, a.netplay = some c ∧ 2 ≤ c.members ∧ m.FailsFor c
  | .spectator _ => False

/-- The event is a failure of an open session or of a start. -/
def Event.FailsIn (a : App) : Event → Prop
  | .idle script => a.process.ggpo.isSome = true ∧ ¬ script.Clean
  | .statusChanged oldState newState engine =>
    a.netplay.isSome = true ∧ oldState = .connected ∧ newState.IsLoss ∧ a.LossFails engine
  | .stepFailed engine => a.LossFails engine
  | .registerTasks role => a.onTasksRegistered = true ∧ a.StartFails role
  | _ => False

/-- The action is a failure of an open session or of a start.  A frame that fails at its end and
halts there pauses. -/
def ConsoleAction.FailsIn (c : Console) : ConsoleAction → Prop
  | .press _ => False
  | .battleUpdate flowIdle addInput sync advance =>
    c.app.process.mayAdvanceDeterministicFrame = true ∧ c.app.process.ggpo.isSome = true ∧
      flowIdle = false ∧ FrameFails c.app.process.localPlayer addInput sync advance ∧
      ¬ (c.bHaltAfterNext = true ∧ FramePasses c.app.process.localPlayer addInput sync)
  | .event ev => ev.FailsIn c.app

/-- A failure comes while the player has paused. -/
def FailsPaused (e : Entry Console ConsoleAction Unit) : Prop :=
  e.act.FailsIn e.pre → e.pre.app.paused = true

/-! ## What a function does to the frames -/

/-- There is no session, and frames are forbidden. -/
def App.IsDown (a : App) : Prop :=
  a.process.ggpo = none ∧ a.process.bUpdateAllowed = false

/-- From `a` to `b` the player's pause stays.  A failure closes the session and forbids frames;
otherwise frames that were allowed stay so. -/
structure FailsWhen (fails : Prop) (a b : App) : Prop where
  pause : b.paused = a.paused
  down : fails → b.IsDown
  allowed : ¬ fails → a.paused = false → a.process.bUpdateAllowed = true →
    b.process.bUpdateAllowed = true

namespace FailsWhen

variable {a b c : App} {fails fails' : Prop}

/-- What leaves the pause and the flag alone. -/
lemma of_same (hpause : b.paused = a.paused)
    (hallowed : b.process.bUpdateAllowed = a.process.bUpdateAllowed) : FailsWhen False a b :=
  ⟨hpause, False.elim, fun _ _ h => hallowed.trans h⟩

lemma refl : FailsWhen False a a := of_same rfl rfl

lemma of_failure (hpause : b.paused = a.paused) (hdown : b.IsDown) : FailsWhen True a b :=
  ⟨hpause, fun _ => hdown, fun hnot => absurd trivial hnot⟩

lemma of_iff (h : FailsWhen fails a b) (hiff : fails' ↔ fails) : FailsWhen fails' a b :=
  propext hiff ▸ h

/-- Nothing fails before. -/
lemma after (h' : FailsWhen fails b c) (h : FailsWhen False a b) : FailsWhen fails a c where
  pause := h'.pause.trans h.pause
  down := h'.down
  allowed hnot hpause hallowed :=
    h'.allowed hnot (h.pause.trans hpause) (h.allowed id hpause hallowed)

/-- Nothing of interest happens afterwards. -/
lemma before (h : FailsWhen fails a b) (hsession : c.process.ggpo = b.process.ggpo)
    (hpause : c.paused = b.paused)
    (hallowed : c.process.bUpdateAllowed = b.process.bUpdateAllowed) : FailsWhen fails a c where
  pause := hpause.trans h.pause
  down hfails := ⟨hsession.trans (h.down hfails).1, hallowed.trans (h.down hfails).2⟩
  allowed hnot hpaused ha := hallowed.trans (h.allowed hnot hpaused ha)

end FailsWhen

/-! ### Closing a session -/

lemma paused_retire (p : Process) :
    p.retireGgpoSession.simGate.manualPause = p.simGate.manualPause := by
  unfold Process.retireGgpoSession
  split <;> rfl

lemma allowed_retire (p : Process) : p.retireGgpoSession.bUpdateAllowed = p.bUpdateAllowed := by
  unfold Process.retireGgpoSession
  split <;> rfl

lemma FailsWhen.retire (a : App) : FailsWhen False a a.retireGgpoSession :=
  .of_same (paused_retire _) (allowed_retire _)

lemma FailsWhen.abort (a : App) : FailsWhen True a a.abortGgpoMatch := by
  refine .of_failure (paused_retire _) ⟨ggpo_retireGgpoSession _, ?_⟩
  exact (allowed_retire _ : a.abortGgpoMatch.process.bUpdateAllowed = false)

lemma FailsWhen.shutdownNetplay (a : App) : FailsWhen False a a.shutdownNetplay :=
  .of_same (paused_retire a.process) (allowed_retire a.process)

/-! ### GGPO -/

/-- An event leaves the session, the pause and the flag alone. -/
lemma event_same (a : App) (code : EventCode) :
    (a.ggpo_on_event_callback code).process.ggpo = a.process.ggpo ∧
      (a.ggpo_on_event_callback code).paused = a.paused ∧
      (a.ggpo_on_event_callback code).process.bUpdateAllowed = a.process.bUpdateAllowed := by
  have hresumed : a.process.simGate.onConnectionResumed.2.manualPause =
      a.process.simGate.manualPause := by
    unfold GgpoGateModel.onConnectionResumed
    split <;> rfl
  refine ⟨by cases code <;> rfl, ?_, by cases code <;> rfl⟩
  cases code with
  | running =>
    show a.process.simGate.onRunning.manualPause = a.process.simGate.manualPause
    unfold GgpoGateModel.onRunning
    split <;> rfl
  | connectionInterrupted now =>
    show (a.process.simGate.onConnectionInterrupted now).2.manualPause =
      a.process.simGate.manualPause
    unfold GgpoGateModel.onConnectionInterrupted
    split <;> rfl
  | connectionResumed => exact hresumed
  | disconnectedFromPeer => exact hresumed
  | _ => rfl

/-- The callbacks of a session leave the pause alone. -/
lemma paused_delivers {codes : List EventCode} {a b : App} (h : Delivers codes a b) :
    b.paused = a.paused := by
  obtain ⟨_, -, hcallbacks⟩ := h
  refine hcallbacks.preserves (p := fun b => b.paused = a.paused) (fun b c hstep hb => ?_)
    (fun b code hb => (event_same b code).2.1.trans hb) rfl
  cases hstep with
  | abort => exact (paused_retire _).trans hb
  | note _ => exact hb
  | frameAccepted => exact hb
  | predictionThreshold => exact hb

/-- Once a match is aborted, it stays so. -/
lemma App.IsDown.delivers {codes : List EventCode} {a b : App} (ha : a.IsDown)
    (h : Delivers codes a b) : b.IsDown := by
  obtain ⟨_, -, hcallbacks⟩ := h
  refine hcallbacks.preserves (p := App.IsDown) (fun b c hstep hb => ?_) (fun b code hb => ?_) ha
  · cases hstep with
    | abort => exact (FailsWhen.abort b).down trivial
    | note _ => exact hb
    | frameAccepted => exact hb
    | predictionThreshold => exact hb
  · obtain ⟨hsession, -, hallowed⟩ := event_same b code
    exact ⟨hsession.trans hb.1, hallowed.trans hb.2⟩

/-- What GGPO does inside an entry point, or the lack of it, to an open session. -/
structure Leaves (clean : Prop) (a b : App) : Prop where
  kept : clean → b.process.ggpo = a.process.ggpo ∧
    b.process.bUpdateAllowed = a.process.bUpdateAllowed
  down : ¬ clean → b.IsDown

/-- A script returns its result, whatever happens to the session. -/
lemma result_runScript (script : Script) (a : App) :
    (App.runScript script a).1 = script.result := by
  induction script generalizing a with
  | done result => rfl
  | save full rest ih => exact ih _
  | load rest ih => exact ih a
  | free rest ih => exact ih a
  | event code rest ih => exact ih _
  | advance sync adv rest _ _ ih => exact ih _

namespace Leaves

variable {a b c : App} {clean clean' : Prop}

lemma refl : Leaves True a a := ⟨fun _ => ⟨rfl, rfl⟩, fun hnot => absurd trivial hnot⟩

lemma trans {codes : List EventCode} (h : Leaves clean a b)
    (hkept : clean → Leaves clean' b c) (hdelivers : Delivers codes b c) :
    Leaves (clean ∧ clean') a c where
  kept hboth := by
    obtain ⟨hclean, hclean'⟩ := hboth
    obtain ⟨hsession, hallowed⟩ := h.kept hclean
    obtain ⟨hsession', hallowed'⟩ := (hkept hclean).kept hclean'
    exact ⟨hsession'.trans hsession, hallowed'.trans hallowed⟩
  down hnot := by
    by_cases hclean : clean
    · exact (hkept hclean).down fun hclean' => hnot ⟨hclean, hclean'⟩
    · exact (h.down hclean).delivers hdelivers

/-- An entry point of an open session. -/
lemma enter {n : ℕ} {f : EntryPoint} {body : App → ℤ × App} {result : ℤ}
    (hn : a.process.ggpo = some n)
    (hbody : ∀ a : App, a.process.ggpo = some n → Leaves clean a (body a).2 ∧ (body a).1 = result) :
    Leaves clean a (a.enter f body).2 ∧ (a.enter f body).1 = result := by
  have henter : a.enter f body =
      ((body (a.note (.enter f n))).1, (body (a.note (.enter f n))).2.note .exit) := by
    simp [App.enter, hn]
  obtain ⟨hleaves, hresult⟩ := hbody (a.note (.enter f n)) hn
  rw [henter]
  exact ⟨⟨hleaves.kept, hleaves.down⟩, hresult⟩

/-- The advance callback of an open session: its second entry point is called when the first
returns without an error, whether the session is still there or not. -/
lemma advance {n : ℕ} {sync adv : App → ℤ × App} {result result' : ℤ}
    (hn : a.process.ggpo = some n)
    (hsync : ∀ a : App, a.process.ggpo = some n → Leaves clean a (sync a).2 ∧ (sync a).1 = result)
    (hadv : ∀ a : App, a.process.ggpo = some n →
      Leaves clean' a (adv a).2 ∧ (adv a).1 = result') :
    Leaves ((clean ∧ result = 0) ∧ clean' ∧ result' = 0) a
      (a.ggpo_advance_frame_callback sync adv) := by
  obtain ⟨hleaves, hresult⟩ := enter (f := .synchronizeInput) hn hsync
  simp only [App.ggpo_advance_frame_callback]
  generalize a.enter .synchronizeInput sync = r at hleaves hresult
  obtain ⟨result₀, b⟩ := r
  obtain rfl : result₀ = result := hresult
  simp only at hleaves ⊢
  by_cases hzero : result₀ = 0
  · rw [if_neg (not_not.2 hzero)]
    by_cases hclean : clean
    · obtain ⟨hsession, hallowed⟩ := hleaves.kept hclean
      obtain ⟨hleaves', hresult'⟩ := enter (f := .advanceFrame) (hsession.trans hn) hadv
      generalize b.enter .advanceFrame adv = r at hleaves' hresult'
      obtain ⟨result₁, c⟩ := r
      obtain rfl : result₁ = result' := hresult'
      simp only at hleaves' ⊢
      by_cases hzero' : result₁ = 0
      · rw [if_neg (not_not.2 hzero')]
        exact ⟨fun h => ⟨(hleaves'.kept h.2.1).1.trans hsession,
          (hleaves'.kept h.2.1).2.trans hallowed⟩,
          fun hnot => hleaves'.down fun hclean' => hnot ⟨⟨hclean, hzero⟩, hclean', hzero'⟩⟩
      · rw [if_pos hzero']
        exact ⟨fun h => absurd h.2.2 hzero', fun _ => (FailsWhen.abort c).down trivial⟩
    · -- the session is gone, which the second call reports
      have hdown := hleaves.down hclean
      have hinvalid : b.enter .advanceFrame adv = (invalidSession, b) := by
        simp [App.enter, hdown.1]
      rw [hinvalid]
      exact ⟨fun h => absurd h.1.1 hclean, fun _ => (FailsWhen.abort b).down trivial⟩
  · rw [if_pos hzero]
    exact ⟨fun h => absurd h.1.2 hzero, fun _ => (FailsWhen.abort b).down trivial⟩

/-- **The callback lemma.**  A script aborts the match of an open session exactly if it is not
clean, by induction on the script. -/
lemma runScript {n : ℕ} (script : Script) (hn : a.process.ggpo = some n) :
    Leaves script.Clean a (App.runScript script a).2 ∧
      (App.runScript script a).1 = script.result := by
  induction script generalizing a with
  | done result => exact ⟨refl, rfl⟩
  | save full rest ih =>
    cases full with
    | false =>
      obtain ⟨hleaves, hresult⟩ := ih hn
      exact ⟨⟨fun h => hleaves.kept h.2, fun hnot => hleaves.down fun h => hnot ⟨rfl, h⟩⟩, hresult⟩
    | true =>
      have hdown : (App.runScript rest a.abortGgpoMatch).2.IsDown :=
        ((FailsWhen.abort a).down trivial).delivers (App.delivers_runScript rest _)
      exact ⟨⟨fun h => absurd h.1 (by simp), fun _ => hdown⟩, result_runScript rest _⟩
  | load rest ih => exact ih hn
  | free rest ih => exact ih hn
  | event code rest ih =>
    obtain ⟨hsession, -, hallowed⟩ := event_same a code
    obtain ⟨hleaves, hresult⟩ := ih (hsession.trans hn)
    refine ⟨⟨fun h => ?_, hleaves.down⟩, hresult⟩
    exact ⟨(hleaves.kept h).1.trans hsession, (hleaves.kept h).2.trans hallowed⟩
  | advance sync adv rest ihsync ihadv ihrest =>
    have hcallback := advance hn (fun a ha => ihsync ha) (fun a ha => ihadv ha)
    refine ⟨?_, result_runScript rest _⟩
    have hall := hcallback.trans (fun hclean => (ihrest ((hcallback.kept hclean).1.trans hn)).1)
      (App.delivers_runScript rest _)
    exact ⟨fun h => hall.kept ⟨⟨h.1, h.2.1⟩, h.2.2⟩,
      fun hnot => hall.down fun h => hnot ⟨h.1.1, h.1.2, h.2⟩⟩

/-- An entry point of an open session that does what a script says. -/
lemma call {n : ℕ} (f : EntryPoint) (script : Script) (hn : a.process.ggpo = some n) :
    Leaves script.Clean a (a.call f script).2 ∧ (a.call f script).1 = script.result :=
  enter hn fun _ ha => runScript script ha

end Leaves

lemma call_of_closed {a : App} (ha : a.process.ggpo = none) (f : EntryPoint) (script : Script) :
    a.call f script = (invalidSession, a) := by
  simp [App.call, App.enter, ha]

/-! ### The frame update -/

namespace Leaves

variable {a b c : App} {clean : Prop}

lemma of_failure (hdown : b.IsDown) (hnot : ¬ clean) : Leaves clean a b :=
  ⟨fun h => absurd h hnot, fun _ => hdown⟩

lemma of_kept (h : b.process.ggpo = a.process.ggpo ∧
    b.process.bUpdateAllowed = a.process.bUpdateAllowed) (hclean : clean) : Leaves clean a b :=
  ⟨fun _ => h, fun hnot => absurd hclean hnot⟩

lemma advanceBattle {n : ℕ} (sync adv : Script) (hn : a.process.ggpo = some n) :
    Leaves (¬ SyncFails sync adv) a (a.advanceBattle sync adv) := by
  obtain ⟨hleaves, hresult⟩ := call .synchronizeInput sync hn
  simp only [App.advanceBattle]
  generalize a.call .synchronizeInput sync = r at hleaves hresult
  obtain ⟨result, b⟩ := r
  obtain rfl : result = sync.result := hresult
  simp only at hleaves ⊢
  by_cases hclean : sync.Clean
  · have hkept := hleaves.kept hclean
    cases hpolicy : classifyGgpoResult sync.result with
    | «continue» =>
      obtain ⟨hleaves', hresult'⟩ := call .advanceFrame adv (hkept.1.trans hn)
      simp only
      generalize b.call .advanceFrame adv = r at hleaves' hresult'
      obtain ⟨err, c⟩ := r
      obtain rfl : err = adv.result := hresult'
      simp only at hleaves' ⊢
      by_cases herr : adv.result = 0
      · rw [if_neg (not_not.2 herr)]
        by_cases hadv : adv.Clean
        · have hkept' := hleaves'.kept hadv
          refine of_kept ⟨hkept'.1.trans hkept.1, hkept'.2.trans hkept.2⟩ ?_
          simp [SyncFails, hclean, hpolicy, hadv, herr]
        · exact of_failure (hleaves'.down hadv) (by simp [SyncFails, hpolicy, hadv])
      · rw [if_pos herr]
        exact of_failure ((FailsWhen.abort c).down trivial) (by simp [SyncFails, hpolicy, herr])
    | fatal =>
      exact of_failure ((FailsWhen.abort b).down trivial) (by simp [SyncFails, hpolicy])
    | stallPrediction => exact of_kept hkept (by simp [SyncFails, hclean, hpolicy])
    | skipNotSynced => exact of_kept hkept (by simp [SyncFails, hclean, hpolicy])
    | skipOther => exact of_kept hkept (by simp [SyncFails, hclean, hpolicy])
  · -- the session is gone already
    have hdown := hleaves.down hclean
    refine of_failure ?_ (by simp [SyncFails, hclean])
    cases classifyGgpoResult sync.result with
    | «continue» =>
      simp only [call_of_closed hdown.1]
      exact (FailsWhen.abort b).down trivial
    | fatal => exact (FailsWhen.abort b).down trivial
    | stallPrediction => exact hdown
    | skipNotSynced => exact hdown
    | skipOther => exact hdown

/-- What leaves an open session alone may come before. -/
lemma after_kept (h : Leaves clean b c) (hkept : b.process.ggpo = a.process.ggpo ∧
    b.process.bUpdateAllowed = a.process.bUpdateAllowed) : Leaves clean a c :=
  ⟨fun hclean => ⟨(h.kept hclean).1.trans hkept.1, (h.kept hclean).2.trans hkept.2⟩, h.down⟩

/-- A frame of an open session. -/
lemma battleUpdate {n : ℕ} (addInput sync adv : Script) (hn : a.process.ggpo = some n)
    (hmay : a.process.mayAdvanceDeterministicFrame = true) :
    Leaves (¬ FrameFails a.process.localPlayer addInput sync adv) a
      (a.battleUpdate false addInput sync adv) := by
  have hopen : a.process.ggpo.isSome = true := by simp [hn]
  simp only [App.battleUpdate, hmay, hopen, Bool.not_true, Bool.false_eq_true, if_false,
    Bool.not_false, Bool.and_true, if_true]
  cases hlocal : a.process.localPlayer with
  | false =>
    -- without a local player there is no input to add
    have hsync := advanceBattle sync adv hn
    refine ⟨fun h => hsync.kept fun hfails => h ?_, fun hnot => hsync.down fun h => hnot ?_⟩
    · simp [FrameFails, hfails]
    · simp [FrameFails, h]
  | true =>
    obtain ⟨hleaves, hresult⟩ := call .addLocalInput addInput hn
    simp only [if_true]
    generalize a.call .addLocalInput addInput = r at hleaves hresult
    obtain ⟨result, b⟩ := r
    obtain rfl : result = addInput.result := hresult
    simp only at hleaves ⊢
    by_cases hclean : addInput.Clean
    · have hkept := hleaves.kept hclean
      cases hpolicy : classifyGgpoResult addInput.result with
      | «continue» =>
        have hsync := (advanceBattle sync adv (hkept.1.trans hn)).after_kept hkept
        simp only [FrameFails, hclean, hpolicy]
        simpa using hsync
      | fatal =>
        exact of_failure ((FailsWhen.abort b).down trivial) (by simp [FrameFails, hpolicy])
      | stallPrediction => exact of_kept hkept (by simp [FrameFails, hclean, hpolicy])
      | skipNotSynced => exact of_kept hkept (by simp [FrameFails, hclean, hpolicy])
      | skipOther => exact of_kept hkept (by simp [FrameFails, hclean, hpolicy])
    · have hdown := hleaves.down hclean
      refine of_failure ?_ (by simp [FrameFails, hclean])
      cases classifyGgpoResult addInput.result with
      | «continue» => exact hdown.delivers (App.delivers_advanceBattle sync adv)
      | fatal => exact (FailsWhen.abort b).down trivial
      | stallPrediction => exact hdown
      | skipNotSynced => exact hdown
      | skipOther => exact hdown

end Leaves

lemma FailsWhen.of_leaves {codes : List EventCode} {a b : App} {clean : Prop}
    (hdelivers : Delivers codes a b) (hleaves : Leaves clean a b) : FailsWhen (¬ clean) a b :=
  ⟨paused_delivers hdelivers, hleaves.down,
    fun hclean _ hallowed => (hleaves.kept (not_not.1 hclean)).2.trans hallowed⟩

/-- The frame update. -/
lemma FailsWhen.battleUpdate (a : App) (flowIdle : Bool) (addInput sync adv : Script) :
    FailsWhen (a.process.mayAdvanceDeterministicFrame = true ∧ a.process.ggpo.isSome = true ∧
        flowIdle = false ∧ FrameFails a.process.localPlayer addInput sync adv) a
      (a.battleUpdate flowIdle addInput sync adv) := by
  by_cases hruns : a.process.mayAdvanceDeterministicFrame = true ∧
      a.process.ggpo.isSome = true ∧ flowIdle = false
  · obtain ⟨hmay, hopen, rfl⟩ := hruns
    obtain ⟨n, hn⟩ := Option.isSome_iff_exists.1 hopen
    refine (FailsWhen.of_leaves (App.delivers_battleUpdate ..)
      (Leaves.battleUpdate addInput sync adv hn hmay)).of_iff ?_
    simp [hmay, hopen]
  · have hsame : a.battleUpdate flowIdle addInput sync adv = a := by
      unfold App.battleUpdate
      split
      · rfl
      · rename_i hmay
        have hmay' : a.process.mayAdvanceDeterministicFrame = true := by simpa using hmay
        rw [if_neg]
        intro hfight
        simp only [Bool.and_eq_true, Bool.not_eq_true'] at hfight
        exact hruns ⟨hmay', hfight⟩
    rw [hsame]
    exact FailsWhen.refl.of_iff (iff_false_intro fun h => hruns ⟨h.1, h.2.1, h.2.2.1⟩)

/-- `ggpo_idle`. -/
lemma FailsWhen.idle (a : App) (script : Script) :
    FailsWhen (a.process.ggpo.isSome = true ∧ ¬ script.Clean) a (a.idle script) := by
  by_cases hopen : a.process.ggpo.isSome = true
  · obtain ⟨n, hn⟩ := Option.isSome_iff_exists.1 hopen
    have hleaves : Leaves script.Clean a (a.idle script) := by
      rw [App.idle, if_pos hopen]
      exact (Leaves.call .idle script hn).1
    exact (FailsWhen.of_leaves (App.delivers_idle script) hleaves).of_iff (by simp [hopen])
  · rw [App.idle, if_neg hopen]
    exact FailsWhen.refl.of_iff (by simp [hopen])

/-! ### The room and the tick -/

namespace FailsWhen

variable {a b : App}

lemma of_roomStep (h : RoomStep a b) : FailsWhen False a b := by
  cases h
  exact .of_same rfl rfl

lemma closeDeferred (a : App) (now : ℕ) : FailsWhen False a (a.closeDeferred now) := by
  unfold App.closeDeferred
  split
  · simp only
    split
    · exact .of_same rfl rfl
    · exact .of_same (paused_retire _) (allowed_retire _)
  · exact .refl

/-- The tick aborts a match only while frames are forbidden. -/
lemma checkSyncTimeout (a : App) (now : ℕ) : FailsWhen False a (a.checkSyncTimeout now) := by
  unfold App.checkSyncTimeout
  split
  · rename_i htimeout
    refine ⟨paused_retire _, False.elim, fun _ _ hallowed => ?_⟩
    simp [App.syncTimedOut, hallowed] at htimeout
  · exact .refl

lemma tickFrame (a : App) (mainMenu : Bool) (now : ℕ) :
    FailsWhen False a (a.tickFrame mainMenu now) :=
  (closeDeferred _ now).after ((checkSyncTimeout _ now).after
    (of_roomStep (.tryStartPendingMatch a mainMenu)))

lemma handleNetplayFailure (a : App) :
    FailsWhen (a.process.ggpo.isSome = true) a a.handleNetplayFailure := by
  unfold App.handleNetplayFailure
  split
  · rename_i hopen
    refine (of_failure (paused_retire _) ⟨ggpo_retireGgpoSession _, ?_⟩).of_iff
      (iff_true_intro hopen)
    exact allowed_retire _
  · rename_i hclosed
    exact (FailsWhen.shutdownNetplay a).of_iff (iff_false_intro hclosed)

lemma handleControlPlaneLoss (a : App) (engine : App.Engine) :
    FailsWhen (a.LossFails engine) a (a.handleControlPlaneLoss engine) := by
  unfold App.handleControlPlaneLoss
  split
  · rename_i hlost
    exact FailsWhen.refl.of_iff (by simp [App.LossFails, hlost])
  · rename_i hlost
    split
    · rename_i hgives
      refine (handleNetplayFailure a).of_iff ?_
      have hgives' : a.fightRunning engine = false ∨ a.relayActive = true := by simpa using hgives
      simp [App.LossFails, hlost, hgives']
    · rename_i hgoes
      have hgoes' : ¬ (a.fightRunning engine = false ∨ a.relayActive = true) := by simpa using hgoes
      have hnot : ¬ a.LossFails engine := fun h => hgoes' h.2.2
      exact FailsWhen.of_iff (FailsWhen.of_same rfl rfl) (iff_false_intro hnot)

/-- The connection is lost, comes up, or is changed otherwise. -/
lemma statusChanged (a : App) (oldState newState : App.ConnectionState) (engine : App.Engine) :
    FailsWhen (a.netplay.isSome = true ∧ oldState = .connected ∧ newState.IsLoss ∧
      a.LossFails engine) a (a.onSteamNetConnectionStatusChanged oldState newState engine) := by
  have hclient : ∀ netplay : Option Client, FailsWhen False a { a with netplay := netplay } :=
    fun _ => .of_same rfl rfl
  unfold App.onSteamNetConnectionStatusChanged
  split
  · rename_i hnone
    exact FailsWhen.refl.of_iff (by simp [hnone])
  · rename_i c hc
    simp only
    split
    · rename_i hloss
      split
      · rename_i hmatch
        obtain ⟨rfl, hopen⟩ : oldState = .connected ∧ a.process.ggpo.isSome = true := by
          simpa using hmatch
        refine ((handleControlPlaneLoss _ engine).after (hclient _)).of_iff ?_
        simp [hc, hloss, App.LossFails, App.fightRunning]
      · rename_i hmatch
        refine (hclient _).of_iff (iff_false_intro fun h => hmatch ?_)
        simp [h.2.1, h.2.2.2.1]
    · rename_i hloss
      have hnot : (a.netplay.isSome = true ∧ oldState = .connected ∧ newState.IsLoss ∧
          a.LossFails engine) ↔ False := iff_false_intro fun h => hloss h.2.2.1
      split
      · exact (hclient _).of_iff hnot
      · exact FailsWhen.refl.of_iff hnot

lemma exitForeground (a : App) : FailsWhen False a a.exitForeground := by
  unfold App.exitForeground App.resetLobbyForRematch
  simp only
  repeat' split
  all_goals exact .of_same rfl rfl

/-! ### Battles -/

lemma closeBattle (a : App) (now later : ℕ) : FailsWhen False a (a.closeBattle now later) := by
  have hclosing : a.process.simGate.onBattleClosing.manualPause =
      a.process.simGate.manualPause := by
    unfold GgpoGateModel.onBattleClosing
    split <;> rfl
  have hsession : FailsWhen False a (a.closeSession now later) := by
    unfold App.closeSession
    split
    · simp only
      split
      · exact .of_same hclosing rfl
      · exact .of_same ((paused_retire _).trans hclosing) (allowed_retire _)
    · exact .refl
  have hbattle : FailsWhen False a { a.closeSession now later with battle := false } :=
    hsession.before rfl rfl rfl
  unfold App.closeBattle App.finalizeControlPlaneLossAfterBattle
  split
  · exact (FailsWhen.shutdownNetplay _).after hbattle
  · exact hbattle

/-- The start of a session allows frames unless the player has paused. -/
lemma prepareSession (a : App) : FailsWhen False a a.prepareSession := by
  have hpause : a.prepareSession.paused = a.paused :=
    paused_retire { a.process with defer := a.process.defer.cancelDeferredGgpoClose }
  refine ⟨hpause, False.elim, fun _ hpaused _ => ?_⟩
  have hallowed : a.prepareSession.process.bUpdateAllowed = !a.prepareSession.paused := rfl
  rw [hallowed, hpause, hpaused]
  rfl

lemma addPlayers (players : List (ℤ × Bool)) (a : App) :
    FailsWhen (∃ player ∈ players, player.1 ≠ 0) a (App.addPlayers players a) := by
  induction players generalizing a with
  | nil => exact FailsWhen.refl.of_iff (by simp)
  | cons player players ih =>
    obtain ⟨result, isLocal⟩ := player
    unfold App.addPlayers
    split
    · rename_i hresult
      exact (FailsWhen.abort a).of_iff (iff_true_intro ⟨_, List.mem_cons_self, hresult⟩)
    · rename_i hresult
      have hlocal : FailsWhen False a { a with process :=
          { a.process with localPlayer := a.process.localPlayer || isLocal } } := .of_same rfl rfl
      have hadded := (ih _).after hlocal
      refine hadded.of_iff ⟨?_, ?_⟩
      · rintro ⟨player, hmem, hfails⟩
        rcases List.mem_cons.1 hmem with rfl | hmem
        · exact absurd hfails hresult
        · exact ⟨player, hmem, hfails⟩
      · rintro ⟨player, hmem, hfails⟩
        exact ⟨player, List.mem_cons_of_mem _ hmem, hfails⟩

lemma startGGPO (a : App) (result : ℤ) (players : List (ℤ × Bool)) :
    FailsWhen (result ≠ 0 ∨ ∃ player ∈ players, player.1 ≠ 0) a (a.startGGPO result players) := by
  unfold App.startGGPO
  split
  · rename_i hresult
    exact ((FailsWhen.abort _).after (prepareSession a)).of_iff (iff_true_intro (.inl hresult))
  · rename_i hresult
    have hnew : FailsWhen False a.prepareSession a.prepareSession.newSession := .of_same rfl rfl
    have hadded := ((addPlayers players _).after hnew).after (prepareSession a)
    exact hadded.of_iff (by simp [hresult])

lemma startSpectating (a : App) (result : ℤ) : FailsWhen False a (a.startSpectating result) := by
  unfold App.startSpectating
  split
  · exact prepareSession a
  · have hnew : FailsWhen False a.prepareSession a.prepareSession.newSession := .of_same rfl rfl
    exact hnew.after (prepareSession a)

lemma startTransport (a : App) (m : App.MatchStart) (legacy udp : Bool) :
    FailsWhen (m.Fails legacy) a (a.startTransport m legacy udp) := by
  have hrelay : FailsWhen False a
      (if legacy then { a with relayActive := m.relayStarts } else a) := by
    split
    · exact .of_same rfl rfl
    · exact .refl
  unfold App.startTransport
  generalize (if legacy then { a with relayActive := m.relayStarts } else a) = b at hrelay ⊢
  simp only
  split
  · rename_i hstops
    have hstops' : legacy = true ∧ m.relayStarts = false := by simpa using hstops
    refine hrelay.of_iff (iff_false_intro fun h => ?_)
    simpa [hstops'.2] using h.1 hstops'.1
  · rename_i hgoes
    have hgoes' : legacy = true → m.relayStarts = true := by simpa using hgoes
    split
    · rename_i hremote
      refine ((FailsWhen.abort b).after hrelay).of_iff (iff_true_intro ⟨hgoes', .inl ?_⟩)
      simpa using hremote
    · rename_i hremote
      have hstart := ((startGGPO b m.result m.players).before
        (c := (b.startGGPO m.result m.players).resetGgpoBattleWatch m.now udp) rfl rfl rfl).after
          hrelay
      have hresolved : m.remoteResolved = true := by simpa using hremote
      refine hstart.of_iff ⟨fun h => ?_, fun h => ⟨hgoes', .inr h⟩⟩
      exact h.2.resolve_left (by simp [hresolved])

lemma releasePrevious (a : App) : FailsWhen False a a.releasePrevious := by
  unfold App.releasePrevious
  split
  · exact .of_same (paused_retire _) (allowed_retire _)
  · exact .refl

lemma startPlayer (a : App) (c : Client) (m : App.MatchStart) :
    FailsWhen (m.FailsFor c) a (a.startPlayer c m) := by
  have hreport : ∀ (b : App) mode legacy,
      FailsWhen False b (b.reportGgpoTransport mode legacy) := fun _ _ _ => .of_same rfl rfl
  unfold App.startPlayer App.MatchStart.FailsFor
  cases m.transport with
  | vps prepared effective =>
    simp only
    have hbefore := fun legacy =>
      (hreport a.releasePrevious effective.code legacy).after (releasePrevious a)
    split
    · rename_i hprepared
      refine ((FailsWhen.abort _).after (hbefore false)).of_iff (iff_true_intro (.inl ?_))
      simpa using hprepared
    · rename_i hprepared
      refine ((startTransport _ m _ _).after (hbefore _)).of_iff ?_
      have hprepared' : prepared = true := by simpa using hprepared
      simp [hprepared']
  | vpsMissing => exact (FailsWhen.abort _).after (hreport a 1 false)
  | «local» => exact startTransport a m c.useRelay false

lemma registerTasks (a : App) (role : App.Role) :
    FailsWhen (a.onTasksRegistered = true ∧ a.StartFails role) a (a.registerTasks role) := by
  have hset : FailsWhen False a { a with battle := true } := .of_same rfl rfl
  unfold App.registerTasks
  simp only
  split
  · rename_i harmed
    refine FailsWhen.before (b := App.onVsBattleTasksRegistered { a with battle := true } role) ?_
      rfl rfl rfl
    unfold App.onVsBattleTasksRegistered
    split
    · rename_i hnone
      refine hset.of_iff (iff_false_intro fun h => ?_)
      cases role with
      | player m =>
        obtain ⟨-, c, hc, -⟩ := h
        simp [show a.netplay = none from hnone] at hc
      | spectator result => exact h.2
    · rename_i c hc
      have hc' : a.netplay = some c := hc
      split
      · rename_i hfew
        refine hset.of_iff (iff_false_intro fun h => ?_)
        cases role with
        | player m =>
          obtain ⟨-, c', hc'', henough, -⟩ := h
          obtain rfl : c = c' := Option.some.inj (hc'.symm.trans hc'')
          omega
        | spectator result => exact h.2
      · rename_i henough
        cases role with
        | player m =>
          refine ((startPlayer _ c m).after hset).of_iff ?_
          simp [harmed, App.StartFails, hc', Nat.le_of_not_lt henough]
        | spectator result =>
          exact ((startSpectating _ result).after hset).of_iff (iff_false_intro fun h => h.2)
  · rename_i hunarmed
    exact hset.of_iff (iff_false_intro fun h => hunarmed h.1)

end FailsWhen

/-! ## Steps -/

/-- An event that is no control. -/
lemma FailsWhen.event {a b : App} {ev : Event} {o : Unit} (hcontrol : ¬ ev.IsControl)
    (hnext : a.next ev = some (o, b)) : FailsWhen (ev.FailsIn a) a b := by
  cases ev with
  | battleUpdate flowIdle addInput sync adv => exact absurd trivial hcontrol
  | setPaused paused => exact absurd trivial hcontrol
  | idle script =>
    cases hnext
    exact .idle a script
  | tickFrame mainMenu now =>
    cases hnext
    exact .tickFrame a mainMenu now
  | statusChanged oldState newState engine =>
    cases hnext
    exact .statusChanged a oldState newState engine
  | clientStep received mainMenu =>
    cases hnext
    exact .of_roomStep (.clientStep a received mainMenu)
  | stepFailed engine =>
    cases hnext
    exact .handleControlPlaneLoss a engine
  | registerTasks role =>
    simp only [App.next] at hnext
    split at hnext
    · cases hnext
    · cases hnext
      exact .registerTasks a role
  | closeBattle now later =>
    simp only [App.next] at hnext
    split at hnext
    · cases hnext
      exact .closeBattle a now later
    · cases hnext
  | hasInitialized initialized blocked =>
    cases hnext
    exact .of_roomStep (.hasInitialized a initialized blocked)
  | exitForeground =>
    cases hnext
    exact .exitForeground a
  | disconnect =>
    cases hnext
    exact (FailsWhen.shutdownNetplay a).before rfl rfl rfl
  | startSession conn useRelay =>
    cases hnext
    exact .of_same rfl rfl
  | startServer listens =>
    cases hnext
    exact .of_same rfl rfl

/-- A frame of an open session gets to its end exactly if it passes. -/
lemma reachesEnd_iff {a : App} {n : ℕ} {addInput sync : Script} (hn : a.process.ggpo = some n)
    (hmay : a.process.mayAdvanceDeterministicFrame = true) :
    a.reachesEnd false addInput sync = true ↔ FramePasses a.process.localPlayer addInput sync := by
  have hopen : a.process.ggpo.isSome = true := by simp [hn]
  simp only [App.reachesEnd, hmay, hopen, Bool.not_true, Bool.false_eq_true, if_false,
    Bool.not_false, Bool.and_true, if_true, Bool.and_eq_true, decide_eq_true_eq, FramePasses]
  cases hlocal : a.process.localPlayer with
  | false =>
    have hzero : classifyGgpoResult 0 = .continue := rfl
    simp [hzero, (Leaves.call .synchronizeInput sync hn).2]
  | true =>
    obtain ⟨hleaves, hresult⟩ := Leaves.call .addLocalInput addInput hn
    simp only [if_true, forall_const, hresult]
    generalize (a.call .addLocalInput addInput).2 = b at hleaves
    by_cases hclean : addInput.Clean
    · have hsync := Leaves.call .synchronizeInput sync ((hleaves.kept hclean).1.trans hn)
      simp [hclean, hsync.2]
    · -- the session is gone, which the next call reports
      have hinvalid : classifyGgpoResult invalidSession = .fatal := rfl
      simp [hclean, call_of_closed (hleaves.down hclean).1, hinvalid]

namespace Console

/-- The invariant: frames are forbidden by the player's pause only. -/
def Allowed (c : Console) : Prop :=
  c.app.process.bUpdateAllowed = true ∨ c.app.paused = true

variable {c c' : Console}

lemma Allowed.framesResume (h : c.Allowed) : c.FramesResume := by
  intro hclosed hnot
  have hflag : c.app.process.bUpdateAllowed = false := by
    simpa [Process.mayAdvanceDeterministicFrame, hclosed] using hnot
  exact h.resolve_left (by simp [hflag])

/-- Frames do not resume where they are forbidden without a pause. -/
lemma not_framesResume (hdown : c.app.IsDown) (hpause : c.app.paused = false) :
    ¬ c.FramesResume := by
  intro h
  have hpaused := h hdown.1 (by simp [Process.mayAdvanceDeterministicFrame, hdown.1, hdown.2])
  simp [hpause] at hpaused

lemma Allowed.of_failsWhen {fails : Prop} (h : c.Allowed) (hstep : FailsWhen fails c.app c'.app)
    (hok : fails → c.app.paused = true) : c'.Allowed := by
  by_cases hpaused : c.app.paused = true
  · exact .inr (hstep.pause.trans hpaused)
  · refine .inl (hstep.allowed (mt hok hpaused) (by simpa using hpaused) (h.resolve_right hpaused))

/-- A frame that fails without a halt, and one that halts. -/
lemma battleUpdate_cases (c : Console) (flowIdle : Bool) (addInput sync adv : Script) :
    FailsWhen (ConsoleAction.FailsIn c (.battleUpdate flowIdle addInput sync adv)) c.app
        (c.battleUpdate flowIdle addInput sync adv).app ∨
      (c.battleUpdate flowIdle addInput sync adv).app.paused = true ∧
        ¬ ConsoleAction.FailsIn c (.battleUpdate flowIdle addInput sync adv) := by
  have hframe := FailsWhen.battleUpdate c.app flowIdle addInput sync adv
  unfold battleUpdate
  simp only
  split
  · rename_i hhalts
    obtain ⟨hends, hhalt⟩ : c.app.reachesEnd flowIdle addInput sync = true ∧
        c.bHaltAfterNext = true := by simpa using hhalts
    refine .inr ⟨rfl, ?_⟩
    rintro ⟨hmay, hopen, rfl, -, hnot⟩
    obtain ⟨n, hn⟩ := Option.isSome_iff_exists.1 hopen
    exact hnot ⟨hhalt, (reachesEnd_iff hn hmay).1 hends⟩
  · rename_i hhalts
    refine .inl (hframe.of_iff ⟨?_, ?_⟩)
    · rintro ⟨hmay, hopen, hflow, hfails, -⟩
      exact ⟨hmay, hopen, hflow, hfails⟩
    · rintro ⟨hmay, hopen, rfl, hfails⟩
      refine ⟨hmay, hopen, rfl, hfails, ?_⟩
      rintro ⟨hhalt, hpasses⟩
      obtain ⟨n, hn⟩ := Option.isSome_iff_exists.1 hopen
      exact hhalts (by simp [(reachesEnd_iff hn hmay).2 hpasses, hhalt])

end Console

/-- **The step lemma.**  A failure that comes while the player has not paused forbids frames for
good; every other step keeps them allowed. -/
lemma framesResume_step {e : Entry Console ConsoleAction Unit} (hallowed : e.pre.Allowed)
    (hstep : consoleLTS.Steps e) :
    (FailsPaused e → e.post.Allowed) ∧ (¬ FailsPaused e → ¬ e.post.FramesResume) := by
  obtain ⟨c, act, o, c'⟩ := e
  have hnext : c.next act = some (o, c') := hstep
  simp only [FailsPaused] at hallowed ⊢
  -- what a failure does, once it is known that the step fails as the condition says
  have hgeneral : FailsWhen (act.FailsIn c) c.app c'.app →
      ((act.FailsIn c → c.app.paused = true) → c'.Allowed) ∧
        (¬ (act.FailsIn c → c.app.paused = true) → ¬ c'.FramesResume) := by
    intro h
    refine ⟨fun hok => hallowed.of_failsWhen h hok, fun hnot => ?_⟩
    obtain ⟨hfails, hpaused⟩ := Classical.not_imp.1 hnot
    exact Console.not_framesResume (h.down hfails) (h.pause.trans (by simpa using hpaused))
  cases act with
  | press b =>
    cases hnext
    refine ⟨fun _ => ?_, fun hnot => absurd (fun h => h.elim) hnot⟩
    cases b with
    | pause => exact .inr rfl
    | play => exact .inl rfl
    | haltAfterNext => exact hallowed
    | step => exact .inl rfl
  | battleUpdate flowIdle addInput sync adv =>
    cases hnext
    rcases c.battleUpdate_cases flowIdle addInput sync adv with hframe | ⟨hpaused, hnot⟩
    · exact hgeneral hframe
    · exact ⟨fun _ => .inr hpaused, fun hfails => absurd (fun h => absurd h hnot) hfails⟩
  | event ev =>
    simp only [Console.next] at hnext
    split at hnext
    · cases hnext
    · rename_i hcontrol
      obtain ⟨⟨o', b⟩, hev, heq⟩ := Option.map_eq_some_iff.1 hnext
      cases heq
      exact hgeneral (.event hcontrol hev)

/-- **Frames after netplay.**  In a run frames resume in every state without a session exactly if
every failure comes while the player has paused. -/
theorem framesResume_iff {log : ConsoleLog} {c : Console} (hrun : consoleLTS.Run log c) :
    (∀ e ∈ log, e.post.FramesResume) ↔ ∀ e ∈ log, FailsPaused e := by
  suffices h : (∀ e ∈ log, FailsPaused e) ∧ (∀ e ∈ log, e.post.FramesResume) ∧ c.Allowed ∨
      ¬ (∀ e ∈ log, FailsPaused e) ∧ ¬ ∀ e ∈ log, e.post.FramesResume by
    rcases h with ⟨hfails, hresume, -⟩ | ⟨hfails, hresume⟩
    · exact iff_of_true hresume hfails
    · exact iff_of_false hresume hfails
  refine hrun.invariant_of_step (fun log c =>
    (∀ e ∈ log, FailsPaused e) ∧ (∀ e ∈ log, e.post.FramesResume) ∧ c.Allowed ∨
      ¬ (∀ e ∈ log, FailsPaused e) ∧ ¬ ∀ e ∈ log, e.post.FramesResume) (fun c hc => ?_)
    fun log e h hstep => ?_
  · obtain rfl : c = {} := hc
    exact .inl ⟨by simp, by simp, .inl rfl⟩
  · rcases h with ⟨hfails, hresume, hallowed⟩ | ⟨hfails, hresume⟩
    · obtain ⟨hkeeps, hbreaks⟩ := framesResume_step hallowed hstep
      by_cases he : FailsPaused e
      · have hpost := hkeeps he
        exact .inl ⟨List.forall_mem_cons.2 ⟨he, hfails⟩,
          List.forall_mem_cons.2 ⟨hpost.framesResume, hresume⟩, hpost⟩
      · exact .inr ⟨fun h => he (List.forall_mem_cons.1 h).1,
          fun h => hbreaks he (List.forall_mem_cons.1 h).1⟩
    · exact .inr ⟨fun h => hfails (List.forall_mem_cons.1 h).2,
        fun h => hresume (List.forall_mem_cons.1 h).2⟩

/-- A list of actions whose log passes a test gives a run. -/
lemma exists_consoleRun_of_exec (actions : List ConsoleAction) {p : ConsoleLog → Console → Prop}
    [∀ log c, Decidable (p log c)]
    (h : (LTS.exec Console.next {} [] actions).any (fun r => decide (p r.1 r.2)) = true) :
    ∃ log c, consoleLTS.Run log c ∧ p log c := by
  obtain ⟨log, c, hpath, hp⟩ := LTS.exists_path_of_exec actions h
  exact ⟨log, c, ⟨{}, rfl, hpath⟩, hp⟩

/-- A player is in a room with an opponent, and a match is about to start. -/
def readyActions : List ConsoleAction :=
  [.event (.startSession true false), .event (.statusChanged .connecting .connected ⟨true, 0⟩),
    .event (.clientStep (some [.dataUpdate 2, .allReady]) true)]

/-- The start of a match on a direct connection, with the result of `ggpo_start_session`. -/
def startAction (result : ℤ) : ConsoleAction :=
  .event (.registerTasks (.player ⟨.local, true, true, result, [(0, true), (0, false)], 1000⟩))

/-- A match is played to its end with a single step in it, and the next one does not start while
the player has paused. -/
theorem framesResume_iff_paused_start : ∃ (log : ConsoleLog) (c : Console),
    consoleLTS.Run log c ∧ c.app.aborts = 1 ∧ c.app.process.ggpo = none ∧
      (∀ e ∈ log, e.post.FramesResume) ∧ ∀ e ∈ log, FailsPaused e := by
  obtain ⟨log, c, hrun, haborts, hclosed, hresume⟩ := exists_consoleRun_of_exec
    (readyActions ++ [startAction 0, .event (.idle (.event .running (.done 0))), .press .step,
      .battleUpdate false (.done 0) (.done 0) (.done 0), .press .play,
      .event (.closeBattle 5000 5000), .event (.clientStep (some [.allReady]) true),
      .press .pause, startAction 1])
    (p := fun log c => c.app.aborts = 1 ∧ c.app.process.ggpo = none ∧
      ∀ e ∈ log, e.post.FramesResume)
    (by decide +kernel)
  exact ⟨log, c, hrun, haborts, hclosed, hresume, (framesResume_iff hrun).1 hresume⟩

/-- `ggpo_start_session` fails, and no frame may advance afterwards. -/
theorem not_framesResume_failed_start : ¬ ∀ (log : ConsoleLog) (c : Console),
    consoleLTS.Run log c → ∀ e ∈ log, e.post.FramesResume := by
  intro h
  obtain ⟨log, c, hrun, hnot⟩ := exists_consoleRun_of_exec (readyActions ++ [startAction 1])
    (p := fun log _ => ¬ ∀ e ∈ log, e.post.FramesResume) (by decide +kernel)
  exact hnot (h log c hrun)

end UserApp
end Sf4e
