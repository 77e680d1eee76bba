/-
# The lifetime of a GGPO session

GGPO calls back into the program from inside its own functions, and the program closes the
session from many places.  What GGPO does inside one of its entry points is a `Script`: the
callbacks it makes, in any order, and the result it returns; the advance callback calls two
entry points again, so a script has scripts inside.  The program keeps a trace of the entry
points of each session and of its closes.

The frame update and the tick retire a session between GGPO's calls, which is in order.  The
save callback and the advance callback abort the match from inside: when the save pool is
full, and when one of the two nested calls fails.  Apart from these two the closes are in
order (`sessionLifetime_of_clean`, `not_sessionLifetime_full_pool`).
-/
import Sf4e.Netplay.Facade
import Sf4e.Netplay.Gate
import Sf4e.Trace.LTS

namespace Sf4e
namespace Ggpo

open Trace NetplayFacade

/-! ## Calls -/

/-- The entry points of GGPO that call back. -/
inductive EntryPoint
  | idle
  | addLocalInput
  | synchronizeInput
  | advanceFrame
deriving DecidableEq

/-- What happens to sessions, which are numbered. -/
inductive Call
  /-- An entry point of a session is called. -/
  | enter (f : EntryPoint) (session : ℕ)
  /-- The entry point called last returns. -/
  | exit
  /-- `ggpo_close_session`. -/
  | close (session : ℕ)
deriving DecidableEq

/-- The events that GGPO reports. -/
inductive EventCode
  | connectedToPeer
  | synchronizingWithPeer
  | synchronizedWithPeer
  | running
  | connectionInterrupted (now : UInt32)
  | connectionResumed
  | disconnectedFromPeer
  | timesync

/-- What GGPO does inside an entry point, from here on. -/
inductive Script
  /-- It returns. -/
  | done (result : ℤ)
  /-- It calls `save_game_state`; whether the pool is full is not GGPO's doing. -/
  | save (full : Bool) (rest : Script)
  | load (rest : Script)
  | free (rest : Script)
  | event (code : EventCode) (rest : Script)
  /-- It calls `advance_frame`, and does what the two scripts say inside the two entry points
  that the callback calls. -/
  | advance (sync advance rest : Script)

/-- The result that a script returns. -/
def Script.result : Script → ℤ
  | .done result => result
  | .save _ rest => rest.result
  | .load rest => rest.result
  | .free rest => rest.result
  | .event _ rest => rest.result
  | .advance _ _ rest => rest.result

/-! ## The program -/

/-- The program, as far as it deals with sessions. -/
structure Process where
  /-- `ggpo`; `none` is the null pointer. -/
  ggpo : Option ℕ := none
  /-- The number of sessions so far. -/
  sessions : ℕ := 0
  simGate : GgpoGateModel := {}
  bUpdateAllowed : Bool := true
  /-- `localPlayerHandle` is valid and one of the two players is local. -/
  localPlayer : Bool := false
  defer : DeferState := {}
  /-- `s_controlPlaneLost`. -/
  controlPlaneLost : Bool := false
  /-- The calls so far, newest first. -/
  trace : List Call := []

/-- `GGPO_ERRORCODE_INVALID_SESSION`: what every entry point returns for a null pointer. -/
abbrev invalidSession : ℤ := 1

namespace Process

/-- `RetireGgpoSession`. -/
def retireGgpoSession (p : Process) : Process :=
  match p.ggpo with
  | none => p
  | some n =>
    { p with
      trace := .close n :: p.trace
      ggpo := none
      simGate := p.simGate.onSessionClosed }

/-- `AbortGgpoMatch`. -/
def abortGgpoMatch (p : Process) : Process :=
  retireGgpoSession { p with simGate := p.simGate.onFatal, bUpdateAllowed := false }

/-- `MayAdvanceDeterministicFrame`. -/
def mayAdvanceDeterministicFrame (p : Process) : Bool :=
  if p.ggpo.isNone then p.bUpdateAllowed
  else p.bUpdateAllowed && p.simGate.canAdvanceDeterministicFrame

/-! ### Callbacks -/

/-- `ggpo_save_game_state_callback`. -/
def ggpo_save_game_state_callback (p : Process) (full : Bool) : Process :=
  if full then p.abortGgpoMatch else p

/-- `ggpo_on_event_callback`. -/
def ggpo_on_event_callback (p : Process) : EventCode → Process
  | .running => { p with simGate := p.simGate.onRunning }
  | .connectionInterrupted now => { p with simGate := (p.simGate.onConnectionInterrupted now).2 }
  | .connectionResumed => { p with simGate := p.simGate.onConnectionResumed.2 }
  | .disconnectedFromPeer => { p with simGate := p.simGate.onConnectionResumed.2 }
  | _ => p

/-- Call an entry point of the current session, which does `body`. -/
def enter (p : Process) (f : EntryPoint) (body : Process → ℤ × Process) : ℤ × Process :=
  match p.ggpo with
  | none => (invalidSession, p)
  | some n =>
    let (result, p') := body { p with trace := .enter f n :: p.trace }
    (result, { p' with trace := .exit :: p'.trace })

/-- `ggpo_advance_frame_callback`. -/
def ggpo_advance_frame_callback (p : Process) (sync advance : Process → ℤ × Process) : Process :=
  let (result, p) := p.enter .synchronizeInput sync
  if result ≠ 0 then p.abortGgpoMatch
  else
    let (result, p) := p.enter .advanceFrame advance
    if result ≠ 0 then p.abortGgpoMatch else p

/-- GGPO inside an entry point. -/
def runScript : Script → Process → ℤ × Process
  | .done result, p => (result, p)
  | .save full rest, p => runScript rest (p.ggpo_save_game_state_callback full)
  | .load rest, p => runScript rest p
  | .free rest, p => runScript rest p
  | .event code rest, p => runScript rest (p.ggpo_on_event_callback code)
  | .advance sync advance rest, p =>
    runScript rest (p.ggpo_advance_frame_callback (runScript sync) (runScript advance))

/-- Call an entry point of the current session. -/
def call (p : Process) (f : EntryPoint) (script : Script) : ℤ × Process :=
  p.enter f (runScript script)

/-! ### The frame update -/

/-- The rest of `BattleUpdate`, once local input is added. -/
def advanceBattle (p : Process) (sync advance : Script) : Process :=
  let (result, p) := p.call .synchronizeInput sync
  match classifyGgpoResult result with
  | .continue =>
    let (err, p) := p.call .advanceFrame advance
    if err ≠ 0 then p.abortGgpoMatch else { p with simGate := p.simGate.onFrameAccepted }
  | .fatal => p.abortGgpoMatch
  | _ => p

/-- `BattleUpdate`, with the scripts of the three entry points it may call.  The battle flow
is idle outside of a battle. -/
def battleUpdate (p : Process) (flowIdle : Bool) (addInput sync advance : Script) : Process :=
  if !p.mayAdvanceDeterministicFrame then p
  else if p.ggpo.isSome && !flowIdle then
    let (result, p) := if p.localPlayer then p.call .addLocalInput addInput else (0, p)
    match classifyGgpoResult result with
    | .continue => p.advanceBattle sync advance
    | .stallPrediction => { p with simGate := p.simGate.onPredictionThreshold }
    | .skipNotSynced => p
    | .skipOther => p
    | .fatal => p.abortGgpoMatch
  else p

/-! ### The tick -/

/-- `NetplayFacade::ShutdownNetplay`. -/
def shutdownNetplay (p : Process) (closeGgpo : Bool) : Process :=
  let p := if closeGgpo then p.retireGgpoSession else p
  { p with defer := p.defer.clearFlags, controlPlaneLost := false }

/-- `HandleNetplayFailure`. -/
def handleNetplayFailure (p : Process) (closeGgpo : Bool) : Process :=
  if p.ggpo.isSome then
    shutdownNetplay { p with simGate := p.simGate.onFatal, bUpdateAllowed := false } closeGgpo
  else p.shutdownNetplay closeGgpo

/-- `HandleControlPlaneLoss`; `ggpoRidesOnRoom` says whether GGPO's traffic goes through the
room's connection. -/
def handleControlPlaneLoss (p : Process) (flowIdle ggpoRidesOnRoom : Bool) : Process :=
  if p.controlPlaneLost then p
  else
    let fightRunning := p.ggpo.isSome && (p.simGate.phase = .running : Bool) &&
      !p.simGate.fatalError && !flowIdle
    if !fightRunning || ggpoRidesOnRoom then p.handleNetplayFailure true
    else { p with controlPlaneLost := true }

/-- The deferred close of `TickFrame`. -/
def closeDeferred (p : Process) (now : UInt32) : Process :=
  if p.defer.deferredGgpoPending && p.ggpo.isSome then
    let (defers, defer) := p.defer.shouldDeferGgpoClose now
    if defers then { p with defer := defer }
    else
      let p := retireGgpoSession { p with defer := defer }
      { p with defer := p.defer.clearFlags }
  else p

/-- `TickFrame` from its sync timeout on. -/
def tickFrame (p : Process) (syncTimedOut : Bool) (now : UInt32) : Process :=
  let p := if p.ggpo.isSome && !p.bUpdateAllowed && syncTimedOut then p.abortGgpoMatch else p
  p.closeDeferred now

/-- The end of `Steam_PostUpdate`. -/
def idle (p : Process) (script : Script) : Process :=
  if p.ggpo.isSome then (p.call .idle script).2 else p

/-! ### Battles -/

/-- What `CloseBattle` does with a session. -/
def closeSession (p : Process) (members : Option ℕ) (now later : UInt32) : Process :=
  if p.ggpo.isSome then
    let (defers, defer) := (p.defer.notifyMatchEnded ⟨p.controlPlaneLost, members⟩
      now).shouldDeferGgpoClose later
    let p := { p with simGate := p.simGate.onBattleClosing, defer := defer }
    if defers then p else p.retireGgpoSession
  else p

/-- `CloseBattle`, with `FinalizeControlPlaneLossAfterBattle` at its end. -/
def closeBattle (p : Process) (members : Option ℕ) (now later : UInt32) : Process :=
  let p := p.closeSession members now later
  if p.controlPlaneLost then p.shutdownNetplay true else p

/-- The start of a session: the leftover one is retired. -/
def prepareSession (p : Process) : Process :=
  let p := retireGgpoSession { p with defer := p.defer.cancelDeferredGgpoClose }
  { p with
    simGate := p.simGate.onSessionStarted
    bUpdateAllowed := !p.simGate.manualPause
    localPlayer := false }

/-- GGPO has made a new session. -/
def newSession (p : Process) : Process :=
  { p with ggpo := some p.sessions, sessions := p.sessions + 1 }

/-- The two players are added; each comes with GGPO's result and whether it is local. -/
def addPlayers : List (ℤ × Bool) → Process → Process
  | [], p => p
  | (result, isLocal) :: players, p =>
    if result ≠ 0 then p.abortGgpoMatch
    else addPlayers players { p with localPlayer := p.localPlayer || isLocal }

/-- `StartGGPO`, with the result of `ggpo_start_session`. -/
def startGGPO (p : Process) (result : ℤ) (players : List (ℤ × Bool)) : Process :=
  if result ≠ 0 then p.prepareSession.abortGgpoMatch
  else addPlayers players p.prepareSession.newSession

/-- `StartSpectating`, with the result of `ggpo_start_spectating`. -/
def startSpectating (p : Process) (result : ℤ) : Process :=
  if result ≠ 0 then p.prepareSession else p.prepareSession.newSession

end Process

/-! ## Runs -/

/-- What the main thread may do next. -/
inductive Event
  | battleUpdate (flowIdle : Bool) (addInput sync advance : Script)
  | idle (script : Script)
  | tickFrame (syncTimedOut : Bool) (now : UInt32)
  | handleControlPlaneLoss (flowIdle ggpoRidesOnRoom : Bool)
  | closeBattle (members : Option ℕ) (now later : UInt32)
  | startGGPO (result : ℤ) (players : List (ℤ × Bool))
  | startSpectating (result : ℤ)
  | retireGgpoSession
  | abortGgpoMatch
  | shutdownNetplay (closeGgpo : Bool)
  /-- The overlay pauses and resumes. -/
  | setPaused (bUpdateAllowed manualPause : Bool)

/-- One event. -/
def Process.next (p : Process) : Event → Process
  | .battleUpdate flowIdle addInput sync advance => p.battleUpdate flowIdle addInput sync advance
  | .idle script => p.idle script
  | .tickFrame syncTimedOut now => p.tickFrame syncTimedOut now
  | .handleControlPlaneLoss flowIdle ggpoRidesOnRoom =>
    p.handleControlPlaneLoss flowIdle ggpoRidesOnRoom
  | .closeBattle members now later => p.closeBattle members now later
  | .startGGPO result players => p.startGGPO result players
  | .startSpectating result => p.startSpectating result
  | .retireGgpoSession => p.retireGgpoSession
  | .abortGgpoMatch => p.abortGgpoMatch
  | .shutdownNetplay closeGgpo => p.shutdownNetplay closeGgpo
  | .setPaused bUpdateAllowed manualPause =>
    { p with
      bUpdateAllowed := bUpdateAllowed
      simGate := p.simGate.setManualPause manualPause }

/-- The program starts without a session. -/
def processLTS : LTS Process Event Unit :=
  .ofFun (· = {}) fun p event => some ((), p.next event)

/-! ## The lifetime of sessions -/

/-- The sessions whose entry points have not returned, innermost first. -/
def openCalls : List Call → List ℕ
  | [] => []
  | .enter _ n :: cs => n :: openCalls cs
  | .exit :: cs => (openCalls cs).tail
  | .close _ :: cs => openCalls cs

/-- A call is in order after the earlier calls: no session is closed from inside one of its
entry points, and no entry point is called once its session is closed. -/
def Call.InOrder (cs : List Call) : Call → Prop
  | .enter _ n => Call.close n ∉ cs
  | .exit => True
  | .close n => n ∉ openCalls cs

instance (cs : List Call) : DecidablePred (Call.InOrder cs)
  | .enter _ n => inferInstanceAs (Decidable (Call.close n ∉ cs))
  | .exit => inferInstanceAs (Decidable True)
  | .close n => inferInstanceAs (Decidable (n ∉ openCalls cs))

/-- All calls are in order. -/
def SessionLifetime : List Call → Prop
  | [] => True
  | c :: cs => c.InOrder cs ∧ SessionLifetime cs

instance : DecidablePred SessionLifetime
  | [] => inferInstanceAs (Decidable True)
  | c :: cs =>
    have : Decidable (SessionLifetime cs) := instDecidablePredListCallSessionLifetime cs
    inferInstanceAs (Decidable (c.InOrder cs ∧ SessionLifetime cs))

/-- No callback of the script finds the pool full, and the entry points that its advance
callbacks call return without an error. -/
def Script.Clean : Script → Prop
  | .done _ => True
  | .save full rest => full = false ∧ rest.Clean
  | .load rest => rest.Clean
  | .free rest => rest.Clean
  | .event _ rest => rest.Clean
  | .advance sync adv rest =>
    (sync.Clean ∧ sync.result = 0) ∧ (adv.Clean ∧ adv.result = 0) ∧ rest.Clean

/-- Cleanness can be tested. -/
instance Script.decidableClean : DecidablePred Script.Clean
  | .done _ => inferInstanceAs (Decidable True)
  | .save full rest =>
    have := decidableClean rest
    inferInstanceAs (Decidable (full = false ∧ rest.Clean))
  | .load rest => decidableClean rest
  | .free rest => decidableClean rest
  | .event _ rest => decidableClean rest
  | .advance sync adv rest =>
    have := decidableClean sync
    have := decidableClean adv
    have := decidableClean rest
    inferInstanceAs
      (Decidable ((sync.Clean ∧ sync.result = 0) ∧ (adv.Clean ∧ adv.result = 0) ∧ rest.Clean))

/-- The scripts of the event are clean. -/
def Event.Clean : Event → Prop
  | .battleUpdate _ addInput sync adv => addInput.Clean ∧ sync.Clean ∧ adv.Clean
  | .idle script => script.Clean
  | _ => True

instance : DecidablePred Event.Clean
  | .battleUpdate _ addInput sync adv =>
    inferInstanceAs (Decidable (addInput.Clean ∧ sync.Clean ∧ adv.Clean))
  | .idle script => inferInstanceAs (Decidable script.Clean)
  | .tickFrame .. => isTrue trivial
  | .handleControlPlaneLoss .. => isTrue trivial
  | .closeBattle .. => isTrue trivial
  | .startGGPO .. => isTrue trivial
  | .startSpectating .. => isTrue trivial
  | .retireGgpoSession => isTrue trivial
  | .abortGgpoMatch => isTrue trivial
  | .shutdownNetplay .. => isTrue trivial
  | .setPaused .. => isTrue trivial

/-! ## Inside an entry point -/

/-- From `p` to `p'` entry points have been called and have returned, and no session has been
closed. -/
structure Quiet (p p' : Process) : Prop where
  ggpo : p'.ggpo = p.ggpo
  sessions : p'.sessions = p.sessions
  closed : ∀ n, Call.close n ∈ p'.trace ↔ Call.close n ∈ p.trace
  openCalls : openCalls p'.trace = openCalls p.trace
  lifetime : ∀ n, p.ggpo = some n → Call.close n ∉ p.trace → SessionLifetime p.trace →
    SessionLifetime p'.trace

lemma Quiet.of_same {p p' : Process} (hggpo : p'.ggpo = p.ggpo)
    (hsessions : p'.sessions = p.sessions) (htrace : p'.trace = p.trace) : Quiet p p' :=
  ⟨hggpo, hsessions, fun n => by rw [htrace], by rw [htrace], fun n _ _ h => htrace ▸ h⟩

lemma Quiet.trans {p p' p'' : Process} (h : Quiet p p') (h' : Quiet p' p'') : Quiet p p'' where
  ggpo := h'.ggpo.trans h.ggpo
  sessions := h'.sessions.trans h.sessions
  closed n := (h'.closed n).trans (h.closed n)
  openCalls := h'.openCalls.trans h.openCalls
  lifetime n hn hclosed hlife :=
    h'.lifetime n (h.ggpo.trans hn) (mt (h.closed n).1 hclosed) (h.lifetime n hn hclosed hlife)

namespace Process

/-- An entry point whose body is quiet and returns `result`. -/
lemma quiet_enter {p : Process} {f : EntryPoint} {body : Process → ℤ × Process} {n : ℕ}
    {result : ℤ} (hn : p.ggpo = some n)
    (hbody : ∀ q : Process, q.ggpo = some n → Quiet q (body q).2 ∧ (body q).1 = result) :
    Quiet p (p.enter f body).2 ∧ (p.enter f body).1 = result := by
  have henter : p.enter f body =
      ((body { p with trace := .enter f n :: p.trace }).1,
        { (body { p with trace := .enter f n :: p.trace }).2 with
          trace := .exit :: (body { p with trace := .enter f n :: p.trace }).2.trace }) := by
    unfold enter
    split
    · rename_i hnone
      simp [hnone] at hn
    · rename_i m hm
      obtain rfl : m = n := Option.some.inj (hm.symm.trans hn)
      rfl
  obtain ⟨hquiet, hresult⟩ := hbody { p with trace := .enter f n :: p.trace } hn
  rw [henter]
  refine ⟨⟨hquiet.ggpo, hquiet.sessions, fun m => ?_, ?_, fun m hm hclosed hlife => ?_⟩,
    hresult⟩
  · simpa using hquiet.closed m
  · simp [Ggpo.openCalls, hquiet.openCalls]
  · obtain rfl : n = m := Option.some.inj (hn.symm.trans hm)
    exact ⟨trivial, hquiet.lifetime n hn (by simpa using hclosed) ⟨hclosed, hlife⟩⟩

lemma quiet_event (p : Process) (code : EventCode) :
    Quiet p (p.ggpo_on_event_callback code) := by
  cases code <;> exact Quiet.of_same rfl rfl rfl

/-- **The callback lemma.**  A clean script is quiet, by induction on the script: the scripts
inside an advance callback are shorter, and clean as well. -/
lemma quiet_runScript {script : Script} (hclean : script.Clean) {p : Process} {n : ℕ}
    (hn : p.ggpo = some n) :
    Quiet p (runScript script p).2 ∧ (runScript script p).1 = script.result := by
  induction script generalizing p with
  | done result => exact ⟨Quiet.of_same rfl rfl rfl, rfl⟩
  | save full rest ih =>
    obtain ⟨rfl, hrest⟩ := hclean
    exact ih hrest hn
  | load rest ih => exact ih hclean hn
  | free rest ih => exact ih hclean hn
  | event code rest ih =>
    have hevent := quiet_event p code
    obtain ⟨hquiet, hresult⟩ := ih hclean (hevent.ggpo.trans hn)
    exact ⟨hevent.trans hquiet, hresult⟩
  | advance sync advance rest ihsync ihadvance ihrest =>
    obtain ⟨⟨hsync, hsync0⟩, ⟨hadvance, hadvance0⟩, hrest⟩ := hclean
    obtain ⟨hquiet₁, hresult₁⟩ := quiet_enter (f := .synchronizeInput) hn
      fun q hq => ihsync hsync hq
    obtain ⟨hquiet₂, hresult₂⟩ := quiet_enter (f := .advanceFrame) (hquiet₁.ggpo.trans hn)
      fun q hq => ihadvance hadvance hq
    have hcallback : Quiet p (p.ggpo_advance_frame_callback (runScript sync)
        (runScript advance)) := by
      simp only [ggpo_advance_frame_callback, hresult₁, hsync0, ne_eq, not_true_eq_false,
        if_false, hresult₂, hadvance0]
      exact hquiet₁.trans hquiet₂
    obtain ⟨hquiet, hresult⟩ := ihrest hrest (hcallback.ggpo.trans hn)
    exact ⟨hcallback.trans hquiet, hresult⟩

end Process

/-! ## Between the calls -/

/-- No entry point is being called; the current session is open, and the trace is in order. -/
structure Outside (p : Process) : Prop where
  openCalls : openCalls p.trace = []
  closed_lt : ∀ n, Call.close n ∈ p.trace → n < p.sessions
  current : ∀ n, p.ggpo = some n → n < p.sessions ∧ Call.close n ∉ p.trace
  lifetime : SessionLifetime p.trace

namespace Outside

variable {p p' : Process}

lemma of_quiet (h : Outside p) {n : ℕ} (hn : p.ggpo = some n) (hquiet : Quiet p p') :
    Outside p' where
  openCalls := hquiet.openCalls.trans h.openCalls
  closed_lt m hm := hquiet.sessions ▸ h.closed_lt m ((hquiet.closed m).1 hm)
  current m hm := by
    obtain ⟨hlt, hopen⟩ := h.current m (hquiet.ggpo.symm.trans hm)
    exact ⟨hquiet.sessions ▸ hlt, mt (hquiet.closed m).1 hopen⟩
  lifetime := hquiet.lifetime n hn (h.current n hn).2 h.lifetime

/-- What touches neither the session nor the trace. -/
lemma of_same (h : Outside p) (hggpo : p'.ggpo = p.ggpo) (hsessions : p'.sessions = p.sessions)
    (htrace : p'.trace = p.trace) : Outside p' where
  openCalls := htrace ▸ h.openCalls
  closed_lt := htrace ▸ hsessions ▸ h.closed_lt
  current := hggpo ▸ htrace ▸ hsessions ▸ h.current
  lifetime := htrace ▸ h.lifetime

/-- Between the calls a session may be retired. -/
lemma retireGgpoSession (h : Outside p) : Outside p.retireGgpoSession := by
  unfold Process.retireGgpoSession
  split
  · exact h
  · rename_i n hn
    refine ⟨h.openCalls, fun m hm => ?_, by simp, ?_, h.lifetime⟩
    · rcases List.mem_cons.1 hm with heq | hm
      · obtain rfl := Call.close.inj heq
        exact (h.current m hn).1
      · exact h.closed_lt m hm
    · simp [Call.InOrder, h.openCalls]

lemma abortGgpoMatch (h : Outside p) : Outside p.abortGgpoMatch :=
  (h.of_same rfl rfl rfl : Outside { p with
    simGate := p.simGate.onFatal, bUpdateAllowed := false }).retireGgpoSession

/-- An entry point is called and does what a clean script says. -/
lemma call (h : Outside p) {f : EntryPoint} {script : Script} (hclean : script.Clean) :
    Outside (p.call f script).2 := by
  cases hn : p.ggpo with
  | none => simpa [Process.call, Process.enter, hn] using h
  | some n =>
    have hscript : ∀ q : Process, q.ggpo = some n →
        Quiet q (Process.runScript script q).2 ∧
          (Process.runScript script q).1 = script.result :=
      fun q hq => Process.quiet_runScript hclean hq
    exact h.of_quiet hn (Process.quiet_enter hn hscript).1

lemma advanceBattle (h : Outside p) {sync adv : Script} (hsync : sync.Clean)
    (hadv : adv.Clean) : Outside (p.advanceBattle sync adv) := by
  have h₁ := h.call (f := .synchronizeInput) hsync
  have h₂ := h₁.call (f := .advanceFrame) hadv
  simp only [Process.advanceBattle]
  split
  · split
    · exact h₂.abortGgpoMatch
    · exact h₂.of_same rfl rfl rfl
  · exact h₁.abortGgpoMatch
  · exact h₁

lemma battleUpdate (h : Outside p) (flowIdle : Bool) {addInput sync adv : Script}
    (haddInput : addInput.Clean) (hsync : sync.Clean) (hadv : adv.Clean) :
    Outside (p.battleUpdate flowIdle addInput sync adv) := by
  have hadded : Outside
      (if p.localPlayer then p.call .addLocalInput addInput else (0, p)).2 := by
    split
    · exact h.call haddInput
    · exact h
  simp only [Process.battleUpdate]
  split
  · exact h
  · split
    · split
      · exact hadded.advanceBattle hsync hadv
      · exact hadded.of_same rfl rfl rfl
      · exact hadded
      · exact hadded
      · exact hadded.abortGgpoMatch
    · exact h

lemma shutdownNetplay (h : Outside p) (closeGgpo : Bool) :
    Outside (p.shutdownNetplay closeGgpo) := by
  have hretired : Outside (if closeGgpo then p.retireGgpoSession else p) := by
    split
    · exact h.retireGgpoSession
    · exact h
  exact hretired.of_same rfl rfl rfl

lemma handleControlPlaneLoss (h : Outside p) (flowIdle ggpoRidesOnRoom : Bool) :
    Outside (p.handleControlPlaneLoss flowIdle ggpoRidesOnRoom) := by
  have hfailure : Outside (p.handleNetplayFailure true) := by
    unfold Process.handleNetplayFailure
    split
    · exact (h.of_same rfl rfl rfl : Outside { p with
        simGate := p.simGate.onFatal, bUpdateAllowed := false }).shutdownNetplay true
    · exact h.shutdownNetplay true
  simp only [Process.handleControlPlaneLoss]
  split
  · exact h
  · split
    · exact hfailure
    · exact h.of_same rfl rfl rfl

lemma closeDeferred (h : Outside p) (now : UInt32) : Outside (p.closeDeferred now) := by
  simp only [Process.closeDeferred]
  split
  · split
    · exact h.of_same rfl rfl rfl
    · refine Outside.of_same (Outside.retireGgpoSession ?_) rfl rfl rfl
      exact h.of_same rfl rfl rfl
  · exact h

lemma tickFrame (h : Outside p) (syncTimedOut : Bool) (now : UInt32) :
    Outside (p.tickFrame syncTimedOut now) := by
  refine Outside.closeDeferred ?_ now
  split
  · exact h.abortGgpoMatch
  · exact h

lemma closeSession (h : Outside p) (members : Option ℕ) (now later : UInt32) :
    Outside (p.closeSession members now later) := by
  simp only [Process.closeSession]
  split
  · split
    · exact h.of_same rfl rfl rfl
    · exact Outside.retireGgpoSession (h.of_same rfl rfl rfl)
  · exact h

lemma closeBattle (h : Outside p) (members : Option ℕ) (now later : UInt32) :
    Outside (p.closeBattle members now later) := by
  have hclosed := h.closeSession members now later
  simp only [Process.closeBattle]
  split
  · exact hclosed.shutdownNetplay true
  · exact hclosed

lemma prepareSession (h : Outside p) : Outside p.prepareSession := by
  refine Outside.of_same (Outside.retireGgpoSession ?_) rfl rfl rfl
  exact h.of_same rfl rfl rfl

/-- A new session has a new number. -/
lemma newSession (h : Outside p) : Outside p.newSession where
  openCalls := h.openCalls
  closed_lt n hn := Nat.lt_succ_of_lt (h.closed_lt n hn)
  current n hn := by
    obtain rfl : p.sessions = n := Option.some.inj hn
    exact ⟨Nat.lt_succ_self _, fun hclosed => Nat.lt_irrefl _ (h.closed_lt _ hclosed)⟩
  lifetime := h.lifetime

lemma addPlayers (h : Outside p) (players : List (ℤ × Bool)) :
    Outside (Process.addPlayers players p) := by
  induction players generalizing p with
  | nil => exact h
  | cons player players ih =>
    obtain ⟨result, isLocal⟩ := player
    simp only [Process.addPlayers]
    split
    · exact h.abortGgpoMatch
    · exact ih (h.of_same rfl rfl rfl)

/-- **The step lemma.**  An event with clean scripts leaves the trace in order. -/
lemma next (h : Outside p) {event : Event} (hclean : event.Clean) : Outside (p.next event) := by
  cases event with
  | battleUpdate flowIdle addInput sync adv =>
    exact h.battleUpdate flowIdle hclean.1 hclean.2.1 hclean.2.2
  | idle script =>
    simp only [Process.next, Process.idle]
    split
    · exact h.call hclean
    · exact h
  | tickFrame syncTimedOut now => exact h.tickFrame syncTimedOut now
  | handleControlPlaneLoss flowIdle ggpoRidesOnRoom =>
    exact h.handleControlPlaneLoss flowIdle ggpoRidesOnRoom
  | closeBattle members now later => exact h.closeBattle members now later
  | startGGPO result players =>
    simp only [Process.next, Process.startGGPO]
    split
    · exact h.prepareSession.abortGgpoMatch
    · exact h.prepareSession.newSession.addPlayers players
  | startSpectating result =>
    simp only [Process.next, Process.startSpectating]
    split
    · exact h.prepareSession
    · exact h.prepareSession.newSession
  | retireGgpoSession => exact h.retireGgpoSession
  | abortGgpoMatch => exact h.abortGgpoMatch
  | shutdownNetplay closeGgpo => exact h.shutdownNetplay closeGgpo
  | setPaused bUpdateAllowed manualPause => exact h.of_same rfl rfl rfl

end Outside

/-- **The lifetime of sessions.**  In every run in which no save callback finds the pool full
and no entry point that an advance callback calls fails, no session is closed from inside its
entry points, and none is called after its close. -/
theorem sessionLifetime_of_clean {log : List (Entry Process Event Unit)} {p : Process}
    (hrun : processLTS.Run log p) (hclean : ∀ e ∈ log, e.act.Clean) :
    SessionLifetime p.trace := by
  have houtside : Outside p := by
    refine hrun.invariant (fun _ p => Outside p) (fun p hp => ?_) (fun log e h hstep hok => ?_)
      hclean
    · obtain rfl : p = {} := hp
      exact ⟨rfl, by simp, by simp, trivial⟩
    · have hpost : e.pre.next e.act = e.post := by
        simpa [processLTS, LTS.Steps, LTS.ofFun] using hstep
      exact hpost ▸ h.next hok
  exact houtside.lifetime

/-- A list of events whose log passes a test gives a run. -/
lemma exists_processRun_of_exec (events : List Event)
    {q : List (Entry Process Event Unit) → Process → Prop} [∀ log p, Decidable (q log p)]
    (h : (LTS.exec (fun p event => some ((), Process.next p event)) {} [] events).any
      (fun r => decide (q r.1 r.2)) = true) :
    ∃ log p, processLTS.Run log p ∧ q log p := by
  obtain ⟨log, p, hpath, hq⟩ := LTS.exists_path_of_exec events h
  exact ⟨log, p, ⟨{}, rfl, hpath⟩, hq⟩

/-- A session that is running, with a frame that is rolled back inside `ggpo_advance_frame`,
and the close of the battle. -/
theorem sessionLifetime_rolled_back : ∃ (log : List (Entry Process Event Unit)) (p : Process),
    processLTS.Run log p ∧ p.trace = [.close 0, .exit, .exit, .enter .advanceFrame 0, .exit,
      .enter .synchronizeInput 0, .enter .advanceFrame 0, .exit, .enter .synchronizeInput 0, .exit,
      .enter .addLocalInput 0, .exit, .enter .idle 0] ∧ SessionLifetime p.trace := by
  obtain ⟨log, p, hrun, htrace, hclean⟩ := exists_processRun_of_exec
    [.startGGPO 0 [(0, true), (0, false)], .idle (.event .running (.done 0)),
      .battleUpdate false (.done 0) (.done 0)
        (.load (.advance (.done 0) (.free (.save false (.done 0))) (.done 0))),
      .closeBattle (some 2) 1000 1000]
    (q := fun log p => p.trace = [.close 0, .exit, .exit, .enter .advanceFrame 0, .exit,
      .enter .synchronizeInput 0, .enter .advanceFrame 0, .exit, .enter .synchronizeInput 0, .exit,
      .enter .addLocalInput 0, .exit, .enter .idle 0] ∧ ∀ e ∈ log, e.act.Clean)
    (by decide +kernel)
  exact ⟨log, p, hrun, htrace, sessionLifetime_of_clean hrun hclean⟩

/-- In `ggpo_advance_frame` GGPO saves the frame, the pool is full, and the save callback closes
the session. -/
theorem not_sessionLifetime_full_pool :
    ¬ ∀ (log : List (Entry Process Event Unit)) (p : Process),
      processLTS.Run log p → SessionLifetime p.trace := by
  intro h
  obtain ⟨log, p, hrun, hnot⟩ := exists_processRun_of_exec
    [.startGGPO 0 [(0, true), (0, false)], .idle (.event .running (.done 0)),
      .battleUpdate false (.done 0) (.done 0) (.save true (.done 0))]
    (q := fun _ p => ¬ SessionLifetime p.trace) (by decide +kernel)
  exact hnot (h log p hrun)

end Ggpo
end Sf4e
