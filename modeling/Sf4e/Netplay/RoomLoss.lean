/-
# The loss of a room outside of a fight

When the room's connection is closed, the client drops its handle, and after that its `Step`
succeeds whatever happens.  Only a match with a GGPO session, or a server of the program that
fails in the same tick, makes the program give the room up.
-/
import Sf4e.Netplay.Degraded

namespace Sf4e
namespace UserApp

open Ggpo NetplayFacade Trace

/-- The program has left its room. -/
structure Offline (a : App) : Prop where
  client : a.netplay = none
  server : a.server = false
  session : a.process.ggpo = none

/-- The client has lost its connection, and nothing else is known of it. -/
structure Stranded (a b : App) : Prop where
  client : ∃ c, b.netplay = some c ∧ c.conn = false
  process : b.process = a.process
  relayActive : b.relayActive = a.relayActive
  server : b.server = a.server

namespace Offline

variable {a b : App}

lemma shutdownNetplay (a : App) : Offline a.shutdownNetplay :=
  ⟨rfl, rfl, ggpo_retireGgpoSession a.process⟩

lemma handleNetplayFailure (a : App) : Offline a.handleNetplayFailure := by
  unfold App.handleNetplayFailure
  split
  · exact shutdownNetplay _
  · exact shutdownNetplay a

/-- Outside of a healthy fight the room is given up. -/
lemma handleControlPlaneLoss {engine : App.Engine}
    (hfight : ¬ (a.fightRunning engine = true ∧ a.relayActive = false))
    (hlost : a.process.controlPlaneLost = false) : Offline (a.handleControlPlaneLoss engine) := by
  have hfails : (!a.fightRunning engine || a.relayActive) = true := by
    cases hrunning : a.fightRunning engine with
    | false => rfl
    | true =>
      have hrelay : a.relayActive ≠ false := fun hrelay => hfight ⟨hrunning, hrelay⟩
      simpa using hrelay
  unfold App.handleControlPlaneLoss
  rw [if_neg (by simp [hlost]), if_pos hfails]
  exact handleNetplayFailure a

lemma of_roomStep (h : Offline a) (hroom : RoomStep a b) : Offline b := by
  cases hroom with
  | mk netplay _ _ _ _ hclient =>
    rw [h.client] at hclient
    exact ⟨by simpa using hclient, h.server, h.session⟩

/-- Nothing is left to do in the rest of the tick. -/
lemma finish (h : Offline a) (t : App.Tick) :
    Offline ((a.tickFrame t.mainMenu t.now).idle t.idle) := by
  have hstart := RoomStep.tryStartPendingMatch a t.mainMenu
  have hb := h.of_roomStep hstart
  unfold App.tickFrame
  generalize a.tryStartPendingMatch t.mainMenu = b at hb ⊢
  have htimeout : b.checkSyncTimeout t.now = b := by
    simp [App.checkSyncTimeout, App.syncTimedOut, hb.session]
  have hclose : b.closeDeferred t.now = b := by simp [App.closeDeferred, hb.session]
  have hidle : b.idle t.idle = b := by simp [App.idle, hb.session]
  rwa [htimeout, hclose, hidle]

end Offline

/-- A client that is there stays for the rest of the tick. -/
lemma App.client_finish (a : App) (t : App.Tick) :
    ((a.tickFrame t.mainMenu t.now).idle t.idle).netplay.isSome = a.netplay.isSome := by
  have htick := KeepsRoom.tickFrame a t.mainMenu t.now
  exact (htick.trans (.of_delivers (App.delivers_idle t.idle))).client

/-! ## The status callbacks -/

/-- Changes that lose no connection only mark the client as connected. -/
lemma RoomStep.runCallbacks {engine : App.Engine}
    {changes : List (App.ConnectionState × App.ConnectionState)} (a : App)
    (hchanges : ∀ change ∈ changes, ¬ change.2.IsLoss) :
    RoomStep a (a.runCallbacks engine changes) := by
  induction changes generalizing a with
  | nil => exact .refl
  | cons change changes ih =>
    obtain ⟨oldState, newState⟩ := change
    have hkept : ¬ newState.IsLoss := hchanges _ List.mem_cons_self
    have hstep : RoomStep a (a.onSteamNetConnectionStatusChanged oldState newState engine) := by
      unfold App.onSteamNetConnectionStatusChanged
      split
      · exact .refl
      · rename_i c hc
        rw [if_neg hkept]
        split
        · exact ⟨_, _, _, _, _, by simp [hc]⟩
        · exact .refl
    exact hstep.trans (ih _ fun change hchange => hchanges change (List.mem_cons_of_mem _ hchange))

lemma App.runCallbacks_concat (engine : App.Engine)
    (changes : List (App.ConnectionState × App.ConnectionState)) (a : App)
    (oldState newState : App.ConnectionState) :
    a.runCallbacks engine (changes ++ [(oldState, newState)]) =
      (a.runCallbacks engine changes).onSteamNetConnectionStatusChanged oldState newState
        engine := by
  induction changes generalizing a with
  | nil => rfl
  | cons change changes ih => exact ih _

/-- The loss is handled at once: the connection was up during a match, and the room is not
given up already. -/
def HandlesLoss (a : App) (oldState : App.ConnectionState) : Prop :=
  a.process.controlPlaneLost = false ∧ oldState = .connected ∧ a.process.ggpo.isSome = true

/-- What the callbacks of a tick leave, the last of which loses the connection. -/
lemma App.afterLoss {a : App} {t : App.Tick} (hclient : a.netplay.isSome = true)
    (hfight : ¬ (a.fightRunning t.engine = true ∧ a.relayActive = false))
    {changes : List (App.ConnectionState × App.ConnectionState)}
    {oldState newState : App.ConnectionState}
    (hcallbacks : t.callbacks = changes ++ [(oldState, newState)])
    (hearlier : ∀ change ∈ changes, ¬ change.2.IsLoss) (hloss : newState.IsLoss) :
    (HandlesLoss a oldState → Offline (a.runCallbacks t.engine t.callbacks)) ∧
      (¬ HandlesLoss a oldState → Stranded a (a.runCallbacks t.engine t.callbacks)) := by
  have hroom : RoomStep a (a.runCallbacks t.engine changes) := .runCallbacks a hearlier
  rw [hcallbacks, App.runCallbacks_concat]
  generalize a.runCallbacks t.engine changes = b at hroom
  cases hroom with
  | mk netplay pending armed synced sentLoaded hsame =>
    rw [hclient] at hsame
    obtain ⟨c, rfl⟩ := Option.isSome_iff_exists.1 hsame
    unfold App.onSteamNetConnectionStatusChanged
    simp only [if_pos hloss, Bool.and_eq_true, decide_eq_true_eq]
    split
    · rename_i hmatch
      refine ⟨fun hhandles => ?_, fun hnot => ?_⟩
      · exact Offline.handleControlPlaneLoss hfight hhandles.1
      · -- the room is given up already
        have hlost : a.process.controlPlaneLost = true := by
          by_contra hlost
          exact hnot ⟨by simpa using hlost, hmatch⟩
        simp only [App.handleControlPlaneLoss, hlost, if_true]
        exact ⟨⟨_, rfl, rfl⟩, rfl, rfl, rfl⟩
    · rename_i hmatch
      exact ⟨fun hhandles => absurd hhandles.2 hmatch, fun _ => ⟨⟨_, rfl, rfl⟩, rfl, rfl, rfl⟩⟩

/-! ## The tick -/

/-- A client without a connection steps successfully. -/
lemma App.clientStep_of_no_conn {a : App} {c : Client} (hc : a.netplay = some c)
    (hconn : c.conn = false) (received : Option (List App.RoomMessage)) (mainMenu : Bool) :
    a.clientStep received mainMenu = (true, a) := by
  simp [App.clientStep, hc, hconn]

/-- **When the loss of a room is handled.**  Outside of a healthy fight, a tick in which the
room's connection is closed tears netplay down exactly if the room is not given up already, and
the connection was up during a match or the program's own server fails in the same tick. -/
theorem roomLoss_tearsDown_iff {a : App} {t : App.Tick} (hclient : a.netplay.isSome = true)
    (hfight : ¬ (a.fightRunning t.engine = true ∧ a.relayActive = false))
    {changes : List (App.ConnectionState × App.ConnectionState)}
    {oldState newState : App.ConnectionState}
    (hcallbacks : t.callbacks = changes ++ [(oldState, newState)])
    (hearlier : ∀ change ∈ changes, ¬ change.2.IsLoss) (hloss : newState.IsLoss) :
    ((a.steamPostUpdate t).netplay = none ∧ (a.steamPostUpdate t).process.ggpo = none ∧
      (a.steamPostUpdate t).waitsForSync = false) ↔
      a.process.controlPlaneLost = false ∧
        (oldState = .connected ∧ a.process.ggpo.isSome = true ∨
          a.server = true ∧ t.serverFails = true) := by
  obtain ⟨hhandled, hstranded⟩ := App.afterLoss hclient hfight hcallbacks hearlier hloss
  have hoffline : ∀ b : App, Offline b → b.netplay = none ∧ b.process.ggpo = none ∧
      b.waitsForSync = false := fun b hb =>
    ⟨hb.client, hb.session, by simp [App.waitsForSync, hb.client]⟩
  unfold App.steamPostUpdate
  generalize a.runCallbacks t.engine t.callbacks = b at hhandled hstranded
  by_cases hhandles : HandlesLoss a oldState
  · have hb := hhandled hhandles
    have hstep : b.clientStep t.received t.mainMenu = (true, b) := by
      simp [App.clientStep, hb.client]
    obtain ⟨hlost, hmatch⟩ := hhandles
    simp only [hstep, hb.server, Bool.not_true, Bool.false_and, Bool.or_self,
      Bool.false_eq_true, if_false]
    exact iff_of_true (hoffline _ (hb.finish t)) ⟨hlost, .inl hmatch⟩
  · obtain ⟨⟨c, hc, hconn⟩, hprocess, hrelay, hserver⟩ := hstranded hhandles
    have hstep := App.clientStep_of_no_conn hc hconn t.received t.mainMenu
    -- a client that is still there stays for the rest of the tick
    have hstays : ∀ b' : App, b'.netplay.isSome = true →
        ¬ (((b'.tickFrame t.mainMenu t.now).idle t.idle).netplay = none ∧
          ((b'.tickFrame t.mainMenu t.now).idle t.idle).process.ggpo = none ∧
          ((b'.tickFrame t.mainMenu t.now).idle t.idle).waitsForSync = false) := by
      rintro b' hb' ⟨hnone, -⟩
      have hsome := App.client_finish b' t
      simp [hnone, hb'] at hsome
    simp only [hstep, hserver, Bool.not_true, Bool.false_or, Bool.and_eq_true]
    split
    · rename_i hfails
      -- the server fails in the same tick
      cases hlost : a.process.controlPlaneLost with
      | true =>
        rw [App.handleControlPlaneLoss_of_lost (hprocess ▸ hlost)]
        exact iff_of_false (hstays b (by simp [hc])) (by simp)
      | false =>
        have hb : Offline (b.handleControlPlaneLoss t.engine) := by
          refine .handleControlPlaneLoss ?_ (hprocess ▸ hlost)
          rwa [App.fightRunning, hprocess, hrelay]
        exact iff_of_true (hoffline _ (hb.finish t)) ⟨rfl, .inr hfails⟩
    · rename_i hfails
      refine iff_of_false (hstays b (by simp [hc])) ?_
      rintro ⟨hlost, hmatch | hserverFails⟩
      · exact hhandles ⟨hlost, hmatch⟩
      · exact hfails hserverFails

/-- A player who waits for GGPO to run. -/
theorem roomLoss_tearsDown_iff_waiting :
    let a : App :=
      { process := { ggpo := some 0, sessions := 1, simGate := { phase := .waitingForRunning } }
        netplay := some { conn := true, connected := true, members := 2, useRelay := false }
        battle := true }
    let t : App.Tick := ⟨[(.connected, .closedByPeer)], some [], false, ⟨false, 0⟩, false, 1000,
      .done 0⟩
    (a.steamPostUpdate t).netplay = none ∧ (a.steamPostUpdate t).process.ggpo = none ∧
      (a.steamPostUpdate t).waitsForSync = false := by
  intro a t
  have hcallbacks : t.callbacks = [] ++ [(.connected, .closedByPeer)] := rfl
  exact (roomLoss_tearsDown_iff (a := a) rfl (by decide) hcallbacks (by simp) (.inl rfl)).2
    ⟨rfl, .inl ⟨rfl, rfl⟩⟩

/-- The match is about to start when the room is lost.  The same tick starts it, and its battle
waits for the room. -/
theorem not_roomLoss_tearsDown_pending : ¬ ∀ (log : AppLog) (a : App) (c : Client) (t : App.Tick)
    (newState : App.ConnectionState), appLTS.Run log a → a.netplay = some c → c.conn = true →
      c.connected = true → ¬ (a.fightRunning t.engine = true ∧ a.relayActive = false) →
      t.callbacks = [(.connected, newState)] → newState.IsLoss →
      (a.steamPostUpdate t).netplay = none ∧ (a.steamPostUpdate t).process.ggpo = none ∧
        (a.steamPostUpdate t).waitsForSync = false := by
  intro h
  obtain ⟨log, a, hrun, hclient, hggpo, hwaits⟩ := exists_appRun_of_exec
    [.startSession true false, .statusChanged .connecting .connected ⟨true, 0⟩,
      .clientStep (some [.dataUpdate 2, .allReady]) false]
    (p := fun _ a => a.netplay = some ⟨true, true, 2, false⟩ ∧ a.process.ggpo = none ∧
      (a.steamPostUpdate ⟨[(.connected, .closedByPeer)], some [], false, ⟨true, 0⟩, true, 1000,
        .done 0⟩).waitsForSync = true) (by decide +kernel)
  have hfight : ¬ (a.fightRunning ⟨true, 0⟩ = true ∧ a.relayActive = false) := by
    simp [App.fightRunning, hggpo]
  have hdone := h log a _ ⟨[(.connected, .closedByPeer)], some [], false, ⟨true, 0⟩, true, 1000,
    .done 0⟩ .closedByPeer hrun hclient rfl rfl hfight rfl (.inl rfl)
  simp [hwaits] at hdone

end UserApp
end Sf4e
