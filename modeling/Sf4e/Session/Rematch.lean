/-
# The rematch

After a match each of the two fighting clients sends `LOBBY_RESET` and, some time later,
`LOBBY_READY`.  The server clears both ready numbers on either reset, so a reset that comes
in after the other client's ready wipes that ready.

The file follows the two sequences on a `Board`, which keeps only which sides are marked
ready and whether both ever were.  The server tracks the board through every segment of a run
that has the four messages among harmless traffic (`Tracks.step`), and on the board the six
possible orders can be checked one by one: `LOBBY_ALLREADY` goes out exactly when both
resets come before the first ready.
-/
import Sf4e.Session.ReadyBarrier
import Mathlib.Data.List.Permutation

namespace Sf4e

open SessionProtocol SessionServer Trace

/-! ## The board -/

/-- A message of a rematch sequence. -/
inductive RematchMsg
  | reset (i : Side)
  | ready (i : Side)
deriving DecidableEq

/-- Is it a ready? -/
def RematchMsg.isReady : RematchMsg → Bool
  | reset _ => false
  | ready _ => true

/-- Which sides are marked ready, and whether both have been at once. -/
structure Board where
  /-- The marked sides. -/
  marks : Side → Bool
  /-- Both sides were marked at some point. -/
  called : Bool
deriving DecidableEq

namespace Board

/-- A reset wipes both marks; a ready sets one. -/
def step (b : Board) : RematchMsg → Board
  | .reset _ => { b with marks := fun _ => false }
  | .ready i =>
    let marks := Function.update b.marks i true
    { marks := marks, called := b.called || (marks 0 && marks 1) }

/-- The board after a list of messages, newest first. -/
def after (b : Board) (msgs : List RematchMsg) : Board := msgs.foldr (fun x b => b.step x) b

end Board

/-- The four messages of a rematch, newest first: each side's reset before its ready. -/
def Interleaving (msgs : List RematchMsg) : Prop :=
  msgs.Perm [.ready 1, .ready 0, .reset 1, .reset 0] ∧
    ∀ i, [RematchMsg.ready i, .reset i].Sublist msgs

/-- No reset comes after a ready; newest first. -/
def ResetsFirst (msgs : List RematchMsg) : Prop :=
  msgs.Pairwise fun later earlier => earlier.isReady = true → later.isReady = true

instance (msgs : List RematchMsg) : Decidable (Interleaving msgs) :=
  inferInstanceAs (Decidable (_ ∧ _))

instance (msgs : List RematchMsg) : Decidable (ResetsFirst msgs) :=
  inferInstanceAs (Decidable (List.Pairwise _ msgs))

/-- **The rematch on the board.** Whatever was marked before, both sides are called exactly
in the orders in which the resets come first. -/
lemma called_iff_resetsFirst (marks : Side → Bool) {msgs : List RematchMsg}
    (h : Interleaving msgs) :
    ((Board.mk marks false).after msgs).called = true ↔ ResetsFirst msgs := by
  have hall : ∀ marks : Side → Bool,
      ∀ msgs ∈ [RematchMsg.ready 1, .ready 0, .reset 1, .reset 0].permutations',
        (∀ i, [RematchMsg.ready i, .reset i].Sublist msgs) →
          (((Board.mk marks false).after msgs).called = true ↔ ResetsFirst msgs) := by
    decide
  exact hall marks msgs (List.mem_permutations'.2 h.1) h.2

/-! ## The two fighting clients -/

/-- Two clients on different connections hold the players' slots. -/
structure Fighting (conns : Side → HSteamNetConnection) (s : SessionServer) : Prop where
  /-- The connections differ. -/
  distinct : conns 0 ≠ conns 1
  /-- Both have connection ids. -/
  registered : ∀ i, (s.cidMap (conns i)).isSome = true
  /-- Each is in its slot. -/
  players : ∀ i, (s.occupant i).map Prod.fst = some (conns i)

instance (conns : Side → HSteamNetConnection) (s : SessionServer) :
    Decidable (Fighting conns s) :=
  decidable_of_iff (conns 0 ≠ conns 1 ∧ (∀ i, (s.cidMap (conns i)).isSome = true) ∧
      ∀ i, (s.occupant i).map Prod.fst = some (conns i))
    ⟨fun h => ⟨h.1, h.2.1, h.2.2⟩, fun h => ⟨h.distinct, h.registered, h.players⟩⟩

/-- The side a connection fights on. -/
def fighter (conns : Side → HSteamNetConnection) (c : HSteamNetConnection) : Option Side :=
  if conns 0 = c then some 0 else if conns 1 = c then some 1 else none

/-- The rematch message an action delivers. -/
def rematchMsg (conns : Side → HSteamNetConnection) : Action → Option RematchMsg
  | .message m =>
    match m.type? with
    | some .lobbyReset => (fighter conns m.conn).map .reset
    | some .lobbyReady => (fighter conns m.conn).map .ready
    | _ => none
  | _ => none

/-- The rematch messages of a log, newest first. -/
def rematchMsgs (conns : Side → HSteamNetConnection) (log : List ServerEntry) :
    List RematchMsg := log.filterMap fun e => rematchMsg conns e.act

/-- An entry that is no part of the rematch: nobody disconnects, no result is reported, the
hosting game does not reset, and no `Step` breaks off. -/
def Harmless (e : ServerEntry) : Prop :=
  match e.act with
  | .message _ => (e.pre.event e.act).isResults = false
  | .statusChanged info => info.drops = false
  | .nullMessage | .resetLobbyForRematch => False
  | .beginStep | .endStep | .pollError => True

instance : DecidablePred Harmless := fun e => by
  unfold Harmless
  split <;> infer_instance

variable {conns : Side → HSteamNetConnection}

lemma Fighting.side_eq {s : SessionServer} (h : Fighting conns s) (c : HSteamNetConnection) :
    s.side c = fighter conns c := by
  have hconn : ∀ i, (s.player i).map (·.conn) = some (conns i) := by
    intro i
    have hi := h.players i
    simpa [occupant, Option.map_map, Function.comp_def, SessionMember.who] using hi
  simp [side, fighter, hconn]

lemma fighter_eq_some {c : HSteamNetConnection} {i : Side} (h : fighter conns c = some i) :
    conns i = c := by
  unfold fighter at h
  split_ifs at h with h₀ h₁
  · obtain rfl : (0 : Side) = i := by simpa using h
    exact h₀
  · obtain rfl : (1 : Side) = i := by simpa using h
    exact h₁

/-- For the fighting clients, a ready is a ready of the board. -/
lemma Fighting.event_ready_iff {s : SessionServer} (h : Fighting conns s) {m : Incoming}
    {i : Side} : s.event m = .ready i ↔ rematchMsg conns (.message m) = some (.ready i) := by
  rw [event_eq_ready_iff, h.side_eq]
  constructor
  · rintro ⟨htype, -, hside⟩
    simp [rematchMsg, htype, hside]
  · intro hmsg
    simp only [rematchMsg] at hmsg
    split at hmsg
    · simp at hmsg
    · rename_i htype
      obtain ⟨j, hj, hji⟩ := Option.map_eq_some_iff.1 hmsg
      obtain rfl := RematchMsg.ready.inj hji
      refine ⟨htype, ?_, hj⟩
      rw [← fighter_eq_some hj]
      exact h.registered j
    · exact absurd hmsg (by simp)

/-- For the fighting clients, a reset is a reset of the board. -/
lemma Fighting.event_reset_iff {s : SessionServer} (h : Fighting conns s) {m : Incoming}
    {i : Side} : s.event m = .reset i ↔ rematchMsg conns (.message m) = some (.reset i) := by
  rw [event_eq_reset_iff, h.side_eq]
  constructor
  · rintro ⟨htype, -, hside⟩
    simp [rematchMsg, htype, hside]
  · intro hmsg
    simp only [rematchMsg] at hmsg
    split at hmsg
    · rename_i htype
      obtain ⟨j, hj, hji⟩ := Option.map_eq_some_iff.1 hmsg
      obtain rfl := RematchMsg.reset.inj hji
      refine ⟨htype, ?_, hj⟩
      rw [← fighter_eq_some hj]
      exact h.registered j
    · simp at hmsg
    · exact absurd hmsg (by simp)

/-- Any other message is none of the board's. -/
lemma Fighting.rematchMsg_eq_none {s : SessionServer} (h : Fighting conns s) {m : Incoming}
    (hready : ∀ i, s.event m ≠ .ready i) (hreset : ∀ i, s.event m ≠ .reset i) :
    rematchMsg conns (.message m) = none := by
  cases hmsg : rematchMsg conns (.message m) with
  | none => rfl
  | some x =>
    cases x with
    | ready i => exact absurd (h.event_ready_iff.2 hmsg) (hready i)
    | reset i => exact absurd (h.event_reset_iff.2 hmsg) (hreset i)

/-- The fighting clients stay where they are as long as occupied slots and connection ids
stay. -/
lemma Fighting.keep {s s' : SessionServer} (h : Fighting conns s) (hids : KeepsIds s s')
    (hocc : ∀ i w, s.occupant i = some w → s'.occupant i = some w) : Fighting conns s' := by
  refine ⟨h.distinct, fun i => hids _ (h.registered i), fun i => ?_⟩
  obtain ⟨w, hw, hwi⟩ := Option.map_eq_some_iff.1 (h.players i)
  rw [hocc i w hw]
  simpa using hwi

/-! ## The server tracks the board -/

/-- The server's ready numbers and its latch, seen as a board. -/
structure Tracks (conns : Side → HSteamNetConnection) (b : Board) (log : List ServerEntry)
    (ph : Phase) : Prop where
  /-- The clients are in their slots. -/
  fighting : Fighting conns ph.server
  /-- The marked sides are those with a ready number. -/
  marks : ∀ i, b.marks i = true ↔ ph.server.matchData.readyMessageNum i ≠ -1
  /-- Both were called when the broadcast is latched or has gone out. -/
  called : b.called = true ↔ ph.latched = true ∨ ∃ e ∈ log, BroadcastsAllReady e

lemma not_broadcastsAllReady {e : ServerEntry} (hout : e.out = []) : ¬ BroadcastsAllReady e := by
  rintro ⟨o, ho, -⟩
  simp [hout] at ho

/-- A step that moves neither the marks nor the latch and broadcasts nothing. -/
lemma Tracks.keep {b : Board} {log : List ServerEntry} {e : ServerEntry}
    (h : Tracks conns b log e.pre) (hfight : Fighting conns e.post.server)
    (hready : e.post.server.matchData.readyMessageNum = e.pre.server.matchData.readyMessageNum)
    (hlatch : e.post.latched = e.pre.latched) (hall : ¬ BroadcastsAllReady e) :
    Tracks conns b (e :: log) e.post := by
  refine ⟨hfight, fun i => by rw [hready]; exact h.marks i, ?_⟩
  rw [h.called, hlatch]
  simp [hall]

/-- A board message is a message of the server's log. -/
lemma called_cons_iff {log : List ServerEntry} {e : ServerEntry} (hall : ¬ BroadcastsAllReady e) :
    (∃ e' ∈ e :: log, BroadcastsAllReady e') ↔ ∃ e' ∈ log, BroadcastsAllReady e' := by
  simp [hall]

/-- A ready message marks its side, as message numbers are not negative. -/
lemma marks_markReady {b : Board} {st : StepState} {i : Side}
    (h : ∀ j, b.marks j = true ↔ st.server.matchData.readyMessageNum j ≠ -1) (num : ℕ) (j : Side) :
    Function.update b.marks i true j = true ↔
      (st.markReady i num).server.matchData.readyMessageNum j ≠ -1 := by
  by_cases hj : j = i
  · subst hj
    simp only [Function.update_self, StepState.markReady, true_iff]
    omega
  · simpa [StepState.markReady, Function.update_of_ne hj] using h j

/-- **Step lemma.** One step of the server is one step of the board, or none. -/
lemma Tracks.step {b : Board} {log : List ServerEntry} {e : ServerEntry}
    (h : Tracks conns b log e.pre) (hstep : serverLTS.Steps e)
    (hok : rematchMsg conns e.act = none → Harmless e) :
    Tracks conns ((rematchMsg conns e.act).elim b b.step) (e :: log) e.post := by
  obtain ⟨pre, act, out, post⟩ := e
  have hmove := moves_of_steps hstep
  dsimp only at h hok ⊢
  cases hmove with
  | beginStep => exact h.keep h.fighting rfl rfl (not_broadcastsAllReady rfl)
  | pollError => exact h.keep h.fighting rfl rfl (not_broadcastsAllReady rfl)
  | statusChanged =>
    rename_i s info
    have hdrops : info.drops = false := hok rfl
    -- a status that drops nobody changes nothing
    have hsame : s.onSteamNetConnectionStatusChanged info = s := by
      simp [onSteamNetConnectionStatusChanged, hdrops]
    rw [hsame]
    exact h.keep h.fighting rfl rfl (not_broadcastsAllReady rfl)
  | resetLobbyForRematch => exact absurd (hok rfl) id
  | nullMessage => exact absurd (hok rfl) id
  | endStep =>
    rename_i st
    have hf : Fighting conns st.finish := h.fighting.keep (fun _ hc => hc) fun _ _ hw => hw
    -- the call for all goes out now if it was latched
    refine ⟨hf, h.marks, h.called.trans ?_⟩
    simp only [Phase.latched_receiving, Phase.latched_idle, Bool.false_eq_true, false_or,
      List.mem_cons, exists_eq_or_imp]
    refine or_congr_left ⟨broadcastsAllReady_of_latched rfl, fun hall => ?_⟩
    obtain ⟨st', hpre, -, -, -, hl⟩ := exists_endStep_of_broadcastsAllReady hstep hall
    obtain rfl := Phase.receiving.inj hpre
    exact hl
  | message hev hids hh =>
    have hf := h.fighting
    cases hh with
    | ready hside =>
      rename_i st m i
      rw [hf.event_ready_iff.1 hev]
      have hmark := marks_markReady (i := i) h.marks m.messageNumber
      -- both are marked exactly if all are ready
      have hboth : (Function.update b.marks i true 0 && Function.update b.marks i true 1) = true ↔
          (st.markReady i m.messageNumber).server.matchData.isAllReady = true := by
        rw [Bool.and_eq_true, hmark 0, hmark 1, MatchData.isAllReady_iff, Fin.forall_fin_two]
      refine ⟨hf.keep hids fun _ _ hw => hw, hmark, ?_⟩
      rw [called_cons_iff (not_broadcastsAllReady rfl)]
      simp only [Option.elim_some, Board.step, Bool.or_eq_true, hboth, h.called,
        Phase.latched_receiving, StepState.markReady]
      exact or_right_comm
    | reset hside =>
      rename_i st m i
      rw [hf.event_reset_iff.1 hev]
      refine ⟨hf.keep hids fun j w hw => by simpa using hw, fun j => ?_, ?_⟩
      · simp [Board.step, SessionServer.resetLobbyForRematch]
      · rw [called_cons_iff (not_broadcastsAllReady rfl)]
        exact h.called
    | results hs' =>
      rename_i st m l s'
      have hnone : rematchMsg conns (.message m) = none :=
        hf.rematchMsg_eq_none (fun i hi => by simp [hev] at hi) fun i hi => by simp [hev] at hi
      have hres : (st.server.event m).isResults = false := hok hnone
      -- results are not harmless
      simp [hev, Event.isResults] at hres
    | setter hs' =>
      rw [hf.rematchMsg_eq_none (fun i hi => by simp [hev] at hi) fun i hi => by simp [hev] at hi]
      exact h.keep (hf.keep hids fun i w hw => (hs'.occupant i).trans hw) hs'.ready rfl
        (not_broadcastsAllReady rfl)
    | other hquiet hlatch hout =>
      rw [hf.rematchMsg_eq_none (fun i hi => by simp [hev] at hi) fun i hi => by simp [hev] at hi]
      refine h.keep (hf.keep hids hquiet.occupant) hquiet.ready hlatch ?_
      rintro ⟨o, ho, hall⟩
      exact absurd (hout o ho) (by simp [Output.routine_of_isAllReady hall])

/-- **Run lemma.** After a segment of a run the server's state is the board after the
segment's messages. -/
lemma tracks_of_path {s : SessionServer} {ph : Phase} {log : List ServerEntry}
    (hf : Fighting conns s) (h : serverLTS.Path (.idle s) log ph)
    (hok : ∀ e ∈ log, rematchMsg conns e.act = none → Harmless e) :
    Tracks conns ((Board.mk (fun i => s.matchData.readyMessageNum i != -1) false).after
      (rematchMsgs conns log)) log ph := by
  refine h.invariant (fun log ph => Tracks conns ((Board.mk
    (fun i => s.matchData.readyMessageNum i != -1) false).after (rematchMsgs conns log)) log ph)
    ?_ (fun log e hinv hs hok => ?_) hok
  · exact ⟨hf, fun i => by simp [Board.after, rematchMsgs], by simp [Board.after, rematchMsgs]⟩
  · have hnext := hinv.step hs hok
    cases hmsg : rematchMsg conns e.act with
    | none => simpa [rematchMsgs, hmsg] using hnext
    | some x => simpa [rematchMsgs, hmsg, Board.after] using hnext

/-! ## The rematch -/

/-- A segment of a run in which two clients, fighting at its start, send their rematch
messages, and everything else is harmless. -/
structure IsRematch (conns : Side → HSteamNetConnection) (s : SessionServer)
    (log : List ServerEntry) : Prop where
  /-- The clients are in their slots. -/
  fighting : Fighting conns s
  /-- The rest is harmless. -/
  harmless : ∀ e ∈ log, rematchMsg conns e.act = none → Harmless e
  /-- The four messages come in, each client's reset before its ready. -/
  sequences : Interleaving (rematchMsgs conns log)

instance (conns : Side → HSteamNetConnection) (s : SessionServer) (log : List ServerEntry) :
    Decidable (IsRematch conns s log) :=
  decidable_of_iff (Fighting conns s ∧
      (∀ e ∈ log, rematchMsg conns e.act = none → Harmless e) ∧
      Interleaving (rematchMsgs conns log))
    ⟨fun h => ⟨h.1, h.2.1, h.2.2⟩, fun h => ⟨h.fighting, h.harmless, h.sequences⟩⟩

/-- **The rematch.** After a rematch segment that leaves the server at rest,
`LOBBY_ALLREADY` has gone out if and only if both resets came in before the first ready. -/
theorem allReady_iff_resetsFirst {s s' : SessionServer} {log : List ServerEntry}
    (hr : IsRematch conns s log) (h : serverLTS.Path (.idle s) log (.idle s')) :
    (∃ e ∈ log, BroadcastsAllReady e) ↔ ResetsFirst (rematchMsgs conns log) := by
  have htracks := tracks_of_path hr.fighting h hr.harmless
  have hcalled := htracks.called
  simp only [Phase.latched_idle, Bool.false_eq_true, false_or] at hcalled
  rw [← hcalled]
  exact called_iff_resetsFirst _ hr.sequences

/-- A rematch with both resets first. -/
theorem allReady_of_resetsFirst :
    ∃ s s' log, IsRematch (bySide 1 2) s log ∧ serverLTS.Path (.idle s) log (.idle s') ∧
      ∃ e ∈ log, BroadcastsAllReady e := by
  obtain ⟨_, t, log, u, _, hpath, s, hs, s', hs', hr, hfirst⟩ :=
    exists_run_path_of_exec Action.bothReady
      [.beginStep, .message (.bare 1 4 .lobbyReset), .message (.bare 2 4 .lobbyReset), .endStep,
        .beginStep, .message (.bare 1 5 .lobbyReady), .message (.bare 2 5 .lobbyReady), .endStep]
      (p := fun t log u => ∃ s ∈ t.idle?, ∃ s' ∈ u.idle?, IsRematch (bySide 1 2) s log ∧
        ResetsFirst (rematchMsgs (bySide 1 2) log))
      (by decide +kernel)
  rw [Phase.eq_idle_of_mem hs, Phase.eq_idle_of_mem hs'] at hpath
  exact ⟨s, s', log, hr, hpath, (allReady_iff_resetsFirst hr hpath).2 hfirst⟩

/-- **A lost ready.** The first client resets and gets ready before the reset of the second
one comes in.  All four messages are processed, and `LOBBY_ALLREADY` never goes out. -/
theorem not_allReady_of_late_reset :
    ¬ ∀ (conns : Side → HSteamNetConnection) (s s' : SessionServer)
        (log₀ log : List ServerEntry), serverLTS.Run log₀ (.idle s) → IsRematch conns s log →
        serverLTS.Path (.idle s) log (.idle s') → ∃ e ∈ log, BroadcastsAllReady e := by
  intro h
  obtain ⟨log₀, t, log, u, hrun, hpath, s, hs, s', hs', hr, hnot⟩ :=
    exists_run_path_of_exec Action.bothReady
      [.beginStep, .message (.bare 1 4 .lobbyReset), .message (.bare 1 5 .lobbyReady), .endStep,
        .beginStep, .message (.bare 2 4 .lobbyReset), .message (.bare 2 5 .lobbyReady), .endStep]
      (p := fun t log u => ∃ s ∈ t.idle?, ∃ s' ∈ u.idle?, IsRematch (bySide 1 2) s log ∧
        ∀ e ∈ log, ¬ BroadcastsAllReady e)
      (by decide +kernel)
  rw [Phase.eq_idle_of_mem hs] at hrun hpath
  rw [Phase.eq_idle_of_mem hs'] at hpath
  obtain ⟨e, he, hall⟩ := h (bySide 1 2) s s' log₀ log hrun hr hpath
  exact hnot e he hall

end Sf4e
