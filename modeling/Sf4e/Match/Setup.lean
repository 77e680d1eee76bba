/-
# Agreement on the match setup

Both players of a match configure it from the data of the server, but each at its own time
and in three separate readings.  The server goes on accepting setters after it has broadcast
`LOBBY_ALLREADY`, and a data update that comes in between two readings, or between the
readings of the two clients, makes them differ.

`configuredFrom_setup` shows that nothing else does: as long as the server keeps the setup it
had at the broadcast and two members stay in the lobby, every match that a client starts for
this `LOBBY_ALLREADY` is configured from exactly that setup.
-/
import Sf4e.Match.Client

namespace Sf4e

open SessionProtocol SessionServer Trace

/-! ## The configuration of a match -/

/-- The settings a setup asks for. -/
def MatchSetup.settings (σ : MatchSetup) : BattleTypeSettings :=
  if σ.trainingMode then ⟨σ.editionSelect, 99, ⟨0, 9999⟩⟩
  else ⟨σ.editionSelect, σ.roundCount, σ.roundTime⟩

/-- The conditions a setup asks for. -/
def MatchSetup.conditions (σ : MatchSetup) : Conditions := ⟨σ.chara, σ.stageID⟩

/-- The match was configured from the setup, in all three readings. -/
structure ConfiguredFrom (σ : MatchSetup) (m : StartedMatch) : Prop where
  /-- Edition select, rounds, time limit and the training flag. -/
  settings : m.settings = some σ.settings
  /-- Characters and stage. -/
  conditions : m.conditions = some σ.conditions
  /-- The random seed. -/
  rngSeed : m.rngSeed = σ.rngSeed

instance (σ : MatchSetup) (m : StartedMatch) : Decidable (ConfiguredFrom σ m) :=
  decidable_of_iff (m.settings = some σ.settings ∧ m.conditions = some σ.conditions ∧
      m.rngSeed = σ.rngSeed)
    ⟨fun h => ⟨h.1, h.2.1, h.2.2⟩, fun h => ⟨h.settings, h.conditions, h.rngSeed⟩⟩

/-! ## Server steps that keep the setup -/

/-- The entry changes no value of the setup, and does not take a member away from a lobby
of two. -/
def KeepsSetup (e : ServerEntry) : Prop :=
  (e.pre.event e.act).isResults = false ∧ e.pre.event e.act ≠ .setter ∧
    ∀ info ∈ e.act.statusChange?, info.drops = true →
      e.pre.server.clients.any (fun c => c.conn == info.conn) = true →
        3 ≤ e.pre.server.clients.length

instance : DecidablePred KeepsSetup := fun e =>
  inferInstanceAs (Decidable (_ ∧ _ ∧ ∀ info ∈ e.act.statusChange?, info.drops = true →
    e.pre.server.clients.any (fun c => c.conn == info.conn) = true →
      3 ≤ e.pre.server.clients.length))

/-- The lobby has two members exactly when slot 1 is taken. -/
lemma two_le_length_iff {s : SessionServer} :
    2 ≤ s.clients.length ↔ ∃ w, s.occupant 1 = some w := by
  simp only [occupant, player, Option.map_eq_some_iff]
  constructor
  · intro h
    exact ⟨_, _, List.getElem?_eq_getElem (show 1 < s.clients.length from h), rfl⟩
  · rintro ⟨w, m, hm, -⟩
    by_contra hlt
    simp [List.getElem?_eq_none (by omega : s.clients.length ≤ 1)] at hm

/-- **Step lemma.** Such an entry keeps the setup, and two members stay two. -/
lemma KeepsSetup.step {e : ServerEntry} (h : KeepsSetup e) (hstep : serverLTS.Steps e) :
    e.post.server.setup = e.pre.server.setup ∧
      (2 ≤ e.pre.server.clients.length → 2 ≤ e.post.server.clients.length) := by
  obtain ⟨pre, act, out, post⟩ := e
  obtain ⟨hres, hset, hdrop⟩ := h
  have hmove := moves_of_steps hstep
  cases hmove with
  | beginStep | pollError | nullMessage | endStep => exact ⟨rfl, id⟩
  | resetLobbyForRematch =>
    exact ⟨rfl, by simp [SessionServer.resetLobbyForRematch, resetBattleSync]⟩
  | statusChanged =>
    rename_i s info
    simp only [Phase.server_idle, onSteamNetConnectionStatusChanged]
    split
    · rename_i hdrops
      split
      · exact ⟨rfl, id⟩
      · rename_i k hk
        refine ⟨rfl, fun _ => ?_⟩
        obtain ⟨hlt, hck, -⟩ := List.findIdx?_eq_some_iff_getElem.1 hk
        have hany : s.clients.any (fun c => c.conn == info.conn) = true :=
          List.any_eq_true.2 ⟨_, List.getElem_mem hlt, hck⟩
        have hthree : 3 ≤ s.clients.length := hdrop info rfl hdrops hany
        rw [List.length_eraseIdx_of_lt hlt]
        omega
    · exact ⟨rfl, id⟩
  | message hev hids hh =>
    cases hh with
    | ready hside => exact ⟨rfl, id⟩
    | reset hside => exact ⟨rfl, by simp [SessionServer.resetLobbyForRematch, resetBattleSync]⟩
    | results hs' => simp [Phase.event, hev, Event.isResults] at hres
    | setter hs' => exact absurd hev hset
    | other hquiet hlatch hout =>
      refine ⟨hquiet.setup, fun htwo => ?_⟩
      obtain ⟨w, hw⟩ := two_le_length_iff.1 htwo
      exact two_le_length_iff.2 ⟨w, hquiet.occupant 1 w hw⟩

/-! ## What is sent in the meantime -/

/-- What goes out on a connection from the broadcast of `LOBBY_ALLREADY` on: first the data
update of the broadcast, only updates with the setup, and none with fewer than two members
after one with two. -/
structure Window (σ : MatchSetup) (after : List ServerMessage) : Prop where
  /-- The data update of the broadcast comes first. -/
  head : ∃ l d rest, after = .dataUpdate l d :: rest
  /-- All updates carry the setup. -/
  setup : ∀ u ∈ updates after, setupOf u.1 u.2 = σ
  /-- Two members stay two. -/
  members : (updates after).Pairwise fun u v =>
    2 ≤ u.1.members.length → 2 ≤ v.1.members.length

lemma keepsSetup_of_broadcastsAllReady {e : ServerEntry} (hstep : serverLTS.Steps e)
    (hall : BroadcastsAllReady e) : KeepsSetup e := by
  obtain ⟨st, hpre, hact, -⟩ := exists_endStep_of_broadcastsAllReady hstep hall
  simp [KeepsSetup, hpre, hact, Phase.event, Event.isResults, Action.statusChange?]

/-- The window that opens with a broadcast and stays open while the setup is kept. -/
lemma window_of_run {newer older : List ServerEntry} {e : ServerEntry} {ph : Phase}
    {conn : HSteamNetConnection} (h : serverLTS.Run (newer ++ e :: older) ph)
    (hall : BroadcastsAllReady e) (hkeep : ∀ e' ∈ newer, KeepsSetup e')
    (hconn : conn ∈ e.pre.server.conns) :
    Window e.pre.server.setup (received conn (newer ++ [e])) := by
  obtain ⟨hrun, hstep, hpath⟩ := h.at_entry
  have hseg : serverLTS.Path e.pre (newer ++ [e]) ph :=
    LTS.path_append_iff.2 ⟨_, .snoc .refl hstep, hpath⟩
  have hkeep' : ∀ e' ∈ newer ++ [e], KeepsSetup e' := by
    intro e' he'
    rcases List.mem_append.1 he' with he' | he'
    · exact hkeep e' he'
    · obtain rfl := List.mem_singleton.1 he'
      exact keepsSetup_of_broadcastsAllReady hstep hall
  refine ⟨?_, ?_, ?_⟩
  · obtain ⟨rest, hrest⟩ := exists_received_eq_update newer hrun hstep hall hconn
    exact ⟨_, _, rest, hrest⟩
  · refine forall_updates_of_path (p := fun l d => setupOf l d = e.pre.server.setup) hseg rfl
      (fun e' he' hs hp => ?_) conn
    exact ((hkeep' e' he').step hs).1.trans hp
  · refine pairwise_updates_of_path (p := fun l _ => 2 ≤ l.members.length) hseg
      (fun e' he' hs hp => ?_) conn
    simp only [StepState.sentLobbyData, List.length_map] at hp ⊢
    exact ((hkeep' e' he').step hs).2 hp

/-! ## What a client reads in the meantime -/

/-- The two outside facts about the game's events: the pre-battle event is only ever
constructed inside the VS mode, and the battle comes after it. -/
def EngineOrder (e : ClientEntry) : Prop :=
  match e.act with
  | .preBattle vsMode => vsMode = true
  | .battle _ _ _ => e.pre.battleHook = true → e.pre.preBattleHook = false
  | .deliver _ _ | .tick _ => True

instance : DecidablePred EngineOrder := fun e => by
  unfold EngineOrder
  split <;> infer_instance

variable {σ : MatchSetup} {before after : List ServerMessage}

/-- A client that has received the broadcast holds the setup. -/
lemma setupOf_holds (hw : Window σ after) {ms : List ServerMessage} (hpre : ms <+: before ++ after)
    (hcount : allReadys before < allReadys ms) : setupOf (holds ms).1 (holds ms).2 = σ := by
  obtain ⟨l, d, rest, hafter⟩ := hw.head
  obtain ⟨got, hgot, rfl, u, hu, hholds⟩ := holds_of_prefix hafter hpre hcount
  obtain ⟨tail, rfl⟩ := hgot
  have hmem : u ∈ updates (got ++ tail) := by
    rw [updates_append]
    exact List.mem_append_left _ (List.mem_of_getLast? hu)
  rw [hholds]
  exact hw.setup u hmem

/-- A client that has received the broadcast and knows of two members goes on to do so. -/
lemma two_le_members_snoc (hw : Window σ after) {ms : List ServerMessage} {l : LobbyData}
    {d : MatchData} (hpre : ms ++ [.dataUpdate l d] <+: before ++ after)
    (hcount : allReadys before < allReadys ms) (htwo : 2 ≤ (holds ms).1.members.length) :
    2 ≤ l.members.length := by
  obtain ⟨l₀, d₀, rest, hafter⟩ := hw.head
  have hpre' : ms <+: before ++ after := (List.prefix_append ms _).trans hpre
  obtain ⟨got, hgot, rfl, u, hu, hholds⟩ := holds_of_prefix hafter hpre' hcount
  rw [List.append_assoc] at hpre
  have hgot' : got ++ [.dataUpdate l d] <+: after := (List.prefix_append_right_inj _).1 hpre
  obtain ⟨tail, rfl⟩ := hgot'
  have hpair := hw.members
  rw [updates_append, updates_append, List.pairwise_append, List.pairwise_append] at hpair
  have hu' : 2 ≤ u.1.members.length := by simpa [hholds] using htwo
  exact hpair.1.2.2 u (List.mem_of_getLast? hu) (l, d) (by simp [updates]) hu'

/-- What a client has configured for a broadcast inside its window. -/
structure Configuring (σ : MatchSetup) (c : NetplayClient) : Prop where
  /-- The start read the settings. -/
  settings : c.settings = some σ.settings
  /-- The pre-battle hook is still to come, or has read the conditions. -/
  conditions : c.preBattleHook = true ∨ c.conditions = some σ.conditions
  /-- Two members are there. -/
  members : 2 ≤ c.lobbyData.members.length

/-- A successful start reads the settings of the setup. -/
lemma configuring_of_start {c c' : NetplayClient} {mainMenu : Bool}
    (hstart : c.startMatchFromLobby mainMenu = some c')
    (hset : setupOf c.lobbyData c.matchData = σ) : Configuring σ c' := by
  unfold NetplayClient.startMatchFromLobby at hstart
  split_ifs at hstart with htwo hmenu
  obtain rfl := Option.some.inj hstart
  exact ⟨by rw [← hset]; rfl, Or.inl rfl, not_lt.1 htwo⟩

/-- **Invariant.** Whatever a client has started inside the window is configured from the
setup so far. -/
def StartedInWindow (σ : MatchSetup) (before after : List ServerMessage)
    (log : List ClientEntry) (c : NetplayClient) : Prop :=
  delivered log <+: before ++ after → allReadys before < c.startedFor →
    c.startedFor ≤ c.allReadys ∧ Configuring σ c

/-- A start attempt, successful or not, keeps the invariant: `c` is the client before it,
holding the data of the messages `ms`, and `c'` the client after it. -/
lemma startedInWindow_of_start (hw : Window σ after) {c c' c₁ : NetplayClient}
    {ms : List ServerMessage} {mainMenu : Bool} (hpre : ms <+: before ++ after)
    (hdata : (c.lobbyData, c.matchData) = holds ms) (hcount : c.allReadys = allReadys ms)
    (hstart : c.startMatchFromLobby mainMenu = some c₁) (hstarted : c'.startedFor = c₁.startedFor)
    (hready : c'.allReadys = c₁.allReadys) (hconf : Configuring σ c₁ → Configuring σ c')
    (hfor : allReadys before < c'.startedFor) :
    c'.startedFor ≤ c'.allReadys ∧ Configuring σ c' := by
  have hsame := NetplayClient.startMatchFromLobby_sameData hstart
  have hnumber : c₁.startedFor = c.allReadys := by
    unfold NetplayClient.startMatchFromLobby at hstart
    split_ifs at hstart
    obtain rfl := Option.some.inj hstart
    rfl
  have hset : setupOf c.lobbyData c.matchData = σ := by
    have hholds := setupOf_holds hw hpre (by omega)
    rw [← hdata] at hholds
    exact hholds
  refine ⟨?_, hconf (configuring_of_start hstart hset)⟩
  rw [hstarted, hready, hnumber, hsame.allReadys]

/-- A step that touches neither the start nor the held data keeps the invariant. -/
lemma StartedInWindow.keep {log : List ClientEntry} {e : ClientEntry}
    (h : StartedInWindow σ before after log e.pre) (hstarted : e.post.startedFor = e.pre.startedFor)
    (hready : e.pre.allReadys ≤ e.post.allReadys)
    (hconf : delivered (e :: log) <+: before ++ after → allReadys before < e.pre.allReadys →
      Configuring σ e.pre → Configuring σ e.post) :
    StartedInWindow σ before after (e :: log) e.post := by
  intro hpre hfor
  have hpre' : delivered log <+: before ++ after := by
    rw [delivered_cons] at hpre
    exact (List.prefix_append _ _).trans hpre
  rw [hstarted] at hfor ⊢
  obtain ⟨hle, hc⟩ := h hpre' hfor
  exact ⟨hle.trans hready, hconf hpre (by omega) hc⟩

/-- **Step lemma for the client.** -/
lemma StartedInWindow.step (hw : Window σ after) {log : List ClientEntry} {e : ClientEntry}
    (h : StartedInWindow σ before after log e.pre) (hdata : HoldsData log e.pre)
    (hstep : clientLTS.Steps e) (hok : EngineOrder e) :
    StartedInWindow σ before after (e :: log) e.post := by
  obtain ⟨c, act, out, c'⟩ := e
  have hnext : c.next act = some (out, c') := hstep
  have hdata' := hdata.step hstep
  dsimp only at h hdata hdata'
  cases act with
  | deliver msg mainMenu =>
    obtain ⟨rfl, rfl⟩ := Prod.mk.inj (Option.some.inj hnext)
    cases msg with
    | dataUpdate l d =>
      refine h.keep rfl le_rfl fun hpre hfor hc => ⟨hc.settings, hc.conditions, ?_⟩
      rw [delivered_cons] at hpre
      have htwo : 2 ≤ (holds (delivered log)).1.members.length := by
        rw [← hdata.data]
        exact hc.members
      have hnew := two_le_members_snoc hw hpre (by rw [← hdata.count]; exact hfor) htwo
      simpa [NetplayClient.receive] using hnew
    | lobbyAllReady =>
      simp only [NetplayClient.receive] at hdata' ⊢
      obtain hpend | ⟨c₁, hstart, hready⟩ := NetplayClient.onReady_cases
        { c with allReadys := c.allReadys + 1 } mainMenu
      · rw [hpend]
        exact h.keep rfl (Nat.le_succ _) fun _ _ hc => ⟨hc.settings, hc.conditions, hc.members⟩
      · rw [hready] at hdata' ⊢
        intro hpre hfor
        have hsame := NetplayClient.startMatchFromLobby_sameData hstart
        refine startedInWindow_of_start hw hpre ?_ ?_ hstart rfl rfl
          (fun hc => ⟨hc.settings, hc.conditions, hc.members⟩) hfor
        · rw [← hdata'.data, hsame.lobbyData, hsame.matchData]
        · rw [← hdata'.count, hsame.allReadys]
    | helloResp | joinReject | battleSynced | punchGo | relayed =>
      exact h.keep rfl le_rfl fun _ _ hc => ⟨hc.settings, hc.conditions, hc.members⟩
  | tick mainMenu =>
    obtain ⟨rfl, rfl⟩ := Prod.mk.inj (Option.some.inj hnext)
    obtain hidle | ⟨c₁, hstart, htry⟩ := c.tryStartPendingMatch_cases mainMenu
    · rw [hidle]
      exact h.keep rfl le_rfl fun _ _ hc => hc
    · rw [htry]
      intro hpre hfor
      have hpre' : delivered log <+: before ++ after := by
        simpa [delivered_cons, ClientAction.delivery?] using hpre
      exact startedInWindow_of_start hw hpre' hdata.data hdata.count hstart rfl rfl
        (fun hc => ⟨hc.settings, hc.conditions, hc.members⟩) hfor
  | preBattle vsMode =>
    obtain ⟨rfl, rfl⟩ := Prod.mk.inj (Option.some.inj hnext)
    have hmode : vsMode = true := hok
    subst hmode
    cases hhook : c.preBattleHook with
    | false =>
      simp only [Bool.false_eq_true, if_false]
      exact h.keep rfl le_rfl fun _ _ hc => hc
    | true =>
      simp only [if_true]
      have hsame := NetplayClient.onVsPreBattle_sameData c true
      have hstarted : (c.onVsPreBattleTasksRegistered true).startedFor = c.startedFor := by
        unfold NetplayClient.onVsPreBattleTasksRegistered
        split_ifs <;> rfl
      refine h.keep hstarted hsame.allReadys.ge fun hpre hfor hc => ?_
      -- two members are there, so the hook does read
      have hread : c.onVsPreBattleTasksRegistered true =
          { c with conditions := some ⟨c.matchData.chara, c.matchData.stageID⟩ } := by
        simp [NetplayClient.onVsPreBattleTasksRegistered, not_lt.2 hc.members]
      have hpre' : delivered log <+: before ++ after := by
        simpa [delivered_cons, ClientAction.delivery?] using hpre
      have hset := setupOf_holds hw hpre' (by rw [← hdata.count]; exact hfor)
      rw [← hdata.data] at hset
      rw [hread]
      exact ⟨hc.settings, Or.inr (by rw [← hset]; rfl), hc.members⟩
  | battle udpRelay relayHealthy transportReady =>
    simp only [NetplayClient.next] at hnext
    split at hnext
    all_goals
      obtain ⟨rfl, rfl⟩ := Prod.mk.inj (Option.some.inj hnext)
      exact h.keep rfl le_rfl fun _ _ hc => ⟨hc.settings, hc.conditions, hc.members⟩

/-- Run lemma for the client. -/
lemma startedInWindow_of_run (hw : Window σ after) {log : List ClientEntry} {c : NetplayClient}
    (h : clientLTS.Run log c) (hok : ∀ e ∈ log, EngineOrder e) :
    StartedInWindow σ before after log c := by
  have hboth := h.invariant
    (fun log c => HoldsData log c ∧ StartedInWindow σ before after log c)
    ?_ (fun log e hi hs hok => ⟨hi.1.step hs, hi.2.step hw hi.1 hs hok⟩) hok
  · exact hboth.2
  · rintro c rfl
    exact ⟨⟨rfl, rfl⟩, fun _ hfor => absurd hfor (Nat.not_lt_zero _)⟩

/-! ## Agreement -/

/-- A player's side of a broadcast of `LOBBY_ALLREADY` in the entry `e`: a run of the client
on the connection `conn` that has received some prefix of what was sent to it, and a match
`m` that it started for this very broadcast. -/
structure StartedFor (conn : HSteamNetConnection) (newer : List ServerEntry) (e : ServerEntry)
    (older : List ServerEntry) (log : List ClientEntry) (m : StartedMatch) : Prop where
  /-- The game's events come in their order. -/
  order : ∀ a ∈ log, EngineOrder a
  /-- The channel is reliable and ordered. -/
  heard : delivered log <+: received conn (newer ++ e :: older)
  /-- The match was started. -/
  started : ∃ a ∈ log, ∃ o ∈ a.out, m ∈ o.match?
  /-- It was not started for an earlier broadcast. -/
  notEarlier : allReadys (received conn older) < m.startedFor
  /-- It was not started for a later broadcast. -/
  notLater : m.startedFor ≤ allReadys (received conn (e :: older))

/-- **A client inside the window configures from the setup.** -/
lemma configuredFrom_of_window (hw : Window σ after) {log : List ClientEntry} {c : NetplayClient}
    (h : clientLTS.Run log c) (hok : ∀ a ∈ log, EngineOrder a)
    (hpre : delivered log <+: before ++ after) {m : StartedMatch}
    (hm : ∃ a ∈ log, ∃ o ∈ a.out, m ∈ o.match?) (hfor : allReadys before < m.startedFor) :
    ConfiguredFrom σ m := by
  obtain ⟨a, ha, o, ho, hmo⟩ := hm
  obtain ⟨newer, older, rfl⟩ := List.append_of_mem ha
  obtain ⟨hrun, hstep, -⟩ := h.at_entry
  obtain ⟨⟨u, r, t, hact⟩, hhook, hmatch⟩ := clientOutput_of_steps hstep ho
  have hm : a.pre.startedMatch = m := by
    rcases hmatch with rfl | ⟨_, _, rfl⟩
    · simpa [ClientOutput.match?] using hmo
    · simp [ClientOutput.match?] at hmo
  have hpre' : delivered older <+: before ++ after := by
    have hold : delivered older <+: delivered (newer ++ a :: older) := by
      simp [delivered, List.filterMap_append]
    exact hold.trans hpre
  subst hm
  obtain ⟨hle, hconf⟩ :=
    startedInWindow_of_run hw hrun (fun e he => hok e (by simp [he])) hpre' hfor
  have hdata := holdsData_of_run hrun
  have hhooked : a.pre.preBattleHook = false := by
    have horder := hok a (by simp)
    simp only [EngineOrder, hact] at horder
    exact horder hhook
  have hlt : allReadys before < allReadys (delivered older) := by
    have hcount := hdata.count
    have hfor' : allReadys before < a.pre.startedFor := hfor
    omega
  have hset := setupOf_holds hw hpre' hlt
  rw [← hdata.data] at hset
  refine ⟨hconf.settings, ?_, by rw [← hset]; rfl⟩
  rcases hconf.conditions with hhook' | hcond
  · simp [hhooked] at hhook'
  · exact hcond

/-- **Match-setup agreement.** Let the server broadcast `LOBBY_ALLREADY` in the entry `e` and
keep the setup and two members from then on.  Then every match that the players in slots 0
and 1 start for this broadcast is configured from the setup that the server held at the
broadcast, however far each of them has read on. -/
theorem configuredFrom_setup {newer older : List ServerEntry} {e : ServerEntry} {ph : Phase}
    (h : serverLTS.Run (newer ++ e :: older) ph) (hall : BroadcastsAllReady e)
    (hkeep : ∀ e' ∈ newer, KeepsSetup e') {w : Side → Who}
    (hplayers : ∀ i, e.pre.server.occupant i = some (w i)) {log : Side → List ClientEntry}
    {c : Side → NetplayClient} (hrun : ∀ i, clientLTS.Run (log i) (c i))
    {m : Side → StartedMatch} (hm : ∀ i, StartedFor (w i).1 newer e older (log i) (m i)) :
    ∀ i, ConfiguredFrom e.pre.server.setup (m i) := by
  intro i
  have hconn : (w i).1 ∈ e.pre.server.conns := by
    obtain ⟨p, hp, hw⟩ := Option.map_eq_some_iff.1 (hplayers i)
    exact List.mem_map.2 ⟨p, List.mem_of_getElem? hp, by rw [← hw]; rfl⟩
  have hw := window_of_run h hall hkeep hconn
  refine configuredFrom_of_window hw (hrun i) (hm i).order ?_ (hm i).started (hm i).notEarlier
  rw [← received_append, List.append_assoc]
  exact (hm i).heard

/-! ## A setter in between -/

instance (conn : HSteamNetConnection) (newer : List ServerEntry) (e : ServerEntry)
    (older : List ServerEntry) (log : List ClientEntry) (m : StartedMatch) :
    Decidable (StartedFor conn newer e older log m) :=
  decidable_of_iff ((∀ a ∈ log, EngineOrder a) ∧
      delivered log <+: received conn (newer ++ e :: older) ∧
      (∃ a ∈ log, ∃ o ∈ a.out, m ∈ o.match?) ∧
      allReadys (received conn older) < m.startedFor ∧
      m.startedFor ≤ allReadys (received conn (e :: older)))
    ⟨fun h => ⟨h.1, h.2.1, h.2.2.1, h.2.2.2.1, h.2.2.2.2⟩,
      fun h => ⟨h.order, h.heard, h.started, h.notEarlier, h.notLater⟩⟩

/-- Some run of the actions starts a match that passes a test. -/
def Starts (acts : List ClientAction) (p : List ClientEntry → StartedMatch → Prop) : Prop :=
  ∃ r ∈ LTS.exec NetplayClient.next .new [] acts,
    ∃ a ∈ r.1, ∃ o ∈ a.out, ∃ m ∈ o.match?, p r.1 m

instance (acts : List ClientAction) (p : List ClientEntry → StartedMatch → Prop)
    [∀ log m, Decidable (p log m)] : Decidable (Starts acts p) :=
  inferInstanceAs (Decidable (∃ r ∈ LTS.exec NetplayClient.next .new [] acts,
    ∃ a ∈ r.1, ∃ o ∈ a.out, ∃ m ∈ o.match?, p r.1 m))

lemma Starts.exists_run {acts : List ClientAction} {p : List ClientEntry → StartedMatch → Prop}
    (h : Starts acts p) : ∃ log c m, clientLTS.Run log c ∧ p log m := by
  obtain ⟨⟨log, c⟩, hr, -, -, -, -, m, -, hp⟩ := h
  exact ⟨log, c, m, ⟨_, rfl, LTS.path_of_exec .refl hr⟩, hp⟩

/-- A client that starts as soon as it hears of `LOBBY_ALLREADY`. -/
def startsAtOnce (msgs : List ServerMessage) : List ClientAction :=
  msgs.map (.deliver · true) ++ [.preBattle true, .battle false true true]

/-- A client that starts when everything has arrived. -/
def startsLater (msgs : List ServerMessage) : List ClientAction :=
  msgs.map (.deliver · false) ++ [.tick true, .preBattle true, .battle false true true]

/-- Agreement at work: one player starts at once, the other one later. -/
theorem configuredFrom_setup_two_players :
    ∃ (e : ServerEntry) (m : Side → StartedMatch),
      ∀ i, ConfiguredFrom e.pre.server.setup (m i) := by
  obtain ⟨log, ph, hrun, e, he, hall, h₀, h₁, hA, hB⟩ := exists_run_of_exec Action.bothReady
    (p := fun log _ => ∃ e ∈ log.head?, BroadcastsAllReady e ∧
      e.pre.server.occupant 0 = some (1, "A") ∧ e.pre.server.occupant 1 = some (2, "B") ∧
      Starts (startsAtOnce (received 1 log)) (StartedFor 1 [] e log.tail) ∧
      Starts (startsLater (received 2 log)) (StartedFor 2 [] e log.tail)) (by decide +kernel)
  obtain ⟨logA, cA, mA, hrunA, hA⟩ := hA.exists_run
  obtain ⟨logB, cB, mB, hrunB, hB⟩ := hB.exists_run
  rw [List.eq_cons_of_mem_head? he] at hrun
  exact ⟨e, bySide mA mB, @configuredFrom_setup [] log.tail e ph hrun hall (by simp)
    (bySide (1, "A") (2, "B")) (Fin.forall_fin_two.2 ⟨h₀, h₁⟩) (bySide logA logB)
    (bySide cA cB) (Fin.forall_fin_two.2 ⟨hrunA, hrunB⟩) (bySide mA mB)
    (Fin.forall_fin_two.2 ⟨hA, hB⟩)⟩

/-- `A` sets the lobby to a single round after `LOBBY_ALLREADY` has gone out. -/
def lateSetter : List Action :=
  [.beginStep,
    .message
      { conn := 1
        messageNumber := 4
        payload := some { Document.bare .lobbySetSettings with
          setSettings := some { roundCount := 1 } } },
    .endStep]

/-- **A setter in between.** `A` and `B` get ready and `A` starts at once; then `A` sets the
lobby to a single round, and `B`, which was not in its main menu yet, starts with that. -/
theorem not_configuredFrom_setup :
    ¬ ∀ (newer older : List ServerEntry) (e : ServerEntry) (ph : Phase) (w : Side → Who)
        (log : Side → List ClientEntry) (c : Side → NetplayClient) (m : Side → StartedMatch),
        serverLTS.Run (newer ++ e :: older) ph → BroadcastsAllReady e →
        (∀ i, e.pre.server.occupant i = some (w i)) → (∀ i, clientLTS.Run (log i) (c i)) →
        (∀ i, StartedFor (w i).1 newer e older (log i) (m i)) →
        ∀ i, ConfiguredFrom e.pre.server.setup (m i) := by
  intro h
  obtain ⟨log, ph, hrun, e, he, hall, h₀, h₁, hA, hB⟩ :=
    exists_run_of_exec (Action.bothReady ++ lateSetter)
    (p := fun log _ => ∃ e ∈ (log.drop 3).head?, BroadcastsAllReady e ∧
      e.pre.server.occupant 0 = some (1, "A") ∧ e.pre.server.occupant 1 = some (2, "B") ∧
      Starts (startsAtOnce (received 1 log)) (StartedFor 1 (log.take 3) e (log.drop 3).tail) ∧
      Starts (startsLater (received 2 log)) fun clog m =>
        StartedFor 2 (log.take 3) e (log.drop 3).tail clog m ∧
          ¬ ConfiguredFrom e.pre.server.setup m) (by decide +kernel)
  obtain ⟨logA, cA, mA, hrunA, hA⟩ := hA.exists_run
  obtain ⟨logB, cB, mB, hrunB, hB, hnot⟩ := hB.exists_run
  rw [← List.take_append_drop 3 log, List.eq_cons_of_mem_head? he] at hrun
  exact hnot (h (log.take 3) (log.drop 3).tail e ph (bySide (1, "A") (2, "B"))
    (bySide logA logB) (bySide cA cB) (bySide mA mB) hrun hall
    (Fin.forall_fin_two.2 ⟨h₀, h₁⟩) (Fin.forall_fin_two.2 ⟨hrunA, hrunB⟩)
    (Fin.forall_fin_two.2 ⟨hA, hB⟩) 1)

end Sf4e
