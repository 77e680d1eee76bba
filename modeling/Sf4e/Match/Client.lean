/-
# The client between the lobby and the battle

The part of `SessionClient` and `fUserApp` that turns lobby data into a running match.  A
`LOBBY_ALLREADY` starts the match at once or leaves it pending until the main menu is there;
the start reads the lobby settings, the pre-battle hook reads characters and stage, and the
battle hook registers with the relay and reads the random seed.  Between these three moments
the client keeps receiving data updates.

Some values come from outside: whether the main menu or the VS mode is the foreground event,
whether the match goes over the UDP relay, whether that relay answers its health probe, and
whether the transport came up in the end.
-/
import Sf4e.Session.Channel

namespace Sf4e

open SessionProtocol SessionServer Trace

/-- `ProgressData::BattleTypeSettings`, as far as the start writes it. -/
structure BattleTypeSettings where
  editionSelect : Bool
  rounds : Int32
  timeLimit : FixedPoint
deriving DecidableEq

/-- The settings a start derives from the lobby data: training rooms override the number of
rounds and the time limit. -/
def battleTypeSettings (l : LobbyData) : BattleTypeSettings :=
  if l.trainingMode then ⟨l.editionSelect, 99, ⟨0, 9999⟩⟩
  else ⟨l.editionSelect, l.roundCount, l.roundTime⟩

/-- The confirmed conditions that the pre-battle hook writes. -/
structure Conditions where
  /-- Per side, the character selection. -/
  chara : Side → ConfirmedCharaConditions
  /-- The stage code. -/
  stageCode : ℤ
deriving DecidableEq

/-- A match as it is started. -/
structure StartedMatch where
  /-- The number of `LOBBY_ALLREADY` received when the start was made. -/
  startedFor : ℕ
  /-- The settings read at the start. -/
  settings : Option BattleTypeSettings
  /-- The conditions read before the battle; `none` when the hook gave up. -/
  conditions : Option Conditions
  /-- The seed handed to GGPO. -/
  rngSeed : UInt32
deriving DecidableEq

/-- A registration with the UDP relay: the player slot and the pair of ready numbers. -/
structure Registration where
  playerSlot : Side
  generationA : ℤ
  generationB : ℤ
deriving DecidableEq

/-- The client's state.  `allReadys` and `startedFor` only count, for reference. -/
structure NetplayClient where
  /-- `_cid`. -/
  cid : ConnectionID
  /-- `_lobbyData`. -/
  lobbyData : LobbyData
  /-- `_matchData`. -/
  matchData : MatchData
  /-- `s_pendingMatchStart`. -/
  pendingMatchStart : Bool
  /-- Is `fVsPreBattle::OnTasksRegistered` set? -/
  preBattleHook : Bool
  /-- Is `fVsBattle::OnTasksRegistered` set? -/
  battleHook : Bool
  /-- The settings written by the last start. -/
  settings : Option BattleTypeSettings
  /-- The conditions written since the last start. -/
  conditions : Option Conditions
  /-- The number of `LOBBY_ALLREADY` received. -/
  allReadys : ℕ
  /-- That number at the last start. -/
  startedFor : ℕ
deriving DecidableEq

/-- What the client does to the outside. -/
inductive ClientOutput
  /-- It registers with the UDP relay. -/
  | registers (r : Registration)
  /-- It starts GGPO, as a player or as a spectator. -/
  | started (m : StartedMatch)
deriving DecidableEq

/-- An event of the client's life. -/
inductive ClientAction
  /-- `SessionClient::Step` takes the next message. -/
  | deliver (msg : ServerMessage) (mainMenu : Bool)
  /-- `TickFrame` calls `TryStartPendingMatch`. -/
  | tick (mainMenu : Bool)
  /-- `fVsPreBattle::RegisterTasks`. -/
  | preBattle (vsMode : Bool)
  /-- `fVsBattle::RegisterTasks`. -/
  | battle (udpRelay relayHealthy transportReady : Bool)
deriving DecidableEq

namespace NetplayClient

/-- A client that has just connected. -/
def new : NetplayClient :=
  { cid := ⟨"", ""⟩
    lobbyData := LobbyData.nullLobby
    matchData := MatchData.clear
    pendingMatchStart := false
    preBattleHook := false
    battleHook := false
    settings := none
    conditions := none
    allReadys := 0
    startedFor := 0 }

/-- `StartMatchFromLobby`; `none` is the return value `false`. -/
def startMatchFromLobby (c : NetplayClient) (mainMenu : Bool) : Option NetplayClient :=
  if c.lobbyData.members.length < 2 then none
  else if mainMenu = false then none
  else
    some { c with
      settings := some (battleTypeSettings c.lobbyData)
      conditions := none
      preBattleHook := true
      battleHook := true
      startedFor := c.allReadys }

/-- `OnReady`. -/
def onReady (c : NetplayClient) (mainMenu : Bool) : NetplayClient :=
  match c.startMatchFromLobby mainMenu with
  | none => { c with pendingMatchStart := true }
  | some c' => { c' with pendingMatchStart := false }

/-- `TryStartPendingMatch`. -/
def tryStartPendingMatch (c : NetplayClient) (mainMenu : Bool) : NetplayClient :=
  if c.pendingMatchStart = false then c
  else if c.lobbyData.members.length < 2 then c
  else
    match c.startMatchFromLobby mainMenu with
    | none => c
    | some c' => { c' with pendingMatchStart := false }

/-- The body of the loop of `SessionClient::Step`, as far as the match is concerned. -/
def receive (c : NetplayClient) (msg : ServerMessage) (mainMenu : Bool) : NetplayClient :=
  match msg with
  | .helloResp cid => { c with cid := cid }
  | .dataUpdate l d =>
    { c with
      lobbyData := { l with members := l.members.map MemberData.received }
      matchData := d }
  | .lobbyAllReady => ({ c with allReadys := c.allReadys + 1 }).onReady mainMenu
  | .joinReject _ | .battleSynced | .punchGo | .relayed _ => c

/-- The loop over the players' slots that looks for the client itself. -/
def playerSlot (c : NetplayClient) : Option Side :=
  if (c.lobbyData.members[0]?).map (·.connId) = some c.cid then some 0
  else if (c.lobbyData.members[1]?).map (·.connId) = some c.cid then some 1
  else none

/-- The registration that `PrepareForBattle` makes for the UDP relay. -/
def prepareForBattle (c : NetplayClient) : Option Registration :=
  if c.matchData.isAllReady then
    c.playerSlot.map fun i =>
      ⟨i, c.matchData.readyMessageNum 0, c.matchData.readyMessageNum 1⟩
  else none

/-- `_OnVsPreBattleTasksRegistered`. -/
def onVsPreBattleTasksRegistered (c : NetplayClient) (vsMode : Bool) : NetplayClient :=
  if c.lobbyData.members.length < 2 then c
  else if vsMode = false then c
  else { c with conditions := some ⟨c.matchData.chara, c.matchData.stageID⟩ }

/-- The match that `StartGGPO` or `StartSpectating` begins. -/
def startedMatch (c : NetplayClient) : StartedMatch :=
  ⟨c.startedFor, c.settings, c.conditions, c.matchData.rngSeed⟩

/-- `_OnVsBattleTasksRegistered`. -/
def onVsBattleTasksRegistered (c : NetplayClient)
    (udpRelay relayHealthy transportReady : Bool) : List ClientOutput :=
  if c.lobbyData.members.length < 2 then []
  else
    let start := if transportReady then [ClientOutput.started c.startedMatch] else []
    match c.playerSlot, udpRelay with
    | some _, true =>
      match c.prepareForBattle with
      | none => []
      | some r => if relayHealthy then .registers r :: start else []
    | _, _ => start

/-- The partial step function of the client.  The hooks run once and are cleared. -/
def next (c : NetplayClient) : ClientAction → Option (List ClientOutput × NetplayClient)
  | .deliver msg mainMenu => some ([], c.receive msg mainMenu)
  | .tick mainMenu => some ([], c.tryStartPendingMatch mainMenu)
  | .preBattle vsMode =>
    some ([], if c.preBattleHook then
      { c.onVsPreBattleTasksRegistered vsMode with preBattleHook := false } else c)
  | .battle udpRelay relayHealthy transportReady =>
    if c.battleHook then
      some (c.onVsBattleTasksRegistered udpRelay relayHealthy transportReady,
        { c with battleHook := false })
    else some ([], c)

end NetplayClient

/-- The match that an output starts. -/
def ClientOutput.match? : ClientOutput → Option StartedMatch
  | .started m => some m
  | .registers _ => none

/-- The client as a transition system. -/
def clientLTS : LTS NetplayClient ClientAction (List ClientOutput) :=
  .ofFun (· = NetplayClient.new) NetplayClient.next

/-- An entry of the client's log. -/
abbrev ClientEntry := Entry NetplayClient ClientAction (List ClientOutput)

/-- The message an action delivers. -/
def ClientAction.delivery? : ClientAction → Option ServerMessage
  | .deliver msg _ => some msg
  | _ => none

/-- The messages delivered in the course of a log, oldest first. -/
def delivered (log : List ClientEntry) : List ServerMessage :=
  log.reverse.filterMap fun e => e.act.delivery?

lemma delivered_cons (e : ClientEntry) (log : List ClientEntry) :
    delivered (e :: log) = delivered log ++ e.act.delivery?.toList := by
  cases h : e.act.delivery? <;> simp [delivered, h]

namespace NetplayClient

/-- The battle hook starts the match configured so far, and registers with the pair of
ready numbers it holds. -/
lemma mem_onVsBattle {c : NetplayClient} {udpRelay relayHealthy transportReady : Bool}
    {o : ClientOutput}
    (h : o ∈ c.onVsBattleTasksRegistered udpRelay relayHealthy transportReady) :
    o = .started c.startedMatch ∨ ∃ r, c.prepareForBattle = some r ∧ o = .registers r := by
  have hstart : o ∈ (if transportReady then [ClientOutput.started c.startedMatch] else []) →
      o = .started c.startedMatch := by
    intro ho
    split at ho
    · exact List.mem_singleton.1 ho
    · simp at ho
  unfold onVsBattleTasksRegistered at h
  split at h
  · simp at h
  · dsimp only at h
    split at h
    · split at h
      · simp at h
      · rename_i r hr
        split at h
        · rcases List.mem_cons.1 h with rfl | h
          · exact .inr ⟨r, hr, rfl⟩
          · exact .inl (hstart h)
        · simp at h
    · exact .inl (hstart h)

end NetplayClient

/-- An output of the client comes from its battle hook. -/
lemma clientOutput_of_steps {e : ClientEntry} (hstep : clientLTS.Steps e) {o : ClientOutput}
    (ho : o ∈ e.out) :
    (∃ udpRelay relayHealthy transportReady,
      e.act = .battle udpRelay relayHealthy transportReady) ∧ e.pre.battleHook = true ∧
      (o = .started e.pre.startedMatch ∨
        ∃ r, e.pre.prepareForBattle = some r ∧ o = .registers r) := by
  obtain ⟨c, act, out, c'⟩ := e
  have hnext : c.next act = some (out, c') := hstep
  cases act with
  | deliver | tick | preBattle =>
    obtain ⟨rfl, -⟩ := Prod.mk.inj (Option.some.inj hnext)
    simp at ho
  | battle udpRelay relayHealthy transportReady =>
    simp only [NetplayClient.next] at hnext
    split at hnext
    · rename_i hhook
      obtain ⟨rfl, -⟩ := Prod.mk.inj (Option.some.inj hnext)
      exact ⟨⟨_, _, _, rfl⟩, hhook, NetplayClient.mem_onVsBattle ho⟩
    · obtain ⟨rfl, -⟩ := Prod.mk.inj (Option.some.inj hnext)
      simp at ho

/-! ## The data a client holds -/

namespace NetplayClient

/-- The parts of the state that only messages change. -/
structure SameData (c c' : NetplayClient) : Prop where
  lobbyData : c'.lobbyData = c.lobbyData
  matchData : c'.matchData = c.matchData
  allReadys : c'.allReadys = c.allReadys

lemma SameData.refl (c : NetplayClient) : SameData c c := ⟨rfl, rfl, rfl⟩

lemma startMatchFromLobby_sameData {c c' : NetplayClient} {mainMenu : Bool}
    (h : c.startMatchFromLobby mainMenu = some c') : SameData c c' := by
  unfold startMatchFromLobby at h
  split_ifs at h
  obtain rfl := Option.some.inj h
  exact ⟨rfl, rfl, rfl⟩

/-- `OnReady` leaves the match pending, or starts it. -/
lemma onReady_cases (c : NetplayClient) (mainMenu : Bool) :
    c.onReady mainMenu = { c with pendingMatchStart := true } ∨
      ∃ c', c.startMatchFromLobby mainMenu = some c' ∧
        c.onReady mainMenu = { c' with pendingMatchStart := false } := by
  unfold onReady
  cases h : c.startMatchFromLobby mainMenu with
  | none => exact .inl rfl
  | some c' => exact .inr ⟨c', rfl, rfl⟩

/-- `TryStartPendingMatch` does nothing, or starts the match. -/
lemma tryStartPendingMatch_cases (c : NetplayClient) (mainMenu : Bool) :
    c.tryStartPendingMatch mainMenu = c ∨
      ∃ c', c.startMatchFromLobby mainMenu = some c' ∧
        c.tryStartPendingMatch mainMenu = { c' with pendingMatchStart := false } := by
  unfold tryStartPendingMatch
  split
  · exact .inl rfl
  · split
    · exact .inl rfl
    · cases h : c.startMatchFromLobby mainMenu with
      | none => exact .inl rfl
      | some c' => exact .inr ⟨c', rfl, rfl⟩

lemma onReady_sameData (c : NetplayClient) (mainMenu : Bool) :
    SameData c (c.onReady mainMenu) := by
  obtain h | ⟨c', hstart, h⟩ := c.onReady_cases mainMenu
  · rw [h]
    exact ⟨rfl, rfl, rfl⟩
  · rw [h]
    obtain ⟨hl, hd, hn⟩ := startMatchFromLobby_sameData hstart
    exact ⟨hl, hd, hn⟩

lemma tryStartPendingMatch_sameData (c : NetplayClient) (mainMenu : Bool) :
    SameData c (c.tryStartPendingMatch mainMenu) := by
  obtain h | ⟨c', hstart, h⟩ := c.tryStartPendingMatch_cases mainMenu
  · rw [h]
    exact .refl c
  · rw [h]
    obtain ⟨hl, hd, hn⟩ := startMatchFromLobby_sameData hstart
    exact ⟨hl, hd, hn⟩

lemma onVsPreBattle_sameData (c : NetplayClient) (vsMode : Bool) :
    SameData c (c.onVsPreBattleTasksRegistered vsMode) := by
  unfold onVsPreBattleTasksRegistered
  split
  · exact .refl c
  · split
    · exact .refl c
    · exact ⟨rfl, rfl, rfl⟩

end NetplayClient

/-- The client holds the data of the last update it received, and has counted its
`LOBBY_ALLREADY`. -/
structure HoldsData (log : List ClientEntry) (c : NetplayClient) : Prop where
  data : (c.lobbyData, c.matchData) = holds (delivered log)
  count : c.allReadys = Sf4e.allReadys (delivered log)

/-- A step that delivers nothing. -/
lemma HoldsData.keep {log : List ClientEntry} {e : ClientEntry} (h : HoldsData log e.pre)
    (hsame : e.pre.SameData e.post) (hnone : e.act.delivery? = none) :
    HoldsData (e :: log) e.post := by
  refine ⟨?_, ?_⟩
  · simpa [delivered_cons, hnone, hsame.lobbyData, hsame.matchData] using h.data
  · simpa [delivered_cons, hnone, hsame.allReadys] using h.count

lemma HoldsData.step {log : List ClientEntry} {e : ClientEntry} (h : HoldsData log e.pre)
    (hstep : clientLTS.Steps e) : HoldsData (e :: log) e.post := by
  obtain ⟨c, act, out, c'⟩ := e
  have hnext : c.next act = some (out, c') := hstep
  cases act with
  | deliver msg mainMenu =>
    obtain ⟨rfl, rfl⟩ := Prod.mk.inj (Option.some.inj hnext)
    refine ⟨?_, ?_⟩
    · simp only [delivered_cons, ClientAction.delivery?, Option.toList_some]
      cases msg with
      | dataUpdate l d => simp [holds_snoc_update, NetplayClient.receive]
      | lobbyAllReady =>
        rw [holds_snoc_of_not_update rfl, ← h.data]
        have hsame := NetplayClient.onReady_sameData
          { c with allReadys := c.allReadys + 1 } mainMenu
        simp [NetplayClient.receive, hsame.lobbyData, hsame.matchData]
      | helloResp | joinReject | battleSynced | punchGo | relayed =>
        rw [holds_snoc_of_not_update rfl, ← h.data]
        rfl
    · simp only [delivered_cons, ClientAction.delivery?, Option.toList_some, allReadys_append]
      rw [← h.count]
      cases msg with
      | lobbyAllReady =>
        have hsame := NetplayClient.onReady_sameData
          { c with allReadys := c.allReadys + 1 } mainMenu
        simp [NetplayClient.receive, hsame.allReadys, allReadys]
      | dataUpdate | helloResp | joinReject | battleSynced | punchGo | relayed =>
        simp [NetplayClient.receive, allReadys]
  | tick mainMenu =>
    obtain ⟨rfl, rfl⟩ := Prod.mk.inj (Option.some.inj hnext)
    exact h.keep (NetplayClient.tryStartPendingMatch_sameData c mainMenu) rfl
  | preBattle vsMode =>
    obtain ⟨rfl, rfl⟩ := Prod.mk.inj (Option.some.inj hnext)
    refine h.keep ?_ rfl
    dsimp only
    split
    · obtain ⟨hl, hd, hn⟩ := NetplayClient.onVsPreBattle_sameData c vsMode
      exact ⟨hl, hd, hn⟩
    · exact .refl c
  | battle udpRelay relayHealthy transportReady =>
    simp only [NetplayClient.next] at hnext
    split at hnext
    all_goals obtain ⟨rfl, rfl⟩ := Prod.mk.inj (Option.some.inj hnext)
    · exact h.keep ⟨rfl, rfl, rfl⟩ rfl
    · exact h.keep (.refl c) rfl

/-- The data a client holds in every run. -/
lemma holdsData_of_run {log : List ClientEntry} {c : NetplayClient} (h : clientLTS.Run log c) :
    HoldsData log c := by
  refine h.invariant_of_step HoldsData ?_ fun _ _ hi hs => hi.step hs
  rintro c rfl
  exact ⟨rfl, rfl⟩

end Sf4e
