/-
# The stage index

The player in slot 0 selects a stage, the server stores whatever number it sends, and every
client uses the number that it holds before the battle as an index into the game's table of
stage codes.  Nobody checks it on the way.

A venue is the server with the clients on all connections and the channels between them.  The
reference data follow the selection: the one that stands at the server since the match data was
last cleared, the one that stood when a data update was sent, and the one behind the data that a
client holds.  A client's lookup is inside the table exactly when a stage of the table is behind
the data that it holds (`inTable_iff`).
-/
import Sf4e.Match.Client

namespace Sf4e

open SessionProtocol SessionServer Trace

/-! ## What a message does to the stage -/

/-- What a message amounts to, for the stage. -/
inductive StageEvent
  /-- The player in slot 0 selects the stage. -/
  | select (stageID : Int32)
  /-- The match data is cleared. -/
  | clear
  /-- Anything else. -/
  | other
deriving DecidableEq

/-- What the message amounts to in this state. -/
def SessionServer.stageEvent (s : SessionServer) (m : Incoming) : StageEvent :=
  match s.request m with
  | some (.preBattleSetStage, doc) =>
    if s.side m.conn = some 0 then doc.setStage.elim .other fun r => .select r.stageID else .other
  | some (.lobbyReportResults, doc) => doc.reportResults.elim .other fun _ => .clear
  | _ => .other

/-- What an action amounts to, for the stage. -/
def Phase.stageEvent : Phase → Action → StageEvent
  | .receiving st, .message m => st.server.stageEvent m
  | _, _ => .other

/-- The selection that stands after the event. -/
def StageEvent.selection (before : Option Int32) : StageEvent → Option Int32
  | .select stageID => some stageID
  | .clear => none
  | .other => before

/-- The stage index of a match with this selection. -/
def stageOf (selection : Option Int32) : ℤ := selection.elim (-1) Int32.toInt

lemma stageEvent_of_no_request {s : SessionServer} {m : Incoming} (h : s.request m = none) :
    s.stageEvent m = .other := by simp [SessionServer.stageEvent, h]

lemma stageID_of_quiet {s s' : SessionServer} (h : Quiet s s') :
    s'.matchData.stageID = s.matchData.stageID := congrArg MatchSetup.stageID h.setup

lemma stageID_hostSetter {ρ : Type} (s : SessionServer) (conn : HSteamNetConnection)
    (request : Option ρ) {set : ρ → SessionServer}
    (h : ∀ r, (set r).matchData.stageID = s.matchData.stageID) :
    (s.hostSetter conn request set).matchData.stageID = s.matchData.stageID := by
  unfold hostSetter
  split
  · rfl
  · split
    · rfl
    · exact h _

/-- A result clears the match data. -/
lemma matchData_handleResults {s s' : SessionServer} {l : ℤ} (h : s.handleResults l = some s') :
    s'.matchData = MatchData.clear := by
  unfold handleResults at h
  split_ifs at h
  split at h
  · exact absurd h (by simp)
  · obtain rfl := Option.some.inj h
    rfl

/-- The stage after a request, in terms of the selection. -/
lemma stageID_onRegistered {st st' : StepState} {m : Incoming} {doc : Document}
    {type : MessageType} {cid : ConnectionID} {out : List Output} {selection : Option Int32}
    (hreq : st.server.request m = some (type, doc))
    (h : st.onRegistered m doc type cid = some (st', out))
    (hstage : st.server.matchData.stageID = stageOf selection) :
    st'.server.matchData.stageID = stageOf ((st.server.stageEvent m).selection selection) := by
  simp only [SessionServer.stageEvent, hreq]
  cases type <;> simp only [StepState.onRegistered, Option.some.injEq, Prod.mk.injEq] at h
  case lobbyReportResults =>
    obtain ⟨s', hs', heq⟩ := Option.map_eq_some_iff.1 h
    obtain ⟨rfl, -⟩ := Prod.mk.inj heq
    unfold onReportResults at hs'
    show s'.matchData.stageID =
      stageOf ((doc.reportResults.elim StageEvent.other fun _ => .clear).selection selection)
    cases hr : doc.reportResults with
    | none =>
      simp only [hr, Option.some.injEq] at hs'
      exact hs' ▸ hstage
    | some r =>
      simp only [hr] at hs'
      obtain ⟨s₁, hs₁, rfl⟩ := Option.map_eq_some_iff.1 hs'
      exact congrArg MatchData.stageID (matchData_handleResults hs₁)
  all_goals obtain ⟨rfl, -⟩ := h
  case preBattleSetStage =>
    simp only [onSetStage, hostSetter]
    by_cases hside : st.server.side m.conn = some 0
    · simp only [hside, ne_eq, not_true, if_false, if_true]
      cases hr : doc.setStage with
      | none => exact hstage
      | some r => rfl
    · simp only [hside, ne_eq, not_false_eq_true, if_true, if_false]
      exact hstage
  all_goals refine Eq.trans ?_ hstage
  case sessionJoinReq => exact stageID_of_quiet (onJoinReq_quiet _ _ _ _)
  case punchReady => exact stageID_of_quiet (onPunchReady_quiet _ _)
  case preBattleSetEnv => exact stageID_hostSetter _ _ _ fun _ => rfl
  case lobbySetSettings => exact stageID_hostSetter _ _ _ fun _ => rfl
  case preBattleSetChara =>
    simp only [onSetChara]
    split <;> rfl
  case lobbyReady =>
    simp only [StepState.onReady]
    split <;> rfl
  case lobbyReset =>
    simp only [onReset]
    split <;> rfl
  all_goals rfl

/-- **Step lemma for the server.** The stage index is that of the selection. -/
lemma stageID_of_next {ph ph' : Phase} {a : Action} {out : List Output}
    {selection : Option Int32} (h : ph.next a = some (out, ph'))
    (hstage : ph.server.matchData.stageID = stageOf selection) :
    ph'.server.matchData.stageID = stageOf ((ph.stageEvent a).selection selection) := by
  have hmoves := moves_of_next h
  cases hmoves with
  | message hev hids hh =>
    rename_i st st' m ev
    obtain ⟨⟨st₁, out₁⟩, hmsg, heq⟩ := Option.map_eq_some_iff.1 h
    obtain rfl : st₁ = st' := Phase.receiving.inj (Prod.mk.inj heq).2
    simp only [Phase.server_receiving] at hstage ⊢
    rcases StepState.onMessage_request hmsg with ⟨type, doc, cid, hreq, -, hreg⟩ |
      ⟨hreq, rfl, -⟩ | ⟨hreq, -, rfl, -⟩
    · exact stageID_onRegistered hreq hreg hstage
    all_goals
      rw [Phase.stageEvent, stageEvent_of_no_request hreq]
      exact hstage
  | statusChanged =>
    refine Eq.trans ?_ hstage
    simp only [Phase.server_idle, onSteamNetConnectionStatusChanged]
    split
    · split <;> rfl
    · rfl
  | beginStep | pollError | resetLobbyForRematch | nullMessage | endStep => exact hstage

/-! ## The venue -/

/-- A message from the server, with the selection that stood when it was sent, for reference. -/
structure Posted where
  msg : ServerMessage
  selection : Option Int32

/-- The client on a connection. -/
structure Guest where
  client : NetplayClient
  /-- The messages on their way to it, oldest first. -/
  inbox : List Posted
  /-- The selection behind the match data that it holds, for reference. -/
  held : Option Int32

/-- The server, the clients and the channels. -/
structure Venue where
  phase : Phase
  /-- What the player in slot 0 has selected since the match data was last cleared, for
  reference. -/
  selection : Option Int32
  guest : HSteamNetConnection → Guest

/-- What happens at the venue. -/
inductive VenueAction
  /-- Something happens to the server. -/
  | server (act : Action)
  /-- The client on the connection takes its next message. -/
  | deliver (conn : HSteamNetConnection) (mainMenu : Bool)
  /-- The client on the connection does something on its own. -/
  | client (conn : HSteamNetConnection) (act : ClientAction)
  /-- The handle is given to a new client. -/
  | connect (conn : HSteamNetConnection)
deriving DecidableEq

/-- A client looks a stage up in `Dimps::stageCodes`. -/
structure Lookup where
  /-- The connection of the client. -/
  conn : HSteamNetConnection
  /-- The index. -/
  stageID : ℤ
deriving DecidableEq, Repr

/-- The index that `_OnVsPreBattleTasksRegistered` uses, if the hook is set and comes so far. -/
def NetplayClient.lookup? (c : NetplayClient) : ClientAction → Option ℤ
  | .preBattle vsMode =>
    if c.preBattleHook = true ∧ 2 ≤ c.lobbyData.members.length ∧ vsMode = true then
      some c.matchData.stageID
    else none
  | _ => none

/-- The lookup is the one behind the stage code that the hook writes. -/
lemma NetplayClient.conditions_of_lookup {c c' : NetplayClient} {a : ClientAction}
    {out : List ClientOutput} {stageID : ℤ} (h : c.next a = some (out, c'))
    (hl : c.lookup? a = some stageID) : c'.conditions = some ⟨c.matchData.chara, stageID⟩ := by
  cases a with
  | preBattle vsMode =>
    simp only [lookup?] at hl
    split at hl
    · rename_i hhook
      obtain ⟨hhook, htwo, rfl⟩ := hhook
      obtain rfl := Option.some.inj hl
      obtain ⟨-, rfl⟩ := Prod.mk.inj (Option.some.inj h)
      simp [hhook, onVsPreBattleTasksRegistered, not_lt.2 htwo]
    · exact absurd hl (by simp)
  | deliver | tick | battle => simp [lookup?] at hl

namespace Guest

/-- A client that has just connected. -/
def new : Guest := ⟨.new, [], none⟩

/-- The client takes a message. -/
def receive (g : Guest) (p : Posted) (rest : List Posted) (mainMenu : Bool) : Guest where
  client := g.client.receive p.msg mainMenu
  inbox := rest
  held := match p.msg with
    | .dataUpdate _ _ => p.selection
    | _ => g.held

end Guest

namespace Venue

/-- One client has moved on. -/
def setGuest (v : Venue) (conn : HSteamNetConnection) (g : Guest) : Venue :=
  { v with guest := Function.update v.guest conn g }

/-- The messages that the outputs carry to a connection. -/
def posts (selection : Option Int32) (conn : HSteamNetConnection) (out : List Output) :
    List Posted :=
  (out.flatMap (Output.deliveries conn)).map fun msg => ⟨msg, selection⟩

/-- One step; `none` when it cannot be taken. -/
def next (v : Venue) : VenueAction → Option (List Lookup × Venue)
  | .server a =>
    (v.phase.next a).map fun r =>
      ([],
        { phase := r.2
          selection := (v.phase.stageEvent a).selection v.selection
          guest := fun c =>
            { v.guest c with inbox := (v.guest c).inbox ++ posts v.selection c r.1 } })
  | .deliver conn mainMenu =>
    match (v.guest conn).inbox with
    | [] => none
    | p :: rest =>
      some ([], v.setGuest conn ((v.guest conn).receive p rest mainMenu))
  | .client conn a =>
    match a with
    | .deliver _ _ => none
    | a => ((v.guest conn).client.next a).map fun r =>
        ((((v.guest conn).client.lookup? a).map fun stageID => Lookup.mk conn stageID).toList,
          v.setGuest conn { v.guest conn with client := r.2 })
  | .connect conn => some ([], v.setGuest conn .new)

end Venue

/-- The runs of a venue with a fresh server and new clients. -/
def venueLTS : LTS Venue VenueAction (List Lookup) :=
  .ofFun (fun v => Fresh v.phase ∧ v.selection = none ∧ v.guest = fun _ => .new) Venue.next

/-- One step of the venue. -/
abbrev VenueEntry := Entry Venue VenueAction (List Lookup)

/-! ## The property and the condition -/

/-- The index is inside a table of `n` entries. -/
def InTable (n : ℕ) (stageID : ℤ) : Prop := 0 ≤ stageID ∧ stageID < n

instance (n : ℕ) (stageID : ℤ) : Decidable (InTable n stageID) :=
  inferInstanceAs (Decidable (_ ∧ _))

/-- A client that looks its stage up in this step holds data behind which there is a selection,
and one from the table. -/
def SelectedInTable (n : ℕ) (e : VenueEntry) : Prop :=
  ∀ l ∈ e.out, ∃ stageID ∈ (e.pre.guest l.conn).held, InTable n stageID.toInt

instance (n : ℕ) : DecidablePred (SelectedInTable n) := fun e =>
  inferInstanceAs (Decidable (∀ l ∈ e.out, ∃ stageID ∈ (e.pre.guest l.conn).held,
    InTable n stageID.toInt))

lemma inTable_stageOf_iff {n : ℕ} {selection : Option Int32} :
    InTable n (stageOf selection) ↔ ∃ stageID ∈ selection, InTable n stageID.toInt := by
  cases selection with
  | none => simp [stageOf, InTable]
  | some stageID => simp [stageOf]

/-! ## Runs -/

/-- **Invariant.** Every stage index is that of the selection kept beside it. -/
structure Venue.Tracked (v : Venue) : Prop where
  /-- The server's. -/
  server : v.phase.server.matchData.stageID = stageOf v.selection
  /-- Those on their way. -/
  inbox : ∀ conn, ∀ p ∈ (v.guest conn).inbox, ∀ l d, p.msg = .dataUpdate l d →
    d.stageID = stageOf p.selection
  /-- The clients'. -/
  held : ∀ conn, (v.guest conn).client.matchData.stageID = stageOf (v.guest conn).held

lemma tracked_of_init {v : Venue} (h : venueLTS.init v) : v.Tracked := by
  obtain ⟨⟨identity, hash, edition, rounds, time, hph⟩, hsel, hguest⟩ := h
  refine ⟨?_, ?_, ?_⟩
  · rw [hph, hsel]
    rfl
  · simp [hguest, Guest.new]
  · intro conn
    rw [hguest]
    rfl

/-- What one guest keeps is enough when the server does nothing. -/
lemma Venue.Tracked.update {v : Venue} (h : v.Tracked) (conn : HSteamNetConnection) {g : Guest}
    (hinbox : ∀ p ∈ g.inbox, ∀ l d, p.msg = .dataUpdate l d → d.stageID = stageOf p.selection)
    (hheld : g.client.matchData.stageID = stageOf g.held) :
    (v.setGuest conn g).Tracked where
  server := h.server
  inbox c := by
    by_cases hc : c = conn
    · subst hc
      simpa [setGuest] using hinbox
    · simpa [setGuest, hc] using h.inbox c
  held c := by
    by_cases hc : c = conn
    · subst hc
      simpa [setGuest] using hheld
    · simpa [setGuest, hc] using h.held c

/-- A client's own steps do not touch the match data. -/
lemma matchData_of_clientNext {c c' : NetplayClient} {a : ClientAction} {out : List ClientOutput}
    (ha : ∀ msg menu, a ≠ .deliver msg menu) (h : c.next a = some (out, c')) :
    c'.matchData = c.matchData := by
  cases a with
  | deliver msg menu => exact absurd rfl (ha msg menu)
  | tick mainMenu =>
    obtain ⟨-, rfl⟩ := Prod.mk.inj (Option.some.inj h)
    exact (NetplayClient.tryStartPendingMatch_sameData c mainMenu).matchData
  | preBattle vsMode =>
    obtain ⟨-, rfl⟩ := Prod.mk.inj (Option.some.inj h)
    split
    · exact (NetplayClient.onVsPreBattle_sameData c vsMode).matchData
    · rfl
  | battle udpRelay relayHealthy transportReady =>
    simp only [NetplayClient.next] at h
    split at h
    all_goals
      obtain ⟨-, rfl⟩ := Prod.mk.inj (Option.some.inj h)
      rfl

/-- What a client's own step is. -/
lemma Venue.exists_next_of_client {v v' : Venue} {conn : HSteamNetConnection}
    {a : ClientAction} {out : List Lookup} (h : v.next (.client conn a) = some (out, v')) :
    (∀ msg menu, a ≠ .deliver msg menu) ∧ ∃ o c', (v.guest conn).client.next a = some (o, c') ∧
      out = (((v.guest conn).client.lookup? a).map fun stageID => Lookup.mk conn stageID).toList ∧
      v' = v.setGuest conn { v.guest conn with client := c' } := by
  have ha : ∀ msg menu, a ≠ .deliver msg menu := by
    rintro msg menu rfl
    simp [Venue.next] at h
  have hmap : (((v.guest conn).client.next a).map fun r =>
      ((((v.guest conn).client.lookup? a).map fun stageID => Lookup.mk conn stageID).toList,
        v.setGuest conn { v.guest conn with client := r.2 })) = some (out, v') := by
    cases a with
    | deliver msg menu => exact absurd rfl (ha msg menu)
    | _ => exact h
  obtain ⟨⟨o, c'⟩, hr, heq⟩ := Option.map_eq_some_iff.1 hmap
  obtain ⟨rfl, rfl⟩ := Prod.mk.inj heq
  exact ⟨ha, o, c', hr, rfl, rfl⟩

lemma stageID_receive {g : Guest} {p : Posted} (hp : ∀ l d, p.msg = .dataUpdate l d →
    d.stageID = stageOf p.selection) (hheld : g.client.matchData.stageID = stageOf g.held)
    (rest : List Posted) (mainMenu : Bool) :
    (g.receive p rest mainMenu).client.matchData.stageID =
      stageOf (g.receive p rest mainMenu).held := by
  simp only [Guest.receive]
  cases hmsg : p.msg with
  | dataUpdate l d => exact hp l d hmsg
  | lobbyAllReady =>
    have hsame := (NetplayClient.onReady_sameData
      { g.client with allReadys := g.client.allReadys + 1 } mainMenu).matchData
    simpa [NetplayClient.receive, hsame] using hheld
  | helloResp | joinReject | battleSynced | punchGo | relayed => exact hheld

/-- **Step lemma.** -/
lemma Venue.Tracked.step {v v' : Venue} {a : VenueAction} {out : List Lookup} (h : v.Tracked)
    (hnext : v.next a = some (out, v')) : v'.Tracked := by
  cases a with
  | server a =>
    obtain ⟨⟨o, ph⟩, hph, heq⟩ := Option.map_eq_some_iff.1 hnext
    obtain ⟨-, rfl⟩ := Prod.mk.inj heq
    refine ⟨stageID_of_next hph h.server, fun conn p hp l d hmsg => ?_, h.held⟩
    rcases List.mem_append.1 hp with hp | hp
    · exact h.inbox conn p hp l d hmsg
    · obtain ⟨msg, hmem, rfl⟩ := List.mem_map.1 hp
      obtain rfl : msg = .dataUpdate l d := hmsg
      have hstep : serverLTS.Steps ⟨v.phase, a, o, ph⟩ := hph
      obtain ⟨-, rfl⟩ := update_of_steps hstep hmem
      exact h.server
  | deliver conn mainMenu =>
    simp only [Venue.next] at hnext
    split at hnext
    · exact absurd hnext (by simp)
    · rename_i p rest hinbox
      obtain ⟨-, rfl⟩ := Prod.mk.inj (Option.some.inj hnext)
      have hp := h.inbox conn
      rw [hinbox] at hp
      refine h.update conn (fun p' hp' => hp p' (List.mem_cons_of_mem _ hp')) ?_
      exact stageID_receive (hp p List.mem_cons_self) (h.held conn) rest mainMenu
  | client conn a =>
    obtain ⟨ha, o, c', hr, -, rfl⟩ := Venue.exists_next_of_client hnext
    refine h.update conn (h.inbox conn) ?_
    rw [matchData_of_clientNext ha hr]
    exact h.held conn
  | connect conn =>
    obtain ⟨-, rfl⟩ := Prod.mk.inj (Option.some.inj hnext)
    exact h.update conn (by simp [Guest.new]) rfl

/-- A lookup uses the index that the client holds. -/
lemma lookup_of_steps {e : VenueEntry} (hs : venueLTS.Steps e) {l : Lookup} (hl : l ∈ e.out) :
    l.stageID = (e.pre.guest l.conn).client.matchData.stageID := by
  obtain ⟨v, act, out, v'⟩ := e
  have hnext : v.next act = some (out, v') := hs
  cases act with
  | server a =>
    obtain ⟨r, -, heq⟩ := Option.map_eq_some_iff.1 hnext
    obtain ⟨rfl, -⟩ := Prod.mk.inj heq
    simp at hl
  | deliver conn mainMenu =>
    simp only [Venue.next] at hnext
    split at hnext
    · exact absurd hnext (by simp)
    · obtain ⟨rfl, -⟩ := Prod.mk.inj (Option.some.inj hnext)
      simp at hl
  | client conn a =>
    obtain ⟨-, o, c', -, rfl, -⟩ := Venue.exists_next_of_client hnext
    obtain ⟨stageID, hlookup, rfl⟩ := Option.map_eq_some_iff.1 (Option.mem_toList.1 hl)
    cases a with
    | preBattle vsMode =>
      simp only [NetplayClient.lookup?] at hlookup
      split at hlookup
      · exact (Option.some.inj hlookup).symm
      · exact absurd hlookup (by simp)
    | deliver | tick | battle => simp [NetplayClient.lookup?] at hlookup
  | connect conn =>
    obtain ⟨rfl, -⟩ := Prod.mk.inj (Option.some.inj hnext)
    simp at hl

/-- **Stage index safety.** In a run every index that a client uses before a battle is inside a
table of `n` entries exactly when, each time, a selection from the table stood at the server as
it sent the match data that the client holds. -/
theorem inTable_iff (n : ℕ) {log : List VenueEntry} {v : Venue} (h : venueLTS.Run log v) :
    (∀ e ∈ log, ∀ l ∈ e.out, InTable n l.stageID) ↔ ∀ e ∈ log, SelectedInTable n e := by
  refine forall₂_congr fun e he => forall₂_congr fun l hl => ?_
  obtain ⟨newer, older, rfl⟩ := List.append_of_mem he
  obtain ⟨hrun, hs, -⟩ := h.at_entry
  have htracked : e.pre.Tracked := hrun.invariant_of_step (fun _ v => v.Tracked)
    (fun _ hinit => tracked_of_init hinit) fun _ _ hi hs => hi.step hs
  rw [lookup_of_steps hs hl, htracked.held l.conn, inTable_stageOf_iff]

/-- A list of actions that a fresh venue can carry out, and whose log passes a test. -/
lemma exists_venueRun_of_exec (acts : List VenueAction)
    {p : List VenueEntry → Venue → Prop} [∀ log v, Decidable (p log v)]
    (h : (LTS.exec Venue.next ⟨.idle (.new "" "" true 3 ⟨0, 99⟩), none, fun _ => .new⟩ []
      acts).any (fun r => decide (p r.1 r.2)) = true) :
    ∃ log v, venueLTS.Run log v ∧ p log v := by
  obtain ⟨log, v, hpath, hp⟩ := LTS.exists_path_of_exec acts h
  exact ⟨log, v, ⟨_, ⟨⟨_, _, _, _, _, rfl⟩, rfl, rfl⟩, hpath⟩, hp⟩

/-- Two clients join, the messages follow, both get ready, and the first one builds the pre-battle
setup. -/
def VenueAction.toBattle (choice : List Action) : List VenueAction :=
  let acts : List Action := [.beginStep] ++ Action.enter 1 "A" ++ Action.enter 2 "B" ++ choice ++
    [.message (.bare 1 4 .lobbyReady), .message (.bare 2 4 .lobbyReady), .endStep]
  acts.map .server ++
    [.deliver 1 true, .deliver 1 true, .deliver 1 true, .client 1 (.preBattle true)]

/-- The first client selects stage 5. -/
theorem inTable_selected :
    ∃ log v, venueLTS.Run log v ∧ (∃ e ∈ log, ⟨1, 5⟩ ∈ e.out) ∧
      ∀ e ∈ log, ∀ l ∈ e.out, InTable 30 l.stageID := by
  obtain ⟨log, v, hrun, hlookup, hok⟩ := exists_venueRun_of_exec
    (VenueAction.toBattle [.message ⟨1, 3, "", true, some { Document.bare .preBattleSetStage with
      setStage := some ⟨5⟩ }⟩])
    (p := fun log _ => (∃ e ∈ log, (⟨1, 5⟩ : Lookup) ∈ e.out) ∧
      ∀ e ∈ log, SelectedInTable 30 e) (by decide +kernel)
  exact ⟨log, v, hrun, hlookup, (inTable_iff 30 hrun).2 hok⟩

/-- **A match without a stage.** Two clients get ready without selecting a stage, and the first
one looks up the stage `-1`, which no table has. -/
theorem not_inTable_unselected :
    ¬ ∃ n : ℕ, ∀ log v, venueLTS.Run log v →
      ∀ e ∈ log, ∀ l ∈ e.out, InTable n l.stageID := by
  rintro ⟨n, h⟩
  obtain ⟨log, v, hrun, e, he, hl⟩ := exists_venueRun_of_exec (VenueAction.toBattle [])
    (p := fun log _ => ∃ e ∈ log, (⟨1, -1⟩ : Lookup) ∈ e.out) (by decide +kernel)
  have hin := h log v hrun e he _ hl
  exact absurd hin.1 (by decide)

end Sf4e
