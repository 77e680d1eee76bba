/-
# What the spectators may do

The members after the first two are spectators.  Almost every handler looks up the side of the
sender first and stops when there is none, so that a spectator changes nothing that the players
agree on (`keepsMatch_of_spectator`).  The exception is the report of a result, which the server
takes from anybody (`Oversteps`).
-/
import Sf4e.Session.ServerRun

namespace Sf4e

open SessionProtocol SessionServer

/-! ## The property -/

/-- A member in slot 2 or 3 is on this connection. -/
def SessionServer.Spectates (s : SessionServer) (conn : HSteamNetConnection) : Prop :=
  ∃ c ∈ s.clients.drop 2, c.conn = conn

instance (s : SessionServer) (conn : HSteamNetConnection) : Decidable (s.Spectates conn) :=
  inferInstanceAs (Decidable (∃ c ∈ s.clients.drop 2, c.conn = conn))

/-- A player is on this connection. -/
def SessionServer.Plays (s : SessionServer) (conn : HSteamNetConnection) : Prop :=
  (s.side conn).isSome = true

instance (s : SessionServer) (conn : HSteamNetConnection) : Decidable (s.Plays conn) :=
  inferInstanceAs (Decidable (_ = _))

/-- The players, the match that they prepare and the settings of the lobby stay. -/
structure KeepsMatch (s s' : SessionServer) : Prop where
  /-- The match data stays. -/
  matchData : s'.matchData = s.matchData
  /-- The lobby settings stay. -/
  settings : s'.setup = s.setup
  /-- The same members hold the slots 0 and 1. -/
  occupant : ∀ i, s'.occupant i = s.occupant i

instance (s s' : SessionServer) : Decidable (KeepsMatch s s') :=
  decidable_of_iff
    (s'.matchData = s.matchData ∧ s'.setup = s.setup ∧ ∀ i, s'.occupant i = s.occupant i)
    ⟨fun h => ⟨h.1, h.2.1, h.2.2⟩, fun h => ⟨h.matchData, h.settings, h.occupant⟩⟩

/-! ## The condition -/

/-- The handler of the type looks up the side of the sender to change the match, the lobby or
the ready state. -/
def SessionProtocol.MessageType.playersOnly : MessageType → Bool
  | .lobbyReady | .lobbyReset | .lobbySetSettings
  | .preBattleSetEnv | .preBattleSetChara | .preBattleSetStage => true
  | _ => false

/-- The report moves a player to the end of the queue, or clears what the players have
prepared. -/
def SessionServer.Disturbs (s : SessionServer) (r : LobbyReportResults) : Prop :=
  r.loserSide.toInt < 2 ∨ s.matchData ≠ MatchData.clear

instance (s : SessionServer) (r : LobbyReportResults) : Decidable (s.Disturbs r) :=
  inferInstanceAs (Decidable (_ ∨ _))

/-- The message reports a result that disturbs the players, or it makes a player's request on
a connection that has a player on it as well. -/
def SessionServer.Oversteps (s : SessionServer) (m : Incoming) : Prop :=
  ∃ r ∈ s.request m,
    (r.1 = .lobbyReportResults ∧ ∃ report ∈ r.2.reportResults, s.Disturbs report) ∨
    (r.1.playersOnly = true ∧ s.Plays m.conn)

instance (s : SessionServer) : DecidablePred s.Oversteps := fun m =>
  inferInstanceAs (Decidable (∃ r ∈ s.request m,
    (r.1 = .lobbyReportResults ∧ ∃ report ∈ r.2.reportResults, s.Disturbs report) ∨
    (r.1.playersOnly = true ∧ s.Plays m.conn)))

/-! ## What a message is -/

namespace SessionServer

/-- A reported result, in terms of the message. -/
lemma exists_report_of_event {s : SessionServer} {m : Incoming} {l : ℤ}
    (h : s.event m = .results l) :
    ∃ doc, s.request m = some (.lobbyReportResults, doc) ∧
      ∃ report ∈ doc.reportResults, report.loserSide.toInt = l := by
  unfold event at h
  split at h
  · exact absurd h (by simp)
  · rename_i type doc hreq
    cases type <;> simp only [reduceCtorEq] at h
    case lobbyReportResults =>
      cases hr : doc.reportResults with
      | none => simp [hr] at h
      | some report =>
        rw [hr, Option.elim_some, Event.results.injEq] at h
        exact ⟨doc, hreq, report, hr, h⟩
    case lobbyReady => cases hside : s.side m.conn <;> simp [hside] at h
    case lobbyReset => cases hside : s.side m.conn <;> simp [hside] at h
    all_goals exact absurd h (setterEvent_ne (by simp) (by simp))

lemma onSetChara_of_not_plays {s : SessionServer} {conn : HSteamNetConnection}
    (h : ¬ s.Plays conn) (doc : Document) : s.onSetChara conn doc = s := by
  have hside : s.side conn = none := by simpa [Plays] using h
  simp [onSetChara, hside]

lemma hostSetter_of_not_plays {ρ : Type} {s : SessionServer} {conn : HSteamNetConnection}
    (h : ¬ s.Plays conn) (request : Option ρ) (set : ρ → SessionServer) :
    s.hostSetter conn request set = s := by
  have hside : s.side conn = none := by simpa [Plays] using h
  simp [hostSetter, hside]

lemma setterEvent_self (s : SessionServer) : s.setterEvent s = .other := if_pos rfl

/-- Only a player's request changes the setup. -/
lemma exists_playersOnly_of_setter {s : SessionServer} {m : Incoming}
    (h : s.event m = .setter) :
    ∃ r ∈ s.request m, r.1.playersOnly = true ∧ s.Plays m.conn := by
  by_cases hplays : s.Plays m.conn
  · unfold event at h
    split at h
    · exact absurd h (by simp)
    · rename_i type doc hreq
      refine ⟨(type, doc), hreq, ?_, hplays⟩
      cases type <;> simp only [reduceCtorEq] at h
      case lobbyReportResults => cases hr : doc.reportResults <;> simp [hr] at h
      all_goals rfl
  · -- a request of somebody who does not play changes nothing
    exfalso
    have hside : s.side m.conn = none := by simpa [Plays] using hplays
    unfold event at h
    split at h
    · exact absurd h (by simp)
    · rename_i type doc hreq
      cases type <;> simp only [hside, Option.elim_none, onSetEnv, onSetStage, onSetSettings,
        onSetChara_of_not_plays hplays, hostSetter_of_not_plays hplays, setterEvent_self,
        reduceCtorEq] at h
      case lobbyReportResults => cases hr : doc.reportResults <;> simp [hr] at h

/-! ## What a spectator's message does -/

/-- With a spectator in the lobby both players' slots are taken. -/
lemma Spectates.exists_occupant {s : SessionServer} {conn : HSteamNetConnection}
    (h : s.Spectates conn) (i : Side) : ∃ w, s.occupant i = some w := by
  obtain ⟨c, hc, -⟩ := h
  have hlen : 0 < (s.clients.drop 2).length := List.length_pos_of_mem hc
  rw [List.length_drop] at hlen
  have hi : i.val < s.clients.length := by omega
  exact ⟨(s.clients[i.val]).who, by simp [occupant, player, List.getElem?_eq_getElem hi]⟩

end SessionServer

lemma KeepsMatch.of_quiet {s s' : SessionServer} (h : Quiet s s')
    (hfull : ∀ i, ∃ w, s.occupant i = some w) : KeepsMatch s s' where
  matchData := by
    have hready := h.ready
    have hsetup := h.setup
    simp only [setup, setupOf, MatchSetup.mk.injEq] at hsetup
    obtain ⟨hchara, hstage, hseed, -⟩ := hsetup
    cases hd : s.matchData
    cases hd' : s'.matchData
    simp_all
  settings := h.setup
  occupant i := by
    obtain ⟨w, hw⟩ := hfull i
    rw [hw]
    exact h.occupant i w hw

/-- A report about a spectator, while nothing is prepared, leaves the players alone. -/
lemma KeepsMatch.of_handleResults {s s' : SessionServer} {l : ℤ}
    (h : s.handleResults l = some s') (hl : 2 ≤ l) (hclear : s.matchData = MatchData.clear)
    (b : Bool) : KeepsMatch s { s' with dataDirty := b } := by
  unfold handleResults at h
  split_ifs at h
  split at h
  · exact absurd h (by simp)
  · rename_i loser hloser
    obtain rfl := Option.some.inj h
    refine ⟨hclear.symm, by simp [setup, hclear], fun i => ?_⟩
    have hlen : l.toNat < s.clients.length := by
      by_contra hge
      simp [List.getElem?_eq_none (not_lt.1 hge)] at hloser
    have hi : i.val < l.toNat := by omega
    simp only [SessionServer.occupant, player]
    rw [List.getElem?_eraseIdx_of_lt hi, List.getElem?_append_left (hi.trans hlen)]

/-- **Step lemma.** A spectator's message that does not overstep leaves the players, their match
and the settings as they are. -/
theorem keepsMatch_of_spectator {st st' : StepState} {m : Incoming} {out : List Output}
    (h : st.onMessage m = some (st', out)) (hspec : st.server.Spectates m.conn)
    (hok : ¬ st.server.Oversteps m) : KeepsMatch st.server st'.server := by
  have hhandled := StepState.onMessage_cases h
  generalize hev : st.server.event m = ev at hhandled
  cases hhandled with
  | ready hside =>
    obtain ⟨htype, hcid, -⟩ := event_eq_ready_iff.1 hev
    obtain ⟨doc, hreq⟩ := exists_request htype hcid
    exact absurd ⟨_, hreq, Or.inr ⟨rfl, by simp [Plays, hside]⟩⟩ hok
  | reset hside =>
    obtain ⟨htype, hcid, -⟩ := event_eq_reset_iff.1 hev
    obtain ⟨doc, hreq⟩ := exists_request htype hcid
    exact absurd ⟨_, hreq, Or.inr ⟨rfl, by simp [Plays, hside]⟩⟩ hok
  | results hs' =>
    obtain ⟨doc, hreq, report, hreport, rfl⟩ := exists_report_of_event hev
    have hno : ¬ st.server.Disturbs report := fun hd =>
      hok ⟨_, hreq, Or.inl ⟨rfl, report, hreport, hd⟩⟩
    rw [Disturbs, not_or, not_lt, not_not] at hno
    exact .of_handleResults hs' hno.1 hno.2 true
  | setter hs' =>
    obtain ⟨r, hr, hplayers⟩ := exists_playersOnly_of_setter hev
    exact absurd ⟨r, hr, Or.inr hplayers⟩ hok
  | other hquiet hlatch hout => exact .of_quiet hquiet hspec.exists_occupant

end Sf4e
