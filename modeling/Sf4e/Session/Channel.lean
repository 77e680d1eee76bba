/-
# What a client hears

Every client has one reliable ordered connection to the server, so what it has received is a
prefix of what the server sent on that connection.  This file relates such a prefix to the
server's run.  A client that has received one more `LOBBY_ALLREADY` than were sent before a
given broadcast has also received the data update that goes with the broadcast, and the data
it holds comes from that update or a later one (`holds_of_prefix`).
-/
import Sf4e.Session.ReadyBarrier

namespace Sf4e

open SessionProtocol SessionServer Trace

/-! ## The messages on one connection -/

/-- The copies of an output that go out on a connection. -/
def Output.deliveries (conn : HSteamNetConnection) : Output → List ServerMessage
  | .respond c msg => if c = conn then [msg] else []
  | .broadcast conns msg => List.replicate (conns.count conn) msg

/-- Everything sent on a connection in the course of a log, oldest first. -/
def received (conn : HSteamNetConnection) (log : List ServerEntry) : List ServerMessage :=
  (sent log).flatMap (Output.deliveries conn)

/-- The data updates among some messages. -/
def updates (ms : List ServerMessage) : List (LobbyData × MatchData) :=
  ms.filterMap fun
    | .dataUpdate l d => some (l, d)
    | _ => none

/-- The number of `LOBBY_ALLREADY` among some messages. -/
def allReadys (ms : List ServerMessage) : ℕ := ms.count .lobbyAllReady

@[simp] lemma updates_nil : updates [] = [] := rfl

@[simp] lemma updates_append (ms ms' : List ServerMessage) :
    updates (ms ++ ms') = updates ms ++ updates ms' := by simp [updates]

@[simp] lemma allReadys_append (ms ms' : List ServerMessage) :
    allReadys (ms ++ ms') = allReadys ms + allReadys ms' := by simp [allReadys]

lemma mem_updates {ms : List ServerMessage} {u : LobbyData × MatchData} :
    u ∈ updates ms ↔ .dataUpdate u.1 u.2 ∈ ms := by
  simp only [updates, List.mem_filterMap]
  constructor
  · rintro ⟨msg, hmem, h⟩
    cases msg <;> simp_all
    exact h ▸ hmem
  · intro h
    exact ⟨_, h, rfl⟩

@[simp] lemma received_nil (conn : HSteamNetConnection) : received conn [] = [] := rfl

@[simp] lemma received_cons (conn : HSteamNetConnection) (e : ServerEntry)
    (log : List ServerEntry) :
    received conn (e :: log) = received conn log ++ e.out.flatMap (Output.deliveries conn) := by
  simp [received]

/-- What a longer log sends extends what the shorter one sent. -/
lemma received_append (conn : HSteamNetConnection) (newer older : List ServerEntry) :
    received conn (newer ++ older) = received conn older ++ received conn newer := by
  simp [received, sent]

/-! ## Data updates and the server's state -/

lemma eq_of_mem_deliveries {conn : HSteamNetConnection} {o : Output} {msg : ServerMessage}
    (h : msg ∈ o.deliveries conn) : ∃ c cs, o = .respond c msg ∨ o = .broadcast cs msg := by
  cases o with
  | respond c m =>
    simp only [Output.deliveries] at h
    split_ifs at h
    · exact ⟨c, [], Or.inl (by rw [List.mem_singleton.1 h])⟩
    · simp at h
  | broadcast cs m => exact ⟨0, cs, Or.inr (by rw [(List.mem_replicate.1 h).2])⟩

/-- A data update carries the data of the server at the end of the `Step` that sends it. -/
lemma update_of_steps {e : ServerEntry} (hstep : serverLTS.Steps e) {conn : HSteamNetConnection}
    {l : LobbyData} {d : MatchData}
    (h : .dataUpdate l d ∈ e.out.flatMap (Output.deliveries conn)) :
    l = StepState.sentLobbyData e.pre.server ∧ d = e.pre.server.matchData := by
  obtain ⟨o, ho, hmsg⟩ := List.mem_flatMap.1 h
  obtain ⟨c, cs, hoc⟩ := eq_of_mem_deliveries hmsg
  have hroutine : Output.routine o = false := by
    rcases hoc with rfl | rfl <;> rfl
  obtain ⟨pre, act, out, post⟩ := e
  have hmove := moves_of_steps hstep
  cases hmove with
  | beginStep | pollError | statusChanged | resetLobbyForRematch | nullMessage => simp at ho
  | message _ _ hh =>
    cases hh with
    | other _ _ hout => exact absurd (hout o ho) (by simp [hroutine])
    | ready | reset | results | setter => simp at ho
  | endStep =>
    rename_i st
    have hbroad : ∀ o ∈ st.broadcasts, ∀ c cs,
        (o = .respond c (.dataUpdate l d) ∨ o = .broadcast cs (.dataUpdate l d)) →
          l = StepState.sentLobbyData st.server ∧ d = st.server.matchData := by
      intro o ho c cs hoc
      simp only [StepState.broadcasts, SessionServer.broadcastMessage, StepState.dataUpdate,
        List.mem_append] at ho
      rcases ho with (ho | ho) | ho
      all_goals
        split_ifs at ho
        all_goals simp_all
    exact hbroad o ho c cs hoc

/-- A property of the sent data that the server's state keeps through a segment holds of
every update sent in it. -/
lemma forall_updates_of_path {ph ph' : Phase} {log : List ServerEntry}
    (h : serverLTS.Path ph log ph') {p : LobbyData → MatchData → Prop}
    (hinit : p (StepState.sentLobbyData ph.server) ph.server.matchData)
    (hkeep : ∀ e ∈ log, serverLTS.Steps e →
      p (StepState.sentLobbyData e.pre.server) e.pre.server.matchData →
        p (StepState.sentLobbyData e.post.server) e.post.server.matchData)
    (conn : HSteamNetConnection) : ∀ u ∈ updates (received conn log), p u.1 u.2 := by
  have hinv := h.invariant
    (fun log ph => p (StepState.sentLobbyData ph.server) ph.server.matchData ∧
      ∀ u ∈ updates (received conn log), p u.1 u.2)
    ⟨hinit, by simp⟩
    (fun log e hinv hstep hok => ?_) hkeep
  · exact hinv.2
  · refine ⟨hok hstep hinv.1, fun u hu => ?_⟩
    rw [received_cons, updates_append, List.mem_append] at hu
    rcases hu with hu | hu
    · exact hinv.2 u hu
    · obtain ⟨hl, hd⟩ := update_of_steps hstep (mem_updates.1 hu)
      rw [hl, hd]
      exact hinv.1

/-- A property of the sent data that the server's state never loses in a segment is never
lost between two updates sent in it. -/
lemma pairwise_updates_of_path {ph ph' : Phase} {log : List ServerEntry}
    (h : serverLTS.Path ph log ph') {p : LobbyData → MatchData → Prop}
    (hkeep : ∀ e ∈ log, serverLTS.Steps e →
      p (StepState.sentLobbyData e.pre.server) e.pre.server.matchData →
        p (StepState.sentLobbyData e.post.server) e.post.server.matchData)
    (conn : HSteamNetConnection) :
    (updates (received conn log)).Pairwise fun u v => p u.1 u.2 → p v.1 v.2 := by
  have hinv := h.invariant
    (fun log ph => ((updates (received conn log)).Pairwise fun u v => p u.1 u.2 → p v.1 v.2) ∧
      ∀ u ∈ updates (received conn log), p u.1 u.2 →
        p (StepState.sentLobbyData ph.server) ph.server.matchData)
    ⟨by simp, by simp⟩
    (fun log e hinv hstep hok => ?_) hkeep
  · exact hinv.1
  · obtain ⟨hpair, hnow⟩ := hinv
    have hnew : ∀ u ∈ updates (e.out.flatMap (Output.deliveries conn)),
        u = (StepState.sentLobbyData e.pre.server, e.pre.server.matchData) := by
      intro u hu
      obtain ⟨hl, hd⟩ := update_of_steps hstep (mem_updates.1 hu)
      exact Prod.ext hl hd
    rw [received_cons, updates_append]
    refine ⟨List.pairwise_append.2 ⟨hpair, ?_, fun u hu v hv hp => ?_⟩, fun u hu hp => ?_⟩
    · refine List.pairwise_of_forall_mem_list fun u hu v hv hp => ?_
      rw [hnew v hv, ← hnew u hu]
      exact hp
    · rw [hnew v hv]
      exact hnow u hu hp
    · rcases List.mem_append.1 hu with hu | hu
      · exact hok hstep (hnow u hu hp)
      · rw [hnew u hu] at hp
        exact hok hstep hp

/-! ## What a client holds -/

/-- The data a client holds after some messages: that of the last update.  The members'
flags are not transmitted. -/
def holds (ms : List ServerMessage) : LobbyData × MatchData :=
  match (updates ms).getLast? with
  | none => (LobbyData.nullLobby, MatchData.clear)
  | some u => ({ u.1 with members := u.1.members.map MemberData.received }, u.2)

lemma holds_snoc_of_not_update {ms : List ServerMessage} {msg : ServerMessage}
    (h : updates [msg] = []) : holds (ms ++ [msg]) = holds ms := by
  simp [holds, h]

lemma holds_snoc_update (ms : List ServerMessage) (l : LobbyData) (d : MatchData) :
    holds (ms ++ [.dataUpdate l d]) =
      ({ l with members := l.members.map MemberData.received }, d) := by
  simp [holds, updates]

/-- The data sent with a broadcast of `LOBBY_ALLREADY` comes first among what the broadcast
and everything after it send. -/
lemma exists_update_of_broadcastsAllReady {e : ServerEntry} (hstep : serverLTS.Steps e)
    (hall : BroadcastsAllReady e) (hdirty : e.pre.server.dataDirty = true)
    {conn : HSteamNetConnection} (hconn : conn ∈ e.pre.server.conns) :
    ∃ rest, e.out.flatMap (Output.deliveries conn) =
      .dataUpdate (StepState.sentLobbyData e.pre.server) e.pre.server.matchData :: rest := by
  obtain ⟨st, hpre, -, hout, -, -⟩ := exists_endStep_of_broadcastsAllReady hstep hall
  rw [hpre] at hdirty hconn ⊢
  rw [hout]
  obtain ⟨n, hn⟩ : ∃ n, st.server.conns.count conn = n + 1 :=
    Nat.exists_eq_add_one.2 (List.count_pos_iff.2 hconn)
  have hd : st.server.dataDirty = true := hdirty
  simp [StepState.broadcasts, hd, SessionServer.broadcastMessage, Output.deliveries, hn,
    List.replicate_succ, StepState.dataUpdate]

/-- What goes out on a connection from a broadcast of `LOBBY_ALLREADY` on starts with the data
update of the broadcast. -/
lemma exists_received_eq_update (newer : List ServerEntry) {older : List ServerEntry}
    {e : ServerEntry}
    (hrun : serverLTS.Run older e.pre) (hstep : serverLTS.Steps e) (hall : BroadcastsAllReady e)
    {conn : HSteamNetConnection} (hconn : conn ∈ e.pre.server.conns) :
    ∃ rest, received conn (newer ++ [e]) =
      .dataUpdate (StepState.sentLobbyData e.pre.server) e.pre.server.matchData :: rest := by
  obtain ⟨st, hpre, -, -, -, hl⟩ := exists_endStep_of_broadcastsAllReady hstep hall
  have hdirty := dirty_of_latched hrun (by simpa [hpre] using hl)
  obtain ⟨rest, hrest⟩ := exists_update_of_broadcastsAllReady hstep hall hdirty hconn
  refine ⟨rest ++ received conn newer, ?_⟩
  rw [received_append, received_cons, received_nil, List.nil_append, hrest, List.cons_append]

/-- **What a client holds after a broadcast.** `before` was sent before the broadcast, `after`
from it on, starting with a data update.  A client whose messages hold one more
`LOBBY_ALLREADY` than `before` holds the data of an update of `after`. -/
lemma holds_of_prefix {before after ms : List ServerMessage} {l : LobbyData} {d : MatchData}
    {rest : List ServerMessage} (hafter : after = .dataUpdate l d :: rest)
    (hpre : ms <+: before ++ after) (hcount : allReadys before < allReadys ms) :
    ∃ got, got <+: after ∧ ms = before ++ got ∧ ∃ u, (updates got).getLast? = some u ∧
      holds ms = ({ u.1 with members := u.1.members.map MemberData.received }, u.2) := by
  have hlen : before.length < ms.length := by
    by_contra hge
    have hle : ms <+: before :=
      List.prefix_of_prefix_length_le hpre (List.prefix_append before after) (not_lt.1 hge)
    have hle' : allReadys ms ≤ allReadys before := hle.sublist.count_le _
    omega
  obtain ⟨got, rfl⟩ : before <+: ms :=
    List.prefix_of_prefix_length_le (List.prefix_append before after) hpre hlen.le
  have hgot : got <+: after := (List.prefix_append_right_inj before).1 hpre
  obtain ⟨u, hu⟩ : ∃ u, (updates got).getLast? = some u := by
    cases got with
    | nil => simp at hlen
    | cons g got =>
      rw [hafter, List.cons_prefix_cons] at hgot
      obtain ⟨rfl, -⟩ := hgot
      exact ⟨_, List.getLast?_eq_some_getLast (by simp [updates])⟩
  exact ⟨got, hgot, rfl, u, hu, by simp [holds, hu]⟩

end Sf4e
