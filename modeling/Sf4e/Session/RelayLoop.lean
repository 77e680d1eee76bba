/-
# The loop of the headless relays

`SessionRelay` on the VPS and `RelayHost` on a player's machine run a session server without a
game.  They differ in where their options come from; their loops are the same: the pending
connection callbacks run, `Step` is called, and then the loop looks whether anybody is left.

With `--idle-exit-sec` a relay exits when its lobby has been empty for that long, or for half a
minute once somebody has been there.  The clock of the loop is one that does not go back, and it
counts from before the relay was started.
-/
import Sf4e.Session.Roster
import Sf4e.Trace.Idle

namespace Sf4e

open SessionProtocol SessionServer Trace

/-! ## The loop -/

/-- The locals of `main` that the loop keeps. -/
structure RelayLoop where
  server : SessionServer
  emptySinceMs : ℕ
  hadClients : Bool := false

/-- What an iteration of the loop meets with. -/
structure RelayTurn where
  /-- What `RunCallbacks` reports. -/
  changes : List StatusChange := []
  /-- What the poll of `Step` returns. -/
  poll : Option (List (Option Incoming))
  /-- `MonotonicMs`, after `Step`. -/
  nowMs : ℕ

/-- What comes after an iteration. -/
inductive RelayExit
  /-- `Sleep`, and the next iteration. -/
  | stays
  /-- `Session server step failed`. -/
  | stepFailed
  /-- `exiting: no clients`. -/
  | idle
deriving DecidableEq

/-- What an iteration puts out. -/
structure RelayOut where
  sent : List Output
  exit : RelayExit

/-- A relay in its loop, or with the server that it closes. -/
inductive RelayHost
  | running (l : RelayLoop)
  | closing (server : SessionServer)

namespace RelayLoop

/-- `ConnectedClientCount`. -/
def connectedClientCount (l : RelayLoop) : ℕ := l.server.clients.length

/-- The end of an iteration: does the loop break, and its locals. -/
def checkIdle (idleExitSec : ℤ) (l : RelayLoop) (nowMs : ℕ) : Bool × RelayLoop :=
  if idleExitSec > 0 then
    if l.connectedClientCount > 0 then
      (false, { l with hadClients := true, emptySinceMs := nowMs })
    else
      let l := { l with emptySinceMs := if l.emptySinceMs = 0 then nowMs else l.emptySinceMs }
      let emptyMs := nowMs - l.emptySinceMs
      (l.hadClients && decide (emptyMs ≥ 30000) || decide (emptyMs ≥ idleExitSec.toNat * 1000), l)
  else (false, l)

/-- An iteration; `none` where `Step` has no defined behaviour. -/
def iterate (idleExitSec : ℤ) (l : RelayLoop) (t : RelayTurn) : Option (RelayOut × RelayHost) :=
  match (t.changes.foldl onSteamNetConnectionStatusChanged l.server).step t.poll with
  | none => none
  | some (rc, server, sent) =>
    if rc ≠ 0 then some (⟨sent, .stepFailed⟩, .closing server)
    else
      let checked := { l with server := server }.checkIdle idleExitSec t.nowMs
      if checked.1 then some (⟨sent, .idle⟩, .closing server)
      else some (⟨sent, .stays⟩, .running checked.2)

end RelayLoop

namespace RelayHost

/-- The session server of the relay. -/
def server : RelayHost → SessionServer
  | .running l => l.server
  | .closing server => server

/-- The relay when it enters its loop. -/
def start (identity sidecarHash : String) (startMs : ℕ) : RelayHost :=
  .running ⟨.new identity sidecarHash true 3 ⟨0, 99⟩, startMs, false⟩

/-- One iteration. -/
def next (idleExitSec : ℤ) : RelayHost → RelayTurn → Option (RelayOut × RelayHost)
  | .running l, t => l.iterate idleExitSec t
  | .closing _, _ => none

end RelayHost

/-- The runs of a relay that is started at some time. -/
def relayHostLTS (idleExitSec : ℤ) : LTS RelayHost RelayTurn RelayOut :=
  .ofFun (fun r => ∃ identity sidecarHash startMs, r = .start identity sidecarHash startMs)
    (RelayHost.next idleExitSec)

/-- An iteration of a relay. -/
abbrev RelayHostEntry := Entry RelayHost RelayTurn RelayOut

/-! ## Iterations -/

/-- Everything an iteration can be. -/
inductive Iterates (idleExitSec : ℤ) (l : RelayLoop) (t : RelayTurn) :
    RelayOut → RelayHost → Prop
  /-- `Step` fails. -/
  | failed {rc : ℤ} {server : SessionServer} {sent : List Output}
      (hstep : (t.changes.foldl onSteamNetConnectionStatusChanged l.server).step t.poll =
        some (rc, server, sent)) (hrc : rc ≠ 0) :
      Iterates idleExitSec l t ⟨sent, .stepFailed⟩ (.closing server)
  /-- Nobody is left. -/
  | idle {server : SessionServer} {sent : List Output}
      (hstep : (t.changes.foldl onSteamNetConnectionStatusChanged l.server).step t.poll =
        some (0, server, sent))
      (hidle : ({ l with server := server }.checkIdle idleExitSec t.nowMs).1 = true) :
      Iterates idleExitSec l t ⟨sent, .idle⟩ (.closing server)
  /-- The loop goes on. -/
  | stays {server : SessionServer} {sent : List Output}
      (hstep : (t.changes.foldl onSteamNetConnectionStatusChanged l.server).step t.poll =
        some (0, server, sent))
      (hidle : ({ l with server := server }.checkIdle idleExitSec t.nowMs).1 = false) :
      Iterates idleExitSec l t ⟨sent, .stays⟩
        (.running ({ l with server := server }.checkIdle idleExitSec t.nowMs).2)

namespace RelayLoop

variable {idleExitSec : ℤ} {l : RelayLoop} {t : RelayTurn} {out : RelayOut} {r : RelayHost}

@[simp] lemma checkIdle_server (l : RelayLoop) (nowMs : ℕ) :
    (l.checkIdle idleExitSec nowMs).2.server = l.server := by
  unfold checkIdle
  split_ifs <;> rfl

lemma iterates (h : l.iterate idleExitSec t = some (out, r)) : Iterates idleExitSec l t out r := by
  unfold iterate at h
  split at h
  · exact absurd h (by simp)
  · rename_i rc server sent hstep
    by_cases hrc : rc = 0
    · subst hrc
      rw [if_neg (by simp)] at h
      dsimp only at h
      split at h
      · rename_i hidle
        obtain ⟨rfl, rfl⟩ := Prod.mk.inj (Option.some.inj h)
        exact .idle hstep hidle
      · rename_i hidle
        obtain ⟨rfl, rfl⟩ := Prod.mk.inj (Option.some.inj h)
        exact .stays hstep (by simpa using hidle)
    · rw [if_pos hrc] at h
      obtain ⟨rfl, rfl⟩ := Prod.mk.inj (Option.some.inj h)
      exact .failed hstep hrc

end RelayLoop

lemma iterates_of_steps {idleExitSec : ℤ} {e : RelayHostEntry}
    (h : (relayHostLTS idleExitSec).Steps e) :
    ∃ l, e.pre = .running l ∧ Iterates idleExitSec l e.act e.out e.post := by
  have hnext : RelayHost.next idleExitSec e.pre e.act = some (e.out, e.post) := h
  cases hpre : e.pre with
  | running l =>
    rw [hpre] at hnext
    exact ⟨l, rfl, RelayLoop.iterates hnext⟩
  | closing server =>
    rw [hpre] at hnext
    exact absurd hnext (by simp [RelayHost.next])

/-! ## The server of a relay -/

/-- What `Step` does in an iteration. -/
lemma Iterates.exists_step {idleExitSec : ℤ} {l : RelayLoop} {t : RelayTurn} {out : RelayOut}
    {r : RelayHost} (h : Iterates idleExitSec l t out r) :
    ∃ rc, (t.changes.foldl onSteamNetConnectionStatusChanged l.server).step t.poll =
      some (rc, r.server, out.sent) := by
  cases h with
  | failed hstep => exact ⟨_, hstep⟩
  | idle hstep => exact ⟨_, hstep⟩
  | stays hstep => exact ⟨0, by rw [hstep, RelayHost.server, RelayLoop.checkIdle_server]⟩

lemma calls_statusChanged (s : SessionServer) (changes : List StatusChange) :
    s.calls (changes.map .statusChanged) =
      some (changes.foldl onSteamNetConnectionStatusChanged s, []) := by
  induction changes generalizing s with
  | nil => rfl
  | cons info changes ih =>
    rw [List.map_cons, calls]
    dsimp only [call]
    rw [ih]
    rfl

/-- An iteration is a path of the server. -/
lemma Iterates.exists_path {idleExitSec : ℤ} {l : RelayLoop} {t : RelayTurn} {out : RelayOut}
    {r : RelayHost} (h : Iterates idleExitSec l t out r) :
    ∃ log, serverLTS.Path (.idle l.server) log (.idle r.server) ∧ sent log = out.sent := by
  obtain ⟨rc, hstep⟩ := h.exists_step
  refine exists_path_iff_exists_calls.2 ⟨t.changes.map .statusChanged ++ [.step t.poll], ?_⟩
  refine calls_append (calls_statusChanged l.server t.changes) ?_
  rw [calls, call, hstep]
  show some (r.server, out.sent ++ []) = _
  rw [List.append_nil]

/-- The server of a relay is one that the session server's runs lead to. -/
lemma exists_server_run {idleExitSec : ℤ} {log : List RelayHostEntry} {r : RelayHost}
    (h : (relayHostLTS idleExitSec).Run log r) : ∃ log', serverLTS.Run log' (.idle r.server) := by
  refine h.project (fun r => Phase.idle r.server) ?_ fun e hs => ?_
  · rintro r ⟨identity, sidecarHash, startMs, rfl⟩
    exact ⟨identity, sidecarHash, true, 3, ⟨0, 99⟩, rfl⟩
  · obtain ⟨l, hpre, hit⟩ := iterates_of_steps hs
    obtain ⟨log', hpath, -⟩ := hit.exists_path
    exact ⟨log', by rwa [hpre]⟩

/-! ## Idleness -/

/-- Somebody is in the lobby after the iteration. -/
def Occupied (e : RelayHostEntry) : Prop := e.post.server.clients ≠ []

instance : DecidablePred Occupied := fun e =>
  inferInstanceAs (Decidable (e.post.server.clients ≠ []))

/-- How long a relay waits: half a minute at most once somebody has been there. -/
def idleLimitMs (idleExitSec : ℤ) (log : List RelayHostEntry) : ℕ :=
  if ∃ e ∈ log, Occupied e then min 30000 (idleExitSec.toNat * 1000) else idleExitSec.toNat * 1000

namespace RelayLoop

variable {idleExitSec : ℤ} {l : RelayLoop} {server : SessionServer} {nowMs : ℕ}

/-- Somebody in the lobby sets the timer. -/
lemma checkIdle_of_occupied (hpos : 0 < idleExitSec) (h : server.clients ≠ []) :
    { l with server := server }.checkIdle idleExitSec nowMs = (false, ⟨server, nowMs, true⟩) := by
  have hcount : ({ l with server := server } : RelayLoop).connectedClientCount > 0 :=
    List.length_pos_iff.2 h
  rw [checkIdle, if_pos hpos, if_pos hcount]

/-- An empty lobby leaves the timer as it is. -/
lemma checkIdle_of_empty (hpos : 0 < idleExitSec) (h : server.clients = [])
    (hsince : l.emptySinceMs ≠ 0) :
    { l with server := server }.checkIdle idleExitSec nowMs =
      (l.hadClients && decide (nowMs - l.emptySinceMs ≥ 30000) ||
          decide (nowMs - l.emptySinceMs ≥ idleExitSec.toNat * 1000),
        { l with server := server }) := by
  have hcount : ¬ ({ l with server := server } : RelayLoop).connectedClientCount > 0 := by
    simp [connectedClientCount, h]
  rw [checkIdle, if_pos hpos, if_neg hcount]
  simp only [if_neg hsince]

/-- Only an empty lobby breaks the loop. -/
lemma clients_of_checkIdle (h : (l.checkIdle idleExitSec nowMs).1 = true) :
    l.server.clients = [] := by
  unfold checkIdle at h
  split at h
  · split at h
    · exact absurd h (by simp)
    · rename_i hcount
      simpa [connectedClientCount] using hcount
  · exact absurd h (by simp)

end RelayLoop

/-- The time that a relay has noted. -/
def RelayHost.emptySinceMs : RelayHost → ℕ
  | .running l => l.emptySinceMs
  | .closing _ => 0

/-- A relay that is in its loop has stayed there. -/
lemma stays_of_path {idleExitSec : ℤ} {r : RelayHost} {l : RelayLoop} {log : List RelayHostEntry}
    (h : (relayHostLTS idleExitSec).Path r log (.running l)) :
    ∀ e ∈ log, ∃ l' : RelayLoop, e.pre = .running l' ∧
      e.post =
        .running ({ l' with server := e.post.server }.checkIdle idleExitSec e.act.nowMs).2 := by
  intro e he
  obtain ⟨newer, older, rfl⟩ := List.append_of_mem he
  obtain ⟨-, hs, hpath⟩ := h.at_entry
  obtain ⟨l', hpre, hit⟩ := iterates_of_steps hs
  obtain ⟨l'', hpost⟩ : ∃ l'', e.post = .running l'' := by
    cases hnewer : newer.getLast? with
    | none =>
      obtain rfl := List.getLast?_eq_none_iff.1 hnewer
      exact ⟨l, (LTS.path_nil_iff.1 hpath).symm⟩
    | some e' =>
      obtain ⟨newer', rfl⟩ := List.getLast?_eq_some_iff.1 hnewer
      obtain ⟨hnil, hs', -⟩ := hpath.at_entry
      obtain ⟨l'', hl'', -⟩ := iterates_of_steps hs'
      exact ⟨l'', (LTS.path_nil_iff.1 hnil).symm.trans hl''⟩
  refine ⟨l', hpre, ?_⟩
  rw [hpost] at hit ⊢
  generalize e.out = out at hit
  cases hit with
  | stays hstep hidle => rw [RelayHost.server, RelayLoop.checkIdle_server]

section Started

variable {idleExitSec : ℤ} {identity sidecarHash : String} {startMs : ℕ}
  {log : List RelayHostEntry} {l : RelayLoop}

/-- The loop has noted when somebody was last in the lobby. -/
lemma emptySinceMs_of_path (hpos : 0 < idleExitSec) (hstart : 0 < startMs)
    (h : (relayHostLTS idleExitSec).Path (.start identity sidecarHash startMs) log (.running l))
    (hfrom : ∀ e ∈ log, startMs ≤ e.act.nowMs) :
    l.emptySinceMs = lastTime Occupied RelayTurn.nowMs startMs log := by
  refine h.timer RelayHost.emptySinceMs (fun e he _ hocc => ?_) (fun e he _ hle hocc => ?_) hfrom
  · obtain ⟨l', -, hpost⟩ := stays_of_path h e he
    rw [hpost, RelayLoop.checkIdle_of_occupied hpos hocc]
    rfl
  · obtain ⟨l', hpre, hpost⟩ := stays_of_path h e he
    have hsince : l'.emptySinceMs ≠ 0 := by
      have hle : startMs ≤ l'.emptySinceMs := by rwa [hpre] at hle
      omega
    rw [hpost, RelayLoop.checkIdle_of_empty hpos (not_not.1 hocc) hsince, hpre]
    rfl

/-- The timer is not at zero, which would count as not set. -/
lemma emptySinceMs_ne_zero (hpos : 0 < idleExitSec) (hstart : 0 < startMs)
    (h : (relayHostLTS idleExitSec).Path (.start identity sidecarHash startMs) log (.running l))
    (hfrom : ∀ e ∈ log, startMs ≤ e.act.nowMs) : l.emptySinceMs ≠ 0 := by
  have hle : startMs ≤ lastTime Occupied RelayTurn.nowMs startMs log := le_lastTime hfrom
  rw [emptySinceMs_of_path hpos hstart h hfrom]
  omega

/-- The loop has noted whether anybody was in the lobby. -/
lemma hadClients_iff_of_path (hpos : 0 < idleExitSec) (hstart : 0 < startMs)
    (h : (relayHostLTS idleExitSec).Path (.start identity sidecarHash startMs) log (.running l))
    (hfrom : ∀ e ∈ log, startMs ≤ e.act.nowMs) :
    l.hadClients = true ↔ ∃ e ∈ log, Occupied e := by
  induction log generalizing l with
  | nil =>
    obtain rfl := RelayHost.running.inj (LTS.path_nil_iff.1 h)
    simp
  | cons e log ih =>
    obtain ⟨l', hpre, hpost⟩ := stays_of_path h e List.mem_cons_self
    obtain ⟨hpath, -, heq⟩ := LTS.path_cons_iff.1 h
    obtain ⟨-, hfrom⟩ := List.forall_mem_cons.1 hfrom
    rw [hpre] at hpath
    rw [hpost] at heq
    obtain rfl := RelayHost.running.inj heq
    rw [List.exists_mem_cons_iff, ← ih hpath hfrom]
    by_cases hocc : Occupied e
    · rw [RelayLoop.checkIdle_of_occupied hpos hocc]
      exact iff_of_true rfl (.inl hocc)
    · rw [RelayLoop.checkIdle_of_empty hpos (not_not.1 hocc)
        (emptySinceMs_ne_zero hpos hstart hpath hfrom)]
      simp [hocc]

/-- **When a relay gives up.**  A relay with a limit exits for want of clients in an iteration
whose `Step` succeeds exactly when the lobby is empty after it, and when nobody has been in the
lobby, from the start or from the last iteration with somebody in it on, for as long as the limit
says. -/
theorem exit_idle_iff {r : RelayHost} {e : RelayHostEntry} (hstart : 0 < startMs)
    (h : (relayHostLTS idleExitSec).Path (.start identity sidecarHash startMs) (e :: log) r)
    (hfrom : ∀ e' ∈ log, startMs ≤ e'.act.nowMs) (hstep : e.out.exit ≠ .stepFailed) :
    e.out.exit = .idle ↔
      0 < idleExitSec ∧ ¬ Occupied e ∧
        idleLimitMs idleExitSec log ≤
          e.act.nowMs - lastTime Occupied RelayTurn.nowMs startMs log := by
  obtain ⟨hpath, hs, -⟩ := LTS.path_cons_iff.1 h
  obtain ⟨l, hpre, hit⟩ := iterates_of_steps hs
  rw [hpre] at hpath
  have hchecked : e.out.exit = .idle ↔
      ({ l with server := e.post.server }.checkIdle idleExitSec e.act.nowMs).1 = true := by
    generalize e.out = out, e.post = post at hit hstep
    cases hit with
    | failed => exact absurd rfl hstep
    | idle hstep hidle => exact iff_of_true rfl hidle
    | stays hstep hidle =>
      rw [RelayHost.server, RelayLoop.checkIdle_server, hidle]
      simp
  rw [hchecked]
  by_cases hpos : 0 < idleExitSec
  · have hsince := emptySinceMs_ne_zero hpos hstart hpath hfrom
    by_cases hocc : Occupied e
    · rw [RelayLoop.checkIdle_of_occupied hpos hocc]
      simp [hocc]
    · rw [RelayLoop.checkIdle_of_empty hpos (not_not.1 hocc) hsince,
        emptySinceMs_of_path hpos hstart hpath hfrom]
      have hhad := hadClients_iff_of_path hpos hstart hpath hfrom
      -- half a minute is the limit once somebody has been there
      unfold idleLimitMs
      split
      · rename_i hsome
        simp only [hhad.2 hsome, Bool.true_and, Bool.or_eq_true, decide_eq_true_eq, hpos, hocc,
          not_false_eq_true, true_and]
        omega
      · rename_i hnone
        have hnot : l.hadClients = false := by simpa using mt hhad.1 hnone
        simp [hnot, hpos, hocc]
  · have hoff : ¬ idleExitSec > 0 := hpos
    rw [RelayLoop.checkIdle, if_neg hoff]
    simp [hpos]

end Started

/-- A client joins a relay, leaves it, and half a minute passes. -/
def joinAndLeave : List RelayTurn :=
  [{ poll := some [some (.bare 1 1 .sessionHello), some (.join 1 2 ⟨"", "A", 0⟩)], nowMs := 1001 },
    { changes := [⟨1, .closedByPeer, .connected⟩], poll := some [], nowMs := 5000 },
    { poll := some [], nowMs := 31001 }]

/-- The relay exits when the client was last there half a minute ago, before its limit. -/
theorem exit_idle_iff_left :
    ∃ e log r, (relayHostLTS 60).Path (.start "" "" 1000) (e :: log) r ∧ ¬ Occupied e ∧
      idleLimitMs 60 log ≤ e.act.nowMs - lastTime Occupied RelayTurn.nowMs 1000 log := by
  obtain ⟨log, r, hpath, hne, hexit, hfrom⟩ :
      ∃ log r, (relayHostLTS 60).Path (.start "" "" 1000) log r ∧ log ≠ [] ∧
        (∀ e ∈ log.head?, e.out.exit = .idle) ∧ ∀ e ∈ log, 1000 ≤ e.act.nowMs :=
    LTS.exists_path_of_exec joinAndLeave (by decide +kernel)
  obtain ⟨e, log, rfl⟩ := List.exists_cons_of_ne_nil hne
  have hidle : e.out.exit = .idle := hexit e rfl
  obtain ⟨-, hfrom⟩ := List.forall_mem_cons.1 hfrom
  obtain ⟨-, hempty, hlimit⟩ :=
    (exit_idle_iff (by decide) hpath hfrom (by simp [hidle])).1 hidle
  exact ⟨e, log, r, hpath, hempty, hlimit⟩

/-! ## The members of the lobby -/

/-- A message sends nobody away. -/
lemma conns_subset_onMessage {st st' : StepState} {m : Incoming} {out : List Output}
    (h : st.onMessage m = some (st', out)) : st.server.conns ⊆ st'.server.conns := by
  rw [conns_eq_map_seats, conns_eq_map_seats]
  by_cases hev : st.server.loadEvent m = .join
  · obtain ⟨r, hr, hadm⟩ := loadEvent_eq_join_iff.1 hev
    obtain ⟨cid, -, hseats⟩ := seats_of_join h hr hadm
    rw [hseats, List.map_append]
    exact List.subset_append_left _ _
  · have hperm := seats_perm_of_loadHandled (StepState.onMessage_loadHandled h) hev
    exact (hperm.map _).symm.subset

lemma conns_subset_receive {st : StepState} {msgs : List (Option Incoming)} {rc : ℤ}
    {s' : SessionServer} {out : List Output} (h : st.receive msgs = some (rc, s', out)) :
    st.server.conns ⊆ s'.conns := by
  induction msgs generalizing st out with
  | nil =>
    simp only [StepState.receive, Option.some.injEq, Prod.mk.injEq] at h
    obtain ⟨-, rfl, -⟩ := h
    exact List.Subset.refl _
  | cons m msgs ih =>
    cases m with
    | none =>
      simp only [StepState.receive, Option.some.injEq, Prod.mk.injEq] at h
      obtain ⟨-, rfl, -⟩ := h
      exact List.Subset.refl _
    | some m =>
      simp only [StepState.receive] at h
      split at h
      · exact absurd h (by simp)
      · rename_i st₁ out₁ hm
        split at h
        · exact absurd h (by simp)
        · rename_i rc₁ s₁ out₂ hmsgs
          simp only [Option.some.injEq, Prod.mk.injEq] at h
          obtain ⟨rfl, rfl, -⟩ := h
          exact List.Subset.trans (conns_subset_onMessage hm) (ih hmsgs)

/-- `Step` sends nobody away. -/
lemma conns_subset_step {s s' : SessionServer} {poll : Option (List (Option Incoming))} {rc : ℤ}
    {out : List Output} (h : s.step poll = some (rc, s', out)) : s.conns ⊆ s'.conns := by
  cases poll with
  | none =>
    simp only [step, Option.some.injEq, Prod.mk.injEq] at h
    obtain ⟨-, rfl, -⟩ := h
    exact List.Subset.refl _
  | some msgs => exact conns_subset_receive h

/-- A lost connection takes no other one with it. -/
lemma mem_conns_statusChanged {s : SessionServer} {info : StatusChange}
    {conn : HSteamNetConnection} (h : conn ∈ s.conns)
    (hother : info.drops = true → info.conn ≠ conn) :
    conn ∈ (s.onSteamNetConnectionStatusChanged info).conns := by
  unfold onSteamNetConnectionStatusChanged
  split
  · rename_i hdrops
    split
    · exact h
    · rename_i k hk
      obtain ⟨hlt, hfound, -⟩ := List.findIdx?_eq_some_iff_getElem.1 hk
      obtain ⟨c, hc, rfl⟩ := List.mem_map.1 h
      obtain ⟨j, hj, rfl⟩ := List.getElem_of_mem hc
      refine List.mem_map.2 ⟨_, List.mem_eraseIdx_iff_getElem.2 ⟨j, hj, ?_, rfl⟩, rfl⟩
      rintro rfl
      exact hother hdrops (beq_iff_eq.1 hfound).symm
  · exact h

lemma mem_conns_foldl_statusChanged {changes : List StatusChange} {s : SessionServer}
    {conn : HSteamNetConnection} (h : conn ∈ s.conns)
    (hother : ∀ info ∈ changes, info.drops = true → info.conn ≠ conn) :
    conn ∈ (changes.foldl onSteamNetConnectionStatusChanged s).conns := by
  induction changes generalizing s with
  | nil => exact h
  | cons info changes ih =>
    obtain ⟨hnow, hother⟩ := List.forall_mem_cons.1 hother
    exact ih (mem_conns_statusChanged h hnow) hother

/-- The iteration is told that the connection is lost. -/
def RelayTurn.Loses (t : RelayTurn) (conn : HSteamNetConnection) : Prop :=
  ∃ info ∈ t.changes, info.drops = true ∧ info.conn = conn

/-- **A relay does not leave anybody behind.**  When it exits for want of clients, everybody who
has been in the lobby has lost the connection since. -/
theorem loses_of_exit_idle {idleExitSec : ℤ} {r r' : RelayHost} {newer older : List RelayHostEntry}
    {e e' : RelayHostEntry} (h : (relayHostLTS idleExitSec).Path r (e :: (newer ++ e' :: older)) r')
    (hidle : e.out.exit = .idle) {conn : HSteamNetConnection}
    (hconn : conn ∈ e'.post.server.conns) : ∃ e'' ∈ e :: newer, e''.act.Loses conn := by
  by_contra hno
  rw [← List.cons_append] at h
  obtain ⟨-, -, hpath⟩ := h.at_entry
  have hkept : conn ∈ r'.server.conns := by
    refine hpath.invariant (fun _ r => conn ∈ r.server.conns) hconn
      (fun _ e'' hmem hs (hkeep : ¬ e''.act.Loses conn) => ?_)
      fun e'' he'' hloses => hno ⟨e'', he'', hloses⟩
    obtain ⟨l, hpre, hit⟩ := iterates_of_steps hs
    obtain ⟨rc, hstep⟩ := hit.exists_step
    rw [hpre] at hmem
    refine conns_subset_step hstep (mem_conns_foldl_statusChanged hmem ?_)
    exact fun info hinfo hdrops heq => hkeep ⟨info, hinfo, hdrops, heq⟩
  obtain ⟨-, hs, rfl⟩ := LTS.path_cons_iff.1 hpath
  obtain ⟨l, -, hit⟩ := iterates_of_steps hs
  generalize e.out = out, e.post = post at hit hidle hkept
  cases hit with
  | failed => exact absurd hidle (by simp)
  | stays => exact absurd hidle (by simp)
  | idle hstep hchecked =>
    rename_i server sent
    have hempty : server.clients = [] := RelayLoop.clients_of_checkIdle hchecked
    simp [RelayHost.server, conns, hempty] at hkept

/-- The client that was there has left. -/
theorem loses_of_exit_idle_left :
    ∃ e newer e' older r,
      (relayHostLTS 60).Path (.start "" "" 1000) (e :: (newer ++ e' :: older)) r ∧
      1 ∈ e'.post.server.conns ∧ ∃ e'' ∈ e :: newer, e''.act.Loses 1 := by
  obtain ⟨log, r, hpath, hlen, hexit, hconn⟩ :
      ∃ log r, (relayHostLTS 60).Path (.start "" "" 1000) log r ∧ log.length = 3 ∧
        (∀ e ∈ log.head?, e.out.exit = .idle) ∧ ∀ e ∈ log[2]?, 1 ∈ e.post.server.conns :=
    LTS.exists_path_of_exec joinAndLeave (by decide +kernel)
  obtain ⟨e, e₁, e', rfl⟩ := List.length_eq_three.1 hlen
  have hpath' : (relayHostLTS 60).Path (.start "" "" 1000) (e :: ([e₁] ++ e' :: [])) r := hpath
  have hthere : 1 ∈ e'.post.server.conns := hconn e' rfl
  exact ⟨e, [e₁], e', [], r, hpath', hthere, loses_of_exit_idle hpath' (hexit e rfl) hthere⟩

end Sf4e
