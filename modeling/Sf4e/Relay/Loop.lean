/-
# The loop of the UDP relay

`main` of `ggpo_udp_relay` around the datagrams: `select` waits for a fifth of a second at most,
and before anything is read the loop looks how long ago the last datagram came.  Any datagram
with a byte in it counts, also one that the relay does nothing about.

The clock does not go back.
-/
import Sf4e.Relay.Udp
import Sf4e.Trace.Idle

namespace Sf4e
namespace Relay

open Trace

/-! ## The loop -/

/-- What `select` and, when there is something to read, `recvfrom` come to. -/
inductive Arrival
  /-- `select` fails; `interrupted` is `EINTR`. -/
  | selectFailed (interrupted : Bool)
  /-- The wait is over. -/
  | timeout
  /-- `recvfrom` fails. -/
  | recvFailed
  | datagram (d : Datagram)
deriving DecidableEq

/-- An iteration, with `MonotonicMs` after `select`. -/
structure LoopTurn where
  arrival : Arrival
  nowMs : ℕ
deriving DecidableEq

/-- The relay in its loop or after it. -/
structure RelayProcess where
  relay : RelayState := {}
  lastTrafficMs : ℕ
  running : Bool := true
deriving DecidableEq

/-- Why the loop is left. -/
inductive LoopBreak
  | selectFailed
  | idle
deriving DecidableEq

/-- What an iteration puts out. -/
structure LoopOut where
  sent : List Sent := []
  breaks : Option LoopBreak := none
deriving DecidableEq

namespace RelayProcess

variable (token : List UInt8) (idleExitSec : ℤ)

/-- Has there been nothing for too long? -/
def idles (p : RelayProcess) (nowMs : ℕ) : Bool :=
  idleExitSec > 0 && nowMs - p.lastTrafficMs > idleExitSec.toNat * 1000

/-- The iteration after `select` has returned and the time has been looked at. -/
def read (p : RelayProcess) (nowMs : ℕ) : Arrival → LoopOut × RelayProcess
  | .datagram d =>
    if d.payload = [] then ({}, p)
    else
      let r := p.relay.receive token d
      ({ sent := r.2 }, { p with relay := r.1, lastTrafficMs := nowMs })
  | .selectFailed _ | .timeout | .recvFailed => ({}, p)

/-- One iteration. -/
def next (p : RelayProcess) (t : LoopTurn) : Option (LoopOut × RelayProcess) :=
  if p.running then
    match t.arrival with
    | .selectFailed interrupted =>
      if interrupted then some ({}, p)
      else some ({ breaks := some .selectFailed }, { p with running := false })
    | arrival =>
      if p.idles idleExitSec t.nowMs then
        some ({ breaks := some .idle }, { p with running := false })
      else some (p.read token t.nowMs arrival)
  else none

end RelayProcess

/-- The runs of the relay's process. -/
def processLTS (token : List UInt8) (idleExitSec : ℤ) : LTS RelayProcess LoopTurn LoopOut :=
  .ofFun (fun p => ∃ startMs, p = { lastTrafficMs := startMs })
    (RelayProcess.next token idleExitSec)

/-- An iteration of the relay's process. -/
abbrev ProcessEntry := Entry RelayProcess LoopTurn LoopOut

/-! ## Iterations -/

variable {token : List UInt8} {idleExitSec : ℤ}

/-- The iteration reads a datagram that is not empty. -/
def Traffic (e : ProcessEntry) : Prop :=
  e.out.breaks = none ∧ match e.act.arrival with
    | .datagram d => d.payload ≠ []
    | .selectFailed _ | .timeout | .recvFailed => False

instance : DecidablePred Traffic := fun e => by
  unfold Traffic
  cases e.act.arrival <;> infer_instance

/-- Everything an iteration can be. -/
inductive Turns (token : List UInt8) (idleExitSec : ℤ) (p : RelayProcess) (t : LoopTurn) :
    LoopOut → RelayProcess → Prop
  /-- `select` has failed. -/
  | failed (h : t.arrival = .selectFailed false) :
      Turns token idleExitSec p t { breaks := some .selectFailed } { p with running := false }
  /-- `select` has returned, and there has been nothing for too long. -/
  | idle (h : ∀ i, t.arrival ≠ .selectFailed i) (hidle : p.idles idleExitSec t.nowMs = true) :
      Turns token idleExitSec p t { breaks := some .idle } { p with running := false }
  /-- A datagram is handled. -/
  | traffic {d : Datagram} (h : t.arrival = .datagram d) (hne : d.payload ≠ [])
      (hidle : p.idles idleExitSec t.nowMs = false) :
      Turns token idleExitSec p t { sent := (p.relay.receive token d).2 }
        { p with relay := (p.relay.receive token d).1, lastTrafficMs := t.nowMs }
  /-- There is nothing to handle. -/
  | nothing (h : ∀ d, t.arrival = .datagram d → d.payload = [])
      (hidle : p.idles idleExitSec t.nowMs = false ∨ ∃ i, t.arrival = .selectFailed i) :
      Turns token idleExitSec p t {} p

lemma turns_of_next {p p' : RelayProcess} {t : LoopTurn} {out : LoopOut}
    (h : p.next token idleExitSec t = some (out, p')) : Turns token idleExitSec p t out p' := by
  obtain ⟨arrival, nowMs⟩ := t
  unfold RelayProcess.next at h
  split at h
  · cases arrival with
    | selectFailed interrupted =>
      cases interrupted with
      | true =>
        obtain ⟨rfl, rfl⟩ := Prod.mk.inj (Option.some.inj h)
        exact .nothing (by simp) (.inr ⟨true, rfl⟩)
      | false =>
        obtain ⟨rfl, rfl⟩ := Prod.mk.inj (Option.some.inj h)
        exact .failed rfl
    | timeout | recvFailed =>
      dsimp only at h
      split at h
      · obtain ⟨rfl, rfl⟩ := Prod.mk.inj (Option.some.inj h)
        exact .idle (by simp) (by assumption)
      · rename_i hidle
        obtain ⟨rfl, rfl⟩ := Prod.mk.inj (Option.some.inj h)
        exact .nothing (by simp) (.inl (by simpa using hidle))
    | datagram d =>
      dsimp only at h
      split at h
      · obtain ⟨rfl, rfl⟩ := Prod.mk.inj (Option.some.inj h)
        exact .idle (by simp) (by assumption)
      · rename_i hidle
        have hpair := Option.some.inj h
        rw [RelayProcess.read] at hpair
        split at hpair
        · rename_i hempty
          obtain ⟨rfl, rfl⟩ := Prod.mk.inj hpair
          exact .nothing (by simp [hempty]) (.inl (by simpa using hidle))
        · rename_i hne
          obtain ⟨rfl, rfl⟩ := Prod.mk.inj hpair
          exact .traffic rfl hne (by simpa using hidle)
  · exact absurd h (by simp)

lemma turns_of_steps {e : ProcessEntry} (h : (processLTS token idleExitSec).Steps e) :
    Turns token idleExitSec e.pre e.act e.out e.post := turns_of_next h

/-! ## Idleness -/

/-- The process has noted when the last datagram came. -/
lemma lastTrafficMs_of_path {startMs : ℕ} {log : List ProcessEntry} {p : RelayProcess}
    (h : (processLTS token idleExitSec).Path { lastTrafficMs := startMs } log p)
    (hfrom : ∀ e ∈ log, startMs ≤ e.act.nowMs) :
    p.lastTrafficMs = lastTime Traffic LoopTurn.nowMs startMs log := by
  refine h.timer RelayProcess.lastTrafficMs (fun e _ hs htraffic => ?_)
    (fun e _ hs _ hquiet => ?_) hfrom
  · obtain ⟨pre, ⟨arrival, nowMs⟩, out, post⟩ := e
    have ht : Turns token idleExitSec pre ⟨arrival, nowMs⟩ out post := turns_of_steps hs
    obtain ⟨hbreaks, hdatagram⟩ := htraffic
    cases ht with
    | failed => exact absurd hbreaks (by simp)
    | idle => exact absurd hbreaks (by simp)
    | traffic => rfl
    | nothing hempty =>
      cases arrival with
      | datagram d => exact absurd (hempty d rfl) hdatagram
      | selectFailed | timeout | recvFailed => exact hdatagram.elim
  · obtain ⟨pre, ⟨arrival, nowMs⟩, out, post⟩ := e
    have ht : Turns token idleExitSec pre ⟨arrival, nowMs⟩ out post := turns_of_steps hs
    cases ht with
    | failed => rfl
    | idle => rfl
    | traffic harrival hne =>
      obtain rfl : arrival = _ := harrival
      exact absurd ⟨rfl, hne⟩ hquiet
    | nothing => rfl

/-- **When the UDP relay gives up.**  A relay with a limit exits for idleness when `select` returns
and no datagram has come for longer than the limit, from the start or from the last datagram that
it has read on; a datagram that comes only then is not read. -/
theorem breaks_idle_iff {startMs : ℕ} {log : List ProcessEntry} {e : ProcessEntry}
    {p : RelayProcess}
    (h : (processLTS token idleExitSec).Path { lastTrafficMs := startMs } (e :: log) p)
    (hfrom : ∀ e' ∈ log, startMs ≤ e'.act.nowMs) :
    e.out.breaks = some .idle ↔
      0 < idleExitSec ∧ (∀ i, e.act.arrival ≠ .selectFailed i) ∧
        idleExitSec.toNat * 1000 < e.act.nowMs - lastTime Traffic LoopTurn.nowMs startMs log := by
  obtain ⟨hpath, hs, -⟩ := LTS.path_cons_iff.1 h
  have hidles : e.pre.idles idleExitSec e.act.nowMs = true ↔ 0 < idleExitSec ∧
      idleExitSec.toNat * 1000 < e.act.nowMs - lastTime Traffic LoopTurn.nowMs startMs log := by
    rw [RelayProcess.idles, lastTrafficMs_of_path hpath hfrom, Bool.and_eq_true,
      decide_eq_true_eq, decide_eq_true_eq]
  obtain ⟨pre, act, out, post⟩ := e
  have ht : Turns token idleExitSec pre act out post := turns_of_steps hs
  dsimp only at hidles ⊢
  cases ht with
  | failed harrival =>
    refine iff_of_false (by simp) ?_
    rintro ⟨-, hno, -⟩
    exact hno false harrival
  | idle hno hidle =>
    obtain ⟨hpos, hlong⟩ := hidles.1 hidle
    exact iff_of_true rfl ⟨hpos, hno, hlong⟩
  | traffic harrival hne hidle =>
    refine iff_of_false (by simp) ?_
    rintro ⟨hpos, -, hlong⟩
    exact absurd (hidles.2 ⟨hpos, hlong⟩) (by simp [hidle])
  | nothing hempty hidle =>
    refine iff_of_false (by simp) ?_
    rintro ⟨hpos, hno, hlong⟩
    rcases hidle with hidle | ⟨i, hfailed⟩
    · exact absurd (hidles.2 ⟨hpos, hlong⟩) (by simp [hidle])
    · exact hno i hfailed

/-- A health probe and then nothing. -/
def probeAndWait : List LoopTurn :=
  [⟨.datagram ⟨⟨1, 5000⟩, kMagicHealth⟩, 1500⟩, ⟨.timeout, 2500⟩, ⟨.timeout, 2501⟩]

/-- The probe is answered, and with a limit of a second the relay exits as soon as that has been
for more than a second. -/
theorem breaks_idle_iff_probed :
    ∃ e log p, (processLTS [] 1).Path { lastTrafficMs := 1000 } (e :: log) p ∧
      (∃ e' ∈ log, e'.out.sent = [⟨⟨1, 5000⟩, kRespHealth⟩]) ∧
      1000 < e.act.nowMs - lastTime Traffic LoopTurn.nowMs 1000 log := by
  obtain ⟨log, p, hpath, hne, hbreaks, hfrom, hsent⟩ :
      ∃ log p, (processLTS [] 1).Path { lastTrafficMs := 1000 } log p ∧ log ≠ [] ∧
        (∀ e ∈ log.head?, e.out.breaks = some .idle) ∧ (∀ e ∈ log, 1000 ≤ e.act.nowMs) ∧
        ∃ e ∈ log.tail, e.out.sent = [⟨⟨1, 5000⟩, kRespHealth⟩] :=
    LTS.exists_path_of_exec probeAndWait (by decide +kernel)
  obtain ⟨e, log, rfl⟩ := List.exists_cons_of_ne_nil hne
  obtain ⟨-, hfrom⟩ := List.forall_mem_cons.1 hfrom
  exact ⟨e, log, p, hpath, hsent, ((breaks_idle_iff hpath hfrom).1 (hbreaks e rfl)).2.2⟩

/-! ## The relay of the process -/

/-- What the process sends is what the relay sends for the datagrams that it has read, so that
whatever is true of the runs of the relay is true of its process. -/
lemma exists_relay_run {log : List ProcessEntry} {p : RelayProcess}
    (h : (processLTS token idleExitSec).Run log p) :
    ∃ log', (relayLTS token).Run log' p.relay ∧
      log'.flatMap (·.out) = log.flatMap (·.out.sent) := by
  refine h.invariant_of_step (fun log p => ∃ log', (relayLTS token).Run log' p.relay ∧
    log'.flatMap (·.out) = log.flatMap (·.out.sent)) ?_ ?_
  · rintro p ⟨startMs, rfl⟩
    exact ⟨[], ⟨{}, rfl, .refl⟩, rfl⟩
  · rintro log ⟨pre, act, out, post⟩ ⟨log', hrun, hsent⟩ hs
    have ht : Turns token idleExitSec pre act out post := turns_of_steps hs
    cases ht with
    | failed => exact ⟨log', hrun, hsent⟩
    | idle => exact ⟨log', hrun, hsent⟩
    | nothing => exact ⟨log', hrun, hsent⟩
    | traffic =>
      rename_i d _ _ _
      have hstep : (relayLTS token).Steps ⟨pre.relay, d, (pre.relay.receive token d).2,
          (pre.relay.receive token d).1⟩ := rfl
      refine ⟨_ :: log', hrun.snoc hstep, ?_⟩
      rw [List.flatMap_cons, List.flatMap_cons, hsent]

end Relay
end Sf4e
