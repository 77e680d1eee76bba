/-
# What does a handler work for?

A handler serves one request from its arrival to its answer.  What it does to the relays is the
matter of the request: a start stops the relay of its port, if that is not the one it wants, and
spawns one; a stop stops it; a look at the health does nothing.
-/
import Sf4e.Manager.StartContract

namespace Sf4e
namespace RelayManager

open Wire Trace Broker
open Relay (isHexToken)

/-- The relay that a start is for, and what it is to be started with. -/
def Request.starts? : Request → Option (Kind × ℕ × Wanted)
  | .postSession n sidecarHash =>
    (validPort n).map fun port => (.session, port, ⟨sidecarHash, none⟩)
  | .postGgpo n sessionPort roomToken =>
    (validPort n).map fun port => (.ggpo, port, ⟨roomToken, sessionPort⟩)
  | .delete _ _ | .health _ _ => none

/-- The handler is one of the request. -/
def Handler.Serves (h : Handler) (req : Request) : Prop :=
  match h.stage with
  | .health => req = .health h.kind h.port
  | .stopping .delete _ _ => req = .delete h.kind h.port
  | _ => req.starts? = some (h.kind, h.port, h.wanted)

/-- The handler of a start has its relay from the start. -/
lemma Handler.Serves.eq_of_starts {h : Handler} {req : Request} {kind : Kind} {port : ℕ}
    {wanted : Wanted} (hserves : h.Serves req) (hstarts : req.starts? = some (kind, port, wanted)) :
    h.kind = kind ∧ h.port = port ∧ h.wanted = wanted := by
  have hinj (heq : req.starts? = some (h.kind, h.port, h.wanted)) :
      h.kind = kind ∧ h.port = port ∧ h.wanted = wanted := by
    simpa using heq.symm.trans hstarts
  obtain ⟨k, q, wanted', stage⟩ := h
  cases stage with
  | health =>
    obtain rfl : req = _ := hserves
    cases hstarts
  | stopping reason =>
    cases reason with
    | delete =>
      obtain rfl : req = _ := hserves
      cases hstarts
    | replace | cleanup => exact hinj hserves
  | settling | probing | pausing => exact hinj hserves

/-- The handler has come to the point where it touches the relay of its port again. -/
def Handler.touches (h : Handler) : Bool :=
  match h.stage with
  | .stopping .replace _ (.release _) | .pausing _ _ 0 => true
  | _ => false

/-! ## Requests that come in -/

namespace Relays

variable {r : Relays} {req : Request} {kind : Kind} {port : ℕ} {wanted : Wanted}

/-- A start in the place of what is there. -/
def restart (r : Relays) (kind : Kind) (port : ℕ) (wanted : Wanted) : Relays :=
  (r.stop kind port).spawn kind port wanted.secret wanted.sessionPort

lemma stop_of_none (h : r.tracked kind port = none) : r.stop kind port = r := by
  unfold stop
  rw [h]

/-- What the handler of a start does up to its first await. -/
inductive Started (r : Relays) (kind : Kind) (port : ℕ) (wanted : Wanted) : Outcome → Prop
  /-- The relay is spawned. -/
  | spawn {stage : Stage} (hstage : (∃ pid, stage = .settling pid) ∨
        ∃ pid left, stage = .probing pid false left) :
      Started r kind port wanted (r.restart kind port wanted, .inl ⟨kind, port, wanted, stage⟩)
  /-- The relay is there. -/
  | reuse {entry : Tracked} {left : ℕ} (hentry : r.tracked kind port = some entry) :
      Started r kind port wanted (r, .inl ⟨kind, port, wanted, .probing entry.pid true left⟩)
  /-- Another relay is there. -/
  | replace {entry : Tracked} (hkind : kind = .ggpo) (hentry : r.tracked kind port = some entry)
      (hreuse : r.reusable entry wanted.sessionPort wanted.secret = false) :
      Started r kind port wanted
        (r.stop kind port, .inl ⟨kind, port, wanted, .stopping .replace entry.pid .exit⟩)
  /-- The hash or the token is none. -/
  | refuse {reply : Reply} (hreply : reply.isStarted = false) :
      Started r kind port wanted (r, .inr reply)

lemma started (h : req.starts? = some (kind, port, wanted)) :
    Started r kind port wanted (r.accept req) := by
  cases req with
  | postSession n sidecarHash =>
    obtain ⟨port', hport, heq⟩ := Option.map_eq_some_iff.1 h
    obtain ⟨rfl, rfl, rfl⟩ :
        Kind.session = kind ∧ port' = port ∧ Wanted.mk sidecarHash none = wanted := by
      simpa using heq
    simp only [accept, hport]
    split
    · exact .refuse rfl
    · exact .spawn (.inr ⟨_, _, rfl⟩)
  | postGgpo n sessionPort roomToken =>
    obtain ⟨port', hport, heq⟩ := Option.map_eq_some_iff.1 h
    obtain ⟨rfl, rfl, rfl⟩ :
        Kind.ggpo = kind ∧ port' = port ∧ Wanted.mk roomToken sessionPort = wanted := by
      simpa using heq
    simp only [accept, hport]
    split
    · split
      · rename_i hnone
        have hstarted : Started r .ggpo port' ⟨roomToken, sessionPort⟩
            (r.restart .ggpo port' ⟨roomToken, sessionPort⟩,
              .inl ⟨.ggpo, port', ⟨roomToken, sessionPort⟩, .settling r.procs.length⟩) :=
          .spawn (.inl ⟨_, rfl⟩)
        rwa [restart, stop_of_none hnone] at hstarted
      · rename_i entry hentry
        split
        · exact .reuse hentry
        · rename_i hreuse
          exact .replace rfl hentry (by simpa using hreuse)
    · exact .refuse rfl
  | delete | health => exact absurd h (by simp [Request.starts?])

/-- A start touches at most the relay that is recorded for its port. -/
lemma restart_of_started {req : Request} (hstarts : req.starts? = some (kind, port, wanted)) :
    (r.accept req).1 = r ∨ (r.accept req).1 = r.stop kind port ∨
      (r.accept req).1 = r.restart kind port wanted := by
  have ho := r.started hstarts
  generalize r.accept req = o at ho ⊢
  cases ho with
  | spawn => exact .inr (.inr rfl)
  | reuse | refuse => exact .inl rfl
  | replace => exact .inr (.inl rfl)

lemma accept_delete : (r.accept (.delete kind port)).1 = r.stop kind port := by
  cases kind with
  | session => rfl
  | ggpo =>
    simp only [accept]
    split
    · rename_i hnone
      exact (stop_of_none hnone).symm
    · rfl

lemma accept_health : (r.accept (.health kind port)).1 = r := by
  simp only [accept]
  split <;> rfl

lemma Accepted.serves {o : Outcome} (ho : Accepted r req o) :
    ∀ h, o.2 = .inl h → h.Serves req := by
  cases ho with
  | session hport | reuse hport | launch hport | replace hport =>
    rintro _ ⟨⟩
    simp [Handler.Serves, Request.starts?, hport]
  | deleteGgpo | health =>
    rintro _ ⟨⟩
    rfl
  | deleteSession | answer => rintro _ ⟨⟩

/-! ## What becomes of the entries -/

/-- What the work on a request may do to the processes and their entries: no entry is new, or one
is, for a process that is spawned as the request wants it. -/
inductive Changes (r r' : Relays) (req : Request) : Prop
  | kept (hlen : r'.procs.length = r.procs.length)
      (hentries : ∀ k q entry, r'.tracked k q = some entry → r.tracked k q = some entry)
  | spawned (hlen : r'.procs.length = r.procs.length + 1)
      (hentries : ∀ k q entry, r'.tracked k q = some entry → r.tracked k q = some entry ∨
        entry.pid = r.procs.length ∧
          req.starts? = some (k, q, ⟨entry.secret, entry.sessionPort⟩))

lemma changes_self (r : Relays) (req : Request) : Changes r r req := .kept rfl fun _ _ _ => id

lemma changes_stop (r : Relays) (kind : Kind) (port : ℕ) (req : Request) :
    Changes r (r.stop kind port) req := by
  refine .kept length_stop fun k q entry hentry => ?_
  rw [tracked_stop] at hentry
  split_ifs at hentry
  exact hentry

/-- A relay is spawned, with or without a stop before. -/
lemma changes_spawn {r₀ : Relays} (hlen : r₀.procs.length = r.procs.length)
    (hentries : ∀ k q entry, r₀.tracked k q = some entry → r.tracked k q = some entry)
    (h : req.starts? = some (kind, port, wanted)) :
    Changes r (r₀.spawn kind port wanted.secret wanted.sessionPort) req := by
  refine .spawned (by simp [spawn, hlen]) fun k q entry hentry => ?_
  rw [tracked_spawn] at hentry
  split_ifs at hentry with hkq
  · obtain rfl := Option.some.inj hentry
    obtain ⟨rfl, rfl⟩ := hkq
    exact .inr ⟨hlen, h⟩
  · exact .inl (hentries k q entry hentry)

lemma Accepted.changes {o : Outcome} (ho : Accepted r req o) : Changes r o.1 req := by
  cases ho with
  | @session n port sidecarHash hport =>
    have hstarts : (Request.postSession n sidecarHash).starts? =
        some (.session, port, ⟨sidecarHash, none⟩) := by
      simp [Request.starts?, hport]
    refine changes_spawn length_stop (fun k q entry hentry => ?_) hstarts
    rw [tracked_stop] at hentry
    split_ifs at hentry
    exact hentry
  | @launch n sessionPort port roomToken hport =>
    have hstarts : (Request.postGgpo n sessionPort roomToken).starts? =
        some (.ggpo, port, ⟨roomToken, sessionPort⟩) := by
      simp [Request.starts?, hport]
    exact changes_spawn rfl (fun _ _ _ => id) hstarts
  | replace | deleteSession | deleteGgpo => exact changes_stop _ _ _ _
  | reuse | health | answer => exact changes_self _ _

/-! ## Handlers that are resumed -/

lemma Resumed.changes {h : Handler} {answer : Bool} {o : Outcome} (hserves : h.Serves req)
    (hfits : h.Fits r) (ho : Resumed r h answer o) : Changes r o.1 req := by
  obtain ⟨kind, port, wanted, stage⟩ := h
  cases ho with
  | launch hstage =>
    obtain rfl : stage = _ := hstage
    obtain rfl : kind = .ggpo := hfits
    exact changes_spawn rfl (fun _ _ _ => id) hserves
  | giveUpSession | giveUpGgpo => exact changes_stop _ _ _ _
  | wait | succeed | gone | stopped | health => exact changes_self _ _

lemma Resumed.serves {h : Handler} {answer : Bool} {o : Outcome} (hserves : h.Serves req)
    (hfits : h.Fits r) (ho : Resumed r h answer o) : ∀ h', o.2 = .inl h' → h'.Serves req := by
  obtain ⟨kind, port, wanted, stage⟩ := h
  cases ho with
  | wait hstage =>
    rintro _ ⟨⟩
    cases hstage with
    | @exited reason | @pause reason | @release reason => cases reason <;> exact hserves
    | settled | missed | again => exact hserves
  | launch hstage =>
    rintro _ ⟨⟩
    obtain rfl : stage = _ := hstage
    obtain rfl : kind = .ggpo := hfits
    exact hserves
  | giveUpGgpo hstage =>
    rintro _ ⟨⟩
    obtain rfl : stage = _ := hstage
    exact hserves
  | succeed | giveUpSession | gone | stopped | health => rintro _ ⟨⟩

/-- Only a start that gives up or comes to its turn touches a relay again. -/
lemma Resumed.eq_or_touches {h : Handler} {answer : Bool} {o : Outcome}
    (ho : Resumed r h answer o) : o.1 = r ∨ h.touches = true := by
  obtain ⟨kind, port, wanted, stage⟩ := h
  cases ho with
  | launch hstage | giveUpSession hstage | giveUpGgpo hstage =>
    obtain rfl : stage = _ := hstage
    exact .inr rfl
  | wait | succeed | gone | stopped | health => exact .inl rfl

/-- A start that gives up stops the relay of its port. -/
lemma Resumed.eq_or_stop {h : Handler} {answer : Bool} {o : Outcome} (ho : Resumed r h answer o)
    (hno : ∀ pid wait, h.stage ≠ .stopping .replace pid wait) :
    o.1 = r ∨ o.1 = r.stop h.kind h.port ∧ ∃ pid reused, h.stage = .pausing pid reused 0 := by
  cases ho with
  | launch hstage => exact absurd hstage (hno _ _)
  | giveUpSession hstage hkind => exact .inr ⟨by rw [hkind], _, _, hstage⟩
  | giveUpGgpo hstage hkind => exact .inr ⟨by rw [hkind], _, _, hstage⟩
  | wait | succeed | gone | stopped | health => exact .inl rfl

lemma tells_restart {pid : ℕ} (h : Tells r (r.restart kind port wanted) pid) :
    r.Records kind port pid := by
  obtain ⟨p, p', hp, hp', htold, htold'⟩ := h
  refine tells_stop ⟨p, p', hp, ?_, htold, htold'⟩
  have hlt := (List.getElem?_eq_some_iff.1 hp).1
  rwa [restart, getElem?_spawn, length_stop, if_neg (by omega)] at hp'

/-- What is done to the relay of a port touches no process but the one that is recorded there. -/
lemma spares_of_not_records {r' : Relays} {pid : ℕ}
    (h : r' = r ∨ r' = r.stop kind port ∨ r' = r.restart kind port wanted)
    (hno : ¬ r.Records kind port pid) :
    ¬ Tells r r' pid ∧ ∀ k q, r.Records k q pid → r'.Records k q pid := by
  have hother {k : Kind} {q : ℕ} (hrec : r.Records k q pid) : ¬ (k = kind ∧ q = port) := by
    rintro ⟨rfl, rfl⟩
    exact hno hrec
  rcases h with rfl | rfl | rfl
  · exact ⟨not_tells_self r' pid, fun _ _ hrec => hrec⟩
  · refine ⟨fun htells => hno (tells_stop htells), fun k q hrec => ?_⟩
    have hne := hother hrec
    obtain ⟨entry, hentry, hpid⟩ := hrec
    exact ⟨entry, by rw [tracked_stop, if_neg hne]; exact hentry, hpid⟩
  · refine ⟨fun htells => hno (tells_restart htells), fun k q hrec => ?_⟩
    have hne := hother hrec
    obtain ⟨entry, hentry, hpid⟩ := hrec
    refine ⟨entry, ?_, hpid⟩
    rw [restart, tracked_spawn, if_neg hne, tracked_stop, if_neg hne]
    exact hentry

/-- No relay is lost by a handler that has not waited for another one to stop. -/
lemma Resumed.knows_of_ne {h : Handler} {answer : Bool} {o : Outcome} (hr : r.Knows)
    (ho : Resumed r h answer o) (hno : ∀ pid wait, h.stage ≠ .stopping .replace pid wait) :
    o.1.Knows := by
  rcases ho.eq_or_stop hno with heq | ⟨heq, -⟩
  · rwa [heq]
  · rw [heq]
    exact knows_stop hr _ _

/-- No handler begins to wait for another relay to stop when it is resumed. -/
lemma Resumed.ne_replace {h : Handler} {answer : Bool} {o : Outcome} (ho : Resumed r h answer o)
    (hno : ∀ pid wait, h.stage ≠ .stopping .replace pid wait) :
    ∀ h', o.2 = .inl h' → ∀ pid wait, h'.stage ≠ .stopping .replace pid wait := by
  obtain ⟨kind, port, wanted, stage⟩ := h
  cases ho with
  | wait hstage =>
    rintro _ ⟨⟩ pid wait rfl
    cases hstage with
    | exited | pause | release => exact hno _ _ rfl
  | launch hstage => exact absurd hstage (hno _ _)
  | giveUpGgpo =>
    rintro _ ⟨⟩ pid wait heq
    cases heq
  | succeed | giveUpSession | gone | stopped | health => rintro _ ⟨⟩

end Relays

end RelayManager
end Sf4e
