/-
# Does the manager know its relays?

A relay is known by the entry of its port.  The maps are read and written on both sides of the
awaits, so that a start that has waited for another relay to stop puts its own relay over an
entry made meanwhile, a start that gives up stops whatever is recorded by then, and a stop has
deleted the entry before it fails.

`tracks_of_run` says that this is all that can go wrong: while no handler comes upon an entry
that is not its own (`Handler.FindsOwn`) and no stop fails, every relay that runs is recorded.
-/
import Sf4e.Manager.Relays

namespace Sf4e
namespace RelayManager

open Wire Trace

/-! ## What the operations do -/

namespace Relays

variable {r : Relays} {kind : Kind} {port : ℕ}

@[simp] lemma tracked_setTracked (entry : Option Tracked) (k : Kind) (q : ℕ) :
    (r.setTracked kind port entry).tracked k q =
      if k = kind ∧ q = port then entry else r.tracked k q := rfl

@[simp] lemma procs_setTracked (entry : Option Tracked) :
    (r.setTracked kind port entry).procs = r.procs := rfl

/-- The entry of the port is that of the process. -/
def Records (r : Relays) (kind : Kind) (port pid : ℕ) : Prop :=
  ∃ entry ∈ r.tracked kind port, entry.pid = pid

instance (r : Relays) (kind : Kind) (port pid : ℕ) : Decidable (r.Records kind port pid) :=
  inferInstanceAs (Decidable (∃ entry ∈ r.tracked kind port, entry.pid = pid))

lemma tracked_stop (k : Kind) (q : ℕ) :
    (r.stop kind port).tracked k q = if k = kind ∧ q = port then none else r.tracked k q := by
  unfold stop
  split
  · rename_i hnone
    split_ifs with h
    · rw [h.1, h.2, hnone]
    · rfl
  · rfl

lemma getElem?_stop (j : ℕ) : (r.stop kind port).procs[j]? = (r.procs[j]?).map fun p =>
    if r.Records kind port j then { p with told := true } else p := by
  unfold stop Records
  split
  · rename_i hnone
    simp [hnone]
  · rename_i entry hentry
    simp only [procs_setTracked, terminate, List.getElem?_modify, hentry, Option.mem_def,
      Option.some.injEq, exists_eq_left']
    rfl

@[simp] lemma length_stop : (r.stop kind port).procs.length = r.procs.length := by
  unfold stop
  split
  · rfl
  · simp [terminate]

lemma tracked_spawn (secret : Text) (sessionPort : Option ℤ) (k : Kind) (q : ℕ) :
    (r.spawn kind port secret sessionPort).tracked k q =
      if k = kind ∧ q = port then some ⟨r.procs.length, secret, sessionPort⟩
      else r.tracked k q := rfl

lemma getElem?_spawn (secret : Text) (sessionPort : Option ℤ) (j : ℕ) :
    (r.spawn kind port secret sessionPort).procs[j]? =
      if j = r.procs.length then some (.new kind port secret)
      else r.procs[j]? := by
  simp only [spawn, procs_setTracked, List.getElem?_append]
  split_ifs with h₁ h₂ h₂
  · omega
  · rfl
  · simp [h₂]
  · have hlen : r.procs.length ≤ j := by omega
    rw [List.getElem?_eq_none hlen, List.getElem?_eq_none]
    simp only [List.length_singleton]
    omega

lemma getElem?_exit (pid j : ℕ) : (r.exit pid).procs[j]? = (r.procs[j]?).map fun p =>
    if pid = j then p.exit else p := by
  simp only [exit, List.getElem?_modify]
  rfl

lemma tracked_exit_eq_some_iff {pid : ℕ} {k : Kind} {q : ℕ} {entry : Tracked} :
    (r.exit pid).tracked k q = some entry ↔ r.tracked k q = some entry ∧ entry.pid ≠ pid := by
  simp [exit, Option.filter_eq_some_iff]

lemma listen_eq_some {pid : ℕ} {on : Bool} {r' : Relays} (h : r.listen pid on = some r') :
    r' = { r with procs := r.procs.modify pid fun p => p.listen on } ∧
      ∃ p, r.procs[pid]? = some p ∧ (on = true →
        p.exited = false ∧ r.answers .session p.port = false ∧
          r.answers .ggpo p.port = false) := by
  unfold listen at h
  split at h
  · exact absurd h (by simp)
  · rename_i p hp
    split at h
    · exact absurd h (by simp)
    · rename_i hno
      refine ⟨(Option.some.inj h).symm, p, hp, fun hon => ?_⟩
      simpa [hon] using hno

end Relays

/-! ## Processes over time -/

/-- What may become of a process. -/
structure Proc.Evolves (p q : Proc) : Prop where
  kind : q.kind = p.kind
  port : q.port = p.port
  secret : q.secret = p.secret
  exited : p.exited = true → q.exited = true
  told : p.told = true → q.told = true

lemma Proc.Evolves.refl (p : Proc) : p.Evolves p := ⟨rfl, rfl, rfl, id, id⟩

/-- Processes stay what they are. -/
def Relays.Grows (r r' : Relays) : Prop :=
  ∀ (j : ℕ) (p : Proc), r.procs[j]? = some p → ∃ q, r'.procs[j]? = some q ∧ p.Evolves q

namespace Relays

variable {r r' : Relays}

lemma grows_refl (r : Relays) : r.Grows r := fun _ p hp => ⟨p, hp, Proc.Evolves.refl p⟩

lemma Grows.trans {r'' : Relays} (h : r.Grows r') (h' : r'.Grows r'') : r.Grows r'' := by
  intro j p hp
  obtain ⟨q, hq, hpq⟩ := h j p hp
  obtain ⟨q', hq', hqq'⟩ := h' j q hq
  exact ⟨q', hq', hqq'.kind.trans hpq.kind, hqq'.port.trans hpq.port,
    hqq'.secret.trans hpq.secret, hqq'.exited ∘ hpq.exited, hqq'.told ∘ hpq.told⟩

lemma grows_stop (r : Relays) (kind : Kind) (port : ℕ) : r.Grows (r.stop kind port) := by
  intro j p hp
  refine ⟨_, by rw [getElem?_stop, hp, Option.map_some], ?_⟩
  split_ifs
  · exact ⟨rfl, rfl, rfl, id, fun _ => rfl⟩
  · exact .refl p

lemma grows_spawn (r : Relays) (kind : Kind) (port : ℕ) (secret : Text)
    (sessionPort : Option ℤ) : r.Grows (r.spawn kind port secret sessionPort) := by
  intro j p hp
  obtain ⟨hlt, -⟩ := List.getElem?_eq_some_iff.1 hp
  refine ⟨p, ?_, .refl p⟩
  rw [getElem?_spawn, if_neg (by omega), hp]

lemma grows_exit (r : Relays) (pid : ℕ) : r.Grows (r.exit pid) := by
  intro j p hp
  refine ⟨_, by rw [getElem?_exit, hp, Option.map_some], ?_⟩
  split_ifs
  · exact ⟨rfl, rfl, rfl, fun _ => rfl, id⟩
  · exact .refl p

lemma grows_listen {pid : ℕ} {on : Bool} (h : r.listen pid on = some r') : r.Grows r' := by
  obtain ⟨rfl, -⟩ := listen_eq_some h
  intro j p hp
  refine ⟨_, by rw [List.getElem?_modify, hp]; rfl, ?_⟩
  split_ifs
  · exact ⟨rfl, rfl, rfl, id, id⟩
  · exact .refl p

lemma Accepted.grows {req : Request} {o : Outcome} (h : Accepted r req o) : r.Grows o.1 := by
  cases h with
  | session => exact (grows_stop _ _ _).trans (grows_spawn _ _ _ _ _)
  | launch => exact grows_spawn _ _ _ _ _
  | replace | deleteSession | deleteGgpo => exact grows_stop _ _ _
  | reuse | health | answer => exact grows_refl r

lemma Resumed.grows {h : Handler} {answer : Bool} {o : Outcome} (hr : Resumed r h answer o) :
    r.Grows o.1 := by
  cases hr with
  | launch => exact grows_spawn _ _ _ _ _
  | giveUpSession | giveUpGgpo => exact grows_stop _ _ _
  | wait | succeed | gone | stopped | health => exact grows_refl r

/-- The process was spawned for the secret on the port. -/
def Spawned (r : Relays) (pid : ℕ) (kind : Kind) (port : ℕ) (secret : Text) : Prop :=
  ∃ p, r.procs[pid]? = some p ∧ p.kind = kind ∧ p.port = port ∧ p.secret = secret

lemma Spawned.mono {pid port : ℕ} {kind : Kind} {secret : Text}
    (h : r.Spawned pid kind port secret) (hgrows : r.Grows r') :
    r'.Spawned pid kind port secret := by
  obtain ⟨p, hp, rfl, rfl, rfl⟩ := h
  obtain ⟨q, hq, hpq⟩ := hgrows pid p hp
  exact ⟨q, hq, hpq.kind, hpq.port, hpq.secret⟩

lemma spawned_spawn (r : Relays) (kind : Kind) (port : ℕ) (secret : Text)
    (sessionPort : Option ℤ) :
    (r.spawn kind port secret sessionPort).Spawned r.procs.length kind port secret :=
  ⟨_, by rw [getElem?_spawn, if_pos rfl], rfl, rfl, rfl⟩

end Relays

/-! ## The property and the condition -/

/-- The await of a handler that is over, and the answer of its probe. -/
def ManagerAction.resumed? : ManagerAction → Option (ℕ × Bool)
  | .resume id answer => some (id, answer)
  | _ => none

/-- The handler that the step resumes. -/
def resumedHandler (e : ManagerEntry) : Option Handler :=
  e.act.resumed?.bind fun p => e.pre.handlers p.1

/-- Every relay that runs is recorded for its port. -/
def Relays.Knows (r : Relays) : Prop :=
  ∀ (pid : ℕ) (p : Proc), r.procs[pid]? = some p → p.Running → r.Records p.kind p.port pid

/-- The step tells the process to terminate. -/
def Tells (r r' : Relays) (pid : ℕ) : Prop :=
  ∃ p p', r.procs[pid]? = some p ∧ r'.procs[pid]? = some p' ∧ p.told = false ∧ p'.told = true

/-- `stopGgpoSessionAndWait` throws when the handler is resumed. -/
def Handler.StopFails (r : Relays) (h : Handler) : Prop :=
  match h.stage with
  | .stopping _ pid .exit => r.hasExited pid = false
  | .stopping _ _ (.pause 0) => True
  | _ => False

/-- What the manager owes at every step. -/
structure Tracks (e : ManagerEntry) : Prop where
  /-- A relay that is there and has not been told to terminate is recorded for its port. -/
  running : e.post.relays.Knows
  /-- There is at most one for a port. -/
  atMostOne : ∀ (pid pid' : ℕ) (p p' : Proc), e.post.relays.procs[pid]? = some p →
    e.post.relays.procs[pid']? = some p' → p.Running → p'.Running → p.kind = p'.kind →
      p.port = p'.port → pid = pid'
  /-- An exit leaves the entries of the other processes alone. -/
  exit : ∀ pid, e.act = .exit pid → ∀ kind port pid', pid' ≠ pid →
    e.pre.relays.Records kind port pid' → e.post.relays.Records kind port pid'
  /-- When a start is answered with success, the entry is that of a relay for the same hash or
  token. -/
  started : ∀ h ∈ resumedHandler e, ∀ out ∈ e.out, out.2.isStarted = true →
    ∃ pid, e.post.relays.Records h.kind h.port pid ∧
      e.post.relays.Spawned pid h.kind h.port h.wanted.secret
  /-- The cleanup of a failed start terminates the process that the start has spawned. -/
  cleanup : ∀ h ∈ resumedHandler e, ∀ own reused, h.stage = .pausing own reused 0 →
    ∀ pid, Tells e.pre.relays e.post.relays pid → pid = own ∧ reused = false
  /-- A stop that fails leaves the process recorded. -/
  failedStop : ∀ h ∈ resumedHandler e, ∀ reason pid wait, h.stage = .stopping reason pid wait →
    h.StopFails e.pre.relays → e.post.relays.Records h.kind h.port pid

/-- What the handler comes upon when it is resumed: a start that has waited for a stop finds no
entry, one that succeeds its own, one that gives up its own or none, and no stop fails. -/
def Handler.FindsOwn (r : Relays) (h : Handler) (answer : Bool) : Prop :=
  match h.stage with
  | .stopping _ pid .exit => r.hasExited pid = true
  | .stopping _ _ (.pause 0) => False
  | .stopping .replace _ (.release _) => answer = false → r.tracked h.kind h.port = none
  | .probing pid _ _ => answer = true → r.Records h.kind h.port pid
  | .pausing pid reused 0 => ∀ entry ∈ r.tracked h.kind h.port, entry.pid = pid ∧ reused = false
  | _ => True

/-- The step resumes no handler that comes upon something else. -/
def Orderly (e : ManagerEntry) : Prop :=
  ∀ p ∈ e.act.resumed?, ∀ h ∈ e.pre.handlers p.1, h.FindsOwn e.pre.relays p.2

instance (r : Relays) (h : Handler) (answer : Bool) : Decidable (h.FindsOwn r answer) := by
  unfold Handler.FindsOwn
  split <;> infer_instance

instance : DecidablePred Orderly := fun e =>
  inferInstanceAs (Decidable (∀ p ∈ e.act.resumed?, ∀ h ∈ e.pre.handlers p.1, _))

/-! ## The maps and the processes -/

/-- **Invariant.** The entries are those of relays that run. -/
def Relays.Sound (r : Relays) : Prop :=
  ∀ (kind : Kind) (port : ℕ) (entry : Tracked), r.tracked kind port = some entry →
    ∃ p, r.procs[entry.pid]? = some p ∧ p.kind = kind ∧ p.port = port ∧
      p.secret = entry.secret ∧ p.Running

namespace Relays

variable {r r' : Relays} {kind : Kind} {port : ℕ}

/-- A process is recorded for one port only. -/
lemma Sound.records_unique (h : r.Sound) {k : Kind} {q pid : ℕ} (hrec : r.Records kind port pid)
    (hrec' : r.Records k q pid) : k = kind ∧ q = port := by
  obtain ⟨entry, hentry, rfl⟩ := hrec
  obtain ⟨entry', hentry', heq⟩ := hrec'
  obtain ⟨p, hp, rfl, rfl, -⟩ := h _ _ _ hentry
  obtain ⟨p', hp', rfl, rfl, -⟩ := h _ _ _ hentry'
  rw [heq, hp] at hp'
  obtain rfl := Option.some.inj hp'
  exact ⟨rfl, rfl⟩

lemma sound_stop (h : r.Sound) (kind : Kind) (port : ℕ) : (r.stop kind port).Sound := by
  intro k q entry hentry
  rw [tracked_stop] at hentry
  split_ifs at hentry with hkq
  obtain ⟨p, hp, hfacts⟩ := h k q entry hentry
  have hother : ¬ r.Records kind port entry.pid := fun hrec =>
    hkq (h.records_unique hrec ⟨entry, hentry, rfl⟩)
  exact ⟨p, by rw [getElem?_stop, hp, Option.map_some, if_neg hother], hfacts⟩

lemma sound_spawn (h : r.Sound) (kind : Kind) (port : ℕ) (secret : Text)
    (sessionPort : Option ℤ) : (r.spawn kind port secret sessionPort).Sound := by
  intro k q entry hentry
  rw [tracked_spawn] at hentry
  split_ifs at hentry with hkq
  · obtain rfl := Option.some.inj hentry
    obtain ⟨rfl, rfl⟩ := hkq
    exact ⟨_, by rw [getElem?_spawn, if_pos rfl], rfl, rfl, rfl, rfl, rfl⟩
  · obtain ⟨p, hp, hfacts⟩ := h k q entry hentry
    obtain ⟨hlt, -⟩ := List.getElem?_eq_some_iff.1 hp
    exact ⟨p, by rw [getElem?_spawn, if_neg (by omega), hp], hfacts⟩

lemma sound_exit (h : r.Sound) (pid : ℕ) : (r.exit pid).Sound := by
  intro k q entry hentry
  obtain ⟨hentry, hne⟩ := tracked_exit_eq_some_iff.1 hentry
  obtain ⟨p, hp, hfacts⟩ := h k q entry hentry
  exact ⟨p, by rw [getElem?_exit, hp, Option.map_some, if_neg (Ne.symm hne)], hfacts⟩

lemma sound_listen {pid : ℕ} {on : Bool} (h : r.Sound) (hr' : r.listen pid on = some r') :
    r'.Sound := by
  obtain ⟨rfl, -⟩ := listen_eq_some hr'
  intro k q entry hentry
  obtain ⟨p, hp, hfacts⟩ := h k q entry hentry
  refine ⟨_, by rw [List.getElem?_modify, hp]; rfl, ?_⟩
  split_ifs <;> exact hfacts

/-- Two relays that run on one port are one. -/
lemma Knows.eq_of_running (h : r.Knows) {pid pid' : ℕ} {p p' : Proc}
    (hp : r.procs[pid]? = some p) (hp' : r.procs[pid']? = some p') (hrun : p.Running)
    (hrun' : p'.Running) (hkind : p.kind = p'.kind) (hport : p.port = p'.port) : pid = pid' := by
  obtain ⟨entry, hentry, rfl⟩ := h pid p hp hrun
  obtain ⟨entry', hentry', rfl⟩ := h pid' p' hp' hrun'
  rw [hkind, hport] at hentry
  rw [Option.mem_unique hentry hentry']

lemma knows_stop (h : r.Knows) (kind : Kind) (port : ℕ) : (r.stop kind port).Knows := by
  intro j p hp hrun
  rw [getElem?_stop] at hp
  obtain ⟨p₀, hp₀, rfl⟩ := Option.map_eq_some_iff.1 hp
  split_ifs at hrun with hrec
  · exact absurd hrun.2 (by simp)
  · rw [if_neg hrec]
    obtain ⟨entry, hentry, hpid⟩ := h j p₀ hp₀ hrun
    refine ⟨entry, ?_, hpid⟩
    rw [tracked_stop, if_neg]
    · exact hentry
    · rintro ⟨rfl, rfl⟩
      exact hrec ⟨entry, hentry, hpid⟩

/-- A relay may be spawned on a port without an entry. -/
lemma knows_spawn (h : r.Knows) (hnone : r.tracked kind port = none) (secret : Text)
    (sessionPort : Option ℤ) : (r.spawn kind port secret sessionPort).Knows := by
  intro j p hp hrun
  rw [getElem?_spawn] at hp
  split_ifs at hp with hj
  · obtain rfl := Option.some.inj hp
    exact ⟨_, by rw [tracked_spawn, if_pos ⟨rfl, rfl⟩]; rfl, hj.symm⟩
  · obtain ⟨entry, hentry, hpid⟩ := h j p hp hrun
    refine ⟨entry, ?_, hpid⟩
    rw [tracked_spawn, if_neg]
    · exact hentry
    · rintro ⟨hkind, hport⟩
      rw [hkind, hport, hnone] at hentry
      exact absurd hentry (by simp)

lemma knows_exit (h : r.Knows) (pid : ℕ) : (r.exit pid).Knows := by
  intro j p hp hrun
  rw [getElem?_exit] at hp
  obtain ⟨p₀, hp₀, rfl⟩ := Option.map_eq_some_iff.1 hp
  split_ifs at hrun with hj
  · exact absurd hrun.1 (by simp [Proc.exit])
  · rw [if_neg hj]
    obtain ⟨entry, hentry, hpid⟩ := h j p₀ hp₀ hrun
    exact ⟨entry, tracked_exit_eq_some_iff.2 ⟨hentry, by rw [hpid]; exact Ne.symm hj⟩, hpid⟩

lemma knows_listen {pid : ℕ} {on : Bool} (h : r.Knows) (hr' : r.listen pid on = some r') :
    r'.Knows := by
  obtain ⟨rfl, -⟩ := listen_eq_some hr'
  intro j p hp hrun
  simp only [List.getElem?_modify] at hp
  obtain ⟨p₀, hp₀, rfl⟩ := Option.map_eq_some_iff.1 hp
  have hrun₀ : p₀.Running := by split_ifs at hrun <;> exact hrun
  have hrec := h j p₀ hp₀ hrun₀
  split_ifs <;> exact hrec

end Relays

/-! ## The handlers -/

/-- **Invariant.** A start waits for a process that was spawned for what it wants. -/
def Handler.Fits (r : Relays) (h : Handler) : Prop :=
  match h.stage with
  | .stopping _ _ _ => h.kind = .ggpo
  | .settling pid => h.kind = .ggpo ∧ r.Spawned pid h.kind h.port h.wanted.secret
  | .probing pid _ _ | .pausing pid _ _ => r.Spawned pid h.kind h.port h.wanted.secret
  | .health => True

namespace Handler

variable {r r' : Relays} {h : Handler}

lemma Fits.mono (hfits : h.Fits r) (hgrows : r.Grows r') : h.Fits r' := by
  obtain ⟨kind, port, wanted, stage⟩ := h
  cases stage with
  | stopping => exact hfits
  | settling => exact ⟨hfits.1, hfits.2.mono hgrows⟩
  | probing | pausing => exact Relays.Spawned.mono hfits hgrows
  | health => trivial

/-- A handler that waits again waits for the same process. -/
lemma Fits.leadsTo {stage : Stage} (hfits : h.Fits r) (hstage : h.stage.LeadsTo stage) :
    Fits r { h with stage := stage } := by
  obtain ⟨kind, port, wanted, old⟩ := h
  cases hstage with
  | exited | pause | release => exact hfits
  | settled => exact hfits.2
  | missed | again => exact hfits

end Handler

lemma fits_launchGgpo (r : Relays) (port : ℕ) (wanted : Wanted) :
    ∀ h, (r.launchGgpo port wanted).2 = .inl h → h.Fits (r.launchGgpo port wanted).1 := by
  rintro _ ⟨⟩
  exact ⟨rfl, r.spawned_spawn ..⟩

/-- The handler of a request that has come in. -/
lemma Relays.Accepted.fits {r : Relays} {req : Request} {o : Outcome} (hr : r.Sound)
    (ho : Accepted r req o) : ∀ h, o.2 = .inl h → h.Fits o.1 := by
  cases ho with
  | session =>
    rintro _ ⟨⟩
    exact Relays.spawned_spawn ..
  | launch => exact fits_launchGgpo _ _ _
  | reuse hport htoken hentry hreuse =>
    rintro _ ⟨⟩
    obtain ⟨p, hp, hkind, hport', hsecret, -⟩ := hr _ _ _ hentry
    simp only [Relays.reusable, Bool.and_eq_true, beq_iff_eq] at hreuse
    exact ⟨p, hp, hkind, hport', hsecret.trans hreuse.1.2⟩
  | replace | deleteGgpo =>
    rintro _ ⟨⟩
    rfl
  | health =>
    rintro _ ⟨⟩
    trivial
  | deleteSession | answer =>
    rintro _ ⟨⟩

/-- The handler that has been resumed. -/
lemma Relays.Resumed.fits {r : Relays} {h : Handler} {answer : Bool} {o : Outcome}
    (hfits : h.Fits r) (ho : Resumed r h answer o) : ∀ h', o.2 = .inl h' → h'.Fits o.1 := by
  cases ho with
  | wait hstage =>
    rintro _ ⟨⟩
    exact hfits.leadsTo hstage
  | launch => exact fits_launchGgpo _ _ _
  | giveUpGgpo hstage hkind =>
    rintro _ ⟨⟩
    exact hkind
  | succeed | giveUpSession | gone | stopped | health =>
    rintro _ ⟨⟩

/-! ## Runs -/

namespace Relays

variable {r : Relays} {o : Outcome}

lemma Accepted.sound {req : Request} (hr : r.Sound) (ho : Accepted r req o) : o.1.Sound := by
  cases ho with
  | session => exact sound_spawn (sound_stop hr _ _) _ _ _ _
  | launch => exact sound_spawn hr _ _ _ _
  | replace | deleteSession | deleteGgpo => exact sound_stop hr _ _
  | reuse | health | answer => exact hr

lemma Resumed.sound {h : Handler} {answer : Bool} (hr : r.Sound) (ho : Resumed r h answer o) :
    o.1.Sound := by
  cases ho with
  | launch => exact sound_spawn hr _ _ _ _
  | giveUpSession | giveUpGgpo => exact sound_stop hr _ _
  | wait | succeed | gone | stopped | health => exact hr

lemma Accepted.knows {req : Request} (hr : r.Knows) (ho : Accepted r req o) : o.1.Knows := by
  cases ho with
  | session =>
    refine knows_spawn (knows_stop hr _ _) ?_ _ _
    rw [tracked_stop, if_pos ⟨rfl, rfl⟩]
  | launch hport htoken hnone => exact knows_spawn hr hnone _ _
  | replace | deleteSession | deleteGgpo => exact knows_stop hr _ _
  | reuse | health | answer => exact hr

lemma Resumed.knows {h : Handler} {answer : Bool} (hr : r.Knows) (hfits : h.Fits r)
    (ho : Resumed r h answer o) (hok : h.FindsOwn r answer) : o.1.Knows := by
  cases ho with
  | launch hstage hanswer =>
    obtain ⟨kind, port, wanted, stage⟩ := h
    obtain rfl : stage = _ := hstage
    obtain rfl : kind = .ggpo := hfits
    exact knows_spawn hr (hok hanswer) _ _
  | giveUpSession | giveUpGgpo => exact knows_stop hr _ _
  | wait | succeed | gone | stopped | health => exact hr

end Relays

/-- **Invariant.** The entries are those of relays that run, and every start waits for a process
that was spawned for it. -/
structure Manager.Sound (m : Manager) : Prop where
  relays : m.relays.Sound
  handlers : ∀ id h, m.handlers id = some h → h.Fits m.relays

namespace Manager

variable {m m' : Manager}

@[simp] lemma settle_relays (m : Manager) (id : ℕ) (o : Outcome) :
    (m.settle id o).2.relays = o.1 := by
  obtain ⟨relays, h | reply⟩ := o <;> rfl

lemma settle_handlers {id id' : ℕ} {o : Outcome} (hid : id' ≠ id) :
    (m.settle id o).2.handlers id' = m.handlers id' := by
  obtain ⟨relays, h | reply⟩ := o <;> exact Function.update_of_ne hid _ _

lemma settle_reply {id : ℕ} {o : Outcome} {out : ℕ × Reply} (h : (m.settle id o).1 = some out) :
    out.1 = id ∧ o.2 = .inr out.2 := by
  obtain ⟨relays, h' | reply⟩ := o
  · exact absurd h (by simp [settle])
  · obtain rfl := Option.some.inj h
    exact ⟨rfl, rfl⟩

lemma Sound.settle {id : ℕ} {o : Outcome} (h : m.Sound) (hsound : o.1.Sound)
    (hgrows : m.relays.Grows o.1) (hfits : ∀ h', o.2 = .inl h' → h'.Fits o.1) :
    (m.settle id o).2.Sound := by
  refine ⟨by rwa [settle_relays], fun id' h' hh' => ?_⟩
  rw [settle_relays]
  by_cases hid : id' = id
  · obtain ⟨relays, h'' | reply⟩ := o
    · obtain rfl : h'' = h' := by simpa [Manager.settle, hid] using hh'
      exact hfits h'' rfl
    · simp [Manager.settle, hid] at hh'
  · rw [settle_handlers hid] at hh'
    exact (h.handlers id' h' hh').mono hgrows

/-- The step of a handler that is resumed. -/
lemma next_resume {id : ℕ} {answer : Bool} {out : Option (ℕ × Reply)}
    (h : m.next (.resume id answer) = some (out, m')) :
    ∃ h, m.handlers id = some h ∧ (h.probes = true → m.relays.Probes h.kind h.port answer) ∧
      (out, m') = m.settle id (m.relays.resume h answer) := by
  obtain ⟨h, hh, hnext⟩ := Option.bind_eq_some_iff.1 h
  split at hnext
  · rename_i hprobe
    exact ⟨h, hh, hprobe, (Option.some.inj hnext).symm⟩
  · exact absurd hnext (by simp)

/-- The step of a request that comes in. -/
lemma next_request {id : ℕ} {req : Request} {out : Option (ℕ × Reply)}
    (h : m.next (.request id req) = some (out, m')) :
    m.handlers id = none ∧ (out, m') = m.settle id (m.relays.accept req) := by
  simp only [next] at h
  split at h
  · rename_i hid
    exact ⟨hid, (Option.some.inj h).symm⟩
  · exact absurd h (by simp)

lemma next_exit {pid : ℕ} {out : Option (ℕ × Reply)} (h : m.next (.exit pid) = some (out, m')) :
    out = none ∧ m' = { m with relays := m.relays.exit pid } := by
  simp only [next] at h
  split at h
  · exact absurd h (by simp)
  · obtain ⟨rfl, rfl⟩ := Prod.mk.inj (Option.some.inj h)
    exact ⟨rfl, rfl⟩

lemma next_listen {pid : ℕ} {on : Bool} {out : Option (ℕ × Reply)}
    (h : m.next (.listen pid on) = some (out, m')) :
    out = none ∧ ∃ relays, m.relays.listen pid on = some relays ∧
      m' = { m with relays := relays } := by
  obtain ⟨relays, hlisten, heq⟩ := Option.map_eq_some_iff.1 h
  obtain ⟨rfl, rfl⟩ := Prod.mk.inj heq
  exact ⟨rfl, relays, hlisten, rfl⟩

/-- **Step lemma.** No step spoils an entry. -/
lemma Sound.step {a : ManagerAction} {out : Option (ℕ × Reply)} (h : m.Sound)
    (hnext : m.next a = some (out, m')) : m'.Sound := by
  cases a with
  | request id req =>
    obtain ⟨-, heq⟩ := next_request hnext
    have ho := m.relays.accepted req
    obtain rfl : m' = (m.settle id (m.relays.accept req)).2 := by rw [← heq]
    exact h.settle (ho.sound h.relays) ho.grows (ho.fits h.relays)
  | resume id answer =>
    obtain ⟨hd, hhd, -, heq⟩ := next_resume hnext
    have ho := m.relays.resumed hd answer
    obtain rfl : m' = (m.settle id (m.relays.resume hd answer)).2 := by rw [← heq]
    exact h.settle (ho.sound h.relays) ho.grows (ho.fits (h.handlers id hd hhd))
  | exit pid =>
    obtain ⟨-, rfl⟩ := next_exit hnext
    refine ⟨Relays.sound_exit h.relays pid, fun id hd hhd => ?_⟩
    exact (h.handlers id hd hhd).mono (Relays.grows_exit _ _)
  | listen pid on =>
    obtain ⟨-, relays, hlisten, rfl⟩ := next_listen hnext
    refine ⟨Relays.sound_listen h.relays hlisten, fun id hd hhd => ?_⟩
    exact (h.handlers id hd hhd).mono (Relays.grows_listen hlisten)

lemma sound_of_run {log : List ManagerEntry} (h : managerLTS.Run log m) : m.Sound := by
  refine h.invariant_of_step (fun _ m => m.Sound) ?_ fun _ e hi hs => hi.step hs
  rintro _ rfl
  refine ⟨?_, ?_⟩
  · intro kind port entry hentry
    exact absurd hentry (by simp [new])
  · intro id hd hhd
    exact absurd hhd (by simp [new])

/-- **Step lemma.** A step at which every handler finds its own loses no relay. -/
lemma knows_of_next {a : ManagerAction} {out : Option (ℕ × Reply)} (h : m.Sound)
    (hknows : m.relays.Knows) (hnext : m.next a = some (out, m'))
    (hok : Orderly ⟨m, a, out, m'⟩) : m'.relays.Knows := by
  cases a with
  | request id req =>
    obtain ⟨-, heq⟩ := next_request hnext
    obtain rfl : m' = (m.settle id (m.relays.accept req)).2 := by rw [← heq]
    rw [settle_relays]
    exact (m.relays.accepted req).knows hknows
  | resume id answer =>
    obtain ⟨hd, hhd, -, heq⟩ := next_resume hnext
    obtain rfl : m' = (m.settle id (m.relays.resume hd answer)).2 := by rw [← heq]
    rw [settle_relays]
    exact (m.relays.resumed hd answer).knows hknows (h.handlers id hd hhd)
      (hok (id, answer) rfl hd hhd)
  | exit pid =>
    obtain ⟨-, rfl⟩ := next_exit hnext
    exact Relays.knows_exit hknows pid
  | listen pid on =>
    obtain ⟨-, relays, hlisten, rfl⟩ := next_listen hnext
    exact Relays.knows_listen hknows hlisten

lemma knows_of_run {log : List ManagerEntry} (h : managerLTS.Run log m)
    (hok : ∀ e ∈ log, Orderly e) : m.Sound ∧ m.relays.Knows := by
  refine h.invariant (fun _ m => m.Sound ∧ m.relays.Knows) ?_ ?_ hok
  · rintro _ rfl
    refine ⟨sound_of_run ⟨_, rfl, .refl⟩, fun pid p hp => ?_⟩
    exact absurd hp (by simp [new])
  · rintro _ e ⟨hsound, hknows⟩ hs ho
    exact ⟨hsound.step hs, knows_of_next hsound hknows hs ho⟩

end Manager

/-! ## Every step -/

/-- A start that succeeds has its own entry. -/
lemma started_of_resumed {r : Relays} {h : Handler} {answer : Bool} {o : Outcome} {reply : Reply}
    (hfits : h.Fits r) (hok : h.FindsOwn r answer) (ho : Relays.Resumed r h answer o)
    (hreply : o.2 = .inr reply) (hstarted : reply.isStarted = true) :
    ∃ pid, o.1.Records h.kind h.port pid ∧ o.1.Spawned pid h.kind h.port h.wanted.secret := by
  cases ho with
  | succeed hstage hanswer =>
    obtain ⟨kind, port, wanted, stage⟩ := h
    obtain rfl : stage = _ := hstage
    exact ⟨_, hok hanswer, hfits⟩
  | giveUpSession | gone | health =>
    cases hreply
    exact absurd hstarted (by simp [Reply.isStarted])
  | stopped hstage hno =>
    cases hreply
    rw [hno] at hstarted
    exact absurd hstarted (by simp)
  | wait | launch | giveUpGgpo => cases hreply

lemma tells_stop {r : Relays} {kind : Kind} {port pid : ℕ} (h : Tells r (r.stop kind port) pid) :
    r.Records kind port pid := by
  obtain ⟨p, p', hp, hp', htold, htold'⟩ := h
  rw [Relays.getElem?_stop, hp, Option.map_some] at hp'
  obtain rfl := Option.some.inj hp'
  split_ifs at htold' with hrec
  · exact hrec
  · rw [htold] at htold'
    exact absurd htold' (by simp)

lemma not_tells_self (r : Relays) (pid : ℕ) : ¬ Tells r r pid := by
  rintro ⟨p, p', hp, hp', htold, htold'⟩
  obtain rfl : p = p' := Option.some.inj (hp.symm.trans hp')
  rw [htold] at htold'
  exact absurd htold' (by simp)

/-- A start that gives up terminates its own process. -/
lemma cleanup_of_resumed {r : Relays} {h : Handler} {answer : Bool} {own : ℕ} {reused : Bool}
    (hstage : h.stage = .pausing own reused 0) (hok : h.FindsOwn r answer)
    {pid : ℕ} (htells : Tells r (r.resume h answer).1 pid) : pid = own ∧ reused = false := by
  obtain ⟨kind, port, wanted, stage⟩ := h
  obtain rfl : stage = _ := hstage
  have hrec : r.Records kind port pid := by
    cases kind with
    | session => exact tells_stop htells
    | ggpo =>
      simp only [Relays.resume, Relays.giveUp] at htells
      split at htells
      · rename_i heq
        cases heq
      · exact absurd htells (not_tells_self r pid)
      · exact tells_stop htells
  obtain ⟨entry, hentry, rfl⟩ := hrec
  exact hok entry hentry

lemma not_stopFails_of_findsOwn {r : Relays} {h : Handler} {answer : Bool}
    (hok : h.FindsOwn r answer) : ¬ h.StopFails r := by
  obtain ⟨kind, port, wanted, stage⟩ := h
  intro hfails
  cases stage with
  | stopping reason pid wait =>
    cases wait with
    | exit =>
      have hexited : r.hasExited pid = true := hok
      exact absurd (hexited.symm.trans hfails) (by simp)
    | release left => exact hfails
    | pause left =>
      cases left with
      | zero => exact hok
      | succ left => exact hfails
  | settling | probing | pausing | health => exact hfails

/-- A list of actions that a new manager can carry out, and whose log passes a test. -/
lemma exists_managerRun_of_exec (acts : List ManagerAction)
    {p : List ManagerEntry → Manager → Prop} [∀ log m, Decidable (p log m)]
    (h : (LTS.exec Manager.next .new [] acts).any (fun r => decide (p r.1 r.2)) = true) :
    ∃ log m, managerLTS.Run log m ∧ p log m := by
  obtain ⟨log, m, hpath, hp⟩ := LTS.exists_path_of_exec acts h
  exact ⟨log, m, ⟨_, rfl, hpath⟩, hp⟩

/-- A token of 32 equal digits. -/
def digitToken (d : Fin 10) : Text := .replicate 32 (48 + UInt8.ofNat d)

/-- A GGPO relay is started, under the next process number, and answers at once. -/
def ManagerAction.startGgpo (id pid : ℕ) (token : Text) : List ManagerAction :=
  [.request id (.postGgpo (some 24456) (some 23456) token), .listen pid true,
    .resume id true, .resume id true]

end RelayManager
end Sf4e
