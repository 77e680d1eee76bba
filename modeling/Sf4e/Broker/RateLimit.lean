/-
# The rate limiter

`allowRate` keeps for each key the times of the calls that it has allowed, and drops the old ones
when it is called; a timer drops those that are older than five minutes, of every key.  What is
dropped can matter no more, for the clock does not go back and the windows are a minute long.

Two collections of buckets are the same from a time on (`SameFrom`) when no call at that time or
later can tell them apart.  The buckets of the code are so to the buckets from which nothing is
ever dropped, and to those of a limiter without the timer.
-/
import Sf4e.Broker.Http
import Sf4e.Trace.LTS

namespace Sf4e
namespace Broker

open Trace

/-! ## Runs -/

/-- What happens to the buckets. -/
inductive RateAction
  | call (key : String) (now : ℕ)
  /-- The timer. -/
  | cleanup (now : ℕ)
deriving DecidableEq

/-- The clock at an action. -/
def RateAction.now : RateAction → ℕ
  | .call _ now | .cleanup now => now

/-- The action is a call. -/
def RateAction.isCall : RateAction → Bool
  | .call _ _ => true
  | .cleanup _ => false

variable (limit windowMs : String → ℕ)

/-- One step: a call is allowed or not. -/
def rateNext (buckets : RateBuckets) : RateAction → Option (Option Bool × RateBuckets)
  | .call key now =>
    let r := allowRate buckets key (limit key) (windowMs key) now
    some (some r.1, r.2)
  | .cleanup now => some (none, cleanRates buckets now)

/-- The runs of a limiter, each key with its limit and its window. -/
def rateLTS : LTS RateBuckets RateAction (Option Bool) :=
  .ofFun (· = fun _ => []) (rateNext limit windowMs)

/-- A step of a limiter. -/
abbrev RateEntry := Entry RateBuckets RateAction (Option Bool)

/-- The time of a step that has allowed a call with the key. -/
def allowedTime (key : String) (e : RateEntry) : Option ℕ :=
  match e.act with
  | .call key' now => if key' = key ∧ e.out = some true then some now else none
  | .cleanup _ => none

/-- The times of the calls with the key that were allowed, the first one first. -/
def allowedTimes (key : String) (log : List RateEntry) : List ℕ :=
  (log.filterMap (allowedTime key)).reverse

/-- The times that are less than a window ago. -/
def recently (windowMs now : ℕ) (times : List ℕ) : List ℕ :=
  times.filter fun (ts : ℕ) => (now : ℤ) - ts < windowMs

/-- The limits of the broker: a key is a bucket's name and an address. -/
def brokerLimit (key : String) : ℕ :=
  match String.ofList (key.toList.takeWhile (· != ':')) with
  | "create" => 10
  | "resolve" | "nat" => 30
  | "register" => 20
  | "events" | "mutate" => 60
  | _ => 0

/-! ## Buckets that cannot be told apart -/

/-- From the time on, no call can tell the buckets apart. -/
def SameFrom (time : ℕ) (buckets buckets' : RateBuckets) : Prop :=
  ∀ key now, time ≤ now →
    recently (windowMs key) now (buckets key) = recently (windowMs key) now (buckets' key)

variable {limit windowMs} {buckets buckets' : RateBuckets} {time now : ℕ}

/-- What a smaller window at a later time keeps has been kept before. -/
lemma recently_filter {window later : ℕ} {horizon : ℤ} (hle : now ≤ later)
    (hwindow : window ≤ horizon) (times : List ℕ) :
    recently window later (times.filter fun (ts : ℕ) => (now : ℤ) - ts < horizon) =
      recently window later times := by
  rw [recently, recently, List.filter_filter]
  refine List.filter_congr fun ts _ => ?_
  rw [Bool.eq_iff_iff]
  simp only [Bool.and_eq_true, decide_eq_true_eq]
  omega

namespace SameFrom

lemma mono (h : SameFrom windowMs time buckets buckets') (hle : time ≤ now) :
    SameFrom windowMs now buckets buckets' :=
  fun key later hlater => h key later (hle.trans hlater)

/-- The timer makes no difference. -/
lemma cleanRates (h : SameFrom windowMs time buckets buckets') (hle : time ≤ now)
    (hwindow : ∀ key, windowMs key ≤ 300000) :
    SameFrom windowMs now (cleanRates buckets now) buckets' := by
  intro key later hlater
  have hkept : recently (windowMs key) later (Broker.cleanRates buckets now key) =
      recently (windowMs key) later (buckets key) :=
    recently_filter hlater (by have := hwindow key; omega) (buckets key)
  rw [hkept, h key later (hle.trans hlater)]

/-- The buckets after a call with a bucket that is put in, which a later call cannot tell from
another. -/
lemma update {key : String} {bucket bucket' : List ℕ}
    (h : SameFrom windowMs time buckets buckets') (hle : time ≤ now)
    (hbucket : ∀ later, now ≤ later →
      recently (windowMs key) later bucket = recently (windowMs key) later bucket') :
    SameFrom windowMs now (Function.update buckets key bucket)
      (Function.update buckets' key bucket') := by
  intro key' later hlater
  by_cases hkey : key' = key
  · subst hkey
    rw [Function.update_self, Function.update_self]
    exact hbucket later hlater
  · rw [Function.update_of_ne hkey, Function.update_of_ne hkey]
    exact h key' later (hle.trans hlater)

end SameFrom

/-- What a call decides. -/
lemma allowRate_fst (buckets : RateBuckets) (key : String) (limit window now : ℕ) :
    (allowRate buckets key limit window now).1 = true ↔
      (recently window now (buckets key)).length < limit := by
  unfold allowRate recently
  simp only
  split
  · simp_all
  · simp_all

/-- What a call leaves in its bucket, as later calls see it. -/
lemma recently_allowRate {key : String} {window later : ℕ} (limit : ℕ) (hle : now ≤ later) :
    recently window later ((allowRate buckets key limit window now).2 key) =
      recently window later (buckets key ++
        if (allowRate buckets key limit window now).1 then [now] else []) := by
  have hkept :
      recently window later ((buckets key).filter fun (ts : ℕ) => (now : ℤ) - ts < window) =
        recently window later (buckets key) := recently_filter hle le_rfl (buckets key)
  have happend : ∀ times times' : List ℕ, recently window later (times ++ times') =
      recently window later times ++ recently window later times' := fun times times' =>
    List.filter_append _ _
  unfold allowRate
  simp only
  split
  · simp only [Function.update_self, Bool.false_eq_true, if_false, List.append_nil]
    exact hkept
  · simp only [Function.update_self, if_true]
    rw [happend, happend, hkept]

/-- The other buckets stay. -/
lemma allowRate_of_ne {key key' : String} (limit window : ℕ) (hne : key' ≠ key) :
    (allowRate buckets key limit window now).2 key' = buckets key' := by
  unfold allowRate
  simp only
  split <;> exact Function.update_of_ne hne _ _

/-- **Step lemma.** A call is allowed or not, and the buckets stay the same from its time on. -/
lemma SameFrom.allowRate (h : SameFrom windowMs time buckets buckets') (hle : time ≤ now)
    (key : String) (limit : ℕ) :
    (allowRate buckets key limit (windowMs key) now).1 =
        (allowRate buckets' key limit (windowMs key) now).1 ∧
      SameFrom windowMs now (allowRate buckets key limit (windowMs key) now).2
        (allowRate buckets' key limit (windowMs key) now).2 := by
  have hdecision : (Broker.allowRate buckets key limit (windowMs key) now).1 =
      (Broker.allowRate buckets' key limit (windowMs key) now).1 := by
    rw [Bool.eq_iff_iff, allowRate_fst, allowRate_fst, h key now hle]
  refine ⟨hdecision, fun key' later hlater => ?_⟩
  by_cases hkey : key' = key
  · subst hkey
    have hsame := h key' later (hle.trans hlater)
    rw [recently_allowRate limit hlater, recently_allowRate limit hlater, hdecision]
    rw [recently, recently, List.filter_append, List.filter_append]
    rw [recently, recently] at hsame
    rw [hsame]
  · rw [allowRate_of_ne _ _ hkey, allowRate_of_ne _ _ hkey]
    exact h key' later (hle.trans hlater)

/-! ## The two other limiters -/

/-- The buckets from which nothing is ever dropped. -/
def unpruned (log : List RateEntry) : RateBuckets := fun key => allowedTimes key log

lemma unpruned_cons (e : RateEntry) (log : List RateEntry) (key : String) :
    unpruned (e :: log) key = unpruned log key ++ (allowedTime key e).toList := by
  unfold unpruned allowedTimes
  rw [List.filterMap_cons]
  cases allowedTime key e with
  | none => simp
  | some ts => simp

/-- The step of a call. -/
def callEntry (limit windowMs : String → ℕ) (pre : RateBuckets) (key : String) (now : ℕ) :
    RateEntry where
  pre := pre
  act := .call key now
  out := some (allowRate pre key (limit key) (windowMs key) now).1
  post := (allowRate pre key (limit key) (windowMs key) now).2

/-- The step of the timer. -/
def cleanupEntry (pre : RateBuckets) (now : ℕ) : RateEntry :=
  ⟨pre, .cleanup now, none, cleanRates pre now⟩

/-- A step is one or the other. -/
lemma rateEntry_cases {e : RateEntry} (h : (rateLTS limit windowMs).Steps e) :
    (∃ key now, e = callEntry limit windowMs e.pre key now) ∨
      ∃ now, e = cleanupEntry e.pre now := by
  obtain ⟨pre, a, out, post⟩ := e
  cases a with
  | call key now =>
    have hnext : rateNext limit windowMs pre (.call key now) = some (out, post) := h
    obtain ⟨rfl, rfl⟩ := Prod.mk.inj (Option.some.inj hnext)
    exact .inl ⟨key, now, rfl⟩
  | cleanup now =>
    have hnext : rateNext limit windowMs pre (.cleanup now) = some (out, post) := h
    obtain ⟨rfl, rfl⟩ := Prod.mk.inj (Option.some.inj hnext)
    exact .inr ⟨now, rfl⟩

lemma steps_callEntry (pre : RateBuckets) (key : String) (now : ℕ) :
    (rateLTS limit windowMs).Steps (callEntry limit windowMs pre key now) := rfl

/-- A call that is allowed is kept. -/
lemma allowedTime_callEntry (pre : RateBuckets) (key : String) (now : ℕ) :
    (allowedTime key (callEntry limit windowMs pre key now)).toList =
      if (allowRate pre key (limit key) (windowMs key) now).1 then [now] else [] := by
  simp only [allowedTime, callEntry, Option.some.injEq, true_and]
  split <;> rfl

lemma allowedTime_callEntry_of_ne {key key' : String} (pre : RateBuckets) (now : ℕ)
    (hne : key' ≠ key) : allowedTime key' (callEntry limit windowMs pre key now) = none := by
  simp [allowedTime, callEntry, hne.symm]

/-- A call, against the buckets that are kept for ever. -/
lemma SameFrom.call {log : List RateEntry} {pre : RateBuckets}
    (h : SameFrom windowMs (latest RateAction.now log) pre (unpruned log)) (key : String)
    (hle : latest RateAction.now log ≤ now) :
    SameFrom windowMs now (callEntry limit windowMs pre key now).post
      (unpruned (callEntry limit windowMs pre key now :: log)) := by
  intro key' later hlater
  rw [unpruned_cons]
  have hbefore := h key' later (hle.trans hlater)
  by_cases hkey : key' = key
  · subst hkey
    rw [allowedTime_callEntry]
    refine (recently_allowRate (limit key') hlater).trans ?_
    rw [recently, recently, List.filter_append, List.filter_append]
    rw [recently, recently] at hbefore
    rw [hbefore]
  · rw [allowedTime_callEntry_of_ne pre now hkey, Option.toList_none, List.append_nil]
    have hother : (callEntry limit windowMs pre key now).post key' = pre key' :=
      allowRate_of_ne _ _ hkey
    rw [hother]
    exact hbefore

/-- Nothing that the code drops can be told from what is kept for ever. -/
lemma sameFrom_unpruned {log : List RateEntry} {t : RateBuckets}
    (hwindow : ∀ key, windowMs key ≤ 300000) (h : (rateLTS limit windowMs).Run log t)
    (hchron : Chronological RateAction.now log) :
    SameFrom windowMs (latest RateAction.now log) t (unpruned log) := by
  refine h.invariant_of_step (fun log t => Chronological RateAction.now log →
    SameFrom windowMs (latest RateAction.now log) t (unpruned log)) ?_ ?_ hchron
  · rintro _ rfl - key now -
    rfl
  · intro log e ih hstep hchron
    have hsame := ih hchron.tail
    have hle := hchron.latest_le
    rcases rateEntry_cases hstep with ⟨key, now, heq⟩ | ⟨now, heq⟩
    · rw [heq] at hle ⊢
      exact hsame.call key hle
    · rw [heq] at hle ⊢
      intro key later hlater
      rw [unpruned_cons]
      have hclean := hsame.cleanRates hle hwindow key later hlater
      have hnone : (allowedTime key (cleanupEntry e.pre now)).toList = [] := rfl
      rw [hnone, List.append_nil]
      exact hclean

/-- What is seen of a step. -/
def RateEntry.seen (e : RateEntry) : RateAction × Option Bool := (e.act, e.out)

/-- A run without the timer that decides the same. -/
lemma exists_run_without_cleanup {log : List RateEntry} {t : RateBuckets}
    (hwindow : ∀ key, windowMs key ≤ 300000) (h : (rateLTS limit windowMs).Run log t)
    (hchron : Chronological RateAction.now log) :
    ∃ log' t', (rateLTS limit windowMs).Run log' t' ∧
      SameFrom windowMs (latest RateAction.now log) t t' ∧
      log'.map RateEntry.seen = (log.filter fun e => e.act.isCall).map RateEntry.seen := by
  refine h.invariant_of_step (fun log t => Chronological RateAction.now log →
    ∃ log' t', (rateLTS limit windowMs).Run log' t' ∧
      SameFrom windowMs (latest RateAction.now log) t t' ∧
      log'.map RateEntry.seen = (log.filter fun e => e.act.isCall).map RateEntry.seen) ?_ ?_ hchron
  · rintro _ rfl -
    exact ⟨[], _, ⟨_, rfl, .refl⟩, fun _ _ _ => rfl, rfl⟩
  · intro log e ih hstep hchron
    obtain ⟨log', t', hrun, hsame, hseen⟩ := ih hchron.tail
    have hle := hchron.latest_le
    rcases rateEntry_cases hstep with ⟨key, now, heq⟩ | ⟨now, heq⟩
    · rw [heq] at hle ⊢
      obtain ⟨hdecision, hafter⟩ := hsame.allowRate hle key (limit key)
      -- the same call, on the buckets of the other run
      have hcall : (rateLTS limit windowMs).Steps (callEntry limit windowMs t' key now) :=
        steps_callEntry t' key now
      have hrun' := hrun.snoc hcall
      refine ⟨_, _, hrun', hafter, ?_⟩
      rw [List.map_cons, hseen, List.filter_cons_of_pos rfl, List.map_cons]
      congr 1
      exact Prod.ext rfl (congrArg some hdecision.symm)
    · rw [heq] at hle ⊢
      refine ⟨log', t', hrun, hsame.cleanRates hle hwindow, ?_⟩
      rw [List.filter_cons_of_neg (by simp [RateAction.isCall, cleanupEntry])]
      exact hseen

/-! ## The property -/

/-- **Sliding windows.** Along every run of a limiter whose clock does not go back, a call is
allowed exactly when fewer than its limit of the earlier calls with its key that were allowed are
less than a window ago; and without the timer the calls would have been decided alike. -/
theorem allowRate_iff_window {log : List RateEntry} {t : RateBuckets}
    (hwindow : ∀ key, windowMs key ≤ 300000) (h : (rateLTS limit windowMs).Run log t)
    (hchron : Chronological RateAction.now log) :
    (∀ newer e older key now, log = newer ++ e :: older → e.act = .call key now →
      (e.out = some true ↔
        (recently (windowMs key) now (allowedTimes key older)).length < limit key)) ∧
    ∃ log' t', (rateLTS limit windowMs).Run log' t' ∧
      log'.map RateEntry.seen = (log.filter fun e => e.act.isCall).map RateEntry.seen := by
  constructor
  · rintro newer e older key now rfl hact
    have hchron' : Chronological RateAction.now (e :: older) := hchron.at_entry
    obtain ⟨hrun, hstep, -⟩ := h.at_entry
    have hsame := sameFrom_unpruned hwindow hrun hchron'.tail
    have hle := hchron'.latest_le
    rcases rateEntry_cases hstep with ⟨key', now', heq⟩ | ⟨now', heq⟩
    · rw [heq] at hact hle ⊢
      obtain ⟨rfl, rfl⟩ := RateAction.call.inj hact
      have hdecided : (callEntry limit windowMs e.pre key' now').out =
          some (allowRate e.pre key' (limit key') (windowMs key') now').1 := rfl
      rw [hdecided, Option.some.injEq, allowRate_fst, hsame key' now' hle]
      rfl
    · rw [heq] at hact
      cases hact
  · obtain ⟨log', t', hrun, -, hseen⟩ := exists_run_without_cleanup hwindow h hchron
    exact ⟨log', t', hrun, hseen⟩

lemma exists_rateRun_of_exec (acts : List RateAction)
    {p : List RateEntry → RateBuckets → Prop} [∀ log t, Decidable (p log t)]
    (h : (LTS.exec (rateNext limit windowMs) (fun _ => []) [] acts).any
      (fun r => decide (p r.1 r.2)) = true) :
    ∃ log t, (rateLTS limit windowMs).Run log t ∧ p log t := by
  obtain ⟨log, t, hpath, hp⟩ := LTS.exists_path_of_exec acts h
  exact ⟨log, t, ⟨_, rfl, hpath⟩, hp⟩

/-- The limits and the windows of the broker: the eleventh creation in a minute is refused, and one
after the minute, and after the timer, is allowed. -/
theorem allowRate_iff_window_create :
    ∃ log t, (rateLTS brokerLimit fun _ => 60000).Run log t ∧
      (log.map fun e => e.out).take 3 = [some true, none, some false] ∧
      (∀ newer e older key now, log = newer ++ e :: older → e.act = .call key now →
        (e.out = some true ↔
          (recently 60000 now (allowedTimes key older)).length < brokerLimit key)) ∧
      ∃ log' t', (rateLTS brokerLimit fun _ => 60000).Run log' t' ∧
        log'.map RateEntry.seen = (log.filter fun e => e.act.isCall).map RateEntry.seen := by
  obtain ⟨log, t, hrun, hchron, hout⟩ :
      ∃ log t, (rateLTS brokerLimit fun _ => 60000).Run log t ∧ Chronological RateAction.now log ∧
        (log.map fun e => e.out).take 3 = [some true, none, some false] :=
    exists_rateRun_of_exec
      (List.replicate 10 (.call "create:192.0.2.1" 0) ++
        [.call "create:192.0.2.1" 59999, .cleanup 60000, .call "create:192.0.2.1" 60001])
      (by decide +kernel)
  exact ⟨log, t, hrun, hout, allowRate_iff_window (fun _ => by decide) hrun hchron⟩

end Broker
end Sf4e
