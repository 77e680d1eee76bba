/-
# Logins to the dashboard

`POST /login` of the dashboard looks up how many logins of an address have failed, waits for the
comparison of the password, and only then counts a failure.  Between the look and the count any
number of other requests may have their look, so that an address can have more comparisons than
the limit (`Crowded`).

A lockout window is here what the history says: it begins with a failure outside of any window,
ends after `LOGIN_RATE_WINDOW_MS` or with a success, and has the comparisons that are made in it.
-/
import Mathlib.Data.Nat.Basic
import Mathlib.Order.Basic
import Sf4e.Broker.Value
import Sf4e.Trace.Jobs

namespace Sf4e
namespace Dashboard

open Broker Trace

/-! ## The code -/

/-- `LOGIN_RATE_LIMIT`. -/
def LOGIN_RATE_LIMIT : ℕ := 5

/-- `LOGIN_RATE_WINDOW_MS`. -/
def LOGIN_RATE_WINDOW_MS : ℕ := 15 * 60 * 1000

/-- The settings that the handler reads. -/
structure LoginSettings where
  /-- `TRUST_PROXY`. -/
  trustProxy : Bool
  /-- `ADMIN_USERNAME`. -/
  adminUsername : String

/-- A login request. -/
structure LoginRequest where
  /-- `req.ip`. -/
  ip : Option String := none
  /-- The `x-forwarded-for` header, if there is one. -/
  forwardedFor : Option String := none
  /-- `req.socket.remoteAddress`. -/
  remoteAddress : Option String := none
  /-- `req.body`, unless it is not parsed. -/
  body : Option Value

/-- An entry of `loginAttempts`. -/
structure LoginAttempts where
  count : ℕ
  resetAt : ℕ

/-- The failures of the addresses, and the comparisons that are under way, each with the address
of its request. -/
structure Logins where
  loginAttempts : String → Option LoginAttempts := fun _ => none
  jobs : Jobs String := {}

/-- A text that is there and not empty. -/
def present (text : Option String) : Option String := text.filter (· ≠ "")

/-- `clientIp`. -/
def clientIp (s : LoginSettings) (req : LoginRequest) : String :=
  match if s.trustProxy then present req.ip else none with
  | some ip => ip
  | none =>
    match req.forwardedFor.filter (trim · ≠ "") with
    | some forwarded => trim (.ofList (forwarded.toList.takeWhile (· != ',')))
    | none => (present req.remoteAddress).getD "unknown"

/-- `isLoginRateLimited`. -/
def isLoginRateLimited (t : Logins) (ip : String) (now : ℕ) : Bool :=
  match t.loginAttempts ip with
  | none => false
  | some entry => if entry.resetAt < now then false else decide (LOGIN_RATE_LIMIT ≤ entry.count)

/-- The entry after a failure. -/
def failed (entry : Option LoginAttempts) (now : ℕ) : LoginAttempts :=
  match entry with
  | none => ⟨1, now + LOGIN_RATE_WINDOW_MS⟩
  | some entry =>
    if entry.resetAt < now then ⟨1, now + LOGIN_RATE_WINDOW_MS⟩
    else { entry with count := entry.count + 1 }

/-- `recordLoginFailure`. -/
def recordLoginFailure (t : Logins) (ip : String) (now : ℕ) : Logins :=
  { t with
    loginAttempts :=
      Function.update t.loginAttempts ip (some (failed (t.loginAttempts ip) now)) }

/-- `clearLoginFailures`. -/
def clearLoginFailures (t : Logins) (ip : String) : Logins :=
  { t with loginAttempts := Function.update t.loginAttempts ip none }

/-- The timer. -/
def sweep (t : Logins) (now : ℕ) : Logins :=
  { t with loginAttempts := fun ip => (t.loginAttempts ip).filter fun entry => now ≤ entry.resetAt }

/-- The user's name in a body; `none` when the handler throws before it has compared it. -/
def username (body : Option Value) : Option String :=
  match body with
  | none => none
  | some body =>
    if body.isNull then none
    else
      match Value.textOrEmpty (body.get "username"), Value.textOrEmpty (body.get "password") with
      | some name, some _ => some (trim name)
      | _, _ => none

/-! ## Runs -/

/-- What happens to the logins. -/
inductive LoginAction
  | request (req : LoginRequest) (now : ℕ)
  /-- A comparison is through. -/
  | compared (id : ℕ) (ok : Bool) (now : ℕ)
  /-- The timer. -/
  | sweep (now : ℕ)

/-- The clock at an action. -/
def LoginAction.now : LoginAction → ℕ
  | .request _ now | .compared _ _ now | .sweep now => now

/-- What a step puts out. -/
inductive LoginOut
  | limited
  /-- There is no such user. -/
  | unknownUser (ip : String)
  | thrown
  /-- `bcrypt.compare` is called. -/
  | compares (ip : String)
  /-- `bcrypt.compare` is through. -/
  | compared (ip : String) (ok : Bool)
  | swept
deriving DecidableEq

variable (s : LoginSettings)

/-- The handler up to its await. -/
def login (t : Logins) (req : LoginRequest) (now : ℕ) : LoginOut × Logins :=
  let t' := { t with jobs := t.jobs.draw }
  if isLoginRateLimited t (clientIp s req) now then (.limited, t')
  else
    match username req.body with
    | none => (.thrown, t')
    | some name =>
      if name = s.adminUsername then
        (.compares (clientIp s req),
          { t with
            jobs := t.jobs.draw.settle t.jobs.count (.inl (clientIp s req) : String ⊕ Unit) })
      else (.unknownUser (clientIp s req), recordLoginFailure t' (clientIp s req) now)

/-- The handler from its await on. -/
def finish (t : Logins) (id : ℕ) (ip : String) (ok : Bool) (now : ℕ) : LoginOut × Logins :=
  let t' := { t with jobs := t.jobs.settle id (.inr () : String ⊕ Unit) }
  (.compared ip ok, if ok then clearLoginFailures t' ip else recordLoginFailure t' ip now)

/-- One step. -/
def loginNext (t : Logins) : LoginAction → Option (LoginOut × Logins)
  | .request req now => some (login s t req now)
  | .compared id ok now => (t.jobs.at? id).map fun ip => finish t id ip ok now
  | .sweep now => some (.swept, sweep t now)

/-- The runs of the dashboard, as far as logins go. -/
def loginLTS : LTS Logins LoginAction LoginOut := .ofFun (· = {}) (loginNext s)

/-- A step of the dashboard. -/
abbrev LoginEntry := Entry Logins LoginAction LoginOut

/-! ## Lockout windows -/

/-- A lockout window: when it is over, and the comparisons that were made in it. -/
structure Lockout where
  ends : ℕ
  made : ℕ

/-- The window after a failure, with the comparisons that it has taken. -/
def Lockout.fail (w : Option Lockout) (now comparisons : ℕ) : Lockout :=
  match w with
  | none => ⟨now + LOGIN_RATE_WINDOW_MS, comparisons⟩
  | some w =>
    if w.ends < now then ⟨now + LOGIN_RATE_WINDOW_MS, comparisons⟩
    else { w with made := w.made + comparisons }

/-- The latest window of an address, unless a success has ended it. -/
def lockout (ip : String) : List LoginEntry → Option Lockout
  | [] => none
  | e :: log =>
    match e.out with
    | .unknownUser ip' =>
      if ip' = ip then some (.fail (lockout ip log) e.act.now 0) else lockout ip log
    | .compared ip' ok =>
      if ip' = ip then if ok then none else some (.fail (lockout ip log) e.act.now 1)
      else lockout ip log
    | .limited | .thrown | .compares _ | .swept => lockout ip log

/-- The comparisons that were made in the window that a time is in. -/
def made (w : Option Lockout) (now : ℕ) : ℕ :=
  match w with
  | none => 0
  | some w => if w.ends < now then 0 else w.made

/-- No lockout window of an address has more comparisons than the limit, the one that ends it with
a success included. -/
def Throttled (log : List LoginEntry) : Prop :=
  ∀ newer e older ip ok, log = newer ++ e :: older → e.out = .compared ip ok →
    made (lockout ip older) e.act.now + 1 ≤ LOGIN_RATE_LIMIT

/-- The comparisons of an address that are under way. -/
def inFlight (t : Logins) (ip : String) : ℕ := t.jobs.work.countP fun j => j.2 = ip

/-- A request whose password is going to be compared while others of its address are: with those
already made in the window they reach the limit. -/
def Crowded (older : List LoginEntry) (e : LoginEntry) : Prop :=
  ∃ req now, e.act = .request req now ∧ isLoginRateLimited e.pre (clientIp s req) now = false ∧
    username req.body = some s.adminUsername ∧ 0 < inFlight e.pre (clientIp s req) ∧
    LOGIN_RATE_LIMIT ≤ made (lockout (clientIp s req) older) now + inFlight e.pre (clientIp s req)

/-! ## Steps -/

variable {s}

/-- What a step can be. -/
inductive LoginStep (s : LoginSettings) : LoginEntry → Prop
  /-- The request is refused, or its handler throws. -/
  | idle {pre : Logins} {req : LoginRequest} {now : ℕ} {out : LoginOut}
      (hout : out = .limited ∨ out = .thrown) :
      LoginStep s ⟨pre, .request req now, out, { pre with jobs := pre.jobs.draw }⟩
  | unknownUser {pre : Logins} {req : LoginRequest} {now : ℕ} :
      LoginStep s ⟨pre, .request req now, .unknownUser (clientIp s req),
        recordLoginFailure { pre with jobs := pre.jobs.draw } (clientIp s req) now⟩
  | compares {pre : Logins} {req : LoginRequest} {now : ℕ}
      (hlimit : isLoginRateLimited pre (clientIp s req) now = false)
      (huser : username req.body = some s.adminUsername) :
      LoginStep s ⟨pre, .request req now, .compares (clientIp s req),
        { pre with
          jobs := pre.jobs.draw.settle pre.jobs.count (.inl (clientIp s req) : String ⊕ Unit) }⟩
  | right {pre : Logins} {id now : ℕ} {ip : String} (hat : pre.jobs.at? id = some ip) :
      LoginStep s ⟨pre, .compared id true now, .compared ip true,
        clearLoginFailures { pre with jobs := pre.jobs.settle id (.inr () : String ⊕ Unit) } ip⟩
  | wrong {pre : Logins} {id now : ℕ} {ip : String} (hat : pre.jobs.at? id = some ip) :
      LoginStep s ⟨pre, .compared id false now, .compared ip false,
        recordLoginFailure { pre with jobs := pre.jobs.settle id (.inr () : String ⊕ Unit) } ip now⟩
  | sweep {pre : Logins} {now : ℕ} : LoginStep s ⟨pre, .sweep now, .swept, sweep pre now⟩

lemma loginStep_of_steps {e : LoginEntry} (h : (loginLTS s).Steps e) : LoginStep s e := by
  obtain ⟨pre, a, out, post⟩ := e
  have hnext : loginNext s pre a = some (out, post) := h
  cases a with
  | request req now =>
    simp only [loginNext, login] at hnext
    split at hnext
    · obtain ⟨rfl, rfl⟩ := Prod.mk.inj (Option.some.inj hnext)
      exact .idle (.inl rfl)
    · rename_i hlimit
      split at hnext
      · obtain ⟨rfl, rfl⟩ := Prod.mk.inj (Option.some.inj hnext)
        exact .idle (.inr rfl)
      · rename_i name hname
        split at hnext
        · rename_i huser
          obtain ⟨rfl, rfl⟩ := Prod.mk.inj (Option.some.inj hnext)
          exact .compares (by simpa using hlimit) (huser ▸ hname)
        · obtain ⟨rfl, rfl⟩ := Prod.mk.inj (Option.some.inj hnext)
          exact .unknownUser
  | compared id ok now =>
    obtain ⟨ip, hat, hfinish⟩ := Option.map_eq_some_iff.1 hnext
    cases ok with
    | true =>
      obtain ⟨rfl, rfl⟩ := Prod.mk.inj hfinish
      exact .right hat
    | false =>
      obtain ⟨rfl, rfl⟩ := Prod.mk.inj hfinish
      exact .wrong hat
  | sweep now =>
    obtain ⟨rfl, rfl⟩ := Prod.mk.inj (Option.some.inj hnext)
    exact .sweep

/-! ### Comparisons under way -/

/-- A comparison begins. -/
lemma inFlight_begins {t : Logins} (h : t.jobs.Numbered) (ip ip' : String) :
    inFlight { t with jobs := t.jobs.draw.settle t.jobs.count (.inl ip : String ⊕ Unit) } ip' =
      inFlight t ip' + if ip = ip' then 1 else 0 := by
  have hwork : (t.jobs.draw.settle t.jobs.count (.inl ip : String ⊕ Unit)).work =
      (t.jobs.count, ip) :: t.jobs.work := congrArg _ h.others_count
  rw [inFlight, hwork, List.countP_cons]
  simp [inFlight]

/-- A comparison is through, and its address has an entry or none. -/
lemma inFlight_ends {t : Logins} (h : t.jobs.Numbered) {id : ℕ} {ip : String}
    (hat : t.jobs.at? id = some ip) (attempts : String → Option LoginAttempts) (ip' : String) :
    inFlight ⟨attempts, t.jobs.settle id (.inr () : String ⊕ Unit)⟩ ip' +
      (if ip = ip' then 1 else 0) = inFlight t ip' := by
  rw [inFlight, inFlight, (h.perm hat).countP_eq, List.countP_cons]
  simp [Jobs.settle]

/-! ### Windows -/

/-- The entry of an address and its window agree from a time on. -/
structure Linked (time : ℕ) (entry : Option LoginAttempts) (w : Option Lockout) : Prop where
  entry_of : ∀ w', w = some w' → time ≤ w'.ends →
    ∃ entry', entry = some entry' ∧ entry'.resetAt = w'.ends ∧ w'.made ≤ entry'.count
  window_of : ∀ entry', entry = some entry' → time ≤ entry'.resetAt →
    ∃ w', w = some w' ∧ w'.ends = entry'.resetAt

namespace Linked

variable {time now : ℕ} {entry : Option LoginAttempts} {w : Option Lockout}

lemma none (time : ℕ) : Linked time none none := ⟨by simp, by simp⟩

lemma mono (h : Linked time entry w) (hle : time ≤ now) : Linked now entry w :=
  ⟨fun w' hw hends => h.entry_of w' hw (hle.trans hends),
    fun entry' hentry hends => h.window_of entry' hentry (hle.trans hends)⟩

/-- A failure is counted, whether a password has been compared or not. -/
lemma fail (h : Linked time entry w) (hle : time ≤ now) {comparisons : ℕ}
    (hone : comparisons ≤ 1) :
    Linked now (some (failed entry now)) (some (.fail w now comparisons)) := by
  by_cases hlive : ∃ w', w = some w' ∧ now ≤ w'.ends
  · obtain ⟨w', rfl, hends⟩ := hlive
    obtain ⟨entry', rfl, hreset, hmade⟩ := h.entry_of w' rfl (hle.trans hends)
    have hw : Lockout.fail (some w') now comparisons =
        { w' with made := w'.made + comparisons } := if_neg (not_lt.2 hends)
    have hentry : failed (some entry') now = { entry' with count := entry'.count + 1 } :=
      if_neg (not_lt.2 (hreset ▸ hends))
    rw [hw, hentry]
    refine ⟨fun w'' hw'' _ => ?_, fun entry'' hentry'' _ => ?_⟩
    · obtain rfl := Option.some.inj hw''
      exact ⟨_, rfl, hreset, Nat.add_le_add hmade hone⟩
    · obtain rfl := Option.some.inj hentry''
      exact ⟨_, rfl, hreset.symm⟩
  · have hw : Lockout.fail w now comparisons = ⟨now + LOGIN_RATE_WINDOW_MS, comparisons⟩ := by
      cases w with
      | none => rfl
      | some w' => exact if_pos (not_le.1 fun hends => hlive ⟨w', rfl, hends⟩)
    have hentry : failed entry now = ⟨1, now + LOGIN_RATE_WINDOW_MS⟩ := by
      cases entry with
      | none => rfl
      | some entry' =>
        refine if_pos (not_le.1 fun hreset => hlive ?_)
        obtain ⟨w', rfl, hends⟩ := h.window_of entry' rfl (hle.trans hreset)
        exact ⟨w', rfl, hends ▸ hreset⟩
    rw [hw, hentry]
    refine ⟨fun w'' hw'' _ => ?_, fun entry'' hentry'' _ => ?_⟩
    · obtain rfl := Option.some.inj hw''
      exact ⟨_, rfl, rfl, hone⟩
    · obtain rfl := Option.some.inj hentry''
      exact ⟨_, rfl, rfl⟩

/-- The timer forgets an entry that counts no more. -/
lemma sweep (h : Linked time entry w) (hle : time ≤ now) :
    Linked now (entry.filter fun entry => now ≤ entry.resetAt) w := by
  refine ⟨fun w' hw hends => ?_, fun entry' hentry hreset => ?_⟩
  · obtain ⟨entry', rfl, hreset, hmade⟩ := h.entry_of w' hw (hle.trans hends)
    refine ⟨entry', ?_, hreset, hmade⟩
    rw [Option.filter_some, if_pos (by simpa [hreset] using hends)]
  · obtain ⟨hentry', -⟩ := Option.filter_eq_some_iff.1 hentry
    exact h.window_of entry' hentry' (hle.trans hreset)

/-- An address that may try has made fewer comparisons than the limit. -/
lemma made_lt {t : Logins} {ip : String} (h : Linked time (t.loginAttempts ip) w)
    (hle : time ≤ now) (hlimit : isLoginRateLimited t ip now = false) :
    made w now < LOGIN_RATE_LIMIT := by
  cases w with
  | none => exact Nat.succ_pos _
  | some w' =>
    simp only [made]
    split
    · exact Nat.succ_pos _
    · rename_i hends
      obtain ⟨entry', hentry, hreset, hmade⟩ := h.entry_of w' rfl (hle.trans (not_lt.1 hends))
      simp only [isLoginRateLimited, hentry, hreset, if_neg hends, decide_eq_false_iff_not,
        not_le] at hlimit
      omega

end Linked

lemma made_le_of_le {w : Option Lockout} {now later : ℕ} (hle : now ≤ later) :
    made w later ≤ made w now := by
  cases w with
  | none => exact le_rfl
  | some w' =>
    simp only [made]
    split
    · exact Nat.zero_le _
    · rw [if_neg (by omega)]

lemma made_le (w : Lockout) (now : ℕ) : made (some w) now ≤ w.made := by
  simp only [made]
  split
  · exact Nat.zero_le _
  · exact Nat.le_refl _

/-- What a failure adds to the comparisons of a window. -/
lemma made_fail (w : Option Lockout) (now later comparisons : ℕ) :
    made (some (.fail w now comparisons)) later ≤ made w now + comparisons := by
  refine (made_le _ later).trans ?_
  cases w with
  | none => exact Nat.le_add_left _ _
  | some w' =>
    simp only [Lockout.fail, made]
    split
    · exact Nat.le_add_left _ _
    · exact Nat.le_refl _

/-! ## Runs that are not crowded -/

/-- **Invariant.** The numbers of the comparisons are in order, each entry agrees with the window
of its address, and with the comparisons that are under way no window has too many. -/
structure LoginInv (log : List LoginEntry) (t : Logins) : Prop where
  numbered : t.jobs.Numbered
  linked : ∀ ip, Linked (latest LoginAction.now log) (t.loginAttempts ip) (lockout ip log)
  bounded : ∀ ip now, latest LoginAction.now log ≤ now →
    made (lockout ip log) now + inFlight t ip ≤ LOGIN_RATE_LIMIT

namespace LoginInv

variable {log : List LoginEntry} {pre : Logins} {ip : String} {id now : ℕ}

lemma empty : LoginInv [] {} where
  numbered := Jobs.numbered_empty
  linked _ := .none 0
  bounded _ _ _ := Nat.zero_le _

/-- An entry and a window of one address are replaced. -/
lemma linked_update (h : LoginInv log pre) (hle : latest LoginAction.now log ≤ now)
    {entry : Option LoginAttempts} {w : Option Lockout} (hlinked : Linked now entry w)
    (ip ip' : String) : Linked now (Function.update pre.loginAttempts ip entry ip')
      (if ip = ip' then w else lockout ip' log) := by
  by_cases hip : ip = ip'
  · subst hip
    rwa [Function.update_self, if_pos rfl]
  · rw [Function.update_of_ne (Ne.symm hip), if_neg hip]
    exact (h.linked ip').mono hle

lemma lockout_wrong (ip ip' : String) (e : LoginEntry) (hout : e.out = .compared ip false) :
    lockout ip' (e :: log) =
      if ip = ip' then some (.fail (lockout ip log) e.act.now 1) else lockout ip' log := by
  rw [lockout, hout]
  simp only [Bool.false_eq_true, if_false]
  split
  · rename_i hip
    rw [hip]
  · rfl

lemma lockout_unknownUser (ip ip' : String) (e : LoginEntry) (hout : e.out = .unknownUser ip) :
    lockout ip' (e :: log) =
      if ip = ip' then some (.fail (lockout ip log) e.act.now 0) else lockout ip' log := by
  rw [lockout, hout]
  simp only
  split
  · rename_i hip
    rw [hip]
  · rfl

lemma lockout_right (ip ip' : String) (e : LoginEntry) (hout : e.out = .compared ip true) :
    lockout ip' (e :: log) = if ip = ip' then none else lockout ip' log := by
  rw [lockout, hout]
  rfl

/-- The windows stay. -/
lemma of_same {post : Logins} {e : LoginEntry} (hnumbered : post.jobs.Numbered)
    (hlockout : ∀ ip, lockout ip (e :: log) = lockout ip log)
    (hlinked : ∀ ip, Linked e.act.now (post.loginAttempts ip) (lockout ip log))
    (hbounded : ∀ ip, made (lockout ip log) e.act.now + inFlight post ip ≤ LOGIN_RATE_LIMIT) :
    LoginInv (e :: log) post where
  numbered := hnumbered
  linked ip := by
    rw [hlockout]
    exact hlinked ip
  bounded ip now hnow := by
    rw [hlockout]
    have hmade : made (lockout ip log) now ≤ made (lockout ip log) e.act.now :=
      made_le_of_le hnow
    have := hbounded ip
    omega

lemma compares {req : LoginRequest} (h : LoginInv log pre)
    (hle : latest LoginAction.now log ≤ now)
    (hlimit : isLoginRateLimited pre (clientIp s req) now = false)
    (huser : username req.body = some s.adminUsername) {post : Logins}
    (hok : ¬ Crowded s log ⟨pre, .request req now, .compares (clientIp s req), post⟩)
    (ip : String) :
    made (lockout ip log) now + inFlight { pre with
      jobs := pre.jobs.draw.settle pre.jobs.count (.inl (clientIp s req) : String ⊕ Unit) } ip ≤
      LOGIN_RATE_LIMIT := by
  have hbounded := h.bounded ip now hle
  rw [inFlight_begins h.numbered]
  split
  · rename_i hip
    subst hip
    have hlt := (h.linked (clientIp s req)).made_lt hle hlimit
    by_contra hnot
    have hpos : 0 < inFlight pre (clientIp s req) := by omega
    have hfull : LOGIN_RATE_LIMIT ≤ made (lockout (clientIp s req) log) now +
        inFlight pre (clientIp s req) := by omega
    exact hok ⟨req, now, rfl, hlimit, huser, hpos, hfull⟩
  · exact hbounded

lemma unknownUser {req : LoginRequest} (h : LoginInv log pre)
    (hle : latest LoginAction.now log ≤ now) :
    LoginInv (⟨pre, .request req now, .unknownUser (clientIp s req),
        recordLoginFailure { pre with jobs := pre.jobs.draw } (clientIp s req) now⟩ :: log)
      (recordLoginFailure { pre with jobs := pre.jobs.draw } (clientIp s req) now) := by
  refine ⟨h.numbered.draw, fun ip => ?_, fun ip later hlater => ?_⟩
  · rw [lockout_unknownUser (clientIp s req) ip _ rfl]
    exact h.linked_update hle ((h.linked _).fail hle (Nat.zero_le _)) _ ip
  · rw [lockout_unknownUser (clientIp s req) ip _ rfl]
    split
    · rename_i hip
      subst hip
      have hmade := made_fail (lockout (clientIp s req) log) now later 0
      exact (Nat.add_le_add_right hmade _).trans (h.bounded (clientIp s req) now hle)
    · exact h.bounded ip later (hle.trans hlater)

lemma right (h : LoginInv log pre) (hle : latest LoginAction.now log ≤ now)
    (hat : pre.jobs.at? id = some ip) :
    LoginInv (⟨pre, .compared id true now, .compared ip true,
        clearLoginFailures
          { pre with jobs := pre.jobs.settle id (.inr () : String ⊕ Unit) } ip⟩ :: log)
      (clearLoginFailures
        { pre with jobs := pre.jobs.settle id (.inr () : String ⊕ Unit) } ip) := by
  have hnumbered : (pre.jobs.settle id (.inr () : String ⊕ Unit)).Numbered :=
    h.numbered.settle (h.numbered.lt_of_at? hat) _
  refine ⟨hnumbered, fun ip' => ?_, fun ip' later hlater => ?_⟩
  · rw [lockout_right ip ip' _ rfl]
    exact h.linked_update hle (.none now) ip ip'
  · have hends := inFlight_ends h.numbered hat (Function.update pre.loginAttempts ip none) ip'
    have hbounded := h.bounded ip' later (hle.trans hlater)
    rw [lockout_right ip ip' _ rfl]
    simp only [clearLoginFailures]
    split
    · rw [made]
      omega
    · omega

lemma wrong (h : LoginInv log pre) (hle : latest LoginAction.now log ≤ now)
    (hat : pre.jobs.at? id = some ip) :
    LoginInv (⟨pre, .compared id false now, .compared ip false, recordLoginFailure
        { pre with jobs := pre.jobs.settle id (.inr () : String ⊕ Unit) } ip now⟩ :: log)
      (recordLoginFailure
        { pre with jobs := pre.jobs.settle id (.inr () : String ⊕ Unit) } ip now) := by
  have hnumbered : (pre.jobs.settle id (.inr () : String ⊕ Unit)).Numbered :=
    h.numbered.settle (h.numbered.lt_of_at? hat) _
  refine ⟨hnumbered, fun ip' => ?_, fun ip' later hlater => ?_⟩
  · rw [lockout_wrong ip ip' _ rfl]
    exact h.linked_update hle ((h.linked ip).fail hle le_rfl) ip ip'
  · have hends := inFlight_ends h.numbered hat
      (Function.update pre.loginAttempts ip (some (failed (pre.loginAttempts ip) now))) ip'
    rw [lockout_wrong ip ip' _ rfl]
    simp only [recordLoginFailure]
    split
    · rename_i hip
      subst hip
      -- the comparison is under way no more, and it is counted instead
      have hmade := made_fail (lockout ip log) now later 1
      have hbounded := h.bounded ip now hle
      rw [if_pos rfl] at hends
      simp only [LoginAction.now]
      omega
    · have hbounded := h.bounded ip' later (hle.trans hlater)
      omega

/-- **Step lemma.** -/
lemma step {e : LoginEntry} (h : LoginInv log e.pre) (hstep : LoginStep s e)
    (hle : latest LoginAction.now log ≤ e.act.now) (hok : ¬ Crowded s log e) :
    LoginInv (e :: log) e.post := by
  cases hstep with
  | idle hout =>
    refine of_same h.numbered.draw (fun ip => ?_) (fun ip => (h.linked ip).mono hle)
      fun ip => h.bounded ip _ hle
    rcases hout with rfl | rfl <;> rfl
  | unknownUser => exact h.unknownUser hle
  | @compares pre req now hlimit huser =>
    have hnumbered : (pre.jobs.draw.settle pre.jobs.count
        (.inl (clientIp s req) : String ⊕ Unit)).Numbered :=
      h.numbered.draw.settle (Nat.lt_succ_self _) _
    exact of_same hnumbered (fun ip => rfl) (fun ip => (h.linked ip).mono hle) fun ip =>
      h.compares hle hlimit huser hok ip
  | right hat => exact h.right hle hat
  | wrong hat => exact h.wrong hle hat
  | sweep =>
    exact of_same h.numbered (fun ip => rfl) (fun ip => (h.linked ip).sweep hle)
      fun ip => h.bounded ip _ hle

/-- A comparison that is under way is counted. -/
lemma one_le_inFlight (h : LoginInv log pre) (hat : pre.jobs.at? id = some ip) :
    1 ≤ inFlight pre ip := by
  have hends := inFlight_ends h.numbered hat pre.loginAttempts ip
  rw [if_pos rfl] at hends
  omega

/-- A comparison that is through was one of those that are counted. -/
lemma made_succ_le {e : LoginEntry} {ok : Bool} (h : LoginInv log e.pre)
    (hstep : LoginStep s e) (hle : latest LoginAction.now log ≤ e.act.now)
    (hout : e.out = .compared ip ok) :
    made (lockout ip log) e.act.now + 1 ≤ LOGIN_RATE_LIMIT := by
  have hbounded := h.bounded ip _ hle
  cases hstep with
  | idle hidle => rcases hidle with rfl | rfl <;> cases hout
  | unknownUser => cases hout
  | compares => cases hout
  | right hat =>
    obtain ⟨rfl, -⟩ := LoginOut.compared.inj hout
    exact (Nat.add_le_add_left (h.one_le_inFlight hat) _).trans hbounded
  | wrong hat =>
    obtain ⟨rfl, -⟩ := LoginOut.compared.inj hout
    exact (Nat.add_le_add_left (h.one_le_inFlight hat) _).trans hbounded
  | sweep => cases hout

end LoginInv

/-- No step of the run is crowded. -/
def Uncrowded (s : LoginSettings) (log : List LoginEntry) : Prop :=
  ∀ newer e older, log = newer ++ e :: older → ¬ Crowded s older e

lemma loginInv_of_run {log : List LoginEntry} {t : Logins} (h : (loginLTS s).Run log t)
    (hchron : Chronological LoginAction.now log) (hok : Uncrowded s log) : LoginInv log t := by
  refine h.invariant_of_step (fun log t => Chronological LoginAction.now log → Uncrowded s log →
    LoginInv log t) ?_ ?_ hchron hok
  · rintro _ rfl - -
    exact .empty
  · intro log e ih hstep hchron hok
    have hinv := ih hchron.tail fun newer e' older heq =>
      hok (e :: newer) e' older (by rw [heq, List.cons_append])
    exact hinv.step (loginStep_of_steps hstep) hchron.latest_le (hok [] e log rfl)

/-- **Logins one after the other.** In a run that is not crowded no lockout window has more
comparisons than the limit. -/
lemma throttled_of_uncrowded {log : List LoginEntry} {t : Logins} (h : (loginLTS s).Run log t)
    (hchron : Chronological LoginAction.now log) (hok : Uncrowded s log) : Throttled log := by
  rintro newer e older ip ok rfl hout
  obtain ⟨hrun, hstep, -⟩ := h.at_entry
  have hchron' := hchron.at_entry
  have hinv := loginInv_of_run hrun hchron'.tail fun newer' e' older' heq =>
    hok (newer ++ e :: newer') e' older' (by rw [heq, List.append_assoc, List.cons_append])
  exact hinv.made_succ_le (loginStep_of_steps hstep) hchron'.latest_le hout

/-! ## Runs that are crowded -/

/-- A failure is within the window that it is counted in. -/
lemma made_fail_self (w : Option Lockout) (now comparisons : ℕ) :
    made (some (.fail w now comparisons)) now = made w now + comparisons := by
  have hopen : ¬ now + LOGIN_RATE_WINDOW_MS < now := by omega
  cases w with
  | none =>
    simp only [Lockout.fail, made, Nat.zero_add]
    exact if_neg hopen
  | some w' =>
    by_cases hends : w'.ends < now
    · simp only [Lockout.fail, made, if_pos hends, Nat.zero_add]
      exact if_neg hopen
    · simp only [Lockout.fail, made, if_neg hends]

/-- One more comparison of an address fails. -/
lemma exists_wrong {t : Logins} {ip : String} (hnumbered : t.jobs.Numbered)
    (hpos : 0 < inFlight t ip) (now : ℕ) :
    ∃ e, (loginLTS s).Steps e ∧ e.pre = t ∧ e.out = .compared ip false ∧ e.act.now = now ∧
      e.post.jobs.Numbered ∧ inFlight e.post ip + 1 = inFlight t ip := by
  obtain ⟨⟨id, ip'⟩, hmem, hip⟩ := List.countP_pos_iff.1 hpos
  obtain rfl : ip' = ip := by simpa using hip
  have hat := hnumbered.at?_of_mem hmem
  refine ⟨⟨t, .compared id false now, (finish t id ip' false now).1,
    (finish t id ip' false now).2⟩, ?_, rfl, rfl, rfl, ?_, ?_⟩
  · show loginNext s t (.compared id false now) = some (finish t id ip' false now)
    rw [loginNext, hat]
    rfl
  · have hsettle : (t.jobs.settle id (.inr () : String ⊕ Unit)).Numbered :=
      hnumbered.settle (hnumbered.lt_of_at? hat) _
    exact hsettle
  · have hends := inFlight_ends hnumbered hat
      (Function.update t.loginAttempts ip' (some (failed (t.loginAttempts ip') now))) ip'
    rw [if_pos rfl] at hends
    exact hends

/-- The comparisons of an address fail, one after the other, at one time: there are more and more
of them in the window. -/
lemma exists_path_all_wrong {log : List LoginEntry} {t : Logins} {ip : String} {now n : ℕ}
    (hnumbered : t.jobs.Numbered) (hchron : Chronological LoginAction.now log)
    (hlatest : latest LoginAction.now log ≤ now) (hn : inFlight t ip = n + 1) :
    ∃ newer u, (loginLTS s).Path t newer u ∧ Chronological LoginAction.now (newer ++ log) ∧
      ∃ e older, newer ++ log = e :: older ∧ e.out = .compared ip false ∧ e.act.now = now ∧
        made (lockout ip older) now = made (lockout ip log) now + n := by
  induction n generalizing log t with
  | zero =>
    have hpos : 0 < inFlight t ip := by omega
    obtain ⟨e, hstep, rfl, hout, hnow, -⟩ := exists_wrong (s := s) hnumbered hpos now
    exact ⟨[e], e.post, .snoc .refl hstep, hchron.cons (hnow ▸ hlatest), e, log, rfl, hout, hnow,
      rfl⟩
  | succ n ih =>
    have hpos : 0 < inFlight t ip := by omega
    obtain ⟨e, hstep, rfl, hout, hnow, hpost, hcount⟩ := exists_wrong (s := s) hnumbered hpos now
    obtain ⟨newer, u, hpath, hchron', e', older, heq, hout', hnow', hmade⟩ :=
      ih hpost (hchron.cons (hnow ▸ hlatest)) (Nat.le_of_eq hnow) (by omega)
    have hone : (loginLTS s).Path e.pre [e] e.post := .snoc .refl hstep
    refine ⟨newer ++ [e], u, LTS.path_append_iff.2 ⟨e.post, hone, hpath⟩, ?_, e', older, ?_, hout',
      hnow', ?_⟩
    · rwa [List.append_assoc, List.singleton_append]
    · rw [List.append_assoc, List.singleton_append, heq]
    · rw [hmade, LoginInv.lockout_wrong ip ip e hout, if_pos rfl, hnow, made_fail_self]
      omega

lemma numbered_of_run {log : List LoginEntry} {t : Logins} (h : (loginLTS s).Run log t) :
    t.jobs.Numbered := by
  refine h.invariant_of_step (fun _ t => t.jobs.Numbered) ?_ fun _ e hnumbered hstep => ?_
  · rintro _ rfl
    exact Jobs.numbered_empty
  · have hends : ∀ {t : Logins} {id : ℕ} {ip : String}, t.jobs.Numbered → t.jobs.at? id = some ip →
        (t.jobs.settle id (.inr () : String ⊕ Unit)).Numbered :=
      fun hnumbered hat => hnumbered.settle (hnumbered.lt_of_at? hat) _
    have hbegins : ∀ {t : Logins} (ip : String), t.jobs.Numbered →
        (t.jobs.draw.settle t.jobs.count (.inl ip : String ⊕ Unit)).Numbered :=
      fun ip hnumbered => hnumbered.draw.settle (Nat.lt_succ_self _) _
    cases loginStep_of_steps hstep with
    | idle hout => exact hnumbered.draw
    | unknownUser => exact hnumbered.draw
    | compares => exact hbegins _ hnumbered
    | right hat => exact hends hnumbered hat
    | wrong hat => exact hends hnumbered hat
    | sweep => exact hnumbered

/-- A request whose password is compared. -/
lemma login_eq_compares {t : Logins} {req : LoginRequest} {now : ℕ}
    (hlimit : isLoginRateLimited t (clientIp s req) now = false)
    (huser : username req.body = some s.adminUsername) :
    login s t req now = (.compares (clientIp s req),
      { t with
        jobs := t.jobs.draw.settle t.jobs.count (.inl (clientIp s req) : String ⊕ Unit) }) := by
  rw [login, hlimit, huser]
  simp

/-- A crowded request may bring its address above the limit. -/
lemma exists_not_throttled_of_crowded {e : LoginEntry} {older : List LoginEntry} {t : Logins}
    (h : (loginLTS s).Run (e :: older) t) (hchron : Chronological LoginAction.now (e :: older))
    (hcrowded : Crowded s older e) :
    ∃ newer u, (loginLTS s).Path t newer u ∧
      Chronological LoginAction.now (newer ++ e :: older) ∧ ¬ Throttled (newer ++ e :: older) := by
  have hnumbered := numbered_of_run h
  obtain ⟨s₀, hinit, hall⟩ := h
  obtain ⟨hbefore, hstep, rfl⟩ := LTS.path_cons_iff.1 hall
  have hnumbered' : e.pre.jobs.Numbered := numbered_of_run ⟨s₀, hinit, hbefore⟩
  obtain ⟨req, now, hact, hlimit, huser, -, hfull⟩ := hcrowded
  obtain ⟨pre, a, out, post⟩ := e
  obtain rfl : a = .request req now := hact
  have hopen : isLoginRateLimited pre (clientIp s req) now = false := hlimit
  have hnext : some (login s pre req now) = some (out, post) := hstep
  rw [login_eq_compares hopen huser] at hnext
  obtain ⟨rfl, rfl⟩ := Prod.mk.inj (Option.some.inj hnext)
  have hcount := inFlight_begins hnumbered' (clientIp s req) (clientIp s req)
  rw [if_pos rfl] at hcount
  obtain ⟨newer, u, hpath, hchron', e', older', heq, hout, hnow, hmade⟩ :=
    exists_path_all_wrong (s := s) hnumbered hchron (Nat.le_refl now) hcount
  refine ⟨newer, u, hpath, hchron', fun hthrottled => ?_⟩
  have hle := hthrottled [] e' older' (clientIp s req) false heq hout
  have hmade' : made (lockout (clientIp s req) older') now =
      made (lockout (clientIp s req) older) now + inFlight pre (clientIp s req) := hmade
  have hfull' : LOGIN_RATE_LIMIT ≤ made (lockout (clientIp s req) older) now +
      inFlight pre (clientIp s req) := hfull
  rw [hnow, hmade'] at hle
  omega

/-! ## The property -/

/-- **The limit on logins** holds in every run that is not crowded; and a request that crowds a
run can be followed by failures that break it. -/
theorem throttled_of_not_crowded {log : List LoginEntry} {t : Logins} (h : (loginLTS s).Run log t)
    (hchron : Chronological LoginAction.now log) :
    (Uncrowded s log → Throttled log) ∧
      ∀ e older, log = e :: older → Crowded s older e →
        ∃ newer u, (loginLTS s).Path t newer u ∧ Chronological LoginAction.now (newer ++ log) ∧
          ¬ Throttled (newer ++ log) := by
  refine ⟨throttled_of_uncrowded h hchron, ?_⟩
  rintro e older rfl hcrowded
  exact exists_not_throttled_of_crowded h hchron hcrowded

/-- A request that comes while no comparison of its address is under way. -/
def alone (s : LoginSettings) (e : LoginEntry) : Bool :=
  match e.act with
  | .request req _ => inFlight e.pre (clientIp s req) == 0
  | .compared _ _ _ | .sweep _ => true

/-- Logins one at a time do not crowd. -/
lemma uncrowded_of_alone {log : List LoginEntry} (h : log.all (alone s) = true) :
    Uncrowded s log := by
  rintro newer e older rfl ⟨req, now, hact, -, -, hpos, -⟩
  have he := List.all_eq_true.1 h e (List.mem_append_right _ List.mem_cons_self)
  simp only [alone, hact, beq_iff_eq] at he
  omega

lemma exists_loginRun_of_exec (acts : List LoginAction)
    {p : List LoginEntry → Logins → Prop} [∀ log t, Decidable (p log t)]
    (h : (LTS.exec (loginNext s) {} [] acts).any (fun r => decide (p r.1 r.2)) = true) :
    ∃ log t, (loginLTS s).Run log t ∧ p log t := by
  obtain ⟨log, t, hpath, hp⟩ := LTS.exists_path_of_exec acts h
  exact ⟨log, t, ⟨_, rfl, hpath⟩, hp⟩

/-- A dashboard that is not behind a proxy. -/
def LoginSettings.plain : LoginSettings := ⟨false, "admin"⟩

/-- A password for the administrator. -/
def LoginRequest.guess : LoginRequest where
  remoteAddress := some "192.0.2.1"
  body := some (.obj [("username", .str "admin"), ("password", .str "guess")])

/-- Six guesses, each after the one before has been compared: the sixth is not compared. -/
theorem throttled_of_not_crowded_six_guesses :
    ∃ log t, (loginLTS .plain).Run log t ∧ (log.head?.map fun e => e.out) = some .limited ∧
      Throttled log := by
  obtain ⟨log, t, hrun, hchron, halone, hlast⟩ :
      ∃ log t, (loginLTS .plain).Run log t ∧ Chronological LoginAction.now log ∧
        log.all (alone .plain) = true ∧ (log.head?.map fun e => e.out) = some .limited :=
    exists_loginRun_of_exec
      ([0, 1, 2, 3, 4].flatMap (fun i => [.request .guess i, .compared i false i]) ++
        [.request .guess 5])
      (by decide +kernel)
  exact ⟨log, t, hrun, hlast, (throttled_of_not_crowded hrun hchron).1 (uncrowded_of_alone halone)⟩

/-- Six guesses at once are all compared in one window. -/
theorem not_throttled_six_at_once :
    ∃ log t, (loginLTS .plain).Run log t ∧ Chronological LoginAction.now log ∧ ¬ Throttled log := by
  obtain ⟨log, t, hrun, hchron, hout, hnow, hmade⟩ :
      ∃ log t, (loginLTS .plain).Run log t ∧ Chronological LoginAction.now log ∧
        (log.head?.map fun e => e.out) = some (.compared "192.0.2.1" false) ∧
        (log.head?.map fun e => e.act.now) = some 1 ∧
        made (lockout "192.0.2.1" log.tail) 1 = 5 :=
    exists_loginRun_of_exec
      (.replicate 6 (.request .guess 0) ++ [0, 1, 2, 3, 4, 5].map (.compared · false 1))
      (by decide +kernel)
  refine ⟨log, t, hrun, hchron, fun hthrottled => ?_⟩
  cases log with
  | nil => cases hout
  | cons e older =>
    have hle := hthrottled [] e older "192.0.2.1" false rfl (Option.some.inj hout)
    have hmade' : made (lockout "192.0.2.1" older) 1 = 5 := hmade
    have hone : e.act.now = 1 := Option.some.inj hnow
    rw [hone, hmade', LOGIN_RATE_LIMIT] at hle
    omega

end Dashboard
end Sf4e
