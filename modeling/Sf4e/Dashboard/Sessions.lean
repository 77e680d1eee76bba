/-
# Sessions of the dashboard

Who logs in to the dashboard gets a cookie: a token that was drawn for the session, and the
signature of the token.  A request is let in when its cookie has a token that is still known, with
the right signature.  The dashboard forgets a token when its owner logs out, when a request comes
with it too late, and when the timer finds that its time is over.

`Entitled` says what this comes to, in terms of the history alone: a token lets in while it is not
too long ago that a login drew it, unless it was used to log out since.
-/
import Mathlib.Data.Int.Order.Basic
import Mathlib.Logic.Function.Basic
import Sf4e.Dashboard.Login
import Sf4e.Wire.Percent

namespace Sf4e
namespace Dashboard

open Broker Trace Wire

/-! ## Cookies -/

/-- `SESSION_COOKIE`. -/
def SESSION_COOKIE : List Char := "sf4e_relay_session".toList

/-- `part.trim().split("=")`: the text before the first sign, and the rest of it. -/
def keyAndRest (part : List Char) : List Char × List Char :=
  let part := trimChars part
  (part.takeWhile (· != '='), (part.dropWhile (· != '=')).drop 1)

/-- `parseCookie`; the outer `none` is a thrown error. -/
def parseCookie (header : Option String) (name : List Char) : Option (Option (List Char)) :=
  match present header with
  | none => some none
  | some header =>
    match ((header.toList.splitOn ';').map keyAndRest).lookup name with
    | none => some none
    | some rest => (decodeURIComponent rest).map some

/-- The texts before and after the last dot, when there is a dot and it is not the first
character. -/
def splitAtLastDot (raw : List Char) : Option (List Char × List Char) :=
  match raw.reverse.dropWhile (· != '.') with
  | _ :: c :: rest => some ((c :: rest).reverse, (raw.reverse.takeWhile (· != '.')).reverse)
  | [_] | [] => none

/-- A digit, in lower case. -/
def hexLower (n : ℕ) : Char := Char.ofNat (if n < 10 then 48 + n else 87 + n)

/-- `toString("hex")`. -/
def hex (bytes : Vector UInt8 32) : List Char :=
  bytes.toList.flatMap fun b => [hexLower (b.toNat / 16), hexLower (b.toNat % 16)]

/-! ## The code -/

/-- The settings, and the keyed hash of the platform. -/
structure SessionSettings extends LoginSettings where
  /-- `SESSION_TTL_SEC`; `none` when it is no finite number. -/
  SESSION_TTL_SEC : Option ℤ
  /-- `crypto.createHmac("sha256", SESSION_SECRET)` of a text. -/
  hmac : List Char → Vector UInt8 32

/-- An entry of `sessions`. -/
structure Session where
  username : String
  /-- Nothing is after `none`. -/
  expiresAt : Option ℤ
deriving DecidableEq

/-- The logins and the sessions, by their tokens. -/
structure Sessions where
  logins : Logins := {}
  sessions : List Char → Option Session := fun _ => none

/-- What a request to the dashboard asks for. -/
inductive Route
  /-- `GET /`. -/
  | home
  /-- `GET /login`. -/
  | loginPage
  /-- `POST /logout`. -/
  | logout
  /-- A route that asks for a session before its handler. -/
  | guarded (path : String)
deriving DecidableEq

/-- What happens to the dashboard. -/
inductive SessionAction
  /-- `POST /login`. -/
  | login (req : LoginRequest) (now : ℕ)
  /-- A comparison is through; if it is a match, the bytes that are drawn for the token. -/
  | compared (id : ℕ) (ok : Bool) (drawn : Vector UInt8 32) (now : ℕ)
  /-- The timer of the logins. -/
  | sweepLogins (now : ℕ)
  /-- The timer of the sessions. -/
  | sweepSessions (now : ℕ)
  /-- Another request, with its `cookie` header. -/
  | visit (route : Route) (cookie : Option String) (now : ℕ)

/-- The clock at an action. -/
def SessionAction.now : SessionAction → ℕ
  | .login _ now | .compared _ _ _ now | .sweepLogins now | .sweepSessions now
  | .visit _ _ now => now

/-- What a step puts out. -/
inductive SessionOut
  | login (out : LoginOut)
  /-- The session of a token has begun, and the cookie is set to a value. -/
  | loggedIn (token cookie : List Char)
  | swept
  | thrown
  | redirect (target : String)
  | loginPage
  /-- Status 401. -/
  | unauthorized
  /-- The handler is called. -/
  | admitted (token : List Char) (username : String)
  /-- The token is deleted and the cookie is cleared. -/
  | loggedOut (token : List Char)
deriving DecidableEq

variable (s : SessionSettings)

/-- `signToken`. -/
def signToken (token : List Char) : List Char := hex (s.hmac token)

/-- The value of the cookie for a token. -/
def cookieValue (token : List Char) : List Char := token ++ '.' :: signToken s token

/-- `setSessionCookie`. -/
def setSessionCookie (token : List Char) : List Char := encodeURIComponent (cookieValue s token)

/-- The session that `createSession` makes. -/
def createSession (now : ℕ) : Session :=
  ⟨s.adminUsername, s.SESSION_TTL_SEC.map fun ttl => now + ttl * 1000⟩

/-- `Date.now() > session.expiresAt`. -/
def Session.expired (session : Session) (now : ℕ) : Bool :=
  session.expiresAt.any fun expiresAt => decide (expiresAt < (now : ℤ))

/-- A token is deleted. -/
def Sessions.delete (t : Sessions) (token : List Char) : Sessions :=
  { t with sessions := Function.update t.sessions token none }

/-- The result of `getSession`. -/
inductive Found
  | thrown
  | nobody
  | session (token : List Char) (session : Session)

/-- `getSession`. -/
def getSession (t : Sessions) (cookie : Option String) (now : ℕ) : Found × Sessions :=
  match parseCookie cookie SESSION_COOKIE with
  | none => (.thrown, t)
  | some none => (.nobody, t)
  | some (some raw) =>
    match splitAtLastDot raw with
    | none => (.nobody, t)
    | some (token, sig) =>
      if signToken s token ≠ sig then (.nobody, t)
      else
        match t.sessions token with
        | none => (.nobody, t)
        | some session =>
          if session.expired now then (.nobody, t.delete token) else (.session token session, t)

/-- The answer to a request without a session: that of `requireAuth`, or of the pages that need
none. -/
def Route.refused : Route → SessionOut
  | .home | .logout => .redirect "/login"
  | .loginPage => .loginPage
  | .guarded path =>
    if "/api/".toList.isPrefixOf path.toList then .unauthorized else .redirect "/login"

/-- A request other than a login. -/
def visit (t : Sessions) (route : Route) (cookie : Option String) (now : ℕ) :
    SessionOut × Sessions :=
  match getSession s t cookie now with
  | (.thrown, t) => (.thrown, t)
  | (.nobody, t) => (route.refused, t)
  | (.session token session, t) =>
    match route with
    | .home | .loginPage => (.redirect "/dashboard", t)
    | .logout => (.loggedOut token, t.delete token)
    | .guarded _ => (.admitted token session.username, t)

/-- A comparison is through: the rest of `POST /login`.  The name in the request is the
administrator's, since only then there is a comparison. -/
def Sessions.compared (t : Sessions) (drawn : Vector UInt8 32) (now : ℕ) :
    LoginOut × Logins → SessionOut × Sessions
  | (.compared _ true, logins) =>
    (.loggedIn (hex drawn) (setSessionCookie s (hex drawn)),
      ⟨logins, Function.update t.sessions (hex drawn) (some (createSession s now))⟩)
  | (out, logins) => (.login out, { t with logins := logins })

/-- One step. -/
def sessionNext (t : Sessions) : SessionAction → Option (SessionOut × Sessions)
  | .login req now =>
    (loginNext s.toLoginSettings t.logins (.request req now)).map fun r =>
      (.login r.1, { t with logins := r.2 })
  | .compared id ok drawn now =>
    (loginNext s.toLoginSettings t.logins (.compared id ok now)).map (t.compared s drawn now)
  | .sweepLogins now =>
    (loginNext s.toLoginSettings t.logins (.sweep now)).map fun r =>
      (.login r.1, { t with logins := r.2 })
  | .sweepSessions now =>
    some (.swept, { t with
      sessions := fun token => (t.sessions token).filter fun session => !session.expired now })
  | .visit route cookie now => some (visit s t route cookie now)

/-- The runs of the dashboard. -/
def sessionLTS : LTS Sessions SessionAction SessionOut := .ofFun (· = {}) (sessionNext s)

/-- A step of the dashboard. -/
abbrev SessionEntry := Entry Sessions SessionAction SessionOut

/-! ## Who is entitled -/

/-- A login has drawn the token, and at a time its session is not over yet. -/
def Draws (token : List Char) (now : ℕ) (e : SessionEntry) : Prop :=
  e.out = .loggedIn token (setSessionCookie s token) ∧
    (createSession s e.act.now).expired now = false

/-- The token has not been used to log out. -/
def Keeps (token : List Char) (e : SessionEntry) : Prop := e.out ≠ .loggedOut token

instance (token : List Char) (now : ℕ) : DecidablePred (Draws s token now) := fun _ =>
  inferInstanceAs (Decidable (_ ∧ _))

instance (token : List Char) : DecidablePred (Keeps token) := fun _ =>
  inferInstanceAs (Decidable (¬ _))

/-- At a time, who has the token is entitled. -/
def Entitled (log : List SessionEntry) (token : List Char) (now : ℕ) : Prop :=
  Since (Keeps token) (Draws s token now) log

instance (log : List SessionEntry) (token : List Char) (now : ℕ) :
    Decidable (Entitled s log token now) :=
  inferInstanceAs (Decidable (Since _ _ log))

/-! ## Tokens in cookies -/

variable {s}

/-- The characters of a token and of its signature. -/
def hexDigits : List Char := "0123456789abcdef".toList

lemma hexLower_mem {n : ℕ} (h : n < 16) : hexLower n ∈ hexDigits := by
  have hall : ∀ m : Fin 16, hexLower m ∈ hexDigits := by decide
  exact hall ⟨n, h⟩

lemma mem_hexDigits_of_mem_hex {bytes : Vector UInt8 32} {c : Char} (h : c ∈ hex bytes) :
    c ∈ hexDigits := by
  obtain ⟨b, -, hb⟩ := List.mem_flatMap.1 h
  have hlt := b.toNat_lt
  rcases List.mem_cons.1 hb with rfl | hb
  · exact hexLower_mem (by omega)
  · rw [List.mem_singleton.1 hb]
    exact hexLower_mem (by omega)

lemma dot_notMem_hex (bytes : Vector UInt8 32) : '.' ∉ hex bytes := fun h =>
  absurd (mem_hexDigits_of_mem_hex h) (by decide)

lemma hex_ne_nil (bytes : Vector UInt8 32) : hex bytes ≠ [] := by
  intro h
  have hnil : bytes.toList = [] := by
    cases hbytes : bytes.toList with
    | nil => rfl
    | cons b bs =>
      rw [hex, hbytes, List.flatMap_cons] at h
      exact absurd h (List.cons_ne_nil _ _)
  have hlen : bytes.toList.length = 32 := Vector.length_toList
  rw [hnil] at hlen
  exact absurd hlen (by decide)

/-- The last dot is the one before a text that has none. -/
lemma splitAtLastDot_eq_some_iff {raw token sig : List Char} :
    splitAtLastDot raw = some (token, sig) ↔
      raw = token ++ '.' :: sig ∧ '.' ∉ sig ∧ token ≠ [] := by
  have hraw : raw = (raw.reverse.dropWhile (· != '.')).reverse ++
      (raw.reverse.takeWhile (· != '.')).reverse := by
    rw [← List.reverse_append, List.takeWhile_append_dropWhile, List.reverse_reverse]
  constructor
  · intro h
    unfold splitAtLastDot at h
    split at h
    · rename_i d c rest hdrop
      obtain ⟨rfl, rfl⟩ := Prod.mk.inj (Option.some.inj h)
      have hd : d = '.' := by
        have hhead := List.head?_dropWhile_not (· != '.') raw.reverse
        rw [hdrop] at hhead
        simpa using hhead
      refine ⟨?_, fun hdot => ?_, by simp⟩
      · conv_lhs => rw [hraw, hdrop, hd]
        simp
      · have hnot := List.mem_takeWhile_imp (List.mem_reverse.1 hdot)
        exact absurd hnot (by decide)
    · exact absurd h (by simp)
    · exact absurd h (by simp)
  · rintro ⟨rfl, hsig, htoken⟩
    have hrev : (token ++ '.' :: sig).reverse = sig.reverse ++ '.' :: token.reverse := by simp
    have hall : ∀ c ∈ sig.reverse, (c != '.') = true := fun c hc => by
      simpa using fun heq : c = '.' => hsig (heq ▸ List.mem_reverse.1 hc)
    unfold splitAtLastDot
    rw [hrev, List.dropWhile_append_of_pos hall, List.takeWhile_append_of_pos hall]
    obtain ⟨c, rest, hrest⟩ := List.exists_cons_of_ne_nil (mt List.reverse_eq_nil_iff.1 htoken)
    rw [hrest, List.dropWhile_cons_of_neg (by decide), List.takeWhile_cons_of_neg (by decide)]
    show some ((c :: rest).reverse, (sig.reverse ++ []).reverse) = _
    rw [← hrest, List.reverse_reverse, List.append_nil, List.reverse_reverse]

lemma splitAtLastDot_cookieValue (drawn : Vector UInt8 32) :
    splitAtLastDot (cookieValue s (hex drawn)) = some (hex drawn, signToken s (hex drawn)) :=
  splitAtLastDot_eq_some_iff.2 ⟨rfl, dot_notMem_hex _, hex_ne_nil drawn⟩

/-- The tokens of all sessions were drawn. -/
def Sessions.Drawn (t : Sessions) : Prop :=
  ∀ token session, t.sessions token = some session → ∃ drawn, token = hex drawn

/-- **Who is found.** The cookie is the one that was set for the token, and the session is not
over. -/
lemma getSession_eq_session_iff {t : Sessions} (hdrawn : t.Drawn) {cookie : Option String}
    {now : ℕ} {token : List Char} {session : Session} :
    (getSession s t cookie now).1 = .session token session ↔
      parseCookie cookie SESSION_COOKIE = some (some (cookieValue s token)) ∧
        t.sessions token = some session ∧ session.expired now = false := by
  constructor
  · intro h
    unfold getSession at h
    split at h
    · exact absurd h (by simp)
    · exact absurd h (by simp)
    · rename_i raw hraw
      split at h
      · exact absurd h (by simp)
      · rename_i token' sig hsplit
        split at h
        · exact absurd h (by simp)
        · rename_i hsig
          split at h
          · exact absurd h (by simp)
          · rename_i session' hsession
            split at h
            · exact absurd h (by simp)
            · rename_i hlive
              obtain ⟨rfl, rfl⟩ := Found.session.inj h
              obtain ⟨rfl, -, -⟩ := splitAtLastDot_eq_some_iff.1 hsplit
              rw [hraw, cookieValue, not_not.1 hsig]
              exact ⟨rfl, hsession, Bool.not_eq_true _ ▸ hlive⟩
  · rintro ⟨hcookie, hsession, hlive⟩
    obtain ⟨drawn, rfl⟩ := hdrawn token session hsession
    simp only [getSession, hcookie, splitAtLastDot_cookieValue, ne_eq, not_true_eq_false,
      if_false, hsession, hlive, Bool.false_eq_true]

/-! ## Steps -/

/-- What a step does to the sessions. -/
inductive SessionStep (s : SessionSettings) (e : SessionEntry) : Prop
  | begins (drawn : Vector UInt8 32)
      (hout : e.out = .loggedIn (hex drawn) (setSessionCookie s (hex drawn)))
      (hpost : e.post.sessions =
        Function.update e.pre.sessions (hex drawn) (some (createSession s e.act.now)))
  | ends (token : List Char) (hout : e.out = .loggedOut token)
      (hpost : e.post.sessions = Function.update e.pre.sessions token none)
  /-- Only sessions that are over are forgotten. -/
  | prunes (hin : ∀ token cookie, e.out ≠ .loggedIn token cookie)
      (hout : ∀ token, e.out ≠ .loggedOut token)
      (hpost : ∀ token, e.post.sessions token = e.pre.sessions token ∨
        e.post.sessions token = none ∧
          ∃ session, e.pre.sessions token = some session ∧ session.expired e.act.now = true)

lemma getSession_prunes (t : Sessions) (cookie : Option String) (now : ℕ) (token : List Char) :
    (getSession s t cookie now).2.sessions token = t.sessions token ∨
      (getSession s t cookie now).2.sessions token = none ∧
        ∃ session, t.sessions token = some session ∧ session.expired now = true := by
  unfold getSession
  split
  · exact .inl rfl
  · exact .inl rfl
  · split
    · exact .inl rfl
    · rename_i token' sig hsplit
      split
      · exact .inl rfl
      · split
        · exact .inl rfl
        · rename_i session hsession
          split
          · rename_i hexpired
            by_cases heq : token = token'
            · subst heq
              exact .inr ⟨Function.update_self .., session, hsession, hexpired⟩
            · exact .inl (Function.update_of_ne heq ..)
          · exact .inl rfl

/-- A session that is found stays. -/
lemma getSession_found {t t' : Sessions} {cookie : Option String} {now : ℕ} {token : List Char}
    {session : Session} (h : getSession s t cookie now = (.session token session, t')) :
    t' = t := by
  unfold getSession at h
  split at h
  · exact absurd (Prod.mk.inj h).1 (by simp)
  · exact absurd (Prod.mk.inj h).1 (by simp)
  · split at h
    · exact absurd (Prod.mk.inj h).1 (by simp)
    · split at h
      · exact absurd (Prod.mk.inj h).1 (by simp)
      · split at h
        · exact absurd (Prod.mk.inj h).1 (by simp)
        · split at h
          · exact absurd (Prod.mk.inj h).1 (by simp)
          · exact (Prod.mk.inj h).2.symm

lemma sessionStep_of_steps {e : SessionEntry} (h : (sessionLTS s).Steps e) : SessionStep s e := by
  obtain ⟨pre, a, out, post⟩ := e
  have hnext : sessionNext s pre a = some (out, post) := h
  cases a with
  | login req now =>
    simp only [sessionNext] at hnext
    obtain ⟨r, -, hr⟩ := Option.map_eq_some_iff.1 hnext
    obtain ⟨rfl, rfl⟩ := Prod.mk.inj hr
    exact .prunes (by simp) (by simp) fun _ => .inl rfl
  | sweepLogins now =>
    simp only [sessionNext] at hnext
    obtain ⟨r, -, hr⟩ := Option.map_eq_some_iff.1 hnext
    obtain ⟨rfl, rfl⟩ := Prod.mk.inj hr
    exact .prunes (by simp) (by simp) fun _ => .inl rfl
  | compared id ok drawn now =>
    simp only [sessionNext] at hnext
    obtain ⟨r, -, hr⟩ := Option.map_eq_some_iff.1 hnext
    unfold Sessions.compared at hr
    split at hr
    · obtain ⟨rfl, rfl⟩ := Prod.mk.inj hr
      exact .begins drawn rfl rfl
    · obtain ⟨rfl, rfl⟩ := Prod.mk.inj hr
      exact .prunes (by simp) (by simp) fun _ => .inl rfl
  | sweepSessions now =>
    obtain ⟨rfl, rfl⟩ := Prod.mk.inj (Option.some.inj hnext)
    refine .prunes (by simp) (by simp) fun token => ?_
    cases hsession : pre.sessions token with
    | none => exact .inl (by simp [hsession])
    | some session =>
      cases hexpired : session.expired now with
      | true => exact .inr ⟨by simp [hsession, hexpired], session, rfl, hexpired⟩
      | false => exact .inl (by simp [hsession, hexpired])
  | visit route cookie now =>
    have hprunes := getSession_prunes (s := s) pre cookie now
    have hvisit : visit s pre route cookie now = (out, post) := Option.some.inj hnext
    unfold visit at hvisit
    split at hvisit
    · rename_i t' ht'
      obtain ⟨rfl, rfl⟩ := Prod.mk.inj hvisit
      rw [ht'] at hprunes
      exact .prunes (by simp) (by simp) hprunes
    · rename_i t' ht'
      obtain ⟨rfl, rfl⟩ := Prod.mk.inj hvisit
      rw [ht'] at hprunes
      have hrefused : (∀ token cookie, route.refused ≠ .loggedIn token cookie) ∧
          ∀ token, route.refused ≠ .loggedOut token := by
        cases route with
        | guarded path => unfold Route.refused; dsimp only; split <;> simp
        | home | loginPage | logout => simp [Route.refused]
      exact .prunes hrefused.1 hrefused.2 hprunes
    · rename_i token session t' ht'
      obtain rfl := getSession_found ht'
      split at hvisit
      · obtain ⟨rfl, rfl⟩ := Prod.mk.inj hvisit
        exact .prunes (by simp) (by simp) fun _ => .inl rfl
      · obtain ⟨rfl, rfl⟩ := Prod.mk.inj hvisit
        exact .prunes (by simp) (by simp) fun _ => .inl rfl
      · obtain ⟨rfl, rfl⟩ := Prod.mk.inj hvisit
        exact .ends token rfl rfl
      · obtain ⟨rfl, rfl⟩ := Prod.mk.inj hvisit
        exact .prunes (by simp) (by simp) fun _ => .inl rfl

/-! ## Runs -/

/-- The dashboard knows the token, and its session is not over. -/
def Sessions.Live (t : Sessions) (token : List Char) (now : ℕ) : Prop :=
  ∃ session, t.sessions token = some session ∧ session.expired now = false

lemma Session.expired_mono {session : Session} {now later : ℕ} (hle : now ≤ later)
    (h : session.expired now = true) : session.expired later = true := by
  obtain ⟨username, _ | expiresAt⟩ := session
  · exact h
  · have hlt : expiresAt < (now : ℤ) := of_decide_eq_true h
    exact decide_eq_true (lt_of_lt_of_le hlt (Int.ofNat_le.2 hle))

/-- A session that begins later is not over before one that begins earlier. -/
lemma createSession_expired {began began' now : ℕ} (hle : began ≤ began')
    (h : (createSession s began).expired now = false) :
    (createSession s began').expired now = false := by
  unfold createSession Session.expired at h ⊢
  cases httl : s.SESSION_TTL_SEC with
  | none => rfl
  | some ttl =>
    rw [httl] at h
    have hnot : ¬ ((began : ℤ) + ttl * 1000 < now) := of_decide_eq_false h
    have hnot' : ¬ ((began' : ℤ) + ttl * 1000 < now) := by omega
    exact decide_eq_false hnot'

/-- **Invariant.** The tokens were drawn, the sessions began in the past, and those that are not
over are the ones whose tokens entitle. -/
structure SessionInv (s : SessionSettings) (log : List SessionEntry) (t : Sessions) : Prop where
  drawn : t.Drawn
  began : ∀ token session, t.sessions token = some session →
    ∃ began ≤ latest SessionAction.now log, session = createSession s began
  live : ∀ token now, latest SessionAction.now log ≤ now →
    (t.Live token now ↔ Entitled s log token now)

namespace SessionInv

variable {log : List SessionEntry} {e : SessionEntry}

/-- A login. -/
lemma begins (h : SessionInv s log e.pre) (hclock : latest SessionAction.now log ≤ e.act.now)
    {drawn : Vector UInt8 32}
    (hout : e.out = .loggedIn (hex drawn) (setSessionCookie s (hex drawn)))
    (hpost : e.post.sessions =
      Function.update e.pre.sessions (hex drawn) (some (createSession s e.act.now))) :
    SessionInv s (e :: log) e.post := by
  refine ⟨fun token session hsession => ?_, fun token session hsession => ?_,
    fun token now hnow => ?_⟩
  · rw [hpost] at hsession
    by_cases heq : token = hex drawn
    · exact ⟨drawn, heq⟩
    · rw [Function.update_of_ne heq] at hsession
      exact h.drawn token session hsession
  · rw [hpost] at hsession
    by_cases heq : token = hex drawn
    · subst heq
      rw [Function.update_self] at hsession
      exact ⟨_, le_rfl, (Option.some.inj hsession).symm⟩
    · rw [Function.update_of_ne heq] at hsession
      obtain ⟨began, hle, hbegan⟩ := h.began token session hsession
      exact ⟨began, hle.trans hclock, hbegan⟩
  · have hbefore := h.live token now (hclock.trans hnow)
    have hkeep : Keeps token e := by simp [Keeps, hout]
    unfold Entitled at hbefore ⊢
    rw [since_cons, and_iff_right hkeep, ← hbefore, Sessions.Live, hpost]
    by_cases heq : token = hex drawn
    · subst heq
      rw [Function.update_self]
      have hdraws : Draws s (hex drawn) now e ↔ (createSession s e.act.now).expired now = false :=
        ⟨And.right, fun hlive => ⟨hout, hlive⟩⟩
      rw [hdraws]
      constructor
      · rintro ⟨session, hsession, hlive⟩
        obtain rfl := Option.some.inj hsession
        exact .inl hlive
      · rintro (hlive | ⟨session, hsession, hlive⟩)
        · exact ⟨_, rfl, hlive⟩
        · -- the token was drawn before: its session is replaced by a later one
          obtain ⟨began, hle, rfl⟩ := h.began _ session hsession
          exact ⟨_, rfl, createSession_expired (hle.trans hclock) hlive⟩
    · rw [Function.update_of_ne heq]
      constructor
      · exact .inr
      · rintro (⟨hlogin, -⟩ | hlive)
        · rw [hout] at hlogin
          exact absurd (SessionOut.loggedIn.inj hlogin).1.symm heq
        · exact hlive

/-- A logout. -/
lemma ends (h : SessionInv s log e.pre) (hclock : latest SessionAction.now log ≤ e.act.now)
    {token : List Char} (hout : e.out = .loggedOut token)
    (hpost : e.post.sessions = Function.update e.pre.sessions token none) :
    SessionInv s (e :: log) e.post := by
  have hof : ∀ token' session, e.post.sessions token' = some session →
      token' ≠ token ∧ e.pre.sessions token' = some session := fun token' session hsession => by
    rw [hpost] at hsession
    by_cases heq : token' = token
    · subst heq
      rw [Function.update_self] at hsession
      exact absurd hsession (by simp)
    · exact ⟨heq, by rwa [Function.update_of_ne heq] at hsession⟩
  refine ⟨fun token' session hsession => h.drawn _ _ (hof _ _ hsession).2,
    fun token' session hsession => ?_, fun token' now hnow => ?_⟩
  · obtain ⟨began, hle, hbegan⟩ := h.began _ _ (hof _ _ hsession).2
    exact ⟨began, hle.trans hclock, hbegan⟩
  · have hbefore := h.live token' now (hclock.trans hnow)
    have hdraws : ¬ Draws s token' now e := fun hd => absurd (hout.symm.trans hd.1) (by simp)
    have hkeep : Keeps token' e ↔ token' ≠ token := by
      rw [Keeps, hout]
      exact not_congr ⟨fun heq => (SessionOut.loggedOut.inj heq).symm, fun heq => heq ▸ rfl⟩
    unfold Entitled at hbefore ⊢
    rw [since_cons, or_iff_right hdraws, hkeep, ← hbefore]
    constructor
    · rintro ⟨session, hsession, hlive⟩
      exact ⟨(hof _ _ hsession).1, session, (hof _ _ hsession).2, hlive⟩
    · rintro ⟨hne, session, hsession, hlive⟩
      exact ⟨session, by rwa [hpost, Function.update_of_ne hne], hlive⟩

/-- Any other step. -/
lemma prunes (h : SessionInv s log e.pre) (hclock : latest SessionAction.now log ≤ e.act.now)
    (hin : ∀ token cookie, e.out ≠ .loggedIn token cookie)
    (hout : ∀ token, e.out ≠ .loggedOut token)
    (hpost : ∀ token, e.post.sessions token = e.pre.sessions token ∨
      e.post.sessions token = none ∧
        ∃ session, e.pre.sessions token = some session ∧ session.expired e.act.now = true) :
    SessionInv s (e :: log) e.post := by
  have hof : ∀ token session, e.post.sessions token = some session →
      e.pre.sessions token = some session := fun token session hsession => by
    rcases hpost token with heq | ⟨hnone, -⟩
    · rwa [← heq]
    · rw [hnone] at hsession
      exact absurd hsession (by simp)
  refine ⟨fun token session hsession => h.drawn _ _ (hof _ _ hsession),
    fun token session hsession => ?_, fun token now hnow => ?_⟩
  · obtain ⟨began, hle, hbegan⟩ := h.began _ _ (hof _ _ hsession)
    exact ⟨began, hle.trans hclock, hbegan⟩
  · have hbefore := h.live token now (hclock.trans hnow)
    have hdraws : ¬ Draws s token now e := fun hd => hin token _ hd.1
    have hkeep : Keeps token e := hout token
    unfold Entitled at hbefore ⊢
    rw [since_cons, or_iff_right hdraws, and_iff_right hkeep, ← hbefore]
    constructor
    · rintro ⟨session, hsession, hlive⟩
      exact ⟨session, hof _ _ hsession, hlive⟩
    · rintro ⟨session, hsession, hlive⟩
      rcases hpost token with heq | ⟨-, session', hsession', hexpired⟩
      · exact ⟨session, heq ▸ hsession, hlive⟩
      · -- what is forgotten was over
        obtain rfl := Option.some.inj (hsession.symm.trans hsession')
        rw [Session.expired_mono hnow hexpired] at hlive
        exact absurd hlive (by simp)

end SessionInv

lemma sessionInv_of_run {log : List SessionEntry} {t : Sessions} (h : (sessionLTS s).Run log t)
    (hclock : Chronological SessionAction.now log) : SessionInv s log t := by
  refine h.invariant_of_step
    (fun log t => Chronological SessionAction.now log → SessionInv s log t)
    (fun t ht _ => ?_) (fun log e ih hs hclock => ?_) hclock
  · obtain rfl : t = {} := ht
    exact ⟨fun _ _ h => absurd h (by simp), fun _ _ h => absurd h (by simp),
      fun token now _ => ⟨fun ⟨_, h, _⟩ => absurd h (by simp), fun h => absurd h since_nil⟩⟩
  · have hle := hclock.latest_le
    rcases sessionStep_of_steps hs with ⟨drawn, hout, hpost⟩ | ⟨token, hout, hpost⟩ |
      ⟨hin, hout, hpost⟩
    · exact (ih hclock.tail).begins hle hout hpost
    · exact (ih hclock.tail).ends hle hout hpost
    · exact (ih hclock.tail).prunes hle hin hout hpost

/-! ## Answers -/

/-- The answer to a request with a session. -/
def Route.served (s : SessionSettings) (token : List Char) : Route → SessionOut
  | .home | .loginPage => .redirect "/dashboard"
  | .logout => .loggedOut token
  | .guarded _ => .admitted token s.adminUsername

/-- The cookies of a request are those of a token that entitles. -/
def Comes (s : SessionSettings) (log : List SessionEntry) (cookie : Option String) (now : ℕ)
    (token : List Char) : Prop :=
  parseCookie cookie SESSION_COOKIE = some (some (cookieValue s token)) ∧ Entitled s log token now

lemma getSession_thrown_iff {t : Sessions} {cookie : Option String} {now : ℕ} :
    (getSession s t cookie now).1 = .thrown ↔ parseCookie cookie SESSION_COOKIE = none := by
  unfold getSession
  split
  · simp_all
  · simp_all
  · rename_i raw hraw
    rw [hraw]
    refine iff_of_false ?_ (by simp)
    split
    · simp
    · split
      · simp
      · split
        · simp
        · split <;> simp

/-- The answer to a request, by what `getSession` has found. -/
def Found.answer (s : SessionSettings) (route : Route) : Found → SessionOut
  | .thrown => .thrown
  | .nobody => route.refused
  | .session token kept => route.served { s with adminUsername := kept.username } token

lemma fst_visit (t : Sessions) (route : Route) (cookie : Option String) (now : ℕ) :
    (visit s t route cookie now).1 = (getSession s t cookie now).1.answer s route := by
  unfold visit
  obtain ⟨found, t'⟩ := getSession s t cookie now
  cases found with
  | thrown | nobody => rfl
  | session token session => cases route <;> rfl

lemma out_eq_answer {e : SessionEntry} (hs : (sessionLTS s).Steps e) {route : Route}
    {cookie : Option String} {now : ℕ} (hact : e.act = .visit route cookie now) :
    e.out = (getSession s e.pre cookie now).1.answer s route := by
  have hnext : sessionNext s e.pre e.act = some (e.out, e.post) := hs
  rw [hact] at hnext
  rw [← fst_visit]
  exact (congrArg Prod.fst (Option.some.inj hnext)).symm

section Answers

variable {log : List SessionEntry} {e : SessionEntry} {t : Sessions} {route : Route}
  {cookie : Option String} {now : ℕ} {token : List Char}

/-- A token that entitles is one whose session is found. -/
lemma comes_iff_found (h : (sessionLTS s).Run log t) (hclock : Chronological SessionAction.now log)
    (hle : latest SessionAction.now log ≤ now) :
    Comes s log cookie now token ↔
      ∃ session, (getSession s t cookie now).1 = .session token session := by
  have hinv := sessionInv_of_run h hclock
  rw [Comes, ← hinv.live token now hle, Sessions.Live]
  simp only [getSession_eq_session_iff hinv.drawn]
  exact ⟨fun ⟨hcookie, session, h⟩ => ⟨session, hcookie, h⟩,
    fun ⟨session, hcookie, h⟩ => ⟨hcookie, session, h⟩⟩

/-- The state that a visit finds. -/
lemma before_visit (h : (sessionLTS s).Run (e :: log) t)
    (hclock : Chronological SessionAction.now (e :: log)) (hact : e.act = .visit route cookie now) :
    (sessionLTS s).Run log e.pre ∧ latest SessionAction.now log ≤ now ∧
      e.out = (getSession s e.pre cookie now).1.answer s route := by
  obtain ⟨t₀, hinit, hpath⟩ := h
  obtain ⟨hlog, hs, -⟩ := LTS.path_cons_iff.1 hpath
  have hnow : e.act.now = now := congrArg SessionAction.now hact
  exact ⟨⟨t₀, hinit, hlog⟩, hnow ▸ hclock.latest_le, out_eq_answer hs hact⟩

lemma served_of_comes (h : (sessionLTS s).Run (e :: log) t)
    (hclock : Chronological SessionAction.now (e :: log)) (hact : e.act = .visit route cookie now)
    (hcomes : Comes s log cookie now token) : e.out = route.served s token := by
  obtain ⟨hrun, hle, hout⟩ := before_visit h hclock hact
  obtain ⟨session, hget⟩ := (comes_iff_found hrun hclock.tail hle).1 hcomes
  have hinv := sessionInv_of_run hrun hclock.tail
  obtain ⟨-, hsession, -⟩ := (getSession_eq_session_iff hinv.drawn).1 hget
  obtain ⟨began, -, rfl⟩ := hinv.began token session hsession
  rw [hout, hget]
  rfl

lemma refused_of_not_comes (h : (sessionLTS s).Run (e :: log) t)
    (hclock : Chronological SessionAction.now (e :: log)) (hact : e.act = .visit route cookie now)
    (hcookie : parseCookie cookie SESSION_COOKIE ≠ none)
    (hnobody : ∀ token, ¬ Comes s log cookie now token) : e.out = route.refused := by
  obtain ⟨hrun, hle, hout⟩ := before_visit h hclock hact
  cases hget : (getSession s e.pre cookie now).1 with
  | thrown => exact absurd (getSession_thrown_iff.1 hget) hcookie
  | nobody => rw [hout, hget]; rfl
  | session token session =>
    exact absurd ((comes_iff_found hrun hclock.tail hle).2 ⟨session, hget⟩) (hnobody token)

end Answers

/-- **Who is let in.** In every run whose clock does not go back, a request is answered as one with
a session exactly when its cookie is the one for a token that a login has drawn not too long ago
and that nobody has used to log out since; any other request is refused, unless its cookie cannot
be decoded and the handler throws. -/
theorem out_visit {log : List SessionEntry} {e : SessionEntry} {t : Sessions}
    (h : (sessionLTS s).Run (e :: log) t) (hclock : Chronological SessionAction.now (e :: log))
    {route : Route} {cookie : Option String} {now : ℕ} (hact : e.act = .visit route cookie now) :
    (parseCookie cookie SESSION_COOKIE = none → e.out = .thrown) ∧
    (∀ token, Comes s log cookie now token → e.out = route.served s token) ∧
    (parseCookie cookie SESSION_COOKIE ≠ none → (∀ token, ¬ Comes s log cookie now token) →
      e.out = route.refused) :=
  ⟨fun hnone => by
      rw [(before_visit h hclock hact).2.2, getSession_thrown_iff.2 hnone]
      rfl,
    fun _ => served_of_comes h hclock hact, refused_of_not_comes h hclock hact⟩

lemma steps_visit (t : Sessions) (route : Route) (cookie : Option String) (now : ℕ) :
    (sessionLTS s).Steps ⟨t, .visit route cookie now, (visit s t route cookie now).1,
      (visit s t route cookie now).2⟩ :=
  rfl

/-- The settings of a dashboard, with a hash that is always the same. -/
def plainSettings : SessionSettings :=
  { trustProxy := true, adminUsername := "admin", SESSION_TTL_SEC := some 28800,
    hmac := fun _ => Vector.replicate 32 0 }

/-- A login of the administrator. -/
def adminLogin : List SessionAction :=
  [.login { body := some (.obj [("username", .str "admin"), ("password", .str "secret")]) } 0,
    .compared 0 true (Vector.replicate 32 0) 1]

/-- A login and a request with its cookie. -/
theorem out_visit_login :
    ∃ log e t cookie, (sessionLTS plainSettings).Run (e :: log) t ∧
      e.act = .visit (.guarded "/api/status") cookie 2 ∧
      e.out = .admitted (hex (Vector.replicate 32 0)) "admin" := by
  obtain ⟨log, t, hpath, hclock, hlatest, hentitled⟩ :
      ∃ log t, (sessionLTS plainSettings).Path {} log t ∧
        Chronological SessionAction.now log ∧ latest SessionAction.now log ≤ 2 ∧
        Entitled plainSettings log (hex (Vector.replicate 32 0)) 2 :=
    LTS.exists_path_of_exec adminLogin (by decide +kernel)
  let cookie := some (String.ofList (SESSION_COOKIE ++ '=' ::
    setSessionCookie plainSettings (hex (Vector.replicate 32 0))))
  have hrun := LTS.Run.snoc ⟨{}, rfl, hpath⟩
    (steps_visit (s := plainSettings) t (.guarded "/api/status") cookie 2)
  exact ⟨log, _, _, cookie, hrun, rfl,
    (out_visit hrun (hclock.cons hlatest) rfl).2.1 _ ⟨by decide +kernel, hentitled⟩⟩

/-! ## Browsers -/

/-- A cookie as a browser keeps it. -/
structure Cookie where
  name : List Char
  value : List Char
  /-- Neither a separator nor white space. -/
  name_proper : ∀ c ∈ name, c ≠ '=' ∧ c ≠ ';' ∧ isSpace c = false
  value_proper : ∀ c ∈ value, c ≠ ';' ∧ isSpace c = false

/-- A cookie in a header. -/
def Cookie.text (c : Cookie) : List Char := c.name ++ '=' :: c.value

/-- The cookies after the first one. -/
def moreCookies (cookies : List Cookie) : List Char :=
  cookies.flatMap fun c => ';' :: ' ' :: c.text

/-- The `cookie` header that a browser sends. -/
def cookieHeader : List Cookie → Option String
  | [] => none
  | c :: cookies => some (.ofList (c.text ++ moreCookies cookies))

lemma trimChars_of_spaces_append {pad text : List Char} (hpad : ∀ c ∈ pad, isSpace c = true)
    (h : ∀ c ∈ text, isSpace c = false) : trimChars (pad ++ text) = text := by
  have hdrop : ∀ l : List Char, (∀ c ∈ l, isSpace c = false) → l.dropWhile isSpace = l := by
    intro l hl
    cases l with
    | nil => rfl
    | cons c l => exact List.dropWhile_cons_of_neg (by simp [hl c List.mem_cons_self])
  rw [trimChars, List.dropWhile_append_of_pos hpad, hdrop text h,
    hdrop text.reverse fun c hc => h c (List.mem_reverse.1 hc), List.reverse_reverse]

lemma Cookie.text_proper (c : Cookie) : ∀ x ∈ c.text, x ≠ ';' ∧ isSpace x = false := by
  intro x hx
  rcases List.mem_append.1 hx with hx | hx
  · exact (c.name_proper x hx).2
  · rcases List.mem_cons.1 hx with rfl | hx
    · exact ⟨by decide, by decide⟩
    · exact c.value_proper x hx

lemma keyAndRest_text {pad : List Char} (hpad : ∀ c ∈ pad, isSpace c = true) (c : Cookie) :
    keyAndRest (pad ++ c.text) = (c.name, c.value) := by
  have hname : ∀ x ∈ c.name, (x != '=') = true := fun x hx => by
    simpa using (c.name_proper x hx).1
  unfold keyAndRest
  rw [trimChars_of_spaces_append hpad fun x hx => (c.text_proper x hx).2, Cookie.text]
  dsimp only
  rw [
    List.takeWhile_append_of_pos hname, List.dropWhile_append_of_pos hname,
    List.takeWhile_cons_of_neg (by decide), List.dropWhile_cons_of_neg (by decide),
    List.append_nil]
  rfl

/-- The parts of a header are its cookies. -/
lemma splitOn_cookies {first : List Char} (hfirst : ';' ∉ first) (cookies : List Cookie) :
    (first ++ moreCookies cookies).splitOn ';' = first :: cookies.map fun c => ' ' :: c.text := by
  induction cookies generalizing first with
  | nil =>
    rw [moreCookies, List.flatMap_nil, List.append_nil, List.splitOn_eq_singleton hfirst]
    rfl
  | cons c cookies ih =>
    have hnext : ';' ∉ ' ' :: c.text := by
      rw [List.mem_cons, not_or]
      exact ⟨by decide, fun hmem => (c.text_proper _ hmem).1 rfl⟩
    have hmore : moreCookies (c :: cookies) = ';' :: (' ' :: c.text ++ moreCookies cookies) := rfl
    rw [hmore, List.splitOn_append_cons_self_of_not_mem hfirst, ih hnext]
    rfl

lemma lookup_cookies (cookies : List Cookie) (name : List Char) :
    (cookies.map fun c => (c.name, c.value)).lookup name =
      (cookies.find? (·.name = name)).map Cookie.value := by
  induction cookies with
  | nil => rfl
  | cons c cookies ih =>
    by_cases heq : c.name = name
    · subst heq
      simp
    · rw [List.map_cons, List.lookup_cons, beq_false_of_ne (Ne.symm heq), ih,
        List.find?_cons_of_neg (by simpa using heq)]

/-- The value that the first cookie of a name has come with. -/
lemma parseCookie_cookieHeader {cookies : List Cookie} {name : List Char} {c : Cookie}
    (h : cookies.find? (·.name = name) = some c) :
    parseCookie (cookieHeader cookies) name = (decodeURIComponent c.value).map some := by
  cases cookies with
  | nil => exact absurd h (by simp)
  | cons first cookies =>
    have hne : String.ofList (first.text ++ moreCookies cookies) ≠ "" := by
      intro heq
      have hnil := congrArg String.toList heq
      rw [String.toList_ofList] at hnil
      exact absurd hnil (by simp [Cookie.text])
    have hfirst : ';' ∉ first.text := fun hmem => (first.text_proper _ hmem).1 rfl
    have hparts : ((first.text ++ moreCookies cookies).splitOn ';').map keyAndRest =
        (first :: cookies).map fun c => (c.name, c.value) := by
      rw [splitOn_cookies hfirst, List.map_cons, List.map_map, List.map_cons,
        ← List.nil_append first.text, keyAndRest_text (by simp)]
      have hspace : ∀ c ∈ [' '], isSpace c = true := List.forall_mem_singleton.2 rfl
      exact congrArg _ (List.map_congr_left fun c _ => keyAndRest_text hspace c)
    have hpresent : present (cookieHeader (first :: cookies)) =
        some (String.ofList (first.text ++ moreCookies cookies)) := by
      rw [present, cookieHeader, Option.filter_some, if_pos (decide_eq_true hne)]
    rw [parseCookie, hpresent]
    dsimp only
    rw [String.toList_ofList, hparts, lookup_cookies, h]
    rfl

/-- What a login has set as its cookie comes back as the token and its signature. -/
lemma parseCookie_of_find {cookies : List Cookie} {token : List Char} {c : Cookie}
    (h : cookies.find? (·.name = SESSION_COOKIE) = some c)
    (hvalue : c.value = setSessionCookie s token) :
    parseCookie (cookieHeader cookies) SESSION_COOKIE = some (some (cookieValue s token)) := by
  rw [parseCookie_cookieHeader h, hvalue, setSessionCookie, decodeURIComponent_encodeURIComponent]
  rfl

lemma length_hex (bytes : Vector UInt8 32) : (hex bytes).length = 64 := by
  simp [hex]

lemma cookieValue_injective {token token' : List Char}
    (h : cookieValue s token = cookieValue s token') : token = token' :=
  (List.append_inj' h (by simp [signToken, length_hex])).1

/-- **A browser stays logged in until it logs out.** After a login, a browser that sends the cookie
along with any others is served as long as its session is not over and its token has not been used
to log out; and once it was used to log out, the browser is refused, unless the token is drawn
again. -/
theorem served_until_logout {newer older : List SessionEntry} {v e : SessionEntry} {t : Sessions}
    (h : (sessionLTS s).Run (v :: (newer ++ e :: older)) t)
    (hclock : Chronological SessionAction.now (v :: (newer ++ e :: older)))
    {token value : List Char} (hlogin : e.out = .loggedIn token value)
    {cookies : List Cookie} {c : Cookie} (hc : cookies.find? (·.name = SESSION_COOKIE) = some c)
    (hvalue : c.value = value) {route : Route} {now : ℕ}
    (hact : v.act = .visit route (cookieHeader cookies) now) :
    ((∀ e' ∈ newer, e'.out ≠ .loggedOut token) →
      (createSession s e.act.now).expired now = false → v.out = route.served s token) ∧
    ((∃ later l mid, newer = later ++ l :: mid ∧ l.out = .loggedOut token ∧
        ∀ e' ∈ later, ∀ value', e'.out ≠ .loggedIn token value') →
      v.out = route.refused) := by
  rw [← List.cons_append] at h
  obtain ⟨-, hs, -⟩ := h.at_entry
  rw [List.cons_append] at h
  have hset : value = setSessionCookie s token := by
    rcases sessionStep_of_steps hs with ⟨drawn, hout, -⟩ | ⟨token', hout, -⟩ | ⟨hin, -, -⟩
    · obtain ⟨rfl, rfl⟩ := SessionOut.loggedIn.inj (hlogin.symm.trans hout)
      rfl
    · exact absurd (hlogin.symm.trans hout) (by simp)
    · exact absurd hlogin (hin token value)
  subst hset
  have hparse := parseCookie_of_find hc hvalue
  refine ⟨fun hkeeps hlive => served_of_comes h hclock hact ⟨hparse, ?_⟩, ?_⟩
  · -- the login has drawn the token, and nothing after it has used it to log out
    exact since_append_cons hkeeps ⟨hlogin, hlive⟩
  · rintro ⟨later, l, mid, rfl, hlogout, hlater⟩
    refine refused_of_not_comes h hclock hact (by simp [hparse]) fun token' hcomes => ?_
    obtain rfl := cookieValue_injective
      (Option.some.inj (Option.some.inj (hparse.symm.trans hcomes.1)))
    have hsince := hcomes.2
    rw [List.append_assoc, List.cons_append] at hsince
    exact not_since_append_cons (fun e' he' hd => hlater e' he' _ hd.1)
      (fun hd => absurd (hlogout.symm.trans hd.1) (by simp)) (fun hk => hk hlogout) hsince

lemma forall_mem_of_all {p : Char → Prop} [DecidablePred p] {text : List Char}
    (h : text.all (fun c => decide (p c)) = true) : ∀ c ∈ text, p c :=
  fun c hc => of_decide_eq_true (List.all_eq_true.1 h c hc)

/-- The cookie that a login has set. -/
def loginCookie : Cookie :=
  ⟨SESSION_COOKIE, setSessionCookie plainSettings (hex (Vector.replicate 32 0)),
    forall_mem_of_all (by decide +kernel), forall_mem_of_all (by decide +kernel)⟩

/-- The cookies of a browser that has logged in, with one of another page. -/
def browserCookies : List Cookie :=
  [⟨"theme".toList, "dark".toList, forall_mem_of_all (by decide),
    forall_mem_of_all (by decide)⟩, loginCookie]

lemma browserCookies_find : browserCookies.find? (·.name = SESSION_COOKIE) = some loginCookie := by
  rw [browserCookies, List.find?_cons_of_neg (by decide), List.find?_cons_of_pos (by decide)]

/-- A login and the next request of the browser. -/
theorem served_until_logout_login :
    ∃ log v t, (sessionLTS plainSettings).Run (v :: log) t ∧
      v.act = .visit (.guarded "/dashboard") (cookieHeader browserCookies) 2 ∧
      v.out = .admitted (hex (Vector.replicate 32 0)) "admin" := by
  obtain ⟨log, t, hpath, hclock, hlatest, hhead⟩ :
      ∃ log t, (sessionLTS plainSettings).Path {} log t ∧
        Chronological SessionAction.now log ∧ latest SessionAction.now log ≤ 2 ∧
        log.head?.map (fun e => (e.out, e.act.now)) = some (.loggedIn (hex (Vector.replicate 32 0))
          (setSessionCookie plainSettings (hex (Vector.replicate 32 0))), 1) :=
    LTS.exists_path_of_exec adminLogin (by decide +kernel)
  obtain ⟨e, he, hlogin⟩ := Option.map_eq_some_iff.1 hhead
  obtain ⟨older, rfl⟩ := List.head?_eq_some_iff.1 he
  obtain ⟨hout, hnow⟩ := Prod.mk.inj hlogin
  have hrun := LTS.Run.snoc ⟨{}, rfl, hpath⟩
    (steps_visit (s := plainSettings) t (.guarded "/dashboard") (cookieHeader browserCookies) 2)
  rw [← List.nil_append (e :: older)] at hrun hclock hlatest
  exact ⟨_, _, _, hrun, rfl,
    (served_until_logout hrun (hclock.cons hlatest) hout browserCookies_find rfl rfl).1
      (by simp) (by rw [hnow]; decide)⟩

end Dashboard
end Sf4e
