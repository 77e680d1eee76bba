/-
# The requests of the two services

A request as `http.createServer` hands it to a handler: its method, its target, and who has sent
it; the body comes later.  The target is parsed by `URL`, which is a parameter: it may throw, and
of its result a handler reads the path and the query's `role`.

The broker's `route` tells which branch of its handler a request takes, and with it which room
code is in the path.  The regular expressions of the source ignore the case of ASCII letters; the
comparisons of whole paths do not.
-/
import Mathlib.Logic.Function.Basic
import Sf4e.Broker.RelayCalls

namespace Sf4e
namespace Broker

open Wire

/-! ## Requests -/

/-- What the handlers read of a parsed target. -/
structure Url where
  pathname : String
  /-- `searchParams.get("role")`. -/
  role : Option String
deriving DecidableEq

/-- `new URL`, with the service's own address as the base; `none` when it throws. -/
abbrev NewUrl := String → Option Url

/-- A request, before its body is read. -/
structure HttpRequest where
  method : String
  /-- `req.url`. -/
  target : String
  /-- `req.socket.remoteAddress`. -/
  remoteAddress : Option String := none
  /-- The `x-forwarded-for` header, if there is one. -/
  forwardedFor : Option String := none
deriving DecidableEq

/-- An answer: its status, and the `error` member of its body. -/
structure Answer where
  status : ℕ
  error : Option String := none
deriving DecidableEq

/-- How the handler of a request ends. -/
inductive Ending
  | answered (a : Answer)
  /-- It throws, and nothing is sent. -/
  | thrown
deriving DecidableEq

/-- The handler has answered. -/
def Ending.Answered (ending : Ending) : Prop := ∃ a, ending = .answered a

/-! ## Addresses -/

/-- `normalizeIp`. -/
def normalizeIp : Option String → String
  | none => "unknown"
  | some ip =>
    if ip = "" then "unknown"
    else if "::ffff:".toList.isPrefixOf ip.toList then .ofList (ip.toList.drop 7)
    else ip

/-- `isTrustedProxy`, of an address that is normalised. -/
def isTrustedProxy (ip : String) : Bool := normalizeIp (some ip) == "127.0.0.1" || ip == "::1"

/-- `clientIp`. -/
def clientIp (trustProxy : Bool) (req : HttpRequest) : String :=
  let socketIp := normalizeIp req.remoteAddress
  match req.forwardedFor with
  | some forwarded =>
    if trustProxy && isTrustedProxy socketIp && trim forwarded != "" then
      normalizeIp (some (trim (.ofList (forwarded.toList.takeWhile (· != ',')))))
    else socketIp
  | none => socketIp

/-! ## Rate limits -/

/-- `rateBuckets`; a key without a bucket has an empty one. -/
abbrev RateBuckets := String → List ℕ

/-- `allowRate`. -/
def allowRate (buckets : RateBuckets) (key : String) (limit windowMs now : ℕ) :
    Bool × RateBuckets :=
  let recent := (buckets key).filter fun (ts : ℕ) => (now : ℤ) - ts < windowMs
  if limit ≤ recent.length then (false, Function.update buckets key recent)
  else (true, Function.update buckets key (recent ++ [now]))

/-- The periodic cleanup. -/
def cleanRates (buckets : RateBuckets) (now : ℕ) : RateBuckets :=
  fun key => (buckets key).filter fun (ts : ℕ) => (now : ℤ) - ts < 300000

/-! ## Routes -/

/-- What a request wants of a room. -/
inductive RoomVerb
  | connectPlan
  | registerEndpoint
  | events
  | health
  | lookup
  | delete
  | heartbeat
deriving DecidableEq

/-- The branches of the broker's handler. -/
inductive Route
  | health
  | matches
  | matchById (matchId : String)
  | listRooms
  | createRoom
  | room (verb : RoomVerb) (code : String)
  | queueJoin
  | unknown
deriving DecidableEq

/-- ASCII letters in lower case, as an `i` flag compares them. -/
def lower (s : List Char) : List Char := s.map Char.toLower

/-- The rest of a path after a part that is compared without regard to case. -/
def stripPart (part : String) (path : List Char) : Option (List Char) :=
  if lower (path.take part.length) = part.toList then some (path.drop part.length) else none

/-- The text is `SF4-[A-Z0-9]+`. -/
def isCodePart (s : List Char) : Bool :=
  match stripPart "sf4-" s with
  | some token => token != [] && token.all Char.isAlphanum
  | none => false

/-- `normalizeCode`, of a text that is there. -/
def normalizeCode (raw : String) : String :=
  let s := (trimChars raw.toList).map Char.toUpper
  if "SF4-".toList.isPrefixOf s then .ofList s else .ofList ("SF4-".toList ++ s)

/-- The code in a path below `/v1/rooms/` and the part after it. -/
def roomPath (path : List Char) : Option (String × List Char) :=
  (stripPart "/v1/rooms/" path).bind fun rest =>
    let code := rest.takeWhile (· != '/')
    if isCodePart code then some (normalizeCode (.ofList code), lower (rest.dropWhile (· != '/')))
    else none

/-- The text is `[a-f0-9]{32}`. -/
def isMatchIdPart (s : List Char) : Bool :=
  s.length == 32 && s.all fun c => c.isDigit || ('a' ≤ c.toLower && c.toLower ≤ 'f')

/-- What a method wants of a room, by the part of the path after the code. -/
def roomVerb (method : String) (rest : List Char) : Option RoomVerb :=
  if method = "GET" then
    if rest = "/connect-plan".toList then some .connectPlan
    else if rest = "/health".toList then some .health
    else if rest = [] then some .lookup
    else none
  else if method = "POST" then
    if rest = "/register-endpoint".toList then some .registerEndpoint
    else if rest = "/events".toList then some .events
    else if rest = "/heartbeat".toList then some .heartbeat
    else none
  else if method = "DELETE" then if rest = [] then some .delete else none
  else none

/-- The branch for a path that is none of the fixed ones. -/
def routeBelow (method pathname : String) : Route :=
  match roomPath pathname.toList with
  | some (code, rest) =>
    match roomVerb method rest with
    | some verb => .room verb code
    | none => .unknown
  | none =>
    match stripPart "/v1/matches/" pathname.toList with
    | some id =>
      if method = "GET" ∧ isMatchIdPart id then .matchById (.ofList (lower id)) else .unknown
    | none => .unknown

/-- The branch of the broker's handler that a request takes. -/
def route (method pathname : String) : Route :=
  if pathname = "/v1/health" then if method = "GET" then .health else .unknown
  else if pathname = "/v1/matches" then if method = "GET" then .matches else .unknown
  else if pathname = "/v1/rooms" then
    if method = "GET" then .listRooms else if method = "POST" then .createRoom else .unknown
  else if pathname = "/v1/queue/join" then if method = "POST" then .queueJoin else .unknown
  else routeBelow method pathname

example : route "POST" "/V1/Rooms/sf4-AB12/Events" = .room .events "SF4-AB12" := by decide +kernel

/-! ## Conversions that throw -/

/-- `parseInt(x, 10)`; the outer `none` when the conversion throws, the inner one for `NaN`. -/
def parseIntOf : Option Value → Option (Option ℤ)
  | none => some none
  | some v => v.toText.map parseInt

/-- A conversion of the member to a text throws: it is an object with a `toString` of its own, or
an array with such an object inside. -/
def Unprintable (v : Option Value) : Prop := ∃ w, v = some w ∧ w.toText = none

instance (v : Option Value) : Decidable (Unprintable v) :=
  decidable_of_iff (v.any (fun w => w.toText.isNone) = true) (by
    cases v <;> simp [Unprintable])

section

variable {v : Option Value}

/-- `String(x || "...")` throws when `x` cannot be converted: what is false in a condition can. -/
lemma toText_orElse_eq_none_iff (default : String) :
    (Value.orElse v (.str default)).toText = none ↔ Unprintable v := by
  cases v with
  | none => simp [Value.orElse, Unprintable, Value.toText]
  | some w =>
    have hfalsy : w.truthy = false → w.toText ≠ none := by
      cases w with
      | null | bool | num | str => simp [Value.toText]
      | arr | obj => simp [Value.truthy]
    simp only [Value.orElse, Unprintable, Option.some.injEq, exists_eq_left']
    split
    · rfl
    · rename_i hno
      exact iff_of_false (by simp [Value.toText]) (hfalsy (by simpa using hno))

lemma textOrEmpty_eq_none_iff : Value.textOrEmpty v = none ↔ Unprintable v :=
  toText_orElse_eq_none_iff ""

lemma parseIntOf_eq_none_iff : parseIntOf v = none ↔ Unprintable v := by
  cases v <;> simp [parseIntOf, Unprintable]

end

end Broker
end Sf4e
