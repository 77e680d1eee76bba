/-
# The broker's calls of the relay manager

`relayManagerRequest` and the functions around it, for a broker that runs its relays on the VPS.
An answer has a status and a parsed body, and the members of the body come after the status in
the result, so that a body can bring a status of its own.  A call that gets no answer is
rejected.
-/
import Sf4e.Broker.Plan
import Sf4e.Broker.Value

namespace Sf4e
namespace Broker

open Wire

/-- The bytes of a string. -/
def utf8 (s : String) : Text := s.toUTF8.toList

/-- The string of some bytes that are the UTF-8 form of one. -/
def ofUtf8 (t : Text) : String := (String.fromUTF8? ⟨t.toArray⟩).getD ""

/-- What the broker asks of the relay manager. -/
inductive ManagerCall
  /-- `POST /v1/sessions`. -/
  | startSession (port : ℕ) (sidecarHash : Text)
  /-- `POST /v1/ggpo-sessions`. -/
  | startGgpo (sessionPort ggpoPort : ℕ) (roomToken : Text)
  /-- `DELETE /v1/sessions/PORT`. -/
  | stopSession (port : ℕ)
  /-- `DELETE /v1/ggpo-sessions/PORT`. -/
  | stopGgpo (ggpoPort : ℕ)
  /-- `GET /v1/sessions/PORT/health`. -/
  | sessionHealth (port : ℕ)
  /-- `GET /v1/ggpo-sessions/PORT/health`. -/
  | ggpoHealth (ggpoPort : ℕ)
deriving DecidableEq

/-- An answer, with `{}` for a body that is no JSON. -/
structure HttpReply where
  status : ℕ
  body : Value

namespace HttpReply

/-- A member of what `relayManagerRequest` returns. -/
def get (r : HttpReply) (key : String) : Option Value :=
  match r.body.get key with
  | some v => some v
  | none => if key = "status" then some (.int r.status) else none

/-- The member is there and true in a condition. -/
def holds (r : HttpReply) (key : String) : Bool := (r.get key).any Value.truthy

/-- The member is `true`. -/
def isTrue (r : HttpReply) (key : String) : Bool := (r.get key).any Value.isTrue

/-- `result.status === 201 && result.ok`. -/
def created (r : HttpReply) : Bool :=
  (match r.get "status" with
    | some (.num text) => text == "201"
    | _ => false) && r.holds "ok"

end HttpReply

/-- What a call of `startRelaySession` or `startGgpoRelaySession` comes to. -/
inductive StartResult
  /-- `{ ok: true }`. -/
  | started
  /-- `{ ok: false, message }`. -/
  | failed (message : Value)
  /-- The call is rejected, or its message cannot be put together. -/
  | thrown

/-- `result.message || ...`, where the status goes into the text that stands in. -/
def failureMessage (text : String) (r : HttpReply) : StartResult :=
  match r.get "message" with
  | some v => if v.truthy then .failed v else standIn
  | none => standIn
where
  standIn : StartResult :=
    match (r.get "status").bind Value.toText with
    | some status => .failed (.str (text ++ status))
    | none => .thrown

/-- The two start functions differ in the text of a failure. -/
def startResult (text : String) : Option HttpReply → StartResult
  | none => .thrown
  | some r => if r.holds "skipped" || r.created then .started else failureMessage text r

/-- `startRelaySession`, from the answer on. -/
def startRelaySession : Option HttpReply → StartResult :=
  startResult "Relay manager returned HTTP "

/-- `startGgpoRelaySession`, from the answer on. -/
def startGgpoRelaySession : Option HttpReply → StartResult :=
  startResult "GGPO relay manager returned HTTP "

/-- What `getRelaySessionHealth` and `getGgpoRelayHealth` return. -/
structure Health where
  ok : Bool
  listening : Bool
  running : Bool
deriving DecidableEq

/-- `getRelaySessionHealth` and `getGgpoRelayHealth`, from the answer on. -/
def getHealth (r : HttpReply) : Health :=
  if r.holds "skipped" then ⟨true, true, true⟩
  else ⟨r.isTrue "ok", r.isTrue "listening", r.isTrue "running"⟩

/-- The relay needs no restart. -/
def Health.good (h : Health) : Bool := h.ok && h.listening

/-- `startRelaySession` and `startGgpoRelaySession` succeed on `201` with `ok`. -/
lemma startResult_eq_started_iff {text : String} {r : HttpReply} :
    startResult text (some r) = .started ↔ r.holds "skipped" = true ∨ r.created = true := by
  simp only [startResult]
  constructor
  · intro h
    by_contra hno
    rw [if_neg (by simpa [not_or] using hno)] at h
    unfold failureMessage failureMessage.standIn at h
    split at h
    · split at h
      · exact absurd h (by simp)
      · split at h <;> exact absurd h (by simp)
    · split at h <;> exact absurd h (by simp)
  · intro h
    rw [if_pos (by simpa using h)]

end Broker
end Sf4e
