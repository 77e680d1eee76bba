/-
# Keeping the relays of a room up

`ensureRelaySession` and `ensureGgpoRelaySession` of `server.js`, cut at their awaits.  Each of
them looks at the health of a relay and, if that is bad, starts the relay and looks again; the
check and the restart are two requests.  The connect-plan, heartbeat and health handlers call
them, and the health handler and the room lookup ask for the health once more.
-/
import Sf4e.Broker.Creation

namespace Sf4e
namespace Broker

open Wire

/-- What `ensureRelaySession` returns. -/
structure EnsureResult where
  ok : Bool
  relay : Health
  /-- `ggpoRelay`; `none` for a room without a GGPO port. -/
  ggpoRelay : Option Health
  restarted : Bool
  ggpoRestarted : Bool
  message : Value

/-- The await that `ensureRelaySession` is suspended at, with what it has found out. -/
inductive EnsureStage
  /-- The health of the session relay. -/
  | health
  /-- The restart of the session relay, which was not healthy. -/
  | start (health : Health)
  /-- The health of the session relay after its restart. -/
  | after
  /-- The health of the GGPO relay. -/
  | ggpoHealth (relay : Health) (restarted : Bool)
  /-- The restart of the GGPO relay. -/
  | ggpoStart (relay : Health) (restarted : Bool) (health : Health)
  /-- The health of the GGPO relay after its restart. -/
  | ggpoAfter (relay : Health) (restarted : Bool)
  /-- The second restart of the GGPO relay. -/
  | ggpoRetry (relay : Health) (restarted : Bool) (after : Health)
  /-- The health of the GGPO relay after its second restart. -/
  | ggpoAfterRetry (relay : Health) (restarted : Bool) (after : Health)
deriving DecidableEq

/-- The request whose answer is awaited. -/
def EnsureStage.awaited (room : RoomRecord) : EnsureStage → ManagerCall
  | .health | .after => .sessionHealth room.port
  | .start _ => .startSession room.port room.sidecarHash
  | .ggpoHealth _ _ | .ggpoAfter _ _ | .ggpoAfterRetry _ _ _ => .ggpoHealth room.ggpoPort
  | .ggpoStart _ _ _ | .ggpoRetry _ _ _ => .startGgpo room.port room.ggpoPort room.roomToken.1

/-- Where `ensureRelaySession` goes from an await. -/
inductive EnsureStep
  | await (stage : EnsureStage)
  | done (result : EnsureResult)
  /-- A request is rejected. -/
  | thrown

/-- The session relay is up: the GGPO relay is next, if the room has one. -/
def ensureGgpoRelaySession (room : RoomRecord) (relay : Health) (restarted : Bool) : EnsureStep :=
  if room.ggpoPort = 0 then .done ⟨true, relay, none, restarted, false, .str ""⟩
  else .await (.ggpoHealth relay restarted)

/-- The session relay is not up. -/
def relayFailed (relay : Health) (message : Value) : EnsureStep :=
  .done ⟨false, relay, none, false, false, message⟩

/-- The GGPO relay is up. -/
def ggpoUp (relay : Health) (restarted : Bool) (ggpo : Health) (ggpoRestarted : Bool) :
    EnsureStep :=
  .done ⟨true, relay, some ggpo, restarted, ggpoRestarted, .str ""⟩

/-- The GGPO relay is not up. -/
def ggpoFailed (relay : Health) (restarted : Bool) (ggpo : Health) (message : Value) :
    EnsureStep :=
  .done ⟨false, relay, some ggpo, restarted, false, message⟩

/-- The text for a GGPO relay that could not be brought up. -/
def ggpoStartFailed : Value := .str "GGPO UDP relay failed to start. Create a new room."

/-- `ensureRelaySession` from an await on, with the answer. -/
def ensureRelaySession (room : RoomRecord) (reply : HttpReply) : EnsureStage → EnsureStep
  | .health =>
    if (getHealth reply).good then ensureGgpoRelaySession room (getHealth reply) false
    else if room.sidecarHash = [] then
      relayFailed (getHealth reply) (.str "Relay session is not running. Create a new room.")
    else .await (.start (getHealth reply))
  | .start health =>
    match startRelaySession (some reply) with
    | .started => .await .after
    | .failed message => relayFailed health message
    | .thrown => .thrown
  | .after =>
    if (getHealth reply).good then ensureGgpoRelaySession room (getHealth reply) true
    else
      relayFailed (getHealth reply) (.str "Relay session failed to start. Create a new room.")
  | .ggpoHealth relay restarted =>
    if (getHealth reply).good then ggpoUp relay restarted (getHealth reply) false
    else .await (.ggpoStart relay restarted (getHealth reply))
  | .ggpoStart relay restarted health =>
    match startGgpoRelaySession (some reply) with
    | .started => .await (.ggpoAfter relay restarted)
    | .failed message => ggpoFailed relay restarted health message
    | .thrown => .thrown
  | .ggpoAfter relay restarted =>
    if (getHealth reply).good then ggpoUp relay restarted (getHealth reply) true
    else .await (.ggpoRetry relay restarted (getHealth reply))
  | .ggpoRetry relay restarted after =>
    match startGgpoRelaySession (some reply) with
    | .started => .await (.ggpoAfterRetry relay restarted after)
    | .failed _ => ggpoFailed relay restarted after ggpoStartFailed
    | .thrown => .thrown
  | .ggpoAfterRetry relay restarted after =>
    if (getHealth reply).good then ggpoUp relay restarted (getHealth reply) true
    else ggpoFailed relay restarted after ggpoStartFailed

/-! ## Handlers -/

/-- The handlers that ask for the relays of a room. -/
inductive Purpose
  /-- `GET connect-plan` and `POST heartbeat`. -/
  | ensure
  /-- `GET health`, which asks for the GGPO relay once more. -/
  | health
  /-- `GET` of the room itself, which asks for both relays and starts none. -/
  | lookup
deriving DecidableEq

/-- The await that a handler is suspended at. -/
inductive VisitStage
  | ensuring (stage : EnsureStage)
  /-- `getRelaySessionHealth` of a lookup. -/
  | lookSession
  /-- `getGgpoRelayHealth` at the end. -/
  | lookGgpo
deriving DecidableEq

/-- The request whose answer is awaited. -/
def VisitStage.awaited (room : RoomRecord) : VisitStage → ManagerCall
  | .ensuring stage => stage.awaited room
  | .lookSession => .sessionHealth room.port
  | .lookGgpo => .ggpoHealth room.ggpoPort

/-- The first await of a handler. -/
def Purpose.first : Purpose → VisitStage
  | .ensure | .health => .ensuring .health
  | .lookup => .lookSession

/-- The last request of a handler, if the room has a GGPO port. -/
def lastLook (room : RoomRecord) : Option VisitStage :=
  if room.ggpoPort = 0 then none else some .lookGgpo

/-- A handler from an await on: its next await, or `none` when it is through. -/
def VisitStage.next (room : RoomRecord) (purpose : Purpose) (reply : HttpReply) :
    VisitStage → Option VisitStage
  | .ensuring stage =>
    match ensureRelaySession room reply stage with
    | .await stage => some (.ensuring stage)
    | .done _ => if purpose = .health then lastLook room else none
    | .thrown => none
  | .lookSession => lastLook room
  | .lookGgpo => none

end Broker
end Sf4e
