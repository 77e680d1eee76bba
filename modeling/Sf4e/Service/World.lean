/-
# The broker and the relay manager together

A `World` has the broker's rooms and its handlers, the requests between the two services and the
manager.  A request is on its way until it arrives, in any order, and its answer is delivered at
any later time; the broker's handler that has sent it is suspended till then.

The `lives` are reference data.  Every creation that has got its ports begins a life, on behalf
of which all later requests for the room are made, whichever handler makes them.
-/
import Sf4e.Broker.Ensure
import Sf4e.Broker.Ports
import Sf4e.Manager.Serving

namespace Sf4e
namespace Service

open Wire Trace Broker RelayManager

/-- The settings of a broker that runs its relays on the VPS. -/
structure VpsSettings extends Settings where
  force : forceVpsRelay = true

variable (s : VpsSettings)

/-! ## Handlers and requests -/

/-- A handler at work on a room that exists. -/
structure Visit where
  room : RoomRecord
  purpose : Purpose
  stage : VisitStage
  /-- Since the last answer to this handler the manager has told another one of the room that the
  relay is up; reference data. -/
  overtaken : Bool

/-- What a request is made by. -/
inductive Task
  | creation (c : Creation s.capacity)
  | visit (v : Visit)
  /-- Nobody waits for the answer to a stop. -/
  | stop (request : ManagerCall)

/-- The request. -/
def Task.request {s : VpsSettings} : Task s → ManagerCall
  | .creation c => c.awaited
  | .visit v => v.stage.awaited v.room
  | .stop request => request

/-- The task with the mark of a handler set. -/
def Task.mark {s : VpsSettings} (overtaken : Bool) : Task s → Task s
  | .visit v => .visit { v with overtaken := overtaken }
  | task => task

/-- Where a request is. -/
inductive Status
  /-- It is on its way to the manager. -/
  | sent
  /-- The manager has it. -/
  | arrived
  /-- The answer is on its way back. -/
  | answered (reply : Reply)
  /-- The broker has the answer. -/
  | received
deriving DecidableEq

/-- A request of the broker. -/
structure Call where
  /-- The number of the life that it is made for. -/
  owner : ℕ
  task : Task s
  status : Status

/-- The phase of a room's life. -/
inductive LifePhase
  /-- The creation waits for the answer to the request. -/
  | creating (id : ℕ)
  | opened (room : RoomRecord)
  | ended

/-- A room from its creation to its end; reference data. -/
structure Life where
  ports : PortPair s.capacity
  sidecarHash : Text
  roomToken : Text
  phase : LifePhase

/-- The two services. -/
structure World where
  registry : Registry
  lives : List (Life s)
  /-- All requests, by their ids. -/
  calls : List (Call s)
  manager : Manager
  /-- The requests for which the processes were spawned; reference data. -/
  spawnedFor : List ℕ

/-- What happens in a world. -/
inductive WorldAction
  /-- `createRoomRecord` is called. -/
  | create (args : CreateArgs) (draws : Draws)
  /-- A handler begins its work on a room. -/
  | visit (code : Text) (purpose : Purpose)
  /-- `endRoom`, for a deletion or a room past its time. -/
  | endRoom (code : Text)
  /-- A request arrives at the manager. -/
  | arrive (id : ℕ)
  /-- The manager does something else. -/
  | manage (act : ManagerAction)
  /-- An answer is delivered. -/
  | deliver (id : ℕ) (draws : Draws)

/-- What a request asks for. -/
inductive Verb
  | start
  | stop
  | look
deriving DecidableEq

/-- What the request asks for. -/
def verbOf : ManagerCall → Verb
  | .startSession _ _ | .startGgpo _ _ _ => .start
  | .stopSession _ | .stopGgpo _ => .stop
  | .sessionHealth _ | .ggpoHealth _ => .look

/-- The relay that the request is about. -/
def kindOf : ManagerCall → Kind
  | .startSession _ _ | .stopSession _ | .sessionHealth _ => .session
  | .startGgpo _ _ _ | .stopGgpo _ | .ggpoHealth _ => .ggpo

/-- Its port. -/
def portOf : ManagerCall → ℕ
  | .startSession port _ | .stopSession port | .sessionHealth port => port
  | .startGgpo _ ggpoPort _ | .stopGgpo ggpoPort | .ggpoHealth ggpoPort => ggpoPort

/-- The answer tells that the relay is up. -/
def isUp : Reply → Bool
  | .sessionStarted _ _ | .ggpoStarted _ _ _ => true
  | .health _ running listening => running && listening
  | _ => false

namespace Call

variable {s} (call : Call s)

def request : ManagerCall := call.task.request

def verb : Verb := verbOf call.request

def kind : Kind := kindOf call.request

def port : ℕ := portOf call.request

/-- The call after the manager has told the handler of another one that the relay is up. -/
def overtake (owner : ℕ) (kind : Kind) : Call s :=
  if call.owner = owner ∧ call.kind = kind then { call with task := call.task.mark true } else call

/-- The call after its answer. -/
def answer (reply : Reply) : Call s :=
  { call with task := call.task.mark false, status := .answered reply }

end Call

namespace World

variable {s}

/-- The broker sends requests. -/
def send (w : World s) (owner : ℕ) (tasks : List (Task s)) : World s :=
  { w with calls := w.calls ++ tasks.map fun task => Call.mk owner task .sent }

/-- A request goes on. -/
def setStatus (w : World s) (id : ℕ) (status : Status) : World s :=
  { w with calls := w.calls.modify id fun call => { call with status := status } }

/-- A life goes on. -/
def setPhase (w : World s) (owner : ℕ) (phase : LifePhase) : World s :=
  { w with lives := w.lives.modify owner fun life => { life with phase := phase } }

/-- The number of the life whose room has the code. -/
def ownerOf (w : World s) (code : Text) : ℕ :=
  w.lives.findIdx fun life =>
    match life.phase with
    | .opened room => room.code == code
    | _ => false

/-- The life of a room begins with a request. -/
def beginLife (w : World s) (c : Creation s.capacity) : World s :=
  { w with
    lives := w.lives ++
      [Life.mk c.ports c.args.sidecarHash c.roomToken.1 (.creating w.calls.length)] }

/-- `createRoomRecord` up to its first await. -/
def create (w : World s) (args : CreateArgs) (draws : Draws) : Option (World s) :=
  (w.registry.createRoomRecord s.toSettings args draws).map fun turn =>
    let w' := { w with registry := turn.registry }
    match turn.progress with
    | .awaits c => (w'.beginLife c).send w.lives.length [.creation c]
    | .done _ => w'

/-- A handler begins. -/
def visit (w : World s) (code : Text) (purpose : Purpose) : Option (World s) :=
  (w.registry.find? code).map fun room =>
    w.send (w.ownerOf code) [.visit ⟨room, purpose, purpose.first, false⟩]

/-- `endRoom`. -/
def endRoom (w : World s) (code : Text) : Option (World s) :=
  (w.registry.find? code).map fun room =>
    ({ w with registry := w.registry.delete code }.setPhase (w.ownerOf code) .ended).send
      (w.ownerOf code) ((stopRelaySession room.port room.ggpoPort).map .stop)

/-- The manager answers a request. -/
def answer (w : World s) (id : ℕ) (reply : Reply) : World s :=
  match w.calls[id]? with
  | none => w
  | some call =>
    let told := if isUp reply then w.calls.map (Call.overtake · call.owner call.kind) else w.calls
    { w with calls := told.modify id fun call => call.answer reply }

/-- The manager has taken a step for the request, or for none. -/
def observe (w : World s) (id : Option ℕ) (r : Option (ℕ × Reply) × Manager) : World s :=
  let w' : World s :=
    { w with
      manager := r.2,
      spawnedFor := if w.manager.relays.procs.length < r.2.relays.procs.length then
        w.spawnedFor ++ id.toList else w.spawnedFor }
  match r.1 with
  | some (id, reply) => w'.answer id reply
  | none => w'

/-- A request arrives. -/
def arrive (w : World s) (id : ℕ) : Option (World s) :=
  w.calls[id]?.bind fun call =>
    if call.status = .sent then
      (w.manager.next (.request id (.ofCall call.request))).map fun r =>
        (w.setStatus id .arrived).observe (some id) r
    else none

/-- The request that the manager's step is taken for. -/
def handled? : ManagerAction → Option ℕ
  | .resume id _ => some id
  | _ => none

/-- The manager takes a step of its own. -/
def manage (w : World s) (act : ManagerAction) : Option (World s) :=
  match act with
  | .request _ _ => none
  | act => (w.manager.next act).map fun r => w.observe (handled? act) r

/-- The handler of a creation goes on. -/
def resumeCreation (w : World s) (owner : ℕ) (c : Creation s.capacity) (reply : Reply)
    (draws : Draws) : Option (World s) :=
  (w.registry.resume s.toSettings c (some reply.http) draws).map fun turn =>
    let w' := { w with registry := turn.registry }.send owner (turn.stops.map .stop)
    match turn.progress with
    | .awaits c => (w'.setPhase owner (.creating w'.calls.length)).send owner [.creation c]
    | .done (.created room) => w'.setPhase owner (.opened room)
    | .done _ => w'.setPhase owner .ended

/-- A handler at work on a room goes on. -/
def resumeVisit (w : World s) (owner : ℕ) (v : Visit) (reply : Reply) : World s :=
  match v.stage.next v.room v.purpose reply.http with
  | some stage => w.send owner [.visit { v with stage := stage }]
  | none => w

/-- An answer is delivered. -/
def deliver (w : World s) (id : ℕ) (draws : Draws) : Option (World s) :=
  w.calls[id]?.bind fun call =>
    match call.status with
    | .answered reply =>
      let w' := w.setStatus id .received
      match call.task with
      | .creation c => w'.resumeCreation call.owner c reply draws
      | .visit v => some (w'.resumeVisit call.owner v reply)
      | .stop _ => some w'
    | _ => none

/-- One step; `none` when it cannot be taken. -/
def next (w : World s) : WorldAction → Option (Unit × World s)
  | .create args draws => (w.create args draws).map ((), ·)
  | .visit code purpose => (w.visit code purpose).map ((), ·)
  | .endRoom code => (w.endRoom code).map ((), ·)
  | .arrive id => (w.arrive id).map ((), ·)
  | .manage act => (w.manage act).map ((), ·)
  | .deliver id draws => (w.deliver id draws).map ((), ·)

/-- Two services that have just started. -/
def new : World s := ⟨⟨[], []⟩, [], [], .new, []⟩

end World

/-- The runs of the two services. -/
def worldLTS : LTS (World s) WorldAction Unit := .ofFun (fun w => w = .new) World.next

/-- One step of the two services. -/
abbrev WorldEntry := Entry (World s) WorldAction Unit

end Service
end Sf4e
