/-
# The relay manager

`relay-manager.js`: the relay processes, the two maps `sessions` and `ggpoSessions` that track
them by port, and the handlers of the requests.  A handler is cut at its awaits: `Relays.accept`
runs up to the first one and `Relays.resume` from one to the next.  Requests come in after their
bodies are read, processes exit and begin or cease to listen at any time, and a spawn error is an
exit like any other, since both listeners do the same.

The two kinds of relay share the maps' code; where the handlers differ, so do the definitions.
-/
import Sf4e.Broker.RelayCalls
import Sf4e.Trace.LTS

namespace Sf4e
namespace RelayManager

open Wire Trace Broker
open Relay (isHexToken)

/-! ## Processes -/

/-- The two relay binaries, each with a map of its own. -/
inductive Kind
  | session
  | ggpo
deriving DecidableEq

/-- A relay process, from its spawn on. -/
structure Proc where
  kind : Kind
  port : ℕ
  /-- The `--sidecar-hash` or the `--room-token`. -/
  secret : Text
  /-- It has exited, or could not be spawned, and the event is out. -/
  exited : Bool
  /-- `terminateProcess` was called on it. -/
  told : Bool
  /-- It is bound to its port and answers. -/
  listening : Bool
  exited_eq_false : listening = true → exited = false
deriving DecidableEq

/-- A process that has just been spawned. -/
def Proc.new (kind : Kind) (port : ℕ) (secret : Text) : Proc :=
  ⟨kind, port, secret, false, false, false, by simp⟩

/-- The process after its exit. -/
def Proc.exit (p : Proc) : Proc :=
  { p with exited := true, listening := false, exited_eq_false := by simp }

/-- The process begins or ceases to listen; one that has exited does not. -/
def Proc.listen (p : Proc) (on : Bool) : Proc :=
  { p with listening := on && !p.exited, exited_eq_false := by simp }

/-- The process is there and may stay. -/
def Proc.Running (p : Proc) : Prop := p.exited = false ∧ p.told = false

instance (p : Proc) : Decidable p.Running := inferInstanceAs (Decidable (_ ∧ _))

/-- An entry of one of the maps. -/
structure Tracked where
  pid : ℕ
  /-- `sidecarHash` or `roomToken`. -/
  secret : Text
  /-- `sessionPort` of a GGPO relay; `none` for `NaN`. -/
  sessionPort : Option ℤ
deriving DecidableEq

/-- The processes, by the order of their spawns, and the maps. -/
structure Relays where
  procs : List Proc
  /-- `sessions` and `ggpoSessions`. -/
  tracked : Kind → ℕ → Option Tracked

namespace Relays

variable (r : Relays)

/-- Change the entry of a port. -/
def setTracked (kind : Kind) (port : ℕ) (entry : Option Tracked) : Relays :=
  { r with tracked := fun k q => if k = kind ∧ q = port then entry else r.tracked k q }

/-- `terminateProcess`. -/
def terminate (pid : ℕ) : Relays :=
  { r with procs := r.procs.modify pid fun p => { p with told := true } }

/-- `stopSession` and `stopGgpoSession`; also what `stopGgpoSessionAndWait` does at once. -/
def stop (kind : Kind) (port : ℕ) : Relays :=
  match r.tracked kind port with
  | none => r
  | some entry => (r.terminate entry.pid).setTracked kind port none

/-- `spawn`, with the process put into the map. -/
def spawn (kind : Kind) (port : ℕ) (secret : Text) (sessionPort : Option ℤ) : Relays :=
  setTracked { r with procs := r.procs ++ [.new kind port secret] } kind port
    (some ⟨r.procs.length, secret, sessionPort⟩)

/-- The process has exited. -/
def hasExited (pid : ℕ) : Bool := (r.procs[pid]?).all Proc.exited

/-- The listeners of `exit` and `error`. -/
def exit (pid : ℕ) : Relays :=
  { procs := r.procs.modify pid Proc.exit,
    tracked := fun k q => (r.tracked k q).filter fun entry => entry.pid ≠ pid }

/-- A relay of the kind answers on the port. -/
def answers (kind : Kind) (port : ℕ) : Bool :=
  r.procs.any fun p => p.kind = kind ∧ p.port = port ∧ p.listening

/-- What the probe of a port can come to.  `ggpoHealthProbe` waits for an answer; `udpProbe` only
sends and may succeed without anybody on the port. -/
def Probes (kind : Kind) (port : ℕ) (answer : Bool) : Prop :=
  (r.answers kind port = true → answer = true) ∧
    (kind = .ggpo → answer = true → r.answers kind port = true)

instance (kind : Kind) (port : ℕ) (answer : Bool) : Decidable (r.Probes kind port answer) :=
  inferInstanceAs (Decidable (_ ∧ _))

/-- A process begins or ceases to listen.  The port has to be free. -/
def listen (pid : ℕ) (on : Bool) : Option Relays :=
  match r.procs[pid]? with
  | none => none
  | some p =>
    if on = true ∧ (p.exited = true ∨ r.answers .session p.port ∨ r.answers .ggpo p.port) then none
    else some { r with procs := r.procs.modify pid fun p => p.listen on }

end Relays

/-! ## Requests and answers -/

/-- A request, with its numbers parsed; `none` for `NaN`. -/
inductive Request
  /-- `POST /v1/sessions`. -/
  | postSession (port : Option ℤ) (sidecarHash : Text)
  /-- `POST /v1/ggpo-sessions`. -/
  | postGgpo (ggpoPort sessionPort : Option ℤ) (roomToken : Text)
  /-- `DELETE` of either kind. -/
  | delete (kind : Kind) (port : ℕ)
  /-- `GET .../health` of either kind. -/
  | health (kind : Kind) (port : ℕ)
deriving DecidableEq

/-- The request that the manager makes of a call of the broker. -/
def Request.ofCall : ManagerCall → Request
  | .startSession port sidecarHash => .postSession (some port) sidecarHash
  | .startGgpo sessionPort ggpoPort roomToken =>
    .postGgpo (some ggpoPort) (some sessionPort) roomToken
  | .stopSession port => .delete .session port
  | .stopGgpo port => .delete .ggpo port
  | .sessionHealth port => .health .session port
  | .ggpoHealth port => .health .ggpo port

/-- An answer. -/
inductive Reply
  /-- `400`. -/
  | badRequest (error message : String)
  /-- `201` for a session relay. -/
  | sessionStarted (port : ℕ) (sidecarHash : Text)
  /-- `201` for a GGPO relay, `200` if it was there. -/
  | ggpoStarted (ggpoPort : ℕ) (sessionPort : Option ℤ) (reused : Bool)
  /-- `503 start_failed`. -/
  | startFailed (kind : Kind) (port : ℕ)
  /-- `503 replace_failed`. -/
  | replaceFailed (message : String)
  /-- `200` for a `DELETE`. -/
  | stopped (port : ℕ) (stopped : Bool)
  /-- `503 stop_failed`. -/
  | stopFailed (port : ℕ) (message : String)
  /-- `200` for a health request. -/
  | health (port : ℕ) (running listening : Bool)
deriving DecidableEq

/-- The answer tells of a start that has succeeded. -/
def Reply.isStarted : Reply → Bool
  | .sessionStarted _ _ | .ggpoStarted _ _ _ => true
  | _ => false

namespace Reply

open Value (int)

/-- The failure message of a start. -/
def startFailedMessage (kind : Kind) (port : ℕ) : String :=
  (match kind with
    | .session => "sf4e-session-relay"
    | .ggpo => "sf4e-ggpo-udp-relay") ++ " did not listen on port " ++ toString port

/-- A number or `null`, as `JSON.stringify` writes it. -/
def number? : Option ℤ → Value
  | some n => int n
  | none => .null

/-- The answer on the wire. -/
def http : Reply → HttpReply
  | .badRequest error message => ⟨400, .obj [("error", .str error), ("message", .str message)]⟩
  | .sessionStarted port sidecarHash =>
    ⟨201, .obj [("ok", .bool true), ("port", int port), ("sidecarHash", .str (ofUtf8 sidecarHash))]⟩
  | .ggpoStarted ggpoPort sessionPort reused =>
    ⟨if reused then 200 else 201,
      .obj [("ok", .bool true), ("ggpoPort", int ggpoPort), ("sessionPort", number? sessionPort),
        ("reused", .bool reused)]⟩
  | .startFailed kind port =>
    ⟨503, .obj [("error", .str "start_failed"), ("message", .str (startFailedMessage kind port))]⟩
  | .replaceFailed message =>
    ⟨503, .obj [("error", .str "replace_failed"), ("message", .str message)]⟩
  | .stopped port found =>
    ⟨200, .obj [("ok", .bool true), ("port", int port), ("stopped", .bool found)]⟩
  | .stopFailed port message =>
    ⟨503, .obj [("ok", .bool false), ("port", int port), ("error", .str "stop_failed"),
      ("message", .str message)]⟩
  | .health port running listening =>
    ⟨200, .obj [("ok", .bool (running && listening)), ("port", int port),
      ("running", .bool running), ("listening", .bool listening)]⟩

end Reply

/-! ## Handlers -/

/-- Where `stopGgpoSessionAndWait` was called. -/
inductive StopReason
  /-- `startGgpoSession` finds another relay on the port. -/
  | replace
  /-- A start has failed. -/
  | cleanup
  /-- The relay is deleted. -/
  | delete
deriving DecidableEq

/-- The awaits of `stopGgpoSessionAndWait`. -/
inductive StopWait
  /-- `waitForProcessExit`. -/
  | exit
  /-- A probe, with so many to follow. -/
  | release (left : ℕ)
  /-- The pause after a probe. -/
  | pause (left : ℕ)
deriving DecidableEq

/-- The await that a handler is suspended at. -/
inductive Stage
  /-- `stopGgpoSessionAndWait`, for the process. -/
  | stopping (reason : StopReason) (pid : ℕ) (wait : StopWait)
  /-- The pause after the spawn of a GGPO relay. -/
  | settling (pid : ℕ)
  /-- A probe of a start, with so many to follow. -/
  | probing (pid : ℕ) (reused : Bool) (left : ℕ)
  /-- The pause after a probe. -/
  | pausing (pid : ℕ) (reused : Bool) (left : ℕ)
  /-- The probe of a health request. -/
  | health
deriving DecidableEq

/-- What a start was asked for. -/
structure Wanted where
  secret : Text
  sessionPort : Option ℤ
deriving DecidableEq

/-- A handler at one of its awaits. -/
structure Handler where
  kind : Kind
  port : ℕ
  /-- For the handler of a start. -/
  wanted : Wanted
  stage : Stage
deriving DecidableEq

/-- What a handler comes to: the relays, and the handler at its next await or its answer. -/
abbrev Outcome := Relays × (Handler ⊕ Reply)

/-- The port of a request is `1` to `65535`. -/
def validPort : Option ℤ → Option ℕ
  | some n => if 1 ≤ n ∧ n ≤ 65535 then some n.toNat else none
  | none => none

namespace Relays

variable (r : Relays)

/-- The relay that `startGgpoSession` would start is there. -/
def reusable (entry : Tracked) (sessionPort : Option ℤ) (roomToken : Text) : Bool :=
  sessionPort.isSome && entry.sessionPort == sessionPort && entry.secret == roomToken &&
    !r.hasExited entry.pid

/-- A GGPO relay is spawned and given time to settle. -/
def launchGgpo (port : ℕ) (wanted : Wanted) : Outcome :=
  (r.spawn .ggpo port wanted.secret wanted.sessionPort,
    .inl ⟨.ggpo, port, wanted, .settling r.procs.length⟩)

/-- The handler of a request up to its first await. -/
def accept : Request → Outcome
  | .postSession port sidecarHash =>
    match validPort port with
    | none => (r, .inr (.badRequest "invalid_port" "port required"))
    | some port =>
      if sidecarHash = [] then (r, .inr (.badRequest "invalid_hash" "sidecarHash required"))
      else
        let stopped := r.stop .session port
        (stopped.spawn .session port sidecarHash none,
          .inl ⟨.session, port, ⟨sidecarHash, none⟩, .probing stopped.procs.length false 29⟩)
  | .postGgpo ggpoPort sessionPort roomToken =>
    match validPort ggpoPort with
    | none => (r, .inr (.badRequest "invalid_port" "ggpoPort required"))
    | some port =>
      if isHexToken roomToken then
        let wanted : Wanted := ⟨roomToken, sessionPort⟩
        match r.tracked .ggpo port with
        | none => r.launchGgpo port wanted
        | some entry =>
          if r.reusable entry sessionPort roomToken then
            (r, .inl ⟨.ggpo, port, wanted, .probing entry.pid true 39⟩)
          else (r.stop .ggpo port, .inl ⟨.ggpo, port, wanted, .stopping .replace entry.pid .exit⟩)
      else (r, .inr (.badRequest "invalid_token" "roomToken must be 32 hex chars"))
  | .delete .session port =>
    (r.stop .session port, .inr (.stopped port (r.tracked .session port).isSome))
  | .delete .ggpo port =>
    match r.tracked .ggpo port with
    | none => (r, .inr (.stopped port false))
    | some entry =>
      (r.stop .ggpo port, .inl ⟨.ggpo, port, ⟨[], none⟩, .stopping .delete entry.pid .exit⟩)
  | .health kind port =>
    if (r.tracked kind port).isSome then (r, .inl ⟨kind, port, ⟨[], none⟩, .health⟩)
    else (r, .inr (.health port false false))

/-- The process is still there after the wait. -/
def notExited (port : ℕ) : String := "GGPO relay " ++ toString port ++ " did not exit"

/-- Something still answers on the port. -/
def notReleased (port : ℕ) : String :=
  "GGPO relay UDP port " ++ toString port ++ " did not release"

/-- `stopGgpoSessionAndWait` throws. -/
def stopThrows (h : Handler) (message : String) : StopReason → Outcome
  | .replace => (r, .inr (.replaceFailed message))
  | .cleanup => (r, .inr (.startFailed .ggpo h.port))
  | .delete => (r, .inr (.stopFailed h.port message))

/-- `stopGgpoSessionAndWait` returns. -/
def stopReturns (h : Handler) : StopReason → Outcome
  | .replace => r.launchGgpo h.port h.wanted
  | .cleanup => (r, .inr (.startFailed .ggpo h.port))
  | .delete => (r, .inr (.stopped h.port true))

/-- A start succeeds. -/
def succeed (h : Handler) (reused : Bool) : Outcome :=
  (r, .inr (match h.kind with
    | .session => .sessionStarted h.port h.wanted.secret
    | .ggpo => .ggpoStarted h.port h.wanted.sessionPort reused))

/-- A start gives up and cleans up. -/
def giveUp (h : Handler) : Outcome :=
  match h.kind, r.tracked h.kind h.port with
  | .session, _ => (r.stop .session h.port, .inr (.startFailed .session h.port))
  | .ggpo, none => (r, .inr (.startFailed .ggpo h.port))
  | .ggpo, some entry =>
    (r.stop .ggpo h.port, .inl { h with stage := .stopping .cleanup entry.pid .exit })

/-- The handler is suspended again. -/
def wait (h : Handler) (stage : Stage) : Outcome := (r, .inl { h with stage := stage })

/-- The handler from an await on, with the answer of the probe if it has waited for one. -/
def resume (h : Handler) (answer : Bool) : Outcome :=
  match h.stage with
  | .stopping reason pid .exit =>
    if r.hasExited pid then r.wait h (.stopping reason pid (.release 19))
    else r.stopThrows h (notExited h.port) reason
  | .stopping reason pid (.release left) =>
    if answer then r.wait h (.stopping reason pid (.pause left)) else r.stopReturns h reason
  | .stopping reason _ (.pause 0) => r.stopThrows h (notReleased h.port) reason
  | .stopping reason pid (.pause (left + 1)) => r.wait h (.stopping reason pid (.release left))
  | .settling pid => r.wait h (.probing pid false 39)
  | .probing pid reused left =>
    if answer then r.succeed h reused else r.wait h (.pausing pid reused left)
  | .pausing _ _ 0 => r.giveUp h
  | .pausing pid reused (left + 1) => r.wait h (.probing pid reused left)
  | .health => (r, .inr (.health h.port true answer))

end Relays

/-! ## What a turn of a handler can do -/

/-- The second stage may follow the first without anything being done to a relay. -/
inductive Stage.LeadsTo : Stage → Stage → Prop
  | exited {reason : StopReason} {pid left : ℕ} :
      LeadsTo (.stopping reason pid .exit) (.stopping reason pid (.release left))
  | pause {reason : StopReason} {pid left : ℕ} :
      LeadsTo (.stopping reason pid (.release left)) (.stopping reason pid (.pause left))
  | release {reason : StopReason} {pid left : ℕ} :
      LeadsTo (.stopping reason pid (.pause (left + 1))) (.stopping reason pid (.release left))
  | settled {pid left : ℕ} : LeadsTo (.settling pid) (.probing pid false left)
  | missed {pid left : ℕ} {reused : Bool} :
      LeadsTo (.probing pid reused left) (.pausing pid reused left)
  | again {pid left : ℕ} {reused : Bool} :
      LeadsTo (.pausing pid reused (left + 1)) (.probing pid reused left)

namespace Relays

/-- What the handler of a request does up to its first await. -/
inductive Accepted (r : Relays) : Request → Outcome → Prop
  /-- A session relay is started in the place of the one that is there. -/
  | session {n : Option ℤ} {port : ℕ} {sidecarHash : Text} (hport : validPort n = some port) :
      Accepted r (.postSession n sidecarHash)
        ((r.stop .session port).spawn .session port sidecarHash none,
          .inl ⟨.session, port, ⟨sidecarHash, none⟩,
            .probing (r.stop .session port).procs.length false 29⟩)
  /-- A GGPO relay is started on a port without one. -/
  | launch {n sessionPort : Option ℤ} {port : ℕ} {roomToken : Text}
      (hport : validPort n = some port) (htoken : isHexToken roomToken = true)
      (hnone : r.tracked .ggpo port = none) :
      Accepted r (.postGgpo n sessionPort roomToken) (r.launchGgpo port ⟨roomToken, sessionPort⟩)
  /-- The GGPO relay is there. -/
  | reuse {n sessionPort : Option ℤ} {port : ℕ} {roomToken : Text} {entry : Tracked}
      (hport : validPort n = some port) (htoken : isHexToken roomToken = true)
      (hentry : r.tracked .ggpo port = some entry)
      (hreuse : r.reusable entry sessionPort roomToken = true) :
      Accepted r (.postGgpo n sessionPort roomToken)
        (r, .inl ⟨.ggpo, port, ⟨roomToken, sessionPort⟩, .probing entry.pid true 39⟩)
  /-- Another GGPO relay is there. -/
  | replace {n sessionPort : Option ℤ} {port : ℕ} {roomToken : Text} {entry : Tracked}
      (hport : validPort n = some port) (htoken : isHexToken roomToken = true)
      (hentry : r.tracked .ggpo port = some entry)
      (hreuse : r.reusable entry sessionPort roomToken = false) :
      Accepted r (.postGgpo n sessionPort roomToken)
        (r.stop .ggpo port,
          .inl ⟨.ggpo, port, ⟨roomToken, sessionPort⟩, .stopping .replace entry.pid .exit⟩)
  /-- A session relay is stopped. -/
  | deleteSession {port : ℕ} {found : Bool} :
      Accepted r (.delete .session port) (r.stop .session port, .inr (.stopped port found))
  /-- A GGPO relay is stopped. -/
  | deleteGgpo {port : ℕ} {entry : Tracked} (hentry : r.tracked .ggpo port = some entry) :
      Accepted r (.delete .ggpo port)
        (r.stop .ggpo port, .inl ⟨.ggpo, port, ⟨[], none⟩, .stopping .delete entry.pid .exit⟩)
  /-- A relay is probed. -/
  | health {kind : Kind} {port : ℕ} {entry : Tracked} (hentry : r.tracked kind port = some entry) :
      Accepted r (.health kind port) (r, .inl ⟨kind, port, ⟨[], none⟩, .health⟩)
  /-- There is nothing to do. -/
  | answer {req : Request} {reply : Reply} (hreply : reply.isStarted = false) :
      Accepted r req (r, .inr reply)

lemma accepted (r : Relays) (req : Request) : Accepted r req (r.accept req) := by
  cases req with
  | postSession n sidecarHash =>
    simp only [Relays.accept]
    split
    · exact .answer rfl
    · rename_i port hport
      split
      · exact .answer rfl
      · exact .session hport
  | postGgpo n sessionPort roomToken =>
    simp only [Relays.accept]
    split
    · exact .answer rfl
    · rename_i port hport
      split
      · rename_i htoken
        split
        · rename_i hnone
          exact .launch hport htoken hnone
        · rename_i entry hentry
          cases hreuse : r.reusable entry sessionPort roomToken with
          | true => exact .reuse hport htoken hentry hreuse
          | false => exact .replace hport htoken hentry hreuse
      · exact .answer rfl
  | delete kind port =>
    cases kind with
    | session => exact .deleteSession
    | ggpo =>
      simp only [Relays.accept]
      split
      · exact .answer rfl
      · rename_i entry hentry
        exact .deleteGgpo hentry
  | health kind port =>
    simp only [Relays.accept]
    split
    · rename_i hsome
      obtain ⟨entry, hentry⟩ := Option.isSome_iff_exists.1 hsome
      exact .health hentry
    · exact .answer rfl

/-- What a handler does from an await on. -/
inductive Resumed (r : Relays) (h : Handler) (answer : Bool) : Outcome → Prop
  /-- It waits again. -/
  | wait {stage : Stage} (hstage : h.stage.LeadsTo stage)
      (hexited : ∀ reason pid, h.stage = .stopping reason pid .exit → r.hasExited pid = true)
      (hmissed : ∀ pid reused left, h.stage = .probing pid reused left → answer = false) :
      Resumed r h answer (r, .inl { h with stage := stage })
  /-- The port is free now, and the relay is started. -/
  | launch {pid left : ℕ} (hstage : h.stage = .stopping .replace pid (.release left))
      (hanswer : answer = false) : Resumed r h answer (r.launchGgpo h.port h.wanted)
  /-- The start succeeds. -/
  | succeed {pid left : ℕ} {reused : Bool} (hstage : h.stage = .probing pid reused left)
      (hanswer : answer = true) : Resumed r h answer (r.succeed h reused)
  /-- The start of a session relay has failed. -/
  | giveUpSession {pid : ℕ} {reused : Bool} (hstage : h.stage = .pausing pid reused 0)
      (hkind : h.kind = .session) :
      Resumed r h answer (r.stop .session h.port, .inr (.startFailed .session h.port))
  /-- The start of a GGPO relay has failed. -/
  | giveUpGgpo {pid : ℕ} {reused : Bool} {entry : Tracked}
      (hstage : h.stage = .pausing pid reused 0) (hkind : h.kind = .ggpo)
      (hentry : r.tracked .ggpo h.port = some entry) :
      Resumed r h answer
        (r.stop .ggpo h.port, .inl { h with stage := .stopping .cleanup entry.pid .exit })
  /-- The start of a GGPO relay has failed, and the relay is gone. -/
  | gone {pid : ℕ} {reused : Bool} (hstage : h.stage = .pausing pid reused 0)
      (hkind : h.kind = .ggpo) (hnone : r.tracked .ggpo h.port = none) :
      Resumed r h answer (r, .inr (.startFailed .ggpo h.port))
  /-- A stop is over, with or without success. -/
  | stopped {reason : StopReason} {pid : ℕ} {wait : StopWait} {reply : Reply}
      (hstage : h.stage = .stopping reason pid wait) (hreply : reply.isStarted = false) :
      Resumed r h answer (r, .inr reply)
  /-- The health is known. -/
  | health (hstage : h.stage = .health) :
      Resumed r h answer (r, .inr (.health h.port true answer))

lemma resumed (r : Relays) (h : Handler) (answer : Bool) :
    Resumed r h answer (r.resume h answer) := by
  obtain ⟨kind, port, wanted, stage⟩ := h
  have hthrows (pid : ℕ) (wait : StopWait) (message : String) (reason : StopReason) :
      Resumed r ⟨kind, port, wanted, .stopping reason pid wait⟩ answer
        (r.stopThrows ⟨kind, port, wanted, .stopping reason pid wait⟩ message reason) := by
    cases reason <;> exact .stopped rfl rfl
  cases stage with
  | stopping reason pid wait =>
    cases wait with
    | exit =>
      simp only [Relays.resume]
      split
      · rename_i hexited
        refine .wait .exited ?_ (by simp)
        rintro _ _ ⟨⟩
        exact hexited
      · exact hthrows pid .exit _ reason
    | release left =>
      cases answer with
      | true => exact .wait .pause (by simp) (by simp)
      | false =>
        cases reason with
        | replace => exact .launch rfl rfl
        | cleanup => exact .stopped rfl rfl
        | delete => exact .stopped rfl rfl
    | pause left =>
      cases left with
      | zero => exact hthrows pid (.pause 0) _ reason
      | succ left => exact .wait .release (by simp) (by simp)
  | settling pid => exact .wait .settled (by simp) (by simp)
  | probing pid reused left =>
    cases answer with
    | true => exact .succeed rfl rfl
    | false => exact .wait .missed (by simp) (by simp)
  | pausing pid reused left =>
    cases left with
    | succ left => exact .wait .again (by simp) (by simp)
    | zero =>
      cases kind with
      | session => exact .giveUpSession rfl rfl
      | ggpo =>
        simp only [Relays.resume, Relays.giveUp]
        split
        · rename_i heq
          cases heq
        · rename_i hnone
          exact .gone rfl rfl hnone
        · rename_i entry hentry
          exact .giveUpGgpo rfl rfl hentry
  | health => exact .health rfl

end Relays

/-- The handler waits for a probe of its port. -/
def Handler.probes (h : Handler) : Bool :=
  match h.stage with
  | .stopping _ _ (.release _) | .probing _ _ _ | .health => true
  | _ => false

/-! ## Runs -/

/-- The manager: the relays and the handlers of the requests that have come in. -/
structure Manager where
  relays : Relays
  handlers : ℕ → Option Handler

/-- What happens to the manager. -/
inductive ManagerAction
  /-- A request comes in under a new id. -/
  | request (id : ℕ) (req : Request)
  /-- The await of a handler is over. -/
  | resume (id : ℕ) (answer : Bool)
  /-- A process exits, or it turns out that it could not be spawned. -/
  | exit (pid : ℕ)
  /-- A process begins or ceases to listen. -/
  | listen (pid : ℕ) (on : Bool)
deriving DecidableEq

namespace Manager

variable (m : Manager)

/-- The handler comes to something. -/
def settle (id : ℕ) : Outcome → Option (ℕ × Reply) × Manager
  | (relays, .inl h) => (none, ⟨relays, Function.update m.handlers id (some h)⟩)
  | (relays, .inr reply) => (some (id, reply), ⟨relays, Function.update m.handlers id none⟩)

/-- One step, with the answer that it sends; `none` when it cannot be taken. -/
def next : ManagerAction → Option (Option (ℕ × Reply) × Manager)
  | .request id req =>
    if m.handlers id = none then some (m.settle id (m.relays.accept req)) else none
  | .resume id answer =>
    (m.handlers id).bind fun h =>
      if h.probes = true → m.relays.Probes h.kind h.port answer then
        some (m.settle id (m.relays.resume h answer))
      else none
  | .exit pid =>
    if m.relays.hasExited pid then none else some (none, { m with relays := m.relays.exit pid })
  | .listen pid on => (m.relays.listen pid on).map fun relays => (none, { m with relays := relays })

/-- A manager that has just started. -/
def new : Manager := ⟨⟨[], fun _ _ => none⟩, fun _ => none⟩

end Manager

/-- The runs of a manager. -/
def managerLTS : LTS Manager ManagerAction (Option (ℕ × Reply)) :=
  .ofFun (fun m => m = .new) Manager.next

/-- One step of a manager. -/
abbrev ManagerEntry := Entry Manager ManagerAction (Option (ℕ × Reply))

end RelayManager
end Sf4e
